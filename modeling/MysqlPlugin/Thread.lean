import MysqlPlugin.Natives
import MysqlPlugin.Lib.Machine

set_option autoImplicit false

/-! # The two threads (`Thread.cpp`), and the plugin as one machine

`QueryThread` and `ProcessTick` are written out statement by statement: where a thread stands is a
`WorkerPc` or a `MainPc`, and each statement is one step. Both loops evaluate `my[ handle ]` anew in
every statement, and so does the model: a statement that uses a member of `my[ handle ]` is a `call`
on the slot, which faults when the slot is `NULL` by then. The object whose queue front was copied is
remembered next to the place (`src`), for the properties only; no statement reads it.

A native is one atomic step. The main thread can run natives while it is outside `ProcessTick` and
while a script's callback executes; the worker can run them while the `OnMysqlError` callbacks of its
own call of `Error` execute. `mysql_real_query` in the worker is two steps, its begin and its end. -/

namespace MysqlPlugin

open Prog Natives

/-! ## `QueryThread` -/

/-- Where the worker stands in the body of its loop, with the local copies it holds. -/
inductive WorkerStmt
  /-- `if ( !queryQueue.empty() && !parsing )` and the copy of the front. -/
  | test
  /-- The begin of `mysql_real_query`, and inside it, on the connection it was given. -/
  | submit (q : QueryInfo)
  | executing (q : QueryInfo) (conn : ℕ)
  | logExecuted (q : QueryInfo)
  /-- `if ( my[ handle ]->state == 0 )` and the assignments to the local `threadInfo`. -/
  | branch (q : QueryInfo)
  | setParsing (q : QueryInfo) (t : ThreadInfo)
  | push (q : QueryInfo) (t : ThreadInfo)
  | clearParsing (q : QueryInfo)
  | callError (q : QueryInfo)
  /-- The `OnMysqlError` callbacks execute; when they have returned, as `logResult`. -/
  | inError (q : QueryInfo)
  | logResult (q : QueryInfo)
  /-- `SAFE_DELETE( query )` and `queryQueue.pop()`. -/
  | pop (q : QueryInfo)
  deriving DecidableEq, Repr

/-- Where the worker stands: at the condition of its loop, or in the body. -/
inductive WorkerPc (N : ℕ)
  | scan (handle : ℕ)
  | body (handle : Fin N) (src : ℕ) (stmt : WorkerStmt)
  deriving DecidableEq, Repr

/-- The `threadInfo` the worker fills from a `queryInfo`: only the member of its type is copied. -/
def QueryInfo.toThreadInfo (q : QueryInfo) : ThreadInfo where
  resultId := q.resultId
  extraId := if q.type = .TYPE_ID then q.extraId else none
  extraVars := if q.type = .TYPE_ARRAY then q.extraVars else none
  type := q.type

namespace QueryThread

variable {N : ℕ} (env : Env) (handle : Fin N) (src : ℕ)

/-- One statement of the body; the result is where the worker stands next. -/
def statement : WorkerStmt → Method (WorkerPc N)
  | .test => do
    let this ← get
    emit (.examined .worker this.conn)
    match this.queryQueue with
    | [] => return .scan (handle + 1)
    | q :: _ =>
      if this.parsing then
        return .scan (handle + 1)
      else
        emit (.copied this.conn q)
        return .body handle this.conn (.submit q)
  | .submit q => do
    MySQL.client "mysql_real_query"
    let this ← get
    emit (.submitted this.conn q)
    modify fun this => { this with mysql := this.mysql.map (·.submit q.query.text) }
    return .body handle src (.executing q this.conn)
  | .executing q conn => do
    -- the answer belongs to the connection of the call, the code goes to the object found now
    emit (.executed conn q env.lib.code env.lib.rows)
    modify fun this =>
      { this with
        mysql := if this.conn = conn then this.mysql.map (·.answer env.lib) else this.mysql
        state := env.lib.code }
    return .body handle src (.logExecuted q)
  | .logExecuted q => do
    let this ← get
    MySQL.logAll ("Function: mysql_query (threaded) executed: \"" ++ q.query.text ++
      "\" with result: \"" ++ dec this.state ++ "\".")
    return .body handle src (.branch q)
  | .branch q => do
    let this ← get
    if this.state = 0 then
      return .body handle src (.setParsing q q.toThreadInfo)
    else
      return .body handle src (.clearParsing q)
  | .setParsing q t => do
    modify fun this => { this with parsing := true }
    return .body handle src (.push q t)
  | .push q t => do
    let this ← get
    emit (.pushed this.conn t)
    modify fun this => { this with threadQueue := this.threadQueue ++ [t] }
    return .body handle src (.logResult q)
  | .clearParsing q => do
    modify fun this => { this with parsing := false }
    return .body handle src (.callError q)
  | .callError q => do
    let this ← get
    emit (.reported this.conn q)
    let _ ← MySQL.Error env "Could not execute query"
    return .body handle src (.inError q)
  | .inError q | .logResult q => do
    let this ← get
    MySQL.logAll ("Function: mysql_query executed: \"" ++ q.query.text ++ "\" with result: \"" ++
      dec this.state ++ "\".")
    return .body handle src (.pop q)
  | .pop q => do
    MySQL.safeDelete q.query
    let this ← get
    match this.queryQueue with
    | [] => fail (.emptyPop handle)
    | front :: rest =>
      emit (.popped this.conn front)
      modify fun this => { this with queryQueue := rest }
      return .scan (handle + 1)

end QueryThread

/-! ## `ProcessTick` -/

/-- Where `ProcessTick` stands in the body of its loop. `t` is the local copy of the entry. -/
inductive TickStmt
  /-- `if( !threadQueue.empty() && parsing )` and the copy of the front. -/
  | test
  /-- The loop over the scripts, with those still to come. -/
  | each (t : ThreadInfo) (scripts : List AMX)
  /-- `amx_Exec` runs the callback of a script; when it returns, what follows it. -/
  | inCallback (t : ThreadInfo) (amx : AMX) (scripts : List AMX)
  | pop (t : ThreadInfo)
  | clear (t : ThreadInfo)
  deriving DecidableEq, Repr

/-- Where the main thread stands: outside `ProcessTick`, at the condition of its loop, or in the
    body. -/
inductive MainPc (N : ℕ)
  | idle
  | scan (handle : ℕ)
  | body (handle : Fin N) (src : ℕ) (stmt : TickStmt)
  deriving DecidableEq, Repr

/-- The public function `ProcessTick` looks for, by the type of the entry. -/
def QueryType.callback : QueryType → String
  | .TYPE_ARRAY => "OnMysqlQueryArray"
  | .TYPE_ID => "OnMysqlQuery"

/-- The arguments of the callback, as `ProcessTick` pushes them. -/
def ThreadInfo.args (t : ThreadInfo) (handle : ℕ) : List Arg :=
  match t.type with
  | .TYPE_ARRAY =>
    amx_Push [.cell handle, .string (t.extraVars.map CharPtr.text), .cell t.resultId]
  | .TYPE_ID => amx_Push [.cell handle, .cell (t.extraId.getD 0), .cell t.resultId]

/-- `SAFE_DELETE( mysqlThreadQueue.extraVars )` on the local copy, after an `OnMysqlQueryArray`. -/
def ThreadInfo.afterCallback (t : ThreadInfo) : ThreadInfo :=
  match t.type with
  | .TYPE_ARRAY => { t with extraVars := none }
  | .TYPE_ID => t

namespace ProcessTick

variable {N : ℕ} (pAmx : List AMX) (handle : Fin N) (src : ℕ)

/-- The statements of the body that use a member of `my[ handle ]`. -/
def test : Method (MainPc N) := do
  let this ← get
  emit (.examined .main this.conn)
  match this.threadQueue with
  | [] => return .scan (handle + 1)
  | t :: _ =>
    if this.parsing then
      emit (.taken this.conn t)
      return .body handle this.conn (.each t pAmx)
    else
      return .scan (handle + 1)

/-- `SAFE_DELETE( mysqlThreadQueue.extraVars )`, which stands in the branch of `TYPE_ARRAY`. -/
def releaseVars (t : ThreadInfo) : Method Unit :=
  match t.type, t.extraVars with
  | .TYPE_ARRAY, some extraVars => MySQL.safeDelete extraVars
  | _, _ => pure ()

def afterExec (t : ThreadInfo) (scripts : List AMX) : Method (MainPc N) := do
  MySQL.logAll ("Callback: " ++ t.type.callback ++ "(" ++ dec t.resultId ++ ", " ++
    (match t.type with
      | .TYPE_ARRAY => str (t.extraVars.map CharPtr.text)
      | .TYPE_ID => dec (t.extraId.getD 0)) ++ ", " ++ dec handle ++ ") called.")
  releaseVars t
  return .body handle src (.each t.afterCallback scripts)

def popEntry (t : ThreadInfo) : Method (MainPc N) := do
  let this ← get
  match this.threadQueue with
  | [] => fail (.emptyPop handle)
  | front :: rest =>
    emit (.delivered this.conn front)
    modify fun this => { this with threadQueue := rest }
    return .body handle src (.clear t)

def clearParsing : Method (MainPc N) := do
  modify fun this => { this with parsing := false }
  return .scan (handle + 1)

/-- One statement of the body; the result is where the main thread stands next. -/
def statement : TickStmt → Native N (MainPc N)
  | .test => call handle (test pAmx handle)
  | .each t [] => return .body handle src (.pop t)
  | .each t (amx :: scripts) => do
    if amx.FindPublic t.type.callback then
      emit (.callback amx t.type.callback (t.args handle))
      return .body handle src (.inCallback t amx scripts)
    else
      return .body handle src (.each t scripts)
  | .inCallback t _ scripts => call handle (afterExec handle src t scripts)
  | .pop t => call handle (popEntry handle src t)
  | .clear _ => call handle (clearParsing handle)

end ProcessTick

/-! ## The plugin -/

/-- The world, and where the two threads stand. -/
structure System (N : ℕ) extends World N where
  worker : WorkerPc N
  main : MainPc N

/-- What can happen next: a statement of one of the two loops, a native called by a script, or a
    script being loaded or unloaded. -/
inductive Action
  | worker (lib : Answers)
  | tick
  | native (thread : Thread) (name : NativeName) (amx : Memory) (params : List Cell)
      (lib : Answers)
  | load (amx : AMX)
  | unload (amx : AMX)

/-- A call of `mysql_close`. -/
def Action.isClose : Action → Bool
  | .native _ .mysql_close _ _ _ => true
  | _ => false

/-- A call of a native. -/
def Action.isNative : Action → Bool
  | .native _ _ _ _ _ => true
  | _ => false

namespace System

variable {N : ℕ}

/-- The plugin right after `Load`. -/
def initial : System N where
  my := fun _ => none
  pAmx := []
  created := 0
  worker := .scan 0
  main := .idle

/-- Run a program over the world; `k` puts its result into the state. -/
def perform {α : Type} (s : System N) (m : Native N α) (k : α → System N → System N) :
    Outcome (System N) Event Fault :=
  match m s.toWorld with
  | .error f => .fault f
  | .ok (a, w, es) => .next (k a { s with toWorld := w }) es

/-- Scripts run on the main thread outside of `ProcessTick` and in its callbacks, and on the worker
    in the callbacks of its call of `Error`. -/
def runsScripts (s : System N) : Thread → Bool
  | .main =>
    match s.main with
    | .idle => true
    | .body _ _ (.inCallback _ _ _) => true
    | _ => false
  | .worker =>
    match s.worker with
    | .body _ _ (.inError _) => s.pAmx.any (·.FindPublic "OnMysqlError")
    | _ => false

/-- `for( handle = 0; my[ handle ] != NULL; handle++ )` in `QueryThread`, once round the outer
    loop. -/
def stepWorker (s : System N) (lib : Answers) : Outcome (System N) Event Fault :=
  match s.worker with
  | .scan handle =>
    if h : handle < N then
      match s.my ⟨handle, h⟩ with
      | none => .next { s with worker := .scan 0 } []
      | some this => .next { s with worker := .body ⟨handle, h⟩ this.conn .test } []
    else .fault (.outOfRange handle)
  | .body handle src stmt =>
    s.perform (call handle (QueryThread.statement ⟨lib, s.pAmx⟩ handle src stmt))
      (fun pc s => { s with worker := pc })

/-- The server calls `ProcessTick`, or the main thread goes on in it. -/
def stepTick (s : System N) : Outcome (System N) Event Fault :=
  match s.main with
  | .idle => .next { s with main := .scan 0 } []
  | .scan handle =>
    if h : handle < N then
      match s.my ⟨handle, h⟩ with
      | none => .next { s with main := .idle } []
      | some this => .next { s with main := .body ⟨handle, h⟩ this.conn .test } []
    else .fault (.outOfRange handle)
  | .body handle src stmt =>
    s.perform (ProcessTick.statement s.pAmx handle src stmt) (fun pc s => { s with main := pc })

/-- One step of the plugin. -/
def step (s : System N) : Action → Outcome (System N) Event Fault
  | .worker lib => s.stepWorker lib
  | .tick => s.stepTick
  | .native thread name amx params lib =>
    if s.runsScripts thread then
      s.perform (name.function ⟨lib, s.pAmx⟩ amx params) (fun _ s => s)
    else .disabled
  | .load amx =>
    if s.main = .idle then .next { s with pAmx := s.pAmx ++ [amx] } [] else .disabled
  | .unload amx =>
    if s.main = .idle then .next { s with pAmx := s.pAmx.erase amx } [] else .disabled

end System

/-- The plugin with a table of `N` handles. -/
def plugin (N : ℕ) : Machine (System N) Action Event Fault := ⟨System.initial, System.step⟩

/-! ## Calls of a script, as actions

All string parameters of these calls are the string `S`. -/

namespace Script

def memory : Memory := fun _ => [83]

def mysql_init (thread : Thread := .main) : Action :=
  .native thread .mysql_init memory [8, 0, 0] {}

def mysql_connect (handle : Cell) (thread : Thread := .main) : Action :=
  .native thread .mysql_connect memory [24, 0, 0, 0, 0, handle, 0] {}

def mysql_close (handle : Cell) (thread : Thread := .main) : Action :=
  .native thread .mysql_close memory [4, handle] {}

def mysql_query (resultid extra handle : Cell) (lib : Answers := {}) : Action :=
  .native .main .mysql_query memory [16, 0, resultid, extra, handle] lib

def mysql_store_result (handle : Cell) : Action :=
  .native .main .mysql_store_result memory [4, handle] {}

/-- `n` statements of the query thread. -/
def work (n : ℕ) (lib : Answers := {}) : List Action := List.replicate n (.worker lib)

/-- `n` statements of `ProcessTick`. -/
def ticks (n : ℕ) : List Action := List.replicate n .tick

end Script

end MysqlPlugin
