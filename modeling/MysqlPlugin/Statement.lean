import MysqlPlugin.Effect
import MysqlPlugin.Thread

set_option autoImplicit false

/-! # What one statement of the two loops does

`WorkerStmt.Does` and `TickStmt.Does` say, statement by statement, what the bodies of `QueryThread`
and `ProcessTick` do to the object of their slot, what they add to the history, and where the thread
stands afterwards. Every proof about the two loops goes by cases on these relations;
`QueryThread.statement_does` and `ProcessTick.statement_does` say that the code stays inside them.

`QueryThread.statement_faults` and `ProcessTick.statement_faults` list the only ways in which a
statement can fault. -/

namespace MysqlPlugin

open Prog Natives

/-! ## Where a thread stands with respect to one slot -/

/-- The worker's place in the body for slot `h`: the object whose front it copied, and the
    statement. -/
def WorkerPc.place {N : ℕ} (pc : WorkerPc N) (h : Fin N) : Option (ℕ × WorkerStmt) :=
  match pc with
  | .scan _ => none
  | .body h' src stmt => if h' = h then some (src, stmt) else none

/-- The place of `ProcessTick` in the body for slot `h`. -/
def MainPc.place {N : ℕ} (pc : MainPc N) (h : Fin N) : Option (ℕ × TickStmt) :=
  match pc with
  | .idle | .scan _ => none
  | .body h' src stmt => if h' = h then some (src, stmt) else none

/-- The worker after a statement of the body for slot `h`: still there, or at the condition of the
    loop for the next slot. -/
def WorkerPc.after {N : ℕ} (h : Fin N) : Option (ℕ × WorkerStmt) → WorkerPc N
  | none => .scan (h + 1)
  | some (src, stmt) => .body h src stmt

def MainPc.after {N : ℕ} (h : Fin N) : Option (ℕ × TickStmt) → MainPc N
  | none => .scan (h + 1)
  | some (src, stmt) => .body h src stmt

section

variable {N : ℕ} (h : Fin N)

@[simp] theorem WorkerPc.place_scan (i : ℕ) : (WorkerPc.scan i : WorkerPc N).place h = none := rfl

@[simp] theorem WorkerPc.place_body (src : ℕ) (stmt : WorkerStmt) :
    (WorkerPc.body h src stmt).place h = some (src, stmt) := if_pos rfl

@[simp] theorem MainPc.place_idle : (MainPc.idle : MainPc N).place h = none := rfl

@[simp] theorem MainPc.place_scan (i : ℕ) : (MainPc.scan i : MainPc N).place h = none := rfl

@[simp] theorem MainPc.place_body (src : ℕ) (stmt : TickStmt) :
    (MainPc.body h src stmt).place h = some (src, stmt) := if_pos rfl

@[simp] theorem WorkerPc.place_after (place : Option (ℕ × WorkerStmt)) :
    (WorkerPc.after h place).place h = place := by
  cases place with
  | none => rfl
  | some p => exact WorkerPc.place_body h p.1 p.2

@[simp] theorem MainPc.place_after (place : Option (ℕ × TickStmt)) :
    (MainPc.after h place).place h = place := by
  cases place with
  | none => rfl
  | some p => exact MainPc.place_body h p.1 p.2

variable {h} {k : Fin N} (hne : k ≠ h)
include hne

theorem WorkerPc.place_body_of_ne (src : ℕ) (stmt : WorkerStmt) :
    (WorkerPc.body h src stmt).place k = none := if_neg (Ne.symm hne)

theorem MainPc.place_body_of_ne (src : ℕ) (stmt : TickStmt) :
    (MainPc.body h src stmt).place k = none := if_neg (Ne.symm hne)

theorem WorkerPc.place_after_of_ne (place : Option (ℕ × WorkerStmt)) :
    (WorkerPc.after h place).place k = none := by
  cases place with
  | none => rfl
  | some p => exact WorkerPc.place_body_of_ne hne p.1 p.2

theorem MainPc.place_after_of_ne (place : Option (ℕ × TickStmt)) :
    (MainPc.after h place).place k = none := by
  cases place with
  | none => rfl
  | some p => exact MainPc.place_body_of_ne hne p.1 p.2

end

/-! ## `QueryThread` -/

namespace MySQL

/-- The object after `mysql_real_query` handed over the statement ... -/
def submitting (statement : String) (o : MySQL) : MySQL :=
  { o with mysql := o.mysql.map (·.submit statement) }

/-- ... and after it returned: the answer is on the connection of the call, the code in the object
    found now. -/
def answered (lib : Answers) (conn : ℕ) (o : MySQL) : MySQL :=
  { o with
    mysql := if o.conn = conn then o.mysql.map (·.answer lib) else o.mysql
    state := lib.code }

end MySQL

/-- What a statement of the body of `QueryThread` does to the object `o` of its slot. -/
inductive WorkerStmt.Does (lib : Answers) (src : ℕ) (o : MySQL) :
    WorkerStmt → List Event → MySQL → Option (ℕ × WorkerStmt) → Prop
  | skip (hskip : o.queryQueue = [] ∨ o.parsing = true) :
      Does lib src o .test [.examined .worker o.conn] o none
  | copy (q : QueryInfo) (rest : List QueryInfo) (hq : o.queryQueue = q :: rest)
      (hp : o.parsing = false) :
      Does lib src o .test [.examined .worker o.conn, .copied o.conn q] o
        (some (o.conn, .submit q))
  | submit (q : QueryInfo) (hm : o.mysql.isSome) :
      Does lib src o (.submit q) [.submitted o.conn q] (o.submitting q.query.text)
        (some (src, .executing q o.conn))
  | answer (q : QueryInfo) (conn : ℕ) :
      Does lib src o (.executing q conn) [.executed conn q lib.code lib.rows]
        (o.answered lib conn) (some (src, .logExecuted q))
  | logExecuted (q : QueryInfo) : Does lib src o (.logExecuted q) [] o (some (src, .branch q))
  | succeeded (q : QueryInfo) (hs : o.state = 0) :
      Does lib src o (.branch q) [] o (some (src, .setParsing q q.toThreadInfo))
  | failed (q : QueryInfo) (hs : o.state ≠ 0) :
      Does lib src o (.branch q) [] o (some (src, .clearParsing q))
  | setParsing (q : QueryInfo) (t : ThreadInfo) :
      Does lib src o (.setParsing q t) [] { o with parsing := true } (some (src, .push q t))
  | push (q : QueryInfo) (t : ThreadInfo) :
      Does lib src o (.push q t) [.pushed o.conn t] { o with threadQueue := o.threadQueue ++ [t] }
        (some (src, .logResult q))
  | clearParsing (q : QueryInfo) :
      Does lib src o (.clearParsing q) [] { o with parsing := false } (some (src, .callError q))
  | report (q : QueryInfo) :
      Does lib src o (.callError q) [.reported o.conn q] o (some (src, .inError q))
  | returned (q : QueryInfo) : Does lib src o (.inError q) [] o (some (src, .pop q))
  | logResult (q : QueryInfo) : Does lib src o (.logResult q) [] o (some (src, .pop q))
  | pop (q front : QueryInfo) (rest : List QueryInfo) (hq : o.queryQueue = front :: rest) :
      Does lib src o (.pop q) [.popped o.conn front] { o with queryQueue := rest } none

namespace QueryThread

variable {N : ℕ} {env : Env} {h : Fin N} {src : ℕ}

/-- A part that leaves the object alone, followed by a fixed result. -/
private theorem untouched_return {α : Type} {m : Method α} {b : WorkerPc N} {o o' : MySQL}
    {pc : WorkerPc N} {es : List Event} (hm : Stays MySQL.Untouched m)
    (hok : (m >>= fun _ => pure b) o = .ok (pc, o', es)) :
    pc = b ∧ o' = o ∧ history es = [] := by
  obtain ⟨_, es', hret, hes⟩ := MySQL.untouched_then hm hok
  cases hret
  exact ⟨rfl, rfl, hes⟩

/-- The statements that only log. -/
private theorem log_return {line : MySQL → String} {b : WorkerPc N} {o o' : MySQL}
    {pc : WorkerPc N} {es : List Event}
    (hok : (do
      let this ← (get : Method MySQL)
      MySQL.logAll (line this)
      pure b) o = .ok (pc, o', es)) :
    pc = b ∧ o' = o ∧ history es = [] := by
  rw [get_bind] at hok
  exact untouched_return (MySQL.stays_logAll _) hok

/-- The test of the queue, with what its branch does first. -/
theorem test_eq_ok {o o' : MySQL} {pc : WorkerPc N} {es : List Event}
    (hok : statement env h src .test o = .ok (pc, o', es)) :
    o' = o ∧ (((o.queryQueue = [] ∨ o.parsing = true) ∧ pc = .scan (h + 1) ∧
        es = [.examined .worker o.conn]) ∨
      ∃ q rest, o.queryQueue = q :: rest ∧ o.parsing = false ∧ pc = .body h o.conn (.submit q) ∧
        es = [.examined .worker o.conn, .copied o.conn q]) := by
  simp only [statement] at hok
  rw [get_bind] at hok
  obtain ⟨es', hrest, rfl⟩ := emit_bind_eq_ok.1 hok
  cases hq : o.queryQueue with
  | nil =>
      rw [hq] at hrest
      cases hrest
      exact ⟨rfl, .inl ⟨.inl rfl, rfl, rfl⟩⟩
  | cons q rest =>
      rw [hq] at hrest
      by_cases hp : o.parsing = true
      · simp only [if_pos hp] at hrest
        cases hrest
        exact ⟨rfl, .inl ⟨.inr hp, rfl, rfl⟩⟩
      · simp only [if_neg hp] at hrest
        cases hrest
        exact ⟨rfl, .inr ⟨q, rest, rfl, by simpa using hp, rfl, rfl⟩⟩

/-- The end of the body: the front of the queue is popped, whatever it is by then. -/
theorem pop_eq_ok {o o' : MySQL} {pc : WorkerPc N} {es : List Event} {q : QueryInfo}
    (hok : statement env h src (.pop q) o = .ok (pc, o', es)) :
    ∃ front rest, o.queryQueue = front :: rest ∧ o' = { o with queryQueue := rest } ∧
      pc = .scan (h + 1) ∧ es = [.delete q.query.ptr, .popped o.conn front] := by
  simp only [statement, MySQL.safeDelete] at hok
  obtain ⟨es', hrest, rfl⟩ := emit_bind_eq_ok.1 hok
  rw [get_bind] at hrest
  cases hq : o.queryQueue with
  | nil =>
      rw [hq] at hrest
      simp at hrest
  | cons front rest =>
      rw [hq] at hrest
      cases hrest
      exact ⟨front, rest, rfl, rfl, rfl, rfl⟩

/-- **The body of `QueryThread`, statement by statement.** -/
theorem statement_does {stmt : WorkerStmt} {o o' : MySQL} {pc : WorkerPc N} {es : List Event}
    (hok : statement env h src stmt o = .ok (pc, o', es)) :
    ∃ place, stmt.Does env.lib src o (history es) o' place ∧ pc = WorkerPc.after h place := by
  cases stmt with
  | test =>
      obtain ⟨rfl, ⟨hskip, rfl, rfl⟩ | ⟨q, rest, hq, hp, rfl, rfl⟩⟩ := test_eq_ok hok
      · exact ⟨_, .skip hskip, rfl⟩
      · exact ⟨_, .copy q rest hq hp, rfl⟩
  | submit q =>
      cases hm : o.mysql with
      | none =>
          obtain ⟨_, o₁, es₁, _, hclient, -, -⟩ := bind_eq_ok.1 hok
          simp only [MySQL.client, bind, run_get, hm, run_fail] at hclient
          simp at hclient
      | some c =>
          obtain ⟨_, es₁, hrest, hes⟩ := MySQL.untouched_then (MySQL.stays_client _) hok
          cases hrest
          rw [hes]
          exact ⟨_, .submit q (by simp [hm]), rfl⟩
  | executing q conn =>
      cases hok
      exact ⟨_, .answer q conn, rfl⟩
  | logExecuted q =>
      obtain ⟨rfl, rfl, hes⟩ := log_return hok
      rw [hes]
      exact ⟨_, .logExecuted q, rfl⟩
  | branch q =>
      simp only [statement] at hok
      rw [get_bind] at hok
      by_cases hs : o.state = 0
      · simp only [if_pos hs] at hok
        cases hok
        exact ⟨_, .succeeded q hs, rfl⟩
      · simp only [if_neg hs] at hok
        cases hok
        exact ⟨_, .failed q hs, rfl⟩
  | setParsing q t =>
      cases hok
      exact ⟨_, .setParsing q t, rfl⟩
  | push q t =>
      cases hok
      exact ⟨_, .push q t, rfl⟩
  | clearParsing q =>
      cases hok
      exact ⟨_, .clearParsing q, rfl⟩
  | callError q =>
      simp only [statement] at hok
      rw [get_bind] at hok
      obtain ⟨es', hrest, rfl⟩ := emit_bind_eq_ok.1 hok
      obtain ⟨rfl, rfl, hes⟩ := untouched_return (MySQL.stays_Error _ _ _) hrest
      rw [history_cons, hes]
      exact ⟨_, .report q, rfl⟩
  | inError q =>
      obtain ⟨rfl, rfl, hes⟩ := log_return hok
      rw [hes]
      exact ⟨_, .returned q, rfl⟩
  | logResult q =>
      obtain ⟨rfl, rfl, hes⟩ := log_return hok
      rw [hes]
      exact ⟨_, .logResult q, rfl⟩
  | pop q =>
      obtain ⟨front, rest, hq, rfl, rfl, rfl⟩ := pop_eq_ok hok
      exact ⟨_, .pop q front rest hq, rfl⟩

/-- The statements that only log are safe. -/
private theorem safe_log_return {line : MySQL → String} {b : WorkerPc N} :
    Safe (do
      let this ← (get : Method MySQL)
      MySQL.logAll (line this)
      pure b) :=
  Safe.bind Safe.get fun _ => Safe.bind (MySQL.safe_logAll _) fun _ => Safe.pure _

private theorem safe_test : Safe (statement env h src .test) := by
  refine Safe.bind Safe.get fun this => Safe.bind (Safe.emit _) fun _ => ?_
  cases this.queryQueue with
  | nil => exact Safe.pure _
  | cons q rest => exact Safe.ite (Safe.pure _) (Safe.bind (Safe.emit _) fun _ => Safe.pure _)

/-- Besides the use of an empty slot, a statement of the worker can only fault by submitting on a
    `NULL` connection and by popping an empty queue. -/
theorem statement_faults {stmt : WorkerStmt} {o : MySQL} {f : Fault}
    (hf : statement env h src stmt o = .error f) :
    (∃ q, stmt = .submit q ∧ o.mysql = none ∧ f = .nullClient "mysql_real_query") ∨
      (∃ q, stmt = .pop q ∧ o.queryQueue = [] ∧ f = .emptyPop h) := by
  cases stmt with
  | test => exact absurd hf (safe_test o f)
  | submit q =>
      cases hm : o.mysql with
      | none =>
          refine .inl ⟨q, rfl, rfl, ?_⟩
          simp only [statement, MySQL.client, bind, run_get, hm, run_fail] at hf
          cases hf
          rfl
      | some c =>
          simp only [statement, MySQL.client, bind, run_get, hm, run_emit] at hf
          simp at hf
  | executing q conn => cases hf
  | logExecuted q => exact absurd hf (safe_log_return o f)
  | branch q =>
      exact absurd hf (Safe.bind Safe.get (fun _ => Safe.ite (Safe.pure _) (Safe.pure _)) o f)
  | setParsing q t => cases hf
  | push q t => cases hf
  | clearParsing q => cases hf
  | callError q =>
      refine absurd hf (Safe.bind Safe.get (fun _ => ?_) o f)
      exact Safe.bind (Safe.emit _) fun _ => Safe.bind (MySQL.safe_Error _ _ _) fun _ => Safe.pure _
  | inError q => exact absurd hf (safe_log_return o f)
  | logResult q => exact absurd hf (safe_log_return o f)
  | pop q =>
      cases hq : o.queryQueue with
      | nil =>
          refine .inr ⟨q, rfl, rfl, ?_⟩
          simp only [statement, MySQL.safeDelete, bind, run_emit, run_get, hq, run_fail] at hf
          cases hf
          rfl
      | cons front rest =>
          simp only [statement, MySQL.safeDelete, bind, run_emit, run_get, hq] at hf
          simp at hf

end QueryThread

/-! ## `ProcessTick` -/

/-- What a statement of the body of `ProcessTick` does to its slot. The loop over the scripts does not
    look at the slot, so it goes on also when the slot is `NULL` by then. -/
inductive TickStmt.Does (pAmx : List AMX) (src : ℕ) :
    Option MySQL → TickStmt → List Event → Option MySQL → Option (ℕ × TickStmt) → Prop
  | skip (o : MySQL) (hskip : o.threadQueue = [] ∨ o.parsing = false) :
      Does pAmx src (some o) .test [.examined .main o.conn] (some o) none
  | take (o : MySQL) (t : ThreadInfo) (rest : List ThreadInfo) (hq : o.threadQueue = t :: rest)
      (hp : o.parsing = true) :
      Does pAmx src (some o) .test [.examined .main o.conn, .taken o.conn t] (some o)
        (some (o.conn, .each t pAmx))
  | done (v : Option MySQL) (t : ThreadInfo) :
      Does pAmx src v (.each t []) [] v (some (src, .pop t))
  | pass (v : Option MySQL) (t : ThreadInfo) (amx : AMX) (scripts : List AMX)
      (hf : amx.FindPublic t.type.callback = false) :
      Does pAmx src v (.each t (amx :: scripts)) [] v (some (src, .each t scripts))
  | exec (v : Option MySQL) (t : ThreadInfo) (amx : AMX) (scripts : List AMX)
      (hf : amx.FindPublic t.type.callback = true) :
      Does pAmx src v (.each t (amx :: scripts)) [] v (some (src, .inCallback t amx scripts))
  | returned (o : MySQL) (t : ThreadInfo) (amx : AMX) (scripts : List AMX) :
      Does pAmx src (some o) (.inCallback t amx scripts) [] (some o)
        (some (src, .each t.afterCallback scripts))
  | pop (o : MySQL) (t front : ThreadInfo) (rest : List ThreadInfo)
      (hq : o.threadQueue = front :: rest) :
      Does pAmx src (some o) (.pop t) [.delivered o.conn front]
        (some { o with threadQueue := rest }) (some (src, .clear t))
  | clear (o : MySQL) (t : ThreadInfo) :
      Does pAmx src (some o) (.clear t) [] (some { o with parsing := false }) none

namespace ProcessTick

variable {N : ℕ} {pAmx : List AMX} {h : Fin N} {src : ℕ}

private theorem stays_releaseVars (t : ThreadInfo) :
    Stays MySQL.Untouched (releaseVars t) := by
  unfold releaseVars
  split
  · exact MySQL.stays_emit rfl
  · exact Stays.pure MySQL.Untouched.composable ()

private theorem safe_releaseVars (t : ThreadInfo) : Safe (releaseVars t) := by
  unfold releaseVars
  split
  · exact Safe.emit _
  · exact Safe.pure _

/-- The test of the queue, with what its branch does first. -/
theorem test_eq_ok {o o' : MySQL} {pc : MainPc N} {es : List Event}
    (hok : test pAmx h o = .ok (pc, o', es)) :
    o' = o ∧ (((o.threadQueue = [] ∨ o.parsing = false) ∧ pc = .scan (h + 1) ∧
        es = [.examined .main o.conn]) ∨
      ∃ t rest, o.threadQueue = t :: rest ∧ o.parsing = true ∧
        pc = .body h o.conn (.each t pAmx) ∧ es = [.examined .main o.conn, .taken o.conn t]) := by
  rw [test, get_bind] at hok
  obtain ⟨es', hrest, rfl⟩ := emit_bind_eq_ok.1 hok
  cases hq : o.threadQueue with
  | nil =>
      rw [hq] at hrest
      cases hrest
      exact ⟨rfl, .inl ⟨.inl rfl, rfl, rfl⟩⟩
  | cons t rest =>
      rw [hq] at hrest
      by_cases hp : o.parsing = true
      · simp only [if_pos hp] at hrest
        cases hrest
        exact ⟨rfl, .inr ⟨t, rest, rfl, hp, rfl, rfl⟩⟩
      · simp only [if_neg hp] at hrest
        cases hrest
        exact ⟨rfl, .inl ⟨.inr (by simpa using hp), rfl, rfl⟩⟩

/-- The front of the queue is popped, whatever it is by then. -/
theorem popEntry_eq_ok {t : ThreadInfo} {o o' : MySQL} {pc : MainPc N} {es : List Event}
    (hok : popEntry h src t o = .ok (pc, o', es)) :
    ∃ front rest, o.threadQueue = front :: rest ∧ o' = { o with threadQueue := rest } ∧
      pc = .body h src (.clear t) ∧ es = [.delivered o.conn front] := by
  rw [popEntry, get_bind] at hok
  cases hq : o.threadQueue with
  | nil =>
      rw [hq] at hok
      simp at hok
  | cons front rest =>
      rw [hq] at hok
      cases hok
      exact ⟨front, rest, rfl, rfl, rfl, rfl⟩

/-- **The body of `ProcessTick`, statement by statement.** Only the slot `h` changes. -/
theorem statement_does {stmt : TickStmt} {w w' : World N} {pc : MainPc N} {es : List Event}
    (hok : statement pAmx h src stmt w = .ok (pc, w', es)) :
    ∃ v, w' = { w with my := Function.update w.my h v } ∧
      ∃ place, stmt.Does pAmx src (w.my h) (history es) v place ∧ pc = MainPc.after h place := by
  have hsame : w = { w with my := Function.update w.my h (w.my h) } := by
    rw [Function.update_eq_self]
  cases stmt with
  | test =>
      obtain ⟨o, o', ho, hm, rfl⟩ := call_eq_ok.1 hok
      refine ⟨some o', rfl, ?_⟩
      rw [ho]
      obtain ⟨rfl, ⟨hskip, rfl, rfl⟩ | ⟨t, rest, hq, hp, rfl, rfl⟩⟩ := test_eq_ok hm
      · exact ⟨_, .skip _ hskip, rfl⟩
      · exact ⟨_, .take _ t rest hq hp, rfl⟩
  | each t scripts =>
      refine ⟨w.my h, ?_⟩
      cases scripts with
      | nil =>
          cases hok
          exact ⟨hsame, _, .done _ t, rfl⟩
      | cons amx scripts =>
          simp only [statement] at hok
          by_cases hf : amx.FindPublic t.type.callback = true
          · rw [if_pos hf] at hok
            cases hok
            exact ⟨hsame, _, .exec _ t amx scripts hf, rfl⟩
          · rw [if_neg hf] at hok
            cases hok
            exact ⟨hsame, _, .pass _ t amx scripts (by simpa using hf), rfl⟩
  | inCallback t amx scripts =>
      obtain ⟨o, o', ho, hm, rfl⟩ := call_eq_ok.1 hok
      refine ⟨some o', rfl, ?_⟩
      obtain ⟨_, es₁, hm, hes⟩ := MySQL.untouched_then (MySQL.stays_logAll _) hm
      obtain ⟨_, es₂, hm, hes'⟩ := MySQL.untouched_then (stays_releaseVars t) hm
      cases hm
      rw [ho, hes, hes']
      exact ⟨_, .returned o t amx scripts, rfl⟩
  | pop t =>
      obtain ⟨o, o', ho, hm, rfl⟩ := call_eq_ok.1 hok
      refine ⟨some o', rfl, ?_⟩
      rw [ho]
      obtain ⟨front, rest, hq, rfl, rfl, rfl⟩ := popEntry_eq_ok hm
      exact ⟨_, .pop o t front rest hq, rfl⟩
  | clear t =>
      change call h (clearParsing h) w = _ at hok
      obtain ⟨o, o', ho, hm, rfl⟩ := call_eq_ok.1 hok
      refine ⟨some o', rfl, ?_⟩
      cases hm
      rw [ho]
      exact ⟨_, .clear o t, rfl⟩

/-- A statement of `ProcessTick` faults when it uses an empty slot, and when it pops an empty
    queue. -/
theorem statement_faults {stmt : TickStmt} {w : World N} {f : Fault}
    (hf : statement pAmx h src stmt w = .error f) :
    (w.my h = none ∧ (∀ t scripts, stmt ≠ .each t scripts) ∧ f = .nullMySQL h) ∨
      (∃ t o, stmt = .pop t ∧ w.my h = some o ∧ o.threadQueue = [] ∧ f = .emptyPop h) := by
  have hcall : ∀ {method : Method (MainPc N)}, call h method w = .error f →
      (w.my h = none ∧ f = .nullMySQL h) ∨ ∃ o, w.my h = some o ∧ method o = .error f := by
    intro method hc
    unfold call at hc
    cases ho : w.my h with
    | none =>
        rw [ho] at hc
        cases hc
        exact .inl ⟨rfl, rfl⟩
    | some o =>
        simp only [ho] at hc
        cases hm : method o with
        | error f' =>
            rw [hm] at hc
            cases hc
            exact .inr ⟨o, rfl, hm⟩
        | ok r =>
            rw [hm] at hc
            simp at hc
  cases stmt with
  | test =>
      rcases hcall hf with ⟨hn, rfl⟩ | ⟨o, ho, hm⟩
      · exact .inl ⟨hn, nofun, rfl⟩
      · refine absurd hm (Safe.bind Safe.get (fun this => Safe.bind (Safe.emit _) fun _ => ?_) o f)
        cases this.threadQueue with
        | nil => exact Safe.pure _
        | cons t rest =>
            exact Safe.ite (Safe.bind (Safe.emit _) fun _ => Safe.pure _) (Safe.pure _)
  | each t scripts =>
      cases scripts with
      | nil => cases hf
      | cons amx scripts =>
          exact absurd hf (Safe.ite (Safe.bind (Safe.emit _) fun _ => Safe.pure _) (Safe.pure _) w f)
  | inCallback t amx scripts =>
      rcases hcall hf with ⟨hn, rfl⟩ | ⟨o, ho, hm⟩
      · exact .inl ⟨hn, nofun, rfl⟩
      · exact absurd hm (Safe.bind (MySQL.safe_logAll _) (fun _ =>
          Safe.bind (safe_releaseVars t) fun _ => Safe.pure _) o f)
  | pop t =>
      rcases hcall hf with ⟨hn, rfl⟩ | ⟨o, ho, hm⟩
      · exact .inl ⟨hn, nofun, rfl⟩
      · cases hq : o.threadQueue with
        | nil =>
            refine .inr ⟨t, o, rfl, ho, hq, ?_⟩
            simp only [popEntry, bind, run_get, hq, run_fail] at hm
            cases hm
            rfl
        | cons front rest =>
            simp only [popEntry, bind, run_get, hq, run_emit, run_modify, run_pure] at hm
            simp at hm
  | clear t =>
      change call h (clearParsing h) w = _ at hf
      rcases hcall hf with ⟨hn, rfl⟩ | ⟨o, ho, hm⟩
      · exact .inl ⟨hn, nofun, rfl⟩
      · cases hm

end ProcessTick

/-! ## A step of either loop -/

namespace System

variable {N : ℕ} {s s' : System N} {es : List Event}

/-- What a step of the worker does: the loop starts over, or comes to a slot, or a statement of the
    body is executed. -/
inductive WorkerMove (s : System N) (lib : Answers) : List Event → System N → Prop
  | restart (i : Fin N) (hw : s.worker = .scan i) (hfree : s.my i = none) :
      WorkerMove s lib [] { s with worker := .scan 0 }
  | enter (i : Fin N) (o : MySQL) (hw : s.worker = .scan i) (ho : s.my i = some o) :
      WorkerMove s lib [] { s with worker := .body i o.conn .test }
  | work (k : Fin N) (src : ℕ) (stmt : WorkerStmt) (o o' : MySQL) (place : Option (ℕ × WorkerStmt))
      (es : List Event) (hw : s.worker = .body k src stmt) (ho : s.my k = some o)
      (hd : stmt.Does lib src o (history es) o' place) :
      WorkerMove s lib es
        { s with my := Function.update s.my k (some o'), worker := .after k place }

theorem workerMove_of_step {lib : Answers} (hstep : s.stepWorker lib = .next s' es) :
    s.WorkerMove lib es s' := by
  unfold stepWorker at hstep
  cases hw : s.worker with
  | scan i =>
      rw [hw] at hstep
      by_cases hi : i < N
      · simp only [dif_pos hi] at hstep
        cases ho : s.my ⟨i, hi⟩ with
        | none =>
            rw [ho] at hstep
            cases hstep
            exact .restart ⟨i, hi⟩ hw ho
        | some o =>
            rw [ho] at hstep
            cases hstep
            exact .enter ⟨i, hi⟩ o hw ho
      · simp only [dif_neg hi] at hstep
        simp at hstep
  | body k src stmt =>
      simp only [hw, perform] at hstep
      cases hc : call k (QueryThread.statement ⟨lib, s.pAmx⟩ k src stmt) s.toWorld with
      | error f =>
          rw [hc] at hstep
          simp at hstep
      | ok r =>
          obtain ⟨pc, w, es'⟩ := r
          rw [hc] at hstep
          cases hstep
          obtain ⟨o, o', ho, hok, rfl⟩ := call_eq_ok.1 hc
          obtain ⟨place, hd, rfl⟩ := QueryThread.statement_does hok
          exact .work k src stmt o o' place es hw ho hd

/-- What a step of `ProcessTick` does. -/
inductive TickMove (s : System N) : List Event → System N → Prop
  | start (hm : s.main = .idle) : TickMove s [] { s with main := .scan 0 }
  | finish (i : Fin N) (hm : s.main = .scan i) (hfree : s.my i = none) :
      TickMove s [] { s with main := .idle }
  | enter (i : Fin N) (o : MySQL) (hm : s.main = .scan i) (ho : s.my i = some o) :
      TickMove s [] { s with main := .body i o.conn .test }
  | work (k : Fin N) (src : ℕ) (stmt : TickStmt) (v : Option MySQL) (place : Option (ℕ × TickStmt))
      (es : List Event) (hm : s.main = .body k src stmt)
      (hd : stmt.Does s.pAmx src (s.my k) (history es) v place) :
      TickMove s es { s with my := Function.update s.my k v, main := .after k place }

theorem tickMove_of_step (hstep : s.stepTick = .next s' es) : s.TickMove es s' := by
  unfold stepTick at hstep
  cases hm : s.main with
  | idle =>
      rw [hm] at hstep
      cases hstep
      exact .start hm
  | scan i =>
      rw [hm] at hstep
      by_cases hi : i < N
      · simp only [dif_pos hi] at hstep
        cases ho : s.my ⟨i, hi⟩ with
        | none =>
            rw [ho] at hstep
            cases hstep
            exact .finish ⟨i, hi⟩ hm ho
        | some o =>
            rw [ho] at hstep
            cases hstep
            exact .enter ⟨i, hi⟩ o hm ho
      · simp only [dif_neg hi] at hstep
        simp at hstep
  | body k src stmt =>
      simp only [hm, perform] at hstep
      cases hc : ProcessTick.statement s.pAmx k src stmt s.toWorld with
      | error f =>
          rw [hc] at hstep
          simp at hstep
      | ok r =>
          obtain ⟨pc, w, es'⟩ := r
          rw [hc] at hstep
          cases hstep
          obtain ⟨v, rfl, place, hd, rfl⟩ := ProcessTick.statement_does hc
          exact .work k src stmt v place es hm hd

end System
end MysqlPlugin
