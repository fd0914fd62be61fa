import MysqlPlugin.BadHandle
import MysqlPlugin.Lib.Relate

set_option autoImplicit false

/-! # What the natives look at

A native looks at the object in the slot of its handle, and of that object at its connection, its
result and its row, never at the two queues or at `parsing`; the log settings decide about the log
lines and the error messages on the console, and about nothing else.

So a relation between two objects that agree on the rest is kept by every member function, which then
returns the same: this is proved here for any such relation (`MySQL.View`), and from it the same of
every native, for any relation between two tables that comes to it in the slot of the handle
(`Natives.View`, `Natives.View.function`). Which relation it is depends on what a property leaves out:
what the worker has popped in the meantime (`Locality.lean`), or the log settings (`Logging.lean`). -/

namespace MysqlPlugin

open Prog

/-- What the member functions look at, but for the log settings. -/
def MySQL.core (o : MySQL) : MySQL :=
  { o with
    logtype := 0
    printerrs := false
    parsing := false
    queryQueue := []
    threadQueue := [] }

/-- The object with those members that the member functions set, but for `queryQueue`. -/
def MySQL.withCore (o c : MySQL) : MySQL :=
  { o with
    mysql := c.mysql
    result := c.result
    field := c.field
    row := c.row
    connected := c.connected
    state := c.state }

/-- How every error message on the console begins. -/
def errorPrefix : String := "[MySQL] Error ("

/-- The log lines of `connect`, for which it asks the library. -/
def MySQL.greeting (env : Env) (user : String) (o : MySQL) : List Event :=
  [.client o.conn "mysql_get_host_info",
    .logged ("Connected (" ++ dec o.id ++ ") to " ++ user ++ " @ " ++ str env.lib.hostInfo ++ "."),
    .client o.conn "mysql_get_server_info",
    .logged ("MySQL Server Version " ++ str env.lib.serverInfo ++ ".")]

/-- The entries are the same but for their strings. -/
structure QueryInfo.Alike (P : CharPtr → CharPtr → Prop) (q q' : QueryInfo) : Prop where
  query : P q.query q'.query
  resultId : q.resultId = q'.resultId
  extraId : q.extraId = q'.extraId
  extraVars : Option.Rel P q.extraVars q'.extraVars
  type : q.type = q'.type

namespace MySQL

/-- The part of `connect` after the connection was made. -/
def greets (env : Env) (user : String) : Method ℤ := do
  let this ← get
  client "mysql_options"
  client "mysql_get_host_info"
  emit (.printed ("[MySQL] Connected (" ++ dec this.id ++ ") to '" ++ user ++ "'@'" ++
    str env.lib.hostInfo ++ "'."))
  client "mysql_get_server_info"
  emit (.printed ("[MySQL] Server Version " ++ str env.lib.serverInfo ++ "."))
  doIf (this.logtype > 0) do
    client "mysql_get_host_info"
    emit (.logged ("Connected (" ++ dec this.id ++ ") to " ++ user ++ " @ " ++
      str env.lib.hostInfo ++ "."))
    client "mysql_get_server_info"
    emit (.logged ("MySQL Server Version " ++ str env.lib.serverInfo ++ "."))
  modify fun this => { this with connected := true }
  return 1

/-- The console lines of it, with the same questions. -/
def welcome (env : Env) (user : String) (o : MySQL) : List Event :=
  [.client o.conn "mysql_options", .client o.conn "mysql_get_host_info",
    .printed ("[MySQL] Connected (" ++ dec o.id ++ ") to '" ++ user ++ "'@'" ++
      str env.lib.hostInfo ++ "'."),
    .client o.conn "mysql_get_server_info",
    .printed ("[MySQL] Server Version " ++ str env.lib.serverInfo ++ ".")]

theorem run_greets (env : Env) (user : String) {o : MySQL} {c : MYSQL} (hm : o.mysql = some c) :
    greets env user o = .ok (1, { o with connected := true },
      o.welcome env user ++ if o.logtype > 0 then o.greeting env user else []) := by
  by_cases hl : o.logtype > 0 <;>
    simp [greets, Bind.bind, Prog.get, client, hm, Prog.emit, doIf, hl, Prog.modify, Pure.pure, welcome,
      greeting]

theorem greets_none (env : Env) (user : String) {o : MySQL} (hm : o.mysql = none) :
    greets env user o = .error (.nullClient "mysql_options") := by
  simp [greets, Bind.bind, Prog.get, client, hm, Prog.fail]

/-- Objects that `R` relates look the same to the member functions, traces that `T` relates to the
    observer, and strings that `P` relates to both. -/
structure View (T : List Event → List Event → Prop) (R : MySQL → MySQL → Prop)
    (P : CharPtr → CharPtr → Prop) : Prop where
  event : ∀ e, T [e] [e]
  core : ∀ {o o'}, R o o' → o.core = o'.core
  update : ∀ {o o'} c, R o o' → R (o.withCore c) (o'.withCore c)
  logged : ∀ {o o' line} (p : ℕ → Prop) [DecidablePred p], R o o' →
    Agree T R Eq (doIf (p o.logtype) (emit (.logged line)) : Method Unit)
      (doIf (p o'.logtype) (emit (.logged line)) : Method Unit)
  printed : ∀ {o o' line}, R o o' →
    Agree T R Eq (doIf o.printerrs (emit (.printed (errorPrefix ++ line))) : Method Unit)
      (doIf o'.printerrs (emit (.printed (errorPrefix ++ line))) : Method Unit)
  greeted : ∀ {o o'} env user, R o o' → T (if o.logtype > 0 then o.greeting env user else [])
    (if o'.logtype > 0 then o.greeting env user else [])
  enqueue : ∀ {entry entry'}, QueryInfo.Alike P entry entry' →
    Agree T R Eq (enqueue entry) (enqueue entry')
  closed : ∀ {o o'} {slot : ℕ}, R o o' → T [.closed o.conn slot o.queryQueue o.threadQueue]
    [.closed o'.conn slot o'.queryQueue o'.threadQueue]
  text : ∀ {p p' : CharPtr}, P p p' → p.text = p'.text
  deleted : ∀ {p p' : CharPtr}, P p p' → T [.delete p.ptr] [.delete p'.ptr]

/-- The member function comes to the same on objects that look the same to it. -/
abbrev Steady (T : List Event → List Event → Prop) (R : MySQL → MySQL → Prop) {α : Type}
    (m : Method α) : Prop := Agree T R Eq m m

theorem steady_rowCell {T : List Event → List Event → Prop} [Traces T] {R : MySQL → MySQL → Prop}
    (row : MYSQL_ROW) (i : ℤ) : Steady T R (rowCell row i) := by
  refine .ite (.fail _ _) ?_
  cases row.cells[i.toNat]? with
  | none => exact .fail _ _
  | some cell => exact .pure rfl

namespace View

variable {T : List Event → List Event → Prop} {R : MySQL → MySQL → Prop}
  {P : CharPtr → CharPtr → Prop} {α β : Type} {env : Env} (hv : View T R P)
include hv

variable {o o' : MySQL}

theorem same_conn (ho : R o o') : o.conn = o'.conn :=
  show o.core.conn = o'.core.conn by rw [hv.core ho]

theorem same_id (ho : R o o') : o.id = o'.id :=
  show o.core.id = o'.core.id by rw [hv.core ho]

theorem same_mysql (ho : R o o') : o.mysql = o'.mysql :=
  show o.core.mysql = o'.core.mysql by rw [hv.core ho]

theorem same_state (ho : R o o') : o.state = o'.state :=
  show o.core.state = o'.core.state by rw [hv.core ho]

theorem emit (e : Event) : Steady T R (Prog.emit e : Method Unit) := .emit (hv.event e)

theorem get_bind {f : MySQL → Method β} (hcore : ∀ o, f o = f o.core) (hf : ∀ o, Steady T R (f o)) :
    Steady T R (get >>= f) := by
  refine .get_bind fun o o' ho => ?_
  rw [hcore o, hcore o', hv.core ho]
  exact hf _

theorem logAll (line : String) : Steady T R (logAll line) :=
  .get_bind fun _ _ ho => hv.logged (· = LogType.LOG_ALL.code) ho

theorem printed_error (ho : R o o') (id : ℕ) (text : String) :
    Agree T R Eq
      (doIf o.printerrs (Prog.emit (.printed ("[MySQL] Error (" ++ dec id ++ "): " ++ text))) : Method Unit)
      (doIf o'.printerrs (Prog.emit (.printed ("[MySQL] Error (" ++ dec id ++ "): " ++ text))) :
        Method Unit) := by
  simp only [String.append_assoc]
  exact hv.printed ho

theorem safeDelete {q q' : CharPtr} (hq : P q q') : Agree T R Eq (safeDelete q) (MySQL.safeDelete q') :=
  .emit (hv.deleted hq)

theorem client (function : String) : Steady T R (client function) := by
  refine hv.get_bind (fun _ => rfl) fun o => ?_
  cases o.mysql with
  | none => exact .fail _ _
  | some c => exact hv.emit _

theorem clientError (function : String) : Steady T R (clientError function) :=
  hv.get_bind (fun _ => rfl) fun _ => hv.emit _

/-- The functions that refuse when no result set is stored. -/
theorem onResult {refuse : Method α} {work : MYSQL_RES → Method α} (hrefuse : Steady T R refuse)
    (hwork : ∀ res, Steady T R (work res)) :
    Steady T R (do
      let this ← (get : Method MySQL)
      match this.result with
      | none => refuse
      | some res => work res) := by
  refine hv.get_bind (fun _ => rfl) fun o => ?_
  cases o.result with
  | none => exact hrefuse
  | some res => exact hwork res

variable [Traces T]

theorem modify {f : MySQL → MySQL} (hcore : ∀ o, f o = o.withCore (f o.core)) :
    Steady T R (Prog.modify f : Method Unit) := by
  refine .modify fun o o' ho => ?_
  rw [hcore o, hcore o', hv.core ho]
  exact hv.update _ ho

theorem modify_then {f : MySQL → MySQL} {m : Unit → Method β}
    (hcore : ∀ o, f o = o.withCore (f o.core)) (hm : ∀ u, Steady T R (m u)) :
    Steady T R (Prog.modify f >>= m) :=
  (hv.modify hcore).bind_same hm

/-- The same events show the same. -/
theorem emitted (es : List Event) : T es es := by
  induction es with
  | nil => exact Traces.nil
  | cons e es ih => exact Traces.append (hv.event e) ih

theorem emitAll (es : List Event) : Steady T R (emitAll es) :=
  fun _ _ ho => .ok rfl ho (hv.emitted es)

theorem Error (error : String) (errid : ℤ) : Steady T R (Error env error errid) := by
  refine (hv.clientError _).bind_same fun _ => Agree.bind_same (.doIf (hv.clientError _)) fun _ => ?_
  refine .get_bind fun o o' ho => ?_
  rw [hv.same_conn ho, hv.same_id ho]
  refine (hv.emit _).bind_same fun _ => Agree.bind_same (hv.printed_error ho _ _) fun _ => ?_
  refine Agree.bind_same (hv.logged
    (fun l => l = LogType.LOG_ALL.code ∨ l = LogType.LOG_ONLY_ERRORS.code) ho) fun _ => ?_
  exact (hv.emitAll _).bind_same fun _ => .pure rfl

theorem Error_then (error : String) (errid : ℤ) (a : α) :
    Steady T R (do let _ ← MySQL.Error env error errid; return a : Method α) :=
  (hv.Error error errid).bind_same fun _ => .pure rfl

theorem freeStored : Steady T R freeStored := by
  refine hv.get_bind (fun _ => rfl) fun o => ?_
  cases o.result with
  | none => exact .pure rfl
  | some res => exact (hv.emit _).bind_same fun _ => hv.modify fun _ => rfl

/-! ## The member functions -/

theorem greets (user : String) : Steady T R (greets env user) := by
  intro o o' ho
  cases hm : o'.mysql with
  | none =>
      rw [greets_none env user ((hv.same_mysql ho).trans hm), greets_none env user hm]
      exact .error _ _
  | some c =>
      rw [run_greets env user ((hv.same_mysql ho).trans hm), run_greets env user hm]
      have hwelcome : o'.welcome env user = o.welcome env user := by
        rw [welcome, welcome, hv.same_conn ho, hv.same_id ho]
      have hgreeting : o'.greeting env user = o.greeting env user := by
        rw [greeting, greeting, hv.same_conn ho, hv.same_id ho]
      rw [hwelcome, hgreeting]
      refine .ok rfl ?_ (Traces.append (hv.emitted _) (hv.greeted env user ho))
      show R (o.withCore { o.core with connected := true }) (o'.withCore { o'.core with connected := true })
      rw [hv.core ho]
      exact hv.update _ ho

theorem connect (user : String) : Steady T R (connect env user) :=
  (hv.client _).bind_same fun _ => .ite (hv.greets user) (hv.Error _ _)

theorem delete : Steady T R delete := by
  refine hv.get_bind (fun _ => rfl) fun o => .doIf (hv.freeStored.bind_same fun _ => ?_)
  refine hv.modify_then (fun _ => rfl) fun _ => .get_bind fun o o' ho => ?_
  rw [hv.same_id ho, hv.same_mysql ho]
  refine Agree.bind_same (.doIf ?_) fun _ => hv.modify fun _ => rfl
  exact Agree.bind_same (hv.logged (· > 0) ho) fun _ => (hv.emit _).bind_same fun _ => hv.client _

theorem refresh (options : Cell) : Steady T R (refresh env options) := by
  refine (hv.client _).bind_same fun _ => (hv.logAll _).bind_same fun _ => ?_
  exact hv.get_bind (fun _ => rfl) fun _ => .ite (hv.Error _ _) (.pure rfl)

theorem select_db (dbname : String) : Steady T R (select_db env dbname) := by
  refine (hv.client _).bind_same fun _ => (hv.logAll _).bind_same fun _ => ?_
  exact .ite (hv.Error _ _) (.pure rfl)

section Query

variable {q q' : CharPtr}

theorem realQuery (hq : q.text = q'.text) :
    Agree T R Eq (realQuery env q) (MySQL.realQuery env q') := by
  refine (hv.client _).bind_same fun _ => ?_
  rw [hq]
  exact hv.modify fun _ => rfl

/-- The synchronous path of the two query functions. -/
theorem sync (hq : P q q') (line : String → ℤ → String) (error : String) (success : ℤ → ℤ) :
    Agree T R Eq
      (do
        MySQL.realQuery env q
        let this ← get
        MySQL.logAll (line q.text this.state)
        MySQL.safeDelete q
        if this.state ≠ 0 then
          MySQL.Error env error
        else
          return success this.state : Method ℤ)
      (do
        MySQL.realQuery env q'
        let this ← get
        MySQL.logAll (line q'.text this.state)
        MySQL.safeDelete q'
        if this.state ≠ 0 then
          MySQL.Error env error
        else
          return success this.state : Method ℤ) := by
  refine (hv.realQuery (hv.text hq)).bind_same fun _ => .get_bind fun o o' ho => ?_
  rw [hv.text hq, hv.same_state ho]
  refine (hv.logAll _).bind_same fun _ => (hv.safeDelete hq).bind_same fun _ => ?_
  exact .ite (hv.Error _ _) (.pure rfl)

theorem query (hq : P q q') (resultid extra : Cell) :
    Agree T R Eq (query env q resultid extra) (MySQL.query env q' resultid extra) := by
  refine hv.freeStored.bind_same fun _ => .ite (Agree.bind_same (hv.enqueue ?_) fun _ => .pure rfl)
    (hv.sync hq (fun text state => "Function: mysql_query executed: \"" ++ text ++
      "\" with result: \"" ++ dec state ++ "\".") _ fun state => state)
  exact ⟨hq, rfl, rfl, .none, rfl⟩

theorem query_array (hq : P q q') {extra extra' : CharPtr} (hextra : P extra extra')
    (resultid : Cell) :
    Agree T R Eq (query_array env q resultid extra) (MySQL.query_array env q' resultid extra') := by
  refine hv.freeStored.bind_same fun _ => .ite (Agree.bind_same (hv.enqueue ?_) fun _ => .pure rfl)
    (hv.sync hq (fun text state => "Function: mysql_query_array executed: \"" ++ text ++
      "\" with result: \"" ++ dec state ++ "\".") _ fun _ => 1)
  exact ⟨hq, rfl, rfl, .some hextra, rfl⟩

end Query

theorem store_result : Steady T R (store_result env) := by
  refine hv.get_bind (fun _ => rfl) fun o => .ite (hv.Error _ _) (.ite (hv.Error _ _) ?_)
  refine (hv.client _).bind_same fun _ => ?_
  refine hv.modify_then (fun _ => rfl) fun _ => (hv.logAll _).bind_same fun _ => ?_
  cases o.mysql.bind (·.storeResult env.lib) with
  | none => exact hv.Error _ _
  | some res => exact (hv.emit _).bind_same fun _ => .pure rfl

theorem free_result : Steady T R free_result := by
  refine hv.freeStored.bind_same fun _ => (hv.logAll _).bind_same fun _ => ?_
  exact hv.modify_then (fun _ => rfl) fun _ => .pure rfl

theorem result_stored : Steady T R result_stored :=
  (hv.logAll _).bind_same fun _ => hv.get_bind (fun _ => rfl) fun _ => .pure rfl

/-! ## Reading rows -/

theorem fetchRow (res : MYSQL_RES) : Steady T R (fetchRow res) :=
  hv.modify_then (fun _ => rfl) fun _ => .pure rfl

theorem currentRow (res : MYSQL_RES) : Steady T R (currentRow res) := by
  refine hv.get_bind (fun _ => rfl) fun o => ?_
  cases o.row with
  | none => exact hv.fetchRow res
  | some row => exact .pure rfl

theorem findField (fieldname : String) (res : MYSQL_RES) (row : MYSQL_ROW) (i : ℕ)
    (names : List String) : Steady T R (findField env fieldname res row i names) := by
  induction names generalizing i with
  | nil => exact hv.Error_then _ _ _
  | cons name names ih =>
      refine hv.modify_then (fun _ => rfl) fun _ => .ite ?_ (ih (i + 1))
      refine (steady_rowCell row i).bind_same fun cell => ?_
      cases cell with
      | none => exact hv.Error_then _ _ _
      | some cell => exact .pure rfl

theorem fetch_field (fieldname : String) : Steady T R (fetch_field env fieldname) := by
  refine hv.onResult (hv.Error_then _ _ _) fun res => (hv.logAll _).bind_same fun _ => ?_
  refine (hv.currentRow res).bind_same fun row => ?_
  cases row with
  | none => exact .pure rfl
  | some row => exact hv.findField _ _ _ _ _

theorem fetch_field_num (fieldnum : Cell) : Steady T R (fetch_field_num env fieldnum) := by
  refine hv.onResult (hv.Error_then _ _ _) fun res => (hv.logAll _).bind_same fun _ => ?_
  refine (hv.currentRow res).bind_same fun row => ?_
  cases row with
  | none => exact hv.Error_then _ _ _
  | some row => exact steady_rowCell row fieldnum

theorem fetch_row (splitter : String) : Steady T R (fetch_row env splitter) := by
  refine hv.onResult (hv.Error_then _ _ _) fun res => (hv.fetchRow res).bind_same fun row => ?_
  cases row with
  | none => exact .pure rfl
  | some row => exact (hv.logAll _).bind_same fun _ => .pure rfl

theorem fetch_row_data : Steady T R (fetch_row_data env) := by
  refine hv.onResult (hv.Error _ _) fun res => (hv.logAll _).bind_same fun _ => ?_
  refine (hv.fetchRow res).bind_same fun row => ?_
  cases row with
  | none => exact hv.Error _ _
  | some row => exact .pure rfl

theorem fetchFirst {refused absent : α} {noResult : String} {convert : Option String → α}
    {logged : α → String} : Steady T R (fetchFirst env refused absent noResult convert logged) := by
  refine hv.onResult (hv.Error_then _ _ _) fun res => (hv.fetchRow res).bind_same fun row => ?_
  cases row with
  | none => exact .pure rfl
  | some row =>
      refine (steady_rowCell row 0).bind_same fun cell => ?_
      exact (hv.logAll _).bind_same fun _ => .pure rfl

theorem data_seek (row : Cell) : Steady T R (data_seek env row) :=
  hv.onResult (hv.Error _ _) fun _ => (hv.logAll _).bind_same fun _ =>
    hv.modify_then (fun _ => rfl) fun _ => .pure rfl

/-! ## Asking the library -/

theorem real_escape_string (string : String) : Steady T R (real_escape_string env string) :=
  (hv.client _).bind_same fun _ => (hv.logAll _).bind_same fun _ => .pure rfl

theorem askResult (function : String) (ask : MYSQL_RES → ℤ) : Steady T R (askResult env function ask) :=
  hv.onResult (hv.Error _ _) fun _ => (hv.logAll _).bind_same fun _ => .pure rfl

theorem askNumber (function : String) (answer : ℤ) : Steady T R (askNumber function answer) :=
  (hv.client _).bind_same fun _ => (hv.logAll _).bind_same fun _ => .pure rfl

theorem askText (function logged : String) (answer : Option String) :
    Steady T R (askText function logged answer) :=
  (hv.client _).bind_same fun _ => (hv.logAll _).bind_same fun _ => .pure rfl

end View
end MySQL

/-! ## The natives -/

namespace Natives

/-- Tables that `RW` relates look the same to the natives that are passed this handle. -/
structure View {N : ℕ} (T : List Event → List Event → Prop) (R : MySQL → MySQL → Prop)
    (P : CharPtr → CharPtr → Prop) (handle : Cell) (RW : World N → World N → Prop) : Prop where
  object : MySQL.View T R P
  slot : ∀ {h : Fin N} {w w'}, handle = h → RW w w' → Option.Rel R (w.my h) (w'.my h)
  set : ∀ {h : Fin N} {w w' v v'}, handle = h → RW w w' → Option.Rel R v v' →
    RW (w.set h v) (w'.set h v')
  alloc : ∀ text, Prog.Agree T RW P (newString text) (newString text)

/-- The native comes to the same in tables that look the same to it. -/
abbrev Steady {N : ℕ} {α : Type} (T : List Event → List Event → Prop) (RW : World N → World N → Prop)
    (m : Native N α) : Prop := Prog.Agree T RW Eq m m

theorem steady_slotOf {N : ℕ} {α : Type} {T : List Event → List Event → Prop} [Traces T]
    {RW : World N → World N → Prop} {handle : Cell} {f : Fin N → Native N α} (hf : ∀ h : Fin N, handle = h → Steady T RW (f h)) :
    Steady T RW (slotOf handle >>= f) := by
  have hslot : Prog.Agree T RW (fun h h' : Fin N => h = h' ∧ handle = h) (Natives.slotOf handle)
      (Natives.slotOf handle) := by
    unfold Natives.slotOf
    split
    · rename_i hin
      exact .pure ⟨rfl, (Int.toNat_of_nonneg hin.1).symm⟩
    · exact .fail _ _
  refine hslot.bind ?_
  rintro h _ ⟨rfl, hh⟩
  exact hf h hh

namespace View

variable {N : ℕ} {T : List Event → List Event → Prop} {R : MySQL → MySQL → Prop}
  {P : CharPtr → CharPtr → Prop} {handle : Cell} {h : Fin N} {RW : World N → World N → Prop}
  {env : Env} {amx : Memory} {params : List Cell} {α : Type} (hv : View T R P handle RW)
include hv

theorem emit (e : Event) : Steady T RW (Prog.emit e : Native N Unit) := .emit (hv.object.event e)

theorem call (hh : handle = h) {m m' : Method α} (hm : Prog.Agree T R Eq m m') :
    Prog.Agree T RW Eq (call h m) (Natives.call h m') := by
  intro w w' hw
  unfold Natives.call
  have hslot := hv.slot hh hw
  generalize w.my h = v, w'.my h = v' at hslot
  cases hslot with
  | none => exact .error _ _
  | @some o o' ho =>
      have hend := hm o o' ho
      simp only
      generalize m o = x at hend
      generalize m' o' = y at hend
      cases hend with
      | error f f' => exact .error f f'
      | ok ha ho₁ hes => exact .ok ha (hv.set hh hw (.some ho₁)) hes

theorem GetString (addr : Cell) :
    Prog.Agree T RW P (GetString amx addr : Native N CharPtr) (Natives.GetString amx addr) :=
  .ite (hv.alloc _) (hv.alloc _)

theorem safeDelete {p p' : CharPtr} (hp : P p p') :
    Prog.Agree T RW Eq (safeDelete p : Native N Unit) (Natives.safeDelete p') := .emit (hv.object.deleted hp)

theorem SetString (addr : Cell) (text : Option String) :
    Steady T RW (SetString addr text : Native N Unit) := by
  cases text with
  | none => exact .fail _ _
  | some text => exact hv.emit _

/-- Whether the slot holds an object, and whether that is connected, comes out alike. -/
theorem connected (hh : handle = h) {w w' : World N} (hw : RW w w') :
    (w.my h).isNone = (w'.my h).isNone ∧ isConnected (w.my h) = isConnected (w'.my h) := by
  have hslot := hv.slot hh hw
  generalize w.my h = v, w'.my h = v' at hslot
  cases hslot with
  | none => exact ⟨rfl, rfl⟩
  | @some o o' ho =>
      have hconn : isConnected (some o.core) = isConnected (some o'.core) := by rw [hv.object.core ho]
      exact ⟨rfl, hconn⟩

variable [Traces T]

theorem giveString (addr : Cell) (text : Option String) :
    Steady T RW (giveString addr text : Native N Cell) := by
  cases text with
  | none => exact .pure rfl
  | some text => exact (hv.SetString addr (some text)).bind_same fun _ => .pure rfl

theorem deleteMySQL (hh : handle = h) : Steady T RW (deleteMySQL h) := by
  intro w w' hw
  rw [Natives.deleteMySQL, read_bind, read_bind]
  have hslot := hv.slot hh hw
  generalize w.my h = v, w'.my h = v' at hslot
  cases hslot with
  | none => exact .ok rfl hw Traces.nil
  | @some o o' ho =>
      refine Prog.Agree.bind_same (.emit (hv.object.closed ho)) (fun _ => ?_) w w' hw
      refine (hv.call hh hv.object.delete).bind_same fun _ => .modify fun w w' hw' => ?_
      exact hv.set hh hw' .none

theorem CHECK_CONNECTION {label : String} {rest : Fin N → Native N Cell}
    (hrest : ∀ h : Fin N, handle = h → Steady T RW (rest h)) :
    Steady T RW (CHECK_CONNECTION env handle label rest) := by
  refine steady_slotOf fun h hh w w' hw => ?_
  rw [read_bind, read_bind, (hv.connected hh hw).2]
  exact Prog.Agree.ite (hrest h hh) (hv.call hh (hv.object.Error _ _)) w w' hw

theorem CHECK_PARAMS {f : String} {n : ℕ} {r : Cell} {rest : Native N Cell}
    (hrest : Steady T RW rest) : Steady T RW (CHECK_PARAMS params f n r rest) :=
  .ite ((hv.emit _).bind_same fun _ => .pure rfl) hrest

theorem onConnection {name : String} {n i : ℕ} {rest : Fin N → Native N Cell}
    (hi : param params i = handle) (hrest : ∀ h : Fin N, handle = h → Steady T RW (rest h)) :
    Steady T RW (onConnection env params name n i rest) := by
  subst hi
  exact hv.CHECK_PARAMS (hv.CHECK_CONNECTION hrest)

theorem callOnly {name : String} {method : Method ℤ} (hi : param params 1 = handle)
    (hm : MySQL.Steady T R method) : Steady T RW (callOnly env params name method) :=
  hv.onConnection hi fun _ hh => hv.call hh hm

theorem tellString {name : String} {method : Method (Option String)} (hi : param params 2 = handle)
    (hm : MySQL.Steady T R method) : Steady T RW (tellString env params name method) :=
  hv.onConnection hi fun _ hh => (hv.call hh hm).bind_same fun _ =>
    (hv.SetString _ _).bind_same fun _ => .pure rfl

theorem mysql_connect (hi : param params 5 = handle) : Steady T RW (n_mysql_connect env amx params) := by
  subst hi
  refine hv.CHECK_PARAMS (steady_slotOf fun h hh w w' hw => ?_)
  rw [read_bind, read_bind, (hv.connected hh hw).1]
  refine Prog.Agree.ite ?_ ?_ w w' hw
  · exact (hv.emit _).bind_same fun _ => (hv.emit _).bind_same fun _ => .pure rfl
  refine (hv.GetString _).bind fun host host' hhost => (hv.GetString _).bind fun user user' huser => ?_
  refine (hv.GetString _).bind fun pass pass' hpass => (hv.GetString _).bind fun db db' hdb => ?_
  rw [hv.object.text huser]
  refine (hv.call hh (hv.object.connect _)).bind_same fun result => ?_
  refine (hv.safeDelete hhost).bind_same fun _ => (hv.safeDelete huser).bind_same fun _ => ?_
  refine (hv.safeDelete hpass).bind_same fun _ => (hv.safeDelete hdb).bind_same fun _ => ?_
  exact .pure rfl

theorem mysql_select_db (hi : param params 2 = handle) :
    Steady T RW (n_mysql_select_db env amx params) := by
  refine hv.onConnection hi fun _ hh => (hv.GetString _).bind fun dbname dbname' hdbname => ?_
  rw [hv.object.text hdbname]
  refine (hv.call hh (hv.object.select_db _)).bind_same fun result => ?_
  exact (hv.safeDelete hdbname).bind_same fun _ => .pure rfl

theorem mysql_query (hi : param params 4 = handle) : Steady T RW (n_mysql_query env amx params) :=
  hv.onConnection hi fun _ hh => (hv.GetString _).bind fun _ _ hquery =>
    hv.call hh (hv.object.query hquery _ _)

theorem mysql_query_array (hi : param params 4 = handle) :
    Steady T RW (n_mysql_query_array env amx params) :=
  hv.onConnection hi fun _ hh => (hv.GetString _).bind fun _ _ hquery =>
    (hv.GetString _).bind fun _ _ hextra => hv.call hh (hv.object.query_array hquery hextra _)

theorem mysql_set_character_set (hi : param params 2 = handle) :
    Steady T RW (n_mysql_set_character_set env amx params) := by
  refine hv.onConnection hi fun _ hh => (hv.GetString _).bind fun charset charset' hcharset => ?_
  refine (hv.call hh (hv.object.askNumber _ _)).bind_same fun result => ?_
  exact (hv.safeDelete hcharset).bind_same fun _ => .pure rfl

theorem mysql_real_escape_string (hi : param params 3 = handle) :
    Steady T RW (n_mysql_real_escape_string env amx params) := by
  refine hv.onConnection hi fun _ hh => (hv.GetString _).bind fun input input' hinput => ?_
  rw [hv.object.text hinput]
  refine (hv.call hh (hv.object.real_escape_string _)).bind_same fun text => ?_
  refine (hv.alloc text).bind fun out out' hout => ?_
  refine (hv.safeDelete hinput).bind_same fun _ => ?_
  rw [hv.object.text hout]
  refine (hv.SetString _ _).bind_same fun _ => ?_
  exact (hv.safeDelete hout).bind_same fun _ => .pure rfl

theorem mysql_fetch_row (hi : param params 3 = handle) :
    Steady T RW (n_mysql_fetch_row env amx params) := by
  refine hv.onConnection hi fun _ hh => (hv.GetString _).bind fun splitter splitter' hsplitter => ?_
  rw [hv.object.text hsplitter]
  refine (hv.call hh (hv.object.fetch_row _)).bind_same fun row => ?_
  cases row with
  | none => exact .pure rfl
  | some text =>
      refine (hv.alloc text).bind fun row row' hrow => ?_
      rw [hv.object.text hrow]
      refine (hv.SetString _ _).bind_same fun _ => ?_
      exact (hv.safeDelete hrow).bind_same fun _ => .pure rfl

theorem mysql_fetch_field (hi : param params 3 = handle) :
    Steady T RW (n_mysql_fetch_field env amx params) := by
  refine hv.onConnection hi fun _ hh => (hv.GetString _).bind fun fieldname fieldname' hname => ?_
  rw [hv.object.text hname]
  refine (hv.call hh (hv.object.fetch_field _)).bind_same fun field => ?_
  exact (hv.safeDelete hname).bind_same fun _ => hv.giveString _ field

theorem mysql_fetch_field_num (hi : param params 3 = handle) :
    Steady T RW (n_mysql_fetch_field_num env params) :=
  hv.onConnection hi fun _ hh => (hv.call hh (hv.object.fetch_field_num _)).bind_same fun field =>
    hv.giveString _ field

theorem mysql_fetch_string (hi : param params 2 = handle) :
    Steady T RW (n_mysql_fetch_string env params) :=
  hv.onConnection hi fun _ hh => (hv.call hh hv.object.fetchFirst).bind_same fun string =>
    hv.giveString _ string

theorem mysql_close (hi : param params 1 = handle) : Steady T RW (n_mysql_close env params) :=
  hv.onConnection hi fun _ hh => (hv.deleteMySQL hh).bind_same fun _ => .pure rfl

/-- **What a native comes to** depends on what the view shows, and on nothing else. -/
theorem function {name : NativeName} (env : Env) (amx : Memory) (params : List Cell)
    (hhandle : name.handle params = some handle) : Steady T RW (name.function env amx params) := by
  obtain ⟨i, hat, hi⟩ := Option.map_eq_some_iff.1 hhandle
  cases name <;> cases hat
  case mysql_connect => exact hv.mysql_connect hi
  case mysql_close => exact hv.mysql_close hi
  case mysql_refresh =>
    subst hi
    exact hv.CHECK_PARAMS (hv.CHECK_CONNECTION fun h hh => hv.call hh (hv.object.refresh _))
  case mysql_select_db => exact hv.mysql_select_db hi
  case mysql_query => exact hv.mysql_query hi
  case mysql_query_array => exact hv.mysql_query_array hi
  case mysql_set_character_set => exact hv.mysql_set_character_set hi
  case mysql_real_escape_string => exact hv.mysql_real_escape_string hi
  case mysql_fetch_row => exact hv.mysql_fetch_row hi
  case mysql_fetch_field => exact hv.mysql_fetch_field hi
  case mysql_fetch_field_num => exact hv.mysql_fetch_field_num hi
  case mysql_fetch_string => exact hv.mysql_fetch_string hi
  case mysql_data_seek => exact hv.onConnection hi fun _ hh => hv.call hh (hv.object.data_seek _)
  case mysql_store_result => exact hv.callOnly hi hv.object.store_result
  case mysql_free_result => exact hv.callOnly hi hv.object.free_result
  case mysql_result_stored => exact hv.callOnly hi hv.object.result_stored
  case mysql_fetch_row_data => exact hv.callOnly hi hv.object.fetch_row_data
  case mysql_fetch_int | mysql_fetch_float => exact hv.callOnly hi hv.object.fetchFirst
  case mysql_num_rows | mysql_num_fields => exact hv.callOnly hi (hv.object.askResult _ _)
  case mysql_affected_rows | mysql_insert_id | mysql_ping | mysql_errno | mysql_warning_count =>
    exact hv.callOnly hi (hv.object.askNumber _ _)
  case mysql_error | mysql_info | mysql_stat | mysql_get_server_info | mysql_get_host_info
      | mysql_get_character_set =>
    exact hv.tellString hi (hv.object.askText _ _ _)

end View
end Natives
end MysqlPlugin
