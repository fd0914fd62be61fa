import MysqlPlugin.Coherence
import MysqlPlugin.Fetching
import MysqlPlugin.Statement

set_option autoImplicit false

/-! # The guards of `store_result`

`store_result` goes on when no result set is stored and `state` is zero. That is meant to say that the
statement executed last succeeded and that its result set is still to be had. Here a handle is followed
through queries, fetches and the statements of the query thread, with a note of the statement executed
last (`HandleState.last`). The two members follow the note with two exceptions. A query for the thread
frees the stored result set when it is queued, and `state` speaks of the old statement until it is
executed. And a `mysql_store_result` that fails in the library has read the result set off the
connection, but it leaves `result` at `NULL` and `state` at zero (`guards_sound_iff`). -/

namespace MysqlPlugin

open Prog

/-- The statement executed last: whether it succeeded, whether a `store_result` has taken its result
    set off the connection, and whether a `free_result` came after it. -/
structure Executed where
  succeeded : Bool
  taken : Bool
  discarded : Bool
  deriving DecidableEq, Repr

/-- The object of a handle, the place of the query thread in its body for that handle, and the
    statement executed last on the connection, which no code knows of. -/
structure HandleState where
  this : MySQL
  worker : WorkerStmt
  last : Option Executed

/-- What can happen next: a call of a member function, a statement of the query thread, and the two
    statements of `ProcessTick` that change the object. -/
inductive HandleAction
  | query (env : Env) (query : CharPtr) (resultid extra : Cell)
  | query_array (env : Env) (query : CharPtr) (resultid : Cell) (extra : CharPtr)
  | store_result (env : Env)
  | free_result
  | fetch (env : Env) (call : FetchCall)
  | worker (env : Env)
  | popEntry (t : ThreadInfo)
  | clearParsing

namespace HandleAction

/-- The code behind an action; the result is where the query thread stands afterwards. -/
def method (worker : WorkerStmt) : HandleAction → Method WorkerStmt
  | .query env q resultid extra => do
    let _ ← MySQL.query env q resultid extra
    return worker
  | .query_array env q resultid extra => do
    let _ ← MySQL.query_array env q resultid extra
    return worker
  | .store_result env => do
    let _ ← MySQL.store_result env
    return worker
  | .free_result => do
    let _ ← MySQL.free_result
    return worker
  | .fetch env call => do
    let _ ← call.method env
    return worker
  | .worker env => do
    match ← QueryThread.statement env (0 : Fin 1) 0 worker with
    | .scan _ => return .test
    | .body _ _ next => return next
  | .popEntry t => do
    let _ ← ProcessTick.popEntry (0 : Fin 1) 0 t
    return worker
  | .clearParsing => do
    let _ ← ProcessTick.clearParsing (0 : Fin 1)
    return worker

/-- A `store_result` passes both guards, and a result set was left unread on the connection. The
    library takes it off there, whether or not it can hand it out. -/
def takes (s : HandleState) : HandleAction → Bool
  | .store_result _ =>
    s.this.result.isNone && s.this.state == 0 && s.this.mysql.any (·.unread.isSome)
  | _ => false

/-- The library cannot hand it out. -/
def loses (s : HandleState) (a : HandleAction) : Bool :=
  match a with
  | .store_result env => a.takes s && !env.lib.store
  | _ => false

/-- The statement executed last, after an action. -/
def last (s : HandleState) (a : HandleAction) : Option Executed :=
  match a with
  | .query env _ resultid _ | .query_array env _ resultid _ =>
    if resultid = -1 then some ⟨env.lib.code = 0, false, false⟩ else s.last
  | .store_result _ =>
    if a.takes s then s.last.map fun last => { last with taken := true } else s.last
  | .free_result => s.last.map fun last => { last with discarded := true }
  | .worker env =>
    match s.worker with
    | .executing _ _ => some ⟨env.lib.code = 0, false, false⟩
    | _ => s.last
  | _ => s.last

/-- A query is queued for the query thread. -/
def queues : HandleAction → Bool
  | .query _ _ resultid _ | .query_array _ _ resultid _ => resultid ≠ -1
  | _ => false

end HandleAction

/-- A handle, and what happens to it. -/
def handle (start : HandleState) : Machine HandleState HandleAction Event Fault where
  init := start
  step s a :=
    match a.method s.worker s.this with
    | .error f => .fault f
    | .ok (worker, this, es) => .next ⟨this, worker, a.last s⟩ es

namespace HandleState

/-! ## What an action does -/

/-- What an action does to the two members and the statement executed last. -/
inductive Moves (s : HandleState) (a : HandleAction) (s' : HandleState) : Prop
  | executed (hlast : s'.last = some ⟨s'.this.state = 0, false, false⟩)
  | queued (hqueues : a.queues = true) (hstate : s'.this.state = s.this.state)
      (hlast : s'.last = s.last)
  | stored (hres : s'.this.result.isSome = true) (hstate : s'.this.state = s.this.state)
      (hlast : s'.last = s.last.map fun last => { last with taken := true })
  | lost (hloses : a.loses s = true) (hstate : s'.this.state = s.this.state)
      (hlast : s'.last = s.last.map fun last => { last with taken := true })
  | freed (hstate : s'.this.state = -1)
      (hlast : s'.last = s.last.map fun last => { last with discarded := true })
  | kept (hres : s'.this.result.isSome = s.this.result.isSome)
      (hstate : s'.this.state = s.this.state) (hlast : s'.last = s.last)

variable {s s' start : HandleState} {a : HandleAction} {es : List Event}

theorem of_then {α β : Type} {m : Method α} {b b' : β} {o o' : MySQL}
    (h : (do let _ ← m; return b) o = .ok (b', o', es)) : ∃ r es', m o = .ok (r, o', es') := by
  obtain ⟨r, o₁, es₁, _, hm, ⟨⟩, -⟩ := bind_eq_ok.1 h
  exact ⟨r, es₁, hm⟩

/-- `store_result` keeps a result set if one is unread and the library can hand it out. -/
theorem isSome_storing (lib : Answers) (o : MySQL) :
    (o.storing lib).result.isSome = (lib.store && o.mysql.any (·.unread.isSome)) := by
  cases hm : o.mysql with
  | none => simp [MySQL.storing, hm]
  | some c => cases hstore : lib.store <;> simp [MySQL.storing, MYSQL.storeResult, hm, hstore]

/-- The conditions under which a `store_result` takes a result set. -/
theorem takes_store_result {env : Env} : (HandleAction.store_result env).takes s = true ↔
    s.this.result = none ∧ s.this.state = 0 ∧ ∃ c, s.this.mysql = some c ∧ c.unread.isSome = true := by
  simp [HandleAction.takes, and_assoc, Option.any_eq_true]

/-- A `store_result` that takes a result set goes through to the end. -/
theorem run_of_takes {env : Env} (htakes : (HandleAction.store_result env).takes s = true) :
    ∃ r es, MySQL.store_result env s.this = .ok (r, s.this.storing env.lib, es) := by
  obtain ⟨hnone, hzero, c, hc, -⟩ := takes_store_result.1 htakes
  obtain ⟨r, es, hrun, -⟩ := MySQL.run_store_result env hnone hzero hc
  exact ⟨r, es, hrun⟩

/-- What a `store_result` does: it stores the unread result set, or loses it, or there is none. -/
theorem moves_of_store_result {env : Env} {r : ℤ} {o' : MySQL} {worker : WorkerStmt}
    (hrun : MySQL.store_result env s.this = .ok (r, o', es)) :
    Moves s (.store_result env) ⟨o', worker, (HandleAction.store_result env).last s⟩ := by
  by_cases htakes : (HandleAction.store_result env).takes s = true
  · obtain ⟨r', es', hrun'⟩ := run_of_takes htakes
    rw [hrun'] at hrun
    cases hrun
    obtain ⟨-, -, c, hc, hunread⟩ := takes_store_result.1 htakes
    cases hstore : env.lib.store with
    | true => exact .stored (by simp [isSome_storing, hstore, hc, hunread]) rfl (if_pos htakes)
    | false => exact .lost (by simp [HandleAction.loses, htakes, hstore]) rfl (if_pos htakes)
  · obtain ⟨rfl, -⟩ | ⟨hnone, hzero, rfl, -⟩ := MySQL.store_result_cases env hrun
    · exact .kept rfl rfl (if_neg htakes)
    · -- the guards pass, so nothing was unread
      have hread : s.this.mysql.any (·.unread.isSome) = false := Bool.eq_false_iff.2 fun hunread =>
        htakes (takes_store_result.2 ⟨hnone, hzero, (Option.any_eq_true _ _).1 hunread⟩)
      refine .kept ?_ rfl (if_neg htakes)
      rw [isSome_storing, hnone, hread, Bool.and_false]
      rfl

/-- A fetch call only reads. -/
theorem reads_method (env : Env) (call : FetchCall) : Stays MySQL.Reads (call.method env) := by
  cases call with
  | fetch_row splitter =>
      exact MySQL.reads_bind (MySQL.reads_fetch_row env splitter) fun _ => MySQL.reads_pure _
  | fetch_row_data => exact MySQL.reads_bind (MySQL.reads_fetch_row_data env) fun _ => MySQL.reads_pure _
  | fetch_int | fetch_float | fetch_string =>
      exact MySQL.reads_bind (MySQL.reads_fetchFirst env _ _ _ _ _) fun _ => MySQL.reads_pure _
  | fetch_field fieldname =>
      exact MySQL.reads_bind (MySQL.reads_fetch_field env fieldname) fun _ => MySQL.reads_pure _
  | fetch_field_num fieldnum =>
      exact MySQL.reads_bind (MySQL.reads_fetch_field_num env fieldnum) fun _ => MySQL.reads_pure _

/-- Of the statements of the query thread, only the end of `mysql_real_query` does something. -/
theorem moves_of_does {o o' : MySQL} {stmt worker : WorkerStmt} {last : Option Executed} {env : Env}
    {src : ℕ} {place : Option (ℕ × WorkerStmt)} (hdoes : stmt.Does env.lib src o es o' place) :
    Moves ⟨o, stmt, last⟩ (.worker env)
      ⟨o', worker, (HandleAction.worker env).last ⟨o, stmt, last⟩⟩ := by
  cases hdoes with
  | answer q conn => exact .executed rfl
  | _ => exact .kept rfl rfl rfl

/-- **What every action does** to the two members and the statement executed last. -/
theorem moves_of_step (hstep : (handle start).step s a = .next s' es) : s.Moves a s' := by
  simp only [handle] at hstep
  cases hok : a.method s.worker s.this with
  | error f => simp [hok] at hstep
  | ok r =>
      obtain ⟨worker, this, es'⟩ := r
      rw [hok] at hstep
      cases hstep
      cases a with
      | query env q resultid extra =>
          obtain ⟨r, es₁, hrun⟩ := of_then hok
          by_cases hr : resultid = -1
          · subst hr
            obtain ⟨rfl, -⟩ := MySQL.executed_of_query_sync env q extra hrun
            exact .executed rfl
          · rw [MySQL.run_query_threaded env q resultid extra hr] at hrun
            cases hrun
            exact .queued (decide_eq_true hr) rfl (if_neg hr)
      | query_array env q resultid extra =>
          obtain ⟨r, es₁, hrun⟩ := of_then hok
          by_cases hr : resultid = -1
          · subst hr
            obtain ⟨rfl, -⟩ := MySQL.executed_of_query_array_sync env q extra hrun
            exact .executed rfl
          · rw [MySQL.run_query_array_threaded env q extra resultid hr] at hrun
            cases hrun
            exact .queued (decide_eq_true hr) rfl (if_neg hr)
      | store_result env =>
          obtain ⟨r, es₁, hrun⟩ := of_then hok
          exact moves_of_store_result hrun
      | free_result =>
          obtain ⟨r, es₁, hrun⟩ := of_then hok
          obtain ⟨rfl, -⟩ := MySQL.freed_of_free_result hrun
          exact .freed rfl rfl
      | fetch env call =>
          obtain ⟨r, es₁, hrun⟩ := of_then hok
          have hreads := reads_method env call _ _ _ _ hrun
          have hstate : this.state = s.this.state := by rw [hreads.same]
          exact .kept (by simpa using congrArg Option.isSome hreads.result) hstate rfl
      | worker env =>
          obtain ⟨pc, o₁, es₁, es₂, hrun, hret, -⟩ := bind_eq_ok.1 hok
          obtain ⟨place, hdoes, -⟩ := QueryThread.statement_does hrun
          have hthis : this = o₁ := by cases pc <;> cases hret <;> rfl
          subst hthis
          exact moves_of_does hdoes
      | popEntry t =>
          obtain ⟨r, es₁, hrun⟩ := of_then hok
          obtain ⟨front, rest, -, hthis, -, -⟩ := ProcessTick.popEntry_eq_ok hrun
          subst hthis
          exact .kept rfl rfl rfl
      | clearParsing =>
          obtain ⟨r, es₁, hrun⟩ := of_then hok
          cases hrun
          exact .kept rfl rfl rfl

/-! ## The guards -/

/-- When `store_result` passes both guards, the statement executed last succeeded, and its result set
    is neither taken nor discarded. -/
def Sound (s : HandleState) : Prop :=
  s.this.result = none → s.this.state = 0 → s.last = some ⟨true, false, false⟩

/-- `state` is zero exactly if the statement executed last succeeded and no `free_result` followed. -/
def Tracked (s : HandleState) : Prop :=
  s.this.state = 0 ↔ ∃ taken, s.last = some ⟨true, taken, false⟩

/-- The discipline that keeps the guards sound: no query is queued between the `store_result` that
    takes a result set and the next statement or `free_result`, and no `store_result` finds a result
    set that the library cannot hand out. -/
structure Disciplined (s : HandleState) (a : HandleAction) : Prop where
  queues : a.queues = true → s.last ≠ some ⟨true, true, false⟩
  loses : a.loses s = false

theorem not_disciplined {s : HandleState} {a : HandleAction} :
    ¬ Disciplined s a ↔
      (a.queues = true ∧ s.last = some ⟨true, true, false⟩) ∨ a.loses s = true := by
  constructor
  · intro h
    by_contra hnot
    obtain ⟨hqueues, hloses⟩ := not_or.1 hnot
    exact h ⟨fun hq htaken => hqueues ⟨hq, htaken⟩, Bool.eq_false_iff.2 hloses⟩
  · rintro (⟨hqueues, htaken⟩ | hloses) h
    · exact h.queues hqueues htaken
    · exact absurd (h.loses.symm.trans hloses) Bool.false_ne_true

theorem tracked_of_moves (h : s.Moves a s') (ht : s.Tracked) : s'.Tracked := by
  unfold Tracked at *
  cases h with
  | executed hlast => simp [hlast]
  | queued hqueues hstate hlast => rw [hstate, hlast, ht]
  | stored hmark hstate hlast | lost hmark hstate hlast =>
      rw [hstate, hlast, ht]
      cases s.last with
      | none => simp
      | some last =>
          obtain ⟨succeeded, taken, discarded⟩ := last
          cases succeeded <;> cases taken <;> cases discarded <;> simp
  | freed hstate hlast =>
      rw [hstate, hlast]
      cases s.last with
      | none => simp
      | some last => simp
  | kept hres hstate hlast => rw [hstate, hlast, ht]

theorem sound_of_moves (h : s.Moves a s') (ht : s.Tracked) (hs : s.Sound)
    (hP : Disciplined s a) : s'.Sound := by
  intro hnone hzero
  cases h with
  | executed hlast => simp [hlast, hzero]
  | queued hqueues hstate hlast =>
      rw [hstate] at hzero
      obtain ⟨taken, hlast'⟩ := ht.1 hzero
      cases taken with
      | false => rw [hlast, hlast']
      | true => exact absurd hlast' (hP.queues hqueues)
  | stored hres hstate hlast => simp [hnone] at hres
  | lost hloses hstate hlast => exact absurd (hP.loses.symm.trans hloses) Bool.false_ne_true
  | freed hstate hlast =>
      rw [hstate] at hzero
      cases hzero
  | kept hres hstate hlast =>
      rw [hnone] at hres
      rw [hlast]
      exact hs (by simpa using hres.symm) (hstate ▸ hzero)

theorem step_of_method {worker : WorkerStmt} {o : MySQL}
    (h : a.method s.worker s.this = .ok (worker, o, es)) :
    (handle start).step s a = .next ⟨o, worker, a.last s⟩ es := by
  simp only [handle, h]

/-- A query that is queued after the result set was taken leaves guards that are not sound. -/
theorem breaks_of_queues (start : HandleState) (ht : s.Tracked) (hqueues : a.queues = true)
    (htaken : s.last = some ⟨true, true, false⟩) :
    ∃ s' es, (handle start).step s a = .next s' es ∧ ¬ s'.Sound := by
  have hzero : s.this.state = 0 := ht.2 ⟨true, htaken⟩
  have hbroken : ∀ (o : MySQL) (worker : WorkerStmt) (last : Option Executed), o.result = none →
      o.state = s.this.state → last = s.last → ¬ Sound ⟨o, worker, last⟩ := by
    intro o worker last hnone hstate hlast hsound
    have hfresh : last = some ⟨true, false, false⟩ := hsound hnone (hstate.trans hzero)
    rw [hlast, htaken] at hfresh
    cases hfresh
  cases a with
  | query env q resultid extra =>
      have hr : resultid ≠ -1 := of_decide_eq_true hqueues
      have hmethod : (HandleAction.query env q resultid extra).method s.worker s.this = _ :=
        bind_of_ok (MySQL.run_query_threaded env q resultid extra hr s.this)
      exact ⟨_, _, step_of_method hmethod, hbroken _ _ _ rfl rfl (if_neg hr)⟩
  | query_array env q resultid extra =>
      have hr : resultid ≠ -1 := of_decide_eq_true hqueues
      have hmethod : (HandleAction.query_array env q resultid extra).method s.worker s.this = _ :=
        bind_of_ok (MySQL.run_query_array_threaded env q extra resultid hr s.this)
      exact ⟨_, _, step_of_method hmethod, hbroken _ _ _ rfl rfl (if_neg hr)⟩
  | _ => cases hqueues

/-- So does a `store_result` whose result set the library cannot hand out. -/
theorem breaks_of_loses (start : HandleState) (hs : s.Sound) (hloses : a.loses s = true) :
    ∃ s' es, (handle start).step s a = .next s' es ∧ ¬ s'.Sound := by
  cases a with
  | store_result env =>
      obtain ⟨htakes, hstore⟩ := Bool.and_eq_true_iff.1 hloses
      obtain ⟨hnone, hzero, -⟩ := takes_store_result.1 htakes
      obtain ⟨r, es, hrun⟩ := run_of_takes htakes
      have hmethod : (HandleAction.store_result env).method s.worker s.this = _ := bind_of_ok hrun
      refine ⟨_, _, step_of_method hmethod, fun hsound => ?_⟩
      have hgone : (s.this.storing env.lib).result = none := by
        have hfails : env.lib.store = false := by simpa using hstore
        simpa [hfails] using isSome_storing env.lib s.this
      -- the two members have not moved, but the result set is taken
      have htaken : (HandleAction.store_result env).last s = some ⟨true, true, false⟩ := by
        rw [HandleAction.last, if_pos htakes, hs hnone hzero]
        rfl
      have hfresh := hsound hgone hzero
      rw [htaken] at hfresh
      cases hfresh
  | _ => cases hloses

/-- A handle that was just opened and connected: nothing was executed yet. -/
def opened (env : Env) (conn id : ℕ) (lib : Answers) (log : ℤ) (print : Bool) : HandleState :=
  ⟨((MySQL.new env conn id).initialised lib log print).reconnected true, .test, none⟩

/-- **The guards of `store_result`, exactly**: from a new connection through any sequence of actions,
    they are sound in every state if and only if no query is queued while a result set taken from the
    statement executed last has not been freed by `free_result`, and the library hands out every
    result set a `store_result` finds. -/
theorem guards_sound_iff (env : Env) (conn id : ℕ) (lib : Answers) (log : ℤ) (print : Bool)
    (actions : List HandleAction) :
    (handle (opened env conn id lib log print)).Throughout Sound actions
        (opened env conn id lib log print) ↔
      (handle (opened env conn id lib log print)).Obeys Disciplined actions
        (opened env conn id lib log print) := by
  have hnot : (opened env conn id lib log print).this.state ≠ 0 := by
    change (-1 : ℤ) ≠ 0
    decide
  have hsound : (opened env conn id lib log print).Sound := fun _ hzero => absurd hzero hnot
  have htracked : (opened env conn id lib log print).Tracked := by
    refine ⟨fun hzero => absurd hzero hnot, ?_⟩
    rintro ⟨taken, hlast⟩
    cases hlast
  rw [Machine.throughout_iff_obeys (J := Tracked) (P := Disciplined) ?_ ?_ ?_ htracked]
  · exact and_iff_right hsound
  · intro s a s' es ht hstep
    exact tracked_of_moves (moves_of_step hstep) ht
  · intro s a s' es ht hs hP hstep
    exact sound_of_moves (moves_of_step hstep) ht hs hP
  · intro s a ht hs hP
    obtain ⟨hqueues, htaken⟩ | hloses := not_disciplined.1 hP
    · exact breaks_of_queues _ ht hqueues htaken
    · exact breaks_of_loses _ hs hloses

/-- A result set is taken, and a query is queued: `store_result` would go on, before that query is
    executed. -/
theorem taken_result_unguarded :
    ¬ ∀ (env : Env) (conn id : ℕ) (lib : Answers) (log : ℤ) (print : Bool)
      (actions : List HandleAction),
      (handle (opened env conn id lib log print)).Throughout Sound actions
        (opened env conn id lib log print) := by
  intro hall
  have hthroughout := hall ⟨{}, []⟩ 0 0 {} 0 false
    [.query ⟨{ rows := some ⟨["a"], [[some "1"]]⟩ }, []⟩ ⟨0, "S"⟩ (-1) 0, .store_result ⟨{}, []⟩,
      .query ⟨{}, []⟩ ⟨1, "T"⟩ 0 0]
  have hlast := hthroughout.2.2.2 rfl rfl
  exact absurd hlast (by decide)

end HandleState
end MysqlPlugin
