import MysqlPlugin.BadHandle
import MysqlPlugin.Deeds

set_option autoImplicit false

/-! # Statements in sync

A statement that produced a result set leaves it unread on the connection, and until
`mysql_store_result` has read it the library refuses every further statement there. The plugin does
not know this status: it is kept by the library, next to the plugin (`Session`), and follows from the
calls the plugin makes (`Event.unread`).

`System.status` says what each step of the plugin does to the status of a connection, in terms of
what the step is called for: a statement that returns may leave a result set, and only
`mysql_store_result` with both guards passed makes the connection ready again. So the plugin never
drains a connection on its own, and a statement finds a result set unread exactly if the scripts left
one (`Session.in_sync_iff`). -/

namespace MysqlPlugin

open Prog Natives

/-! ## What the library makes of the calls -/

/-- The statement was successful and produced a result set. -/
def Answers.leaves (lib : Answers) : Bool := lib.code = 0 && lib.rows.isSome

/-- What an event does to the status of connection `c`: afterwards a result set is unread, or none is,
    or the status is as before. A statement of a native returns at once (`leaves` says how), one of
    the worker with its `executed`. A statement that is refused changes nothing. -/
def Event.unread (leaves : Bool) (c : ℕ) : Event → Option Bool
  | .client c' function =>
    if c' ≠ c then none
    else if function = "mysql_store_result" then some false
    else if function = "mysql_real_query" ∧ leaves = true then some true
    else none
  | .executed c' _ code rows =>
    if c' = c ∧ code = 0 ∧ rows.isSome = true then some true else none
  | _ => none

/-- The changes of the status in a trace. -/
def statuses (leaves : Bool) (c : ℕ) (es : List Event) : List Bool :=
  es.filterMap (Event.unread leaves c)

section Statuses

variable {leaves : Bool} {c : ℕ} {es : List Event}

@[simp] theorem statuses_nil : statuses leaves c [] = [] := rfl

@[simp] theorem statuses_append (es es' : List Event) :
    statuses leaves c (es ++ es') = statuses leaves c es ++ statuses leaves c es' :=
  List.filterMap_append

theorem statuses_cons (e : Event) (es : List Event) :
    statuses leaves c (e :: es) = (e.unread leaves c).toList ++ statuses leaves c es := by
  rw [statuses, List.filterMap_cons, statuses]
  cases e.unread leaves c <;> rfl

/-- Events that change nothing may be left out. -/
theorem statuses_filter {p : Event → Bool}
    (h : ∀ e ∈ es, p e = false → e.unread leaves c = none) :
    statuses leaves c (es.filter p) = statuses leaves c es := by
  rw [statuses, List.filterMap_filter]
  refine List.filterMap_congr fun e he => ?_
  cases hp : p e with
  | true => rfl
  | false => exact (h e he hp).symm

theorem unread_of_plain {e : Event} (h : e.isPlain = true) : e.unread leaves c = none := by
  cases e with
  | client c' function =>
      have hno : clientDeeds.contains function = false := by simpa [Event.isPlain] using h
      simp only [clientDeeds, List.contains_eq_mem, List.mem_cons, List.not_mem_nil, or_false,
        decide_eq_false_iff_not, not_or] at hno
      simp [Event.unread, hno]
  | executed => cases h
  | _ => rfl

theorem statuses_of_plain (h : Plain es) : statuses leaves c es = [] :=
  List.filterMap_eq_nil_iff.2 fun e he => unread_of_plain (h e he)

theorem statuses_of_strings (h : OnStrings es) : statuses leaves c es = [] := by
  refine List.filterMap_eq_nil_iff.2 fun e he => ?_
  have hstring := h e he
  cases e <;> first | rfl | cases hstring

@[simp] theorem MySQL.statuses_freedEvents (o : MySQL) : statuses leaves c o.freedEvents = [] := by
  unfold freedEvents
  split <;> rfl

/-- Where nothing belongs to the history, the deeds tell everything. -/
theorem statuses_deeds (h : history es = []) : statuses leaves c (deeds es) = statuses leaves c es := by
  refine statuses_filter fun e he hp => ?_
  have hno : e.isHistory = false := by
    simpa using List.filter_eq_nil_iff.1 h e he
  have hplain : e.isPlain = true := by simpa [hno] using hp
  exact unread_of_plain hplain

/-- Where the deeds change nothing, the history tells everything. -/
theorem statuses_history (h : statuses leaves c (deeds es) = []) :
    statuses leaves c (history es) = statuses leaves c es := by
  refine statuses_filter fun e he hp => ?_
  by_cases hplain : e.isPlain = true
  · exact unread_of_plain hplain
  · refine List.filterMap_eq_nil_iff.1 h e (mem_deeds_of_mem he ?_ hp)
    simpa using hplain

end Statuses

/-! ## What a call does to the status -/

/-- What a call on the object does to the status of its connection. -/
def MySQL.status (o : MySQL) (name : NativeName) (params : List Cell) (lib : Answers) :
    Option Bool :=
  match name with
  | .mysql_query | .mysql_query_array =>
    if param params 2 = -1 ∧ lib.leaves = true then some true else none
  | .mysql_store_result => if o.result = none ∧ o.state = 0 then some false else none
  | _ => none

namespace World

variable {N : ℕ}

/-- `my[ handle ]`, if that is inside the table. -/
def find (w : World N) : Cell → Option MySQL
  | .ofNat handle => if h : handle < N then w.my ⟨handle, h⟩ else none
  | .negSucc _ => none

@[simp] theorem find_coe (w : World N) (h : Fin N) : w.find (h : ℤ) = w.my h := dif_pos h.isLt

/-- The object that a call works on: the parameter count is right and the handle denotes a
    connection. -/
def callee (w : World N) (name : NativeName) (params : List Cell) : Option MySQL :=
  if param params 0 = name.paramCount * cellSize then
    ((name.handle params).bind w.find).filter fun o => isConnected (some o)
  else none

theorem callee_eq {w : World N} {name : NativeName} {params : List Cell} {h : Fin N} {o : MySQL}
    (hp : param params 0 = name.paramCount * cellSize) (hh : name.handle params = some (h : ℤ))
    (ho : w.my h = some o) :
    w.callee name params = if isConnected (some o) = true then some o else none := by
  rw [callee, if_pos hp, hh, Option.bind_some, find_coe, ho]
  rfl

/-- What a call of a native does to the status of connection `c`. -/
def status (w : World N) (name : NativeName) (params : List Cell) (lib : Answers) (c : ℕ) :
    Option Bool :=
  ((w.callee name params).filter fun o => o.conn = c).bind fun o => o.status name params lib

theorem status_of_callee {w : World N} {name : NativeName} {params : List Cell} {o : MySQL}
    (ho : w.callee name params = some o) (lib : Answers) (c : ℕ) :
    w.status name params lib c = if o.conn = c then o.status name params lib else none := by
  rw [status, ho]
  by_cases hc : o.conn = c
  · rw [if_pos hc, Option.filter_some_pos (by simpa using hc), Option.bind_some]
  · rw [if_neg hc, Option.filter_some_neg (by simpa using hc), Option.bind_none]

theorem status_of_no_callee {w : World N} {name : NativeName} {params : List Cell}
    (ho : w.callee name params = none) (lib : Answers) (c : ℕ) :
    w.status name params lib c = none := by
  rw [status, ho]
  rfl

end World

namespace Natives

variable {N : ℕ} {env : Env} {amx : Memory} {params : List Cell} {w w' : World N} {r : Cell}
  {es : List Event} {c : ℕ}

/-- The frame of the natives on a connection. -/
theorem statuses_frame {name : NativeName} {f label : String} {i : ℕ} {rest : Fin N → Native N Cell}
    (hi : name.handleAt = some i)
    (hrest : ∀ h o, w.my h = some o → rest h w = .ok (r, w', es) →
      statuses env.lib.leaves c es =
        (if o.conn = c then o.status name params env.lib else none).toList)
    (hok : CHECK_PARAMS params f name.paramCount 0
      (CHECK_CONNECTION env (param params i) label rest) w = .ok (r, w', es)) :
    statuses env.lib.leaves c es = (w.status name params env.lib c).toList := by
  by_cases hp : param params 0 = name.paramCount * cellSize
  · rw [check_params_eq hp] at hok
    obtain ⟨h, o, hh, ho, hcase⟩ := check_eq_ok hok
    have hcallee := World.callee_eq hp (by simp [NativeName.handle, hi, hh]) ho
    rcases hcase with ⟨hconn, hrun⟩ | ⟨hconn, herror⟩
    · rw [if_pos hconn] at hcallee
      rw [hrest h o ho hrun, World.status_of_callee hcallee]
    · rw [if_neg (by simp [hconn])] at hcallee
      obtain ⟨_, _, -, hm, -⟩ := call_eq_ok.1 herror
      rw [statuses_of_plain (MySQL.idle_Error _ _ _ _ _ _ _ hm).2,
        World.status_of_no_callee hcallee]
      rfl
  · rw [CHECK_PARAMS, if_pos hp] at hok
    cases hok
    rw [World.status_of_no_callee (if_neg hp)]
    rfl

theorem statuses_executed {q : CharPtr} {o : MySQL} (hs : history es = [])
    (hd : deeds es = o.executedDeeds q) :
    statuses env.lib.leaves c es =
      (if o.conn = c then if env.lib.leaves = true then some true else none else none).toList := by
  rw [← statuses_deeds hs, hd, MySQL.executedDeeds, statuses_append, MySQL.statuses_freedEvents]
  by_cases hc : o.conn = c <;> by_cases hl : env.lib.leaves = true <;>
    simp [statuses, Event.unread, hc, hl]

/-- Strings before a call on the object do not matter. -/
theorem statuses_getString {leaves : Bool} {addr : Cell} {rest : CharPtr → Native N Cell}
    {told : List Bool} (hrest : ∀ q w₁ es', w₁.my = w.my → rest q w₁ = .ok (r, w', es') →
      statuses leaves c es' = told)
    (hok : (GetString amx addr >>= rest) w = .ok (r, w', es)) : statuses leaves c es = told := by
  obtain ⟨q, w₁, es₁, es₂, hget, hrun, rfl⟩ := bind_eq_ok.1 hok
  have hstrings := World.strings_GetString amx addr _ _ _ _ hget
  rw [statuses_append, statuses_of_strings hstrings.events, List.nil_append]
  exact hrest q w₁ es₂ hstrings.my hrun

theorem statuses_query (hok : n_mysql_query env amx params w = .ok (r, w', es)) :
    statuses env.lib.leaves c es = (w.status .mysql_query params env.lib c).toList := by
  refine statuses_frame (i := 4) rfl (fun h o ho hrun => ?_) hok
  refine statuses_getString (fun q w₁ es' hmy hcall => ?_) hrun
  obtain ⟨o', _, ho', hm, -⟩ := call_eq_ok.1 hcall
  obtain rfl : o = o' := Option.some.inj (ho.symm.trans (hmy ▸ ho'))
  by_cases hr : param params 2 = -1
  · rw [hr] at hm
    obtain ⟨-, hs, hd⟩ := MySQL.executed_of_query_sync _ _ _ hm
    rw [statuses_executed hs hd]
    simp [MySQL.status, hr]
  · rw [MySQL.run_query_threaded _ _ _ _ hr] at hm
    cases hm
    simp [MySQL.status, hr, statuses_cons, Event.unread]

theorem statuses_query_array (hok : n_mysql_query_array env amx params w = .ok (r, w', es)) :
    statuses env.lib.leaves c es = (w.status .mysql_query_array params env.lib c).toList := by
  refine statuses_frame (i := 4) rfl (fun h o ho hrun => ?_) hok
  refine statuses_getString (fun q w₁ es' hmy hrest => ?_) hrun
  refine statuses_getString (fun extra w₂ es' hmy' hcall => ?_) hrest
  obtain ⟨o', _, ho', hm, -⟩ := call_eq_ok.1 hcall
  obtain rfl : o = o' := Option.some.inj (ho.symm.trans (hmy ▸ hmy' ▸ ho'))
  by_cases hr : param params 2 = -1
  · rw [hr] at hm
    obtain ⟨-, hs, hd⟩ := MySQL.executed_of_query_array_sync _ _ _ hm
    rw [statuses_executed hs hd]
    simp [MySQL.status, hr]
  · rw [MySQL.run_query_array_threaded _ _ _ _ hr] at hm
    cases hm
    simp [MySQL.status, hr, statuses_cons, Event.unread]

/-- `store_result` calls the library exactly if both guards are passed. -/
theorem statuses_store_result (hok : n_mysql_store_result env params w = .ok (r, w', es)) :
    statuses env.lib.leaves c es = (w.status .mysql_store_result params env.lib c).toList := by
  refine statuses_frame (i := 1) rfl (fun h o ho hcall => ?_) hok
  obtain ⟨o', _, ho', hm, -⟩ := call_eq_ok.1 hcall
  obtain rfl : o = o' := Option.some.inj (ho.symm.trans ho')
  obtain hidle | ⟨hres, hstate, -, hs, hd⟩ := MySQL.store_result_cases env hm
  · -- no call of the library, so one of the guards refused
    have hno : ¬ (o.result = none ∧ o.state = 0) := by
      rintro ⟨hres, hstate⟩
      rw [MySQL.store_result, get_bind, if_neg (by simp [hres]), if_neg (by simp [hstate])] at hm
      obtain ⟨_, _, es₁, es₂, hclient, -, rfl⟩ := bind_eq_ok.1 hm
      obtain ⟨-, -, rfl⟩ := MySQL.client_eq_ok hclient
      have hplain := hidle.2 (.client o.conn "mysql_store_result") (by simp)
      simp [Event.isPlain, clientDeeds] at hplain
    have hstatus : o.status .mysql_store_result params env.lib = none := if_neg hno
    rw [statuses_of_plain hidle.2, hstatus]
    split <;> rfl
  · have hstatus : o.status .mysql_store_result params env.lib = some false :=
      if_pos ⟨hres, hstate⟩
    rw [← statuses_deeds hs, hd, MySQL.storedDeeds, hstatus]
    cases o.mysql.bind (·.storeResult env.lib) <;> by_cases hc : o.conn = c <;>
      simp [statuses, Event.unread, hc]

/-- No other native does anything to the status. -/
theorem statuses_of_act {name : NativeName} {lib : Answers} {leaves : Bool}
    (h : w.Act name params lib es w') (hquery : name.isQuery = false)
    (hstore : name ≠ .mysql_store_result) : statuses leaves c es = [] := by
  cases h with
  | told hmy hp => exact statuses_of_plain hp
  | opened h env henv hn hfree hcreated log print hmy es' hes hp =>
      rw [hes, statuses_cons, statuses_of_plain hp]
      rfl
  | closed h o hn hp hh ho hconn hmy es' hes hes' =>
      rw [hes, statuses_cons, statuses_append, MySQL.statuses_freedEvents, statuses_of_plain hes']
      rfl
  | object h o o' hh ho hmy pre mid post hes hpre hpost ha =>
      rw [hes, statuses_append, statuses_append, statuses_of_strings hpre, statuses_of_strings hpost]
      rw [List.nil_append, List.append_nil]
      cases ha with
      | read h => exact statuses_of_plain h.plain
      | connected hn es' hs hp =>
          rw [hs, statuses_cons, statuses_of_plain hp]
          simp [Event.unread]
      | accepted q hn => simp [hquery] at hn
      | executed q hn => simp [hquery] at hn
      | stored hn => exact absurd hn hstore
      | freed hn hs hd => rw [← statuses_deeds hs, hd, MySQL.statuses_freedEvents]

/-- **What a native does to the status of a connection.** -/
theorem statuses_function (name : NativeName)
    (hok : name.function env amx params w = .ok (r, w', es)) :
    statuses env.lib.leaves c es = (w.status name params env.lib c).toList := by
  cases name with
  | mysql_query => exact statuses_query hok
  | mysql_query_array => exact statuses_query_array hok
  | mysql_store_result => exact statuses_store_result hok
  | _ =>
      have hact := (performs_function env amx params _ _ _ _ _ hok).act
      rw [statuses_of_act hact rfl nofun]
      unfold World.status
      cases ((w.callee _ params).filter fun o => o.conn = c) <;> rfl

theorem not_plain_query (c : ℕ) : ¬ (Event.client c "mysql_real_query").isPlain = true := by
  simp [Event.isPlain, clientDeeds]

/-- Only the two natives for queries submit a statement. -/
theorem isQuery_of_submits {name : NativeName} {lib : Answers} (h : w.Act name params lib es w')
    (hmem : .client c "mysql_real_query" ∈ es) : name.isQuery = true := by
  have hplain : ∀ {es' : List Event}, Plain es' → .client c "mysql_real_query" ∉ es' :=
    fun hp hin => not_plain_query c (hp _ hin)
  have hfreed : ∀ o : MySQL, .client c "mysql_real_query" ∉ o.freedEvents := by
    intro o
    unfold MySQL.freedEvents
    cases o.result <;> simp
  cases h with
  | told hmy hp => exact absurd hmem (hplain hp)
  | opened h env henv hn hfree hcreated log print hmy es' hes hp =>
      rw [hes, List.mem_cons] at hmem
      exact absurd (hmem.resolve_left nofun) (hplain hp)
  | closed h o hn hp hh ho hconn hmy es' hes hes' =>
      rw [hes, List.mem_cons, List.mem_append] at hmem
      rcases hmem.resolve_left nofun with hin | hin
      · exact absurd hin (hfreed o)
      · exact absurd hin (hplain hes')
  | object h o o' hh ho hmy pre mid post hes hpre hpost ha =>
      rw [hes, List.mem_append, List.mem_append] at hmem
      have hmid : .client c "mysql_real_query" ∈ mid :=
        (hmem.resolve_right (hpost.noClient _ _)).resolve_left (hpre.noClient _ _)
      have hdeed : .client c "mysql_real_query" ∈ deeds mid :=
        mem_deeds_of_mem hmid (by simpa using not_plain_query c) rfl
      cases ha with
      | read h => exact absurd hmid (hplain h.plain)
      | connected hn es' hs hp =>
          rw [hs, List.mem_cons] at hmid
          rcases hmid with hin | hin
          · simp at hin
          · exact absurd hin (hplain hp)
      | accepted q hn => exact hn
      | executed q hn => exact hn
      | stored hn hres hstate hs hd =>
          rw [hd, MySQL.storedDeeds] at hdeed
          cases hst : o.mysql.bind (·.storeResult lib) <;> simp [hst] at hdeed
      | freed hn hs hd =>
          rw [hd] at hdeed
          exact absurd hdeed (hfreed o)

end Natives

/-! ## What a step does to the status -/

/-- The answer to a statement of a native. -/
def Action.leaves : Action → Bool
  | .native _ _ _ _ lib => lib.leaves
  | _ => false

namespace System

variable {N : ℕ} {s s' : System N} {a : Action} {es : List Event}

/-- What a step of the plugin does to the status of connection `c`. -/
def status (s : System N) (a : Action) (c : ℕ) : Option Bool :=
  match a with
  | .worker lib =>
    match s.worker with
    | .body _ _ (.executing _ c') => if c' = c ∧ lib.leaves = true then some true else none
    | _ => none
  | .native _ name _ params lib => s.toWorld.status name params lib c
  | _ => none

/-- No statement of the two loops calls the library for more than the begin of a statement. -/
theorem statuses_workerDeeds (s : System N) (c : ℕ) : statuses false c s.workerDeeds = [] := by
  unfold workerDeeds
  cases hw : s.worker with
  | scan i => rfl
  | body h src stmt =>
      cases ho : s.my h with
      | none => simp [ho]
      | some o => cases stmt <;> simp [ho, WorkerStmt.deeds, statuses_cons, Event.unread]

theorem statuses_tickDeeds (s : System N) (c : ℕ) : statuses false c s.tickDeeds = [] := by
  refine List.filterMap_eq_nil_iff.2 fun e he => ?_
  unfold tickDeeds at he
  cases hm : s.main with
  | idle | scan => simp [hm] at he
  | body h src stmt =>
      rw [hm] at he
      cases stmt with
      | test | pop | clear => cases he
      | inCallback t amx scripts =>
          obtain ⟨p, -, rfl⟩ := List.mem_map.1 he
          rfl
      | each t scripts =>
          cases scripts with
          | nil => cases he
          | cons amx scripts =>
              simp only [TickStmt.deeds] at he
              split at he
              · rw [List.mem_singleton.1 he]
                rfl
              · cases he

theorem statuses_worker {lib : Answers} (hm : s.WorkerMove lib es s')
    (hd : deeds es = s.workerDeeds) (c : ℕ) :
    statuses false c es = (s.status (.worker lib) c).toList := by
  rw [← statuses_history (by rw [hd, statuses_workerDeeds])]
  cases hm with
  | restart i hw hfree => simp [status, hw]
  | enter i o hw ho => simp [status, hw]
  | work k src stmt o o' place _ hw ho hdoes =>
      generalize history es = told at hdoes
      cases hdoes with
      | answer q conn =>
          simp only [status, hw, statuses_cons, statuses_nil, Event.unread, Answers.leaves,
            List.append_nil, Bool.and_eq_true, decide_eq_true_eq]
      | _ => simp [status, hw, statuses_cons, Event.unread]

theorem statuses_tick (hm : s.TickMove es s') (hd : deeds es = s.tickDeeds) (c : ℕ) :
    statuses false c es = [] := by
  rw [← statuses_history (by rw [hd, statuses_tickDeeds])]
  cases hm with
  | start | finish | enter => rfl
  | work k src stmt v place _ hm hdoes =>
      generalize s.my k = found, history es = told at hdoes
      cases hdoes <;> rfl

/-- **What a step does to the status of a connection.** -/
theorem statuses_step (hstep : s.step a = .next s' es) (c : ℕ) :
    statuses a.leaves c es = (s.status a c).toList := by
  cases step_acts hstep with
  | worker lib _ _ hm hd => exact statuses_worker hm hd c
  | tick _ _ hm hd => exact statuses_tick hm hd c
  | native thread name amx params lib hr r w _ hok =>
      exact @statuses_function _ ⟨lib, s.pAmx⟩ _ _ _ _ _ _ _ name hok
  | load | unload => rfl

end System

/-! ## The plugin and the library -/

/-- The plugin, and on which connections the library keeps a result set unread. -/
structure Session (N : ℕ) where
  system : System N
  unread : ℕ → Bool

/-- The plugin with the library next to it: the last change in the events of a step is the status
    after it. -/
def sessions (N : ℕ) : Machine (Session N) Action Event Fault where
  init := ⟨System.initial, fun _ => false⟩
  step x a :=
    match x.system.step a with
    | .next s es =>
      .next ⟨s, fun c => (statuses a.leaves c es).getLast?.getD (x.unread c)⟩ es
    | .fault f => .fault f
    | .disabled => .disabled

namespace Session

variable {N : ℕ} {x x' y : Session N} {a : Action} {tr es : List Event} {c : ℕ}

theorem system_step (hstep : (sessions N).step x a = .next x' es) :
    x.system.step a = .next x'.system es ∧
      ∀ c, x'.unread c = (x.system.status a c).getD (x.unread c) := by
  simp only [sessions] at hstep
  cases hs : x.system.step a with
  | disabled => simp [hs] at hstep
  | fault f => simp [hs] at hstep
  | next s es' =>
      rw [hs] at hstep
      cases hstep
      refine ⟨rfl, fun c => ?_⟩
      simp only [System.statuses_step hs c]
      cases x.system.status a c <;> rfl

theorem step_of_system {s : System N} (hstep : x.system.step a = .next s es) :
    ∃ unread, (sessions N).step x a = .next ⟨s, unread⟩ es := by
  simp [sessions, hstep]

/-- The library next to the plugin takes no run away. -/
theorem reach_of_system {s : System N} (h : (plugin N).Reach (fun _ _ => True) tr s) :
    ∃ unread, (sessions N).Reach (fun _ _ => True) tr ⟨s, unread⟩ := by
  induction h with
  | refl => exact ⟨_, .refl⟩
  | step _ _ hstep ih =>
      obtain ⟨unread, hrun⟩ := ih
      obtain ⟨unread', hnext⟩ := step_of_system (x := ⟨_, unread⟩) hstep
      exact ⟨unread', hrun.step trivial hnext⟩

/-- The scripts owe the library a `mysql_store_result`: at some point of the run a statement left a
    result set on the connection, and no step since then made the connection ready again. -/
def Owes (tr : List Event) (x : Session N) (c : ℕ) : Prop :=
  ∃ (tr₁ : List Event) (x₁ : Session N) (a : Action) (es : List Event) (x₂ : Session N)
    (tr₂ : List Event), tr = tr₁ ++ es ++ tr₂ ∧
      (sessions N).Reach (fun _ _ => True) tr₁ x₁ ∧ (sessions N).step x₁ a = .next x₂ es ∧
        x₁.system.status a c = some true ∧
          (sessions N).Run (fun y b => y.system.status b c ≠ some false) x₂ tr₂ x

/-- What is owed is unread: nothing else makes the connection ready. -/
theorem unread_of_owes (h : Owes tr x c) : x.unread c = true := by
  obtain ⟨tr₁, x₁, a, es, x₂, tr₂, -, -, hstep, hleft, hrun⟩ := h
  have hunread : x₂.unread c = true := by
    rw [(system_step hstep).2, hleft]
    rfl
  -- after the statement that left it no step takes it away
  refine hrun.invariant (I := fun y => y.unread c = true) ?_ hunread
  intro y b es y' hy hkeep hstep
  rw [(system_step hstep).2]
  cases hs : y.system.status b c with
  | none => exact hy
  | some unread =>
      cases unread with
      | true => rfl
      | false => exact absurd hs hkeep

/-- And what is unread is owed. -/
theorem owes_of_unread (hreach : (sessions N).Reach (fun _ _ => True) tr x)
    (h : x.unread c = true) : Owes tr x c := by
  -- on the run: the last step that set the status left the result set
  induction hreach with
  | refl => cases h
  | @step tr x a es x' hrun _ hstep ih =>
      have hafter := (system_step hstep).2 c
      rw [h] at hafter
      cases hs : x.system.status a c with
      | none =>
          rw [hs] at hafter
          obtain ⟨tr₁, x₁, b, es₁, x₂, tr₂, rfl, hreach, hleave, hleft, hrun'⟩ := ih hafter.symm
          refine ⟨tr₁, x₁, b, es₁, x₂, tr₂ ++ es, by simp, hreach, hleave, hleft, ?_⟩
          exact hrun'.step (by simp [hs]) hstep
      | some unread =>
          cases unread with
          | true => exact ⟨tr, x, a, es, x', [], by simp, hrun, hstep, hs, .refl⟩
          | false =>
              rw [hs] at hafter
              cases hafter

/-- Only a query submits a statement on the connection, and it never makes it ready. -/
theorem status_of_query (hstep : (sessions N).step x a = .next x' es)
    (hquery : .client c "mysql_real_query" ∈ es) : x.system.status a c ≠ some false := by
  obtain ⟨hsystem, -⟩ := system_step hstep
  generalize x'.system = s' at hsystem
  cases System.step_acts hsystem with
  | worker lib =>
      unfold System.status
      cases x.system.worker with
      | scan i => simp
      | body h src stmt =>
          cases stmt with
          | executing q c' =>
              simp only
              split <;> simp
          | _ => simp
  | tick | load | unload => simp [System.status]
  | native thread name amx params lib hr r w _ hok =>
      have hname := isQuery_of_submits (performs_function _ amx params name _ _ _ _ hok).act hquery
      simp only [System.status, World.status]
      cases (x.system.callee name params).filter fun o => o.conn = c with
      | none => simp
      | some o =>
          cases name with
          | mysql_query | mysql_query_array =>
              simp only [Option.bind_some, MySQL.status]
              split <;> simp
          | _ => cases hname

/-- **When statements are submitted in sync.** In every run, a statement that is submitted on a
    connection finds no result set unread there exactly if the scripts owe none: if since the last
    statement on it that was successful and produced a result set, `mysql_store_result` was called
    while `result` was `NULL` and `state` was 0. A statement that finds one leaves it there for the
    next. -/
theorem in_sync_iff (hreach : (sessions N).Reach (fun _ _ => True) tr x)
    (hstep : (sessions N).step x a = .next x' es) (hquery : .client c "mysql_real_query" ∈ es) :
    (x.unread c = false ↔ ¬ Owes tr x c) ∧ (x.unread c = true → x'.unread c = true) := by
  refine ⟨?_, fun hunread => ?_⟩
  · rw [← Bool.not_eq_true, not_iff_not]
    exact ⟨owes_of_unread hreach, unread_of_owes⟩
  · rw [(system_step hstep).2]
    cases hs : x.system.status a c with
    | none => exact hunread
    | some unread =>
        cases unread with
        | true => rfl
        | false => exact absurd hs (status_of_query hstep hquery)

/-- The answer to a statement that produced a result set. -/
def rows : Answers := { rows := some ⟨["a"], [[some "1"]]⟩ }

/-- Where a list of actions leads. -/
def after {N : ℕ} (actions : List Action) (x : Session N) : Session N × List Event :=
  ((sessions N).exec actions x).getD (x, [])

/-- A synchronous query whose result set is stored. -/
def storing : List Action :=
  [Script.mysql_init, Script.mysql_connect 0, Script.mysql_query (-1) 0 0 rows,
    Script.mysql_store_result 0]

/-- A result set that was stored is owed no more. -/
theorem in_sync_after_store :
    ¬ Owes (after storing (sessions 1).init).2 (after storing (sessions 1).init).1 0 := by
  have hreach := Machine.run_of_exec (M := sessions 1) (P := fun _ _ => True)
    (show (sessions 1).exec storing (sessions 1).init = some (after storing (sessions 1).init)
      from rfl)
    (Machine.obeys_all _ _)
  have hstep : (sessions 1).step (after storing (sessions 1).init).1
      (Script.mysql_query (-1) 0 0) =
        .next (after [Script.mysql_query (-1) 0 0] (after storing (sessions 1).init).1).1
          (after [Script.mysql_query (-1) 0 0] (after storing (sessions 1).init).1).2 := rfl
  exact (in_sync_iff hreach hstep (by decide)).1.1 rfl

/-- A threaded query is executed and delivered, but no script defines the callback; then the worker
    has copied the next one. -/
def undelivered : List Action :=
  [Script.mysql_init, Script.mysql_connect 0, Script.mysql_query 7 5 0] ++ Script.work 11 rows ++
    Script.ticks 7 ++ [Script.mysql_query 8 5 0] ++ Script.work 2

/-- Nobody stored the result set of the first query, and the worker submits the second one out of
    sync. -/
theorem submitted_out_of_sync :
    ¬ ∀ (N : ℕ) (tr : List Event) (x x' : Session N) (a : Action) (es : List Event) (c : ℕ),
      (sessions N).Reach (fun _ _ => True) tr x → (sessions N).step x a = .next x' es →
        .client c "mysql_real_query" ∈ es → x.unread c = false := by
  intro hall
  have hreach := Machine.run_of_exec (M := sessions 2) (P := fun _ _ => True)
    (show (sessions 2).exec undelivered (sessions 2).init =
      some (after undelivered (sessions 2).init) from rfl)
    (Machine.obeys_all _ _)
  have hstep : (sessions 2).step (after undelivered (sessions 2).init).1 (.worker {}) =
      .next (after [.worker {}] (after undelivered (sessions 2).init).1).1
        (after [.worker {}] (after undelivered (sessions 2).init).1).2 := rfl
  have hready := hall 2 _ _ _ _ _ 0 hreach hstep (by decide)
  cases hready

end Session

end MysqlPlugin
