import MysqlPlugin.Reentrancy

set_option autoImplicit false

/-! # What a callback finds on its connection

Between the worker's `mysql_real_query` and the callback for its result, the result set is on the
connection, not in the entry. Nothing guards it there: a synchronous query, `mysql_store_result` or
`mysql_free_result` in between takes it away, and so does the callback of another script for the same
entry. If no such call is made, the callback finds the connection as the statement it is called for
left it (`System.callback_finds_result`). -/

namespace MysqlPlugin

open Prog Natives History

/-! ## Leaving the result on the connection -/

/-- The calls that the result of a threaded query does not survive: they close or reconnect the
    connection, submit another statement on it, or store or free a result. -/
def NativeName.spoils (n : NativeName) (params : List Cell) : Bool :=
  match n with
  | .mysql_close | .mysql_connect | .mysql_store_result | .mysql_free_result => true
  | .mysql_query | .mysql_query_array => param params 2 = -1
  | _ => false

/-- The entry executed last, with the code and the result set of the server's answer. -/
def History.lastExecuted (L : List Event) : Option (QueryInfo × ℤ × Option ResultSet) :=
  (L.filterMap fun | .executed _ q code rows => some (q, code, rows) | _ => none).getLast?

theorem lastExecuted_append {L es : List Event} (hes : executed es = []) :
    lastExecuted (L ++ es) = lastExecuted L := by
  have hnone : (es.filterMap fun
      | .executed _ q code rows => some (q, code, rows)
      | _ => none) = ([] : List (QueryInfo × ℤ × Option ResultSet)) := by
    rw [executed, List.filterMap_eq_nil_iff] at hes
    refine List.filterMap_eq_nil_iff.2 fun e he => ?_
    have hnot := hes e he
    cases e with
    | executed => cases hnot
    | _ => rfl
  rw [lastExecuted, List.filterMap_append, hnone, List.append_nil]
  rfl

theorem lastExecuted_executed {L : List Event} {c : ℕ} {q : QueryInfo} {code : ℤ}
    {rows : Option ResultSet} :
    lastExecuted (L ++ [.executed c q code rows]) = some (q, code, rows) := by
  simp [lastExecuted]

theorem lastExecuted_of_some {L L' : List Event} {x : QueryInfo × ℤ × Option ResultSet}
    (hx : lastExecuted L' = some x) : lastExecuted (L ++ L') = some x := by
  unfold lastExecuted at *
  rw [List.filterMap_append, List.getLast?_append, hx]
  rfl

namespace MySQL

/-- The connection is as the successful statement of `q` left it, and nothing was executed on it
    since. -/
structure LeftBy (L : List Event) (o : MySQL) (q : QueryInfo) (rows : Option ResultSet) : Prop where
  executed : lastExecuted L = some (q, 0, rows)
  connection : ∃ c, o.mysql = some c ∧ c.submitted = some q.query.text ∧ c.unread = rows
  state : o.state = 0

theorem LeftBy.later {L es : List Event} {o o' : MySQL} {q : QueryInfo} {rows : Option ResultSet}
    (hl : LeftBy L o q rows) (hes : History.executed es = []) (hmysql : o'.mysql = o.mysql)
    (hstate : o'.state = o.state) : LeftBy (L ++ es) o' q rows where
  executed := by rw [lastExecuted_append hes, hl.executed]
  connection := by rw [hmysql]; exact hl.connection
  state := hstate.trans hl.state

end MySQL

namespace Slot

/-- No script makes a call on handle `h` that the result of a threaded query does not survive. -/
def LeavesResult (h : ℕ) (a : Action) : Prop :=
  ∀ thread name amx params lib, a = .native thread name amx params lib →
    name.handle params = some (h : ℤ) → name.spoils params = false

theorem leavesResult_of_not_native {h : ℕ} {a : Action} (ha : a.isNative = false) :
    LeavesResult h a := by
  rintro thread name amx params lib rfl
  cases ha

theorem LeavesResult.closesQuietly {h : ℕ} {a : Action} {v : Slot} (ha : LeavesResult h a) :
    v.ClosesQuietly h a := by
  have hnot : ¬ v.Closes h a := by
    rintro ⟨thread, amx, params, lib, hact, -, hh, -⟩
    cases ha thread .mysql_close amx params lib hact (congrArg some hh)
  exact ⟨fun hc => absurd hc hnot, fun hc => absurd hc hnot⟩

/-- What the worker knows of the connection, from the submission of a statement to the hand-over of
    its result. -/
def Pending (L : List Event) (o : MySQL) : Option (ℕ × WorkerStmt) → Prop
  | some (_, .executing q _) => ∃ c, o.mysql = some c ∧ c.submitted = some q.query.text
  | some (_, .logExecuted q) | some (_, .branch q) => o.state = 0 → ∃ rows, o.LeftBy L q rows
  | some (_, .setParsing q t) | some (_, .push q t) =>
    t = q.toThreadInfo ∧ ∃ rows, o.LeftBy L q rows
  | _ => True

/-- A result that waits in `threadQueue` is still on the connection. -/
structure HandsOver (L : List Event) (o : MySQL) (w : Option (ℕ × WorkerStmt)) : Prop where
  result : o.result = none
  pending : Pending L o w
  waiting : ∀ t ∈ o.threadQueue, ∃ q rows, t = q.toThreadInfo ∧ o.LeftBy L q rows

variable {L es : List Event} {o o' : MySQL} {w : Option (ℕ × WorkerStmt)}

/-- Nothing that matters happened on the connection. -/
theorem HandsOver.later (hh : HandsOver L o w) (hes : executed es = [])
    (hmysql : o'.mysql = o.mysql) (hstate : o'.state = o.state) (hresult : o'.result = none)
    (hqueue : ∀ t ∈ o'.threadQueue, t ∈ o.threadQueue) : HandsOver (L ++ es) o' w := by
  refine ⟨hresult, ?_, fun t ht => ?_⟩
  · have hpending := hh.pending
    rcases w with _ | ⟨src, stmt⟩
    · trivial
    · cases stmt with
      | executing q c =>
          obtain ⟨c, hc, hsub⟩ := hpending
          exact ⟨c, hmysql.trans hc, hsub⟩
      | logExecuted q | branch q =>
          intro hzero
          obtain ⟨rows, hleft⟩ := hpending (hstate.symm.trans hzero)
          exact ⟨rows, hleft.later hes hmysql hstate⟩
      | setParsing q t | push q t =>
          obtain ⟨ht, rows, hleft⟩ := hpending
          exact ⟨ht, rows, hleft.later hes hmysql hstate⟩
      | test | submit | clearParsing | callError | inError | logResult | pop => trivial
  · obtain ⟨q, rows, ht', hleft⟩ := hh.waiting t (hqueue t ht)
    exact ⟨q, rows, ht', hleft.later hes hmysql hstate⟩

theorem HandsOver.worker {lib : Answers} {src : ℕ} {stmt : WorkerStmt}
    {place : Option (ℕ × WorkerStmt)} (hh : HandsOver L o (some (src, stmt)))
    (hbox : stmt.role ≠ .away → o.threadQueue = []) (hsound : stmt.Sound src o)
    (hd : stmt.Does lib src o es o' place) : HandsOver (L ++ es) o' place := by
  obtain ⟨hresult, hpending, hwaiting⟩ := hh
  have hlater : ∀ {o'' : MySQL}, executed es = [] → o''.mysql = o.mysql → o''.state = o.state →
      o''.threadQueue = o.threadQueue →
      ∀ t ∈ o''.threadQueue, ∃ q rows, t = q.toThreadInfo ∧ o''.LeftBy (L ++ es) q rows := by
    intro o'' hes hmysql hstate hqueue t ht
    obtain ⟨q, rows, ht', hleft⟩ := hwaiting t (hqueue ▸ ht)
    exact ⟨q, rows, ht', hleft.later hes hmysql hstate⟩
  cases hd with
  | skip | copy | failed | clearParsing | report | returned | logResult | pop =>
      exact ⟨hresult, trivial, hlater rfl rfl rfl rfl⟩
  | submit q hm =>
      obtain ⟨c, hc⟩ := Option.isSome_iff_exists.1 hm
      refine ⟨hresult, ⟨c.submit q.query.text, ?_, rfl⟩, fun t ht => ?_⟩
      · simp [MySQL.submitting, hc]
      · have hempty : (o.submitting q.query.text).threadQueue = [] :=
          hbox (by simp [WorkerStmt.role])
        rw [hempty] at ht
        simp at ht
  | answer q conn =>
      obtain ⟨c, hc, hsub⟩ := hpending
      have hconn : o.conn = conn := hsound.object.trans (hsound.client q conn rfl).symm
      refine ⟨hresult, fun hzero => ⟨lib.rows, ?_, ?_, hzero⟩, fun t ht => ?_⟩
      · have hcode : lib.code = 0 := hzero
        rw [lastExecuted_executed, hcode]
      · have hcode : lib.code = 0 := hzero
        exact ⟨c.answer lib, by simp [MySQL.answered, hconn, hc], hsub, by
          simp [MYSQL.answer, hcode]⟩
      · rw [show (o.answered lib conn).threadQueue = [] from hbox (by simp [WorkerStmt.role])] at ht
        simp at ht
  | logExecuted q =>
      refine ⟨hresult, fun hzero => ?_, hlater rfl rfl rfl rfl⟩
      obtain ⟨rows, hleft⟩ := hpending hzero
      exact ⟨rows, hleft.later rfl rfl rfl⟩
  | succeeded q hs =>
      obtain ⟨rows, hleft⟩ := hpending hs
      exact ⟨hresult, ⟨rfl, rows, hleft.later rfl rfl rfl⟩, hlater rfl rfl rfl rfl⟩
  | setParsing q t =>
      obtain ⟨ht, rows, hleft⟩ := hpending
      exact ⟨hresult, ⟨ht, rows, hleft.later rfl rfl rfl⟩, hlater rfl rfl rfl rfl⟩
  | push q t =>
      obtain ⟨ht, rows, hleft⟩ := hpending
      refine ⟨hresult, trivial, fun t' ht' => ?_⟩
      rw [show o.threadQueue ++ [t] = [t] by rw [hbox (by simp [WorkerStmt.role]), List.nil_append],
        List.mem_singleton] at ht'
      rw [ht']
      exact ⟨q, rows, ht, hleft.later rfl rfl rfl⟩

theorem HandsOver.tick {pAmx : List AMX} {src : ℕ} {stmt : TickStmt}
    {place : Option (ℕ × TickStmt)} (hh : HandsOver L o w)
    (hd : stmt.Does pAmx src (some o) es (some o') place) : HandsOver (L ++ es) o' w := by
  cases hd with
  | skip | take | done | pass | exec | returned | clear =>
      exact hh.later rfl rfl rfl hh.result fun t ht => ht
  | pop _ t front rest hq =>
      refine hh.later rfl rfl rfl hh.result fun t ht => ?_
      rw [hq]
      exact List.mem_cons_of_mem _ ht

theorem HandsOver.native {name : NativeName} {params : List Cell} {lib : Answers}
    (hh : HandsOver L o w) (hspoils : name.spoils params = false)
    (hc : o.Change name params lib es o') : HandsOver (L ++ history es) o' w := by
  have hqueue := hc.handOver.2
  cases hc with
  | observed h =>
      refine hh.later (by simp [h.silent, executed]) (by rw [h.same]) (by rw [h.same])
        (h.result hh.result) fun t ht => ?_
      rwa [hqueue] at ht
  | accepted q hn hr hm hs hclient =>
      exact hh.later (by simp [hs, executed]) rfl rfl rfl fun t ht => ht
  | connected c hn =>
      rw [hn] at hspoils
      cases hspoils
  | executed statement hn hr =>
      cases name <;> simp [NativeName.isQuery, NativeName.spoils, hr] at hn hspoils
  | stored hn =>
      rw [hn] at hspoils
      cases hspoils
  | freed hn =>
      rw [hn] at hspoils
      cases hspoils

/-! ## Runs that leave the result alone -/

/-- The invariant of such a run: the object stays in its slot, and hands over what it should. -/
structure Leaves (h : ℕ) (hs : List Event) (v : Slot) : Prop where
  sound : v.WorkerSound
  phase : ∃ p, v.Follows p
  object : ∃ o, v.object = some o ∧ HandsOver (life o.conn hs) o v.worker

variable {h : ℕ} {a : Action} {v v' : Slot} {hs : List Event}

theorem Leaves.step (hl : Leaves h hs v) (ha : LeavesResult h a) (hstep : Step h a v es v') :
    Leaves h (hs ++ es) v' := by
  obtain ⟨hsound, ⟨p, hp⟩, o, ho, hover⟩ := hl
  have hquiet : v.ClosesQuietly h a := ha.closesQuietly
  obtain ⟨p', -, hp'⟩ := hstep.follows hquiet hp
  refine ⟨hstep.workerSound hquiet.1 hsound, ⟨p', hp'⟩, ?_⟩
  -- the events of a step that keeps the object are all about it
  have hlife : ∀ {c : ℕ}, (∀ e ∈ es, e.LivesOn c) → life c (hs ++ es) = life c hs ++ es :=
    fun hes => by rw [life_append, life_eq_self fun e he => (hes e he).1]
  cases hstep with
  | other _ _ hsame =>
      refine ⟨o, hsame.object.trans ho, ?_⟩
      rwa [hsame.worker, List.append_nil]
  | workerEnter lib ha o₁ t n =>
      cases ho
      rw [List.append_nil]
      exact ⟨o, rfl, hover.result, trivial, hover.waiting⟩
  | worker lib ha o₁ o' src stmt place _ t n hd =>
      cases ho
      obtain ⟨o₂, ho₂, hst⟩ := hsound src stmt rfl
      cases ho₂
      refine ⟨o', rfl, ?_⟩
      rw [hd.conn, hlife (hd.livesOn hst)]
      exact hover.worker (box_of_role ⟨p, hp⟩) hst hd
  | tickEnter ha o₁ w n =>
      cases ho
      rw [List.append_nil]
      exact ⟨o, rfl, hover⟩
  | tick ha pAmx v₀ v₁ src stmt place _ w n hd =>
      obtain rfl : v₀ = some o := ho
      obtain ⟨o', rfl, hconn⟩ := Option.map_eq_some_iff.1 hd.conn
      refine ⟨o', rfl, ?_⟩
      rw [hconn, hlife hd.livesOn]
      exact hover.tick hd
  | native thread name amx params lib hact hh o₁ o' es w t hr n n' hn hc =>
      cases ho
      refine ⟨o', rfl, ?_⟩
      rw [hc.conn, hlife hc.livesOn]
      exact hover.native (ha thread name amx params lib hact hh) hc
  | opened => cases ho
  | closed thread amx params lib hact hp hh =>
      cases ha thread .mysql_close amx params lib hact (congrArg some hh)

theorem leaves_run {v₀ : Slot} (h₀ : Leaves h [] v₀)
    (hrun : (lts h).Run (fun _ a => LeavesResult h a) v₀ hs v) : Leaves h hs v :=
  hrun.history (fun _ _ _ _ _ hl ha hstep => hl.step ha hstep) h₀

end Slot

/-! ## The callback -/

namespace System

variable {N : ℕ} {h : Fin N} {s s₀ : System N} {tr tr₀ : List Event}

/-- What the callback for an entry `t` may rely on, on the connection `o` with the life `L`: the
    statement executed last is that of the entry, and succeeded, and a `mysql_store_result` passes
    both guards and stores the rows of that statement. -/
structure Finds (L : List Event) (o : MySQL) (t : ThreadInfo) (q : QueryInfo)
    (rows : Option ResultSet) : Prop where
  entry : t.Copies q.toThreadInfo
  left : o.LeftBy L q rows
  result : o.result = none
  stores : ∀ env, ∃ a o' es, MySQL.store_result env o = .ok (a, o', es) ∧
    .client o.conn "mysql_store_result" ∈ es ∧ (o'.result.isSome → a = 1) ∧
      o'.result.map MYSQL_RES.set = if env.lib.store then rows else none

theorem finds_of_leftBy {L : List Event} {o : MySQL} {t : ThreadInfo} {q : QueryInfo}
    {rows : Option ResultSet} (hentry : t.Copies q.toThreadInfo) (hleft : o.LeftBy L q rows)
    (hresult : o.result = none) : Finds L o t q rows := by
  refine ⟨hentry, hleft, hresult, fun env => ?_⟩
  obtain ⟨c, hc, -, hunread⟩ := hleft.connection
  obtain ⟨a, es, hrun, hclient, hone⟩ := MySQL.run_store_result env hresult hleft.state hc
  refine ⟨a, _, es, hrun, hclient, hone, ?_⟩
  by_cases hstore : env.lib.store = true
  · cases rows <;> simp [MySQL.storing, hc, MYSQL.storeResult, hstore, hunread]
  · simp [MySQL.storing, hc, MYSQL.storeResult, hstore]

/-- **The callback finds its result**, if the connection had no stored result when the worker came to
    submit a statement, and since then no script made a call on the handle that the result does not
    survive. -/
theorem callback_finds_result
    (hrun₀ : (plugin N).Reach (fun s a => (s.slot h).ClosesQuietly h a) tr₀ s₀) {src : ℕ}
    {q₀ : QueryInfo} (hsubmit : s₀.worker = .body h src (.submit q₀))
    (hresult : ∀ o, s₀.my h = some o → o.result = none)
    (hrun : (plugin N).Run (fun _ a => Slot.LeavesResult h a) s₀ tr s) {src' : ℕ} {t : ThreadInfo}
    {amx : AMX} {scripts : List AMX} (hcallback : s.main = .body h src' (.inCallback t amx scripts)) :
    ∃ o q rows, s.my h = some o ∧ Finds (life o.conn (tr₀ ++ tr)) o t q rows := by
  -- the worker submits on a free mailbox
  obtain ⟨hs₀, hslot₀, hown₀, -⟩ := slot_reach hrun₀
  have hsound₀ := Slot.workerSound_run (fun _ _ hP => hP.1) hslot₀
  obtain ⟨p, hp⟩ := Slot.follows_run (fun _ _ hP => hP) hslot₀
  obtain ⟨o₀, ho₀, -⟩ := hsound₀ src _ (worker_place hsubmit)
  have hplace : (s₀.slot h).worker = some (src, .submit q₀) := worker_place hsubmit
  have hover : Slot.HandsOver (life o₀.conn []) o₀ (s₀.slot h).worker := by
    rw [hplace]
    refine ⟨hresult o₀ ho₀, trivial, ?_⟩
    have hshakes : Slot.Shakes o₀ (s₀.slot h).worker (s₀.slot h).tick p := by
      simpa only [Slot.Follows, ho₀] using hp
    rw [hshakes.box, Mailbox.Phase.box_of_working (hshakes.producer.symm.trans (by rw [hplace]; rfl))]
    intro t ht
    simp at ht
  -- from there on the result stays where it is
  obtain ⟨hs, hslot, hown, hlife⟩ := slot_run (Q := fun _ a => Slot.LeavesResult h a) hown₀ hrun
  obtain ⟨-, -, o, ho, hover'⟩ := Slot.leaves_run ⟨hsound₀, ⟨p, hp⟩, o₀, ho₀, hover⟩ hslot
  have htick := tickSound_reach (h := h) ((hrun₀.mono fun _ _ hP => hP.2).trans
    (hrun.mono fun _ _ ha => ha.closesQuietly.2))
  obtain ⟨o', ho', hsound⟩ := htick src' _ (main_place hcallback)
  obtain rfl : o = o' := Option.some.inj (ho.symm.trans ho')
  obtain ⟨front, hfront, hcopy⟩ := hsound.front t rfl
  obtain ⟨q, rows, rfl, hleft⟩ := hover'.waiting front (List.mem_of_mem_head? hfront)
  refine ⟨o, q, rows, ho, finds_of_leftBy hcopy ⟨?_, hleft.connection, hleft.state⟩ hover'.result⟩
  rw [life_append, hlife o.conn (hown.mentioned (.inl ⟨o, ho, rfl⟩))]
  exact lastExecuted_of_some hleft.executed

/-- A script with `OnMysqlQuery` and a threaded query of it, up to the moment the worker submits it. -/
def toSubmission (scripts : List AMX) : List Action :=
  scripts.map .load ++ [Script.mysql_init, Script.mysql_connect 0, Script.mysql_query 7 5 0] ++
    Script.work 2

/-- From there to the callback; the statement leaves one row. -/
def toCallback : List Action :=
  Script.work 8 { rows := some ⟨["id"], [[some "1"]]⟩ } ++ Script.ticks 4

theorem callback_finds_row :
    ∃ (s : System 1) (o : MySQL) (L : List Event) (t : ThreadInfo) (q : QueryInfo),
      s.my 0 = some o ∧ Finds L o t q (some ⟨["id"], [[some "1"]]⟩) := by
  -- the run to the submission, and the one from there
  have hexec : ((plugin 1).exec (toSubmission [⟨0, ["OnMysqlQuery"]⟩]) System.initial).isSome =
      true := rfl
  obtain ⟨hrun₀, hview₀⟩ : (plugin 1).Reach (fun s a => (s.slot 0).ClosesQuietly (0 : Fin 1) a)
      (Option.get _ hexec).2 (Option.get _ hexec).1 ∧
        ((Option.get _ hexec).1.worker, ((Option.get _ hexec).1.my 0).map MySQL.result) =
          (.body 0 0 (.submit ⟨⟨5, "S"⟩, 7, some 5, none, .TYPE_ID⟩), some none) := by
    refine ⟨Machine.run_of_exec (Option.some_get hexec).symm
      (Machine.obeys_of_check (p := fun _ a => !a.isClose) rfl fun _ _ ha => ?_), rfl⟩
    exact Slot.closesQuietly_of_not_close (by simpa using ha)
  obtain ⟨hworker, hmy⟩ := Prod.mk.inj hview₀
  obtain ⟨tr, s, hrun, hview⟩ := Machine.exists_run_of_exec (M := plugin 1)
    (s := (Option.get _ hexec).1) (P := fun _ a => Slot.LeavesResult (0 : Fin 1) a)
    (f := fun r => (r.1.main, (r.1.my 0).bind (·.mysql) |>.bind (·.unread)))
    (show Option.map _ ((plugin 1).exec toCallback (Option.get _ hexec).1) = some (.body 0 0
      (.inCallback ⟨7, some 5, none, .TYPE_ID⟩ ⟨0, ["OnMysqlQuery"]⟩ []),
        some ⟨["id"], [[some "1"]]⟩) from rfl)
    (Machine.obeys_of_check (p := fun _ a => !a.isNative) rfl fun _ a ha =>
      Slot.leavesResult_of_not_native (by simpa using ha))
  obtain ⟨hmain, hunread⟩ := Prod.mk.inj hview
  obtain ⟨o, q, rows, ho, hfinds⟩ := callback_finds_result hrun₀ hworker
    (fun o ho => by rw [ho] at hmy; exact Option.some.inj hmy) hrun hmain
  obtain ⟨c, hc, -, hrows⟩ := hfinds.left.connection
  obtain rfl : rows = some ⟨["id"], [[some "1"]]⟩ := by
    rw [← hrows, ← hunread, ho]
    simp [hc]
  exact ⟨s, o, _, _, q, ho, hfinds⟩

/-- The callback of the first script stores the result: the one of the second finds it stored. -/
theorem second_callback_finds_stored :
    ¬ ∀ (N : ℕ) (tr : List Event) (s : System N), (plugin N).Reach (fun _ _ => True) tr s →
      ∀ h src t amx scripts, s.main = .body h src (.inCallback t amx scripts) →
        ∃ o q rows, s.my h = some o ∧ Finds (life o.conn tr) o t q rows := by
  intro hall
  obtain ⟨tr, s, hrun, hview⟩ := Machine.exists_run_of_exec (M := plugin 1)
    (P := fun _ _ => True) (f := fun r => (r.1.main, (r.1.my 0).map fun o => o.result.isSome))
    (show Option.map _ ((plugin 1).exec (toSubmission [⟨0, ["OnMysqlQuery"]⟩,
      ⟨1, ["OnMysqlQuery"]⟩] ++ toCallback ++ [Script.mysql_store_result 0] ++ Script.ticks 2)
        System.initial) = some (.body 0 0 (.inCallback ⟨7, some 5, none, .TYPE_ID⟩
          ⟨1, ["OnMysqlQuery"]⟩ []), some true) from rfl)
    (Machine.obeys_all _ _)
  obtain ⟨hmain, hmy⟩ := Prod.mk.inj hview
  obtain ⟨o, q, rows, ho, hfinds⟩ := hall 1 tr s hrun 0 _ _ _ _ hmain
  rw [ho, Option.map_some, hfinds.result] at hmy
  simp at hmy

end System
end MysqlPlugin
