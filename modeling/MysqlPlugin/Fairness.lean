import MysqlPlugin.Response

set_option autoImplicit false

/-! # The connections take turns

Each pass of the two loops examines every connection once, so under whatever load no connection is
favoured: in every stretch of a run on which two handles are open and no slot below them is free, the
two are examined equally often by each loop, give or take one (`System.fair_shares`). -/

namespace MysqlPlugin

open Scan

/-- How often a loop tests its condition for an object. -/
def examinations (loop : Thread) (c : ℕ) (tr : List Event) : ℕ := tr.count (.examined loop c)

theorem examinations_append (loop : Thread) (c : ℕ) (tr tr' : List Event) :
    examinations loop c (tr ++ tr') = examinations loop c tr + examinations loop c tr' :=
  List.count_append

/-- It is told in the history. -/
theorem examinations_history (loop : Thread) (c : ℕ) (tr : List Event) :
    examinations loop c (history tr) = examinations loop c tr :=
  List.count_filter rfl

section Statements

variable {src c : ℕ} {es : List Event}

/-- Only the test of the worker is one, for the object it tests. -/
theorem WorkerStmt.Does.examinations {lib : Answers} {o o' : MySQL} {stmt : WorkerStmt}
    {place : Option (ℕ × WorkerStmt)} (hd : stmt.Does lib src o es o' place) :
    examinations .worker c es = (if stmt.isTest = true ∧ o.conn = c then 1 else 0) ∧
      examinations .main c es = 0 := by
  cases hd with
  | skip | copy => by_cases hc : o.conn = c <;> simp [MysqlPlugin.examinations, isTest, hc]
  | submit | answer | logExecuted | succeeded | failed | setParsing | push | clearParsing | report
  | returned | logResult | pop => exact ⟨rfl, rfl⟩

theorem WorkerStmt.Does.not_isTest {lib : Answers} {o o' : MySQL} {stmt : WorkerStmt}
    {place : Option (ℕ × WorkerStmt)} (hd : stmt.Does lib src o es o' place)
    {b : ℕ × WorkerStmt} (hb : place = some b) : b.2.isTest = false := by
  cases hd <;> cases hb <;> rfl

theorem TickStmt.Does.examinations {pAmx : List AMX} {v v' : Option MySQL} {stmt : TickStmt}
    {place : Option (ℕ × TickStmt)} (hd : stmt.Does pAmx src v es v' place) :
    (examinations .main c es = if stmt.isTest = true ∧ ∃ o, v = some o ∧ o.conn = c then 1 else 0) ∧
      examinations .worker c es = 0 := by
  cases hd with
  | skip o | take o => by_cases hc : o.conn = c <;> simp [MysqlPlugin.examinations, isTest, hc]
  | done | pass | exec | returned | pop | clear => simp [MysqlPlugin.examinations, isTest]

theorem TickStmt.Does.object {pAmx : List AMX} {v v' : Option MySQL} {stmt : TickStmt}
    {place : Option (ℕ × TickStmt)} (hd : stmt.Does pAmx src v es v' place)
    (htest : stmt.isTest = true) : ∃ o, v = some o := by
  cases hd with
  | skip o | take o => exact ⟨o, rfl⟩
  | done | pass | exec | returned | pop | clear => cases htest

theorem TickStmt.Does.not_isTest {pAmx : List AMX} {v v' : Option MySQL} {stmt : TickStmt}
    {place : Option (ℕ × TickStmt)} (hd : stmt.Does pAmx src v es v' place)
    {b : ℕ × TickStmt} (hb : place = some b) : b.2.isTest = false := by
  cases hd <;> cases hb <;> rfl

/-- A call of a script is none. -/
theorem Slot.Step.examinations {h : ℕ} {a : Action} {v v' : Slot} (hstep : Slot.Step h a v es v')
    (hworker : a.isWorker = false) (htick : a.isTick = false) (loop : Thread) :
    MysqlPlugin.examinations loop c es = 0 := by
  cases hstep with
  | other | workerEnter | tickEnter => rfl
  | worker lib ha =>
      subst ha
      cases hworker
  | tick ha =>
      subst ha
      cases htick
  | opened | closed => rfl
  | native thread name amx params lib ha hh o o' es' w t hr n n' hn hc =>
      cases hc with
      | observed h => rw [h.silent]; rfl
      | connected _ _ _ hs | executed _ _ _ hs | stored _ _ _ hs | freed _ hs => rw [hs]; rfl
      | accepted q _ _ _ hs => rw [hs]; rfl

end Statements

/-- The steps of a loop. -/
def Thread.turn : Thread → Action → Bool
  | .worker => Action.isWorker
  | .main => Action.isTick

namespace System

variable {N : ℕ} {h k : Fin N} {s s' : System N} {tr es : List Event} {a : Action} {cs : List Action}
  {o o' : MySQL} {c : ℕ}

/-- Which of two handles a loop comes to next. -/
def due (loop : Thread) (h k : Fin N) (s : System N) : ℕ :=
  match loop with
  | .worker => s.worker.scanPc.due (fun b => b.2.isTest) h k
  | .main => s.main.scanPc.due (fun b => b.2.isTest) h k

/-- The other steps examine nothing for the loop, and do not move it. -/
theorem other_share (hstep : s.step a = .next s' es) {loop : Thread} (ha : loop.turn a = false) :
    examinations loop c es = 0 ∧ s'.due loop h k = s.due loop h k := by
  have hcall : a.isWorker = false → a.isTick = false → examinations loop c es = 0 := by
    intro hworker htick
    rw [← examinations_history]
    cases step_works hstep with
    | nowhere hes => rw [hes]; rfl
    | on k hk => exact hk.examinations hworker htick loop
  cases loop with
  | worker =>
      refine ⟨?_, by rw [due, due, worker_of_step ha hstep]⟩
      by_cases htick : a.isTick = true
      · obtain rfl := Action.eq_tick htick
        cases tickMove_of_step hstep with
        | start | finish | enter => rfl
        | work i src stmt v place _ hm hd =>
            rw [← examinations_history]
            exact hd.examinations.2
      · exact hcall ha (by simpa using htick)
  | main =>
      refine ⟨?_, by rw [due, due, main_of_step ha hstep]⟩
      by_cases hworker : a.isWorker = true
      · obtain ⟨lib, rfl⟩ := Action.eq_worker hworker
        cases workerMove_of_step hstep with
        | restart | enter => rfl
        | work i src stmt o o' place _ hw ho hd =>
            rw [← examinations_history]
            exact hd.examinations.2
      · exact hcall (by simpa using hworker) ha

/-- The objects of the two handles, with no free slot below. -/
structure Between (h k : Fin N) (c c' : ℕ) (s : System N) : Prop where
  first : ∀ i o, s.my i = some o → (o.conn = c ↔ i = h)
  second : ∀ i o, s.my i = some o → (o.conn = c' ↔ i = k)
  free : ∀ i, s.my i = none → k < i

variable {c' : ℕ}

theorem WorkerMove.share {lib : Answers} (hmove : s.WorkerMove lib es s') (hhk : h < k)
    (hs : s.Between h k c c') :
    examinations .worker c es + s'.due .worker h k =
      examinations .worker c' es + s.due .worker h k := by
  unfold due
  cases hmove with
  | restart i hw hfree =>
      rw [hw]
      exact congrArg _ (Pc.due_restart (Fin.lt_def.1 (hs.free i hfree)))
  | enter i o hw ho =>
      rw [hw]
      exact congrArg _ (Pc.due_enter (b := (o.conn, WorkerStmt.test)) rfl)
  | work i src stmt o o' place _ hw ho hd =>
      rw [hw, ← examinations_history .worker c, ← examinations_history .worker c', hd.examinations.1,
        hd.examinations.1]
      simp only [hs.first i o ho, hs.second i o ho]
      rw [WorkerPc.scanPc_after]
      exact Pc.due_next (b := (src, stmt)) hhk fun b hb => hd.not_isTest hb

theorem TickMove.share (hmove : s.TickMove es s') (hhk : h < k) (hs : s.Between h k c c') :
    examinations .main c es + s'.due .main h k = examinations .main c' es + s.due .main h k := by
  unfold due
  cases hmove with
  | start hm =>
      rw [hm]
      rfl
  | finish i hm hfree =>
      rw [hm]
      exact congrArg _ (Pc.due_restart (Fin.lt_def.1 (hs.free i hfree)))
  | enter i o hm ho =>
      rw [hm]
      exact congrArg _ (Pc.due_enter (b := (o.conn, TickStmt.test)) rfl)
  | work i src stmt v place _ hm hd =>
      have hcond : ∀ {d : ℕ} {j : Fin N}, (∀ i o, s.my i = some o → (o.conn = d ↔ i = j)) →
          (stmt.isTest = true ∧ (∃ o, s.my i = some o ∧ o.conn = d) ↔ stmt.isTest = true ∧ i = j) := by
        intro d j hj
        refine and_congr_right fun htest => ?_
        obtain ⟨o, ho⟩ := hd.object htest
        rw [← hj i o ho]
        simp [ho]
      rw [hm, ← examinations_history .main c, ← examinations_history .main c', hd.examinations.1,
        hd.examinations.1]
      simp only [hcond hs.first, hcond hs.second]
      rw [MainPc.scanPc_after]
      exact Pc.due_next (b := (src, stmt)) hhk fun b hb => hd.not_isTest hb

/-- The two handles are open, and stay it: no slot below them is free, and neither is closed. -/
structure BothOpen (h k : Fin N) (s : System N) (a : Action) : Prop where
  free : ∀ i, s.my i = none → h < i ∧ k < i
  first : ¬ (s.slot h).Closes h a
  second : ¬ (s.slot k).Closes k a

/-- Two handles and their objects. -/
structure BothHeld (h k : Fin N) (c c' : ℕ) (s : System N) : Prop where
  owned : ∃ tr, Owned tr s
  first : ∃ o, s.my h = some o ∧ o.conn = c
  second : ∃ o, s.my k = some o ∧ o.conn = c'

theorem BothHeld.between (hs : s.BothHeld h k c c') (hp : s.BothOpen h k a) : s.Between h k c c' := by
  obtain ⟨⟨tr, hown⟩, ⟨o, ho, rfl⟩, ⟨o', ho', rfl⟩⟩ := hs
  refine ⟨fun i o₁ ho₁ => ⟨hown.slot_unique ho₁ ho, ?_⟩, fun i o₁ ho₁ => ⟨hown.slot_unique ho₁ ho', ?_⟩,
    fun i hi => (hp.free i hi).2⟩
  · rintro rfl
    rw [Option.some.inj (ho₁.symm.trans ho)]
  · rintro rfl
    rw [Option.some.inj (ho₁.symm.trans ho')]

theorem BothHeld.step (hs : s.BothHeld h k c c') (hp : s.BothOpen h k a) (hstep : s.step a = .next s' es) :
    s'.BothHeld h k c c' := by
  obtain ⟨⟨tr, hown⟩, ⟨o, ho, rfl⟩, ⟨o', ho', rfl⟩⟩ := hs
  obtain ⟨hs₁, hslot, -⟩ := step_slot_events hstep h
  obtain ⟨o₁, ho₁, hconn₁, -⟩ := hslot.object_stays hp.first ho
  obtain ⟨hs₂, hslot', -⟩ := step_slot_events hstep k
  obtain ⟨o₂, ho₂, hconn₂, -⟩ := hslot'.object_stays hp.second ho'
  exact ⟨⟨_, hown.step hstep⟩, ⟨o₁, ho₁, hconn₁⟩, ⟨o₂, ho₂, hconn₂⟩⟩

theorem due_le_one (loop : Thread) : s.due loop h k ≤ 1 := by
  cases loop <;> exact Pc.due_le_one _

/-- What one step counts for the first handle it counts for the second, but for which one is due. -/
theorem Between.share (hs : s.Between h k c c') (hhk : h < k) (hstep : s.step a = .next s' es)
    (loop : Thread) :
    examinations loop c es + s'.due loop h k = examinations loop c' es + s.due loop h k := by
  cases hturn : loop.turn a with
  | false =>
      obtain ⟨hfirst, hdue⟩ := other_share (h := h) (k := k) (c := c) hstep hturn
      rw [hfirst, (other_share (h := h) (k := k) hstep hturn).1, hdue]
  | true =>
      cases loop with
      | worker =>
          obtain ⟨lib, rfl⟩ := Action.eq_worker hturn
          exact (workerMove_of_step hstep).share hhk hs
      | main =>
          obtain rfl := Action.eq_tick hturn
          exact (tickMove_of_step hstep).share hhk hs

/-- Along a path the counts of the two differ by which one is due at its ends. -/
theorem share_path (hhk : h < k) (hs : s.BothHeld h k c c')
    (hpath : (plugin N).Path (BothOpen h k) s cs tr s') (loop : Thread) :
    examinations loop c tr + s'.due loop h k = examinations loop c' tr + s.due loop h k := by
  have hpath' := hpath.strengthen (I := BothHeld h k c c')
    (fun _ _ _ _ hs hp hstep => hs.step hp hstep) hs
  exact hpath'.balance rfl (examinations_append loop c) (examinations_append loop c')
    fun _ _ _ _ hp hstep => (hp.2.between hp.1).share hhk hstep loop

/-- **The connections take turns**: while two handles stay open and no slot below them is free, each of
    the two loops tests its condition for the one at most once more often than for the other. -/
theorem fair_shares {tr₀ : List Event} (hrun : (plugin N).Reach (fun _ _ => True) tr₀ s) (hhk : h ≠ k)
    (ho : s.my h = some o) (ho' : s.my k = some o')
    (hpath : (plugin N).Path (BothOpen h k) s cs tr s') (loop : Thread) :
    examinations loop o.conn tr ≤ examinations loop o'.conn tr + 1 := by
  have hown := owned_reach hrun
  rcases lt_or_gt_of_ne hhk with hlt | hgt
  · have hpair : s.BothHeld h k o.conn o'.conn := ⟨⟨_, hown⟩, ⟨o, ho, rfl⟩, ⟨o', ho', rfl⟩⟩
    have hshare := share_path hlt hpair hpath loop
    have hdue : s.due loop h k ≤ 1 := due_le_one loop
    omega
  · have hpair : s.BothHeld k h o'.conn o.conn := ⟨⟨_, hown⟩, ⟨o', ho', rfl⟩, ⟨o, ho, rfl⟩⟩
    have hshare := share_path hgt hpair (hpath.mono fun s a hp =>
      ⟨fun i hi => (hp.free i hi).symm, hp.second, hp.first⟩) loop
    have hdue : s'.due loop k h ≤ 1 := due_le_one loop
    omega

/-- Two handles in use, with a query queued on each; the slot after them is free. -/
def twoQueued : System 3 × List Event :=
  ((plugin 3).exec [Script.mysql_init, Script.mysql_connect 0, Script.mysql_init,
    Script.mysql_connect 1, Script.mysql_query 7 5 0, Script.mysql_query 7 6 1]
    System.initial).getD (System.initial, [])

/-- The query thread has been round the table, and `ProcessTick` is on its way. -/
def twoServed : System 3 × List Event :=
  ((plugin 3).exec (Script.work 25 ++ Script.ticks 9) twoQueued.1).getD twoQueued

theorem twoServed_fair : ∃ o o', twoQueued.1.my 0 = some o ∧ twoQueued.1.my 1 = some o' ∧
    ∀ loop, examinations loop o.conn twoServed.2 ≤ examinations loop o'.conn twoServed.2 + 1 := by
  have hrun : (plugin 3).Reach (fun _ _ => True) twoQueued.2 twoQueued.1 :=
    Machine.run_of_exec (show (plugin 3).exec [Script.mysql_init, Script.mysql_connect 0,
      Script.mysql_init, Script.mysql_connect 1, Script.mysql_query 7 5 0, Script.mysql_query 7 6 1]
      System.initial = some twoQueued from rfl) (Machine.obeys_all _ _)
  have hpath : (plugin 3).Path (BothOpen 0 1) twoQueued.1 (Script.work 25 ++ Script.ticks 9)
      twoServed.2 twoServed.1 := by
    refine Machine.Path.of_exec rfl (Machine.obeys_of_check
      (p := fun s a => (s.my 0).isSome && (s.my 1).isSome && !a.isClose) rfl fun s a ha => ?_)
    simp only [Bool.and_eq_true, Bool.not_eq_true'] at ha
    obtain ⟨⟨hfirst, hsecond⟩, hclose⟩ := ha
    refine ⟨fun i hi => ?_, Slot.not_closes hclose, Slot.not_closes hclose⟩
    have hzero : i ≠ 0 := by
      rintro rfl
      rw [hi] at hfirst
      cases hfirst
    have hone : i ≠ 1 := by
      rintro rfl
      rw [hi] at hsecond
      cases hsecond
    omega
  obtain ⟨o, ho⟩ : ∃ o, twoQueued.1.my 0 = some o := ⟨_, rfl⟩
  obtain ⟨o', ho'⟩ : ∃ o, twoQueued.1.my 1 = some o := ⟨_, rfl⟩
  exact ⟨o, o', ho, ho', fair_shares hrun (by decide) ho ho' hpath⟩

end System
end MysqlPlugin
