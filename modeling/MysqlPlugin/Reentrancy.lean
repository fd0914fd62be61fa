import MysqlPlugin.Origin

set_option autoImplicit false

/-! # Closing a handle under a thread

Between two statements of either loop a script can call `mysql_close` on the very handle the loop is
at: `ProcessTick` itself runs scripts in the middle of its body, the worker runs them in its call of
`Error`, and the main thread can do so at any moment of the worker's. Both loops then go on with
whatever the slot holds by that time. This file says exactly what is safe as long as that does not
happen, and what goes wrong when it does. -/

namespace MysqlPlugin

open History

namespace System

variable {N : ℕ} {s : System N} {tr : List Event}

/-! ## `ProcessTick` -/

/-- `ProcessTick` uses no empty slot, pops no empty queue, and works on the object it copied the front
    of. -/
structure TickTolerates (s : System N) : Prop where
  noNull : ∀ k, s.step .tick ≠ .fault (.nullMySQL k)
  noEmptyPop : ∀ k, s.step .tick ≠ .fault (.emptyPop k)
  ownObject : ∀ h src stmt, s.main = .body h src stmt →
    ∃ o, s.my h = some o ∧ o.conn = src ∧
      ∀ t, stmt.held = some t → ∃ front, o.threadQueue.head? = some front ∧ t.Copies front

theorem tickSound_reach {h : Fin N}
    (hrun : (plugin N).Reach (fun s a => (s.slot h).SparesTick h a) tr s) :
    (s.slot h).TickSound := by
  obtain ⟨hs, hslot, -, -⟩ := slot_reach hrun
  exact Slot.tickSound_run (fun _ _ hP => hP) hslot

theorem workerSound_reach {h : Fin N}
    (hrun : (plugin N).Reach (fun s a => (s.slot h).SparesWorker h a) tr s) :
    (s.slot h).WorkerSound := by
  obtain ⟨hs, hslot, -, -⟩ := slot_reach hrun
  exact Slot.workerSound_run (fun _ _ hP => hP) hslot

/-- With every slot sound, only the condition of the loop can go wrong. -/
theorem tick_faults_at_head (hsound : ∀ h : Fin N, (s.slot h).TickSound) {f : Fault}
    (hf : s.step .tick = .fault f) : ∃ i, s.main = .scan i ∧ N ≤ i ∧ f = .outOfRange i := by
  rcases tick_faults hf with hhead | ⟨h, src, stmt, hm, -⟩
  · exact hhead
  · exact absurd hf (tick_body_ok (hsound h) hm f)

theorem tickTolerates_of_sound (hsound : ∀ h : Fin N, (s.slot h).TickSound) :
    s.TickTolerates := by
  refine ⟨fun k hf => ?_, fun k hf => ?_, fun h src stmt hm => ?_⟩
  · obtain ⟨i, -, -, hfault⟩ := tick_faults_at_head hsound hf
    simp at hfault
  · obtain ⟨i, -, -, hfault⟩ := tick_faults_at_head hsound hf
    simp at hfault
  · obtain ⟨o, ho, hst⟩ := hsound h src stmt (main_place hm)
    exact ⟨o, ho, hst.object, hst.front⟩

/-- **`ProcessTick` tolerates every callback that does not close its slot.** -/
theorem tick_tolerates
    (hrun : (plugin N).Reach (fun s a => ∀ h : Fin N, (s.slot h).SparesTick h a) tr s) :
    s.TickTolerates :=
  tickTolerates_of_sound fun h => tickSound_reach (hrun.mono fun _ _ hs => hs h)

/-- A script with `OnMysqlQuery`, a query of it that was executed, and `ProcessTick` up to the moment
    the callback runs. -/
def intoCallback : List Action :=
  [.load ⟨0, ["OnMysqlQuery"]⟩, Script.mysql_init, Script.mysql_connect 0,
    Script.mysql_query 7 5 0] ++ Script.work 10 ++ Script.ticks 4

theorem tick_tolerates_in_callback :
    ∃ s : System 1, s.TickTolerates ∧
      ∃ t amx scripts, s.main = .body 0 0 (.inCallback t amx scripts) := by
  obtain ⟨tr, s, hrun, hview⟩ := Machine.exists_run_of_exec (M := plugin 1)
    (P := fun s a => ∀ h : Fin 1, (s.slot h).SparesTick h a) (f := fun r => r.1.main)
    (show Option.map _ ((plugin 1).exec intoCallback System.initial) = some (.body 0 0 (.inCallback
      ⟨7, some 5, none, .TYPE_ID⟩ ⟨0, ["OnMysqlQuery"]⟩ [])) from rfl)
    (Machine.obeys_of_check (p := fun _ a => !a.isClose) rfl fun _ _ ha _ =>
      (Slot.closesQuietly_of_not_close (by simpa using ha)).2)
  exact ⟨s, tick_tolerates hrun, _, _, _, hview⟩

/-- The callback closes the handle it is called for: the next statement uses the empty slot. -/
theorem close_in_callback :
    ¬ ∀ (N : ℕ) (tr : List Event) (s : System N), (plugin N).Reach (fun _ _ => True) tr s →
      s.TickTolerates := by
  intro hall
  obtain ⟨tr, s, hrun, hview⟩ := Machine.exists_run_of_exec (M := plugin 1)
    (P := fun _ _ => True) (f := fun r => (r.1.main, r.1.my 0))
    (show Option.map _ ((plugin 1).exec (intoCallback ++ [Script.mysql_close 0]) System.initial) =
      some (.body 0 0 (.inCallback ⟨7, some 5, none, .TYPE_ID⟩ ⟨0, ["OnMysqlQuery"]⟩ []), none)
      from rfl)
    (Machine.obeys_all _ _)
  obtain ⟨hmain, hmy⟩ := Prod.mk.inj hview
  obtain ⟨o, ho, -⟩ := (hall 1 tr s hrun).ownObject 0 _ _ hmain
  cases hmy.symm.trans ho

/-! ## `QueryThread` -/

/-- `QueryThread` uses no empty slot and no `NULL` connection, pops no empty queue, and works on the
    object it copied the front of, from the copy to the pop. What it hands over is delivered for the
    connection it was enqueued on. -/
structure WorkerTolerates (s : System N) (tr : List Event) : Prop where
  noNull : ∀ lib k, s.step (.worker lib) ≠ .fault (.nullMySQL k)
  noClient : ∀ lib f, s.step (.worker lib) ≠ .fault (.nullClient f)
  noEmptyPop : ∀ lib k, s.step (.worker lib) ≠ .fault (.emptyPop k)
  ownObject : ∀ h src stmt, s.worker = .body h src stmt →
    ∃ o, s.my h = some o ∧ stmt.Sound src o
  taken : ∀ c t, .taken c t ∈ tr → ∃ q, .accepted c q ∈ tr ∧ q.Carried t

/-- A callback for handle `h` is called for a statement that was enqueued on the connection the slot
    holds. -/
def DeliversOwn (s : System N) (tr : List Event) : Prop :=
  ∀ h src t amx scripts, s.main = .body h src (.inCallback t amx scripts) →
    ∃ o q front, s.my h = some o ∧ .accepted o.conn q ∈ tr ∧ q.Carried front ∧ t.Copies front

theorem connected_reach {P : System N → Action → Prop} (hrun : (plugin N).Reach P tr s)
    (h : Fin N) : (s.slot h).Connected := by
  obtain ⟨hs, hslot, -, -⟩ := slot_reach (Q := fun _ _ => True) (h := h)
    (hrun.mono fun _ _ _ => trivial)
  exact Slot.connected_run hslot

/-- With every slot sound, only the condition of the loop can go wrong. -/
theorem worker_faults_at_head (hsound : ∀ h : Fin N, (s.slot h).WorkerSound)
    (hconn : ∀ h : Fin N, (s.slot h).Connected) {lib : Answers} {f : Fault}
    (hf : s.step (.worker lib) = .fault f) : ∃ i, s.worker = .scan i ∧ N ≤ i ∧ f = .outOfRange i := by
  rcases worker_faults hf with hhead | ⟨h, src, stmt, hw, -⟩
  · exact hhead
  · exact absurd hf (worker_body_ok (hsound h) (hconn h) hw lib f)

theorem deliversOwn
    (hrun : (plugin N).Reach (fun s a => ∀ h : Fin N, (s.slot h).ClosesQuietly h a) tr s) :
    s.DeliversOwn tr := by
  intro h src t amx scripts hm
  have htick := tickSound_reach (hrun.mono fun _ _ hs => (hs h).2)
  obtain ⟨o, ho, hsound⟩ := htick src _ (main_place hm)
  obtain ⟨front, hfront, hcopy⟩ := hsound.front t rfl
  have horigin := (originates_reach (hrun.mono fun _ _ hs k => (hs k).1)).1 h o ho
  obtain ⟨q, hq, hcarried⟩ := horigin.results front (List.mem_of_mem_head? hfront)
  exact ⟨o, q, front, ho, mem_accepted_life.1 hq, hcarried, hcopy⟩

/-- **The worker tolerates everything that does not close its slot.** If no slot is closed under
    `ProcessTick` either, every callback finds the connection its statement was enqueued on. -/
theorem worker_tolerates
    (hrun : (plugin N).Reach (fun s a => ∀ h : Fin N, (s.slot h).SparesWorker h a) tr s) :
    s.WorkerTolerates tr ∧
      ((plugin N).Reach (fun s a => ∀ h : Fin N, (s.slot h).ClosesQuietly h a) tr s →
        s.DeliversOwn tr) := by
  have hsound := fun h : Fin N => workerSound_reach (hrun.mono fun _ _ hs => hs h)
  have hhead : ∀ {lib f}, s.step (.worker lib) = .fault f → ∃ i : ℕ, f = .outOfRange i := by
    intro lib f hf
    obtain ⟨i, -, -, hfault⟩ := worker_faults_at_head hsound (connected_reach hrun) hf
    exact ⟨i, hfault⟩
  refine ⟨⟨fun lib k hf => ?_, fun lib f hf => ?_, fun lib k hf => ?_, fun h src stmt hw => ?_,
    (originates_reach hrun).2⟩, deliversOwn⟩
  · obtain ⟨i, hfault⟩ := hhead hf
    simp at hfault
  · obtain ⟨i, hfault⟩ := hhead hf
    simp at hfault
  · obtain ⟨i, hfault⟩ := hhead hf
    simp at hfault
  · exact hsound h src stmt (worker_place hw)

theorem worker_tolerates_in_callback :
    ∃ (s : System 1) (tr : List Event), s.WorkerTolerates tr ∧ s.DeliversOwn tr ∧
      ∃ t amx scripts, s.main = .body 0 0 (.inCallback t amx scripts) := by
  obtain ⟨tr, s, hrun, hview⟩ := Machine.exists_run_of_exec (M := plugin 1)
    (P := fun s a => ∀ h : Fin 1, (s.slot h).ClosesQuietly h a) (f := fun r => r.1.main)
    (show Option.map _ ((plugin 1).exec intoCallback System.initial) = some (.body 0 0 (.inCallback
      ⟨7, some 5, none, .TYPE_ID⟩ ⟨0, ["OnMysqlQuery"]⟩ [])) from rfl)
    (Machine.obeys_of_check (p := fun _ a => !a.isClose) rfl fun _ _ ha _ =>
      Slot.closesQuietly_of_not_close (by simpa using ha))
  obtain ⟨hworker, hdelivers⟩ := worker_tolerates (hrun.mono fun _ _ hs h => (hs h).1)
  exact ⟨s, tr, hworker, hdelivers hrun, _, _, _, hview⟩

/-- The handle is closed and opened again while `mysql_real_query` runs: the worker goes on with the
    new object. -/
def reopened : List Action :=
  [Script.mysql_init, Script.mysql_connect 0, Script.mysql_query 7 5 0] ++ Script.work 3 ++
    [Script.mysql_close 0, Script.mysql_init, Script.mysql_connect 0]

theorem worker_on_reopened_slot :
    ¬ ∀ (N : ℕ) (tr : List Event) (s : System N), (plugin N).Reach (fun _ _ => True) tr s →
      s.WorkerTolerates tr := by
  intro hall
  obtain ⟨tr, s, hrun, hview⟩ := Machine.exists_run_of_exec (M := plugin 1)
    (P := fun _ _ => True) (f := fun r => (r.1.worker, (r.1.my 0).map MySQL.conn))
    (show Option.map _ ((plugin 1).exec reopened System.initial) =
      some (.body 0 0 (.executing ⟨⟨5, "S"⟩, 7, some 5, none, .TYPE_ID⟩ 0), some 6) from rfl)
    (Machine.obeys_all _ _)
  obtain ⟨hworker, hmy⟩ := Prod.mk.inj hview
  obtain ⟨o, ho, hsound⟩ := (hall 1 tr s hrun).ownObject 0 _ _ hworker
  rw [ho] at hmy
  cases hsound.object.symm.trans (Option.some.inj hmy)

end System
end MysqlPlugin
