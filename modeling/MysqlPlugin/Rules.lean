import MysqlPlugin.Faults
import MysqlPlugin.Passes

set_option autoImplicit false

/-! # The rules a script has to keep

As long as no slot is closed under a thread that works on it, the two loops cannot fault in their
bodies: what brings the plugin down is a loop that reads past the table, or a call of a native that
`Natives.faults_iff` names (`System.step_faults_iff`). A script that leaves one slot of the table alone
and makes no such call therefore never brings it down, whatever the order of its calls and of the
statements of the two threads (`System.rules_suffice`).

Brought down means a fault of the model (`Fault`): an index outside `my[]` or a row, a `NULL` object,
connection or string, `pop` on an empty queue. The rules say nothing about buffers that are too small,
nor about the `NULL` that `amx_PushString` gets for a second callback (`Delivery.lean`). -/

namespace MysqlPlugin

open Natives

namespace System

variable {N : ℕ} {s s' : System N} {tr es : List Event} {a : Action}

/-- The action reads past the table, or is a call that brings the plugin down. -/
def Breaks (s : System N) : Action → Prop
  | .worker _ => ∃ i, s.worker = .scan i ∧ N ≤ i
  | .tick => ∃ i, s.main = .scan i ∧ N ≤ i
  | .native thread name amx params lib =>
    s.runsScripts thread = true ∧ param params 0 = name.paramCount * cellSize ∧
      ∃ handle, name.handle params = some handle ∧
        ((∀ h : Fin N, handle ≠ h) ∨ ∃ h : Fin N, handle = h ∧ Stumbles name lib amx params (s.my h))
  | .load _ | .unload _ => False

theorem native_faults_iff {thread : Thread} {name : NativeName} {amx : Memory} {params : List Cell}
    {lib : Answers} : (∃ f, s.step (.native thread name amx params lib) = .fault f) ↔
      s.runsScripts thread = true ∧
        Prog.Faults (name.function ⟨lib, s.pAmx⟩ amx params) s.toWorld := by
  simp only [step, perform]
  by_cases hr : s.runsScripts thread = true
  · rw [if_pos hr]
    cases hm : name.function ⟨lib, s.pAmx⟩ amx params s.toWorld with
    | error f => exact iff_of_true ⟨f, rfl⟩ ⟨hr, f, hm⟩
    | ok r => exact iff_of_false (by simp) fun hf => Prog.not_faults_of_ok hm hf.2
  · rw [if_neg hr]
    exact iff_of_false (by simp) fun hf => hr hf.1

theorem native_breaks_iff {thread : Thread} {name : NativeName} {amx : Memory} {params : List Cell}
    {lib : Answers} : (∃ f, s.step (.native thread name amx params lib) = .fault f) ↔
      s.Breaks (.native thread name amx params lib) := by
  rw [native_faults_iff, Natives.faults_iff]
  rfl

/-- Every thread that is in the body of its loop for a slot works on the object in it. -/
structure Sound (s : System N) : Prop where
  worker : ∀ h : Fin N, (s.slot h).WorkerSound
  tick : ∀ h : Fin N, (s.slot h).TickSound
  connected : ∀ h : Fin N, (s.slot h).Connected

theorem sound_reach
    (hrun : (plugin N).Reach (fun s a => ∀ h : Fin N, (s.slot h).ClosesQuietly h a) tr s) :
    s.Sound :=
  ⟨fun h => workerSound_reach (hrun.mono fun _ _ hs => (hs h).1),
    fun h => tickSound_reach (hrun.mono fun _ _ hs => (hs h).2), connected_reach hrun⟩

theorem Sound.faults_iff (hs : s.Sound) (a : Action) : (∃ f, s.step a = .fault f) ↔ s.Breaks a := by
  cases a with
  | worker lib =>
      constructor
      · rintro ⟨f, hf⟩
        obtain ⟨i, hw, hi, -⟩ := worker_faults_at_head hs.worker hs.connected hf
        exact ⟨i, hw, hi⟩
      · rintro ⟨i, hw, hi⟩
        refine ⟨.outOfRange i, ?_⟩
        simp only [step, stepWorker, hw, dif_neg (not_lt.2 hi)]
  | tick =>
      constructor
      · rintro ⟨f, hf⟩
        obtain ⟨i, hm, hi, -⟩ := tick_faults_at_head hs.tick hf
        exact ⟨i, hm, hi⟩
      · rintro ⟨i, hm, hi⟩
        refine ⟨.outOfRange i, ?_⟩
        simp only [step, stepTick, hm, dif_neg (not_lt.2 hi)]
  | native thread name amx params lib => exact native_breaks_iff
  | load amx | unload amx =>
      simp only [step]
      split <;> exact iff_of_false (by simp) id

/-- **What brings the plugin down**: while no slot is closed under a thread, a step faults exactly when
    its loop reads past the table, or it is one of the calls that fault on what they find. -/
theorem step_faults_iff
    (hrun : (plugin N).Reach (fun s a => ∀ h : Fin N, (s.slot h).ClosesQuietly h a) tr s)
    (a : Action) : (∃ f, s.step a = .fault f) ↔ s.Breaks a :=
  (sound_reach hrun).faults_iff a

/-- One handle is open: `mysql_ping` on the other one hands the `NULL` it finds to `Error`. -/
theorem ping_of_other_handle :
    ∃ s : System 2, (s.my 0).isSome = true ∧
      ∃ f, s.step (.native .main .mysql_ping Script.memory [4, 1] {}) = .fault f := by
  obtain ⟨tr, s, hrun, hview⟩ := Machine.exists_run_of_exec (M := plugin 2)
    (P := fun s a => ∀ h : Fin 2, (s.slot h).ClosesQuietly h a)
    (f := fun r => ((r.1.my 0).isSome, r.1.my 1, r.1.main))
    (show Option.map _ ((plugin 2).exec [Script.mysql_init] System.initial) = some (true, none, .idle)
      from rfl)
    (Machine.obeys_of_check (p := fun _ a => !a.isClose) rfl fun _ _ ha _ =>
      Slot.closesQuietly_of_not_close (by simpa using ha))
  obtain ⟨hsome, hnone, hmain⟩ : (s.my 0).isSome = true ∧ s.my 1 = none ∧ s.main = .idle := by
    simpa only [Prod.mk.injEq] using hview
  refine ⟨s, hsome, (step_faults_iff hrun _).2 ⟨by rw [runsScripts, hmain], rfl, 1, rfl, .inr ⟨1, rfl, ?_⟩⟩⟩
  rw [hnone]
  exact nofun

/-! ## Keeping the rules -/

/-- The rules: no slot is closed under a thread that works on it, a handle is opened only while two
    slots are free, and no native is called where it would fault. -/
structure KeepsRules (s : System N) (a : Action) : Prop where
  quiet : ∀ h : Fin N, (s.slot h).ClosesQuietly h a
  spare : ∀ thread amx params lib, a = .native thread .mysql_init amx params lib →
    ∃ h k : Fin N, h < k ∧ s.my h = none ∧ s.my k = none
  checked : a.isNative = true → ¬ s.Breaks a

/-- The last slot is never taken, and so neither loop reads past it. -/
structure LeavesLast (s : System N) : Prop where
  free : ∀ h : Fin N, h.val + 1 = N → s.my h = none
  worker : ∀ i, s.worker = .scan i → i < N
  tick : ∀ i, s.main = .scan i → i < N

theorem LeavesLast.succ_lt (hs : s.LeavesLast) {h : Fin N} {o : MySQL} (ho : s.my h = some o) :
    h.val + 1 < N := by
  refine lt_of_le_of_ne h.isLt fun hlast => ?_
  rw [hs.free h hlast] at ho
  cases ho

theorem change_of_native {thread : Thread} {name : NativeName} {amx : Memory} {params : List Cell}
    {lib : Answers} (hstep : s.step (.native thread name amx params lib) = .next s' es) :
    World.Change name params lib s.toWorld es s'.toWorld := by
  simp only [step, perform] at hstep
  split at hstep
  · split at hstep
    · cases hstep
    · rename_i hok
      cases hstep
      exact (effect_function ⟨lib, s.pAmx⟩ amx params name _ _ _ _ hok).change
  · cases hstep

/-- Only a call of `mysql_init` fills a slot, and it takes the lowest one that is free. -/
theorem filled_of_step (hstep : s.step a = .next s' es) {h : Fin N} (hnone : s.my h = none)
    (hsome : s'.my h ≠ none) : (∃ thread amx params lib, a = .native thread .mysql_init amx params lib) ∧
      ∀ k < h, s.my k ≠ none := by
  obtain ⟨hs, hslot⟩ := step_slot hstep h
  generalize hv : s.slot h = v, hv' : s'.slot h = v' at hslot
  have hobj : v.object = none := by rw [← hv]; exact hnone
  have hobj' : v'.object ≠ none := by rw [← hv']; exact hsome
  cases hslot with
  | other _ _ hsame => exact absurd (hsame.object.trans hobj) hobj'
  | workerEnter | worker | tickEnter | native | closed => cases hobj
  | tick ha pAmx v v' src stmt place hs w n hd =>
      subst hobj
      exact absurd (by simpa using hd.conn) hobj'
  | opened thread amx params lib ha env log print w t hr n n' hn =>
      subst ha
      refine ⟨⟨thread, amx, params, lib, rfl⟩, ?_⟩
      cases change_of_native hstep with
      | none hmy => exact absurd (by rw [hmy, hnone]) hsome
      | object k o o' hh => cases hh
      | opened k env hn hfree hcreated log print hmy =>
          obtain rfl : h = k := by
            by_contra hne
            exact hsome (by rw [hmy, Function.update_of_ne hne, hnone])
          exact (freeSlot_eq_some.1 hfree).2
      | closed k o hn => cases hn

theorem LeavesLast.workerMove (hs : s.LeavesLast) {lib : Answers} (hmove : s.WorkerMove lib es s')
    {i : ℕ} (hi : s'.worker = .scan i) : i < N := by
  cases hmove with
  | restart j hw hfree =>
      cases hi
      exact j.pos
  | enter j o hw ho => cases hi
  | work k src stmt o o' place _ hw ho hd =>
      cases place with
      | some place => cases hi
      | none =>
          cases hi
          exact hs.succ_lt ho

theorem LeavesLast.tickMove (hs : s.LeavesLast) (hsound : s.Sound) (hN : 0 < N)
    (hmove : s.TickMove es s') {i : ℕ} (hi : s'.main = .scan i) : i < N := by
  cases hmove with
  | start hm =>
      cases hi
      exact hN
  | finish j hm hfree => cases hi
  | enter j o hm ho => cases hi
  | work k src stmt v place _ hm hd =>
      cases place with
      | some place => cases hi
      | none =>
          cases hi
          obtain ⟨o, ho, -⟩ := hsound.tick k src stmt (main_place hm)
          exact hs.succ_lt ho

/-- Every step that keeps the rules leaves the last slot alone. -/
theorem LeavesLast.step (hs : s.LeavesLast) (hsound : s.Sound) (hN : 0 < N) (hkeeps : s.KeepsRules a)
    (hstep : s.step a = .next s' es) : s'.LeavesLast := by
  refine ⟨fun h hlast => ?_, fun i hi => ?_, fun i hi => ?_⟩
  · by_contra hsome
    obtain ⟨⟨thread, amx, params, lib, ha⟩, hlow⟩ := filled_of_step hstep (hs.free h hlast) hsome
    obtain ⟨j, k, hjk, hj, -⟩ := hkeeps.spare thread amx params lib ha
    have hlt : j < h := Fin.lt_def.2 (by have := k.isLt; omega)
    exact hlow j hlt hj
  · by_cases ha : a.isWorker = true
    · obtain ⟨lib, rfl⟩ := Action.eq_worker ha
      exact hs.workerMove (workerMove_of_step hstep) hi
    · exact hs.worker i (worker_of_step (by simpa using ha) hstep ▸ hi)
  · by_cases ha : a.isTick = true
    · obtain rfl := Action.eq_tick ha
      exact hs.tickMove hsound hN (tickMove_of_step hstep) hi
    · exact hs.tick i (main_of_step (by simpa using ha) hstep ▸ hi)

theorem leavesLast_initial (hN : 0 < N) : (initial : System N).LeavesLast := by
  refine ⟨fun h _ => rfl, fun i hi => ?_, nofun⟩
  cases hi
  exact hN

/-- What a run that keeps the rules comes to. -/
theorem leavesLast_reach (hN : 0 < N) (hrun : (plugin N).Reach KeepsRules tr s) :
    s.Sound ∧ s.LeavesLast := by
  induction hrun with
  | refl => exact ⟨sound_reach .refl, leavesLast_initial hN⟩
  | step hrun hkeeps hstep ih =>
      refine ⟨sound_reach ((hrun.step hkeeps hstep).mono fun _ _ hk => hk.quiet), ?_⟩
      exact ih.2.step ih.1 hN hkeeps hstep

/-- **The rules suffice**: as long as the scripts keep them no step faults, whatever the order of their
    calls and of the statements of the two threads. -/
theorem rules_suffice (hN : 0 < N) (hrun : (plugin N).Reach KeepsRules tr s) (hkeeps : s.KeepsRules a)
    (f : Fault) : s.step a ≠ .fault f := by
  intro hf
  obtain ⟨hsound, hlast⟩ := leavesLast_reach hN hrun
  have hbreaks := (hsound.faults_iff a).1 ⟨f, hf⟩
  cases a with
  | worker lib =>
      obtain ⟨i, hw, hi⟩ := hbreaks
      exact absurd (hlast.worker i hw) (not_lt.2 hi)
  | tick =>
      obtain ⟨i, hm, hi⟩ := hbreaks
      exact absurd (hlast.tick i hm) (not_lt.2 hi)
  | native thread name amx params lib => exact hkeeps.checked rfl hbreaks
  | load amx | unload amx => exact hbreaks

/-- What a script of one handle has to check in a table of two slots. -/
def keepsRules (s : System 2) (a : Action) : Bool :=
  match a with
  | .native _ name _ _ _ =>
    !a.isClose && (name ≠ .mysql_init || ((s.my 0).isNone && (s.my 1).isNone)) &&
      match s.step a with
      | .next _ _ => true
      | _ => false
  | _ => true

theorem keepsRules_sound {s : System 2} {a : Action} (hkeeps : keepsRules s a = true) :
    s.KeepsRules a := by
  cases a with
  | native thread name amx params lib =>
      simp only [keepsRules, Bool.and_eq_true, Bool.not_eq_true', Bool.or_eq_true, decide_eq_true_eq,
        Option.isNone_iff_eq_none] at hkeeps
      obtain ⟨⟨hclose, hfree⟩, hnext⟩ := hkeeps
      refine ⟨fun h => Slot.closesQuietly_of_not_close hclose, ?_, fun _ hbreaks => ?_⟩
      · intro thread' amx' params' lib' ha
        cases ha
        obtain hne | ⟨h₀, h₁⟩ := hfree
        · exact absurd rfl hne
        · exact ⟨0, 1, Fin.zero_lt_one, h₀, h₁⟩
      · obtain ⟨f, hf⟩ := native_breaks_iff.2 hbreaks
        rw [hf] at hnext
        cases hnext
  | worker | tick | load | unload =>
      refine ⟨fun h => Slot.closesQuietly_of_not_close rfl, ?_, fun hnative => by cases hnative⟩
      intro thread amx params lib ha
      cases ha

/-- A statement waits on a connection in a table of two slots, and the worker comes to it. -/
theorem rules_kept_by_a_query :
    ∃ s : System 2, s.worker = .body 0 0 .test ∧ ∀ lib f, s.step (.worker lib) ≠ .fault f := by
  obtain ⟨tr, s, hrun, hview⟩ := Machine.exists_run_of_exec (M := plugin 2) (P := KeepsRules)
    (f := fun r => r.1.worker)
    (show Option.map _ ((plugin 2).exec ([Script.mysql_init, Script.mysql_connect 0,
      Script.mysql_query 7 5 0] ++ Script.work 1) System.initial) = some (.body 0 0 .test) from rfl)
    (Machine.obeys_of_check (p := keepsRules) rfl fun _ _ => keepsRules_sound)
  exact ⟨s, hview, fun lib f => rules_suffice (by decide) hrun (keepsRules_sound rfl) f⟩

end System
end MysqlPlugin
