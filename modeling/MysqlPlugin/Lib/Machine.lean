import Mathlib.Data.Nat.Notation
import Mathlib.Logic.Relation
import Mathlib.Tactic.ByContra

set_option autoImplicit false

/-! # Labelled transition systems with events, and machines

An `Lts` has an initial state and a step relation whose steps are labelled with the action taken and
the events it emits. `Lts.Run P s₀ tr s` is a run from `s₀` to `s` that emits the trace `tr` and in
which every step obeys the discipline `P` (a condition on the state and the action taken in it);
`P := fun _ _ => True` gives all runs. Several threads of control are one system whose actions say
which thread moves, so that its runs are all the interleavings.

The rules are the ones invariant proofs need: what every step preserves every run preserves, also
together with the trace (`Run.history`), and a step-wise simulation carries over to runs
(`Run.simulation`).

A `Machine` is a system that is computed: in a state, an action is either not enabled, or runs into
a fault, or leads to one next state. Its runs are those of the system underneath, and a list of
actions can be executed (`Machine.exec`). -/

/-- A labelled transition system whose steps emit events. -/
structure Lts (σ α ε : Type) where
  init : σ
  Step : σ → α → List ε → σ → Prop

namespace Lts

variable {σ α ε τ β δ : Type} {T : Lts σ α ε} {P Q : σ → α → Prop}

/-- Runs from `s₀`, with the trace of events they emit. -/
inductive Run (T : Lts σ α ε) (P : σ → α → Prop) (s₀ : σ) : List ε → σ → Prop
  | refl : Run T P s₀ [] s₀
  | step {tr : List ε} {s : σ} {a : α} {es : List ε} {s' : σ} :
      Run T P s₀ tr s → P s a → T.Step s a es s' → Run T P s₀ (tr ++ es) s'

theorem Run.mono {s₀ s : σ} {tr : List ε} (h : T.Run P s₀ tr s)
    (hPQ : ∀ s a, P s a → Q s a) : T.Run Q s₀ tr s := by
  induction h with
  | refl => exact .refl
  | step _ hP hstep ih => exact ih.step (hPQ _ _ hP) hstep

theorem Run.trans {s₀ s s' : σ} {tr tr' : List ε} (h : T.Run P s₀ tr s)
    (h' : T.Run P s tr' s') : T.Run P s₀ (tr ++ tr') s' := by
  induction h' with
  | refl => simpa using h
  | step _ hP hstep ih =>
      rw [← List.append_assoc]
      exact ih.step hP hstep

theorem Run.single {s s' : σ} {a : α} {es : List ε} (hP : P s a) (hstep : T.Step s a es s') :
    T.Run P s es s' := by
  simpa using Run.refl.step hP hstep

/-! ## Invariants -/

/-- What every step preserves, every run preserves. -/
theorem Run.invariant {I : σ → Prop}
    (hstep : ∀ s a es s', I s → P s a → T.Step s a es s' → I s')
    {s₀ s : σ} {tr : List ε} (h : T.Run P s₀ tr s) (h₀ : I s₀) : I s := by
  induction h with
  | refl => exact h₀
  | step _ hP hs ih => exact hstep _ _ _ _ ih hP hs

/-- The same for a relation between the trace so far and the state. -/
theorem Run.history {I : List ε → σ → Prop}
    (hstep : ∀ tr s a es s', I tr s → P s a → T.Step s a es s' → I (tr ++ es) s')
    {s₀ s : σ} {tr : List ε} (h : T.Run P s₀ tr s) (h₀ : I [] s₀) : I tr s := by
  induction h with
  | refl => exact h₀
  | step _ hP hs ih => exact hstep _ _ _ _ _ ih hP hs

/-- A state reached under an invariant may be assumed to satisfy it at every step. -/
theorem Run.strengthen {I : σ → Prop}
    (hstep : ∀ s a es s', I s → P s a → T.Step s a es s' → I s')
    {s₀ s : σ} {tr : List ε} (h : T.Run P s₀ tr s) (h₀ : I s₀) :
    T.Run (fun s a => P s a ∧ I s) s₀ tr s := by
  induction h with
  | refl => exact .refl
  | step hrun hP hs ih => exact ih.step ⟨hP, hrun.invariant hstep h₀⟩ hs

/-! ## Progress -/

/-- A run to its end: as long as `E` is not reached there is a step that makes the measure smaller. -/
theorem exists_run_of_measure {J E : σ → Prop} (m : σ → ℕ)
    (hstep : ∀ s, J s → ¬ E s → ∃ a es s', P s a ∧ T.Step s a es s' ∧ J s' ∧ m s' < m s)
    {s : σ} (hs : J s) : ∃ tr s', T.Run P s tr s' ∧ E s' := by
  induction hm : m s using Nat.strongRecOn generalizing s with
  | _ n ih =>
      by_cases hE : E s
      · exact ⟨[], s, .refl, hE⟩
      · obtain ⟨a, es, s₁, hP, hs₁, hJ, hlt⟩ := hstep s hs hE
        obtain ⟨tr, s', hrun, hE'⟩ := ih (m s₁) (hm ▸ hlt) hJ rfl
        exact ⟨es ++ tr, s', (Run.single hP hs₁).trans hrun, hE'⟩

/-! ## Simulation -/

/-- If every step of `T` is matched by a run of `U`, then every run of `T` is, and the relation `S`
    between the two traces and states holds at its end. -/
theorem Run.simulation {U : Lts τ β δ} {Q : τ → β → Prop} {S : List ε → σ → List δ → τ → Prop}
    (hstep : ∀ tr s a es s' tr' t, S tr s tr' t → P s a → T.Step s a es s' →
      ∃ es' t', U.Run Q t es' t' ∧ S (tr ++ es) s' (tr' ++ es') t')
    {s₀ s : σ} {tr : List ε} {t : τ} (h : T.Run P s₀ tr s) (h₀ : S [] s₀ [] t) :
    ∃ tr' t', U.Run Q t tr' t' ∧ S tr s tr' t' := by
  induction h with
  | refl => exact ⟨[], t, .refl, h₀⟩
  | step _ hP hs ih =>
      obtain ⟨tr', t₁, hrun, hS⟩ := ih
      obtain ⟨es', t', hrun', hS'⟩ := hstep _ _ _ _ _ _ _ hS hP hs
      exact ⟨tr' ++ es', t', hrun.trans hrun', hS'⟩

end Lts

/-! ## Machines -/

/-- What attempting an action comes to. -/
inductive Outcome (σ ε φ : Type)
  | disabled
  | fault (f : φ)
  | next (s : σ) (events : List ε)

/-- A transition system that is computed, and whose steps may fault. -/
structure Machine (σ α ε φ : Type) where
  init : σ
  step : σ → α → Outcome σ ε φ

namespace Machine

variable {σ α ε φ : Type} {M : Machine σ α ε φ} {P : σ → α → Prop}

/-- The steps a machine takes. -/
def lts (M : Machine σ α ε φ) : Lts σ α ε := ⟨M.init, fun s a es s' => M.step s a = .next s' es⟩

/-- The runs of a machine from a state. -/
abbrev Run (M : Machine σ α ε φ) (P : σ → α → Prop) : σ → List ε → σ → Prop := M.lts.Run P

/-- The states some run from the initial state reaches, with a trace that leads there. -/
abbrev Reach (M : Machine σ α ε φ) (P : σ → α → Prop) : List ε → σ → Prop := M.Run P M.init

/-- The state and the trace after a list of actions, if all of them are enabled and none faults. -/
def exec (M : Machine σ α ε φ) : List α → σ → Option (σ × List ε)
  | [], s => some (s, [])
  | a :: as, s =>
    match M.step s a with
    | .next s' es => (M.exec as s').map (fun r => (r.1, es ++ r.2))
    | _ => none

/-- Every action of the list obeys the discipline in the state it is taken in. -/
def Obeys (M : Machine σ α ε φ) (P : σ → α → Prop) : List α → σ → Prop
  | [], _ => True
  | a :: as, s =>
    P s a ∧
      match M.step s a with
      | .next s' _ => M.Obeys P as s'
      | _ => True

/-- The condition holds of every state the actions of the list lead through, as far as they
    lead. -/
def Throughout (M : Machine σ α ε φ) (I : σ → Prop) : List α → σ → Prop
  | [], s => I s
  | a :: as, s =>
    I s ∧
      match M.step s a with
      | .next s' _ => M.Throughout I as s'
      | _ => True

/-- The exact condition for an invariant: if the actions that meet `P` preserve `I` and the others
    break it, then `I` holds throughout exactly if it holds at first and every action meets `P`. What
    all actions preserve (`J`) may be assumed. -/
theorem throughout_iff_obeys {I J : σ → Prop}
    (hJ : ∀ s a s' es, J s → M.step s a = .next s' es → J s')
    (hkeep : ∀ s a s' es, J s → I s → P s a → M.step s a = .next s' es → I s')
    (hbreak : ∀ s a, J s → I s → ¬ P s a → ∃ s' es, M.step s a = .next s' es ∧ ¬ I s')
    {as : List α} {s : σ} (hs : J s) : M.Throughout I as s ↔ I s ∧ M.Obeys P as s := by
  induction as generalizing s with
  | nil => simp [Throughout, Obeys]
  | cons a as ih =>
      simp only [Throughout, Obeys]
      refine and_congr_right fun hI => ?_
      cases hstep : M.step s a with
      | disabled | fault =>
          simp only [and_true, true_iff]
          by_contra hP
          obtain ⟨s', es, hnext, -⟩ := hbreak s a hs hI hP
          simp [hstep] at hnext
      | next s₁ es =>
          simp only [ih (hJ s a s₁ es hs hstep)]
          constructor
          · rintro ⟨hI', hobeys⟩
            refine ⟨?_, hobeys⟩
            by_contra hP
            obtain ⟨s', es', hnext, hI''⟩ := hbreak s a hs hI hP
            rw [hstep] at hnext
            cases hnext
            exact hI'' hI'
          · rintro ⟨hP, hobeys⟩
            exact ⟨hkeep s a s₁ es hs hI hP hstep, hobeys⟩

/-- A test that every action of the list passes in the state it is taken in. -/
def check (M : Machine σ α ε φ) (p : σ → α → Bool) : List α → σ → Bool
  | [], _ => true
  | a :: as, s =>
    p s a &&
      match M.step s a with
      | .next s' _ => M.check p as s'
      | _ => true

/-- A test that is sufficient for the discipline. -/
theorem obeys_of_check {p : σ → α → Bool} {as : List α} {s : σ} (h : M.check p as s = true)
    (hp : ∀ s a, p s a = true → P s a) : M.Obeys P as s := by
  induction as generalizing s with
  | nil => trivial
  | cons a as ih =>
      obtain ⟨ha, has⟩ := Bool.and_eq_true_iff.1 h
      refine ⟨hp s a ha, ?_⟩
      split
      · rename_i s' es hstep
        rw [hstep] at has
        exact ih has
      · trivial

/-- Where everything is allowed, every list of actions keeps the discipline. -/
theorem obeys_all (as : List α) (s : σ) : M.Obeys (fun _ _ => True) as s := by
  induction as generalizing s with
  | nil => trivial
  | cons a as ih =>
      refine ⟨trivial, ?_⟩
      split
      · exact ih _
      · trivial

theorem run_of_exec {as : List α} {s s' : σ} {tr : List ε} (h : M.exec as s = some (s', tr))
    (hP : M.Obeys P as s) : M.Run P s tr s' := by
  induction as generalizing s tr with
  | nil =>
      simp only [exec, Option.some.injEq, Prod.mk.injEq] at h
      obtain ⟨rfl, rfl⟩ := h
      exact .refl
  | cons a as ih =>
      obtain ⟨hPa, hP'⟩ := hP
      simp only [exec] at h
      cases hs : M.step s a with
      | disabled => simp [hs] at h
      | fault f => simp [hs] at h
      | next s₁ es =>
          simp only [hs, Option.map_eq_some_iff, Prod.exists, Prod.mk.injEq] at h hP'
          obtain ⟨s₂, tr', h', rfl, rfl⟩ := h
          exact (Lts.Run.single hPa hs).trans (ih h' hP')

/-- What is computed of the outcome of a list of actions holds at the end of a run. -/
theorem exists_run_of_exec {γ : Type} {f : σ × List ε → γ} {c : γ} {as : List α} {s : σ}
    (h : (M.exec as s).map f = some c) (hP : M.Obeys P as s) :
    ∃ tr s', M.Run P s tr s' ∧ f (s', tr) = c := by
  obtain ⟨⟨s', tr⟩, hexec, hf⟩ := Option.map_eq_some_iff.1 h
  exact ⟨tr, s', run_of_exec hexec hP, hf⟩

end Machine
