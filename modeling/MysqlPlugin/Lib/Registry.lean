import Mathlib.Data.List.Induction
import Mathlib.Data.List.Nodup
import Mathlib.Tactic.Common

set_option autoImplicit false

/-! # Registries

A registry is a list to whose end an entry is added and from which the first match of an entry is
removed. After any history in which nothing is added that is still registered, it holds what was added
and not removed since, each once, in the order it was added (`Registry.run_eq_live`). -/

namespace Registry

/-- A change of the registry. -/
inductive Change (α : Type)
  | add (a : α)
  | remove (a : α)
  deriving DecidableEq, Repr

variable {α : Type} [DecidableEq α]

/-- The registry after a change. -/
def Change.apply (registry : List α) : Change α → List α
  | .add a => registry ++ [a]
  | .remove a => registry.erase a

/-- The registry after a history. -/
def run (history : List (Change α)) : List α := history.foldl Change.apply []

/-- What a history adds and does not remove afterwards, in the order of adding. -/
def live : List (Change α) → List α
  | [] => []
  | .add a :: history => if .remove a ∈ history then live history else a :: live history
  | .remove _ :: history => live history

/-- Nothing is added that is still registered. -/
def WellFormed (history : List (Change α)) : Prop :=
  ∀ before a after, history = before ++ .add a :: after → a ∉ live before

variable {history : List (Change α)} {a : α}

/-- A history is well-formed if no place of it adds what is registered there. -/
theorem wellFormed_iff : WellFormed history ↔
    ∀ n : Fin history.length, ∀ a ∈ live (history.take n), history[n] ≠ .add a := by
  constructor
  · intro h n a ha hn
    refine h (history.take n) a (history.drop (n + 1)) ?_ ha
    rw [← hn, Fin.getElem_fin, ← List.drop_eq_getElem_cons n.isLt, List.take_append_drop]
  · rintro h before a after rfl ha
    exact h ⟨before.length, by simp⟩ a (by simpa using ha) (by simp)

instance : Decidable (WellFormed history) := decidable_of_iff _ wellFormed_iff.symm

theorem live_append_add (history : List (Change α)) (a : α) :
    live (history ++ [.add a]) = live history ++ [a] := by
  induction history with
  | nil => rfl
  | cons c history ih =>
      cases c with
      | add b => by_cases hb : .remove b ∈ history <;> simp [live, hb, ih]
      | remove b => exact ih

theorem live_append_remove (history : List (Change α)) (a : α) :
    live (history ++ [.remove a]) = (live history).filter (· ≠ a) := by
  induction history with
  | nil => rfl
  | cons c history ih =>
      cases c with
      | add b =>
          rw [List.cons_append, live, live, ih]
          by_cases hb : .remove b ∈ history
          · rw [if_pos hb, if_pos (List.mem_append_left _ hb)]
          · rw [if_neg hb]
            by_cases hab : b = a
            · subst hab
              rw [if_pos (List.mem_append_right _ List.mem_cons_self),
                List.filter_cons_of_neg (by simp)]
            · rw [if_neg (by simp [hb, hab]), List.filter_cons_of_pos (by simpa using hab)]
      | remove b => exact ih

theorem WellFormed.of_append {history' : List (Change α)} (h : WellFormed (history ++ history')) :
    WellFormed history := by
  rintro before a after rfl
  exact h before a (after ++ history') (by simp)

/-- Nothing is registered twice. -/
theorem nodup_live (h : WellFormed history) : (live history).Nodup := by
  induction history using List.reverseRecOn with
  | nil => exact List.nodup_nil
  | append_singleton history c ih =>
      have hbefore := ih h.of_append
      cases c with
      | add a =>
          rw [live_append_add]
          have hnew := h history a [] rfl
          exact List.nodup_append.2 ⟨hbefore, List.nodup_singleton a, by
            rintro b hb c hc rfl
            obtain rfl := List.mem_singleton.1 hc
            exact hnew hb⟩
      | remove a =>
          rw [live_append_remove]
          exact hbefore.filter _

/-- **The registry holds what is live.** -/
theorem run_eq_live (h : WellFormed history) : run history = live history := by
  induction history using List.reverseRecOn with
  | nil => rfl
  | append_singleton history c ih =>
      rw [run, List.foldl_append, ← run, ih h.of_append]
      cases c with
      | add a => exact (live_append_add history a).symm
      | remove a =>
          rw [live_append_remove]
          change (live history).erase a = _
          rw [(nodup_live h.of_append).erase_eq_filter]
          exact List.filter_congr fun b _ => by rw [bne, beq_eq_decide, decide_not]

end Registry
