import Mathlib.Data.List.Basic

set_option autoImplicit false

/-! # A pipeline that loses, duplicates and reorders nothing

Work items are accepted into a queue, executed one after another with success or failure, and the
result of every successful one is handed over and finally delivered; every failed one is reported. A
`Ledger` relates the histories of these four moments to what is under way in between: the items still
waiting, the results in flight and the failures not reported yet. Each rule says how the ledger goes
on when one more thing happens; a system for which only these things happen conserves every item. -/

namespace Pipeline

variable {α β : Type}

/-- The items that were executed with the given outcome, in order. -/
def outcomes (ok : Bool) (executed : List (α × Bool)) : List α :=
  (executed.filter (fun x => x.2 = ok)).map Prod.fst

@[simp] theorem outcomes_nil (ok : Bool) : outcomes ok ([] : List (α × Bool)) = [] := rfl

@[simp] theorem outcomes_append (ok : Bool) (xs ys : List (α × Bool)) :
    outcomes ok (xs ++ ys) = outcomes ok xs ++ outcomes ok ys := by
  simp [outcomes]

@[simp] theorem outcomes_singleton (ok : Bool) (a : α) : outcomes ok [(a, ok)] = [a] := by
  simp [outcomes]

theorem outcomes_singleton_of_ne {ok ok' : Bool} (h : ok' ≠ ok) (a : α) :
    outcomes ok [(a, ok')] = [] := by
  simp [outcomes, h]

/-- The histories of a pipeline, and what is under way: `result` is what a successful item yields. -/
structure Ledger (result : α → β) (accepted : List α) (executed : List (α × Bool))
    (waiting : List α) (delivered inFlight : List β) (reported unreported : List α) : Prop where
  order : accepted = executed.map Prod.fst ++ waiting
  handed : delivered ++ inFlight = (outcomes true executed).map result
  failed : reported ++ unreported = outcomes false executed

variable {result : α → β} {accepted : List α} {executed : List (α × Bool)} {waiting : List α}
  {delivered inFlight : List β} {reported unreported : List α} {a : α} {b : β}

theorem Ledger.empty : Ledger result [] [] [] [] [] [] [] := ⟨rfl, rfl, rfl⟩

theorem Ledger.accept
    (h : Ledger result accepted executed waiting delivered inFlight reported unreported) :
    Ledger result (accepted ++ [a]) executed (waiting ++ [a]) delivered inFlight reported
      unreported := by
  refine ⟨?_, h.handed, h.failed⟩
  rw [h.order, List.append_assoc]

/-- The first waiting item is executed with success, while no result is in flight. -/
theorem Ledger.succeed
    (h : Ledger result accepted executed (a :: waiting) delivered [] reported unreported) :
    Ledger result accepted (executed ++ [(a, true)]) waiting delivered [result a] reported
      unreported := by
  refine ⟨?_, ?_, ?_⟩
  · rw [h.order, List.map_append, List.append_assoc]
    rfl
  · rw [outcomes_append, outcomes_singleton, List.map_append, ← h.handed, List.append_nil]
    rfl
  · rw [outcomes_append, outcomes_singleton_of_ne (by simp), List.append_nil, h.failed]

/-- The first waiting item is executed and fails, while all failures before it are reported. -/
theorem Ledger.fail
    (h : Ledger result accepted executed (a :: waiting) delivered inFlight reported []) :
    Ledger result accepted (executed ++ [(a, false)]) waiting delivered inFlight reported [a] := by
  refine ⟨?_, ?_, ?_⟩
  · rw [h.order, List.map_append, List.append_assoc]
    rfl
  · rw [outcomes_append, outcomes_singleton_of_ne (by simp), List.append_nil, h.handed]
  · rw [outcomes_append, outcomes_singleton, ← h.failed, List.append_nil]

theorem Ledger.deliver
    (h : Ledger result accepted executed waiting delivered (b :: inFlight) reported unreported) :
    Ledger result accepted executed waiting (delivered ++ [b]) inFlight reported unreported := by
  refine ⟨h.order, ?_, h.failed⟩
  rw [← h.handed, List.append_assoc]
  rfl

theorem Ledger.report
    (h : Ledger result accepted executed waiting delivered inFlight reported (a :: unreported)) :
    Ledger result accepted executed waiting delivered inFlight (reported ++ [a]) unreported := by
  refine ⟨h.order, h.handed, ?_⟩
  rw [← h.failed, List.append_assoc]
  rfl

end Pipeline
