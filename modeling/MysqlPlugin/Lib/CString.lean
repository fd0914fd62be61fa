import Mathlib.Data.List.Basic
import Mathlib.Order.Nat
import Mathlib.Tactic.Common

set_option autoImplicit false

/-! # Strings in a buffer

A buffer of fixed size holds a string: its items, and after them a terminator (`Holds`). `strlen`
looks for the terminator and `strcat` appends another string there. Either is undefined (`none`) if it
would have to go past the end of the buffer. Any number of `strcat`s is defined exactly if the strings
together, with one terminator, fit (`strcats_eq_some`, `strcats_eq_none`). -/

namespace CString

variable {α : Type} [DecidableEq α] (nul : α)

/-- The number of items before the terminator. -/
def strlen (buffer : List α) : Option ℕ :=
  if (buffer.takeWhile (· ≠ nul)).length < buffer.length then
    some (buffer.takeWhile (· ≠ nul)).length
  else none

/-- Write a string, and its terminator, where the terminator was. -/
def strcat (buffer s : List α) : Option (List α) := do
  let n ← strlen nul buffer
  if n + s.length < buffer.length then
    some (buffer.take n ++ (s ++ nul :: buffer.drop (n + s.length + 1)))
  else none

/-- Several of them, in turn. -/
def strcats : List (List α) → List α → Option (List α)
  | [], buffer => some buffer
  | s :: ss, buffer => do
    let buffer ← strcat nul buffer s
    strcats ss buffer

/-- The buffer holds the string. -/
structure Holds (buffer s : List α) : Prop where
  nul_notMem : nul ∉ s
  isPrefix : s ++ [nul] <+: buffer

variable {nul} {buffer s t : List α}

omit [DecidableEq α] in
theorem Holds.length_lt (h : Holds nul buffer s) : s.length < buffer.length := by
  have hle := h.isPrefix.length_le
  simp only [List.length_append, List.length_singleton] at hle
  omega

omit [DecidableEq α] in
/-- A buffer of terminators holds the empty string. -/
theorem holds_replicate {n : ℕ} (hn : 0 < n) : Holds nul (List.replicate n nul) [] := by
  obtain ⟨n, rfl⟩ := Nat.exists_eq_succ_of_ne_zero hn.ne'
  exact ⟨List.not_mem_nil, List.replicate n nul, rfl⟩

/-- The items before the terminator are the string. -/
theorem Holds.takeWhile_eq (h : Holds nul buffer s) : buffer.takeWhile (· ≠ nul) = s := by
  obtain ⟨hnul, rest, rfl⟩ := h
  have hall : ∀ a ∈ s, decide (a ≠ nul) = true := by
    intro a ha
    exact decide_eq_true fun heq => hnul (heq ▸ ha)
  rw [List.append_assoc, List.takeWhile_append_of_pos hall]
  simp

theorem Holds.strlen_eq (h : Holds nul buffer s) : strlen nul buffer = some s.length := by
  rw [strlen, h.takeWhile_eq, if_pos h.length_lt]

/-- When the other string fits, it is appended. -/
theorem Holds.strcat_eq_some (h : Holds nul buffer s) (ht : nul ∉ t)
    (hfits : s.length + t.length < buffer.length) :
    ∃ buffer', strcat nul buffer t = some buffer' ∧ buffer'.length = buffer.length ∧
      Holds nul buffer' (s ++ t) := by
  have hlen := h.strlen_eq
  obtain ⟨hnul, rest, rfl⟩ := h
  refine ⟨_, by rw [strcat, hlen]; exact if_pos hfits, ?_, ?_, ?_⟩
  · simp only [List.length_append, List.length_cons, List.length_nil, List.length_take,
      List.length_drop] at hfits ⊢
    omega
  · simp [hnul, ht]
  · refine ⟨(s ++ [nul] ++ rest).drop (s.length + t.length + 1), ?_⟩
    simp

theorem Holds.strcat_eq_none (h : Holds nul buffer s) (hlong : buffer.length ≤ s.length + t.length) :
    strcat nul buffer t = none := by
  rw [strcat, h.strlen_eq]
  exact if_neg hlong.not_gt

/-- In a buffer of no size there is nothing to append to. -/
theorem strcats_nil {ss : List (List α)} (hss : ss ≠ []) : strcats nul ss [] = none := by
  cases ss with
  | nil => exact absurd rfl hss
  | cons t ss => rfl

/-- **When all the strings fit**, the buffer holds them one after another. -/
theorem strcats_eq_some {ss : List (List α)} (hss : ∀ t ∈ ss, nul ∉ t) (h : Holds nul buffer s)
    (hfits : s.length + ss.flatten.length < buffer.length) :
    ∃ buffer', strcats nul ss buffer = some buffer' ∧ buffer'.length = buffer.length ∧
      Holds nul buffer' (s ++ ss.flatten) := by
  induction ss generalizing buffer s with
  | nil => exact ⟨buffer, rfl, rfl, by simpa using h⟩
  | cons t ss ih =>
      rw [List.flatten_cons, List.length_append] at hfits
      obtain ⟨buffer₁, hcat, hlength, hholds⟩ :=
        h.strcat_eq_some (hss t List.mem_cons_self) (by omega)
      obtain ⟨buffer₂, hcats, hlength', hholds'⟩ :=
        ih (fun u hu => hss u (List.mem_cons_of_mem _ hu)) hholds (by
          rw [List.length_append, hlength]
          omega)
      refine ⟨buffer₂, ?_, hlength'.trans hlength, ?_⟩
      · rw [strcats, hcat]
        exact hcats
      · rwa [List.flatten_cons, ← List.append_assoc]

/-- **When they do not**, one of them is written past the end. -/
theorem strcats_eq_none {ss : List (List α)} (hss : ∀ t ∈ ss, nul ∉ t) (h : Holds nul buffer s)
    (hlong : buffer.length ≤ s.length + ss.flatten.length) : strcats nul ss buffer = none := by
  induction ss generalizing buffer s with
  | nil => exact absurd h.length_lt (by simpa using hlong)
  | cons t ss ih =>
      rw [List.flatten_cons, List.length_append] at hlong
      rw [strcats]
      by_cases hfits : s.length + t.length < buffer.length
      · obtain ⟨buffer₁, hcat, hlength, hholds⟩ :=
          h.strcat_eq_some (hss t List.mem_cons_self) hfits
        rw [hcat]
        refine ih (fun u hu => hss u (List.mem_cons_of_mem _ hu)) hholds ?_
        rw [List.length_append, hlength]
        omega
      · rw [h.strcat_eq_none (not_lt.1 hfits)]
        rfl

end CString
