import Mathlib.Algebra.Order.Ring.Int
import Mathlib.Data.List.TakeWhile
import Mathlib.Data.Set.Defs
import Mathlib.Logic.Function.Basic
import Mathlib.Tactic.Common

set_option autoImplicit false

/-! # Stores to memory

A piece of code that fills memory is described by its stores, in order: where, and what. They stay
`Within` a region exactly if, whatever the memory holds, nothing outside the region changes
(`forall_after_eq_iff`). Stores to consecutive addresses (`consecutive`) stay within an array exactly if
there are at most as many of them as it has places (`within_consecutive_iff`).

A `HeapBuffer` is a block of fixed size, the stores made to it, and contents that are arbitrary where
nothing was stored; the strings it can hold end in a terminator (`IsString`). -/

namespace Stores

section Region

variable {ι α : Type} [DecidableEq ι]

/-- The memory after some stores. -/
def after (mem : ι → α) (stores : List (ι × α)) : ι → α :=
  stores.foldl (fun mem store => Function.update mem store.1 store.2) mem

/-- Every store is in the region. -/
def Within (region : Set ι) (stores : List (ι × α)) : Prop := ∀ store ∈ stores, store.1 ∈ region

variable {region : Set ι} {mem mem' : ι → α} {stores stores' : List (ι × α)} {i : ι}

theorem after_append : after mem (stores ++ stores') = after (after mem stores) stores' :=
  List.foldl_append ..

omit [DecidableEq ι] in
theorem within_append :
    Within region (stores ++ stores') ↔ Within region stores ∧ Within region stores' :=
  List.forall_mem_append

omit [DecidableEq ι] in
theorem within_singleton {a : α} : Within region [(i, a)] ↔ i ∈ region := List.forall_mem_singleton

/-- A place nothing is stored at is unchanged. -/
theorem after_of_notMem (h : i ∉ stores.map Prod.fst) : after mem stores i = mem i := by
  induction stores generalizing mem with
  | nil => rfl
  | cons store stores ih =>
      rw [List.map_cons, List.mem_cons, not_or] at h
      exact (ih h.2).trans (Function.update_of_ne h.1 _ _)

end Region

/-! ## Consecutive addresses -/

section Consecutive

variable {α : Type} {base : ℤ} {size : ℕ} {mem : ℤ → α} {xs ys : List α}

/-- The places of an array. -/
def places (base : ℤ) (size : ℕ) : Set ℤ := {i | base ≤ i ∧ i < base + size}

/-- One store after another, from an address on. -/
def consecutive : ℤ → List α → List (ℤ × α)
  | _, [] => []
  | base, x :: xs => (base, x) :: consecutive (base + 1) xs

theorem mem_places {i : ℤ} : i ∈ places base size ↔ base ≤ i ∧ i < base + size := Iff.rfl

theorem mem_consecutive_iff {i : ℤ} :
    i ∈ (consecutive base xs).map Prod.fst ↔ i ∈ places base xs.length := by
  induction xs generalizing base with
  | nil => simp [consecutive, mem_places]
  | cons x xs ih =>
      rw [consecutive, List.map_cons, List.mem_cons, ih, mem_places, mem_places, List.length_cons]
      push_cast
      omega

theorem within_iff_forall_mem {region : Set ℤ} {stores : List (ℤ × α)} :
    Within region stores ↔ ∀ i ∈ stores.map Prod.fst, i ∈ region := by
  rw [List.forall_mem_map]
  rfl

/-- **Consecutive stores stay within an array** if it has places for all of them. -/
theorem within_consecutive_iff : Within (places base size) (consecutive base xs) ↔ xs.length ≤ size := by
  rw [within_iff_forall_mem]
  simp only [mem_consecutive_iff, mem_places]
  constructor
  · intro hall
    by_contra hlong
    have hout := hall (base + size) (by omega)
    omega
  · intro hfits i hi
    omega

/-- And what is found there afterwards. -/
theorem after_consecutive {k : ℕ} (hk : k < xs.length) :
    after mem (consecutive base xs) (base + k) = xs[k] := by
  induction xs generalizing base mem k with
  | nil => exact absurd hk (Nat.not_lt_zero k)
  | cons x xs ih =>
      cases k with
      | zero =>
          have hfirst : base ∉ (consecutive (base + 1) xs).map Prod.fst := by
            rw [mem_consecutive_iff, mem_places]
            omega
          rw [Int.natCast_zero, add_zero]
          exact (after_of_notMem hfirst).trans (Function.update_self ..)
      | succ k =>
          rw [Int.natCast_succ, add_comm (k : ℤ), ← add_assoc]
          exact ih (Nat.lt_of_succ_lt_succ hk)

end Consecutive

/-! ## Strings in memory -/

section Strings

variable {α : Type} (nul : α) {mem : ℤ → α} {base : ℤ} {s t : List α}

/-- At the address there is this string: its items, none of them the terminator, and then the
    terminator. -/
structure IsString (mem : ℤ → α) (base : ℤ) (s : List α) : Prop where
  nul_notMem : nul ∉ s
  item : ∀ k (hk : k < s.length), mem (base + k) = s[k]
  terminated : mem (base + s.length) = nul

variable {nul}

/-- It is the only one. -/
theorem IsString.unique (hs : IsString nul mem base s) (ht : IsString nul mem base t) : s = t := by
  have hle : ∀ {s t : List α}, IsString nul mem base s → IsString nul mem base t →
      s.length ≤ t.length := by
    intro s t hs ht
    by_contra hlt
    have hitem := hs.item t.length (not_le.1 hlt)
    rw [ht.terminated] at hitem
    exact hs.nul_notMem (hitem ▸ List.getElem_mem _)
  refine List.ext_getElem (le_antisymm (hle hs ht) (hle ht hs)) fun k hk hk' => ?_
  rw [← hs.item k hk, ht.item k hk']

/-- Stored one after another, the items and the terminator are a string, whatever follows. -/
theorem isString_consecutive {rest : List α} (hs : nul ∉ s) :
    IsString nul (after mem (consecutive base (s ++ nul :: rest))) base s := by
  refine ⟨hs, fun k hk => ?_, ?_⟩
  · rw [after_consecutive (by simp; omega), List.getElem_append_left hk]
  · rw [after_consecutive (by simp), List.getElem_append_right le_rfl]
    simp

theorem nul_notMem_takeWhile [DecidableEq α] : nul ∉ s.takeWhile (· ≠ nul) := by
  intro hmem
  have hne := List.mem_takeWhile_imp hmem
  exact of_decide_eq_true hne rfl

/-- Up to its first terminator, and from there on. -/
theorem exists_terminated [DecidableEq α] (nul : α) (s : List α) :
    ∃ rest, s ++ [nul] = s.takeWhile (· ≠ nul) ++ nul :: rest := by
  induction s with
  | nil => exact ⟨[], rfl⟩
  | cons a s ih =>
      by_cases ha : a = nul
      · subst ha
        exact ⟨s ++ [a], by simp⟩
      · obtain ⟨rest, hrest⟩ := ih
        refine ⟨rest, ?_⟩
        simp [ha, hrest]

end Strings

/-! ## Buffers -/

/-- A block of memory: its size, and the stores made to it since it was allocated. -/
structure HeapBuffer (α : Type) where
  size : ℕ
  stores : List (ℤ × α)

namespace HeapBuffer

variable {α : Type}

/-- A new block. -/
def new (size : ℕ) : HeapBuffer α := ⟨size, []⟩

/-- `buffer[ i ] = a`. -/
def store (buffer : HeapBuffer α) (i : ℕ) (a : α) : HeapBuffer α :=
  { buffer with stores := buffer.stores ++ [((i : ℤ), a)] }

/-- Write items, and the terminator after them, to the start of the block. -/
def put (nul : α) (buffer : HeapBuffer α) (s : List α) : HeapBuffer α :=
  { buffer with stores := buffer.stores ++ consecutive 0 (s ++ [nul]) }

/-- No store is outside the block. -/
def InBounds (buffer : HeapBuffer α) : Prop := Within (places 0 buffer.size) buffer.stores

instance (buffer : HeapBuffer α) : Decidable buffer.InBounds :=
  inferInstanceAs
    (Decidable (∀ store ∈ buffer.stores, (0 : ℤ) ≤ store.1 ∧ store.1 < 0 + (buffer.size : ℤ)))

/-- Whatever was in the block, it holds the string now. -/
def Holds (nul : α) (buffer : HeapBuffer α) (s : List α) : Prop :=
  ∀ mem, IsString nul (after mem buffer.stores) 0 s

variable {nul : α} {buffer : HeapBuffer α} {s t : List α} {size i : ℕ} {a : α}

theorem inBounds_new : (new size : HeapBuffer α).InBounds := fun _ h => absurd h List.not_mem_nil

theorem inBounds_store_iff : (buffer.store i a).InBounds ↔ buffer.InBounds ∧ i < buffer.size := by
  have hplace : ((i : ℤ) ∈ places 0 buffer.size) ↔ i < buffer.size := by
    rw [mem_places]
    omega
  rw [InBounds, store, within_append, within_singleton, hplace]
  rfl

/-- A string fits if there is room for the terminator, too. -/
theorem inBounds_put_iff : (buffer.put nul s).InBounds ↔ buffer.InBounds ∧ s.length < buffer.size := by
  rw [InBounds, put, within_append, within_consecutive_iff, List.length_append,
    List.length_singleton, Nat.succ_le_iff]
  rfl

theorem inBounds_put_new_iff : ((new size).put nul s).InBounds ↔ s.length < size := by
  rw [inBounds_put_iff]
  exact and_iff_right inBounds_new

/-- The string that is read back: what was put, up to the first terminator in it. -/
theorem holds_put [DecidableEq α] : (buffer.put nul s).Holds nul (s.takeWhile (· ≠ nul)) := by
  intro mem
  obtain ⟨rest, hrest⟩ := exists_terminated nul s
  rw [put, after_append, hrest]
  exact isString_consecutive nul_notMem_takeWhile

/-- All of it, if there is no terminator in it. -/
theorem holds_put_of_notMem (hs : nul ∉ s) : (buffer.put nul s).Holds nul s := by
  intro mem
  rw [put, after_append]
  exact isString_consecutive hs

/-- A terminator stored behind the string changes nothing. -/
theorem Holds.store (h : buffer.Holds nul s) (hi : s.length ≤ i) : (buffer.store i nul).Holds nul s := by
  intro mem
  obtain ⟨hnul, hitem, hterm⟩ := h mem
  have hafter : after mem (buffer.store i nul).stores =
      Function.update (after mem buffer.stores) i nul := after_append
  refine ⟨hnul, fun k hk => ?_, ?_⟩
  · rw [hafter, Function.update_of_ne (by omega), hitem]
  · rw [hafter]
    by_cases heq : (0 : ℤ) + s.length = i
    · rw [heq, Function.update_self]
    · rw [Function.update_of_ne heq, hterm]

/-- A block holds one string. -/
theorem Holds.unique (hs : buffer.Holds nul s) (ht : buffer.Holds nul t) : s = t :=
  (hs fun _ => nul).unique (ht fun _ => nul)

end HeapBuffer
end Stores
