import Mathlib.Data.List.Basic

set_option autoImplicit false

/-! # A one-place mailbox guarded by a flag

A producer and a consumer exchange messages through a box and a flag. The producer works only while
the flag is down; when its work yields a message it raises the flag and only then puts the message
into the box. The consumer looks into the box only while the flag is up; it works on the message it
finds, removes it, and only then lowers the flag. Flag and box are never updated together, so the two
disagree in between.

A `Phase` is a point of this exchange, with what the flag, the box and the two parties look like
there. A system whose flag, box and parties always look like some phase, and whose steps are phase
steps, inherits the facts at the end of the file. -/

namespace Mailbox

/-- A point of the exchange. -/
inductive Phase (β : Type)
  | free
  | producing
  | raised
  | full (b : β)
  | consuming (b : β)
  | emptied

/-- What the producer is doing: nothing here, working on a message, or about to put it. -/
inductive Producer
  | away
  | working
  | putting
  deriving DecidableEq

/-- What the consumer is doing: nothing here, working on a message, or about to lower the flag. -/
inductive Consumer
  | away
  | working
  | lowering
  deriving DecidableEq

namespace Phase

variable {β : Type}

def flag : Phase β → Bool
  | .free | .producing => false
  | _ => true

def box : Phase β → List β
  | .full b | .consuming b => [b]
  | _ => []

def producer : Phase β → Producer
  | .producing => .working
  | .raised => .putting
  | _ => .away

def consumer : Phase β → Consumer
  | .consuming _ => .working
  | .emptied => .lowering
  | _ => .away

/-- The exchange. `abort` is work that yields no message; `discard` throws the whole mailbox away
    while neither party uses it. -/
inductive Step : Phase β → Phase β → Prop
  | start : Step .free .producing
  | abort : Step .producing .free
  | raise : Step .producing .raised
  | put (b : β) : Step .raised (.full b)
  | take (b : β) : Step (.full b) (.consuming b)
  | remove (b : β) : Step (.consuming b) .emptied
  | lower : Step .emptied .free
  | discard (b : β) : Step (.full b) .free

/-! ## Which phase it is -/

variable {p : Phase β}

theorem eq_producing (h : p.producer = .working) : p = .producing := by
  cases p with
  | producing => rfl
  | free | raised | full | consuming | emptied => cases h

theorem eq_raised (h : p.producer = .putting) : p = .raised := by
  cases p with
  | raised => rfl
  | free | producing | full | consuming | emptied => cases h

theorem eq_consuming (h : p.consumer = .working) : ∃ b, p = .consuming b := by
  cases p with
  | consuming b => exact ⟨b, rfl⟩
  | free | producing | raised | full | emptied => cases h

theorem eq_emptied (h : p.consumer = .lowering) : p = .emptied := by
  cases p with
  | emptied => rfl
  | free | producing | raised | full | consuming => cases h

/-- While the producer is elsewhere and the flag is down, nothing is going on. -/
theorem eq_free (h : p.producer = .away) (hf : p.flag = false) : p = .free := by
  cases p with
  | free => rfl
  | producing => cases h
  | raised | full | consuming | emptied => cases hf

/-- While the consumer is elsewhere, a message in the box waits for it. -/
theorem eq_full (h : p.consumer = .away) {b : β} {bs : List β} (hb : p.box = b :: bs) :
    p = .full b := by
  cases p with
  | full b' =>
      cases hb
      rfl
  | consuming b' => cases h
  | free | producing | raised | emptied => cases hb

/-- While both parties are elsewhere, the mailbox is free or holds a message. -/
theorem free_or_full (h : p.producer = .away) (h' : p.consumer = .away) :
    p = .free ∨ ∃ b, p = .full b := by
  cases p with
  | free => exact .inl rfl
  | full b => exact .inr ⟨b, rfl⟩
  | producing | raised => cases h
  | consuming | emptied => cases h'

/-- A message is put by the producer only ... -/
theorem Step.ne_full {p' : Phase β} (hstep : p.Step p') (hp : p.producer ≠ .putting) (b : β) :
    p' ≠ .full b := by
  rintro rfl
  cases hstep with
  | put => exact hp rfl

/-- ... who starts on a free mailbox. -/
theorem Step.eq_producing {p' : Phase β} (hstep : Phase.free.Step p') : p' = .producing := by
  cases hstep with
  | start => rfl

/-! ## What holds in every phase -/

theorem box_length_le_one (p : Phase β) : p.box.length ≤ 1 := by
  cases p <;> simp [box]

/-- A message lies in the box only under a raised flag. -/
theorem flag_of_box (h : p.box ≠ []) : p.flag = true := by
  cases p with
  | full | consuming => rfl
  | free | producing | raised | emptied => exact absurd rfl h

/-- The producer works only while the box is empty. -/
theorem box_of_working (h : p.producer = .working) : p.box = [] := by
  rw [eq_producing h]
  rfl

/-- While both parties are elsewhere, the flag tells exactly whether there is a message, so the
    exchange is never stuck with a raised flag and an empty box. -/
theorem flag_iff (h : p.producer = .away) (h' : p.consumer = .away) :
    p.flag = true ↔ ∃ b, p.box = [b] := by
  rcases free_or_full h h' with rfl | ⟨b, rfl⟩
  · simp [flag, box]
  · simp [flag, box]

end Phase
end Mailbox
