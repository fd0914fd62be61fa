import Mathlib.Data.List.Forall2
import MysqlPlugin.Lib.Prog

set_option autoImplicit false

/-! # Two programs side by side

`Agree T R Q m m'` says that `m` and `m'`, started in states that `R` relates, either both fault or both
end, and then with results that `Q` relates, in states that `R` relates again, and with traces that `T`
relates. The rules follow the programs, as those for one program do (`Lib/Prog.lean`).

For a program that never looks at a part of its state, `R` is equality of the rest: then
`Agree T R Eq m m` says that the part neither shows in the result nor changes what becomes of the
rest. What of the trace an observer sees is up to `T`: any relation on traces that goes with appending
them (`Traces`), such as one on the events one by one (`List.Forall₂`), or equality but for stretches
of some kind that stand in one of the traces only (`SameButFor`). -/

/-- A relation on traces that can be established part by part. -/
class Traces {ε δ : Type} (T : List ε → List δ → Prop) : Prop where
  nil : T [] []
  append {es fs : List ε} {es' fs' : List δ} (h : T es es') (h' : T fs fs') : T (es ++ fs) (es' ++ fs')

instance {ε δ : Type} {E : ε → δ → Prop} : Traces (List.Forall₂ E) where
  nil := .nil
  append h h' := List.rel_append h h'

/-- The traces are the same event by event, but for stretches of a kind that only one of them has. -/
inductive SameButFor {ε : Type} (extra : List ε → Prop) : List ε → List ε → Prop
  | nil : SameButFor extra [] []
  | cons (e : ε) {es es' : List ε} (h : SameButFor extra es es') :
      SameButFor extra (e :: es) (e :: es')
  | left {xs es es' : List ε} (hxs : extra xs) (h : SameButFor extra es es') :
      SameButFor extra (xs ++ es) es'
  | right {xs es es' : List ε} (hxs : extra xs) (h : SameButFor extra es es') :
      SameButFor extra es (xs ++ es')

namespace SameButFor

variable {ε : Type} {extra : List ε → Prop} {xs es fs es' fs' : List ε}

theorem append (h : SameButFor extra es es') (h' : SameButFor extra fs fs') :
    SameButFor extra (es ++ fs) (es' ++ fs') := by
  induction h with
  | nil => exact h'
  | cons e _ ih => exact .cons e ih
  | left hxs _ ih =>
      rw [List.append_assoc]
      exact .left hxs ih
  | right hxs _ ih =>
      rw [List.append_assoc]
      exact .right hxs ih

instance : Traces (SameButFor extra) := ⟨.nil, append⟩

@[refl] theorem refl (es : List ε) : SameButFor extra es es := by
  induction es with
  | nil => exact .nil
  | cons e es ih => exact .cons e ih

theorem symm (h : SameButFor extra es es') : SameButFor extra es' es := by
  induction h with
  | nil => exact .nil
  | cons e _ ih => exact .cons e ih
  | left hxs _ ih => exact .right hxs ih
  | right hxs _ ih => exact .left hxs ih

/-- A stretch against nothing. -/
theorem of_extra (hxs : extra xs) : SameButFor extra xs [] := by
  have h : SameButFor extra (xs ++ []) [] := left hxs nil
  rwa [List.append_nil] at h

end SameButFor

namespace Prog

variable {σ τ ε δ φ ψ α α' β β' : Type}

/-- How two executions end side by side. -/
inductive Alike (T : List ε → List δ → Prop) (R : σ → τ → Prop) (Q : α → α' → Prop) :
    Except φ (α × σ × List ε) → Except ψ (α' × τ × List δ) → Prop
  | ok {a : α} {a' : α'} {s : σ} {t : τ} {es : List ε} {es' : List δ} (ha : Q a a') (hs : R s t)
      (hes : T es es') : Alike T R Q (.ok (a, s, es)) (.ok (a', t, es'))
  | error (f : φ) (f' : ψ) : Alike T R Q (.error f) (.error f')

/-- The two programs agree wherever they are started in related states. -/
def Agree (T : List ε → List δ → Prop) (R : σ → τ → Prop) (Q : α → α' → Prop) (m : Prog σ ε φ α)
    (m' : Prog τ δ ψ α') : Prop := ∀ s t, R s t → Alike T R Q (m s) (m' t)

namespace Agree

variable {T : List ε → List δ → Prop} {R : σ → τ → Prop} {Q : α → α' → Prop} {Q' : β → β' → Prop}

theorem emit {e : ε} {e' : δ} (he : T [e] [e']) :
    Agree T R Eq (Prog.emit e : Prog σ ε φ Unit) (Prog.emit e' : Prog τ δ ψ Unit) :=
  fun _ _ hs => .ok rfl hs he

theorem fail (f : φ) (f' : ψ) :
    Agree T R Q (Prog.fail f : Prog σ ε φ α) (Prog.fail f' : Prog τ δ ψ α') :=
  fun _ _ _ => .error f f'

theorem get_bind {f : σ → Prog σ ε φ β} {f' : τ → Prog τ δ ψ β'}
    (hf : ∀ s t, R s t → Agree T R Q' (f s) (f' t)) :
    Agree T R Q' (Prog.get >>= f) (Prog.get >>= f') := by
  intro s t hs
  rw [Prog.get_bind, Prog.get_bind]
  exact hf s t hs s t hs

theorem ite {c : Prop} [Decidable c] {m₁ m₂ : Prog σ ε φ α} {m₁' m₂' : Prog τ δ ψ α'}
    (h₁ : Agree T R Q m₁ m₁') (h₂ : Agree T R Q m₂ m₂') :
    Agree T R Q (if c then m₁ else m₂) (if c then m₁' else m₂') := by
  split
  · exact h₁
  · exact h₂

/-- Where one ends, so does the other. -/
theorem of_ok {m : Prog σ ε φ α} {m' : Prog τ δ ψ α'} (hm : Agree T R Q m m') {s s₁ : σ} {t : τ}
    (hs : R s t) {a : α} {es : List ε} (hok : m s = .ok (a, s₁, es)) :
    ∃ a' t₁ es', m' t = .ok (a', t₁, es') ∧ Q a a' ∧ R s₁ t₁ ∧ T es es' := by
  have h := hm s t hs
  rw [hok] at h
  generalize m' t = y at h
  cases h with
  | ok ha hs₁ hes => exact ⟨_, _, _, rfl, ha, hs₁, hes⟩

variable [hT : Traces T]

theorem pure {a : α} {a' : α'} (ha : Q a a') :
    Agree T R Q (Pure.pure a : Prog σ ε φ α) (Pure.pure a' : Prog τ δ ψ α') :=
  fun _ _ hs => .ok ha hs hT.nil

theorem modify {f : σ → σ} {g : τ → τ} (hf : ∀ s t, R s t → R (f s) (g t)) :
    Agree T R Eq (Prog.modify f : Prog σ ε φ Unit) (Prog.modify g : Prog τ δ ψ Unit) :=
  fun s t hs => .ok rfl (hf s t hs) hT.nil

theorem bind {m : Prog σ ε φ α} {m' : Prog τ δ ψ α'} {f : α → Prog σ ε φ β} {f' : α' → Prog τ δ ψ β'}
    (hm : Agree T R Q m m') (hf : ∀ a a', Q a a' → Agree T R Q' (f a) (f' a')) :
    Agree T R Q' (m >>= f) (m' >>= f') := by
  intro s t hs
  have hfirst := hm s t hs
  simp only [Bind.bind]
  generalize m s = x at hfirst
  generalize m' t = y at hfirst
  cases hfirst with
  | error g g' => exact .error g g'
  | @ok a a' s₁ t₁ es es' ha hs₁ hes =>
      have hrest := hf a a' ha s₁ t₁ hs₁
      simp only
      generalize f a s₁ = x at hrest
      generalize f' a' t₁ = y at hrest
      cases hrest with
      | error g g' => exact .error g g'
      | ok hb hs₂ hes' => exact .ok hb hs₂ (hT.append hes hes')

/-- The first parts end with the same result. -/
theorem bind_same {m : Prog σ ε φ α} {m' : Prog τ δ ψ α} {f : α → Prog σ ε φ β} {f' : α → Prog τ δ ψ β'}
    (hm : Agree T R Eq m m') (hf : ∀ a, Agree T R Q' (f a) (f' a)) :
    Agree T R Q' (m >>= f) (m' >>= f') :=
  hm.bind fun a _ ha => ha ▸ hf a

theorem doIf {c : Prop} [Decidable c] {m : Prog σ ε φ Unit} {m' : Prog τ δ ψ Unit}
    (hm : Agree T R Eq m m') : Agree T R Eq (Prog.doIf c m) (Prog.doIf c m') :=
  .ite hm (.pure rfl)

/-- An event that is not seen may be left out of one of the two. -/
theorem doIf_emit {c c' : Prop} [Decidable c] [Decidable c'] {e : ε} {e' : δ} (hboth : T [e] [e'])
    (hleft : T [e] []) (hright : T [] [e']) :
    Agree T R Eq (Prog.doIf c (Prog.emit e) : Prog σ ε φ Unit)
      (Prog.doIf c' (Prog.emit e') : Prog τ δ ψ Unit) := by
  intro s t hs
  by_cases hc : c <;> by_cases hc' : c' <;> simp only [Prog.doIf, hc, hc', if_true, if_false]
  · exact .ok rfl hs hboth
  · exact .ok rfl hs hleft
  · exact .ok rfl hs hright
  · exact .ok rfl hs hT.nil

end Agree

/-- What a program returns, if it ends. -/
def result (m : Prog σ ε φ α) (s : σ) : Option α :=
  match m s with
  | .ok (a, _, _) => some a
  | .error _ => none

theorem Agree.result_eq {T : List ε → List δ → Prop} {R : σ → τ → Prop} {m : Prog σ ε φ α}
    {m' : Prog τ δ ψ α} (hm : Agree T R Eq m m') {s : σ} {t : τ} (hs : R s t) :
    m.result s = m'.result t := by
  have h := hm s t hs
  unfold result
  generalize m s = x at h
  generalize m' t = y at h
  cases h with
  | error f f' => rfl
  | ok ha => exact congrArg some ha

end Prog
