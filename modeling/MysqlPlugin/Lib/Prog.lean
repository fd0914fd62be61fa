import Mathlib.Logic.Function.Basic

set_option autoImplicit false

/-! # Programs with a state, emitted events and faults

`Prog σ ε φ α` is a computation that reads and updates a state `σ`, emits events `ε` on the way and
ends either with a value `α` or with a fault `φ`. A fault is final: it stands for the first
undefined operation of the program, after which nothing is said about it.

Properties of programs are stated in one form, `Prog.Ensures`: whenever the program ends without a
fault, the state before, the result, the state after and the emitted events are related as given.
The rules below follow the way programs are put together, so that a property of a long program
comes from the properties of its statements. -/

/-- A computation over a state `σ` that emits events `ε` and may end in a fault `φ`. -/
def Prog (σ ε φ α : Type) : Type := σ → Except φ (α × σ × List ε)

namespace Prog

variable {σ ε φ α β : Type}

instance : Monad (Prog σ ε φ) where
  pure a := fun s => .ok (a, s, [])
  bind m f := fun s =>
    match m s with
    | .error e => .error e
    | .ok (a, s', es) =>
      match f a s' with
      | .error e => .error e
      | .ok (b, s'', es') => .ok (b, s'', es ++ es')

/-- Read the state. -/
def get : Prog σ ε φ σ := fun s => .ok (s, s, [])

/-- Update the state. -/
def modify (f : σ → σ) : Prog σ ε φ Unit := fun s => .ok ((), f s, [])

/-- Emit one event. -/
def emit (e : ε) : Prog σ ε φ Unit := fun s => .ok ((), s, [e])

/-- End in a fault. -/
def fail (f : φ) : Prog σ ε φ α := fun _ => .error f

/-- A conditional without an else branch. -/
def doIf (c : Prop) [Decidable c] (m : Prog σ ε φ Unit) : Prog σ ε φ Unit :=
  if c then m else pure ()

/-! ## Running a program -/

@[simp] theorem run_pure (a : α) (s : σ) : (pure a : Prog σ ε φ α) s = .ok (a, s, []) := rfl

@[simp] theorem run_get (s : σ) : (get : Prog σ ε φ σ) s = .ok (s, s, []) := rfl

@[simp] theorem run_modify (f : σ → σ) (s : σ) :
    (modify f : Prog σ ε φ Unit) s = .ok ((), f s, []) := rfl

@[simp] theorem run_emit (e : ε) (s : σ) : (emit e : Prog σ ε φ Unit) s = .ok ((), s, [e]) := rfl

@[simp] theorem run_fail (f : φ) (s : σ) : (fail f : Prog σ ε φ α) s = .error f := rfl

/-- A sequence ends well exactly when both parts do, and emits what they emit in order. -/
theorem bind_eq_ok {m : Prog σ ε φ α} {f : α → Prog σ ε φ β} {s s'' : σ} {b : β} {es : List ε} :
    (m >>= f) s = .ok (b, s'', es) ↔
      ∃ a s' es₁ es₂, m s = .ok (a, s', es₁) ∧ f a s' = .ok (b, s'', es₂) ∧ es = es₁ ++ es₂ := by
  cases hm : m s with
  | error e => simp [bind, hm]
  | ok r =>
      obtain ⟨a, s', es₁⟩ := r
      cases hf : f a s' with
      | error e => simp [bind, hm, hf]
      | ok r' =>
          obtain ⟨b', s₂, es₂⟩ := r'
          simp only [bind, hm, hf, Except.ok.injEq, Prod.mk.injEq]
          constructor
          · rintro ⟨rfl, rfl, rfl⟩
            exact ⟨a, s', es₁, es₂, ⟨rfl, rfl, rfl⟩, hf, rfl⟩
          · rintro ⟨a', s₁, e₁, e₂, ⟨rfl, rfl, rfl⟩, hf', rfl⟩
            rw [hf] at hf'
            cases hf'
            exact ⟨rfl, rfl, rfl⟩

/-- A first part that ends well hands its result over and its events stand first. -/
theorem bind_of_ok {m : Prog σ ε φ α} {f : α → Prog σ ε φ β} {s s' : σ} {a : α} {es : List ε}
    (hm : m s = .ok (a, s', es)) :
    (m >>= f) s = (f a s').map (fun r => (r.1, r.2.1, es ++ r.2.2)) := by
  simp only [bind, hm]
  cases f a s' <;> rfl

/-- A first part that emits nothing is not seen. -/
theorem bind_of_silent {m : Prog σ ε φ α} {f : α → Prog σ ε φ β} {s s' : σ} {a : α}
    (hm : m s = .ok (a, s', [])) : (m >>= f) s = f a s' := by
  rw [bind_of_ok hm]
  cases f a s' <;> rfl

/-- Two sequences with the same first part agree if their rests agree where that part ends. -/
theorem bind_congr_of_ok {m : Prog σ ε φ α} {f g : α → Prog σ ε φ β} {s : σ}
    (h : ∀ a s' es, m s = .ok (a, s', es) → f a s' = g a s') : (m >>= f) s = (m >>= g) s := by
  cases hm : m s with
  | error e => simp only [bind, hm]
  | ok r =>
      obtain ⟨a, s', es⟩ := r
      rw [bind_of_ok hm, bind_of_ok hm, h a s' es hm]

/-- What follows a read of the state goes on from the state it read. -/
theorem get_bind {f : σ → Prog σ ε φ β} {s : σ} : ((get : Prog σ ε φ σ) >>= f) s = f s s :=
  bind_of_silent rfl

/-- An emitted event stands before those of the rest. -/
theorem emit_bind_eq_ok {f : Unit → Prog σ ε φ β} {s s' : σ} {b : β} {e : ε} {es : List ε} :
    (emit e >>= f) s = .ok (b, s', es) ↔ ∃ es', f () s = .ok (b, s', es') ∧ es = e :: es' := by
  rw [bind_eq_ok]
  constructor
  · rintro ⟨_, _, _, es', ⟨⟩, hf, rfl⟩
    exact ⟨es', hf, rfl⟩
  · rintro ⟨es', hf, rfl⟩
    exact ⟨(), s, [e], es', rfl, hf, rfl⟩

/-! ## Specifications -/

/-- Whenever `m` ends without a fault, `R` relates the state before, the result, the state after
    and the events. -/
def Ensures (m : Prog σ ε φ α) (R : σ → α → σ → List ε → Prop) : Prop :=
  ∀ s a s' es, m s = .ok (a, s', es) → R s a s' es

theorem Ensures.mono {m : Prog σ ε φ α} {R R' : σ → α → σ → List ε → Prop} (h : Ensures m R)
    (hR : ∀ s a s' es, R s a s' es → R' s a s' es) : Ensures m R' :=
  fun s a s' es hm => hR s a s' es (h s a s' es hm)

/-- What the last part ensures of its result, the sequence ensures. -/
theorem Ensures.of_last {m : Prog σ ε φ α} {f : α → Prog σ ε φ β} {Q : β → Prop}
    (hf : ∀ a, Ensures (f a) fun _ b _ _ => Q b) : Ensures (m >>= f) fun _ b _ _ => Q b := by
  intro s b s'' es h
  obtain ⟨a, s', es₁, es₂, -, h₂, -⟩ := bind_eq_ok.1 h
  exact hf a s' b s'' es₂ h₂

/-- A relation between states and events that holds of doing nothing and of doing one thing after
    another. -/
structure Composable (R : σ → σ → List ε → Prop) : Prop where
  refl : ∀ s, R s s []
  trans : ∀ {s s' s'' es es'}, R s s' es → R s' s'' es' → R s s'' (es ++ es')

/-- `m` stays inside `R`, whatever it returns. -/
def Stays (R : σ → σ → List ε → Prop) (m : Prog σ ε φ α) : Prop :=
  Ensures m (fun s _ s' es => R s s' es)

section Rules

variable {R : σ → σ → List ε → Prop}

theorem Stays.pure (hR : Composable R) (a : α) : Stays R (Pure.pure a : Prog σ ε φ α) := by
  rintro s _ _ _ ⟨⟩
  exact hR.refl s

theorem Stays.get (hR : Composable R) : Stays R (Prog.get : Prog σ ε φ σ) := by
  rintro s _ _ _ ⟨⟩
  exact hR.refl s

theorem Stays.modify {f : σ → σ} (hf : ∀ s, R s (f s) []) :
    Stays R (Prog.modify f : Prog σ ε φ Unit) := by
  rintro s _ _ _ ⟨⟩
  exact hf s

theorem Stays.emit {e : ε} (he : ∀ s, R s s [e]) : Stays R (Prog.emit e : Prog σ ε φ Unit) := by
  rintro s _ _ _ ⟨⟩
  exact he s

theorem Stays.fail (f : φ) : Stays R (Prog.fail f : Prog σ ε φ α) :=
  fun _ _ _ _ h => nomatch h

theorem Stays.bind (hR : Composable R) {m : Prog σ ε φ α} {f : α → Prog σ ε φ β}
    (hm : Stays R m) (hf : ∀ a, Stays R (f a)) : Stays R (m >>= f) := by
  intro s b s'' es h
  obtain ⟨a, s', es₁, es₂, h₁, h₂, rfl⟩ := bind_eq_ok.1 h
  exact hR.trans (hm s a s' es₁ h₁) (hf a s' b s'' es₂ h₂)

/-- The state the second part starts from may be used: it is what the first part read. -/
theorem Stays.get_bind {f : σ → Prog σ ε φ β}
    (hf : ∀ s b s' es, f s s = .ok (b, s', es) → R s s' es) : Stays R (Prog.get >>= f) := by
  intro s b s'' es h
  rw [Prog.get_bind] at h
  exact hf s b s'' es h

theorem Stays.ite {c : Prop} [Decidable c] {m m' : Prog σ ε φ α} (hm : Stays R m)
    (hm' : Stays R m') : Stays R (if c then m else m') := by
  split
  · exact hm
  · exact hm'

theorem Stays.doIf (hR : Composable R) {c : Prop} [Decidable c] {m : Prog σ ε φ Unit}
    (hm : Stays R m) : Stays R (Prog.doIf c m) :=
  Stays.ite hm (Stays.pure hR ())

end Rules

/-! ## Programs that never fault -/

/-- `m` ends without a fault from every state. -/
def Safe (m : Prog σ ε φ α) : Prop := ∀ s f, m s ≠ .error f

theorem Safe.pure (a : α) : Safe (Pure.pure a : Prog σ ε φ α) := nofun

theorem Safe.get : Safe (Prog.get : Prog σ ε φ σ) := nofun

theorem Safe.modify (f : σ → σ) : Safe (Prog.modify f : Prog σ ε φ Unit) := nofun

theorem Safe.emit (e : ε) : Safe (Prog.emit e : Prog σ ε φ Unit) := nofun

theorem Safe.bind {m : Prog σ ε φ α} {f : α → Prog σ ε φ β} (hm : Safe m)
    (hf : ∀ a, Safe (f a)) : Safe (m >>= f) := by
  intro s e h
  cases hms : m s with
  | error e' => exact hm s e' hms
  | ok r =>
      obtain ⟨a, s', es⟩ := r
      rw [bind_of_ok hms] at h
      cases hfs : f a s' with
      | error e' => exact hf a s' e' hfs
      | ok r' =>
          rw [hfs] at h
          cases h

theorem Safe.ite {c : Prop} [Decidable c] {m m' : Prog σ ε φ α} (hm : Safe m) (hm' : Safe m') :
    Safe (if c then m else m') := by
  split
  · exact hm
  · exact hm'

theorem Safe.doIf {c : Prop} [Decidable c] {m : Prog σ ε φ Unit} (hm : Safe m) :
    Safe (Prog.doIf c m) :=
  Safe.ite hm (Safe.pure ())

/-- A safe program ends well. -/
theorem Safe.ok {m : Prog σ ε φ α} (hm : Safe m) (s : σ) : ∃ a s' es, m s = .ok (a, s', es) := by
  cases hms : m s with
  | error e => exact absurd hms (hm s e)
  | ok r => exact ⟨r.1, r.2.1, r.2.2, rfl⟩

/-- From every state with `I` the program ends without a fault, in a state with `I`. -/
def SafeOn (I : σ → Prop) (m : Prog σ ε φ α) : Prop :=
  ∀ s, I s → ∃ a s' es, m s = .ok (a, s', es) ∧ I s'

section SafeOn

variable {I : σ → Prop}

theorem SafeOn.pure (a : α) : SafeOn I (Pure.pure a : Prog σ ε φ α) :=
  fun s hs => ⟨a, s, [], rfl, hs⟩

theorem SafeOn.emit (e : ε) : SafeOn I (Prog.emit e : Prog σ ε φ Unit) :=
  fun s hs => ⟨(), s, [e], rfl, hs⟩

theorem SafeOn.modify {f : σ → σ} (hf : ∀ s, I s → I (f s)) :
    SafeOn I (Prog.modify f : Prog σ ε φ Unit) :=
  fun s hs => ⟨(), f s, [], rfl, hf s hs⟩

theorem SafeOn.bind {m : Prog σ ε φ α} {f : α → Prog σ ε φ β} (hm : SafeOn I m)
    (hf : ∀ a, SafeOn I (f a)) : SafeOn I (m >>= f) := by
  intro s hs
  obtain ⟨a, s', es, hok, hs'⟩ := hm s hs
  obtain ⟨b, s'', es', hok', hs''⟩ := hf a s' hs'
  exact ⟨b, s'', es ++ es', bind_eq_ok.2 ⟨a, s', es, es', hok, hok', rfl⟩, hs''⟩

/-- What follows a read of the state may use what is known of it. -/
theorem SafeOn.get_bind {f : σ → Prog σ ε φ β} (hf : ∀ s, I s → SafeOn I (f s)) :
    SafeOn I (Prog.get >>= f) := by
  intro s hs
  rw [Prog.get_bind]
  exact hf s hs s hs

theorem SafeOn.ite {c : Prop} [Decidable c] {m m' : Prog σ ε φ α} (hm : SafeOn I m)
    (hm' : SafeOn I m') : SafeOn I (if c then m else m') := by
  split
  · exact hm
  · exact hm'

theorem SafeOn.doIf {c : Prop} [Decidable c] {m : Prog σ ε φ Unit} (hm : SafeOn I m) :
    SafeOn I (Prog.doIf c m) :=
  SafeOn.ite hm (SafeOn.pure ())

/-- A safe program that keeps `I`. -/
theorem SafeOn.of_safe {m : Prog σ ε φ α} (hm : Safe m) (hI : Stays (fun s s' _ => I s → I s') m) :
    SafeOn I m := by
  intro s hs
  obtain ⟨a, s', es, hok⟩ := hm.ok s
  exact ⟨a, s', es, hok, hI s a s' es hok hs⟩

end SafeOn

/-! ## Programs that fault -/

/-- From `s` the program ends in a fault. -/
def Faults (m : Prog σ ε φ α) (s : σ) : Prop := ∃ f, m s = .error f

section Faults

variable {m : Prog σ ε φ α} {f : α → Prog σ ε φ β} {s s' : σ} {a : α} {es : List ε}

theorem not_faults_of_ok (h : m s = .ok (a, s', es)) : ¬ Faults m s := by
  rintro ⟨f, hf⟩
  rw [h] at hf
  cases hf

theorem Safe.not_faults (hm : Safe m) (s : σ) : ¬ Faults m s := fun ⟨f, hf⟩ => hm s f hf

theorem SafeOn.not_faults {I : σ → Prop} (hm : SafeOn I m) (hs : I s) : ¬ Faults m s := by
  obtain ⟨a, s', es, hok, -⟩ := hm s hs
  exact not_faults_of_ok hok

/-- After a first part that ends well, the fault is in the rest. -/
theorem faults_bind_of_ok (h : m s = .ok (a, s', es)) : Faults (m >>= f) s ↔ Faults (f a) s' := by
  unfold Faults
  rw [bind_of_ok h]
  cases f a s' with
  | error e => simp [Except.map]
  | ok r => simp [Except.map]

theorem Faults.bind (hm : Faults m s) : Faults (m >>= f) s := by
  obtain ⟨e, he⟩ := hm
  exact ⟨e, by simp only [Bind.bind, he]⟩

/-- Before a rest that is safe, it is in the first part. -/
theorem faults_bind_of_safe (hf : ∀ a, Safe (f a)) : Faults (m >>= f) s ↔ Faults m s := by
  cases hm : m s with
  | error e => exact iff_of_true (Faults.bind ⟨e, hm⟩) ⟨e, hm⟩
  | ok r =>
      rw [faults_bind_of_ok hm]
      exact iff_of_false ((hf r.1).not_faults _) (not_faults_of_ok hm)

theorem faults_get_bind {f : σ → Prog σ ε φ β} : Faults (Prog.get >>= f) s ↔ Faults (f s) s :=
  faults_bind_of_ok rfl

end Faults

/-! ## How a program ends -/

/-- From `s` the program ends without a fault, with this result and this state, and of the events it
    emits `p` selects `xs`. -/
def Ends (p : ε → Bool) (m : Prog σ ε φ α) (s : σ) (a : α) (s' : σ) (xs : List ε) : Prop :=
  ∃ es, m s = .ok (a, s', es) ∧ es.filter p = xs

section Ends

variable {p : ε → Bool} {s s' s'' : σ} {a : α} {b : β} {xs ys : List ε}

theorem Ends.pure (p : ε → Bool) (a : α) (s : σ) :
    Ends p (Pure.pure a : Prog σ ε φ α) s a s [] :=
  ⟨[], rfl, rfl⟩

theorem Ends.modify (p : ε → Bool) (f : σ → σ) (s : σ) :
    Ends p (Prog.modify f : Prog σ ε φ Unit) s () (f s) [] :=
  ⟨[], rfl, rfl⟩

theorem Ends.emit (p : ε → Bool) (e : ε) (s : σ) :
    Ends p (Prog.emit e : Prog σ ε φ Unit) s () s ([e].filter p) :=
  ⟨[e], rfl, rfl⟩

theorem Ends.emit_of_not {e : ε} (he : p e = false) (s : σ) :
    Ends p (Prog.emit e : Prog σ ε φ Unit) s () s [] :=
  ⟨[e], rfl, by simp [he]⟩

theorem Ends.bind {m : Prog σ ε φ α} {f : α → Prog σ ε φ β} (hm : Ends p m s a s' xs)
    (hf : Ends p (f a) s' b s'' ys) : Ends p (m >>= f) s b s'' (xs ++ ys) := by
  obtain ⟨es₁, h₁, rfl⟩ := hm
  obtain ⟨es₂, h₂, rfl⟩ := hf
  exact ⟨es₁ ++ es₂, bind_eq_ok.2 ⟨a, s', es₁, es₂, h₁, h₂, rfl⟩, List.filter_append ..⟩

/-- A first part of which nothing is selected. -/
theorem Ends.then {m : Prog σ ε φ α} {f : α → Prog σ ε φ β} (hm : Ends p m s a s' [])
    (hf : Ends p (f a) s' b s'' ys) : Ends p (m >>= f) s b s'' ys := hm.bind hf

/-- A last part of which nothing is selected. -/
theorem Ends.before {m : Prog σ ε φ α} {f : α → Prog σ ε φ β} (hm : Ends p m s a s' xs)
    (hf : Ends p (f a) s' b s'' []) : Ends p (m >>= f) s b s'' xs := by
  simpa using hm.bind hf

theorem Ends.get_bind {f : σ → Prog σ ε φ β} (hf : Ends p (f s) s b s' xs) :
    Ends p (Prog.get >>= f) s b s' xs := by
  obtain ⟨es, h, rfl⟩ := hf
  exact ⟨es, Prog.get_bind.trans h, rfl⟩

theorem Ends.doIf {c : Prop} [Decidable c] {m : Prog σ ε φ Unit} (hm : Ends p m s () s []) :
    Ends p (Prog.doIf c m) s () s [] := by
  unfold Prog.doIf
  split
  · exact hm
  · exact Ends.pure p () s

theorem Ends.if_pos {c : Prop} [Decidable c] {m m' : Prog σ ε φ α} (hc : c)
    (hm : Ends p m s a s' xs) : Ends p (if c then m else m') s a s' xs := by
  rwa [ite_cond_eq_true _ _ (eq_true hc)]

theorem Ends.if_neg {c : Prop} [Decidable c] {m m' : Prog σ ε φ α} (hc : ¬ c)
    (hm : Ends p m' s a s' xs) : Ends p (if c then m else m') s a s' xs := by
  rwa [ite_cond_eq_false _ _ (eq_false hc)]

/-- A program ends in one way. -/
theorem Ends.unique {m : Prog σ ε φ α} (hm : Ends p m s a s' xs) {a' : α} {s₁ : σ} {es : List ε}
    (h : m s = .ok (a', s₁, es)) : a' = a ∧ s₁ = s' ∧ es.filter p = xs := by
  obtain ⟨es', h', rfl⟩ := hm
  rw [h'] at h
  cases h
  exact ⟨rfl, rfl, rfl⟩

end Ends

end Prog
