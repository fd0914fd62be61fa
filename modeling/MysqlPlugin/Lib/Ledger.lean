import Mathlib.Data.Multiset.Bind
import Mathlib.Data.Multiset.UnionInter
import MysqlPlugin.Lib.Machine
import MysqlPlugin.Lib.Prog

set_option autoImplicit false

/-! # Ledgers of resources

Resources (buffers, locks, tokens) are gained and spent by the events a program emits. A `Book` says
what each event gains and spends; it is `Balanced` over a list of events if what was owned before and
what the events gain is, as a multiset, what they spend and what is owned afterwards.

`Prog.Owns` is the triple for programs: started with the resources `pre`, the program ends owning
`post a` for its result `a`. Its rules are those of linear resources: a sequence hands the resources
of its first part to its second, and what a part does not work on is framed around it.

For runs, a balance of every step is a balance of the whole run (`Lts.Run.balanced`). If moreover
no resource is gained twice, then none is spent twice, and those gained and not spent are exactly
those owned at the end (`Book.live_iff`). `Book.Fresh` is the usual reason for the former: resources
are numbered as they are gained. -/

/-- What the events gain and what they spend. -/
structure Book (ε ρ : Type) where
  gained : ε → Multiset ρ
  spent : ε → Multiset ρ

namespace Book

variable {ε ρ : Type} (b : Book ε ρ)

/-- What the events of a list gain. -/
def gain (es : List ε) : Multiset ρ := (es : Multiset ε).bind b.gained

/-- What the events of a list spend. -/
def spend (es : List ε) : Multiset ρ := (es : Multiset ε).bind b.spent

@[simp] theorem gain_nil : b.gain [] = 0 := rfl

@[simp] theorem spend_nil : b.spend [] = 0 := rfl

@[simp] theorem gain_cons (e : ε) (es : List ε) : b.gain (e :: es) = b.gained e + b.gain es :=
  Multiset.cons_bind e es b.gained

@[simp] theorem spend_cons (e : ε) (es : List ε) : b.spend (e :: es) = b.spent e + b.spend es :=
  Multiset.cons_bind e es b.spent

@[simp] theorem gain_append (es es' : List ε) : b.gain (es ++ es') = b.gain es + b.gain es' := by
  rw [gain, ← Multiset.coe_add, Multiset.add_bind]
  rfl

@[simp] theorem spend_append (es es' : List ε) : b.spend (es ++ es') = b.spend es + b.spend es' := by
  rw [spend, ← Multiset.coe_add, Multiset.add_bind]
  rfl

theorem mem_gain {es : List ε} {p : ρ} : p ∈ b.gain es ↔ ∃ e ∈ es, p ∈ b.gained e :=
  Multiset.mem_bind

/-- No event gains or spends anything. -/
def Quiet (es : List ε) : Prop := ∀ e ∈ es, b.gained e = 0 ∧ b.spent e = 0

variable {b} {es es' : List ε}

theorem Quiet.gain (h : b.Quiet es) : b.gain es = 0 := by
  induction es with
  | nil => rfl
  | cons e es ih =>
      rw [gain_cons, (h e (by simp)).1, ih fun e' he => h e' (by simp [he]), add_zero]

theorem Quiet.spend (h : b.Quiet es) : b.spend es = 0 := by
  induction es with
  | nil => rfl
  | cons e es ih =>
      rw [spend_cons, (h e (by simp)).2, ih fun e' he => h e' (by simp [he]), add_zero]

/-- Quiet events may be left out. -/
theorem gain_filter {p : ε → Bool} (h : ∀ e ∈ es, p e = false → b.gained e = 0) :
    b.gain (es.filter p) = b.gain es := by
  induction es with
  | nil => rfl
  | cons e es ih =>
      have hrest := ih fun e' he => h e' (by simp [he])
      by_cases hp : p e = true
      · rw [List.filter_cons_of_pos hp, gain_cons, gain_cons, hrest]
      · rw [List.filter_cons_of_neg hp, gain_cons, h e (by simp) (by simpa using hp), hrest, zero_add]

theorem spend_filter {p : ε → Bool} (h : ∀ e ∈ es, p e = false → b.spent e = 0) :
    b.spend (es.filter p) = b.spend es := by
  induction es with
  | nil => rfl
  | cons e es ih =>
      have hrest := ih fun e' he => h e' (by simp [he])
      by_cases hp : p e = true
      · rw [List.filter_cons_of_pos hp, spend_cons, spend_cons, hrest]
      · rw [List.filter_cons_of_neg hp, spend_cons, h e (by simp) (by simpa using hp), hrest,
          zero_add]

/-! ## Balance -/

variable (b) in
/-- What was owned and what is gained is what is spent and what is owned then. -/
def Balanced (held : Multiset ρ) (es : List ε) (held' : Multiset ρ) : Prop :=
  held + b.gain es = b.spend es + held'

variable {held held' held'' : Multiset ρ}

theorem Balanced.refl (held : Multiset ρ) : b.Balanced held [] held := by
  rw [Balanced, gain_nil, spend_nil, add_zero, zero_add]

theorem Balanced.trans (h : b.Balanced held es held') (h' : b.Balanced held' es' held'') :
    b.Balanced held (es ++ es') held'' := by
  unfold Balanced at *
  rw [gain_append, spend_append, ← add_assoc, h, add_assoc, h', ← add_assoc]

/-- What is not worked on stays. -/
theorem Balanced.frame (h : b.Balanced held es held') (rest : Multiset ρ) :
    b.Balanced (held + rest) es (held' + rest) := by
  unfold Balanced at *
  rw [add_right_comm, h, add_assoc]

theorem Quiet.balanced (h : b.Quiet es) (held : Multiset ρ) : b.Balanced held es held := by
  rw [Balanced, h.gain, h.spend, add_zero, zero_add]

/-- **The live resources are the owned ones**, if no resource is gained twice. -/
theorem live_iff (h : b.Balanced 0 es held) (hgain : (b.gain es).Nodup) :
    (b.spend es).Nodup ∧ ∀ p, (p ∈ b.gain es ∧ p ∉ b.spend es) ↔ p ∈ held := by
  have heq : b.gain es = b.spend es + held := by rw [← h, zero_add]
  rw [heq, Multiset.nodup_add] at hgain
  obtain ⟨hspend, -, hdisj⟩ := hgain
  refine ⟨hspend, fun p => ?_⟩
  rw [heq, Multiset.mem_add]
  constructor
  · rintro ⟨hin, hnot⟩
    exact hin.resolve_left hnot
  · intro hp
    exact ⟨.inr hp, fun hs => Multiset.disjoint_left.1 hdisj hs hp⟩

/-! ## Numbered resources -/

/-- What is gained is new, numbered from `lo` up to `hi`, and nothing is gained twice. -/
structure Fresh (b : Book ε ℕ) (lo hi : ℕ) (es : List ε) : Prop where
  le : lo ≤ hi
  bounds : ∀ p ∈ b.gain es, lo ≤ p ∧ p < hi
  nodup : (b.gain es).Nodup

theorem Fresh.of_gain_eq_zero {b : Book ε ℕ} {lo hi : ℕ} (hle : lo ≤ hi) (h : b.gain es = 0) :
    b.Fresh lo hi es := by
  refine ⟨hle, fun p hp => ?_, ?_⟩
  · rw [h] at hp
    exact absurd hp (Multiset.notMem_zero p)
  · rw [h]
    exact Multiset.nodup_zero

theorem Fresh.trans {b : Book ε ℕ} {lo mid hi : ℕ} (h : b.Fresh lo mid es)
    (h' : b.Fresh mid hi es') : b.Fresh lo hi (es ++ es') := by
  refine ⟨h.le.trans h'.le, fun p hp => ?_, ?_⟩
  · rw [gain_append, Multiset.mem_add] at hp
    rcases hp with hp | hp
    · have hbound := h.bounds p hp
      have hle := h'.le
      omega
    · have hbound := h'.bounds p hp
      have hle := h.le
      omega
  · rw [gain_append, Multiset.nodup_add]
    refine ⟨h.nodup, h'.nodup, Multiset.disjoint_left.2 fun {p} hp hp' => ?_⟩
    have hbound := h.bounds p hp
    have hbound' := h'.bounds p hp'
    omega

end Book

/-! ## Programs -/

namespace Prog

variable {σ ε φ α β ρ : Type} {b : Book ε ρ} {R : σ → σ → List ε → Prop}
  {pre : Multiset ρ} {m : Prog σ ε φ α} {post : α → Multiset ρ}

/-- Started with the resources `pre`, the program ends with `post a` for its result `a`, and stays
    inside `R`. -/
def Owns (b : Book ε ρ) (R : σ → σ → List ε → Prop) (pre : Multiset ρ) (m : Prog σ ε φ α)
    (post : α → Multiset ρ) : Prop :=
  Ensures m fun s a s' es => b.Balanced pre es (post a) ∧ R s s' es

theorem Owns.pure (hR : Composable R) (a : α) (h : pre = post a) :
    Owns b R pre (Pure.pure a : Prog σ ε φ α) post := by
  rintro s _ _ _ ⟨⟩
  rw [h]
  exact ⟨.refl _, hR.refl s⟩

theorem Owns.fail (f : φ) : Owns b R pre (Prog.fail f : Prog σ ε φ α) post :=
  fun _ _ _ _ h => nomatch h

theorem Owns.bind (hR : Composable R) {f : α → Prog σ ε φ β} {last : β → Multiset ρ}
    (hm : Owns b R pre m post) (hf : ∀ a, Owns b R (post a) (f a) last) :
    Owns b R pre (m >>= f) last := by
  intro s c s'' es h
  obtain ⟨a, s', es₁, es₂, h₁, h₂, rfl⟩ := bind_eq_ok.1 h
  obtain ⟨hbal, hr⟩ := hm s a s' es₁ h₁
  obtain ⟨hbal', hr'⟩ := hf a s' c s'' es₂ h₂
  exact ⟨hbal.trans hbal', hR.trans hr hr'⟩

theorem Owns.ite {c : Prop} [Decidable c] {m' : Prog σ ε φ α} (hm : Owns b R pre m post)
    (hm' : Owns b R pre m' post) : Owns b R pre (if c then m else m') post := by
  split
  · exact hm
  · exact hm'

/-- What a program does not work on is framed around it. -/
theorem Owns.frame (hm : Owns b R pre m post) (rest : Multiset ρ) :
    Owns b R (pre + rest) m (fun a => post a + rest) :=
  Ensures.mono hm fun _ _ _ _ h => ⟨h.1.frame rest, h.2⟩

/-- A quiet program keeps what it is given. -/
theorem Owns.of_quiet (hm : Ensures m fun s _ s' es => b.Quiet es ∧ R s s' es) :
    Owns b R pre m (fun _ => pre) :=
  Ensures.mono hm fun _ _ _ _ h => ⟨h.1.balanced pre, h.2⟩

end Prog

/-! ## Runs -/

namespace Lts

variable {σ α ε ρ : Type} {T : Lts σ α ε} {P : σ → α → Prop} {s₀ s : σ} {tr : List ε}

/-- What every step does, a run does, if it can be composed. -/
theorem Run.composed {R : σ → σ → List ε → Prop} (hR : Prog.Composable R)
    (hstep : ∀ s a es s', P s a → T.Step s a es s' → R s s' es) (h : T.Run P s₀ tr s) :
    R s₀ s tr := by
  induction h with
  | refl => exact hR.refl s₀
  | step _ hP hs ih => exact hR.trans ih (hstep _ _ _ _ hP hs)

/-- **A run is in balance** if every step is. -/
theorem Run.balanced {b : Book ε ρ} (held : σ → Multiset ρ)
    (hstep : ∀ s a es s', P s a → T.Step s a es s' → b.Balanced (held s) es (held s'))
    (h : T.Run P s₀ tr s) : b.Balanced (held s₀) tr (held s) :=
  h.composed (R := fun s s' es => b.Balanced (held s) es (held s'))
    ⟨fun s => .refl (held s), fun h h' => h.trans h'⟩ hstep

/-- If every step numbers what it gains, a run gains nothing twice. -/
theorem Run.fresh {b : Book ε ℕ} (next : σ → ℕ)
    (hstep : ∀ s a es s', P s a → T.Step s a es s' → b.Fresh (next s) (next s') es)
    (h : T.Run P s₀ tr s) : b.Fresh (next s₀) (next s) tr :=
  h.composed (R := fun s s' es => b.Fresh (next s) (next s') es)
    ⟨fun _ => .of_gain_eq_zero le_rfl rfl, fun h h' => h.trans h'⟩ hstep

end Lts
