import Mathlib.Data.List.Forall2
import MysqlPlugin.Lib.Machine
import MysqlPlugin.Lib.Relate

set_option autoImplicit false

/-! # Schedules: what enough turns of a thread lead to

The actions of a machine say which thread moves, so a list of actions is a schedule, and executing it
is a `Machine.Path`. How far a thread is from something it is bound to come to is a number that its own
steps make smaller and the steps of the others do not make larger; a schedule with more turns of the
thread than that number brings it there (`Path.exists_due`), however the other steps stand in between.

A schedule in `Rounds` gives two threads their turns again and again. If every round does some of the
work that is left, then `k` rounds do `k` pieces of it, or all (`Path.work_of_rounds`). -/

/-- A list with `m + n` entries of a kind can be cut into one with `m` and one with `n` of them. -/
theorem List.exists_append_of_le_countP {α : Type} {p : α → Bool} {m n : ℕ} {as : List α}
    (h : m + n ≤ as.countP p) :
    ∃ as₁ as₂, as = as₁ ++ as₂ ∧ m ≤ as₁.countP p ∧ n ≤ as₂.countP p := by
  induction as generalizing m with
  | nil =>
      rw [List.countP_nil] at h
      exact ⟨[], [], rfl, by omega, by omega⟩
  | cons a as ih =>
      cases m with
      | zero => exact ⟨[], a :: as, rfl, Nat.zero_le _, by omega⟩
      | succ m =>
          by_cases ha : p a = true
          · rw [List.countP_cons_of_pos ha] at h
            obtain ⟨as₁, as₂, rfl, h₁, h₂⟩ := ih (m := m) (by omega)
            refine ⟨a :: as₁, as₂, rfl, ?_, h₂⟩
            rw [List.countP_cons_of_pos ha]
            omega
          · rw [List.countP_cons_of_neg ha] at h
            obtain ⟨as₁, as₂, rfl, h₁, h₂⟩ := ih h
            refine ⟨a :: as₁, as₂, rfl, ?_, h₂⟩
            rw [List.countP_cons_of_neg ha]
            exact h₁

namespace Machine

/-- Two machines side by side: if each action of the first is matched by one of the second, then so is
    a list of them. -/
theorem exec_related {σ τ α β ε δ φ ψ : Type} {M : Machine σ α ε φ} {M' : Machine τ β δ ψ}
    {J : σ → τ → Prop} {A : α → β → Prop} {T : List ε → List δ → Prop} [hT : Traces T]
    (hstep : ∀ s u a b s' es, J s u → A a b → M.step s a = .next s' es →
      ∃ u' es', M'.step u b = .next u' es' ∧ J s' u' ∧ T es es')
    {as : List α} {bs : List β} (has : List.Forall₂ A as bs) {s s' : σ} {u : τ} (hs : J s u)
    {tr : List ε} (h : M.exec as s = some (s', tr)) :
    ∃ u' tr', M'.exec bs u = some (u', tr') ∧ J s' u' ∧ T tr tr' := by
  induction has generalizing s u tr with
  | nil =>
      cases h
      exact ⟨u, [], rfl, hs, hT.nil⟩
  | @cons a b as bs hab _ ih =>
      simp only [exec] at h
      cases hnext : M.step s a with
      | disabled | fault => simp [hnext] at h
      | next s₁ es =>
          simp only [hnext, Option.map_eq_some_iff, Prod.exists, Prod.mk.injEq] at h
          obtain ⟨s₂, tr₁, hrest, rfl, rfl⟩ := h
          obtain ⟨u₁, es', hnext', hs₁, hes⟩ := hstep _ _ _ _ _ _ hs hab hnext
          obtain ⟨u', tr', hrest', hs', htr⟩ := ih hs₁ hrest
          refine ⟨u', es' ++ tr', ?_, hs', hT.append hes htr⟩
          simp only [exec, hnext', hrest', Option.map_some]

variable {σ α ε φ : Type} {M : Machine σ α ε φ} {P Q : σ → α → Prop}

/-- Executing the actions one after the other, each in keeping with the discipline, leads from `s` to
    `s'` and emits `tr`. -/
inductive Path (M : Machine σ α ε φ) (P : σ → α → Prop) : σ → List α → List ε → σ → Prop
  | nil (s : σ) : Path M P s [] [] s
  | cons {s s₁ s' : σ} {a : α} {as : List α} {es tr : List ε} (hP : P s a)
      (hstep : M.step s a = .next s₁ es) (h : Path M P s₁ as tr s') :
      Path M P s (a :: as) (es ++ tr) s'

namespace Path

variable {s s' : σ} {as bs : List α} {tr : List ε}

theorem of_exec (h : M.exec as s = some (s', tr)) (hP : M.Obeys P as s) : M.Path P s as tr s' := by
  induction as generalizing s tr with
  | nil =>
      cases h
      exact .nil _
  | cons a as ih =>
      obtain ⟨ha, has⟩ := hP
      simp only [exec] at h
      cases hstep : M.step s a with
      | disabled | fault => simp [hstep] at h
      | next s₁ es =>
          simp only [hstep, Option.map_eq_some_iff, Prod.exists, Prod.mk.injEq] at h has
          obtain ⟨s₂, tr', hrest, rfl, rfl⟩ := h
          exact .cons ha hstep (ih hrest has)

theorem run (h : M.Path P s as tr s') : M.Run P s tr s' := by
  induction h with
  | nil s => exact .refl
  | cons hP hstep h ih => exact (Lts.Run.single hP hstep).trans ih

theorem mono (h : M.Path P s as tr s') (hPQ : ∀ s a, P s a → Q s a) : M.Path Q s as tr s' := by
  induction h with
  | nil s => exact .nil s
  | cons hP hstep h ih => exact .cons (hPQ _ _ hP) hstep ih

/-- A path along a concatenation is a path along the first part and one along the second. -/
theorem split (h : M.Path P s (as ++ bs) tr s') :
    ∃ s₁ tr₁ tr₂, M.Path P s as tr₁ s₁ ∧ M.Path P s₁ bs tr₂ s' ∧ tr = tr₁ ++ tr₂ := by
  induction as generalizing s tr with
  | nil => exact ⟨s, [], tr, .nil s, h, rfl⟩
  | cons a as ih =>
      cases h with
      | cons hP hstep h =>
          obtain ⟨s₁, tr₁, tr₂, h₁, h₂, rfl⟩ := ih h
          exact ⟨s₁, _, tr₂, .cons hP hstep h₁, h₂, (List.append_assoc ..).symm⟩

/-- What every step preserves every path preserves. -/
theorem invariant {I : σ → Prop}
    (hstep : ∀ s a es s', I s → P s a → M.step s a = .next s' es → I s')
    (h : M.Path P s as tr s') (hs : I s) : I s' :=
  h.run.invariant hstep hs

/-- A state on a path that starts under an invariant may be assumed to satisfy it at every step. -/
theorem strengthen {I : σ → Prop}
    (hstep : ∀ s a es s', I s → P s a → M.step s a = .next s' es → I s')
    (h : M.Path P s as tr s') (hs : I s) : M.Path (fun s a => P s a ∧ I s) s as tr s' := by
  induction h with
  | nil s => exact .nil s
  | cons hP hnext h ih => exact .cons ⟨hP, hs⟩ hnext (ih (hstep _ _ _ _ hs hP hnext))

/-- What every step preserves unless it emits a certain event, every path does. -/
theorem preserves_or {I : σ → Prop} {W : ε → Prop}
    (hstep : ∀ s a es s', I s → P s a → M.step s a = .next s' es → I s' ∨ ∃ e ∈ es, W e)
    (h : M.Path P s as tr s') (hs : I s) : I s' ∨ ∃ e ∈ tr, W e := by
  induction h with
  | nil s => exact .inl hs
  | cons hP hnext h ih =>
      rcases hstep _ _ _ _ hs hP hnext with hs₁ | ⟨e, he, hW⟩
      · exact (ih hs₁).imp id fun ⟨e, he, hW⟩ => ⟨e, List.mem_append_right _ he, hW⟩
      · exact .inr ⟨e, List.mem_append_left _ he, hW⟩

/-- Two counts of the events that every step keeps in balance, but for what it adds to a number. -/
theorem balance {f g : List ε → ℕ} {d : σ → ℕ} (hnil : f [] = g [])
    (hf : ∀ tr tr', f (tr ++ tr') = f tr + f tr') (hg : ∀ tr tr', g (tr ++ tr') = g tr + g tr')
    (hstep : ∀ s a es s', P s a → M.step s a = .next s' es → f es + d s' = g es + d s)
    (h : M.Path P s as tr s') : f tr + d s' = g tr + d s := by
  induction h with
  | nil s => rw [hnil]
  | cons hP hnext h ih =>
      have hfirst := hstep _ _ _ _ hP hnext
      rw [hf, hg]
      omega

/-- **Leaving out what does not matter**: if what a relation between two states says survives the
    actions that are left out, and the others can be repeated in the second state, then so can the
    list without the former. What is emitted then is what the others emitted. -/
theorem exec_filter {J : σ → σ → Prop} {E : ε → ε → Prop} {keep : α → Bool}
    (hkeep : ∀ s u a s₁ es, J s u → P s a → keep a = true → M.step s a = .next s₁ es →
      ∃ u₁ es', M.step u a = .next u₁ es' ∧ J s₁ u₁ ∧ List.Forall₂ E es es')
    (hdrop : ∀ s u a s₁ es, J s u → P s a → keep a = false → M.step s a = .next s₁ es → J s₁ u)
    {u : σ} (h : M.Path P s as tr s') (hJ : J s u) :
    ∃ u' tr', M.exec (as.filter keep) u = some (u', tr') ∧ J s' u' ∧
      ∃ es, es.Sublist tr ∧ List.Forall₂ E es tr' := by
  induction h generalizing u with
  | nil s => exact ⟨u, [], rfl, hJ, [], .slnil, .nil⟩
  | @cons s s₁ s' a as es tr hP hstep h ih =>
      by_cases ha : keep a = true
      · obtain ⟨u₁, es', hstep', hJ₁, hes⟩ := hkeep s u a s₁ es hJ hP ha hstep
        obtain ⟨u', tr', hexec, hJ', kept, hsub, htr⟩ := ih hJ₁
        refine ⟨u', es' ++ tr', ?_, hJ', es ++ kept, hsub.append_left es, List.rel_append hes htr⟩
        rw [List.filter_cons_of_pos ha, exec, hstep']
        simp only [hexec, Option.map_some]
      · have ha' : keep a = false := by simpa using ha
        obtain ⟨u', tr', hexec, hJ', kept, hsub, htr⟩ := ih (hdrop s u a s₁ es hJ hP ha' hstep)
        refine ⟨u', tr', ?_, hJ', kept, hsub.trans (List.sublist_append_right es tr), htr⟩
        rw [List.filter_cons_of_neg ha, hexec]

/-! ## Turns of a thread -/

/-- **A thread that is due comes**: if its own steps count `d` down until `T` holds of one, and no other
    step counts it up before that, more than `d` turns of its lead through such a step. -/
theorem exists_due (own : α → Bool) {T : σ → α → Prop} {d : σ → ℕ}
    (hown : ∀ s a s' es, P s a → own a = true → M.step s a = .next s' es → T s a ∨ d s' < d s)
    (hother : ∀ s a s' es, P s a → own a = false → M.step s a = .next s' es → T s a ∨ d s' ≤ d s)
    (h : M.Path P s as tr s') (hcount : d s < as.countP own) :
    ∃ as₁ a as₂ s₁ s₂ tr₁ es tr₂, as = as₁ ++ a :: as₂ ∧ tr = tr₁ ++ (es ++ tr₂) ∧ T s₁ a ∧
      M.Path P s as₁ tr₁ s₁ ∧ P s₁ a ∧ M.step s₁ a = .next s₂ es ∧ M.Path P s₂ as₂ tr₂ s' := by
  induction h with
  | nil s => exact absurd hcount (Nat.not_lt_zero _)
  | @cons s s₁ s' a as es tr hP hstep h ih =>
      -- either this step is the one, or the rest of the path has turns enough
      have hnext : T s a ∨ d s₁ < as.countP own := by
        by_cases ha : own a = true
        · rw [List.countP_cons_of_pos ha] at hcount
          exact (hown s a s₁ es hP ha hstep).imp id fun hlt => by omega
        · rw [List.countP_cons_of_neg ha] at hcount
          exact (hother s a s₁ es hP (by simpa using ha) hstep).imp id fun hle => by omega
      rcases hnext with hT | hlt
      · exact ⟨[], a, as, s, s₁, [], es, tr, rfl, rfl, hT, .nil s, hP, hstep, h⟩
      · obtain ⟨as₁, b, as₂, t₁, t₂, tr₁, es', tr₂, rfl, rfl, hT, hpath, hend⟩ := ih hlt
        exact ⟨a :: as₁, b, as₂, t₁, t₂, es ++ tr₁, es', tr₂, rfl, (List.append_assoc ..).symm, hT,
          .cons hP hstep hpath, hend⟩

end Path

/-! ## Rounds -/

/-- The schedule can be cut into `k` rounds: in each, first at least `m` actions of the first kind and
    after them at least `n` of the second, whatever else happens in between. -/
inductive Rounds (p q : α → Bool) (m n : ℕ) : ℕ → List α → Prop
  | zero (as : List α) : Rounds p q m n 0 as
  | succ {k : ℕ} {as bs cs : List α} (hp : m ≤ as.countP p) (hq : n ≤ bs.countP q)
      (h : Rounds p q m n k cs) : Rounds p q m n (k + 1) (as ++ bs ++ cs)

/-- **Rounds get the work done**: if what is left is only diminished by work that shows in the trace,
    and every round works while something is left, then `k` rounds do `k` pieces, or all there were. -/
theorem Path.work_of_rounds {p q : α → Bool} {m n k : ℕ} {J : σ → Prop} (left : σ → ℕ)
    (work : List ε → ℕ) (hwork : ∀ tr tr', work (tr ++ tr') = work tr + work tr')
    (hkeep : ∀ s as tr s', J s → M.Path P s as tr s' → J s' ∧ left s ≤ work tr + left s')
    (hround : ∀ s as bs tr s', J s → left s ≠ 0 → m ≤ as.countP p → n ≤ bs.countP q →
      M.Path P s (as ++ bs) tr s' → 0 < work tr)
    {s s' : σ} {as : List α} {tr : List ε} (hs : J s) (hrounds : Rounds p q m n k as)
    (h : M.Path P s as tr s') : min k (left s) ≤ work tr := by
  induction hrounds generalizing s tr with
  | zero as => exact Nat.le_trans (Nat.min_le_left _ _) (Nat.zero_le _)
  | @succ k as bs cs hp hq _ ih =>
      obtain ⟨s₁, tr₁, tr₂, h₁, h₂, rfl⟩ := h.split
      obtain ⟨hs₁, hleft⟩ := hkeep s _ tr₁ s₁ hs h₁
      have hrest := ih hs₁ h₂
      rw [hwork]
      by_cases hzero : left s = 0
      · omega
      · have hpos := hround s as bs tr₁ s₁ hs hzero hp hq h₁
        omega

end Machine
