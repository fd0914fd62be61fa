import Mathlib.Data.Fin.Basic
import Mathlib.Data.List.FinRange
import MysqlPlugin.Lib.Machine

set_option autoImplicit false

/-! # Loops over a table that stop at the first empty entry

`for( i = 0; table[ i ] != NULL; i++ ) body` over a table of `N` entries has no bound of its own: it
stops at the first empty entry, and if there is none it goes past the end of the table. So it comes to
every entry in use exactly when no empty entry lies below one (`noGap_iff`), and it stays inside the
table exactly when some entry is empty (`stop_lt_iff`).

The body works on its entry in several steps and may replace it. What one iteration does for its entry
is put together to what the whole loop has done when it is at its condition for entry `i`
(`scanned_run`): the entries below `i` are served, in order and by nothing else, and the others are
untouched. -/

namespace Scan

variable {N : ℕ} {O B ε : Type} {table : Fin N → Option O}

/-! ## Where the loop stops -/

/-- The first empty entry, or the length of the table when there is none. -/
def stop (table : Fin N → Option O) : ℕ := (List.finRange N).findIdx fun i => (table i).isNone

/-- No empty entry lies below one in use. -/
def NoGap (table : Fin N → Option O) : Prop := ∀ i j, i < j → table i = none → table j = none

theorem stop_le (table : Fin N → Option O) : stop table ≤ N := by
  have hle : stop table ≤ (List.finRange N).length := List.findIdx_le_length
  rwa [List.length_finRange] at hle

theorem stop_lt_iff : stop table < N ↔ ∃ i, table i = none := by
  have hiff : stop table < (List.finRange N).length ↔ ∃ i ∈ List.finRange N, (table i).isNone :=
    List.findIdx_lt_length
  rw [List.length_finRange] at hiff
  simpa using hiff

theorem isSome_of_lt_stop {i : Fin N} (hi : i < stop table) : (table i).isSome = true := by
  have hnot := List.not_of_lt_findIdx hi
  simpa [Option.isSome_iff_ne_none] using hnot

theorem table_stop (h : stop table < N) : table ⟨stop table, h⟩ = none := by
  have hlt : (List.finRange N).findIdx (fun i => (table i).isNone) < (List.finRange N).length := by
    rwa [List.length_finRange]
  have hnone := List.findIdx_getElem (w := hlt)
  simpa [stop] using hnone

/-- The loop stops where everything below is in use and the condition fails. -/
theorem eq_stop {n : ℕ} (hn : n ≤ N) (hfull : ∀ i : Fin N, i < n → (table i).isSome = true)
    (hend : ∀ h : n < N, table ⟨n, h⟩ = none) : n = stop table := by
  rcases Nat.lt_trichotomy n (stop table) with hlt | heq | hlt
  · have hN : n < N := lt_of_lt_of_le hlt (stop_le table)
    have hsome : (table ⟨n, hN⟩).isSome = true := isSome_of_lt_stop hlt
    rw [hend hN] at hsome
    cases hsome
  · exact heq
  · have hN : stop table < N := lt_of_lt_of_le hlt hn
    have hsome := hfull ⟨stop table, hN⟩ hlt
    rw [table_stop hN] at hsome
    cases hsome

/-- The entries in use all lie below the stop exactly when there is no gap. -/
theorem noGap_iff : NoGap table ↔ ∀ i, (table i).isSome = true → i < stop table := by
  constructor
  · intro hgap i hi
    by_contra hle
    have hN : stop table < N := lt_of_le_of_lt (not_lt.1 hle) i.isLt
    have hnone : table i = none := by
      rcases Nat.eq_or_lt_of_le (not_lt.1 hle) with heq | hlt
      · rw [← table_stop hN]
        exact congrArg table (Fin.ext heq.symm)
      · exact hgap ⟨stop table, hN⟩ i hlt (table_stop hN)
    rw [hnone] at hi
    cases hi
  · intro hall i j hij hi
    by_contra hj
    have hlt : i < stop table := lt_trans hij (hall j (Option.isSome_iff_ne_none.2 hj))
    have hsome := isSome_of_lt_stop hlt
    rw [hi] at hsome
    cases hsome

/-! ## The loop -/

/-- At the condition for entry `i`, or in the body for it. -/
inductive Pc (N : ℕ) (B : Type)
  | head (i : ℕ)
  | body (i : Fin N) (b : B)

/-- Where the loop is after a step of the body. -/
def Pc.next (i : Fin N) : Option B → Pc N B
  | some b => .body i b
  | none => .head (i + 1)

structure State (N : ℕ) (O B : Type) where
  table : Fin N → Option O
  pc : Pc N B

/-- The body: where it starts on an entry, and what a step of it does to the entry it is at. -/
structure Body (O B ε : Type) where
  start : O → B
  Does : B → O → List ε → O → Option B → Prop

variable {body : Body O B ε}

inductive Step (body : Body O B ε) : State N O B → List ε → State N O B → Prop
  | enter {table : Fin N → Option O} {i : Fin N} {o : O} (ho : table i = some o) :
      Step body ⟨table, .head i⟩ [] ⟨table, .body i (body.start o)⟩
  | work {table : Fin N → Option O} {i : Fin N} {b : B} {o o' : O} {es : List ε} {b' : Option B}
      (ho : table i = some o) (hd : body.Does b o es o' b') :
      Step body ⟨table, .body i b⟩ es ⟨Function.update table i (some o'), Pc.next i b'⟩

/-- The loop over a table. -/
def lts (body : Body O B ε) (table : Fin N → Option O) : Lts (State N O B) Unit ε :=
  ⟨⟨table, .head 0⟩, fun v _ es v' => Step body v es v'⟩

/-! ## What the loop has done so far -/

/-- One iteration serves its entry: `During o₀ L b o` is kept in the body, where `o₀` is the entry at
    the start, `L` what was emitted since then and `o` the entry now, and leads to `Served o₀ L`. -/
structure Serves (body : Body O B ε) (During : O → List ε → B → O → Prop)
    (Served : O → List ε → Prop) : Prop where
  start : ∀ o, During o [] (body.start o) o
  stay : ∀ {o₀ L b o es o' b'}, During o₀ L b o → body.Does b o es o' (some b') →
    During o₀ (L ++ es) b' o'
  leave : ∀ {o₀ L b o es o'}, During o₀ L b o → body.Does b o es o' none → Served o₀ (L ++ es)

/-- The first `n` entries of the table were served one after the other. -/
inductive ServedTo (Served : O → List ε → Prop) (table : Fin N → Option O) : ℕ → List ε → Prop
  | nil : ServedTo Served table 0 []
  | snoc {n : ℕ} {tr L : List ε} {o : O} (hs : ServedTo Served table n tr) (hn : n < N)
      (ho : table ⟨n, hn⟩ = some o) (hL : Served o L) : ServedTo Served table (n + 1) (tr ++ L)

variable {During : O → List ε → B → O → Prop} {Served : O → List ε → Prop} {n : ℕ} {tr : List ε}

theorem ServedTo.le (hs : ServedTo Served table n tr) : n ≤ N := by
  cases hs with
  | nil => exact Nat.zero_le N
  | snoc hs hn => exact hn

theorem ServedTo.isSome (hs : ServedTo Served table n tr) (i : Fin N) (hi : i < n) :
    (table i).isSome = true := by
  induction hs with
  | nil => exact absurd hi (Nat.not_lt_zero _)
  | @snoc n tr L o hs hn ho hL ih =>
      rcases Nat.lt_succ_iff_lt_or_eq.1 hi with hlt | heq
      · exact ih hlt
      · rw [show i = ⟨n, hn⟩ from Fin.ext heq, ho]
        rfl

/-- Every one of them got its part of the trace ... -/
theorem ServedTo.covers (hs : ServedTo Served table n tr) {i : Fin N} (hi : i < n) {o : O}
    (ho : table i = some o) : ∃ L, Served o L ∧ L ⊆ tr := by
  induction hs with
  | nil => exact absurd hi (Nat.not_lt_zero _)
  | @snoc n tr L o₁ hs hn ho₁ hL ih =>
      rcases Nat.lt_succ_iff_lt_or_eq.1 hi with hlt | heq
      · obtain ⟨L', hL', hsub⟩ := ih hlt
        exact ⟨L', hL', List.Subset.trans hsub (List.subset_append_left tr L)⟩
      · rw [show i = ⟨n, hn⟩ from Fin.ext heq, ho₁] at ho
        cases ho
        exact ⟨L, hL, List.subset_append_right tr L⟩

/-- ... and nothing else is in the trace. -/
theorem ServedTo.only (hs : ServedTo Served table n tr) {e : ε} (he : e ∈ tr) :
    ∃ (i : Fin N) (o : O) (L : List ε), i < n ∧ table i = some o ∧ Served o L ∧ e ∈ L := by
  induction hs with
  | nil => cases he
  | @snoc n tr L o hs hn ho hL ih =>
      rcases List.mem_append.1 he with he | he
      · obtain ⟨i, o', L', hi, hrest⟩ := ih he
        exact ⟨i, o', L', Nat.lt_succ_of_lt hi, hrest⟩
      · exact ⟨⟨n, hn⟩, o, L, Nat.lt_succ_self n, ho, hL, he⟩

/-- What holds at every moment of the loop: the entries below are served, the one in hand is being
    served, and those above are untouched. -/
def Scanned (During : O → List ε → B → O → Prop) (Served : O → List ε → Prop)
    (table : Fin N → Option O) (tr : List ε) (v : State N O B) : Prop :=
  match v.pc with
  | .head i => ServedTo Served table i tr ∧ ∀ h : Fin N, i ≤ h → v.table h = table h
  | .body i b => ∃ tr₁ L o₀ o, tr = tr₁ ++ L ∧ ServedTo Served table i tr₁ ∧ table i = some o₀ ∧
      v.table i = some o ∧ During o₀ L b o ∧ ∀ h : Fin N, i < h → v.table h = table h

theorem Scanned.step (hserves : Serves body During Served) {v v' : State N O B} {es : List ε}
    (hv : Scanned During Served table tr v) (hstep : Step body v es v') :
    Scanned During Served table (tr ++ es) v' := by
  cases hstep with
  | @enter table' i o ho =>
      obtain ⟨hserved, hrest⟩ := hv
      have ho₀ : table i = some o := (hrest i le_rfl).symm.trans ho
      refine ⟨tr, [], o, o, rfl, hserved, ho₀, ho, hserves.start o, fun h hh => ?_⟩
      exact hrest h hh.le
  | @work table' i b o o' es b' ho hd =>
      obtain ⟨tr₁, L, o₀, o₁, rfl, hserved, ho₀, ho₁, hduring, hrest⟩ := hv
      obtain rfl : o = o₁ := Option.some.inj (ho.symm.trans ho₁)
      have hrest' : ∀ h : Fin N, i < h → Function.update table' i (some o') h = table h := by
        intro h hh
        rw [Function.update_of_ne (ne_of_gt hh)]
        exact hrest h hh
      rw [List.append_assoc]
      cases b' with
      | some b' =>
          exact ⟨tr₁, L ++ es, o₀, o', rfl, hserved, ho₀, Function.update_self ..,
            hserves.stay hduring hd, hrest'⟩
      | none =>
          exact ⟨hserved.snoc i.isLt ho₀ (hserves.leave hduring hd), fun h hh => hrest' h hh⟩

/-- **What a scan has done**, at every moment of it. -/
theorem scanned_run (hserves : Serves body During Served) {P : State N O B → Unit → Prop}
    {v : State N O B} (hrun : (lts body table).Run P ⟨table, .head 0⟩ tr v) :
    Scanned During Served table tr v :=
  hrun.history (I := Scanned During Served table)
    (fun _ _ _ _ _ hv _ hstep => hv.step hserves hstep) ⟨.nil, fun _ _ => rfl⟩

/-- At its condition, the loop is not past its stop ... -/
theorem Scanned.head_le_stop {tb : Fin N → Option O} {i : ℕ}
    (hv : Scanned During Served table tr ⟨tb, .head i⟩) : i ≤ stop table := by
  by_contra hlt
  have hN : stop table < N := lt_of_lt_of_le (not_le.1 hlt) hv.1.le
  have hsome := hv.1.isSome ⟨stop table, hN⟩ (not_le.1 hlt)
  rw [table_stop hN] at hsome
  cases hsome

/-- ... and when the condition fails, it is there. -/
theorem Scanned.head_eq_stop {tb : Fin N → Option O} {i : ℕ}
    (hv : Scanned During Served table tr ⟨tb, .head i⟩) (hend : ∀ h : i < N, tb ⟨i, h⟩ = none) :
    i = stop table := by
  refine eq_stop hv.1.le hv.1.isSome fun h => ?_
  rw [← hv.2 ⟨i, h⟩ le_rfl]
  exact hend h

/-- A scan that came to its end has served every entry in use, if there is no gap. -/
theorem Scanned.covers_end {tb : Fin N → Option O} {i : ℕ}
    (hv : Scanned During Served table tr ⟨tb, .head i⟩) (hend : ∀ h : i < N, tb ⟨i, h⟩ = none)
    (hgap : NoGap table) {k : Fin N} {o : O} (ho : table k = some o) :
    ∃ L, Served o L ∧ L ⊆ tr := by
  have hlt : k < stop table := noGap_iff.1 hgap k (by rw [ho]; rfl)
  rw [← hv.head_eq_stop hend] at hlt
  exact hv.1.covers hlt ho

/-- Whatever it did, it did for an entry before the stop. -/
theorem Scanned.only_end {tb : Fin N → Option O} {i : ℕ}
    (hv : Scanned During Served table tr ⟨tb, .head i⟩) {e : ε} (he : e ∈ tr) :
    ∃ (k : Fin N) (o : O) (L : List ε), k < stop table ∧ table k = some o ∧ Served o L ∧ e ∈ L := by
  obtain ⟨k, o, L, hk, hrest⟩ := hv.1.only he
  exact ⟨k, o, L, lt_of_lt_of_le hk hv.head_le_stop, hrest⟩

/-! ## How long until the loop comes to an entry

A loop that is started over when it has ended comes to every entry again and again. An iteration takes
`c` steps at most, of which `rank` says how many are left, and starting over takes `r`; `isStart` tells
whether the body is at its start. -/

section Until

variable {c r : ℕ} {isStart : B → Bool} {rank : B → ℕ} {h : Fin N}

/-- How many steps there are at most before the loop is at the start of its body for entry `h`. -/
def Pc.until (c r : ℕ) (isStart : B → Bool) (rank : B → ℕ) (h : Fin N) : Pc N B → ℕ
  | .head i => if i ≤ h then c * (h - i) + 1 else c * (N - i) + r + (c * h + 1)
  | .body i b =>
    if i < h then c * (h - (i + 1)) + rank b + 1
    else if i = h ∧ isStart b = true then 0
    else c * (N - (i + 1)) + rank b + r + (c * h + 1)

theorem mul_sub_succ {i n : ℕ} (hi : i < n) : c * (n - i) = c * (n - (i + 1)) + c := by
  rw [← Nat.mul_succ]
  congr 1
  omega

theorem Pc.until_head_le {i : ℕ} (hi : i ≤ h) :
    (Pc.head i : Pc N B).until c r isStart rank h = c * (h - i) + 1 := if_pos hi

theorem Pc.until_head_gt {i : ℕ} (hi : h < i) :
    (Pc.head i : Pc N B).until c r isStart rank h = c * (N - i) + r + (c * h + 1) :=
  if_neg (Nat.not_le.2 hi)

theorem Pc.until_body_lt {i : Fin N} (hi : i < h) (b : B) :
    (Pc.body i b).until c r isStart rank h = c * (h - (i + 1)) + rank b + 1 := if_pos hi

theorem Pc.until_body_ge {i : Fin N} {b : B} (hi : h ≤ i)
    (hne : (Pc.body i b).until c r isStart rank h ≠ 0) :
    (Pc.body i b).until c r isStart rank h = c * (N - (i + 1)) + rank b + r + (c * h + 1) := by
  simp only [Pc.until, if_neg (not_lt.2 hi)] at hne ⊢
  split_ifs at hne ⊢
  · exact absurd rfl hne
  · rfl

theorem Pc.until_body_start {b : B} (hb : isStart b = true) :
    (Pc.body h b).until c r isStart rank h = 0 := by
  simp only [Pc.until, if_neg (lt_irrefl h), hb, and_self, if_true]

/-- At zero the loop is at the start of its body for the entry. -/
theorem Pc.until_eq_zero {pc : Pc N B} (hpc : pc.until c r isStart rank h = 0) :
    ∃ b, pc = .body h b ∧ isStart b = true := by
  cases pc with
  | head i =>
      simp only [Pc.until] at hpc
      split_ifs at hpc
  | body i b =>
      simp only [Pc.until] at hpc
      split_ifs at hpc with hlt hstart
      · exact ⟨b, by rw [hstart.1], hstart.2⟩

/-- Entering the body brings the loop closer ... -/
theorem Pc.until_enter {i : Fin N} {b : B} (hb : isStart b = true) (hrank : rank b + 1 = c) :
    (Pc.body i b).until c r isStart rank h < (Pc.head i : Pc N B).until c r isStart rank h := by
  rcases lt_trichotomy i h with hlt | rfl | hgt
  · rw [until_body_lt hlt, until_head_le (Fin.le_def.1 hlt.le), mul_sub_succ (Fin.lt_def.1 hlt)]
    omega
  · rw [until_head_le le_rfl, until_body_start hb]
    omega
  · rw [until_head_gt (Fin.lt_def.1 hgt), mul_sub_succ i.isLt]
    by_cases hne : (Pc.body i b).until c r isStart rank h = 0
    · omega
    · rw [until_body_ge hgt.le hne]
      omega

/-- ... as does every step of the body, but for the first one of the body for the entry itself ... -/
theorem Pc.until_stay {i : Fin N} {b b' : B} (hrank : rank b' < rank b)
    (hne : (Pc.body i b).until c r isStart rank h ≠ 0) :
    (Pc.body i b').until c r isStart rank h < (Pc.body i b).until c r isStart rank h := by
  rcases lt_or_ge i h with hlt | hge
  · rw [until_body_lt hlt, until_body_lt hlt]
    omega
  · by_cases hne' : (Pc.body i b').until c r isStart rank h = 0
    · omega
    · rw [until_body_ge hge hne, until_body_ge hge hne']
      omega

/-- ... leaving it, with the same exception ... -/
theorem Pc.until_leave {i : Fin N} {b : B} (hrank : 0 < rank b)
    (hne : (Pc.body i b).until c r isStart rank h ≠ 0) :
    (Pc.head (i + 1) : Pc N B).until c r isStart rank h <
      (Pc.body i b).until c r isStart rank h := by
  rcases lt_or_ge i h with hlt | hge
  · have hle : (i : ℕ) + 1 ≤ h := hlt
    rw [until_body_lt hlt, until_head_le hle]
    omega
  · have hgt : (h : ℕ) < i + 1 := Nat.lt_succ_of_le hge
    rw [until_body_ge hge hne, until_head_gt hgt]
    omega

/-- ... and starting over from behind it. -/
theorem Pc.until_restart (isStart : B → Bool) (rank : B → ℕ) {i : ℕ} (hi : h < i) :
    (Pc.head 0 : Pc N B).until c r isStart rank h + r ≤
      (Pc.head i : Pc N B).until c r isStart rank h := by
  rw [until_head_le (Nat.zero_le _), until_head_gt hi, Nat.sub_zero]
  omega

/-- A time round the table, and starting over once, always brings the loop there. -/
theorem Pc.until_lt {pc : Pc N B} (hc : 1 < c) (hr : 0 < r)
    (hbody : ∀ i b, pc = .body i b → rank b < c ∧ (isStart b = false → rank b + 1 < c)) :
    pc.until c r isStart rank h < c * N + r := by
  have hround : c * N = c * (N - (h + 1)) + c + c * h := by
    rw [← Nat.mul_succ, ← Nat.mul_add]
    congr 1
    have hh := h.isLt
    omega
  cases pc with
  | head i =>
      rcases Nat.lt_or_ge h i with hlt | hge
      · have hle : c * (N - i) ≤ c * (N - (h + 1)) := Nat.mul_le_mul_left c (by omega)
        rw [until_head_gt hlt]
        omega
      · have hle : c * (h - i) ≤ c * h := Nat.mul_le_mul_left c (Nat.sub_le ..)
        rw [until_head_le hge]
        omega
  | body i b =>
      obtain ⟨hb, hlater⟩ := hbody i b rfl
      rcases lt_or_ge i h with hlt | hge
      · have hle : c * (h - (i + 1)) ≤ c * h := Nat.mul_le_mul_left c (Nat.sub_le ..)
        rw [until_body_lt hlt]
        omega
      · by_cases hne : (Pc.body i b).until c r isStart rank h = 0
        · omega
        rw [until_body_ge hge hne]
        rcases eq_or_lt_of_le hge with rfl | hgt
        · have hfalse : isStart b = false := by
            by_contra htrue
            exact hne (until_body_start (by simpa using htrue))
          have hb' := hlater hfalse
          omega
        · have hi : c * (N - (i + 1)) + c ≤ c * (N - (h + 1)) := by
            rw [← Nat.mul_succ]
            refine Nat.mul_le_mul_left c ?_
            have hlt := Fin.lt_def.1 hgt
            have hN := i.isLt
            omega
          omega

end Until

/-! ## Taking turns

Between two visits of one entry the loop comes to every other one. So of two entries neither is ever
more than one visit ahead, and which of them is due can be read off the place of the loop. -/

section Turns

variable {isStart : B → Bool} {h k : Fin N}

/-- How far the loop is: at the condition for an entry, at the start of the body for it, or in it. -/
def Pc.place (isStart : B → Bool) : Pc N B → ℕ
  | .head i => 3 * i
  | .body i b => if isStart b then 3 * i + 1 else 3 * i + 2

/-- Of two entries `h < k`, the loop comes to `h` next (1), or to `k` (0). -/
def Pc.due (isStart : B → Bool) (h k : Fin N) (pc : Pc N B) : ℕ :=
  if pc.place isStart ≤ 3 * h + 1 ∨ 3 * k + 2 ≤ pc.place isStart then 1 else 0

theorem Pc.due_le_one (pc : Pc N B) : pc.due isStart h k ≤ 1 := by
  unfold due
  split <;> omega

theorem Pc.due_enter {i : Fin N} {b : B} (hb : isStart b = true) :
    (Pc.body i b).due isStart h k = (Pc.head i : Pc N B).due isStart h k := by
  have hbody : (Pc.body i b).place isStart = 3 * i + 1 := if_pos hb
  have hhead : (Pc.head i : Pc N B).place isStart = 3 * i := rfl
  rw [due, due, hbody, hhead]
  split_ifs <;> omega

theorem Pc.due_restart {i : ℕ} (hi : k < i) :
    (Pc.head 0 : Pc N B).due isStart h k = (Pc.head i : Pc N B).due isStart h k := by
  have hlast : 3 * (k : ℕ) + 2 ≤ 3 * i := by omega
  simp [due, place, hlast]

/-- A step of the body changes which one is due if it is a visit of one of them. -/
theorem Pc.due_next {i : Fin N} {b : B} {b' : Option B} (hhk : h < k)
    (hb' : ∀ b₁, b' = some b₁ → isStart b₁ = false) :
    (if isStart b = true ∧ i = h then 1 else 0) + (Pc.next i b').due isStart h k =
      (if isStart b = true ∧ i = k then 1 else 0) + (Pc.body i b).due isStart h k := by
  have hlt : (h : ℕ) < k := hhk
  have hplace : (Pc.next i b').place isStart = 3 * i + 2 ∨ (Pc.next i b').place isStart = 3 * i + 3 := by
    cases b' with
    | none => exact .inr rfl
    | some b₁ => exact .inl (by simp [next, place, hb' b₁ rfl])
  have hh : i = h ↔ (i : ℕ) = h := Fin.ext_iff
  have hk : i = k ↔ (i : ℕ) = k := Fin.ext_iff
  unfold due
  generalize (Pc.next i b').place isStart = p at hplace
  cases hb : isStart b with
  | false =>
      simp only [place, hb, Bool.false_eq_true, false_and, if_false]
      split_ifs <;> omega
  | true =>
      simp only [place, hb, true_and, if_true, hh, hk]
      split_ifs <;> omega

end Turns

end Scan
