import MysqlPlugin.Scans
import MysqlPlugin.Lib.Schedule

set_option autoImplicit false

/-! # How often the two loops come round

Neither loop can hang in its body: whatever the scripts and the other thread do in between, a scan of
`QueryThread` ends after `10 N` statements of it and one of `ProcessTick` after `(2 n + 5) N`, where
`N` is the size of the table and `n` the number of scripts (`passes_bounded`).

The loops also come to every handle in use that has no `NULL` slot below it: one more than these
numbers of statements, and the few that starting over takes, always lead through the test of such a
handle (`worker_comes`, `tick_comes`). -/

namespace MysqlPlugin

open Machine

/-- A statement of the query thread. -/
def Action.isWorker : Action → Bool
  | .worker _ => true
  | _ => false

/-- A statement of `ProcessTick`. -/
def Action.isTick : Action → Bool
  | .tick => true
  | _ => false

theorem Action.eq_worker {a : Action} (ha : a.isWorker = true) : ∃ lib, a = .worker lib := by
  cases a with
  | worker lib => exact ⟨lib, rfl⟩
  | tick | native | load | unload => cases ha

theorem Action.eq_tick {a : Action} (ha : a.isTick = true) : a = .tick := by
  cases a with
  | tick => rfl
  | worker | native | load | unload => cases ha

namespace System

variable {N : ℕ} {s s' : System N} {a : Action} {tr es : List Event} {cs : List Action}

/-! ## Steps of one thread leave the place of the other -/

/-- Only the worker's own statements move the worker. -/
theorem worker_of_step (ha : a.isWorker = false) (hstep : s.step a = .next s' es) :
    s'.worker = s.worker := by
  cases a with
  | worker lib => cases ha
  | tick => cases tickMove_of_step hstep <;> rfl
  | native thread name amx params lib =>
      simp only [step, perform] at hstep
      split at hstep
      · split at hstep <;> cases hstep
        rfl
      · cases hstep
  | load | unload =>
      simp only [step] at hstep
      split at hstep <;> cases hstep
      rfl

/-- Only the statements of `ProcessTick` move the main thread in it. -/
theorem main_of_step (ha : a.isTick = false) (hstep : s.step a = .next s' es) :
    s'.main = s.main := by
  cases a with
  | tick => cases ha
  | worker lib => cases workerMove_of_step hstep <;> rfl
  | native thread name amx params lib =>
      simp only [step, perform] at hstep
      split at hstep
      · split at hstep <;> cases hstep
        rfl
      · cases hstep
  | load | unload =>
      simp only [step] at hstep
      split at hstep <;> cases hstep
      rfl

/-- The scripts are loaded and unloaded outside of `ProcessTick`. -/
theorem pAmx_kept_of_step (hm : s.main ≠ .idle) (hstep : s.step a = .next s' es) : s'.pAmx = s.pAmx := by
  cases a with
  | worker lib => cases workerMove_of_step hstep <;> rfl
  | tick => cases tickMove_of_step hstep <;> rfl
  | native thread name amx params lib =>
      simp only [step, perform] at hstep
      split at hstep
      · split at hstep
        · cases hstep
        · rename_i hrun
          cases hstep
          exact (Natives.effect_function _ amx params name _ _ _ _ hrun).pAmx
      · cases hstep
  | load | unload => simp [step, hm] at hstep

/-! ## The loops do not hang -/

theorem TickMove.remaining_lt (hmove : s.TickMove es s') (hm : s.main ≠ .idle) :
    s'.main.remaining s'.pAmx.length < s.main.remaining s.pAmx.length := by
  cases hmove with
  | start hidle => exact absurd hidle hm
  | finish i hi hfree =>
      rw [hi]
      simp only [MainPc.remaining, left_succ i, Nat.mul_succ]
      omega
  | enter i o hi ho =>
      rw [hi]
      simp only [MainPc.remaining, TickStmt.rank, left_succ i, Nat.mul_succ]
      omega
  | work k src stmt v place _ hk hd =>
      rw [hk]
      have hpos := stmt.rank_pos s.pAmx.length
      cases place with
      | none =>
          simp only [MainPc.after, MainPc.remaining]
          omega
      | some place =>
          have hrank := hd.rank rfl
          simp only [MainPc.after, MainPc.remaining]
          omega

/-- A scan of `QueryThread` comes to its end within `10 N` statements. -/
theorem worker_ends {P : System N → Action → Prop} (hw : s.worker = .scan 0)
    (hpath : (plugin N).Path P s cs tr s') (hcount : 10 * N < cs.countP Action.isWorker) :
    ∃ cs₁ cs₂ tr₁ s₁, cs = cs₁ ++ cs₂ ∧ (plugin N).Path P s cs₁ tr₁ s₁ ∧ s₁.WorkerAtEnd := by
  have hd : s.worker.remaining = 10 * N := by rw [hw]; rfl
  obtain ⟨cs₁, a, cs₂, s₁, -, tr₁, -, -, rfl, -, hend, hpath₁, -⟩ :=
    hpath.exists_due Action.isWorker (T := fun s _ => s.WorkerAtEnd)
      (d := fun s => s.worker.remaining)
      (fun s a s' es _ ha hstep => by
        obtain ⟨lib, rfl⟩ := Action.eq_worker ha
        exact or_iff_not_imp_left.2 fun hend => (workerMove_of_step hstep).remaining hend)
      (fun s a s' es _ ha hstep => .inr (by rw [worker_of_step ha hstep])) (hd ▸ hcount)
  exact ⟨cs₁, a :: cs₂, tr₁, s₁, rfl, hpath₁, hend⟩

/-- `ProcessTick` returns within `(2 n + 5) N` statements, where `n` scripts are loaded. -/
theorem tick_returns {P : System N → Action → Prop} (hm : s.main = .scan 0)
    (hpath : (plugin N).Path P s cs tr s')
    (hcount : (2 * s.pAmx.length + 5) * N < cs.countP Action.isTick) :
    ∃ cs₁ cs₂ tr₁ s₁, cs = cs₁ ++ cs₂ ∧ (plugin N).Path P s cs₁ tr₁ s₁ ∧ s₁.main = .idle := by
  have hd : s.main.remaining s.pAmx.length = (2 * s.pAmx.length + 5) * N := by rw [hm]; rfl
  obtain ⟨cs₁, a, cs₂, s₁, -, tr₁, -, -, rfl, -, hend, hpath₁, -⟩ :=
    hpath.exists_due Action.isTick (T := fun s _ => s.main = .idle)
      (d := fun s => s.main.remaining s.pAmx.length)
      (fun s a s' es _ ha hstep => by
        cases Action.eq_tick ha
        exact or_iff_not_imp_left.2 fun hidle => (tickMove_of_step hstep).remaining_lt hidle)
      (fun s a s' es _ ha hstep => or_iff_not_imp_left.2 fun hidle => by
        rw [main_of_step ha hstep, pAmx_kept_of_step hidle hstep]) (hd ▸ hcount)
  exact ⟨cs₁, a :: cs₂, tr₁, s₁, rfl, hpath₁, hend⟩

/-- **Neither loop hangs in its body**, whatever the other thread and the scripts do meanwhile. -/
theorem passes_bounded {P : System N → Action → Prop} (hpath : (plugin N).Path P s cs tr s') :
    (s.worker = .scan 0 → 10 * N < cs.countP Action.isWorker →
      ∃ cs₁ cs₂ tr₁ s₁, cs = cs₁ ++ cs₂ ∧ (plugin N).Path P s cs₁ tr₁ s₁ ∧ s₁.WorkerAtEnd) ∧
    (s.main = .scan 0 → (2 * s.pAmx.length + 5) * N < cs.countP Action.isTick →
      ∃ cs₁ cs₂ tr₁ s₁, cs = cs₁ ++ cs₂ ∧ (plugin N).Path P s cs₁ tr₁ s₁ ∧ s₁.main = .idle) :=
  ⟨fun hw hcount => worker_ends hw hpath hcount, fun hm hcount => tick_returns hm hpath hcount⟩

/-- A query is accepted while the worker scans. -/
def amidScan : List Action :=
  .worker {} :: oneWaiting ++ Script.work 20

theorem scan_amid_natives :
    ∃ cs₁ cs₂ tr₁, ∃ s₁ : System 2, amidScan = cs₁ ++ cs₂ ∧
      (plugin 2).Path (fun _ _ => True) .initial cs₁ tr₁ s₁ ∧ s₁.WorkerAtEnd := by
  have hpath := Machine.Path.of_exec (show (plugin 2).exec amidScan System.initial =
    some (((plugin 2).exec amidScan System.initial).getD (System.initial, [])) from rfl)
    (Machine.obeys_all amidScan System.initial)
  exact (passes_bounded hpath).1 rfl (by decide)

end System

/-! ## The loops come to a handle with no free slot below it -/

/-- The statement is the test at the start of the body. -/
def WorkerStmt.isTest : WorkerStmt → Bool
  | .test => true
  | _ => false

def TickStmt.isTest : TickStmt → Bool
  | .test => true
  | _ => false

theorem WorkerStmt.rank_lt (stmt : WorkerStmt) :
    stmt.rank < 10 ∧ (stmt.isTest = false → stmt.rank + 1 < 10) := by
  cases stmt with
  | test => exact ⟨by simp [rank], nofun⟩
  | submit | executing | logExecuted | branch | setParsing | push | clearParsing | callError | inError
  | logResult | pop => simp [rank]

theorem MainPc.after_ne_idle {N : ℕ} (k : Fin N) (place : Option (ℕ × TickStmt)) :
    MainPc.after k place ≠ .idle := by
  cases place <;> nofun

/-- The scripts `ProcessTick` has still to go through in its body. -/
def TickStmt.scripts : TickStmt → List AMX
  | .each _ scripts => scripts
  | .inCallback _ amx scripts => amx :: scripts
  | .test | .pop _ | .clear _ => []

theorem TickStmt.rank_lt {stmt : TickStmt} {n : ℕ} (hs : stmt.scripts.length ≤ n) :
    stmt.rank n < 2 * n + 5 ∧ (stmt.isTest = false → stmt.rank n + 1 < 2 * n + 5) := by
  cases stmt with
  | test => exact ⟨by simp [rank], nofun⟩
  | each | inCallback | pop | clear =>
      simp only [scripts, List.length_cons, List.length_nil] at hs
      simp only [rank]
      omega

/-- Counting with more scripts than there are, every statement of the body still is one less. -/
theorem TickStmt.Does.rank_of_le {pAmx : List AMX} {src : ℕ} {v v' : Option MySQL} {stmt : TickStmt}
    {es : List Event} {place : Option (ℕ × TickStmt)} (hd : stmt.Does pAmx src v es v' place) {n : ℕ}
    (hn : pAmx.length ≤ n) {src' : ℕ} {stmt' : TickStmt} (hplace : place = some (src', stmt')) :
    stmt'.rank n < stmt.rank n := by
  cases hd with
  | skip | clear => cases hplace
  | take | done | pass | exec | returned | pop =>
      cases hplace
      simp only [TickStmt.rank, List.length_cons, List.length_nil]
      omega

/-- The body goes through the scripts there are. -/
theorem TickStmt.Does.scripts_le {pAmx : List AMX} {src : ℕ} {v v' : Option MySQL} {stmt : TickStmt}
    {es : List Event} {place : Option (ℕ × TickStmt)} (hd : stmt.Does pAmx src v es v' place)
    (hs : stmt.scripts.length ≤ pAmx.length) {src' : ℕ} {stmt' : TickStmt}
    (hplace : place = some (src', stmt')) : stmt'.scripts.length ≤ pAmx.length := by
  cases hd with
  | skip | clear => cases hplace
  | take =>
      cases hplace
      exact le_rfl
  | done | pop =>
      cases hplace
      exact Nat.zero_le _
  | exec =>
      cases hplace
      exact hs
  | pass | returned =>
      cases hplace
      exact Nat.le_of_succ_le hs

namespace System

variable {N : ℕ} {s s' : System N} {a : Action} {tr es : List Event} {cs : List Action}

/-- How many statements the worker is away from the test of handle `h` at most. -/
def workerUntil (h : Fin N) (s : System N) : ℕ :=
  s.worker.scanPc.until 10 1 (fun b => b.2.isTest) (fun b => b.2.rank) h

variable {h : Fin N}

theorem WorkerMove.until_lt {lib : Answers} (hmove : s.WorkerMove lib es s')
    (hfree : ∀ i, s.my i = none → h < i) :
    (∃ src, s.worker = .body h src .test) ∨ s'.workerUntil h < s.workerUntil h := by
  unfold workerUntil
  cases hmove with
  | restart i hw hi =>
      rw [hw]
      have hle := Scan.Pc.until_restart (c := 10) (r := 1) (fun b : ℕ × WorkerStmt => b.2.isTest)
        (fun b => b.2.rank) (Fin.lt_def.1 (hfree i hi))
      exact .inr (Nat.lt_of_succ_le hle)
  | enter i o hw ho =>
      rw [hw]
      exact .inr (Scan.Pc.until_enter rfl rfl)
  | work k src stmt o o' place _ hw ho hd =>
      rw [hw, WorkerPc.scanPc_after]
      refine or_iff_not_imp_left.2 fun hnot => ?_
      have hne : (Scan.Pc.body k (src, stmt)).until 10 1 (fun b => b.2.isTest) (fun b => b.2.rank) h
          ≠ 0 := by
        intro hzero
        obtain ⟨b, hb, htest⟩ := Scan.Pc.until_eq_zero hzero
        cases hb
        cases stmt with
        | test => exact hnot ⟨src, rfl⟩
        | _ => cases htest
      cases place with
      | none => exact Scan.Pc.until_leave stmt.rank_pos hne
      | some place => exact Scan.Pc.until_stay (hd.rank rfl) hne

/-- **The worker comes to a handle with no free slot below it**: `10 N + 1` statements of it lead
    through the test of handle `h`. -/
theorem worker_comes {P : System N → Action → Prop}
    (hP : ∀ s a, P s a → ∀ i, s.my i = none → h < i)
    (hpath : (plugin N).Path P s cs tr s') (hcount : 10 * N + 1 ≤ cs.countP Action.isWorker) :
    ∃ cs₁ lib cs₂ s₁ s₂ tr₁ es tr₂ src, cs = cs₁ ++ .worker lib :: cs₂ ∧
      tr = tr₁ ++ (es ++ tr₂) ∧ s₁.worker = .body h src .test ∧ (plugin N).Path P s cs₁ tr₁ s₁ ∧
      P s₁ (.worker lib) ∧ s₁.step (.worker lib) = .next s₂ es ∧ (plugin N).Path P s₂ cs₂ tr₂ s' := by
  have hd : s.workerUntil h < 10 * N + 1 := by
    refine Scan.Pc.until_lt (by omega) (by omega) fun i b _ => b.2.rank_lt
  obtain ⟨cs₁, a, cs₂, s₁, s₂, tr₁, es, tr₂, rfl, rfl, ⟨ha, src, hw⟩, hpath₁, hPa, hstep, hpath₂⟩ :=
    hpath.exists_due Action.isWorker (d := workerUntil h)
      (T := fun s a => a.isWorker = true ∧ ∃ src, s.worker = .body h src .test)
      (fun s a s' es hPa ha hstep => by
        obtain ⟨lib, rfl⟩ := Action.eq_worker ha
        exact ((workerMove_of_step hstep).until_lt (hP _ _ hPa)).imp (fun hw => ⟨ha, hw⟩) id)
      (fun s a s' es _ ha hstep => .inr (by rw [workerUntil, workerUntil, worker_of_step ha hstep]))
      (lt_of_lt_of_le hd hcount)
  obtain ⟨lib, rfl⟩ := Action.eq_worker ha
  exact ⟨cs₁, lib, cs₂, s₁, s₂, tr₁, es, tr₂, src, rfl, rfl, hw, hpath₁, hPa, hstep, hpath₂⟩

/-! ### `ProcessTick` -/

/-- The scripts `ProcessTick` has still to go through are loaded. -/
def ScriptsLeft (s : System N) : Prop :=
  ∀ k src stmt, s.main = .body k src stmt → stmt.scripts.length ≤ s.pAmx.length

theorem ScriptsLeft.step (hs : s.ScriptsLeft) (hstep : s.step a = .next s' es) : s'.ScriptsLeft := by
  by_cases ha : a.isTick = true
  · cases Action.eq_tick ha
    cases tickMove_of_step hstep with
    | start hm => exact fun _ _ _ hm' => by cases hm'
    | finish i hm hfree => exact fun _ _ _ hm' => by cases hm'
    | enter i o hm ho =>
        intro k src stmt hm'
        cases hm'
        exact Nat.zero_le _
    | work k src stmt v place _ hm hd =>
        intro k' src' stmt' hm'
        cases place with
        | none => cases hm'
        | some place =>
            cases hm'
            exact hd.scripts_le (hs k src stmt hm) rfl
  · intro k src stmt hm'
    have hm := main_of_step (by simpa using ha) hstep
    rw [hm] at hm'
    rw [pAmx_kept_of_step (by rw [hm']; nofun) hstep]
    exact hs k src stmt hm'

theorem scriptsLeft_reach {P : System N → Action → Prop} (hrun : (plugin N).Reach P tr s) :
    s.ScriptsLeft :=
  hrun.invariant (I := ScriptsLeft) (fun _ _ _ _ hs _ hstep => hs.step hstep)
    fun _ _ _ hm => by cases hm

/-- How many statements the main thread is away from the test of handle `h` at most, while no more
    than `n` scripts are loaded. -/
def tickUntil (n : ℕ) (h : Fin N) (s : System N) : ℕ :=
  match s.main with
  | .idle => (2 * n + 5) * h + 2
  | main => main.scanPc.until (2 * n + 5) 2 (fun b => b.2.isTest) (fun b => b.2.rank n) h

theorem tickUntil_of_ne {n : ℕ} (hm : s.main ≠ .idle) : s.tickUntil n h =
    s.main.scanPc.until (2 * n + 5) 2 (fun b => b.2.isTest) (fun b => b.2.rank n) h := by
  unfold tickUntil
  split
  · rename_i hidle
    exact absurd hidle hm
  · rfl

theorem TickMove.until_lt {n : ℕ} (hmove : s.TickMove es s')
    (hfree : ∀ i, s.my i = none → h < i) (hn : s.pAmx.length ≤ n) :
    (∃ src, s.main = .body h src .test) ∨ s'.tickUntil n h < s.tickUntil n h := by
  cases hmove with
  | start hm =>
      refine .inr ?_
      rw [tickUntil_of_ne (by simp), tickUntil, hm]
      simp only [MainPc.scanPc, Scan.Pc.until_head_le (Nat.zero_le _), Nat.sub_zero]
      omega
  | finish i hm hi =>
      refine .inr ?_
      rw [tickUntil_of_ne (s := s) (by rw [hm]; nofun), hm]
      simp only [MainPc.scanPc, tickUntil,
        Scan.Pc.until_head_gt (Fin.lt_def.1 (hfree i hi))]
      omega
  | enter i o hm ho =>
      rw [tickUntil_of_ne (s := s) (by rw [hm]; nofun), tickUntil_of_ne (by simp), hm]
      exact .inr (Scan.Pc.until_enter rfl rfl)
  | work k src stmt v place _ hm hd =>
      rw [tickUntil_of_ne (s := s) (by rw [hm]; nofun), tickUntil_of_ne (MainPc.after_ne_idle k place),
        hm, MainPc.scanPc_after]
      refine or_iff_not_imp_left.2 fun hnot => ?_
      have hne : (Scan.Pc.body k (src, stmt)).until (2 * n + 5) 2 (fun b => b.2.isTest)
          (fun b => b.2.rank n) h ≠ 0 := by
        intro hzero
        obtain ⟨b, hb, htest⟩ := Scan.Pc.until_eq_zero hzero
        cases hb
        cases stmt with
        | test => exact hnot ⟨src, rfl⟩
        | each | inCallback | pop | clear => cases htest
      cases place with
      | none => exact Scan.Pc.until_leave (stmt.rank_pos n) hne
      | some place => exact Scan.Pc.until_stay (hd.rank_of_le hn rfl) hne

/-- **`ProcessTick` comes to a handle with no free slot below it**: with at most `n` scripts,
    `(2 n + 5) N + 2` statements of it lead through the test of handle `h`. -/
theorem tick_comes {P : System N → Action → Prop} {n : ℕ}
    (hP : ∀ s a, P s a → (∀ i, s.my i = none → h < i) ∧ s.pAmx.length ≤ n)
    (hs : s.ScriptsLeft) (hpath : (plugin N).Path P s cs tr s')
    (hcount : (2 * n + 5) * N + 2 ≤ cs.countP Action.isTick) :
    ∃ cs₁ cs₂ s₁ s₂ tr₁ es tr₂ src, cs = cs₁ ++ .tick :: cs₂ ∧ tr = tr₁ ++ (es ++ tr₂) ∧
      s₁.main = .body h src .test ∧ (plugin N).Path P s cs₁ tr₁ s₁ ∧ P s₁ .tick ∧
      s₁.step .tick = .next s₂ es ∧ (plugin N).Path P s₂ cs₂ tr₂ s' := by
  have hn : s.pAmx.length ≤ n := by
    cases hpath with
    | nil => simp at hcount
    | cons hPa => exact (hP _ _ hPa).2
  have hd : s.tickUntil n h < (2 * n + 5) * N + 2 := by
    by_cases hm : s.main = .idle
    · have hle : (2 * n + 5) * (h + 1) ≤ (2 * n + 5) * N := Nat.mul_le_mul_left _ h.isLt
      rw [tickUntil, hm]
      rw [Nat.mul_succ] at hle
      show (2 * n + 5) * (h : ℕ) + 2 < _
      omega
    · rw [tickUntil_of_ne hm]
      refine Scan.Pc.until_lt (by omega) (by omega) fun i b hb => ?_
      refine TickStmt.rank_lt (le_trans ?_ hn)
      cases hmain : s.main with
      | idle => exact absurd hmain hm
      | scan j =>
          rw [hmain] at hb
          cases hb
      | body k src stmt =>
          rw [hmain] at hb
          cases hb
          exact hs _ _ _ hmain
  obtain ⟨cs₁, a, cs₂, s₁, s₂, tr₁, es, tr₂, rfl, rfl, ⟨ha, src, hm⟩, hpath₁, hPa, hstep, hpath₂⟩ :=
    hpath.exists_due Action.isTick (d := tickUntil n h)
      (T := fun s a => a.isTick = true ∧ ∃ src, s.main = .body h src .test)
      (fun s a s' es hPa ha hstep => by
        cases Action.eq_tick ha
        obtain ⟨hfree, hn⟩ := hP _ _ hPa
        exact ((tickMove_of_step hstep).until_lt hfree hn).imp (fun hm => ⟨ha, hm⟩) id)
      (fun s a s' es _ ha hstep => .inr (by rw [tickUntil, tickUntil, main_of_step ha hstep]))
      (lt_of_lt_of_le hd hcount)
  cases Action.eq_tick ha
  exact ⟨cs₁, cs₂, s₁, s₂, tr₁, es, tr₂, src, rfl, rfl, hm, hpath₁, hPa, hstep, hpath₂⟩

end System
end MysqlPlugin
