import MysqlPlugin.Reentrancy
import MysqlPlugin.Lib.Scan

set_option autoImplicit false

/-! # One scan of the handle table

Both loops go through the table with `for( handle = 0; my[ handle ] != NULL; handle++ )`: they are
scans in the sense of `Lib/Scan.lean`, with the body of the loop as the body of the scan. So a scan
comes to every handle in use exactly when there is no `NULL` below one (`scans_cover_iff`), and it
stays inside the table exactly when some slot is `NULL` (`scans_stay_inside_iff`); `mysql_close` makes
the former fail, and a table without a free slot the latter.

A scan is looked at by itself here: its steps are those of one loop, from its start to the moment its
condition fails. -/

namespace MysqlPlugin

open Prog Natives

/-! ## What one iteration does for its object -/

namespace QueryThread

/-- The body of the loop in `QueryThread`, as the body of a scan. -/
def body : Scan.Body MySQL (ℕ × WorkerStmt) Event where
  start o := (o.conn, .test)
  Does b o es o' b' := ∃ lib, b.2.Does lib b.1 o es o' b'

/-- The iteration examined the object, and executed the front of its queue if that was waiting. -/
structure Served (o : MySQL) (L : List Event) : Prop where
  about : ∀ e ∈ L, e.about = some o.conn
  examined : .examined .worker o.conn ∈ L
  executed : ∀ q rest, o.queryQueue = q :: rest → o.parsing = false →
    ∃ code rows, .executed o.conn q code rows ∈ L

/-- The worker holds the front of the queue. -/
structure Copied (o : MySQL) (L : List Event) (q : QueryInfo) : Prop where
  about : ∀ e ∈ L, e.about = some o.conn
  examined : .examined .worker o.conn ∈ L
  front : ∀ q' rest, o.queryQueue = q' :: rest → q' = q

/-- How far the iteration is with the object `o₀` it started on. -/
def Serving (o₀ : MySQL) (L : List Event) (b : ℕ × WorkerStmt) (o : MySQL) : Prop :=
  o.conn = o₀.conn ∧
    match b.2 with
    | .test => L = [] ∧ o = o₀
    | .submit q => Copied o₀ L q
    | .executing q c => Copied o₀ L q ∧ c = o₀.conn
    | _ => Served o₀ L

theorem about_append {o : MySQL} {L es : List Event} (hL : ∀ e ∈ L, e.about = some o.conn)
    (hes : ∀ e ∈ es, e.about = some o.conn) : ∀ e ∈ L ++ es, e.about = some o.conn := fun e he =>
  (List.mem_append.1 he).elim (hL e) (hes e)

theorem Served.later {o : MySQL} {L es : List Event} (hs : Served o L)
    (hes : ∀ e ∈ es, e.about = some o.conn) : Served o (L ++ es) := by
  refine ⟨about_append hs.about hes, List.mem_append_left _ hs.examined, fun q rest hq hp => ?_⟩
  obtain ⟨code, rows, hmem⟩ := hs.executed q rest hq hp
  exact ⟨code, rows, List.mem_append_left _ hmem⟩

/-- **An iteration of `QueryThread` serves its object.** -/
theorem serves : Scan.Serves body Serving Served where
  start o := ⟨rfl, rfl, rfl⟩
  stay := by
    rintro o₀ L ⟨src, stmt⟩ o es o' ⟨src', stmt'⟩ ⟨hconn, hserving⟩ ⟨lib, hd⟩
    refine ⟨hd.conn.trans hconn, ?_⟩
    cases hd with
    | copy q rest hq hp =>
        obtain ⟨rfl, rfl⟩ := hserving
        refine ⟨fun e he => ?_, by simp, fun q' rest' hq' => ?_⟩
        · rcases List.mem_pair.1 he with rfl | rfl <;> rfl
        · rw [hq] at hq'
          cases hq'
          rfl
    | submit q hm =>
        obtain ⟨habout, hexamined, hfront⟩ := hserving
        refine ⟨⟨about_append habout fun e he => ?_, List.mem_append_left _ hexamined, hfront⟩, hconn⟩
        rw [List.mem_singleton.1 he, ← hconn]
        rfl
    | answer q conn =>
        obtain ⟨⟨habout, hexamined, hfront⟩, rfl⟩ := hserving
        refine ⟨about_append habout fun e he => ?_, List.mem_append_left _ hexamined,
          fun q' rest hq' _ => ⟨lib.code, lib.rows, ?_⟩⟩
        · rw [List.mem_singleton.1 he]
          rfl
        · rw [hfront q' rest hq']
          exact List.mem_append_right _ (List.mem_singleton.2 rfl)
    | push | report =>
        refine Served.later hserving fun e he => ?_
        rw [List.mem_singleton.1 he, ← hconn]
        rfl
    | logExecuted | succeeded | failed | setParsing | clearParsing | returned | logResult =>
        exact Served.later hserving (by simp)
  leave := by
    rintro o₀ L ⟨src, stmt⟩ o es o' ⟨hconn, hserving⟩ ⟨lib, hd⟩
    cases hd with
    | skip hskip =>
        obtain ⟨rfl, rfl⟩ := hserving
        refine ⟨fun e he => ?_, by simp, fun q rest hq hp => ?_⟩
        · rw [List.mem_singleton.1 he]
          rfl
        · -- the queue is empty, or its front has to wait
          rcases hskip with hnil | hpar
          · rw [hnil] at hq
            simp at hq
          · rw [hpar] at hp
            simp at hp
    | pop q front rest hq =>
        refine Served.later hserving fun e he => ?_
        rw [List.mem_singleton.1 he, ← hconn]
        rfl

end QueryThread

namespace ProcessTick

/-- The body of the loop in `ProcessTick`, as the body of a scan. -/
def body (pAmx : List AMX) : Scan.Body MySQL (ℕ × TickStmt) Event where
  start o := (o.conn, .test)
  Does b o es o' b' := b.2.Does pAmx b.1 (some o) es (some o') b'

/-- The iteration examined the object, and delivered the front of its `threadQueue` if that was
    ready. -/
structure Served (o : MySQL) (L : List Event) : Prop where
  about : ∀ e ∈ L, e.about = some o.conn
  examined : .examined .main o.conn ∈ L
  delivered : ∀ t rest, o.threadQueue = t :: rest → o.parsing = true → .delivered o.conn t ∈ L

/-- The entry is taken and still the front. -/
structure Taken (o₀ : MySQL) (L : List Event) (o : MySQL) : Prop where
  about : ∀ e ∈ L, e.about = some o₀.conn
  examined : .examined .main o₀.conn ∈ L
  queue : o.threadQueue = o₀.threadQueue

/-- How far the iteration is with the object `o₀` it started on. -/
def Serving (o₀ : MySQL) (L : List Event) (b : ℕ × TickStmt) (o : MySQL) : Prop :=
  o.conn = o₀.conn ∧
    match b.2 with
    | .test => L = [] ∧ o = o₀
    | .each _ _ | .inCallback _ _ _ | .pop _ => Taken o₀ L o
    | .clear _ => Served o₀ L

variable {pAmx : List AMX}

/-- **An iteration of `ProcessTick` serves its object.** -/
theorem serves : Scan.Serves (body pAmx) Serving Served where
  start o := ⟨rfl, rfl, rfl⟩
  stay := by
    rintro o₀ L ⟨src, stmt⟩ o es o' ⟨src', stmt'⟩ ⟨hconn, hserving⟩ hd
    have hconn' : o'.conn = o.conn := Option.some.inj (TickStmt.Does.conn hd)
    refine ⟨hconn'.trans hconn, ?_⟩
    cases hd with
    | take _ t rest hq hp =>
        obtain ⟨rfl, rfl⟩ := hserving
        refine ⟨fun e he => ?_, by simp, rfl⟩
        rcases List.mem_pair.1 he with rfl | rfl <;> rfl
    | done | pass | exec | returned =>
        rw [List.append_nil]
        exact hserving
    | pop _ t front rest hq =>
        obtain ⟨habout, hexamined, hqueue⟩ := hserving
        refine ⟨fun e he => ?_, List.mem_append_left _ hexamined, fun t' rest' hq' _ => ?_⟩
        · rcases List.mem_append.1 he with he | he
          · exact habout e he
          · rw [List.mem_singleton.1 he, ← hconn]
            rfl
        · obtain ⟨rfl, -⟩ := List.cons.inj (hq.symm.trans (hqueue.trans hq'))
          rw [← hconn]
          exact List.mem_append_right _ (List.mem_singleton.2 rfl)
  leave := by
    rintro o₀ L ⟨src, stmt⟩ o es o' ⟨hconn, hserving⟩ hd
    cases hd with
    | skip _ hskip =>
        obtain ⟨rfl, rfl⟩ := hserving
        refine ⟨fun e he => ?_, by simp, fun t rest hq hp => ?_⟩
        · rw [List.mem_singleton.1 he]
          rfl
        · rcases hskip with hnil | hpar
          · rw [hnil] at hq
            simp at hq
          · rw [hpar] at hp
            simp at hp
    | clear _ t =>
        rw [List.append_nil]
        exact hserving

end ProcessTick

/-! ## The two loops are scans -/

/-- Where the worker is in its scan. -/
def WorkerPc.scanPc {N : ℕ} : WorkerPc N → Scan.Pc N (ℕ × WorkerStmt)
  | .scan i => .head i
  | .body k src stmt => .body k (src, stmt)

theorem WorkerPc.scanPc_after {N : ℕ} (k : Fin N) (place : Option (ℕ × WorkerStmt)) :
    (WorkerPc.after k place).scanPc = Scan.Pc.next k place := by
  cases place <;> rfl

/-- Where `ProcessTick` is in its scan; outside of it, the next one is due. -/
def MainPc.scanPc {N : ℕ} : MainPc N → Scan.Pc N (ℕ × TickStmt)
  | .idle => .head 0
  | .scan i => .head i
  | .body k src stmt => .body k (src, stmt)

theorem MainPc.scanPc_after {N : ℕ} (k : Fin N) (place : Option (ℕ × TickStmt)) :
    (MainPc.after k place).scanPc = Scan.Pc.next k place := by
  cases place <;> rfl

namespace System

variable {N : ℕ} {s s' : System N} {tr es : List Event}

def workerView (s : System N) : Scan.State N MySQL (ℕ × WorkerStmt) := ⟨s.my, s.worker.scanPc⟩

def tickView (s : System N) : Scan.State N MySQL (ℕ × TickStmt) := ⟨s.my, s.main.scanPc⟩

/-- The loop of `QueryThread` is at its condition, and the condition fails or reads past the table. -/
def WorkerAtEnd (s : System N) : Prop :=
  ∃ i, s.worker = .scan i ∧ ∀ h : i < N, s.my ⟨i, h⟩ = none

def TickAtEnd (s : System N) : Prop :=
  ∃ i, s.main = .scan i ∧ ∀ h : i < N, s.my ⟨i, h⟩ = none

/-- The steps of one scan of `QueryThread`, by itself. -/
def WorkerScan (s : System N) (a : Action) : Prop := (∃ lib, a = .worker lib) ∧ ¬ s.WorkerAtEnd

/-- The steps of one scan of `ProcessTick`, by itself. -/
def TickScan (s : System N) (a : Action) : Prop := a = .tick ∧ ¬ s.TickAtEnd

theorem WorkerMove.scan_step {lib : Answers} (hmove : s.WorkerMove lib es s')
    (hend : ¬ s.WorkerAtEnd) :
    Scan.Step QueryThread.body s.workerView (history es) s'.workerView := by
  unfold workerView
  cases hmove with
  | restart i hw hfree => exact absurd ⟨i, hw, fun _ => hfree⟩ hend
  | enter i o hw ho =>
      rw [hw]
      exact .enter ho
  | work k src stmt o o' place _ hw ho hd =>
      rw [hw, WorkerPc.scanPc_after]
      exact .work ho ⟨lib, hd⟩

/-- What a scan of `ProcessTick` goes on with. -/
structure TickReady (s : System N) : Prop where
  running : s.main ≠ .idle
  sound : ∀ h : Fin N, (s.slot h).TickSound

theorem TickReady.object (hs : s.TickReady) {k : Fin N} {src : ℕ} {stmt : TickStmt}
    (hm : s.main = .body k src stmt) : ∃ o, s.my k = some o ∧ stmt.Sound src o :=
  hs.sound k src stmt (main_place hm)

theorem TickMove.scan_step (hmove : s.TickMove es s') (hend : ¬ s.TickAtEnd) (hs : s.TickReady) :
    Scan.Step (ProcessTick.body s.pAmx) s.tickView (history es) s'.tickView ∧ s'.pAmx = s.pAmx ∧
      s'.main ≠ .idle := by
  unfold tickView
  cases hmove with
  | start hm => exact absurd hm hs.running
  | finish i hm hfree => exact absurd ⟨i, hm, fun _ => hfree⟩ hend
  | enter i o hm ho =>
      rw [hm]
      exact ⟨.enter ho, rfl, nofun⟩
  | work k src stmt v place _ hm hd =>
      obtain ⟨o, ho, -⟩ := hs.object hm
      rw [ho] at hd
      obtain ⟨o', rfl, -⟩ := Option.map_eq_some_iff.1 hd.conn
      rw [hm, MainPc.scanPc_after]
      refine ⟨.work ho hd, rfl, ?_⟩
      cases place <;> nofun

theorem TickReady.step (hs : s.TickReady) (hend : ¬ s.TickAtEnd)
    (hstep : s.step .tick = .next s' es) : s'.TickReady := by
  refine ⟨((tickMove_of_step hstep).scan_step hend hs).2.2, fun h => ?_⟩
  obtain ⟨hs', hslot⟩ := step_slot hstep h
  exact hslot.tickSound (Slot.closesQuietly_of_not_close rfl).2 (hs.sound h)

theorem tickReady_of_scan (hmain : s.main = .scan 0) : s.TickReady := by
  refine ⟨by rw [hmain]; nofun, fun h src stmt ht => ?_⟩
  rw [show (s.slot h).tick = none by simp [slot, hmain]] at ht
  simp at ht

/-- What a scan of `QueryThread` goes on with. -/
structure WorkerReady (s : System N) : Prop where
  sound : ∀ h : Fin N, (s.slot h).WorkerSound
  connected : ∀ h : Fin N, (s.slot h).Connected

theorem WorkerReady.step {lib : Answers} (hs : s.WorkerReady)
    (hstep : s.step (.worker lib) = .next s' es) : s'.WorkerReady := by
  refine ⟨fun h => ?_, fun h => ?_⟩
  · obtain ⟨hs', hslot⟩ := step_slot hstep h
    exact hslot.workerSound (Slot.closesQuietly_of_not_close rfl).1 (hs.sound h)
  · obtain ⟨hs', hslot⟩ := step_slot hstep h
    exact hslot.connected (hs.connected h)

theorem workerReady_of_scan {P : System N → Action → Prop} (hrun : (plugin N).Reach P tr s)
    (hworker : s.worker = .scan 0) : s.WorkerReady := by
  refine ⟨fun h src stmt hw => ?_, connected_reach hrun⟩
  rw [show (s.slot h).worker = none by simp [slot, hworker]] at hw
  simp at hw

/-! ## What a scan has done -/

/-- A scan of `QueryThread` serves the slots below its place, and has done nothing else. -/
theorem worker_scanned (hworker : s.worker = .scan 0)
    (hrun : (plugin N).Run WorkerScan s tr s') :
    Scan.Scanned QueryThread.Serving QueryThread.Served s.my (history tr) s'.workerView := by
  have hsim := hrun.simulation (U := Scan.lts QueryThread.body s.my) (Q := fun _ _ => True)
    (t := ⟨s.my, .head 0⟩) (S := fun tr s tr' v => tr' = history tr ∧ v = s.workerView) ?_
    ⟨rfl, by rw [workerView, hworker]; rfl⟩
  · obtain ⟨tr', v, hscan, rfl, rfl⟩ := hsim
    exact Scan.scanned_run QueryThread.serves hscan
  · rintro tr s a es s' tr' v ⟨rfl, rfl⟩ ⟨⟨lib, rfl⟩, hend⟩ hstep
    have hscan := (workerMove_of_step hstep).scan_step hend
    exact ⟨history es, s'.workerView, Lts.Run.single (a := ()) trivial hscan,
      (history_append ..).symm, rfl⟩

/-- The same for `ProcessTick`. -/
theorem tick_scanned (hmain : s.main = .scan 0) (hrun : (plugin N).Run TickScan s tr s') :
    Scan.Scanned ProcessTick.Serving ProcessTick.Served s.my (history tr) s'.tickView := by
  have hsim := hrun.simulation (U := Scan.lts (ProcessTick.body s.pAmx) s.my)
    (Q := fun _ _ => True) (t := ⟨s.my, .head 0⟩)
    (S := fun tr s₁ tr' v => tr' = history tr ∧ v = s₁.tickView ∧ s₁.pAmx = s.pAmx ∧
      s₁.TickReady) ?_
    ⟨rfl, by rw [tickView, hmain]; rfl, rfl, tickReady_of_scan hmain⟩
  · obtain ⟨tr', v, hscan, rfl, rfl, -, -⟩ := hsim
    exact Scan.scanned_run ProcessTick.serves hscan
  · rintro tr s₁ a es s₂ tr' v ⟨rfl, rfl, hpAmx, hready⟩ ⟨rfl, hend⟩ hstep
    obtain ⟨hscan, hpAmx', -⟩ := (tickMove_of_step hstep).scan_step hend hready
    rw [hpAmx] at hscan
    exact ⟨history es, s₂.tickView, Lts.Run.single (a := ()) trivial hscan,
      (history_append ..).symm, rfl, hpAmx'.trans hpAmx, hready.step hend hstep⟩

end System

/-! ## Scans come to their end -/

/-- How many statements of the body the worker has before it at most. -/
def WorkerStmt.rank : WorkerStmt → ℕ
  | .test => 9
  | .submit _ => 8
  | .executing _ _ => 7
  | .logExecuted _ => 6
  | .branch _ => 5
  | .setParsing _ _ | .clearParsing _ => 4
  | .push _ _ | .callError _ => 3
  | .logResult _ | .inError _ => 2
  | .pop _ => 1

theorem WorkerStmt.rank_pos (stmt : WorkerStmt) : 0 < stmt.rank := by
  cases stmt <;> exact Nat.succ_pos _

theorem WorkerStmt.Does.rank {lib : Answers} {src : ℕ} {o o' : MySQL} {stmt : WorkerStmt}
    {es : List Event} {place : Option (ℕ × WorkerStmt)} (hd : stmt.Does lib src o es o' place)
    {src' : ℕ} {stmt' : WorkerStmt} (hplace : place = some (src', stmt')) :
    stmt'.rank < stmt.rank := by
  cases hd with
  | skip | pop => cases hplace
  | copy | submit | answer | logExecuted | succeeded | failed | setParsing | push | clearParsing
  | report | returned | logResult =>
      cases hplace
      exact Nat.lt_succ_self _

/-- How many steps are left of a scan of `QueryThread` at most. -/
def WorkerPc.remaining {N : ℕ} : WorkerPc N → ℕ
  | .scan i => 10 * (N - i)
  | .body k _ stmt => 10 * (N - (k + 1)) + stmt.rank

/-- How many statements of the body `ProcessTick` has before it at most, with `n` scripts loaded. -/
def TickStmt.rank (n : ℕ) : TickStmt → ℕ
  | .test => 2 * n + 4
  | .each _ scripts => 2 * scripts.length + 3
  | .inCallback _ _ scripts => 2 * scripts.length + 4
  | .pop _ => 2
  | .clear _ => 1

theorem TickStmt.rank_pos (n : ℕ) (stmt : TickStmt) : 0 < stmt.rank n := by
  cases stmt <;> simp [TickStmt.rank]

theorem TickStmt.Does.rank {pAmx : List AMX} {src : ℕ} {v v' : Option MySQL} {stmt : TickStmt}
    {es : List Event} {place : Option (ℕ × TickStmt)} (hd : stmt.Does pAmx src v es v' place)
    {src' : ℕ} {stmt' : TickStmt} (hplace : place = some (src', stmt')) :
    stmt'.rank pAmx.length < stmt.rank pAmx.length := by
  cases hd with
  | skip | clear => cases hplace
  | take | done | pass | exec | returned | pop =>
      cases hplace
      simp only [TickStmt.rank, List.length_cons, List.length_nil]
      omega

/-- How many steps are left of a scan of `ProcessTick` at most. -/
def MainPc.remaining {N : ℕ} (n : ℕ) : MainPc N → ℕ
  | .idle => 0
  | .scan i => (2 * n + 5) * (N - i)
  | .body k _ stmt => (2 * n + 5) * (N - (k + 1)) + stmt.rank n

namespace System

variable {N : ℕ} {s s' : System N} {tr es : List Event}

/-- A handle left in a scan of the table is one more than the handles left behind it. -/
theorem left_succ (k : Fin N) : N - (k : ℕ) = N - (k + 1) + 1 := by
  have hk := k.isLt
  omega

theorem WorkerMove.remaining {lib : Answers} (hmove : s.WorkerMove lib es s')
    (hend : ¬ s.WorkerAtEnd) : s'.worker.remaining < s.worker.remaining := by
  cases hmove with
  | restart i hw hfree => exact absurd ⟨i, hw, fun _ => hfree⟩ hend
  | enter i o hw ho =>
      rw [hw]
      simp only [WorkerPc.remaining, WorkerStmt.rank]
      have hleft := left_succ i
      omega
  | work k src stmt o o' place _ hw ho hd =>
      rw [hw]
      have hpos := stmt.rank_pos
      cases place with
      | none =>
          simp only [WorkerPc.after, WorkerPc.remaining]
          omega
      | some place =>
          have hrank := hd.rank rfl
          simp only [WorkerPc.after, WorkerPc.remaining]
          omega

theorem TickMove.remaining (hmove : s.TickMove es s') (hend : ¬ s.TickAtEnd)
    (hs : s.TickReady) :
    s'.main.remaining s'.pAmx.length < s.main.remaining s.pAmx.length := by
  cases hmove with
  | start hm => exact absurd hm hs.running
  | finish i hm hfree => exact absurd ⟨i, hm, fun _ => hfree⟩ hend
  | enter i o hm ho =>
      rw [hm]
      simp only [MainPc.remaining, TickStmt.rank, left_succ i, Nat.mul_succ]
      omega
  | work k src stmt v place _ hm hd =>
      rw [hm]
      have hpos := stmt.rank_pos s.pAmx.length
      cases place with
      | none =>
          simp only [MainPc.after, MainPc.remaining]
          omega
      | some place =>
          have hrank := hd.rank rfl
          simp only [MainPc.after, MainPc.remaining]
          omega

/-- A scan of `QueryThread` is never stuck before its end. -/
theorem WorkerReady.next (hs : s.WorkerReady) (hend : ¬ s.WorkerAtEnd) (lib : Answers) :
    ∃ s' es, s.step (.worker lib) = .next s' es := by
  cases hstep : s.step (.worker lib) with
  | next s' es => exact ⟨s', es, rfl⟩
  | disabled =>
      simp only [System.step, stepWorker, perform] at hstep
      split at hstep
      · split at hstep
        · split at hstep <;> cases hstep
        · simp at hstep
      · split at hstep <;> cases hstep
  | fault f =>
      obtain ⟨i, hw, hi, -⟩ := worker_faults_at_head hs.sound hs.connected hstep
      exact absurd ⟨i, hw, fun h => absurd h (not_lt.2 hi)⟩ hend

theorem TickReady.next (hs : s.TickReady) (hend : ¬ s.TickAtEnd) :
    ∃ s' es, s.step .tick = .next s' es := by
  cases hstep : s.step .tick with
  | next s' es => exact ⟨s', es, rfl⟩
  | disabled =>
      simp only [System.step, stepTick, perform] at hstep
      split at hstep
      · simp at hstep
      · split at hstep
        · split at hstep <;> cases hstep
        · simp at hstep
      · split at hstep <;> cases hstep
  | fault f =>
      obtain ⟨i, hm, hi, -⟩ := tick_faults_at_head hs.sound hstep
      exact absurd ⟨i, hm, fun h => absurd h (not_lt.2 hi)⟩ hend

theorem worker_completes (hs : s.WorkerReady) :
    ∃ tr s', (plugin N).Run WorkerScan s tr s' ∧ s'.WorkerAtEnd := by
  refine Lts.exists_run_of_measure (J := WorkerReady) (fun s => s.worker.remaining)
    (fun s hs hend => ?_) hs
  obtain ⟨s', es, hstep⟩ := hs.next hend {}
  exact ⟨.worker {}, es, s', ⟨⟨{}, rfl⟩, hend⟩, hstep, hs.step hstep,
    (workerMove_of_step hstep).remaining hend⟩

theorem tick_completes (hs : s.TickReady) :
    ∃ tr s', (plugin N).Run TickScan s tr s' ∧ s'.TickAtEnd := by
  refine Lts.exists_run_of_measure (J := TickReady) (fun s => s.main.remaining s.pAmx.length)
    (fun s hs hend => ?_) hs
  obtain ⟨s', es, hstep⟩ := hs.next hend
  exact ⟨.tick, es, s', ⟨rfl, hend⟩, hstep, hs.step hend hstep,
    (tickMove_of_step hstep).remaining hend hs⟩

/-! ## Which handles a scan comes to -/

/-- A scan of `QueryThread` comes to its end, and every scan that did has examined every object of the
    table, and executed the front of its queue if that was waiting. -/
def WorkerCovers (s : System N) : Prop :=
  (∃ tr s', (plugin N).Run WorkerScan s tr s' ∧ s'.WorkerAtEnd) ∧
    ∀ tr s', (plugin N).Run WorkerScan s tr s' → s'.WorkerAtEnd → ∀ h o, s.my h = some o →
      .examined .worker o.conn ∈ tr ∧
        ∀ q rest, o.queryQueue = q :: rest → o.parsing = false →
          ∃ code rows, .executed o.conn q code rows ∈ tr

/-- The same for `ProcessTick`, which delivers the front of a `threadQueue` that is ready. -/
def TickCovers (s : System N) : Prop :=
  (∃ tr s', (plugin N).Run TickScan s tr s' ∧ s'.TickAtEnd) ∧
    ∀ tr s', (plugin N).Run TickScan s tr s' → s'.TickAtEnd → ∀ h o, s.my h = some o →
      .examined .main o.conn ∈ tr ∧
        ∀ t rest, o.threadQueue = t :: rest → o.parsing = true → .delivered o.conn t ∈ tr

/-- An object a scan did something for lies below the stop. -/
theorem below_stop {B : Type} {During : MySQL → List Event → B → MySQL → Prop}
    {Served : MySQL → List Event → Prop} (hown : Owned tr s)
    (habout : ∀ {o L}, Served o L → ∀ e ∈ L, e.about = some o.conn) {h : Fin N} {o : MySQL}
    (ho : s.my h = some o) {tr' : List Event} {tb : Fin N → Option MySQL} {i : ℕ}
    (hv : Scan.Scanned During Served s.my tr' ⟨tb, .head i⟩) {e : Event} (he : e ∈ tr')
    (hec : e.about = some o.conn) : h < Scan.stop s.my := by
  obtain ⟨k, o', L, hk, ho', hserved, hmem⟩ := hv.only_end he
  have hconn : o.conn = o'.conn := Option.some.inj (hec.symm.trans (habout hserved e hmem))
  rwa [hown.slot_unique ho ho' hconn]

/-- If a scan that came to its end examined every object, no `NULL` slot lies below one. -/
theorem noGap_of_examined {B : Type} {During : MySQL → List Event → B → MySQL → Prop}
    {Served : MySQL → List Event → Prop} (hown : Owned tr s)
    (habout : ∀ {o L}, Served o L → ∀ e ∈ L, e.about = some o.conn) {loop : Thread}
    {tr' : List Event} {tb : Fin N → Option MySQL} {i : ℕ}
    (hv : Scan.Scanned During Served s.my (history tr') ⟨tb, .head i⟩)
    (hall : ∀ h o, s.my h = some o → .examined loop o.conn ∈ tr') : Scan.NoGap s.my := by
  refine Scan.noGap_iff.2 fun h hsome => ?_
  obtain ⟨o, ho⟩ := Option.isSome_iff_exists.1 hsome
  exact below_stop hown habout ho hv ((mem_history rfl).2 (hall h o ho)) rfl

theorem worker_covers_iff {P : System N → Action → Prop} (hrun : (plugin N).Reach P tr s)
    (hworker : s.worker = .scan 0) : s.WorkerCovers ↔ Scan.NoGap s.my := by
  have hcompletes := worker_completes (workerReady_of_scan hrun hworker)
  constructor
  · rintro ⟨⟨tr', s', hscan, hend⟩, hall⟩
    have hexamined := fun h o ho => (hall tr' s' hscan hend h o ho).1
    obtain ⟨i, hi, -⟩ := hend
    have hv := worker_scanned hworker hscan
    rw [workerView, hi] at hv
    exact noGap_of_examined (owned_reach hrun) (fun hs => hs.about) hv hexamined
  · refine fun hgap => ⟨hcompletes, fun tr' s' hscan hend h o ho => ?_⟩
    obtain ⟨i, hi, hfree⟩ := hend
    have hv := worker_scanned hworker hscan
    rw [workerView, hi] at hv
    obtain ⟨L, hserved, hsub⟩ := hv.covers_end hfree hgap ho
    refine ⟨(mem_history rfl).1 (hsub hserved.examined), fun q rest hq hp => ?_⟩
    obtain ⟨code, rows, hmem⟩ := hserved.executed q rest hq hp
    exact ⟨code, rows, (mem_history rfl).1 (hsub hmem)⟩

theorem tick_covers_iff {P : System N → Action → Prop} (hrun : (plugin N).Reach P tr s)
    (hmain : s.main = .scan 0) : s.TickCovers ↔ Scan.NoGap s.my := by
  have hcompletes := tick_completes (tickReady_of_scan hmain)
  constructor
  · rintro ⟨⟨tr', s', hscan, hend⟩, hall⟩
    have hexamined := fun h o ho => (hall tr' s' hscan hend h o ho).1
    obtain ⟨i, hi, -⟩ := hend
    have hv := tick_scanned hmain hscan
    rw [tickView, hi] at hv
    exact noGap_of_examined (owned_reach hrun) (fun hs => hs.about) hv hexamined
  · refine fun hgap => ⟨hcompletes, fun tr' s' hscan hend h o ho => ?_⟩
    obtain ⟨i, hi, hfree⟩ := hend
    have hv := tick_scanned hmain hscan
    rw [tickView, hi] at hv
    obtain ⟨L, hserved, hsub⟩ := hv.covers_end hfree hgap ho
    refine ⟨(mem_history rfl).1 (hsub hserved.examined), fun t rest hq hp => ?_⟩
    exact (mem_history rfl).1 (hsub (hserved.delivered t rest hq hp))

/-- **A scan comes to every handle in use exactly when no `NULL` slot lies below one.** -/
theorem scans_cover_iff (hrun : (plugin N).Reach (fun _ _ => True) tr s) :
    (s.worker = .scan 0 → (s.WorkerCovers ↔ Scan.NoGap s.my)) ∧
      (s.main = .scan 0 → (s.TickCovers ↔ Scan.NoGap s.my)) :=
  ⟨worker_covers_iff hrun, tick_covers_iff hrun⟩

/-- One connection with a query that waits, and a free slot after it. -/
def oneWaiting : List Action :=
  [Script.mysql_init, Script.mysql_connect 0, Script.mysql_query 7 5 0]

theorem scan_covers_one :
    ∃ s : System 2, s.WorkerCovers ∧ (s.my 0).map (fun o => o.queryQueue.length) = some 1 := by
  obtain ⟨tr, s, hrun, hview⟩ := Machine.exists_run_of_exec (M := plugin 2)
    (P := fun _ _ => True)
    (f := fun r => (r.1.worker, (r.1.my 0).map (fun o => o.queryQueue.length), r.1.my 1))
    (show Option.map _ ((plugin 2).exec oneWaiting System.initial) = some (.scan 0, some 1, none)
      from rfl)
    (Machine.obeys_all _ _)
  obtain ⟨hworker, hlength, hfree⟩ : s.worker = .scan 0 ∧ _ ∧ s.my 1 = none := by
    simpa only [Prod.mk.injEq] using hview
  refine ⟨s, ((scans_cover_iff hrun).1 hworker).2 fun i j hij _ => ?_, hlength⟩
  have hj : j = 1 := by omega
  rw [hj, hfree]

/-- Two connections, the second with a query that waits; then the first is closed. -/
def lowerClosed : List Action :=
  [Script.mysql_init, Script.mysql_connect 0, Script.mysql_init, Script.mysql_connect 1,
    Script.mysql_query 7 5 1, Script.mysql_close 0]

/-- The scan ends at the closed handle, before it comes to the one in use. -/
theorem scan_misses_handle :
    ¬ ∀ (N : ℕ) (tr : List Event) (s : System N), (plugin N).Reach (fun _ _ => True) tr s →
      (s.worker = .scan 0 → s.WorkerCovers) ∧ (s.main = .scan 0 → s.TickCovers) := by
  intro hall
  obtain ⟨tr, s, hrun, hview⟩ := Machine.exists_run_of_exec (M := plugin 2)
    (P := fun _ _ => True) (f := fun r => (r.1.worker, r.1.my 0, (r.1.my 1).isSome))
    (show Option.map _ ((plugin 2).exec lowerClosed System.initial) = some (.scan 0, none, true)
      from rfl)
    (Machine.obeys_all _ _)
  obtain ⟨hworker, hfree, hsome⟩ : s.worker = .scan 0 ∧ s.my 0 = none ∧ (s.my 1).isSome = true := by
    simpa only [Prod.mk.injEq] using hview
  have hgap := (worker_covers_iff hrun hworker).1 ((hall 2 tr s hrun).1 hworker)
  rw [hgap 0 1 (by decide) hfree] at hsome
  simp at hsome

/-! ## Whether a scan stays inside the table -/

/-- Wherever a scan of `QueryThread` is, its next step does not read past the table, and it can go on
    to a `NULL` slot, where it ends. -/
def WorkerStaysInside (s : System N) : Prop :=
  ∀ tr s', (plugin N).Run WorkerScan s tr s' →
    (∀ lib i, s'.step (.worker lib) ≠ .fault (.outOfRange i)) ∧
      ∃ tr' s'', (plugin N).Run WorkerScan s' tr' s'' ∧
        ∃ i : Fin N, s''.worker = .scan i ∧ s''.my i = none

def TickStaysInside (s : System N) : Prop :=
  ∀ tr s', (plugin N).Run TickScan s tr s' →
    (∀ i, s'.step .tick ≠ .fault (.outOfRange i)) ∧
      ∃ tr' s'', (plugin N).Run TickScan s' tr' s'' ∧
        ∃ i : Fin N, s''.main = .scan i ∧ s''.my i = none

theorem worker_stays_inside_iff {P : System N → Action → Prop} (hrun : (plugin N).Reach P tr s)
    (hworker : s.worker = .scan 0) : s.WorkerStaysInside ↔ ∃ h, s.my h = none := by
  constructor
  · intro hinside
    obtain ⟨tr', s', hscan, i, hi, hfree⟩ := (hinside [] s .refl).2
    have hv := worker_scanned hworker hscan
    rw [workerView, hi] at hv
    rw [← Scan.stop_lt_iff, ← hv.head_eq_stop fun _ => hfree]
    exact i.isLt
  · intro hfree tr' s' hscan
    have hlt : ∀ {tr₁ s₁} {i : ℕ}, (plugin N).Run WorkerScan s tr₁ s₁ → s₁.worker = .scan i →
        i < N := by
      intro tr₁ s₁ i hscan₁ hi
      have hv := worker_scanned hworker hscan₁
      rw [workerView, hi] at hv
      exact lt_of_le_of_lt hv.head_le_stop (Scan.stop_lt_iff.2 hfree)
    have hready : s'.WorkerReady := hscan.invariant (I := WorkerReady)
      (fun _ _ _ _ hs ⟨⟨_, ha⟩, _⟩ hstep => by subst ha; exact hs.step hstep)
      (workerReady_of_scan hrun hworker)
    refine ⟨fun lib j hf => ?_, ?_⟩
    · obtain ⟨i, hi, hle, -⟩ := worker_faults_at_head hready.sound hready.connected hf
      exact absurd (hlt hscan hi) (not_lt.2 hle)
    · obtain ⟨tr'', s'', hscan', i, hi, hend⟩ := worker_completes hready
      have hi' := hlt (hscan.trans hscan') hi
      exact ⟨tr'', s'', hscan', ⟨i, hi'⟩, hi, hend hi'⟩

theorem tick_stays_inside_iff (hmain : s.main = .scan 0) :
    s.TickStaysInside ↔ ∃ h, s.my h = none := by
  constructor
  · intro hinside
    obtain ⟨tr', s', hscan, i, hi, hfree⟩ := (hinside [] s .refl).2
    have hv := tick_scanned hmain hscan
    rw [tickView, hi] at hv
    rw [← Scan.stop_lt_iff, ← hv.head_eq_stop fun _ => hfree]
    exact i.isLt
  · intro hfree tr' s' hscan
    have hlt : ∀ {tr₁ s₁} {i : ℕ}, (plugin N).Run TickScan s tr₁ s₁ → s₁.main = .scan i →
        i < N := by
      intro tr₁ s₁ i hscan₁ hi
      have hv := tick_scanned hmain hscan₁
      rw [tickView, hi] at hv
      exact lt_of_le_of_lt hv.head_le_stop (Scan.stop_lt_iff.2 hfree)
    have hready : s'.TickReady := hscan.invariant (I := TickReady)
      (fun _ _ _ _ hs ⟨ha, hend⟩ hstep => by subst ha; exact hs.step hend hstep)
      (tickReady_of_scan hmain)
    refine ⟨fun j hf => ?_, ?_⟩
    · obtain ⟨i, hi, hle, -⟩ := tick_faults_at_head hready.sound hf
      exact absurd (hlt hscan hi) (not_lt.2 hle)
    · obtain ⟨tr'', s'', hscan', i, hi, hend⟩ := tick_completes hready
      have hi' := hlt (hscan.trans hscan') hi
      exact ⟨tr'', s'', hscan', ⟨i, hi'⟩, hi, hend hi'⟩

/-- **A scan stays inside the table exactly when some slot is `NULL`.** -/
theorem scans_stay_inside_iff (hrun : (plugin N).Reach (fun _ _ => True) tr s) :
    (s.worker = .scan 0 → (s.WorkerStaysInside ↔ ∃ h, s.my h = none)) ∧
      (s.main = .scan 0 → (s.TickStaysInside ↔ ∃ h, s.my h = none)) :=
  ⟨worker_stays_inside_iff hrun, tick_stays_inside_iff⟩

theorem scan_stays_inside_one :
    ∃ s : System 2, s.WorkerStaysInside ∧ (s.my 0).isSome = true := by
  obtain ⟨tr, s, hrun, hview⟩ := Machine.exists_run_of_exec (M := plugin 2)
    (P := fun _ _ => True) (f := fun r => (r.1.worker, (r.1.my 0).isSome, r.1.my 1))
    (show Option.map _ ((plugin 2).exec oneWaiting System.initial) = some (.scan 0, true, none)
      from rfl)
    (Machine.obeys_all _ _)
  obtain ⟨hworker, hsome, hfree⟩ : s.worker = .scan 0 ∧ (s.my 0).isSome = true ∧ s.my 1 = none := by
    simpa only [Prod.mk.injEq] using hview
  exact ⟨s, ((scans_stay_inside_iff hrun).1 hworker).2 ⟨1, hfree⟩, hsome⟩

/-- Every slot of the table as it is built is taken: the scan reads past it. -/
theorem scan_of_full_table :
    ¬ ∀ (N : ℕ) (tr : List Event) (s : System N), 1 ≤ N →
      (plugin N).Reach (fun _ _ => True) tr s →
        (s.worker = .scan 0 → s.WorkerStaysInside) ∧ (s.main = .scan 0 → s.TickStaysInside) := by
  intro hall
  obtain ⟨tr, s, hrun, hview⟩ := Machine.exists_run_of_exec (M := plugin MAX_CONNECTIONS)
    (P := fun _ _ => True)
    (f := fun r => (r.1.worker, (List.finRange _).all fun h => (r.1.my h).isSome))
    (show Option.map _ ((plugin MAX_CONNECTIONS).exec (List.replicate MAX_CONNECTIONS
      Script.mysql_init) System.initial) = some (.scan 0, true) from rfl)
    (Machine.obeys_all _ _)
  obtain ⟨hworker, hfull⟩ := Prod.mk.inj hview
  obtain ⟨h, hfree⟩ := (worker_stays_inside_iff hrun hworker).1
    ((hall _ tr s (by decide) hrun).1 hworker)
  have hsome := List.all_eq_true.1 hfull h (List.mem_finRange h)
  rw [hfree] at hsome
  simp at hsome

end System
end MysqlPlugin
