import MysqlPlugin.Iteration
import MysqlPlugin.Lib.Mailbox

set_option autoImplicit false

/-! # The handshake over `parsing` and `threadQueue`

`parsing` and `threadQueue` of an object are a mailbox guarded by a flag (`Lib/Mailbox.lean`), with the
query thread as its producer and `ProcessTick` as its consumer. Neither thread updates flag and box
together, and the worker pops its own queue only after the result is already visible to the other
thread; still every step of the plugin is a step of the mailbox, or none of its business
(`Slot.Step.follows`). What holds in every phase of the mailbox holds in every state of every run. -/

namespace MysqlPlugin

open Mailbox

/-- What the worker's place means for the mailbox. -/
def WorkerStmt.role : WorkerStmt → Producer
  | .test | .callError _ | .inError _ | .logResult _ | .pop _ => .away
  | .push _ _ => .putting
  | .submit _ | .executing _ _ | .logExecuted _ | .branch _ | .setParsing _ _ => .working
  | .clearParsing _ => .working

/-- What the place of `ProcessTick` means for the mailbox. -/
def TickStmt.role : TickStmt → Consumer
  | .test => .away
  | .each _ _ | .inCallback _ _ _ | .pop _ => .working
  | .clear _ => .lowering

namespace Slot

def producer (worker : Option (ℕ × WorkerStmt)) : Producer :=
  (worker.map (fun place => place.2.role)).getD .away

def consumer (tick : Option (ℕ × TickStmt)) : Consumer :=
  (tick.map (fun place => place.2.role)).getD .away

/-- An object and the two threads look like the mailbox in phase `p`. -/
structure Shakes (o : MySQL) (worker : Option (ℕ × WorkerStmt)) (tick : Option (ℕ × TickStmt))
    (p : Phase ThreadInfo) : Prop where
  flag : o.parsing = p.flag
  box : o.threadQueue = p.box
  producer : producer worker = p.producer
  consumer : consumer tick = p.consumer

/-- The slot looks like the mailbox in phase `p`; an empty slot like a free one no thread is at. -/
def Follows (v : Slot) (p : Phase ThreadInfo) : Prop :=
  match v.object with
  | none => v.worker = none ∧ v.tick = none ∧ p = .free
  | some o => Shakes o v.worker v.tick p

/-- A statement of the worker takes the mailbox one step on, or leaves it alone. -/
theorem Shakes.worker {lib : Answers} {src : ℕ} {o o' : MySQL} {stmt : WorkerStmt}
    {es : List Event} {place : Option (ℕ × WorkerStmt)} {tick : Option (ℕ × TickStmt)}
    {p : Phase ThreadInfo} (hs : Shakes o (some (src, stmt)) tick p)
    (hd : stmt.Does lib src o es o' place) :
    ∃ p', (p' = p ∨ p.Step p') ∧ Shakes o' place tick p' := by
  obtain ⟨hflag, hbox, hprod, hcons⟩ := hs
  cases hd with
  | skip | report | returned | logResult | pop => exact ⟨p, .inl rfl, hflag, hbox, hprod, hcons⟩
  | copy q rest hq hp =>
      -- the only place where the worker looks at the flag
      obtain rfl : p = .free := Phase.eq_free hprod.symm (hflag.symm.trans hp)
      exact ⟨.producing, .inr .start, hflag, hbox, rfl, hcons⟩
  | submit | answer | logExecuted | succeeded | failed =>
      exact ⟨p, .inl rfl, hflag, hbox, hprod, hcons⟩
  | setParsing q t =>
      obtain rfl : p = .producing := Phase.eq_producing hprod.symm
      exact ⟨.raised, .inr .raise, rfl, hbox, rfl, hcons⟩
  | push q t =>
      obtain rfl : p = .raised := Phase.eq_raised hprod.symm
      exact ⟨.full t, .inr (.put t), hflag, congrArg (· ++ [t]) hbox, rfl, hcons⟩
  | clearParsing q =>
      obtain rfl : p = .producing := Phase.eq_producing hprod.symm
      exact ⟨.free, .inr .abort, rfl, hbox, rfl, hcons⟩

/-- A statement of `ProcessTick` takes the mailbox one step on, or leaves it alone. -/
theorem Shakes.tick {pAmx : List AMX} {src : ℕ} {o : MySQL} {v' : Option MySQL} {stmt : TickStmt}
    {es : List Event} {place : Option (ℕ × TickStmt)} {worker : Option (ℕ × WorkerStmt)}
    {p : Phase ThreadInfo} (hs : Shakes o worker (some (src, stmt)) p)
    (hd : stmt.Does pAmx src (some o) es v' place) :
    ∃ o' p', v' = some o' ∧ (p' = p ∨ p.Step p') ∧ Shakes o' worker place p' := by
  obtain ⟨hflag, hbox, hprod, hcons⟩ := hs
  cases hd with
  | skip | done | pass | exec | returned =>
      exact ⟨o, p, rfl, .inl rfl, hflag, hbox, hprod, hcons⟩
  | take _ t rest hq hp =>
      obtain rfl : p = .full t := Phase.eq_full hcons.symm (hbox.symm.trans hq)
      exact ⟨o, .consuming t, rfl, .inr (.take t), hflag, hbox, hprod, rfl⟩
  | pop _ t front rest hq =>
      obtain ⟨b, rfl⟩ := Phase.eq_consuming hcons.symm
      obtain ⟨-, rfl⟩ := List.cons.inj (hq.symm.trans hbox)
      exact ⟨_, .emptied, rfl, .inr (.remove b), hflag, rfl, hprod, rfl⟩
  | clear _ t =>
      obtain rfl : p = .emptied := Phase.eq_emptied hcons.symm
      exact ⟨_, .free, rfl, .inr .lower, rfl, hbox, hprod, rfl⟩

/-- **Every step of the plugin is a step of the mailbox**, or leaves it alone, unless it closes the
    slot under one of the two threads. -/
theorem Step.follows {h : ℕ} {a : Action} {v v' : Slot} {hs : List Event} {p : Phase ThreadInfo}
    (hstep : Step h a v hs v') (hquiet : v.ClosesQuietly h a) (hf : v.Follows p) :
    ∃ p', (p' = p ∨ p.Step p') ∧ v'.Follows p' := by
  cases hstep with
  | other _ _ hsame =>
      refine ⟨p, .inl rfl, ?_⟩
      unfold Follows at *
      rwa [hsame.object, hsame.worker, hsame.tick]
  | workerEnter lib ha o t n => exact ⟨p, .inl rfl, hf.flag, hf.box, hf.producer, hf.consumer⟩
  | worker lib ha o o' src stmt place hs t n hd => exact Shakes.worker hf hd
  | tickEnter ha o w n => exact ⟨p, .inl rfl, hf.flag, hf.box, hf.producer, hf.consumer⟩
  | tick ha pAmx v₀ v₁ src stmt place hs w n hd =>
      cases v₀ with
      | none => cases hf.2.1
      | some o =>
          obtain ⟨o', p', rfl, hp, hf'⟩ := Shakes.tick hf hd
          exact ⟨p', hp, hf'⟩
  | native thread name amx params lib ha hh o o' es w t hr n n' hn hc =>
      obtain ⟨hflag, hbox⟩ := hc.handOver
      exact ⟨p, .inl rfl, hflag.trans hf.flag, hbox.trans hf.box, hf.producer, hf.consumer⟩
  | opened thread amx params lib ha env log print w t hr n n' hn =>
      obtain ⟨hw, ht, rfl⟩ := hf
      cases hw
      cases ht
      exact ⟨.free, .inl rfl, rfl, rfl, rfl, rfl⟩
  | closed thread amx params lib ha hp hh o hconn w t hr n n' hn =>
      obtain rfl : w = none := hquiet.1 ⟨thread, amx, params, lib, ha, hp, hh, hconn⟩
      obtain rfl : t = none := hquiet.2 ⟨thread, amx, params, lib, ha, hp, hh, hconn⟩
      -- with both threads elsewhere there is at most a message waiting, and it is thrown away
      rcases Phase.free_or_full hf.producer.symm hf.consumer.symm with rfl | ⟨b, rfl⟩
      · exact ⟨.free, .inl rfl, rfl, rfl, rfl⟩
      · exact ⟨.free, .inr (.discard b), rfl, rfl, rfl⟩

/-- In every run that closes the slot quietly, the slot looks like some phase of the mailbox. -/
theorem follows_run {h : ℕ} {P : Slot → Action → Prop} {v : Slot} {hs : List Event}
    (hP : ∀ v a, P v a → v.ClosesQuietly h a) (hrun : (lts h).Run P initial hs v) :
    ∃ p, v.Follows p := by
  refine hrun.invariant (I := fun v => ∃ p, v.Follows p) ?_ ⟨.free, rfl, rfl, rfl⟩
  rintro v a es v' ⟨p, hp⟩ hPa hstep
  obtain ⟨p', -, hp'⟩ := Step.follows hstep (hP _ _ hPa) hp
  exact ⟨p', hp'⟩

end Slot

/-! ## The handshake in the plugin -/

namespace System

variable {N : ℕ} {h : Fin N} {s : System N} {tr : List Event}

/-- What the handshake promises of handle `h` in a state. -/
structure Handshake (s : System N) (h : Fin N) : Prop where
  /-- At most one entry waits for delivery ... -/
  one : ∀ o, s.my h = some o → o.threadQueue.length ≤ 1
  /-- ... and only while `parsing` is set. -/
  flagged : ∀ o, s.my h = some o → o.threadQueue ≠ [] → o.parsing = true
  /-- The worker submits a query only while no entry waits. -/
  submits : ∀ o src q c, s.my h = some o →
    s.worker = .body h src (.submit q) ∨ s.worker = .body h src (.executing q c) →
      o.threadQueue = []
  /-- While neither thread is in its body, `parsing` says whether an entry waits. -/
  settled : ∀ o, s.my h = some o → s.worker.place h = none → s.main.place h = none →
    (o.parsing = true ↔ ∃ t, o.threadQueue = [t])
  /-- No statement of either loop pops an empty queue. -/
  workerPops : ∀ lib, s.step (.worker lib) ≠ .fault (.emptyPop h)
  tickPops : s.step .tick ≠ .fault (.emptyPop h)

theorem worker_place {src : ℕ} {stmt : WorkerStmt} (hw : s.worker = .body h src stmt) :
    (s.slot h).worker = some (src, stmt) := by
  show s.worker.place h = _
  rw [hw, WorkerPc.place_body]

theorem main_place {src : ℕ} {stmt : TickStmt} (hm : s.main = .body h src stmt) :
    (s.slot h).tick = some (src, stmt) := by
  show s.main.place h = _
  rw [hm, MainPc.place_body]

/-- A worker that stands soundly in the body of its loop goes on: the object is there, what it submits
    has a connection, and what it pops is still queued. -/
theorem worker_body_ok (hs : (s.slot h).WorkerSound) (hconn : (s.slot h).Connected) {src : ℕ}
    {stmt : WorkerStmt} (hw : s.worker = .body h src stmt) (lib : Answers) (f : Fault) :
    s.step (.worker lib) ≠ .fault f := by
  intro hf
  obtain ⟨o, ho, hsound⟩ := hs src stmt (worker_place hw)
  rcases worker_faults hf with ⟨i, hscan, -⟩ | ⟨k, src', stmt', hw', hcase⟩
  · simp [hw] at hscan
  obtain ⟨rfl, rfl, rfl⟩ := WorkerPc.body.inj (hw.symm.trans hw')
  have hqueue : ∀ q, stmt.held = some q → o.queryQueue ≠ [] := by
    intro q hq hnil
    have hfront := hsound.front q hq
    simp [hnil] at hfront
  rcases hcase with ⟨hnone, -⟩ | ⟨o', ho', hcase⟩
  · exact absurd (hnone.symm.trans ho) (by simp)
  obtain rfl : o = o' := Option.some.inj (ho.symm.trans ho')
  rcases hcase with ⟨q, rfl, hmysql, -⟩ | ⟨q, rfl, hempty, -⟩
  · -- only connections have something queued
    have hsome := hconn o ho (hqueue q rfl)
    simp [hmysql] at hsome
  · exact hqueue q rfl hempty

/-- The same for `ProcessTick`. -/
theorem tick_body_ok (hs : (s.slot h).TickSound) {src : ℕ} {stmt : TickStmt}
    (hm : s.main = .body h src stmt) (f : Fault) : s.step .tick ≠ .fault f := by
  intro hf
  obtain ⟨o, ho, hsound⟩ := hs src stmt (main_place hm)
  rcases tick_faults hf with ⟨i, hscan, -⟩ | ⟨k, src', stmt', hm', hcase⟩
  · simp [hm] at hscan
  obtain ⟨rfl, rfl, rfl⟩ := MainPc.body.inj (hm.symm.trans hm')
  rcases hcase with ⟨hnone, -, -⟩ | ⟨t, o', rfl, ho', hempty, -⟩
  · exact absurd (hnone.symm.trans ho) (by simp)
  · obtain rfl : o = o' := Option.some.inj (ho.symm.trans ho')
    obtain ⟨front, hfront, -⟩ := hsound.front t rfl
    simp [hempty] at hfront

theorem workerPops_of_sound (hs : (s.slot h).WorkerSound) (hconn : (s.slot h).Connected)
    (lib : Answers) : s.step (.worker lib) ≠ .fault (.emptyPop h) := by
  intro hf
  rcases worker_faults hf with ⟨i, -, -, hfault⟩ | ⟨k, src, stmt, hw, hcase⟩
  · simp at hfault
  rcases hcase with ⟨-, hfault⟩ | ⟨o, -, ⟨q, -, -, hfault⟩ | ⟨q, -, -, hfault⟩⟩
  · simp at hfault
  · simp at hfault
  · obtain rfl : h = k := Fin.ext (Fault.emptyPop.inj hfault)
    exact worker_body_ok hs hconn hw lib _ hf

theorem tickPops_of_sound (hs : (s.slot h).TickSound) : s.step .tick ≠ .fault (.emptyPop h) := by
  intro hf
  rcases tick_faults hf with ⟨i, -, -, hfault⟩ | ⟨k, src, stmt, hm, hcase⟩
  · simp at hfault
  rcases hcase with ⟨-, -, hfault⟩ | ⟨t, o, -, -, -, hfault⟩
  · simp at hfault
  · obtain rfl : h = k := Fin.ext (Fault.emptyPop.inj hfault)
    exact tick_body_ok hs hm _ hf

/-- **The handshake holds in every state of every run** in which the handle is not closed under a
    thread that is in its body for it; in particular as long as it is not closed at all. -/
theorem handshake (hrun : (plugin N).Reach (fun s a => (s.slot h).ClosesQuietly h a) tr s) :
    s.Handshake h := by
  obtain ⟨hs, hslot, -, -⟩ := slot_reach hrun
  have hworker := Slot.workerSound_run (fun _ _ hq => hq.1) hslot
  have htick := Slot.tickSound_run (fun _ _ hq => hq.2) hslot
  obtain ⟨p, hp⟩ := Slot.follows_run (fun _ _ hq => hq) hslot
  have hshakes : ∀ o, s.my h = some o → Slot.Shakes o (s.worker.place h) (s.main.place h) p := by
    intro o ho
    simpa only [Slot.Follows, slot, ho] using hp
  refine ⟨fun o ho => ?_, fun o ho hbox => ?_, fun o src q c ho hw => ?_, fun o ho hw hm => ?_,
    workerPops_of_sound hworker (Slot.connected_run hslot), tickPops_of_sound htick⟩
  · rw [(hshakes o ho).box]
    exact Phase.box_length_le_one p
  · rw [(hshakes o ho).flag]
    exact Phase.flag_of_box ((hshakes o ho).box ▸ hbox)
  · rw [(hshakes o ho).box]
    refine Phase.box_of_working ((hshakes o ho).producer.symm.trans ?_)
    rcases hw with hw | hw <;> rw [hw, WorkerPc.place_body] <;> rfl
  · have hsh := hshakes o ho
    rw [hsh.flag, hsh.box]
    refine Phase.flag_iff (hsh.producer.symm.trans ?_) (hsh.consumer.symm.trans ?_)
    · rw [hw]
      rfl
    · rw [hm]
      rfl

/-- A threaded query on a fresh connection, up to the moment the worker has put the result into
    `threadQueue` and before it pops its own queue. -/
theorem handshake_after_push :
    ∃ s : System 1, s.Handshake 0 ∧ (s.worker.place 0).isSome = true ∧
      (s.my 0).map (fun o => o.threadQueue.length) = some 1 := by
  obtain ⟨tr, s, hrun, hview⟩ := Machine.exists_run_of_exec (M := plugin 1)
    (P := fun s a => (s.slot 0).ClosesQuietly (0 : Fin 1) a)
    (f := fun r => ((r.1.worker.place 0).isSome, (r.1.my 0).map (fun o => o.threadQueue.length)))
    (show Option.map _ ((plugin 1).exec ([Script.mysql_init, Script.mysql_connect 0,
      Script.mysql_query 7 5 0] ++ Script.work 8) System.initial) = some (true, some 1) from rfl)
    (Machine.obeys_of_check (p := fun _ a => !a.isClose) rfl fun _ _ ha =>
      Slot.closesQuietly_of_not_close (by simpa using ha))
  exact ⟨s, handshake hrun, congrArg Prod.fst hview, congrArg Prod.snd hview⟩

end System
end MysqlPlugin
