import MysqlPlugin.Slot

set_option autoImplicit false

/-! # One iteration, one object

Both loops evaluate `my[ handle ]` anew in every statement. As long as the slot is not closed under
them, that makes no difference: the object a thread works on is the one whose queue front it copied,
and the front is still there (`Slot.workerSound_run`, `Slot.tickSound_run`). The two disciplines say
when a slot is closed under a thread: while the thread stands in its body for the slot. -/

namespace MysqlPlugin

open Natives

/-! ## Closing -/

namespace Slot

/-- The action is a `mysql_close` that closes slot `h`. -/
def Closes (h : ℕ) (v : Slot) (a : Action) : Prop :=
  ∃ thread amx params lib, a = .native thread .mysql_close amx params lib ∧
    param params 0 = cellSize ∧ param params 1 = (h : ℤ) ∧ isConnected v.object = true

/-- The slot is not closed while the worker is in its body for it. -/
def SparesWorker (h : ℕ) (v : Slot) (a : Action) : Prop := v.Closes h a → v.worker = none

/-- The slot is not closed while `ProcessTick` is in its body for it. -/
def SparesTick (h : ℕ) (v : Slot) (a : Action) : Prop := v.Closes h a → v.tick = none

/-- The slot is not closed while a thread is in its body for it. -/
def ClosesQuietly (h : ℕ) (v : Slot) (a : Action) : Prop := v.SparesWorker h a ∧ v.SparesTick h a

theorem not_closes {h : ℕ} {v : Slot} {a : Action} (ha : a.isClose = false) : ¬ v.Closes h a := by
  rintro ⟨thread, amx, params, lib, rfl, -⟩
  cases ha

theorem closesQuietly_of_not_close {h : ℕ} {v : Slot} {a : Action} (ha : a.isClose = false) :
    v.ClosesQuietly h a :=
  ⟨fun hc => absurd hc (not_closes ha), fun hc => absurd hc (not_closes ha)⟩

end Slot

/-! ## What the statements keep -/

theorem MySQL.Change.queries {name : NativeName} {params : List Cell} {lib : Answers}
    {o o' : MySQL} {es : List Event} (hc : o.Change name params lib es o') :
    ∃ more, o'.queryQueue = o.queryQueue ++ more := by
  cases hc with
  | observed h => exact ⟨[], by rw [h.same, List.append_nil]⟩
  | accepted q => exact ⟨[q], rfl⟩
  | connected | executed | stored | freed => exact ⟨[], (List.append_nil _).symm⟩

/-- No native touches the hand-over. -/
theorem MySQL.Change.handOver {name : NativeName} {params : List Cell} {lib : Answers}
    {o o' : MySQL} {es : List Event} (hc : o.Change name params lib es o') :
    o'.parsing = o.parsing ∧ o'.threadQueue = o.threadQueue := by
  cases hc with
  | observed h => exact ⟨by rw [h.same], by rw [h.same]⟩
  | connected | accepted | executed | stored | freed => exact ⟨rfl, rfl⟩

/-- A connection object stays one. -/
theorem MySQL.Change.isSome {name : NativeName} {params : List Cell} {lib : Answers}
    {o o' : MySQL} {es : List Event} (hc : o.Change name params lib es o') :
    o'.mysql.isSome = o.mysql.isSome := by
  cases hc with
  | observed h => rw [h.same]
  | executed | stored => exact Option.isSome_map
  | connected | accepted | freed => rfl

theorem TickStmt.Does.queries {pAmx : List AMX} {src : ℕ} {v v' : Option MySQL} {stmt : TickStmt}
    {es : List Event} {place : Option (ℕ × TickStmt)} (hd : stmt.Does pAmx src v es v' place)
    {o' : MySQL} (ho : v' = some o') :
    ∃ o, v = some o ∧ o'.conn = o.conn ∧ o'.queryQueue = o.queryQueue ∧ o'.mysql = o.mysql := by
  cases hd with
  | skip | take | returned | pop | clear =>
      cases ho
      exact ⟨_, rfl, rfl, rfl, rfl⟩
  | done | pass | exec => exact ⟨o', ho, rfl, rfl, rfl⟩

/-! ## The worker -/

/-- The entry the worker copied at the start of the iteration. -/
def WorkerStmt.held : WorkerStmt → Option QueryInfo
  | .test => none
  | .submit q | .executing q _ | .logExecuted q | .branch q | .setParsing q _ | .push q _ => some q
  | .clearParsing q | .callError q | .inError q | .logResult q | .pop q => some q

/-- The worker is where it should be: on the object it copied the front of, and the front is still
    the entry it copied. -/
structure WorkerStmt.Sound (src : ℕ) (stmt : WorkerStmt) (o : MySQL) : Prop where
  object : o.conn = src
  client : ∀ q c, stmt = .executing q c → c = src
  front : ∀ q, stmt.held = some q → o.queryQueue.head? = some q

theorem WorkerStmt.Sound.mono {src : ℕ} {stmt : WorkerStmt} {o o' : MySQL} {more : List QueryInfo}
    (hs : stmt.Sound src o) (hconn : o'.conn = o.conn)
    (hqueue : o'.queryQueue = o.queryQueue ++ more) : stmt.Sound src o' := by
  refine ⟨hconn.trans hs.object, hs.client, fun q hq => ?_⟩
  rw [hqueue, List.head?_append, hs.front q hq]
  rfl

theorem WorkerStmt.Does.sound {lib : Answers} {src : ℕ} {o o' : MySQL} {stmt : WorkerStmt}
    {es : List Event} {place : Option (ℕ × WorkerStmt)} (hd : stmt.Does lib src o es o' place)
    (hs : stmt.Sound src o) {src' : ℕ} {stmt' : WorkerStmt} (hplace : place = some (src', stmt')) :
    stmt'.Sound src' o' := by
  cases hd with
  | skip | pop => cases hplace
  | copy q rest hq hp =>
      cases hplace
      refine ⟨rfl, nofun, fun q' hq' => ?_⟩
      cases hq'
      rw [hq]
      rfl
  | submit q hm =>
      cases hplace
      refine ⟨hs.object, fun q' c hc => ?_, hs.front⟩
      cases hc
      exact hs.object
  | answer | logExecuted | succeeded | failed | setParsing | push | clearParsing | report
  | returned | logResult =>
      cases hplace
      exact ⟨hs.object, nofun, hs.front⟩

namespace Slot

variable {h : ℕ} {a : Action} {v v' : Slot} {hs : List Event}

/-- Wherever the worker is in its body for the slot, it is there soundly. -/
def WorkerSound (v : Slot) : Prop :=
  ∀ src stmt, v.worker = some (src, stmt) → ∃ o, v.object = some o ∧ stmt.Sound src o

/-- A queue that holds something belongs to a connection object. -/
def Connected (v : Slot) : Prop :=
  ∀ o, v.object = some o → o.queryQueue ≠ [] → o.mysql.isSome = true

theorem Step.workerSound (hstep : Step h a v hs v') (hspare : v.SparesWorker h a)
    (hv : v.WorkerSound) : v'.WorkerSound := by
  intro src stmt hw
  cases hstep with
  | other _ _ hsame =>
      rw [hsame.worker] at hw
      rw [hsame.object]
      exact hv src stmt hw
  | workerEnter lib ha o t n =>
      cases hw
      exact ⟨o, rfl, rfl, nofun, nofun⟩
  | worker lib ha o o' src₀ stmt₀ place hs t n hd =>
      obtain ⟨o₁, ho₁, hsound⟩ := hv src₀ stmt₀ rfl
      cases ho₁
      exact ⟨o', rfl, hd.sound hsound hw⟩
  | tickEnter ha o w n => exact hv src stmt hw
  | tick ha pAmx v₀ v₁ src₀ stmt₀ place hs w n hd =>
      obtain ⟨o, ho, hsound⟩ := hv src stmt hw
      have hconn := hd.conn
      cases v₁ with
      | none =>
          rw [show v₀ = some o from ho] at hconn
          simp at hconn
      | some o' =>
          obtain ⟨o₁, ho₁, hc, hq, -⟩ := hd.queries rfl
          obtain rfl : o₁ = o := Option.some.inj (ho₁.symm.trans ho)
          exact ⟨o', rfl, hsound.mono hc (hq.trans (List.append_nil _).symm)⟩
  | native thread name amx params lib ha hh o o' es w t hr n n' hn hc =>
      obtain ⟨o₁, ho₁, hsound⟩ := hv src stmt hw
      cases ho₁
      obtain ⟨more, hmore⟩ := hc.queries
      exact ⟨o', rfl, hsound.mono hc.conn hmore⟩
  | opened thread amx params lib ha env log print w t hr n n' hn =>
      obtain ⟨o, ho, -⟩ := hv src stmt hw
      simp at ho
  | closed thread amx params lib ha hp hh o hconn w t hr n n' hn =>
      have hnone : w = none := hspare ⟨thread, amx, params, lib, ha, hp, hh, hconn⟩
      rw [show w = some (src, stmt) from hw] at hnone
      simp at hnone

theorem Step.connected (hstep : Step h a v hs v') (hv : v.Connected) : v'.Connected := by
  intro o' ho' hq'
  cases hstep with
  | other _ _ hsame => exact hv o' (hsame.object.symm.trans ho') hq'
  | workerEnter lib ha o t n => exact hv o' ho' hq'
  | worker lib ha o o₁ src₀ stmt₀ place hs t n hd =>
      cases ho'
      have hold := hv o rfl
      cases hd with
      | submit q hm => exact Option.isSome_map.trans hm
      | answer q conn =>
          unfold MySQL.answered at *
          split
          · exact Option.isSome_map.trans (hold hq')
          · exact hold hq'
      | pop q front rest hq => exact hold (by rw [hq]; nofun)
      | skip | copy | logExecuted | succeeded | failed | setParsing | push | clearParsing | report
      | returned | logResult => exact hold hq'
  | tickEnter ha o w n => exact hv o' ho' hq'
  | tick ha pAmx v₀ v₁ src₀ stmt₀ place hs w n hd =>
      obtain ⟨o, ho, -, hq, hm⟩ := hd.queries ho'
      rw [hm]
      exact hv o ho (hq ▸ hq')
  | native thread name amx params lib ha hh o o₁ es w t hr n n' hn hc =>
      cases ho'
      rw [hc.isSome]
      cases hc with
      | accepted q hn hr hm hs hclient => exact hm
      | observed h =>
          rw [h.same] at hq'
          exact hv o rfl hq'
      | connected | executed | stored | freed => exact hv o rfl hq'
  | opened thread amx params lib ha env log print w t hr n n' hn =>
      cases ho'
      exact absurd rfl hq'
  | closed thread amx params lib ha hp hh o hconn w t hr n n' hn => cases ho'

theorem workerSound_initial : initial.WorkerSound := by
  intro src stmt hw
  simp [initial] at hw

theorem connected_initial : initial.Connected := by
  intro o ho
  simp [initial] at ho

/-- **The worker stays with its object** in every run that does not close the slot under it. -/
theorem workerSound_run {P : Slot → Action → Prop} (hP : ∀ v a, P v a → v.SparesWorker h a)
    (hrun : (lts h).Run P initial hs v) : v.WorkerSound :=
  hrun.invariant (fun _ _ _ _ hv hp hstep => Step.workerSound hstep (hP _ _ hp) hv)
    workerSound_initial

theorem connected_run {P : Slot → Action → Prop} (hrun : (lts h).Run P initial hs v) :
    v.Connected :=
  hrun.invariant (I := Connected) (fun _ _ _ _ hv _ hstep => Step.connected hstep hv)
    connected_initial

end Slot

/-! ## `ProcessTick` -/

/-- The local copy of an entry whose delivery is under way: `extraVars` may be deleted by then. -/
structure ThreadInfo.Copies (t front : ThreadInfo) : Prop where
  resultId : t.resultId = front.resultId
  extraId : t.extraId = front.extraId
  type : t.type = front.type
  extraVars : t.extraVars = front.extraVars ∨ t.extraVars = none

theorem ThreadInfo.Copies.refl (t : ThreadInfo) : t.Copies t := ⟨rfl, rfl, rfl, .inl rfl⟩

theorem ThreadInfo.Copies.afterCallback {t front : ThreadInfo} (hc : t.Copies front) :
    t.afterCallback.Copies front := by
  obtain ⟨h₁, h₂, h₃, h₄⟩ := hc
  unfold ThreadInfo.afterCallback
  split
  · exact ⟨h₁, h₂, h₃, .inr rfl⟩
  · exact ⟨h₁, h₂, h₃, h₄⟩

/-- The entry `ProcessTick` copied and has not popped yet. -/
def TickStmt.held : TickStmt → Option ThreadInfo
  | .each t _ | .inCallback t _ _ | .pop t => some t
  | .test | .clear _ => none

/-- `ProcessTick` is where it should be: on the object it copied the front of, and the front is still
    the entry it copied. -/
structure TickStmt.Sound (src : ℕ) (stmt : TickStmt) (o : MySQL) : Prop where
  object : o.conn = src
  front : ∀ t, stmt.held = some t → ∃ front, o.threadQueue.head? = some front ∧ t.Copies front

theorem TickStmt.Sound.mono {src : ℕ} {stmt : TickStmt} {o o' : MySQL} {more : List ThreadInfo}
    (hs : stmt.Sound src o) (hconn : o'.conn = o.conn)
    (hqueue : o'.threadQueue = o.threadQueue ++ more) : stmt.Sound src o' := by
  refine ⟨hconn.trans hs.object, fun t ht => ?_⟩
  obtain ⟨front, hfront, hc⟩ := hs.front t ht
  refine ⟨front, ?_, hc⟩
  rw [hqueue, List.head?_append, hfront]
  rfl

theorem WorkerStmt.Does.results {lib : Answers} {src : ℕ} {o o' : MySQL} {stmt : WorkerStmt}
    {es : List Event} {place : Option (ℕ × WorkerStmt)} (hd : stmt.Does lib src o es o' place) :
    ∃ more, o'.threadQueue = o.threadQueue ++ more := by
  cases hd with
  | push q t => exact ⟨[t], rfl⟩
  | skip | copy | submit | answer | logExecuted | succeeded | failed | setParsing | clearParsing
  | report | returned | logResult | pop => exact ⟨[], (List.append_nil _).symm⟩

theorem TickStmt.Does.sound {pAmx : List AMX} {src : ℕ} {v v' : Option MySQL} {stmt : TickStmt}
    {es : List Event} {place : Option (ℕ × TickStmt)} (hd : stmt.Does pAmx src v es v' place)
    {o : MySQL} (ho : v = some o) (hs : stmt.Sound src o) {src' : ℕ} {stmt' : TickStmt}
    (hplace : place = some (src', stmt')) : ∃ o', v' = some o' ∧ stmt'.Sound src' o' := by
  cases hd with
  | skip | clear => cases hplace
  | take o₁ t rest hq hp =>
      cases ho
      cases hplace
      refine ⟨_, rfl, rfl, fun t' ht' => ?_⟩
      cases ht'
      exact ⟨t, by rw [hq]; rfl, .refl t⟩
  | done | pass | exec =>
      cases hplace
      exact ⟨o, ho, hs.object, hs.front⟩
  | returned o₁ t amx scripts =>
      cases ho
      cases hplace
      refine ⟨_, rfl, hs.object, fun t' ht' => ?_⟩
      cases ht'
      obtain ⟨front, hfront, hc⟩ := hs.front t rfl
      exact ⟨front, hfront, hc.afterCallback⟩
  | pop o₁ t front rest hq =>
      cases ho
      cases hplace
      exact ⟨_, rfl, hs.object, nofun⟩

namespace Slot

variable {h : ℕ} {a : Action} {v v' : Slot} {hs : List Event}

/-- Wherever `ProcessTick` is in its body for the slot, it is there soundly. -/
def TickSound (v : Slot) : Prop :=
  ∀ src stmt, v.tick = some (src, stmt) → ∃ o, v.object = some o ∧ stmt.Sound src o

theorem Step.tickSound (hstep : Step h a v hs v') (hspare : v.SparesTick h a)
    (hv : v.TickSound) : v'.TickSound := by
  intro src stmt ht
  cases hstep with
  | other _ _ hsame =>
      rw [hsame.tick] at ht
      rw [hsame.object]
      exact hv src stmt ht
  | workerEnter lib ha o t n => exact hv src stmt ht
  | worker lib ha o o' src₀ stmt₀ place hs t n hd =>
      obtain ⟨o₁, ho₁, hsound⟩ := hv src stmt ht
      cases ho₁
      obtain ⟨more, hmore⟩ := hd.results
      exact ⟨o', rfl, hsound.mono hd.conn hmore⟩
  | tickEnter ha o w n =>
      cases ht
      exact ⟨o, rfl, rfl, nofun⟩
  | tick ha pAmx v₀ v₁ src₀ stmt₀ place hs w n hd =>
      obtain ⟨o, ho, hsound⟩ := hv src₀ stmt₀ rfl
      exact hd.sound ho hsound ht
  | native thread name amx params lib ha hh o o' es w t hr n n' hn hc =>
      obtain ⟨o₁, ho₁, hsound⟩ := hv src stmt ht
      cases ho₁
      exact ⟨o', rfl, hsound.mono hc.conn (hc.handOver.2.trans (List.append_nil _).symm)⟩
  | opened thread amx params lib ha env log print w t hr n n' hn =>
      obtain ⟨o, ho, -⟩ := hv src stmt ht
      simp at ho
  | closed thread amx params lib ha hp hh o hconn w t hr n n' hn =>
      have hnone : t = none := hspare ⟨thread, amx, params, lib, ha, hp, hh, hconn⟩
      rw [show t = some (src, stmt) from ht] at hnone
      simp at hnone

theorem tickSound_initial : initial.TickSound := by
  intro src stmt ht
  simp [initial] at ht

/-- **`ProcessTick` stays with its object** in every run that does not close the slot under it. -/
theorem tickSound_run {P : Slot → Action → Prop} (hP : ∀ v a, P v a → v.SparesTick h a)
    (hrun : (lts h).Run P initial hs v) : v.TickSound :=
  hrun.invariant (fun _ _ _ _ hv hp hstep => Step.tickSound hstep (hP _ _ hp) hv)
    tickSound_initial

end Slot
end MysqlPlugin
