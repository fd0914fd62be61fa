import MysqlPlugin.Statement

set_option autoImplicit false

/-! # One handle at a time

The plugin has one table and two threads, but what happens to one handle is told by little: the object
in its slot, and where the two threads stand in their bodies for it. This file cuts the plugin down to
that (`Slot`), says what a step of the plugin can do to it (`Slot.Step`), and proves that every run of
the plugin, seen from one handle, is a run of that smaller system (`System.slot_run`). The properties
of a handle are then proved on the small system.

The histories agree as well. Objects are numbered, a number belongs to one slot for good
(`System.Owned`), and the life of an object in the trace of the plugin is its life in the trace of its
slot. -/

namespace MysqlPlugin

open Prog Natives

/-- What the handle table and the two threads hold of one handle, and how many allocations were made
    (the next object gets that number). -/
structure Slot where
  object : Option MySQL
  worker : Option (ℕ × WorkerStmt)
  tick : Option (ℕ × TickStmt)
  created : ℕ

namespace Slot

/-- The handle right after `Load`. -/
def initial : Slot := ⟨none, none, none, 0⟩

/-- Nothing happened to the slot, whatever else was allocated. -/
structure Same (v v' : Slot) : Prop where
  object : v'.object = v.object
  worker : v'.worker = v.worker
  tick : v'.tick = v.tick
  created : v.created ≤ v'.created

/-- A thread that stands in its body for this slot runs scripts only in its callbacks. -/
def Runs (worker : Option (ℕ × WorkerStmt)) (tick : Option (ℕ × TickStmt)) : Thread → Prop
  | .main => tick = none ∨ ∃ src t amx scripts, tick = some (src, .inCallback t amx scripts)
  | .worker => worker = none ∨ ∃ src q, worker = some (src, .inError q)

/-- What a step of the plugin can do to slot `h`, with the part of the history that is about it. -/
inductive Step (h : ℕ) (a : Action) : Slot → List Event → Slot → Prop
  | other (v v' : Slot) (hsame : v.Same v') : Step h a v [] v'
  | workerEnter (lib : Answers) (ha : a = .worker lib) (o : MySQL) (t : Option (ℕ × TickStmt))
      (n : ℕ) : Step h a ⟨some o, none, t, n⟩ [] ⟨some o, some (o.conn, .test), t, n⟩
  | worker (lib : Answers) (ha : a = .worker lib) (o o' : MySQL) (src : ℕ) (stmt : WorkerStmt)
      (place : Option (ℕ × WorkerStmt)) (hs : List Event) (t : Option (ℕ × TickStmt)) (n : ℕ)
      (hd : stmt.Does lib src o hs o' place) :
      Step h a ⟨some o, some (src, stmt), t, n⟩ hs ⟨some o', place, t, n⟩
  | tickEnter (ha : a = .tick) (o : MySQL) (w : Option (ℕ × WorkerStmt)) (n : ℕ) :
      Step h a ⟨some o, w, none, n⟩ [] ⟨some o, w, some (o.conn, .test), n⟩
  | tick (ha : a = .tick) (pAmx : List AMX) (v v' : Option MySQL) (src : ℕ) (stmt : TickStmt)
      (place : Option (ℕ × TickStmt)) (hs : List Event) (w : Option (ℕ × WorkerStmt)) (n : ℕ)
      (hd : stmt.Does pAmx src v hs v' place) :
      Step h a ⟨v, w, some (src, stmt), n⟩ hs ⟨v', w, place, n⟩
  | native (thread : Thread) (name : NativeName) (amx : Memory) (params : List Cell) (lib : Answers)
      (ha : a = .native thread name amx params lib) (hh : name.handle params = some (h : ℤ))
      (o o' : MySQL) (es : List Event) (w : Option (ℕ × WorkerStmt)) (t : Option (ℕ × TickStmt))
      (hr : Runs w t thread) (n n' : ℕ) (hn : n ≤ n') (hc : o.Change name params lib es o') :
      Step h a ⟨some o, w, t, n⟩ (history es) ⟨some o', w, t, n'⟩
  | opened (thread : Thread) (amx : Memory) (params : List Cell) (lib : Answers)
      (ha : a = .native thread .mysql_init amx params lib) (env : Env) (log : ℤ) (print : Bool)
      (w : Option (ℕ × WorkerStmt)) (t : Option (ℕ × TickStmt)) (hr : Runs w t thread) (n n' : ℕ)
      (hn : n < n') :
      Step h a ⟨none, w, t, n⟩ [.opened n h]
        ⟨some ((MySQL.new env n h).initialised env.lib log print), w, t, n'⟩
  | closed (thread : Thread) (amx : Memory) (params : List Cell) (lib : Answers)
      (ha : a = .native thread .mysql_close amx params lib) (hp : param params 0 = cellSize)
      (hh : param params 1 = (h : ℤ)) (o : MySQL) (hconn : isConnected (some o) = true)
      (w : Option (ℕ × WorkerStmt)) (t : Option (ℕ × TickStmt)) (hr : Runs w t thread) (n n' : ℕ)
      (hn : n ≤ n') :
      Step h a ⟨some o, w, t, n⟩ [.closed o.conn h o.queryQueue o.threadQueue] ⟨none, w, t, n'⟩

/-- Handle `h` as a transition system of its own. -/
def lts (h : ℕ) : Lts Slot Action Event := ⟨initial, fun v a es v' => Step h a v es v'⟩

/-- The object numbers a slot holds. -/
def Mentions (v : Slot) (c : ℕ) : Prop :=
  (∃ o, v.object = some o ∧ o.conn = c) ∨
    (∃ src stmt, v.worker = some (src, stmt) ∧ (src = c ∨ ∃ q, stmt = .executing q c)) ∨
    (∃ src stmt, v.tick = some (src, stmt) ∧ src = c)

theorem Same.mentions {v v' : Slot} (hs : v.Same v') {c : ℕ} (hc : v'.Mentions c) :
    v.Mentions c := by
  unfold Mentions at *
  rwa [hs.object, hs.worker, hs.tick] at hc

end Slot

/-! ## Native calls and statements keep the identity of an object -/

theorem MySQL.Change.conn {name : NativeName} {params : List Cell} {lib : Answers} {o o' : MySQL}
    {es : List Event} (hc : o.Change name params lib es o') : o'.conn = o.conn := by
  cases hc with
  | observed h => rw [h.same]
  | connected | accepted | executed | stored | freed => rfl

theorem MySQL.Change.id {name : NativeName} {params : List Cell} {lib : Answers} {o o' : MySQL}
    {es : List Event} (hc : o.Change name params lib es o') : o'.id = o.id := by
  cases hc with
  | observed h => rw [h.same]
  | connected | accepted | executed | stored | freed => rfl

/-- All the history has of a native on an object is that it accepted a query. -/
theorem MySQL.Change.mem_history {name : NativeName} {params : List Cell} {lib : Answers}
    {o o' : MySQL} {es : List Event} (hc : o.Change name params lib es o') {e : Event}
    (he : e ∈ history es) : ∃ q, e = .accepted o.conn q := by
  cases hc with
  | accepted q hn hr hm hs hclient =>
      rw [hs, List.mem_singleton] at he
      exact ⟨q, he⟩
  | observed h => simp [h.silent] at he
  | connected c hn hc hs => simp [hs] at he
  | executed statement hn hr hs => simp [hs] at he
  | stored hn hres hstate hs => simp [hs] at he
  | freed hn hs => simp [hs] at he

/-- The events of a native are about the object it works on. -/
theorem MySQL.Change.about {name : NativeName} {params : List Cell} {lib : Answers} {o o' : MySQL}
    {es : List Event} (hc : o.Change name params lib es o') {e : Event} (he : e ∈ history es)
    {c : ℕ} (hec : e.about = some c) : o.conn = c := by
  obtain ⟨q, rfl⟩ := hc.mem_history he
  exact Option.some.inj hec

theorem WorkerStmt.Does.conn {lib : Answers} {src : ℕ} {o o' : MySQL} {stmt : WorkerStmt}
    {es : List Event} {place : Option (ℕ × WorkerStmt)} (hd : stmt.Does lib src o es o' place) :
    o'.conn = o.conn := by
  cases hd <;> rfl

/-- The worker's next place is for the object it copied from, and inside `mysql_real_query` on the
    connection it found. -/
theorem WorkerStmt.Does.mentions {lib : Answers} {src : ℕ} {o o' : MySQL} {stmt : WorkerStmt}
    {es : List Event} {place : Option (ℕ × WorkerStmt)} (hd : stmt.Does lib src o es o' place)
    {src' : ℕ} {stmt' : WorkerStmt} (hplace : place = some (src', stmt')) :
    (src' = src ∨ src' = o.conn) ∧ ∀ q c, stmt' = .executing q c → c = o.conn := by
  cases hd <;> cases hplace <;> simp

theorem WorkerStmt.Does.about {lib : Answers} {src : ℕ} {o o' : MySQL} {stmt : WorkerStmt}
    {es : List Event} {place : Option (ℕ × WorkerStmt)} (hd : stmt.Does lib src o es o' place)
    {e : Event} (he : e ∈ es) {c : ℕ} (hec : e.about = some c) :
    o.conn = c ∨ ∃ q, stmt = .executing q c := by
  cases hd with
  | answer q conn =>
      rw [List.mem_singleton] at he
      subst he
      exact .inr ⟨q, by rw [Option.some.inj hec]⟩
  | skip | submit | push | report | pop =>
      rw [List.mem_singleton] at he
      subst he
      exact .inl (Option.some.inj hec)
  | copy =>
      rcases List.mem_pair.1 he with rfl | rfl <;> exact .inl (Option.some.inj hec)
  | logExecuted | succeeded | failed | setParsing | clearParsing | returned | logResult => cases he

theorem TickStmt.Does.conn {pAmx : List AMX} {src : ℕ} {v v' : Option MySQL} {stmt : TickStmt}
    {es : List Event} {place : Option (ℕ × TickStmt)} (hd : stmt.Does pAmx src v es v' place) :
    v'.map MySQL.conn = v.map MySQL.conn := by
  cases hd <;> rfl

theorem TickStmt.Does.mentions {pAmx : List AMX} {src : ℕ} {v v' : Option MySQL} {stmt : TickStmt}
    {es : List Event} {place : Option (ℕ × TickStmt)} (hd : stmt.Does pAmx src v es v' place)
    {src' : ℕ} {stmt' : TickStmt} (hplace : place = some (src', stmt')) :
    src' = src ∨ v.map MySQL.conn = some src' := by
  cases hd <;> cases hplace <;> simp

theorem TickStmt.Does.about {pAmx : List AMX} {src : ℕ} {v v' : Option MySQL} {stmt : TickStmt}
    {es : List Event} {place : Option (ℕ × TickStmt)} (hd : stmt.Does pAmx src v es v' place)
    {e : Event} (he : e ∈ es) {c : ℕ} (hec : e.about = some c) :
    v.map MySQL.conn = some c := by
  cases hd with
  | skip | pop =>
      rw [List.mem_singleton] at he
      subst he
      exact hec
  | take => rcases List.mem_pair.1 he with rfl | rfl <;> exact hec
  | done | pass | exec | returned | clear => cases he

namespace Slot

theorem mentions_object {v : Slot} {c : ℕ} (h : v.object.map MySQL.conn = some c) :
    v.Mentions c := by
  obtain ⟨o, ho, hc⟩ := Option.map_eq_some_iff.1 h
  exact .inl ⟨o, ho, hc⟩

/-- A step makes a slot hold no new object numbers, unless it opens the slot. -/
theorem Step.mentions {h : ℕ} {a : Action} {v v' : Slot} {hs : List Event}
    (hstep : Step h a v hs v') {c : ℕ} (hc : v'.Mentions c) :
    v.Mentions c ∨ .opened c h ∈ hs := by
  cases hstep with
  | other _ _ hsame => exact .inl (hsame.mentions hc)
  | workerEnter lib ha o t n =>
      rcases hc with hc | ⟨src, stmt, hw, hc⟩ | hc
      · exact .inl (.inl hc)
      · cases hw
        rcases hc with rfl | ⟨q, hq⟩
        · exact .inl (.inl ⟨o, rfl, rfl⟩)
        · simp at hq
      · exact .inl (.inr (.inr hc))
  | worker lib ha o o' src stmt place hs t n hd =>
      rcases hc with ⟨o₁, ho, hc⟩ | ⟨src', stmt', hw, hc⟩ | hc
      · cases ho
        exact .inl (.inl ⟨o, rfl, hd.conn.symm.trans hc⟩)
      · obtain ⟨hsrc, hexec⟩ := hd.mentions hw
        rcases hc with rfl | ⟨q, rfl⟩
        · rcases hsrc with rfl | rfl
          · exact .inl (.inr (.inl ⟨_, stmt, rfl, .inl rfl⟩))
          · exact .inl (.inl ⟨o, rfl, rfl⟩)
        · exact .inl (.inl ⟨o, rfl, (hexec q c rfl).symm⟩)
      · exact .inl (.inr (.inr hc))
  | tickEnter ha o w n =>
      rcases hc with hc | hc | ⟨src, stmt, ht, rfl⟩
      · exact .inl (.inl hc)
      · exact .inl (.inr (.inl hc))
      · cases ht
        exact .inl (.inl ⟨o, rfl, rfl⟩)
  | tick ha pAmx v v' src stmt place hs w n hd =>
      rcases hc with ⟨o, ho, hc⟩ | hc | ⟨src', stmt', ht, rfl⟩
      · have hconn : v.map MySQL.conn = some c := by
          rw [← hd.conn]
          exact Option.map_eq_some_iff.2 ⟨o, ho, hc⟩
        exact .inl (mentions_object hconn)
      · exact .inl (.inr (.inl hc))
      · rcases hd.mentions ht with rfl | hconn
        · exact .inl (.inr (.inr ⟨_, stmt, rfl, rfl⟩))
        · exact .inl (mentions_object hconn)
  | native thread name amx params lib ha hh o o' es w t hr n n' hn hch =>
      rcases hc with ⟨o₁, ho, hc⟩ | hc
      · cases ho
        exact .inl (.inl ⟨o, rfl, hch.conn.symm.trans hc⟩)
      · exact .inl (.inr hc)
  | opened thread amx params lib ha env log print w t hr n n' hn =>
      rcases hc with ⟨o₁, ho, hc⟩ | hc
      · cases ho
        cases hc
        exact .inr (List.mem_singleton.2 rfl)
      · exact .inl (.inr hc)
  | closed thread amx params lib ha hp hh o hconn w t hr n n' hn =>
      rcases hc with ⟨o₁, ho, hc⟩ | hc
      · simp at ho
      · exact .inl (.inr hc)

/-- The object of a slot is created or closed. -/
def isSlotEvent : Event → Bool
  | .opened _ _ | .closed _ _ _ _ => true
  | _ => false

/-- Two steps do that: the one that opens the slot for the next object number, and the one that closes
    the object in it. -/
theorem Step.opens_or_closes {h : ℕ} {a : Action} {v v' : Slot} {hs : List Event}
    (hstep : Step h a v hs v') {e : Event} (he : e ∈ hs) (hslot : isSlotEvent e = true) :
    (e = .opened v.created h ∧ v.created < v'.created) ∨
      ∃ o, v.object = some o ∧ v'.object = none ∧
        e = .closed o.conn h o.queryQueue o.threadQueue := by
  cases hstep with
  | other | workerEnter | tickEnter => cases he
  | worker lib ha o o' src stmt place hs t n hd =>
      have hother : ∀ e ∈ hs, isSlotEvent e = false := by
        cases hd <;> simp [isSlotEvent]
      exact absurd hslot (by simp [hother e he])
  | tick ha pAmx v v' src stmt place hs w n hd =>
      have hother : ∀ e ∈ hs, isSlotEvent e = false := by
        cases hd <;> simp [isSlotEvent]
      exact absurd hslot (by simp [hother e he])
  | native thread name amx params lib ha hh o o' es w t hr n n' hn hch =>
      obtain ⟨q, rfl⟩ := hch.mem_history he
      cases hslot
  | opened thread amx params lib ha env log print w t hr n n' hn =>
      exact .inl ⟨List.mem_singleton.1 he, hn⟩
  | closed thread amx params lib ha hp hh o hconn w t hr n n' hn =>
      exact .inr ⟨o, rfl, rfl, List.mem_singleton.1 he⟩

/-- A step opens the slot for the next object number only. -/
theorem Step.opens {h : ℕ} {a : Action} {v v' : Slot} {hs : List Event}
    (hstep : Step h a v hs v') {c k : ℕ} (he : .opened c k ∈ hs) :
    k = h ∧ c = v.created ∧ v.created < v'.created := by
  obtain ⟨heq, hlt⟩ | ⟨o, -, -, heq⟩ := hstep.opens_or_closes he rfl
  · cases heq
    exact ⟨rfl, rfl, hlt⟩
  · cases heq

/-- A step closes no other slot. -/
theorem Step.closes {h : ℕ} {a : Action} {v v' : Slot} {hs : List Event}
    (hstep : Step h a v hs v') {c k : ℕ} {queries : List QueryInfo} {results : List ThreadInfo}
    (he : .closed c k queries results ∈ hs) : k = h := by
  obtain ⟨heq, -⟩ | ⟨o, -, -, heq⟩ := hstep.opens_or_closes he rfl
  · cases heq
  · cases heq
    rfl

/-- The events of a step are about objects the slot holds, or open the slot for a new object. -/
theorem Step.about {h : ℕ} {a : Action} {v v' : Slot} {hs : List Event}
    (hstep : Step h a v hs v') {e : Event} (he : e ∈ hs) {c : ℕ} (hc : e.about = some c) :
    v.Mentions c ∨ (e = .opened c h ∧ c = v.created ∧ v.created < v'.created) := by
  cases hstep with
  | other | workerEnter | tickEnter => cases he
  | worker lib ha o o' src stmt place hs t n hd =>
      rcases hd.about he hc with rfl | ⟨q, rfl⟩
      · exact .inl (.inl ⟨o, rfl, rfl⟩)
      · exact .inl (.inr (.inl ⟨src, _, rfl, .inr ⟨q, rfl⟩⟩))
  | tick ha pAmx v v' src stmt place hs w n hd => exact .inl (mentions_object (hd.about he hc))
  | native thread name amx params lib ha hh o o' es w t hr n n' hn hch =>
      exact .inl (.inl ⟨o, rfl, hch.about he hc⟩)
  | opened thread amx params lib ha env log print w t hr n n' hn =>
      rw [List.mem_singleton] at he
      subst he
      cases hc
      exact .inr ⟨rfl, rfl, hn⟩
  | closed thread amx params lib ha hp hh o hconn w t hr n n' hn =>
      rw [List.mem_singleton] at he
      subst he
      exact .inl (.inl ⟨o, rfl, Option.some.inj hc⟩)

theorem Step.created {h : ℕ} {a : Action} {v v' : Slot} {hs : List Event}
    (hstep : Step h a v hs v') : v.created ≤ v'.created := by
  cases hstep with
  | other _ _ hsame => exact hsame.created
  | workerEnter | worker | tickEnter | tick => exact le_rfl
  | native _ _ _ _ _ _ _ _ _ _ _ _ _ _ _ hn => exact hn
  | opened _ _ _ _ _ _ _ _ _ _ _ _ _ hn => exact hn.le
  | closed _ _ _ _ _ _ _ _ _ _ _ _ _ _ hn => exact hn

end Slot

/-! ## A step of the plugin, seen from its slots -/

namespace System

variable {N : ℕ}

/-- What the plugin holds of handle `h`. -/
def slot (s : System N) (h : Fin N) : Slot := ⟨s.my h, s.worker.place h, s.main.place h, s.created⟩

/-- A step works on at most one slot, and the history it adds is about that slot. -/
inductive Works (s : System N) (a : Action) (es : List Event) (s' : System N) : Prop
  | nowhere (hes : history es = []) (hcreated : s.created ≤ s'.created)
      (hsame : ∀ h, (s.slot h).Same (s'.slot h))
  | on (k : Fin N) (hstep : Slot.Step k a (s.slot k) (history es) (s'.slot k))
      (hsame : ∀ h, h ≠ k → (s.slot h).Same (s'.slot h))

theorem runs_of_runsScripts {s : System N} {thread : Thread} (hr : s.runsScripts thread)
    (h : Fin N) : Slot.Runs (s.worker.place h) (s.main.place h) thread := by
  unfold runsScripts at hr
  cases thread with
  | main =>
      cases hm : s.main with
      | idle => exact .inl rfl
      | scan i => simp [hm] at hr
      | body k src stmt =>
          rw [hm] at hr
          by_cases hk : h = k
          · subst hk
            cases stmt with
            | inCallback t amx scripts => exact .inr ⟨src, t, amx, scripts, MainPc.place_body ..⟩
            | test | each | pop | clear => cases hr
          · exact .inl (MainPc.place_body_of_ne hk src stmt)
  | worker =>
      cases hw : s.worker with
      | scan i => simp [hw] at hr
      | body k src stmt =>
          rw [hw] at hr
          by_cases hk : h = k
          · subst hk
            cases stmt with
            | inError q => exact .inr ⟨src, q, WorkerPc.place_body ..⟩
            | test | submit | executing | logExecuted | branch | setParsing | push | clearParsing =>
                simp at hr
            | callError | logResult | pop => cases hr
          · exact .inl (WorkerPc.place_body_of_ne hk src stmt)

theorem works_worker {s s' : System N} {lib : Answers} {es : List Event}
    (hstep : s.stepWorker lib = .next s' es) : s.Works (.worker lib) es s' := by
  cases workerMove_of_step hstep with
  | restart i hw hfree =>
      exact .nowhere rfl le_rfl fun h => ⟨rfl, by simp [slot, hw], rfl, le_rfl⟩
  | enter i o hw ho =>
      refine .on i ?_ fun h hne => ?_
      · simp only [slot, ho, hw, WorkerPc.place_scan, WorkerPc.place_body]
        exact .workerEnter lib rfl o _ _
      · exact ⟨rfl, by simp [slot, hw, WorkerPc.place_body_of_ne hne], rfl, le_rfl⟩
  | work k src stmt o o' place _ hw ho hd =>
      refine .on k ?_ fun h hne => ⟨?_, ?_, rfl, le_rfl⟩
      · simp only [slot, ho, hw, WorkerPc.place_body, WorkerPc.place_after, Function.update_self]
        exact .worker lib rfl o o' src stmt _ _ _ _ hd
      · exact Function.update_of_ne hne _ _
      · simp only [slot, hw, WorkerPc.place_after_of_ne hne, WorkerPc.place_body_of_ne hne]

theorem works_tick {s s' : System N} {es : List Event} (hstep : s.stepTick = .next s' es) :
    s.Works .tick es s' := by
  cases tickMove_of_step hstep with
  | start hm => exact .nowhere rfl le_rfl fun h => ⟨rfl, rfl, by simp [slot, hm], le_rfl⟩
  | finish i hm hfree => exact .nowhere rfl le_rfl fun h => ⟨rfl, rfl, by simp [slot, hm], le_rfl⟩
  | enter i o hm ho =>
      refine .on i ?_ fun h hne => ?_
      · simp only [slot, ho, hm, MainPc.place_scan, MainPc.place_body]
        exact .tickEnter rfl o _ _
      · exact ⟨rfl, rfl, by simp [slot, hm, MainPc.place_body_of_ne hne], le_rfl⟩
  | work k src stmt v place _ hm hd =>
      refine .on k ?_ fun h hne => ⟨?_, rfl, ?_, le_rfl⟩
      · simp only [slot, hm, MainPc.place_body, MainPc.place_after, Function.update_self]
        exact .tick rfl s.pAmx _ _ src stmt _ _ _ _ hd
      · exact Function.update_of_ne hne _ _
      · simp only [slot, hm, MainPc.place_after_of_ne hne, MainPc.place_body_of_ne hne]

theorem works_native {s s' : System N} {thread : Thread} {name : NativeName} {amx : Memory}
    {params : List Cell} {lib : Answers} {es : List Event} (hr : s.runsScripts thread)
    (hstep : s.perform (name.function ⟨lib, s.pAmx⟩ amx params) (fun _ s => s) = .next s' es) :
    s.Works (.native thread name amx params lib) es s' := by
  unfold perform at hstep
  cases hc : (name.function ⟨lib, s.pAmx⟩ amx params : Native N Cell) s.toWorld with
  | error f =>
      rw [hc] at hstep
      simp at hstep
  | ok r =>
      obtain ⟨a, w, es'⟩ := r
      rw [hc] at hstep
      cases hstep
      obtain ⟨-, hcreated, hchange⟩ := effect_function _ amx params name _ _ _ _ hc
      -- the other slots keep their objects, and no thread moves
      have hother : ∀ {k : Fin N} {v : Option MySQL}, w.my = Function.update s.my k v →
          ∀ h, h ≠ k → (s.slot h).Same (slot { s with toWorld := w } h) := by
        intro k v hmy h hne
        exact ⟨by simp [slot, hmy, Function.update_of_ne hne], rfl, rfl, hcreated⟩
      cases hchange with
      | none hmy hs =>
          exact .nowhere hs hcreated fun h => ⟨by simp [slot, hmy], rfl, rfl, hcreated⟩
      | object k o o' hh ho hmy hch =>
          refine .on k ?_ (hother hmy)
          have hobj : w.my k = some o' := by rw [hmy, Function.update_self]
          simp only [slot, ho, hobj]
          exact .native thread name amx params lib rfl hh o o' es _ _ (runs_of_runsScripts hr k) _ _
            hcreated hch
      | opened k env hn hfree hlt log print hmy hs =>
          refine .on k ?_ (hother hmy)
          subst hn
          have hobj : w.my k = some ((MySQL.new env s.created k).initialised env.lib log print) := by
            rw [hmy, Function.update_self]
          have hempty : s.my k = none := by
            simpa using List.find?_some hfree
          simp only [slot, hempty, hobj, hs]
          exact .opened thread amx params lib rfl env log print _ _ (runs_of_runsScripts hr k) _ _ hlt
      | closed k o hn hp hh ho hconn hmy hs =>
          refine .on k ?_ (hother hmy)
          subst hn
          have hobj : w.my k = none := by rw [hmy, Function.update_self]
          simp only [slot, ho, hobj, hs]
          exact .closed thread amx params lib rfl hp (by simpa [NativeName.handle,
            NativeName.handleAt] using hh) o hconn _ _ (runs_of_runsScripts hr k) _ _ hcreated

/-- **Every step of the plugin works on at most one slot**, in one of the ways of `Slot.Step`. -/
theorem step_works {s s' : System N} {a : Action} {es : List Event}
    (hstep : s.step a = .next s' es) : s.Works a es s' := by
  cases a with
  | worker lib => exact works_worker hstep
  | tick => exact works_tick hstep
  | native thread name amx params lib =>
      simp only [step] at hstep
      by_cases hr : s.runsScripts thread = true
      · rw [if_pos hr] at hstep
        exact works_native hr hstep
      · rw [if_neg hr] at hstep
        simp at hstep
  | load amx =>
      simp only [step] at hstep
      split at hstep
      · cases hstep
        exact .nowhere rfl le_rfl fun h => ⟨rfl, rfl, rfl, le_rfl⟩
      · simp at hstep
  | unload amx =>
      simp only [step] at hstep
      split at hstep
      · cases hstep
        exact .nowhere rfl le_rfl fun h => ⟨rfl, rfl, rfl, le_rfl⟩
      · simp at hstep

/-- The allocations only go on. -/
theorem created_of_step {s s' : System N} {a : Action} {es : List Event}
    (hstep : s.step a = .next s' es) : s.created ≤ s'.created := by
  cases step_works hstep with
  | nowhere hes hcreated hsame => exact hcreated
  | on k hk hsame => exact hk.created

/-- What a step does to one slot. -/
theorem step_slot {s s' : System N} {a : Action} {es : List Event} (hstep : s.step a = .next s' es)
    (h : Fin N) : ∃ hs, Slot.Step h a (s.slot h) hs (s'.slot h) := by
  cases step_works hstep with
  | nowhere hes hcreated hsame => exact ⟨[], .other _ _ (hsame h)⟩
  | on k hk hsame =>
      by_cases hh : h = k
      · subst hh
        exact ⟨_, hk⟩
      · exact ⟨[], .other _ _ (hsame h hh)⟩

/-- What every step on slot `h` preserves may be assumed at every step of a run. -/
theorem slot_strengthen {P : Slot → Action → Prop} {I : Slot → Prop} {h : Fin N} {s : System N}
    {tr : List Event} (hstep : ∀ v a es v', I v → P v a → Slot.Step h a v es v' → I v')
    (h₀ : I .initial) (hrun : (plugin N).Reach (fun s a => P (s.slot h) a) tr s) :
    (plugin N).Reach (fun s a => P (s.slot h) a ∧ I (s.slot h)) tr s := by
  refine hrun.strengthen (I := fun s => I (s.slot h)) (fun s a es s' hI hP hs => ?_) h₀
  obtain ⟨hs, hslot⟩ := step_slot hs h
  exact hstep _ _ _ _ hI hP hslot

/-! ### What can go wrong in a step of the two loops -/

/-- A step of the worker faults at the condition of its loop, by using an empty slot, by submitting on
    a `NULL` connection or by popping an empty queue. -/
theorem worker_faults {s : System N} {lib : Answers} {f : Fault}
    (hf : s.step (.worker lib) = .fault f) :
    (∃ i, s.worker = .scan i ∧ N ≤ i ∧ f = .outOfRange i) ∨
      ∃ k src stmt, s.worker = .body k src stmt ∧
        ((s.my k = none ∧ f = .nullMySQL k) ∨
          ∃ o, s.my k = some o ∧
            ((∃ q, stmt = .submit q ∧ o.mysql = none ∧ f = .nullClient "mysql_real_query") ∨
              ∃ q, stmt = .pop q ∧ o.queryQueue = [] ∧ f = .emptyPop k)) := by
  simp only [step, stepWorker] at hf
  cases hw : s.worker with
  | scan i =>
      rw [hw] at hf
      by_cases hi : i < N
      · simp only [dif_pos hi] at hf
        cases ho : s.my ⟨i, hi⟩ <;> simp [ho] at hf
      · simp only [dif_neg hi] at hf
        cases hf
        exact .inl ⟨i, rfl, not_lt.1 hi, rfl⟩
  | body k src stmt =>
      refine .inr ⟨k, src, stmt, rfl, ?_⟩
      simp only [hw, perform, call] at hf
      cases ho : s.my k with
      | none =>
          simp only [ho] at hf
          cases hf
          exact .inl ⟨rfl, rfl⟩
      | some o =>
          refine .inr ⟨o, rfl, ?_⟩
          simp only [ho] at hf
          cases hm : QueryThread.statement ⟨lib, s.pAmx⟩ k src stmt o with
          | error f' =>
              simp only [hm] at hf
              cases hf
              exact QueryThread.statement_faults hm
          | ok r =>
              simp only [hm] at hf
              simp at hf

/-- A step of `ProcessTick` faults at the condition of its loop, by using an empty slot or by popping
    an empty queue. -/
theorem tick_faults {s : System N} {f : Fault} (hf : s.step .tick = .fault f) :
    (∃ i, s.main = .scan i ∧ N ≤ i ∧ f = .outOfRange i) ∨
      ∃ k src stmt, s.main = .body k src stmt ∧
        ((s.my k = none ∧ (∀ t scripts, stmt ≠ .each t scripts) ∧ f = .nullMySQL k) ∨
          ∃ t o, stmt = .pop t ∧ s.my k = some o ∧ o.threadQueue = [] ∧ f = .emptyPop k) := by
  simp only [step, stepTick] at hf
  cases hm : s.main with
  | idle => simp [hm] at hf
  | scan i =>
      rw [hm] at hf
      by_cases hi : i < N
      · simp only [dif_pos hi] at hf
        cases ho : s.my ⟨i, hi⟩ <;> simp [ho] at hf
      · simp only [dif_neg hi] at hf
        cases hf
        exact .inl ⟨i, rfl, not_lt.1 hi, rfl⟩
  | body k src stmt =>
      refine .inr ⟨k, src, stmt, rfl, ?_⟩
      simp only [hm, perform] at hf
      cases hc : ProcessTick.statement s.pAmx k src stmt s.toWorld with
      | error f' =>
          simp only [hc] at hf
          cases hf
          exact ProcessTick.statement_faults hc
      | ok r =>
          simp only [hc] at hf
          simp at hf

/-! ## Objects belong to one slot for good -/

/-- Every object number the system holds was opened in the slot that holds it, no number was opened
    in two slots, and the next number is new. -/
structure Owned (tr : List Event) (s : System N) : Prop where
  mentioned : ∀ {h : Fin N} {c : ℕ}, (s.slot h).Mentions c → .opened c h ∈ tr
  fresh : ∀ {e : Event} {c : ℕ}, e ∈ tr → e.about = some c → c < s.created
  unique : ∀ {c h h' : ℕ}, .opened c h ∈ tr → .opened c h' ∈ tr → h = h'
  closed : ∀ {c h : ℕ} {queries : List QueryInfo} {results : List ThreadInfo},
    .closed c h queries results ∈ tr → .opened c h ∈ tr
  known : ∀ {e : Event} {c : ℕ}, e ∈ tr → e.about = some c → ∃ h : Fin N, .opened c h ∈ tr

theorem owned_initial : Owned [] (initial : System N) := by
  refine ⟨fun hc => ?_, nofun, nofun, nofun, nofun⟩
  rcases hc with ⟨o, ho, -⟩ | ⟨src, stmt, hw, -⟩ | ⟨src, stmt, ht, -⟩
  · cases ho
  · cases hw
  · cases ht

theorem mem_history {e : Event} {c : ℕ} (hc : e.about = some c) {tr : List Event} :
    e ∈ history tr ↔ e ∈ tr := by
  simp [history, Event.isHistory, hc]

variable {s s' : System N} {a : Action} {tr es : List Event}

/-- Whatever opens a slot in a trace that goes on by one step did so before, or in that step and for
    the next number. -/
theorem Owned.opens {k : Fin N}
    (hk : Slot.Step k a (s.slot k) (history es) (s'.slot k)) {c h : ℕ}
    (he : .opened c h ∈ tr ++ es) :
    .opened c h ∈ tr ∨ (h = k ∧ c = s.created ∧ s.created < s'.created) := by
  rcases List.mem_append.1 he with he | he
  · exact .inl he
  · exact .inr (hk.opens ((mem_history rfl).2 he))

/-- An event of a step on slot `k` is about an object of slot `k`. -/
theorem Owned.about (hown : Owned tr s) {k : Fin N}
    (hk : Slot.Step k a (s.slot k) (history es) (s'.slot k)) {e : Event} (he : e ∈ es) {c : ℕ}
    (hc : e.about = some c) : .opened c k ∈ tr ++ es := by
  rcases hk.about ((mem_history hc).2 he) hc with hm | ⟨rfl, -, -⟩
  · exact List.mem_append_left _ (hown.mentioned hm)
  · exact List.mem_append_right _ he

theorem not_mem_of_history_nil (hes : history es = []) {e : Event} {c : ℕ}
    (hc : e.about = some c) : e ∉ es := by
  rw [← mem_history hc, hes]
  exact List.not_mem_nil

theorem Owned.step (hown : Owned tr s) (hstep : s.step a = .next s' es) : Owned (tr ++ es) s' := by
  cases step_works hstep with
  | nowhere hes hcreated hsame =>
      have hold : ∀ {e : Event} {c : ℕ}, e.about = some c → e ∈ tr ++ es → e ∈ tr :=
        fun hc he => (List.mem_append.1 he).resolve_right (not_mem_of_history_nil hes hc)
      refine ⟨fun hc => ?_, fun he hc => ?_, fun he he' => ?_, fun he => ?_, fun he hc => ?_⟩
      · exact List.mem_append_left _ (hown.mentioned ((hsame _).mentions hc))
      · exact lt_of_lt_of_le (hown.fresh (hold hc he) hc) hcreated
      · exact hown.unique (hold rfl he) (hold rfl he')
      · exact List.mem_append_left _ (hown.closed (hold rfl he))
      · obtain ⟨h, hh⟩ := hown.known (hold hc he) hc
        exact ⟨h, List.mem_append_left _ hh⟩
  | on k hk hsame =>
      have hnew : ∀ {c h : ℕ}, .opened c h ∈ tr → c ≠ s.created :=
        fun he => Nat.ne_of_lt (hown.fresh he rfl)
      refine ⟨fun {h c} hc => ?_, fun {e c} he hc => ?_, fun he he' => ?_, fun he => ?_,
        fun he hc => ?_⟩
      · by_cases hh : h = k
        · subst hh
          rcases hk.mentions hc with hm | he
          · exact List.mem_append_left _ (hown.mentioned hm)
          · exact List.mem_append_right _ ((mem_history rfl).1 he)
        · exact List.mem_append_left _ (hown.mentioned ((hsame h hh).mentions hc))
      · rcases List.mem_append.1 he with he | he
        · exact lt_of_lt_of_le (hown.fresh he hc) hk.created
        · rcases Owned.opens hk (hown.about hk he hc) with hin | ⟨-, rfl, hlt⟩
          · exact lt_of_lt_of_le (hown.fresh hin rfl) hk.created
          · exact hlt
      · rcases Owned.opens hk he with hin | ⟨rfl, rfl, -⟩ <;>
          rcases Owned.opens hk he' with hin' | ⟨rfl, hc, -⟩
        · exact hown.unique hin hin'
        · exact absurd hc (hnew hin)
        · exact absurd rfl (hnew hin')
        · rfl
      · rcases List.mem_append.1 he with he | he
        · exact List.mem_append_left _ (hown.closed he)
        · obtain rfl := hk.closes ((mem_history rfl).2 he)
          exact hown.about hk he rfl
      · rcases List.mem_append.1 he with he | he
        · obtain ⟨h, hh⟩ := hown.known he hc
          exact ⟨h, List.mem_append_left _ hh⟩
        · exact ⟨k, hown.about hk he hc⟩

theorem owned_reach {P : System N → Action → Prop} (hrun : (plugin N).Reach P tr s) : Owned tr s :=
  hrun.history (fun _ _ _ _ _ hown _ hstep => hown.step hstep) owned_initial

/-- A live object has an older number than the next one. -/
theorem Owned.conn_lt (hown : Owned tr s) {h : Fin N} {o : MySQL} (ho : s.my h = some o) :
    o.conn < s.created :=
  hown.fresh (hown.mentioned (h := h) (.inl ⟨o, ho, rfl⟩)) rfl

/-- Two slots never hold the same object. -/
theorem Owned.slot_unique (hown : Owned tr s) {h k : Fin N} {o o' : MySQL} (ho : s.my h = some o)
    (ho' : s.my k = some o') (hconn : o.conn = o'.conn) : h = k := by
  have hh := hown.mentioned (h := h) (.inl ⟨o, ho, rfl⟩)
  have hk := hown.mentioned (h := k) (.inl ⟨o', ho', rfl⟩)
  rw [hconn] at hh
  exact Fin.ext (hown.unique hh hk)

/-! ## Runs, seen from one slot -/

/-- **A run of the plugin is a run of every slot.** The discipline of the run may speak about what the
    slot holds, and the objects opened in the slot live in the trace of the plugin as they live in
    the trace of the slot. The run may start anywhere, with an earlier trace `tr₀`. -/
theorem slot_run {Q : Slot → Action → Prop} {h : Fin N} {tr₀ : List Event} {s₀ : System N}
    (hown : Owned tr₀ s₀) (hrun : (plugin N).Run (fun s a => Q (s.slot h) a) s₀ tr s) :
    ∃ hs, (Slot.lts h).Run Q (s₀.slot h) hs (s.slot h) ∧ Owned (tr₀ ++ tr) s ∧
      ∀ c, .opened c h ∈ tr₀ ++ tr → life c tr = life c hs := by
  have hsim := hrun.simulation (U := Slot.lts h) (Q := Q) (t := s₀.slot h)
    (S := fun tr s hs v => v = s.slot h ∧ Owned (tr₀ ++ tr) s ∧
      (∀ c, .opened c h ∈ tr₀ ++ tr → life c tr = life c hs) ∧ ∀ e ∈ hs, e ∈ tr) ?_
    ⟨rfl, by simpa using hown, fun _ _ => rfl, nofun⟩
  · obtain ⟨hs, v, hrun', rfl, hown', hlife, -⟩ := hsim
    exact ⟨hs, hrun', hown', hlife⟩
  · rintro tr s a es s' hs _ ⟨rfl, hown, hlife, hsub⟩ hQ hstep
    have hown' := hown.step hstep
    rw [List.append_assoc] at hown'
    -- a step that leaves the slot alone, and adds nothing to the lives of its objects
    have hother : (s.slot h).Same (s'.slot h) →
        (∀ c, .opened c h ∈ tr₀ ++ (tr ++ es) → .opened c h ∈ tr₀ ++ tr ∧ life c es = []) →
        ∃ es' v', (Slot.lts h).Run Q (s.slot h) es' v' ∧ v' = s'.slot h ∧
          Owned (tr₀ ++ (tr ++ es)) s' ∧
          (∀ c, .opened c h ∈ tr₀ ++ (tr ++ es) → life c (tr ++ es) = life c (hs ++ es')) ∧
          ∀ e ∈ hs ++ es', e ∈ tr ++ es := by
      intro hsame hnone
      refine ⟨[], _, Lts.Run.single hQ (.other _ _ hsame), rfl, hown', fun c hc => ?_,
        fun e he => ?_⟩
      · obtain ⟨hin, hes⟩ := hnone c hc
        rw [life_append, hes, List.append_nil, List.append_nil, hlife c hin]
      · rw [List.append_nil] at he
        exact List.mem_append_left _ (hsub e he)
    cases step_works hstep with
    | nowhere hes hcreated hsame =>
        refine hother (hsame h) fun c hc => ⟨?_, ?_⟩
        · rw [← List.append_assoc] at hc
          exact (List.mem_append.1 hc).resolve_right (not_mem_of_history_nil hes rfl)
        · rw [← life_history, hes, life_nil]
    | on k hk hsame =>
        by_cases hh : h = k
        · subst hh
          refine ⟨history es, _, Lts.Run.single hQ hk, rfl, hown', fun c hc => ?_,
            fun e he => ?_⟩
          · rw [life_append, life_append, life_history]
            congr 1
            rw [← List.append_assoc] at hc
            rcases Owned.opens hk hc with hin | ⟨-, rfl, -⟩
            · exact hlife c hin
            · -- a new number: it occurs in neither trace yet
              have hfresh : ∀ e ∈ tr, e.about ≠ some s.created := fun e he hc =>
                absurd (hown.fresh (List.mem_append_right _ he) hc) (Nat.lt_irrefl _)
              rw [life_eq_nil hfresh, life_eq_nil fun e he => hfresh e (hsub e he)]
          · rcases List.mem_append.1 he with he | he
            · exact List.mem_append_left _ (hsub e he)
            · exact List.mem_append_right _ (List.mem_of_mem_filter he)
        · refine hother (hsame h hh) fun c hc => ⟨?_, ?_⟩
          · rw [← List.append_assoc] at hc
            rcases Owned.opens hk hc with hin | ⟨hhk, -, -⟩
            · exact hin
            · exact absurd (Fin.ext hhk) hh
          · refine life_eq_nil fun e he hec => hh (Fin.ext ?_)
            have hk' := hown.about hk he hec
            rw [List.append_assoc] at hk'
            exact hown'.unique hc hk'

/-- The same for a run from the start. -/
theorem slot_reach {Q : Slot → Action → Prop} {h : Fin N}
    (hrun : (plugin N).Reach (fun s a => Q (s.slot h) a) tr s) :
    ∃ hs, (Slot.lts h).Run Q .initial hs (s.slot h) ∧ Owned tr s ∧
      ∀ c, .opened c h ∈ tr → life c tr = life c hs := by
  exact slot_run owned_initial hrun

end System
end MysqlPlugin
