import Mathlib.Algebra.BigOperators.Group.Finset.Basic
import Mathlib.Data.Fintype.Basic
import MysqlPlugin.Buffers
import MysqlPlugin.ExtraVars

set_option autoImplicit false

/-! # Who owns the string buffers

A buffer that a native hands over belongs to an entry of `queryQueue`; the extra variables then pass
to an entry of `threadQueue`, and while `ProcessTick` delivers that entry, to its local copy. The old
entry keeps its pointer for a while, so what a handle owns (`Slot.owned`) is less than what its entries
point to while a thread has taken something over from the front.

The code loses buffers in a few places, which `System.KeepsOwners` lists: two natives do not delete
what they allocated, the worker drops the extra variables of a failed query, `ProcessTick` those of an
entry that no script got, and closing a handle those of everything queued. In every run without these
the live buffers are exactly those the entries of the queues hold, and none is deleted twice
(`System.buffers_owned`). -/

namespace MysqlPlugin

open Prog Natives

/-! ## The entries -/

/-- An entry for `OnMysqlQuery` has no extra variables. -/
def QueryInfo.Typed (q : QueryInfo) : Prop := q.type = .TYPE_ID → q.extraVars = none

theorem Natives.typed_of_accepted {N : ℕ} {name : NativeName} {env : Env} {amx : Memory}
    {params : List Cell} {w w' : World N} {r : Cell} {es : List Event}
    (hok : name.function env amx params w = .ok (r, w', es)) {c : ℕ} {q : QueryInfo}
    (hq : .accepted c q ∈ es) : q.Typed := by
  intro htype
  have hname := ((effect_function env amx params name _ _ _ _ hok).change.accepts
    ((System.mem_history rfl).2 hq)).1
  cases name with
  | mysql_query => exact extraVars_of_query hok hq
  | mysql_query_array =>
      obtain ⟨harray, -⟩ := extraVars_of_query_array hok hq
      rw [harray] at htype
      cases htype
  | _ => cases hname

/-- What the worker takes over from an entry and what it leaves are the buffers of the entry. -/
theorem QueryInfo.Typed.buffers {q : QueryInfo} (hq : q.Typed) :
    q.buffers = {q.query.ptr} + q.toThreadInfo.buffers := by
  unfold QueryInfo.buffers ThreadInfo.buffers QueryInfo.toThreadInfo
  cases htype : q.type with
  | TYPE_ARRAY => rfl
  | TYPE_ID =>
      rw [hq htype]
      rfl

theorem QueryInfo.buffers_of_none {q : QueryInfo} (hq : q.extraVars = none) :
    q.buffers = {q.query.ptr} := by
  rw [QueryInfo.buffers, hq]
  exact add_zero _

@[simp] theorem ThreadInfo.buffers_eq_zero {t : ThreadInfo} :
    t.buffers = 0 ↔ t.extraVars = none := by
  unfold ThreadInfo.buffers
  cases t.extraVars <;> simp

/-- What is deleted after a callback and what is left are the buffers of the copy. -/
theorem ThreadInfo.buffers_afterCallback (t : ThreadInfo) :
    t.buffers = heap.spend (t.released.map .delete) + t.afterCallback.buffers := by
  unfold ThreadInfo.released ThreadInfo.afterCallback ThreadInfo.buffers
  cases t.type with
  | TYPE_ID => simp
  | TYPE_ARRAY => cases t.extraVars <;> simp [Event.released]

/-! ## What a handle owns -/

/-- The worker has handed the extra variables of its entry over, or there were none: what is left of
    the front of `queryQueue` is its text. -/
def WorkerStmt.textOnly : WorkerStmt → Bool
  | .logResult _ | .pop _ => true
  | _ => false

/-- What the front of `queryQueue` owns. -/
def QueryInfo.ownedBy (q : QueryInfo) (worker : Option (ℕ × WorkerStmt)) : Multiset ℕ :=
  if worker.any (·.2.textOnly) then {q.query.ptr} else q.buffers

/-- The buffers the entries of `queryQueue` own. -/
def MySQL.ownedQueries (o : MySQL) (worker : Option (ℕ × WorkerStmt)) : Multiset ℕ :=
  match o.queryQueue with
  | [] => 0
  | front :: rest => front.ownedBy worker + (rest : Multiset QueryInfo).bind QueryInfo.buffers

/-- Who owns the buffers of the front of `threadQueue`: the copy of `ProcessTick`, if it has one. -/
def MySQL.owner (o : MySQL) (tick : Option (ℕ × TickStmt)) (front : ThreadInfo) : ThreadInfo :=
  match tick with
  | none => front
  | some (src, stmt) => if o.conn = src then stmt.held.getD front else front

/-- The buffers the entries of `threadQueue` and the copy of `ProcessTick` own. -/
def MySQL.ownedResults (o : MySQL) (tick : Option (ℕ × TickStmt)) : Multiset ℕ :=
  match o.threadQueue with
  | [] => 0
  | front :: rest =>
    (o.owner tick front).buffers + (rest : Multiset ThreadInfo).bind ThreadInfo.buffers

/-- The buffers a handle owns. -/
def Slot.owned (v : Slot) : Multiset ℕ :=
  match v.object with
  | none => 0
  | some o => o.ownedQueries v.worker + o.ownedResults v.tick

namespace MySQL

variable {o o' : MySQL} {w place : Option (ℕ × WorkerStmt)} {t : Option (ℕ × TickStmt)}

theorem ownedQueries_cons {front : QueryInfo} {rest : List QueryInfo}
    (hq : o.queryQueue = front :: rest) :
    o.ownedQueries w = front.ownedBy w + (rest : Multiset QueryInfo).bind QueryInfo.buffers := by
  rw [ownedQueries, hq]

theorem ownedResults_cons {front : ThreadInfo} {rest : List ThreadInfo}
    (hq : o.threadQueue = front :: rest) :
    o.ownedResults t =
      (o.owner t front).buffers + (rest : Multiset ThreadInfo).bind ThreadInfo.buffers := by
  rw [ownedResults, hq]

/-- Nothing but the queue and how far the worker is matters ... -/
theorem ownedQueries_congr (hq : o'.queryQueue = o.queryQueue)
    (hw : place.any (·.2.textOnly) = w.any (·.2.textOnly)) :
    o'.ownedQueries place = o.ownedQueries w := by
  unfold ownedQueries QueryInfo.ownedBy
  rw [hq, hw]

/-- ... and likewise for the other queue. -/
theorem ownedResults_congr {t' : Option (ℕ × TickStmt)} (hq : o'.threadQueue = o.threadQueue)
    (ht : ∀ front, o'.owner t' front = o.owner t front) : o'.ownedResults t' = o.ownedResults t := by
  unfold ownedResults
  rw [hq]
  simp only [ht]

theorem owner_congr (hconn : o'.conn = o.conn) (front : ThreadInfo) :
    o'.owner t front = o.owner t front := by
  unfold owner
  rw [hconn]

/-- Unless the worker took something over, the entries own what they point to. -/
theorem ownedQueries_eq (hw : w.any (·.2.textOnly) = false) :
    o.ownedQueries w = (o.queryQueue : Multiset QueryInfo).bind QueryInfo.buffers := by
  unfold ownedQueries QueryInfo.ownedBy
  rw [hw]
  cases o.queryQueue with
  | nil => rfl
  | cons front rest => exact (Multiset.cons_bind _ _ _).symm

theorem ownedResults_eq (ht : ∀ front, o.owner t front = front) :
    o.ownedResults t = (o.threadQueue : Multiset ThreadInfo).bind ThreadInfo.buffers := by
  unfold ownedResults
  simp only [ht]
  cases o.threadQueue with
  | nil => rfl
  | cons front rest => exact (Multiset.cons_bind _ _ _).symm

/-- An entry at the end of `queryQueue` adds its buffers, unless the worker holds an entry that is not
    there. -/
theorem ownedQueries_append {q : QueryInfo} (hq : o'.queryQueue = o.queryQueue ++ [q])
    (hw : w.any (·.2.textOnly) = true → o.queryQueue ≠ []) :
    o'.ownedQueries w = o.ownedQueries w + q.buffers := by
  cases hqueue : o.queryQueue with
  | nil =>
      have hno : ¬ w.any (·.2.textOnly) = true := fun hany => hw hany hqueue
      rw [hqueue] at hq
      rw [ownedQueries_cons hq, ownedQueries, hqueue, QueryInfo.ownedBy, if_neg hno]
      simp
  | cons front rest =>
      rw [hqueue, List.cons_append] at hq
      rw [ownedQueries_cons hq, ownedQueries_cons hqueue, add_assoc]
      congr 1
      rw [← Multiset.coe_add, Multiset.add_bind]
      simp

/-- The same for `threadQueue` and `ProcessTick`. -/
theorem ownedResults_append {x : ThreadInfo} (hconn : o'.conn = o.conn)
    (hq : o'.threadQueue = o.threadQueue ++ [x])
    (ht : o.threadQueue = [] → ∀ front, o.owner t front = front) :
    o'.ownedResults t = o.ownedResults t + x.buffers := by
  cases hqueue : o.threadQueue with
  | nil =>
      rw [hqueue] at hq
      rw [ownedResults_cons hq, owner_congr hconn, ht hqueue, ownedResults, hqueue]
      simp
  | cons front rest =>
      rw [hqueue, List.cons_append] at hq
      rw [ownedResults_cons hq, ownedResults_cons hqueue, owner_congr hconn, add_assoc]
      congr 1
      rw [← Multiset.coe_add, Multiset.add_bind]
      simp

/-- The text of the front is owned. -/
theorem mem_ownedQueries {q : QueryInfo} (hq : o.queryQueue.head? = some q) :
    q.query.ptr ∈ o.ownedQueries w := by
  obtain ⟨rest, hqueue⟩ := List.head?_eq_some_iff.1 hq
  rw [ownedQueries_cons hqueue, Multiset.mem_add]
  refine .inl ?_
  unfold QueryInfo.ownedBy QueryInfo.buffers
  split <;> simp

/-- The extra variables in the copy of `ProcessTick` are owned. -/
theorem mem_ownedResults {src : ℕ} {stmt : TickStmt} {x : ThreadInfo} {p : CharPtr}
    (hqueue : o.threadQueue ≠ []) (hconn : o.conn = src) (hx : stmt.held = some x)
    (hp : x.extraVars = some p) : p.ptr ∈ o.ownedResults (some (src, stmt)) := by
  obtain ⟨front, rest, hq⟩ := List.exists_cons_of_ne_nil hqueue
  rw [ownedResults_cons hq, Multiset.mem_add]
  refine .inl ?_
  simp [owner, hconn, hx, ThreadInfo.buffers, hp]

end MySQL

/-! ## What the threads hold -/

/-- What the worker is about to hand over is what its entry becomes, and on the way through the
    failure branch there is nothing to hand over. -/
def WorkerStmt.Transfers : WorkerStmt → Prop
  | .setParsing q t | .push q t => t = q.toThreadInfo
  | .clearParsing q | .callError q | .inError q => q.extraVars = none
  | _ => True

namespace Slot

/-- The discipline of a step on slot `h`: the buffers it takes from their owner are deleted. -/
structure KeepsOwners (h : ℕ) (v : Slot) (a : Action) : Prop where
  /-- The worker takes its failure branch with entries only that have no extra variables. -/
  failed : ∀ lib src q o, a = .worker lib → v.worker = some (src, .branch q) → v.object = some o →
    o.state ≠ 0 → q.extraVars = none
  /-- `ProcessTick` pops entries only whose extra variables are deleted. -/
  delivered : ∀ src t o front rest, a = .tick → v.tick = some (src, .pop t) → v.object = some o →
    o.threadQueue = front :: rest → (o.owner v.tick front).extraVars = none
  /-- The slot is closed only when nothing is owned. -/
  closed : v.Closes h a → v.owned = 0

/-- Where the threads stand in their bodies, as far as they hold buffers. The worker's entry is still
    the front of the queue; `ProcessTick` is on the object it took its entry from, or there is another
    one by now and the copy holds nothing. -/
structure Kept (v : Slot) : Prop where
  front : ∀ src stmt q, v.worker = some (src, stmt) → stmt.held = some q →
    ∃ o, v.object = some o ∧ o.queryQueue.head? = some q
  transfers : ∀ src stmt, v.worker = some (src, stmt) → stmt.Transfers
  copy : ∀ src stmt t, v.tick = some (src, stmt) → stmt.held = some t →
    (∃ o, v.object = some o ∧ o.conn = src ∧ o.threadQueue ≠ []) ∨
      (t.extraVars = none ∧ ∀ o, v.object = some o → o.conn ≠ src)

variable {h : ℕ} {a : Action} {v v' : Slot} {hs : List Event}

theorem kept_initial : initial.Kept :=
  ⟨fun _ _ _ hw => by simp [initial] at hw, fun _ _ hw => by simp [initial] at hw,
    fun _ _ _ ht => by simp [initial] at ht⟩

/-- A slot that owns nothing holds no entry for the worker, and no buffer for `ProcessTick`. -/
theorem Kept.of_owned_eq_zero (hv : v.Kept) (howned : v.owned = 0) :
    (∀ src stmt, v.worker = some (src, stmt) → stmt.held = none) ∧
      ∀ src stmt t, v.tick = some (src, stmt) → stmt.held = some t → t.extraVars = none := by
  have hno : ∀ p, p ∉ v.owned := by
    rw [howned]
    exact Multiset.notMem_zero
  refine ⟨fun src stmt hw => ?_, fun src stmt t ht hheld => ?_⟩
  · cases hq : stmt.held with
    | none => rfl
    | some q =>
        obtain ⟨o, ho, hfront⟩ := hv.front src stmt q hw hq
        refine absurd ?_ (hno q.query.ptr)
        rw [owned, ho]
        exact Multiset.mem_add.2 (.inl (MySQL.mem_ownedQueries hfront))
  · rcases hv.copy src stmt t ht hheld with ⟨o, ho, hconn, hqueue⟩ | ⟨hnone, -⟩
    · cases hp : t.extraVars with
      | none => rfl
      | some p =>
          refine absurd ?_ (hno p.ptr)
          rw [owned, ho, ht]
          exact Multiset.mem_add.2 (.inr (MySQL.mem_ownedResults hqueue hconn hheld hp))
    · exact hnone

/-- The worker has handed over only what it took from the queue. -/
theorem Kept.queue_ne_nil (hv : v.Kept) {o : MySQL} (ho : v.object = some o)
    (hw : v.worker.any (·.2.textOnly) = true) : o.queryQueue ≠ [] := by
  cases hworker : v.worker with
  | none => simp [hworker] at hw
  | some p =>
      obtain ⟨src, stmt⟩ := p
      have hfront : ∀ q, stmt.held = some q → o.queryQueue ≠ [] := by
        intro q hq hnil
        obtain ⟨o₁, ho₁, hhead⟩ := hv.front src stmt q hworker hq
        cases ho.symm.trans ho₁
        simp [hnil] at hhead
      rw [hworker] at hw
      cases stmt with
      | logResult q | pop q => exact hfront q rfl
      | _ => simp [WorkerStmt.textOnly] at hw

/-- `ProcessTick` holds no copy of an entry of an empty queue. -/
theorem Kept.owner_eq (hv : v.Kept) {o : MySQL} (ho : v.object = some o) (hq : o.threadQueue = [])
    (front : ThreadInfo) : o.owner v.tick front = front := by
  unfold MySQL.owner
  cases ht : v.tick with
  | none => rfl
  | some p =>
      obtain ⟨src, stmt⟩ := p
      by_cases hconn : o.conn = src
      · simp only [if_pos hconn]
        cases hheld : stmt.held with
        | none => rfl
        | some t =>
            rcases hv.copy src stmt t ht hheld with ⟨o₁, ho₁, -, hqueue⟩ | ⟨-, hother⟩
            · cases ho.symm.trans ho₁
              exact absurd hq hqueue
            · exact absurd hconn (hother o ho)
      · simp only [if_neg hconn]

/-- The worker goes from statement to statement with what it holds. -/
theorem transfers_of_does {lib : Answers} {src : ℕ} {o o' : MySQL} {stmt : WorkerStmt}
    {es : List Event} {place : Option (ℕ × WorkerStmt)} (hd : stmt.Does lib src o es o' place)
    (hfailed : ∀ q, stmt = .branch q → o.state ≠ 0 → q.extraVars = none)
    (ht : stmt.Transfers) {src' : ℕ} {stmt' : WorkerStmt} (hplace : place = some (src', stmt')) :
    stmt'.Transfers := by
  cases hd with
  | skip | pop => cases hplace
  | copy | submit | answer | logExecuted | push | returned | logResult =>
      cases hplace
      trivial
  | succeeded q hs =>
      cases hplace
      exact rfl
  | failed q hs =>
      cases hplace
      exact hfailed q rfl hs
  | setParsing | clearParsing | report =>
      cases hplace
      exact ht

/-- What the copy of `ProcessTick` holds it took from the object, or it held it before. -/
theorem copy_of_does {pAmx : List AMX} {src : ℕ} {u u' : Option MySQL} {stmt : TickStmt}
    {es : List Event} {place : Option (ℕ × TickStmt)} (hd : stmt.Does pAmx src u es u' place)
    (hcopy : ∀ t, stmt.held = some t → (∃ o, u = some o ∧ o.conn = src ∧ o.threadQueue ≠ []) ∨
      (t.extraVars = none ∧ ∀ o, u = some o → o.conn ≠ src)) {src' : ℕ} {stmt' : TickStmt}
    {t : ThreadInfo} (hplace : place = some (src', stmt')) (ht : stmt'.held = some t) :
    (∃ o, u' = some o ∧ o.conn = src' ∧ o.threadQueue ≠ []) ∨
      (t.extraVars = none ∧ ∀ o, u' = some o → o.conn ≠ src') := by
  cases hd with
  | skip | clear => cases hplace
  | take o t' rest hq hp =>
      cases hplace
      exact .inl ⟨o, rfl, rfl, by rw [hq]; nofun⟩
  | done | pass | exec =>
      cases hplace
      exact hcopy t ht
  | returned o t' amx scripts =>
      cases hplace
      cases ht
      refine (hcopy t' rfl).imp_right fun hnone => ⟨?_, hnone.2⟩
      unfold ThreadInfo.afterCallback
      split
      · rfl
      · exact hnone.1
  | pop =>
      cases hplace
      cases ht

theorem Step.kept (hstep : Step h a v hs v') (hkeeps : v.KeepsOwners h a) (hg : v.Gated)
    (hv : v.Kept) : v'.Kept := by
  refine ⟨fun src stmt q hw hq => ?_, fun src stmt hw => ?_, fun src stmt t ht hheld => ?_⟩
  · -- the entry the worker holds stays the front of the queue
    cases hstep with
    | other _ _ hsame =>
        rw [hsame.worker] at hw
        rw [hsame.object]
        exact hv.front src stmt q hw hq
    | workerEnter =>
        cases hw
        cases hq
    | worker lib ha o o' src₀ stmt₀ place _ t n hd =>
        refine ⟨o', rfl, ?_⟩
        have hold : ∀ q, stmt₀.held = some q → o.queryQueue.head? = some q := by
          intro q hq
          obtain ⟨o₁, ho₁, hfront⟩ := hv.front src₀ stmt₀ q rfl hq
          cases ho₁
          exact hfront
        cases hd with
        | skip | pop => cases hw
        | copy q' rest hqueue hp =>
            cases hw
            cases hq
            rw [hqueue]
            rfl
        | submit | answer | logExecuted | succeeded | failed | setParsing | push | clearParsing
        | report | returned | logResult =>
            cases hw
            exact hold q hq
    | tickEnter => exact hv.front src stmt q hw hq
    | tick ha pAmx v₀ v₁ src₀ stmt₀ place _ w n hd =>
        obtain ⟨o, ho, hfront⟩ := hv.front src stmt q hw hq
        obtain rfl : v₀ = some o := ho
        cases v₁ with
        | none =>
            have hconn := hd.conn
            simp at hconn
        | some o' =>
            obtain ⟨o₁, ho₁, -, hqueue, -⟩ := hd.queries rfl
            cases ho₁
            exact ⟨o', rfl, by rw [hqueue]; exact hfront⟩
    | native thread name amx params lib ha hh o o' es w t hr n n' hn hc =>
        obtain ⟨o₁, ho₁, hfront⟩ := hv.front src stmt q hw hq
        cases ho₁
        obtain ⟨more, hmore⟩ := hc.queries
        refine ⟨o', rfl, ?_⟩
        rw [hmore, List.head?_append, hfront]
        rfl
    | opened =>
        obtain ⟨o, ho, -⟩ := hv.front src stmt q hw hq
        cases ho
    | closed thread amx params lib ha hp hh o hconn w t hr n n' hn =>
        have howned := hkeeps.closed ⟨thread, amx, params, lib, ha, hp, hh, hconn⟩
        rw [(hv.of_owned_eq_zero howned).1 src stmt hw] at hq
        cases hq
  · -- what the worker is about to push has the buffers of its entry
    cases hstep with
    | other _ _ hsame => exact hv.transfers src stmt (hsame.worker ▸ hw)
    | workerEnter =>
        cases hw
        trivial
    | worker lib ha o o' src₀ stmt₀ place _ t n hd =>
        refine transfers_of_does hd (fun q hq => ?_) (hv.transfers src₀ stmt₀ rfl) hw
        subst hq
        exact hkeeps.failed lib src₀ q o ha rfl rfl
    | tickEnter | tick | native | opened | closed => exact hv.transfers src stmt hw
  · -- while the copy holds a buffer, the entry it was made of is in the queue
    cases hstep with
    | other _ _ hsame =>
        rw [hsame.tick] at ht
        rw [hsame.object]
        exact hv.copy src stmt t ht hheld
    | workerEnter => exact hv.copy src stmt t ht hheld
    | worker lib ha o o' src₀ stmt₀ place _ t₀ n hd =>
        obtain ⟨more, hmore⟩ := hd.results
        rcases hv.copy src stmt t ht hheld with ⟨o₁, ho₁, hconn, hqueue⟩ | ⟨hnone, hother⟩
        · cases ho₁
          refine .inl ⟨o', rfl, hd.conn.trans hconn, ?_⟩
          rw [hmore]
          exact List.append_ne_nil_of_left_ne_nil hqueue more
        · refine .inr ⟨hnone, fun o₁ ho₁ => ?_⟩
          cases ho₁
          rw [hd.conn]
          exact hother o rfl
    | tickEnter =>
        cases ht
        cases hheld
    | tick ha pAmx v₀ v₁ src₀ stmt₀ place _ w n hd =>
        exact copy_of_does hd (fun t => hv.copy src₀ stmt₀ t rfl) ht hheld
    | native thread name amx params lib ha hh o o' es w t₀ hr n n' hn hc =>
        rcases hv.copy src stmt t ht hheld with ⟨o₁, ho₁, hconn, hqueue⟩ | ⟨hnone, hother⟩
        · cases ho₁
          refine .inl ⟨o', rfl, hc.conn.trans hconn, ?_⟩
          rw [hc.handOver.2]
          exact hqueue
        · refine .inr ⟨hnone, fun o₁ ho₁ => ?_⟩
          cases ho₁
          rw [hc.conn]
          exact hother o rfl
    | opened thread amx params lib ha env log print w t₀ hr n n' hn =>
        -- the new object has a new number
        rcases hv.copy src stmt t ht hheld with ⟨o₁, ho₁, -⟩ | ⟨hnone, -⟩
        · cases ho₁
        · refine .inr ⟨hnone, fun o₁ ho₁ => ?_⟩
          cases ho₁
          have hlt : src < n := hg.fresh src (.inr (.inr ⟨src, stmt, ht, rfl⟩))
          exact Nat.ne_of_gt hlt
    | closed thread amx params lib ha hp hh o hconn w t₀ hr n n' hn =>
        have howned := hkeeps.closed ⟨thread, amx, params, lib, ha, hp, hh, hconn⟩
        exact .inr ⟨(hv.of_owned_eq_zero howned).2 src stmt t ht hheld, fun o₁ ho₁ => by cases ho₁⟩

/-- An entry that waits was there before, or a native put it there. -/
theorem Step.entries (hstep : Step h a v hs v') {o' : MySQL} (ho' : v'.object = some o')
    {q : QueryInfo} (hq : q ∈ o'.queryQueue) :
    (∃ o, v.object = some o ∧ q ∈ o.queryQueue) ∨ ∃ c, .accepted c q ∈ hs := by
  cases hstep with
  | other _ _ hsame => exact .inl ⟨o', hsame.object.symm.trans ho', hq⟩
  | workerEnter | tickEnter => exact .inl ⟨o', ho', hq⟩
  | worker lib ha o o₁ src stmt place _ t n hd =>
      cases ho'
      refine .inl ⟨o, rfl, ?_⟩
      cases hd with
      | pop q' front rest hqueue =>
          rw [hqueue]
          exact List.mem_cons_of_mem _ hq
      | _ => exact hq
  | tick ha pAmx v₀ v₁ src stmt place _ w n hd =>
      obtain ⟨o, ho, -, hqueue, -⟩ := hd.queries ho'
      exact .inl ⟨o, ho, hqueue ▸ hq⟩
  | native thread name amx params lib ha hh o o₁ es w t hr n n' hn hc =>
      cases ho'
      cases hc with
      | observed h =>
          rw [h.same] at hq
          exact .inl ⟨o, rfl, hq⟩
      | accepted q' hn hr hm hs hclient =>
          rcases List.mem_append.1 hq with hq | hq
          · exact .inl ⟨o, rfl, hq⟩
          · cases List.mem_singleton.1 hq
            exact .inr ⟨o.conn, by simp [hs]⟩
      | connected | executed | stored | freed => exact .inl ⟨o, rfl, hq⟩
  | opened =>
      cases ho'
      cases hq
  | closed => cases ho'

end Slot

/-! ## The steps in balance -/

/-- A statement of the worker deletes what the front loses, or hands it over. -/
theorem WorkerStmt.Does.owned {lib : Answers} {src : ℕ} {o o' : MySQL} {stmt : WorkerStmt}
    {es : List Event} {place : Option (ℕ × WorkerStmt)} (hd : stmt.Does lib src o es o' place)
    (hfront : ∀ q, stmt.held = some q → o.queryQueue.head? = some q) (htransfers : stmt.Transfers)
    (htyped : ∀ q ∈ o.queryQueue, q.Typed) {tick : Option (ℕ × TickStmt)}
    (hcopy : o.threadQueue = [] → ∀ front, o.owner tick front = front) :
    o.ownedQueries (some (src, stmt)) + o.ownedResults tick =
      heap.spend (stmt.deeds o) + (o'.ownedQueries place + o'.ownedResults tick) := by
  have hsame : ∀ {o₁ : MySQL} {place₁ : Option (ℕ × WorkerStmt)}, o₁.conn = o.conn →
      o₁.queryQueue = o.queryQueue → o₁.threadQueue = o.threadQueue →
      place₁.any (·.2.textOnly) = stmt.textOnly →
      o.ownedQueries (some (src, stmt)) + o.ownedResults tick =
        o₁.ownedQueries place₁ + o₁.ownedResults tick := by
    intro o₁ place₁ hconn hqueries hresults hplace
    rw [MySQL.ownedQueries_congr (w := some (src, stmt)) hqueries hplace,
      MySQL.ownedResults_congr hresults (MySQL.owner_congr hconn)]
  cases hd with
  | skip | copy | answer | logExecuted | succeeded | failed | setParsing | clearParsing | report
  | logResult =>
      exact (hsame rfl rfl rfl rfl).trans (zero_add _).symm
  | submit q =>
      have hspend : heap.spend ((WorkerStmt.submit q).deeds o) = 0 := by
        simp [WorkerStmt.deeds, Event.released]
      rw [hspend, zero_add]
      exact hsame rfl rfl rfl rfl
  | push q t =>
      -- the extra variables go over to the other queue
      obtain ⟨rest, hqueue⟩ := List.head?_eq_some_iff.1 (hfront q rfl)
      have hq := (htyped q (by simp [hqueue])).buffers
      rw [show q.toThreadInfo = t from htransfers.symm] at hq
      have hqueue' : MySQL.queryQueue { o with threadQueue := o.threadQueue ++ [t] } = q :: rest :=
        hqueue
      have hresults : MySQL.ownedResults { o with threadQueue := o.threadQueue ++ [t] } tick =
          o.ownedResults tick + t.buffers :=
        MySQL.ownedResults_append rfl rfl hcopy
      rw [MySQL.ownedQueries_cons hqueue, MySQL.ownedQueries_cons hqueue', hresults]
      simp only [QueryInfo.ownedBy, WorkerStmt.textOnly, Option.any_some, if_true, if_false,
        Bool.false_eq_true, hq, WorkerStmt.deeds, Book.spend_nil, zero_add]
      ac_rfl
  | returned q =>
      obtain ⟨rest, hqueue⟩ := List.head?_eq_some_iff.1 (hfront q rfl)
      have hq := QueryInfo.buffers_of_none htransfers
      rw [MySQL.ownedQueries_cons hqueue, MySQL.ownedQueries_cons hqueue]
      simp only [QueryInfo.ownedBy, WorkerStmt.textOnly, Option.any_some, if_true, if_false,
        Bool.false_eq_true, hq, WorkerStmt.deeds, Book.spend_nil, zero_add]
  | pop q front rest hqueue =>
      have hq := hfront q rfl
      rw [hqueue] at hq
      cases hq
      rw [MySQL.ownedQueries_cons hqueue, MySQL.ownedQueries_eq rfl]
      simp only [QueryInfo.ownedBy, WorkerStmt.textOnly, Option.any_some, if_true,
        WorkerStmt.deeds, Book.spend_cons, Book.spend_nil, heap_spent, Event.released, add_zero,
        add_assoc]
      rfl

/-- What an object owns while `ProcessTick` is at a statement on its slot, and what it owns after
    it. -/
theorem TickStmt.Does.owned {pAmx : List AMX} {src h n : ℕ} {u u' : Option MySQL} {stmt : TickStmt}
    {es : List Event} {place : Option (ℕ × TickStmt)} {w : Option (ℕ × WorkerStmt)}
    (hd : stmt.Does pAmx src u es u' place)
    (hcopy : ∀ t, stmt.held = some t → (∃ o, u = some o ∧ o.conn = src ∧ o.threadQueue ≠ []) ∨
      (t.extraVars = none ∧ ∀ o, u = some o → o.conn ≠ src))
    (hdelivered : ∀ t o front rest, stmt = .pop t → u = some o → o.threadQueue = front :: rest →
      (o.owner (some (src, stmt)) front).extraVars = none) :
    (Slot.mk u w (some (src, stmt)) n).owned =
      heap.spend (stmt.deeds h) + (Slot.mk u' w place n).owned := by
  have hquiet : ∀ {ds : List Event}, heap.spend ds = 0 →
      (Slot.mk u w (some (src, stmt)) n).owned = (Slot.mk u' w place n).owned →
      (Slot.mk u w (some (src, stmt)) n).owned = heap.spend ds + (Slot.mk u' w place n).owned := by
    intro ds hspend heq
    rw [heq, hspend, zero_add]
  have hobject : ∀ {o o' : MySQL}, o'.queryQueue = o.queryQueue → o'.threadQueue = o.threadQueue →
      (∀ front, o'.owner place front = o.owner (some (src, stmt)) front) →
      (Slot.mk (some o) w (some (src, stmt)) n).owned = (Slot.mk (some o') w place n).owned := by
    intro o o' hqueries hresults howner
    simp only [Slot.owned]
    rw [MySQL.ownedQueries_congr hqueries rfl, MySQL.ownedResults_congr hresults howner]
  cases hd with
  | skip o hskip =>
      refine hquiet rfl (hobject rfl rfl fun front => ?_)
      simp [MySQL.owner, TickStmt.held]
  | take o t rest hq hp =>
      -- the copy is the front
      refine hquiet rfl ?_
      simp [Slot.owned, MySQL.ownedResults_cons hq, MySQL.owner, TickStmt.held]
  | done v t =>
      refine hquiet rfl ?_
      cases u with
      | none => rfl
      | some o => exact hobject rfl rfl fun front => rfl
  | pass v t amx scripts hf =>
      refine hquiet (by simp [TickStmt.deeds, hf]) ?_
      cases u with
      | none => rfl
      | some o => exact hobject rfl rfl fun front => rfl
  | exec v t amx scripts hf =>
      refine hquiet (by simp [TickStmt.deeds, hf, Event.released]) ?_
      cases u with
      | none => rfl
      | some o => exact hobject rfl rfl fun front => rfl
  | returned o t amx scripts =>
      rcases hcopy t rfl with ⟨o₁, ho₁, hconn, hqueue⟩ | ⟨hnone, hother⟩
      · -- the copy owns the buffer that is deleted
        cases ho₁
        obtain ⟨front, rest, hq⟩ := List.exists_cons_of_ne_nil hqueue
        simp only [Slot.owned, MySQL.ownedResults_cons hq, MySQL.owner, if_pos hconn, TickStmt.held,
          Option.getD_some, t.buffers_afterCallback, TickStmt.deeds]
        ac_rfl
      · -- the object is another one by now, and the copy owns nothing
        have hreleased : t.released = [] := by
          unfold ThreadInfo.released
          rw [hnone]
          cases t.type <;> rfl
        refine hquiet (by simp [TickStmt.deeds, hreleased]) (hobject rfl rfl fun front => ?_)
        simp [MySQL.owner, hother o rfl]
  | pop o t front rest hq =>
      have hnone := hdelivered t o front rest rfl rfl hq
      rw [← ThreadInfo.buffers_eq_zero] at hnone
      -- the copy has given its buffer up, so the front can go
      refine hquiet rfl ?_
      have hresults : MySQL.ownedResults { o with threadQueue := rest } (some (src, .clear t)) =
          (rest : Multiset ThreadInfo).bind ThreadInfo.buffers := by
        refine MySQL.ownedResults_eq fun front => ?_
        simp [MySQL.owner, TickStmt.held]
      have hqueries : MySQL.ownedQueries { o with threadQueue := rest } w = o.ownedQueries w :=
        MySQL.ownedQueries_congr rfl rfl
      simp only [Slot.owned, MySQL.ownedResults_cons hq, hnone, hresults, hqueries, zero_add]
  | clear o t =>
      refine hquiet rfl (hobject rfl rfl fun front => ?_)
      simp [MySQL.owner, TickStmt.held]

/-- What a native hands over, the object owns. -/
theorem MySQL.Change.owned {name : NativeName} {params : List Cell} {lib : Answers} {o o' : MySQL}
    {es : List Event} (hc : o.Change name params lib es o') {w : Option (ℕ × WorkerStmt)}
    {t : Option (ℕ × TickStmt)} (hw : w.any (·.2.textOnly) = true → o.queryQueue ≠ []) :
    o'.ownedQueries w + o'.ownedResults t =
      o.ownedQueries w + o.ownedResults t + handedOver es := by
  have hsame : ∀ {o₁ : MySQL}, o₁.conn = o.conn → o₁.queryQueue = o.queryQueue →
      o₁.threadQueue = o.threadQueue → history es = [] →
      o₁.ownedQueries w + o₁.ownedResults t =
        o.ownedQueries w + o.ownedResults t + handedOver es := by
    intro o₁ hconn hqueries hresults hs
    rw [MySQL.ownedQueries_congr hqueries rfl,
      MySQL.ownedResults_congr hresults (MySQL.owner_congr hconn), ← handedOver_history, hs,
      handedOver_nil, add_zero]
  cases hc with
  | observed h => exact hsame (by rw [h.same]) (by rw [h.same]) (by rw [h.same]) h.silent
  | accepted q hn hr hm hs hclient =>
      have hqueries : (o.accepting q).ownedQueries w = o.ownedQueries w + q.buffers :=
        MySQL.ownedQueries_append rfl hw
      have hresults : (o.accepting q).ownedResults t = o.ownedResults t :=
        MySQL.ownedResults_congr rfl (MySQL.owner_congr rfl)
      rw [hqueries, hresults, ← handedOver_history, hs]
      simp only [handedOver_cons, Event.handedOver, handedOver_nil, add_zero]
      ac_rfl
  | connected c hn hc hs => exact hsame rfl rfl rfl hs
  | executed statement hn hr hs => exact hsame rfl rfl rfl hs
  | stored hn hres hstate hs => exact hsame rfl rfl rfl hs
  | freed hn hs => exact hsame rfl rfl rfl hs

theorem WorkerStmt.gain_deeds (stmt : WorkerStmt) (o : MySQL) : heap.gain (stmt.deeds o) = 0 := by
  cases stmt <;> rfl

theorem gain_deletes (ps : List ℕ) : heap.gain (ps.map .delete) = 0 := by
  induction ps with
  | nil => rfl
  | cons p ps ih => simp [Event.allocated, ih]

theorem TickStmt.gain_deeds (stmt : TickStmt) (h : ℕ) : heap.gain (stmt.deeds h) = 0 := by
  cases stmt with
  | test | pop | clear => rfl
  | each t scripts =>
      cases scripts with
      | nil => rfl
      | cons amx scripts =>
          rw [TickStmt.deeds]
          split <;> rfl
  | inCallback t amx scripts => exact gain_deletes t.released

/-- What is owned depends on the object, on what the worker handed over and on what `ProcessTick` has
    a copy of. -/
theorem Slot.owned_congr {v v' : Slot} (ho : v'.object = v.object)
    (hw : v'.worker.any (·.2.textOnly) = v.worker.any (·.2.textOnly))
    (ht : ∀ (o : MySQL) (front : ThreadInfo), o.owner v'.tick front = o.owner v.tick front) :
    v'.owned = v.owned := by
  unfold Slot.owned
  rw [ho]
  cases v.object with
  | none => rfl
  | some o =>
      simp only [MySQL.ownedQueries_congr rfl hw, MySQL.ownedResults_congr rfl (ht o)]

/-! ## The plugin -/

namespace System

variable {N : ℕ} {s s' : System N} {a : Action} {tr es : List Event}

/-- The buffers the handles own. -/
def owned (s : System N) : Multiset ℕ := ∑ h : Fin N, (s.slot h).owned

/-- The discipline of a step: the buffers it allocates and those it takes from their owner are deleted
    or get a new one. -/
structure KeepsOwners (s : System N) (a : Action) : Prop where
  slot : ∀ h : Fin N, (s.slot h).KeepsOwners h a
  native : ∀ thread name amx params lib, a = .native thread name amx params lib →
    s.toWorld.Frees name params

/-- What the accounts rest on: where the threads stand, and what waits. -/
structure Kept (s : System N) : Prop where
  slot : ∀ h : Fin N, (s.slot h).Kept
  gated : ∀ h : Fin N, (s.slot h).Gated
  typed : ∀ (h : Fin N) (o : MySQL), s.my h = some o → ∀ q ∈ o.queryQueue, q.Typed

theorem kept_initial : (initial : System N).Kept :=
  ⟨fun _ => Slot.kept_initial, fun _ => Slot.gated_initial, fun _ _ ho => by cases ho⟩

theorem Kept.step (hs : s.Kept) (hkeeps : s.KeepsOwners a) (hstep : s.step a = .next s' es) :
    s'.Kept := by
  refine ⟨fun h => ?_, fun h => ?_, fun h o' ho' q hq => ?_⟩
  · obtain ⟨hs', hslot⟩ := step_slot hstep h
    exact hslot.kept (hkeeps.slot h) (hs.gated h) (hs.slot h)
  · obtain ⟨hs', hslot⟩ := step_slot hstep h
    exact hslot.gated (hs.gated h)
  · have hold : (s.slot h).Same (s'.slot h) → q.Typed := fun hsame =>
      hs.typed h o' (hsame.object.symm.trans ho') q hq
    cases step_works hstep with
    | nowhere hes hcreated hsame => exact hold (hsame h)
    | on k hk hsame =>
        by_cases hne : h = k
        · subst hne
          rcases hk.entries ho' hq with ⟨o, ho, hin⟩ | ⟨c, hacc⟩
          · exact hs.typed h o ho q hin
          · obtain ⟨thread, name, amx, params, lib, rfl⟩ := hk.thread_of_accepted hacc
            cases step_acts hstep with
            | native _ _ _ _ _ hr r w _ hok =>
                exact typed_of_accepted hok ((mem_history rfl).1 hacc)
        · exact hold (hsame h hne)

/-- A step on one slot is in balance if it is on that slot. -/
theorem balanced_on (k : Fin N) (hother : ∀ h, h ≠ k → (s'.slot h).owned = (s.slot h).owned)
    (hk : heap.Balanced (s.slot k).owned es (s'.slot k).owned) :
    heap.Balanced s.owned es s'.owned := by
  have hsum : ∀ s : System N,
      s.owned = (s.slot k).owned + ∑ h ∈ Finset.univ.erase k, (s.slot h).owned := fun s =>
    (Finset.add_sum_erase Finset.univ (fun h => (s.slot h).owned) (Finset.mem_univ k)).symm
  have hrest : ∑ h ∈ Finset.univ.erase k, (s'.slot h).owned =
      ∑ h ∈ Finset.univ.erase k, (s.slot h).owned :=
    Finset.sum_congr rfl fun h hh => hother h (Finset.ne_of_mem_erase hh)
  rw [hsum s, hsum s', hrest]
  exact hk.frame _

/-- A step that takes nothing from anybody is in balance if its events are. -/
theorem balanced_nowhere (hsame : ∀ h, (s'.slot h).owned = (s.slot h).owned)
    (hgain : heap.gain es = 0) (hspend : heap.spend es = 0) : heap.Balanced s.owned es s'.owned := by
  have howned : s'.owned = s.owned := Finset.sum_congr rfl fun h _ => hsame h
  rw [Book.Balanced, hgain, hspend, howned, add_zero, zero_add]

theorem balanced_worker {lib : Answers} (hm : s.WorkerMove lib es s') (hd : deeds es = s.workerDeeds)
    (hkept : s.Kept) :
    heap.Balanced s.owned es s'.owned := by
  cases hm with
  | restart i hw hfree =>
      refine balanced_nowhere (fun h => Slot.owned_congr rfl ?_ fun _ _ => rfl) rfl rfl
      simp [slot, hw]
  | enter i o hw ho =>
      refine balanced_nowhere (fun h => Slot.owned_congr rfl ?_ fun _ _ => rfl) rfl rfl
      simp only [slot, hw, WorkerPc.place]
      split <;> rfl
  | work k src stmt o o' place _ hw ho hdoes =>
      have hdeeds : deeds es = stmt.deeds o := by
        rw [hd, workerDeeds, hw]
        simp [ho]
      have hplace : (s.slot k).worker = some (src, stmt) := by simp [slot, hw]
      refine balanced_on k (fun h hne => Slot.owned_congr ?_ ?_ fun _ _ => rfl) ?_
      · exact Function.update_of_ne hne _ _
      · simp only [slot, hw, WorkerPc.place_after_of_ne hne, WorkerPc.place_body_of_ne hne]
      · have howned := hdoes.owned (fun q hq => ?_)
          ((hkept.slot k).transfers src stmt hplace) (hkept.typed k o ho)
          ((hkept.slot k).owner_eq ho)
        · rw [Book.Balanced, ← gain_deeds, ← spend_deeds, hdeeds, WorkerStmt.gain_deeds, add_zero]
          simpa [Slot.owned, slot, hw, ho] using howned
        · obtain ⟨o₁, ho₁, hfront⟩ := (hkept.slot k).front src stmt q hplace hq
          cases ho.symm.trans ho₁
          exact hfront

theorem balanced_tick (hm : s.TickMove es s') (hd : deeds es = s.tickDeeds)
    (hkept : s.Kept) (hkeeps : s.KeepsOwners .tick) :
    heap.Balanced s.owned es s'.owned := by
  cases hm with
  | start hm =>
      refine balanced_nowhere (fun h => Slot.owned_congr rfl rfl fun _ _ => ?_) rfl rfl
      simp [slot, hm]
  | finish i hm hfree =>
      refine balanced_nowhere (fun h => Slot.owned_congr rfl rfl fun _ _ => ?_) rfl rfl
      simp [slot, hm]
  | enter i o hm ho =>
      refine balanced_nowhere (fun h => Slot.owned_congr rfl rfl fun o front => ?_) rfl rfl
      simp only [slot, hm, MainPc.place]
      split
      · simp [MySQL.owner, TickStmt.held]
      · rfl
  | work k src stmt v place _ hm hdoes =>
      have hdeeds : deeds es = stmt.deeds k := by
        rw [hd, tickDeeds, hm]
      have hplace : (s.slot k).tick = some (src, stmt) := by simp [slot, hm]
      refine balanced_on k (fun h hne => Slot.owned_congr ?_ rfl fun o front => ?_) ?_
      · exact Function.update_of_ne hne _ _
      · simp only [slot, hm, MainPc.place_after_of_ne hne, MainPc.place_body_of_ne hne]
      · have howned := hdoes.owned (h := k) (n := s.created) (w := (s.slot k).worker)
          (fun t => (hkept.slot k).copy src stmt t hplace) (fun t o front rest hstmt ho hq => ?_)
        · rw [Book.Balanced, ← gain_deeds, ← spend_deeds, hdeeds, TickStmt.gain_deeds, add_zero]
          simpa [slot, hm] using howned
        · subst hstmt
          have hnone := (hkeeps.slot k).delivered src t o front rest rfl hplace ho hq
          rwa [hplace] at hnone

theorem balanced_native {thread : Thread} {name : NativeName} {amx : Memory} {params : List Cell}
    {lib : Answers} {r : Cell} {w : World N}
    (hok : name.function ⟨lib, s.pAmx⟩ amx params s.toWorld = .ok (r, w, es))
    (hkept : s.Kept) (hkeeps : s.KeepsOwners (.native thread name amx params lib)) :
    heap.Balanced s.owned es (owned { s with toWorld := w }) := by
  -- the call's own book: what it allocates it deletes or hands over
  have hcalls := ((hkeeps.native thread name amx params lib rfl).balanced hok).1
  rw [Book.Balanced, zero_add, add_zero, calls_gain, calls_spend] at hcalls
  have hother : ∀ {k : Fin N} {v : Option MySQL}, w.my = Function.update s.my k v →
      ∀ h, h ≠ k → (slot { s with toWorld := w } h).owned = (s.slot h).owned := by
    intro k v hmy h hne
    refine Slot.owned_congr ?_ rfl fun _ _ => rfl
    simp [slot, hmy, Function.update_of_ne hne]
  have hnone : ∀ {ds : List Event}, history es = ds → handedOver ds = 0 →
      heap.gain es = heap.spend es := by
    rintro ds rfl hds
    rw [hcalls, ← handedOver_history, hds, add_zero]
  -- what it hands over is what the object changed by it gains
  obtain ⟨-, -, hchange⟩ := effect_function _ amx params name _ _ _ _ hok
  cases hchange with
  | none hmy hs =>
      have howned : owned { s with toWorld := w } = s.owned := by
        refine Finset.sum_congr rfl fun h _ => Slot.owned_congr ?_ rfl fun _ _ => rfl
        simp [slot, hmy]
      rw [Book.Balanced, howned, hnone hs rfl, add_comm]
  | object k o o' hh ho hmy hc =>
      refine balanced_on k (hother hmy) ?_
      have howned := hc.owned (w := (s.slot k).worker) (t := (s.slot k).tick) fun hany => ?_
      · rw [Book.Balanced, hcalls]
        simp only [Slot.owned, slot, ho, hmy, Function.update_self] at howned ⊢
        rw [howned]
        ac_rfl
      · exact (hkept.slot k).queue_ne_nil ho hany
  | opened k env hn hfree hcreated log print hmy hs =>
      refine balanced_on k (hother hmy) ?_
      have hempty : s.my k = none := by simpa using List.find?_some hfree
      rw [Book.Balanced, hnone hs rfl]
      simp only [Slot.owned, slot, hempty, hmy, Function.update_self]
      exact add_comm _ _
  | closed k o hn hp hh ho hconn hmy hs =>
      subst hn
      refine balanced_on k (hother hmy) ?_
      have hcloses : (s.slot k).Closes k (.native thread .mysql_close amx params lib) :=
        ⟨thread, amx, params, lib, rfl, hp, by simpa [NativeName.handle, NativeName.handleAt] using hh,
          by simpa [slot, ho] using hconn⟩
      rw [Book.Balanced, (hkeeps.slot k).closed hcloses, hnone hs rfl]
      simp only [Slot.owned, slot, hmy, Function.update_self]
      exact add_comm _ _

/-- **Every step keeps the book of the plugin**, if it keeps to the discipline. -/
theorem Kept.balanced (hs : s.Kept) (hkeeps : s.KeepsOwners a) (hstep : s.step a = .next s' es) :
    heap.Balanced s.owned es s'.owned := by
  cases step_acts hstep with
  | worker lib _ _ hm hd => exact balanced_worker hm hd hs
  | tick _ _ hm hd => exact balanced_tick hm hd hs hkeeps
  | native thread name amx params lib hr r w _ hok => exact balanced_native hok hs hkeeps
  | load | unload => exact balanced_nowhere (fun h => rfl) rfl rfl

/-- The buffers it allocates are new. -/
theorem KeepsOwners.fresh (hkeeps : s.KeepsOwners a) (hstep : s.step a = .next s' es) :
    heap.Fresh s.created s'.created es := by
  have hcreated := created_of_step hstep
  have hnone : ∀ {ds : List Event}, deeds es = ds → heap.gain ds = 0 →
      heap.Fresh s.created s'.created es := by
    rintro ds rfl hgain
    rw [gain_deeds] at hgain
    exact .of_gain_eq_zero hcreated hgain
  cases step_acts hstep with
  | worker lib _ _ hm hd =>
      refine hnone hd ?_
      unfold workerDeeds
      split
      · rfl
      · rename_i k src stmt hw
        cases s.my k with
        | none => rfl
        | some o => exact stmt.gain_deeds o
  | tick _ _ hm hd =>
      refine hnone hd ?_
      unfold tickDeeds
      split
      · rfl
      · rfl
      · exact TickStmt.gain_deeds _ _
  | native thread name amx params lib hr r w _ hok =>
      obtain ⟨hle, hbounds, hnodup⟩ :=
        ((hkeeps.native thread name amx params lib rfl).balanced hok).2
      exact ⟨hle, hbounds, hnodup⟩
  | load | unload => exact .of_gain_eq_zero le_rfl rfl

/-! ## Live buffers -/

theorem count_spend (tr : List Event) (p : ℕ) : (heap.spend tr).count p = tr.count (.delete p) := by
  induction tr with
  | nil => rfl
  | cons e tr ih =>
      have he : e.released.count p = if e == .delete p then 1 else 0 := by
        cases e with
        | delete p' => simp [Event.released, Multiset.count_singleton, Eq.comm (a := p)]
        | _ => exact Multiset.count_zero p
      rw [Book.spend_cons, Multiset.count_add, ih, heap_spent, he, List.count_cons, add_comm]

theorem mem_gain_heap {tr : List Event} {p : ℕ} : p ∈ heap.gain tr ↔ .newString p ∈ tr := by
  rw [Book.mem_gain]
  constructor
  · rintro ⟨e, he, hp⟩
    cases e with
    | newString p' =>
        cases Multiset.mem_singleton.1 hp
        exact he
    | _ => exact absurd hp (Multiset.notMem_zero p)
  · intro h
    exact ⟨_, h, Multiset.mem_singleton_self p⟩

theorem mem_spend_heap {tr : List Event} {p : ℕ} : p ∈ heap.spend tr ↔ .delete p ∈ tr := by
  rw [← Multiset.count_pos, count_spend, List.count_pos_iff]

/-- In every run that keeps to the discipline no buffer is deleted twice, and in every state of it,
    also in the middle of an iteration, the live buffers are those the handles own. -/
theorem live_iff_owned (hrun : (plugin N).Reach KeepsOwners tr s) :
    (∀ p, tr.count (.delete p) ≤ 1) ∧
      ∀ p, (.newString p ∈ tr ∧ .delete p ∉ tr) ↔ p ∈ s.owned := by
  have hkept := hrun.strengthen (I := Kept)
    (fun _ _ _ _ hs hkeeps hstep => hs.step hkeeps hstep) kept_initial
  have hbal : heap.Balanced (initial : System N).owned tr s.owned :=
    hkept.balanced owned fun _ _ _ _ hk hstep => hk.2.balanced hk.1 hstep
  have hfresh : heap.Fresh (initial : System N).created s.created tr :=
    hkept.fresh (fun s => s.created) fun _ _ _ _ hk hstep => hk.1.fresh hstep
  have hinitial : (initial : System N).owned = 0 := Finset.sum_eq_zero fun h _ => rfl
  rw [hinitial] at hbal
  obtain ⟨hspend, hlive⟩ := Book.live_iff hbal hfresh.nodup
  refine ⟨fun p => ?_, fun p => ?_⟩
  · rw [← count_spend]
    exact Multiset.nodup_iff_count_le_one.1 hspend p
  · rw [← mem_gain_heap, ← mem_spend_heap]
    exact hlive p

/-- No thread has taken anything over from an entry that is still in its queue. -/
def Settled (s : System N) : Prop :=
  (∀ h src stmt, s.worker = .body h src stmt → stmt.textOnly = false) ∧
    ∀ h src stmt, s.main = .body h src stmt → stmt.held = none

/-- Then the handles own what their entries point to. -/
theorem Settled.mem_owned (hs : s.Settled) {p : ℕ} :
    p ∈ s.owned ↔ ∃ h o, s.my h = some o ∧ p ∈ o.buffers := by
  have hslot : ∀ h o, s.my h = some o → (s.slot h).owned = o.buffers := by
    intro h o ho
    have hworker : (s.worker.place h).any (·.2.textOnly) = false := by
      cases hw : s.worker with
      | scan i => rfl
      | body k src stmt =>
          simp only [WorkerPc.place]
          split
          · exact hs.1 k src stmt hw
          · rfl
    have htick : ∀ front, o.owner (s.main.place h) front = front := by
      intro front
      cases hm : s.main with
      | idle | scan => rfl
      | body k src stmt =>
          simp only [MainPc.place, MySQL.owner]
          split
          · rfl
          · rename_i hplace
            split at hplace
            · cases hplace
              rw [hs.2 k src stmt hm]
              simp
            · cases hplace
    simp only [Slot.owned, slot, ho, MySQL.buffers, MySQL.ownedQueries_eq hworker,
      MySQL.ownedResults_eq htick]
  rw [owned, Multiset.mem_sum]
  constructor
  · rintro ⟨h, -, hp⟩
    cases ho : s.my h with
    | none =>
        simp [Slot.owned, slot, ho] at hp
    | some o =>
        rw [hslot h o ho] at hp
        exact ⟨h, o, ho, hp⟩
  · rintro ⟨h, o, ho, hp⟩
    exact ⟨h, Finset.mem_univ h, by rwa [hslot h o ho]⟩

/-- **The live buffers are those the entries of the queues hold**, and no buffer is deleted twice, in
    every run whose steps keep to the discipline. -/
theorem buffers_owned (hrun : (plugin N).Reach KeepsOwners tr s) :
    (∀ p, tr.count (.delete p) ≤ 1) ∧
      (s.Settled → ∀ p, (.newString p ∈ tr ∧ .delete p ∉ tr) ↔
        ∃ h o, s.my h = some o ∧ p ∈ o.buffers) := by
  obtain ⟨hcount, hlive⟩ := live_iff_owned hrun
  exact ⟨hcount, fun hs p => (hlive p).trans hs.mem_owned⟩

namespace Books

/-- A threaded array query is executed and delivered, then a plain one is accepted. -/
def actions : List Action :=
  [.load ⟨0, ["OnMysqlQueryArray"]⟩, Script.mysql_init, Script.mysql_connect 0,
    .native .main .mysql_query_array Script.memory [16, 0, 7, 0, 0] {}] ++
    Script.work 10 ++ Script.ticks 9 ++ [Script.mysql_query 8 0 0]

def reached : System 2 × List Event :=
  ((plugin 2).exec actions System.initial).getD (System.initial, [])

/-- A test that is sufficient for the discipline. -/
def keepsOwners (s : System 2) : Action → Bool
  | .worker _ =>
    match s.worker with
    | .body h _ (.branch _) => (s.my h).all (·.state = 0)
    | _ => true
  | .tick =>
    match s.main with
    | .body h src (.pop t) => t.extraVars.isNone && (s.my h).all (·.conn = src)
    | _ => true
  | .native _ name _ params _ =>
    name ≠ .mysql_close && name ≠ .mysql_fetch_row && (name ≠ .mysql_query_array || param params 2 ≠ -1)
  | .load _ | .unload _ => true

theorem keepsOwners_of_test {s : System 2} {a : Action} (h : keepsOwners s a = true) :
    s.KeepsOwners a := by
  refine ⟨fun k => ⟨?_, ?_, ?_⟩, ?_⟩
  · rintro lib src q o rfl hw ho hs
    cases hworker : s.worker with
    | scan i => simp [slot, hworker] at hw
    | body k' src' stmt =>
        simp only [slot, hworker, WorkerPc.place, Option.ite_none_right_eq_some,
          Option.some.injEq, Prod.mk.injEq] at hw
        obtain ⟨rfl, rfl, rfl⟩ := hw
        have hmy : s.my k' = some o := ho
        simp [keepsOwners, hworker, hmy] at h
        exact absurd h hs
  · rintro src t o front rest rfl ht ho hq
    cases hmain : s.main with
    | idle | scan => simp [slot, hmain] at ht
    | body k' src' stmt =>
        have hplace := ht
        simp only [slot, hmain, MainPc.place, Option.ite_none_right_eq_some,
          Option.some.injEq, Prod.mk.injEq] at hplace
        obtain ⟨rfl, rfl, rfl⟩ := hplace
        have hmy : s.my k' = some o := ho
        simp [keepsOwners, hmain, hmy] at h
        simp [ht, MySQL.owner, h, TickStmt.held]
  · rintro ⟨thread, amx, params, lib, rfl, -⟩
    simp [keepsOwners] at h
  · rintro thread name amx params lib rfl
    simp [keepsOwners] at h
    rintro (hrow | ⟨harray, hr⟩)
    · exact absurd hrow h.1.2
    · exact absurd hr (h.2.resolve_left (not_not.2 harray))

theorem array_query_balanced :
    (∀ p, reached.2.count (.delete p) ≤ 1) ∧
      (reached.1.Settled → ∀ p, (.newString p ∈ reached.2 ∧ .delete p ∉ reached.2) ↔
        ∃ h o, reached.1.my h = some o ∧ p ∈ o.buffers) :=
  buffers_owned (Machine.run_of_exec (M := plugin 2) (P := KeepsOwners)
    (show (plugin 2).exec actions System.initial = some (reached.1, reached.2) from rfl)
    (Machine.obeys_of_check (p := keepsOwners) rfl fun _ _ => keepsOwners_of_test))

/-- A handle is connected, and a row is fetched on it although none is stored. -/
def fetching : List Action :=
  [Script.mysql_init, Script.mysql_connect 0,
    .native .main .mysql_fetch_row Script.memory [12, 0, 0, 0] {}]

def fetched : System 1 × List Event :=
  ((plugin 1).exec fetching System.initial).getD (System.initial, [])

/-- The splitter of `mysql_fetch_row` stays allocated, and no entry holds it. -/
theorem splitter_not_owned :
    ¬ ∀ (N : ℕ) (tr : List Event) (s : System N), (plugin N).Reach (fun _ _ => True) tr s →
      s.Settled → ∀ p, (.newString p ∈ tr ∧ .delete p ∉ tr) ↔
        ∃ h o, s.my h = some o ∧ p ∈ o.buffers := by
  intro hall
  have hreach : (plugin 1).Reach (fun _ _ => True) fetched.2 fetched.1 :=
    Machine.run_of_exec (M := plugin 1) (P := fun _ _ => True)
      (show (plugin 1).exec fetching System.initial = some (fetched.1, fetched.2) from rfl)
      (Machine.obeys_all _ _)
  have hsettled : fetched.1.Settled := by
    refine ⟨fun h src stmt hw => ?_, fun h src stmt hm => ?_⟩
    · cases (show fetched.1.worker = .scan 0 from rfl).symm.trans hw
    · cases (show fetched.1.main = .idle from rfl).symm.trans hm
  obtain ⟨h, o, ho, hp⟩ := (hall 1 _ _ hreach hsettled 5).1 ⟨by decide, by decide⟩
  -- both queues of the object are empty
  obtain rfl : h = 0 := Subsingleton.elim h 0
  cases ho
  exact absurd hp (by decide)

end Books

end System

end MysqlPlugin
