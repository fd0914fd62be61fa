import Mathlib.Data.List.Forall2
import MysqlPlugin.Handshake
import MysqlPlugin.Life
import MysqlPlugin.Lib.Pipeline

set_option autoImplicit false

/-! # No query is lost, duplicated or reordered

The life of an object tells which entries were accepted, submitted, executed, reported, taken and
delivered. Together with what the object and the two threads hold at the moment they form the ledger
of a pipeline (`Lib/Pipeline.lean`), which every step on the slot keeps (`Slot.keeps_conserves`).

Two things are assumed about the run. The slot is not closed under a thread, since then that thread
goes on with another object. And no native overwrites `state` between the return of the worker's
`mysql_real_query` and the worker's test of it: only synchronous queries and `mysql_free_result` could. -/

namespace MysqlPlugin

open Natives Pipeline

/-! ## The history of an object -/

namespace History

def accepted (L : List Event) : List QueryInfo :=
  L.filterMap fun | .accepted _ q => some q | _ => none

def submitted (L : List Event) : List QueryInfo :=
  L.filterMap fun | .submitted _ q => some q | _ => none

/-- The executed entries, and whether the server's answer was a success. -/
def executed (L : List Event) : List (QueryInfo × Bool) :=
  L.filterMap fun | .executed _ q code _ => some (q, decide (code = 0)) | _ => none

def reported (L : List Event) : List QueryInfo :=
  L.filterMap fun | .reported _ q => some q | _ => none

def taken (L : List Event) : List ThreadInfo :=
  L.filterMap fun | .taken _ t => some t | _ => none

def delivered (L : List Event) : List ThreadInfo :=
  L.filterMap fun | .delivered _ t => some t | _ => none

variable (L es : List Event)

@[simp] theorem accepted_append : accepted (L ++ es) = accepted L ++ accepted es :=
  List.filterMap_append ..

@[simp] theorem submitted_append : submitted (L ++ es) = submitted L ++ submitted es :=
  List.filterMap_append ..

@[simp] theorem executed_append : executed (L ++ es) = executed L ++ executed es :=
  List.filterMap_append ..

@[simp] theorem reported_append : reported (L ++ es) = reported L ++ reported es :=
  List.filterMap_append ..

@[simp] theorem taken_append : taken (L ++ es) = taken L ++ taken es := List.filterMap_append ..

@[simp] theorem delivered_append : delivered (L ++ es) = delivered L ++ delivered es :=
  List.filterMap_append ..

end History

open History

/-! ## What is under way -/

/-- The worker is between the return of `mysql_real_query` and its test of `state`. -/
def WorkerStmt.testing : WorkerStmt → Bool
  | .logExecuted _ | .branch _ => true
  | _ => false

/-- A synchronous query or `mysql_free_result`: the natives that overwrite the member `state`. -/
def Action.overwrites : Action → Bool
  | .native _ name _ params _ =>
    name = .mysql_free_result || (name.isQuery && param params 2 = -1)
  | _ => false

namespace Slot

/-- The accepted entries that are not submitted yet; the front stays in the queue for a while after it
    was. -/
def unsubmitted (o : MySQL) : Option (ℕ × WorkerStmt) → List QueryInfo
  | none | some (_, .test) | some (_, .submit _) => o.queryQueue
  | some _ => o.queryQueue.tail

/-- The accepted entries that are not executed yet. -/
def waiting (o : MySQL) : Option (ℕ × WorkerStmt) → List QueryInfo
  | none | some (_, .test) | some (_, .submit _) | some (_, .executing _ _) => o.queryQueue
  | some _ => o.queryQueue.tail

/-- The entry the server is working on. -/
def executing : Option (ℕ × WorkerStmt) → List QueryInfo
  | some (_, .executing q _) => [q]
  | _ => []

/-- The results that are not delivered yet: held by the worker after its success, or in
    `threadQueue`. -/
def inFlight (o : MySQL) : Option (ℕ × WorkerStmt) → List ThreadInfo
  | some (_, .logExecuted q) | some (_, .branch q) => if o.state = 0 then [q.toThreadInfo] else []
  | some (_, .setParsing _ t) | some (_, .push _ t) => [t]
  | _ => o.threadQueue

/-- The failed entry that is not handed to `Error` yet. -/
def unreported (o : MySQL) : Option (ℕ × WorkerStmt) → List QueryInfo
  | some (_, .logExecuted q) | some (_, .branch q) => if o.state = 0 then [] else [q]
  | some (_, .clearParsing q) | some (_, .callError q) => [q]
  | _ => []

/-- The entry `ProcessTick` has taken and not popped yet. -/
def beingDelivered (o : MySQL) : Option (ℕ × TickStmt) → List ThreadInfo
  | some (_, .each _ _) | some (_, .inCallback _ _ _) | some (_, .pop _) => o.threadQueue
  | _ => []

/-- The action overwrites the member `state` of the object in slot `h`. -/
def Overwrites (h : ℕ) (a : Action) : Prop :=
  ∃ thread name amx params lib, a = .native thread name amx params lib ∧
    name.handle params = some (h : ℤ) ∧
      (name = .mysql_free_result ∨ (name.isQuery = true ∧ param params 2 = -1))

/-- `state` is not overwritten between the worker's assignment and the worker's test. -/
def SparesState (h : ℕ) (v : Slot) (a : Action) : Prop :=
  Overwrites h a → ∀ src stmt, v.worker = some (src, stmt) → stmt.testing = false

theorem sparesState_of_not_overwrites {h : ℕ} {v : Slot} {a : Action} (ha : a.overwrites = false) :
    v.SparesState h a := by
  rintro ⟨thread, name, amx, params, lib, rfl, -, rfl | ⟨hn, hr⟩⟩
  · cases ha
  · simp [Action.overwrites, hn, hr] at ha

/-! ## Accepted and submitted -/

/-- The accepted entries are the submitted ones and those still queued. -/
def Submits : Property := fun L o w _ => accepted L = submitted L ++ unsubmitted o w

/-- An entry that joins the queue of an object the worker is soundly at joins what waits in it. -/
theorem tail_append {q : QueryInfo} {queue : List QueryInfo} (hne : queue ≠ []) :
    (queue ++ [q]).tail = queue.tail ++ [q] := List.tail_append_of_ne_nil hne

theorem unsubmitted_accepting {o : MySQL} {w : Option (ℕ × WorkerStmt)} (q : QueryInfo)
    (hs : ∀ src stmt, w = some (src, stmt) → stmt.Sound src o) :
    unsubmitted (o.accepting q) w = unsubmitted o w ++ [q] := by
  cases w with
  | none => rfl
  | some place =>
      obtain ⟨src, stmt⟩ := place
      have hsound := hs src stmt rfl
      have hne : ∀ q', stmt.held = some q' → o.queryQueue ≠ [] := by
        intro q' hq' hnil
        have hfront := hsound.front q' hq'
        rw [hnil] at hfront
        simp at hfront
      cases stmt with
      | test | submit => rfl
      | executing q' | logExecuted q' | branch q' | setParsing q' | push q' | clearParsing q'
      | callError q' | inError q' | logResult q' | pop q' => exact tail_append (hne q' rfl)

theorem waiting_accepting {o : MySQL} {w : Option (ℕ × WorkerStmt)} (q : QueryInfo)
    (hs : ∀ src stmt, w = some (src, stmt) → stmt.Sound src o) :
    waiting (o.accepting q) w = waiting o w ++ [q] := by
  rcases w with _ | ⟨src, stmt⟩
  · rfl
  · cases stmt with
    | executing => rfl
    | test | submit | logExecuted | branch | setParsing | push | clearParsing | callError | inError
    | logResult | pop => exact unsubmitted_accepting q hs

section Congr

variable {o o' : MySQL} {w : Option (ℕ × WorkerStmt)}

theorem unsubmitted_congr (hq : o'.queryQueue = o.queryQueue) :
    unsubmitted o' w = unsubmitted o w := by
  rcases w with _ | ⟨src, stmt⟩
  · exact hq
  · cases stmt <;> simp only [unsubmitted, hq]

theorem waiting_congr (hq : o'.queryQueue = o.queryQueue) : waiting o' w = waiting o w := by
  rcases w with _ | ⟨src, stmt⟩
  · exact hq
  · cases stmt <;> simp only [waiting, hq]

theorem inFlight_congr (ht : o'.threadQueue = o.threadQueue)
    (hs : o'.state = o.state ∨ ∀ src stmt, w = some (src, stmt) → stmt.testing = false) :
    inFlight o' w = inFlight o w := by
  rcases w with _ | ⟨src, stmt⟩
  · exact ht
  · rcases hs with hs | hs
    · cases stmt <;> simp only [inFlight, ht, hs]
    · have htest := hs src stmt rfl
      cases stmt with
      | logExecuted | branch => cases htest
      | setParsing | push => rfl
      | test | submit | executing | clearParsing | callError | inError | logResult | pop => exact ht

theorem unreported_congr
    (hs : o'.state = o.state ∨ ∀ src stmt, w = some (src, stmt) → stmt.testing = false) :
    unreported o' w = unreported o w := by
  rcases w with _ | ⟨src, stmt⟩
  · rfl
  · rcases hs with hs | hs
    · cases stmt <;> simp only [unreported, hs]
    · have htest := hs src stmt rfl
      cases stmt with
      | logExecuted | branch => cases htest
      | test | submit | executing | setParsing | push | clearParsing | callError | inError
      | logResult | pop => rfl

end Congr

/-- What a native adds to the history of queries: at most one accepted entry. -/
theorem submits_native {L es : List Event} {o o' : MySQL} {name : NativeName}
    {params : List Cell} {lib : Answers} {w : Option (ℕ × WorkerStmt)}
    (hs : ∀ src stmt, w = some (src, stmt) → stmt.Sound src o)
    (hK : accepted L = submitted L ++ unsubmitted o w) (hc : o.Change name params lib es o') :
    accepted (L ++ history es) = submitted (L ++ history es) ++ unsubmitted o' w := by
  have hsame : ∀ {o''}, o''.queryQueue = o.queryQueue → history es = [] →
      accepted (L ++ history es) = submitted (L ++ history es) ++ unsubmitted o'' w := by
    intro o'' hq hes
    rw [hes, List.append_nil, unsubmitted_congr hq, hK]
  cases hc with
  | observed h => exact hsame (by rw [h.same]) h.silent
  | accepted q hn hr hm hes hclient =>
      rw [hes, unsubmitted_accepting q hs, accepted_append, submitted_append, hK]
      simp [accepted, submitted]
  | connected c hn hc hes => exact hsame rfl hes
  | executed statement hn hr hes => exact hsame rfl hes
  | stored hn hres hstate hes => exact hsame rfl hes
  | freed hn hes => exact hsame rfl hes

theorem keeps_submits (h : ℕ) (P : Slot → Action → Prop) : Keeps h P Submits where
  opened n env log print t := rfl
  workerEnter hK := hK
  worker {L o src stmt t n a lib es o' place} _ hsound hK hd := by
    unfold Submits at *
    cases hd with
    | skip | copy => simpa [accepted, submitted, unsubmitted] using hK
    | submit q hm =>
        -- the front moves from the waiting to the submitted entries
        obtain ⟨rest, hq⟩ : ∃ rest, o.queryQueue = q :: rest :=
          List.head?_eq_some_iff.1 (hsound.front q rfl)
        simp only [unsubmitted, hq] at hK
        simp [accepted, submitted, unsubmitted, MySQL.submitting, hq] at hK ⊢
        exact hK
    | answer | logExecuted | succeeded | failed | setParsing | push | clearParsing | report
    | returned | logResult =>
        simpa [accepted, submitted, unsubmitted, MySQL.answered] using hK
    | pop q front rest hq => simpa [accepted, submitted, unsubmitted, hq] using hK
  tickEnter hK := hK
  tick {L o w src stmt n a pAmx es o' place} _ hK hd := by
    unfold Submits at *
    obtain ⟨o₁, ho₁, -, hq, -⟩ := hd.queries rfl
    cases ho₁
    rw [unsubmitted_congr hq]
    cases hd <;> simpa [accepted, submitted] using hK
  native _ hs _ hK hc := submits_native hs hK hc

/-! ## The whole ledger -/

/-- The ledger of a history, with what is under way at its end. -/
def LedgerOf (L : List Event) (waiting : List QueryInfo) (inFlight : List ThreadInfo)
    (unreported : List QueryInfo) : Prop :=
  Ledger QueryInfo.toThreadInfo (accepted L) (executed L) waiting (delivered L) inFlight
    (reported L) unreported

/-- The ledger of an object, the entry being executed and the entry being delivered. -/
structure Conserves (L : List Event) (o : MySQL) (w : Option (ℕ × WorkerStmt))
    (t : Option (ℕ × TickStmt)) : Prop where
  ledger : LedgerOf L (waiting o w) (inFlight o w) (unreported o w)
  submitted : submitted L = (executed L).map Prod.fst ++ executing w
  taken : taken L = delivered L ++ beingDelivered o t

/-- The discipline of the runs the ledger is about, with the handshake that holds in them. -/
def Disciplined (h : ℕ) (v : Slot) (a : Action) : Prop :=
  v.ClosesQuietly h a ∧ v.SparesState h a ∧ ∃ p, v.Follows p

/-- While the worker has work in hand, nothing else is in flight. -/
theorem box_of_role {o : MySQL} {src : ℕ} {stmt : WorkerStmt} {t : Option (ℕ × TickStmt)} {n : ℕ}
    (hf : ∃ p, Follows ⟨some o, some (src, stmt), t, n⟩ p) (hr : stmt.role ≠ .away) :
    o.threadQueue = [] := by
  obtain ⟨p, hp⟩ := hf
  have hprod : stmt.role = p.producer := hp.producer
  rw [hp.box]
  cases p with
  | free | producing | raised | emptied => rfl
  | full | consuming => exact absurd hprod hr

theorem beingDelivered_congr {o o' : MySQL} (ht : o'.threadQueue = o.threadQueue)
    (t : Option (ℕ × TickStmt)) : beingDelivered o' t = beingDelivered o t := by
  rcases t with _ | ⟨src, stmt⟩
  · rfl
  · cases stmt <;> simp only [beingDelivered, ht]

theorem beingDelivered_of_consumer {t : Option (ℕ × TickStmt)} (hc : consumer t ≠ .working)
    (o : MySQL) : beingDelivered o t = [] := by
  rcases t with _ | ⟨src, stmt⟩
  · rfl
  · cases stmt with
    | test | clear => rfl
    | each | inCallback | pop => exact absurd rfl hc

section Ledger

variable {L es : List Event} {waiting : List QueryInfo} {inFlight : List ThreadInfo}
  {unreported : List QueryInfo} {q : QueryInfo} {t : ThreadInfo} {c : ℕ}

/-- Events that are no entries of the ledger. -/
theorem LedgerOf.quiet (hl : LedgerOf L waiting inFlight unreported) (ha : accepted es = [])
    (he : executed es = []) (hd : delivered es = []) (hr : reported es = []) :
    LedgerOf (L ++ es) waiting inFlight unreported := by
  unfold LedgerOf at *
  rwa [accepted_append, executed_append, delivered_append, reported_append, ha, he, hd, hr,
    List.append_nil, List.append_nil, List.append_nil, List.append_nil]

theorem LedgerOf.accept (hl : LedgerOf L waiting inFlight unreported) :
    LedgerOf (L ++ [.accepted c q]) (waiting ++ [q]) inFlight unreported := by
  have hnext := Ledger.accept (a := q) hl
  simpa [LedgerOf, accepted, executed, delivered, reported] using hnext

theorem LedgerOf.answer (hl : LedgerOf L (q :: waiting) [] []) (lib : Answers) :
    LedgerOf (L ++ [.executed c q lib.code lib.rows]) waiting
      (if lib.code = 0 then [q.toThreadInfo] else []) (if lib.code = 0 then [] else [q]) := by
  by_cases hcode : lib.code = 0
  · have hnext := Ledger.succeed hl
    simpa [LedgerOf, accepted, executed, delivered, reported, hcode] using hnext
  · have hnext := Ledger.fail hl
    simpa [LedgerOf, accepted, executed, delivered, reported, hcode] using hnext

theorem LedgerOf.report (hl : LedgerOf L waiting inFlight (q :: unreported)) :
    LedgerOf (L ++ [.reported c q]) waiting inFlight unreported := by
  have hnext := Ledger.report hl
  simpa [LedgerOf, accepted, executed, delivered, reported] using hnext

theorem LedgerOf.deliver (hl : LedgerOf L waiting (t :: inFlight) unreported) :
    LedgerOf (L ++ [.delivered c t]) waiting inFlight unreported := by
  have hnext := Ledger.deliver hl
  simpa [LedgerOf, accepted, executed, delivered, reported] using hnext

end Ledger

theorem conserves_worker {h : ℕ} {L : List Event} {o : MySQL} {src : ℕ} {stmt : WorkerStmt}
    {t : Option (ℕ × TickStmt)} {n : ℕ} {a : Action} {lib : Answers} {es : List Event} {o' : MySQL}
    {place : Option (ℕ × WorkerStmt)} (hP : Disciplined h ⟨some o, some (src, stmt), t, n⟩ a)
    (hsound : stmt.Sound src o) (hK : Conserves L o (some (src, stmt)) t)
    (hd : stmt.Does lib src o es o' place) : Conserves (L ++ es) o' place t := by
  obtain ⟨hledger, hsub, htaken⟩ := hK
  have hbox := box_of_role hP.2.2
  refine ⟨?_, ?_, ?_⟩
  · cases hd with
    | skip | copy | submit | logExecuted | setParsing | clearParsing | returned | logResult =>
        exact hledger.quiet rfl rfl rfl rfl
    | answer q conn =>
        obtain ⟨rest, hq⟩ := List.head?_eq_some_iff.1 (hsound.front q rfl)
        have hbox' : o.threadQueue = [] := hbox nofun
        simp only [waiting, inFlight, unreported, hq, hbox'] at hledger
        simpa only [waiting, inFlight, unreported, MySQL.answered, hq, List.tail_cons]
          using hledger.answer lib
    | succeeded q hs =>
        simp only [inFlight, unreported, if_pos hs] at hledger
        exact hledger.quiet rfl rfl rfl rfl
    | failed q hs =>
        have hbox' : o.threadQueue = [] := hbox nofun
        simp only [inFlight, unreported, if_neg hs] at hledger ⊢
        rw [hbox']
        exact hledger.quiet rfl rfl rfl rfl
    | push q t' =>
        have hbox' : o.threadQueue = [] := hbox nofun
        simp only [inFlight, hbox', List.nil_append] at hledger ⊢
        exact hledger.quiet rfl rfl rfl rfl
    | report q => exact hledger.report
    | pop q front rest hq =>
        simp only [waiting, hq, List.tail_cons] at hledger
        exact hledger.quiet rfl rfl rfl rfl
  · rw [submitted_append, executed_append, hsub]
    cases hd with
    | skip | copy | submit | logExecuted | succeeded | failed | setParsing | push | clearParsing
    | report | returned | logResult | pop => simp [submitted, executed, executing]
    | answer q conn => simp [submitted, executed, executing]
  · -- but for the push, the statement leaves `threadQueue` alone, and what is being delivered with it
    have hes : taken es = [] ∧ delivered es = [] := by cases hd <;> exact ⟨rfl, rfl⟩
    rw [taken_append, delivered_append, hes.1, hes.2, List.append_nil, List.append_nil, htaken]
    cases hd with
    | push q t' =>
        obtain ⟨p, hp⟩ := hP.2.2
        obtain rfl := Mailbox.Phase.eq_raised (p := p) hp.producer.symm
        have hcons : consumer t ≠ .working := by
          rw [hp.consumer]
          nofun
        rw [beingDelivered_of_consumer hcons, beingDelivered_of_consumer hcons]
    | skip | copy | submit | answer | logExecuted | succeeded | failed | setParsing | clearParsing
    | report | returned | logResult | pop => exact congrArg _ (beingDelivered_congr rfl t).symm

/-- While the worker has nothing in hand, what is in flight is what `threadQueue` holds. -/
theorem inFlight_of_producer {w : Option (ℕ × WorkerStmt)} (hw : producer w = .away) (o : MySQL) :
    inFlight o w = o.threadQueue := by
  rcases w with _ | ⟨src, stmt⟩
  · rfl
  · cases stmt with
    | test | submit | executing | clearParsing | callError | inError | logResult | pop => rfl
    | logExecuted | branch | setParsing | push => cases hw

theorem conserves_tick {h : ℕ} {L : List Event} {o : MySQL} {w : Option (ℕ × WorkerStmt)} {src : ℕ}
    {stmt : TickStmt} {n : ℕ} {a : Action} {pAmx : List AMX} {es : List Event} {o' : MySQL}
    {place : Option (ℕ × TickStmt)} (hP : Disciplined h ⟨some o, w, some (src, stmt), n⟩ a)
    (hK : Conserves L o w (some (src, stmt))) (hd : stmt.Does pAmx src (some o) es (some o') place) :
    Conserves (L ++ es) o' w place := by
  obtain ⟨hledger, hsub, htaken⟩ := hK
  obtain ⟨p, hp⟩ := hP.2.2
  have hsub' : submitted (L ++ es) = (executed (L ++ es)).map Prod.fst ++ executing w := by
    have hes : submitted es = [] ∧ executed es = [] := by cases hd <;> exact ⟨rfl, rfl⟩
    rw [submitted_append, executed_append, hes.1, hes.2, List.append_nil, List.append_nil, hsub]
  refine ⟨?_, hsub', ?_⟩
  · cases hd with
    | skip | take | done | pass | exec | returned => exact hledger.quiet rfl rfl rfl rfl
    | pop _ t front rest hq =>
        obtain ⟨b, rfl⟩ := Mailbox.Phase.eq_consuming (p := p) hp.consumer.symm
        have hw : producer w = .away := hp.producer
        rw [inFlight_of_producer hw, hq] at hledger
        rw [inFlight_of_producer hw, waiting_congr rfl, unreported_congr (.inl rfl)]
        exact hledger.deliver
    | clear =>
        rw [waiting_congr rfl, inFlight_congr rfl (.inl rfl), unreported_congr (.inl rfl)]
        exact hledger.quiet rfl rfl rfl rfl
  · cases hd with
    | skip | done | pass | exec | returned => simpa [taken, delivered, beingDelivered] using htaken
    | take _ t rest hq hpar =>
        obtain rfl := Mailbox.Phase.eq_full (p := p) hp.consumer.symm (hp.box.symm.trans hq)
        have hbox : o.threadQueue = [t] := hp.box
        simpa [taken, delivered, beingDelivered, hbox] using htaken
    | pop _ t front rest hq =>
        obtain ⟨b, rfl⟩ := Mailbox.Phase.eq_consuming (p := p) hp.consumer.symm
        have hbox : o.threadQueue = [b] := hp.box
        obtain ⟨rfl, rfl⟩ := List.cons.inj (hq.symm.trans hbox)
        simpa [taken, delivered, beingDelivered, hbox] using htaken
    | clear => simpa [beingDelivered] using htaken

theorem conserves_native {h : ℕ} {L : List Event} {o : MySQL} {w : Option (ℕ × WorkerStmt)}
    {t : Option (ℕ × TickStmt)} {n : ℕ} {thread : Thread} {name : NativeName} {amx : Memory}
    {params : List Cell} {lib : Answers} {es : List Event} {o' : MySQL}
    (hP : Disciplined h ⟨some o, w, t, n⟩ (.native thread name amx params lib))
    (hs : ∀ src stmt, w = some (src, stmt) → stmt.Sound src o)
    (hh : name.handle params = some (h : ℤ)) (hK : Conserves L o w t)
    (hc : o.Change name params lib es o') : Conserves (L ++ history es) o' w t := by
  obtain ⟨hledger, hsub, htaken⟩ := hK
  -- a native without history that leaves the queues alone, and `state` while the worker tests it
  have hsame : ∀ {o''}, o''.queryQueue = o.queryQueue → o''.threadQueue = o.threadQueue →
      (o''.state = o.state ∨ ∀ src stmt, w = some (src, stmt) → stmt.testing = false) →
      history es = [] → Conserves (L ++ history es) o'' w t := by
    intro o'' hq ht hst hes
    rw [hes, List.append_nil]
    refine ⟨?_, hsub, by rw [htaken, beingDelivered_congr ht]⟩
    rwa [waiting_congr hq, inFlight_congr ht hst, unreported_congr hst]
  cases hc with
  | observed h => exact hsame (by rw [h.same]) (by rw [h.same]) (.inl (by rw [h.same])) h.silent
  | connected c hn hconn hes => exact hsame rfl rfl (.inl rfl) hes
  | stored hn hres hstate hes => exact hsame rfl rfl (.inl rfl) hes
  | executed statement hn hr hes =>
      refine hsame rfl rfl (.inr ?_) hes
      exact hP.2.1 ⟨thread, name, amx, params, lib, rfl, hh, .inr ⟨hn, hr⟩⟩
  | freed hn hes =>
      refine hsame rfl rfl (.inr ?_) hes
      exact hP.2.1 ⟨thread, name, amx, params, lib, rfl, hh, .inl hn⟩
  | accepted q hn hr hm hes hclient =>
      rw [hes]
      refine ⟨?_, ?_, ?_⟩
      · rw [waiting_accepting q hs, inFlight_congr rfl (.inl rfl), unreported_congr (.inl rfl)]
        exact hledger.accept
      · simpa [submitted, executed] using hsub
      · have ht : beingDelivered (o.accepting q) t = beingDelivered o t := beingDelivered_congr rfl t
        simpa [taken, delivered, ht] using htaken

/-- At most one result is in flight. -/
theorem inFlight_length {o : MySQL} {w : Option (ℕ × WorkerStmt)} {t : Option (ℕ × TickStmt)}
    {p : Mailbox.Phase ThreadInfo} (hs : Shakes o w t p) : (inFlight o w).length ≤ 1 := by
  have hbox : o.threadQueue.length ≤ 1 := hs.box ▸ p.box_length_le_one
  rcases w with _ | ⟨src, stmt⟩
  · exact hbox
  · cases stmt with
    | logExecuted | branch =>
        simp only [inFlight]
        split <;> simp
    | setParsing | push => exact le_rfl
    | test | submit | executing | clearParsing | callError | inError | logResult | pop => exact hbox

/-- **Every step keeps the ledger.** -/
theorem keeps_conserves (h : ℕ) : Keeps h (Disciplined h) Conserves where
  opened n env log print t := by
    refine ⟨Pipeline.Ledger.empty, rfl, ?_⟩
    rcases t with _ | ⟨src, stmt⟩
    · rfl
    · cases stmt <;> rfl
  workerEnter hK := ⟨hK.ledger, hK.submitted, hK.taken⟩
  worker hP hsound hK hd := conserves_worker hP hsound hK hd
  tickEnter hK := ⟨hK.ledger, hK.submitted, hK.taken⟩
  tick hP hK hd := conserves_tick hP hK hd
  native hP hs hh hK hc := conserves_native hP hs hh hK hc

end Slot

/-! ## The pipeline of a handle -/

/-- A result carries what its query was enqueued with: the member that belongs to its type. -/
structure QueryInfo.Carried (q : QueryInfo) (t : ThreadInfo) : Prop where
  type : t.type = q.type
  resultId : t.resultId = q.resultId
  extraId : q.type = .TYPE_ID → t.extraId = q.extraId
  extraVars : q.type = .TYPE_ARRAY → t.extraVars = q.extraVars

theorem QueryInfo.carried_toThreadInfo (q : QueryInfo) : q.Carried q.toThreadInfo :=
  ⟨rfl, rfl, fun h => if_pos h, fun h => if_pos h⟩

namespace System

variable {N : ℕ} {h : Fin N} {s : System N} {tr : List Event}

/-- The runs the ledger is about. -/
def Conserving (h : Fin N) (s : System N) (a : Action) : Prop :=
  (s.slot h).ClosesQuietly h a ∧ (s.slot h).SparesState h a

/-- What is known of the lives of a slot's objects in a run that keeps a property, in terms of the
    trace of the plugin. -/
theorem lives_reach {P : Slot → Action → Prop} {K : Slot.Property} (hkeeps : Slot.Keeps h P K)
    (hP : ∀ v a, P v a → v.SparesWorker h a)
    (hrun : (plugin N).Reach (fun s a => P (s.slot h) a) tr s) :
    (∀ {o}, s.my h = some o → K (life o.conn tr) o (s.worker.place h) (s.main.place h)) ∧
      (∀ {c queries results}, .closed c h queries results ∈ tr →
        Slot.Ended h P K tr c queries results) ∧
      ∀ {c}, .opened c h ∈ tr →
        (∃ o, s.my h = some o ∧ o.conn = c) ∨ ∃ queries results, .closed c h queries results ∈ tr := by
  obtain ⟨hs, hslot, hown, hlife⟩ := slot_reach hrun
  have hl := Slot.lives_run hkeeps hP hslot
  have hmem : ∀ {e : Event} {c : ℕ}, .opened c h ∈ tr → e.about = some c → (e ∈ hs ↔ e ∈ tr) := by
    intro e c hc he
    have heq := hlife c hc
    have hin : ∀ {L : List Event}, e ∈ life c L ↔ e ∈ L := by simp [life, he]
    rw [← hin, ← heq, hin]
  refine ⟨fun {o} ho => ?_, fun {c queries results} hc => ?_, fun {c} hc => ?_⟩
  · rw [hlife o.conn (hown.mentioned (.inl ⟨o, ho, rfl⟩))]
    exact hl.alive ho
  · have hopen := hown.closed hc
    obtain ⟨L, o, w, t, n, a, hK, hPa, ha, hconn, hq, ht, heq⟩ := hl.ended ((hmem hopen rfl).2 hc)
    exact ⟨L, o, w, t, n, a, hK, hPa, ha, hconn, hq, ht, (hlife c hopen).trans heq⟩
  · rcases hl.known ((hmem hc rfl).2 hc) with hin | ⟨queries, results, hcl⟩
    · exact .inl hin
    · exact .inr ⟨queries, results, (hmem hc rfl).1 hcl⟩

/-- In a conserving run the handshake holds at every step. -/
theorem disciplined_reach (hrun : (plugin N).Reach (Conserving h) tr s) :
    (plugin N).Reach (fun s a => Slot.Disciplined h (s.slot h) a) tr s := by
  refine (slot_strengthen (P := fun v a => v.ClosesQuietly h a ∧ v.SparesState h a)
    (I := fun v => ∃ p, v.Follows p) ?_ ⟨.free, rfl, rfl, rfl⟩ hrun).mono
      fun s a hs => ⟨hs.1.1, hs.1.2, hs.2⟩
  rintro v a es v' ⟨p, hp⟩ hP hstep
  obtain ⟨p', -, hp'⟩ := hstep.follows hP.1 hp
  exact ⟨p', hp'⟩

/-- What the pipeline of handle `h` promises of the object `o` in its slot, whose life so far is
    `L`. -/
structure Conserves (s : System N) (h : Fin N) (o : MySQL) (L : List Event) : Prop where
  /-- The accepted entries are the executed ones, in order, and those still waiting. -/
  order : accepted L = (executed L).map Prod.fst ++ Slot.waiting o (s.worker.place h)
  /-- Each is submitted once. -/
  submitted : submitted L = (executed L).map Prod.fst ++ Slot.executing (s.worker.place h)
  /-- The deliveries, and at most one result in flight, are the successful entries, in order, each
      with what it was enqueued with. -/
  handed : List.Forall₂ QueryInfo.Carried (outcomes true (executed L))
    (delivered L ++ Slot.inFlight o (s.worker.place h))
  one : (Slot.inFlight o (s.worker.place h)).length ≤ 1
  /-- `ProcessTick` takes each result once, and works on a copy of the one in flight. -/
  taken : taken L = delivered L ++ Slot.beingDelivered o (s.main.place h)
  copy : ∀ src stmt t, s.main = .body h src stmt → stmt.held = some t →
    ∃ front, Slot.inFlight o (s.worker.place h) = [front] ∧ t.Copies front
  /-- Each failed entry is handed to `Error` once. -/
  failed : reported L ++ Slot.unreported o (s.worker.place h) = outcomes false (executed L)

/-- **The pipeline of a handle.** In every run that does not close the slot under a thread, and does
    not overwrite `state` before the worker has tested it, the handle loses, duplicates and reorders
    nothing. -/
theorem conservation (hrun : (plugin N).Reach (Conserving h) tr s) {o : MySQL} (ho : s.my h = some o) :
    s.Conserves h o (life o.conn tr) := by
  have hdis := disciplined_reach hrun
  obtain ⟨halive, -, -⟩ := lives_reach (Slot.keeps_conserves h) (fun _ _ hP => hP.1.1) hdis
  obtain ⟨hledger, hsub, htaken⟩ := halive ho
  obtain ⟨hs, hslot, -, -⟩ := slot_reach hdis
  obtain ⟨p, hp⟩ := Slot.follows_run (fun _ _ hP => hP.1) hslot
  have htick := Slot.tickSound_run (fun _ _ hP => hP.1.2) hslot
  have hshakes : Slot.Shakes o (s.worker.place h) (s.main.place h) p := by
    simpa only [Slot.Follows, slot, ho] using hp
  refine ⟨hledger.order, hsub, ?_, Slot.inFlight_length hshakes, htaken, ?_, hledger.failed⟩
  · rw [hledger.handed]
    exact List.forall₂_map_right_iff.2 (List.forall₂_same.2 fun q _ => q.carried_toThreadInfo)
  · intro src stmt t hm hheld
    obtain ⟨o', ho', hsound⟩ := htick src stmt (main_place hm)
    obtain rfl : o = o' := Option.some.inj (ho.symm.trans ho')
    obtain ⟨front, hfront, hcopy⟩ := hsound.front t hheld
    -- `ProcessTick` holds an entry, so the worker has nothing in hand
    have hcons : p.consumer = .working := by
      rw [← hshakes.consumer, hm, MainPc.place_body]
      cases stmt with
      | each | inCallback | pop => rfl
      | test | clear => cases hheld
    obtain ⟨b, rfl⟩ := Mailbox.Phase.eq_consuming hcons
    have hbox : o.threadQueue = [b] := hshakes.box
    rw [hbox] at hfront
    cases hfront
    exact ⟨front, (Slot.inFlight_of_producer hshakes.producer o).trans hbox, hcopy⟩

/-- Two threaded queries, the first of which succeeds and is delivered, the second of which fails and
    is reported. -/
theorem conservation_of_two :
    ∃ (s : System 2) (o : MySQL) (L : List Event), s.Conserves 0 o L ∧
      (executed L).map (fun x => (x.1.resultId, x.2)) = [((7 : Cell), true), (8, false)] ∧
      (delivered L).map ThreadInfo.resultId = [7] ∧ (reported L).map QueryInfo.resultId = [8] := by
  obtain ⟨tr, s, hrun, hview⟩ := Machine.exists_run_of_exec (M := plugin 2) (P := Conserving 0)
    (f := fun r => (r.1.my 0).map fun o =>
      let L := life o.conn r.2
      ((executed L).map (fun x => (x.1.resultId, x.2)),
        (delivered L).map ThreadInfo.resultId, (reported L).map QueryInfo.resultId))
    (show Option.map _ ((plugin 2).exec ([Script.mysql_init, Script.mysql_connect 0,
      Script.mysql_query 7 5 0, Script.mysql_query 8 6 0] ++ Script.work 11 ++ Script.ticks 7 ++
      Script.work 10 { code := 1 }) System.initial) =
        some (some ([((7 : Cell), true), (8, false)], [7], [8])) from rfl)
    (Machine.obeys_of_check (p := fun _ a => !(a.isClose || a.overwrites)) rfl fun _ _ ha => by
      obtain ⟨hc, ho⟩ : _ ∧ _ := by simpa using ha
      exact ⟨Slot.closesQuietly_of_not_close hc, Slot.sparesState_of_not_overwrites ho⟩)
  obtain ⟨o, ho, hL⟩ := Option.map_eq_some_iff.1 hview
  simp only [Prod.mk.injEq] at hL
  exact ⟨s, o, life o.conn tr, conservation hrun ho, hL⟩

end System
end MysqlPlugin
