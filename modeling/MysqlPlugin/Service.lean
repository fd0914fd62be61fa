import MysqlPlugin.Conservation
import MysqlPlugin.Lib.Server

set_option autoImplicit false

/-! # A connection is a server that answers one query at a time

Two threads, two queues and a flag are what a connection is made of. What it is for is said by
`Lib/Server.lean`: it accepts queries, executes them one at a time, and delivers the result or reports
the failure before it executes the next one. The life of an object is a run of that server
(`Slot.keeps_serving`), with the same assumptions as the ledger of `Conservation.lean`: so nothing is
submitted while a result waits for `ProcessTick` or a failure for `Error`, and what a script is told
comes in the order in which it asked. -/

namespace MysqlPlugin

open Server

/-- What the life of an object is in terms of the server. -/
def observe (L : List Event) : List (Server.Event QueryInfo ThreadInfo) :=
  L.filterMap fun
    | .accepted _ q => some (.accept q)
    | .executed _ q code _ => some (.execute q (decide (code = 0)))
    | .delivered _ t => some (.deliver t)
    | .reported _ q => some (.report q)
    | _ => none

@[simp] theorem observe_append (L es : List Event) : observe (L ++ es) = observe L ++ observe es :=
  List.filterMap_append ..

theorem accepted_observe (L : List Event) : Server.accepted (observe L) = History.accepted L := by
  unfold Server.accepted observe History.accepted
  rw [List.filterMap_filterMap]
  refine List.filterMap_congr fun e _ => ?_
  cases e <;> rfl

namespace Slot

/-- The result to deliver, and the failure to report, while a request is executed and not answered. -/
def ready : Option (QueryInfo × Bool) → List ThreadInfo
  | some (q, true) => [q.toThreadInfo]
  | _ => []

def failed : Option (QueryInfo × Bool) → List QueryInfo
  | some (q, false) => [q]
  | _ => []

section Current

variable {current : Option (QueryInfo × Bool)} {q : QueryInfo} {t : ThreadInfo}

theorem current_none (hr : ready current = []) (hf : failed current = []) : current = none := by
  rcases current with _ | ⟨q, ok⟩
  · rfl
  · cases ok
    · cases hf
    · cases hr

/-- A result that is ready is the result of the request that is answered next. -/
theorem current_of_ready {rest : List ThreadInfo} (hr : ready current = t :: rest) :
    ∃ q, current = some (q, true) ∧ q.toThreadInfo = t := by
  rcases current with _ | ⟨q, ok⟩
  · cases hr
  · cases ok
    · cases hr
    · cases hr
      exact ⟨q, rfl, rfl⟩

theorem current_of_failed {rest : List QueryInfo} (hf : failed current = q :: rest) :
    current = some (q, false) := by
  rcases current with _ | ⟨q', ok⟩
  · cases hf
  · cases ok
    · cases hf
      rfl
    · cases hf

end Current

/-- The object, with the worker where it is, looks like the server in state `v`. -/
structure Shows (o : MySQL) (w : Option (ℕ × WorkerStmt)) (v : Server.State QueryInfo) : Prop where
  waiting : waiting o w = v.waiting
  inFlight : inFlight o w = ready v.current
  unreported : unreported o w = failed v.current

/-- The life of the object so far is a run of the server. -/
def Serving : Property := fun L o w _ =>
  ∃ v, Serves QueryInfo.toThreadInfo (observe L) v ∧ Shows o w v

variable {L es : List Event} {o o' : MySQL} {w w' : Option (ℕ × WorkerStmt)}
  {t t' : Option (ℕ × TickStmt)} {v v' : Server.State QueryInfo}

/-- Events the server does not know leave the run as it is. -/
theorem Serving.quiet (hK : Serving L o w t) (hes : observe es = [])
    (hw : Slot.waiting o' w' = Slot.waiting o w) (hi : Slot.inFlight o' w' = Slot.inFlight o w)
    (hu : Slot.unreported o' w' = Slot.unreported o w) : Serving (L ++ es) o' w' t' := by
  obtain ⟨v, hrun, hshows⟩ := hK
  refine ⟨v, ?_, hw.trans hshows.waiting, hi.trans hshows.inFlight, hu.trans hshows.unreported⟩
  rwa [observe_append, hes, List.append_nil]

theorem serving_worker {h : ℕ} {src : ℕ} {stmt : WorkerStmt} {n : ℕ} {a : Action} {lib : Answers}
    {place : Option (ℕ × WorkerStmt)} (hP : Disciplined h ⟨some o, some (src, stmt), t, n⟩ a)
    (hsound : stmt.Sound src o) (hK : Serving L o (some (src, stmt)) t)
    (hd : stmt.Does lib src o es o' place) : Serving (L ++ es) o' place t := by
  have hbox := box_of_role hP.2.2
  cases hd with
  | skip | copy | submit | logExecuted | setParsing | clearParsing | returned | logResult =>
      exact hK.quiet rfl rfl rfl rfl
  | answer q conn =>
      obtain ⟨⟨queue, current⟩, hrun, hshows⟩ := hK
      obtain ⟨rest, hq⟩ := List.head?_eq_some_iff.1 (hsound.front q rfl)
      obtain rfl : q :: rest = queue := hq.symm.trans hshows.waiting
      -- while the worker executes a query nothing is in flight
      obtain rfl : current = none := current_none
        (hshows.inFlight.symm.trans (hbox (by simp [WorkerStmt.role]))) hshows.unreported.symm
      refine ⟨⟨rest, some (q, decide (lib.code = 0))⟩, ?_, ?_, ?_, ?_⟩
      · rw [observe_append]
        exact hrun.step (.execute ..)
      · simp only [Slot.waiting, MySQL.answered, hq, List.tail_cons]
      · by_cases hcode : lib.code = 0 <;>
          simp [Slot.inFlight, MySQL.answered, ready, hcode]
      · by_cases hcode : lib.code = 0 <;>
          simp [Slot.unreported, MySQL.answered, failed, hcode]
  | succeeded q hs =>
      exact hK.quiet rfl rfl (by simp [Slot.inFlight, hs]) (by simp [Slot.unreported, hs])
  | failed q hs =>
      have hnil : o.threadQueue = [] := hbox (by simp [WorkerStmt.role])
      exact hK.quiet rfl rfl (by simp [Slot.inFlight, hs, hnil]) (by simp [Slot.unreported, hs])
  | push q t' =>
      have hnil : o.threadQueue = [] := hbox (by simp [WorkerStmt.role])
      exact hK.quiet rfl rfl (by simp [Slot.inFlight, hnil]) rfl
  | report q =>
      obtain ⟨⟨queue, current⟩, hrun, hshows⟩ := hK
      obtain rfl : current = some (q, false) :=
        current_of_failed hshows.unreported.symm
      refine ⟨⟨queue, none⟩, ?_, hshows.waiting, hshows.inFlight, rfl⟩
      rw [observe_append]
      exact hrun.step (.answer q queue false)
  | pop q front rest hq =>
      refine hK.quiet rfl ?_ rfl rfl
      simp only [Slot.waiting, hq, List.tail_cons]

theorem serving_tick {h : ℕ} {src : ℕ} {stmt : TickStmt} {n : ℕ} {a : Action} {pAmx : List AMX}
    {place : Option (ℕ × TickStmt)} (hP : Disciplined h ⟨some o, w, some (src, stmt), n⟩ a)
    (hK : Serving L o w (some (src, stmt))) (hd : stmt.Does pAmx src (some o) es (some o') place) :
    Serving (L ++ es) o' w place := by
  obtain ⟨p, hp⟩ := hP.2.2
  cases hd with
  | skip | take | done | pass | exec | returned => exact hK.quiet rfl rfl rfl rfl
  | pop _ t front rest hq =>
      obtain ⟨b, rfl⟩ := Mailbox.Phase.eq_consuming (p := p) hp.consumer.symm
      have hw : producer w = .away := hp.producer
      have hbox : front :: rest = [b] := hq.symm.trans hp.box
      obtain ⟨rfl, rfl⟩ := List.cons.inj hbox
      obtain ⟨⟨queue, current⟩, hrun, hshows⟩ := hK
      obtain ⟨q, rfl, rfl⟩ := current_of_ready
        (hshows.inFlight.symm.trans ((inFlight_of_producer hw o).trans hq))
      refine ⟨⟨queue, none⟩, ?_, ?_, inFlight_of_producer hw _, ?_⟩
      · rw [observe_append]
        exact hrun.step (.answer q queue true)
      · rw [waiting_congr rfl]
        exact hshows.waiting
      · rw [unreported_congr (.inl rfl)]
        exact hshows.unreported
  | clear =>
      exact hK.quiet rfl (waiting_congr rfl) (inFlight_congr rfl (.inl rfl))
        (unreported_congr (.inl rfl))

theorem serving_native {h : ℕ} {n : ℕ} {thread : Thread} {name : NativeName} {amx : Memory}
    {params : List Cell} {lib : Answers}
    (hP : Disciplined h ⟨some o, w, t, n⟩ (.native thread name amx params lib))
    (hs : ∀ src stmt, w = some (src, stmt) → stmt.Sound src o)
    (hh : name.handle params = some (h : ℤ)) (hK : Serving L o w t)
    (hc : o.Change name params lib es o') : Serving (L ++ history es) o' w t := by
  have hsame : ∀ {o''}, o''.queryQueue = o.queryQueue → o''.threadQueue = o.threadQueue →
      (o''.state = o.state ∨ ∀ src stmt, w = some (src, stmt) → stmt.testing = false) →
      history es = [] → Serving (L ++ history es) o'' w t := fun hq ht hst hes =>
    hK.quiet (by rw [hes]; rfl) (waiting_congr hq) (inFlight_congr ht hst) (unreported_congr hst)
  cases hc with
  | observed h => exact hsame (by rw [h.same]) (by rw [h.same]) (.inl (by rw [h.same])) h.silent
  | connected c hn hconn hes => exact hsame rfl rfl (.inl rfl) hes
  | stored hn hres hstate hes => exact hsame rfl rfl (.inl rfl) hes
  | executed statement hn hr hes =>
      refine hsame rfl rfl (.inr ?_) hes
      exact hP.2.1 ⟨thread, name, amx, params, lib, rfl, hh, .inr ⟨hn, hr⟩⟩
  | freed hn hes =>
      refine hsame rfl rfl (.inr ?_) hes
      exact hP.2.1 ⟨thread, name, amx, params, lib, rfl, hh, .inl hn⟩
  | accepted q hn hr hm hes hclient =>
      obtain ⟨⟨queue, current⟩, hrun, hshows⟩ := hK
      refine ⟨⟨queue ++ [q], current⟩, ?_, ?_, ?_, ?_⟩
      · rw [hes, observe_append]
        exact hrun.step (.accept ..)
      · rw [waiting_accepting q hs, hshows.waiting]
      · rw [inFlight_congr rfl (.inl rfl)]
        exact hshows.inFlight
      · rw [unreported_congr (.inl rfl)]
        exact hshows.unreported

/-- **Every step on the slot is a step of the server, or none of its business.** -/
theorem keeps_serving (h : ℕ) : Keeps h (Disciplined h) Serving where
  opened _ _ _ _ _ := ⟨⟨[], none⟩, .refl, rfl, rfl, rfl⟩
  workerEnter := fun ⟨v, hrun, hshows⟩ =>
    ⟨v, hrun, hshows.waiting, hshows.inFlight, hshows.unreported⟩
  worker hP hsound hK hd := serving_worker hP hsound hK hd
  tickEnter hK := hK
  tick hP hK hd := serving_tick hP hK hd
  native hP hs hh hK hc := serving_native hP hs hh hK hc

end Slot

/-! ## The connections of the plugin -/

namespace System

variable {N : ℕ} {h : Fin N} {s : System N} {tr : List Event}

/-- Two threaded queries: the result of the first is delivered, then the second fails and is
    reported. -/
def twoAnswered : System 2 × List Event :=
  ((plugin 2).exec ([Script.mysql_init, Script.mysql_connect 0, Script.mysql_query 7 5 0,
    Script.mysql_query 8 6 0] ++ Script.work 11 ++ Script.ticks 7 ++ Script.work 10 { code := 1 })
    System.initial).getD (System.initial, [])

theorem reach_twoAnswered : (plugin 2).Reach (Conserving 0) twoAnswered.2 twoAnswered.1 :=
  Machine.run_of_exec (show (plugin 2).exec ([Script.mysql_init, Script.mysql_connect 0,
    Script.mysql_query 7 5 0, Script.mysql_query 8 6 0] ++ Script.work 11 ++ Script.ticks 7 ++
    Script.work 10 { code := 1 }) System.initial = some twoAnswered from rfl)
    (Machine.obeys_of_check (p := fun _ a => !(a.isClose || a.overwrites)) rfl fun _ _ ha => by
      obtain ⟨hc, ho⟩ : _ ∧ _ := by simpa using ha
      exact ⟨Slot.closesQuietly_of_not_close hc, Slot.sparesState_of_not_overwrites ho⟩)

/-- **A connection is a server.** In every conserving run the life of the object in the slot is a run
    of the server, to a state that has the same queries in line, the same result to deliver and the
    same failure to report. -/
theorem refines_server (hrun : (plugin N).Reach (Conserving h) tr s) {o : MySQL}
    (ho : s.my h = some o) :
    ∃ v, Serves QueryInfo.toThreadInfo (observe (life o.conn tr)) v ∧
      Slot.Shows o (s.worker.place h) v :=
  (lives_reach (Slot.keeps_serving h) (fun _ _ hP => hP.1.1) (disciplined_reach hrun)).1 ho

theorem serves_two : ∃ o, twoAnswered.1.my 0 = some o ∧
    ∃ v, Serves QueryInfo.toThreadInfo (observe (life o.conn twoAnswered.2)) v ∧
      Slot.Shows o (twoAnswered.1.worker.place 0) v := by
  obtain ⟨o, ho⟩ : ∃ o, twoAnswered.1.my 0 = some o := ⟨_, rfl⟩
  exact ⟨o, ho, refines_server reach_twoAnswered ho⟩

/-- The life of an object is a run of the server, also after it was closed. -/
theorem serves_life (hrun : (plugin N).Reach (Conserving h) tr s) {c : ℕ} (hc : .opened c h ∈ tr) :
    ∃ v, Serves QueryInfo.toThreadInfo (observe (life c tr)) v := by
  obtain ⟨halive, hended, hknown⟩ :=
    lives_reach (Slot.keeps_serving h) (fun _ _ hP => hP.1.1) (disciplined_reach hrun)
  rcases hknown hc with ⟨o, ho, rfl⟩ | ⟨queries, results, hcl⟩
  · obtain ⟨v, hserves, -⟩ := halive ho
    exact ⟨v, hserves⟩
  · obtain ⟨L, o, w, t, n, a, ⟨v, hserves, -⟩, -, -, -, -, -, hlife⟩ := hended hcl
    refine ⟨v, ?_⟩
    rw [hlife, observe_append]
    exact (List.append_nil (observe L)).symm ▸ hserves

/-- **Every connection answers in turn.** The executions, deliveries and reports of a connection are
    one exchange after the other, the last of which may not be finished: an execution is followed by
    the delivery of its result, or by the report of its failure, before the next one begins. The
    exchanges are for the first of the accepted entries, in the order they were accepted. -/
theorem answers_in_turn (hrun : (plugin N).Reach (Conserving h) tr s) {c : ℕ}
    (hc : .opened c h ∈ tr) :
    ∃ (done : List (QueryInfo × Bool)) (current : Option (QueryInfo × Bool)),
      answering (observe (life c tr)) =
        done.flatMap (exchange QueryInfo.toThreadInfo) ++ begun current ∧
      done.map Prod.fst ++ current.toList.map Prod.fst <+: History.accepted (life c tr) := by
  obtain ⟨v, hserves⟩ := serves_life hrun hc
  obtain ⟨done, hanswers, horder⟩ := inTurn_run hserves
  refine ⟨done, v.current, hanswers, v.waiting, ?_⟩
  rw [List.append_assoc, ← horder, accepted_observe]

theorem two_answered_in_turn : (answering (observe (life 0 twoAnswered.2))).length = 4 ∧
    ∃ (done : List (QueryInfo × Bool)) (current : Option (QueryInfo × Bool)),
      answering (observe (life 0 twoAnswered.2)) =
        done.flatMap (exchange QueryInfo.toThreadInfo) ++ begun current ∧
      done.map Prod.fst ++ current.toList.map Prod.fst <+:
        History.accepted (life 0 twoAnswered.2) :=
  ⟨rfl, answers_in_turn reach_twoAnswered (c := 0) (by decide)⟩

end System
end MysqlPlugin
