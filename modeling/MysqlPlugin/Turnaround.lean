import MysqlPlugin.Response
import MysqlPlugin.Service

set_option autoImplicit false

/-! # A queued query gets its answer in bounded time

`Response.lean` bounds the time until a query is executed and popped, and by `Service.lean` a
connection finishes one exchange before it begins the next. Together: after `k` rounds of turns, and
one more round of `ProcessTick`, the first `k` queries that were waiting have been executed and
answered, each by the delivery of its result to the callbacks or by a report of its failure
(`System.answers_in_rounds`). -/

namespace MysqlPlugin

open Machine Server History

namespace Slot

variable {o : MySQL} {w : Option (ℕ × WorkerStmt)} {t : Option (ℕ × TickStmt)} {n : ℕ}

/-- While the mailbox is free, the only exchange under way is the one for the entry the worker has an
    answer for. -/
theorem Free.settled {v : Server.State QueryInfo} (hfree : Free ⟨some o, w, t, n⟩)
    (hfollows : ∃ p, Follows ⟨some o, w, t, n⟩ p) (hshows : Shows o w v) (hw : answered w = []) :
    v.current = none := by
  have hbox : o.threadQueue = [] := by
    rcases hfree with ⟨src, stmt, q, hw', hq⟩ | hp
    · obtain rfl : w = some (src, stmt) := hw'
      refine box_of_role hfollows ?_
      cases stmt with
      | submit | executing => nofun
      | test => cases hq
      | logExecuted | branch | setParsing | push | clearParsing | callError | inError | logResult
      | pop => cases hw
    · exact Shakes.box hp
  have hready : inFlight o w = [] ∧ unreported o w = [] := by
    rcases w with _ | ⟨src, stmt⟩
    · exact ⟨hbox, rfl⟩
    · cases stmt with
      | test | submit | executing => exact ⟨hbox, rfl⟩
      | logExecuted | branch | setParsing | push | clearParsing | callError | inError | logResult
      | pop => cases hw
  exact current_none (hshows.inFlight.symm.trans hready.1) (hshows.unreported.symm.trans hready.2)

/-- So at most that one is not answered. -/
theorem Free.current_le {v : Server.State QueryInfo} (hfree : Free ⟨some o, w, t, n⟩)
    (hfollows : ∃ p, Follows ⟨some o, w, t, n⟩ p) (hshows : Shows o w v) :
    v.current.toList.length ≤ (answered w).length := by
  by_cases hw : answered w = []
  · rw [hfree.settled hfollows hshows hw]
    exact Nat.zero_le _
  · have hone : v.current.toList.length ≤ 1 := Option.length_toList_le
    have hpos := List.length_pos_of_ne_nil hw
    omega

end Slot

namespace System

variable {N n : ℕ} {h : Fin N} {s s' : System N} {tr : List Event} {as bs : List Action} {o : MySQL}

/-- The handle is looked after, and `state` is left to the worker. -/
def Served (n : ℕ) (h : Fin N) (s : System N) (a : Action) : Prop :=
  s.Tended n h a ∧ (s.slot h).SparesState h a

/-- The exchanges that are finished are those of the executed entries, but for one under way. -/
theorem exchanges_of_reach (hrun : (plugin N).Reach (Conserving h) tr s) (ho : s.my h = some o) :
    ∃ (v : Server.State QueryInfo) (done : List (QueryInfo × Bool)),
      Slot.Shows o (s.worker.place h) v ∧
      answering (observe (life o.conn tr)) =
        done.flatMap (exchange QueryInfo.toThreadInfo) ++ begun v.current ∧
      done.map Prod.fst ++ v.current.toList.map Prod.fst =
        (executed (life o.conn tr)).map Prod.fst := by
  have hdis := disciplined_reach hrun
  obtain ⟨v, hserves, hshows⟩ := (lives_reach (Slot.keeps_serving h) (fun _ _ hP => hP.1.1) hdis).1 ho
  have hledger := ((lives_reach (Slot.keeps_conserves h) (fun _ _ hP => hP.1.1) hdis).1 ho).ledger
  obtain ⟨done, hanswers, horder⟩ := inTurn_run hserves
  refine ⟨v, done, hshows, hanswers, ?_⟩
  rw [accepted_observe, hledger.order, hshows.waiting, ← List.append_assoc] at horder
  exact (List.append_cancel_right horder).symm

/-- **A queued query gets its answer in bounded time.** From any state of a conserving run, `k` rounds
    of turns, and after them a round of `ProcessTick` alone, finish the exchanges of the first `k`
    entries of the queue of a handle that is looked after: each was executed, and its result was
    delivered or its failure reported. -/
theorem answers_in_rounds {k : ℕ} {tr₀ : List Event} (hrun : (plugin N).Reach (Conserving h) tr₀ s)
    (ho : s.my h = some o) (hpath : (plugin N).Path (Served n h) s (as ++ bs) tr s')
    (hturns : InRounds n N k as) (hticks : tickTurns n N ≤ bs.countP Action.isTick) :
    ∃ (done : List (QueryInfo × Bool)) (current : Option (QueryInfo × Bool)),
      answering (observe (life o.conn (tr₀ ++ tr))) =
        done.flatMap (exchange QueryInfo.toThreadInfo) ++ begun current ∧
      popped (life o.conn tr₀) ++ o.queryQueue.take k <+: done.map Prod.fst := by
  have hquiet := hrun.mono (Q := fun s a => (s.slot h).ClosesQuietly h a) fun s a hc => hc.1
  have hs := attended_of_reach hquiet ho
  have htended := hpath.mono fun s a hserved => hserved.1
  obtain ⟨o', ho', hconn, hpops, hpopped, hqueue⟩ := pops_of_path hquiet ho htended
  have hrun' : (plugin N).Reach (Conserving h) (tr₀ ++ tr) s' :=
    hrun.trans (hpath.run.mono fun s a hserved =>
      ⟨⟨fun hclose => absurd hclose hserved.1.stays, fun hclose => absurd hclose hserved.1.stays⟩,
        hserved.2⟩)
  obtain ⟨v, done, hshows, hanswers, hexecuted⟩ := exchanges_of_reach hrun' ho'
  rw [hconn] at hanswers hexecuted
  refine ⟨done, v.current, hanswers, ?_⟩
  rw [hpops.executed] at hexecuted
  obtain ⟨s₁, tr₁, tr₂, hpath₁, hpath₂, rfl⟩ := htended.split
  have hfirst := Tending.pops_ge (Tended.tending hs hpath₁) hs hturns
  have hqueued : s.queued h = o.queryQueue.length := by rw [queued, ho]; rfl
  rw [hqueued] at hfirst
  have hall : pops o.conn (tr₁ ++ tr₂) = pops o.conn tr₁ + pops o.conn tr₂ := pops_append tr₁ tr₂
  have hfront : popped (life o.conn tr₀) ++ o.queryQueue.take k <+:
      popped (life o.conn (tr₀ ++ (tr₁ ++ tr₂))) := by
    rw [hpopped]
    exact (List.prefix_append_right_inj _).2 (take_prefix_popped hqueue (hfirst.trans (by omega)))
  -- one of the exchanges may be under way, but not if it is the one for the last entry popped
  have hlength : (popped (life o.conn (tr₀ ++ (tr₁ ++ tr₂)))).length =
      (popped (life o.conn tr₀)).length + pops o.conn (tr₁ ++ tr₂) := by
    rw [hpopped, List.length_append]
    rfl
  have hcurrent : v.current.toList.length ≤ 1 := Option.length_toList_le
  have hcount := congrArg List.length hexecuted
  simp only [List.length_append, List.length_map] at hcount
  have hdone : (popped (life o.conn tr₀) ++ o.queryQueue.take k).length ≤ done.length := by
    have htake : (o.queryQueue.take k).length = min k o.queryQueue.length := List.length_take
    rw [List.length_append, htake]
    have hs₁ := Tending.attended (Tended.tending hs hpath₁) hs
    rcases Tending.ticked (Tended.tending hs₁ hpath₂) hs₁ hticks with hfree | hpop
    · have hslot : s'.slot h = ⟨some o', s'.worker.place h, s'.main.place h, s'.created⟩ := by
        rw [slot, ho']
      have hfollows := (Tending.attended (Tended.tending hs₁ hpath₂) hs₁).follows
      rw [hslot] at hfree hfollows
      have hle := hfree.current_le hfollows hshows
      omega
    · have hpos := hpop.pops_pos
      omega
  have hprefix : done.map Prod.fst <+: popped (life o.conn (tr₀ ++ (tr₁ ++ tr₂))) ++
      Slot.answered (s'.worker.place h) := hexecuted ▸ List.prefix_append ..
  exact List.prefix_of_prefix_length_le (hfront.trans (List.prefix_append ..)) hprefix
    (by rwa [List.length_map])

/-- The waiting query, a round of turns and one more round of `ProcessTick` later. -/
def oneAnswered : System 2 × List Event :=
  ((plugin 2).exec (Script.ticks 24 ++ Script.work 42 ++ [] ++ Script.ticks 24) oneQueued.1).getD
    oneQueued

theorem one_answered : ∃ o, oneQueued.1.my 0 = some o ∧ o.queryQueue.length = 1 ∧
    ∃ (done : List (QueryInfo × Bool)) (current : Option (QueryInfo × Bool)),
      answering (observe (life o.conn (oneQueued.2 ++ oneAnswered.2))) =
        done.flatMap (exchange QueryInfo.toThreadInfo) ++ begun current ∧
      popped (life o.conn oneQueued.2) ++ o.queryQueue.take 1 <+: done.map Prod.fst := by
  have hrun : (plugin 2).Reach (Conserving 0) oneQueued.2 oneQueued.1 :=
    Machine.run_of_exec (show (plugin 2).exec [Script.mysql_init, Script.mysql_connect 0,
      Script.mysql_query 7 5 0] System.initial = some oneQueued from rfl)
      (Machine.obeys_of_check (p := fun _ a => !(a.isClose || a.overwrites)) rfl fun _ _ ha => by
        obtain ⟨hclose, hover⟩ : _ ∧ _ := by simpa using ha
        exact ⟨Slot.closesQuietly_of_not_close hclose, Slot.sparesState_of_not_overwrites hover⟩)
  have hpath : (plugin 2).Path (Served 0 0) oneQueued.1
      (Script.ticks 24 ++ Script.work 42 ++ [] ++ Script.ticks 24) oneAnswered.2 oneAnswered.1 := by
    refine Machine.Path.of_exec rfl (Machine.obeys_of_check
      (p := fun s a => (s.my 0).isSome && (s.pAmx.length ≤ 0) && !(a.isClose || a.overwrites)) rfl
      fun s a ha => ?_)
    simp only [Bool.and_eq_true, decide_eq_true_eq, Bool.not_eq_true', Bool.or_eq_false_iff] at ha
    obtain ⟨⟨hfirst, hlength⟩, hclose, hover⟩ := ha
    exact ⟨⟨free_of_first hfirst, hlength, Slot.not_closes hclose⟩,
      Slot.sparesState_of_not_overwrites hover⟩
  obtain ⟨o, ho, hlength⟩ : ∃ o, oneQueued.1.my 0 = some o ∧ o.queryQueue.length = 1 :=
    ⟨_, rfl, rfl⟩
  exact ⟨o, ho, hlength, answers_in_rounds hrun ho hpath
    (.succ (by decide) (by decide) (.zero [])) (by decide)⟩

end System

end MysqlPlugin
