import MysqlPlugin.Conservation

set_option autoImplicit false

/-! # What becomes of queries when a handle is closed

`SAFE_DELETE( my[ handle ] )` destroys the object with its queues: what is still queued is neither
submitted nor reported, and what is still in `threadQueue` is not delivered. That is all that gets
lost: with the entries a closing discards, every accepted query and every successful result is
accounted for, on live connections and on closed ones. -/

namespace MysqlPlugin

open History Pipeline

namespace System

variable {N : ℕ} {s : System N} {tr : List Event}

/-- The results that `ProcessTick` has not taken yet: held by the worker, or in `threadQueue`. -/
def untaken (o : MySQL) (worker : Option (ℕ × WorkerStmt)) (tick : Option (ℕ × TickStmt)) :
    List ThreadInfo :=
  match tick with
  | some (_, .each _ _) | some (_, .inCallback _ _ _) | some (_, .pop _) => []
  | _ => Slot.inFlight o worker

/-- Every accepted query is submitted, or waits on its live connection, or was discarded when its
    connection was closed. -/
structure QueriesAccounted (s : System N) (tr : List Event) : Prop where
  known : ∀ c q, .accepted c q ∈ tr → ∃ h : Fin N, .opened c h ∈ tr
  open_or_closed : ∀ (h : Fin N) c, .opened c h ∈ tr →
    (∃ o, s.my h = some o ∧ o.conn = c) ∨ ∃ queries results, .closed c h queries results ∈ tr
  live : ∀ (h : Fin N) o, s.my h = some o →
    accepted (life o.conn tr) =
      submitted (life o.conn tr) ++ Slot.unsubmitted o (s.worker.place h)
  closed : ∀ (h : Fin N) c queries results, .closed c h queries results ∈ tr →
    accepted (life c tr) = submitted (life c tr) ++ queries

/-- Every successful result is taken for delivery, or held by the worker or in `threadQueue` of its
    live connection, or was discarded when its connection was closed. -/
structure ResultsAccounted (s : System N) (tr : List Event) : Prop where
  live : ∀ (h : Fin N) o, s.my h = some o →
    (outcomes true (executed (life o.conn tr))).map QueryInfo.toThreadInfo =
      taken (life o.conn tr) ++ untaken o (s.worker.place h) (s.main.place h)
  closed : ∀ (h : Fin N) c queries results, .closed c h queries results ∈ tr →
    (outcomes true (executed (life c tr))).map QueryInfo.toThreadInfo =
      taken (life c tr) ++ results

theorem queriesAccounted
    (hrun : (plugin N).Reach (fun s a => ∀ h : Fin N, (s.slot h).SparesWorker h a) tr s) :
    s.QueriesAccounted tr := by
  have hlives := fun h : Fin N => lives_reach (Slot.keeps_submits h _) (fun _ _ hP => hP)
    (hrun.mono fun s a hs => hs h)
  refine ⟨fun c q hq => ?_, fun h c hc => (hlives h).2.2 hc, fun h o ho => (hlives h).1 ho,
    fun h c queries results hc => ?_⟩
  · exact (owned_reach hrun).known hq rfl
  · obtain ⟨L, o, w, t, n, a, hK, hspare, hcloses, -, rfl, -, hlife⟩ := (hlives h).2.1 hc
    obtain rfl : w = none := hspare hcloses
    rw [hlife, accepted_append, submitted_append, show accepted L = _ from hK]
    simp [accepted, submitted, Slot.unsubmitted]

theorem resultsAccounted
    (hrun : (plugin N).Reach (fun s a => ∀ h : Fin N, s.Conserving h a) tr s) :
    s.ResultsAccounted tr := by
  have hdis := fun h : Fin N => disciplined_reach (hrun.mono fun s a hs => hs h)
  have hlives := fun h : Fin N => lives_reach (Slot.keeps_conserves h) (fun _ _ hP => hP.1.1) (hdis h)
  refine ⟨fun h o ho => ?_, fun h c queries results hc => ?_⟩
  · obtain ⟨hledger, -, htaken⟩ := (hlives h).1 ho
    obtain ⟨hs, hslot, -, -⟩ := slot_reach (hdis h)
    obtain ⟨p, hp⟩ := Slot.follows_run (fun _ _ hP => hP.1) hslot
    have hshakes : Slot.Shakes o (s.worker.place h) (s.main.place h) p := by
      simpa only [Slot.Follows, slot, ho] using hp
    rw [← hledger.handed, htaken, List.append_assoc]
    congr 1
    cases hm : s.main.place h with
    | none => rfl
    | some place =>
        obtain ⟨src, stmt⟩ := place
        rw [hm] at hshakes
        cases stmt with
        | test | clear => rfl
        | each | inCallback | pop =>
            -- the entry in `threadQueue` is the one being delivered, and the worker holds none
            obtain ⟨b, rfl⟩ := Mailbox.Phase.eq_consuming (p := p) hshakes.consumer.symm
            simp [untaken, Slot.beingDelivered, Slot.inFlight_of_producer hshakes.producer o]
  · obtain ⟨L, o, w, t, n, a, hK, hP, hcloses, -, -, rfl, hlife⟩ := (hlives h).2.1 hc
    obtain rfl : w = none := hP.1.1 hcloses
    obtain rfl : t = none := hP.1.2 hcloses
    have htaken := hK.taken
    have hhanded := hK.ledger.handed
    simp only [Slot.beingDelivered, List.append_nil] at htaken
    rw [hlife, executed_append, taken_append, htaken]
    simp only [Slot.inFlight] at hhanded
    simpa [executed, taken] using hhanded.symm

/-- **Closing discards, nothing else does.** As long as no slot is closed under the worker, every
    accepted query is accounted for; if moreover no slot is closed under `ProcessTick`, and `state` is
    not overwritten before the worker has tested it, so is every successful result. -/
theorem closing_discards
    (hrun : (plugin N).Reach (fun s a => ∀ h : Fin N, (s.slot h).SparesWorker h a) tr s) :
    s.QueriesAccounted tr ∧
      ((plugin N).Reach (fun s a => ∀ h : Fin N, s.Conserving h a) tr s → s.ResultsAccounted tr) :=
  ⟨queriesAccounted hrun, resultsAccounted⟩

/-- A threaded query whose handle is closed before the worker comes by. -/
def closedAtOnce : List Action :=
  [Script.mysql_init, Script.mysql_connect 0, Script.mysql_query 7 5 0, Script.mysql_close 0]

def discardedEntry : QueryInfo := ⟨⟨5, "S"⟩, 7, some 5, none, .TYPE_ID⟩

theorem closing_discards_query :
    ∃ (tr : List Event) (s : System 1), s.QueriesAccounted tr ∧ s.ResultsAccounted tr ∧
      history tr = [.opened 0 0, .accepted 0 discardedEntry, .closed 0 0 [discardedEntry] []] := by
  obtain ⟨tr, s, hrun, hview⟩ := Machine.exists_run_of_exec (M := plugin 1)
    (P := fun s a => ∀ h : Fin 1, s.Conserving h a) (f := fun r => history r.2)
    (show Option.map _ ((plugin 1).exec closedAtOnce System.initial) = some [.opened 0 0,
      .accepted 0 discardedEntry, .closed 0 0 [discardedEntry] []] from rfl)
    (Machine.obeys_of_check (p := fun s a =>
        !a.overwrites && (!a.isClose || ((s.worker.place 0).isNone && (s.main.place 0).isNone)))
      rfl fun s a ha h => by
        obtain rfl : h = 0 := Subsingleton.elim h 0
        obtain ⟨ho, hc⟩ : _ ∧ _ := by simpa using ha
        refine ⟨⟨fun hcl => ?_, fun hcl => ?_⟩, Slot.sparesState_of_not_overwrites ho⟩
        · exact (hc.resolve_left (by simpa using Slot.not_closes.mt (not_not.2 hcl))).1
        · exact (hc.resolve_left (by simpa using Slot.not_closes.mt (not_not.2 hcl))).2)
  have hspare := hrun.mono (Q := fun s a => ∀ h : Fin 1, (s.slot h).SparesWorker h a)
    fun _ _ hc h => (hc h).1.1
  exact ⟨tr, s, (closing_discards hspare).1, (closing_discards hspare).2 hrun, hview⟩

/-- Nothing else keeps the query: after the closing it is in no queue, and it was neither submitted
    nor reported. -/
theorem closed_query_vanishes :
    ¬ ∀ (N : ℕ) (tr : List Event) (s : System N), (plugin N).Reach (fun _ _ => True) tr s →
      ∀ c q, .accepted c q ∈ tr →
        (∃ (h : Fin N) (o : MySQL), s.my h = some o ∧ o.conn = c ∧ q ∈ o.queryQueue) ∨
          .submitted c q ∈ tr ∨ .reported c q ∈ tr := by
  intro hall
  obtain ⟨tr, s, hrun, hview⟩ := Machine.exists_run_of_exec (M := plugin 1)
    (P := fun _ _ => True) (f := fun r => (r.1.my 0, history r.2))
    (show Option.map _ ((plugin 1).exec closedAtOnce System.initial) = some (none, [.opened 0 0,
      .accepted 0 discardedEntry, .closed 0 0 [discardedEntry] []]) from rfl)
    (Machine.obeys_all _ _)
  obtain ⟨hmy, hhist⟩ := Prod.mk.inj hview
  have hacc : .accepted 0 discardedEntry ∈ history tr := by
    rw [hhist]
    simp
  rcases hall 1 tr s hrun 0 _ ((mem_history rfl).1 hacc) with ⟨h, o, ho, -⟩ | hs | hr
  · rw [Subsingleton.elim h 0, hmy] at ho
    simp at ho
  · rw [← mem_history rfl, hhist] at hs
    simp at hs
  · rw [← mem_history rfl, hhist] at hr
    simp at hr

end System
end MysqlPlugin
