import MysqlPlugin.Passes
import MysqlPlugin.Conservation

set_option autoImplicit false

/-! # A queued query is answered in bounded time

Nothing in the plugin orders the two threads, so how long a query waits depends on the turns they get.
A round gives `ProcessTick` the statements it needs to come to a handle twice, and after that the query
thread the same; what else happens in between does not matter. In every round in which its queue is
not empty, a handle gets at least one entry answered and popped: the first visit of `ProcessTick` at
the latest takes a result that waits for delivery, with the second one `parsing` is clear, then the
query thread copies the front, and before it comes back it has popped it (`answered_in_rounds`).

This needs what the loops need to come to the handle (`tick_comes`, `worker_comes`), and that the
handle is not closed. -/

namespace MysqlPlugin

open Machine Mailbox

namespace History

/-- The entries that were popped from the queue. -/
def popped (L : List Event) : List QueryInfo :=
  L.filterMap fun | .popped _ q => some q | _ => none

@[simp] theorem popped_append (L es : List Event) : popped (L ++ es) = popped L ++ popped es :=
  List.filterMap_append ..

theorem mem_popped {L : List Event} {q : QueryInfo} :
    q ∈ popped L ↔ ∃ c, .popped c q ∈ L := by
  constructor
  · intro hq
    obtain ⟨e, he, hmatch⟩ := List.mem_filterMap.1 hq
    cases e with
    | popped c q' =>
        cases hmatch
        exact ⟨c, he⟩
    | _ => cases hmatch
  · rintro ⟨c, he⟩
    exact List.mem_filterMap.2 ⟨_, he, rfl⟩

end History

open History

/-! ## What is popped was executed -/

namespace Slot

/-- The entry the worker has an answer for and has not popped yet. -/
def answered : Option (ℕ × WorkerStmt) → List QueryInfo
  | some (_, .logExecuted q) | some (_, .branch q) | some (_, .setParsing q _) | some (_, .push q _)
  | some (_, .clearParsing q) | some (_, .callError q) | some (_, .inError q)
  | some (_, .logResult q) | some (_, .pop q) => [q]
  | _ => []

/-- The queue holds what was accepted and not popped, and what is popped was executed. -/
structure Pops (L : List Event) (o : MySQL) (w : Option (ℕ × WorkerStmt))
    (t : Option (ℕ × TickStmt)) : Prop where
  queue : accepted L = popped L ++ o.queryQueue
  executed : (executed L).map Prod.fst = popped L ++ answered w

theorem keeps_pops (h : ℕ) (P : Slot → Action → Prop) : Keeps h P Pops where
  opened n env log print t := ⟨rfl, rfl⟩
  workerEnter hK := ⟨hK.queue, hK.executed⟩
  worker {L o src stmt t n a lib es o' place} _ hsound hK hd := by
    obtain ⟨hqueue, hexec⟩ := hK
    cases hd with
    | pop q front rest hq =>
        -- the front is the entry the worker holds
        have hfront := hsound.front q rfl
        rw [hq, List.head?_cons, Option.some.injEq] at hfront
        subst hfront
        constructor
        · simpa [accepted, popped, hq] using hqueue
        · simpa [History.executed, popped, answered] using hexec
    | skip | copy | submit | answer | logExecuted | succeeded | failed | setParsing | push
    | clearParsing | report | returned | logResult =>
        constructor
        · simpa [accepted, popped, MySQL.submitting, MySQL.answered] using hqueue
        · simpa [History.executed, popped, answered] using hexec
  tickEnter hK := ⟨hK.queue, hK.executed⟩
  tick {L o w src stmt n a pAmx es o' place} _ hK hd := by
    obtain ⟨o₁, ho₁, -, hq, -⟩ := hd.queries rfl
    cases ho₁
    have hes : accepted es = [] ∧ popped es = [] ∧ History.executed es = [] := by
      cases hd <;> exact ⟨rfl, rfl, rfl⟩
    constructor
    · rw [accepted_append, popped_append, hes.1, hes.2.1, hq, List.append_nil, List.append_nil]
      exact hK.queue
    · rw [executed_append, popped_append, hes.2.1, hes.2.2, List.append_nil, List.append_nil]
      exact hK.executed
  native {L o w t n thread name amx params lib es o'} _ _ _ hK hc := by
    obtain ⟨hqueue, hexec⟩ := hK
    have hsame : ∀ {o''}, o''.queryQueue = o.queryQueue → history es = [] →
        Pops (L ++ history es) o'' w t := by
      intro o'' hq hes
      rw [hes, List.append_nil]
      exact ⟨hq ▸ hqueue, hexec⟩
    cases hc with
    | observed h => exact hsame (by rw [h.same]) h.silent
    | accepted q hn hr hm hes hclient =>
        rw [hes]
        constructor
        · rw [accepted_append, popped_append, hqueue, List.append_assoc, List.append_assoc]
          rfl
        · simpa [History.executed, popped] using hexec
    | connected c hn hconn hes => exact hsame rfl hes
    | executed statement hn hr hes => exact hsame rfl hes
    | stored hn hres hstate hes => exact hsame rfl hes
    | freed hn hes => exact hsame rfl hes

end Slot

/-- While `parsing` is clear, the test of the worker copies the front of the queue. -/
theorem WorkerStmt.Does.copies {lib : Answers} {src : ℕ} {o o' : MySQL} {es : List Event}
    {place : Option (ℕ × WorkerStmt)} (hd : WorkerStmt.test.Does lib src o es o' place)
    (hq : o.queryQueue ≠ []) (hp : o.parsing = false) : ∃ q, place = some (o.conn, .submit q) := by
  cases hd with
  | skip hskip =>
      rcases hskip with hnil | hpar
      · exact absurd hnil hq
      · exact absurd (hpar.symm.trans hp) nofun
  | copy q rest => exact ⟨q, rfl⟩

theorem WorkerStmt.Does.examines {lib : Answers} {src : ℕ} {o o' : MySQL} {es : List Event}
    {place : Option (ℕ × WorkerStmt)} (hd : WorkerStmt.test.Does lib src o es o' place) :
    .examined .worker o.conn ∈ es := by
  cases hd with
  | skip => exact List.mem_singleton.2 rfl
  | copy => exact List.mem_cons_self

theorem TickStmt.Does.examines {pAmx : List AMX} {src : ℕ} {o : MySQL} {v : Option MySQL}
    {es : List Event} {place : Option (ℕ × TickStmt)}
    (hd : TickStmt.test.Does pAmx src (some o) es v place) : .examined .main o.conn ∈ es := by
  cases hd with
  | skip => exact List.mem_singleton.2 rfl
  | take => exact List.mem_cons_self

/-! ## A slot that is not closed -/

namespace Slot

variable {h : ℕ} {a : Action} {v v' : Slot} {hs : List Event} {o : MySQL}

/-- The object stays, and its queue gets shorter only by what is popped. -/
theorem Step.object_stays (hstep : Step h a v hs v') (hc : ¬ v.Closes h a) (ho : v.object = some o) :
    ∃ o', v'.object = some o' ∧ o'.conn = o.conn ∧
      o.queryQueue.length ≤ (popped (life o.conn hs)).length + o'.queryQueue.length := by
  cases hstep with
  | other _ _ hsame => exact ⟨o, hsame.object.trans ho, rfl, Nat.le_add_left ..⟩
  | workerEnter | tickEnter => exact ⟨o, ho, rfl, Nat.le_add_left ..⟩
  | worker lib ha o₁ o' src stmt place hs t n hd =>
      cases ho
      refine ⟨o', rfl, hd.conn, ?_⟩
      cases hd with
      | pop q front rest hq =>
          have hlife : life o.conn [.popped o.conn front] = [.popped o.conn front] :=
            life_eq_self (by simp [Event.about])
          rw [hlife, hq]
          simp [popped, Nat.add_comm]
      | skip | copy | submit | answer | logExecuted | succeeded | failed | setParsing | push
      | clearParsing | report | returned | logResult => exact Nat.le_add_left ..
  | tick ha pAmx v₀ v₁ src stmt place hs w n hd =>
      obtain ⟨o', ho', hconn⟩ := Option.map_eq_some_iff.1
        (hd.conn.trans (congrArg (Option.map MySQL.conn) ho))
      obtain ⟨o₁, ho₁, -, hq, -⟩ := hd.queries ho'
      obtain rfl : o₁ = o := Option.some.inj (ho₁.symm.trans ho)
      exact ⟨o', ho', hconn, by rw [hq]; exact Nat.le_add_left ..⟩
  | native thread name amx params lib ha hh o₁ o' es w t hr n n' hn hch =>
      cases ho
      obtain ⟨more, hmore⟩ := hch.queries
      refine ⟨o', rfl, hch.conn, ?_⟩
      rw [hmore, List.length_append]
      omega
  | opened => cases ho
  | closed thread amx params lib ha hp hh o₁ hconn w t hr n n' hn =>
      exact absurd ⟨thread, amx, params, lib, ha, hp, hh, hconn⟩ hc

/-- The worker holds the front of the queue. -/
def Held (v : Slot) : Prop := ∃ src stmt q, v.worker = some (src, stmt) ∧ stmt.held = some q

/-- What the worker holds it holds until it pops it. -/
theorem Step.held (hstep : Step h a v hs v') (ho : v.object = some o) (hv : v.Held) :
    v'.Held ∨ ∃ e ∈ hs, ∃ q, e = .popped o.conn q := by
  obtain ⟨src, stmt, q, hw, hq⟩ := hv
  cases hstep with
  | other _ _ hsame => exact .inl ⟨src, stmt, q, hsame.worker.trans hw, hq⟩
  | workerEnter => cases hw
  | worker lib ha o₁ o' src₁ stmt₁ place hs t n hd =>
      cases hw
      cases ho
      cases hd with
      | skip | copy => cases hq
      | pop q' front rest => exact .inr ⟨_, List.mem_singleton.2 rfl, front, rfl⟩
      | submit q' | answer q' | logExecuted q' | succeeded q' | failed q' | setParsing q' | push q'
      | clearParsing q' | report q' | returned q' | logResult q' =>
          exact .inl ⟨_, _, q', rfl, rfl⟩
  | tickEnter | tick | native | opened | closed => exact .inl ⟨src, stmt, q, hw, hq⟩

/-- Whatever the worker does for the mailbox, it does while it holds an entry. -/
theorem held_of_producer (hp : producer v.worker ≠ .away) : v.Held := by
  cases hw : v.worker with
  | none =>
      rw [hw] at hp
      exact absurd rfl hp
  | some place =>
      obtain ⟨src, stmt⟩ := place
      rw [hw] at hp
      cases stmt with
      | test | callError | inError | logResult | pop => exact absurd rfl hp
      | submit q | executing q | logExecuted q | branch q | setParsing q | push q | clearParsing q =>
          exact ⟨src, _, q, hw, rfl⟩

/-- The worker holds an entry, or no result waits for delivery. -/
def NoneWaits (v : Slot) : Prop := v.Held ∨ ∃ p, v.Follows p ∧ ∀ b, p ≠ .full b

/-- The worker holds an entry, or the mailbox is free for the next one. -/
def Free (v : Slot) : Prop := v.Held ∨ v.Follows .free

theorem Follows.flag_eq {p : Phase ThreadInfo} (hf : v.Follows p) (ho : v.object = some o) :
    o.parsing = p.flag := by
  unfold Follows at hf
  rw [ho] at hf
  exact hf.flag

theorem Follows.producer_eq {p : Phase ThreadInfo} (hf : v.Follows p) (ho : v.object = some o) :
    Slot.producer v.worker = p.producer := by
  unfold Follows at hf
  rw [ho] at hf
  exact hf.producer

theorem Follows.consumer_eq {p : Phase ThreadInfo} (hf : v.Follows p) (ho : v.object = some o) :
    Slot.consumer v.tick = p.consumer := by
  unfold Follows at hf
  rw [ho] at hf
  exact hf.consumer

theorem Step.noneWaits (hstep : Step h a v hs v') (hc : ¬ v.Closes h a) (ho : v.object = some o)
    (hv : v.NoneWaits) : v'.NoneWaits ∨ ∃ e ∈ hs, ∃ q, e = .popped o.conn q := by
  by_cases hheld : v.Held
  · exact (hstep.held ho hheld).imp .inl id
  obtain ⟨p, hp, hfull⟩ := hv.resolve_left hheld
  obtain ⟨p', hp' | hp', hf⟩ :=
    hstep.follows ⟨fun hclose => absurd hclose hc, fun hclose => absurd hclose hc⟩ hp
  · exact .inl (.inr ⟨p', hf, hp' ▸ hfull⟩)
  · refine .inl (.inr ⟨p', hf, hp'.ne_full fun hput => hheld (held_of_producer ?_)⟩)
    rw [hp.producer_eq ho, hput]
    nofun

theorem Step.free (hstep : Step h a v hs v') (hc : ¬ v.Closes h a) (ho : v.object = some o)
    (hv : v.Free) : v'.Free ∨ ∃ e ∈ hs, ∃ q, e = .popped o.conn q := by
  rcases hv with hheld | hp
  · exact (hstep.held ho hheld).imp .inl id
  obtain ⟨p', hp' | hp', hf⟩ :=
    hstep.follows ⟨fun hclose => absurd hclose hc, fun hclose => absurd hclose hc⟩ hp
  · exact .inl (.inr (hp' ▸ hf))
  · obtain ⟨o', ho', -⟩ := hstep.object_stays hc ho
    refine .inl (.inl (held_of_producer ?_))
    rw [hf.producer_eq ho', hp'.eq_producing]
    nofun

/-- After the test of `ProcessTick` no result waits: it took the one there was. -/
theorem Shakes.test {w : Option (ℕ × WorkerStmt)} {src n : ℕ} {p : Phase ThreadInfo}
    {pAmx : List AMX} {v₁ : Option MySQL} {place : Option (ℕ × TickStmt)}
    (hsh : Shakes o w (some (src, .test)) p) (hd : TickStmt.test.Does pAmx src (some o) hs v₁ place) :
    NoneWaits ⟨v₁, w, place, n⟩ := by
  cases hd with
  | skip _ hskip =>
      refine .inr ⟨p, ⟨hsh.flag, hsh.box, hsh.producer, hsh.consumer⟩, fun b hb => ?_⟩
      subst hb
      rcases hskip with hnil | hpar
      · exact absurd (hnil.symm.trans hsh.box) nofun
      · exact absurd (hpar.symm.trans hsh.flag) nofun
  | take _ t rest hq hpar =>
      obtain rfl := Phase.eq_full hsh.consumer.symm (hsh.box.symm.trans hq)
      exact .inr ⟨.consuming t, ⟨hsh.flag, hsh.box, hsh.producer, rfl⟩, nofun⟩

/-- A query waits in the slot. -/
def Waits (v : Slot) : Prop := ∃ o, v.object = some o ∧ o.queryQueue ≠ []

theorem Step.waits (hstep : Step h a v hs v') (hc : ¬ v.Closes h a) (ho : v.object = some o)
    (hv : v.Waits) : v'.Waits ∨ ∃ e ∈ hs, ∃ q, e = .popped o.conn q := by
  obtain ⟨o₁, ho₁, hq⟩ := hv
  obtain rfl : o₁ = o := Option.some.inj (ho₁.symm.trans ho)
  obtain ⟨o', ho', -, hle⟩ := hstep.object_stays hc ho
  refine or_iff_not_imp_left.2 fun hempty => ?_
  have hnil : o'.queryQueue = [] := by
    by_contra hne
    exact hempty ⟨o', ho', hne⟩
  have hpos : 0 < (popped (life o₁.conn hs)).length := by
    have hlen := List.length_pos_of_ne_nil hq
    rw [hnil, List.length_nil] at hle
    omega
  obtain ⟨q, hmem⟩ := List.exists_mem_of_length_pos hpos
  obtain ⟨c, he⟩ := mem_popped.1 hmem
  obtain ⟨he, hc⟩ := List.mem_filter.1 he
  refine ⟨_, he, q, ?_⟩
  rw [Option.some.inj (of_decide_eq_true hc)]

end Slot

/-! ## One round -/

namespace System

variable {N n : ℕ} {h : Fin N} {s s' : System N} {a : Action} {tr es : List Event}
  {as bs : List Action} {c : ℕ}

/-- What a step does to one slot, and with which of its events. -/
theorem step_slot_events (hstep : s.step a = .next s' es) (h : Fin N) :
    ∃ hs, Slot.Step h a (s.slot h) hs (s'.slot h) ∧ (hs = [] ∨ hs = history es) := by
  cases step_works hstep with
  | nowhere hes hcreated hsame => exact ⟨[], .other _ _ (hsame h), .inl rfl⟩
  | on k hk hsame =>
      by_cases hh : h = k
      · subst hh
        exact ⟨_, hk, .inr rfl⟩
      · exact ⟨[], .other _ _ (hsame h hh), .inl rfl⟩

/-- The handle is looked after: it is open with no free slot below it, so that both loops come to it,
    and it is not closed. -/
structure Tended (n : ℕ) (h : Fin N) (s : System N) (a : Action) : Prop where
  free : ∀ i, s.my i = none → h < i
  scripts : s.pAmx.length ≤ n
  stays : ¬ (s.slot h).Closes h a

theorem Tended.object (ht : s.Tended n h a) (hstep : s.step a = .next s' es)
    (hs : ∃ o, s.my h = some o ∧ o.conn = c) : ∃ o, s'.my h = some o ∧ o.conn = c := by
  obtain ⟨o, ho, rfl⟩ := hs
  obtain ⟨hs', hslot, -⟩ := step_slot_events hstep h
  obtain ⟨o', ho', hconn, -⟩ := hslot.object_stays ht.stays ho
  exact ⟨o', ho', hconn⟩

/-- A threaded query waits on a fresh connection; the slot after it is free. -/
def oneQueued : System 2 × List Event :=
  ((plugin 2).exec [Script.mysql_init, Script.mysql_connect 0, Script.mysql_query 7 5 0]
    System.initial).getD (System.initial, [])

/-- One round of turns later. -/
def oneRound : System 2 × List Event :=
  ((plugin 2).exec (Script.ticks 24 ++ Script.work 42 ++ []) oneQueued.1).getD oneQueued

/-- Below the first slot there is none. -/
theorem free_of_first {s : System 2} (hfirst : (s.my 0).isSome = true) (i : Fin 2)
    (hi : s.my i = none) : 0 < i := by
  refine Fin.pos_of_ne_zero ?_
  rintro rfl
  rw [hi] at hfirst
  cases hfirst

theorem oneRound_tended : (plugin 2).Path (Tended 0 0) oneQueued.1
    (Script.ticks 24 ++ Script.work 42 ++ []) oneRound.2 oneRound.1 := by
  refine Machine.Path.of_exec rfl (Machine.obeys_of_check
    (p := fun s a => (s.my 0).isSome && (s.pAmx.length ≤ 0) && !a.isClose) rfl fun s a ha => ?_)
  simp only [Bool.and_eq_true, decide_eq_true_eq, Bool.not_eq_true'] at ha
  obtain ⟨⟨hfirst, hlength⟩, hclose⟩ := ha
  exact ⟨free_of_first hfirst, hlength, Slot.not_closes hclose⟩

/-- **Both loops come round.** Between two turns of the worker that are `10 N + 1` statements apart it
    examines the object of a handle that is looked after, and `ProcessTick` does so in
    `(2 n + 5) N + 2` statements of its own. -/
theorem loops_come_round {tr₀ : List Event} {o : MySQL}
    (hrun : (plugin N).Reach (fun _ _ => True) tr₀ s) (ho : s.my h = some o)
    (hpath : (plugin N).Path (Tended n h) s as tr s') :
    (10 * N + 1 ≤ as.countP Action.isWorker → .examined .worker o.conn ∈ tr) ∧
      ((2 * n + 5) * N + 2 ≤ as.countP Action.isTick → .examined .main o.conn ∈ tr) := by
  have hpath' : (plugin N).Path (fun s a => s.Tended n h a ∧ ∃ o₁, s.my h = some o₁ ∧ o₁.conn = o.conn)
      s as tr s' :=
    hpath.strengthen (I := fun s => ∃ o₁, s.my h = some o₁ ∧ o₁.conn = o.conn)
      (fun _ _ _ _ hs ht hstep => ht.object hstep hs) ⟨o, ho, rfl⟩
  constructor
  · intro hcount
    obtain ⟨cs₁, lib, cs₂, s₁, s₂, tr₁, es, tr₂, src, rfl, rfl, hw, -, ⟨-, o₁, ho₁, hconn⟩, hstep, -⟩ :=
      worker_comes (fun _ _ ht => ht.1.free) hpath' hcount
    have hmem : .examined .worker o₁.conn ∈ es := by
      cases workerMove_of_step hstep with
      | restart _ hw' | enter _ _ hw' => exact absurd (hw.symm.trans hw') nofun
      | work k src' stmt o₂ o' place _ hw' ho₂ hd =>
          obtain ⟨rfl, rfl, rfl⟩ := WorkerPc.body.inj (hw.symm.trans hw')
          obtain rfl : o₁ = o₂ := Option.some.inj (ho₁.symm.trans ho₂)
          exact (mem_history rfl).1 hd.examines
    rw [← hconn]
    exact List.mem_append_right _ (List.mem_append_left _ hmem)
  · intro hcount
    obtain ⟨cs₁, cs₂, s₁, s₂, tr₁, es, tr₂, src, rfl, rfl, hm, -, ⟨-, o₁, ho₁, hconn⟩, hstep, -⟩ :=
      tick_comes (fun _ _ ht => ⟨ht.1.free, ht.1.scripts⟩) (scriptsLeft_reach hrun) hpath' hcount
    have hmem : .examined .main o₁.conn ∈ es := by
      cases tickMove_of_step hstep with
      | start hm' | finish _ hm' | enter _ _ hm' => exact absurd (hm.symm.trans hm') nofun
      | work k src' stmt v place _ hm' hd =>
          obtain ⟨rfl, rfl, rfl⟩ := MainPc.body.inj (hm.symm.trans hm')
          rw [ho₁] at hd
          exact (mem_history rfl).1 hd.examines
    rw [← hconn]
    exact List.mem_append_right _ (List.mem_append_left _ hmem)

theorem one_round_examines :
    ∃ o, oneQueued.1.my 0 = some o ∧ .examined .main o.conn ∈ oneRound.2 := by
  have hrun : (plugin 2).Reach (fun _ _ => True) oneQueued.2 oneQueued.1 :=
    Machine.run_of_exec (show (plugin 2).exec [Script.mysql_init, Script.mysql_connect 0,
      Script.mysql_query 7 5 0] System.initial = some oneQueued from rfl) (Machine.obeys_all _ _)
  obtain ⟨o, ho⟩ : ∃ o, oneQueued.1.my 0 = some o := ⟨_, rfl⟩
  exact ⟨o, ho, (loops_come_round hrun ho oneRound_tended).2 (by decide)⟩

/-- What is known of a handle that is looked after: it belongs to object `c`. -/
structure Attended (h : Fin N) (c : ℕ) (s : System N) : Prop where
  object : ∃ o, s.my h = some o ∧ o.conn = c
  follows : ∃ p, (s.slot h).Follows p
  scripts : s.ScriptsLeft

theorem Attended.step (hs : s.Attended h c) (ht : s.Tended n h a) (hstep : s.step a = .next s' es) :
    s'.Attended h c := by
  obtain ⟨p, hp⟩ := hs.follows
  obtain ⟨hs', hslot, -⟩ := step_slot_events hstep h
  obtain ⟨p', -, hp'⟩ := hslot.follows
    ⟨fun hclose => absurd hclose ht.stays, fun hclose => absurd hclose ht.stays⟩ hp
  exact ⟨ht.object hstep hs.object, ⟨p', hp'⟩, hs.scripts.step hstep⟩

/-- The paths on which a handle is looked after. -/
def Tending (n : ℕ) (h : Fin N) (c : ℕ) (s : System N) (a : Action) : Prop :=
  s.Tended n h a ∧ s.Attended h c

theorem Tending.attended (hpath : (plugin N).Path (Tending n h c) s as tr s')
    (hs : s.Attended h c) : s'.Attended h c :=
  hpath.invariant (I := Attended h c) (fun _ _ _ _ hs ht hstep => hs.step ht.1 hstep) hs

/-- An entry of object `c` is popped. -/
def Pop (c : ℕ) (tr : List Event) : Prop := ∃ e ∈ tr, ∃ q, e = .popped c q

theorem Pop.left (hp : Pop c tr) (tr' : List Event) : Pop c (tr ++ tr') := by
  obtain ⟨e, he, hq⟩ := hp
  exact ⟨e, List.mem_append_left _ he, hq⟩

theorem Pop.right (hp : Pop c tr) (tr' : List Event) : Pop c (tr' ++ tr) := by
  obtain ⟨e, he, hq⟩ := hp
  exact ⟨e, List.mem_append_right _ he, hq⟩

/-- What every step on the slot preserves unless it pops an entry holds until one is popped. -/
theorem Tending.until_pop {I : Slot → Prop}
    (hI : ∀ {a v v' hs o}, Slot.Step h a v hs v' → ¬ v.Closes h a → v.object = some o → I v →
      I v' ∨ ∃ e ∈ hs, ∃ q, e = .popped o.conn q)
    (hpath : (plugin N).Path (Tending n h c) s as tr s') (hs : I (s.slot h)) :
    I (s'.slot h) ∨ Pop c tr := by
  refine hpath.preserves_or (I := fun s => I (s.slot h)) (fun s a es s' hs ht hstep => ?_) hs
  obtain ⟨o, ho, rfl⟩ := ht.2.object
  obtain ⟨hs', hslot, hes⟩ := step_slot_events hstep h
  refine (hI hslot ht.1.stays ho hs).imp id fun ⟨e, he, hq⟩ => ?_
  rcases hes with rfl | rfl
  · cases he
  · exact ⟨e, List.mem_of_mem_filter he, hq⟩

/-- The first visit of `ProcessTick` takes the result that waits, if there is one ... -/
theorem Tending.noneWaits (hpath : (plugin N).Path (Tending n h c) s as tr s')
    (hs : s.Attended h c) (hcount : (2 * n + 5) * N + 2 ≤ as.countP Action.isTick) :
    (s'.slot h).NoneWaits ∨ Pop c tr := by
  obtain ⟨cs₁, cs₂, s₁, s₂, tr₁, es, tr₂, src, rfl, rfl, hm, -, ht, hstep, hpath₂⟩ :=
    tick_comes (fun _ _ ht => ⟨ht.1.free, ht.1.scripts⟩) hs.scripts hpath hcount
  obtain ⟨o, ho, rfl⟩ := ht.2.object
  obtain ⟨p, hp⟩ := ht.2.follows
  have hshakes : Slot.Shakes o (s₁.worker.place h) (some (src, .test)) p := by
    simpa only [Slot.Follows, slot, ho, hm, MainPc.place_body] using hp
  have hnone : (s₂.slot h).NoneWaits := by
    cases tickMove_of_step hstep with
    | start hm' | finish _ hm' | enter _ _ hm' => cases hm.symm.trans hm'
    | work k src' stmt v place _ hm' hd =>
        obtain ⟨rfl, rfl, rfl⟩ := MainPc.body.inj (hm.symm.trans hm')
        rw [ho] at hd
        simpa only [slot, MainPc.place_after, Function.update_self] using hshakes.test hd
  exact (Tending.until_pop Slot.Step.noneWaits hpath₂ hnone).imp id
    fun hpop => (hpop.right es).right tr₁

/-- ... and when it comes again, the mailbox is free. -/
theorem Tending.free (hpath : (plugin N).Path (Tending n h c) s as tr s') (hs : s.Attended h c)
    (hnone : (s.slot h).NoneWaits) (hcount : (2 * n + 5) * N + 2 ≤ as.countP Action.isTick) :
    (s'.slot h).Free ∨ Pop c tr := by
  obtain ⟨cs₁, cs₂, s₁, s₂, tr₁, es, tr₂, src, rfl, rfl, hm, hpath₁, ht, hstep, hpath₂⟩ :=
    tick_comes (fun _ _ ht => ⟨ht.1.free, ht.1.scripts⟩) hs.scripts hpath hcount
  rcases Tending.until_pop Slot.Step.noneWaits hpath₁ hnone with hnone₁ | hpop
  · obtain ⟨o, ho, -⟩ := ht.2.object
    have hfree : (s₁.slot h).Free := by
      by_cases hheld : (s₁.slot h).Held
      · exact .inl hheld
      · obtain ⟨p, hp, hfull⟩ := hnone₁.resolve_left hheld
        have hprod : p.producer = .away := by
          rw [← hp.producer_eq ho]
          by_contra hne
          exact hheld (Slot.held_of_producer hne)
        have hcons : p.consumer = .away := by
          rw [← hp.consumer_eq ho, main_place hm]
          rfl
        rcases Phase.free_or_full hprod hcons with rfl | ⟨b, rfl⟩
        · exact .inr hp
        · exact absurd rfl (hfull b)
    exact (Tending.until_pop Slot.Step.free (.cons ht hstep hpath₂) hfree).imp id
      fun hpop => hpop.right tr₁
  · exact .inr (hpop.left _)

theorem Tending.ticked (hpath : (plugin N).Path (Tending n h c) s as tr s') (hs : s.Attended h c)
    (hticks : 2 * ((2 * n + 5) * N + 2) ≤ as.countP Action.isTick) : (s'.slot h).Free ∨ Pop c tr := by
  rw [Nat.two_mul] at hticks
  obtain ⟨as₁, as₂, rfl, has₁, has₂⟩ := List.exists_append_of_le_countP hticks
  obtain ⟨s₁, tr₁, tr₂, hpath₁, hpath₂, rfl⟩ := hpath.split
  rcases Tending.noneWaits hpath₁ hs has₁ with hnone | hpop
  · exact (Tending.free hpath₂ (Tending.attended hpath₁ hs) hnone has₂).imp id fun hpop => hpop.right tr₁
  · exact .inr (hpop.left tr₂)

/-- Then the query thread copies the front of the queue ... -/
theorem Tending.held (hpath : (plugin N).Path (Tending n h c) s as tr s')
    (hfree : (s.slot h).Free) (hwaits : (s.slot h).Waits)
    (hcount : 10 * N + 1 ≤ as.countP Action.isWorker) : (s'.slot h).Held ∨ Pop c tr := by
  obtain ⟨cs₁, lib, cs₂, s₁, s₂, tr₁, es, tr₂, src, rfl, rfl, hw, hpath₁, ht, hstep, hpath₂⟩ :=
    worker_comes (fun _ _ ht => ht.1.free) hpath hcount
  rcases Tending.until_pop Slot.Step.free hpath₁ hfree with hfree₁ | hpop
  · rcases Tending.until_pop Slot.Step.waits hpath₁ hwaits with ⟨o, ho, hqueue⟩ | hpop
    · have hp : (s₁.slot h).Follows .free := by
        refine hfree₁.resolve_left ?_
        rintro ⟨src', stmt, q, hw', hq⟩
        rw [worker_place hw] at hw'
        cases hw'
        cases hq
      have hheld : (s₂.slot h).Held := by
        cases workerMove_of_step hstep with
        | restart _ hw' | enter _ _ hw' => exact absurd (hw.symm.trans hw') nofun
        | work k src' stmt o₁ o' place _ hw' ho₁ hd =>
            obtain ⟨rfl, rfl, rfl⟩ := WorkerPc.body.inj (hw.symm.trans hw')
            obtain rfl : o = o₁ := Option.some.inj (ho.symm.trans ho₁)
            obtain ⟨q, rfl⟩ := hd.copies hqueue (hp.flag_eq ho)
            exact ⟨o.conn, .submit q, q, worker_place rfl, rfl⟩
      exact (Tending.until_pop (fun hstep _ => hstep.held) hpath₂ hheld).imp id
        fun hpop => (hpop.right es).right tr₁
    · exact .inr (hpop.left _)
  · exact .inr (hpop.left _)

/-- ... and has popped it before it comes back. -/
theorem Tending.pop (hpath : (plugin N).Path (Tending n h c) s as tr s')
    (hheld : (s.slot h).Held) (hcount : 10 * N + 1 ≤ as.countP Action.isWorker) : Pop c tr := by
  obtain ⟨cs₁, lib, cs₂, s₁, s₂, tr₁, es, tr₂, src, rfl, rfl, hw, hpath₁, ht, hstep, hpath₂⟩ :=
    worker_comes (fun _ _ ht => ht.1.free) hpath hcount
  rcases Tending.until_pop (fun hstep _ => hstep.held) hpath₁ hheld with
    ⟨src', stmt, q, hw', hq⟩ | hpop
  · rw [worker_place hw] at hw'
    cases hw'
    cases hq
  · exact hpop.left _

/-- **In every round in which its queue is not empty, a handle gets an entry popped.** -/
theorem Tending.round (hpath : (plugin N).Path (Tending n h c) s (as ++ bs) tr s')
    (hs : s.Attended h c) (hwaits : (s.slot h).Waits)
    (hticks : 2 * ((2 * n + 5) * N + 2) ≤ as.countP Action.isTick)
    (hworks : 2 * (10 * N + 1) ≤ bs.countP Action.isWorker) : Pop c tr := by
  rw [Nat.two_mul] at hworks
  obtain ⟨bs₁, bs₂, rfl, hbs₁, hbs₂⟩ := List.exists_append_of_le_countP hworks
  obtain ⟨s₂, tr₁, tr₂, hpath₁, hpath₂, rfl⟩ := hpath.split
  obtain ⟨s₃, tr₃, tr₄, hpath₃, hpath₄, rfl⟩ := hpath₂.split
  rcases Tending.ticked hpath₁ hs hticks with hfree | hpop
  · rcases Tending.until_pop Slot.Step.waits hpath₁ hwaits with hwaits₂ | hpop
    · rcases Tending.held hpath₃ hfree hwaits₂ hbs₁ with hheld | hpop
      · exact ((Tending.pop hpath₄ hheld hbs₂).right tr₃).right tr₁
      · exact (hpop.left tr₄).right tr₁
    · exact hpop.left _
  · exact hpop.left _

/-! ## Round after round -/

/-- How many queries wait in a handle. -/
def queued (h : Fin N) (s : System N) : ℕ := ((s.my h).map (·.queryQueue.length)).getD 0

/-- How many entries of an object were popped. -/
def pops (c : ℕ) (tr : List Event) : ℕ := (popped (life c tr)).length

theorem pops_append (tr tr' : List Event) : pops c (tr ++ tr') = pops c tr + pops c tr' := by
  rw [pops, life_append, popped_append, List.length_append]
  rfl

theorem pops_history : pops c (history es) = pops c es := by
  rw [pops, life_history]
  rfl

theorem Pop.pops_pos (hp : Pop c tr) : 0 < pops c tr := by
  obtain ⟨e, he, q, rfl⟩ := hp
  refine List.length_pos_of_mem (a := q) (mem_popped.2 ⟨c, ?_⟩)
  exact List.mem_filter.2 ⟨he, decide_eq_true rfl⟩

theorem Tending.queued_le (hpath : (plugin N).Path (Tending n h c) s as tr s')
    (hs : s.Attended h c) : s.queued h ≤ pops c tr + s'.queued h := by
  induction hpath with
  | nil s => exact Nat.le_add_left ..
  | @cons s s₁ s' a as es tr ht hstep hpath ih =>
      have hrest := ih (hs.step ht.1 hstep)
      obtain ⟨o, ho, rfl⟩ := hs.object
      obtain ⟨hs', hslot, hes⟩ := step_slot_events hstep h
      obtain ⟨o', ho', -, hle⟩ := hslot.object_stays ht.1.stays ho
      have hle' : (popped (life o.conn hs')).length ≤ pops o.conn es := by
        rcases hes with rfl | rfl
        · exact Nat.zero_le _
        · rw [← pops_history]
          exact le_rfl
      have hq : s.queued h = o.queryQueue.length := by rw [queued, ho]; rfl
      have hq' : s₁.queued h = o'.queryQueue.length := by
        rw [queued, show s₁.my h = some o' from ho']
        rfl
      rw [pops_append]
      omega

/-- The turns of a round: what `ProcessTick` and the query thread need to come to a handle twice. -/
def tickTurns (n N : ℕ) : ℕ := 2 * ((2 * n + 5) * N + 2)

def workerTurns (N : ℕ) : ℕ := 2 * (10 * N + 1)

/-- `k` rounds of them. -/
def InRounds (n N k : ℕ) (as : List Action) : Prop :=
  Rounds Action.isTick Action.isWorker (tickTurns n N) (workerTurns N) k as

theorem Tending.pops_ge {k : ℕ} (hpath : (plugin N).Path (Tending n h c) s as tr s')
    (hs : s.Attended h c) (hturns : InRounds n N k as) : min k (s.queued h) ≤ pops c tr := by
  refine Path.work_of_rounds (J := Attended h c) (queued h) (pops c) pops_append
    (fun s as tr s' hs hpath => ⟨Tending.attended hpath hs, Tending.queued_le hpath hs⟩)
    (fun s as bs tr s' hs hleft hticks hworks hpath => ?_) hs hturns hpath
  refine (Tending.round hpath hs ?_ hticks hworks).pops_pos
  obtain ⟨o, ho, -⟩ := hs.object
  refine ⟨o, ho, fun hnil => hleft ?_⟩
  rw [queued, ho]
  simp [hnil]

theorem attended_of_reach {tr₀ : List Event} {o : MySQL}
    (hrun : (plugin N).Reach (fun s a => (s.slot h).ClosesQuietly h a) tr₀ s)
    (ho : s.my h = some o) : s.Attended h o.conn := by
  obtain ⟨hs, hslot, -⟩ := slot_reach hrun
  exact ⟨⟨o, ho, rfl⟩, Slot.follows_run (fun _ _ hq => hq) hslot, scriptsLeft_reach hrun⟩

/-- What a path on which the handle is looked after makes of its queue. -/
theorem pops_of_path {tr₀ : List Event} {o : MySQL}
    (hrun : (plugin N).Reach (fun s a => (s.slot h).ClosesQuietly h a) tr₀ s)
    (ho : s.my h = some o) (hpath : (plugin N).Path (Tended n h) s as tr s') :
    ∃ o', s'.my h = some o' ∧ o'.conn = o.conn ∧
      Slot.Pops (life o.conn (tr₀ ++ tr)) o' (s'.worker.place h) (s'.main.place h) ∧
      popped (life o.conn (tr₀ ++ tr)) = popped (life o.conn tr₀) ++ popped (life o.conn tr) ∧
      o.queryQueue ++ accepted (life o.conn tr) = popped (life o.conn tr) ++ o'.queryQueue := by
  have hobject : ∃ o', s'.my h = some o' ∧ o'.conn = o.conn :=
    hpath.invariant (I := fun s => ∃ o', s.my h = some o' ∧ o'.conn = o.conn)
      (fun _ _ _ _ hs ht hstep => ht.object hstep hs) ⟨o, ho, rfl⟩
  obtain ⟨o', ho', hconn⟩ := hobject
  -- the whole run is one on which the lives of the slot's objects are known
  have hquiet : (plugin N).Reach (fun s a => (s.slot h).ClosesQuietly h a) (tr₀ ++ tr) s' :=
    hrun.trans (hpath.run.mono fun s a ht =>
      ⟨fun hclose => absurd hclose ht.stays, fun hclose => absurd hclose ht.stays⟩)
  have hkeeps := Slot.keeps_pops h (Slot.ClosesQuietly h)
  have hbefore := ((lives_reach hkeeps (fun _ _ hq => hq.1) hrun).1 ho).queue
  have hafter := (lives_reach hkeeps (fun _ _ hq => hq.1) hquiet).1 ho'
  rw [hconn] at hafter
  have hpopped : popped (life o.conn (tr₀ ++ tr)) =
      popped (life o.conn tr₀) ++ popped (life o.conn tr) := by
    rw [life_append, popped_append]
  refine ⟨o', ho', hconn, hafter, hpopped, ?_⟩
  have heq := hafter.queue
  rw [hpopped, life_append, accepted_append, hbefore, List.append_assoc, List.append_assoc] at heq
  exact List.append_cancel_left heq

/-- Enough pops are those of the first entries. -/
theorem take_prefix_popped {k : ℕ} {queue queue' : List QueryInfo}
    (hqueue : queue ++ accepted (life c tr) = popped (life c tr) ++ queue')
    (hpops : min k queue.length ≤ pops c tr) : queue.take k <+: popped (life c tr) := by
  have hlength : (queue.take k).length ≤ (popped (life c tr)).length := by
    rw [List.length_take]
    exact hpops
  refine List.prefix_of_prefix_length_le ?_ (List.prefix_append _ queue') hlength
  rw [← hqueue]
  exact (List.take_prefix k _).trans (List.prefix_append ..)

theorem Tended.tending {o : MySQL} (hs : s.Attended h o.conn)
    (hpath : (plugin N).Path (Tended n h) s as tr s') :
    (plugin N).Path (Tending n h o.conn) s as tr s' :=
  hpath.strengthen (I := Attended h o.conn) (fun _ _ _ _ hs ht hstep => hs.step ht hstep) hs

/-- **A queued query is answered in bounded time.** From any state reached with quiet closing, `k`
    rounds of turns pop the first `k` entries of the queue of a handle that is looked after, in
    order, and every entry that was popped had been executed. -/
theorem answered_in_rounds {k : ℕ} {tr₀ : List Event} {o : MySQL}
    (hrun : (plugin N).Reach (fun s a => (s.slot h).ClosesQuietly h a) tr₀ s)
    (ho : s.my h = some o) (hpath : (plugin N).Path (Tended n h) s as tr s')
    (hturns : InRounds n N k as) :
    o.queryQueue.take k <+: popped (life o.conn tr) ∧
      popped (life o.conn (tr₀ ++ tr)) <+: (executed (life o.conn (tr₀ ++ tr))).map Prod.fst := by
  have hs := attended_of_reach hrun ho
  obtain ⟨o', -, -, hafter, -, hqueue⟩ := pops_of_path hrun ho hpath
  have hpops := Tending.pops_ge (Tended.tending hs hpath) hs hturns
  rw [queued, ho] at hpops
  exact ⟨take_prefix_popped hqueue hpops, hafter.executed ▸ List.prefix_append ..⟩

theorem answered_in_one_round :
    ∃ o, oneQueued.1.my 0 = some o ∧ o.queryQueue.length = 1 ∧
      o.queryQueue.take 1 <+: popped (life o.conn oneRound.2) := by
  have hrun : (plugin 2).Reach (fun s a => (s.slot 0).ClosesQuietly (0 : Fin 2) a) oneQueued.2
      oneQueued.1 :=
    Machine.run_of_exec (show (plugin 2).exec [Script.mysql_init, Script.mysql_connect 0,
      Script.mysql_query 7 5 0] System.initial = some oneQueued from rfl)
      (Machine.obeys_of_check (p := fun _ a => !a.isClose) rfl fun _ _ ha =>
        Slot.closesQuietly_of_not_close (by simpa using ha))
  obtain ⟨o, ho, hlength⟩ : ∃ o, oneQueued.1.my 0 = some o ∧ o.queryQueue.length = 1 :=
    ⟨_, rfl, rfl⟩
  exact ⟨o, ho, hlength,
    (answered_in_rounds hrun ho oneRound_tended (.succ (by decide) (by decide) (.zero []))).1⟩

end System
end MysqlPlugin
