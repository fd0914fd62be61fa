import MysqlPlugin.Conservation

set_option autoImplicit false

/-! # Where the entries of a connection come from

Entries are copied from queue to queue: from a native to `queryQueue`, through the worker's locals to
`threadQueue`, and from there into `ProcessTick`. Every one of them goes back to a query that was
accepted on the connection it is found on (`Slot.keeps_originates`), as long as no slot is closed under
the worker. -/

namespace MysqlPlugin

open History

theorem mem_accepted_life {c : ℕ} {q : QueryInfo} {tr : List Event} :
    q ∈ accepted (life c tr) ↔ .accepted c q ∈ tr := by
  simp only [accepted, life, List.mem_filterMap, List.mem_filter, decide_eq_true_eq]
  refine ⟨?_, fun h => ⟨_, ⟨h, rfl⟩, rfl⟩⟩
  rintro ⟨e, ⟨he, hc⟩, hq⟩
  cases e <;> cases hq
  cases hc
  exact he

theorem mem_taken_life {c : ℕ} {t : ThreadInfo} {tr : List Event} :
    t ∈ taken (life c tr) ↔ .taken c t ∈ tr := by
  simp only [taken, life, List.mem_filterMap, List.mem_filter, decide_eq_true_eq]
  refine ⟨?_, fun h => ⟨_, ⟨h, rfl⟩, rfl⟩⟩
  rintro ⟨e, ⟨he, hc⟩, ht⟩
  cases e <;> cases ht
  cases hc
  exact he

/-- The result the worker is about to hand over. -/
def WorkerStmt.result : WorkerStmt → Option ThreadInfo
  | .setParsing _ t | .push _ t => some t
  | _ => none

namespace Slot

/-- The result belongs to a query that was accepted on this connection. -/
def Origin (L : List Event) (t : ThreadInfo) : Prop := ∃ q ∈ accepted L, q.Carried t

/-- Whatever waits, is held by the worker, or was taken for delivery on a connection was accepted on
    that connection. -/
structure Originates (L : List Event) (o : MySQL) (w : Option (ℕ × WorkerStmt))
    (_t : Option (ℕ × TickStmt)) : Prop where
  queries : ∀ q ∈ o.queryQueue, q ∈ accepted L
  results : ∀ t ∈ o.threadQueue, Origin L t
  held : ∀ src stmt t, w = some (src, stmt) → stmt.result = some t → Origin L t
  taken : ∀ t ∈ taken L, Origin L t

theorem Origin.append {L : List Event} {t : ThreadInfo} (ht : Origin L t) (es : List Event) :
    Origin (L ++ es) t := by
  obtain ⟨q, hq, hc⟩ := ht
  exact ⟨q, by simp [hq], hc⟩

variable {L es : List Event} {o o' : MySQL} {w place : Option (ℕ × WorkerStmt)}
  {t t' : Option (ℕ × TickStmt)}

/-- Later events do not matter, as long as no other result is taken. -/
theorem Originates.later (ho : Originates L o w t) (hq : ∀ q ∈ o'.queryQueue, q ∈ o.queryQueue)
    (hr : ∀ r ∈ o'.threadQueue, r ∈ o.threadQueue)
    (hplace : ∀ src stmt r, place = some (src, stmt) → stmt.result = some r → Origin L r)
    (htaken : ∀ r ∈ History.taken es, Origin L r) : Originates (L ++ es) o' place t' where
  queries q hmem := by
    rw [accepted_append]
    exact List.mem_append_left _ (ho.queries q (hq q hmem))
  results r hmem := (ho.results r (hr r hmem)).append es
  held src stmt r hp hres := (hplace src stmt r hp hres).append es
  taken r hmem := by
    rw [taken_append, List.mem_append] at hmem
    exact (hmem.elim (ho.taken r) (htaken r)).append es

theorem originates_worker {lib : Answers} {src : ℕ} {stmt : WorkerStmt}
    (hsound : stmt.Sound src o) (hK : Originates L o (some (src, stmt)) t)
    (hd : stmt.Does lib src o es o' place) : Originates (L ++ es) o' place t := by
  cases hd with
  | skip =>
      refine hK.later (fun q hq => hq) (fun r hr => hr) ?_ (by simp [taken])
      rintro src' stmt' r ⟨⟩
  | copy | submit | answer | logExecuted | failed | clearParsing | report | returned | logResult =>
      refine hK.later (fun q hq => hq) (fun r hr => hr) ?_ (by simp [taken])
      rintro src' stmt' r hp hres
      cases hp
      cases hres
  | succeeded q hs =>
      refine hK.later (fun q hq => hq) (fun r hr => hr) ?_ (by simp [taken])
      rintro src' stmt' r hp hres
      cases hp
      cases hres
      -- the front is still in the queue, so it was accepted here
      have hfront := List.mem_of_mem_head? (hsound.front q rfl)
      exact ⟨q, hK.queries q hfront, q.carried_toThreadInfo⟩
  | setParsing q r =>
      refine hK.later (fun q hq => hq) (fun r hr => hr) ?_ (by simp [taken])
      rintro src' stmt' r' hp hres
      cases hp
      cases hres
      exact hK.held src _ r rfl rfl
  | push q r =>
      have hr := hK.held src _ r rfl rfl
      refine ⟨fun q hq => ?_, fun r' hr' => ?_, ?_, fun r' hr' => ?_⟩
      · simpa [accepted] using hK.queries q hq
      · rcases List.mem_append.1 hr' with hr' | hr'
        · exact (hK.results r' hr').append _
        · rw [List.mem_singleton.1 hr']
          exact hr.append _
      · rintro src' stmt' r' hp hres
        cases hp
        cases hres
      · exact (hK.taken r' (by simpa [taken] using hr')).append _
  | pop q front rest hq =>
      refine hK.later (fun q' hq' => ?_) (fun r hr => hr) ?_ (by simp [taken])
      · rw [hq]
        exact List.mem_cons_of_mem _ hq'
      · rintro src' stmt' r ⟨⟩

theorem originates_tick {pAmx : List AMX} {src : ℕ} {stmt : TickStmt}
    {place : Option (ℕ × TickStmt)} (hK : Originates L o w (some (src, stmt)))
    (hd : stmt.Does pAmx src (some o) es (some o') place) : Originates (L ++ es) o' w place := by
  cases hd with
  | skip | done | pass | exec | returned | clear =>
      exact hK.later (fun q hq => hq) (fun r hr => hr) hK.held (by simp [taken])
  | take _ r rest hq hp =>
      refine hK.later (fun q hq => hq) (fun r hr => hr) hK.held fun r' hr' => ?_
      have hrr : r' = r := by simpa [taken] using hr'
      rw [hrr]
      exact hK.results r (by rw [hq]; exact List.mem_cons_self)
  | pop _ r front rest hq =>
      refine hK.later (fun q hq => hq) (fun r' hr' => ?_) hK.held (by simp [taken])
      rw [hq]
      exact List.mem_cons_of_mem _ hr'

theorem originates_native {name : NativeName} {params : List Cell} {lib : Answers}
    (hK : Originates L o w t) (hc : o.Change name params lib es o') :
    Originates (L ++ history es) o' w t := by
  have hresults := hc.handOver.2
  cases hc with
  | accepted q hn hr hm hs hclient =>
      rw [hs]
      refine ⟨fun q' hq' => ?_, fun r hr => (hK.results r hr).append _,
        fun src stmt r hp hres => (hK.held src stmt r hp hres).append _, fun r hr => ?_⟩
      · rcases List.mem_append.1 hq' with hq' | hq'
        · rw [accepted_append]
          exact List.mem_append_left _ (hK.queries q' hq')
        · simp [accepted, List.mem_singleton.1 hq']
      · exact (hK.taken r (by simpa [taken] using hr)).append _
  | observed h =>
      refine hK.later (fun q hq => ?_) (fun r hr => hresults ▸ hr) hK.held (by simp [h.silent, taken])
      rw [h.same] at hq
      exact hq
  | connected c hn hconn hs =>
      exact hK.later (fun q hq => hq) (fun r hr => hr) hK.held (by simp [hs, taken])
  | executed statement hn hr hs =>
      exact hK.later (fun q hq => hq) (fun r hr => hr) hK.held (by simp [hs, taken])
  | stored hn hres hstate hs =>
      exact hK.later (fun q hq => hq) (fun r hr => hr) hK.held (by simp [hs, taken])
  | freed hn hs =>
      exact hK.later (fun q hq => hq) (fun r hr => hr) hK.held (by simp [hs, taken])

/-- **Every step keeps the origin of what a connection holds.** -/
theorem keeps_originates (h : ℕ) (P : Slot → Action → Prop) : Keeps h P Originates where
  opened n env log print t := by
    refine ⟨fun q hq => ?_, fun r hr => ?_, fun src stmt r hp => ?_, fun r hr => ?_⟩
    · cases hq
    · cases hr
    · simp at hp
    · cases hr
  workerEnter hK := ⟨hK.queries, hK.results, by rintro _ _ _ ⟨⟩ ⟨⟩, hK.taken⟩
  worker _ hsound hK hd := originates_worker hsound hK hd
  tickEnter hK := ⟨hK.queries, hK.results, hK.held, hK.taken⟩
  tick _ hK hd := originates_tick hK hd
  native _ _ _ hK hc := originates_native hK hc

end Slot

namespace System

variable {N : ℕ} {s : System N} {tr : List Event}

/-- What the connections hold and held in a run that closes no slot under the worker. -/
theorem originates_reach
    (hrun : (plugin N).Reach (fun s a => ∀ h : Fin N, (s.slot h).SparesWorker h a) tr s) :
    (∀ (h : Fin N) o, s.my h = some o →
      Slot.Originates (life o.conn tr) o (s.worker.place h) (s.main.place h)) ∧
      ∀ c t, .taken c t ∈ tr → ∃ q, .accepted c q ∈ tr ∧ q.Carried t := by
  have hlives := fun h : Fin N => lives_reach (Slot.keeps_originates h _) (fun _ _ hP => hP)
    (hrun.mono fun s a hs => hs h)
  refine ⟨fun h o ho => (hlives h).1 ho, fun c t ht => ?_⟩
  suffices hlife : Slot.Origin (life c tr) t by
    obtain ⟨q, hq, hcarried⟩ := hlife
    exact ⟨q, mem_accepted_life.1 hq, hcarried⟩
  obtain ⟨h, hopen⟩ := (owned_reach hrun).known ht rfl
  have htaken : t ∈ taken (life c tr) := mem_taken_life.2 ht
  rcases (hlives h).2.2 hopen with ⟨o, ho, rfl⟩ | ⟨queries, results, hclosed⟩
  · exact ((hlives h).1 ho).taken t htaken
  · obtain ⟨L, o, w, tick, n, a, hK, -, -, -, -, -, hlife⟩ := (hlives h).2.1 hclosed
    rw [hlife] at htaken ⊢
    exact (hK.taken t (by simpa [taken] using htaken)).append _

end System
end MysqlPlugin
