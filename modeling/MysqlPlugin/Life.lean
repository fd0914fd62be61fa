import MysqlPlugin.Iteration

set_option autoImplicit false

/-! # Invariants through the life of an object

A property `K` of the life of an object so far, the object, and the places of the two threads is kept
if it holds when the object is made and every step on its slot keeps it (`Slot.Keeps`). Then it holds
of the object in the slot at every moment, and it held of every object closed before, at the moment it
was closed (`Slot.lives_run`). What makes this work is that in a run which does not close the slot
under the worker, the history of a slot is the lives of its objects one after another. -/

namespace MysqlPlugin

/-! ## The events of a step are about the object of the slot -/

/-- An event that is about object `c` and does not close it. -/
def Event.LivesOn (c : ℕ) (e : Event) : Prop :=
  e.about = some c ∧ ∀ k queries results, e ≠ .closed c k queries results

theorem WorkerStmt.Does.livesOn {lib : Answers} {src : ℕ} {o o' : MySQL} {stmt : WorkerStmt}
    {es : List Event} {place : Option (ℕ × WorkerStmt)} (hd : stmt.Does lib src o es o' place)
    (hs : stmt.Sound src o) : ∀ e ∈ es, e.LivesOn o.conn := by
  intro e he
  cases hd with
  | answer q conn =>
      rw [List.mem_singleton.1 he, hs.client q conn rfl, ← hs.object]
      exact ⟨rfl, nofun⟩
  | skip | submit | push | report | pop =>
      rw [List.mem_singleton.1 he]
      exact ⟨rfl, nofun⟩
  | copy =>
      rcases List.mem_pair.1 he with rfl | rfl
      · exact ⟨rfl, nofun⟩
      · exact ⟨rfl, nofun⟩
  | logExecuted | succeeded | failed | setParsing | clearParsing | returned | logResult => cases he

theorem TickStmt.Does.livesOn {pAmx : List AMX} {src : ℕ} {o : MySQL} {v' : Option MySQL}
    {stmt : TickStmt} {es : List Event} {place : Option (ℕ × TickStmt)}
    (hd : stmt.Does pAmx src (some o) es v' place) : ∀ e ∈ es, e.LivesOn o.conn := by
  intro e he
  cases hd with
  | skip | pop =>
      rw [List.mem_singleton.1 he]
      exact ⟨rfl, nofun⟩
  | take =>
      rcases List.mem_pair.1 he with rfl | rfl
      · exact ⟨rfl, nofun⟩
      · exact ⟨rfl, nofun⟩
  | done | pass | exec | returned | clear => cases he

theorem MySQL.Change.livesOn {name : NativeName} {params : List Cell} {lib : Answers}
    {o o' : MySQL} {es : List Event} (hc : o.Change name params lib es o') :
    ∀ e ∈ history es, e.LivesOn o.conn := by
  intro e he
  obtain ⟨q, rfl⟩ := hc.mem_history he
  exact ⟨rfl, nofun⟩

/-! ## Properties that the life of an object keeps -/

namespace Slot

/-- A property of an object, its life so far, and the places of the two threads. -/
abbrev Property :=
  List Event → MySQL → Option (ℕ × WorkerStmt) → Option (ℕ × TickStmt) → Prop

/-- `K` holds of a new object, and every step on slot `h` that obeys `P` keeps it. -/
structure Keeps (h : ℕ) (P : Slot → Action → Prop) (K : Property) : Prop where
  opened : ∀ n env log print t,
    K [.opened n h] ((MySQL.new env n h).initialised env.lib log print) none t
  workerEnter : ∀ {L o t}, K L o none t → K L o (some (o.conn, .test)) t
  worker : ∀ {L o src stmt t n a lib es o' place}, P ⟨some o, some (src, stmt), t, n⟩ a →
    stmt.Sound src o → K L o (some (src, stmt)) t → stmt.Does lib src o es o' place →
      K (L ++ es) o' place t
  tickEnter : ∀ {L o w}, K L o w none → K L o w (some (o.conn, .test))
  tick : ∀ {L o w src stmt n a pAmx es o' place}, P ⟨some o, w, some (src, stmt), n⟩ a →
    K L o w (some (src, stmt)) → stmt.Does pAmx src (some o) es (some o') place →
      K (L ++ es) o' w place
  native : ∀ {L o w t n thread name amx params lib es o'},
    P ⟨some o, w, t, n⟩ (.native thread name amx params lib) →
    (∀ src stmt, w = some (src, stmt) → stmt.Sound src o) →
    name.handle params = some (h : ℤ) → K L o w t → o.Change name params lib es o' →
      K (L ++ history es) o' w t

/-- What is known of an object that was closed: `K` held of it when it was closed, and its life ended
    there. -/
def Ended (h : ℕ) (P : Slot → Action → Prop) (K : Property) (hs : List Event) (c : ℕ)
    (queries : List QueryInfo) (results : List ThreadInfo) : Prop :=
  ∃ L o w t n a, K L o w t ∧ P ⟨some o, w, t, n⟩ a ∧ Closes h ⟨some o, w, t, n⟩ a ∧ o.conn = c ∧
    o.queryQueue = queries ∧ o.threadQueue = results ∧
      life c hs = L ++ [.closed c h queries results]

/-- The invariant behind `lives_run`: the slot's history is the lives of its objects so far. -/
structure Lives (h : ℕ) (P : Slot → Action → Prop) (K : Property) (hs : List Event) (v : Slot) :
    Prop where
  sound : v.WorkerSound
  fresh : ∀ {e c}, e ∈ hs → e.about = some c → c < v.created
  conn : ∀ {o}, v.object = some o → o.conn < v.created
  gone : ∀ {o c queries results}, v.object = some o → .closed c h queries results ∈ hs → o.conn ≠ c
  alive : ∀ {o}, v.object = some o → K (life o.conn hs) o v.worker v.tick
  ended : ∀ {c queries results}, .closed c h queries results ∈ hs → Ended h P K hs c queries results
  known : ∀ {c}, .opened c h ∈ hs →
    (∃ o, v.object = some o ∧ o.conn = c) ∨ ∃ queries results, .closed c h queries results ∈ hs

variable {h : ℕ} {P : Slot → Action → Prop} {K : Property} {a : Action} {v v' : Slot}
  {hs es : List Event}

/-- A list of events about one object is the life of that object. -/
theorem life_eq_self {c : ℕ} (hes : ∀ e ∈ es, e.about = some c) : life c es = es := by
  simpa [life] using hes

theorem Lives.initial : Lives h P K [] initial :=
  ⟨workerSound_initial, nofun, nofun, nofun, nofun, nofun, nofun⟩

/-- A step that keeps the object (`o` before, `o'` after): its events are about that object, and none
    of them closes it. -/
theorem Lives.go_on (hl : Lives h P K hs v) {o o' : MySQL} (ho : v.object = some o)
    (ho' : v'.object = some o') (hconn : o'.conn = o.conn) (hcreated : v.created ≤ v'.created)
    (hsound : v'.WorkerSound) (hes : ∀ e ∈ es, e.LivesOn o.conn)
    (hK : K (life o.conn hs ++ es) o' v'.worker v'.tick) : Lives h P K (hs ++ es) v' := by
  have hnot : ∀ {c queries results}, .closed c h queries results ∈ hs ++ es →
      .closed c h queries results ∈ hs := by
    intro c queries results hc
    refine (List.mem_append.1 hc).resolve_right fun he => ?_
    obtain ⟨habout, hne⟩ := hes _ he
    cases habout
    exact hne h queries results rfl
  refine ⟨hsound, fun he hc => ?_, fun {o₁} ho₁ => ?_, fun {o₁ c queries results} ho₁ hc => ?_,
    fun {o₁} ho₁ => ?_, fun {c queries results} hc => ?_, fun {c} hc => ?_⟩
  · rcases List.mem_append.1 he with he | he
    · exact lt_of_lt_of_le (hl.fresh he hc) hcreated
    · rw [(hes _ he).1] at hc
      cases hc
      exact lt_of_lt_of_le (hl.conn ho) hcreated
  · obtain rfl : o' = o₁ := Option.some.inj (ho'.symm.trans ho₁)
    rw [hconn]
    exact lt_of_lt_of_le (hl.conn ho) hcreated
  · obtain rfl : o' = o₁ := Option.some.inj (ho'.symm.trans ho₁)
    rw [hconn]
    exact hl.gone ho (hnot hc)
  · obtain rfl : o' = o₁ := Option.some.inj (ho'.symm.trans ho₁)
    rwa [hconn, life_append, life_eq_self fun e he => (hes e he).1]
  · obtain ⟨L, o₁, w, t, n, b, hK₁, hPb, hb, hc₁, hq, ht, hlife⟩ := hl.ended (hnot hc)
    refine ⟨L, o₁, w, t, n, b, hK₁, hPb, hb, hc₁, hq, ht, ?_⟩
    have hne : life c es = [] := life_eq_nil fun e he hec =>
      hl.gone ho (hnot hc) (Option.some.inj ((hes e he).1.symm.trans hec))
    rw [life_append, hne, List.append_nil, hlife]
  · rcases List.mem_append.1 hc with hc | hc
    · rcases hl.known hc with ⟨o₁, ho₁, hc₁⟩ | ⟨queries, results, hcl⟩
      · obtain rfl : o = o₁ := Option.some.inj (ho.symm.trans ho₁)
        exact .inl ⟨o', ho', hconn.trans hc₁⟩
      · exact .inr ⟨queries, results, List.mem_append_left _ hcl⟩
    · exact .inl ⟨o', ho', hconn.trans (Option.some.inj (hes _ hc).1).symm⟩

/-- A step on an empty slot that leaves it empty. -/
theorem Lives.stay_empty (hl : Lives h P K hs v) (hv : v.object = none) (hv' : v'.object = none)
    (hcreated : v.created ≤ v'.created) (hsound : v'.WorkerSound) : Lives h P K hs v' := by
  have ho' : ∀ {o}, v'.object ≠ some o := by
    intro o
    rw [hv']
    nofun
  exact ⟨hsound, fun he hc => lt_of_lt_of_le (hl.fresh he hc) hcreated,
    fun ho₁ => absurd ho₁ ho', fun ho₁ => absurd ho₁ ho', fun ho₁ => absurd ho₁ ho', hl.ended,
    fun hc => by simpa only [hv, hv'] using hl.known hc⟩

/-- An event about another object leaves what is known of a closed one. -/
theorem Ended.append {c : ℕ} {queries : List QueryInfo} {results : List ThreadInfo} {e : Event}
    (hended : Ended h P K hs c queries results) (he : e.about ≠ some c) :
    Ended h P K (hs ++ [e]) c queries results := by
  obtain ⟨L, o, w, t, n, b, hK, hPb, hb, hconn, hq, ht, hlife⟩ := hended
  have hne : life c [e] = [] := by simpa [life] using he
  refine ⟨L, o, w, t, n, b, hK, hPb, hb, hconn, hq, ht, ?_⟩
  rw [life_append, hne, List.append_nil, hlife]

/-- A new object gets a fresh number, so its life starts with the opening. -/
theorem Lives.open_slot (hkeeps : Keeps h P K) {t : Option (ℕ × TickStmt)} {n n' : ℕ} {env : Env}
    {log : ℤ} {print : Bool} (hl : Lives h P K hs ⟨none, none, t, n⟩) (hn : n < n') :
    Lives h P K (hs ++ [.opened n h])
      ⟨some ((MySQL.new env n h).initialised env.lib log print), none, t, n'⟩ := by
  have hnew : ∀ {e c}, e ∈ hs → e.about = some c → c ≠ n := fun he hc =>
    Nat.ne_of_lt (hl.fresh he hc)
  have hnot : ∀ {c queries results}, .closed c h queries results ∈ hs ++ [.opened n h] →
      .closed c h queries results ∈ hs := by simp
  refine ⟨?_, fun {e c} he hc => ?_, fun {o} ho => ?_, fun {o c queries results} ho hc => ?_,
    fun {o} ho => ?_, fun {c queries results} hc => ?_, fun {c} hc => ?_⟩
  · intro src stmt hw
    simp at hw
  · rcases List.mem_append.1 he with he | he
    · exact (hl.fresh he hc).trans hn
    · rw [List.mem_singleton.1 he] at hc
      exact Option.some.inj hc ▸ hn
  · exact Option.some.inj ho ▸ hn
  · rw [← Option.some.inj ho]
    exact (hnew (hnot hc) rfl).symm
  · rw [← Option.some.inj ho]
    have hnil : life n hs = [] := life_eq_nil fun e he hc => hnew he hc rfl
    show K (life n (hs ++ [.opened n h])) _ none t
    rw [life_append, hnil, life_eq_self (by simp [Event.about])]
    exact hkeeps.opened n env log print t
  · exact (hl.ended (hnot hc)).append fun hec => hnew (hnot hc) rfl (Option.some.inj hec).symm
  · rcases List.mem_append.1 hc with hc | hc
    · rcases hl.known hc with ⟨o₁, ho₁, -⟩ | ⟨queries, results, hcl⟩
      · simp at ho₁
      · exact .inr ⟨queries, results, List.mem_append_left _ hcl⟩
    · have hc : c = n := by simpa using hc
      exact .inl ⟨_, rfl, hc.symm⟩

/-- The object that is closed joins those that ended. -/
theorem Lives.close_slot {o : MySQL} {w : Option (ℕ × WorkerStmt)} {t : Option (ℕ × TickStmt)}
    {n n' : ℕ} (hl : Lives h P K hs ⟨some o, w, t, n⟩) (hP : P ⟨some o, w, t, n⟩ a)
    (hcloses : Closes h ⟨some o, w, t, n⟩ a) (hn : n ≤ n') (hsound : WorkerSound ⟨none, w, t, n'⟩) :
    Lives h P K (hs ++ [.closed o.conn h o.queryQueue o.threadQueue]) ⟨none, w, t, n'⟩ := by
  have hempty : ∀ {o₁ : MySQL}, (⟨none, w, t, n'⟩ : Slot).object ≠ some o₁ := by simp
  refine ⟨hsound, fun {e c} he hc => ?_, fun ho => absurd ho hempty, fun ho => absurd ho hempty,
    fun ho => absurd ho hempty, fun {c queries results} hc => ?_, fun {c} hc => .inr ?_⟩
  · rcases List.mem_append.1 he with he | he
    · exact lt_of_lt_of_le (hl.fresh he hc) hn
    · rw [List.mem_singleton.1 he] at hc
      exact Option.some.inj hc ▸ lt_of_lt_of_le (hl.conn rfl) hn
  · rcases List.mem_append.1 hc with hc | hc
    · exact (hl.ended hc).append fun hec => hl.gone rfl hc (Option.some.inj hec)
    · -- this object: what `K` says of it now is what is kept
      cases List.mem_singleton.1 hc
      have hself : life o.conn [.closed o.conn h o.queryQueue o.threadQueue] =
          [.closed o.conn h o.queryQueue o.threadQueue] :=
        life_eq_self fun e he => by rw [List.mem_singleton.1 he]; rfl
      refine ⟨_, o, w, t, n, a, hl.alive rfl, hP, hcloses, rfl, rfl, rfl, ?_⟩
      rw [life_append, hself]
  · have hc : .opened c h ∈ hs := by simpa using hc
    rcases hl.known hc with ⟨o₁, ho₁, rfl⟩ | ⟨queries, results, hcl⟩
    · rw [← Option.some.inj ho₁]
      exact ⟨_, _, List.mem_append_right _ (List.mem_singleton.2 rfl)⟩
    · exact ⟨queries, results, List.mem_append_left _ hcl⟩

/-- **Every step keeps the lives of a slot.** -/
theorem Lives.step (hkeeps : Keeps h P K) (hP : P v a) (hspare : v.SparesWorker h a)
    (hl : Lives h P K hs v) (hstep : Step h a v es v') : Lives h P K (hs ++ es) v' := by
  have hsound := hstep.workerSound hspare hl.sound
  have hcreated := hstep.created
  cases hstep with
  | other _ _ hsame =>
      rw [List.append_nil]
      cases ho : v.object with
      | some o =>
          rw [← List.append_nil hs]
          refine hl.go_on ho (hsame.object.trans ho) rfl hcreated hsound (by simp) ?_
          rw [List.append_nil, hsame.worker, hsame.tick]
          exact hl.alive ho
      | none => exact hl.stay_empty ho (hsame.object.trans ho) hcreated hsound
  | workerEnter lib ha o t n =>
      refine hl.go_on rfl rfl rfl hcreated hsound (by simp) ?_
      rw [List.append_nil]
      exact hkeeps.workerEnter (hl.alive rfl)
  | worker lib ha o o' src stmt place _ t n hd =>
      obtain ⟨o₁, ho₁, hst⟩ := hl.sound src stmt rfl
      obtain rfl : o = o₁ := Option.some.inj ho₁
      exact hl.go_on rfl rfl hd.conn hcreated hsound (hd.livesOn hst)
        (hkeeps.worker hP hst (hl.alive rfl) hd)
  | tickEnter ha o w n =>
      refine hl.go_on rfl rfl rfl hcreated hsound (by simp) ?_
      rw [List.append_nil]
      exact hkeeps.tickEnter (hl.alive rfl)
  | tick ha pAmx v₀ v₁ src stmt place _ w n hd =>
      have hconn := hd.conn
      cases v₀ with
      | none =>
          -- only the loop over the scripts goes on without an object, and it has no history
          have hv₁ : v₁ = none := by simpa using hconn
          have hes : es = [] := by cases hd <;> rfl
          rw [hes, List.append_nil]
          exact hl.stay_empty rfl hv₁ hcreated hsound
      | some o =>
          obtain ⟨o', rfl, hc⟩ := Option.map_eq_some_iff.1 hconn
          exact hl.go_on rfl rfl hc hcreated hsound hd.livesOn (hkeeps.tick hP (hl.alive rfl) hd)
  | native thread name amx params lib ha hh o o' es w t hr n n' hn hc =>
      subst ha
      have hst : ∀ src stmt, w = some (src, stmt) → stmt.Sound src o := by
        intro src stmt hw
        obtain ⟨o₁, ho₁, hst⟩ := hl.sound src stmt hw
        obtain rfl : o = o₁ := Option.some.inj ho₁
        exact hst
      exact hl.go_on rfl rfl hc.conn hcreated hsound hc.livesOn
        (hkeeps.native hP hst hh (hl.alive rfl) hc)
  | opened thread amx params lib ha env log print w t hr n n' hn =>
      cases w with
      | none => exact hl.open_slot hkeeps hn
      | some place =>
          obtain ⟨o, ho, -⟩ := hl.sound place.1 place.2 rfl
          simp at ho
  | closed thread amx params lib ha hp hh o hconn w t hr n n' hn =>
      exact hl.close_slot hP ⟨thread, amx, params, lib, ha, hp, hh, hconn⟩ hn hsound

/-- **What the life of an object keeps, holds.** In a run that does not close the slot under the
    worker, `K` holds of the object in the slot, and it held of every object closed before. -/
theorem lives_run (hkeeps : Keeps h P K) (hP : ∀ v a, P v a → v.SparesWorker h a)
    (hrun : (lts h).Run P Slot.initial hs v) : Lives h P K hs v :=
  hrun.history (fun _ _ _ _ _ hl hPa hstep => hl.step hkeeps hPa (hP _ _ hPa) hstep) Lives.initial

end Slot
end MysqlPlugin
