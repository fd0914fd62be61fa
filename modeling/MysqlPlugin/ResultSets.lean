import MysqlPlugin.Deeds
import MysqlPlugin.Life

set_option autoImplicit false

/-! # Who owns the result sets

`mysql_store_result` hands out result sets, numbered per connection, and `mysql_free_result` takes
them back. The ledger of a connection is what a trace says about both (`storedOf`, `freedOf`). The
invariant: on a live connection everything handed out has been taken back, in order, but for the
result set the member `result` holds; and on a closed one everything has
(`System.results_owned`).

The step lemma is `MySQL.Settles`, one case for each thing that can happen to an object; only natives
move result sets, and the closing of a connected object takes its own back. -/

namespace MysqlPlugin

open Prog Natives

/-! ## The ledger of a connection -/

/-- The number of the result set an event hands out on connection `c`. -/
def Event.storedOf (c : ℕ) : Event → Option ℕ
  | .stored c' number => if c' = c then some number else none
  | _ => none

/-- The number of the result set an event takes back on connection `c`. -/
def Event.freedOf (c : ℕ) : Event → Option ℕ
  | .freed c' number => if c' = c then some number else none
  | _ => none

/-- The result sets handed out on connection `c`, in order. -/
def storedOf (c : ℕ) (tr : List Event) : List ℕ := tr.filterMap (Event.storedOf c)

/-- The result sets taken back on connection `c`, in order. -/
def freedOf (c : ℕ) (tr : List Event) : List ℕ := tr.filterMap (Event.freedOf c)

@[simp] theorem storedOf_nil (c : ℕ) : storedOf c [] = [] := rfl

@[simp] theorem freedOf_nil (c : ℕ) : freedOf c [] = [] := rfl

@[simp] theorem storedOf_append (c : ℕ) (tr tr' : List Event) :
    storedOf c (tr ++ tr') = storedOf c tr ++ storedOf c tr' := List.filterMap_append ..

@[simp] theorem freedOf_append (c : ℕ) (tr tr' : List Event) :
    freedOf c (tr ++ tr') = freedOf c tr ++ freedOf c tr' := List.filterMap_append ..

/-- An event of the ledger is a deed. -/
theorem Event.isDeed_of_ledger {c n : ℕ} {e : Event}
    (h : e.storedOf c = some n ∨ e.freedOf c = some n) :
    e.isPlain = false ∧ e.isHistory = false := by
  cases e <;> simp_all [Event.storedOf, Event.freedOf, Event.isPlain, Event.isHistory, Event.about]

theorem storedOf_deeds (c : ℕ) (tr : List Event) : storedOf c (deeds tr) = storedOf c tr := by
  unfold storedOf deeds
  rw [List.filterMap_filter]
  refine List.filterMap_congr fun e _ => ?_
  cases hn : e.storedOf c with
  | none => simp
  | some n => simp [Event.isDeed_of_ledger (.inl hn)]

theorem freedOf_deeds (c : ℕ) (tr : List Event) : freedOf c (deeds tr) = freedOf c tr := by
  unfold freedOf deeds
  rw [List.filterMap_filter]
  refine List.filterMap_congr fun e _ => ?_
  cases hn : e.freedOf c with
  | none => simp
  | some n => simp [Event.isDeed_of_ledger (.inr hn)]

/-- Neither ledger has an entry. -/
def NoResults (es : List Event) : Prop := ∀ c, storedOf c es = [] ∧ freedOf c es = []

theorem noResults_of_deeds {es : List Event} (h : deeds es = []) : NoResults es :=
  fun c => by rw [← storedOf_deeds, ← freedOf_deeds, h]; exact ⟨rfl, rfl⟩

theorem noResults_of_strings {es : List Event} (h : OnStrings es) : NoResults es := by
  intro c
  constructor
  · refine List.filterMap_eq_nil_iff.2 fun e he => ?_
    have hstring := h e he
    cases e <;> simp_all [Event.isString, Event.storedOf]
  · refine List.filterMap_eq_nil_iff.2 fun e he => ?_
    have hstring := h e he
    cases e <;> simp_all [Event.isString, Event.freedOf]

namespace MySQL

/-- The number of the result set the object holds. -/
def held (o : MySQL) : List ℕ := (o.result.map (·.number)).toList

/-- How many result sets were handed out on the connection. -/
def handedOut (o : MySQL) : ℕ := (o.mysql.map (·.stored)).getD 0

/-- What happened to the object is what the ledger says: what it held and was handed out is what was
    taken back and it holds now, the numbers go on where they stopped, and no other connection is
    concerned. -/
structure Settles (o o' : MySQL) (es : List Event) : Prop where
  conn : o'.conn = o.conn
  balance : o.held ++ storedOf o.conn es = freedOf o.conn es ++ o'.held
  count : List.range o'.handedOut = List.range o.handedOut ++ storedOf o.conn es
  others : ∀ c, c ≠ o.conn → storedOf c es = [] ∧ freedOf c es = []

/-- Nothing happened to the result sets. -/
theorem settles_of_noResults {o o' : MySQL} {es : List Event} (hconn : o'.conn = o.conn)
    (hheld : o'.held = o.held) (hcount : o'.handedOut = o.handedOut) (hes : NoResults es) :
    o.Settles o' es :=
  ⟨hconn, by simp [hes o.conn, hheld], by simp [hes o.conn, hcount], fun c _ => hes c⟩

/-- Only the deeds matter. -/
theorem Settles.of_deeds {o o' : MySQL} {es es' : List Event} (h : o.Settles o' es')
    (hd : deeds es = es') : o.Settles o' es := by
  subst hd
  refine ⟨h.conn, ?_, ?_, fun c hc => ?_⟩
  · simpa only [storedOf_deeds, freedOf_deeds] using h.balance
  · simpa only [storedOf_deeds] using h.count
  · simpa only [storedOf_deeds, freedOf_deeds] using h.others c hc

/-- Further events about strings do not matter. -/
theorem Settles.pad {o o' : MySQL} {pre es post : List Event} (h : o.Settles o' es)
    (hpre : OnStrings pre) (hpost : OnStrings post) : o.Settles o' (pre ++ es ++ post) := by
  have hs := noResults_of_strings hpre
  have hs' := noResults_of_strings hpost
  refine ⟨h.conn, ?_, ?_, fun c hc => ?_⟩
  · simpa [hs o.conn, hs' o.conn] using h.balance
  · simpa [hs o.conn, hs' o.conn] using h.count
  · simpa [hs c, hs' c] using h.others c hc

/-- Freeing takes back what the object holds. -/
theorem settles_freed {o o' : MySQL} (hconn : o'.conn = o.conn) (hres : o'.result = none)
    (hcount : o'.handedOut = o.handedOut) : o.Settles o' o.freedEvents := by
  unfold freedEvents
  cases hr : o.result with
  | none => exact settles_of_noResults hconn (by simp [held, hr, hres]) hcount fun c => ⟨rfl, rfl⟩
  | some res =>
      refine ⟨hconn, ?_, ?_, fun c hc => ?_⟩
      · simp [held, hr, hres, storedOf, freedOf, Event.storedOf, Event.freedOf]
      · simp [hcount, storedOf, Event.storedOf]
      · simp [storedOf, freedOf, Event.storedOf, Event.freedOf, Ne.symm hc]

/-- An event that is not of the ledger does not matter. -/
theorem Settles.then {o o' : MySQL} {es es' : List Event} (h : o.Settles o' es)
    (hes' : NoResults es') : o.Settles o' (es ++ es') := by
  refine ⟨h.conn, ?_, ?_, fun c hc => ?_⟩
  · simpa [hes' o.conn] using h.balance
  · simpa [hes' o.conn] using h.count
  · simpa [hes' c] using h.others c hc

/-- A result set is numbered by how many were handed out before it. -/
theorem number_of_storeResult {conn : MYSQL} {lib : Answers} {res : MYSQL_RES}
    (h : conn.storeResult lib = some res) : res.number = conn.stored := by
  unfold MYSQL.storeResult at h
  split at h
  · obtain ⟨set, -, rfl⟩ := Option.map_eq_some_iff.1 h
    rfl
  · simp at h

/-- Storing hands out at most one result set, and the object holds it. -/
theorem settles_stored (lib : Answers) {o : MySQL} (hres : o.result = none) :
    o.Settles (storing lib o) (storedDeeds lib o) := by
  have hclient : NoResults [.client o.conn "mysql_store_result"] := fun c => ⟨rfl, rfl⟩
  unfold storedDeeds
  cases hm : o.mysql with
  | none =>
      exact settles_of_noResults rfl (by simp [held, storing, hm, hres])
        (by simp [handedOut, storing, hm]) hclient
  | some conn =>
      cases hst : conn.storeResult lib with
      | none =>
          refine settles_of_noResults rfl (by simp [held, storing, hm, hst, hres]) ?_ ?_
          · simp [handedOut, storing, hm, MYSQL.afterStore, hst]
          · simpa [hst] using hclient
      | some res =>
          have hnumber := number_of_storeResult hst
          refine ⟨rfl, ?_, ?_, fun c hc => ?_⟩
          · simp [held, storing, hm, hst, hres, storedOf, freedOf, Event.storedOf, Event.freedOf,
              List.filterMap_cons]
          · simp [handedOut, storing, hm, hst, MYSQL.afterStore, storedOf, Event.storedOf,
              List.filterMap_cons, List.range_succ, hnumber]
          · simp [hst, storedOf, freedOf, Event.storedOf, Event.freedOf, Ne.symm hc]

/-- **What a native does to the result sets of its connection** is what the ledger says. -/
theorem Act.settles {name : NativeName} {params : List Cell} {lib : Answers} {o o' : MySQL}
    {es : List Event} (h : o.Act name params lib es o') : o.Settles o' es := by
  cases h with
  | read h =>
      have hconn : o'.conn = o.conn := by rw [h.same]
      refine settles_of_noResults hconn ?_ ?_ (noResults_of_deeds (deeds_of_plain h.plain))
      · have hres := congrArg (Option.map Prod.fst) h.result
        simp only [Option.map_map, Function.comp_def] at hres
        rw [held, held, hres]
      · rw [handedOut, h.same]
        rfl
  | connected hn es' hs hp =>
      refine settles_of_noResults rfl rfl rfl ?_
      subst hs
      intro c
      have hes' := noResults_of_deeds (deeds_of_plain hp) c
      exact ⟨hes'.1, hes'.2⟩
  | accepted q hn hr hmysql hs =>
      subst hs
      have hnone : NoResults [.accepted o.conn q] := fun c => ⟨rfl, rfl⟩
      have hfreed : o.Settles (accepting q o) o.freedEvents := settles_freed rfl rfl rfl
      exact hfreed.then hnone
  | executed q hn hr hs hd =>
      refine Settles.of_deeds ?_ hd
      have hnone : NoResults [.client o.conn "mysql_real_query", .delete q.ptr] :=
        fun c => ⟨rfl, rfl⟩
      have hfreed : o.Settles (MySQL.executed lib q.text o) o.freedEvents := by
        refine settles_freed rfl rfl ?_
        cases hm : o.mysql <;> simp [handedOut, MySQL.executed, hm, MYSQL.submit, MYSQL.answer]
      exact hfreed.then hnone
  | stored hn hres hstate hs hd => exact (settles_stored lib hres).of_deeds hd
  | freed hn hs hd => exact Settles.of_deeds (settles_freed rfl rfl rfl) hd

end MySQL

/-- The statements of the worker do not touch result sets. -/
theorem WorkerStmt.Does.settles {lib : Answers} {src : ℕ} {o o' : MySQL} {stmt : WorkerStmt}
    {hs es : List Event} {place : Option (ℕ × WorkerStmt)} (hd : stmt.Does lib src o hs o' place)
    (hdeeds : MysqlPlugin.deeds es = stmt.deeds o) : o.Settles o' es := by
  refine MySQL.Settles.of_deeds (MySQL.settles_of_noResults hd.conn ?_ ?_ ?_) hdeeds
  · cases hd <;> rfl
  · cases hd with
    | submit q hm =>
        cases hm : o.mysql <;> simp [MySQL.handedOut, MySQL.submitting, hm, MYSQL.submit]
    | answer q conn =>
        by_cases hc : o.conn = conn <;> cases hm : o.mysql <;>
          simp [MySQL.handedOut, MySQL.answered, hm, hc, MYSQL.answer]
    | _ => rfl
  · intro c
    cases hd <;> exact ⟨rfl, rfl⟩

theorem noResults_of_tick (stmt : TickStmt) (handle : ℕ) : NoResults (stmt.deeds handle) := by
  intro c
  cases stmt with
  | test | pop | clear => exact ⟨rfl, rfl⟩
  | each t scripts =>
      cases scripts with
      | nil => exact ⟨rfl, rfl⟩
      | cons amx scripts =>
          by_cases hf : amx.FindPublic t.type.callback = true
          · rw [TickStmt.deeds, if_pos hf]
            exact ⟨rfl, rfl⟩
          · rw [TickStmt.deeds, if_neg hf]
            exact ⟨rfl, rfl⟩
  | inCallback t amx scripts =>
      constructor
      · exact List.filterMap_eq_nil_iff.2 (by simp [TickStmt.deeds, Event.storedOf])
      · exact List.filterMap_eq_nil_iff.2 (by simp [TickStmt.deeds, Event.freedOf])

/-- Nor do those of `ProcessTick`. -/
theorem TickStmt.Does.settles {pAmx : List AMX} {src handle : ℕ} {o o' : MySQL} {stmt : TickStmt}
    {hs es : List Event} {place : Option (ℕ × TickStmt)}
    (hd : stmt.Does pAmx src (some o) hs (some o') place)
    (hdeeds : MysqlPlugin.deeds es = stmt.deeds handle) : o.Settles o' es := by
  refine MySQL.Settles.of_deeds (MySQL.settles_of_noResults ?_ ?_ ?_ ?_) hdeeds
  · cases hd <;> rfl
  · cases hd <;> rfl
  · cases hd <;> rfl
  · exact noResults_of_tick stmt handle

/-! ## Closed objects are gone -/

namespace Slot

variable {h : ℕ} {a : Action} {v v' : Slot} {hs : List Event}

/-- The step that closes an object empties the slot it was in. -/
theorem Step.closes_object (hstep : Step h a v hs v') {c k : ℕ} {queries : List QueryInfo}
    {results : List ThreadInfo} (he : .closed c k queries results ∈ hs) :
    (∃ o, v.object = some o ∧ o.conn = c) ∧ v'.object = none := by
  obtain ⟨heq, -⟩ | ⟨o, ho, hempty, heq⟩ := hstep.opens_or_closes he rfl
  · cases heq
  · cases heq
    exact ⟨⟨o, ho, rfl⟩, hempty⟩

/-- The object in a slot after a step was there before, or the step opened the slot. -/
theorem Step.object_conn (hstep : Step h a v hs v') {o' : MySQL} (ho' : v'.object = some o') :
    (∃ o, v.object = some o ∧ o.conn = o'.conn) ∨ .opened o'.conn h ∈ hs := by
  cases hstep with
  | other _ _ hsame => exact .inl ⟨o', hsame.object ▸ ho', rfl⟩
  | workerEnter | tickEnter => exact .inl ⟨o', ho', rfl⟩
  | worker lib ha o o₁ src stmt place hs t n hd =>
      cases ho'
      exact .inl ⟨o, rfl, hd.conn.symm⟩
  | tick ha pAmx v v' src stmt place hs w n hd =>
      have hconn : v.map MySQL.conn = some o'.conn := by rw [← hd.conn, show v' = some o' from ho']; rfl
      obtain ⟨o, ho, hc⟩ := Option.map_eq_some_iff.1 hconn
      exact .inl ⟨o, ho, hc⟩
  | native thread name amx params lib ha hh o o₁ es w t hr n n' hn hch =>
      cases ho'
      exact .inl ⟨o, rfl, hch.conn.symm⟩
  | opened =>
      cases ho'
      exact .inr (List.mem_singleton.2 rfl)
  | closed => cases ho'

end Slot

/-! ## The ledger of the plugin -/

namespace System

variable {N : ℕ} {s s' : System N} {a : Action} {tr es : List Event}

/-- What a step does to the table and the ledger: nothing, or something to one object, or it opens a
    slot for an object that holds nothing, or closes one and takes back what the object held. -/
inductive Books (s : System N) (es : List Event) (s' : System N) : Prop
  | nothing (hmy : s'.my = s.my) (hes : NoResults es)
  | object (h : Fin N) (o o' : MySQL) (ho : s.my h = some o)
      (hmy : s'.my = Function.update s.my h (some o')) (hs : o.Settles o' es)
  | opened (h : Fin N) (o : MySQL) (ho : s.my h = none)
      (hmy : s'.my = Function.update s.my h (some o)) (hconn : o.conn = s.created)
      (hlt : s.created < s'.created) (hheld : o.held = []) (hcount : o.handedOut = 0)
      (hes : NoResults es)
  | closed (h : Fin N) (o o' : MySQL) (ho : s.my h = some o)
      (hmy : s'.my = Function.update s.my h none) (hs : o.Settles o' es) (hheld : o'.held = [])

theorem books_of_worker {lib : Answers} (hm : s.WorkerMove lib es s')
    (hd : deeds es = s.workerDeeds) : s.Books es s' := by
  cases hm with
  | restart | enter => exact .nothing rfl fun c => ⟨rfl, rfl⟩
  | work k src stmt o o' place _ hw ho hdoes =>
      refine .object k o o' ho rfl (hdoes.settles ?_)
      rw [hd, workerDeeds, hw]
      simp [ho]

theorem books_of_tick (hm : s.TickMove es s') (hd : deeds es = s.tickDeeds) : s.Books es s' := by
  cases hm with
  | start | finish | enter => exact .nothing rfl fun c => ⟨rfl, rfl⟩
  | work k src stmt v place _ hw hdoes =>
      have hdeeds : deeds es = stmt.deeds k := by rw [hd, tickDeeds, hw]
      have hsome := hdoes.conn
      cases ho : s.my k with
      | none =>
          rw [ho, Option.map_none, Option.map_eq_none_iff] at hsome
          refine .nothing ?_ fun c => ?_
          · rw [hsome, ← ho, Function.update_eq_self]
          · rw [← storedOf_deeds, ← freedOf_deeds, hdeeds]
            exact noResults_of_tick stmt k c
      | some o =>
          rw [ho] at hdoes hsome
          obtain ⟨o', rfl, -⟩ := Option.map_eq_some_iff.1 hsome
          exact .object k o o' ho rfl (hdoes.settles hdeeds)

theorem books_of_native {name : NativeName} {amx : Memory} {params : List Cell} {lib : Answers}
    {r : Cell} {w : World N}
    (hok : name.function ⟨lib, s.pAmx⟩ amx params s.toWorld = .ok (r, w, es)) :
    s.Books es { s with toWorld := w } := by
  obtain ⟨-, -, hact⟩ := performs_function _ amx params name _ _ _ _ hok
  cases hact with
  | told hmy hp => exact .nothing hmy (noResults_of_deeds (deeds_of_plain hp))
  | object h o o' hh ho hmy pre mid post hes hpre hpost ha =>
      subst hes
      exact .object h o o' ho hmy (ha.settles.pad hpre hpost)
  | opened h env henv hn hfree hcreated log print hmy es' hes hp =>
      refine .opened h _ (by simpa using List.find?_some hfree) hmy rfl hcreated rfl ?_ fun c => ?_
      · cases hinit : env.lib.init <;> simp [MySQL.handedOut, MySQL.initialised, hinit, MYSQL.fresh]
      · subst hes
        exact noResults_of_deeds (deeds_of_plain hp) c
  | closed h o hn hp hh ho hconn hmy es' hes hes' =>
      subst hes
      have hplain := noResults_of_deeds (deeds_of_plain hes')
      have hfreed : o.Settles { o with result := none } o.freedEvents :=
        MySQL.settles_freed rfl rfl rfl
      have hall := hfreed.then hplain
      exact .closed h o _ ho hmy ⟨hall.conn, hall.balance, hall.count, hall.others⟩ rfl

/-- **Every step keeps the books.** -/
theorem step_books (hstep : s.step a = .next s' es) : s.Books es s' := by
  cases step_acts hstep with
  | worker lib _ _ hm hd => exact books_of_worker hm hd
  | tick _ _ hm hd => exact books_of_tick hm hd
  | native thread name amx params lib hr r w _ hok => exact books_of_native hok
  | load amx hm | unload amx hm => exact .nothing rfl fun c => ⟨rfl, rfl⟩

/-- The object of connection `c` is in no slot. -/
def Gone (s : System N) (c : ℕ) : Prop := ∀ h o, s.my h = some o → o.conn ≠ c

/-- The books are balanced: what was handed out on the connection of a live object is what was taken
    back and what the object holds; on the other connections it is what was taken back. The result
    sets of a connection are numbered in the order they were handed out. -/
structure Balanced (tr : List Event) (s : System N) : Prop where
  live : ∀ {h : Fin N} {o : MySQL}, s.my h = some o →
    storedOf o.conn tr = freedOf o.conn tr ++ o.held
  gone : ∀ {c : ℕ}, s.Gone c → storedOf c tr = freedOf c tr
  count : ∀ {h : Fin N} {o : MySQL}, s.my h = some o →
    storedOf o.conn tr = List.range o.handedOut
  fresh : ∀ {c : ℕ}, s.created ≤ c → storedOf c tr = []
  nodup : ∀ c, (storedOf c tr).Nodup

theorem balanced_initial : Balanced [] (initial : System N) :=
  ⟨by simp [initial], fun _ => rfl, by simp [initial], fun _ => rfl, fun _ => List.nodup_nil⟩

/-- Two live objects in different slots are different objects. -/
theorem Owned.conn_ne (hown : Owned tr s) {h k : Fin N} {o o' : MySQL} (ho : s.my h = some o)
    (ho' : s.my k = some o') (hne : k ≠ h) : o'.conn ≠ o.conn := fun hconn =>
  hne (hown.slot_unique ho' ho hconn)

/-- What is in no slot after one was assigned was in none before, or in that one. -/
theorem Gone.of_update {c : ℕ} (hgone : s'.Gone c) {k : Fin N} {o : MySQL} {v : Option MySQL}
    (ho : s.my k = some o) (hmy : s'.my = Function.update s.my k v) (hne : c ≠ o.conn) :
    s.Gone c := by
  intro h o₁ ho₁ hc
  by_cases hh : h = k
  · subst hh
    cases ho.symm.trans ho₁
    exact hne hc.symm
  · exact hgone h o₁ (by rw [hmy, Function.update_of_ne hh, ho₁]) hc

/-- What a step adds to the ledger of a connection it does not work on. -/
theorem ledger_append (tr : List Event) {c : ℕ} (hes : storedOf c es = [] ∧ freedOf c es = []) :
    storedOf c (tr ++ es) = storedOf c tr ∧ freedOf c (tr ++ es) = freedOf c tr := by
  simp [hes]

theorem Balanced.step (hbal : Balanced tr s) (hown : Owned tr s)
    (hstep : s.step a = .next s' es) : Balanced (tr ++ es) s' := by
  have hcreated := created_of_step hstep
  cases step_books hstep with
  | nothing hmy hes =>
      have hsame := fun c => ledger_append tr (hes c)
      refine ⟨fun {h o} ho => ?_, fun {c} hgone => ?_, fun {h o} ho => ?_, fun {c} hc => ?_,
        fun c => ?_⟩
      · rw [(hsame o.conn).1, (hsame o.conn).2]
        exact hbal.live (hmy ▸ ho)
      · rw [(hsame c).1, (hsame c).2]
        exact hbal.gone fun h o ho => hgone h o (hmy ▸ ho)
      · rw [(hsame o.conn).1]
        exact hbal.count (hmy ▸ ho)
      · rw [(hsame c).1]
        exact hbal.fresh (hcreated.trans hc)
      · rw [(hsame c).1]
        exact hbal.nodup c
  | object k o o' ho hmy hs =>
      have hlive : storedOf o.conn (tr ++ es) = freedOf o.conn (tr ++ es) ++ o'.held := by
        rw [storedOf_append, freedOf_append, hbal.live ho, List.append_assoc, hs.balance,
          List.append_assoc]
      have hcount : storedOf o.conn (tr ++ es) = List.range o'.handedOut := by
        rw [storedOf_append, hbal.count ho, ← hs.count]
      -- an object has the changed one's connection only if it is that one
      have hother : ∀ {h : Fin N} {o₁ : MySQL}, s'.my h = some o₁ →
          (h = k ∧ o₁ = o') ∨ (s.my h = some o₁ ∧ o₁.conn ≠ o.conn) := by
        intro h o₁ ho₁
        rcases object_of_update hmy ho₁ with ⟨rfl, hsome⟩ | ⟨hh, ho₂⟩
        · exact .inl ⟨rfl, (Option.some.inj hsome).symm⟩
        · exact .inr ⟨ho₂, hown.conn_ne ho ho₂ hh⟩
      refine ⟨fun {h o₁} ho₁ => ?_, fun {c} hgone => ?_, fun {h o₁} ho₁ => ?_, fun {c} hc => ?_,
        fun c => ?_⟩
      · rcases hother ho₁ with ⟨-, rfl⟩ | ⟨ho₂, hne⟩
        · rwa [hs.conn]
        · obtain ⟨h₁, h₂⟩ := ledger_append tr (hs.others _ hne)
          rw [h₁, h₂]
          exact hbal.live ho₂
      · have hne : c ≠ o.conn := fun hc =>
          hgone k o' (by rw [hmy, Function.update_self]) (hs.conn.trans hc.symm)
        obtain ⟨h₁, h₂⟩ := ledger_append tr (hs.others c hne)
        rw [h₁, h₂]
        exact hbal.gone (hgone.of_update ho hmy hne)
      · rcases hother ho₁ with ⟨-, rfl⟩ | ⟨ho₂, hne⟩
        · rwa [hs.conn]
        · rw [(ledger_append tr (hs.others _ hne)).1]
          exact hbal.count ho₂
      · have hne : c ≠ o.conn := ((hown.conn_lt ho).trans_le (hcreated.trans hc)).ne'
        rw [(ledger_append tr (hs.others c hne)).1]
        exact hbal.fresh (hcreated.trans hc)
      · by_cases hc : c = o.conn
        · rw [hc, hcount]
          exact List.nodup_range
        · rw [(ledger_append tr (hs.others c hc)).1]
          exact hbal.nodup c
  | opened k o ho hmy hconn hlt hheld hcount hes =>
      have hsame := fun c => ledger_append tr (hes c)
      -- the number of a new connection is in no book yet
      have hnew : s.Gone s.created := fun h o₁ ho₁ => (hown.conn_lt ho₁).ne
      have hnone : storedOf s.created tr = [] := hbal.fresh le_rfl
      have hother : ∀ {h : Fin N} {o₁ : MySQL}, s'.my h = some o₁ → o₁ = o ∨ s.my h = some o₁ := by
        intro h o₁ ho₁
        rcases object_of_update hmy ho₁ with ⟨-, hsome⟩ | ⟨-, ho₂⟩
        · exact .inl (Option.some.inj hsome).symm
        · exact .inr ho₂
      refine ⟨fun {h o₁} ho₁ => ?_, fun {c} hgone => ?_, fun {h o₁} ho₁ => ?_, fun {c} hc => ?_,
        fun c => ?_⟩
      · rw [(hsame _).1, (hsame _).2]
        rcases hother ho₁ with rfl | ho₂
        · rw [hconn, hheld, List.append_nil, hbal.gone hnew]
        · exact hbal.live ho₂
      · rw [(hsame c).1, (hsame c).2]
        refine hbal.gone fun h o₁ ho₁ => hgone h o₁ ?_
        have hh : h ≠ k := fun hh => by simp [hh, ho] at ho₁
        rw [hmy, Function.update_of_ne hh, ho₁]
      · rw [(hsame _).1]
        rcases hother ho₁ with rfl | ho₂
        · rw [hconn, hcount, hnone, List.range_zero]
        · exact hbal.count ho₂
      · rw [(hsame c).1]
        exact hbal.fresh (hcreated.trans hc)
      · rw [(hsame c).1]
        exact hbal.nodup c
  | closed k o o' ho hmy hs hheld =>
      -- `mysql_close` frees what is still held, so the two books meet
      have hclosed : storedOf o.conn (tr ++ es) = freedOf o.conn (tr ++ es) := by
        rw [storedOf_append, freedOf_append, hbal.live ho, List.append_assoc, hs.balance, hheld,
          List.append_nil]
      have hother : ∀ {h : Fin N} {o₁ : MySQL}, s'.my h = some o₁ →
          s.my h = some o₁ ∧ o₁.conn ≠ o.conn := by
        intro h o₁ ho₁
        rcases object_of_update hmy ho₁ with ⟨-, hsome⟩ | ⟨hh, ho₂⟩
        · cases hsome
        · exact ⟨ho₂, hown.conn_ne ho ho₂ hh⟩
      refine ⟨fun {h o₁} ho₁ => ?_, fun {c} hgone => ?_, fun {h o₁} ho₁ => ?_, fun {c} hc => ?_,
        fun c => ?_⟩
      · obtain ⟨ho₂, hne⟩ := hother ho₁
        obtain ⟨h₁, h₂⟩ := ledger_append tr (hs.others _ hne)
        rw [h₁, h₂]
        exact hbal.live ho₂
      · by_cases hc : c = o.conn
        · rw [hc]
          exact hclosed
        · obtain ⟨h₁, h₂⟩ := ledger_append tr (hs.others c hc)
          rw [h₁, h₂]
          exact hbal.gone (hgone.of_update ho hmy hc)
      · obtain ⟨ho₂, hne⟩ := hother ho₁
        rw [(ledger_append tr (hs.others _ hne)).1]
        exact hbal.count ho₂
      · have hne : c ≠ o.conn := ((hown.conn_lt ho).trans_le (hcreated.trans hc)).ne'
        rw [(ledger_append tr (hs.others c hne)).1]
        exact hbal.fresh (hcreated.trans hc)
      · by_cases hc : c = o.conn
        · rw [hc, storedOf_append, hbal.count ho, ← hs.count]
          exact List.nodup_range
        · rw [(ledger_append tr (hs.others c hc)).1]
          exact hbal.nodup c

/-- A closed object is in no slot, and never comes back. -/
theorem Owned.closed_gone (hown : Owned tr s)
    (hgone : ∀ c h queries results, .closed c h queries results ∈ tr → s.Gone c)
    (hstep : s.step a = .next s' es) :
    ∀ c h queries results, .closed c h queries results ∈ tr ++ es → s'.Gone c := by
  intro c h queries results hc h' o ho hconn
  cases step_works hstep with
  | nowhere hes hcreated hsame =>
      have hin := (List.mem_append.1 hc).resolve_right (not_mem_of_history_nil hes rfl)
      exact hgone c h queries results hin h' o ((hsame h').object.symm.trans ho) hconn
  | on k hk hsame =>
      rcases List.mem_append.1 hc with hin | hin
      · by_cases hh : h' = k
        · subst hh
          rcases hk.object_conn ho with ⟨o₁, ho₁, hconn₁⟩ | hopened
          · exact hgone c h queries results hin h' o₁ ho₁ (hconn₁.trans hconn)
          · have hlt := hown.fresh hin rfl
            obtain ⟨-, hnew, -⟩ := hk.opens hopened
            exact absurd (hconn.symm.trans hnew) hlt.ne
        · exact hgone c h queries results hin h' o ((hsame h' hh).object.symm.trans ho) hconn
      · obtain ⟨⟨o₁, ho₁, hconn₁⟩, hempty⟩ := hk.closes_object ((mem_history rfl).2 hin)
        by_cases hh : h' = k
        · subst hh
          cases hempty.symm.trans ho
        · exact hh (hown.slot_unique ((hsame h' hh).object.symm.trans ho) ho₁ (hconn.trans hconn₁.symm))

theorem closed_gone_reach {P : System N → Action → Prop} (hrun : (plugin N).Reach P tr s) :
    ∀ c h queries results, .closed c h queries results ∈ tr → s.Gone c := by
  refine (hrun.history (I := fun tr s => Owned tr s ∧
    ∀ c h queries results, .closed c h queries results ∈ tr → s.Gone c) ?_
    ⟨owned_initial, by simp⟩).2
  rintro tr s a es s' ⟨hown, hgone⟩ - hstep
  exact ⟨hown.step hstep, hown.closed_gone hgone hstep⟩

theorem balanced_reach {P : System N → Action → Prop} (hrun : (plugin N).Reach P tr s) :
    Balanced tr s := by
  refine (hrun.history (I := fun tr s => Owned tr s ∧ Balanced tr s) ?_
    ⟨owned_initial, balanced_initial⟩).2
  rintro tr s a es s' ⟨hown, hbal⟩ - hstep
  exact ⟨hown.step hstep, hbal.step hown hstep⟩

theorem mem_held {o : MySQL} {n : ℕ} :
    n ∈ o.held ↔ o.result.map MYSQL_RES.number = some n := by
  simp [MySQL.held]

/-- **Every result set has an owner.** After any run the result sets handed out on the connection of a
    live object and not yet taken back are the one in the member `result`, or none if that is `NULL`.
    None is handed out or taken back twice, only what was handed out is taken back, and on the
    connection of an object that was closed everything was. -/
theorem results_owned (hrun : (plugin N).Reach (fun _ _ => True) tr s) :
    (∀ (h : Fin N) (o : MySQL), s.my h = some o → ∀ n,
      (n ∈ storedOf o.conn tr ∧ n ∉ freedOf o.conn tr) ↔ o.result.map MYSQL_RES.number = some n) ∧
      (∀ c, (storedOf c tr).Nodup ∧ (freedOf c tr).Nodup ∧ freedOf c tr ⊆ storedOf c tr) ∧
      ∀ c h queries results, .closed c h queries results ∈ tr → freedOf c tr = storedOf c tr := by
  have hbal := balanced_reach hrun
  have hsplit : ∀ c, freedOf c tr <+: storedOf c tr := by
    intro c
    by_cases hgone : s.Gone c
    · exact ⟨[], by rw [List.append_nil, hbal.gone hgone]⟩
    · simp only [Gone, not_forall, not_not] at hgone
      obtain ⟨h, o, ho, rfl⟩ := hgone
      exact ⟨o.held, (hbal.live ho).symm⟩
  refine ⟨fun h o ho n => ?_, fun c => ?_, fun c h queries results hc => ?_⟩
  · have hnodup := hbal.nodup o.conn
    rw [hbal.live ho] at hnodup ⊢
    have hdisjoint := (List.nodup_append.1 hnodup).2.2
    rw [← mem_held, List.mem_append]
    constructor
    · rintro ⟨hmem | hmem, hnot⟩
      · exact absurd hmem hnot
      · exact hmem
    · intro hmem
      exact ⟨.inr hmem, fun hfreed => hdisjoint n hfreed n hmem rfl⟩
  · have hsub := (hsplit c).sublist
    exact ⟨hbal.nodup c, (hbal.nodup c).sublist hsub, hsub.subset⟩
  · exact (hbal.gone (closed_gone_reach hrun c h queries results hc)).symm

/-- A script stores the result of a query, queries and stores again. -/
theorem second_result_owned : ∃ (tr : List Event) (s : System 1),
    (plugin 1).Reach (fun _ _ => True) tr s ∧ storedOf 0 tr = [0, 1] ∧ freedOf 0 tr = [0] ∧
      ∃ o, s.my 0 = some o ∧ ∀ n,
        (n ∈ storedOf o.conn tr ∧ n ∉ freedOf o.conn tr) ↔ o.result.map MYSQL_RES.number = some n := by
  obtain ⟨tr, s, hrun, hview⟩ := Machine.exists_run_of_exec (M := plugin 1)
    (P := fun _ _ => True) (f := fun r => (storedOf 0 r.2, freedOf 0 r.2, (r.1.my 0).isSome))
    (show Option.map _ ((plugin 1).exec [Script.mysql_init, Script.mysql_connect 0,
        Script.mysql_query (-1) 0 0 { rows := some ⟨["a"], [[some "x"]]⟩ },
        Script.mysql_store_result 0,
        Script.mysql_query (-1) 0 0 { rows := some ⟨["a"], [[some "y"]]⟩ },
        Script.mysql_store_result 0] System.initial) = some ([0, 1], [0], true) from rfl)
    (Machine.obeys_all _ _)
  obtain ⟨hstored, hrest⟩ := Prod.mk.inj hview
  obtain ⟨hfreed, hsome⟩ := Prod.mk.inj hrest
  obtain ⟨o, ho⟩ := Option.isSome_iff_exists.1 hsome
  exact ⟨tr, s, hrun, hstored, hfreed, o, ho, (results_owned hrun).1 0 o ho⟩

end System
end MysqlPlugin
