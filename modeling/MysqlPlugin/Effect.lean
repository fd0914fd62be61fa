import MysqlPlugin.Natives

set_option autoImplicit false

/-! # What a native can do to the table

There are more than thirty natives, but few things they can do to the objects. This file sorts them
once and for all, so that later proofs about interleavings never look into a native again:

* `MySQL.Change` lists what a native does to the object of its handle: move through a stored result
  set (`observed`), connect, accept a threaded query, execute a synchronous one, store or free a
  result set;
* `World.Change` lists what it does to the table: nothing, a `Change` of one object, opening a slot,
  closing one;
* `Natives.effect_function`: a native that ends without a fault has done one of these, and which
  one says which native it was and on which handle.

Of the events, only the history of openings, closings and queries matters here; `history` keeps
those. -/

namespace MysqlPlugin

open Prog Natives

/-! ## The history in a trace -/

/-- The object an event of the history is about; the other events are about none. -/
def Event.about : Event → Option ℕ
  | .opened c _ | .closed c _ _ _ | .accepted c _ | .copied c _ | .submitted c _ => some c
  | .executed c _ _ _ | .reported c _ | .popped c _ | .pushed c _ | .taken c _ => some c
  | .delivered c _ | .examined _ c => some c
  | _ => none

/-- The events that tell the life of handles and queries. -/
def Event.isHistory (e : Event) : Bool := e.about.isSome

/-- The history in a trace. -/
def history (tr : List Event) : List Event := tr.filter Event.isHistory

@[simp] theorem history_nil : history [] = [] := rfl

@[simp] theorem history_append (tr tr' : List Event) :
    history (tr ++ tr') = history tr ++ history tr' := List.filter_append ..

theorem history_cons (e : Event) (tr : List Event) :
    history (e :: tr) = (if e.isHistory then [e] else []) ++ history tr := by
  simp only [history, List.filter_cons]
  split <;> rfl

/-- The life of one object in a trace. -/
def life (c : ℕ) (tr : List Event) : List Event := tr.filter (fun e => e.about = some c)

@[simp] theorem life_nil (c : ℕ) : life c [] = [] := rfl

@[simp] theorem life_append (c : ℕ) (tr tr' : List Event) :
    life c (tr ++ tr') = life c tr ++ life c tr' := List.filter_append ..

@[simp] theorem life_history (c : ℕ) (tr : List Event) : life c (history tr) = life c tr := by
  simp only [life, history, List.filter_filter]
  refine List.filter_congr fun e _ => ?_
  by_cases hc : e.about = some c <;> simp [Event.isHistory, hc]

theorem life_eq_nil {c : ℕ} {tr : List Event} (h : ∀ e ∈ tr, e.about ≠ some c) :
    life c tr = [] := by
  simpa [life] using h

/-- The two natives that submit statements. -/
def NativeName.isQuery (n : NativeName) : Bool := n = .mysql_query || n = .mysql_query_array

/-! ## The events that only tell -/

/-- The calls of the client library that submit a statement, take a result set or start a
    session. -/
def clientDeeds : List String := ["mysql_real_query", "mysql_store_result", "mysql_real_connect"]

/-- The events that only tell: the other calls of the client library, lines for the log and the
    console, and what `Error` does. -/
def Event.isPlain : Event → Bool
  | .client _ function => !clientDeeds.contains function
  | .logged _ | .printed _ | .error _ _ _ => true
  | .callback _ callee _ => callee = "OnMysqlError"
  | _ => false

/-- Every event of the trace only tells. -/
def Plain (es : List Event) : Prop := ∀ e ∈ es, e.isPlain = true

/-- What is neither told nor part of the history: submitting statements, result sets and string
    buffers changing hands, what reaches the scripts. -/
def deeds (tr : List Event) : List Event := tr.filter (fun e => !e.isPlain && !e.isHistory)

@[simp] theorem plain_nil : Plain [] := by simp [Plain]

@[simp] theorem plain_append {es es' : List Event} : Plain (es ++ es') ↔ Plain es ∧ Plain es' := by
  simp only [Plain, List.mem_append]
  exact ⟨fun h => ⟨fun e he => h e (.inl he), fun e he => h e (.inr he)⟩,
    fun h e he => he.elim (h.1 e) (h.2 e)⟩

@[simp] theorem deeds_nil : deeds [] = [] := rfl

@[simp] theorem deeds_append (tr tr' : List Event) : deeds (tr ++ tr') = deeds tr ++ deeds tr' :=
  List.filter_append ..

theorem deeds_cons (e : Event) (tr : List Event) :
    deeds (e :: tr) = (if !e.isPlain && !e.isHistory then [e] else []) ++ deeds tr := by
  simp only [deeds, List.filter_cons]
  split <;> rfl

theorem Event.isHistory_of_isPlain {e : Event} (h : e.isPlain = true) : e.isHistory = false := by
  cases e <;> simp_all [isPlain, isHistory, about]

theorem history_of_plain {es : List Event} (h : Plain es) : history es = [] := by
  rw [history, List.filter_eq_nil_iff]
  intro e he
  simp [Event.isHistory_of_isPlain (h e he)]

theorem deeds_of_plain {es : List Event} (h : Plain es) : deeds es = [] := by
  rw [deeds, List.filter_eq_nil_iff]
  intro e he
  simp [h e he]

theorem mem_deeds_of_mem {e : Event} {es : List Event} (h : e ∈ es) (hp : e.isPlain = false)
    (hh : e.isHistory = false) : e ∈ deeds es :=
  List.mem_filter.2 ⟨h, by simp [hp, hh]⟩

/-! ## Rows of a result set -/

namespace MYSQL_RES

/-- The row is one of the rows of this result set. -/
def Holds (res : MYSQL_RES) (row : MYSQL_ROW) : Prop :=
  row.number = res.number ∧ res.set.rows[row.index]? = some row.cells

/-- The next row of a result set is one of its rows. -/
theorem holds_of_fetchRow {res : MYSQL_RES} {row : MYSQL_ROW} (h : res.fetchRow = some row) :
    res.Holds row := by
  obtain ⟨cells, hcells, rfl⟩ := Option.map_eq_some_iff.1 h
  exact ⟨rfl, hcells⟩

@[simp] theorem next_number (res : MYSQL_RES) : res.next.number = res.number := by
  unfold next
  split <;> rfl

@[simp] theorem next_set (res : MYSQL_RES) : res.next.set = res.set := by
  unfold next
  split <;> rfl

end MYSQL_RES

namespace MySQL

/-! ## Member functions that leave the object alone -/

/-- The object is unchanged and nothing of the history happened. -/
def Untouched (o o' : MySQL) (es : List Event) : Prop := o' = o ∧ history es = []

theorem Untouched.composable : Composable Untouched where
  refl _ := ⟨rfl, rfl⟩
  trans h h' := ⟨h'.1.trans h.1, by simp [h.2, h'.2]⟩

/-- The object is unchanged and every event only tells. -/
def Idle (o o' : MySQL) (es : List Event) : Prop := o' = o ∧ Plain es

theorem Idle.composable : Composable Idle where
  refl _ := ⟨rfl, plain_nil⟩
  trans h h' := ⟨h'.1.trans h.1, plain_append.2 ⟨h.2, h'.2⟩⟩

theorem Idle.untouched {o o' : MySQL} {es : List Event} (h : Idle o o' es) : Untouched o o' es :=
  ⟨h.1, history_of_plain h.2⟩

theorem untouched_of_idle {α : Type} {m : Method α} (h : Stays Idle m) : Stays Untouched m :=
  Ensures.mono h fun _ _ _ _ => Idle.untouched

theorem stays_emit {e : Event} (he : e.isHistory = false) :
    Stays Untouched (emit e : Method Unit) :=
  Stays.emit fun _ => ⟨rfl, by simp [history_cons, he]⟩

theorem idle_emit {e : Event} (he : e.isPlain = true) : Stays Idle (emit e : Method Unit) :=
  Stays.emit fun _ => ⟨rfl, by simpa [Plain] using he⟩

theorem idle_logAll (line : String) : Stays Idle (logAll line) := by
  refine Stays.bind Idle.composable (Stays.get Idle.composable) fun this => ?_
  exact Stays.doIf Idle.composable (idle_emit rfl)

theorem stays_logAll (line : String) : Stays Untouched (logAll line) :=
  untouched_of_idle (idle_logAll line)

theorem stays_client (function : String) : Stays Untouched (client function) := by
  refine Stays.bind Untouched.composable (Stays.get Untouched.composable) fun this => ?_
  cases this.mysql with
  | none => exact Stays.fail _
  | some _ => exact stays_emit rfl

theorem idle_client {function : String} (hf : clientDeeds.contains function = false) :
    Stays Idle (client function) := by
  refine Stays.bind Idle.composable (Stays.get Idle.composable) fun this => ?_
  cases this.mysql with
  | none => exact Stays.fail _
  | some _ => exact idle_emit (by rw [Event.isPlain, hf]; rfl)

/-- The other calls are deeds. -/
theorem client_eq_ok {function : String} {o o' : MySQL} {a : Unit} {es : List Event}
    (h : client function o = .ok (a, o', es)) :
    o' = o ∧ o.mysql.isSome ∧ es = [.client o.conn function] := by
  rw [client, get_bind] at h
  cases hm : o.mysql with
  | none => simp [hm] at h
  | some c =>
      rw [hm] at h
      cases h
      exact ⟨rfl, rfl, rfl⟩

theorem idle_clientError {function : String} (hf : clientDeeds.contains function = false) :
    Stays Idle (clientError function) :=
  Stays.bind Idle.composable (Stays.get Idle.composable) fun _ =>
    idle_emit (by rw [Event.isPlain, hf]; rfl)

theorem plain_errorCallbacks (env : Env) (id : ℕ) (error : String) (errid : ℤ) :
    Plain (errorCallbacks env id error errid) := by
  intro e he
  obtain ⟨amx, -, rfl⟩ := List.mem_map.1 he
  rfl

theorem idle_emitAll {es : List Event} (hes : Plain es) : Stays Idle (emitAll es) := by
  rintro o _ _ _ ⟨⟩
  exact ⟨rfl, hes⟩

theorem idle_Error (env : Env) (error : String) (errid : ℤ) :
    Stays Idle (Error env error errid) := by
  have hc := Idle.composable
  refine Stays.bind hc (idle_clientError rfl) fun _ => ?_
  refine Stays.bind hc (Stays.doIf hc (idle_clientError rfl)) fun _ => ?_
  refine Stays.bind hc (Stays.get hc) fun this => ?_
  refine Stays.bind hc (idle_emit rfl) fun _ => ?_
  refine Stays.bind hc (Stays.doIf hc (idle_emit rfl)) fun _ => ?_
  refine Stays.bind hc (Stays.doIf hc (idle_emit rfl)) fun _ => ?_
  refine Stays.bind hc (idle_emitAll (plain_errorCallbacks env _ _ _)) fun _ => ?_
  exact Stays.pure hc 0

theorem stays_Error (env : Env) (error : String) (errid : ℤ) :
    Stays Untouched (Error env error errid) :=
  untouched_of_idle (idle_Error env error errid)

theorem safe_logAll (line : String) : Safe (logAll line) :=
  Safe.bind Safe.get fun _ => Safe.doIf (Safe.emit _)

theorem safe_clientError (function : String) : Safe (clientError function) :=
  Safe.bind Safe.get fun _ => Safe.emit _

/-- `Error` never faults on an object. -/
theorem safe_Error (env : Env) (error : String) (errid : ℤ) : Safe (Error env error errid) := by
  refine Safe.bind (safe_clientError _) fun _ => ?_
  refine Safe.bind (Safe.doIf (safe_clientError _)) fun _ => ?_
  refine Safe.bind Safe.get fun this => ?_
  refine Safe.bind (Safe.emit _) fun _ => ?_
  refine Safe.bind (Safe.doIf (Safe.emit _)) fun _ => ?_
  refine Safe.bind (Safe.doIf (Safe.emit _)) fun _ => ?_
  exact Safe.bind (fun _ _ h => nomatch h) fun _ => Safe.pure _

/-- After a first part that leaves the object alone, the rest starts from the same object, and the
    history is the rest's. -/
theorem untouched_then {α β : Type} {m : Method α} {f : α → Method β} (hm : Stays Untouched m)
    {o o' : MySQL} {b : β} {es : List Event} (h : (m >>= f) o = .ok (b, o', es)) :
    ∃ a es', f a o = .ok (b, o', es') ∧ history es = history es' := by
  obtain ⟨a, o₁, es₁, es₂, h₁, h₂, rfl⟩ := bind_eq_ok.1 h
  obtain ⟨rfl, hes⟩ := hm _ _ _ _ h₁
  exact ⟨a, es₂, h₂, by simp [hes]⟩

/-- The same when the first part only tells: it adds plain events to those of the rest. -/
theorem idle_then {α β : Type} {m : Method α} {f : α → Method β} (hm : Stays Idle m)
    {o o' : MySQL} {b : β} {es : List Event} (h : (m >>= f) o = .ok (b, o', es)) :
    ∃ a es₁ es₂, f a o = .ok (b, o', es₂) ∧ es = es₁ ++ es₂ ∧ Plain es₁ := by
  obtain ⟨a, o₁, es₁, es₂, h₁, h₂, rfl⟩ := bind_eq_ok.1 h
  obtain ⟨rfl, hes⟩ := hm _ _ _ _ h₁
  exact ⟨a, es₁, es₂, h₂, rfl, hes⟩

/-! ## Member functions that only move through the stored result set -/

/-- The object is unchanged but for the members that reading a result set moves; no result set
    appears, and nothing of the history happened. -/
structure Observed (o o' : MySQL) (es : List Event) : Prop where
  same : o' = { o with field := o'.field, row := o'.row, result := o'.result }
  result : o.result = none → o'.result = none
  silent : history es = []

/-- The member `row` is `NULL` or a row of the result set the member `result` holds. -/
def Coherent (o : MySQL) : Prop :=
  ∀ row, o.row = some row → ∃ res, o.result = some res ∧ res.Holds row

/-- Reading: only the cursor of the stored result set and the members `row` and `field` move, a row
    that is fetched is one of that result set, and every event only tells. -/
structure Reads (o o' : MySQL) (es : List Event) : Prop where
  same : o' = { o with field := o'.field, row := o'.row, result := o'.result }
  result : o'.result.map (fun res => (res.number, res.set)) =
    o.result.map (fun res => (res.number, res.set))
  coherent : o.Coherent → o'.Coherent
  plain : Plain es

theorem Reads.composable : Composable Reads where
  refl _ := ⟨rfl, rfl, fun h => h, plain_nil⟩
  trans {o o' o'' es es'} h h' := by
    refine ⟨?_, h'.result.trans h.result, h'.coherent ∘ h.coherent,
      plain_append.2 ⟨h.plain, h'.plain⟩⟩
    rw [h'.same, h.same]

theorem Reads.observed {o o' : MySQL} {es : List Event} (h : Reads o o' es) : Observed o o' es := by
  refine ⟨h.same, fun hres => ?_, history_of_plain h.plain⟩
  have hmap := h.result
  rw [hres] at hmap
  simpa using hmap

theorem Idle.reads {o o' : MySQL} {es : List Event} (h : Idle o o' es) : Reads o o' es := by
  obtain ⟨rfl, hes⟩ := h
  exact ⟨rfl, rfl, fun h => h, hes⟩

theorem reads_of_idle {α : Type} {m : Method α} (h : Stays Idle m) : Stays Reads m :=
  Ensures.mono h fun _ _ _ _ => Idle.reads

theorem reads_pure {α : Type} (a : α) : Stays Reads (Pure.pure a : Method α) :=
  Stays.pure Reads.composable a

theorem reads_get : Stays Reads (Prog.get : Method MySQL) := Stays.get Reads.composable

theorem reads_bind {α β : Type} {m : Method α} {f : α → Method β} (hm : Stays Reads m)
    (hf : ∀ a, Stays Reads (f a)) : Stays Reads (m >>= f) :=
  Stays.bind Reads.composable hm hf

theorem reads_logAll (line : String) : Stays Reads (logAll line) := reads_of_idle (idle_logAll line)

theorem reads_client {function : String} (hf : clientDeeds.contains function = false) :
    Stays Reads (client function) :=
  reads_of_idle (idle_client hf)

theorem reads_Error (env : Env) (error : String) (errid : ℤ) : Stays Reads (Error env error errid) :=
  reads_of_idle (idle_Error env error errid)

/-- An error branch that ends in a fixed result. -/
theorem reads_Error_then {α : Type} (env : Env) (error : String) (errid : ℤ) (a : α) :
    Stays Reads (do let _ ← Error env error errid; return a) :=
  reads_bind (reads_Error _ _ _) fun _ => reads_pure a

theorem reads_rowCell (row : MYSQL_ROW) (i : ℤ) : Stays Reads (rowCell row i) := by
  unfold rowCell
  refine Stays.ite (Stays.fail _) ?_
  cases row.cells[i.toNat]? with
  | none => exact Stays.fail _
  | some cell => exact reads_pure cell

/-- A cell is read only inside the row. -/
theorem rowCell_eq_ok {row : MYSQL_ROW} {i : ℤ} {cell : Option String} {o o' : MySQL}
    {es : List Event} (h : rowCell row i o = .ok (cell, o', es)) :
    0 ≤ i ∧ row.cells[i.toNat]? = some cell := by
  unfold rowCell at h
  split at h
  · cases h
  · rename_i hi
    refine ⟨not_lt.1 hi, ?_⟩
    cases hcell : row.cells[i.toNat]? with
    | none =>
        rw [hcell] at h
        cases h
    | some found =>
        rw [hcell] at h
        cases h
        rfl

/-- Fetching a row of the stored result set. -/
theorem reads_fetchRow (res : MYSQL_RES) :
    ∀ o a o' es, o.result = some res → fetchRow res o = .ok (a, o', es) → Reads o o' es := by
  rintro o _ _ _ hres ⟨⟩
  refine ⟨rfl, by simp [hres], fun _ row hrow => ?_, plain_nil⟩
  have hholds := MYSQL_RES.holds_of_fetchRow hrow
  exact ⟨_, rfl, by simpa [MYSQL_RES.Holds] using hholds⟩

theorem reads_findField (env : Env) (fieldname : String) (res : MYSQL_RES) (row : MYSQL_ROW)
    (i : ℕ) (names : List String) : Stays Reads (findField env fieldname res row i names) := by
  induction names generalizing i with
  | nil => exact reads_Error_then _ _ _ _
  | cons name names ih =>
      refine reads_bind (Stays.modify fun o => ⟨rfl, rfl, fun h => h, plain_nil⟩) fun _ => ?_
      refine Stays.ite (reads_bind (reads_rowCell row i) fun cell => ?_) (ih (i + 1))
      cases cell with
      | none => exact reads_Error_then _ _ _ _
      | some cell => exact reads_pure _

/-- The frame of the functions that work on the stored result set: an error branch when there is
    none, and a branch that may rely on it. -/
theorem reads_onResult {α : Type} {refuse : Method α} {work : MYSQL_RES → Method α}
    (hrefuse : Stays Reads refuse)
    (hwork : ∀ res o a o' es, o.result = some res → work res o = .ok (a, o', es) → Reads o o' es) :
    Stays Reads (do
      let this ← get
      match this.result with
      | none => refuse
      | some res => work res) := by
  refine Stays.get_bind fun o a o' es h => ?_
  cases hres : o.result with
  | none =>
      rw [hres] at h
      exact hrefuse o a o' es h
  | some res =>
      rw [hres] at h
      exact hwork res o a o' es hres h

/-- How such a function ends when its error branch has a fixed result. -/
theorem onResult_eq_ok {α : Type} {env : Env} {error : String} {errid : ℤ} {refused a : α}
    {work : MYSQL_RES → Method α} {o o' : MySQL} {es : List Event}
    (h : (do
      let this ← (get : Method MySQL)
      match this.result with
      | none => do
        let _ ← Error env error errid
        return refused
      | some res => work res) o = .ok (a, o', es)) :
    (o.result = none ∧ a = refused) ∨
      ∃ res, o.result = some res ∧ work res o = .ok (a, o', es) := by
  rw [get_bind] at h
  cases hres : o.result with
  | none =>
      rw [hres] at h
      obtain ⟨_, _, _, _, -, hret, -⟩ := bind_eq_ok.1 h
      cases hret
      exact .inl ⟨rfl, rfl⟩
  | some res =>
      rw [hres] at h
      exact .inr ⟨res, rfl, h⟩

/-- Logging first and then fetching a row, from a state with this stored result set. -/
theorem reads_log_fetch {α : Type} {res : MYSQL_RES} {first : Method Unit}
    {fetch : Method (Option MYSQL_ROW)} {rest : Option MYSQL_ROW → Method α}
    (hfirst : Stays Idle first)
    (hfetch : ∀ o a o' es, o.result = some res → fetch o = .ok (a, o', es) → Reads o o' es)
    (hrest : ∀ row, Stays Reads (rest row)) :
    ∀ o a o' es, o.result = some res → (do first; let row ← fetch; rest row) o = .ok (a, o', es) →
      Reads o o' es := by
  intro o a o' es hres h
  obtain ⟨_, o₁, es₁, _, h₁, h', rfl⟩ := bind_eq_ok.1 h
  obtain ⟨row, o₂, es₂, es₃, h₂, h₃, rfl⟩ := bind_eq_ok.1 h'
  have hu := hfirst o _ o₁ es₁ h₁
  have hf := hfetch o₁ row o₂ es₂ (by rw [hu.1]; exact hres) h₂
  exact Reads.composable.trans hu.reads
    (Reads.composable.trans hf (hrest row o₂ a o' es₃ h₃))

theorem reads_currentRow (res : MYSQL_RES) :
    ∀ o a o' es, o.result = some res → currentRow res o = .ok (a, o', es) → Reads o o' es := by
  intro o a o' es hres h
  rw [currentRow, get_bind] at h
  cases hrow : o.row with
  | some row =>
      rw [hrow] at h
      exact reads_pure (some row) o a o' es h
  | none =>
      rw [hrow] at h
      exact reads_fetchRow res o a o' es hres h

theorem reads_fetch_field (env : Env) (fieldname : String) :
    Stays Reads (fetch_field env fieldname) := by
  refine reads_onResult (reads_Error_then _ _ _ _) fun res => ?_
  refine reads_log_fetch (idle_logAll _) (reads_currentRow res) fun row => ?_
  cases row with
  | none => exact reads_pure none
  | some row => exact reads_findField _ _ _ _ _ _

theorem reads_fetch_field_num (env : Env) (fieldnum : Cell) :
    Stays Reads (fetch_field_num env fieldnum) := by
  refine reads_onResult (reads_Error_then _ _ _ _) fun res => ?_
  refine reads_log_fetch (idle_logAll _) (reads_currentRow res) fun row => ?_
  cases row with
  | none => exact reads_Error_then _ _ _ _
  | some row => exact reads_rowCell _ _

/-- The same without a logged line before the row is fetched. -/
theorem reads_fetch {α : Type} {res : MYSQL_RES} {fetch : Method (Option MYSQL_ROW)}
    {rest : Option MYSQL_ROW → Method α}
    (hfetch : ∀ o a o' es, o.result = some res → fetch o = .ok (a, o', es) → Reads o o' es)
    (hrest : ∀ row, Stays Reads (rest row)) :
    ∀ o a o' es, o.result = some res → (fetch >>= rest) o = .ok (a, o', es) → Reads o o' es := by
  intro o a o' es hres h
  obtain ⟨row, o₁, es₁, es₂, h₁, h₂, rfl⟩ := bind_eq_ok.1 h
  exact Reads.composable.trans (hfetch o row o₁ es₁ hres h₁) (hrest row o₁ a o' es₂ h₂)

theorem reads_fetch_row (env : Env) (splitter : String) : Stays Reads (fetch_row env splitter) := by
  refine reads_onResult (reads_Error_then _ _ _ _) fun res => ?_
  refine reads_fetch (reads_fetchRow res) fun row => ?_
  cases row with
  | none => exact reads_pure none
  | some row => exact reads_bind (reads_logAll _) fun _ => reads_pure _

theorem reads_fetch_row_data (env : Env) : Stays Reads (fetch_row_data env) := by
  refine reads_onResult (reads_Error _ _ _) fun res => ?_
  refine reads_log_fetch (idle_logAll _) (reads_fetchRow res) fun row => ?_
  cases row with
  | none => exact reads_Error _ _ _
  | some row => exact reads_pure _

theorem reads_fetchFirst {α : Type} (env : Env) (refused absent : α) (noResult : String)
    (convert : Option String → α) (logged : α → String) :
    Stays Reads (fetchFirst env refused absent noResult convert logged) := by
  refine reads_onResult (reads_Error_then _ _ _ _) fun res => ?_
  refine reads_fetch (reads_fetchRow res) fun row => ?_
  cases row with
  | none => exact reads_pure absent
  | some row =>
      refine reads_bind (reads_rowCell row 0) fun cell => ?_
      exact reads_bind (reads_logAll _) fun _ => reads_pure _

theorem reads_data_seek (env : Env) (row : Cell) : Stays Reads (data_seek env row) := by
  refine reads_onResult (reads_Error _ _ _) fun res o a o' es hres h => ?_
  obtain ⟨_, o₁, es₁, es₂, h₁, h₂, rfl⟩ := bind_eq_ok.1 h
  cases h₂
  obtain ⟨rfl, hes⟩ := idle_logAll _ o _ o₁ es₁ h₁
  refine ⟨rfl, by simp [hres], fun hco r hr => ?_, by simpa using hes⟩
  obtain ⟨res', hres', hholds⟩ := hco r hr
  obtain rfl : res = res' := Option.some.inj (hres.symm.trans hres')
  exact ⟨_, rfl, hholds⟩

theorem reads_askResult (env : Env) (function : String) (ask : MYSQL_RES → ℤ) :
    Stays Reads (askResult env function ask) := by
  refine reads_onResult (reads_Error _ _ _) fun res o a o' es _ h => ?_
  exact reads_bind (reads_logAll _) (fun _ => reads_pure _) o a o' es h

theorem reads_askNumber {function : String} (hf : clientDeeds.contains function = false)
    (answer : ℤ) : Stays Reads (askNumber function answer) :=
  reads_bind (reads_client hf) fun _ => reads_bind (reads_logAll _) fun _ => reads_pure _

theorem reads_askText {function : String} (hf : clientDeeds.contains function = false)
    (logged : String) (answer : Option String) : Stays Reads (askText function logged answer) :=
  reads_bind (reads_client hf) fun _ => reads_bind (reads_logAll _) fun _ => reads_pure _

theorem reads_real_escape_string (env : Env) (string : String) :
    Stays Reads (real_escape_string env string) :=
  reads_bind (reads_client rfl) fun _ => reads_bind (reads_logAll _) fun _ => reads_pure _

theorem reads_refresh (env : Env) (options : Cell) : Stays Reads (refresh env options) := by
  refine reads_bind (reads_client rfl) fun _ => ?_
  refine reads_bind (reads_logAll _) fun _ => ?_
  exact reads_bind reads_get fun _ => Stays.ite (reads_Error _ _ _) (reads_pure _)

theorem reads_select_db (env : Env) (dbname : String) : Stays Reads (select_db env dbname) := by
  refine reads_bind (reads_client rfl) fun _ => ?_
  refine reads_bind (reads_logAll _) fun _ => ?_
  exact Stays.ite (reads_Error _ _ _) (reads_pure _)

theorem reads_result_stored : Stays Reads result_stored :=
  reads_bind (reads_logAll _) fun _ => reads_bind reads_get fun _ => reads_pure _

/-! ## Member functions that change the object -/

/-- The events of `freeStored`. -/
def freedEvents (o : MySQL) : List Event :=
  match o.result with
  | none => []
  | some res => [.freed o.conn res.number]

@[simp] theorem history_freedEvents (o : MySQL) : history o.freedEvents = [] := by
  unfold freedEvents
  split <;> rfl

@[simp] theorem deeds_freedEvents (o : MySQL) : deeds o.freedEvents = o.freedEvents := by
  unfold freedEvents
  split <;> rfl

theorem run_freeStored (o : MySQL) :
    freeStored o = .ok ((), { o with result := none }, o.freedEvents) := by
  unfold freeStored freedEvents
  cases hr : o.result with
  | some res =>
      simp only [bind, run_get, hr]
      rfl
  | none =>
      have ho : o = { o with result := none } := by rw [← hr]
      simp only [bind, run_get, hr, run_pure]
      rw [← ho]
      rfl

/-- A threaded query only puts its entry at the end of the queue. -/
theorem run_query_threaded (env : Env) (q : CharPtr) (resultid extra : Cell) (h : resultid ≠ -1)
    (o : MySQL) :
    query env q resultid extra o =
      .ok (1,
        { o with
          result := none
          queryQueue := o.queryQueue ++ [⟨q, resultid, some extra, none, .TYPE_ID⟩] },
        o.freedEvents ++ [.accepted o.conn ⟨q, resultid, some extra, none, .TYPE_ID⟩]) := by
  unfold query
  rw [bind_of_ok (run_freeStored o), if_pos h]
  rfl

theorem run_query_array_threaded (env : Env) (q extra : CharPtr) (resultid : Cell)
    (h : resultid ≠ -1) (o : MySQL) :
    query_array env q resultid extra o =
      .ok (1,
        { o with
          result := none
          queryQueue := o.queryQueue ++ [⟨q, resultid, none, some extra, .TYPE_ARRAY⟩] },
        o.freedEvents ++ [.accepted o.conn ⟨q, resultid, none, some extra, .TYPE_ARRAY⟩]) := by
  unfold query_array
  rw [bind_of_ok (run_freeStored o), if_pos h]
  rfl

/-- The object after `mysql_real_query` was called for a synchronous query. -/
def executed (lib : Answers) (statement : String) (o : MySQL) : MySQL :=
  { o with
    result := none
    mysql := o.mysql.map (fun c => (c.submit statement).answer lib)
    state := lib.code }

/-- The deeds of a synchronous query: the stored result set is freed, the statement submitted and its
    text deleted. -/
def executedDeeds (q : CharPtr) (o : MySQL) : List Event :=
  o.freedEvents ++ [.client o.conn "mysql_real_query", .delete q.ptr]

/-- A synchronous query: free what is stored, execute, and then only log, delete the text and
    report. -/
theorem executed_of_sync {α : Type} (env : Env) (q : CharPtr) {line : MySQL → String}
    {finish : MySQL → Method α} (hfinish : ∀ this, Stays Idle (finish this)) {o o' : MySQL} {a : α}
    {es : List Event}
    (h : (do
      freeStored
      realQuery env q
      let this ← get
      logAll (line this)
      safeDelete q
      finish this) o = .ok (a, o', es)) :
    o' = o.executed env.lib q.text ∧ history es = [] ∧ deeds es = o.executedDeeds q := by
  obtain ⟨_, o₁, es₁, _, h₁, h', rfl⟩ := bind_eq_ok.1 h
  rw [run_freeStored] at h₁
  cases h₁
  obtain ⟨_, o₂, es₂, es₃, h₂, h₃, rfl⟩ := bind_eq_ok.1 h'
  obtain ⟨_, o₃, es₄, es₅, h₄, h₅, rfl⟩ := bind_eq_ok.1 h₂
  cases h₅
  obtain ⟨rfl, -, rfl⟩ := client_eq_ok h₄
  rw [get_bind] at h₃
  obtain ⟨_, es₆, es₇, h₆, rfl, hes₆⟩ := idle_then (idle_logAll _) h₃
  obtain ⟨es₈, h₈, rfl⟩ := emit_bind_eq_ok.1 h₆
  obtain ⟨rfl, hes₈⟩ := hfinish _ _ _ _ _ h₈
  refine ⟨rfl, ?_, ?_⟩
  · simp [history_cons, history_of_plain, hes₆, hes₈, Event.isHistory, Event.about]
  · simp only [deeds_append, deeds_cons, deeds_freedEvents, deeds_of_plain hes₆,
      deeds_of_plain hes₈, executedDeeds]
    rfl

/-- On a connection a synchronous query never faults. -/
theorem sync_ok {α : Type} (env : Env) (q : CharPtr) {line : MySQL → String}
    {finish : MySQL → Method α} (hfinish : ∀ this, Safe (finish this)) {o : MySQL}
    (hm : o.mysql.isSome) :
    ∃ a o' es, (do
      freeStored
      realQuery env q
      let this ← get
      logAll (line this)
      safeDelete q
      finish this) o = .ok (a, o', es) := by
  obtain ⟨c, hc⟩ := Option.isSome_iff_exists.1 hm
  have hreal : realQuery env q { o with result := none } =
      .ok ((), o.executed env.lib q.text, [.client o.conn "mysql_real_query"]) := by
    simp only [realQuery, client, bind, run_get, hc, run_emit, run_modify, executed]
    rfl
  have hrest : Safe (do
      let this ← (get : Method MySQL)
      logAll (line this)
      safeDelete q
      finish this) :=
    Safe.bind Safe.get fun _ => Safe.bind (safe_logAll _) fun _ =>
      Safe.bind (Safe.emit _) fun _ => hfinish _
  obtain ⟨a, o', es, hok⟩ := hrest.ok (o.executed env.lib q.text)
  rw [bind_of_ok (run_freeStored o), bind_of_ok hreal, hok]
  exact ⟨a, o', _, rfl⟩

theorem executed_of_query_sync (env : Env) (q : CharPtr) (extra : Cell) {o o' : MySQL} {a : ℤ}
    {es : List Event} (h : query env q (-1) extra o = .ok (a, o', es)) :
    o' = o.executed env.lib q.text ∧ history es = [] ∧ deeds es = o.executedDeeds q :=
  executed_of_sync env q (fun _ => Stays.ite (idle_Error _ _ _) (Stays.pure Idle.composable _)) h

theorem executed_of_query_array_sync (env : Env) (q extra : CharPtr) {o o' : MySQL} {a : ℤ}
    {es : List Event} (h : query_array env q (-1) extra o = .ok (a, o', es)) :
    o' = o.executed env.lib q.text ∧ history es = [] ∧ deeds es = o.executedDeeds q :=
  executed_of_sync env q (fun _ => Stays.ite (idle_Error _ _ _) (Stays.pure Idle.composable _)) h

/-- The object after `mysql_store_result` passed both guards. -/
def storing (lib : Answers) (o : MySQL) : MySQL :=
  { o with
    result := o.mysql.bind (·.storeResult lib)
    mysql := o.mysql.map (·.afterStore lib) }

/-- The deeds of `mysql_store_result` then. -/
def storedDeeds (lib : Answers) (o : MySQL) : List Event :=
  .client o.conn "mysql_store_result" ::
    match o.mysql.bind (·.storeResult lib) with
    | none => []
    | some res => [.stored o.conn res.number]

/-- `store_result` either reports an error and changes nothing, or passes both guards and stores. -/
theorem store_result_cases (env : Env) {o o' : MySQL} {a : ℤ} {es : List Event}
    (h : store_result env o = .ok (a, o', es)) :
    Idle o o' es ∨
      (o.result = none ∧ o.state = 0 ∧ o' = o.storing env.lib ∧ history es = [] ∧
        deeds es = o.storedDeeds env.lib) := by
  rw [store_result, get_bind] at h
  by_cases hres : o.result.isSome
  · rw [if_pos hres] at h
    exact .inl (idle_Error _ _ _ _ _ _ _ h)
  · rw [if_neg hres] at h
    by_cases hstate : o.state ≠ 0
    · rw [if_pos hstate] at h
      exact .inl (idle_Error _ _ _ _ _ _ _ h)
    · rw [if_neg hstate] at h
      obtain ⟨_, o₂, es₃, _, h₃, h₄, rfl⟩ := bind_eq_ok.1 h
      obtain ⟨rfl, -, rfl⟩ := client_eq_ok h₃
      obtain ⟨_, o₃, _, es₄, h₅, h₆, rfl⟩ := bind_eq_ok.1 h₄
      cases h₅
      obtain ⟨_, es₇, es₈, h₈, rfl, hes₇⟩ := idle_then (idle_logAll _) h₆
      refine .inr ⟨by simpa using hres, by simpa using hstate, ?_⟩
      -- what follows the assignment only reports, or emits that a result set was stored
      cases hst : o₂.mysql.bind (·.storeResult env.lib) with
      | none =>
          rw [hst] at h₈
          obtain ⟨rfl, hes₈⟩ := idle_Error _ _ _ _ _ _ _ h₈
          refine ⟨by simp [storing, hst], ?_, ?_⟩
          · simp [history_cons, history_of_plain, hes₇, hes₈, Event.isHistory, Event.about]
          · simp only [storedDeeds, hst, List.nil_append, List.singleton_append, deeds_cons,
              deeds_append, deeds_of_plain hes₇, deeds_of_plain hes₈]
            rfl
      | some res =>
          rw [hst] at h₈
          cases h₈
          refine ⟨by simp [storing, hst], ?_, ?_⟩
          · simp [history_cons, history_of_plain, hes₇, Event.isHistory, Event.about]
          · simp only [storedDeeds, hst, List.nil_append, List.singleton_append, deeds_cons,
              deeds_append, deeds_of_plain hes₇]
            rfl

/-- The end of `store_result`, by whether the library returned a result set. -/
theorem run_stored (env : Env) {o : MySQL} {res : Option MYSQL_RES} (hres : o.result = res) :
    ∃ a es, (match res with
      | none => Error env "Failed to store result"
      | some res => do
        emit (.stored o.conn res.number)
        return 1 : Method ℤ) o = .ok (a, o, es) ∧ (o.result.isSome → a = 1) := by
  rw [hres]
  cases res with
  | none =>
      obtain ⟨a, o', es, herror⟩ := (safe_Error env "Failed to store result" (-1)).ok o
      obtain ⟨rfl, -⟩ := stays_Error _ _ _ _ _ _ _ herror
      exact ⟨a, es, herror, by simp⟩
  | some res => exact ⟨1, _, rfl, fun _ => rfl⟩

/-- `mysql_store_result` from a connection without a stored result and with `state` 0 passes both
    guards, and stores what the connection holds. -/
theorem run_store_result (env : Env) {o : MySQL} {c : MYSQL} (hresult : o.result = none)
    (hstate : o.state = 0) (hmysql : o.mysql = some c) :
    ∃ a es, store_result env o = .ok (a, o.storing env.lib, es) ∧
      .client o.conn "mysql_store_result" ∈ es ∧ ((o.storing env.lib).result.isSome → a = 1) := by
  have hclient : client "mysql_store_result" o =
      .ok ((), o, [.client o.conn "mysql_store_result"]) := by
    simp only [client, bind, run_get, hmysql, run_emit]
    rfl
  obtain ⟨_, o', es₁, hlog⟩ := (safe_logAll ("Function: mysql_store_result executed with " ++
    "result: \"" ++ dec (if (o.mysql.bind (·.storeResult env.lib)).isSome then 1 else 0) ++
    "\"")).ok (o.storing env.lib)
  obtain ⟨rfl, -⟩ := stays_logAll _ _ _ _ _ hlog
  have hres : (o.storing env.lib).result = o.mysql.bind (·.storeResult env.lib) := rfl
  obtain ⟨a, es₂, hlast, hone⟩ := run_stored env hres
  refine ⟨a, .client o.conn "mysql_store_result" :: (es₁ ++ es₂), ?_, by simp, hone⟩
  refine bind_eq_ok.2 ⟨o, o, [], .client o.conn "mysql_store_result" :: (es₁ ++ es₂), rfl, ?_, rfl⟩
  rw [if_neg (by simp [hresult]), if_neg (by simp [hstate])]
  refine bind_eq_ok.2 ⟨(), o, _, es₁ ++ es₂, hclient, ?_, rfl⟩
  exact bind_eq_ok.2 ⟨(), o.storing env.lib, [], es₁ ++ es₂, rfl,
    bind_eq_ok.2 ⟨(), o.storing env.lib, es₁, es₂, hlog, hlast, rfl⟩, rfl⟩

/-- The object after `free_result`. -/
def freed (o : MySQL) : MySQL := { o with result := none, state := -1, row := none, field := none }

theorem freed_of_free_result {o o' : MySQL} {a : ℤ} {es : List Event}
    (h : free_result o = .ok (a, o', es)) :
    o' = o.freed ∧ history es = [] ∧ deeds es = o.freedEvents := by
  obtain ⟨_, o₁, es₁, _, h₁, h', rfl⟩ := bind_eq_ok.1 h
  obtain ⟨_, o₂, es₂, es₃, h₂, h₃, rfl⟩ := bind_eq_ok.1 h'
  rw [run_freeStored] at h₁
  cases h₁
  cases h₃
  obtain ⟨rfl, he₂⟩ := idle_logAll _ _ _ _ _ h₂
  exact ⟨rfl, by simp [history_of_plain he₂], by simp [deeds_of_plain he₂]⟩

/-- The object after an attempt to connect. -/
def reconnected (connected : Bool) (o : MySQL) : MySQL := { o with connected := connected }

/-- Connecting needs a connection object, and can only set `connected`. -/
theorem reconnected_of_connect (env : Env) (user : String) {o o' : MySQL} {a : ℤ}
    {es : List Event} (h : connect env user o = .ok (a, o', es)) :
    o' = o.reconnected (o.connected || env.lib.connect) ∧
      ∃ es', es = .client o.conn "mysql_real_connect" :: es' ∧ Plain es' := by
  have hc := Idle.composable
  obtain ⟨_, o₁, es₁, _, h₁, h₃, rfl⟩ := bind_eq_ok.1 h
  obtain ⟨rfl, -, rfl⟩ := client_eq_ok h₁
  by_cases hconn : env.lib.connect
  · rw [if_pos hconn, get_bind] at h₃
    obtain ⟨_, es₄, _, h₄, rfl, he₄⟩ := idle_then (idle_client rfl) h₃
    obtain ⟨_, es₅, _, h₅, rfl, he₅⟩ := idle_then (idle_client rfl) h₄
    obtain ⟨_, es₆, _, h₆, rfl, he₆⟩ := idle_then (idle_emit rfl) h₅
    obtain ⟨_, es₇, _, h₇, rfl, he₇⟩ := idle_then (idle_client rfl) h₆
    obtain ⟨_, es₈, _, h₈, rfl, he₈⟩ := idle_then (idle_emit rfl) h₇
    have hlogged : Stays Idle (doIf (o₁.logtype > 0) do
        client "mysql_get_host_info"
        emit (.logged ("Connected (" ++ dec o₁.id ++ ") to " ++ user ++ " @ " ++
          str env.lib.hostInfo ++ "."))
        client "mysql_get_server_info"
        emit (.logged ("MySQL Server Version " ++ str env.lib.serverInfo ++ "."))) := by
      refine Stays.doIf hc (Stays.bind hc (idle_client rfl) fun _ => ?_)
      refine Stays.bind hc (idle_emit rfl) fun _ => ?_
      exact Stays.bind hc (idle_client rfl) fun _ => idle_emit rfl
    obtain ⟨_, es₉, _, h₉, rfl, he₉⟩ := idle_then hlogged h₈
    cases h₉
    exact ⟨by simp [reconnected, hconn], _, rfl, by simp [he₄, he₅, he₆, he₇, he₈, he₉]⟩
  · rw [if_neg hconn] at h₃
    obtain ⟨rfl, he₂⟩ := idle_Error _ _ _ _ _ _ _ h₃
    exact ⟨by simp [reconnected, hconn], _, rfl, by simpa using he₂⟩

/-- The object after `init`. -/
def initialised (lib : Answers) (log : ℤ) (print : Bool) (o : MySQL) : MySQL :=
  { o with
    mysql := if lib.init then some MYSQL.fresh else none
    logtype := unsigned log
    printerrs := print }

theorem initialised_of_init (env : Env) (log : ℤ) (print : Bool) {o o' : MySQL} {a : ℤ}
    {es : List Event} (h : init env log print o = .ok (a, o', es)) :
    o' = o.initialised env.lib log print ∧ Plain es := by
  have hc := Idle.composable
  obtain ⟨_, o₁, _, es₁, ⟨⟩, h₂, rfl⟩ := bind_eq_ok.1 h
  have hrest : Stays Idle (do
      let this ← get
      logAll ("Function: mysql_init executed with result: \"" ++
        dec (if env.lib.init then this.id else -1) ++ "\".")
      if env.lib.init then
        return (this.id : ℤ)
      let _ ← Error env "Failed to initialize"
      return -1) := by
    refine Stays.bind hc (Stays.get hc) fun this => ?_
    refine Stays.bind hc (idle_logAll _) fun _ => ?_
    refine Stays.ite (Stays.pure hc _) ?_
    exact Stays.bind hc (idle_Error _ _ _) fun _ => Stays.pure hc _
  obtain ⟨rfl, hes⟩ := hrest _ _ _ _ h₂
  exact ⟨rfl, by simpa using hes⟩

/-- The object after `close`. -/
def emptied (o : MySQL) : MySQL :=
  { o with result := none, row := none, field := none, connected := false }

/-- `close` frees the result set, closes the connection and tells so. -/
theorem emptied_of_close {o o' : MySQL} {a : Unit} {es : List Event}
    (h : close o = .ok (a, o', es)) :
    o' = o.emptied ∧ ∃ es', es = o.freedEvents ++ es' ∧ Plain es' := by
  have hc := Idle.composable
  obtain ⟨_, o₁, es₁, _, h₁, h₂, rfl⟩ := bind_eq_ok.1 h
  rw [run_freeStored] at h₁
  cases h₁
  obtain ⟨_, o₂, _, es₂, ⟨⟩, h₃, rfl⟩ := bind_eq_ok.1 h₂
  rw [get_bind] at h₃
  have htold : Stays Idle (doIf o.mysql.isSome do
      doIf (o.logtype > 0) do
        emit (.logged "MySQL closed. Logging ended.")
      emit (.printed ("[MySQL] Closed (" ++ dec o.id ++ "). Logging ended."))
      client "mysql_close") := by
    refine Stays.doIf hc (Stays.bind hc (Stays.doIf hc (idle_emit rfl)) fun _ => ?_)
    exact Stays.bind hc (idle_emit rfl) fun _ => idle_client rfl
  obtain ⟨_, es₄, _, h₄, rfl, he₄⟩ := idle_then htold h₃
  cases h₄
  exact ⟨rfl, _, rfl, by simpa using he₄⟩

/-- The destructor of a connected object closes it. -/
theorem freed_of_delete {o o' : MySQL} {a : Unit} {es : List Event} (hconn : o.connected = true)
    (h : delete o = .ok (a, o', es)) : ∃ es', es = o.freedEvents ++ es' ∧ Plain es' := by
  rw [delete, get_bind, doIf, if_pos hconn] at h
  exact (emptied_of_close h).2

/-! ## What a native does to the object of its handle -/

/-- The object after a threaded query was accepted. -/
def accepting (q : QueryInfo) (o : MySQL) : MySQL :=
  { o with result := none, queryQueue := o.queryQueue ++ [q] }

/-- What the call of a native can do to the object of its handle, short of deleting it, and which
    native it takes. -/
inductive Change (name : NativeName) (params : List Cell) (lib : Answers) (o : MySQL)
    (es : List Event) : MySQL → Prop
  | observed {o' : MySQL} (h : o.Observed o' es) : Change name params lib o es o'
  | connected (c : Bool) (hn : name = .mysql_connect) (hc : o.connected = true → c = true)
      (hs : history es = []) : Change name params lib o es (o.reconnected c)
  | accepted (q : QueryInfo) (hn : name.isQuery) (hr : param params 2 ≠ -1)
      (hmysql : o.mysql.isSome) (hs : history es = [.accepted o.conn q])
      (hclient : ∀ c f, Event.client c f ∉ es) : Change name params lib o es (o.accepting q)
  | executed (statement : String) (hn : name.isQuery) (hr : param params 2 = -1)
      (hs : history es = []) : Change name params lib o es (o.executed lib statement)
  | stored (hn : name = .mysql_store_result) (hres : o.result = none) (hstate : o.state = 0)
      (hs : history es = []) : Change name params lib o es (o.storing lib)
  | freed (hn : name = .mysql_free_result) (hs : history es = []) :
      Change name params lib o es o.freed

/-- Further events that are not part of the history and no client calls do not matter. -/
theorem Change.pad {name : NativeName} {params : List Cell} {lib : Answers} {o o' : MySQL}
    {pre es post : List Event} (h : o.Change name params lib es o') (hpre : history pre = [])
    (hpost : history post = []) (hpre' : ∀ c f, Event.client c f ∉ pre)
    (hpost' : ∀ c f, Event.client c f ∉ post) :
    o.Change name params lib (pre ++ es ++ post) o' := by
  have hhist : history (pre ++ es ++ post) = history es := by simp [hpre, hpost]
  cases h with
  | observed h => exact .observed ⟨h.same, h.result, hhist.trans h.silent⟩
  | connected c hn hc hs => exact .connected c hn hc (hhist.trans hs)
  | accepted q hn hr hmysql hs hclient =>
      refine .accepted q hn hr hmysql (hhist.trans hs) fun c f hmem => ?_
      rcases List.mem_append.1 hmem with hmem | hmem
      · rcases List.mem_append.1 hmem with hmem | hmem
        · exact hpre' c f hmem
        · exact hclient c f hmem
      · exact hpost' c f hmem
  | executed statement hn hr hs => exact .executed statement hn hr (hhist.trans hs)
  | stored hn hres hstate hs => exact .stored hn hres hstate (hhist.trans hs)
  | freed hn hs => exact .freed hn (hhist.trans hs)

/-- What the call of a native can do to the object of its handle, short of deleting it, with all its
    deeds, and which native it takes. -/
inductive Act (name : NativeName) (params : List Cell) (lib : Answers) (o : MySQL)
    (es : List Event) : MySQL → Prop
  | read {o' : MySQL} (h : o.Reads o' es) : Act name params lib o es o'
  | connected (hn : name = .mysql_connect) (es' : List Event)
      (hs : es = .client o.conn "mysql_real_connect" :: es') (hp : Plain es') :
      Act name params lib o es (o.reconnected (o.connected || lib.connect))
  | accepted (q : QueryInfo) (hn : name.isQuery) (hr : param params 2 ≠ -1)
      (hmysql : o.mysql.isSome) (hs : es = o.freedEvents ++ [.accepted o.conn q]) :
      Act name params lib o es (o.accepting q)
  | executed (q : CharPtr) (hn : name.isQuery) (hr : param params 2 = -1) (hs : history es = [])
      (hd : deeds es = o.executedDeeds q) : Act name params lib o es (o.executed lib q.text)
  | stored (hn : name = .mysql_store_result) (hres : o.result = none) (hstate : o.state = 0)
      (hs : history es = []) (hd : deeds es = o.storedDeeds lib) :
      Act name params lib o es (o.storing lib)
  | freed (hn : name = .mysql_free_result) (hs : history es = [])
      (hd : deeds es = o.freedEvents) : Act name params lib o es o.freed

/-- An act is one of the changes the history tells. -/
theorem Act.change {name : NativeName} {params : List Cell} {lib : Answers} {o o' : MySQL}
    {es : List Event} (h : o.Act name params lib es o') : o.Change name params lib es o' := by
  cases h with
  | read h => exact .observed h.observed
  | connected hn es' hs hp =>
      refine .connected _ hn (fun hconn => by simp [hconn]) ?_
      rw [hs, history_cons, history_of_plain hp]
      rfl
  | accepted q hn hr hmysql hs =>
      refine .accepted q hn hr hmysql ?_ fun c f hmem => ?_
      · rw [hs, history_append, history_freedEvents]
        rfl
      · rw [hs, freedEvents] at hmem
        split at hmem <;> simp at hmem
  | executed q hn hr hs hd => exact .executed q.text hn hr hs
  | stored hn hres hstate hs hd => exact .stored hn hres hstate hs
  | freed hn hs hd => exact .freed hn hs

end MySQL

/-! ## Natives that leave the table alone -/

/-- The events about string buffers and the strings handed to the scripts. -/
def Event.isString : Event → Bool
  | .newString _ | .delete _ | .setString _ _ => true
  | _ => false

/-- Every event of the trace is about strings. -/
def OnStrings (es : List Event) : Prop := ∀ e ∈ es, e.isString = true

theorem OnStrings.history {es : List Event} (h : OnStrings es) : history es = [] := by
  rw [MysqlPlugin.history, List.filter_eq_nil_iff]
  intro e he
  have hstring := h e he
  cases e <;> simp_all [Event.isString, Event.isHistory, Event.about]

theorem OnStrings.noClient {es : List Event} (h : OnStrings es) (c : ℕ) (f : String) :
    Event.client c f ∉ es :=
  fun hmem => absurd (h _ hmem) (by simp [Event.isString])

namespace World

variable {N : ℕ}

/-- The table and the scripts are unchanged, and every event is about strings. -/
structure Strings (w w' : World N) (es : List Event) : Prop where
  my : w'.my = w.my
  pAmx : w'.pAmx = w.pAmx
  created : w.created ≤ w'.created
  events : OnStrings es

theorem Strings.composable : Composable (Strings (N := N)) where
  refl _ := ⟨rfl, rfl, le_rfl, by simp [OnStrings]⟩
  trans h h' :=
    ⟨h'.my.trans h.my, h'.pAmx.trans h.pAmx, h.created.trans h'.created, fun e he =>
      (List.mem_append.1 he).elim (h.events e) (h'.events e)⟩

theorem strings_pure {α : Type} (a : α) : Stays Strings (Pure.pure a : Native N α) :=
  Stays.pure Strings.composable a

theorem strings_newString (text : String) : Stays Strings (newString text : Native N CharPtr) := by
  rintro w _ _ _ ⟨⟩
  exact ⟨rfl, rfl, Nat.le_succ _, by simp [OnStrings, Event.isString]⟩

theorem strings_safeDelete (p : CharPtr) : Stays Strings (Natives.safeDelete p : Native N Unit) :=
  Stays.emit fun _ => ⟨rfl, rfl, le_rfl, by simp [OnStrings, Event.isString]⟩

theorem strings_GetString (amx : Memory) (addr : Cell) :
    Stays Strings (GetString amx addr : Native N CharPtr) :=
  Stays.ite (strings_newString _) (strings_newString _)

theorem strings_SetString (addr : Cell) (source : Option String) :
    Stays Strings (SetString addr source : Native N Unit) := by
  cases source with
  | none => exact Stays.fail _
  | some text => exact Stays.emit fun _ => ⟨rfl, rfl, le_rfl, by simp [OnStrings, Event.isString]⟩

theorem strings_giveString (addr : Cell) (source : Option String) :
    Stays Strings (giveString addr source : Native N Cell) := by
  cases source with
  | none => exact strings_pure 0
  | some text =>
      exact Stays.bind Strings.composable (strings_SetString addr _) fun _ => strings_pure 1

end World

/-! ## What a native does to the slot of its handle -/

namespace Natives

variable {N : ℕ}

/-- A call on a slot is a call on the object in it. -/
theorem call_eq_ok {α : Type} {h : Fin N} {method : Method α} {w w' : World N} {a : α}
    {es : List Event} :
    call h method w = .ok (a, w', es) ↔
      ∃ o o', w.my h = some o ∧ method o = .ok (a, o', es) ∧ w' = w.set h (some o') := by
  unfold call
  cases ho : w.my h with
  | none => simp
  | some o =>
      cases hm : method o with
      | error f => simp [hm]
      | ok r =>
          obtain ⟨a₁, o₁, es₁⟩ := r
          simp only [hm, Except.ok.injEq, Prod.mk.injEq, Option.some.injEq]
          constructor
          · rintro ⟨rfl, rfl, rfl⟩
            exact ⟨o, o₁, rfl, hm, rfl⟩
          · rintro ⟨o₂, o', rfl, hm', rfl⟩
            rw [hm] at hm'
            cases hm'
            exact ⟨rfl, rfl, rfl⟩

/-- From a state where the slot holds an object that meets the condition, only that object is
    changed, in one of the ways of `MySQL.Act`; before and after it the native only handles
    strings. -/
def Does (name : NativeName) (params : List Cell) (lib : Answers) (ok : MySQL → Prop) (h : Fin N)
    (w w' : World N) (es : List Event) : Prop :=
  ∀ o, w.my h = some o → ok o →
    w'.pAmx = w.pAmx ∧ w.created ≤ w'.created ∧
      ∃ o' pre mid post, w'.my = Function.update w.my h (some o') ∧ es = pre ++ mid ++ post ∧
        OnStrings pre ∧ OnStrings post ∧ o.Act name params lib mid o'

variable {name : NativeName} {params : List Cell} {lib : Answers} {ok : MySQL → Prop} {h : Fin N}

theorem does_call {α : Type} {method : Method α}
    (hm : ∀ o a o' es, ok o → method o = .ok (a, o', es) → o.Act name params lib es o') :
    Ensures (call h method) (fun w _ w' es => Does name params lib ok h w w' es) := by
  intro w a w' es hcall o ho hconn
  obtain ⟨o₁, o', ho₁, hok, rfl⟩ := call_eq_ok.1 hcall
  obtain rfl : o = o₁ := Option.some.inj (ho.symm.trans ho₁)
  exact ⟨rfl, le_rfl, o', [], es, [], rfl, by simp, by simp [OnStrings], by simp [OnStrings],
    hm o a o' es hconn hok⟩

theorem does_reads {α : Type} {method : Method α} (hm : Stays MySQL.Reads method) :
    Ensures (call h method) (fun w _ w' es => Does name params lib ok h w w' es) :=
  does_call fun o a o' es _ hok => .read (hm o a o' es hok)

/-- What comes before the call on the object, and only handles strings, does not matter. -/
theorem strings_then {α β : Type} {m : Native N α} {f : α → Native N β}
    (hm : Stays World.Strings m)
    (hf : ∀ a, Ensures (f a) (fun w _ w' es => Does name params lib ok h w w' es)) :
    Ensures (m >>= f) (fun w _ w' es => Does name params lib ok h w w' es) := by
  intro w b w' es hok o ho hconn
  obtain ⟨a, w₁, es₁, es₂, h₁, h₂, rfl⟩ := bind_eq_ok.1 hok
  have hq := hm w a w₁ es₁ h₁
  obtain ⟨hpAmx, hcreated, o', pre, mid, post, hmy, rfl, hpre, hpost, hact⟩ :=
    hf a w₁ b w' es₂ h₂ o (by rw [hq.my]; exact ho) hconn
  refine ⟨hpAmx.trans hq.pAmx, hq.created.trans hcreated, o', es₁ ++ pre, mid, post,
    by rw [hmy, hq.my], by simp, fun e he => ?_, hpost, hact⟩
  exact (List.mem_append.1 he).elim (hq.events e) (hpre e)

/-- Nor does what comes after it. -/
theorem then_strings {α β : Type} {m : Native N α} {f : α → Native N β}
    (hm : Ensures m (fun w _ w' es => Does name params lib ok h w w' es))
    (hf : ∀ a, Stays World.Strings (f a)) :
    Ensures (m >>= f) (fun w _ w' es => Does name params lib ok h w w' es) := by
  intro w b w' es hok o ho hconn
  obtain ⟨a, w₁, es₁, es₂, h₁, h₂, rfl⟩ := bind_eq_ok.1 hok
  obtain ⟨hpAmx, hcreated, o', pre, mid, post, hmy, rfl, hpre, hpost, hact⟩ :=
    hm w a w₁ es₁ h₁ o ho hconn
  have hq := hf a w₁ b w' es₂ h₂
  refine ⟨hq.pAmx.trans hpAmx, hcreated.trans hq.created, o', pre, mid, post ++ es₂,
    by rw [hq.my, hmy], by simp, hpre, fun e he => ?_, hact⟩
  exact (List.mem_append.1 he).elim (hpost e) (hq.events e)

theorem read_bind {α : Type} {h : Fin N} {f : Option MySQL → Native N α} {w : World N} :
    (read h >>= f) w = f (w.my h) w :=
  bind_of_silent rfl

/-- The lookup of a handle yields a slot only for an index inside the table. -/
theorem slotOf_eq_ok {handle : Cell} {w w' : World N} {h : Fin N} {es : List Event} :
    slotOf handle w = .ok (h, w', es) ↔ handle = h ∧ w' = w ∧ es = [] := by
  unfold slotOf
  split
  · rename_i hin
    simp only [run_pure, Except.ok.injEq, Prod.mk.injEq]
    constructor
    · rintro ⟨rfl, rfl, rfl⟩
      exact ⟨(Int.toNat_of_nonneg hin.1).symm, rfl, rfl⟩
    · rintro ⟨rfl, rfl, rfl⟩
      exact ⟨Fin.ext (Int.toNat_natCast _), rfl, rfl⟩
  · rename_i hout
    simp only [run_fail, reduceCtorEq, false_iff]
    rintro ⟨rfl, -, -⟩
    exact hout ⟨Int.natCast_nonneg _, by rw [Int.toNat_natCast]; exact h.isLt⟩

/-- `CHECK_CONNECTION` reads a slot of the table and either reports the error on the object found
    there or runs the native. -/
theorem check_eq_ok {env : Env} {handle : Cell} {label : String} {rest : Fin N → Native N Cell}
    {w w' : World N} {a : Cell} {es : List Event}
    (hok : CHECK_CONNECTION env handle label rest w = .ok (a, w', es)) :
    ∃ (h : Fin N) (o : MySQL), handle = h ∧ w.my h = some o ∧
      ((isConnected (some o) = true ∧ rest h w = .ok (a, w', es)) ∨
        (isConnected (some o) = false ∧
          call h (MySQL.Error env (notConnected label) PluginError.P_ERROR_DBNOCONN.code) w =
            .ok (a, w', es))) := by
  obtain ⟨h, w₁, es₁, _, h₁, hcase, rfl⟩ := bind_eq_ok.1 hok
  obtain ⟨rfl, rfl, rfl⟩ := slotOf_eq_ok.1 h₁
  rw [read_bind] at hcase
  simp only [List.nil_append]
  cases hv : w₁.my h with
  | none =>
      simp only [hv, isConnected, Bool.false_eq_true, if_false] at hcase
      obtain ⟨o, _, ho, -, -⟩ := call_eq_ok.1 hcase
      simp [hv] at ho
  | some o =>
      refine ⟨h, o, rfl, hv, ?_⟩
      rw [hv] at hcase
      by_cases hconn : isConnected (some o) = true
      · rw [if_pos hconn] at hcase
        exact .inl ⟨hconn, hcase⟩
      · rw [if_neg hconn] at hcase
        exact .inr ⟨by simpa using hconn, hcase⟩

end Natives

/-! ## What a native does to the table -/

/-- Where an object comes from after one slot was assigned. -/
theorem object_of_update {N : ℕ} {my my' : Fin N → Option MySQL} {h k : Fin N} {v : Option MySQL}
    {o : MySQL} (hmy : my' = Function.update my k v) (ho : my' h = some o) :
    (h = k ∧ v = some o) ∨ (h ≠ k ∧ my h = some o) := by
  subst hmy
  by_cases hh : h = k
  · subst hh
    rw [Function.update_self] at ho
    exact .inl ⟨rfl, ho⟩
  · rw [Function.update_of_ne hh] at ho
    exact .inr ⟨hh, ho⟩

/-- What the call of a native can do to the table, and which native it takes. -/
inductive World.Change {N : ℕ} (name : NativeName) (params : List Cell) (lib : Answers)
    (w : World N) (es : List Event) (w' : World N) : Prop
  | none (hmy : w'.my = w.my) (hs : history es = [])
  | object (h : Fin N) (o o' : MySQL) (hh : name.handle params = some (h : ℤ))
      (ho : w.my h = some o) (hmy : w'.my = Function.update w.my h (some o'))
      (hc : o.Change name params lib es o')
  | opened (h : Fin N) (env : Env) (hn : name = .mysql_init) (hfree : freeSlot w.my = some h)
      (hcreated : w.created < w'.created) (log : ℤ) (print : Bool)
      (hmy : w'.my = Function.update w.my h
        (some ((MySQL.new env w.created h).initialised env.lib log print)))
      (hs : history es = [.opened w.created h])
  | closed (h : Fin N) (o : MySQL) (hn : name = .mysql_close)
      (hp : param params 0 = cellSize) (hh : name.handle params = some (h : ℤ)) (ho : w.my h = some o)
      (hconn : isConnected (some o) = true) (hmy : w'.my = Function.update w.my h none)
      (hs : history es = [.closed o.conn h o.queryQueue o.threadQueue])

/-- Only a threaded query accepts an entry, and it does not call the client library. -/
theorem World.Change.accepts {N : ℕ} {name : NativeName} {params : List Cell} {lib : Answers}
    {w w' : World N} {es : List Event} (h : w.Change name params lib es w') {c : ℕ} {q : QueryInfo}
    (hq : .accepted c q ∈ history es) :
    name.isQuery = true ∧ param params 2 ≠ -1 ∧ ∀ c f, Event.client c f ∉ es := by
  cases h with
  | none hmy hs => simp [hs] at hq
  | opened h env hn hfree hcreated log print hmy hs => simp [hs] at hq
  | closed h o hn hp hh ho hconn hmy hs => simp [hs] at hq
  | object h o o' hh ho hmy hc =>
      cases hc with
      | accepted q' hn hr hm hs hclient => exact ⟨hn, hr, hclient⟩
      | observed h => simp [h.silent] at hq
      | connected c hn hc hs => simp [hs] at hq
      | executed statement hn hr hs => simp [hs] at hq
      | stored hn hres hstate hs => simp [hs] at hq
      | freed hn hs => simp [hs] at hq

/-- What the call of a native can do to the table, with all its deeds, and which native it takes. -/
inductive World.Act {N : ℕ} (name : NativeName) (params : List Cell) (lib : Answers)
    (w : World N) (es : List Event) (w' : World N) : Prop
  | told (hmy : w'.my = w.my) (hp : Plain es)
  | object (h : Fin N) (o o' : MySQL) (hh : name.handle params = some (h : ℤ))
      (ho : w.my h = some o) (hmy : w'.my = Function.update w.my h (some o'))
      (pre mid post : List Event) (hes : es = pre ++ mid ++ post) (hpre : OnStrings pre)
      (hpost : OnStrings post) (ha : o.Act name params lib mid o')
  | opened (h : Fin N) (env : Env) (henv : env.lib = lib) (hn : name = .mysql_init)
      (hfree : freeSlot w.my = some h) (hcreated : w.created < w'.created) (log : ℤ) (print : Bool)
      (hmy : w'.my = Function.update w.my h
        (some ((MySQL.new env w.created h).initialised env.lib log print)))
      (es' : List Event) (hes : es = .opened w.created h :: es') (hp : Plain es')
  | closed (h : Fin N) (o : MySQL) (hn : name = .mysql_close)
      (hp : param params 0 = cellSize) (hh : name.handle params = some (h : ℤ)) (ho : w.my h = some o)
      (hconn : isConnected (some o) = true) (hmy : w'.my = Function.update w.my h none)
      (es' : List Event)
      (hes : es = .closed o.conn h o.queryQueue o.threadQueue :: (o.freedEvents ++ es'))
      (hes' : Plain es')

/-- An act is one of the changes the history tells. -/
theorem World.Act.change {N : ℕ} {name : NativeName} {params : List Cell} {lib : Answers}
    {w w' : World N} {es : List Event} (h : w.Act name params lib es w') :
    w.Change name params lib es w' := by
  cases h with
  | told hmy hp => exact .none hmy (history_of_plain hp)
  | object h o o' hh ho hmy pre mid post hes hpre hpost ha =>
      subst hes
      exact .object h o o' hh ho hmy
        (ha.change.pad hpre.history hpost.history hpre.noClient hpost.noClient)
  | opened h env henv hn hfree hcreated log print hmy es' hes hp =>
      refine .opened h env hn hfree hcreated log print hmy ?_
      rw [hes, history_cons, history_of_plain hp]
      rfl
  | closed h o hn hp hh ho hconn hmy es' hes hes' =>
      refine .closed h o hn hp hh ho hconn hmy ?_
      rw [hes, history_cons, history_append, MySQL.history_freedEvents, history_of_plain hes']
      rfl

namespace Natives

variable {N : ℕ}

/-- A native that ended well: the script list is unchanged, the allocations went on, and the table
    changed in one of the ways of `World.Change`. -/
structure Effect (name : NativeName) (params : List Cell) (lib : Answers) (w w' : World N)
    (es : List Event) : Prop where
  pAmx : w'.pAmx = w.pAmx
  created : w.created ≤ w'.created
  change : w.Change name params lib es w'

/-- The same with all the deeds: the table changed in one of the ways of `World.Act`. -/
structure Performed (name : NativeName) (params : List Cell) (lib : Answers) (w w' : World N)
    (es : List Event) : Prop where
  pAmx : w'.pAmx = w.pAmx
  created : w.created ≤ w'.created
  act : w.Act name params lib es w'

theorem Performed.effect {name : NativeName} {params : List Cell} {lib : Answers} {w w' : World N}
    {es : List Event} (h : Performed name params lib w w' es) : Effect name params lib w w' es :=
  ⟨h.pAmx, h.created, h.act.change⟩

/-- A call with the wrong number of parameters only prints. -/
theorem performs_CHECK_PARAMS {name : NativeName} {params : List Cell} {lib : Answers} {f : String}
    {n : ℕ} {r : Cell} {rest : Native N Cell}
    (hrest : ∀ w a w' es, param params 0 = n * cellSize → rest w = .ok (a, w', es) →
      Performed name params lib w w' es) :
    Ensures (CHECK_PARAMS params f n r rest)
      (fun w _ w' es => Performed name params lib w w' es) := by
  intro w a w' es hok
  unfold CHECK_PARAMS at hok
  by_cases hp : param params 0 = n * cellSize
  · rw [if_neg (not_not.2 hp)] at hok
    exact hrest w a w' es hp hok
  · rw [if_pos hp] at hok
    cases hok
    exact ⟨rfl, le_rfl, .told rfl (by simp [Plain, Event.isPlain])⟩

/-- The frame of the natives on a connection: what is left to show is what the native does once the
    connection is checked. -/
theorem performs_onConnection {env : Env} {name : NativeName} {params : List Cell}
    {f label : String} {n i : ℕ} {rest : Fin N → Native N Cell} (hi : name.handleAt = some i)
    (hrest : ∀ h : Fin N, Ensures (rest h) (fun w _ w' es => ∀ o, w.my h = some o →
      isConnected (some o) = true → param params 0 = n * cellSize →
      name.handle params = some (h : ℤ) → Performed name params env.lib w w' es)) :
    Ensures (CHECK_PARAMS params f n 0 (CHECK_CONNECTION env (param params i) label rest))
      (fun w _ w' es => Performed name params env.lib w w' es) := by
  refine performs_CHECK_PARAMS fun w a w' es hp hok => ?_
  obtain ⟨h, o, hh, ho, hcase⟩ := check_eq_ok hok
  have hhandle : name.handle params = some (h : ℤ) := by
    simp [NativeName.handle, hi, hh]
  rcases hcase with ⟨hconn, hrun⟩ | ⟨-, herr⟩
  · exact hrest h w a w' es hrun o ho hconn hp hhandle
  · obtain ⟨o₁, o', ho₁, hcall, rfl⟩ := call_eq_ok.1 herr
    have hreads := MySQL.reads_Error _ _ _ _ _ _ _ hcall
    exact ⟨rfl, le_rfl, .object h o₁ o' hhandle ho₁ rfl [] es [] (by simp) (by simp [OnStrings])
      (by simp [OnStrings]) (.read hreads)⟩

/-- The natives that only work on the object of their handle. -/
theorem performs_of_does {env : Env} {name : NativeName} {params : List Cell} {f label : String}
    {n i : ℕ} {rest : Fin N → Native N Cell} (hi : name.handleAt = some i)
    (hrest : ∀ h : Fin N, Ensures (rest h) (fun w _ w' es =>
      Does name params env.lib (fun o => isConnected (some o) = true) h w w' es)) :
    Ensures (CHECK_PARAMS params f n 0 (CHECK_CONNECTION env (param params i) label rest))
      (fun w _ w' es => Performed name params env.lib w w' es) := by
  refine performs_onConnection hi fun h w a w' es hrun o ho hconn _ hhandle => ?_
  obtain ⟨hpAmx, hcreated, o', pre, mid, post, hmy, hes, hpre, hpost, ha⟩ :=
    hrest h w a w' es hrun o ho hconn
  exact ⟨hpAmx, hcreated, .object h o o' hhandle ho hmy pre mid post hes hpre hpost ha⟩

/-! ## The natives one by one -/

variable (env : Env) (amx : Memory) (params : List Cell)

/-- A new object is put into a slot, and a member function is called on it. -/
theorem newMySQL_call_eq_ok {env : Env} {h : Fin N} {method : Method Cell} {w w' : World N} {a : Cell}
    {es : List Event}
    (hok : (do newMySQL env h; call h method : Native N Cell) w = .ok (a, w', es)) :
    ∃ o' es', method (MySQL.new env w.created h) = .ok (a, o', es') ∧
      w' = { w.set h (some o') with created := w.created + 1 } ∧
      es = .opened w.created h :: es' := by
  obtain ⟨_, w₁, _, es', hnew, hcall, rfl⟩ := bind_eq_ok.1 hok
  cases hnew
  obtain ⟨o, o', ho, hrun, rfl⟩ := call_eq_ok.1 hcall
  obtain rfl : MySQL.new env w.created h = o := by simpa [World.set] using ho
  refine ⟨o', es', hrun, ?_, rfl⟩
  simp only [World.set, Function.update_idem]

theorem performs_init :
    Ensures (n_mysql_init env params : Native N Cell)
      (fun w _ w' es => Performed .mysql_init params env.lib w w' es) := by
  refine performs_CHECK_PARAMS fun w a w' es _ hok => ?_
  rw [get_bind] at hok
  cases hfree : freeSlot w.my with
  | none =>
      rw [hfree] at hok
      cases hok
      exact ⟨rfl, le_rfl, .told rfl (by simp [Plain, Event.isPlain])⟩
  | some h =>
      rw [hfree] at hok
      obtain ⟨o', es', hinit, rfl, rfl⟩ := newMySQL_call_eq_ok hok
      obtain ⟨rfl, hes⟩ := MySQL.initialised_of_init env _ _ hinit
      exact ⟨rfl, Nat.le_succ _, .opened h env rfl rfl hfree (Nat.lt_succ_self _) (param params 1)
        (param params 2 ≠ 0) rfl es' rfl hes⟩

/-- `mysql_connect` needs an initialised slot, not a connected one. -/
theorem performs_connect :
    Ensures (n_mysql_connect env amx params : Native N Cell)
      (fun w _ w' es => Performed .mysql_connect params env.lib w w' es) := by
  refine performs_CHECK_PARAMS fun w a w' es _ hok => ?_
  obtain ⟨h, w₁, _, es₁, hslot, hbody, rfl⟩ := bind_eq_ok.1 hok
  obtain ⟨hh, rfl, rfl⟩ := slotOf_eq_ok.1 hslot
  rw [read_bind] at hbody
  simp only [List.nil_append]
  cases ho : w₁.my h with
  | none =>
      rw [ho] at hbody
      cases hbody
      exact ⟨rfl, le_rfl, .told rfl (by simp [Plain, Event.isPlain])⟩
  | some o =>
      rw [ho] at hbody
      have hdoes : Ensures (do
          let host ← GetString amx (param params 1)
          let user ← GetString amx (param params 2)
          let pass ← GetString amx (param params 3)
          let db ← GetString amx (param params 4)
          let result ← call h (MySQL.connect env user.text)
          Natives.safeDelete host
          Natives.safeDelete user
          Natives.safeDelete pass
          Natives.safeDelete db
          return result)
          (fun w _ w' es => Does .mysql_connect params env.lib (fun _ => True) h w w' es) := by
        refine strings_then (World.strings_GetString _ _) fun host => ?_
        refine strings_then (World.strings_GetString _ _) fun user => ?_
        refine strings_then (World.strings_GetString _ _) fun pass => ?_
        refine strings_then (World.strings_GetString _ _) fun db => ?_
        refine then_strings (does_call fun o a o' es _ hok => ?_) fun result => ?_
        · obtain ⟨rfl, es', hes, hes'⟩ := MySQL.reconnected_of_connect env _ hok
          exact .connected rfl es' hes hes'
        · have hc := World.Strings.composable (N := N)
          refine Stays.bind hc (World.strings_safeDelete _) fun _ => ?_
          refine Stays.bind hc (World.strings_safeDelete _) fun _ => ?_
          refine Stays.bind hc (World.strings_safeDelete _) fun _ => ?_
          exact Stays.bind hc (World.strings_safeDelete _) fun _ => World.strings_pure _
      obtain ⟨hpAmx, hcreated, o', pre, mid, post, hmy, hes, hpre, hpost, ha⟩ :=
        hdoes _ _ _ _ hbody o ho trivial
      exact ⟨hpAmx, hcreated, .object h o o'
        (by simp [NativeName.handle, NativeName.handleAt, hh]) ho hmy pre mid post hes hpre hpost ha⟩

theorem performs_close :
    Ensures (n_mysql_close env params : Native N Cell)
      (fun w _ w' es => Performed .mysql_close params env.lib w w' es) := by
  refine performs_onConnection rfl fun h w a w' es hok o ho hconn hparams hhandle => ?_
  obtain ⟨_, w₁, es₁, _, hdel, hret, rfl⟩ := bind_eq_ok.1 hok
  cases hret
  rw [deleteMySQL, read_bind, ho] at hdel
  obtain ⟨es₃, hcall, rfl⟩ := emit_bind_eq_ok.1 hdel
  obtain ⟨_, w₄, es₄, _, hdel2, hset, rfl⟩ := bind_eq_ok.1 hcall
  cases hset
  obtain ⟨o₁, o', ho₁, hdelete, rfl⟩ := call_eq_ok.1 hdel2
  obtain rfl : o = o₁ := Option.some.inj (ho.symm.trans ho₁)
  have hconn' : o.connected = true := by
    simp only [isConnected, Bool.and_eq_true] at hconn
    exact hconn.2
  obtain ⟨es', rfl, hes'⟩ := MySQL.freed_of_delete hconn' hdelete
  refine ⟨rfl, le_rfl, .closed h o rfl (by simpa using hparams) hhandle ho hconn ?_ es' ?_ hes'⟩
  · simp only [World.set, Function.update_idem]
  · simp only [List.append_nil]

theorem isSome_of_isConnected {o : MySQL} (h : isConnected (some o) = true) :
    o.mysql.isSome := by
  simp only [isConnected, Bool.and_eq_true] at h
  exact h.1

theorem performs_query :
    Ensures (n_mysql_query env amx params : Native N Cell)
      (fun w _ w' es => Performed .mysql_query params env.lib w w' es) := by
  refine performs_of_does rfl fun h => strings_then (World.strings_GetString _ _) fun q => ?_
  refine does_call fun o a o' es hconn hok => ?_
  by_cases hr : param params 2 = -1
  · rw [hr] at hok
    obtain ⟨rfl, hs, hd⟩ := MySQL.executed_of_query_sync env q _ hok
    exact .executed q rfl hr hs hd
  · rw [MySQL.run_query_threaded env q _ _ hr] at hok
    cases hok
    exact .accepted _ rfl hr (isSome_of_isConnected hconn) rfl

theorem performs_query_array :
    Ensures (n_mysql_query_array env amx params : Native N Cell)
      (fun w _ w' es => Performed .mysql_query_array params env.lib w w' es) := by
  refine performs_of_does rfl fun h => strings_then (World.strings_GetString _ _) fun q => ?_
  refine strings_then (World.strings_GetString _ _) fun extra => ?_
  refine does_call fun o a o' es hconn hok => ?_
  by_cases hr : param params 2 = -1
  · rw [hr] at hok
    obtain ⟨rfl, hs, hd⟩ := MySQL.executed_of_query_array_sync env q _ hok
    exact .executed q rfl hr hs hd
  · rw [MySQL.run_query_array_threaded env q _ _ hr] at hok
    cases hok
    exact .accepted _ rfl hr (isSome_of_isConnected hconn) rfl

theorem performs_store_result :
    Ensures (n_mysql_store_result env params : Native N Cell)
      (fun w _ w' es => Performed .mysql_store_result params env.lib w w' es) := by
  refine performs_of_does rfl fun h => does_call fun o a o' es _ hok => ?_
  obtain hidle | ⟨hres, hstate, rfl, hs, hd⟩ := MySQL.store_result_cases env hok
  · exact .read hidle.reads
  · exact .stored rfl hres hstate hs hd

theorem performs_free_result :
    Ensures (n_mysql_free_result env params : Native N Cell)
      (fun w _ w' es => Performed .mysql_free_result params env.lib w w' es) := by
  refine performs_of_does rfl fun h => does_call fun o a o' es _ hok => ?_
  obtain ⟨rfl, hs, hd⟩ := MySQL.freed_of_free_result hok
  exact .freed rfl hs hd

/-- The natives that only call one member function, which only moves through the result set. -/
theorem performs_callOnly {name : NativeName} {label : String} {method : Method ℤ}
    (hi : name.handleAt = some 1) (hm : Stays MySQL.Reads method) :
    Ensures (callOnly env params label method : Native N Cell)
      (fun w _ w' es => Performed name params env.lib w w' es) :=
  performs_of_does hi fun _ => does_reads hm

/-- The natives that hand a string of the library to the script. -/
theorem performs_tellString {name : NativeName} {label : String} {method : Method (Option String)}
    (hi : name.handleAt = some 2) (hm : Stays MySQL.Reads method) :
    Ensures (tellString env params label method : Native N Cell)
      (fun w _ w' es => Performed name params env.lib w w' es) :=
  performs_of_does hi fun _ => then_strings (does_reads hm) fun _ =>
    Stays.bind World.Strings.composable (World.strings_SetString _ _) fun _ => World.strings_pure _

theorem performs_fetch_field :
    Ensures (n_mysql_fetch_field env amx params : Native N Cell)
      (fun w _ w' es => Performed .mysql_fetch_field params env.lib w w' es) := by
  refine performs_of_does rfl fun h => strings_then (World.strings_GetString _ _) fun fieldname => ?_
  refine then_strings (does_reads (MySQL.reads_fetch_field _ _)) fun field => ?_
  exact Stays.bind World.Strings.composable (World.strings_safeDelete _) fun _ =>
    World.strings_giveString _ _

theorem performs_fetch_field_num :
    Ensures (n_mysql_fetch_field_num env params : Native N Cell)
      (fun w _ w' es => Performed .mysql_fetch_field_num params env.lib w w' es) :=
  performs_of_does rfl fun _ => then_strings (does_reads (MySQL.reads_fetch_field_num _ _))
    fun _ => World.strings_giveString _ _

theorem performs_fetch_row :
    Ensures (n_mysql_fetch_row env amx params : Native N Cell)
      (fun w _ w' es => Performed .mysql_fetch_row params env.lib w w' es) := by
  have hc := World.Strings.composable (N := N)
  refine performs_of_does rfl fun h => strings_then (World.strings_GetString _ _) fun splitter => ?_
  refine then_strings (does_reads (MySQL.reads_fetch_row _ _)) fun row => ?_
  cases row with
  | none => exact World.strings_pure 0
  | some text =>
      refine Stays.bind hc (World.strings_newString text) fun row => ?_
      refine Stays.bind hc (World.strings_SetString _ _) fun _ => ?_
      exact Stays.bind hc (World.strings_safeDelete _) fun _ => World.strings_pure 1

theorem performs_real_escape_string :
    Ensures (n_mysql_real_escape_string env amx params : Native N Cell)
      (fun w _ w' es => Performed .mysql_real_escape_string params env.lib w w' es) := by
  have hc := World.Strings.composable (N := N)
  refine performs_of_does rfl fun h => strings_then (World.strings_GetString _ _) fun input => ?_
  refine then_strings (does_reads (MySQL.reads_real_escape_string _ _)) fun text => ?_
  refine Stays.bind hc (World.strings_newString text) fun out => ?_
  refine Stays.bind hc (World.strings_safeDelete _) fun _ => ?_
  refine Stays.bind hc (World.strings_SetString _ _) fun _ => ?_
  exact Stays.bind hc (World.strings_safeDelete _) fun _ => World.strings_pure 1

theorem performs_fetch_string :
    Ensures (n_mysql_fetch_string env params : Native N Cell)
      (fun w _ w' es => Performed .mysql_fetch_string params env.lib w w' es) :=
  performs_of_does rfl fun _ => then_strings
    (does_reads (MySQL.reads_fetchFirst _ _ _ _ _ _)) fun _ => World.strings_giveString _ _

theorem performs_refresh :
    Ensures (n_mysql_refresh env params : Native N Cell)
      (fun w _ w' es => Performed .mysql_refresh params env.lib w w' es) :=
  performs_of_does rfl fun _ => does_reads (MySQL.reads_refresh _ _)

theorem performs_select_db :
    Ensures (n_mysql_select_db env amx params : Native N Cell)
      (fun w _ w' es => Performed .mysql_select_db params env.lib w w' es) :=
  performs_of_does rfl fun _ => strings_then (World.strings_GetString _ _) fun _ =>
    then_strings (does_reads (MySQL.reads_select_db _ _)) fun _ =>
      Stays.bind World.Strings.composable (World.strings_safeDelete _) fun _ => World.strings_pure _

theorem performs_data_seek :
    Ensures (n_mysql_data_seek env params : Native N Cell)
      (fun w _ w' es => Performed .mysql_data_seek params env.lib w w' es) :=
  performs_of_does rfl fun _ => does_reads (MySQL.reads_data_seek _ _)

theorem performs_set_character_set :
    Ensures (n_mysql_set_character_set env amx params : Native N Cell)
      (fun w _ w' es => Performed .mysql_set_character_set params env.lib w w' es) :=
  performs_of_does rfl fun _ => strings_then (World.strings_GetString _ _) fun _ =>
    then_strings (does_reads (MySQL.reads_askNumber rfl _)) fun _ =>
      Stays.bind World.Strings.composable (World.strings_safeDelete _) fun _ => World.strings_pure _

/-- **Every native, in one statement.** A native that ends without a fault has changed the table in
    one of the ways of `World.Act`. -/
theorem performs_function (name : NativeName) :
    Ensures (name.function env amx params : Native N Cell)
      (fun w _ w' es => Performed name params env.lib w w' es) := by
  cases name with
  | mysql_init => exact performs_init env params
  | mysql_connect => exact performs_connect env amx params
  | mysql_close => exact performs_close env params
  | mysql_refresh => exact performs_refresh env params
  | mysql_select_db => exact performs_select_db env amx params
  | mysql_query => exact performs_query env amx params
  | mysql_query_array => exact performs_query_array env amx params
  | mysql_store_result => exact performs_store_result env params
  | mysql_free_result => exact performs_free_result env params
  | mysql_result_stored => exact performs_callOnly env params rfl MySQL.reads_result_stored
  | mysql_fetch_field => exact performs_fetch_field env amx params
  | mysql_fetch_field_num => exact performs_fetch_field_num env params
  | mysql_fetch_row => exact performs_fetch_row env amx params
  | mysql_fetch_row_data => exact performs_callOnly env params rfl (MySQL.reads_fetch_row_data env)
  | mysql_real_escape_string => exact performs_real_escape_string env amx params
  | mysql_num_rows => exact performs_callOnly env params rfl (MySQL.reads_askResult env _ _)
  | mysql_num_fields => exact performs_callOnly env params rfl (MySQL.reads_askResult env _ _)
  | mysql_affected_rows => exact performs_callOnly env params rfl (MySQL.reads_askNumber rfl _)
  | mysql_insert_id => exact performs_callOnly env params rfl (MySQL.reads_askNumber rfl _)
  | mysql_ping => exact performs_callOnly env params rfl (MySQL.reads_askNumber rfl _)
  | mysql_error => exact performs_tellString env params rfl (MySQL.reads_askText rfl _ _)
  | mysql_errno => exact performs_callOnly env params rfl (MySQL.reads_askNumber rfl _)
  | mysql_warning_count => exact performs_callOnly env params rfl (MySQL.reads_askNumber rfl _)
  | mysql_info => exact performs_tellString env params rfl (MySQL.reads_askText rfl _ _)
  | mysql_stat => exact performs_tellString env params rfl (MySQL.reads_askText rfl _ _)
  | mysql_get_server_info => exact performs_tellString env params rfl (MySQL.reads_askText rfl _ _)
  | mysql_get_host_info => exact performs_tellString env params rfl (MySQL.reads_askText rfl _ _)
  | mysql_data_seek => exact performs_data_seek env params
  | mysql_set_character_set => exact performs_set_character_set env amx params
  | mysql_get_character_set => exact performs_tellString env params rfl (MySQL.reads_askText rfl _ _)
  | mysql_fetch_int =>
      exact performs_callOnly env params rfl (MySQL.reads_fetchFirst env _ _ _ _ _)
  | mysql_fetch_float =>
      exact performs_callOnly env params rfl (MySQL.reads_fetchFirst env _ _ _ _ _)
  | mysql_fetch_string => exact performs_fetch_string env params

/-- In the terms of the history: the table has changed in one of the ways of `World.Change`. -/
theorem effect_function (name : NativeName) :
    Ensures (name.function env amx params : Native N Cell)
      (fun w _ w' es => Effect name params env.lib w w' es) :=
  Ensures.mono (performs_function env amx params name) fun _ _ _ _ => Performed.effect

end Natives
end MysqlPlugin
