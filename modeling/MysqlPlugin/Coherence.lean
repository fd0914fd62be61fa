import MysqlPlugin.Effect
import MysqlPlugin.Lib.Machine

set_option autoImplicit false

/-! # The current row and the stored result set

`fetch_field` and `fetch_field_num` read from the member `row` whenever it is not `NULL`. Here an
object is followed through any sequence of calls of its member functions (`object`), to see when that
row is one of the result set stored by then (`MySQL.Coherent`). `free_result` and `close` clear the
row along with the result set; `query` and `query_array` do not, and the constructor leaves the row
as it finds it. These are the only ways to lose coherence (`MySQL.coherent_throughout_iff`). -/

namespace MysqlPlugin

open Prog

/-- The calls an object goes through once it is constructed and initialised. -/
inductive MemberCall
  | connect (user : String)
  | close
  | query (query : CharPtr) (resultid extra : Cell)
  | query_array (query : CharPtr) (resultid : Cell) (extra : CharPtr)
  | store_result
  | free_result
  | fetch_field (fieldname : String)
  | fetch_field_num (fieldnum : Cell)
  | fetch_row (splitter : String)
  | fetch_row_data
  | fetch_int
  | fetch_float
  | fetch_string
  | data_seek (row : Cell)
  deriving DecidableEq, Repr

namespace MemberCall

/-- A member function called for its effect. -/
def ignore {α : Type} (m : Method α) : Method Unit := do
  let _ ← m
  return ()

/-- The member function behind a call. -/
def method (env : Env) : MemberCall → Method Unit
  | .connect user => ignore (MySQL.connect env user)
  | .close => MySQL.close
  | .query q resultid extra => ignore (MySQL.query env q resultid extra)
  | .query_array q resultid extra => ignore (MySQL.query_array env q resultid extra)
  | .store_result => ignore (MySQL.store_result env)
  | .free_result => ignore (MySQL.free_result)
  | .fetch_field fieldname => ignore (MySQL.fetch_field env fieldname)
  | .fetch_field_num fieldnum => ignore (MySQL.fetch_field_num env fieldnum)
  | .fetch_row splitter => ignore (MySQL.fetch_row env splitter)
  | .fetch_row_data => ignore (MySQL.fetch_row_data env)
  | .fetch_int => ignore (MySQL.fetch_int env)
  | .fetch_float => ignore (MySQL.fetch_float env)
  | .fetch_string => ignore (MySQL.fetch_string env)
  | .data_seek row => ignore (MySQL.data_seek env row)

/-- A call of `query` or `query_array`, synchronous or threaded. -/
def isQuery : MemberCall → Bool
  | .query .. | .query_array .. => true
  | _ => false

end MemberCall

/-- One object, and the calls of its member functions with what the client library answers. -/
def object (o : MySQL) : Machine MySQL (Env × MemberCall) Event Fault where
  init := o
  step o call :=
    match call.2.method call.1 o with
    | .error f => .fault f
    | .ok (_, o', es) => .next o' es

namespace MySQL

/-! ## What a call does to the row and the result set -/

/-- A query leaves the row where it is and stores nothing. -/
theorem query_drops {env : Env} {q : CharPtr} {resultid extra : Cell} {o o' : MySQL} {a : ℤ}
    {es : List Event} (h : query env q resultid extra o = .ok (a, o', es)) :
    o'.row = o.row ∧ o'.result = none := by
  by_cases hr : resultid = -1
  · subst hr
    obtain ⟨rfl, -⟩ := executed_of_query_sync env q extra h
    exact ⟨rfl, rfl⟩
  · rw [run_query_threaded env q resultid extra hr] at h
    cases h
    exact ⟨rfl, rfl⟩

theorem query_array_drops {env : Env} {q extra : CharPtr} {resultid : Cell} {o o' : MySQL} {a : ℤ}
    {es : List Event} (h : query_array env q resultid extra o = .ok (a, o', es)) :
    o'.row = o.row ∧ o'.result = none := by
  by_cases hr : resultid = -1
  · subst hr
    obtain ⟨rfl, -⟩ := executed_of_query_array_sync env q extra h
    exact ⟨rfl, rfl⟩
  · rw [run_query_array_threaded env q extra resultid hr] at h
    cases h
    exact ⟨rfl, rfl⟩

/-- On a connection the two query functions never fault. -/
theorem query_ok (env : Env) (q : CharPtr) (resultid extra : Cell) {o : MySQL}
    (hm : o.mysql.isSome) : ∃ a o' es, query env q resultid extra o = .ok (a, o', es) := by
  by_cases hr : resultid = -1
  · subst hr
    exact sync_ok env q (fun _ => Safe.ite (safe_Error _ _ _) (Safe.pure _)) hm
  · exact ⟨_, _, _, run_query_threaded env q resultid extra hr o⟩

theorem query_array_ok (env : Env) (q extra : CharPtr) (resultid : Cell) {o : MySQL}
    (hm : o.mysql.isSome) : ∃ a o' es, query_array env q resultid extra o = .ok (a, o', es) := by
  by_cases hr : resultid = -1
  · subst hr
    exact sync_ok env q (fun _ => Safe.ite (safe_Error _ _ _) (Safe.pure _)) hm
  · exact ⟨_, _, _, run_query_array_threaded env q extra resultid hr o⟩

end MySQL

/-- What a call does to the row and the result set. -/
inductive MemberCall.Moves (c : MemberCall) (lib : Answers) (o : MySQL) : MySQL → Prop
  | read {o' : MySQL} {es : List Event} (h : o.Reads o' es) : Moves c lib o o'
  | connected (b : Bool) : Moves c lib o (o.reconnected b)
  | cleared {o' : MySQL} (hrow : o'.row = none) (hres : o'.result = none) : Moves c lib o o'
  | dropped {o' : MySQL} (hq : c.isQuery = true) (hrow : o'.row = o.row) (hres : o'.result = none) :
      Moves c lib o o'
  | stored (hres : o.result = none) : Moves c lib o (o.storing lib)

theorem MemberCall.run_of_ignore {α : Type} {m : Method α} {o o' : MySQL} {a : Unit}
    {es : List Event} (h : ignore m o = .ok (a, o', es)) : ∃ r, m o = .ok (r, o', es) := by
  obtain ⟨r, o₁, es₁, _, hm, ⟨⟩, rfl⟩ := bind_eq_ok.1 h
  exact ⟨r, by simpa using hm⟩

theorem MemberCall.ignore_of_run {α : Type} {m : Method α} {o o' : MySQL} {r : α} {es : List Event}
    (h : m o = .ok (r, o', es)) : ignore m o = .ok ((), o', es) := by
  rw [ignore, bind_of_ok h]
  simp [Except.map]

theorem MemberCall.moves {c : MemberCall} {env : Env} {o o' : MySQL} {a : Unit} {es : List Event}
    (h : c.method env o = .ok (a, o', es)) : c.Moves env.lib o o' := by
  cases c with
  | connect user =>
      obtain ⟨r, hrun⟩ := run_of_ignore h
      obtain ⟨rfl, -⟩ := MySQL.reconnected_of_connect env user hrun
      exact .connected _
  | close =>
      obtain ⟨rfl, -⟩ := MySQL.emptied_of_close h
      exact .cleared rfl rfl
  | query q resultid extra =>
      obtain ⟨r, hrun⟩ := run_of_ignore h
      obtain ⟨hrow, hres⟩ := MySQL.query_drops hrun
      exact .dropped rfl hrow hres
  | query_array q resultid extra =>
      obtain ⟨r, hrun⟩ := run_of_ignore h
      obtain ⟨hrow, hres⟩ := MySQL.query_array_drops hrun
      exact .dropped rfl hrow hres
  | store_result =>
      obtain ⟨r, hrun⟩ := run_of_ignore h
      obtain hidle | ⟨hres, -, rfl, -⟩ := MySQL.store_result_cases env hrun
      · exact .read hidle.reads
      · exact .stored hres
  | free_result =>
      obtain ⟨r, hrun⟩ := run_of_ignore h
      obtain ⟨rfl, -⟩ := MySQL.freed_of_free_result hrun
      exact .cleared rfl rfl
  | fetch_field fieldname =>
      obtain ⟨r, hrun⟩ := run_of_ignore h
      exact .read (MySQL.reads_fetch_field env fieldname _ _ _ _ hrun)
  | fetch_field_num fieldnum =>
      obtain ⟨r, hrun⟩ := run_of_ignore h
      exact .read (MySQL.reads_fetch_field_num env fieldnum _ _ _ _ hrun)
  | fetch_row splitter =>
      obtain ⟨r, hrun⟩ := run_of_ignore h
      exact .read (MySQL.reads_fetch_row env splitter _ _ _ _ hrun)
  | fetch_row_data =>
      obtain ⟨r, hrun⟩ := run_of_ignore h
      exact .read (MySQL.reads_fetch_row_data env _ _ _ _ hrun)
  | fetch_int | fetch_float | fetch_string =>
      obtain ⟨r, hrun⟩ := run_of_ignore h
      exact .read (MySQL.reads_fetchFirst env _ _ _ _ _ _ _ _ _ hrun)
  | data_seek row =>
      obtain ⟨r, hrun⟩ := run_of_ignore h
      exact .read (MySQL.reads_data_seek env row _ _ _ _ hrun)

theorem moves_of_step {start o o' : MySQL} {call : Env × MemberCall} {es : List Event}
    (hstep : (object start).step o call = .next o' es) : call.2.Moves call.1.lib o o' := by
  simp only [object] at hstep
  cases hok : call.2.method call.1 o with
  | error f => simp [hok] at hstep
  | ok r =>
      rw [hok] at hstep
      cases hstep
      exact MemberCall.moves hok

namespace MySQL

/-! ## Coherence -/

/-- A result set is stored only on a connection. -/
def Backed (o : MySQL) : Prop := o.result.isSome → o.mysql.isSome

theorem Reads.result_isSome {o o' : MySQL} {es : List Event} (h : Reads o o' es) :
    o'.result.isSome = o.result.isSome := by
  simpa using congrArg Option.isSome h.result

theorem backed_of_moves {c : MemberCall} {lib : Answers} {o o' : MySQL} (h : c.Moves lib o o')
    (hb : o.Backed) : o'.Backed := by
  unfold Backed at *
  cases h with
  | read h =>
      rw [h.result_isSome, h.same]
      exact hb
  | connected b => simpa [reconnected] using hb
  | cleared hrow hres => simp [hres]
  | dropped hq hrow hres => simp [hres]
  | stored hres =>
      intro hsome
      cases hm : o.mysql with
      | none => simp [storing, hm] at hsome
      | some c => simp [storing, hm]

/-- Every call keeps coherence, except a query while a row is cached. -/
theorem coherent_of_moves {c : MemberCall} {lib : Answers} {o o' : MySQL} (h : c.Moves lib o o')
    (hc : o.Coherent) (hrow : c.isQuery = true → o.row = none) : o'.Coherent := by
  cases h with
  | read h => exact h.coherent hc
  | connected b => exact hc
  | cleared hrow' hres =>
      intro row hr
      simp [hrow'] at hr
  | dropped hq hrow' hres =>
      intro row hr
      simp [hrow', hrow hq] at hr
  | stored hres =>
      intro row hr
      obtain ⟨res, hres', -⟩ := hc row hr
      simp [hres] at hres'

/-- A query while a row is cached loses it. -/
theorem not_coherent_of_query {o o' : MySQL} (hrow : o'.row = o.row) (hres : o'.result = none)
    (hcached : o.row ≠ none) : ¬ o'.Coherent := by
  intro hc
  obtain ⟨row, hr⟩ := Option.ne_none_iff_exists'.1 hcached
  obtain ⟨res, hres', -⟩ := hc row (hrow.trans hr)
  simp [hres] at hres'

/-- The discipline that keeps an object coherent: no query while a row is cached. -/
def NoRowCached (o : MySQL) (call : Env × MemberCall) : Prop :=
  call.2.isQuery = true → o.row = none

instance (o : MySQL) (call : Env × MemberCall) : Decidable (NoRowCached o call) :=
  inferInstanceAs (Decidable (_ → _))

/-- A query while a row is cached leaves an object that is not coherent. -/
theorem breaks_of_query (env : Env) {c : MemberCall} {o : MySQL} (hb : o.Backed) (hc : o.Coherent)
    (hq : c.isQuery = true) (hcached : o.row ≠ none) :
    ∃ a o' es, c.method env o = .ok (a, o', es) ∧ ¬ o'.Coherent := by
  obtain ⟨row, hrow⟩ := Option.ne_none_iff_exists'.1 hcached
  obtain ⟨res, hres, -⟩ := hc row hrow
  have hm : o.mysql.isSome := hb (by simp [hres])
  cases c with
  | query q resultid extra =>
      obtain ⟨a, o', es, hok⟩ := query_ok env q resultid extra hm
      obtain ⟨hrow', hres'⟩ := query_drops hok
      exact ⟨_, o', _, MemberCall.ignore_of_run hok, not_coherent_of_query hrow' hres' hcached⟩
  | query_array q resultid extra =>
      obtain ⟨a, o', es, hok⟩ := query_array_ok env q extra resultid hm
      obtain ⟨hrow', hres'⟩ := query_array_drops hok
      exact ⟨_, o', _, MemberCall.ignore_of_run hok, not_coherent_of_query hrow' hres' hcached⟩
  | _ => simp [MemberCall.isQuery] at hq

/-- The value is in a row of the result set stored now. -/
def Offers (o : MySQL) (value : String) : Prop :=
  ∃ res, o.result = some res ∧ ∃ cells ∈ res.set.rows, some value ∈ cells

theorem offers_of_holds {o : MySQL} {res : MYSQL_RES} {row : MYSQL_ROW} {value : String}
    (hres : o.result = some res) (hrow : res.Holds row) (hv : some value ∈ row.cells) :
    o.Offers value :=
  ⟨res, hres, row.cells, List.mem_of_getElem? hrow.2, hv⟩

/-- The row a field is read from is one of the stored result set. -/
theorem holds_of_currentRow {o o' : MySQL} {res : MYSQL_RES} {row : MYSQL_ROW} {es : List Event}
    (hc : o.Coherent) (hres : o.result = some res)
    (h : currentRow res o = .ok (some row, o', es)) : res.Holds row := by
  rw [currentRow, get_bind] at h
  cases hrow : o.row with
  | some cached =>
      rw [hrow] at h
      cases h
      obtain ⟨res', hres', hholds⟩ := hc _ hrow
      obtain rfl : res = res' := Option.some.inj (hres.symm.trans hres')
      exact hholds
  | none =>
      rw [hrow, fetchRow] at h
      obtain ⟨_, o₁, es₁, es₂, -, hret, -⟩ := bind_eq_ok.1 h
      simp only [run_pure, Except.ok.injEq, Prod.mk.injEq] at hret
      exact MYSQL_RES.holds_of_fetchRow hret.1

theorem mem_of_rowCell {o o' : MySQL} {row : MYSQL_ROW} {i : ℤ} {cell : Option String}
    {es : List Event} (h : rowCell row i o = .ok (cell, o', es)) : cell ∈ row.cells :=
  List.mem_of_getElem? (rowCell_eq_ok h).2

theorem mem_of_findField {env : Env} {fieldname value : String} {res : MYSQL_RES} {row : MYSQL_ROW}
    {i : ℕ} {names : List String} {o o' : MySQL} {es : List Event}
    (h : findField env fieldname res row i names o = .ok (some value, o', es)) :
    some value ∈ row.cells := by
  induction names generalizing i o es with
  | nil =>
      obtain ⟨_, _, _, _, -, hret, -⟩ := bind_eq_ok.1 h
      cases hret
  | cons name names ih =>
      obtain ⟨_, o₁, es₁, es₂, -, hbody, -⟩ := bind_eq_ok.1 h
      by_cases hname : fieldname = name
      · rw [if_pos hname] at hbody
        obtain ⟨cell, o₂, es₃, es₄, hcell, hret, -⟩ := bind_eq_ok.1 hbody
        cases cell with
        | none =>
            obtain ⟨_, _, _, _, -, hret, -⟩ := bind_eq_ok.1 hret
            cases hret
        | some cell =>
            cases hret
            exact mem_of_rowCell hcell
      · rw [if_neg hname] at hbody
        exact ih hbody

/-- What `fetch_field` returns is in the result set stored now. -/
theorem offers_of_fetch_field {env : Env} {fieldname value : String} {o o' : MySQL}
    {es : List Event} (hc : o.Coherent)
    (h : fetch_field env fieldname o = .ok (some value, o', es)) : o.Offers value := by
  obtain ⟨-, hnone⟩ | ⟨res, hres, hwork⟩ := onResult_eq_ok h
  · cases hnone
  · obtain ⟨_, es₁, es₂, hrest, -, -⟩ := idle_then (idle_logAll _) hwork
    obtain ⟨row, o₂, es₃, es₄, hrow, hfind, -⟩ := bind_eq_ok.1 hrest
    cases row with
    | none => cases hfind
    | some row =>
        exact offers_of_holds hres (holds_of_currentRow hc hres hrow) (mem_of_findField hfind)

/-- And so is what `fetch_field_num` returns. -/
theorem offers_of_fetch_field_num {env : Env} {fieldnum : Cell} {value : String} {o o' : MySQL}
    {es : List Event} (hc : o.Coherent)
    (h : fetch_field_num env fieldnum o = .ok (some value, o', es)) : o.Offers value := by
  obtain ⟨-, hnone⟩ | ⟨res, hres, hwork⟩ := onResult_eq_ok h
  · cases hnone
  · obtain ⟨_, es₁, es₂, hrest, -, -⟩ := idle_then (idle_logAll _) hwork
    obtain ⟨row, o₂, es₃, es₄, hrow, hcell, -⟩ := bind_eq_ok.1 hrest
    cases row with
    | none =>
        obtain ⟨_, _, _, _, -, hret, -⟩ := bind_eq_ok.1 hcell
        cases hret
    | some row =>
        exact offers_of_holds hres (holds_of_currentRow hc hres hrow) (mem_of_rowCell hcell)

/-- **Row coherence, exactly.** From construction (with whatever the uninitialised members contain)
    through any sequence of calls, the row is always `NULL` or one of the stored result set if and
    only if it happens to be `NULL` at first and no query is made while a row is cached; and in
    every state where it is, the values the two field functions return are in the result set stored
    then. -/
theorem coherent_throughout_iff (env : Env) (conn id : ℕ) (lib : Answers) (log : ℤ) (print : Bool)
    (calls : List (Env × MemberCall)) :
    ((object ((new env conn id).initialised lib log print)).Throughout Coherent calls
        ((new env conn id).initialised lib log print) ↔
      env.lib.junkRow = none ∧
        (object ((new env conn id).initialised lib log print)).Obeys NoRowCached calls
          ((new env conn id).initialised lib log print)) ∧
    ∀ o : MySQL, o.Coherent → ∀ (env : Env) (value : String) (o' : MySQL) (es : List Event),
      (∀ fieldname, fetch_field env fieldname o = .ok (some value, o', es) → o.Offers value) ∧
      (∀ fieldnum, fetch_field_num env fieldnum o = .ok (some value, o', es) → o.Offers value) := by
  refine ⟨?_, fun o hc env value o' es =>
    ⟨fun _ h => offers_of_fetch_field hc h, fun _ h => offers_of_fetch_field_num hc h⟩⟩
  have hfirst : ((new env conn id).initialised lib log print).Coherent ↔ env.lib.junkRow = none := by
    simp [Coherent, initialised, new, Option.eq_none_iff_forall_ne_some]
  rw [← hfirst]
  refine Machine.throughout_iff_obeys (J := Backed) ?_ ?_ ?_ (by simp [Backed, initialised, new])
  · intro o call o' es hb hstep
    exact backed_of_moves (moves_of_step hstep) hb
  · intro o call o' es _ hc hP hstep
    exact coherent_of_moves (moves_of_step hstep) hc hP
  · intro o call hb hc hP
    obtain ⟨hq, hcached⟩ := Classical.not_imp.1 hP
    obtain ⟨a, o', es, hok, hbroken⟩ := breaks_of_query call.1 hb hc hq hcached
    exact ⟨o', es, by simp [object, hok], hbroken⟩

/-! ## A query in the middle of reading -/

namespace Stale

/-- A server that answers with one row of one column `a`. -/
def answering (value : String) : Env := ⟨{ rows := some ⟨["a"], [[some value]]⟩ }, []⟩

/-- A script reads a row of the first result set, and then stores that of a second query. -/
def calls : List (Env × MemberCall) :=
  [(⟨{}, []⟩, .connect "S"), (answering "x", .query ⟨0, "S"⟩ (-1) 0), (⟨{}, []⟩, .store_result),
    (⟨{}, []⟩, .fetch_row_data), (answering "y", .query ⟨1, "T"⟩ (-1) 0), (⟨{}, []⟩, .store_result)]

def fresh : MySQL := (new ⟨{}, []⟩ 0 0).initialised {} 0 false

/-- With `mysql_free_result` before the second query, every state is coherent. -/
theorem coherent_when_freed :
    (object fresh).Throughout Coherent (calls.insertIdx 4 (⟨{}, []⟩, .free_result)) fresh :=
  (coherent_throughout_iff ⟨{}, []⟩ 0 0 {} 0 false _).1.2
    ⟨rfl, Machine.obeys_of_check (p := fun o call => decide (NoRowCached o call)) rfl
      fun _ _ h => of_decide_eq_true h⟩

/-- Where that leads: the second result set is stored, the row is one of the first. -/
def after : MySQL :=
  { fresh with
    mysql := some ⟨some "T", none, 2⟩
    result := some ⟨1, ⟨["a"], [[some "y"]]⟩, 0⟩
    row := some ⟨0, 0, [some "x"]⟩
    connected := true
    state := 0 }

/-- The row is not one of the stored result set, and `fetch_field` returns its value. -/
theorem stale_row_is_read :
    ((object fresh).exec calls fresh).map Prod.fst = some after ∧ ¬ after.Coherent ∧
      ¬ after.Offers "x" ∧
      (fetch_field ⟨{}, []⟩ "a" after).map Prod.fst = .ok (some "x") := by
  refine ⟨rfl, fun hc => ?_, ?_, rfl⟩
  · obtain ⟨res, hres, hnumber, -⟩ := hc _ rfl
    cases hres
    exact absurd hnumber (by decide)
  · rintro ⟨res, hres, cells, hcells, hv⟩
    cases hres
    obtain rfl : cells = [some "y"] := List.mem_singleton.1 hcells
    exact absurd hv (by decide)

end Stale

end MySQL
end MysqlPlugin
