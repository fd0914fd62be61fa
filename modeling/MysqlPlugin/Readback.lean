import MysqlPlugin.Calls
import MysqlPlugin.Handover
import MysqlPlugin.Isolation

set_option autoImplicit false

/-! # What a callback reads

A callback that finds the result of its statement unread on the connection, stores it and then reads
row after row gets the rows of that statement, first to last, and then no more, whatever the worker
and the other handles do in between (`System.callback_reads_rows`). The five natives that read the
next row do the same to the object (`MySQL.nextRow`); they differ in what they hand to the script. -/

namespace MysqlPlugin

open Prog Natives

namespace MySQL

/-- The object after a function that reads the next row. -/
def nextRow (o : MySQL) : MySQL :=
  match o.result with
  | none => o
  | some res => { o with row := res.fetchRow, result := some res.next }

section Methods

variable {α β : Type} {env : Env}

theorem untouched_rowCell (row : MYSQL_ROW) (i : ℤ) : Stays Untouched (rowCell row i) := by
  refine .ite (.fail _) ?_
  cases row.cells[i.toNat]? with
  | none => exact .fail _
  | some cell => exact .pure Untouched.composable _

/-- A row is fetched, and nothing else happens to the object. -/
theorem nextRow_of_fetchRow {res : MYSQL_RES} {f : Option MYSQL_ROW → Method α}
    (hf : ∀ row, Stays Untouched (f row)) {o o' : MySQL} (hres : o.result = some res) {a : α}
    {es : List Event} (hok : (fetchRow res >>= f) o = .ok (a, o', es)) : o' = o.nextRow := by
  obtain ⟨row, o₁, es₁, es₂, hfetch, hrest, rfl⟩ := bind_eq_ok.1 hok
  cases hfetch
  rw [(hf _ _ _ _ _ hrest).1, nextRow, hres]

theorem nextRow_of_onResult {refuse : Method α} {work : MYSQL_RES → Method α}
    (hrefuse : Stays Untouched refuse)
    (hwork : ∀ res o a o' es, o.result = some res → work res o = .ok (a, o', es) → o' = o.nextRow) :
    Ensures (do
      let this ← (get : Method MySQL)
      match this.result with
      | none => refuse
      | some res => work res) fun o _ o' _ => o' = o.nextRow := by
  intro o a o' es hok
  rw [get_bind] at hok
  cases hres : o.result with
  | none =>
      rw [hres] at hok
      rw [(hrefuse _ _ _ _ hok).1, nextRow, hres]
  | some res =>
      rw [hres] at hok
      exact hwork res o a o' es hres hok

theorem untouched_Error_then (env : Env) (error : String) (errid : ℤ) (a : α) :
    Stays Untouched (do let _ ← Error env error errid; return a : Method α) :=
  .bind Untouched.composable (stays_Error env error errid) fun _ => .pure Untouched.composable a

theorem nextRow_of_fetchFirst {refused absent : α} {noResult : String} {convert : Option String → α}
    {logged : α → String} : Ensures (fetchFirst env refused absent noResult convert logged)
      fun o _ o' _ => o' = o.nextRow := by
  refine nextRow_of_onResult (untouched_Error_then _ _ _ _) fun res o a o' es hres hok =>
    nextRow_of_fetchRow (fun row => ?_) hres hok
  cases row with
  | none => exact .pure Untouched.composable _
  | some row =>
      refine .bind Untouched.composable (untouched_rowCell row 0) fun cell => ?_
      exact .bind Untouched.composable (stays_logAll _) fun _ => .pure Untouched.composable _

theorem nextRow_of_fetch_row {splitter : String} :
    Ensures (fetch_row env splitter) fun o _ o' _ => o' = o.nextRow := by
  refine nextRow_of_onResult (untouched_Error_then _ _ _ _) fun res o a o' es hres hok =>
    nextRow_of_fetchRow (fun row => ?_) hres hok
  cases row with
  | none => exact .pure Untouched.composable _
  | some row =>
      exact .bind Untouched.composable (stays_logAll _) fun _ => .pure Untouched.composable _

theorem nextRow_of_fetch_row_data :
    Ensures (fetch_row_data env) fun o _ o' _ => o' = o.nextRow := by
  refine nextRow_of_onResult (stays_Error _ _ _) fun res o a o' es hres hok => ?_
  obtain ⟨_, o₁, es₁, es₂, hlog, hfetch, rfl⟩ := bind_eq_ok.1 hok
  obtain ⟨rfl, -⟩ := stays_logAll _ _ _ _ _ hlog
  refine nextRow_of_fetchRow (fun row => ?_) hres hfetch
  cases row with
  | none => exact stays_Error _ _ _
  | some row => exact .pure Untouched.composable _

theorem storing_of_store_result {o o' : MySQL} {a : ℤ} {es : List Event} {c : MYSQL}
    (hresult : o.result = none) (hstate : o.state = 0) (hmysql : o.mysql = some c)
    (hok : store_result env o = .ok (a, o', es)) : o' = o.storing env.lib := by
  obtain ⟨a', es', hrun, -⟩ := run_store_result env hresult hstate hmysql
  rw [hok] at hrun
  cases hrun
  rfl

end Methods
end MySQL

/-- The natives that read the next row of the stored result. -/
def NativeName.takesRow : NativeName → Bool
  | .mysql_fetch_row | .mysql_fetch_row_data | .mysql_fetch_int | .mysql_fetch_float => true
  | .mysql_fetch_string => true
  | _ => false

namespace Natives

variable {N : ℕ} {h : Fin N} {o o' : MySQL} {α β : Type}

/-- From the object `o` in the slot, the native ends with `o'` in it. -/
def Applies (h : Fin N) (o o' : MySQL) (m : Native N α) : Prop :=
  Ensures m fun w _ w' _ => w.my h = some o → w'.my h = some o'

theorem applies_call {method : Method α}
    (hm : ∀ a o₁ es, method o = .ok (a, o₁, es) → o₁ = o') : Applies h o o' (call h method) := by
  intro w a w' es hok ho
  obtain ⟨o₁, o₂, ho₁, hmethod, rfl⟩ := call_eq_ok.1 hok
  obtain rfl : o = o₁ := Option.some.inj (ho.symm.trans ho₁)
  simp [World.set, hm a o₂ es hmethod]

theorem applies_strings_then {m : Native N α} {f : α → Native N β} (hm : Stays World.Strings m)
    (hf : ∀ a, Applies h o o' (f a)) : Applies h o o' (m >>= f) := by
  intro w b w' es hok ho
  obtain ⟨a, w₁, es₁, es₂, h₁, h₂, rfl⟩ := bind_eq_ok.1 hok
  exact hf a w₁ b w' es₂ h₂ (by rw [(hm _ _ _ _ h₁).my, ho])

theorem applies_then_strings {m : Native N α} {f : α → Native N β} (hm : Applies h o o' m)
    (hf : ∀ a, Stays World.Strings (f a)) : Applies h o o' (m >>= f) := by
  intro w b w' es hok ho
  obtain ⟨a, w₁, es₁, es₂, h₁, h₂, rfl⟩ := bind_eq_ok.1 hok
  rw [(hf a _ _ _ _ h₂).my]
  exact hm w a w₁ es₁ h₁ ho

variable {env : Env} {amx : Memory} {params : List Cell}

/-- Both checks pass. -/
theorem applies_onConnection {f : String} {n i : ℕ} {rest : Fin N → Native N Cell}
    (hp : param params 0 = n * cellSize) (hh : param params i = h) (hconn : isConnected (some o) = true)
    (hrest : Applies h o o' (rest h)) : Applies h o o' (onConnection env params f n i rest) := by
  intro w a w' es hok ho
  rw [onConnection, check_eq_rest ⟨hp, hh, ho, hconn⟩] at hok
  exact hrest w a w' es hok ho

theorem applies_takesRow {name : NativeName} (hname : name.takesRow = true)
    (hhandle : name.handle params = some (h : ℤ)) (hp : param params 0 = name.paramCount * cellSize)
    (hconn : isConnected (some o) = true) :
    Applies h o o.nextRow (name.function env amx params : Native N Cell) := by
  obtain ⟨i, hi, hh⟩ := Option.map_eq_some_iff.1 hhandle
  cases name <;> cases hname <;> cases hi
  case mysql_fetch_row_data =>
    exact applies_onConnection hp hh hconn (applies_call fun a o₁ es hok =>
      MySQL.nextRow_of_fetch_row_data o a o₁ es hok)
  case mysql_fetch_int | mysql_fetch_float =>
    exact applies_onConnection hp hh hconn (applies_call fun a o₁ es hok =>
      MySQL.nextRow_of_fetchFirst o a o₁ es hok)
  case mysql_fetch_string =>
    refine applies_onConnection hp hh hconn (applies_then_strings (applies_call fun a o₁ es hok => ?_)
      fun string => World.strings_giveString _ string)
    exact MySQL.nextRow_of_fetchFirst o a o₁ es hok
  case mysql_fetch_row =>
    refine applies_onConnection hp hh hconn (applies_strings_then (World.strings_GetString _ _)
      fun splitter => applies_then_strings (applies_call fun a o₁ es hok => ?_) fun row => ?_)
    · exact MySQL.nextRow_of_fetch_row o a o₁ es hok
    · cases row with
      | none => exact World.strings_pure 0
      | some text =>
          refine .bind World.Strings.composable (World.strings_newString text) fun row => ?_
          refine .bind World.Strings.composable (World.strings_SetString _ _) fun _ => ?_
          exact .bind World.Strings.composable (World.strings_safeDelete row) fun _ => World.strings_pure 1

theorem applies_store_result {c : MYSQL} (hhandle : param params 1 = (h : ℤ))
    (hp : param params 0 = cellSize) (hconn : isConnected (some o) = true) (hresult : o.result = none)
    (hstate : o.state = 0) (hmysql : o.mysql = some c) :
    Applies h o (o.storing env.lib) (n_mysql_store_result env params : Native N Cell) :=
  applies_onConnection (by simpa using hp) hhandle hconn <| applies_call fun _ _ _ hok =>
    MySQL.storing_of_store_result hresult hstate hmysql hok

end Natives

/-! ## Row after row -/

namespace MySQL

variable {set : ResultSet} {n : ℕ} {o o' : MySQL}

/-- The connection has the result set stored, and `n` rows of it were asked for. -/
structure HasRead (set : ResultSet) (n : ℕ) (o : MySQL) : Prop where
  connected : isConnected (some o) = true
  result : ∃ number, o.result = some ⟨number, set, min n set.rows.length⟩
  row : 0 < n → o.row.map MYSQL_ROW.cells = set.rows[n - 1]?

theorem HasRead.nextRow (hr : HasRead set n o) : HasRead set (n + 1) o.nextRow := by
  obtain ⟨number, hres⟩ := hr.result
  unfold MySQL.nextRow
  rw [hres]
  refine ⟨hr.connected, ⟨number, ?_⟩, fun _ => ?_⟩
  · by_cases hlt : n < set.rows.length
    · simp [MYSQL_RES.next, hlt, Nat.min_eq_left hlt.le, Nat.succ_le_of_lt hlt]
    · have hle := not_lt.1 hlt
      simp [MYSQL_RES.next, Nat.min_eq_right hle, Nat.min_eq_right (Nat.le_succ_of_le hle)]
  · simp only [MYSQL_RES.fetchRow, Option.map_map, Function.comp_def, Option.map_id', Nat.add_sub_cancel]
    by_cases hlt : n < set.rows.length
    · rw [Nat.min_eq_left hlt.le]
    · have hle := not_lt.1 hlt
      rw [Nat.min_eq_right hle, List.getElem?_eq_none le_rfl, List.getElem?_eq_none hle]

theorem HasRead.trails (hr : HasRead set n o) (ht : o'.Trails o) : HasRead set n o' := by
  obtain ⟨queue, rfl, -⟩ := ht
  exact ⟨hr.connected, hr.result, hr.row⟩

theorem hasRead_storing {lib : Answers} {c : MYSQL} (hconn : isConnected (some o) = true)
    (hmysql : o.mysql = some c) (hunread : c.unread = some set) (hstore : lib.store = true) :
    HasRead set 0 (o.storing lib) := by
  refine ⟨?_, ⟨c.stored, ?_⟩, fun hpos => absurd hpos (lt_irrefl 0)⟩
  · simpa [isConnected, storing, hmysql] using hconn
  · simp [storing, hmysql, MYSQL.storeResult, hstore, hunread]

end MySQL

namespace System

variable {N : ℕ} {h : Fin N} {s s' : System N} {tr es : List Event} {a : Action} {cs : List Action}

/-- The action is a well-formed call on handle `h` of a native that reads the next row. -/
def ReadsRow (h : Fin N) (a : Action) : Prop :=
  ∃ thread name amx params lib, a = .native thread name amx params lib ∧ name.takesRow = true ∧
    name.handle params = some (h : ℤ) ∧ param params 0 = name.paramCount * cellSize

theorem my_of_native {thread : Thread} {name : NativeName} {amx : Memory} {params : List Cell}
    {lib : Answers} {o o' : MySQL} (hstep : s.step (.native thread name amx params lib) = .next s' es)
    (ho : s.my h = some o)
    (happly : Applies h o o' (name.function ⟨lib, s.pAmx⟩ amx params : Native N Cell)) :
    s'.my h = some o' := by
  simp only [step, perform] at hstep
  split at hstep
  · split at hstep
    · cases hstep
    · rename_i hok
      cases hstep
      exact happly _ _ _ _ hok ho
  · cases hstep

theorem hasRead_step {set : ResultSet} {n : ℕ} {o : MySQL} (ha : ReadsRow h a)
    (hstep : s.step a = .next s' es) (ho : s.my h = some o) (hr : o.HasRead set n) :
    ∃ o', s'.my h = some o' ∧ o'.HasRead set (n + 1) := by
  obtain ⟨thread, name, amx, params, lib, rfl, hname, hhandle, hp⟩ := ha
  exact ⟨o.nextRow, my_of_native hstep ho (applies_takesRow hname hhandle hp hr.connected), hr.nextRow⟩

/-- Calls that read the next row, one after the other. -/
theorem hasRead_path {P : System N → Action → Prop} {set : ResultSet} {n : ℕ} {o : MySQL}
    (hpath : (plugin N).Path P s cs es s') (hcalls : ∀ a ∈ cs, ReadsRow h a) (ho : s.my h = some o)
    (hr : o.HasRead set n) : ∃ o', s'.my h = some o' ∧ o'.HasRead set (n + cs.length) := by
  induction hpath generalizing o n with
  | nil s => exact ⟨o, ho, hr⟩
  | @cons s s₁ s' a cs es tr hP hstep hpath ih =>
      obtain ⟨o₁, ho₁, hr₁⟩ := hasRead_step (hcalls a List.mem_cons_self) hstep ho hr
      obtain ⟨o', ho', hr'⟩ := ih (fun b hb => hcalls b (List.mem_cons_of_mem a hb)) ho₁ hr₁
      refine ⟨o', ho', ?_⟩
      rwa [List.length_cons, Nat.add_comm cs.length, ← Nat.add_assoc]

/-- **A callback reads the rows of its statement**: it finds their set unread on the connection, stores
    it and asks for row after row; after `n` calls it has row `n` of the set, or none if there are
    fewer, whatever goes on beside it. -/
theorem callback_reads_rows
    (hrun : (plugin N).Reach (fun s a => (s.slot h).ClosesQuietly h a) tr s) {src : ℕ} {t : ThreadInfo}
    {amx : AMX} {scripts : List AMX} (hm : s.main = .body h src (.inCallback t amx scripts))
    {o : MySQL} (ho : s.my h = some o) (hconn : isConnected (some o) = true)
    (hresult : o.result = none) (hstate : o.state = 0) {c : MYSQL} (hmysql : o.mysql = some c)
    {set : ResultSet} (hunread : c.unread = some set)
    (hpath : (plugin N).Path (Beside h) s cs es s') {thread : Thread} {data : Memory}
    {params : List Cell} {lib : Answers} {calls : List Action}
    (hcalls : cs.filter (Action.concerns h) =
      .native thread .mysql_store_result data params lib :: calls)
    (hp : param params 0 = cellSize) (hstore : lib.store = true) (hreads : ∀ a ∈ calls, ReadsRow h a) :
    ∃ o', s'.my h = some o' ∧ o'.result.map MYSQL_RES.set = some set ∧
      (0 < calls.length → o'.row.map MYSQL_ROW.cells = set.rows[calls.length - 1]?) := by
  obtain ⟨u, es', hexec, ⟨o', ou, ho', hou, htrails⟩, -⟩ := alone_path (alone_reach hrun hm) hpath
  rw [hcalls] at hexec
  have hsolo := Machine.Path.of_exec hexec (Machine.obeys_all _ _)
  have hhandle : param params 1 = (h : ℤ) := by
    have hmem : Action.native thread .mysql_store_result data params lib ∈ cs.filter (Action.concerns h) := by
      rw [hcalls]
      exact List.mem_cons_self
    have hconcerns := (List.mem_filter.1 hmem).2
    exact Option.some.inj (of_decide_eq_true hconcerns)
  cases hsolo with
  | cons hP hstep hrest =>
      have ho₁ := my_of_native hstep ho
        (applies_store_result hhandle hp hconn hresult hstate hmysql)
      obtain ⟨o₂, ho₂, hr⟩ := hasRead_path hrest hreads ho₁
        (MySQL.hasRead_storing hconn hmysql hunread hstore)
      obtain rfl : ou = o₂ := Option.some.inj (hou.symm.trans ho₂)
      obtain ⟨hconn', ⟨number, hres⟩, hrow⟩ := hr.trails htrails
      rw [Nat.zero_add] at hrow
      exact ⟨o', ho', by rw [hres]; rfl, hrow⟩

theorem reading_both_rows :
    ∃ s' : System 2, ∃ o, s'.my 0 = some o ∧ o.row.map MYSQL_ROW.cells = some [some "2"] := by
  obtain ⟨es, s', hpath⟩ := path_whileReading
  have hcell : ReadsRow (0 : Fin 2) (.native .main .mysql_fetch_row_data Script.memory [4, 0] {}) :=
    ⟨_, _, _, _, _, rfl, rfl, rfl, rfl⟩
  have hstring : ReadsRow (0 : Fin 2) (.native .main .mysql_fetch_string Script.memory [8, 0, 0] {}) :=
    ⟨_, _, _, _, _, rfl, rfl, rfl, rfl⟩
  have hcalls : whileReading.filter (Action.concerns (0 : Fin 2)) =
      [Script.mysql_store_result 0, .native .main .mysql_fetch_row_data Script.memory [4, 0] {},
        .native .main .mysql_fetch_string Script.memory [8, 0, 0] {}] := rfl
  obtain ⟨o, ho, -, hrow⟩ := callback_reads_rows (h := 0) reach_inCallback rfl rfl rfl rfl rfl rfl rfl
    hpath hcalls rfl rfl (by simp [hcell, hstring])
  exact ⟨s', o, ho, hrow (by decide)⟩

end System
end MysqlPlugin
