import MysqlPlugin.Fetching
import MysqlPlugin.ScriptStrings

set_option autoImplicit false

/-! # The buffers of diagnostic messages

Three messages are put together with `sprintf` before they are handed on: that of `CHECK_CONNECTION`
and that of a field name nobody knows, each in 128 bytes, and the dump of an error for
`OnMysqlError`, in as many bytes as it needs. The first has room for every name of `PluginNatives`,
the last always fits, and the field name has room for 70 characters (`messages_fit_iff`).

`MySQL.Buffered.fetch_field` is `fetch_field` with the second of these buffers. It is the function of
the model if the name is that of a column or has at most 70 characters
(`MySQL.Buffered.fetch_field_eq`). -/

namespace MysqlPlugin

open Prog Stores Natives

/-! ## The names of the natives -/

namespace NativeName

/-- The name in `PluginNatives`. -/
def name : NativeName → String
  | .mysql_init => "mysql_init"
  | .mysql_connect => "mysql_connect"
  | .mysql_close => "mysql_close"
  | .mysql_refresh => "mysql_refresh"
  | .mysql_select_db => "mysql_select_db"
  | .mysql_query => "mysql_query"
  | .mysql_query_array => "mysql_query_array"
  | .mysql_store_result => "mysql_store_result"
  | .mysql_free_result => "mysql_free_result"
  | .mysql_result_stored => "mysql_result_stored"
  | .mysql_fetch_field => "mysql_fetch_field"
  | .mysql_fetch_field_num => "mysql_fetch_field_num"
  | .mysql_fetch_row => "mysql_fetch_row"
  | .mysql_fetch_row_data => "mysql_fetch_row_data"
  | .mysql_real_escape_string => "mysql_real_escape_string"
  | .mysql_num_rows => "mysql_num_rows"
  | .mysql_num_fields => "mysql_num_fields"
  | .mysql_affected_rows => "mysql_affected_rows"
  | .mysql_insert_id => "mysql_insert_id"
  | .mysql_ping => "mysql_ping"
  | .mysql_error => "mysql_error"
  | .mysql_errno => "mysql_errno"
  | .mysql_warning_count => "mysql_warning_count"
  | .mysql_info => "mysql_info"
  | .mysql_stat => "mysql_stat"
  | .mysql_get_server_info => "mysql_get_server_info"
  | .mysql_get_host_info => "mysql_get_host_info"
  | .mysql_data_seek => "mysql_data_seek"
  | .mysql_set_character_set => "mysql_set_character_set"
  | .mysql_get_character_set => "mysql_get_character_set"
  | .mysql_fetch_int => "mysql_fetch_int"
  | .mysql_fetch_float => "mysql_fetch_float"
  | .mysql_fetch_string => "mysql_fetch_string"

/-- The name `CHECK_CONNECTION` is given, which for `mysql_refresh` is another. -/
def label : NativeName → String
  | .mysql_refresh => "mysql_reload"
  | n => n.name

/-- These are the names the two checks of a native print. -/
theorem function_eq_checks {N : ℕ} {n : NativeName} (env : Env) (amx : Memory) (params : List Cell)
    (hinit : n ≠ .mysql_init) (hconnect : n ≠ .mysql_connect) {i : ℕ} (hi : n.handleAt = some i) :
    ∃ rest, (n.function env amx params : Native N Cell) =
      CHECK_PARAMS params n.name n.paramCount 0
        (CHECK_CONNECTION env (param params i) n.label rest) := by
  cases n with
  | mysql_init => exact absurd rfl hinit
  | mysql_connect => exact absurd rfl hconnect
  | _ =>
      cases hi
      exact ⟨_, rfl⟩

theorem label_of_ne {n : NativeName} (h : n ≠ .mysql_refresh) : n.label = n.name := by
  cases n with
  | mysql_refresh => exact absurd rfl h
  | _ => rfl

/-- The longest name is that of `mysql_real_escape_string`. -/
theorem name_plain (n : NativeName) : '\x00' ∉ n.name.toList ∧ strlen n.name ≤ 24 := by
  cases n <;> decide

theorem label_plain (n : NativeName) : '\x00' ∉ n.label.toList ∧ strlen n.label ≤ 24 := by
  by_cases h : n = .mysql_refresh
  · subst h
    decide
  · rw [label_of_ne h]
    exact n.name_plain

end NativeName

/-! ## The three buffers -/

/-- The text of an unknown field name. -/
def noField (fieldname : String) : String :=
  "Function: mysql_fetch_field could not find field name: \"" ++ fieldname ++ "\""

/-- `buffer` of `MySQL::fetch_field`. -/
def MySQL.fieldBuffer (fieldname : String) : HeapBuffer Char :=
  sprintf (.new 128)
    ["Function: mysql_fetch_field could not find field name: \"", fieldname, "\""]

/-- `tmp` of `CHECK_CONNECTION`. -/
def Natives.connectionBuffer (n : String) : HeapBuffer Char :=
  sprintf (.new 128) ["Function: ", n, " called when not connected to any database"]

/-- `dump` of `Error`. -/
def MySQL.errorBuffer (error my_error : String) : HeapBuffer Char :=
  sprintf (.new (strlen error + strlen my_error + 4)) [error, ". ", my_error, "."]

/-- A text on both sides of a name. -/
theorem flatMap_toList_three (a b c : String) :
    [a, b, c].flatMap String.toList = (a ++ b ++ c).toList := by
  simp

/-- The search that finds no column hands the text to `Error` ... -/
theorem MySQL.ends_findField_of_notMem {p : Event → Bool} (hp : Overlooks p) (env : Env)
    {fieldname : String} (res : MYSQL_RES) (row : MYSQL_ROW) {names : List String}
    (hnames : fieldname ∉ names) (i : ℕ) (o : MySQL) :
    ∃ o', Ends p (findField env fieldname res row i names) o none o'
      (errorEvents p env o (noField fieldname) PluginError.P_ERROR_NOFIELD.code) := by
  induction names generalizing i o with
  | nil => exact ⟨o, ends_Error_then hp env _ _ none o⟩
  | cons name names ih =>
      rw [List.mem_cons, not_or] at hnames
      obtain ⟨o', hrest⟩ := ih hnames.2 (i + 1) { o with field := some ⟨res.number, i, name⟩ }
      exact ⟨o', .then (.modify p _ o) (.if_neg hnames.1 hrest)⟩

theorem MySQL.ends_fetch_field_of_notMem {p : Event → Bool} (hp : Overlooks p) (env : Env)
    {fieldname : String} {o : MySQL} {res : MYSQL_RES} {row : MYSQL_ROW} (hres : o.result = some res)
    (hrow : o.row = some row) (hname : fieldname ∉ res.set.fields) :
    ∃ o', Ends p (fetch_field env fieldname) o none o'
      (errorEvents p env o (noField fieldname) PluginError.P_ERROR_NOFIELD.code) := by
  have hcurrent : Ends p (currentRow res) o (some row) o [] := by
    refine .get_bind ?_
    rw [hrow]
    exact .pure p (some row) o
  obtain ⟨o', hfind⟩ := ends_findField_of_notMem hp env res row hname 0 o
  exact ⟨o', ends_onResult hres (.then (ends_logAll hp _ o) (.then hcurrent hfind))⟩

theorem MySQL.error_mem {env : Env} {o : MySQL} {error : String} {errid : ℤ} {es : List Event}
    (hes : es.filter Event.isError = errorEvents Event.isError env o error errid) :
    .error o.conn error (errorId env errid) ∈ es := by
  have hmem : Event.error o.conn error (errorId env errid) ∈ es.filter Event.isError := by
    rw [hes]
    exact List.mem_singleton_self _
  exact (List.mem_filter.1 hmem).1

/-- ... and the buffer holds it. -/
theorem MySQL.fieldBuffer_holds {fieldname : String} (hfield : '\x00' ∉ fieldname.toList) :
    (MySQL.fieldBuffer fieldname).Holds '\x00' (noField fieldname).toList := by
  refine sprintf_holds ?_ ?_
  · rw [List.forall_mem_cons, List.forall_mem_cons, List.forall_mem_singleton]
    exact ⟨by decide, hfield, by decide⟩
  · exact flatMap_toList_three _ _ _

theorem Natives.connectionBuffer_holds (n : NativeName) :
    (connectionBuffer n.label).Holds '\x00' (notConnected n.label).toList := by
  refine sprintf_holds ?_ ?_
  · rw [List.forall_mem_cons, List.forall_mem_cons, List.forall_mem_singleton]
    exact ⟨by decide, n.label_plain.1, by decide⟩
  · exact flatMap_toList_three _ _ _

/-- The dump is the text the callbacks get. -/
theorem MySQL.errorBuffer_holds {env : Env} {error : String} (herror : '\x00' ∉ error.toList)
    (hlib : '\x00' ∉ env.lib.error.toList) (hlong : env.lib.error.length > 1) :
    (MySQL.errorBuffer error env.lib.error).Holds '\x00' (MySQL.errorText env error).toList := by
  refine sprintf_holds ?_ ?_
  · simp [herror, hlib]
  · simp [MySQL.errorText, hlong]

/-! ## When they are large enough -/

theorem MySQL.inBounds_fieldBuffer_iff {fieldname : String} :
    (MySQL.fieldBuffer fieldname).InBounds ↔ strlen fieldname ≤ 70 := by
  have hprefix : strlen "Function: mysql_fetch_field could not find field name: \"" = 56 := by decide
  have hquote : strlen "\"" = 1 := by decide
  rw [fieldBuffer, inBounds_sprintf_iff]
  simp only [List.map_cons, List.map_nil, List.sum_cons, List.sum_nil, hprefix, hquote]
  omega

theorem Natives.inBounds_connectionBuffer_iff {n : String} :
    (connectionBuffer n).InBounds ↔ strlen n ≤ 75 := by
  have hprefix : strlen "Function: " = 10 := by decide
  have hsuffix : strlen " called when not connected to any database" = 42 := by decide
  rw [connectionBuffer, inBounds_sprintf_iff]
  simp only [List.map_cons, List.map_nil, List.sum_cons, List.sum_nil, hprefix, hsuffix]
  omega

/-- Two texts, three characters and the terminator. -/
theorem MySQL.inBounds_errorBuffer (error my_error : String) :
    (MySQL.errorBuffer error my_error).InBounds := by
  have hsep : strlen ". " = 2 := by decide
  have hdot : strlen "." = 1 := by decide
  rw [errorBuffer, inBounds_sprintf_iff]
  simp only [List.map_cons, List.map_nil, List.sum_cons, List.sum_nil, hsep, hdot]
  omega

/-- **When the diagnostic messages fit**: exactly if the field name of the script has at most 70
    characters. -/
theorem messages_fit_iff (fieldname : List Cell) :
    ((MySQL.fieldBuffer (textAt fieldname)).InBounds ∧
      (∀ n : NativeName, (connectionBuffer n.name).InBounds ∧ (connectionBuffer n.label).InBounds) ∧
      ∀ error my_error, (MySQL.errorBuffer error my_error).InBounds) ↔
      strlen (textAt fieldname) ≤ 70 := by
  rw [MySQL.inBounds_fieldBuffer_iff]
  refine and_iff_left ⟨fun n => ?_, MySQL.inBounds_errorBuffer⟩
  have hname := n.name_plain.2
  have hlabel := n.label_plain.2
  rw [inBounds_connectionBuffer_iff, inBounds_connectionBuffer_iff]
  omega

/-- A row with one column. -/
def OneColumn.object : MySQL :=
  ⟨0, 0, some ⟨some "S", none, 1⟩, some ⟨0, ⟨["a"], [[some "1"]]⟩, 1⟩, none,
    some ⟨0, 0, [some "1"]⟩, true, 0, 0, false, true, [], []⟩

/-- A field name of 71 characters is looked up there. -/
theorem long_field_name_overflows :
    ¬ ∀ (env : Env) (o o' : MySQL) (fieldname : List Cell) (value : Option String) (es : List Event),
      MySQL.fetch_field env (textAt fieldname) o = .ok (value, o', es) →
        .error o.conn (noField (textAt fieldname)) PluginError.P_ERROR_NOFIELD.code ∈ es →
          (MySQL.fieldBuffer (textAt fieldname)).InBounds := by
  intro hall
  have hchars : ∀ c ∈ List.replicate 71 'a', 1 ≤ c.toNat ∧ c.toNat ≤ 127 := by
    intro c hc
    rw [List.eq_of_mem_replicate hc]
    decide
  have htext := textAt_pawnString hchars []
  rw [if_neg (by decide)] at htext
  have hname : String.ofList (List.replicate 71 'a') ∉ ["a"] := by decide
  obtain ⟨o', es, hok, hes⟩ := MySQL.ends_fetch_field_of_notMem overlooks_isError ⟨{}, []⟩
    (o := OneColumn.object) rfl rfl hname
  rw [← htext] at hok hes
  have hfits := hall _ _ o' _ none es hok (MySQL.error_mem hes)
  rw [MySQL.inBounds_fieldBuffer_iff, htext] at hfits
  exact absurd hfits (by decide)

/-! ## `fetch_field` with its buffer -/

namespace MySQL

namespace Buffered

/-- `MySQL.findField` with the buffer the message is printed to. -/
def findField (env : Env) (fieldname : String) (res : MYSQL_RES) (row : MYSQL_ROW) :
    ℕ → List String → Method (Option String)
  | _, [] =>
    if (fieldBuffer fieldname).InBounds then do
      let _ ← Error env (noField fieldname) PluginError.P_ERROR_NOFIELD.code
      return none
    else
      fail (.overrun "buffer")
  | i, name :: names => do
    modify fun this => { this with field := some ⟨res.number, i, name⟩ }
    if fieldname = name then
      match ← rowCell row i with
      | some cell => return some cell
      | none =>
        let _ ← Error env "Function: mysql_fetch_field failed, no field data"
          PluginError.P_ERROR_NOFIELDDATA.code
        return none
    else
      findField env fieldname res row (i + 1) names

/-- `MySQL.fetch_field` with that buffer. -/
def fetch_field (env : Env) (fieldname : String) : Method (Option String) := do
  let this ← get
  match this.result with
  | none =>
    let _ ← Error env "Function: mysql_fetch_field called when no result stored"
      PluginError.P_ERROR_NORES.code
    return none
  | some res =>
    logAll "Function: mysql_fetch_field executed."
    match ← currentRow res with
    | none => return none
    | some row => findField env fieldname res row 0 res.set.fields

variable {env : Env} {fieldname : String} {res : MYSQL_RES} {row : MYSQL_ROW} {names : List String}

/-- The buffer makes no difference if there is such a column, or the message fits. -/
theorem findField_eq (h : fieldname ∈ names ∨ (fieldBuffer fieldname).InBounds) (i : ℕ) :
    findField env fieldname res row i names = MySQL.findField env fieldname res row i names := by
  induction names generalizing i with
  | nil => exact if_pos (h.resolve_left List.not_mem_nil)
  | cons name names ih =>
      rw [findField, MySQL.findField]
      refine congrArg (Bind.bind _) (funext fun _ => ?_)
      by_cases hname : fieldname = name
      · exact (if_pos hname).trans (if_pos hname).symm
      · have hrest : fieldname ∈ names ∨ (fieldBuffer fieldname).InBounds :=
          h.imp_left fun hmem => (List.mem_cons.1 hmem).resolve_left hname
        rw [if_neg hname, if_neg hname]
        exact ih hrest (i + 1)

/-- Otherwise the search ends past the end of the buffer. -/
theorem faults_findField (hname : fieldname ∉ names) (hlong : ¬ (fieldBuffer fieldname).InBounds)
    (i : ℕ) (o : MySQL) : Faults (findField env fieldname res row i names) o := by
  induction names generalizing i o with
  | nil => exact ⟨.overrun "buffer", congrFun (if_neg hlong) o⟩
  | cons name names ih =>
      rw [List.mem_cons, not_or] at hname
      rw [findField, faults_bind_of_ok (run_modify _ o), if_neg hname.1]
      exact ih hname.2 (i + 1) _

variable {o : MySQL}

/-- **`fetch_field` is the function of the model** if the name is that of a column, or the message fits,
    or there is no row to search. -/
theorem fetch_field_eq (hres : o.result = some res)
    (h : (fieldname ∈ res.set.fields ∨ (fieldBuffer fieldname).InBounds) ∨ o.available res = none) :
    fetch_field env fieldname o = MySQL.fetch_field env fieldname o := by
  rw [fetch_field, MySQL.fetch_field, get_bind, get_bind, hres]
  refine bind_congr_of_ok fun _ o₁ es hlog => ?_
  obtain ⟨rfl, -⟩ := stays_logAll _ _ _ _ _ hlog
  refine bind_congr_of_ok fun row' o₂ es' hrow => ?_
  rw [run_currentRow] at hrow
  cases hrow
  cases hrow : o₁.available res with
  | none => rfl
  | some row => simp only [findField_eq (h.resolve_right (by simp [hrow]))]

theorem faults_fetch_field (hres : o.result = some res) (hname : fieldname ∉ res.set.fields)
    (hlong : ¬ (fieldBuffer fieldname).InBounds) (hrow : o.available res = some row) :
    Faults (fetch_field env fieldname) o := by
  obtain ⟨es, hlog, -⟩ := ends_logAll overlooks_unseen "Function: mysql_fetch_field executed." o
  rw [fetch_field, faults_get_bind, hres]
  refine (faults_bind_of_ok hlog).2 ((faults_bind_of_ok (run_currentRow res o)).2 ?_)
  rw [hrow]
  exact faults_findField hname hlong 0 _

end Buffered
end MySQL
end MysqlPlugin
