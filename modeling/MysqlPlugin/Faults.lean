import MysqlPlugin.Lookup
import MysqlPlugin.Outcomes
import MysqlPlugin.Table

set_option autoImplicit false

/-! # Which calls of a script bring the plugin down

A native that is called with the parameter count it asks for ends in a fault in four situations, and in
no others (`Natives.faults_iff`): its handle lies outside the table; the handle is that of a `NULL`
slot, which the error branch of `CHECK_CONNECTION` hands to `Error`; `mysql_connect` is called on a
handle on which `mysql_init` failed; or the native reads something of the connection that is not there
(`MySQL.Misreads`): a column the current row does not have, or a string the library answered with
`NULL`.

These are the faults of the definitions of `Mysql.lean` and `Natives.lean`: an index outside `my[]` or a
row, a `NULL` object, connection or string, and `pop` on an empty queue. Writing past the end of a
buffer is not among them, see `ScriptStrings.lean`, `Messages.lean` and `RowBuffer.lean` for that. -/

namespace MysqlPlugin

open Prog Natives

namespace MySQL

variable {env : Env} {o : MySQL}

/-- The object has a connection of the library. -/
def HasClient (o : MySQL) : Prop := o.mysql.isSome = true

/-! ## Member functions that are safe on a connection -/

theorem safeOn_client (function : String) : SafeOn HasClient (client function) := by
  intro o hm
  obtain ⟨c, hc⟩ := Option.isSome_iff_exists.1 hm
  refine ⟨(), o, [.client o.conn function], ?_, hm⟩
  rw [client, get_bind, hc]
  rfl

theorem safeOn_of_idle {α : Type} {m : Method α} (hm : Safe m) (hidle : Stays Idle m) :
    SafeOn HasClient m :=
  .of_safe hm fun o a o' es hok ho => by
    obtain ⟨rfl, -⟩ := hidle o a o' es hok
    exact ho

theorem safeOn_logAll (line : String) : SafeOn HasClient (logAll line) :=
  safeOn_of_idle (safe_logAll line) (idle_logAll line)

theorem safeOn_Error (env : Env) (error : String) (errid : ℤ) :
    SafeOn HasClient (Error env error errid) :=
  safeOn_of_idle (safe_Error env error errid) (idle_Error env error errid)

theorem safeOn_Error_then {α : Type} (env : Env) (error : String) (errid : ℤ) (a : α) :
    SafeOn HasClient (do let _ ← Error env error errid; return a : Method α) :=
  (safeOn_Error env error errid).bind fun _ => .pure a

theorem safeOn_safeDelete (p : CharPtr) : SafeOn HasClient (safeDelete p) := .emit _

/-- No assignment of a member function takes the connection away. -/
theorem safeOn_modify {f : MySQL → MySQL} (hf : ∀ o, (f o).mysql.isSome = o.mysql.isSome) :
    SafeOn HasClient (modify f : Method Unit) := by
  refine .modify fun o hm => ?_
  rw [HasClient, hf o]
  exact hm

theorem safeOn_freeStored : SafeOn HasClient freeStored := by
  intro o hm
  exact ⟨(), _, _, run_freeStored o, hm⟩

theorem safeOn_fetchRow (res : MYSQL_RES) : SafeOn HasClient (fetchRow res) :=
  SafeOn.bind (safeOn_modify fun _ => rfl) fun _ => .pure _

theorem safeOn_refresh (options : Cell) : SafeOn HasClient (refresh env options) := by
  refine (safeOn_client _).bind fun _ => (safeOn_logAll _).bind fun _ => ?_
  exact .get_bind fun _ _ => .ite (safeOn_Error _ _ _) (.pure _)

theorem safeOn_select_db (dbname : String) : SafeOn HasClient (select_db env dbname) := by
  refine (safeOn_client _).bind fun _ => (safeOn_logAll _).bind fun _ => ?_
  exact .ite (safeOn_Error _ _ _) (.pure _)

theorem safeOn_realQuery (q : CharPtr) : SafeOn HasClient (realQuery env q) :=
  (safeOn_client _).bind fun _ => safeOn_modify fun _ => Option.isSome_map

theorem safeOn_enqueue (entry : QueryInfo) : SafeOn HasClient (enqueue entry) :=
  .get_bind fun _ _ => (SafeOn.emit _).bind fun _ => safeOn_modify fun _ => rfl

theorem safeOn_query (q : CharPtr) (resultid extra : Cell) :
    SafeOn HasClient (query env q resultid extra) := by
  refine safeOn_freeStored.bind fun _ => .ite ((safeOn_enqueue _).bind fun _ => .pure _) ?_
  refine (safeOn_realQuery q).bind fun _ => .get_bind fun _ _ => (safeOn_logAll _).bind fun _ => ?_
  exact (safeOn_safeDelete q).bind fun _ => .ite (safeOn_Error _ _ _) (.pure _)

theorem safeOn_query_array (q extra : CharPtr) (resultid : Cell) :
    SafeOn HasClient (query_array env q resultid extra) := by
  refine safeOn_freeStored.bind fun _ => .ite ((safeOn_enqueue _).bind fun _ => .pure _) ?_
  refine (safeOn_realQuery q).bind fun _ => .get_bind fun _ _ => (safeOn_logAll _).bind fun _ => ?_
  exact (safeOn_safeDelete q).bind fun _ => .ite (safeOn_Error _ _ _) (.pure _)

theorem safeOn_store_result : SafeOn HasClient (store_result env) := by
  refine .get_bind fun o _ => .ite (safeOn_Error _ _ _) (.ite (safeOn_Error _ _ _) ?_)
  refine (safeOn_client _).bind fun _ => ?_
  refine SafeOn.bind (safeOn_modify fun _ => Option.isSome_map) fun _ => ?_
  refine (safeOn_logAll _).bind fun _ => ?_
  cases o.mysql.bind (·.storeResult env.lib) with
  | none => exact safeOn_Error _ _ _
  | some res => exact (SafeOn.emit _).bind fun _ => .pure _

theorem safeOn_free_result : SafeOn HasClient free_result := by
  refine safeOn_freeStored.bind fun _ => (safeOn_logAll _).bind fun _ => ?_
  exact SafeOn.bind (safeOn_modify fun _ => rfl) fun _ => .pure _

theorem safeOn_result_stored : SafeOn HasClient result_stored :=
  (safeOn_logAll _).bind fun _ => .get_bind fun _ _ => .pure _

/-- The functions that refuse when no result set is stored. -/
theorem safeOn_onResult {α : Type} {refuse : Method α} {work : MYSQL_RES → Method α}
    (hrefuse : SafeOn HasClient refuse) (hwork : ∀ res, SafeOn HasClient (work res)) :
    SafeOn HasClient (do
      let this ← (get : Method MySQL)
      match this.result with
      | none => refuse
      | some res => work res) := by
  refine .get_bind fun o _ => ?_
  cases o.result with
  | none => exact hrefuse
  | some res => exact hwork res

theorem safeOn_fetch_row (splitter : String) : SafeOn HasClient (fetch_row env splitter) := by
  refine safeOn_onResult (safeOn_Error_then _ _ _ _) fun res => (safeOn_fetchRow res).bind fun row => ?_
  cases row with
  | none => exact .pure _
  | some row => exact (safeOn_logAll _).bind fun _ => .pure _

theorem safeOn_fetch_row_data : SafeOn HasClient (fetch_row_data env) := by
  refine safeOn_onResult (safeOn_Error _ _ _) fun res => (safeOn_logAll _).bind fun _ => ?_
  refine (safeOn_fetchRow res).bind fun row => ?_
  cases row with
  | none => exact safeOn_Error _ _ _
  | some row => exact .pure _

theorem safeOn_real_escape_string (string : String) :
    SafeOn HasClient (real_escape_string env string) :=
  (safeOn_client _).bind fun _ => (safeOn_logAll _).bind fun _ => .pure _

theorem safeOn_askResult (function : String) (ask : MYSQL_RES → ℤ) :
    SafeOn HasClient (askResult env function ask) :=
  safeOn_onResult (safeOn_Error _ _ _) fun _ => (safeOn_logAll _).bind fun _ => .pure _

theorem safeOn_askNumber (function : String) (answer : ℤ) :
    SafeOn HasClient (askNumber function answer) :=
  (safeOn_client _).bind fun _ => (safeOn_logAll _).bind fun _ => .pure _

theorem safeOn_data_seek (row : Cell) : SafeOn HasClient (data_seek env row) :=
  safeOn_onResult (safeOn_Error _ _ _) fun _ => (safeOn_logAll _).bind fun _ =>
    SafeOn.bind (safeOn_modify fun _ => rfl) fun _ => .pure _

theorem safeOn_connect (user : String) : SafeOn HasClient (connect env user) := by
  refine (safeOn_client _).bind fun _ => .ite (.get_bind fun this _ => ?_) (safeOn_Error _ _ _)
  refine (safeOn_client _).bind fun _ => (safeOn_client _).bind fun _ => ?_
  refine (SafeOn.emit _).bind fun _ => (safeOn_client _).bind fun _ => (SafeOn.emit _).bind fun _ => ?_
  refine SafeOn.bind (.doIf ?_) fun _ => SafeOn.bind (safeOn_modify fun _ => rfl) fun _ => .pure _
  refine (safeOn_client _).bind fun _ => (SafeOn.emit _).bind fun _ => ?_
  exact (safeOn_client _).bind fun _ => .emit _

theorem faults_connect {user : String} (hclient : ¬ o.HasClient) : Faults (connect env user) o := by
  refine Faults.bind ⟨.nullClient "mysql_real_connect", ?_⟩
  rw [client, get_bind, Option.not_isSome_iff_eq_none.1 hclient]
  rfl

theorem safeOn_delete : SafeOn HasClient delete := by
  refine .get_bind fun _ _ => .doIf (safeOn_freeStored.bind fun _ => ?_)
  refine SafeOn.bind (safeOn_modify fun _ => rfl) fun _ => .get_bind fun this _ => ?_
  refine SafeOn.bind (.doIf ?_) fun _ => safeOn_modify fun _ => rfl
  exact SafeOn.bind (.doIf (.emit _)) fun _ => (SafeOn.emit _).bind fun _ => safeOn_client _

/-! ## Member functions that read a row -/

theorem faults_rowCell {row : MYSQL_ROW} {i : ℤ} :
    Faults (rowCell row i) o ↔ ¬ (0 ≤ i ∧ i < row.cells.length) := by
  unfold rowCell
  by_cases hi : i < 0
  · rw [if_pos hi]
    exact iff_of_true ⟨_, rfl⟩ fun hin => absurd hin.1 (not_le.2 hi)
  · rw [if_neg hi]
    cases hcell : row.cells[i.toNat]? with
    | none =>
        rw [List.getElem?_eq_none_iff] at hcell
        exact iff_of_true ⟨_, rfl⟩ (by omega)
    | some cell =>
        obtain ⟨hlt, -⟩ := List.getElem?_eq_some_iff.1 hcell
        exact iff_of_false (not_faults_of_ok rfl) (by omega)

/-- The functions that refuse when no result set is stored fault where their work does. -/
theorem faults_onResult {α : Type} {refuse : Method α} {work : MYSQL_RES → Method α}
    (hrefuse : Safe refuse) :
    Faults (do
      let this ← (get : Method MySQL)
      match this.result with
      | none => refuse
      | some res => work res) o ↔ ∃ res, o.result = some res ∧ Faults (work res) o := by
  rw [faults_get_bind]
  cases hres : o.result with
  | none => exact iff_of_false (hrefuse.not_faults o) (by rintro ⟨res, hres', -⟩; cases hres')
  | some res =>
      constructor
      · intro hf
        exact ⟨res, rfl, hf⟩
      · rintro ⟨res', hres', hf⟩
        cases hres'
        exact hf

theorem safe_Error_then {α : Type} (env : Env) (error : String) (errid : ℤ) (a : α) :
    Safe (do let _ ← Error env error errid; return a : Method α) :=
  (safe_Error env error errid).bind fun _ => .pure a

/-- The functions that read a column of the current row fault where the reading does. -/
theorem faults_currentRow {α : Type} {res : MYSQL_RES} {line : String}
    {next : Option MYSQL_ROW → Method α} {reads : MYSQL_ROW → Prop} (hnone : Safe (next none))
    (hsome : ∀ row o, Faults (next (some row)) o ↔ ¬ reads row) :
    Faults (do
      logAll line
      let row ← currentRow res
      next row) o ↔ ∃ row, o.available res = some row ∧ ¬ reads row := by
  obtain ⟨es, hlog, -⟩ := ends_logAll overlooks_unseen line o
  rw [faults_bind_of_ok hlog, faults_bind_of_ok (run_currentRow res o)]
  cases o.available res with
  | none => exact iff_of_false (hnone.not_faults _) (by rintro ⟨row, hrow, -⟩; cases hrow)
  | some row => simp [hsome row]

theorem faults_fetch_field_num {fieldnum : Cell} :
    Faults (fetch_field_num env fieldnum) o ↔ ∃ res, o.result = some res ∧
      ∃ row, o.available res = some row ∧ ¬ (0 ≤ fieldnum ∧ fieldnum < row.cells.length) :=
  (faults_onResult (safe_Error_then _ _ _ _)).trans <| exists_congr fun _ => and_congr_right fun _ =>
    faults_currentRow (safe_Error_then _ _ _ _) fun _ _ => faults_rowCell

/-- The loop over the columns stops at the first one of that name, or after the last. -/
theorem faults_findField {fieldname : String} {res : MYSQL_RES} {row : MYSQL_ROW} {i : ℕ}
    {names : List String} : Faults (findField env fieldname res row i names) o ↔
      fieldname ∈ names ∧ row.cells.length ≤ i + names.idxOf fieldname := by
  induction names generalizing o i with
  | nil =>
      exact iff_of_false ((safe_Error_then _ _ _ _).not_faults o) (by simp)
  | cons name names ih =>
      rw [findField, faults_bind_of_ok (run_modify _ o)]
      by_cases hname : fieldname = name
      · subst hname
        rw [if_pos rfl, faults_bind_of_safe, faults_rowCell]
        · simp
        · intro cell
          cases cell with
          | none => exact safe_Error_then _ _ _ _
          | some cell => exact .pure _
      · rw [if_neg hname, ih, List.idxOf_cons_ne _ (Ne.symm hname)]
        simp only [List.mem_cons, hname, false_or]
        refine and_congr_right fun _ => ?_
        omega

theorem faults_fetch_field {fieldname : String} :
    Faults (fetch_field env fieldname) o ↔ ∃ res, o.result = some res ∧
      ∃ row, o.available res = some row ∧
        ¬ (fieldname ∈ res.set.fields → res.set.fields.idxOf fieldname < row.cells.length) := by
  refine (faults_onResult (safe_Error_then _ _ _ _)).trans <| exists_congr fun res =>
    and_congr_right fun _ => faults_currentRow (.pure _) fun row o => ?_
  rw [faults_findField]
  simp

/-- The functions that read the first column of the next row. -/
theorem faults_fetchFirst {α : Type} {refused absent : α} {noResult : String}
    {convert : Option String → α} {logged : α → String} :
    Faults (fetchFirst env refused absent noResult convert logged) o ↔
      ∃ res, o.result = some res ∧ ∃ row, res.fetchRow = some row ∧ row.cells = [] := by
  refine (faults_onResult (safe_Error_then _ _ _ _)).trans <| exists_congr fun res =>
    and_congr_right fun _ => ?_
  have hrun : fetchRow res o =
      .ok (res.fetchRow, { o with row := res.fetchRow, result := some res.next }, []) := rfl
  rw [faults_bind_of_ok hrun]
  cases res.fetchRow with
  | none => exact iff_of_false (not_faults_of_ok rfl) (by rintro ⟨row, hrow, -⟩; cases hrow)
  | some row =>
      refine (faults_bind_of_safe fun cell => (safe_logAll _).bind fun _ => .pure _).trans ?_
      rw [faults_rowCell]
      simp [List.length_eq_zero_iff]

/-- What a native reads of the object, or of the library's answer, is not there. -/
def Misreads (name : NativeName) (lib : Answers) (amx : Memory) (params : List Cell) (o : MySQL) :
    Prop :=
  match name with
  | .mysql_fetch_field =>
    ∃ res, o.result = some res ∧ ∃ row, o.available res = some row ∧
      ¬ (textAt (amx (param params 1)) ∈ res.set.fields →
        res.set.fields.idxOf (textAt (amx (param params 1))) < row.cells.length)
  | .mysql_fetch_field_num =>
    ∃ res, o.result = some res ∧ ∃ row, o.available res = some row ∧
      ¬ (0 ≤ param params 1 ∧ param params 1 < row.cells.length)
  | .mysql_fetch_int | .mysql_fetch_float | .mysql_fetch_string =>
    ∃ res, o.result = some res ∧ ∃ row, res.fetchRow = some row ∧ row.cells = []
  | name => name.answer lib = some none

end MySQL

/-- The native reads a column of a row, and hands it over whole. -/
def NativeName.readsColumn : NativeName → Bool
  | .mysql_fetch_field | .mysql_fetch_field_num => true
  | .mysql_fetch_int | .mysql_fetch_float | .mysql_fetch_string => true
  | _ => false

/-- The others can only miss the answer of the library. -/
theorem MySQL.misreads_iff_answer {name : NativeName} {lib : Answers} {amx : Memory}
    {params : List Cell} {o : MySQL} (hreads : name.readsColumn = false) :
    o.Misreads name lib amx params ↔ name.answer lib = some none := by
  cases name with
  | mysql_fetch_field | mysql_fetch_field_num | mysql_fetch_int | mysql_fetch_float
  | mysql_fetch_string => cases hreads
  | _ => exact .rfl

theorem MySQL.not_misreads {name : NativeName} {lib : Answers} {amx : Memory} {params : List Cell}
    {o : MySQL} (hreads : name.readsColumn = false) (hanswer : name.answer lib = none) :
    ¬ o.Misreads name lib amx params := by
  rw [misreads_iff_answer hreads, hanswer]
  exact nofun

/-! ## Natives -/

namespace Natives

variable {N : ℕ} {env : Env} {amx : Memory} {params : List Cell} {w : World N} {h : Fin N} {o : MySQL}

theorem faults_call {α : Type} {method : Method α} (ho : w.my h = some o) :
    Faults (call h method) w ↔ Faults method o := by
  unfold Faults call
  rw [ho]
  cases hm : method o with
  | error f => simp [hm]
  | ok r => simp [hm]

theorem faults_call_none {α : Type} {method : Method α} (hnone : w.my h = none) :
    Faults (call h method) w := by
  refine ⟨.nullMySQL h, ?_⟩
  rw [call, hnone]

/-- The slot holds an object with a connection. -/
def Client (h : Fin N) (w : World N) : Prop := ∃ o, w.my h = some o ∧ o.HasClient

theorem safeOn_call {α : Type} {method : Method α} (hm : SafeOn MySQL.HasClient method) :
    SafeOn (Client h) (call h method) := by
  rintro _ ⟨o, ho, hclient⟩
  obtain ⟨a, o', es, hok, hclient'⟩ := hm o hclient
  exact ⟨a, _, es, call_eq_ok.2 ⟨o, o', ho, hok, rfl⟩, o', by simp [World.set], hclient'⟩

theorem safeOn_newString (text : String) : SafeOn (Client h) (newString text) :=
  fun _ hw => ⟨_, _, _, rfl, hw⟩

theorem safeOn_GetString (addr : Cell) : SafeOn (Client h) (GetString amx addr) :=
  .ite (safeOn_newString _) (safeOn_newString _)

theorem safeOn_safeDelete (p : CharPtr) : SafeOn (Client h) (safeDelete p) := .emit _

theorem safe_safeDelete (p : CharPtr) : Safe (safeDelete p : Native N Unit) := .emit _

theorem safeOn_SetString (addr : Cell) (text : String) :
    SafeOn (Client h) (SetString addr (some text)) := .emit _

theorem safe_giveString (addr : Cell) (text : Option String) :
    Safe (giveString addr text : Native N Cell) := by
  cases text with
  | none => exact .pure 0
  | some text => exact Safe.bind (.emit _) fun _ => .pure 1

theorem faults_SetString (addr : Cell) (text : Option String) :
    Faults (SetString addr text : Native N Unit) w ↔ text = none := by
  cases text with
  | none => exact iff_of_true ⟨_, rfl⟩ rfl
  | some text => exact iff_of_false (not_faults_of_ok rfl) nofun

/-- What is behind the two checks of a native faults where the native misreads. -/
def FaultsOn (name : NativeName) (env : Env) (amx : Memory) (params : List Cell)
    (rest : Fin N → Native N Cell) : Prop :=
  ∀ (w : World N) (h : Fin N) (o : MySQL), w.my h = some o → isConnected (some o) = true →
    (Faults (rest h) w ↔ o.Misreads name env.lib amx params)

theorem hasClient_of_isConnected (hconn : isConnected (some o) = true) : o.HasClient :=
  (Bool.and_eq_true_iff.1 hconn).1

theorem faultsOn_of_safe {name : NativeName} {rest : Fin N → Native N Cell}
    (hrest : ∀ h, SafeOn (Client h) (rest h))
    (hread : ∀ o : MySQL, ¬ o.Misreads name env.lib amx params) :
    FaultsOn name env amx params rest := fun _ h o ho hconn =>
  iff_of_false ((hrest h).not_faults ⟨o, ho, hasClient_of_isConnected hconn⟩) (hread o)

/-- A string parameter is read first, which always ends well. -/
theorem faults_GetString_bind {addr : Cell} {f : CharPtr → Native N Cell} :
    Faults (GetString amx addr >>= f) w ↔
      Faults (f ⟨w.created, textAt (amx addr)⟩) { w with created := w.created + 1 } :=
  faults_bind_of_ok (run_GetString amx addr w)

theorem faults_askText {function logged : String} {answer : Option String} {addr : Cell}
    (ho : w.my h = some o) (hclient : o.HasClient) :
    Faults (do
      let string ← call h (MySQL.askText function logged answer)
      SetString addr string
      return if (string.getD "").length > 1 then 1 else 0 : Native N Cell) w ↔ answer = none := by
  obtain ⟨es, hok, -⟩ := ends_call (p := unseen) ho
    (MySQL.ends_askText overlooks_unseen function logged answer hclient)
  rw [faults_bind_of_ok hok, faults_bind_of_safe fun _ => .pure _, faults_SetString]

theorem not_faults_deleteMySQL (ho : w.my h = some o) (hclient : o.HasClient) :
    ¬ Faults (deleteMySQL h) w := by
  rintro ⟨f, hf⟩
  rw [deleteMySQL, read_bind, ho] at hf
  have hdelete : Faults (call h MySQL.delete) w := by
    rw [← faults_bind_of_safe (f := fun _ => modify fun w => w.set h none) fun _ => .modify _]
    exact (faults_bind_of_ok (m := emit (Event.closed o.conn h o.queryQueue o.threadQueue)) rfl).1 ⟨f, hf⟩
  exact MySQL.safeOn_delete.not_faults hclient ((faults_call ho).1 hdelete)

/-! ## The natives on a connection, frame by frame -/

/-- The native has the frame of those on a connection, and what is in it faults where it misreads. -/
def Framed (name : NativeName) (env : Env) (amx : Memory) (params : List Cell) (i : ℕ)
    (native : Native N Cell) : Prop :=
  ∃ f label rest, FaultsOn name env amx params rest ∧
    native = CHECK_PARAMS params f name.paramCount 0 (CHECK_CONNECTION env (param params i) label rest)

theorem framed_onConnection (name : NativeName) {f : String} {i : ℕ} {rest : Fin N → Native N Cell}
    (hrest : FaultsOn name env amx params rest) :
    Framed name env amx params i (onConnection env params f name.paramCount i rest) :=
  ⟨f, f, rest, hrest, rfl⟩

/-- A native that reads nothing it has not got. -/
theorem framed_of_safe (name : NativeName) {f : String} {i : ℕ} {rest : Fin N → Native N Cell}
    (hreads : name.readsColumn = false) (hanswer : name.answer env.lib = none)
    (hrest : ∀ h, SafeOn (Client h) (rest h)) :
    Framed name env amx params i (onConnection env params f name.paramCount i rest) :=
  framed_onConnection name (faultsOn_of_safe hrest fun _ => MySQL.not_misreads hreads hanswer)

theorem framed_callOnly {name : NativeName} {f : String} {method : Method ℤ}
    (hreads : name.readsColumn = false) (hanswer : name.answer env.lib = none)
    (hcount : name.paramCount = 1) (hmethod : SafeOn MySQL.HasClient method) :
    Framed name env amx params 1 (callOnly env params f method : Native N Cell) := by
  rw [callOnly, ← hcount]
  exact framed_of_safe name hreads hanswer fun _ => safeOn_call hmethod

theorem framed_tellString {name : NativeName} {f function logged : String} {answer : Option String}
    (hreads : name.readsColumn = false) (hanswer : name.answer env.lib = some answer)
    (hcount : name.paramCount = 2) :
    Framed name env amx params 2
      (tellString env params f (MySQL.askText function logged answer) : Native N Cell) := by
  rw [tellString, ← hcount]
  refine framed_onConnection name fun w h o ho hconn => ?_
  rw [MySQL.misreads_iff_answer hreads, hanswer, Option.some_inj]
  exact faults_askText ho (hasClient_of_isConnected hconn)

theorem framed_fetchFirst {name : NativeName} {f : String} {refused absent : ℤ} {noResult : String}
    {convert : Option String → ℤ} {logged : ℤ → String} (hcount : name.paramCount = 1)
    (hread : ∀ o : MySQL, o.Misreads name env.lib amx params ↔
      ∃ res, o.result = some res ∧ ∃ row, res.fetchRow = some row ∧ row.cells = []) :
    Framed name env amx params 1
      (callOnly env params f (MySQL.fetchFirst env refused absent noResult convert logged) :
        Native N Cell) := by
  rw [callOnly, ← hcount]
  refine framed_onConnection name fun w h o ho _ => ?_
  rw [hread]
  exact (faults_call ho).trans MySQL.faults_fetchFirst

theorem framed_close : Framed .mysql_close env amx params 1 (n_mysql_close env params : Native N Cell) := by
  refine framed_onConnection .mysql_close fun w h o ho hconn =>
    iff_of_false ?_ (MySQL.not_misreads rfl rfl)
  refine mt (faults_bind_of_safe fun _ => .pure _).1 ?_
  exact not_faults_deleteMySQL ho (hasClient_of_isConnected hconn)

theorem framed_refresh :
    Framed .mysql_refresh env amx params 2 (n_mysql_refresh env params : Native N Cell) :=
  ⟨_, _, _, faultsOn_of_safe (fun _ => safeOn_call (MySQL.safeOn_refresh _))
    fun _ => MySQL.not_misreads rfl rfl, rfl⟩

theorem framed_select_db :
    Framed .mysql_select_db env amx params 2 (n_mysql_select_db env amx params : Native N Cell) := by
  refine framed_of_safe .mysql_select_db rfl rfl fun h => (safeOn_GetString _).bind fun dbname => ?_
  refine (safeOn_call (MySQL.safeOn_select_db _)).bind fun result => ?_
  exact (safeOn_safeDelete dbname).bind fun _ => .pure result

theorem framed_query :
    Framed .mysql_query env amx params 4 (n_mysql_query env amx params : Native N Cell) :=
  framed_of_safe .mysql_query rfl rfl fun _ =>
    (safeOn_GetString _).bind fun _ => safeOn_call (MySQL.safeOn_query _ _ _)

theorem framed_query_array :
    Framed .mysql_query_array env amx params 4 (n_mysql_query_array env amx params : Native N Cell) :=
  framed_of_safe .mysql_query_array rfl rfl fun _ =>
    (safeOn_GetString _).bind fun _ => (safeOn_GetString _).bind fun _ =>
      safeOn_call (MySQL.safeOn_query_array _ _ _)

theorem framed_data_seek :
    Framed .mysql_data_seek env amx params 2 (n_mysql_data_seek env params : Native N Cell) :=
  framed_of_safe .mysql_data_seek rfl rfl fun _ => safeOn_call (MySQL.safeOn_data_seek _)

theorem framed_set_character_set :
    Framed .mysql_set_character_set env amx params 2
      (n_mysql_set_character_set env amx params : Native N Cell) := by
  refine framed_of_safe .mysql_set_character_set rfl rfl fun h =>
    (safeOn_GetString _).bind fun charset => ?_
  refine (safeOn_call (MySQL.safeOn_askNumber _ _)).bind fun result => ?_
  exact (safeOn_safeDelete charset).bind fun _ => .pure result

theorem framed_real_escape_string :
    Framed .mysql_real_escape_string env amx params 3
      (n_mysql_real_escape_string env amx params : Native N Cell) := by
  refine framed_of_safe .mysql_real_escape_string rfl rfl fun h =>
    (safeOn_GetString _).bind fun input => ?_
  refine (safeOn_call (MySQL.safeOn_real_escape_string _)).bind fun text => ?_
  refine (safeOn_newString text).bind fun out => (safeOn_safeDelete input).bind fun _ => ?_
  exact (safeOn_SetString _ _).bind fun _ => (safeOn_safeDelete out).bind fun _ => .pure 1

theorem framed_fetch_row :
    Framed .mysql_fetch_row env amx params 3 (n_mysql_fetch_row env amx params : Native N Cell) := by
  refine framed_of_safe .mysql_fetch_row rfl rfl fun h =>
    (safeOn_GetString _).bind fun splitter => ?_
  refine (safeOn_call (MySQL.safeOn_fetch_row _)).bind fun row => ?_
  cases row with
  | none => exact .pure 0
  | some text =>
      refine (safeOn_newString text).bind fun row => (safeOn_SetString _ _).bind fun _ => ?_
      exact (safeOn_safeDelete row).bind fun _ => .pure 1

theorem framed_fetch_string :
    Framed .mysql_fetch_string env amx params 2 (n_mysql_fetch_string env params : Native N Cell) := by
  refine framed_onConnection .mysql_fetch_string fun w h o ho _ => ?_
  refine (faults_bind_of_safe fun string => safe_giveString _ string).trans ?_
  exact (faults_call ho).trans MySQL.faults_fetchFirst

theorem framed_fetch_field_num :
    Framed .mysql_fetch_field_num env amx params 3
      (n_mysql_fetch_field_num env params : Native N Cell) := by
  refine framed_onConnection .mysql_fetch_field_num fun w h o ho _ => ?_
  refine (faults_bind_of_safe fun field => safe_giveString _ field).trans ?_
  exact (faults_call ho).trans MySQL.faults_fetch_field_num

theorem framed_fetch_field :
    Framed .mysql_fetch_field env amx params 3 (n_mysql_fetch_field env amx params : Native N Cell) := by
  refine framed_onConnection .mysql_fetch_field fun w h o ho _ => ?_
  refine faults_GetString_bind.trans ?_
  refine (faults_bind_of_safe fun field => (safe_safeDelete _).bind fun _ =>
    safe_giveString _ field).trans ?_
  exact (faults_call (w := { w with created := w.created + 1 }) ho).trans MySQL.faults_fetch_field

/-- Every native on a connection has the frame. -/
theorem framed_function (name : NativeName) (env : Env) (amx : Memory) (params : List Cell)
    (hinit : name ≠ .mysql_init) (hconnect : name ≠ .mysql_connect) {i : ℕ}
    (hi : name.handleAt = some i) :
    Framed name env amx params i (name.function env amx params : Native N Cell) := by
  cases name with
  | mysql_init => exact absurd rfl hinit
  | mysql_connect => exact absurd rfl hconnect
  | mysql_close =>
      cases hi
      exact framed_close
  | mysql_refresh =>
      cases hi
      exact framed_refresh
  | mysql_select_db =>
      cases hi
      exact framed_select_db
  | mysql_query =>
      cases hi
      exact framed_query
  | mysql_query_array =>
      cases hi
      exact framed_query_array
  | mysql_data_seek =>
      cases hi
      exact framed_data_seek
  | mysql_set_character_set =>
      cases hi
      exact framed_set_character_set
  | mysql_real_escape_string =>
      cases hi
      exact framed_real_escape_string
  | mysql_fetch_row =>
      cases hi
      exact framed_fetch_row
  | mysql_fetch_string =>
      cases hi
      exact framed_fetch_string
  | mysql_fetch_field_num =>
      cases hi
      exact framed_fetch_field_num
  | mysql_fetch_field =>
      cases hi
      exact framed_fetch_field
  | mysql_fetch_int | mysql_fetch_float =>
      cases hi
      exact framed_fetchFirst rfl fun _ => .rfl
  | mysql_store_result =>
      cases hi
      exact framed_callOnly rfl rfl rfl MySQL.safeOn_store_result
  | mysql_free_result =>
      cases hi
      exact framed_callOnly rfl rfl rfl MySQL.safeOn_free_result
  | mysql_result_stored =>
      cases hi
      exact framed_callOnly rfl rfl rfl MySQL.safeOn_result_stored
  | mysql_fetch_row_data =>
      cases hi
      exact framed_callOnly rfl rfl rfl MySQL.safeOn_fetch_row_data
  | mysql_num_rows | mysql_num_fields =>
      cases hi
      exact framed_callOnly rfl rfl rfl (MySQL.safeOn_askResult _ _)
  | mysql_affected_rows | mysql_insert_id | mysql_ping | mysql_errno | mysql_warning_count =>
      cases hi
      exact framed_callOnly rfl rfl rfl (MySQL.safeOn_askNumber _ _)
  | mysql_error | mysql_info | mysql_stat | mysql_get_character_set | mysql_get_server_info
  | mysql_get_host_info =>
      cases hi
      exact framed_tellString rfl rfl rfl

/-! ## When a native faults -/

theorem faults_slotOf_bind {handle : Cell} {f : Fin N → Native N Cell} :
    Faults (slotOf handle >>= f) w ↔
      (∀ h : Fin N, handle ≠ h) ∨ ∃ h : Fin N, handle = h ∧ Faults (f h) w := by
  by_cases hslot : ∃ h : Fin N, handle = h
  · obtain ⟨h, hh⟩ := hslot
    rw [faults_bind_of_ok (slotOf_of_eq hh)]
    constructor
    · intro hf
      exact .inr ⟨h, hh, hf⟩
    · rintro (hno | ⟨k, hk, hf⟩)
      · exact absurd hh (hno h)
      · obtain rfl : h = k := Fin.ext (by exact_mod_cast hh.symm.trans hk)
        exact hf
  · refine iff_of_true (Faults.bind ⟨.outOfRange handle, ?_⟩) (.inl fun h hh => hslot ⟨h, hh⟩)
    rw [slotOf, dif_neg]
    · rfl
    · rintro ⟨hle, hlt⟩
      exact hslot ⟨⟨handle.toNat, hlt⟩, (Int.toNat_of_nonneg hle).symm⟩

theorem faults_read_bind {f : Option MySQL → Native N Cell} :
    Faults (read h >>= f) w ↔ Faults (f (w.my h)) w := by
  unfold Faults
  rw [read_bind]

theorem faults_CHECK_PARAMS {f : String} {n : ℕ} {r : Cell} {rest : Native N Cell} :
    Faults (CHECK_PARAMS params f n r rest) w ↔ param params 0 = n * cellSize ∧ Faults rest w := by
  by_cases hp : param params 0 = n * cellSize
  · rw [check_params_eq hp]
    exact ⟨fun hf => ⟨hp, hf⟩, And.right⟩
  · rw [CHECK_PARAMS, if_pos hp]
    exact iff_of_false (not_faults_of_ok rfl) fun hf => hp hf.1

/-- What a native that is not refused for its parameters stumbles over in the slot of its handle. -/
def Stumbles (name : NativeName) (lib : Answers) (amx : Memory) (params : List Cell) :
    Option MySQL → Prop
  | none => name ≠ .mysql_connect
  | some o =>
    if name = .mysql_connect then ¬ o.HasClient
    else isConnected (some o) = true ∧ o.Misreads name lib amx params

theorem faults_CHECK_CONNECTION {name : NativeName} (hconnect : name ≠ .mysql_connect) {handle : Cell}
    {label : String} {rest : Fin N → Native N Cell} (hrest : FaultsOn name env amx params rest) :
    Faults (CHECK_CONNECTION env handle label rest) w ↔
      (∀ h : Fin N, handle ≠ h) ∨
        ∃ h : Fin N, handle = h ∧ Stumbles name env.lib amx params (w.my h) := by
  refine faults_slotOf_bind.trans (or_congr_right (exists_congr fun h => and_congr_right fun _ => ?_))
  rw [faults_read_bind]
  cases ho : w.my h with
  | none => exact iff_of_true (faults_call_none ho) hconnect
  | some o =>
      rw [Stumbles, if_neg hconnect]
      by_cases hconn : isConnected (some o) = true
      · rw [if_pos hconn, hrest w h o ho hconn]
        exact ⟨fun hm => ⟨hconn, hm⟩, And.right⟩
      · rw [if_neg hconn, faults_call ho]
        exact iff_of_false ((MySQL.safe_Error _ _ _).not_faults o) fun hf => hconn hf.1

/-- The object a member function is called on right after `new` is there. -/
theorem safe_newMySQL_call {method : Method Cell} (hmethod : Safe method) :
    Safe (do newMySQL env h; call h method : Native N Cell) := by
  intro w f hf
  have hnew : ({ w.set h (some (MySQL.new env w.created h)) with created := w.created + 1 } :
      World N).my h = some (MySQL.new env w.created h) := by simp [World.set]
  have hcall := (faults_bind_of_ok (m := newMySQL env h) (f := fun _ => call h method) rfl).1 ⟨f, hf⟩
  exact hmethod.not_faults _ ((faults_call hnew).1 hcall)

theorem safe_init : Safe (n_mysql_init env params : Native N Cell) := by
  refine .ite (Safe.bind (.emit _) fun _ => .pure _) (Safe.bind .get fun w => ?_)
  cases freeSlot w.my with
  | none => exact Safe.bind (.emit _) fun _ => Safe.bind (.emit _) fun _ => .pure _
  | some h => exact safe_newMySQL_call (MySQL.safe_init _ _ _)

/-- What follows a string parameter faults in whatever world the string was allocated in. -/
theorem faults_of_GetString {addr : Cell} {f : CharPtr → Native N Cell}
    (hf : ∀ (p : CharPtr) (w' : World N), w'.my = w.my → Faults (f p) w') :
    Faults (GetString amx addr >>= f) w :=
  faults_GetString_bind.2 (hf _ _ rfl)

theorem faults_connect : Faults (n_mysql_connect env amx params) w ↔
    param params 0 = NativeName.mysql_connect.paramCount * cellSize ∧
      ((∀ h : Fin N, param params 5 ≠ h) ∨
        ∃ h : Fin N, param params 5 = h ∧ Stumbles .mysql_connect env.lib amx params (w.my h)) := by
  refine faults_CHECK_PARAMS.trans (and_congr_right fun _ => faults_slotOf_bind.trans
    (or_congr_right (exists_congr fun h => and_congr_right fun _ => ?_)))
  rw [faults_read_bind]
  cases ho : w.my h with
  | none => exact iff_of_false (not_faults_of_ok rfl) fun hne => hne rfl
  | some o =>
      rw [Stumbles, if_pos rfl]
      by_cases hclient : o.HasClient
      · refine iff_of_false (SafeOn.not_faults (I := Client h) ?_ ⟨o, ho, hclient⟩) (not_not.2 hclient)
        exact (safeOn_GetString _).bind fun host => (safeOn_GetString _).bind fun user =>
          (safeOn_GetString _).bind fun pass => (safeOn_GetString _).bind fun db =>
          (safeOn_call (MySQL.safeOn_connect _)).bind fun result => (safeOn_safeDelete host).bind fun _ =>
          (safeOn_safeDelete user).bind fun _ => (safeOn_safeDelete pass).bind fun _ =>
          (safeOn_safeDelete db).bind fun _ => .pure result
      · refine iff_of_true ?_ hclient
        refine faults_of_GetString fun host w₁ h₁ => faults_of_GetString fun user w₂ h₂ =>
          faults_of_GetString fun pass w₃ h₃ => faults_of_GetString fun db w₄ h₄ => Faults.bind ?_
        have ho' : w₄.my h = some o := by rw [h₄, h₃, h₂, h₁, ho]
        exact (faults_call ho').2 (MySQL.faults_connect hclient)

/-- **Which calls of a native bring the plugin down**: with the parameter count it asks for, those
    whose handle lies outside the table, and those that stumble over what they find in its slot. -/
theorem faults_iff (name : NativeName) (env : Env) (amx : Memory) (params : List Cell) (w : World N) :
    Faults (name.function env amx params) w ↔
      param params 0 = name.paramCount * cellSize ∧ ∃ handle, name.handle params = some handle ∧
        ((∀ h : Fin N, handle ≠ h) ∨
          ∃ h : Fin N, handle = h ∧ Stumbles name env.lib amx params (w.my h)) := by
  by_cases hinit : name = .mysql_init
  · subst hinit
    exact iff_of_false (safe_init.not_faults w) (by rintro ⟨-, handle, hhandle, -⟩; cases hhandle)
  · by_cases hconnect : name = .mysql_connect
    · subst hconnect
      refine faults_connect.trans (and_congr_right fun _ => ?_)
      constructor
      · intro hf
        exact ⟨_, rfl, hf⟩
      · rintro ⟨_, hhandle, hf⟩
        cases hhandle
        exact hf
    · obtain ⟨i, hi⟩ : ∃ i, name.handleAt = some i := by
        cases name <;> first | exact absurd rfl hinit | exact ⟨_, rfl⟩
      obtain ⟨f, label, rest, hrest, hframe⟩ := framed_function name env amx params hinit hconnect hi
      rw [hframe, faults_CHECK_PARAMS, faults_CHECK_CONNECTION hconnect hrest, NativeName.handle, hi]
      simp

end Natives
end MysqlPlugin
