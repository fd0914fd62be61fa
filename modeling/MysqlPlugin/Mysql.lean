import Mathlib.Algebra.Group.Int.Defs
import Mathlib.Algebra.Group.Nat.Defs
import MysqlPlugin.Base
import MysqlPlugin.Lib.Prog

set_option autoImplicit false

/-! # The class `MySQL` (`Mysql.cpp`) and `Error` (`Main.cpp`)

One definition for each member function, in the order of the source. A member function is a program
over the object it is called on (`this`); the answers of the client library come from `Env`.

The scripts' `OnMysqlError` callbacks that `Error` executes can call natives in turn. `Error` is the
last thing every function does, so those natives follow the call as further calls of their own: here
`Error` records which callbacks it executes and with which arguments.

A string is its text in these definitions. The buffers are in `ScriptStrings.lean` (the strings of the
scripts, `real_escape_string`), `Messages.lean` and `RowBuffer.lean`; the two functions that write past
the end of a local buffer on their way, `fetch_field` and `fetch_row`, are defined once more in
`MySQL.Buffered`, with that buffer and its fault. -/

namespace MysqlPlugin

/-- The members of `class MySQL`, and which object it is (`conn`: objects are numbered as they are
    created, so an object is never confused with a later one at the same place). -/
structure MySQL where
  conn : ℕ
  id : ℕ
  mysql : Option MYSQL
  result : Option MYSQL_RES
  field : Option MYSQL_FIELD
  row : Option MYSQL_ROW
  connected : Bool
  state : ℤ
  logtype : ℕ
  printerrs : Bool
  parsing : Bool
  queryQueue : List QueryInfo
  threadQueue : List ThreadInfo
  deriving DecidableEq, Repr

/-- A member function of `MySQL`. -/
abbrev Method (α : Type) := Prog MySQL Event Fault α

/-! ## Printing and deleting -/

/-- `"%d"`. -/
def dec (n : ℤ) : String := toString n

/-- `"%s"`, also of a `NULL` string. -/
def str (text : Option String) : String := text.getD "(null)"

/-- A value stored in an `unsigned int`. -/
def unsigned (n : ℤ) : ℕ := (n % 2 ^ 32).toNat

/-- `(long)`, which is 32 bits wide on the platforms of the server. -/
def long (n : ℤ) : ℤ := Int.bmod n (2 ^ 32)

namespace MySQL

open Prog

variable (env : Env)

/-- `if ( logtype == LOG_ALL ) Log( line )`. -/
def logAll (line : String) : Method Unit := do
  let this ← get
  doIf (this.logtype = LogType.LOG_ALL.code) do
    emit (.logged line)

/-- A call of the client library that is given `mysql`. -/
def client (function : String) : Method Unit := do
  let this ← get
  match this.mysql with
  | none => fail (.nullClient function)
  | some _ => emit (.client this.conn function)

/-- `SAFE_DELETE` of a string. -/
def safeDelete (p : CharPtr) : Method Unit := emit (.delete p.ptr)

/-- Emit several events. -/
def emitAll (es : List Event) : Method Unit := fun this => .ok ((), this, es)

/-! ## `Error` -/

/-- `mysql_error` and `mysql_errno`, which also answer when `mysql` is `NULL`. -/
def clientError (function : String) : Method Unit := do
  let this ← get
  emit (.client this.conn function)

/-- The text of an error: the plugin's and, unless it is too short, the library's. -/
def errorText (error : String) : String :=
  if env.lib.error.length > 1 then error ++ ". " ++ env.lib.error ++ "." else error

/-- The line an error is printed and logged with, after the text `Error (id): `. -/
def errorLine (error : String) : String :=
  if env.lib.error.length > 1 then errorText env error else error ++ "."

/-- The id of an error: the given one, or the library's. -/
def errorId (errid : ℤ) : ℤ := if errid = -1 then env.lib.errno else errid

/-- The callbacks one call of `Error` executes, in the order of the script list. -/
def errorCallbacks (id : ℕ) (error : String) (errid : ℤ) : List Event :=
  (env.pAmx.filter (·.FindPublic "OnMysqlError")).map fun amx =>
    .callback amx "OnMysqlError"
      (amx_Push [.cell id, .cell errid, .string (some (errorText env error))])

/-- `Error( this, error, errid )`. -/
def Error (error : String) (errid : ℤ := -1) : Method ℤ := do
  clientError "mysql_error"
  doIf (errid = -1) do
    clientError "mysql_errno"
  let this ← get
  emit (.error this.conn error (errorId env errid))
  doIf this.printerrs do
    emit (.printed ("[MySQL] Error (" ++ dec this.id ++ "): " ++ errorLine env error))
  doIf (this.logtype = LogType.LOG_ALL.code ∨ this.logtype = LogType.LOG_ONLY_ERRORS.code) do
    emit (.logged ("Error (" ++ dec this.id ++ "): " ++ errorLine env error))
  emitAll (errorCallbacks env this.id error (errorId env errid))
  return 0

/-! ## Construction, connecting and closing -/

/-- `MySQL::MySQL`; `field` and `row` keep what was in memory. -/
def new (conn handle_id : ℕ) : MySQL where
  conn := conn
  id := handle_id
  mysql := none
  result := none
  field := env.lib.junkField
  row := env.lib.junkRow
  connected := false
  state := -1
  logtype := 0
  printerrs := false
  parsing := false
  queryQueue := []
  threadQueue := []

def init (log : ℤ) (print : Bool) : Method ℤ := do
  modify fun this =>
    { this with
      mysql := if env.lib.init then some MYSQL.fresh else none
      logtype := unsigned log
      printerrs := print }
  let this ← get
  logAll ("Function: mysql_init executed with result: \"" ++
    dec (if env.lib.init then this.id else -1) ++ "\".")
  if env.lib.init then
    return this.id
  let _ ← Error env "Failed to initialize"
  return -1

def connect (user : String) : Method ℤ := do
  client "mysql_real_connect"
  if env.lib.connect then
    let this ← get
    client "mysql_options"
    client "mysql_get_host_info"
    emit (.printed ("[MySQL] Connected (" ++ dec this.id ++ ") to '" ++ user ++ "'@'" ++
      str env.lib.hostInfo ++ "'."))
    client "mysql_get_server_info"
    emit (.printed ("[MySQL] Server Version " ++ str env.lib.serverInfo ++ "."))
    doIf (this.logtype > 0) do
      client "mysql_get_host_info"
      emit (.logged ("Connected (" ++ dec this.id ++ ") to " ++ user ++ " @ " ++
        str env.lib.hostInfo ++ "."))
      client "mysql_get_server_info"
      emit (.logged ("MySQL Server Version " ++ str env.lib.serverInfo ++ "."))
    modify fun this => { this with connected := true }
    return 1
  Error env "Failed to connect"

/-- `if ( result ) { mysql_free_result( result ); result = NULL; }`, which four functions do. -/
def freeStored : Method Unit := do
  let this ← get
  match this.result with
  | none => pure ()
  | some res =>
    emit (.freed this.conn res.number)
    modify fun this => { this with result := none }

def close : Method Unit := do
  freeStored
  modify fun this => { this with row := none, field := none }
  let this ← get
  doIf this.mysql.isSome do
    doIf (this.logtype > 0) do
      emit (.logged "MySQL closed. Logging ended.")
    emit (.printed ("[MySQL] Closed (" ++ dec this.id ++ "). Logging ended."))
    client "mysql_close"
  modify fun this => { this with connected := false }

/-- `MySQL::~MySQL`. -/
def delete : Method Unit := do
  let this ← get
  doIf this.connected close

/-! ## Commands and queries -/

/-- The source tests the member `result` here, not the code the library returned. -/
def refresh (_options : Cell) : Method ℤ := do
  client "mysql_refresh"
  let res := env.lib.code
  logAll ("Function: mysql_reload executed with result: \"" ++ dec (if res ≠ 0 then 1 else 0) ++
    "\".")
  let this ← get
  if this.result.isSome then
    Error env "Failed to reload database"
  else
    return res

def select_db (_dbname : String) : Method ℤ := do
  client "mysql_select_db"
  let res := env.lib.code
  logAll ("Function: mysql_select_db executed with result: \"" ++ dec (if res ≠ 0 then 1 else 0) ++
    "\".")
  if res ≠ 0 then
    Error env "Failed to select database"
  else
    return res

/-- `queryQueue.push( entry )`. -/
def enqueue (entry : QueryInfo) : Method Unit := do
  let this ← get
  emit (.accepted this.conn entry)
  modify fun this => { this with queryQueue := this.queryQueue ++ [entry] }

/-- `state = mysql_real_query( mysql, query, strlen( query ) )`. -/
def realQuery (query : CharPtr) : Method Unit := do
  client "mysql_real_query"
  modify fun this =>
    { this with
      mysql := this.mysql.map (fun c => (c.submit query.text).answer env.lib)
      state := env.lib.code }

def query (query : CharPtr) (resultid extra : Cell) : Method ℤ := do
  freeStored
  if resultid ≠ -1 then
    enqueue
      { query := query
        resultId := resultid
        extraId := some extra
        extraVars := none
        type := .TYPE_ID }
    return 1
  realQuery env query
  let this ← get
  logAll ("Function: mysql_query executed: \"" ++ query.text ++ "\" with result: \"" ++
    dec this.state ++ "\".")
  safeDelete query
  if this.state ≠ 0 then
    Error env "Failed to exeute query"
  else
    return this.state

def query_array (query : CharPtr) (resultid : Cell) (extra : CharPtr) : Method ℤ := do
  freeStored
  if resultid ≠ -1 then
    enqueue
      { query := query
        resultId := resultid
        extraId := none
        extraVars := some extra
        type := .TYPE_ARRAY }
    return 1
  realQuery env query
  let this ← get
  logAll ("Function: mysql_query_array executed: \"" ++ query.text ++ "\" with result: \"" ++
    dec this.state ++ "\".")
  safeDelete query
  if this.state ≠ 0 then
    Error env "Failed to exeute query array"
  else
    return 1

/-! ## Result sets -/

def store_result : Method ℤ := do
  let this ← get
  if this.result.isSome then
    Error env ("Function: mysql_store_result called when result already stored. " ++
      "Use mysql_free_result first") PluginError.P_ERROR_RES.code
  else if this.state ≠ 0 then
    Error env "Function: mysql_store_result called when no prior successful query executed"
      PluginError.P_ERROR_NOQUERY.code
  else
    client "mysql_store_result"
    let stored := this.mysql.bind (·.storeResult env.lib)
    modify fun this =>
      { this with
        result := stored
        mysql := this.mysql.map (·.afterStore env.lib) }
    logAll ("Function: mysql_store_result executed with result: \"" ++
      dec (if stored.isSome then 1 else 0) ++ "\"")
    match stored with
    | none => Error env "Failed to store result"
    | some res =>
      emit (.stored this.conn res.number)
      return 1

def free_result : Method ℤ := do
  freeStored
  logAll "Function: mysql_free_result executed."
  modify fun this => { this with state := -1, row := none, field := none }
  return 1

def result_stored : Method ℤ := do
  logAll "Function: mysql_result_stored executed."
  let this ← get
  return if this.result.isSome then 1 else 0

/-- `row = mysql_fetch_row( result )`. -/
def fetchRow (res : MYSQL_RES) : Method (Option MYSQL_ROW) := do
  modify fun this => { this with row := res.fetchRow, result := some res.next }
  return res.fetchRow

/-- `row[ i ]`. -/
def rowCell (row : MYSQL_ROW) (i : ℤ) : Method (Option String) :=
  if i < 0 then fail (.rowIndex i)
  else
    match row.cells[i.toNat]? with
    | none => fail (.rowIndex i)
    | some cell => pure cell

/-- The row a field is read from: the cached one, or the next one when there is none. -/
def currentRow (res : MYSQL_RES) : Method (Option MYSQL_ROW) := do
  let this ← get
  match this.row with
  | some row => return some row
  | none => fetchRow res

/-- The loop of `fetch_field` over the columns from `i` on, and what follows it. The message is a text
    here; `Buffered.findField` prints it to the 128 bytes it has. -/
def findField (fieldname : String) (res : MYSQL_RES) (row : MYSQL_ROW) :
    ℕ → List String → Method (Option String)
  | _, [] => do
    let _ ← Error env ("Function: mysql_fetch_field could not find field name: \"" ++ fieldname ++
      "\"") PluginError.P_ERROR_NOFIELD.code
    return none
  | i, name :: names => do
    modify fun this => { this with field := some ⟨res.number, i, name⟩ }
    if fieldname = name then
      match ← rowCell row i with
      | some cell => return some cell
      | none =>
        let _ ← Error env "Function: mysql_fetch_field failed, no field data"
          PluginError.P_ERROR_NOFIELDDATA.code
        return none
    else
      findField fieldname res row (i + 1) names

def fetch_field (fieldname : String) : Method (Option String) := do
  let this ← get
  match this.result with
  | none =>
    let _ ← Error env "Function: mysql_fetch_field called when no result stored"
      PluginError.P_ERROR_NORES.code
    return none
  | some res =>
    logAll "Function: mysql_fetch_field executed."
    match ← currentRow res with
    | none => return none
    | some row => findField env fieldname res row 0 res.set.fields

def fetch_field_num (fieldnum : Cell) : Method (Option String) := do
  let this ← get
  match this.result with
  | none =>
    let _ ← Error env "Function: mysql_store_result called when no result stored"
      PluginError.P_ERROR_NORES.code
    return none
  | some res =>
    logAll "Function: mysql_fetch_field_num executed."
    match ← currentRow res with
    | some row => rowCell row fieldnum
    | none =>
      let _ ← Error env "Function: mysql_fetch_field failed, no field data"
        PluginError.P_ERROR_NOFIELDDATA.code
      return none

/-- What the `strcat` loop of `fetch_row` puts together in a buffer that is large enough;
    `Buffered.fetch_row` runs it in the buffer it has. -/
def joinRow (splitter : String) : List (Option String) → String
  | [] => ""
  | [cell] => cell.getD "NULL"
  | cell :: cells => cell.getD "NULL" ++ splitter ++ joinRow splitter cells

def fetch_row (splitter : String) : Method (Option String) := do
  let this ← get
  match this.result with
  | none =>
    let _ ← Error env "Function: mysql_store_result called when no result stored"
      PluginError.P_ERROR_NORES.code
    return none
  | some res =>
    match ← fetchRow res with
    | none => return none
    | some row =>
      let buffer := joinRow splitter row.cells
      logAll ("Function: mysql_fetch_row executed with result: \"" ++ buffer ++ "\".")
      return some buffer

def fetch_row_data : Method ℤ := do
  let this ← get
  match this.result with
  | none =>
    Error env "Function: mysql_store_result called when no result stored"
      PluginError.P_ERROR_NORES.code
  | some res =>
    logAll "Function: mysql_fetch_row_data executed."
    match ← fetchRow res with
    | some _ => return 1
    | none =>
      Error env "Function: mysql_fetch_row_data failed, no field data"
        PluginError.P_ERROR_NOFIELDDATA.code

def real_escape_string (string : String) : Method String := do
  client "mysql_real_escape_string"
  logAll ("Function: mysql_real_esacpe_string executed: \"" ++ string ++ "\" with result: \"" ++
    env.lib.escaped ++ "\".")
  return env.lib.escaped

/-- The functions that report a number about the stored result set. -/
def askResult (function : String) (ask : MYSQL_RES → ℤ) : Method ℤ := do
  let this ← get
  match this.result with
  | none =>
    Error env ("Function: " ++ function ++ " called when no result stored")
      PluginError.P_ERROR_NORES.code
  | some res =>
    logAll ("Function: " ++ function ++ " executed with result: \"" ++ dec (ask res) ++ "\".")
    return ask res

def num_rows : Method ℤ := askResult env "mysql_num_rows" (fun res => long res.set.rows.length)

def num_fields : Method ℤ := askResult env "mysql_num_fields" (fun res => res.set.fields.length)

/-! ## Questions to the client library -/

/-- The functions that hand a number of the library through. -/
def askNumber (function : String) (answer : ℤ) : Method ℤ := do
  client function
  logAll ("Function: " ++ function ++ " executed with result: \"" ++ dec answer ++ "\".")
  return answer

def affected_rows : Method ℤ := askNumber "mysql_affected_rows" (long env.lib.number)

def insert_id : Method ℤ := askNumber "mysql_insert_id" (long env.lib.number)

def ping : Method ℤ := askNumber "mysql_ping" env.lib.code

def errorno : Method ℤ := askNumber "mysql_errno" env.lib.errno

def warning_count : Method ℤ := askNumber "mysql_warning_count" env.lib.number

def set_character_set (_charset : String) : Method ℤ :=
  askNumber "mysql_set_character_set" env.lib.code

/-- The functions that hand a string of the library through. -/
def askText (function logged : String) (answer : Option String) : Method (Option String) := do
  client function
  logAll ("Function: " ++ logged ++ " executed with result: \"" ++ str answer ++ "\".")
  return answer

def error : Method (Option String) := askText "mysql_error" "mysql_error" (some env.lib.error)

def info : Method (Option String) := askText "mysql_info" "mysql_info" env.lib.text

def stat : Method (Option String) := askText "mysql_stat" "mysql_stat" env.lib.text

def get_server_info : Method (Option String) :=
  askText "mysql_get_server_info" "mysql_get_server_info" env.lib.serverInfo

def get_host_info : Method (Option String) :=
  askText "mysql_get_host_info" "mysql_get_host_info" env.lib.hostInfo

/-- The source prints this string with `%d`; the line below has its text. -/
def get_character_set : Method (Option String) :=
  askText "mysql_character_set_name" "mysql_get_character_set" env.lib.text

/-! ## Moving and converting -/

/-- `unsigned long` is 32 bits wide on the platforms of the server. -/
def data_seek (row : Cell) : Method ℤ := do
  let this ← get
  match this.result with
  | none =>
    Error env "Function: mysql_data_seek called when no result stored"
      PluginError.P_ERROR_NORES.code
  | some res =>
    logAll "Function: mysql_data_seek executed."
    modify fun this => { this with result := some { res with cursor := (row % 2 ^ 32).toNat } }
    return 1

/-- The value of the decimal digits at the front of a string. -/
def digits (n : ℤ) : List Char → ℤ
  | [] => n
  | c :: cs => if c.isDigit then digits (10 * n + (c.toNat - '0'.toNat)) cs else n

/-- `isspace`: blank, tab, line feed, vertical tab, form feed and carriage return. -/
def isspace (c : Char) : Bool := c = ' ' || ('\t' ≤ c && c ≤ '\r')

/-- `atoi`: white space, a sign and decimal digits, as far as they go. -/
def atoi (text : String) : ℤ :=
  match text.toList.dropWhile isspace with
  | '-' :: cs => -digits 0 cs
  | '+' :: cs => digits 0 cs
  | cs => digits 0 cs

/-- The functions that read the first column of the next row. -/
def fetchFirst {α : Type} (refused absent : α) (noResult : String) (convert : Option String → α)
    (logged : α → String) : Method α := do
  let this ← get
  match this.result with
  | none =>
    let _ ← Error env noResult PluginError.P_ERROR_NORES.code
    return refused
  | some res =>
    match ← fetchRow res with
    | none => return absent
    | some row =>
      let cell ← rowCell row 0
      logAll (logged (convert cell))
      return convert cell

def fetch_int : Method ℤ :=
  fetchFirst env 0 0 "Function: mysql_fetch_int called when no result stored"
    (fun cell => atoi (cell.getD "0"))
    (fun res => "Function: mysql_fetch_int executed with result: \"" ++ dec res ++ "\".")

/-- The value is the cell `amx_ftoc` makes of the `float`; the logged line prints the number. -/
def fetch_float : Method Cell :=
  fetchFirst env 0 0 "Function: mysql_fetch_float called when no result stored"
    (fun cell => env.lib.atof (cell.getD "0.0"))
    (fun res => "Function: mysql_fetch_float executed with result: \"" ++ dec res ++ "\".")

def fetch_string : Method (Option String) :=
  fetchFirst env none none "Function: mysql_fetch_float called when no result stored"
    (fun cell => cell)
    (fun res => "Function: mysql_fetch_string executed with result: \"" ++ str res ++ "\".")

end MySQL
end MysqlPlugin
