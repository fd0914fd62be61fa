import Mathlib.Data.Int.Notation
import Mathlib.Data.Nat.Notation

set_option autoImplicit false

/-! # Shared declarations of the plugin (`Base.h`) and what it sees of its surroundings

The queue entries, the enumerations and the constants of `Base.h`; the parts of the Pawn machine
(`AMX`) and of the client library (`MYSQL`, `MYSQL_RES`, `MYSQL_ROW`, `MYSQL_FIELD`) that the plugin
works on; and the events and faults in which the behaviour of the code is described.

The client library and the server are not part of the plugin. Their answers to the calls made by one
native, or by one statement of the query thread, are an `Answers` record, and nothing is assumed about
it: every result about the code holds for all answers. What *is* modelled of the library is the
bookkeeping the plugin relies on: which statement was submitted last on a connection, the result set
it left unread, and the cursor of a stored result set. -/

namespace MysqlPlugin

/-- A 32-bit Pawn cell, as a signed number. -/
abbrev Cell := ℤ

/-- `sizeof( cell )`. -/
def cellSize : ℕ := 4

/-- `Base.h` builds the plugin with this many handles; the model keeps the number a parameter. -/
def MAX_CONNECTIONS : ℕ := 4

/-! ## Strings, queue entries and enumerations -/

/-- A `const char *` to a heap string: the buffer `new` returned and the text in it. Buffers are
    told apart by `ptr`, also after they were deleted. -/
structure CharPtr where
  ptr : ℕ
  text : String
  deriving DecidableEq, Repr

/-- `query_types`. -/
inductive QueryType
  | TYPE_ARRAY
  | TYPE_ID
  deriving DecidableEq, Repr

/-- `queryInfo`. A member that the enqueuing function leaves unassigned is `none`. -/
structure QueryInfo where
  query : CharPtr
  resultId : Cell
  extraId : Option Cell
  extraVars : Option CharPtr
  type : QueryType
  deriving DecidableEq, Repr

/-- `threadInfo`. For `extraVars`, `none` is also the `NULL` that `SAFE_DELETE` leaves behind. -/
structure ThreadInfo where
  resultId : Cell
  extraId : Option Cell
  extraVars : Option CharPtr
  type : QueryType
  deriving DecidableEq, Repr

/-- `log_types`. -/
inductive LogType
  | LOG_OFF
  | LOG_ALL
  | LOG_ONLY_ERRORS
  deriving DecidableEq, Repr

/-- The value of the enumerator. -/
def LogType.code (t : LogType) : ℕ := t.ctorIdx

/-- `plugin_errors`, in the order of the enumeration. -/
inductive PluginError
  | P_ERROR_NONE
  | P_ERROR_INCPARAMCNT
  | P_ERROR_INCVALUE
  | P_ERROR_MAXCONN
  | P_ERROR_DBNOCONN
  | P_ERROR_NORES
  | P_ERROR_RES
  | P_ERROR_NOFIELD
  | P_ERROR_NOFIELDDATA
  | P_ERROR_NOROWDATA
  | P_ERROR_CANTALLOC
  | P_ERROR_NOCALLBACK
  | P_ERROR_NOQUERY
  deriving DecidableEq, Repr

/-- The value of the enumerator. -/
def PluginError.code (e : PluginError) : ℤ := e.ctorIdx

example : PluginError.P_ERROR_DBNOCONN.code = 4 := rfl

/-! ## The Pawn side -/

/-- A loaded script: which one it is and the public functions it defines. -/
structure AMX where
  script : ℕ
  publics : List String
  deriving DecidableEq, Repr

/-- `amx_FindPublic( amx, name, &index ) == AMX_ERR_NONE`. -/
def AMX.FindPublic (amx : AMX) (name : String) : Bool := amx.publics.contains name

/-- The cells of a script's data from an address on. -/
abbrev Memory := Cell → List Cell

/-- What `amx_Push` and `amx_PushString` put on a script's stack; the string may be `NULL`. -/
inductive Arg
  | cell (value : Cell)
  | string (value : Option String)
  deriving DecidableEq, Repr

/-- The arguments a callback finds, when `amx_Push` was called with these in turn: every argument is
    pushed in front of those before it. -/
def amx_Push (pushed : List Arg) : List Arg := pushed.foldl (fun stack arg => arg :: stack) []

@[simp] theorem amx_Push_eq_reverse (pushed : List Arg) : amx_Push pushed = pushed.reverse := by
  simp [amx_Push]

/-! ## The client library -/

/-- A result set: the names of its columns and its rows, `none` for an SQL `NULL`. -/
structure ResultSet where
  fields : List String
  rows : List (List (Option String))
  deriving DecidableEq, Repr

/-- `MYSQL_RES`: a stored result set, which of the connection's it is, and its row cursor. -/
structure MYSQL_RES where
  number : ℕ
  set : ResultSet
  cursor : ℕ
  deriving DecidableEq, Repr

/-- `MYSQL_ROW`: a pointer into row `index` of result set `number`, and the cells found there. -/
structure MYSQL_ROW where
  number : ℕ
  index : ℕ
  cells : List (Option String)
  deriving DecidableEq, Repr

/-- `MYSQL_FIELD`: a pointer to column `index` of result set `number`, and its name. -/
structure MYSQL_FIELD where
  number : ℕ
  index : ℕ
  name : String
  deriving DecidableEq, Repr

/-- `MYSQL`: the statement most recently submitted, the result set it left on the connection, and
    how many result sets `mysql_store_result` has handed out so far. -/
structure MYSQL where
  submitted : Option String
  unread : Option ResultSet
  stored : ℕ
  deriving DecidableEq, Repr

/-- What the client library and the operating system answer to the calls one native, or one
    statement of the query thread, makes. -/
structure Answers where
  /-- `mysql_init` returns a handle. -/
  init : Bool := true
  /-- `mysql_real_connect` succeeds. -/
  connect : Bool := true
  /-- The code of `mysql_real_query`, `mysql_select_db`, `mysql_refresh`, `mysql_ping` and
      `mysql_set_character_set`. -/
  code : ℤ := 0
  /-- The result set the statement produced, if it produced one. -/
  rows : Option ResultSet := none
  /-- `mysql_store_result` can read and allocate the result set. -/
  store : Bool := true
  /-- `mysql_affected_rows` and `mysql_insert_id`, of 64 bits, and `mysql_warning_count`. -/
  number : ℤ := 0
  /-- `mysql_info`, `mysql_stat`, `mysql_character_set_name`. -/
  text : Option String := some ""
  hostInfo : Option String := some ""
  serverInfo : Option String := some ""
  errno : ℤ := 0
  error : String := ""
  /-- What `mysql_real_escape_string` writes. -/
  escaped : String := ""
  /-- `amx_ftoc( (float)atof( text ) )`. -/
  atof : String → Cell := fun _ => 0
  /-- What the members the constructor leaves unassigned happen to contain. -/
  junkRow : Option MYSQL_ROW := none
  junkField : Option MYSQL_FIELD := none

/-- A connection nothing was submitted on. -/
def MYSQL.fresh : MYSQL := ⟨none, none, 0⟩

/-- `mysql_real_query` is given the statement ... -/
def MYSQL.submit (c : MYSQL) (statement : String) : MYSQL := { c with submitted := some statement }

/-- ... and returns when the server has answered: a successful statement may leave a result set, one
    that fails leaves the connection as it was. -/
def MYSQL.answer (c : MYSQL) (lib : Answers) : MYSQL :=
  { c with unread := if lib.code = 0 then lib.rows else c.unread }

/-- The result set `mysql_store_result` returns. -/
def MYSQL.storeResult (c : MYSQL) (lib : Answers) : Option MYSQL_RES :=
  if lib.store then c.unread.map (fun set => ⟨c.stored, set, 0⟩) else none

/-- The connection after `mysql_store_result`. -/
def MYSQL.afterStore (c : MYSQL) (lib : Answers) : MYSQL :=
  { c with
    unread := none
    stored := if (c.storeResult lib).isSome then c.stored + 1 else c.stored }

/-- The row `mysql_fetch_row` returns: the one under the cursor, or `NULL` at the end. -/
def MYSQL_RES.fetchRow (res : MYSQL_RES) : Option MYSQL_ROW :=
  res.set.rows[res.cursor]?.map (fun cells => ⟨res.number, res.cursor, cells⟩)

/-- The result set after `mysql_fetch_row`. -/
def MYSQL_RES.next (res : MYSQL_RES) : MYSQL_RES :=
  if res.cursor < res.set.rows.length then { res with cursor := res.cursor + 1 } else res

/-- The surroundings of a call: the answers of the library and the loaded scripts. -/
structure Env where
  lib : Answers
  pAmx : List AMX

/-! ## Events and faults -/

/-- The two threads: the server's, which runs scripts and `ProcessTick`, and `QueryThread`. -/
inductive Thread
  | main
  | worker
  deriving DecidableEq, Repr

/-- What the code does that can be seen from outside, and the moments the properties speak of. The
    object (`MySQL *`) an event is about is named by its identity `conn`, never by its slot. -/
inductive Event
  /-- A client-library function is called on the connection of the object. -/
  | client (conn : ℕ) (function : String)
  /-- `mysql_store_result` returned a result set, `mysql_free_result` took it back. -/
  | stored (conn : ℕ) (number : ℕ)
  | freed (conn : ℕ) (number : ℕ)
  /-- A line for the log file (`Log`) or for the server console (`logprintf`). -/
  | logged (line : String)
  | printed (line : String)
  /-- `Error` is called, with the error id it settles on. -/
  | error (conn : ℕ) (error : String) (errid : ℤ)
  /-- A public function of a script is executed. -/
  | callback (amx : AMX) (callee : String) (args : List Arg)
  /-- `amx_SetString` on a destination in the script's data. -/
  | setString (addr : Cell) (source : String)
  /-- A string buffer is allocated or deleted. -/
  | newString (ptr : ℕ)
  | delete (ptr : ℕ)
  /-- `new MySQL( slot )` and `delete my[ slot ]`, the latter with the entries still queued. -/
  | opened (conn : ℕ) (slot : ℕ)
  | closed (conn : ℕ) (slot : ℕ) (queries : List QueryInfo) (results : List ThreadInfo)
  /-- `queryQueue.push` by a native. -/
  | accepted (conn : ℕ) (entry : QueryInfo)
  /-- The query thread: the front was copied, its statement handed to `mysql_real_query`, that call
      returned (with the code, and the result set the statement produced), the failure was handed to
      `Error`, the entry was popped. -/
  | copied (conn : ℕ) (entry : QueryInfo)
  | submitted (conn : ℕ) (entry : QueryInfo)
  | executed (conn : ℕ) (entry : QueryInfo) (code : ℤ) (rows : Option ResultSet)
  | reported (conn : ℕ) (entry : QueryInfo)
  | popped (conn : ℕ) (entry : QueryInfo)
  /-- The hand-over: `threadQueue.push`, and `ProcessTick` copying and popping the front. -/
  | pushed (conn : ℕ) (entry : ThreadInfo)
  | taken (conn : ℕ) (entry : ThreadInfo)
  | delivered (conn : ℕ) (entry : ThreadInfo)
  /-- One of the two loops evaluated the condition of its body for this object. -/
  | examined (loop : Thread) (conn : ℕ)
  deriving DecidableEq, Repr

/-- The first undefined operation of a run. -/
inductive Fault
  /-- `my[ index ]` with an index outside the array. -/
  | outOfRange (index : ℤ)
  /-- A member of `my[ slot ]` is used although the slot is `NULL`. -/
  | nullMySQL (slot : ℕ)
  /-- The client library is called with a `NULL` connection. -/
  | nullClient (function : String)
  /-- `pop` on an empty queue of the object in the slot. -/
  | emptyPop (slot : ℕ)
  /-- A `NULL` string is read. -/
  | nullString
  /-- `row[ index ]` with an index outside the row. -/
  | rowIndex (index : ℤ)
  /-- A write past the end of a local buffer. Only the functions of `MySQL.Buffered` have buffers. -/
  | overrun (buffer : String)
  deriving DecidableEq, Repr

end MysqlPlugin
