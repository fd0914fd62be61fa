import Mathlib.Data.Fintype.Defs
import MysqlPlugin.Mysql

set_option autoImplicit false

/-! # The natives (`Natives.cpp`, and the macros and string helpers of `Main.h` and `Main.cpp`)

The handle table `my[ MAX_CONNECTIONS ]` is a partial function from its `N` slots to objects. A native
is a program over the table, the list of loaded scripts and the count of allocations (`World`); it
gets the script's data (`Memory`) and the parameter array, whose first cell is the size of the
parameters in bytes.

Every native that takes a handle looks up `my[ handle ]` with the cell the script passed. `slotOf` is
that lookup: an index outside the table is a fault, not a value. -/

namespace MysqlPlugin

/-- The handle table, the loaded scripts in load order, and how many allocations were made so far
    (objects and string buffers are numbered by it). -/
structure World (N : ℕ) where
  my : Fin N → Option MySQL
  pAmx : List AMX
  created : ℕ

/-- A native, or a part of one. -/
abbrev Native (N : ℕ) (α : Type) := Prog (World N) Event Fault α

/-- Put an object, or `NULL`, into a slot. -/
def World.set {N : ℕ} (w : World N) (h : Fin N) (v : Option MySQL) : World N :=
  { w with my := Function.update w.my h v }

/-- Putting back what is there changes nothing. -/
theorem World.set_of_eq {N : ℕ} {w : World N} {h : Fin N} {v : Option MySQL} (hv : w.my h = v) :
    w.set h v = w := by
  rw [World.set, ← hv, Function.update_eq_self]

namespace Natives

open Prog

variable {N : ℕ} (env : Env) (amx : Memory) (params : List Cell)

/-- `params[ i ]`. -/
def param (i : ℕ) : Cell := params.getD i 0

/-! ## The table -/

/-- The index of `my[ handle ]`. -/
def slotOf (handle : Cell) : Native N (Fin N) :=
  if h : 0 ≤ handle ∧ handle.toNat < N then pure ⟨handle.toNat, h.2⟩ else fail (.outOfRange handle)

/-- `my[ handle ]`. -/
def read (h : Fin N) : Native N (Option MySQL) := fun w => .ok (w.my h, w, [])

/-- `my[ handle ]->method( ... )`. -/
def call {α : Type} (h : Fin N) (method : Method α) : Native N α := fun w =>
  match w.my h with
  | none => .error (.nullMySQL h)
  | some this =>
    match method this with
    | .error f => .error f
    | .ok (a, this', es) => .ok (a, w.set h (some this'), es)

/-! ## Strings -/

/-- `new char[ ]` with the text that is then written to it. -/
def newString (text : String) : Native N CharPtr := fun w =>
  .ok (⟨w.created, text⟩, { w with created := w.created + 1 }, [.newString w.created])

/-- `SAFE_DELETE` of a string. -/
def safeDelete (p : CharPtr) : Native N Unit := emit (.delete p.ptr)

/-- The C string an unpacked Pawn string is copied to: the low byte of every cell before the zero
    cell, up to the first byte that is itself zero. -/
def cString (cells : List Cell) : String :=
  String.ofList ((((cells.takeWhile (· ≠ 0)).map (fun c => (c % 256).toNat)).takeWhile (· ≠ 0)).map
    Char.ofNat)

/-- `GetString`: the empty string becomes the text `NULL`. -/
def GetString (addr : Cell) : Native N CharPtr :=
  if ((amx addr).takeWhile (· ≠ 0)).isEmpty then newString "NULL"
  else newString (cString (amx addr))

/-- `SetString`, which takes `strlen` of the source. -/
def SetString (addr : Cell) (source : Option String) : Native N Unit :=
  match source with
  | none => fail .nullString
  | some text => emit (.setString addr text)

/-! ## The macros -/

/-- `CHECK_PARAMS( f, n, r )`, followed by the rest of the native. -/
def CHECK_PARAMS (f : String) (n : ℕ) (r : Cell) (rest : Native N Cell) : Native N Cell :=
  if param params 0 ≠ n * cellSize then do
    emit (.printed ("Function: " ++ f ++ " called with incorrect parameter count."))
    return r
  else rest

/-- The negation of the condition of `CHECK_CONNECTION`. -/
def isConnected : Option MySQL → Bool
  | none => false
  | some v => v.mysql.isSome && v.connected

/-- The message of `CHECK_CONNECTION`. -/
def notConnected (n : String) : String :=
  "Function: " ++ n ++ " called when not connected to any database"

/-- `CHECK_CONNECTION( my[ handle ], n )`, followed by the rest of the native. The error branch hands
    `my[ handle ]` to `Error`, whatever it is. -/
def CHECK_CONNECTION (handle : Cell) (n : String) (rest : Fin N → Native N Cell) :
    Native N Cell := do
  let h ← slotOf handle
  let v ← read h
  if isConnected v then
    rest h
  else
    call h (MySQL.Error env (notConnected n) PluginError.P_ERROR_DBNOCONN.code)

/-- The frame of the natives that work on a connection: `n` parameters, the handle in the `i`-th. -/
def onConnection (name : String) (n i : ℕ) (rest : Fin N → Native N Cell) : Native N Cell :=
  CHECK_PARAMS params name n 0 (CHECK_CONNECTION env (param params i) name rest)

/-! ## Opening and closing handles -/

/-- The lowest slot that is `NULL`. -/
def freeSlot (my : Fin N → Option MySQL) : Option (Fin N) :=
  (List.finRange N).find? (fun i => (my i).isNone)

/-- `my[ handle ] = new MySQL( handle )`. -/
def newMySQL (h : Fin N) : Native N Unit := fun w =>
  .ok ((), { w.set h (some (MySQL.new env w.created h)) with created := w.created + 1 },
    [.opened w.created h])

/-- `SAFE_DELETE( my[ handle ] )`. -/
def deleteMySQL (h : Fin N) : Native N Unit := do
  let v ← read h
  match v with
  | none => pure ()
  | some this =>
    emit (.closed this.conn h this.queryQueue this.threadQueue)
    call h MySQL.delete
    modify fun w => w.set h none

def n_mysql_init : Native N Cell :=
  CHECK_PARAMS params "mysql_init" 2 (-1) do
    let w ← get
    match freeSlot w.my with
    | none =>
      emit (.printed ("[MySQL] Error: Max connections (" ++ dec N ++
        ") reached, could not connect."))
      emit (.logged ("Max connections (" ++ dec N ++ ") reached, could not connect."))
      return -1
    | some h =>
      newMySQL env h
      call h (MySQL.init env (param params 1) (param params 2 ≠ 0))

def n_mysql_connect : Native N Cell :=
  CHECK_PARAMS params "mysql_connect" 6 (-1) do
    let handle := param params 5
    let h ← slotOf handle
    let v ← read h
    if v.isNone then
      emit (.logged ("Error (" ++ dec handle ++
        "): Function: mysql_connect failed, mysql was not initialized on this handle."))
      emit (.printed ("[MySQL] Error (" ++ dec handle ++
        "): Function: mysql_connect failed, mysql was not initialized on this handle."))
      return 0
    else
      let host ← GetString amx (param params 1)
      let user ← GetString amx (param params 2)
      let pass ← GetString amx (param params 3)
      let db ← GetString amx (param params 4)
      let result ← call h (MySQL.connect env user.text)
      safeDelete host
      safeDelete user
      safeDelete pass
      safeDelete db
      return result

def n_mysql_close : Native N Cell :=
  onConnection env params "mysql_close" 1 1 fun h => do
    deleteMySQL h
    return 1

/-! ## Commands and queries -/

/-- The only native whose two checks do not name the same function. -/
def n_mysql_refresh : Native N Cell :=
  CHECK_PARAMS params "mysql_refresh" 2 0 <|
    CHECK_CONNECTION env (param params 2) "mysql_reload" fun h =>
      call h (MySQL.refresh env (param params 1))

def n_mysql_select_db : Native N Cell :=
  onConnection env params "mysql_select_db" 2 2 fun h => do
    let dbname ← GetString amx (param params 1)
    let result ← call h (MySQL.select_db env dbname.text)
    safeDelete dbname
    return result

def n_mysql_query : Native N Cell :=
  onConnection env params "mysql_query" 4 4 fun h => do
    let query ← GetString amx (param params 1)
    call h (MySQL.query env query (param params 2) (param params 3))

def n_mysql_query_array : Native N Cell :=
  onConnection env params "mysql_query_array" 4 4 fun h => do
    let query ← GetString amx (param params 1)
    let extra ← GetString amx (param params 3)
    call h (MySQL.query_array env query (param params 2) extra)

/-! ## Natives that only call one member function -/

/-- The frame of the natives whose only parameter is the handle and that call one member function. -/
def callOnly (name : String) (method : Method ℤ) : Native N Cell :=
  onConnection env params name 1 1 fun h => call h method

def n_mysql_store_result : Native N Cell :=
  callOnly env params "mysql_store_result" (MySQL.store_result env)

def n_mysql_free_result : Native N Cell :=
  callOnly env params "mysql_free_result" MySQL.free_result

def n_mysql_result_stored : Native N Cell :=
  callOnly env params "mysql_result_stored" MySQL.result_stored

def n_mysql_fetch_row_data : Native N Cell :=
  callOnly env params "mysql_fetch_row_data" (MySQL.fetch_row_data env)

def n_mysql_num_rows : Native N Cell :=
  callOnly env params "mysql_num_rows" (MySQL.num_rows env)

def n_mysql_num_fields : Native N Cell :=
  callOnly env params "mysql_num_fields" (MySQL.num_fields env)

def n_mysql_affected_rows : Native N Cell :=
  callOnly env params "mysql_affected_rows" (MySQL.affected_rows env)

def n_mysql_insert_id : Native N Cell :=
  callOnly env params "mysql_insert_id" (MySQL.insert_id env)

def n_mysql_ping : Native N Cell :=
  callOnly env params "mysql_ping" (MySQL.ping env)

def n_mysql_errno : Native N Cell :=
  callOnly env params "mysql_errno" (MySQL.errorno env)

def n_mysql_warning_count : Native N Cell :=
  callOnly env params "mysql_warning_count" (MySQL.warning_count env)

def n_mysql_fetch_int : Native N Cell :=
  callOnly env params "mysql_fetch_int" (MySQL.fetch_int env)

def n_mysql_fetch_float : Native N Cell :=
  callOnly env params "mysql_fetch_float" (MySQL.fetch_float env)

/-! ## Natives that return a string through a destination -/

/-- `if ( field ) { SetString( amx, addr, field ); return 1; } return 0;` -/
def giveString (addr : Cell) : Option String → Native N Cell
  | none => pure 0
  | some text => do
    SetString addr (some text)
    return 1

def n_mysql_fetch_field : Native N Cell :=
  onConnection env params "mysql_fetch_field" 3 3 fun h => do
    let fieldname ← GetString amx (param params 1)
    let field ← call h (MySQL.fetch_field env fieldname.text)
    safeDelete fieldname
    giveString (param params 2) field

def n_mysql_fetch_field_num : Native N Cell :=
  onConnection env params "mysql_fetch_field_num" 3 3 fun h => do
    let field ← call h (MySQL.fetch_field_num env (param params 1))
    giveString (param params 2) field

/-- The splitter is not deleted; the buffer is the one `MySQL::fetch_row` allocated. -/
def n_mysql_fetch_row : Native N Cell :=
  onConnection env params "mysql_fetch_row" 3 3 fun h => do
    let splitter ← GetString amx (param params 2)
    let row ← call h (MySQL.fetch_row env splitter.text)
    match row with
    | none => return 0
    | some text =>
      let row ← newString text
      SetString (param params 1) (some row.text)
      safeDelete row
      return 1

/-- The output buffer is the one `MySQL::real_escape_string` allocated. -/
def n_mysql_real_escape_string : Native N Cell :=
  onConnection env params "mysql_real_escape_string" 3 3 fun h => do
    let input ← GetString amx (param params 1)
    let text ← call h (MySQL.real_escape_string env input.text)
    let out ← newString text
    safeDelete input
    SetString (param params 2) (some out.text)
    safeDelete out
    return 1

def n_mysql_fetch_string : Native N Cell :=
  onConnection env params "mysql_fetch_string" 2 2 fun h => do
    let string ← call h (MySQL.fetch_string env)
    giveString (param params 1) string

/-- The frame of the natives that hand a string of the library to the script. -/
def tellString (name : String) (method : Method (Option String)) : Native N Cell :=
  onConnection env params name 2 2 fun h => do
    let string ← call h method
    SetString (param params 1) string
    return if (string.getD "").length > 1 then 1 else 0

def n_mysql_error : Native N Cell := tellString env params "mysql_error" (MySQL.error env)

def n_mysql_info : Native N Cell := tellString env params "mysql_info" (MySQL.info env)

def n_mysql_stat : Native N Cell := tellString env params "mysql_stat" (MySQL.stat env)

def n_mysql_get_server_info : Native N Cell :=
  tellString env params "mysql_get_server_info" (MySQL.get_server_info env)

def n_mysql_get_host_info : Native N Cell :=
  tellString env params "mysql_get_host_info" (MySQL.get_host_info env)

def n_mysql_get_character_set : Native N Cell :=
  tellString env params "mysql_get_character_set" (MySQL.get_character_set env)

/-! ## The rest -/

def n_mysql_data_seek : Native N Cell :=
  onConnection env params "mysql_data_seek" 2 2 fun h =>
    call h (MySQL.data_seek env (param params 1))

def n_mysql_set_character_set : Native N Cell :=
  onConnection env params "mysql_set_character_set" 2 2 fun h => do
    let charset ← GetString amx (param params 1)
    let result ← call h (MySQL.set_character_set env charset.text)
    safeDelete charset
    return result

end Natives

/-! ## The table of natives -/

/-- The natives of `PluginNatives`, under the names they are registered with. -/
inductive NativeName
  | mysql_init
  | mysql_connect
  | mysql_close
  | mysql_refresh
  | mysql_select_db
  | mysql_query
  | mysql_query_array
  | mysql_store_result
  | mysql_free_result
  | mysql_result_stored
  | mysql_fetch_field
  | mysql_fetch_field_num
  | mysql_fetch_row
  | mysql_fetch_row_data
  | mysql_real_escape_string
  | mysql_num_rows
  | mysql_num_fields
  | mysql_affected_rows
  | mysql_insert_id
  | mysql_ping
  | mysql_error
  | mysql_errno
  | mysql_warning_count
  | mysql_info
  | mysql_stat
  | mysql_get_server_info
  | mysql_get_host_info
  | mysql_data_seek
  | mysql_set_character_set
  | mysql_get_character_set
  | mysql_fetch_int
  | mysql_fetch_float
  | mysql_fetch_string
  deriving DecidableEq, Repr

namespace NativeName

/-- Which parameter is the handle; `mysql_init` has none. -/
def handleAt : NativeName → Option ℕ
  | .mysql_init => none
  | .mysql_connect => some 5
  | .mysql_query | .mysql_query_array => some 4
  | .mysql_fetch_field | .mysql_fetch_field_num | .mysql_fetch_row => some 3
  | .mysql_real_escape_string => some 3
  | .mysql_refresh | .mysql_select_db | .mysql_error | .mysql_info | .mysql_stat => some 2
  | .mysql_get_server_info | .mysql_get_host_info | .mysql_data_seek => some 2
  | .mysql_set_character_set | .mysql_get_character_set | .mysql_fetch_string => some 2
  | _ => some 1

/-- The number of parameters `CHECK_PARAMS` asks for. -/
def paramCount : NativeName → ℕ
  | .mysql_init => 2
  | .mysql_connect => 6
  | .mysql_query | .mysql_query_array => 4
  | .mysql_fetch_field | .mysql_fetch_field_num | .mysql_fetch_row => 3
  | .mysql_real_escape_string => 3
  | .mysql_refresh | .mysql_select_db | .mysql_error | .mysql_info | .mysql_stat => 2
  | .mysql_get_server_info | .mysql_get_host_info | .mysql_data_seek => 2
  | .mysql_set_character_set | .mysql_get_character_set | .mysql_fetch_string => 2
  | _ => 1

/-- The handle a call passes. -/
def handle (n : NativeName) (params : List Cell) : Option Cell :=
  n.handleAt.map (Natives.param params)

end NativeName

/-- `PluginNatives`: the function behind a name. -/
def NativeName.function {N : ℕ} (n : NativeName) (env : Env) (amx : Memory) (params : List Cell) :
    Native N Cell :=
  match n with
  | .mysql_init => Natives.n_mysql_init env params
  | .mysql_connect => Natives.n_mysql_connect env amx params
  | .mysql_close => Natives.n_mysql_close env params
  | .mysql_refresh => Natives.n_mysql_refresh env params
  | .mysql_select_db => Natives.n_mysql_select_db env amx params
  | .mysql_query => Natives.n_mysql_query env amx params
  | .mysql_query_array => Natives.n_mysql_query_array env amx params
  | .mysql_store_result => Natives.n_mysql_store_result env params
  | .mysql_free_result => Natives.n_mysql_free_result env params
  | .mysql_result_stored => Natives.n_mysql_result_stored env params
  | .mysql_fetch_field => Natives.n_mysql_fetch_field env amx params
  | .mysql_fetch_field_num => Natives.n_mysql_fetch_field_num env params
  | .mysql_fetch_row => Natives.n_mysql_fetch_row env amx params
  | .mysql_fetch_row_data => Natives.n_mysql_fetch_row_data env params
  | .mysql_real_escape_string => Natives.n_mysql_real_escape_string env amx params
  | .mysql_num_rows => Natives.n_mysql_num_rows env params
  | .mysql_num_fields => Natives.n_mysql_num_fields env params
  | .mysql_affected_rows => Natives.n_mysql_affected_rows env params
  | .mysql_insert_id => Natives.n_mysql_insert_id env params
  | .mysql_ping => Natives.n_mysql_ping env params
  | .mysql_error => Natives.n_mysql_error env params
  | .mysql_errno => Natives.n_mysql_errno env params
  | .mysql_warning_count => Natives.n_mysql_warning_count env params
  | .mysql_info => Natives.n_mysql_info env params
  | .mysql_stat => Natives.n_mysql_stat env params
  | .mysql_get_server_info => Natives.n_mysql_get_server_info env params
  | .mysql_get_host_info => Natives.n_mysql_get_host_info env params
  | .mysql_data_seek => Natives.n_mysql_data_seek env params
  | .mysql_set_character_set => Natives.n_mysql_set_character_set env amx params
  | .mysql_get_character_set => Natives.n_mysql_get_character_set env params
  | .mysql_fetch_int => Natives.n_mysql_fetch_int env params
  | .mysql_fetch_float => Natives.n_mysql_fetch_float env params
  | .mysql_fetch_string => Natives.n_mysql_fetch_string env params

end MysqlPlugin
