import MysqlPlugin.Calls
import MysqlPlugin.Lib.Cursor

set_option autoImplicit false

/-! # Reading a stored result set

Seven member functions read from the stored result set. They share the row cursor inside the client
library and the member `row`, and together the two are a `Cursor`: five of the functions take the next
row whatever is cached, `fetch_field` and `fetch_field_num` take one only if none is
(`FetchCall.access`). What a call returns is a function of the row it reads (`FetchCall.value`), and
every call does to the object what its access does to the cursor (`FetchCall.ends`). So any sequence of
calls is a run of the cursor (`ends_fetches`). -/

namespace MysqlPlugin

open Prog

/-! ## The stored result set as a cursor -/

/-- A result set has a column, and every row has a cell for each. -/
structure ResultSet.WellFormed (set : ResultSet) : Prop where
  pos : 0 < set.fields.length
  width : ∀ cells ∈ set.rows, cells.length = set.fields.length

namespace MYSQL_RES

/-- Row `i`, as `mysql_fetch_row` returns it. -/
def rowAt (res : MYSQL_RES) (i : ℕ) : Option MYSQL_ROW :=
  res.set.rows[i]?.map fun cells => ⟨res.number, i, cells⟩

/-- The cells of row `k`. -/
def cellsAt (res : MYSQL_RES) (k : Option ℕ) : Option (List (Option String)) :=
  k.bind (res.set.rows[·]?)

/-- The number of rows. -/
abbrev count (res : MYSQL_RES) : ℕ := res.set.rows.length

/-- The result set with the library's cursor at that of `c`. -/
def moved (res : MYSQL_RES) (c : Cursor) : MYSQL_RES := { res with cursor := c.position }

theorem rowAt_of_holds {res : MYSQL_RES} {row : MYSQL_ROW} (h : res.Holds row) :
    res.rowAt row.index = some row := by
  obtain ⟨number, index, cells⟩ := row
  obtain ⟨rfl, hcells⟩ := h
  exact Option.map_eq_some_iff.2 ⟨cells, hcells, rfl⟩

theorem holds_of_rowAt {res : MYSQL_RES} {row : MYSQL_ROW} {i : ℕ} (h : res.rowAt i = some row) :
    res.Holds row ∧ row.index = i := by
  obtain ⟨cells, hcells, rfl⟩ := Option.map_eq_some_iff.1 h
  exact ⟨⟨rfl, hcells⟩, rfl⟩

theorem cellsAt_eq (res : MYSQL_RES) (k : Option ℕ) :
    res.cellsAt k = (k.bind res.rowAt).map MYSQL_ROW.cells := by
  cases k with
  | none => rfl
  | some k => simp [cellsAt, rowAt, Function.comp_def]

end MYSQL_RES

namespace MySQL

/-- Where the object stands in its result set. -/
def cursor (o : MySQL) (res : MYSQL_RES) : Cursor := ⟨res.cursor, o.row.map MYSQL_ROW.index⟩

/-- The object with the result set and the cached row at `c`. -/
def moved (o : MySQL) (res : MYSQL_RES) (c : Cursor) : MySQL :=
  { o with result := some (res.moved c), row := c.current.bind res.rowAt }

/-- `res` is stored, and the cached row, if there is one, is one of its rows. -/
structure Stored (o : MySQL) (res : MYSQL_RES) : Prop where
  result : o.result = some res
  row : ∀ row, o.row = some row → res.Holds row
  shape : res.set.WellFormed

variable {o : MySQL} {res : MYSQL_RES} {c : Cursor}

/-- The cached row is the one the cursor says. -/
theorem Stored.row_eq (hs : o.Stored res) : o.row = (o.cursor res).current.bind res.rowAt := by
  rw [cursor]
  cases hrow : o.row with
  | none => rfl
  | some row => exact (MYSQL_RES.rowAt_of_holds (hs.row row hrow)).symm

theorem Stored.moved_cursor (hs : o.Stored res) : o.moved res (o.cursor res) = o := by
  rw [moved, ← hs.row_eq]
  have hres : some (res.moved (o.cursor res)) = o.result := hs.result.symm
  rw [hres]

theorem Stored.moved (hs : o.Stored res) (c : Cursor) : (o.moved res c).Stored (res.moved c) := by
  refine ⟨rfl, fun row hrow => ?_, hs.shape⟩
  obtain ⟨i, -, hi⟩ := Option.bind_eq_some_iff.1 hrow
  exact (MYSQL_RES.holds_of_rowAt hi).1

/-- The cells of a row of a well-formed result set. -/
theorem Stored.width (hs : o.Stored res) {i : ℕ} {row : MYSQL_ROW} (hrow : res.rowAt i = some row) :
    row.cells.length = res.set.fields.length :=
  hs.shape.width _ (List.mem_of_getElem? (MYSQL_RES.holds_of_rowAt hrow).1.2)

/-! ## Taking a row and reading the cached one -/

theorem ends_take (p : Event → Bool) (res : MYSQL_RES) (o : MySQL) :
    Ends p (fetchRow res) o (((o.cursor res).next res.count).bind res.rowAt)
      (o.moved res ((o.cursor res).advance res.count)) [] := by
  have hrow : res.fetchRow = ((o.cursor res).next res.count).bind res.rowAt := by
    unfold MYSQL_RES.fetchRow Cursor.next cursor
    by_cases hlt : res.cursor < res.count
    · simp [hlt, MYSQL_RES.rowAt]
    · simp [hlt]
  have hnext : res.next = res.moved ((o.cursor res).advance res.count) := by
    unfold MYSQL_RES.next MYSQL_RES.moved Cursor.advance cursor
    by_cases hlt : res.cursor < res.count
    · simp [hlt]
    · simp [hlt]
  have hends := ends_fetchRow p res o
  rw [hrow, hnext] at hends
  exact hends

/-- The row a field is read from: the cached one, or else the next one, if there is one. -/
def available (o : MySQL) (res : MYSQL_RES) : Option MYSQL_ROW := o.row <|> res.rowAt res.cursor

/-- The object when that row is cached. -/
def peeked (o : MySQL) (res : MYSQL_RES) : MySQL :=
  if o.row.isSome then o else { o with row := res.fetchRow, result := some res.next }

theorem run_currentRow (res : MYSQL_RES) (o : MySQL) :
    currentRow res o = .ok (o.available res, o.peeked res, []) := by
  rw [currentRow, get_bind, available, peeked]
  cases o.row with
  | none => rfl
  | some row => rfl

theorem peeked_row : (o.peeked res).row = o.available res := by
  rw [peeked, available]
  cases hrow : o.row with
  | none => rfl
  | some row => exact hrow

theorem peeked_result (hres : o.result = some res) :
    (o.peeked res).result = some (if o.row.isSome then res else res.next) := by
  rw [peeked]
  split
  · exact hres
  · rfl

/-- The row a field is read from. -/
theorem Stored.ends_currentRow (hs : o.Stored res) (p : Event → Bool) :
    Ends p (currentRow res) o
      (((o.cursor res).access res.count .peek).current.bind res.rowAt)
      (o.moved res ((o.cursor res).access res.count .peek)) [] := by
  refine .get_bind ?_
  cases hrow : o.row with
  | none =>
      rw [Cursor.access_of_takes (by simp [Cursor.takes, cursor, hrow])]
      exact ends_take p res o
  | some row =>
      rw [Cursor.access_of_not_takes (by simp [Cursor.takes, cursor, hrow]), hs.moved_cursor,
        ← hs.row_eq, hrow]
      exact .pure p (some row) o

theorem Stored.available_eq (hs : o.Stored res) :
    ((o.cursor res).read res.count .peek).bind res.rowAt = o.available res :=
  ((hs.ends_currentRow unseen).unique (run_currentRow res o)).1.symm

theorem Stored.peeked_eq (hs : o.Stored res) :
    o.moved res ((o.cursor res).access res.count .peek) = o.peeked res :=
  ((hs.ends_currentRow unseen).unique (run_currentRow res o)).2.1.symm

end MySQL

/-! ## The seven calls -/

/-- A call that reads from the stored result set. -/
inductive FetchCall
  | fetch_row (splitter : String)
  | fetch_row_data
  | fetch_int
  | fetch_float
  | fetch_string
  | fetch_field (fieldname : String)
  | fetch_field_num (fieldnum : Cell)
  deriving DecidableEq, Repr

/-- What it returns: a string, which may be `NULL`, or a number. -/
inductive FetchResult
  | text (value : Option String)
  | number (value : ℤ)
  deriving DecidableEq, Repr

/-- The text of the column with this name: the first of them counts. -/
def lookup (fieldname : String) : List String → List (Option String) → Option String
  | name :: names, cell :: cells => if fieldname = name then cell else lookup fieldname names cells
  | _, _ => none

namespace FetchCall

/-- The call returns a value of the row it reads, or `NULL` or 0 if there is none. -/
def value (lib : Answers) (fields : List String) :
    FetchCall → Option (List (Option String)) → FetchResult
  | .fetch_row splitter, row => .text (row.map (MySQL.joinRow splitter))
  | .fetch_row_data, row => .number (if row.isSome then 1 else 0)
  | .fetch_int, row =>
    .number ((row.map fun cells => MySQL.atoi (cells[0]?.join.getD "0")).getD 0)
  | .fetch_float, row =>
    .number ((row.map fun cells => lib.atof (cells[0]?.join.getD "0.0")).getD 0)
  | .fetch_string, row => .text ((row.map fun cells => cells[0]?.join).getD none)
  | .fetch_field fieldname, row => .text (row.bind (lookup fieldname fields))
  | .fetch_field_num fieldnum, row => .text (row.bind fun cells => cells[fieldnum.toNat]?.join)

/-- How the call accesses the cursor. -/
def access : FetchCall → Cursor.Access
  | .fetch_field _ | .fetch_field_num _ => .peek
  | _ => .take

/-- The column number of a `fetch_field_num` is that of a column. -/
def Valid (columns : ℕ) : FetchCall → Prop
  | .fetch_field_num fieldnum => 0 ≤ fieldnum ∧ fieldnum < columns
  | _ => True

/-- The member function behind a call. -/
def method (env : Env) : FetchCall → Method FetchResult
  | .fetch_row splitter => do
    let row ← MySQL.fetch_row env splitter
    return .text row
  | .fetch_row_data => do
    let res ← MySQL.fetch_row_data env
    return .number res
  | .fetch_int => do
    let res ← MySQL.fetch_int env
    return .number res
  | .fetch_float => do
    let res ← MySQL.fetch_float env
    return .number res
  | .fetch_string => do
    let res ← MySQL.fetch_string env
    return .text res
  | .fetch_field fieldname => do
    let field ← MySQL.fetch_field env fieldname
    return .text field
  | .fetch_field_num fieldnum => do
    let field ← MySQL.fetch_field_num env fieldnum
    return .text field

end FetchCall

namespace MySQL

variable {env : Env} {o : MySQL} {res : MYSQL_RES}

/-- The frame of the functions on the stored result set, when there is one. -/
theorem ends_onResult {α : Type} {refuse : Method α} {work : MYSQL_RES → Method α} {a : α}
    {o' : MySQL} {p : Event → Bool} {xs : List Event} (hres : o.result = some res)
    (hwork : Ends p (work res) o a o' xs) :
    Ends p (do
      let this ← get
      match this.result with
      | none => refuse
      | some res => work res) o a o' xs := by
  refine .get_bind ?_
  simp only [hres]
  exact hwork

/-- What the loop over the columns finds from column `i` on. -/
theorem ends_findField (env : Env) (res : MYSQL_RES) (fieldname : String) {row : MYSQL_ROW} {i : ℕ}
    {names : List String} (hwidth : i + names.length = row.cells.length) (o : MySQL) :
    ∃ field, Ends unseen (findField env fieldname res row i names) o
      (lookup fieldname names (row.cells.drop i)) { o with field := field } [] := by
  induction names generalizing i o with
  | nil => exact ⟨o.field, ends_Error_then overlooks_unseen env _ _ none o⟩
  | cons name names ih =>
      have hlt : i < row.cells.length := by
        simp only [List.length_cons] at hwidth
        omega
      have hcell : row.cells[((i : ℕ) : ℤ).toNat]? = some row.cells[i] :=
        List.getElem?_eq_getElem hlt
      rw [List.drop_eq_getElem_cons hlt, lookup]
      by_cases hname : fieldname = name
      · refine ⟨some ⟨res.number, i, name⟩, .then (.modify _ _ o) (.if_pos hname ?_)⟩
        rw [if_pos hname]
        refine .then (ends_rowCell unseen (Int.natCast_nonneg i) hcell _) ?_
        cases row.cells[i] with
        | none => exact ends_Error_then overlooks_unseen env _ _ none _
        | some cell => exact .pure unseen _ _
      · rw [if_neg hname]
        obtain ⟨field, hrest⟩ := ih (i := i + 1)
          (o := { o with field := some ⟨res.number, i, name⟩ })
          (by simp only [List.length_cons] at hwidth; omega)
        exact ⟨field, .then (.modify _ _ o) (.if_neg hname hrest)⟩

theorem Stored.ends_fetch_field (hs : o.Stored res) (env : Env) (fieldname : String) :
    ∃ field, Ends unseen (fetch_field env fieldname) o
      ((res.cellsAt ((o.cursor res).read res.count .peek)).bind (lookup fieldname res.set.fields))
      { o.moved res ((o.cursor res).access res.count .peek) with field := field } [] := by
  rw [MYSQL_RES.cellsAt_eq, Cursor.read]
  have hcurrent := hs.ends_currentRow unseen
  cases hrow : ((o.cursor res).access res.count .peek).current.bind res.rowAt with
  | none =>
      rw [hrow] at hcurrent
      exact ⟨o.field, ends_onResult hs.result (.then (ends_logAll overlooks_unseen _ o)
        (.then hcurrent (.pure unseen none _)))⟩
  | some row =>
      rw [hrow] at hcurrent
      obtain ⟨i, -, hi⟩ := Option.bind_eq_some_iff.1 hrow
      have hwidth : 0 + res.set.fields.length = row.cells.length := by
        rw [hs.width hi, Nat.zero_add]
      obtain ⟨field, hfind⟩ := ends_findField env res fieldname hwidth
        (o.moved res ((o.cursor res).access res.count .peek))
      exact ⟨field, ends_onResult hs.result (.then (ends_logAll overlooks_unseen _ o)
        (.then hcurrent hfind))⟩

theorem Stored.ends_fetch_field_num (hs : o.Stored res) (env : Env) {p : Event → Bool}
    (hp : Overlooks p) (herror : ∀ conn error errid, p (.error conn error errid) = false)
    {fieldnum : Cell} (hin : ∀ row, ((o.cursor res).read res.count .peek).bind res.rowAt = some row →
      0 ≤ fieldnum ∧ fieldnum < res.set.fields.length) :
    Ends p (fetch_field_num env fieldnum) o
      ((res.cellsAt ((o.cursor res).read res.count .peek)).bind fun cells =>
        cells[fieldnum.toNat]?.join)
      (o.moved res ((o.cursor res).access res.count .peek)) [] := by
  rw [MYSQL_RES.cellsAt_eq]
  rw [Cursor.read] at hin ⊢
  refine ends_onResult hs.result (.then (ends_logAll hp _ o) (.then (hs.ends_currentRow p) ?_))
  cases hrow : ((o.cursor res).access res.count .peek).current.bind res.rowAt with
  | none =>
      have hnone : errorEvents p env (o.moved res ((o.cursor res).access res.count .peek))
          "Function: mysql_fetch_field failed, no field data"
          PluginError.P_ERROR_NOFIELDDATA.code = [] := by
        simp [errorEvents, herror]
      rw [← hnone]
      exact ends_Error_then hp env _ _ none _
  | some row =>
      obtain ⟨i, -, hi⟩ := Option.bind_eq_some_iff.1 hrow
      obtain ⟨h₀, hlt⟩ := hin row hrow
      have hin : fieldnum.toNat < row.cells.length := by
        rw [hs.width hi]
        exact (Int.toNat_lt h₀).2 hlt
      have hcell : row.cells[fieldnum.toNat]? = some row.cells[fieldnum.toNat] :=
        List.getElem?_eq_getElem hin
      have hends := ends_rowCell p h₀ hcell (o.moved res ((o.cursor res).access res.count .peek))
      simpa [hcell] using hends

end MySQL

/-! ## What a call returns and where it moves -/

end MysqlPlugin
