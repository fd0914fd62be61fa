import Mathlib.Algebra.Order.BigOperators.Group.List
import Mathlib.Data.Int.ModEq
import Mathlib.Data.List.TakeWhile
import MysqlPlugin.Calls
import MysqlPlugin.Lib.CString
import MysqlPlugin.ScriptStrings
import MysqlPlugin.Split

set_option autoImplicit false

/-! # The buffer of `fetch_row`

The definitions of `Mysql.lean` give the text of a row; here is the buffer it is put together in.
`bufflen` is computed from the lengths the library reports, and the loop appends what it appends. A
column that is `NULL` counts 0 in the first and 4 in the second, and the splitters count 1 each,
whatever their length: the text fits exactly if what is missing there is made up for by columns whose
text is shorter than their length (`fetch_row_fits_iff`).

`MySQL.Buffered.fetch_row` is `fetch_row` with this buffer. For a row that fits, it is the function of
the model (`MySQL.Buffered.fetch_row_eq`), so what it returns can be taken apart again by the script
function `split`. A row with a `NULL` column does not fit (`Pawn.split_inverts_fetch_row_iff`). -/

namespace MysqlPlugin

open Prog

/-- A column of a row, as `fetch_row` finds it: its text up to the first NUL, and the length
    `mysql_fetch_lengths` reports. -/
structure Column where
  text : Option String
  length : ℕ
  nul_notMem : ∀ s, text = some s → '\x00' ∉ s.toList
  length_null : text = none → length = 0
  length_le : ∀ s, text = some s → s.length ≤ length

namespace MySQL

/-- `bufflen += lengths[ i ]`, in 32 bits. -/
def addLength (bufflen : ℤ) (length : ℕ) : ℤ := Int.bmod (bufflen + length) (2 ^ 32)

/-- `bufflen` after the loop over the lengths. -/
def bufflen (columns : List Column) : ℤ :=
  (columns.map Column.length).foldl addLength (Int.bmod (columns.length + 1) (2 ^ 32))

/-- The loop that puts the columns together, from column `i` on. -/
def catColumns (splitter : String) (numfields : ℕ) :
    ℕ → List (Option String) → List Char → Option (List Char)
  | _, [], buffer => some buffer
  | i, cell :: cells, buffer => do
    let buffer ← CString.strcat '\x00' buffer (cell.getD "NULL").toList
    if i ≠ numfields - 1 then
      let buffer ← CString.strcat '\x00' buffer splitter.toList
      catColumns splitter numfields (i + 1) cells buffer
    else
      catColumns splitter numfields (i + 1) cells buffer

/-- The buffer of a row: `bufflen` zero bytes, filled by the loop. A write past its end is undefined,
    and so is a buffer of negative size. -/
def rowBuffer (splitter : String) (columns : List Column) : Option (List Char) :=
  if bufflen columns < 0 then none
  else
    catColumns splitter columns.length 0 (columns.map Column.text)
      (List.replicate (bufflen columns).toNat '\x00')

/-! ## The size -/

/-- The sum of the reported lengths. -/
def totalLength (columns : List Column) : ℕ := (columns.map Column.length).sum

theorem foldl_addLength (lengths : List ℕ) (n : ℤ) :
    lengths.foldl addLength (Int.bmod n (2 ^ 32)) = Int.bmod (n + lengths.sum) (2 ^ 32) := by
  induction lengths generalizing n with
  | nil => simp
  | cons length lengths ih =>
      rw [List.foldl_cons, addLength, Int.bmod_add_bmod, ih, List.sum_cons]
      congr 1
      rw [Nat.cast_add, add_assoc]

/-- `bufflen` is the number of bytes meant, up to a multiple of 2 ^ 32. -/
theorem bufflen_eq (columns : List Column) :
    bufflen columns = Int.bmod ((columns.length + 1 + totalLength columns : ℕ) : ℤ) (2 ^ 32) := by
  rw [bufflen, foldl_addLength, totalLength]
  push_cast
  rfl

theorem dvd_bufflen_sub (columns : List Column) :
    (2 ^ 32 : ℤ) ∣ bufflen columns - (columns.length + 1 + totalLength columns : ℕ) := by
  rw [bufflen_eq]
  exact Int.dvd_bmod_sub_self

theorem bufflen_lt (columns : List Column) : bufflen columns < 2 ^ 31 := by
  rw [bufflen_eq]
  exact Int.bmod_lt (by decide)

/-- The `int` does not wrap exactly if the number of bytes is one. -/
theorem bufflen_eq_iff (columns : List Column) :
    bufflen columns = (columns.length + 1 + totalLength columns : ℕ) ↔
      columns.length + 1 + totalLength columns < 2 ^ 31 := by
  constructor
  · intro h
    have hlt := bufflen_lt columns
    rw [h] at hlt
    omega
  · intro h
    rw [bufflen_eq]
    exact Int.bmod_eq_of_le (by omega) (by omega)

/-! ## The loop -/

/-- What the loop appends: the columns, with the splitter between them. -/
def pieces (splitter : String) : List (Option String) → List (List Char)
  | [] => []
  | [cell] => [(cell.getD "NULL").toList]
  | cell :: cells => (cell.getD "NULL").toList :: splitter.toList :: pieces splitter cells

theorem flatten_pieces (splitter : String) (cells : List (Option String)) :
    (pieces splitter cells).flatten = (joinRow splitter cells).toList := by
  induction cells with
  | nil => rfl
  | cons cell cells ih =>
      cases cells with
      | nil => simp [pieces, joinRow]
      | cons next cells => simp [pieces, joinRow, ih]

/-- The test for the last column puts a splitter after all but that one. -/
theorem catColumns_eq (splitter : String) {numfields i : ℕ} {cells : List (Option String)}
    (hi : i + cells.length = numfields) (buffer : List Char) :
    catColumns splitter numfields i cells buffer =
      CString.strcats '\x00' (pieces splitter cells) buffer := by
  induction cells generalizing i buffer with
  | nil => rfl
  | cons cell cells ih =>
      rw [List.length_cons] at hi
      have hrest := fun buffer => ih (i := i + 1) (by omega) buffer
      cases cells with
      | nil =>
          have hlast : ¬ i ≠ numfields - 1 := by
            rw [List.length_nil] at hi
            omega
          simp only [catColumns, pieces, CString.strcats, if_neg hlast]
      | cons next cells =>
          have hmore : i ≠ numfields - 1 := by
            rw [List.length_cons] at hi
            omega
          rw [catColumns, pieces, CString.strcats]
          · simp only [if_pos hmore, hrest, CString.strcats]
          · simp

/-! ## When the row fits -/

/-- The columns that are `NULL`. -/
def nulls (columns : List Column) : ℕ := columns.countP fun column => column.text.isNone

/-- By how much the texts are shorter than the reported lengths. -/
def slack (columns : List Column) : ℕ :=
  (columns.map fun column => column.length - (column.text.getD "").length).sum

/-- A column contributes its length to the text, 4 more if it is `NULL`, and as much less as it is
    shorter. -/
theorem length_cell_add (column : Column) :
    (column.text.getD "NULL").length + (column.length - (column.text.getD "").length) =
      column.length + if column.text.isNone then 4 else 0 := by
  cases htext : column.text with
  | none =>
      rw [column.length_null htext]
      rfl
  | some s =>
      have hle := column.length_le s htext
      simp only [Option.getD_some, Option.isNone_some, Bool.false_eq_true, if_false]
      omega

/-- The length of the text of a row. -/
theorem length_joinRow_add (splitter : String) (columns : List Column) :
    (joinRow splitter (columns.map Column.text)).length + slack columns =
      totalLength columns + 4 * nulls columns + (columns.length - 1) * splitter.length := by
  induction columns with
  | nil => simp [joinRow, slack, totalLength, nulls]
  | cons column columns ih =>
      have hcell := length_cell_add column
      have hnull : 4 * nulls (column :: columns) =
          4 * nulls columns + if column.text.isNone then 4 else 0 := by
        rw [nulls, List.countP_cons, Nat.mul_add, mul_ite]
        rfl
      have hslack : slack (column :: columns) =
          (column.length - (column.text.getD "").length) + slack columns := rfl
      have htotal : totalLength (column :: columns) = column.length + totalLength columns := rfl
      rw [hnull, hslack, htotal]
      cases columns with
      | nil =>
          change (column.text.getD "NULL").length + (_ + 0) = column.length + 0 + (4 * 0 + _) + 0 * _
          omega
      | cons next columns =>
          have hjoin : (joinRow splitter ((column :: next :: columns).map Column.text)).length =
              (column.text.getD "NULL").length + splitter.length +
                (joinRow splitter ((next :: columns).map Column.text)).length := by
            simp only [List.map_cons, joinRow, String.length_append]
          have hsplitters : (columns.length + 1) * splitter.length =
              columns.length * splitter.length + splitter.length := Nat.succ_mul ..
          rw [hjoin]
          simp only [List.length_cons, Nat.add_sub_cancel] at ih ⊢
          omega

/-- No NUL is appended. -/
theorem nul_notMem_pieces {splitter : String} (hsplitter : '\x00' ∉ splitter.toList)
    (columns : List Column) : ∀ s ∈ pieces splitter (columns.map Column.text), '\x00' ∉ s := by
  have hcell : ∀ column : Column, '\x00' ∉ (column.text.getD "NULL").toList := by
    intro column
    cases htext : column.text with
    | none => decide
    | some s => exact column.nul_notMem s htext
  induction columns with
  | nil => exact fun s hs => absurd hs List.not_mem_nil
  | cons column columns ih =>
      cases columns with
      | nil =>
          intro s hs
          obtain rfl := List.mem_singleton.1 hs
          exact hcell column
      | cons next columns =>
          intro s hs
          simp only [List.map_cons, pieces, List.mem_cons] at hs ih
          rcases hs with rfl | rfl | hs
          · exact hcell column
          · exact hsplitter
          · exact ih s hs

/-- The size is computed without wrapping, and no `strcat` writes past the end of the buffer. -/
def Fits (splitter : String) (columns : List Column) : Prop :=
  bufflen columns = (columns.length + 1 + totalLength columns : ℕ) ∧
    (rowBuffer splitter columns).isSome = true

theorem pieces_ne_nil (splitter : String) {cells : List (Option String)} (hcells : cells ≠ []) :
    pieces splitter cells ≠ [] := by
  cases cells with
  | nil => exact absurd rfl hcells
  | cons cell cells => cases cells <;> exact List.cons_ne_nil _ _

/-- The size wraps only if there are columns. -/
theorem ne_nil_of_bufflen {columns : List Column} (h : bufflen columns = 0) :
    columns.map Column.text ≠ [] := by
  rintro heq
  obtain rfl := List.map_eq_nil_iff.1 heq
  exact absurd h (by decide)

/-- In a buffer that is large enough the loop leaves the text of the row, in one that is not it writes
    past the end. -/
theorem run_rowBuffer {splitter : String} (hsplitter : '\x00' ∉ splitter.toList)
    (columns : List Column) :
    if ((joinRow splitter (columns.map Column.text)).length : ℤ) < bufflen columns then
      ∃ buffer, rowBuffer splitter columns = some buffer ∧
        CString.Holds '\x00' buffer (joinRow splitter (columns.map Column.text)).toList
    else rowBuffer splitter columns = none := by
  have hnuls := nul_notMem_pieces hsplitter columns
  have hlength : (pieces splitter (columns.map Column.text)).flatten.length =
      (joinRow splitter (columns.map Column.text)).length := by
    rw [flatten_pieces, String.length_toList]
  by_cases hneg : bufflen columns < 0
  · rw [if_neg (by omega)]
    exact if_pos hneg
  obtain ⟨size, hsize⟩ := Int.eq_ofNat_of_zero_le (not_lt.1 hneg)
  have hrun : rowBuffer splitter columns =
      CString.strcats '\x00' (pieces splitter (columns.map Column.text))
        (List.replicate size '\x00') := by
    rw [rowBuffer, if_neg hneg, hsize, Int.toNat_natCast]
    exact catColumns_eq splitter (by simp) _
  rw [hrun, hsize]
  split
  · rename_i hlt
    obtain ⟨buffer, hrun, -, hholds⟩ := CString.strcats_eq_some hnuls
      (CString.holds_replicate (by omega : 0 < size)) (by
        rw [hlength, List.length_replicate, List.length_nil]
        omega)
    rw [flatten_pieces, List.nil_append] at hholds
    exact ⟨buffer, hrun, hholds⟩
  · rename_i hlong
    cases size with
    | zero => exact CString.strcats_nil (pieces_ne_nil splitter (ne_nil_of_bufflen hsize))
    | succ size =>
        refine CString.strcats_eq_none hnuls (CString.holds_replicate (Nat.succ_pos size)) ?_
        rw [hlength, List.length_replicate, List.length_nil]
        omega

end MySQL

open MySQL Natives

/-- **When a row fits its buffer**: what the `NULL` columns and the splitters take beyond their share
    must not be more than what the other columns leave, and the size must be an `int`. Then the buffer
    holds the text of the row. -/
theorem fetch_row_fits_iff (splitter : List Cell) (columns : List Column) :
    (Fits (textAt splitter) columns ↔
      columns.length + 1 + totalLength columns < 2 ^ 31 ∧
      4 * nulls columns + (columns.length - 1) * (textAt splitter).length ≤
        columns.length + slack columns) ∧
    (Fits (textAt splitter) columns → ∃ buffer, rowBuffer (textAt splitter) columns = some buffer ∧
      CString.Holds '\x00' buffer (joinRow (textAt splitter) (columns.map Column.text)).toList ∧
      ((joinRow (textAt splitter) (columns.map Column.text)).length + 1 : ℤ) ≤ bufflen columns) := by
  have htext := length_joinRow_add (textAt splitter) columns
  have hrun := run_rowBuffer (nul_notMem_textAt splitter) columns
  constructor
  · constructor
    · rintro ⟨hsize, hsome⟩
      refine ⟨(bufflen_eq_iff columns).1 hsize, ?_⟩
      split at hrun
      · omega
      · rw [hrun] at hsome
        cases hsome
    · rintro ⟨hlt, hle⟩
      have hsize := (bufflen_eq_iff columns).2 hlt
      rw [if_pos (by omega)] at hrun
      obtain ⟨buffer, hbuffer, -⟩ := hrun
      exact ⟨hsize, by rw [hbuffer]; rfl⟩
  · rintro ⟨hsize, hsome⟩
    split at hrun
    · rename_i hlt
      obtain ⟨buffer, hbuffer, hholds⟩ := hrun
      exact ⟨buffer, hbuffer, hholds, by omega⟩
    · rw [hrun] at hsome
      cases hsome

namespace OneColumn

/-- A column that is `NULL`. -/
def null : Column := ⟨none, 0, by simp, by simp, by simp⟩

/-- A row of a single `NULL`: the four letters and the NUL go into a buffer of two bytes. -/
theorem null_outgrows :
    ¬ ∀ (splitter : List Cell) (columns : List Column), columns ≠ [] →
      Fits (textAt splitter) columns := by
  intro hall
  obtain ⟨-, hsome⟩ := hall [124] [null] (by simp)
  have hnone : rowBuffer (textAt [124]) [null] = none := by decide
  rw [hnone] at hsome
  cases hsome

end OneColumn

/-! ## `fetch_row` with its buffer -/

/-- The column the library has for a cell. -/
def Column.ofCell (cell : Option String) : Column where
  text := cell.map fun s => String.ofList (cChars s)
  length := (cell.getD "").length
  nul_notMem := by
    rintro _ hs
    obtain ⟨s, -, rfl⟩ := Option.map_eq_some_iff.1 hs
    rw [String.toList_ofList]
    exact Stores.nul_notMem_takeWhile
  length_null h := by rw [Option.map_eq_none_iff.1 h]; rfl
  length_le := by
    rintro _ hs
    obtain ⟨s, rfl, rfl⟩ := Option.map_eq_some_iff.1 hs
    rw [String.length_ofList, Option.getD_some, ← String.length_toList]
    exact (List.takeWhile_prefix _).length_le

namespace MySQL

/-- The text in the buffer. -/
def bufferText (buffer : List Char) : String := String.ofList (buffer.takeWhile (· ≠ '\x00'))

/-- `MySQL.fetch_row` with the buffer the row is put together in. -/
def Buffered.fetch_row (env : Env) (splitter : String) : Method (Option String) := do
  let this ← get
  match this.result with
  | none =>
    let _ ← Error env "Function: mysql_store_result called when no result stored"
      PluginError.P_ERROR_NORES.code
    return none
  | some res =>
    match ← fetchRow res with
    | none => return none
    | some row =>
      match rowBuffer splitter (row.cells.map Column.ofCell) with
      | none => fail (.overrun "buffer")
      | some buffer =>
        logAll ("Function: mysql_fetch_row executed with result: \"" ++ bufferText buffer ++ "\".")
        return some (bufferText buffer)

/-- The cells contain no NUL, so they are their own texts. -/
def PlainRow (cells : List (Option String)) : Prop := ∀ s, some s ∈ cells → '\x00' ∉ s.toList

theorem text_ofCell {cells : List (Option String)} (h : PlainRow cells) {cell : Option String}
    (hcell : cell ∈ cells) : (Column.ofCell cell).text = cell := by
  cases cell with
  | none => rfl
  | some s =>
      change some (String.ofList (cChars s)) = some s
      rw [cChars_of_notMem (h s hcell), String.ofList_toList]

theorem map_text_ofCell {cells : List (Option String)} (h : PlainRow cells) :
    (cells.map Column.ofCell).map Column.text = cells := by
  rw [List.map_map]
  exact (List.map_congr_left fun cell hcell => text_ofCell h hcell).trans (List.map_id' cells)

theorem totalLength_ofCell (cells : List (Option String)) :
    totalLength (cells.map Column.ofCell) = (cells.map fun cell => (cell.getD "").length).sum := by
  rw [totalLength, List.map_map]
  rfl

theorem nulls_ofCell_eq_zero_iff {cells : List (Option String)} :
    nulls (cells.map Column.ofCell) = 0 ↔ none ∉ cells := by
  rw [nulls, List.countP_map, List.countP_eq_zero]
  constructor
  · exact fun h hmem => h none hmem rfl
  · rintro h (_ | s) hmem
    · exact absurd hmem h
    · simp [Column.ofCell]

theorem slack_ofCell {cells : List (Option String)} (h : PlainRow cells) :
    slack (cells.map Column.ofCell) = 0 := by
  rw [slack, List.map_map]
  refine List.sum_eq_zero fun n hn => ?_
  obtain ⟨cell, hcell, rfl⟩ := List.mem_map.1 hn
  simp only [Function.comp_apply, text_ofCell h hcell]
  exact Nat.sub_self _

/-- A row without NULs and a splitter of one character fit exactly if no column is `NULL`: one byte is
    all the buffer has to spare. -/
theorem isSome_rowBuffer_iff {d : Char} (hd : d ≠ '\x00') {cells : List (Option String)}
    (hcells : cells ≠ []) (hplain : PlainRow cells) :
    (rowBuffer (String.singleton d) (cells.map Column.ofCell)).isSome = true ↔
      none ∉ cells ∧ cells.length + 1 + (cells.map fun cell => (cell.getD "").length).sum < 2 ^ 31 := by
  have hsplitter : '\x00' ∉ (String.singleton d).toList := by simpa using hd.symm
  have hpos : 0 < (cells.map Column.ofCell).length := by
    rw [List.length_map]
    exact List.length_pos_iff.2 hcells
  -- the text is at most two bytes shorter than the size meant, and a size that wraps is much smaller
  have htext := length_joinRow_add (String.singleton d) (cells.map Column.ofCell)
  rw [slack_ofCell hplain, String.length_singleton] at htext
  obtain ⟨k, hwrap⟩ := dvd_bufflen_sub (cells.map Column.ofCell)
  have hbound := bufflen_lt (cells.map Column.ofCell)
  have hrun := run_rowBuffer hsplitter (cells.map Column.ofCell)
  rw [← nulls_ofCell_eq_zero_iff, ← totalLength_ofCell, ← List.length_map Column.ofCell,
    ← bufflen_eq_iff]
  split at hrun
  · obtain ⟨buffer, hbuffer, -⟩ := hrun
    refine iff_of_true (by rw [hbuffer]; rfl) ?_
    omega
  · rw [hrun]
    refine iff_of_false Bool.false_ne_true ?_
    omega

namespace Buffered

variable {env : Env} {splitter : String} {o : MySQL} {res : MYSQL_RES} {row : MYSQL_ROW}

/-- **`fetch_row` is the function of the model** if the row fits its buffer. -/
theorem fetch_row_eq (hsplitter : '\x00' ∉ splitter.toList) (hres : o.result = some res)
    (hrow : res.fetchRow = some row) (hplain : PlainRow row.cells)
    (hfits : (rowBuffer splitter (row.cells.map Column.ofCell)).isSome = true) :
    fetch_row env splitter o = MySQL.fetch_row env splitter o := by
  obtain ⟨buffer, hbuffer, hholds⟩ : ∃ buffer,
      rowBuffer splitter (row.cells.map Column.ofCell) = some buffer ∧
        CString.Holds '\x00' buffer (joinRow splitter row.cells).toList := by
    have hrun := run_rowBuffer hsplitter (row.cells.map Column.ofCell)
    split at hrun
    · rwa [map_text_ofCell hplain] at hrun
    · rw [hrun] at hfits
      cases hfits
  have htext : bufferText buffer = joinRow splitter row.cells := by
    rw [bufferText, hholds.takeWhile_eq, String.ofList_toList]
  rw [fetch_row, MySQL.fetch_row, get_bind, get_bind, hres]
  refine bind_congr_of_ok fun row' o₁ es hfetch => ?_
  cases hfetch
  simp only [hrow, hbuffer, htext]

/-- Otherwise it ends past the end of the buffer. -/
theorem faults_fetch_row (hres : o.result = some res) (hrow : res.fetchRow = some row)
    (hlong : rowBuffer splitter (row.cells.map Column.ofCell) = none) :
    Faults (fetch_row env splitter) o := by
  rw [fetch_row, faults_get_bind, hres]
  refine (faults_bind_of_ok (show fetchRow res o = .ok (res.fetchRow, _, []) from rfl)).2 ?_
  rw [hrow]
  simp only [hlong]
  exact ⟨_, rfl⟩

end Buffered
end MySQL

namespace Pawn

/-- **When `split` undoes `mysql_fetch_row`**: applied to what `fetch_row` builds of a row whose texts
    contain neither the splitter nor a NUL and are short enough, it writes these texts to the first
    rows of its destination and touches no other, exactly if no column is `NULL` (and the size of the
    buffer is an `int`). Conversely, the pieces it writes of any string, joined, give the string back,
    and there is one more than there are delimiters. -/
theorem split_inverts_fetch_row_iff {store : Char → Cell} (hinj : Function.Injective store)
    (hnul : ∀ c, store c = 0 ↔ c = Char.ofNat 0) {strmid : Strmid} (hstrmid : strmid.Copies) :
    (∀ (env : Env) (o : MySQL) (res : MYSQL_RES) (row : MYSQL_ROW) (d : Char)
      (strdest : List (List Cell)),
      o.result = some res → res.fetchRow = some row → row.cells ≠ [] → d ≠ Char.ofNat 0 →
      (∀ text ∈ row.cells.map columnText,
        d ∉ text.toList ∧ Char.ofNat 0 ∉ text.toList ∧ text.length < 128) →
      row.cells.length ≤ strdest.length → (∀ r ∈ strdest, 128 ≤ r.length) →
        ((∃ text o' es,
          MySQL.Buffered.fetch_row env (String.singleton d) o = .ok (some text, o', es) ∧
          text = (String.singleton d).intercalate (row.cells.map columnText) ∧
          SplitsInto store strmid d text (row.cells.map columnText) strdest) ↔
          none ∉ row.cells ∧
            row.cells.length + 1 + (row.cells.map fun cell => (cell.getD "").length).sum < 2 ^ 31)) ∧
    ∀ (s : List Cell) (delimiter : Cell) (strdest : List (List Cell)), (0 : Cell) ∉ s →
      (∀ piece ∈ s.splitOn delimiter, piece.length < 128) →
      (s.splitOn delimiter).length ≤ strdest.length → (∀ r ∈ strdest, 128 ≤ r.length) →
        ∃ pieces strdest', split strmid (s ++ [0]) delimiter strdest = some strdest' ∧
          Written 0 pieces strdest strdest' ∧ [delimiter].intercalate pieces = s ∧
          pieces.length = s.count delimiter + 1 := by
  constructor
  · intro env o res row d strdest hres hrow hcells hd htexts hrows hwide
    have hplain : PlainRow row.cells := fun s hs =>
      (htexts s (List.mem_map.2 ⟨some s, hs, rfl⟩)).2.1
    rw [← isSome_rowBuffer_iff hd hcells hplain]
    constructor
    · rintro ⟨text, o', es, hok, -⟩
      by_contra hlong
      rw [Bool.not_eq_true, Option.isSome_eq_false_iff, Option.isNone_iff_eq_none] at hlong
      exact not_faults_of_ok hok (MySQL.Buffered.faults_fetch_row hres hrow hlong)
    · intro hfits
      obtain ⟨o', es, hrun⟩ := MySQL.run_fetch_row env (String.singleton d) hres hrow
      rw [← MySQL.Buffered.fetch_row_eq (by simpa using hd.symm) hres hrow hplain hfits] at hrun
      exact ⟨_, o', es, hrun, rfl, splitsInto_intercalate hinj hnul hstrmid hd
        (by simpa using hcells) htexts (by simpa using hrows) hwide⟩
  · intro s delimiter strdest h₀ hshort hrows hwide
    exact split_joins_back hstrmid h₀ hshort hrows hwide

/-- A handle with a row of three columns. -/
def threeColumns (cells : List (Option String)) : MySQL :=
  { MySQL.new ⟨{}, []⟩ 0 0 with result := some ⟨0, ⟨["a", "b", "c"], [cells]⟩, 0⟩ }

/-- The cell of a character. -/
def cellOf (c : Char) : Cell := c.toNat

theorem cellOf_injective : Function.Injective cellOf :=
  fun _ _ h => Char.toNat_inj.1 (Int.ofNat_inj.1 h)

theorem cellOf_eq_zero (c : Char) : cellOf c = 0 ↔ c = Char.ofNat 0 :=
  ⟨fun h => Char.toNat_inj.1 (Int.ofNat_inj.1 h), by rintro rfl; rfl⟩

/-- The second and the last column are empty. -/
theorem split_inverts_empty_columns :
    (∃ text o' es,
      MySQL.Buffered.fetch_row ⟨{}, []⟩ (String.singleton '|')
        (threeColumns [some "x", some "", some ""]) = .ok (some text, o', es) ∧
      text = (String.singleton '|').intercalate ["x", "", ""] ∧
      SplitsInto cellOf copyCells '|' text ["x", "", ""] (List.replicate 3 (List.replicate 128 0))) ↔
      none ∉ [some "x", some "", some ""] ∧ 5 < 2 ^ 31 :=
  (split_inverts_fetch_row_iff cellOf_injective cellOf_eq_zero copyCells_copies).1 ⟨{}, []⟩
    (threeColumns [some "x", some "", some ""])
    ⟨0, ⟨["a", "b", "c"], [[some "x", some "", some ""]]⟩, 0⟩ ⟨0, 0, [some "x", some "", some ""]⟩ '|'
    (List.replicate 3 (List.replicate 128 0)) rfl rfl (by simp) (by decide) (by decide) (by simp)
    (by simp)

/-- The second column is an SQL `NULL`: its four letters do not fit the buffer. -/
theorem null_column_overruns :
    ¬ ∀ (store : Char → Cell) (strmid : Strmid), Function.Injective store →
      (∀ c, store c = 0 ↔ c = Char.ofNat 0) → strmid.Copies →
      ∀ (env : Env) (o : MySQL) (res : MYSQL_RES) (row : MYSQL_ROW) (d : Char)
        (strdest : List (List Cell)),
        o.result = some res → res.fetchRow = some row → row.cells ≠ [] → d ≠ Char.ofNat 0 →
        (∀ text ∈ row.cells.map columnText,
          d ∉ text.toList ∧ Char.ofNat 0 ∉ text.toList ∧ text.length < 128) →
        row.cells.length ≤ strdest.length → (∀ r ∈ strdest, 128 ≤ r.length) →
          ∃ text o' es,
            MySQL.Buffered.fetch_row env (String.singleton d) o = .ok (some text, o', es) ∧
            text = (String.singleton d).intercalate (row.cells.map columnText) ∧
            SplitsInto store strmid d text (row.cells.map columnText) strdest := by
  intro hall
  obtain ⟨text, o', es, hok, -⟩ := hall cellOf copyCells cellOf_injective cellOf_eq_zero
    copyCells_copies ⟨{}, []⟩ (threeColumns [some "x", none, some ""])
    ⟨0, ⟨["a", "b", "c"], [[some "x", none, some ""]]⟩, 0⟩ ⟨0, 0, [some "x", none, some ""]⟩ '|'
    (List.replicate 3 (List.replicate 128 0)) rfl rfl (by simp) (by decide) (by decide) (by simp)
    (by simp)
  exact not_faults_of_ok hok (MySQL.Buffered.faults_fetch_row rfl rfl (by decide))

end Pawn
end MysqlPlugin
