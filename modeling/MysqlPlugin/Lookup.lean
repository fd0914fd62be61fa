import MysqlPlugin.Messages
import MysqlPlugin.RowOrder

set_option autoImplicit false

/-! # Columns by name and by number

`fetch_field` searches the columns for a name and `fetch_field_num` indexes the row with whatever
number the script passed. For the first column of a name the two agree, in what they return and in what
they do to the object. A name no column has is looked up with the same effect, as long as the message
about it fits its buffer (`fetch_field_agrees_iff`).

The number is checked nowhere, and nobody checks that the cached row is still one of the stored result
set: the native is defined, and gives the text of the column, exactly if both are in order, or there is
no row to index (`Natives.fetch_field_num_total_iff`). -/

namespace MysqlPlugin

open Prog

/-! ## The first column of a name -/

theorem lookup_of_not_mem {fieldname : String} {names : List String} (h : fieldname ∉ names)
    (cells : List (Option String)) : lookup fieldname names cells = none := by
  induction names generalizing cells with
  | nil => rfl
  | cons name names ih =>
      cases cells with
      | nil => rfl
      | cons cell cells =>
          rw [lookup, if_neg fun heq : fieldname = name => h (heq ▸ List.mem_cons_self)]
          exact ih (fun hmem => h (List.mem_cons_of_mem _ hmem)) cells

/-- The search stops at the first column of the name. -/
theorem lookup_of_first {fieldname : String} {names before after : List String}
    (hnames : names = before ++ fieldname :: after) (hfirst : fieldname ∉ before)
    {cells : List (Option String)} (hwidth : cells.length = names.length) :
    lookup fieldname names cells = cells[before.length]?.join := by
  induction before generalizing names cells with
  | nil =>
      subst hnames
      cases cells with
      | nil => cases hwidth
      | cons cell cells =>
          rw [List.nil_append, lookup, if_pos rfl]
          rfl
  | cons name before ih =>
      subst hnames
      cases cells with
      | nil => cases hwidth
      | cons cell cells =>
          have hne : fieldname ≠ name := fun heq => hfirst (heq ▸ List.mem_cons_self)
          rw [List.cons_append, lookup, if_neg hne]
          exact ih rfl (fun hmem => hfirst (List.mem_cons_of_mem _ hmem)) (Nat.succ.inj hwidth)

/-- The name of column `i`, if no column before has it, is looked up in column `i`. -/
theorem lookup_of_index {names : List String} {i : ℕ} (hi : i < names.length)
    (hfirst : ∀ j (hj : j < i), names[j] ≠ names[i]) {cells : List (Option String)}
    (hwidth : cells.length = names.length) : lookup names[i] names cells = cells[i]?.join := by
  have hsplit : names = names.take i ++ names[i] :: names.drop (i + 1) := by
    rw [← List.drop_eq_getElem_cons hi, List.take_append_drop]
  have hnot : names[i] ∉ names.take i := by
    intro hmem
    obtain ⟨j, hj, heq⟩ := List.mem_take_iff_getElem.1 hmem
    exact hfirst j (by omega) heq
  have hfound := lookup_of_first hsplit hnot hwidth
  rwa [List.length_take, min_eq_left hi.le] at hfound

/-! ## The two lookups -/

namespace MySQL

variable {env : Env} {o : MySQL} {res : MYSQL_RES}

/-- The row a field call reads is one of the stored result set ... -/
theorem Stored.holds_available (hs : o.Stored res) {row : MYSQL_ROW}
    (hrow : o.available res = some row) : res.Holds row := by
  rw [← hs.available_eq] at hrow
  obtain ⟨i, -, hi⟩ := Option.bind_eq_some_iff.1 hrow
  exact (MYSQL_RES.holds_of_rowAt hi).1

/-- ... and as wide as its columns. -/
theorem Stored.width_available (hs : o.Stored res) {row : MYSQL_ROW}
    (hrow : o.available res = some row) : row.cells.length = res.set.fields.length :=
  hs.shape.width _ (List.mem_of_getElem? (hs.holds_available hrow).2)

theorem Stored.cells_available (hs : o.Stored res) :
    res.cellsAt ((o.cursor res).read res.count .peek) = (o.available res).map MYSQL_ROW.cells := by
  rw [MYSQL_RES.cellsAt_eq, hs.available_eq]

/-- The lookup by name reads that row, and leaves it cached. -/
theorem Stored.peeks_fetch_field (hs : o.Stored res) (env : Env) (fieldname : String) :
    ∃ field, Ends unseen (fetch_field env fieldname) o
      ((o.available res).bind fun row => lookup fieldname res.set.fields row.cells)
      { o.peeked res with field := field } [] := by
  obtain ⟨field, hends⟩ := hs.ends_fetch_field env fieldname
  rw [hs.cells_available, Option.bind_map, hs.peeked_eq] at hends
  exact ⟨field, hends⟩

/-- So does the lookup by number. -/
theorem Stored.peeks_fetch_field_num (hs : o.Stored res) (env : Env) {p : Event → Bool}
    (hp : Overlooks p) (herror : ∀ conn error errid, p (.error conn error errid) = false)
    {fieldnum : Cell}
    (hin : ∀ row, o.available res = some row → 0 ≤ fieldnum ∧ fieldnum < res.set.fields.length) :
    Ends p (fetch_field_num env fieldnum) o
      ((o.available res).bind fun row => row.cells[fieldnum.toNat]?.join) (o.peeked res) [] := by
  have hends := hs.ends_fetch_field_num env hp herror (hs.available_eq ▸ hin)
  rwa [hs.cells_available, Option.bind_map, hs.peeked_eq] at hends

end MySQL

/-- **Lookup by name agrees with lookup by number**: both read the cached row, or else the next one,
    and leave it cached. A name no column has is looked up with the same effect exactly if it has at
    most 70 characters, or there is no row. -/
theorem fetch_field_agrees_iff {o : MySQL} {res : MYSQL_RES} (hs : o.Stored res) :
    (∀ (i : ℕ) (hi : i < res.set.fields.length),
      (∀ j (hj : j < i), res.set.fields[j] ≠ res.set.fields[i]) → ∀ env env' : Env,
        ∃ value o₁ o₂,
          Ends unseen (MySQL.Buffered.fetch_field env res.set.fields[i]) o value o₁ [] ∧
          Ends unseen (MySQL.fetch_field_num env' i) o value o₂ [] ∧
          o₁.result = o₂.result ∧ o₁.row = o₂.row ∧
          o₂.result = some (if o.row.isSome then res else res.next) ∧ o₂.row = o.available res ∧
          value = (o.available res).bind fun row => row.cells[i]?.join) ∧
    ∀ fieldname ∉ res.set.fields, ∀ env : Env,
      (∃ o₃, Ends unseen (MySQL.Buffered.fetch_field env fieldname) o none o₃ [] ∧
        o₃.result = some (if o.row.isSome then res else res.next) ∧ o₃.row = o.available res) ↔
        strlen fieldname ≤ 70 ∨ o.available res = none := by
  constructor
  · intro i hi hfirst env env'
    obtain ⟨field, es, hname, hes⟩ := hs.peeks_fetch_field env res.set.fields[i]
    have hnum := hs.peeks_fetch_field_num env' overlooks_unseen (fun _ _ _ => rfl)
      fun _ _ => ⟨Int.natCast_nonneg i, Int.ofNat_lt.2 hi⟩
    have hlookup : (o.available res).bind
        (fun row => lookup res.set.fields[i] res.set.fields row.cells) =
          (o.available res).bind fun row => row.cells[i]?.join := by
      cases hrow : o.available res with
      | none => rfl
      | some row => exact lookup_of_index hi hfirst (hs.width_available hrow)
    -- the name is that of a column, so the buffer is not touched
    rw [hlookup,
      ← MySQL.Buffered.fetch_field_eq hs.result (.inl (.inl (List.getElem_mem hi)))] at hname
    exact ⟨_, _, _, ⟨es, hname, hes⟩, hnum, rfl, rfl, MySQL.peeked_result hs.result,
      MySQL.peeked_row, rfl⟩
  · intro fieldname habsent env
    rw [← MySQL.inBounds_fieldBuffer_iff]
    constructor
    · rintro ⟨o₃, ⟨es, hok, -⟩, -⟩
      by_contra hnot
      obtain ⟨hlong, hsome⟩ := not_or.1 hnot
      obtain ⟨row, hrow⟩ := Option.ne_none_iff_exists'.1 hsome
      exact not_faults_of_ok hok
        (MySQL.Buffered.faults_fetch_field hs.result habsent hlong hrow)
    · intro hfits
      obtain ⟨field, es, hname, hes⟩ := hs.peeks_fetch_field env fieldname
      have hnone : (o.available res).bind
          (fun row => lookup fieldname res.set.fields row.cells) = none := by
        cases o.available res with
        | none => rfl
        | some row => exact lookup_of_not_mem habsent row.cells
      rw [hnone, ← MySQL.Buffered.fetch_field_eq hs.result (hfits.imp_left .inr)] at hname
      exact ⟨_, ⟨es, hname, hes⟩, MySQL.peeked_result hs.result, MySQL.peeked_row⟩

/-- The columns of the two rows, before any row was read. -/
theorem two_columns_agree :
    (∀ (i : ℕ) (hi : i < TwoRows.stored.set.fields.length),
      (∀ j (hj : j < i), TwoRows.stored.set.fields[j] ≠ TwoRows.stored.set.fields[i]) →
      ∀ env env' : Env, ∃ value o₁ o₂,
        Ends unseen (MySQL.Buffered.fetch_field env TwoRows.stored.set.fields[i]) TwoRows.object
          value o₁ [] ∧
        Ends unseen (MySQL.fetch_field_num env' i) TwoRows.object value o₂ [] ∧
        o₁.result = o₂.result ∧ o₁.row = o₂.row ∧ o₂.result = some TwoRows.stored.next ∧
        o₂.row = TwoRows.object.available TwoRows.stored ∧
        value = (TwoRows.object.available TwoRows.stored).bind fun row => row.cells[i]?.join) ∧
    ∀ fieldname ∉ ["a", "b"], ∀ env : Env,
      (∃ o₃, Ends unseen (MySQL.Buffered.fetch_field env fieldname) TwoRows.object none o₃ [] ∧
        o₃.result = some TwoRows.stored.next ∧
        o₃.row = TwoRows.object.available TwoRows.stored) ↔
        strlen fieldname ≤ 70 ∨ TwoRows.object.available TwoRows.stored = none :=
  fetch_field_agrees_iff TwoRows.stored_object

/-- A name of 71 characters, which no column has: the message is printed past the end of its buffer. -/
theorem long_name_disagrees :
    ¬ ∀ (o : MySQL) (res : MYSQL_RES), o.Stored res → ∀ fieldname ∉ res.set.fields, ∀ env : Env,
      ∃ o₃, Ends unseen (MySQL.Buffered.fetch_field env fieldname) o none o₃ [] ∧
        o₃.result = some (if o.row.isSome then res else res.next) ∧
        o₃.row = o.available res := by
  intro hall
  have hlong : ¬ (MySQL.fieldBuffer (String.ofList (List.replicate 71 'a'))).InBounds := by
    rw [MySQL.inBounds_fieldBuffer_iff]
    decide
  obtain ⟨o₃, ⟨es, hok, -⟩, -⟩ := hall TwoRows.object TwoRows.stored TwoRows.stored_object
    (String.ofList (List.replicate 71 'a')) (by decide) TwoRows.env
  have hrow : TwoRows.object.available TwoRows.stored = some ⟨0, 0, [some "1", none]⟩ := rfl
  exact not_faults_of_ok hok (MySQL.Buffered.faults_fetch_field rfl (by decide) hlong hrow)

/-! ## The number the script passed -/

namespace MySQL

variable {env : Env} {o : MySQL} {res : MYSQL_RES}

/-- When a row is read, the number has to be that of one of its cells. -/
theorem column_of_fetch_field_num (hres : o.result = some res) {row : MYSQL_ROW}
    (hrow : o.available res = some row) {fieldnum : Cell} {value : Option String} {o' : MySQL}
    {es : List Event} (h : fetch_field_num env fieldnum o = .ok (value, o', es)) :
    0 ≤ fieldnum ∧ fieldnum < row.cells.length := by
  obtain ⟨hnone, -⟩ | ⟨res', hres', hwork⟩ := onResult_eq_ok h
  · cases hnone.symm.trans hres
  obtain rfl : res' = res := Option.some.inj (hres'.symm.trans hres)
  obtain ⟨_, _, _, hrest, -, -⟩ := idle_then (idle_logAll _) hwork
  rw [bind_of_silent (run_currentRow _ _), hrow] at hrest
  obtain ⟨h₀, hthere⟩ := rowCell_eq_ok hrest
  have hlt := (List.getElem?_eq_some_iff.1 hthere).1
  exact ⟨h₀, (Int.toNat_lt h₀).1 hlt⟩

end MySQL

namespace Natives

variable {N : ℕ} {env : Env} {params : List Cell} {w : World N} {h : Fin N} {o : MySQL}
  {res : MYSQL_RES}

/-- The text of column `k` of a row, if there is such a column and it is not `NULL`. -/
def columnText (columns : ℕ) (k : Cell) (row : MYSQL_ROW) : Option String :=
  if 0 ≤ k ∧ k < columns then row.cells[k.toNat]?.join else none

/-- The native returns 1 and writes the text, or returns 0 and writes nothing, and no operation of it
    is undefined. -/
def Gives (native : Native N Cell) (w : World N) (addr : Cell) (text : Option String) : Prop :=
  ∃ w', Ends Event.isSetString native w (if text.isSome then 1 else 0) w'
    ((text.map fun text => [.setString addr text]).getD [])

/-- The native gives the text of the column of the stored result set: a row it reads is one of the
    rows of that set. -/
def GivesColumn (env : Env) (params : List Cell) (w : World N) (o : MySQL) (res : MYSQL_RES) : Prop :=
  (∀ row, o.available res = some row → res.Holds row) ∧
    Gives (n_mysql_fetch_field_num env params) w (param params 2)
      ((o.available res).bind (columnText res.set.fields.length (param params 1)))

/-- **When `mysql_fetch_field_num` is total**: it reads inside a row of the result set and gives the
    text of the column exactly if the cached row is one of that set, and the number is that of a column
    or there is no row to read. -/
theorem fetch_field_num_total_iff (hon : OnConnection params 3 3 w h o) (hres : o.result = some res)
    (hshape : res.set.WellFormed) :
    GivesColumn env params w o res ↔
      (∀ row, o.row = some row → res.Holds row) ∧
        ((0 ≤ param params 1 ∧ param params 1 < res.set.fields.length) ∨ o.available res = none) := by
  constructor
  · rintro ⟨hholds, w', es, hok, -⟩
    refine ⟨fun row hrow => hholds row (by rw [MySQL.available, hrow]; rfl), ?_⟩
    cases hrow : o.available res with
    | none => exact .inr rfl
    | some row =>
        rw [n_mysql_fetch_field_num, onConnection, check_eq_rest hon] at hok
        obtain ⟨value, w₁, es₁, es₂, hcall, -, -⟩ := bind_eq_ok.1 hok
        obtain ⟨o₁, o', ho, hfetch, -⟩ := call_eq_ok.1 hcall
        obtain rfl := Option.some.inj (hon.object.symm.trans ho)
        have hcolumn := MySQL.column_of_fetch_field_num hres hrow hfetch
        rw [hshape.width _ (List.mem_of_getElem? (hholds row hrow).2)] at hcolumn
        exact .inl hcolumn
  · rintro ⟨hcached, hin⟩
    have hs : o.Stored res := ⟨hres, hcached, hshape⟩
    refine ⟨fun row hrow => hs.holds_available hrow, ?_⟩
    have hvalid : ∀ row, o.available res = some row →
        0 ≤ param params 1 ∧ param params 1 < res.set.fields.length :=
      fun row hrow => hin.resolve_right (by simp [hrow])
    -- with such a number the cell of the row is the text of the column
    have hvalue : (o.available res).bind (fun row => row.cells[(param params 1).toNat]?.join) =
        (o.available res).bind (columnText res.set.fields.length (param params 1)) := by
      cases hrow : o.available res with
      | none => rfl
      | some row => exact (if_pos (hvalid row hrow)).symm
    have hfetch := hs.peeks_fetch_field_num env overlooks_isSetString (fun _ _ _ => rfl) hvalid
    rw [hvalue] at hfetch
    have hgives := ends_giveString Event.isSetString (param params 2)
      ((o.available res).bind (columnText res.set.fields.length (param params 1)))
      (w.set h (some (o.peeked res)))
    exact ⟨_, ends_check hon (.then (ends_call hon.object hfetch) hgives)⟩

namespace FieldNum

open TwoRows (stored)

/-- One handle, on the result set of two rows. -/
def world : World 1 := ⟨fun _ => some TwoRows.object, [], 0⟩

theorem onConnection_second : OnConnection [12, 1, 7, 0] 3 3 world 0 TwoRows.object :=
  ⟨rfl, rfl, rfl, rfl⟩

/-- The second column of the first row is `NULL`: 0 is returned and nothing is written. -/
theorem null_column_total :
    GivesColumn TwoRows.env [12, 1, 7, 0] world TwoRows.object stored ↔
      (∀ row, none = some row → stored.Holds row) ∧
        (((0 : ℤ) ≤ 1 ∧ (1 : ℤ) < 2) ∨ TwoRows.object.available stored = none) :=
  fetch_field_num_total_iff onConnection_second rfl TwoRows.wellFormed_set

/-- The number -1 is that of no column: the row is indexed with it all the same. -/
theorem row_indexed_outside :
    ¬ ∀ (N : ℕ) (env : Env) (params : List Cell) (w : World N) (h : Fin N) (o : MySQL)
      (res : MYSQL_RES), OnConnection params 3 3 w h o → o.result = some res →
        res.set.WellFormed → GivesColumn env params w o res := by
  intro hall
  obtain ⟨-, w', es, hok, -⟩ := hall 1 TwoRows.env [12, -1, 7, 0] world 0 TwoRows.object stored
    ⟨rfl, rfl, rfl, rfl⟩ rfl TwoRows.wellFormed_set
  cases hok

end FieldNum

end Natives
end MysqlPlugin
