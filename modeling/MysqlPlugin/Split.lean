import Mathlib.Data.List.Basic
import MysqlPlugin.Effect

set_option autoImplicit false

/-! # Rows as one string: `fetch_row` and the script function `split`

`fetch_row` puts the columns of a row together with a splitter between them, and `split` of
`mysql.inc` takes such a string apart into the rows of an array. The loop of `split` writes exactly
the pieces of `List.splitOn` (`Pawn.splitLoop_pieces`), the loop of `fetch_row` is
`String.intercalate`, and on texts without the splitter the one undoes the other
(`Pawn.splitsInto_intercalate`, `Pawn.split_joins_back`). Whether the row fits the buffer it is put
together in is another question (`RowBuffer.lean`).

The cell a character is stored as, and the native `strmid`, are parameters. -/

namespace MysqlPlugin

open Prog

/-! ## What `fetch_row` puts together -/

/-- The text of a column: an SQL `NULL` reads `NULL`. -/
def columnText (cell : Option String) : String := cell.getD "NULL"

theorem MySQL.joinRow_eq (splitter : String) (cells : List (Option String)) :
    joinRow splitter cells = splitter.intercalate (cells.map columnText) := by
  induction cells with
  | nil => simp [joinRow]
  | cons cell cells ih =>
      cases cells with
      | nil => simp [joinRow, columnText]
      | cons next cells =>
          rw [joinRow, ih, List.map_cons, List.map_cons, List.map_cons,
            String.intercalate_cons_cons]
          · simp [columnText]
          · simp

/-- `fetch_row` returns the next row, put together. -/
theorem MySQL.run_fetch_row (env : Env) (splitter : String) {o : MySQL} {res : MYSQL_RES}
    {row : MYSQL_ROW} (hres : o.result = some res) (hrow : res.fetchRow = some row) :
    ∃ o' es, fetch_row env splitter o =
      .ok (some (splitter.intercalate (row.cells.map columnText)), o', es) := by
  have hlast : Safe (do
      logAll ("Function: mysql_fetch_row executed with result: \"" ++
        joinRow splitter row.cells ++ "\".")
      return some (joinRow splitter row.cells)) :=
    Safe.bind (safe_logAll _) fun _ => Safe.pure _
  obtain ⟨a, o', es, hok⟩ := hlast.ok { o with row := some row, result := some res.next }
  obtain ⟨_, _, _, _, -, hret, -⟩ := bind_eq_ok.1 hok
  cases hret
  have hfetch : fetchRow res o =
      .ok (some row, { o with row := some row, result := some res.next }, []) := by
    simp only [fetchRow, hrow, bind, run_modify, run_pure, List.append_nil]
  rw [fetch_row, get_bind, hres]
  simp only
  rw [bind_of_silent hfetch, ← joinRow_eq]
  exact ⟨o', es, hok⟩

namespace Pawn

/-! ## The script function -/

/-- `strlen` of an unpacked string. -/
def strlen (string : List Cell) : ℕ := (string.takeWhile (· ≠ 0)).length

/-- `strmid( dest[], const source[], start, end, maxlength )`: `dest` afterwards, and the result. -/
abbrev Strmid := List Cell → List Cell → ℕ → ℕ → ℕ → List Cell × ℕ

/-- What `split` relies on: up to 127 cells of a string are copied, and counted. -/
def Strmid.Copies (strmid : Strmid) : Prop :=
  ∀ dest source start stop, start ≤ stop → stop ≤ strlen source → stop - start < 128 →
    128 ≤ dest.length →
      (strmid dest source start stop 128).1.length = dest.length ∧
      (strmid dest source start stop 128).1.take (stop - start) =
        (source.drop start).take (stop - start) ∧
      (strmid dest source start stop 128).2 = stop - start

variable (strmid : Strmid) (strsrc : List Cell) (delimiter : Cell)

/-- The loop of `split`, with the number of turns still to come; `none` is an index outside its
    array. -/
def splitLoop (srclen : ℕ) : ℕ → ℕ → ℕ → ℕ → List (List Cell) → Option (List (List Cell))
  | 0, _, _, _, strdest => some strdest
  | n + 1, i, li, aNum, strdest => do
    let c ← strsrc[i]?
    if c = delimiter ∨ i = srclen then
      let dest ← strdest[aNum]?
      let (dest, len) := strmid dest strsrc li i 128
      if len < dest.length then
        splitLoop srclen n (i + 1) (i + 1) (aNum + 1) (strdest.set aNum (dest.set len 0))
      else none
    else
      splitLoop srclen n (i + 1) li aNum strdest

/-- `split( strsrc[], strdest[][], delimiter )`. -/
def split (strdest : List (List Cell)) : Option (List (List Cell)) :=
  splitLoop strmid strsrc delimiter (strlen strsrc) (strlen strsrc + 1) 0 0 0 strdest

/-! ## What the loop writes -/

/-- A row of the destination holds a string: its cells, and a zero. -/
def HoldsString (row string : List Cell) : Prop := string ++ [0] <+: row

/-- The rows from `first` on hold the strings, the other rows are as before. -/
structure Written (first : ℕ) (strings : List (List Cell)) (strdest strdest' : List (List Cell)) :
    Prop where
  length : strdest'.length = strdest.length
  rows : ∀ j string, strings[j]? = some string →
    ∃ row, strdest'[first + j]? = some row ∧ HoldsString row string
  others : ∀ k, k < first ∨ first + strings.length ≤ k → strdest'[k]? = strdest[k]?

variable {strmid strsrc delimiter}

/-- One turn that finds the end of a piece: the piece is written to the next row. -/
theorem write_piece (hstrmid : strmid.Copies) {start stop aNum : ℕ} {strdest : List (List Cell)}
    (hle : start ≤ stop) (hstop : stop ≤ strlen strsrc) (hshort : stop - start < 128)
    (hrow : aNum < strdest.length) (hwide : ∀ row ∈ strdest, 128 ≤ row.length) :
    ∃ row dest len, strdest[aNum]? = some row ∧ strmid row strsrc start stop 128 = (dest, len) ∧
      len < dest.length ∧ 128 ≤ dest.length ∧
      HoldsString (dest.set len 0) ((strsrc.drop start).take (stop - start)) := by
  have hlong := hwide _ (List.getElem_mem hrow)
  obtain ⟨hlen, htake, hcount⟩ := hstrmid strdest[aNum] strsrc start stop hle hstop hshort hlong
  generalize hrun : strmid strdest[aNum] strsrc start stop 128 = r at hlen htake hcount
  obtain ⟨dest, len⟩ := r
  simp only at hlen htake hcount
  have hin : len < dest.length := by omega
  refine ⟨strdest[aNum], dest, len, List.getElem?_eq_getElem hrow, hrun, hin, by omega, ?_⟩
  rw [HoldsString, ← htake, ← hcount, List.set_eq_take_append_cons_drop, if_pos hin]
  exact ⟨dest.drop (len + 1), by simp⟩

theorem Written.nil (first : ℕ) (strdest : List (List Cell)) :
    Written first [] strdest strdest :=
  ⟨rfl, by simp, fun _ _ => rfl⟩

/-- One row is written, then the rest. -/
theorem Written.cons {first : ℕ} {string row : List Cell} {strings strdest strdest' : List (List Cell)}
    (hfirst : first < strdest.length) (hrow : HoldsString row string)
    (h : Written (first + 1) strings (strdest.set first row) strdest') :
    Written first (string :: strings) strdest strdest' := by
  refine ⟨by simpa using h.length, fun j piece hj => ?_, fun k hk => ?_⟩
  · cases j with
    | zero =>
        cases hj
        refine ⟨row, ?_, hrow⟩
        rw [Nat.add_zero, h.others first (.inl (Nat.lt_succ_self _)), List.getElem?_set_self hfirst]
    | succ j =>
        rw [List.getElem?_cons_succ] at hj
        have hrows := h.rows j piece hj
        rwa [Nat.add_assoc, Nat.add_comm 1 j] at hrows
  · have hk' : k < first + 1 ∨ first + 1 + strings.length ≤ k := by
      rw [List.length_cons] at hk
      omega
    have hne : first ≠ k := by
      rw [List.length_cons] at hk
      omega
    rw [h.others k hk', List.getElem?_set_ne hne]

theorem strlen_eq {s rest : List Cell} (h₀ : (0 : Cell) ∉ s) : strlen (s ++ 0 :: rest) = s.length := by
  rw [strlen, List.takeWhile_append_of_pos]
  · simp
  · intro c hc
    have hne : c ≠ 0 := fun hzero => h₀ (hzero ▸ hc)
    simpa using hne

/-- **The loop of `split` writes the pieces of the string** that still lie ahead of `li`, if there is
    no delimiter between `li` and `i`. -/
theorem splitLoop_pieces (hstrmid : strmid.Copies) {s rest : List Cell} (h₀ : (0 : Cell) ∉ s)
    {n i li aNum : ℕ} {strdest : List (List Cell)} (hn : n + i = s.length) (hle : li ≤ i)
    (hno : delimiter ∉ (s.drop li).take (i - li))
    (hshort : ∀ piece ∈ (s.drop li).splitOn delimiter, piece.length < 128)
    (hrows : aNum + ((s.drop li).splitOn delimiter).length ≤ strdest.length)
    (hwide : ∀ row ∈ strdest, 128 ≤ row.length) :
    ∃ strdest', splitLoop strmid (s ++ 0 :: rest) delimiter s.length (n + 1) i li aNum strdest =
        some strdest' ∧
      Written aNum ((s.drop li).splitOn delimiter) strdest strdest' := by
  have hlen : strlen (s ++ 0 :: rest) = s.length := strlen_eq h₀
  have hcut : ∀ {i li}, li ≤ i → i ≤ s.length →
      ((s ++ 0 :: rest).drop li).take (i - li) = (s.drop li).take (i - li) := by
    intro i li hle hi
    rw [List.drop_append_of_le_length (by omega), List.take_append_of_le_length]
    rw [List.length_drop]
    omega
  -- on the turns to come; between `li` and `i` there is no delimiter
  induction n generalizing i li aNum strdest with
  | zero =>
      -- the terminator: the rest of the string is the last piece
      obtain rfl : i = s.length := by omega
      have hall : (s.drop li).take (s.length - li) = s.drop li := List.take_of_length_le (by simp)
      rw [hall] at hno
      have hpieces := List.splitOn_eq_singleton hno
      rw [hpieces] at hshort hrows ⊢
      have hpiece := hshort _ (List.mem_singleton.2 rfl)
      rw [List.length_drop] at hpiece
      simp only [List.length_singleton] at hrows
      obtain ⟨row, dest, len, hrow, hrun, hin, -, hholds⟩ := write_piece hstrmid hle hlen.ge hpiece
        (by omega : aNum < strdest.length) hwide
      rw [hcut hle le_rfl, hall] at hholds
      refine ⟨_, ?_, .cons (by omega) hholds (.nil _ _)⟩
      simp [splitLoop, hrow, hrun, hin]
  | succ n ih =>
      have hi : i < s.length := by omega
      have hget : (s ++ 0 :: rest)[i]? = some s[i] := by
        rw [List.getElem?_append_left hi, List.getElem?_eq_getElem hi]
      have hrest : s.drop li = (s.drop li).take (i - li) ++ s[i] :: s.drop (i + 1) := by
        rw [← List.drop_eq_getElem_cons hi]
        conv_lhs => rw [← List.take_append_drop (i - li) (s.drop li)]
        rw [List.drop_drop, Nat.add_sub_cancel' hle]
      by_cases hc : s[i] = delimiter
      · -- a delimiter: the piece ends here
        have hpieces : (s.drop li).splitOn delimiter =
            (s.drop li).take (i - li) :: (s.drop (i + 1)).splitOn delimiter := by
          conv_lhs => rw [hrest, hc]
          exact List.splitOn_append_cons_self_of_not_mem hno _
        rw [hpieces] at hshort hrows ⊢
        have hpiece := hshort _ List.mem_cons_self
        rw [List.length_take, List.length_drop] at hpiece
        rw [List.length_cons] at hrows
        obtain ⟨row, dest, len, hrow, hrun, hin, hlong, hholds⟩ := write_piece hstrmid hle
          (by omega : i ≤ strlen (s ++ 0 :: rest)) (by omega)
          (by omega : aNum < strdest.length) hwide
        rw [hcut hle hi.le] at hholds
        have hwide' : ∀ row ∈ strdest.set aNum (dest.set len 0), 128 ≤ row.length := by
          intro row hmem
          rcases List.mem_or_eq_of_mem_set hmem with hmem | rfl
          · exact hwide row hmem
          · rwa [List.length_set]
        obtain ⟨strdest', hloop, hwritten⟩ := @ih (i + 1) (i + 1) (aNum + 1)
          (strdest.set aNum (dest.set len 0)) (by omega) le_rfl (by simp)
          (fun piece hmem => hshort piece (List.mem_cons_of_mem _ hmem))
          (by rw [List.length_set]; omega) hwide'
        refine ⟨strdest', ?_, .cons (by omega) hholds hwritten⟩
        rw [splitLoop, hget]
        simpa [hc, hrow, hrun, hin] using hloop
      · -- the piece goes on
        have hno' : delimiter ∉ (s.drop li).take (i + 1 - li) := by
          rw [Nat.succ_sub hle, List.take_add_one, List.mem_append, not_or]
          refine ⟨hno, ?_⟩
          rw [List.getElem?_drop, Nat.add_sub_cancel' hle, List.getElem?_eq_getElem hi]
          simpa using Ne.symm hc
        obtain ⟨strdest', hloop, hwritten⟩ := @ih (i + 1) li aNum strdest (by omega) (by omega) hno'
          hshort hrows hwide
        refine ⟨strdest', ?_, hwritten⟩
        rw [splitLoop, hget]
        simpa [hc, hi.ne] using hloop

/-- `split` writes the pieces of a string between the delimiters, in order from the first row on. -/
theorem split_pieces (hstrmid : strmid.Copies) {s : List Cell} (h₀ : (0 : Cell) ∉ s)
    {strdest : List (List Cell)}
    (hshort : ∀ piece ∈ s.splitOn delimiter, piece.length < 128)
    (hrows : (s.splitOn delimiter).length ≤ strdest.length)
    (hwide : ∀ row ∈ strdest, 128 ≤ row.length) :
    ∃ strdest', split strmid (s ++ [0]) delimiter strdest = some strdest' ∧
      Written 0 (s.splitOn delimiter) strdest strdest' := by
  rw [split, strlen_eq h₀]
  exact splitLoop_pieces hstrmid h₀ rfl le_rfl (by simp) (by simpa using hshort)
    (by simpa using hrows) hwide

/-- There is one piece more than there are delimiters. -/
theorem length_splitOn (s : List Cell) : (s.splitOn delimiter).length = s.count delimiter + 1 := by
  induction s with
  | nil => rfl
  | cons c s ih =>
      rw [List.splitOn_cons_eq_if_modifyHead, List.count_cons]
      by_cases hc : (c == delimiter) = true
      · rw [if_pos hc, if_pos hc, List.length_cons, ih]
      · rw [if_neg hc, if_neg hc, List.length_modifyHead, ih]

/-! ## The round trip -/

/-- What `SetString` leaves in the script's memory, if a character is stored as the cell
    `store c`. -/
def stored (store : Char → Cell) (text : String) : List Cell := text.toList.map store ++ [0]

/-- The cells of a joined row are the joined cells. -/
theorem map_intercalate (store : Char → Cell) (d : Char) (texts : List String) :
    ((String.singleton d).intercalate texts).toList.map store =
      [store d].intercalate (texts.map fun text => text.toList.map store) := by
  rw [String.toList_intercalate]
  induction texts with
  | nil => rfl
  | cons text texts ih =>
      cases texts with
      | nil => simp
      | cons next texts =>
          simp only [List.map_cons, List.intercalate_cons_cons, List.map_append] at ih ⊢
          rw [ih]
          simp

theorem splitOn_stored {store : Char → Cell} (hinj : Function.Injective store) {d : Char}
    {texts : List String} (htexts : texts ≠ []) (hd : ∀ text ∈ texts, d ∉ text.toList) :
    (((String.singleton d).intercalate texts).toList.map store).splitOn (store d) =
      texts.map fun text => text.toList.map store := by
  rw [map_intercalate]
  refine List.splitOn_intercalate _ (fun l hl => ?_) (by simpa using htexts)
  obtain ⟨text, htext, rfl⟩ := List.mem_map.1 hl
  rw [List.mem_map]
  rintro ⟨c, hc, heq⟩
  exact hd text htext (hinj heq ▸ hc)

theorem mem_of_mem_intercalate {d c : Char} {texts : List String}
    (h : c ∈ ((String.singleton d).intercalate texts).toList) :
    c = d ∨ ∃ text ∈ texts, c ∈ text.toList := by
  rw [String.toList_intercalate, String.toList_singleton] at h
  induction texts with
  | nil => simp at h
  | cons text texts ih =>
      cases texts with
      | nil => exact .inr ⟨text, List.mem_cons_self, by simpa using h⟩
      | cons next texts =>
          rw [List.map_cons, List.map_cons, List.intercalate_cons_cons, List.append_assoc] at h
          rcases List.mem_append.1 h with hmem | hmem
          · exact .inr ⟨text, List.mem_cons_self, hmem⟩
          · rcases List.mem_cons.1 hmem with rfl | hmem
            · exact .inl rfl
            · rcases ih (by simpa using hmem) with hd | ⟨t, ht, hc⟩
              · exact .inl hd
              · exact .inr ⟨t, List.mem_cons_of_mem _ ht, hc⟩

/-- `split` writes the texts to the first rows of the destination and touches no other. -/
def SplitsInto (store : Char → Cell) (strmid : Strmid) (d : Char) (text : String)
    (texts : List String) (strdest : List (List Cell)) : Prop :=
  ∃ strdest', split strmid (stored store text) (store d) strdest = some strdest' ∧
    strdest'.length = strdest.length ∧
    (∀ (i : ℕ) text, texts[i]? = some text → ∃ r, strdest'[i]? = some r ∧ stored store text <+: r) ∧
    ∀ i, texts.length ≤ i → strdest'[i]? = strdest[i]?

/-- **`split` undoes the joining**, if the texts contain neither the splitter nor a NUL and are short
    enough. -/
theorem splitsInto_intercalate {store : Char → Cell} (hinj : Function.Injective store)
    (hnul : ∀ c, store c = 0 ↔ c = Char.ofNat 0) (hstrmid : strmid.Copies) {d : Char}
    (hd : d ≠ Char.ofNat 0) {texts : List String} (htexts : texts ≠ [])
    (hplain : ∀ text ∈ texts, d ∉ text.toList ∧ Char.ofNat 0 ∉ text.toList ∧ text.length < 128)
    {strdest : List (List Cell)} (hrows : texts.length ≤ strdest.length)
    (hwide : ∀ r ∈ strdest, 128 ≤ r.length) :
    SplitsInto store strmid d ((String.singleton d).intercalate texts) texts strdest := by
  have hpieces := splitOn_stored hinj htexts fun text ht => (hplain text ht).1
  have h₀ : (0 : Cell) ∉ ((String.singleton d).intercalate texts).toList.map store := by
    rw [List.mem_map]
    rintro ⟨c, hc, hzero⟩
    obtain rfl := (hnul c).1 hzero
    rcases mem_of_mem_intercalate hc with heq | ⟨text, ht, hmem⟩
    · exact hd heq.symm
    · exact (hplain text ht).2.1 hmem
  have hshort : ∀ piece ∈ texts.map fun text => text.toList.map store, piece.length < 128 := by
    intro piece hmem
    obtain ⟨text, ht, rfl⟩ := List.mem_map.1 hmem
    rw [List.length_map, String.length_toList]
    exact (hplain text ht).2.2
  obtain ⟨strdest', hsplit, hwritten⟩ := split_pieces hstrmid h₀ (hpieces ▸ hshort)
    (by rw [hpieces]; simpa using hrows) hwide
  rw [hpieces] at hwritten
  refine ⟨strdest', hsplit, hwritten.length, fun i text ht => ?_, fun i hi => ?_⟩
  · obtain ⟨r, hr, hholds⟩ := hwritten.rows i _ (by rw [List.getElem?_map, ht]; rfl)
    exact ⟨r, by simpa using hr, hholds⟩
  · exact hwritten.others i (.inr (by simpa using hi))

/-- The pieces `split` writes of any string, joined, give the string back, and there is one more than
    there are delimiters. -/
theorem split_joins_back (hstrmid : strmid.Copies) {s : List Cell} (h₀ : (0 : Cell) ∉ s)
    {strdest : List (List Cell)} (hshort : ∀ piece ∈ s.splitOn delimiter, piece.length < 128)
    (hrows : (s.splitOn delimiter).length ≤ strdest.length)
    (hwide : ∀ r ∈ strdest, 128 ≤ r.length) :
    ∃ pieces strdest', split strmid (s ++ [0]) delimiter strdest = some strdest' ∧
      Written 0 pieces strdest strdest' ∧ [delimiter].intercalate pieces = s ∧
      pieces.length = s.count delimiter + 1 := by
  obtain ⟨strdest', hsplit, hwritten⟩ := split_pieces hstrmid h₀ hshort hrows hwide
  exact ⟨_, strdest', hsplit, hwritten, List.intercalate_splitOn delimiter, length_splitOn s⟩

/-- A `strmid` that copies and terminates. -/
def copyCells (dest source : List Cell) (start stop maxlength : ℕ) : List Cell × ℕ :=
  let len := min (stop - start) (maxlength - 1)
  ((source.drop start).take len ++ 0 :: dest.drop (len + 1), len)

theorem copyCells_copies : Strmid.Copies copyCells := by
  intro dest source start stop hle hstop hshort hlong
  have hmin : min (stop - start) (128 - 1) = stop - start := by omega
  have hlen : ((source.drop start).take (stop - start)).length = stop - start := by
    have hsub : strlen source ≤ source.length := (List.takeWhile_sublist _).length_le
    rw [List.length_take, List.length_drop]
    omega
  simp only [copyCells, hmin]
  refine ⟨?_, List.take_left' hlen, trivial⟩
  rw [List.length_append, hlen, List.length_cons, List.length_drop]
  omega

end Pawn
end MysqlPlugin
