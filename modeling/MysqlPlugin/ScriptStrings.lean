import MysqlPlugin.Calls
import MysqlPlugin.Lib.Stores

set_option autoImplicit false

/-! # The buffers of script strings

`Natives.GetString` says which text a native is given for an array of the script, and
`MySQL.real_escape_string` which text the script gets back; here are the buffers these texts are
written to. `GetString` counts the cells before the zero cell (`amx_StrLen`), while `strlen` counts the
bytes before the first NUL, and a cell like 256 is a NUL that is not the last.

Whatever the cells, the buffer of `GetString` holds the text of the model (`stringBuffer_holds`). The
branch for the empty string stores behind its five bytes (`inBounds_stringBuffer_iff`). The escape
buffer has three bytes for each byte of the string and none for the terminator, which is one too few
exactly if the string begins with a NUL (`escapeBuffer_fits_iff`). -/

namespace MysqlPlugin

open Prog Stores

/-! ## C strings -/

/-- What a `const char *` to a text points to: the characters before the first NUL. -/
def cChars (text : String) : List Char := text.toList.takeWhile (· ≠ '\x00')

/-- `strlen( text )`. -/
def strlen (text : String) : ℕ := (cChars text).length

/-- `sprintf( buffer, ... )`: the parts of the format and the arguments of its `%s`, in order. -/
def sprintf (buffer : HeapBuffer Char) (parts : List String) : HeapBuffer Char :=
  buffer.put '\x00' (parts.flatMap cChars)

theorem cChars_of_notMem {text : String} (h : '\x00' ∉ text.toList) : cChars text = text.toList := by
  refine List.takeWhile_eq_self_iff.2 fun c hc => ?_
  exact decide_eq_true fun heq => h (heq ▸ hc)

theorem inBounds_sprintf_iff {size : ℕ} {parts : List String} :
    (sprintf (.new size) parts).InBounds ↔ (parts.map strlen).sum < size := by
  rw [sprintf, HeapBuffer.inBounds_put_new_iff, List.length_flatMap]
  rfl

/-- The buffer holds the parts one after another. -/
theorem sprintf_holds {buffer : HeapBuffer Char} {parts : List String} {text : String}
    (hparts : ∀ part ∈ parts, '\x00' ∉ part.toList)
    (htext : parts.flatMap String.toList = text.toList) :
    (sprintf buffer parts).Holds '\x00' text.toList := by
  have hchars : parts.flatMap cChars = text.toList := by
    rw [← htext]
    exact List.flatMap_congr fun part hpart => cChars_of_notMem (hparts part hpart)
  rw [sprintf, hchars, ← htext]
  refine HeapBuffer.holds_put_of_notMem fun hmem => ?_
  obtain ⟨part, hpart, hnul⟩ := List.mem_flatMap.1 hmem
  exact hparts part hpart hnul

namespace Natives

/-! ## `GetString` -/

/-- The cells of the script's string. -/
def stringCells (cells : List Cell) : List Cell := cells.takeWhile (· ≠ 0)

/-- `amx_StrLen`. -/
def amx_StrLen (cells : List Cell) : ℕ := (stringCells cells).length

/-- `(char)cell`. -/
def lowByte (c : Cell) : Char := Char.ofNat (c % 256).toNat

/-- `amx_GetString( dest, cells, 0, UNLIMITED )`. -/
def amx_GetString (dest : HeapBuffer Char) (cells : List Cell) : HeapBuffer Char :=
  dest.put '\x00' ((stringCells cells).map lowByte)

/-- The buffer `GetString` returns. -/
def stringBuffer (cells : List Cell) : HeapBuffer Char :=
  if amx_StrLen cells ≤ 0 then
    (sprintf (.new 5) ["NULL"]).store 5 '\x00'
  else
    (amx_GetString (.new (amx_StrLen cells + 1)) cells).store (amx_StrLen cells) '\x00'

theorem lowByte_eq_nul_iff {c : ℤ} : lowByte c = '\x00' ↔ c % 256 = 0 := by
  have hlt : (c % 256).toNat < 256 := by omega
  constructor
  · intro h
    have hnat := congrArg Char.toNat h
    rw [lowByte, toNat_ofNat hlt] at hnat
    change _ = 0 at hnat
    omega
  · intro h
    rw [lowByte, h]
    rfl

theorem toNat_mod_ne_zero {c : ℤ} (hc : c % 256 ≠ 0) : (c % 256).toNat ≠ 0 := by omega

/-- The bytes of the C string, as the buffer has them. -/
theorem toList_cString (cells : List Cell) :
    (cString cells).toList = ((stringCells cells).map lowByte).takeWhile (· ≠ '\x00') := by
  rw [cString, String.toList_ofList, ← stringCells]
  induction stringCells cells with
  | nil => rfl
  | cons c cells ih =>
      by_cases hc : c % 256 = 0
      · simp [hc, lowByte_eq_nul_iff.2 hc]
      · have hbyte : (c % 256).toNat ≠ 0 := toNat_mod_ne_zero hc
        rw [List.map_cons, List.map_cons, List.takeWhile_cons_of_pos (by simpa using hbyte),
          List.takeWhile_cons_of_pos (by simpa [lowByte_eq_nul_iff] using hc), List.map_cons, ih]
        rfl

theorem textAt_of_nil {cells : List Cell} (h : stringCells cells = []) : textAt cells = "NULL" := by
  rw [textAt, ← stringCells, h]
  rfl

theorem textAt_of_ne_nil {cells : List Cell} (h : stringCells cells ≠ []) :
    textAt cells = cString cells := by
  rw [textAt, ← stringCells, if_neg (by simpa using h)]

theorem nul_notMem_textAt (cells : List Cell) : '\x00' ∉ (textAt cells).toList := by
  by_cases h : stringCells cells = []
  · rw [textAt_of_nil h]
    decide
  · rw [textAt_of_ne_nil h, toList_cString]
    exact nul_notMem_takeWhile

theorem cChars_textAt (cells : List Cell) : cChars (textAt cells) = (textAt cells).toList :=
  cChars_of_notMem (nul_notMem_textAt cells)

theorem amx_StrLen_le_zero_iff {cells : List Cell} : amx_StrLen cells ≤ 0 ↔ stringCells cells = [] := by
  rw [Nat.le_zero, amx_StrLen, List.length_eq_zero_iff]

/-- The buffer holds the text the native works with, whatever the cells. -/
theorem stringBuffer_holds (cells : List Cell) :
    (stringBuffer cells).Holds '\x00' (textAt cells).toList := by
  by_cases h : stringCells cells = []
  · rw [stringBuffer, if_pos (amx_StrLen_le_zero_iff.2 h), textAt_of_nil h]
    exact (sprintf_holds (by decide) rfl).store (by decide)
  · rw [stringBuffer, if_neg (amx_StrLen_le_zero_iff.not.2 h), textAt_of_ne_nil h, toList_cString]
    refine HeapBuffer.holds_put.store ?_
    rw [amx_StrLen, ← List.length_map (f := lowByte)]
    exact (List.takeWhile_prefix _).length_le

/-- Only the branch for the empty string stores out of bounds. -/
theorem inBounds_stringBuffer_iff {cells : List Cell} :
    (stringBuffer cells).InBounds ↔ stringCells cells ≠ [] := by
  by_cases h : stringCells cells = []
  · rw [stringBuffer, if_pos (amx_StrLen_le_zero_iff.2 h), HeapBuffer.inBounds_store_iff]
    constructor
    · rintro ⟨-, hlt⟩
      exact absurd hlt (lt_irrefl 5)
    · exact fun hne => absurd h hne
  · rw [stringBuffer, if_neg (amx_StrLen_le_zero_iff.not.2 h), HeapBuffer.inBounds_store_iff]
    refine iff_of_true ⟨HeapBuffer.inBounds_put_new_iff.2 ?_, Nat.lt_succ_self _⟩ h
    rw [List.length_map]
    exact Nat.lt_succ_self _

/-! ## Plain strings -/

/-- The cells of an unpacked Pawn string. -/
def pawnString (s : List Char) : List Cell := s.map fun c => (c.toNat : ℤ)

theorem stringCells_pawnString {s : List Char} (hs : ∀ c ∈ s, 1 ≤ c.toNat) (rest : List Cell) :
    stringCells (pawnString s ++ 0 :: rest) = pawnString s := by
  have hcells : ∀ x ∈ pawnString s, decide (x ≠ 0) = true := by
    intro x hx
    obtain ⟨c, hc, rfl⟩ := List.mem_map.1 hx
    have hpos := hs c hc
    exact decide_eq_true (Int.natCast_ne_zero.2 (Nat.one_le_iff_ne_zero.1 hpos))
  rw [stringCells, List.takeWhile_append_of_pos hcells]
  simp

theorem lowByte_toNat {c : Char} (hc : c.toNat < 256) : lowByte (c.toNat : ℤ) = c := by
  have hbyte : ((c.toNat : ℤ) % 256).toNat = c.toNat := by omega
  rw [lowByte, hbyte, Char.ofNat_toNat]

theorem map_lowByte_pawnString {s : List Char} (hs : ∀ c ∈ s, c.toNat < 256) :
    (pawnString s).map lowByte = s := by
  induction s with
  | nil => rfl
  | cons c s ih =>
      rw [List.forall_mem_cons] at hs
      exact congrArg₂ List.cons (lowByte_toNat hs.1) (ih hs.2)

/-- For a string of 7-bit characters the text of the model is that string, unless it is empty. -/
theorem textAt_pawnString {s : List Char} (hs : ∀ c ∈ s, 1 ≤ c.toNat ∧ c.toNat ≤ 127)
    (rest : List Cell) :
    textAt (pawnString s ++ 0 :: rest) = if s = [] then "NULL" else String.ofList s := by
  have hcells := stringCells_pawnString (fun c hc => (hs c hc).1) rest
  split
  · rename_i hempty
    subst hempty
    exact textAt_of_nil hcells
  · rename_i hne
    have hbytes : (pawnString s).map lowByte = s := by
      refine map_lowByte_pawnString fun c hc => ?_
      have hle := (hs c hc).2
      omega
    have hnul : s.takeWhile (· ≠ '\x00') = s := by
      refine List.takeWhile_eq_self_iff.2 fun c hc => decide_eq_true fun heq => ?_
      have hpos := (hs c hc).1
      rw [heq] at hpos
      exact absurd hpos (by decide)
    rw [textAt_of_ne_nil (by rw [hcells]; simpa [pawnString] using hne), ← String.toList_inj,
      toList_cString, hcells, hbytes, hnul, String.toList_ofList]

/-- **`GetString` is faithful**: a string of 7-bit characters that is not empty is handed on as the
    script wrote it, in a buffer that has room for it. The empty string is handed on as `NULL`. -/
theorem getString_faithful {N : ℕ} {s : List Char} (hs : ∀ c ∈ s, 1 ≤ c.toNat ∧ c.toNat ≤ 127)
    (amx : Memory) (addr : Cell) (rest : List Cell) (haddr : amx addr = pawnString s ++ 0 :: rest)
    (w : World N) :
    (s ≠ [] → (stringBuffer (amx addr)).InBounds) ∧
    (∀ t, (stringBuffer (amx addr)).Holds '\x00' t ↔ t = if s = [] then "NULL".toList else s) ∧
    ∃ w' es, GetString amx addr w =
      .ok (⟨w.created, if s = [] then "NULL" else String.ofList s⟩, w', es) := by
  have htext := textAt_pawnString hs rest
  rw [← haddr] at htext
  refine ⟨fun hne => ?_, fun t => ?_, ?_⟩
  · have hcells := stringCells_pawnString (fun c hc => (hs c hc).1) rest
    rw [inBounds_stringBuffer_iff, haddr, hcells]
    simpa [pawnString] using hne
  · have hlist : (if s = [] then "NULL" else String.ofList s).toList =
        if s = [] then "NULL".toList else s := by
      split
      · rfl
      · exact String.toList_ofList
    have hholds := stringBuffer_holds (amx addr)
    rw [htext, hlist] at hholds
    constructor
    · exact fun ht => ht.unique hholds
    · rintro rfl
      exact hholds
  · rw [run_GetString, htext]
    exact ⟨_, _, rfl⟩

/-- The statement `GO`. -/
theorem getString_go :
    (['G', 'O'] ≠ [] → (stringBuffer [71, 79, 0]).InBounds) ∧
    (∀ t, (stringBuffer [71, 79, 0]).Holds '\x00' t ↔
      t = if ['G', 'O'] = [] then "NULL".toList else ['G', 'O']) ∧
    ∃ w' es, GetString (fun _ => [71, 79, 0]) 0 (⟨fun _ => none, [], 0⟩ : World 1) =
      .ok (⟨0, if ['G', 'O'] = [] then "NULL" else String.ofList ['G', 'O']⟩, w', es) :=
  getString_faithful (s := ['G', 'O'])
    (List.forall_mem_cons.2 ⟨by decide, List.forall_mem_singleton.2 (by decide)⟩)
    (fun _ => [71, 79, 0]) 0 [] rfl ⟨fun _ => none, [], 0⟩

/-- The empty string is not handed on as it is. -/
theorem empty_string_replaced :
    ¬ ∀ (s : List Char) (rest : List Cell), (∀ c ∈ s, 1 ≤ c.toNat ∧ c.toNat ≤ 127) →
      (stringBuffer (pawnString s ++ 0 :: rest)).InBounds ∧
        (stringBuffer (pawnString s ++ 0 :: rest)).Holds '\x00' s := by
  intro hall
  have hempty := (hall [] [] fun _ hc => absurd hc List.not_mem_nil).2
  have hnull := stringBuffer_holds [0]
  rw [textAt_of_nil (by decide)] at hnull
  exact absurd (hempty.unique hnull) (by decide)

/-! ## The escape buffer -/

/-- What `mysql_real_escape_string` makes of a string: one or two bytes for each. -/
inductive Escapes : List Char → List Char → Prop
  | nil : Escapes [] []
  | one {s out : List Char} (c b : Char) (rest : Escapes s out) : Escapes (c :: s) (b :: out)
  | two {s out : List Char} (c b b' : Char) (rest : Escapes s out) :
    Escapes (c :: s) (b :: b' :: out)

/-- The buffer `MySQL::real_escape_string` allocates for a string, with the output in it. -/
def escapeBuffer (string : String) (out : List Char) : HeapBuffer Char :=
  (HeapBuffer.new (strlen string * 3)).put '\x00' out

theorem Escapes.length_le {s out : List Char} (h : Escapes s out) : out.length ≤ 2 * s.length := by
  induction h with
  | nil => exact le_rfl
  | one c b _ ih =>
      rw [List.length_cons, List.length_cons]
      omega
  | two c b b' _ ih =>
      rw [List.length_cons, List.length_cons, List.length_cons]
      omega

/-- A string without special characters. -/
theorem Escapes.refl (s : List Char) : Escapes s s := by
  induction s with
  | nil => exact .nil
  | cons c s ih => exact .one c c ih

theorem inBounds_escapeBuffer_iff {string : String} {out : List Char} :
    (escapeBuffer string out).InBounds ↔ out.length < strlen string * 3 :=
  HeapBuffer.inBounds_put_new_iff

/-- Every output fits if there is a byte to escape. -/
theorem forall_inBounds_escapeBuffer_iff {string : String} :
    (∀ out, Escapes (cChars string) out → (escapeBuffer string out).InBounds) ↔
      0 < strlen string := by
  constructor
  · intro hall
    have hfits := inBounds_escapeBuffer_iff.1 (hall _ (Escapes.refl _))
    rw [← strlen] at hfits
    omega
  · intro hpos out hout
    have hle := hout.length_le
    rw [← strlen] at hle
    rw [inBounds_escapeBuffer_iff]
    omega

theorem strlen_textAt_pos_iff {cells : List Cell} :
    0 < strlen (textAt cells) ↔ ∀ c ∈ (stringCells cells).head?, c % 256 ≠ 0 := by
  rw [strlen, cChars_textAt]
  cases hcells : stringCells cells with
  | nil =>
      rw [textAt_of_nil hcells]
      exact iff_of_true (by decide) nofun
  | cons c rest =>
      rw [textAt_of_ne_nil (by rw [hcells]; exact List.cons_ne_nil c rest), toList_cString, hcells,
        List.map_cons, List.takeWhile_cons]
      by_cases hc : c % 256 = 0
      · rw [if_neg (by simpa using lowByte_eq_nul_iff.2 hc)]
        exact iff_of_false (lt_irrefl 0) fun hall => hall c rfl hc
      · rw [if_pos (by simpa using lowByte_eq_nul_iff.not.2 hc)]
        refine iff_of_true (Nat.succ_pos _) ?_
        rintro _ ⟨⟩
        exact hc

/-- **When the escape buffer is large enough**: exactly if the string is empty, which `GetString`
    replaces, or does not begin with a cell whose low byte is zero. -/
theorem escapeBuffer_fits_iff (cells : List Cell) :
    (∀ out, Escapes (cChars (textAt cells)) out → (escapeBuffer (textAt cells) out).InBounds) ↔
      ∀ c ∈ (stringCells cells).head?, c % 256 ≠ 0 :=
  forall_inBounds_escapeBuffer_iff.trans strlen_textAt_pos_iff

/-- The string of the one cell 256. -/
theorem leading_nul_overflows :
    ¬ ∀ (cells : List Cell) (out : List Char), Escapes (cChars (textAt cells)) out →
      (escapeBuffer (textAt cells) out).InBounds := by
  intro hall
  have htext : cChars (textAt [256, 0]) = [] := by decide
  have hfits := inBounds_escapeBuffer_iff.1 (hall [256, 0] [] (htext ▸ .nil))
  rw [strlen, htext] at hfits
  exact absurd hfits (Nat.not_lt_zero _)

end Natives
end MysqlPlugin
