import Wayland.Proofs.Text.Encoding
import Wayland.Proofs.Text.Numeral
import Wayland.Text.Quoted

/-!
Contract: what texts between double quotes stand for.

Owns:
- the reading of interpreted strings: plain characters and escapes up to the closing quote;
- that a quoted byte string is read as itself, whatever follows it.

Does not own: which texts are quoted.
-/

namespace Wayland.Text

/-! ## Interpreted strings -/

/-- The byte that a letter or mark stands for behind a backslash. -/
def escapedByte? : Char → Option UInt8
  | 'a' => some 7
  | 'b' => some 8
  | 't' => some 9
  | 'n' => some 10
  | 'v' => some 11
  | 'f' => some 12
  | 'r' => some 13
  | '"' => some 34
  | '\\' => some 92
  | _ => none

/-- What a count of digits at the start of characters stands for, and what follows them. -/
def numberEscape?
    (base count : Nat)
    (meaning? : Nat → Option Bytes)
    (chars : List Char) :
    Option (Bytes × List Char) :=
  if (chars.take count).length = count then
    ((natOfDigits? base (chars.take count)).bind meaning?).map (·, chars.drop count)
  else none

def byteBytes?
    (number : Nat) :
    Option Bytes :=
  if number < 256 then some [UInt8.ofNat number] else none

def codeBytes?
    (code : Nat) :
    Option Bytes :=
  if code.isValidChar then some (String.utf8EncodeChar (Char.ofNat code)) else none

/-- The bytes that an escape stands for, read behind its backslash, and what follows it. -/
def escape? : List Char → Option (Bytes × List Char)
  | [] => none
  | mark :: rest =>
      match escapedByte? mark with
      | some byte => some ([byte], rest)
      | none =>
          if mark = 'x' then numberEscape? 16 2 byteBytes? rest
          else if mark = 'u' then numberEscape? 16 4 codeBytes? rest
          else if mark = 'U' then numberEscape? 16 8 codeBytes? rest
          else numberEscape? 8 3 byteBytes? (mark :: rest)

/-- The bytes of an interpreted string, read behind its opening quote, and what follows its closing
one.  `fuel` bounds the steps. -/
def unquoteFrom : (fuel : Nat) → List Char → Option (Bytes × List Char)
  | 0, _ => none
  | _ + 1, [] => none
  | fuel + 1, char :: rest =>
      if char = '"' then some ([], rest)
      else if char = '\n' then none
      else if char = '\\' then
        (escape? rest).bind fun (bytes, rest) =>
          (unquoteFrom fuel rest).map (Prod.map (bytes ++ ·) id)
      else (unquoteFrom fuel rest).map (Prod.map (Bytes.ofChar char ++ ·) id)

/-- The bytes of an interpreted string behind its opening quote, and what follows it. -/
def unquote?
    (chars : List Char) :
    Option (Bytes × List Char) :=
  unquoteFrom chars.length chars

/-! ## Hexadecimal digits -/

theorem digitValue?_digitChar
    {digit : Nat}
    (small : digit < 16) :
    digitValue? 16 (Nat.digitChar digit) = some digit := by
  revert digit
  decide

/-- The digits after others are read on from the value of these. -/
def readOn
    (value : Option Nat)
    (digits : List Char) :
    Option Nat :=
  digits.foldl (fun value digit => do return (← value) * 16 + (← digitValue? 16 digit)) value

theorem readOn_toDigits
    (number : Nat) :
    readOn (some 0) (Nat.toDigits 16 number) = some number := by
  induction number using Nat.strongRecOn with
  | ind number inductionHypothesis =>
      rw [Nat.toDigits_eq_if (by omega)]
      split
      · rename_i small
        simp [readOn, digitValue?_digitChar small]
      · have last := digitValue?_digitChar (Nat.mod_lt number (show 0 < 16 by omega))
        have lead := inductionHypothesis (number / 16) (by omega)
        unfold readOn at lead ⊢
        rw [List.foldl_append, lead]
        simp [last]
        omega

theorem readOn_zeros
    (count : Nat) :
    readOn (some 0) (List.replicate count '0') = some 0 := by
  induction count with
  | zero => rfl
  | succ count inductionHypothesis => exact inductionHypothesis

theorem natOfDigits?_hexDigits
    (width number : Nat) :
    natOfDigits? 16 (hexDigits width number) = some number := by
  have value : readOn (some 0) (hexDigits width number) = some number := by
    have zeros := readOn_zeros (width - (Nat.toDigits 16 number).length)
    have digits := readOn_toDigits number
    unfold readOn at zeros digits ⊢
    rw [hexDigits, List.foldl_append, zeros, digits]
  have someLeft : hexDigits width number ≠ [] :=
    List.append_ne_nil_of_right_ne_nil _ Nat.toDigits_ne_nil
  obtain ⟨digit, rest, digits⟩ := List.exists_cons_of_ne_nil someLeft
  rw [digits] at value ⊢
  exact value

theorem length_hexDigits
    {width number : Nat}
    (positive : 0 < width)
    (fits : number < 16 ^ width) :
    (hexDigits width number).length = width := by
  have short := (Nat.length_toDigits_le_iff (by omega) positive).mpr fits
  rw [hexDigits, List.length_append, List.length_replicate]
  omega

/-- Digits in the given number stand for their value. -/
theorem numberEscape?_hexDigits
    {width number : Nat}
    {meaning? : Nat → Option Bytes}
    {bytes : Bytes}
    (positive : 0 < width)
    (fits : number < 16 ^ width)
    (meant : meaning? number = some bytes)
    (rest : List Char) :
    numberEscape? 16 width meaning? (hexDigits width number ++ rest) = some (bytes, rest) := by
  have length := length_hexDigits positive fits
  have taken : (hexDigits width number ++ rest).take width = hexDigits width number := by
    rw [List.take_append_of_le_length (by omega), List.take_of_length_le (by omega)]
  have dropped : (hexDigits width number ++ rest).drop width = rest := by
    rw [List.drop_append, List.drop_of_length_le (by omega), length, Nat.sub_self]
    rfl
  rw [numberEscape?, taken, dropped, if_pos length, natOfDigits?_hexDigits]
  simp [meant]

/-! ## Characters that are shown as they are -/

theorem bounds_of_searchFrom
    {ranges : Ranges}
    {code fuel low high : Nat}
    (found : ranges.searchFrom code fuel low high = true) :
    ∃ range ∈ ranges, range.1 ≤ code ∧ code ≤ range.2 := by
  induction fuel generalizing low high with
  | zero => cases found
  | succ fuel inductionHypothesis =>
      unfold Ranges.searchFrom at found
      split at found
      · cases found
      · simp only at found
        split at found
        · cases found
        · rename_i first last isRange
          split at found
          · exact inductionHypothesis found
          · split at found
            · exact inductionHypothesis found
            · exact ⟨(first, last), Array.mem_of_getElem? isRange, by omega, by omega⟩

/-- A character that is shown as it is holds no stray byte and does not end the line. -/
theorem plain_of_isPrintable
    {char : Char}
    (printable : isPrintable char = true) :
    strayByte? char = none ∧ char ≠ '\n' := by
  have below : (printableRanges.toList.all fun range =>
      decide (32 ≤ range.1) && decide (range.2 < strayBase)) = true := by decide +kernel
  obtain ⟨range, isRange, lower, upper⟩ := bounds_of_searchFrom printable
  have bounds := List.all_eq_true.mp below range isRange.val
  simp only [Bool.and_eq_true, decide_eq_true_eq] at bounds
  constructor
  · unfold strayByte?
    rw [if_neg (by omega)]
  · rintro rfl
    have : (10 : Nat) = '\n'.toNat := rfl
    omega

/-! ## Quoted glyphs -/

theorem encode_of_small
    {char : Char}
    (small : char.toNat < 128) :
    String.utf8EncodeChar char = [UInt8.ofNat char.toNat] := by
  unfold String.utf8EncodeChar
  have : char.val.toNat ≤ 127 := Nat.le_of_lt_succ small
  simp only [this, if_pos]
  rfl

theorem codeBytes?_toNat
    (char : Char) :
    codeBytes? char.toNat = some (String.utf8EncodeChar char) := by
  have isValid : char.toNat.isValidChar := char.valid
  rw [codeBytes?, if_pos isValid, Char.ofNat_toNat]

theorem unquoteFrom_escape
    {escape : List Char}
    {bytes : Bytes}
    {rest : List Char}
    (meant : escape? (escape ++ rest) = some (bytes, rest))
    (fuel : Nat) :
    unquoteFrom (fuel + 1) ('\\' :: escape ++ rest) =
      (unquoteFrom fuel rest).map (Prod.map (bytes ++ ·) id) := by
  rw [List.cons_append, unquoteFrom, if_neg (by decide), if_neg (by decide), if_pos rfl, meant]
  rfl

theorem escape?_byte
    {number : Nat}
    (small : number < 256)
    (rest : List Char) :
    escape? ('x' :: hexDigits 2 number ++ rest) = some ([UInt8.ofNat number], rest) :=
  numberEscape?_hexDigits (by decide) (by omega) (by rw [byteBytes?, if_pos small]) rest

/-- A character between quotes stands for its bytes, shown as it is or escaped. -/
theorem unquoteFrom_char
    (char : Char)
    (fuel : Nat)
    (rest : List Char) :
    unquoteFrom (fuel + 1) (quoteChar char ++ rest) =
      (unquoteFrom fuel rest).map (Prod.map (String.utf8EncodeChar char ++ ·) id) := by
  have escaped {escape : List Char}
      (meant : escape? (escape ++ rest) = some (String.utf8EncodeChar char, rest)) :
      unquoteFrom (fuel + 1) ('\\' :: escape ++ rest) =
        (unquoteFrom fuel rest).map (Prod.map (String.utf8EncodeChar char ++ ·) id) :=
    unquoteFrom_escape meant fuel
  have coded {mark : Char} (byte : UInt8)
      (code : char.toNat = byte.toNat)
      (small : char.toNat < 128)
      (isByte : escapedByte? mark = some byte) :
      escape? ([mark] ++ rest) = some (String.utf8EncodeChar char, rest) := by
    rw [encode_of_small small, code, UInt8.ofNat_toNat]
    simp [escape?, isByte]
  unfold quoteChar
  simp only [Bool.or_eq_true, decide_eq_true_eq, beq_iff_eq]
  split
  · rename_i isMark
    rcases isMark with rfl | rfl
    · exact escaped (coded 34 rfl (by decide) rfl)
    · exact escaped (coded 92 rfl (by decide) rfl)
  · rename_i isPlain
    rw [not_or] at isPlain
    split
    · rename_i printable
      obtain ⟨notStray, notEnd⟩ := plain_of_isPrintable printable
      rw [List.singleton_append, unquoteFrom, if_neg isPlain.1, if_neg notEnd, if_neg isPlain.2,
        Bytes.ofChar, notStray]
    · split
      · exact escaped (coded 7 (by assumption) (by omega) rfl)
      · exact escaped (coded 8 (by assumption) (by omega) rfl)
      · exact escaped (coded 9 (by assumption) (by omega) rfl)
      · exact escaped (coded 10 (by assumption) (by omega) rfl)
      · exact escaped (coded 11 (by assumption) (by omega) rfl)
      · exact escaped (coded 12 (by assumption) (by omega) rfl)
      · exact escaped (coded 13 (by assumption) (by omega) rfl)
      · split_ifs with isControl isShort
        · have small : char.toNat < 128 := by omega
          refine escaped ?_
          rw [encode_of_small small]
          exact escape?_byte (by omega) rest
        · exact escaped (numberEscape?_hexDigits (by decide) (by omega) (codeBytes?_toNat char) rest)
        · have isValid : char.toNat.isValidChar := char.valid
          have bound : char.toNat < 16 ^ 8 := by
            unfold Nat.isValidChar at isValid
            omega
          exact escaped (numberEscape?_hexDigits (by decide) bound (codeBytes?_toNat char) rest)

theorem unquoteFrom_glyph
    (glyph : Glyph)
    (fuel : Nat)
    (rest : List Char) :
    unquoteFrom (fuel + 1) (quoteGlyph glyph ++ rest) =
      (unquoteFrom fuel rest).map (Prod.map (glyph.bytes ++ ·) id) := by
  cases glyph with
  | char value => exact unquoteFrom_char value fuel rest
  | stray byte =>
      have meant := escape?_byte (UInt8.toNat_lt byte) rest
      rw [UInt8.ofNat_toNat] at meant
      exact unquoteFrom_escape meant fuel

theorem unquoteFrom_glyphs
    (glyphs : List Glyph)
    {fuel : Nat}
    (enough : glyphs.length < fuel)
    (rest : List Char) :
    unquoteFrom fuel (glyphs.flatMap quoteGlyph ++ '"' :: rest) =
      some (glyphs.flatMap Glyph.bytes, rest) := by
  induction glyphs generalizing fuel with
  | nil =>
      obtain ⟨fuel, rfl⟩ := Nat.exists_eq_add_one.mpr enough
      simp [unquoteFrom]
  | cons glyph glyphs inductionHypothesis =>
      obtain ⟨fuel, rfl⟩ := Nat.exists_eq_add_one.mpr (Nat.zero_lt_of_lt enough)
      rw [List.flatMap_cons, List.append_assoc, unquoteFrom_glyph,
        inductionHypothesis (by simpa using enough)]
      simp

theorem quoteGlyph_ne_nil
    (glyph : Glyph) :
    quoteGlyph glyph ≠ [] := by
  cases glyph with
  | stray byte => simp [quoteGlyph]
  | char value =>
      simp only [quoteGlyph, quoteChar]
      split_ifs
      · simp
      · simp
      · split <;> try simp
        split_ifs <;> simp

/-- A quoted byte string is read as itself, whatever follows it. -/
theorem unquote?_quoted
    (bytes : Bytes)
    (rest : List Char) :
    unquote? (bytes.decode.flatMap quoteGlyph ++ '"' :: rest) = some (bytes, rest) := by
  have enough (glyphs : List Glyph) : glyphs.length ≤ (glyphs.flatMap quoteGlyph).length := by
    induction glyphs with
    | nil => exact Nat.le_refl _
    | cons glyph glyphs inductionHypothesis =>
        have := List.length_pos_of_ne_nil (quoteGlyph_ne_nil glyph)
        rw [List.flatMap_cons, List.length_append, List.length_cons]
        omega
  rw [unquote?, unquoteFrom_glyphs, Bytes.bytes_decode]
  rw [List.length_append, List.length_cons]
  exact Nat.lt_of_le_of_lt (enough _) (by omega)

end Wayland.Text
