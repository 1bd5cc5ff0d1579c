import Mathlib.Data.List.Basic
import Wayland.Text.Bytes

/-!
Contract: the bytes of glyphs.

Owns:
- that the glyphs of a byte string contribute its bytes, in order and each once;
- that the bytes of characters are read as the characters.

Does not own: the texts that hold glyphs.
-/

namespace Wayland.Text

def Glyph.bytes : Glyph → Bytes
  | .char value => String.utf8EncodeChar value
  | .stray byte => [byte]

namespace Bytes

/-! ## Sequences -/

theorem val_ofNat
    {code : Nat}
    (isValid : code.isValidChar) :
    (Char.ofNat code).val.toNat = code := by
  rw [Char.ofNat, dif_pos isValid]
  rfl

/-- What a second byte may be, in numbers. -/
theorem secondAllowed_iff
    {first second : UInt8} :
    secondAllowed first second = true ↔
      (128 ≤ second.toNat ∧ second.toNat ≤ 191) ∧
        (first.toNat = 224 → 160 ≤ second.toNat) ∧ (first.toNat = 237 → second.toNat ≤ 159) ∧
          (first.toNat = 240 → 144 ≤ second.toNat) ∧ (first.toNat = 244 → second.toNat ≤ 143) := by
  simp only [secondAllowed, isContinuation, ← UInt8.toNat_inj, UInt8.reduceToNat]
  repeat' split
  all_goals
    simp only [Bool.and_eq_true, decide_eq_true_eq, UInt8.le_iff_toNat_le, UInt8.reduceToNat]
    omega

theorem isContinuation_iff
    {byte : UInt8} :
    isContinuation byte = true ↔ 128 ≤ byte.toNat ∧ byte.toNat ≤ 191 := by
  simp [isContinuation, UInt8.le_iff_toNat_le]

theorem ofNat_eq
    (byte : UInt8)
    {number : Nat}
    (same : number = byte.toNat) :
    UInt8.ofNat number = byte := by
  rw [same, UInt8.ofNat_toNat]

theorem encode_two
    {first second : UInt8}
    (lead : 194 ≤ first.toNat ∧ first.toNat ≤ 223)
    (allowed : secondAllowed first second = true) :
    String.utf8EncodeChar (Char.ofNat ((first.toNat - 0xC0) * 64 + payload second)) =
      [first, second] := by
  have bounds := secondAllowed_iff.mp allowed
  have isValid : ((first.toNat - 0xC0) * 64 + payload second).isValidChar := by
    unfold payload Nat.isValidChar
    omega
  unfold String.utf8EncodeChar
  rw [val_ofNat isValid]
  unfold payload
  simp only
  rw [if_neg (by omega), if_pos (by omega), ofNat_eq first (by omega),
    ofNat_eq second (by omega)]

theorem encode_three
    {first second third : UInt8}
    (lead : 224 ≤ first.toNat ∧ first.toNat ≤ 239)
    (allowed : secondAllowed first second = true)
    (continues : isContinuation third = true) :
    String.utf8EncodeChar
        (Char.ofNat ((first.toNat - 0xE0) * 4096 + payload second * 64 + payload third)) =
      [first, second, third] := by
  have bounds := secondAllowed_iff.mp allowed
  have thirdBounds := isContinuation_iff.mp continues
  have isValid :
      ((first.toNat - 0xE0) * 4096 + payload second * 64 + payload third).isValidChar := by
    unfold payload Nat.isValidChar
    omega
  unfold String.utf8EncodeChar
  rw [val_ofNat isValid]
  unfold payload
  simp only
  rw [if_neg (by omega), if_neg (by omega), if_pos (by omega), ofNat_eq first (by omega),
    ofNat_eq second (by omega), ofNat_eq third (by omega)]

theorem encode_four
    {first second third fourth : UInt8}
    (lead : 240 ≤ first.toNat ∧ first.toNat ≤ 244)
    (allowed : secondAllowed first second = true)
    (continues : isContinuation third = true)
    (ends : isContinuation fourth = true) :
    String.utf8EncodeChar
        (Char.ofNat
          ((first.toNat - 0xF0) * 262144 + payload second * 4096 + payload third * 64
            + payload fourth)) =
      [first, second, third, fourth] := by
  have bounds := secondAllowed_iff.mp allowed
  have thirdBounds := isContinuation_iff.mp continues
  have fourthBounds := isContinuation_iff.mp ends
  have isValid :
      ((first.toNat - 0xF0) * 262144 + payload second * 4096 + payload third * 64
        + payload fourth).isValidChar := by
    unfold payload Nat.isValidChar
    omega
  unfold String.utf8EncodeChar
  rw [val_ofNat isValid]
  unfold payload
  simp only
  rw [if_neg (by omega), if_neg (by omega), if_neg (by omega), ofNat_eq first (by omega),
    ofNat_eq second (by omega), ofNat_eq third (by omega),
    ofNat_eq fourth (by omega)]

/-- A character that starts an input is encoded by the bytes it was read from. -/
theorem encode_firstChar
    {first : UInt8}
    {rest : Bytes}
    {char : Char}
    {size : Nat}
    (starts : firstChar? first rest = some (char, size)) :
    String.utf8EncodeChar char ++ rest.drop (size - 1) = first :: rest := by
  unfold firstChar? at starts
  simp only [Bool.and_eq_true, decide_eq_true_eq, UInt8.le_iff_toNat_le, UInt8.lt_iff_toNat_lt,
    UInt8.reduceToNat] at starts
  split at starts
  · rename_i small
    cases starts
    have isValid : first.toNat.isValidChar := by
      unfold Nat.isValidChar
      omega
    unfold String.utf8EncodeChar
    rw [val_ofNat isValid]
    simp only
    rw [if_pos (by omega), ofNat_eq first rfl]
    rfl
  · split at starts
    · rename_i lead
      split at starts
      · split at starts
        · rename_i allowed
          cases starts
          rw [encode_two lead allowed]
          rfl
        · cases starts
      · cases starts
    · split at starts
      · rename_i lead
        split at starts
        · split at starts
          · rename_i allowed
            cases starts
            rw [encode_three lead allowed.1 allowed.2]
            rfl
          · cases starts
        · cases starts
      · split at starts
        · rename_i lead
          split at starts
          · split at starts
            · rename_i allowed
              cases starts
              rw [encode_four lead allowed.1.1 allowed.1.2 allowed.2]
              rfl
            · cases starts
          · cases starts
        · cases starts

theorem toNat_ofNat
    {number : Nat}
    (isByte : number < 256) :
    (UInt8.ofNat number).toNat = number := by
  rw [UInt8.toNat_ofNat']
  exact Nat.mod_eq_of_lt isByte

theorem firstChar?_one
    {first : UInt8}
    (small : first.toNat < 128)
    (rest : Bytes) :
    firstChar? first rest = some (Char.ofNat first.toNat, 1) :=
  if_pos (UInt8.lt_iff_toNat_lt.mpr small)

theorem firstChar?_two
    {first second : UInt8}
    (lead : 194 ≤ first.toNat ∧ first.toNat ≤ 223)
    (allowed : secondAllowed first second = true)
    (rest : Bytes) :
    firstChar? first (second :: rest) =
      some (Char.ofNat ((first.toNat - 0xC0) * 64 + payload second), 2) := by
  unfold firstChar?
  simp only [Bool.and_eq_true, decide_eq_true_eq, UInt8.le_iff_toNat_le, UInt8.lt_iff_toNat_lt,
    UInt8.reduceToNat]
  rw [if_neg (by omega), if_pos lead, if_pos allowed]

theorem firstChar?_three
    {first second third : UInt8}
    (lead : 224 ≤ first.toNat ∧ first.toNat ≤ 239)
    (allowed : secondAllowed first second = true)
    (continues : isContinuation third = true)
    (rest : Bytes) :
    firstChar? first (second :: third :: rest) =
      some
        (Char.ofNat ((first.toNat - 0xE0) * 4096 + payload second * 64 + payload third), 3) := by
  unfold firstChar?
  simp only [Bool.and_eq_true, decide_eq_true_eq, UInt8.le_iff_toNat_le, UInt8.lt_iff_toNat_lt,
    UInt8.reduceToNat]
  rw [if_neg (by omega), if_neg (by omega), if_pos lead, if_pos ⟨allowed, continues⟩]

theorem firstChar?_four
    {first second third fourth : UInt8}
    (lead : 240 ≤ first.toNat ∧ first.toNat ≤ 244)
    (allowed : secondAllowed first second = true)
    (continues : isContinuation third = true)
    (ends : isContinuation fourth = true)
    (rest : Bytes) :
    firstChar? first (second :: third :: fourth :: rest) =
      some
        (Char.ofNat
          ((first.toNat - 0xF0) * 262144 + payload second * 4096 + payload third * 64
            + payload fourth), 4) := by
  unfold firstChar?
  simp only [Bool.and_eq_true, decide_eq_true_eq, UInt8.le_iff_toNat_le, UInt8.lt_iff_toNat_lt,
    UInt8.reduceToNat]
  rw [if_neg (by omega), if_neg (by omega), if_neg (by omega), if_pos lead,
    if_pos ⟨⟨allowed, continues⟩, ends⟩]

/-- The bytes of a character start with the character, whatever follows them. -/
theorem firstChar?_encode
    (char : Char) :
    ∃ first tail, String.utf8EncodeChar char = first :: tail ∧
      ∀ rest, firstChar? first (tail ++ rest) = some (char, tail.length + 1) := by
  have isValid : char.toNat.isValidChar := char.valid
  have code := Char.ofNat_toNat char
  have value : char.val.toNat = char.toNat := rfl
  unfold Nat.isValidChar at isValid
  unfold String.utf8EncodeChar
  rw [value]
  generalize char.toNat = number at isValid code
  simp only
  -- One case for each number of bytes.
  split
  · refine ⟨_, [], rfl, fun rest => ?_⟩
    have first : (UInt8.ofNat number).toNat = number := toNat_ofNat (by omega)
    rw [firstChar?_one (by omega), first, code]
    rfl
  · split
    · refine ⟨_, [_], rfl, fun rest => ?_⟩
      have first : (UInt8.ofNat (number / 64 % 32 + 192)).toNat = number / 64 % 32 + 192 :=
        toNat_ofNat (by omega)
      have second : (UInt8.ofNat (number % 64 + 128)).toNat = number % 64 + 128 :=
        toNat_ofNat (by omega)
      have same : (number / 64 % 32 + 192 - 192) * 64 + (number % 64 + 128) % 64 = number := by
        omega
      rw [List.cons_append, firstChar?_two (by omega) (secondAllowed_iff.mpr (by omega)), payload,
        first, second, same, code]
      rfl
    · split
      · refine ⟨_, [_, _], rfl, fun rest => ?_⟩
        have first : (UInt8.ofNat (number / 4096 % 16 + 224)).toNat = number / 4096 % 16 + 224 :=
          toNat_ofNat (by omega)
        have second : (UInt8.ofNat (number / 64 % 64 + 128)).toNat = number / 64 % 64 + 128 :=
          toNat_ofNat (by omega)
        have third : (UInt8.ofNat (number % 64 + 128)).toNat = number % 64 + 128 :=
          toNat_ofNat (by omega)
        have same : (number / 4096 % 16 + 224 - 224) * 4096 + (number / 64 % 64 + 128) % 64 * 64
            + (number % 64 + 128) % 64 = number := by
          omega
        rw [List.cons_append, List.cons_append,
          firstChar?_three (by omega) (secondAllowed_iff.mpr (by omega))
            (isContinuation_iff.mpr (by omega)),
          payload, payload, first, second, third, same, code]
        rfl
      · refine ⟨_, [_, _, _], rfl, fun rest => ?_⟩
        have first : (UInt8.ofNat (number / 262144 % 8 + 240)).toNat = number / 262144 % 8 + 240 :=
          toNat_ofNat (by omega)
        have second : (UInt8.ofNat (number / 4096 % 64 + 128)).toNat = number / 4096 % 64 + 128 :=
          toNat_ofNat (by omega)
        have third : (UInt8.ofNat (number / 64 % 64 + 128)).toNat = number / 64 % 64 + 128 :=
          toNat_ofNat (by omega)
        have fourth : (UInt8.ofNat (number % 64 + 128)).toNat = number % 64 + 128 :=
          toNat_ofNat (by omega)
        have same : (number / 262144 % 8 + 240 - 240) * 262144
            + (number / 4096 % 64 + 128) % 64 * 4096 + (number / 64 % 64 + 128) % 64 * 64
            + (number % 64 + 128) % 64 = number := by
          omega
        rw [List.cons_append, List.cons_append, List.cons_append,
          firstChar?_four (by omega) (secondAllowed_iff.mpr (by omega))
            (isContinuation_iff.mpr (by omega)) (isContinuation_iff.mpr (by omega)),
          payload, payload, payload, first, second, third, fourth, same, code]
        rfl

/-! ## Byte strings -/

theorem bytes_decodeFrom
    (pending : Nat)
    (latest : List Glyph)
    (input : Bytes) :
    (decodeFrom pending latest input).flatMap Glyph.bytes =
      latest.reverse.flatMap Glyph.bytes ++ input.drop pending := by
  induction input generalizing pending latest with
  | nil => simp [decodeFrom]
  | cons first rest inductionHypothesis =>
      unfold decodeFrom
      cases pending with
      | succ skipped => exact inductionHypothesis skipped latest
      | zero =>
          simp only
          split
          · rename_i char size starts
            rw [inductionHypothesis, List.reverse_cons, List.flatMap_append, List.append_assoc,
              List.drop_zero, ← encode_firstChar starts]
            simp [Glyph.bytes]
          · rw [inductionHypothesis, List.reverse_cons, List.flatMap_append, List.append_assoc]
            simp [Glyph.bytes]

/-- The glyphs of a byte string contribute its bytes. -/
theorem bytes_decode
    (bytes : Bytes) :
    bytes.decode.flatMap Glyph.bytes = bytes := by
  rw [decode, bytes_decodeFrom]
  simp

theorem decodeFrom_skip
    (latest : List Glyph)
    (tail rest : Bytes) :
    decodeFrom tail.length latest (tail ++ rest) = decodeFrom 0 latest rest := by
  induction tail with
  | nil => rfl
  | cons first tail inductionHypothesis => exact inductionHypothesis

/-- The glyphs of encoded characters are the characters. -/
theorem decode_encode
    (chars : List Char) :
    decode (chars.flatMap String.utf8EncodeChar) = chars.map Glyph.char := by
  have each (latest : List Glyph) :
      decodeFrom 0 latest (chars.flatMap String.utf8EncodeChar) =
        latest.reverse ++ chars.map Glyph.char := by
    induction chars generalizing latest with
    | nil => simp [decodeFrom]
    | cons char chars inductionHypothesis =>
        obtain ⟨first, tail, encoded, starts⟩ := firstChar?_encode char
        rw [List.flatMap_cons, encoded, List.cons_append]
        unfold decodeFrom
        simp only [starts, Nat.add_sub_cancel]
        rw [decodeFrom_skip, inductionHypothesis]
        simp
  exact each []

end Bytes

/-- The glyphs of a text without stray bytes are its characters. -/
theorem glyphs_of_whole
    {text : String}
    (whole : ∀ char ∈ text.toList, strayByte? char = none) :
    glyphs text = text.toList.map Glyph.char := by
  have same : Bytes.ofText text = text.toList.flatMap String.utf8EncodeChar :=
    List.flatMap_congr fun char isMember => by simp [Bytes.ofChar, whole char isMember]
  rw [glyphs, same, Bytes.decode_encode]

end Wayland.Text
