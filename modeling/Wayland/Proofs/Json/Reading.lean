import Wayland.Json.Value
import Wayland.Proofs.Text.Encoding
import Wayland.Proofs.Text.Numeral

/-!
Contract: JSON texts are read back.

Owns:
- a reader of JSON texts that have no white space inside: strings with their escapes, whole numbers,
  lists and objects;
- that the compact text of a value is read as this value, with a replacement character for each
  stray byte.

Does not own: what values are made for.
-/

namespace Wayland.Json

open Wayland.Text

/-! ## Strings -/

/-- The character that a mark behind a backslash stands for. -/
def unescaped? : Char → Option Char
  | '"' => some '"'
  | '\\' => some '\\'
  | '/' => some '/'
  | 'b' => some (Char.ofNat 8)
  | 'f' => some (Char.ofNat 12)
  | 'n' => some '\n'
  | 'r' => some '\r'
  | 't' => some '\t'
  | _ => none

/-- The character whose code point is written.  One half of a surrogate pair is no character. -/
def coded?
    (digits : List Char) :
    Option Char :=
  (natOfDigits? 16 digits).bind fun code =>
    if code.isValidChar then some (Char.ofNat code) else none

def prepend
    {α β : Type}
    (item : α) :
    List α × β → List α × β
  | (items, rest) => (item :: items, rest)

/-- Reads what stands before the closing mark of a string, and what follows the mark. -/
def readString : List Char → Option (List Char × List Char)
  | [] => none
  | '"' :: rest => some ([], rest)
  | '\\' :: 'u' :: first :: second :: third :: fourth :: rest =>
      (coded? [first, second, third, fourth]).bind fun char =>
        (readString rest).map (prepend char)
  | '\\' :: mark :: rest =>
      (unescaped? mark).bind fun char => (readString rest).map (prepend char)
  | char :: rest =>
      if char = '\\' ∨ char.toNat < 32 then none else (readString rest).map (prepend char)

/-! ## Values -/

def readNatural
    (chars : List Char) :
    Option (Nat × List Char) :=
  (natOfDigits? 10 (chars.takeWhile Char.isDigit)).map (·, chars.dropWhile Char.isDigit)

def readNumber : List Char → Option (Int × List Char)
  | '-' :: rest => (readNatural rest).map fun (number, rest) => (-number, rest)
  | chars => (readNatural chars).map fun (number, rest) => (number, rest)

mutual

/-- Reads a value at the head of a text.  `fuel` bounds the steps. -/
def readValue : (fuel : Nat) → List Char → Option (Value × List Char)
  | 0, _ => none
  | fuel + 1, chars =>
      match chars with
      | 'n' :: 'u' :: 'l' :: 'l' :: rest => some (.null, rest)
      | 't' :: 'r' :: 'u' :: 'e' :: rest => some (.bool true, rest)
      | 'f' :: 'a' :: 'l' :: 's' :: 'e' :: rest => some (.bool false, rest)
      | '"' :: rest => (readString rest).map fun (text, rest) => (.text (String.ofList text), rest)
      | '[' :: ']' :: rest => some (.list [], rest)
      | '[' :: rest => (readItems fuel rest).map fun (items, rest) => (.list items, rest)
      | '\x7b' :: '\x7d' :: rest => some (.object [], rest)
      | '\x7b' :: rest => (readMembers fuel rest).map fun (members, rest) => (.object members, rest)
      | chars => (readNumber chars).map fun (number, rest) => (.number number, rest)

/-- Reads the items of a list, up to the closing bracket. -/
def readItems : (fuel : Nat) → List Char → Option (List Value × List Char)
  | 0, _ => none
  | fuel + 1, chars =>
      match readValue fuel chars with
      | some (item, ',' :: rest) => (readItems fuel rest).map (prepend item)
      | some (item, ']' :: rest) => some ([item], rest)
      | _ => none

/-- Reads the members of an object, up to the closing brace. -/
def readMembers : (fuel : Nat) → List Char → Option (List (String × Value) × List Char)
  | fuel + 1, '"' :: chars =>
      match readString chars with
      | some (key, ':' :: chars) =>
          match readValue fuel chars with
          | some (value, ',' :: rest) =>
              (readMembers fuel rest).map (prepend (String.ofList key, value))
          | some (value, '\x7d' :: rest) => some ([(String.ofList key, value)], rest)
          | _ => none
      | _ => none
  | _, _ => none

end

/-- The value that a text is read as.  Only white space may follow it. -/
def read?
    (text : String) :
    Option Value :=
  match readValue (2 * text.toList.length) text.toList with
  | some (value, rest) => if rest.all (· ∈ [' ', '\t', '\n', '\r']) then some value else none
  | none => none

/-! ## What is read back -/

/-- A text in which a replacement character stands for each stray byte. -/
def mend
    (text : String) :
    String :=
  String.ofList (mended text)

/-- A text without stray bytes stays as it is. -/
theorem mend_of_whole
    {text : String}
    (whole : ∀ char ∈ text.toList, strayByte? char = none) :
    mend text = text := by
  have same : mended text = text.toList := by
    rw [mended, glyphs_of_whole whole, List.map_map]
    exact List.map_id _
  rw [mend, same, String.ofList_toList]

mutual

def Value.mended : Value → Value
  | .null => .null
  | .bool value => .bool value
  | .number value => .number value
  | .text value => .text (mend value)
  | .list items => .list (mendedItems items)
  | .object members => .object (mendedMembers members)

def mendedItems : List Value → List Value
  | [] => []
  | item :: items => item.mended :: mendedItems items

def mendedMembers : List (String × Value) → List (String × Value)
  | [] => []
  | (key, value) :: members => (mend key, value.mended) :: mendedMembers members

end

theorem mendedItems_eq
    (items : List Value) :
    mendedItems items = items.map Value.mended := by
  induction items with
  | nil => rfl
  | cons item items inductionHypothesis => rw [mendedItems, inductionHypothesis, List.map_cons]

theorem mendedMembers_eq
    (members : List (String × Value)) :
    mendedMembers members = members.map fun (key, value) => (mend key, value.mended) := by
  induction members with
  | nil => rfl
  | cons member members inductionHypothesis =>
      rw [mendedMembers, inductionHypothesis, List.map_cons]

@[simp]
theorem Value.mended_null :
    Value.null.mended = .null :=
  rfl

@[simp]
theorem Value.mended_number
    (number : Int) :
    (Value.number number).mended = .number number :=
  rfl

@[simp]
theorem Value.mended_text
    (text : String) :
    (Value.text text).mended = .text (mend text) :=
  rfl

@[simp]
theorem Value.mended_list
    (items : List Value) :
    (Value.list items).mended = .list (items.map Value.mended) := by
  rw [Value.mended, mendedItems_eq]

/-! ### Strings -/

theorem hexValue?_hexDigit
    {value : Nat}
    (isDigit : value < 16) :
    digitValue? 16 (hexDigit value) = some value := by
  revert value
  decide

theorem coded?_unicodeEscape
    {code : Nat}
    (isShort : code < 65536)
    (isValid : code.isValidChar) :
    coded? [hexDigit (code / 4096 % 16), hexDigit (code / 256 % 16), hexDigit (code / 16 % 16),
      hexDigit (code % 16)] = some (Char.ofNat code) := by
  have digit (value : Nat) := hexValue?_hexDigit (Nat.mod_lt value (by decide : 0 < 16))
  have sum : (((0 * 16 + code / 4096 % 16) * 16 + code / 256 % 16) * 16 + code / 16 % 16) * 16
      + code % 16 = code := by
    omega
  simp only [coded?, natOfDigits?, List.foldl_cons, List.foldl_nil, digit, bind, pure, Option.bind,
    sum]
  simp [isValid]

theorem readString_unicodeEscape
    {char : Char}
    (isShort : char.toNat < 65536)
    (rest : List Char) :
    readString (unicodeEscape char.toNat ++ rest) = (readString rest).map (prepend char) := by
  have code := coded?_unicodeEscape isShort char.valid
  rw [Char.ofNat_toNat] at code
  rw [unicodeEscape, List.cons_append, List.cons_append, List.cons_append, List.cons_append,
    List.cons_append, List.cons_append, List.nil_append, readString, code]
  rfl

theorem readString_escape
    {char mark : Char}
    (isMark : unescaped? mark = some char)
    (rest : List Char) :
    readString ('\\' :: mark :: rest) = (readString rest).map (prepend char) := by
  have notCode : mark ≠ 'u' := by
    rintro rfl
    cases isMark
  rw [readString, isMark]
  · rfl
  · intro first second third fourth others same
    exact absurd same notCode

theorem readString_plain
    {char : Char}
    (notQuote : char ≠ '"')
    (notEscape : char ≠ '\\')
    (notControl : 32 ≤ char.toNat)
    (rest : List Char) :
    readString (char :: rest) = (readString rest).map (prepend char) := by
  rw [readString, if_neg (by simp only [notEscape, false_or]; omega)]
  · exact notQuote
  · exact fun _ _ _ _ _ same => absurd same notEscape
  · exact fun _ _ same => absurd same notEscape

/-- A character is read back from what stands for it in a string. -/
theorem readString_escapeChar
    (char : Char)
    (rest : List Char) :
    readString (escapeChar char ++ rest) = (readString rest).map (prepend char) := by
  have named {code : Nat} (isCode : char.toNat = code) : char = Char.ofNat code := by
    rw [← isCode, Char.ofNat_toNat]
  unfold escapeChar
  split_ifs with isQuote isEscape isNewline isReturn isTab isBackspace isFeed isCoded
  · obtain rfl := isQuote
    exact readString_escape rfl rest
  · obtain rfl := isEscape
    exact readString_escape rfl rest
  · obtain rfl := isNewline
    exact readString_escape rfl rest
  · obtain rfl := isReturn
    exact readString_escape rfl rest
  · obtain rfl := isTab
    exact readString_escape rfl rest
  · obtain rfl := named isBackspace
    exact readString_escape rfl rest
  · obtain rfl := named isFeed
    exact readString_escape rfl rest
  · refine readString_unicodeEscape ?_ rest
    simp only [Bool.or_eq_true, decide_eq_true_eq] at isCoded
    rcases isCoded with ((((isControl | rfl) | rfl) | rfl) | isLine) | isParagraph
    · omega
    · decide
    · decide
    · decide
    · omega
    · omega
  · simp only [Bool.or_eq_true, decide_eq_true_eq, not_or] at isCoded
    exact readString_plain isQuote isEscape (by omega) rest

theorem readString_glyphs
    (glyphs : List Glyph)
    (rest : List Char) :
    readString (glyphs.flatMap escapeGlyph ++ '"' :: rest) =
      some (glyphs.map (·.char?.getD replacement), rest) := by
  induction glyphs with
  | nil => rw [List.flatMap_nil, List.nil_append, readString, List.map_nil]
  | cons glyph glyphs inductionHypothesis =>
      have first (more : List Char) : readString (escapeGlyph glyph ++ more) =
          (readString more).map (prepend (glyph.char?.getD replacement)) := by
        cases glyph with
        | char value => exact readString_escapeChar value more
        | stray byte => exact readString_unicodeEscape (by decide) more
      rw [List.flatMap_cons, List.append_assoc, first, inductionHypothesis]
      rfl

/-- A quoted text is read back, with its stray bytes replaced. -/
theorem readString_quote
    (text : String)
    (rest : List Char) :
    ∃ chars, (quote text).toList ++ rest = '"' :: chars ∧
      readString chars = some (mended text, rest) := by
  refine ⟨(glyphs text).flatMap escapeGlyph ++ '"' :: rest, ?_, readString_glyphs _ rest⟩
  simp [quote]

/-! ### Numbers -/

/-- Characters that do not go on with digits. -/
def EndsNumber
    (chars : List Char) : Prop :=
  ∀ char ∈ chars.head?, char.isDigit = false

theorem readNatural_toDigits
    (number : Nat)
    {rest : List Char}
    (ends : EndsNumber rest) :
    readNatural (Nat.toDigits 10 number ++ rest) = some (number, rest) := by
  have digits := isDigit_of_mem_toDigits number
  have stops : rest.takeWhile Char.isDigit = [] ∧ rest.dropWhile Char.isDigit = rest := by
    cases rest with
    | nil => exact ⟨rfl, rfl⟩
    | cons next rest =>
        have notDigit : next.isDigit = false := ends next rfl
        simp [notDigit]
  rw [readNatural, List.takeWhile_append_of_pos digits, List.dropWhile_append_of_pos digits,
    stops.1, stops.2, List.append_nil, natOfDigits?_toDigits]
  rfl

theorem readNumber_toString
    (number : Int)
    {rest : List Char}
    (ends : EndsNumber rest) :
    readNumber ((toString number).toList ++ rest) = some (number, rest) := by
  cases number with
  | ofNat number =>
      have natural := readNatural_toDigits number ends
      have text : (toString (Int.ofNat number)).toList = Nat.toDigits 10 number :=
        toList_toString number
      have notMinus : ∀ more, Nat.toDigits 10 number ++ rest ≠ '-' :: more := by
        intro more same
        cases digits : Nat.toDigits 10 number with
        | nil => exact Nat.toDigits_ne_nil digits
        | cons first others =>
            have isDigit := isDigit_of_mem_toDigits number first (by simp [digits])
            rw [digits, List.cons_append, List.cons.injEq] at same
            rw [same.1] at isDigit
            exact absurd isDigit (by decide)
      rw [text, readNumber, natural]
      · rfl
      · exact notMinus
  | negSucc number =>
      have natural := readNatural_toDigits (number + 1) ends
      have text : (toString (Int.negSucc number)).toList = '-' :: Nat.toDigits 10 (number + 1) := by
        rw [← toList_toString]
        exact String.toList_append
      rw [text, List.cons_append, readNumber, natural]
      rfl

/-! ### Values -/

theorem toString_starts
    (number : Int) :
    ∃ first others, (toString number).toList = first :: others ∧
      (first = '-' ∨ first.isDigit = true) := by
  cases number with
  | ofNat number =>
      have digits := isDigit_of_mem_toDigits number
      cases text : Nat.toDigits 10 number with
      | nil => exact absurd text Nat.toDigits_ne_nil
      | cons first others =>
          rw [text] at digits
          exact ⟨first, others, (toList_toString number).trans text,
            .inr (digits first List.mem_cons_self)⟩
  | negSucc number => exact ⟨'-', (toString (number + 1)).toList, String.toList_append, .inl rfl⟩

theorem readValue_number
    {first : Char}
    (isFirst : first = '-' ∨ first.isDigit = true)
    (fuel : Nat)
    (others : List Char) :
    readValue (fuel + 1) (first :: others) =
      (readNumber (first :: others)).map fun (number, rest) => (.number number, rest) := by
  have marks : ∀ mark ∈ ['n', 't', 'f', '"', '[', '\x7b'], first ≠ mark := by
    rintro mark isMark rfl
    revert isMark
    rcases isFirst with rfl | isDigit
    · decide
    · rintro isMark
      simp only [List.mem_cons, List.not_mem_nil, or_false] at isMark
      rcases isMark with rfl | rfl | rfl | rfl | rfl | rfl <;> exact absurd isDigit (by decide)
  rw [readValue]
  all_goals
    intro rest same
    exact marks _ (by decide) (List.cons.inj same).1

def itemsText
    (items : List Value) :
    List Char :=
  (String.intercalate "," (compactItems items)).toList

def membersText
    (members : List (String × Value)) :
    List Char :=
  (String.intercalate "," (compactMembers members)).toList

theorem toList_compact_list
    (items : List Value) :
    (Value.list items).compact.toList = '[' :: (itemsText items ++ [']']) := by
  simp [Value.compact, itemsText]

theorem toList_compact_object
    (members : List (String × Value)) :
    (Value.object members).compact.toList = '\x7b' :: (membersText members ++ ['\x7d']) := by
  simp [Value.compact, membersText]

/-- The text of a value starts with no closing bracket. -/
theorem compact_starts
    (value : Value) :
    ∃ first others, value.compact.toList = first :: others ∧ first ≠ ']' := by
  cases value with
  | null => exact ⟨_, _, rfl, by decide⟩
  | bool value => cases value <;> exact ⟨_, _, rfl, by decide⟩
  | number number =>
      obtain ⟨first, others, text, isFirst⟩ := toString_starts number
      refine ⟨first, others, text, ?_⟩
      rintro rfl
      revert isFirst
      decide
  | text text =>
      obtain ⟨chars, isQuoted, -⟩ := readString_quote text []
      rw [List.append_nil] at isQuoted
      exact ⟨'"', chars, isQuoted, by decide⟩
  | list items => exact ⟨'[', _, toList_compact_list items, by decide⟩
  | object members => exact ⟨'\x7b', _, toList_compact_object members, by decide⟩

theorem endsNumber_of_mark
    {mark : Char}
    (isMark : mark ∈ [',', ']', '\x7d'])
    (rest : List Char) :
    EndsNumber (mark :: rest) := by
  rintro char ⟨⟩
  simp only [List.mem_cons, List.not_mem_nil, or_false] at isMark
  rcases isMark with rfl | rfl | rfl <;> rfl

theorem itemsText_singleton
    (item : Value) :
    itemsText [item] = item.compact.toList := by
  simp [itemsText, compactItems]

theorem itemsText_cons_cons
    (item next : Value)
    (items : List Value) :
    itemsText (item :: next :: items) =
      item.compact.toList ++ ',' :: itemsText (next :: items) := by
  simp [itemsText, compactItems, String.toList_intercalate]

theorem membersText_singleton
    (key : String)
    (value : Value) :
    membersText [(key, value)] = (quote key).toList ++ ':' :: value.compact.toList := by
  simp [membersText, compactMembers]

theorem membersText_cons_cons
    (key : String)
    (value : Value)
    (next : String × Value)
    (members : List (String × Value)) :
    membersText ((key, value) :: next :: members) =
      (quote key).toList ++
        ':' :: (value.compact.toList ++ ',' :: membersText (next :: members)) := by
  simp [membersText, compactMembers, String.toList_intercalate]

theorem itemsText_starts
    (item : Value)
    (items : List Value) :
    ∃ first others, itemsText (item :: items) = first :: others ∧ first ≠ ']' := by
  obtain ⟨first, others, starts, notClosing⟩ := compact_starts item
  cases items with
  | nil => exact ⟨first, others, by rw [itemsText_singleton, starts], notClosing⟩
  | cons next items =>
      exact ⟨first, _, by rw [itemsText_cons_cons, starts, List.cons_append], notClosing⟩

theorem membersText_starts
    (member : String × Value)
    (members : List (String × Value)) :
    ∃ others, membersText (member :: members) = '"' :: others := by
  obtain ⟨key, value⟩ := member
  obtain ⟨chars, isQuoted, -⟩ := readString_quote key []
  rw [List.append_nil] at isQuoted
  cases members with
  | nil => exact ⟨_, by rw [membersText_singleton, isQuoted, List.cons_append]⟩
  | cons next members => exact ⟨_, by rw [membersText_cons_cons, isQuoted, List.cons_append]⟩

/-- Within a number of steps the texts of values are read back, and so are those of items and of
members up to what closes them. -/
structure ReadsBack
    (fuel : Nat) : Prop where
  value (value : Value) {rest : List Char} :
    2 * value.compact.toList.length ≤ fuel → EndsNumber rest →
      readValue fuel (value.compact.toList ++ rest) = some (value.mended, rest)
  items (item : Value) (items : List Value) {rest : List Char} :
    2 * (itemsText (item :: items)).length < fuel →
      readItems fuel (itemsText (item :: items) ++ ']' :: rest) =
        some (mendedItems (item :: items), rest)
  members (member : String × Value) (members : List (String × Value)) {rest : List Char} :
    2 * (membersText (member :: members)).length < fuel →
      readMembers fuel (membersText (member :: members) ++ '\x7d' :: rest) =
        some (mendedMembers (member :: members), rest)

section Step

variable {fuel : Nat} {rest : List Char}

theorem ReadsBack.value_succ
    (reads : ReadsBack fuel)
    (value : Value)
    (enough : 2 * value.compact.toList.length ≤ fuel + 1)
    (ends : EndsNumber rest) :
    readValue (fuel + 1) (value.compact.toList ++ rest) = some (value.mended, rest) := by
  cases value with
  | null => rfl
  | bool value => cases value <;> rfl
  | number number =>
      obtain ⟨first, others, text, isFirst⟩ := toString_starts number
      have read := readNumber_toString number ends
      rw [text] at read
      rw [Value.compact, text, List.cons_append, readValue_number isFirst, ← List.cons_append, read,
        Option.map_some, Value.mended]
  | text text =>
      obtain ⟨chars, isQuoted, read⟩ := readString_quote text rest
      rw [Value.compact, isQuoted, readValue, read, Option.map_some, Value.mended, mend]
  | list items =>
      rw [toList_compact_list, List.length_cons, List.length_append,
        List.length_singleton] at enough
      rw [toList_compact_list, List.cons_append, List.append_assoc, List.singleton_append,
        Value.mended]
      cases items with
      | nil => rfl
      | cons item items =>
          obtain ⟨first, others, starts, notClosing⟩ := itemsText_starts item items
          rw [readValue, reads.items item items (by omega), Option.map_some]
          intro more same
          rw [starts, List.cons_append, List.cons.injEq] at same
          exact notClosing same.1
  | object members =>
      rw [toList_compact_object, List.length_cons, List.length_append,
        List.length_singleton] at enough
      rw [toList_compact_object, List.cons_append, List.append_assoc, List.singleton_append,
        Value.mended]
      cases members with
      | nil => rfl
      | cons member members =>
          obtain ⟨others, starts⟩ := membersText_starts member members
          rw [readValue, reads.members member members (by omega), Option.map_some]
          intro more same
          rw [starts, List.cons_append, List.cons.injEq] at same
          exact absurd same.1 (by decide)

theorem ReadsBack.items_succ
    (reads : ReadsBack fuel)
    (item : Value)
    (items : List Value)
    (enough : 2 * (itemsText (item :: items)).length < fuel + 1) :
    readItems (fuel + 1) (itemsText (item :: items) ++ ']' :: rest) =
      some (mendedItems (item :: items), rest) := by
  cases items with
  | nil =>
      rw [itemsText_singleton] at enough ⊢
      have ends : EndsNumber (']' :: rest) := endsNumber_of_mark (by decide) rest
      rw [readItems, reads.value item (by omega) ends, mendedItems, mendedItems]
      rfl
  | cons next items =>
      rw [itemsText_cons_cons, List.length_append, List.length_cons] at enough
      have ends : EndsNumber (',' :: (itemsText (next :: items) ++ ']' :: rest)) :=
        endsNumber_of_mark (by decide) _
      rw [itemsText_cons_cons, List.append_assoc, List.cons_append, readItems,
        reads.value item (by omega) ends, mendedItems]
      simp only [reads.items next items (by omega), Option.map_some, prepend]

theorem ReadsBack.members_succ
    (reads : ReadsBack fuel)
    (member : String × Value)
    (members : List (String × Value))
    (enough : 2 * (membersText (member :: members)).length < fuel + 1) :
    readMembers (fuel + 1) (membersText (member :: members) ++ '\x7d' :: rest) =
      some (mendedMembers (member :: members), rest) := by
  obtain ⟨key, value⟩ := member
  cases members with
  | nil =>
      rw [membersText_singleton, List.length_append, List.length_cons] at enough
      obtain ⟨chars, isQuoted, isKey⟩ :=
        readString_quote key (':' :: (value.compact.toList ++ '\x7d' :: rest))
      have ends : EndsNumber ('\x7d' :: rest) := endsNumber_of_mark (by decide) rest
      rw [membersText_singleton, List.append_assoc, List.cons_append, isQuoted, readMembers]
      simp only [isKey, reads.value value (by omega) ends]
      rw [mendedMembers, mendedMembers, mend]
  | cons next members =>
      rw [membersText_cons_cons, List.length_append, List.length_cons, List.length_append,
        List.length_cons] at enough
      obtain ⟨chars, isQuoted, isKey⟩ := readString_quote key
        (':' :: (value.compact.toList ++ ',' :: (membersText (next :: members) ++ '\x7d' :: rest)))
      have ends : EndsNumber (',' :: (membersText (next :: members) ++ '\x7d' :: rest)) :=
        endsNumber_of_mark (by decide) _
      rw [membersText_cons_cons, List.append_assoc, List.cons_append, List.append_assoc,
        List.cons_append, isQuoted, readMembers]
      simp only [isKey, reads.value value (by omega) ends, reads.members next members (by omega),
        Option.map_some, prepend]
      rfl

end Step

theorem readsBack
    (fuel : Nat) :
    ReadsBack fuel := by
  induction fuel with
  | zero =>
      refine ⟨fun value _ enough _ => ?_, fun _ _ _ enough => ?_, fun _ _ _ enough => ?_⟩
      · obtain ⟨first, others, starts, -⟩ := compact_starts value
        simp [starts] at enough
      · exact absurd enough (Nat.not_lt_zero _)
      · exact absurd enough (Nat.not_lt_zero _)
  | succ fuel reads =>
      exact ⟨fun value _ enough ends => reads.value_succ value enough ends,
        fun item items _ enough => reads.items_succ item items enough,
        fun member members _ enough => reads.members_succ member members enough⟩

/-- The compact text of a value, perhaps with white space behind it, is read as the value. -/
theorem read?_compact
    (value : Value)
    {blank : String}
    (isBlank : blank.toList.all (· ∈ [' ', '\t', '\n', '\r']) = true) :
    read? (value.compact ++ blank) = some value.mended := by
  have ends : EndsNumber blank.toList := by
    intro char isHead
    have inBlank := List.all_eq_true.mp isBlank char (List.mem_of_mem_head? isHead)
    simp only [List.mem_cons, List.not_mem_nil, or_false, decide_eq_true_eq] at inBlank
    rcases inBlank with rfl | rfl | rfl | rfl <;> rfl
  have enough : 2 * value.compact.toList.length ≤ 2 * (value.compact ++ blank).toList.length := by
    simp
  have read := (readsBack _).value value enough ends
  rw [read?]
  simp only [String.toList_append] at read ⊢
  rw [read]
  simp only [isBlank, if_true]

example :
    read? "\x7b\"name\":\"a\\u003c\\n\",\"versions\":[2,-1,null]\x7d\n" =
      some (.object [("name", .text "a<\n"),
        ("versions", .list [.number 2, .number (-1), .null])]) := by
  cbv

end Wayland.Json
