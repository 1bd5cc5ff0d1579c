import Mathlib.Data.List.Basic
import Wayland.Binding.Source
import Wayland.Model.Descriptor
import Wayland.Proofs.Text.Unquote

/-!
Contract: composite literals in source text, and the descriptor table that they spell.

Owns:
- the tokens of a line: marks, words, and texts between double quotes;
- the values that tokens spell, with an open composite literal for every brace that is not closed;
- the laws by which the tokens and values of a line are put together from those of its parts;
- arguments, messages and interfaces as their literals spell them, and what a field that is left out
  stands for;
- the variables of a file that hold an interface, and the list of them.

Does not own: the files that are generated.
-/

namespace Wayland.Binding.Literal

open Wayland.Text

/-! ## Tokens -/

/-- A token of a composite literal.  Words are names with their qualifiers, types and numbers. -/
inductive Token where
  | mark (char : Char)
  | word (text : String)
  | text (bytes : Bytes)
deriving DecidableEq, Repr

def isMark
    (char : Char) :
    Bool :=
  ['\x7b', '\x7d', ':', ','].contains char

def isWordChar
    (char : Char) :
    Bool :=
  !(isBlank char || isMark char || char == '"')

/-- The tokens of characters.  `fuel` bounds the steps. -/
def tokensFrom? : (fuel : Nat) → List Char → Option (List Token)
  | _, [] => some []
  | 0, _ => none
  | fuel + 1, char :: rest =>
      if isBlank char then tokensFrom? fuel rest
      else if isMark char then (tokensFrom? fuel rest).map (.mark char :: ·)
      else if char = '"' then
        (unquote? rest).bind fun (bytes, rest) => (tokensFrom? fuel rest).map (.text bytes :: ·)
      else
        (tokensFrom? fuel (rest.dropWhile isWordChar)).map
          (.word (String.ofList (char :: rest.takeWhile isWordChar)) :: ·)

def tokens?
    (line : String) :
    Option (List Token) :=
  tokensFrom? line.toList.length line.toList

def lineTokens?
    (lines : Lines) :
    Option (List Token) :=
  (lines.mapM tokens?).map List.flatten

/-! ## Values -/

/-- A value: a word, a text, or the elements of a composite literal, each with its key. -/
inductive Value where
  | word (text : String)
  | text (bytes : Bytes)
  | composite (typeName : String) (elements : List (Option String × Value))

abbrev Element := Option String × Value

/-- A composite literal that is not closed: its elements so far, and the key and the value of the
element that is being read. -/
structure Frame where
  typeName : String
  elements : List Element := []
  key : Option String := none
  value : Option Value := none

/-- Sets the value of the element that is being read. -/
def Frame.withValue?
    (frame : Frame)
    (value : Value) :
    Option Frame :=
  if frame.value.isNone then some { frame with value := some value } else none

/-- The elements when the literal is closed: a last element needs no comma. -/
def Frame.closed? : Frame → Option (List Element)
  | ⟨_, elements, key, some value⟩ => some (elements ++ [(key, value)])
  | ⟨_, elements, none, none⟩ => some elements
  | ⟨_, _, some _, none⟩ => none

/-- The open literals after one more token, innermost first. -/
def read? : List Frame → Token → Option (List Frame)
  | frame :: outer, .word text => (frame.withValue? (.word text)).map (· :: outer)
  | frame :: outer, .text bytes => (frame.withValue? (.text bytes)).map (· :: outer)
  | ⟨typeName, elements, none, some (.word key)⟩ :: outer, .mark ':' =>
      some (⟨typeName, elements, some key, none⟩ :: outer)
  | ⟨typeName, elements, key, some value⟩ :: outer, .mark ',' =>
      some (⟨typeName, elements ++ [(key, value)], none, none⟩ :: outer)
  | ⟨typeName, elements, key, none⟩ :: outer, .mark '\x7b' =>
      some ({ typeName := "" } :: ⟨typeName, elements, key, none⟩ :: outer)
  | ⟨typeName, elements, key, some (.word inner)⟩ :: outer, .mark '\x7b' =>
      some ({ typeName := inner } :: ⟨typeName, elements, key, none⟩ :: outer)
  | frame :: parent :: outer, .mark '\x7d' => do
      let elements ← frame.closed?
      let parent ← parent.withValue? (.composite frame.typeName elements)
      return parent :: outer
  | _, _ => none

/-- The elements that tokens spell between the braces of a literal. -/
def elements?
    (tokens : List Token) :
    Option (List Element) :=
  (tokens.foldlM read? [{ typeName := "" }]).bind fun
    | [frame] => frame.closed?
    | _ => none

/-! ## Tokens of the parts of a line -/

theorem tokensFrom?_more
    {fuel more : Nat}
    {chars : List Char}
    {tokens : List Token}
    (found : tokensFrom? fuel chars = some tokens)
    (enough : fuel ≤ more) :
    tokensFrom? more chars = some tokens := by
  induction fuel generalizing more chars tokens with
  | zero =>
      cases chars with
      | nil => simpa [tokensFrom?] using found
      | cons char rest => cases found
  | succ fuel inductionHypothesis =>
      cases chars with
      | nil => simpa [tokensFrom?] using found
      | cons char rest =>
          obtain ⟨more, rfl⟩ := Nat.exists_eq_add_one.mpr (Nat.zero_lt_of_lt enough)
          have enough : fuel ≤ more := by omega
          have mapped {chars : List Char} {token : Token}
              (found : (tokensFrom? fuel chars).map (token :: ·) = some tokens) :
              (tokensFrom? more chars).map (token :: ·) = some tokens := by
            obtain ⟨later, isLater, same⟩ := Option.map_eq_some_iff.mp found
            rw [inductionHypothesis isLater enough, Option.map_some, same]
          unfold tokensFrom? at found ⊢
          split_ifs at found ⊢
          · exact inductionHypothesis found enough
          · exact mapped found
          · obtain ⟨⟨bytes, rest⟩, isText, found⟩ := Option.bind_eq_some_iff.mp found
            rw [isText]
            exact mapped found
          · exact mapped found

/-- Characters spell tokens, with one step for every character at most. -/
def Spells
    (chars : List Char)
    (tokens : List Token) : Prop :=
  ∃ fuel ≤ chars.length, tokensFrom? fuel chars = some tokens

theorem Spells.tokens?_eq
    {line : String}
    {tokens : List Token}
    (spells : Spells line.toList tokens) :
    tokens? line = some tokens := by
  obtain ⟨fuel, enough, found⟩ := spells
  exact tokensFrom?_more found enough

/-- Words of neither part run on into the other. -/
def Apart
    (left right : List Char) : Prop :=
  (∀ char ∈ left.getLast?, isWordChar char = false) ∨
    ∀ char ∈ right.head?, isWordChar char = false

variable {left right : List Char} {tokens later : List Token}

theorem Apart.of_suffix
    {rest : List Char}
    (apart : Apart left right)
    (isSuffix : rest <:+ left) :
    Apart rest right := by
  obtain ⟨lead, rfl⟩ := isSuffix
  refine apart.imp_left fun ends last isLast => ends last ?_
  rw [List.getLast?_append, Option.mem_def.mp isLast]
  rfl

/-- A word ends where it ends without what follows the part it is in. -/
theorem Apart.word
    {char : Char}
    {rest : List Char}
    (apart : Apart (char :: rest) right)
    (isWord : isWordChar char = true) :
    (rest ++ right).takeWhile isWordChar = rest.takeWhile isWordChar ∧
      (rest ++ right).dropWhile isWordChar = rest.dropWhile isWordChar ++ right := by
  induction rest generalizing char with
  | nil =>
      have starts : ∀ char ∈ right.head?, isWordChar char = false :=
        apart.resolve_left fun ends => by simp [isWord] at ends
      cases right with
      | nil => exact ⟨rfl, rfl⟩
      | cons next right => simp [starts next rfl]
  | cons next rest inductionHypothesis =>
      cases isNext : isWordChar next with
      | false => simp [isNext]
      | true => simpa [isNext] using inductionHypothesis (apart.of_suffix (by simp)) isNext

theorem tokensFrom?_append
    {fuel more : Nat}
    (plain : '"' ∉ left)
    (apart : Apart left right)
    (first : tokensFrom? fuel left = some tokens)
    (second : tokensFrom? more right = some later) :
    tokensFrom? (fuel + more) (left ++ right) = some (tokens ++ later) := by
  induction fuel generalizing left tokens with
  | zero =>
      cases left with
      | nil =>
          cases first
          exact tokensFrom?_more second (by omega)
      | cons char rest => cases first
  | succ fuel inductionHypothesis =>
      cases left with
      | nil =>
          cases first
          exact tokensFrom?_more second (by omega)
      | cons char rest =>
          rw [List.mem_cons, not_or] at plain
          rw [Nat.add_right_comm, List.cons_append]
          unfold tokensFrom? at first ⊢
          split_ifs at first ⊢ with isBlank isMark isQuote
          · exact inductionHypothesis plain.2 (apart.of_suffix (by simp)) first
          · obtain ⟨others, isRest, same⟩ := Option.map_eq_some_iff.mp first
            rw [inductionHypothesis plain.2 (apart.of_suffix (by simp)) isRest, Option.map_some, ← same,
              List.cons_append]
          · exact absurd isQuote.symm plain.1
          · obtain ⟨others, isRest, same⟩ := Option.map_eq_some_iff.mp first
            have isWord : isWordChar char = true := by
              simp [isWordChar, isBlank, isMark, isQuote]
            obtain ⟨taken, dropped⟩ := apart.word isWord
            have isSuffix : rest.dropWhile isWordChar <:+ char :: rest :=
              (List.dropWhile_suffix _).trans (List.suffix_cons char rest)
            have isPlain : '"' ∉ rest.dropWhile isWordChar := fun isMember =>
              plain.2 ((List.dropWhile_suffix _).subset isMember)
            rw [taken, dropped, inductionHypothesis isPlain (apart.of_suffix isSuffix) isRest,
              Option.map_some, ← same, List.cons_append]

/-- The tokens of a part without quotes come before those of what follows it. -/
theorem Spells.append
    (first : Spells left tokens)
    (second : Spells right later)
    (plain : '"' ∉ left)
    (apart : Apart left right) :
    Spells (left ++ right) (tokens ++ later) := by
  obtain ⟨fuel, enough, first⟩ := first
  obtain ⟨more, moreEnough, second⟩ := second
  exact ⟨fuel + more, by rw [List.length_append]; omega, tokensFrom?_append plain apart first second⟩

/-- A quoted text is one token, whatever follows it. -/
theorem Spells.quoted
    (text : String)
    (rest : Spells right later) :
    Spells ((quote text).toList ++ right) (.text (Bytes.ofText text) :: later) := by
  obtain ⟨fuel, enough, found⟩ := rest
  refine ⟨fuel + 1, ?_, ?_⟩
  · simp only [quote, quoteBytes, String.toList_ofList, List.length_append, List.length_cons]
    omega
  · have reads := unquote?_quoted (Bytes.ofText text) right
    simp only [quote, quoteBytes, String.toList_ofList, List.cons_append, List.append_assoc,
      List.nil_append]
    rw [tokensFrom?, if_neg (by decide), if_neg (by decide), if_pos rfl, reads]
    simp [found]

/-- Whether a text has no quotes and does not end in a word. -/
def isClosed
    (text : String) :
    Bool :=
  !text.toList.contains '"' && text.toList.getLast?.all fun char => !isWordChar char

/-- A part that does not end in a word, whatever follows it. -/
theorem Spells.closed
    {part : String}
    (first : tokens? part = some tokens)
    (closed : isClosed part = true)
    (rest : Spells right later) :
    Spells (part.toList ++ right) (tokens ++ later) := by
  simp only [isClosed, Bool.and_eq_true, Bool.not_eq_true', List.contains_eq_mem,
    decide_eq_false_iff_not, Option.all_eq_true] at closed
  exact Spells.append ⟨_, Nat.le_refl _, first⟩ rest closed.1 (.inl closed.2)

def isWord
    (text : String) :
    Bool :=
  !text.isEmpty && text.toList.all isWordChar

/-- A word that no other one follows. -/
theorem Spells.word
    {word : String}
    (isWord : isWord word = true)
    (ends : ∀ char ∈ right.head?, isWordChar char = false)
    (rest : Spells right later) :
    Spells (word.toList ++ right) (.word word :: later) := by
  simp only [Literal.isWord, Bool.and_eq_true, List.all_eq_true] at isWord
  have plain : '"' ∉ word.toList := fun isMember =>
    absurd (isWord.2 _ isMember) (by decide)
  suffices alone : Spells word.toList [.word word] from
    Spells.append alone rest plain (.inr ends)
  cases chars : word.toList with
  | nil => simp [← String.toList_inj, chars] at isWord
  | cons first others =>
      have areWord := isWord.2
      rw [chars, List.forall_mem_cons] at areWord
      have firstWord := areWord.1
      simp only [isWordChar, Bool.not_eq_true', Bool.or_eq_false_iff, beq_eq_false_iff_ne]
        at firstWord
      obtain ⟨⟨notBlank, notMark⟩, notQuote⟩ := firstWord
      have taken : others.takeWhile isWordChar = others :=
        List.takeWhile_eq_self_iff.mpr areWord.2
      have dropped : others.dropWhile isWordChar = [] :=
        List.dropWhile_eq_nil_iff.mpr areWord.2
      refine ⟨1, by simp, ?_⟩
      rw [tokensFrom?, if_neg (by simp [notBlank]), if_neg (by simp [notMark]), if_neg notQuote,
        taken, dropped, ← chars, String.ofList_toList]
      rfl

/-! ## Tokens of lines -/

theorem lineTokens?_nil :
    lineTokens? [] = some [] :=
  rfl

theorem lineTokens?_cons
    {line : String}
    {lines : Lines}
    (first : tokens? line = some tokens)
    (rest : lineTokens? lines = some later) :
    lineTokens? (line :: lines) = some (tokens ++ later) := by
  obtain ⟨others, areOthers, rfl⟩ := Option.map_eq_some_iff.mp rest
  simp [lineTokens?, List.mapM_cons, first, areOthers]

theorem lineTokens?_append
    {left right : Lines}
    (first : lineTokens? left = some tokens)
    (second : lineTokens? right = some later) :
    lineTokens? (left ++ right) = some (tokens ++ later) := by
  obtain ⟨ones, areOnes, rfl⟩ := Option.map_eq_some_iff.mp first
  obtain ⟨others, areOthers, rfl⟩ := Option.map_eq_some_iff.mp second
  simp [lineTokens?, List.mapM_append, areOnes, areOthers]

theorem tokensFrom?_tabs
    (depth fuel : Nat)
    (chars : List Char) :
    tokensFrom? (depth + fuel) (List.replicate depth '\t' ++ chars) = tokensFrom? fuel chars := by
  induction depth with
  | zero => simp
  | succ depth inductionHypothesis =>
      rw [Nat.add_right_comm, List.replicate_succ, List.cons_append, tokensFrom?,
        if_pos (by decide), inductionHypothesis]

/-- Lines that are moved in have the same tokens. -/
theorem lineTokens?_indent
    (depth : Nat)
    (lines : Lines) :
    lineTokens? (indent depth lines) = lineTokens? lines := by
  have same (line : String) :
      tokens? (if line.isEmpty then line
        else String.ofList (List.replicate depth '\t') ++ line) = tokens? line := by
    split
    · rfl
    · simpa [tokens?] using tokensFrom?_tabs depth line.toList.length line.toList
  rw [lineTokens?, lineTokens?, indent, List.mapM_map]
  simp only [Function.comp_def, same]

/-! ## Values of the parts of a literal -/

/-- Tokens spell a value wherever one can stand. -/
def Yields
    (tokens : List Token)
    (value : Value) : Prop :=
  ∀ typeName elements key outer,
    tokens.foldlM read? (⟨typeName, elements, key, none⟩ :: outer) =
      some (⟨typeName, elements, key, some value⟩ :: outer)

/-- Tokens spell elements with the comma behind each of them. -/
def Adds
    (tokens : List Token)
    (added : List Element) : Prop :=
  ∀ typeName elements outer,
    tokens.foldlM read? (⟨typeName, elements, none, none⟩ :: outer) =
      some (⟨typeName, elements ++ added, none, none⟩ :: outer)

/-- Tokens spell all elements of a literal, with or without a comma behind the last one. -/
def Fills
    (tokens : List Token)
    (elements : List Element) : Prop :=
  ∀ typeName outer, ∃ frame,
    tokens.foldlM read? ({ typeName } :: outer) = some (frame :: outer) ∧
      frame.typeName = typeName ∧ frame.closed? = some elements

variable {elements others : List Element} {value : Value}

theorem yields_word
    (text : String) :
    Yields [.word text] (.word text) :=
  fun _ _ _ _ => rfl

theorem yields_text
    (bytes : Bytes) :
    Yields [.text bytes] (.text bytes) :=
  fun _ _ _ _ => rfl

/-- A literal whose type is left to where it stands. -/
theorem Fills.yields
    (fills : Fills tokens elements) :
    Yields (Token.mark '\x7b' :: tokens ++ [Token.mark '\x7d']) (.composite "" elements) := by
  intro typeName before key outer
  obtain ⟨frame, reads, inner, closed⟩ := fills "" (⟨typeName, before, key, none⟩ :: outer)
  rw [List.cons_append, List.foldlM_cons]
  change ((tokens ++ [Token.mark '\x7d']).foldlM read?
    ({ typeName := "" } :: ⟨typeName, before, key, none⟩ :: outer)) = _
  rw [List.foldlM_append, reads]
  simp [read?, closed, inner, Frame.withValue?]

/-- A literal with its type. -/
theorem Fills.yields_typed
    (fills : Fills tokens elements)
    (inner : String) :
    Yields (Token.word inner :: .mark '\x7b' :: tokens ++ [Token.mark '\x7d'])
      (.composite inner elements) := by
  intro typeName before key outer
  obtain ⟨frame, reads, sameType, closed⟩ := fills inner (⟨typeName, before, key, none⟩ :: outer)
  rw [List.cons_append, List.cons_append, List.foldlM_cons]
  change ((tokens ++ [Token.mark '\x7d']).foldlM read?
    ({ typeName := inner } :: ⟨typeName, before, key, none⟩ :: outer)) = _
  rw [List.foldlM_append, reads]
  simp [read?, closed, sameType, Frame.withValue?]

theorem adds_nil :
    Adds [] [] := by
  intro typeName elements outer
  simp

theorem Adds.append
    (first : Adds tokens elements)
    (second : Adds later others) :
    Adds (tokens ++ later) (elements ++ others) := by
  intro typeName before outer
  rw [List.foldlM_append, first]
  simp [second typeName (before ++ elements) outer]

/-- An element without a key. -/
theorem Yields.adds
    (yields : Yields tokens value) :
    Adds (tokens ++ [Token.mark ',']) [(none, value)] := by
  intro typeName before outer
  rw [List.foldlM_append, yields]
  rfl

/-- An element with its key. -/
theorem Yields.adds_keyed
    (yields : Yields tokens value)
    (key : String) :
    Adds (Token.word key :: .mark ':' :: tokens ++ [Token.mark ',']) [(some key, value)] := by
  intro typeName before outer
  change ((tokens ++ [Token.mark ',']).foldlM read? (⟨typeName, before, some key, none⟩ :: outer)) = _
  rw [List.foldlM_append, yields]
  rfl

theorem Adds.fills
    (adds : Adds tokens elements) :
    Fills tokens elements := by
  intro typeName outer
  exact ⟨⟨typeName, elements, none, none⟩, adds typeName [] outer, rfl, rfl⟩

/-- Tokens spell elements with commas between them. -/
def Row
    (tokens : List Token)
    (elements : List Element) : Prop :=
  ∀ typeName outer, ∃ frame : Frame,
    tokens.foldlM read? ({ typeName } :: outer) = some (frame :: outer) ∧
      frame.typeName = typeName ∧ frame.value.isSome ∧ frame.closed? = some elements

theorem Yields.row
    (yields : Yields tokens value)
    (key : String) :
    Row (.word key :: .mark ':' :: tokens) [(some key, value)] :=
  fun typeName outer =>
    ⟨⟨typeName, [], some key, some value⟩, yields typeName [] (some key) outer, rfl, rfl, rfl⟩

theorem Row.more
    (row : Row tokens elements)
    (yields : Yields later value)
    (key : String) :
    Row (tokens ++ Token.mark ',' :: .word key :: .mark ':' :: later)
      (elements ++ [(some key, value)]) := by
  intro inner outer
  obtain ⟨⟨typeName, before, given, value?⟩, reads, sameType, hasValue, closed⟩ := row inner outer
  cases sameType
  obtain ⟨last, rfl⟩ := Option.isSome_iff_exists.mp hasValue
  cases closed
  refine ⟨⟨typeName, before ++ [(given, last)], some key, some value⟩, ?_, rfl, rfl, rfl⟩
  rw [List.foldlM_append, reads]
  exact yields typeName (before ++ [(given, last)]) (some key) outer

/-- A field that may be left out. -/
theorem Row.maybe
    (row : Row tokens elements)
    (yields : Yields later value)
    (key : String)
    (leftOut : Bool) :
    Row (tokens ++ if leftOut then [] else Token.mark ',' :: .word key :: .mark ':' :: later)
      (elements ++ if leftOut then [] else [(some key, value)]) := by
  cases leftOut with
  | true => simpa using row
  | false => exact row.more yields key

theorem Row.fills
    (row : Row tokens elements) :
    Fills tokens elements := by
  intro typeName outer
  obtain ⟨frame, reads, sameType, -, closed⟩ := row typeName outer
  exact ⟨frame, reads, sameType, closed⟩

/-- The elements between the outermost braces. -/
theorem Fills.elements?_eq
    (fills : Fills tokens elements) :
    elements? tokens = some elements := by
  obtain ⟨frame, reads, -, closed⟩ := fills "" []
  rw [elements?, reads]
  exact closed

end Wayland.Binding.Literal

namespace Wayland.Text

/-- The text that holds the bytes of a text in their usual way.  Texts that hold the same bytes are
one byte string, which source text spells and which is read as this text. -/
def canonical
    (text : String) :
    String :=
  Bytes.toText (Bytes.ofText text)

end Wayland.Text

namespace Wayland.Wire

open Wayland.Text (canonical)

def Slot.canonical
    (slot : Slot) :
    Slot :=
  { slot with name := Text.canonical slot.name, interface := Text.canonical slot.interface }

def Signature.canonical
    (signature : Signature) :
    Signature :=
  { signature with
    name := Text.canonical signature.name
    slots := signature.slots.map Slot.canonical }

def Interface.canonical
    (interface : Interface) :
    Interface :=
  { interface with
    name := Text.canonical interface.name
    requests := interface.requests.map Signature.canonical
    events := interface.events.map Signature.canonical }

end Wayland.Wire

namespace Wayland.Binding

open Wayland.Text

namespace Literal

/-! ## Fields -/

/-- The kind that a constant of the runtime stands for. -/
def constantKind? : String → Option Wire.Kind
  | "wire.KindInt" => some .int
  | "wire.KindUint" => some .uint
  | "wire.KindFixed" => some .fixed
  | "wire.KindString" => some .string
  | "wire.KindObject" => some .object
  | "wire.KindNewID" => some .newId
  | "wire.KindArray" => some .array
  | "wire.KindFD" => some .fd
  | _ => none

/-- A text; one that is left out is empty. -/
def text? : Option Value → Option String
  | none => some ""
  | some (.text bytes) => some bytes.toText
  | some _ => none

/-- A decimal number of 32 bits; one that is left out is zero. -/
def number? : Option Value → Option UInt32
  | none => some 0
  | some (.word text) =>
      (natOfDigits? 10 text.toList).bind fun number =>
        if number < UInt32.size then some (UInt32.ofNat number) else none
  | some _ => none

/-- A flag; one that is left out is not set. -/
def flag? : Option Value → Option Bool
  | none => some false
  | some (.word "true") => some true
  | some (.word "false") => some false
  | some _ => none

/-- A kind; one that is left out has the code zero. -/
def kind? : Option Value → Option Wire.Kind
  | none => some (.ofCode 0)
  | some (.word text) => constantKind? text
  | some _ => none

/-- A record from its fields.  Every element has a key, every key is one of the given ones, and none
is given twice. -/
def record?
    {α : Type}
    (keys : List String)
    (read : (String → Option Value) → Option α)
    (elements : List Element) :
    Option α := do
  let fields ← elements.mapM fun (key, value) => key.map (·, value)
  let given := fields.map Prod.fst
  if given.Nodup ∧ given.all keys.contains then read fun key => fields.lookup key else none

def keyed
    (fields : List (String × Value)) :
    List Element :=
  fields.map fun (key, value) => (some key, value)

theorem mapM_keyed
    (fields : List (String × Value)) :
    (keyed fields).mapM (fun (key, value) => key.map (·, value)) = some fields := by
  induction fields with
  | nil => rfl
  | cons field fields inductionHypothesis =>
      rw [keyed, List.map_cons, List.mapM_cons, ← keyed, inductionHypothesis]
      rfl

/-- A record is read from its fields by their keys. -/
theorem record?_keyed
    {α : Type}
    {keys : List String}
    {fields : List (String × Value)}
    (different : (fields.map Prod.fst).Nodup)
    (expected : (fields.map Prod.fst).all keys.contains = true)
    (read : (String → Option Value) → Option α) :
    record? keys read (keyed fields) = read fun key => fields.lookup key := by
  unfold record?
  simp only [mapM_keyed]
  simp [different, expected]

/-- A record in a list: no key, and its type is left to the list. -/
def item?
    {α : Type}
    (read : List Element → Option α) :
    Element → Option α
  | (none, .composite typeName elements) => if typeName.isEmpty then read elements else none
  | _ => none

/-- A list of records; one that is left out is empty. -/
def list?
    {α : Type}
    (typeName : String)
    (read : List Element → Option α) :
    Option Value → Option (List α)
  | none => some []
  | some (.composite given elements) =>
      if given = typeName then elements.mapM (item? read) else none
  | some _ => none

/-! ## Descriptors -/

def slot? : List Element → Option Wire.Slot :=
  record? ["Name", "Kind", "Nullable", "Interface"] fun field => do
    return ⟨← text? (field "Name"), ← kind? (field "Kind"), ← flag? (field "Nullable"),
      ← text? (field "Interface")⟩

def signature? : List Element → Option Wire.Signature :=
  record? ["Name", "Since", "Destructor", "Args"] fun field => do
    return ⟨← text? (field "Name"), ← number? (field "Since"), ← flag? (field "Destructor"),
      ← list? "[]wire.ArgSpec" slot? (field "Args")⟩

def interface? : List Element → Option Wire.Interface :=
  record? ["Name", "Version", "Requests", "Events"] fun field => do
    return ⟨← text? (field "Name"), ← number? (field "Version"),
      ← list? "[]wire.MessageSpec" signature? (field "Requests"),
      ← list? "[]wire.MessageSpec" signature? (field "Events")⟩

end Literal

/-! ## Files -/

open Literal

def between?
    (before after line : String) :
    Option String :=
  ((line.toList.dropPrefix? before.toList).bind (·.dropSuffix? after.toList)).map String.ofList

/-- The variables that a file sets to a literal of a type, each with the lines between the outermost
braces. -/
def literals
    (typeName : String) :
    Lines → List (String × Lines)
  | [] => []
  | line :: rest =>
      match between? "var " (" = " ++ typeName ++ "\x7b") line with
      | some name => (name, rest.takeWhile (· ≠ "\x7d")) :: literals typeName rest
      | none => literals typeName rest

/-- The variables of a file that hold an interface, and those that the list of interfaces names. -/
structure Table where
  declared : List (String × Wire.Interface)
  listed : List String
deriving DecidableEq, Repr

namespace Table

/-- The table of a file, if it has one list of interfaces and everything in it can be read. -/
def read?
    (lines : Lines) :
    Option Table := do
  let declared ← (literals "&wire.Interface" lines).mapM fun (name, body) => do
    return (name, ← interface? (← elements? (← lineTokens? body)))
  match literals "[]*wire.Interface" lines with
  | [("Interfaces", body)] => return ⟨declared, ← body.mapM (between? "\t" ",")⟩
  | _ => none

def interfaces?
    (table : Table) :
    Option (List Wire.Interface) :=
  table.listed.mapM fun name => table.declared.lookup name

end Table

end Wayland.Binding
