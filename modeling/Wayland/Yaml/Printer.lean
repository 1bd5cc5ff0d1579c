import Wayland.Text.Base64
import Wayland.Yaml.Cursor
import Wayland.Yaml.Tree

/-!
Contract: YAML texts of values.

Owns:
- the style of every text: plain where it reads back as the same text, in literal form when it has
  several lines, in single quotes where a plain text is not allowed, and otherwise in double quotes;
- byte strings that are no texts, in base 64;
- the layout of mappings and lists, two blanks deeper at every level.

Does not own: which values are written.
-/

namespace Wayland.Yaml

open Wayland.Text

/-! ## Styles -/

def isPlainlyPrintable
    (char : Char) :
    Bool :=
  let code := char.toNat
  code == 0x0A || (0x20 ≤ code && code ≤ 0x7E)
    || (0xA0 ≤ code && code ≤ 0xFFFD && code != 0xFEFF)

/-- What is known of a text when its style is chosen. -/
structure Traits where
  /-- Something in it has a meaning in YAML. -/
  indicator : Bool := false
  breaks : Bool := false
  tab : Bool := false
  special : Bool := false
  leadingSpace : Bool := false
  trailingSpace : Bool := false
  /-- A space follows a break. -/
  breakSpace : Bool := false
  /-- A break follows a space. -/
  spaceBreak : Bool := false
deriving DecidableEq, Repr

/-- Whether a first character has a meaning in YAML, by whether a blank or the end follows. -/
def isFirstIndicator
    (char : Char)
    (followed : Bool) :
    Bool :=
  "#,[]\x7b\x7d&*!|>'\"%@\x60".toList.contains char
    || (followed && (char == '?' || char == ':' || char == '-'))

/-- Whether a later character has a meaning in YAML, by what stands around it. -/
def isLaterIndicator
    (preceded : Bool)
    (char : Char)
    (followed : Bool) :
    Bool :=
  (char == ':' && followed) || (char == '#' && preceded)

/-- Whether some character after the first has a meaning in YAML. -/
def hasLaterIndicator
    (previous : Char) :
    List Char → Bool
  | [] => false
  | char :: rest =>
      let followed := rest.head?.all isBlankChar
      isLaterIndicator (isBlankOrEnd previous) char followed || hasLaterIndicator char rest

/-- Whether two characters stand side by side somewhere. -/
def hasPair
    (first second : Char → Bool) :
    List Char → Bool
  | left :: right :: rest =>
      (first left && second right) || hasPair first second (right :: rest)
  | _ => false

def traits
    (chars : List Char) :
    Traits :=
  let isSpace (char : Char) : Bool := char == ' '
  match chars with
  | [] => {}
  | first :: rest =>
      let lead := chars.take 3
      { indicator :=
          lead == ['-', '-', '-'] || lead == ['.', '.', '.']
            || isFirstIndicator first (rest.head?.all isBlankChar)
            || hasLaterIndicator first rest
        breaks := chars.any isBreakChar
        tab := chars.contains '\t'
        special := chars.any fun char => char != '\t' && !isPlainlyPrintable char
        leadingSpace := isSpace first
        trailingSpace := chars.getLast?.any isSpace
        breakSpace := hasPair isBreakChar isSpace chars
        spaceBreak := hasPair isSpace isBreakChar chars }

namespace Traits

/-- Whether a text with these traits can stand without quotes. -/
def allowsPlain
    (traits : Traits) :
    Bool :=
  !(traits.indicator || traits.breaks || traits.tab || traits.special || traits.leadingSpace
    || traits.trailingSpace)

/-- Whether a text with these traits can stand between single quotes. -/
def allowsSingle
    (traits : Traits) :
    Bool :=
  !(traits.breakSpace || traits.spaceBreak || traits.tab || traits.special)

/-- Whether a text with these traits can stand in literal form. -/
def allowsLiteral
    (traits : Traits) :
    Bool :=
  !(traits.trailingSpace || traits.spaceBreak || traits.special)

end Traits

def oldFlags : List String :=
  ["y", "Y", "yes", "Yes", "YES", "on", "On", "ON",
    "n", "N", "no", "No", "NO", "off", "Off", "OFF"]

/-- Whether digit groups in base 60 follow: each a colon and one or two digits below 60, and at the
end an optional fraction.  The fuel bounds the number of groups. -/
def isSexagesimalTail : (fuel : Nat) → List Char → Bool
  | 0, _ => false
  | _, [] => true
  | fuel + 1, ':' :: rest =>
      match rest with
      | first :: second :: others =>
          if first.isDigit && second.isDigit then
            first ≤ '5' && isSexagesimalTail fuel others
          else first.isDigit && isSexagesimalTail fuel (second :: others)
      | [first] => first.isDigit
      | [] => false
  | _, '.' :: rest => rest.all fun char => char.isDigit || char == '_'
  | _, _ => false

/-- Whether older readers take a text for a number in base 60. -/
def isSexagesimal
    (chars : List Char) :
    Bool :=
  let unsigned :=
    match chars with
    | '+' :: rest => rest
    | '-' :: rest => rest
    | rest => rest
  match unsigned with
  | first :: rest =>
      let tail := rest.dropWhile fun char => char.isDigit || char == '_'
      first.isDigit && tail.head? == some ':' && isSexagesimalTail (tail.length + 1) tail
  | [] => false

/-- Whether a plain scalar with this text is read as a text, by older readers too. -/
def readsAsText
    (text : String) :
    Bool :=
  (plainValue true text).tag == "!!str" && !oldFlags.contains text
    && !isSexagesimal text.toList

def styleOf
    (text : String) :
    Style :=
  let traits := traits text.toList
  if text.toList.contains '\n' then if traits.allowsLiteral then .literal else .doubleQuoted
  else if !readsAsText text then .doubleQuoted
  else if traits.allowsPlain then .plain
  else if traits.allowsSingle then .singleQuoted
  else .doubleQuoted

/-! ## Scalars -/

/-- Blanks up to a column. -/
def blanks
    (count : Nat) :
    List Char :=
  List.replicate count ' '

/-- A text between single quotes.  What follows a break is indented. -/
def singleFrom
    (indent : Nat)
    (afterBreak : Bool) :
    List Char → List Char
  | [] => ['\'']
  | char :: rest =>
      if isBreakChar char then char :: singleFrom indent true rest
      else
        (if afterBreak then blanks indent else [])
          ++ (if char == '\'' then ['\'', '\''] else [char])
          ++ singleFrom indent false rest

def escapeDigits
    (width code : Nat) :
    List Char :=
  (hexDigits width code).map Char.toUpper

def escape
    (char : Char) :
    List Char :=
  match char.toNat with
  | 0x00 => ['\\', '0']
  | 0x07 => ['\\', 'a']
  | 0x08 => ['\\', 'b']
  | 0x09 => ['\\', 't']
  | 0x0A => ['\\', 'n']
  | 0x0B => ['\\', 'v']
  | 0x0C => ['\\', 'f']
  | 0x0D => ['\\', 'r']
  | 0x1B => ['\\', 'e']
  | 0x22 => ['\\', '"']
  | 0x5C => ['\\', '\\']
  | 0x85 => ['\\', 'N']
  | 0xA0 => ['\\', '_']
  | 0x2028 => ['\\', 'L']
  | 0x2029 => ['\\', 'P']
  | code =>
      if code ≤ 0xFF then '\\' :: 'x' :: escapeDigits 2 code
      else if code ≤ 0xFFFF then '\\' :: 'u' :: escapeDigits 4 code
      else '\\' :: 'U' :: escapeDigits 8 code

def doubleQuotedText
    (chars : List Char) :
    List Char :=
  let inner := chars.flatMap fun char =>
    if !isPlainlyPrintable char || isBreakChar char || char == '"' || char == '\\' then escape char
    else [char]
  '"' :: inner ++ ['"']

/-- Where a literal text is continued. -/
inductive LiteralState where
  /-- Behind the header. -/
  | header
  /-- Behind a break. -/
  | broken
  | within
deriving DecidableEq, Repr

/-- The lines of a literal text, each of which is indented. -/
def literalFrom
    (indent : Nat)
    (state : LiteralState) :
    List Char → List Char
  | [] => []
  | char :: rest =>
      if isBreakChar char then char :: literalFrom indent .broken rest
      else
        let lead :=
          match state with
          | .header => '\n' :: blanks indent
          | .broken => blanks indent
          | .within => []
        lead ++ char :: literalFrom indent .within rest

/-- How many breaks stand at the end of a text, as far as it matters. -/
inductive Ending where
  | none
  | one
  | several
deriving DecidableEq, Repr

def ending
    (chars : List Char) :
    Ending :=
  match chars.reverse with
  | [] => .none
  | [last] => if isBreakChar last then .several else .none
  | last :: before :: _ =>
      if !isBreakChar last then .none
      else if isBreakChar before then .several
      else .one

/-- A text in literal form: a header that tells how it begins and ends, then its lines. -/
def literalText
    (indent : Nat)
    (chars : List Char) :
    List Char :=
  let startHint :=
    if chars.head?.any fun char => char == ' ' || isBreakChar char then ['2'] else []
  let endHint :=
    match ending chars with
    | .none => ['-']
    | .one => []
    | .several => ['+']
  '|' :: startHint ++ endHint ++ literalFrom indent .header chars

/-- A text with stray bytes in base 64 digits, under the tag of byte strings. -/
def binaryText
    (indent : Nat)
    (text : String) :
    List Char :=
  let digits := (Base64.text (Bytes.ofText text)).toList
  "!!binary ".toList ++ if digits.contains '\n' then literalText indent digits else digits

/-- A text in its style.  `indent` is the column of continued lines. -/
def scalarText
    (indent : Nat)
    (text : String) :
    List Char :=
  let chars := text.toList
  if hasStray text then binaryText indent text
  else match styleOf text with
  | .plain => chars
  | .singleQuoted => '\'' :: singleFrom indent false chars
  | .literal => literalText indent chars
  | _ => doubleQuotedText chars

/-! ## Layout -/

/-- The text of a value that needs no lines of its own. -/
def inlineText
    (indent : Nat) :
    Tree → Option (List Char)
  | .null => some "null".toList
  | .bool value => some (if value then "true" else "false").toList
  | .int value => some (toString value).toList
  | .real .notANumber => some ".nan".toList
  | .real (.infinite negative) => some (if negative then "-.inf" else ".inf").toList
  | .real value => some value.reportText.toList
  | .date value => some value.text.toList
  | .text value => some (scalarText (indent + 2) value)
  | .list [] => some "[]".toList
  | .list _ => none
  | .mapping [] => some "\x7b\x7d".toList
  | .mapping _ => none
  | .table [] => some "\x7b\x7d".toList
  | .table _ => none

/-- Replaces the two blanks before the item of a list by its mark. -/
def markItem
    (indent : Nat) :
    List (List Char) → List (List Char)
  | [] => []
  | first :: rest => (blanks indent ++ '-' :: ' ' :: first.drop (indent + 2)) :: rest

mutual

def Tree.pieces
    (indent : Nat) :
    Tree → List (List Char)
  | .mapping entries => entryPieces indent entries
  | .table entries => rowPieces indent entries
  | .list items => itemPieces indent items
  | _ => []

/-- The pieces of the entries of a mapping; each starts a line. -/
def entryPieces
    (indent : Nat) :
    List (String × Tree) → List (List Char)
  | [] => []
  | (key, value) :: rest =>
      let name := blanks indent ++ scalarText (indent + 2) key ++ [':']
      (match inlineText indent value with
        | some text => [name ++ ' ' :: text]
        | none => name :: value.pieces (indent + 2))
        ++ entryPieces indent rest

/-- The pieces of the entries of a table; each starts a line. -/
def rowPieces
    (indent : Nat) :
    List (Value × Tree) → List (List Char)
  | [] => []
  | (key, value) :: rest =>
      let name := blanks indent ++ ((inlineText indent (.scalar key)).getD []) ++ [':']
      (match inlineText indent value with
        | some text => [name ++ ' ' :: text]
        | none => name :: value.pieces (indent + 2))
        ++ rowPieces indent rest

/-- The pieces of the items of a list; each starts a line. -/
def itemPieces
    (indent : Nat) :
    List Tree → List (List Char)
  | [] => []
  | item :: rest =>
      (match inlineText (indent + 2) item with
        | some text => [blanks indent ++ '-' :: ' ' :: text]
        | none => markItem indent (item.pieces (indent + 2)))
        ++ itemPieces indent rest

end

def endLine
    (piece : List Char) :
    List Char :=
  if piece.getLast?.any isBreakChar then piece else piece ++ ['\n']

def Tree.render
    (tree : Tree) :
    String :=
  let pieces : List (List Char) :=
    match inlineText 0 tree with
    | some whole => [whole]
    | none => tree.pieces 0
  String.ofList (pieces.flatMap endLine)

end Wayland.Yaml
