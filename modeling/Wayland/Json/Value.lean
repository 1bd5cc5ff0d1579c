import Wayland.Text.Bytes

/-!
Contract: JSON values and their texts.

Owns: ordered objects, string escaping that is safe inside markup, the compact text and the
indented text.

Does not own: reading JSON.
-/

namespace Wayland.Json

/-- A JSON value.  Members keep the order in which they are written. -/
inductive Value where
  | null
  | bool (value : Bool)
  | number (value : Int)
  | text (value : String)
  | list (items : List Value)
  | object (members : List (String × Value))
deriving Repr, Inhabited

namespace Value

/-- An object without the members that are `none`. -/
def ofOptions
    (members : List (String × Option Value)) :
    Value :=
  .object (members.filterMap fun (key, value) => value.map (key, ·))

/-- A text member that is left out when empty. -/
def nonEmpty
    (value : String) :
    Option Value :=
  if value.isEmpty then none else some (.text value)

/-- A number member that is left out when zero. -/
def nonZero
    (value : Nat) :
    Option Value :=
  if value = 0 then none else some (.number value)

/-- A flag that is left out when false. -/
def whenTrue
    (value : Bool) :
    Option Value :=
  if value then some (.bool true) else none

/-- A list member that is left out when empty. -/
def nonEmptyList
    (items : List Value) :
    Option Value :=
  if items.isEmpty then none else some (.list items)

end Value

/-- The lower-case hexadecimal digit of a number below 16. -/
def hexDigit
    (value : Nat) :
    Char :=
  if value < 10 then Char.ofNat ('0'.toNat + value) else Char.ofNat ('a'.toNat + value - 10)

/-- The four-digit escape of a code point below 65536. -/
def unicodeEscape
    (code : Nat) :
    List Char :=
  ['\\', 'u', hexDigit (code / 4096 % 16), hexDigit (code / 256 % 16),
    hexDigit (code / 16 % 16), hexDigit (code % 16)]

/-- One character inside a string.  The characters with a meaning in markup and the two line
separators outside ASCII are escaped as well as what JSON demands. -/
def escapeChar
    (char : Char) :
    List Char :=
  if char = '"' then ['\\', '"']
  else if char = '\\' then ['\\', '\\']
  else if char = '\n' then ['\\', 'n']
  else if char = '\r' then ['\\', 'r']
  else if char = '\t' then ['\\', 't']
  else if char.toNat = 8 then ['\\', 'b']
  else if char.toNat = 12 then ['\\', 'f']
  else if char.toNat < 32 || char = '<' || char = '>' || char = '&'
      || char.toNat = 0x2028 || char.toNat = 0x2029 then
    unicodeEscape char.toNat
  else [char]

/-- One glyph inside a string; a stray byte is the escape of the replacement character. -/
def escapeGlyph : Text.Glyph → List Char
  | .char value => escapeChar value
  | .stray _ => unicodeEscape Text.replacement.toNat

def quote
    (text : String) :
    String :=
  "\"" ++ String.ofList ((Text.glyphs text).flatMap escapeGlyph) ++ "\""

mutual

/-- The text without any blank. -/
def Value.compact : Value → String
  | .null => "null"
  | .bool true => "true"
  | .bool false => "false"
  | .number value => toString value
  | .text value => quote value
  | .list items => "[" ++ String.intercalate "," (compactItems items) ++ "]"
  | .object members => "\x7b" ++ String.intercalate "," (compactMembers members) ++ "\x7d"

def compactItems : List Value → List String
  | [] => []
  | item :: items => item.compact :: compactItems items

def compactMembers : List (String × Value) → List String
  | [] => []
  | (key, value) :: members => (quote key ++ ":" ++ value.compact) :: compactMembers members

end

mutual

/-- The text with one item or member a line, two blanks deeper than what holds it. -/
def Value.indented
    (margin : String) :
    Value → String
  | .null => "null"
  | .bool true => "true"
  | .bool false => "false"
  | .number value => toString value
  | .text value => quote value
  | .list [] => "[]"
  | .list items =>
      "[\n" ++ String.intercalate ",\n" (indentedItems (margin ++ "  ") items)
        ++ "\n" ++ margin ++ "]"
  | .object [] => "\x7b\x7d"
  | .object members =>
      "\x7b\n" ++ String.intercalate ",\n" (indentedMembers (margin ++ "  ") members)
        ++ "\n" ++ margin ++ "\x7d"

def indentedItems
    (margin : String) :
    List Value → List String
  | [] => []
  | item :: items => (margin ++ item.indented margin) :: indentedItems margin items

def indentedMembers
    (margin : String) :
    List (String × Value) → List String
  | [] => []
  | (key, value) :: members =>
      (margin ++ quote key ++ ": " ++ value.indented margin) :: indentedMembers margin members

end

end Wayland.Json
