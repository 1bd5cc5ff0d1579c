import Wayland.Binding.Name
import Wayland.Text.Number
import Wayland.Text.Quoted

/-!
Contract: the pieces of Go text that generated files are made of.

Owns: comments, aligned columns, quoted paths, and which texts can stand in them.

Does not own: the files.
-/

namespace Wayland.Binding

open Wayland.Text

abbrev Lines := List String

def indent
    (depth : Nat)
    (lines : Lines) :
    Lines :=
  let lead := String.ofList (List.replicate depth '\t')
  lines.map fun line => if line.isEmpty then line else lead ++ line

/-- A comment line: no carriage returns, and no white space at its end. -/
def commentLine
    (text : String) :
    String :=
  let chars := ("// " ++ text).toList.filter (· != '\r')
  String.ofList (chars.reverse.dropWhile isBlank).reverse

/-- Rows of a name and a rest, with the rests in one column. -/
def alignRows
    (rows : List (String × String)) :
    Lines :=
  let width := rows.foldl (fun width row => max width row.1.length) 0
  rows.map fun (name, rest) =>
    name ++ String.ofList (List.replicate (width + 1 - name.length) ' ') ++ rest

def commaList
    (texts : List String) :
    String :=
  String.intercalate ", " texts

/-- Whether what follows a backslash is an escape of an interpreted string: the rest after it. -/
def escapeRest? : List Char → Option (List Char)
  | [] => none
  | mark :: rest =>
      let digits (base count : Nat) (chars : List Char) : Option (Nat × List Char) :=
        let taken := chars.take count
        if taken.length = count then
          (natOfDigits? base taken).map fun value => (value, chars.drop count)
        else none
      if ['a', 'b', 'f', 'n', 'r', 't', 'v', '\\', '"'].contains mark then some rest
      else if mark == 'x' then (digits 16 2 rest).map (·.2)
      else if mark == 'u' || mark == 'U' then
        match digits 16 (if mark == 'u' then 4 else 8) rest with
        | some (value, rest) =>
            if value ≤ 0x10FFFF ∧ ¬(0xD800 ≤ value ∧ value ≤ 0xDFFF) then some rest else none
        | none => none
      else if mark.isDigit then
        match digits 8 3 (mark :: rest) with
        | some (value, rest) => if value ≤ 255 then some rest else none
        | none => none
      else none

/-- Whether characters can stand between the quotes of an interpreted string.  `fuel` bounds the
steps. -/
def isStringBodyFrom : (fuel : Nat) → List Char → Bool
  | _, [] => true
  | 0, _ => false
  | fuel + 1, '\\' :: rest =>
      match escapeRest? rest with
      | some rest => isStringBodyFrom fuel rest
      | none => false
  | fuel + 1, char :: rest => char != '"' && char != '\n' && isStringBodyFrom fuel rest

/-- Whether a text can stand between the quotes of an interpreted string. -/
def isStringBody
    (text : String) :
    Bool :=
  isStringBodyFrom text.length text.toList

def isCommentText
    (text : String) :
    Bool :=
  text.toList.all (· != '\n')

/-- Whether no part of a file is refused: the null character, byte order marks and stray bytes
are. -/
def hasOnlySourceChars
    (text : String) :
    Bool :=
  (glyphs text).all fun glyph => glyph.char?.any fun char => char.toNat != 0 && char.toNat != 0xFEFF

def fileText
    (lines : Lines) :
    String :=
  String.intercalate "\n" lines ++ "\n"

end Wayland.Binding
