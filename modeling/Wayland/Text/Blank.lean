/-!
Contract: white space, and texts cut or trimmed by it.

Owns: the white space characters of all scripts, trimming, splitting into lines and into words,
and the normal form of running text.

Does not own: the white space rules of any document format.
-/

namespace Wayland.Text

def isBlank
    (char : Char) :
    Bool :=
  let code := char.toNat
  (9 ≤ code && code ≤ 13) || code == 32 || code == 0x85 || code == 0xA0 || code == 0x1680
    || (0x2000 ≤ code && code ≤ 0x200A) || code == 0x2028 || code == 0x2029 || code == 0x202F
    || code == 0x205F || code == 0x3000

/-- Characters without white space at either end. -/
def trimChars
    (chars : List Char) :
    List Char :=
  ((chars.dropWhile isBlank).reverse.dropWhile isBlank).reverse

/-- A text without white space at either end. -/
def trim
    (text : String) :
    String :=
  String.ofList (trimChars text.toList)

/-- The pieces between occurrences of a separator; there is always at least one. -/
def splitChars
    (separator : Char)
    (chars : List Char) :
    List (List Char) :=
  let (last, others) := chars.foldr
    (fun char (current, done) =>
      if char = separator then ([], current :: done) else (char :: current, done))
    (([], []) : List Char × List (List Char))
  last :: others

/-- The pieces of a text between occurrences of a separator. -/
def splitText
    (separator : Char)
    (text : String) :
    List String :=
  (splitChars separator text.toList).map String.ofList

/-- The words of a text: its longest runs without white space. -/
def wordsFrom
    (current : List Char) :
    List Char → List (List Char)
  | [] => if current.isEmpty then [] else [current.reverse]
  | char :: rest =>
      if isBlank char then
        if current.isEmpty then wordsFrom [] rest else current.reverse :: wordsFrom [] rest
      else wordsFrom (char :: current) rest

def words
    (text : String) :
    List String :=
  (wordsFrom [] text.toList).map String.ofList

/-- Appends a trimmed line to a normal form under construction.  `gap` tells that blank lines stand
between the last kept line and this one. -/
def normalLines
    (kept : Bool)
    (gap : Bool) :
    List (List Char) → List (List Char)
  | [] => []
  | line :: lines =>
      if line.isEmpty then normalLines kept kept lines
      else if gap then [] :: line :: normalLines true false lines
      else line :: normalLines true false lines

/-- The normal form of running text: trimmed lines, no blank line at either end, and one blank line
where the text had one or more. -/
def normalize
    (text : String) :
    String :=
  String.intercalate "\n"
    ((normalLines false false ((splitChars '\n' text.toList).map trimChars)).map String.ofList)

end Wayland.Text
