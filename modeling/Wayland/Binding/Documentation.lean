import Wayland.Binding.Source

/-!
Contract: the documentation in front of declarations.

Owns: which quotes of a paragraph become typographic ones, which parts of it are left alone, and
which paragraphs are no running text.

Does not own: what the documentation says.
-/

namespace Wayland.Binding

open Wayland.Text

def addressSchemes : List String :=
  ["file", "ftp", "gopher", "http", "https", "mailto", "nntp"]

/-- Whether a character may stand inside a web address but not at its end. -/
def isAddressMark
    (char : Char) :
    Bool :=
  ['.', ',', ':', ';', '?', '!'].contains char

def isAddressHost
    (char : Char) :
    Bool :=
  char.isAlphanum || ['_', '@', '-', '.', '[', ']', ':'].contains char

def isAddressPath
    (char : Char) :
    Bool :=
  char.isAlphanum
    || ['$', '\'', '(', ')', '*', '+', '&', '#', '=', '@', '~', '_', '/', '-', '[', ']', '\x7b',
      '\x7d', '%'].contains char

def closingBracket? : Char → Option Char
  | '(' => some ')'
  | '[' => some ']'
  | '\x7b' => some '\x7d'
  | _ => none

/-- How many characters belong to a path of a web address.  `seen` counts those before the
characters, `length` those up to the last one that may end the path, and `awaited` holds the
brackets that are still to be closed, innermost first. -/
def pathLength
    (seen length : Nat)
    (awaited : List Char) :
    List Char → Nat
  | [] => length
  | char :: rest =>
      let follow (awaited : List Char) : Nat :=
        pathLength (seen + 1) (if awaited.isEmpty then seen + 1 else length) awaited rest
      if isAddressMark char then pathLength (seen + 1) length awaited rest
      else if !isAddressPath char then length
      else
        match closingBracket? char with
        | some closing => follow (closing :: awaited)
        | none =>
            if [')', ']', '\x7d'].contains char then
              match awaited with
              | closing :: awaited => if closing == char then follow awaited else length
              | [] => length
            else follow awaited

/-- How many characters of a web address start a text, if one does: a scheme, a host that neither
starts nor ends in a mark, and a path. -/
def addressLength?
    (chars : List Char) :
    Option Nat :=
  let leads := addressSchemes.map fun scheme => (scheme ++ "://").toList
  match leads.find? (·.isPrefixOf chars) with
  | none => none
  | some lead =>
      let rest := chars.drop lead.length
      if rest.head?.any fun char => isAddressHost char && !isAddressMark char then
        let host := ((rest.takeWhile isAddressHost).reverse.dropWhile isAddressMark).length
        some (lead.length + host + pathLength 0 0 [] (rest.drop host))
      else none

def wordLength
    (chars : List Char) :
    Nat :=
  let isStart (char : Char) : Bool := char == '_' || isLetter char
  if chars.head?.any isStart then
    (chars.takeWhile fun char => isStart char || char.isDigit).length
  else 0

def byteCount
    (chars : List Char) :
    Nat :=
  chars.foldl (fun count char => count + char.utf8Size) 0

def coverLength : (bytes : Nat) → List Char → Nat
  | 0, _ => 0
  | _, [] => 0
  | bytes + 1, char :: rest => coverLength (bytes + 1 - char.utf8Size) rest + 1

/-- How many grave accents stand at a number of bytes into a text. -/
def accentsAt
    (offset : Nat)
    (chars : List Char) :
    Nat :=
  ((chars.drop (coverLength offset chars)).takeWhile (· == '\x60')).length

/-- The running text of documentation with typographic quotes: two grave accents open a quotation
and two apostrophes close one.  Web addresses and words are left alone, and so are three grave
accents, together with as many bytes as there are accents as far behind their end as they are
behind the start of the paragraph.  `whole` is the paragraph, `offset` counts its bytes before the
characters, and `fuel` bounds the steps. -/
def quotedFrom
    (whole : List Char) :
    (fuel offset : Nat) → List Char → List Char
  | _, _, [] => []
  | 0, _, chars => chars
  | fuel + 1, offset, chars =>
      let keep (count : Nat) : List Char :=
        let kept := chars.take count
        kept ++ quotedFrom whole fuel (offset + byteCount kept) (chars.drop count)
      match addressLength? chars, wordLength chars, chars with
      | some length, _, _ => keep length
      | none, length + 1, _ => keep (length + 1)
      | none, 0, '\x60' :: '\x60' :: '\x60' :: rest =>
          keep (3 + coverLength (accentsAt (offset + offset + 3) whole) rest)
      | none, 0, '\x60' :: '\x60' :: rest =>
          Char.ofNat 0x201C :: quotedFrom whole fuel (offset + 2) rest
      | none, 0, '\'' :: '\'' :: rest =>
          Char.ofNat 0x201D :: quotedFrom whole fuel (offset + 2) rest
      | none, 0, _ => keep 1

/-- Whether a line alone in its paragraph is a heading. -/
def isHeading
    (line : String) :
    Bool :=
  match line.toList with
  | '#' :: blank :: rest => (blank == ' ' || blank == '\t') && !rest.all isBlank
  | _ => false

/-- Whether a line says where a link leads: a text in brackets, and an address with a scheme. -/
def isLinkTarget
    (line : String) :
    Bool :=
  match line.toList with
  | '[' :: rest =>
      let rec targetFrom : List Char → Option (List Char)
        | ']' :: ':' :: target => some target
        | _ :: rest => targetFrom rest
        | [] => none
      match targetFrom rest with
      | some (blank :: target) =>
          (blank == ' ' || blank == '\t')
            && addressSchemes.any fun scheme =>
              (scheme ++ "://").toList.isPrefixOf (target.dropWhile isBlank)
      | _ => false
  | _ => false

def paragraphLines
    (lines : List String) :
    Lines :=
  let isPlain :=
    lines.all isLinkTarget
      || match lines with
        | [line] => isHeading line
        | _ => false
  if isPlain then lines.map commentLine
  else
    let chars := (String.intercalate "\n" lines).toList.filter (· != '\r')
    (splitChars '\n' (quotedFrom chars chars.length 0 chars)).map fun line =>
      commentLine (String.ofList line)

/-- The paragraphs of lines, which empty lines separate. -/
def paragraphs : List String → List (List String)
  | [] => [[]]
  | line :: rest =>
      match paragraphs rest with
      | first :: others => if line.isEmpty then [] :: first :: others else (line :: first) :: others
      | [] => [[line]]

/-- The documentation in front of a declaration.  A carriage return in its last line leaves all of
it as it is. -/
def documentation
    (texts : List String) :
    Lines :=
  if texts.getLast?.any (·.toList.contains '\r') then texts.map commentLine
  else List.intercalate [commentLine ""] ((paragraphs texts).map paragraphLines)

end Wayland.Binding
