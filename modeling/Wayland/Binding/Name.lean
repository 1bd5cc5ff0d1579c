import Wayland.Text.Blank
import Wayland.Text.Case
import Wayland.Text.Letter

/-!
Contract: the Go names of protocol names.

Owns:
- exported names, local names and package names;
- the names that generated code keeps for itself;
- summaries as sentences.

Does not own: which names a file declares.
-/

namespace Wayland.Binding

open Wayland.Text

def keywords : List String :=
  ["break", "case", "chan", "const", "continue", "default", "defer", "else", "fallthrough", "for",
    "func", "go", "goto", "if", "import", "interface", "map", "package", "range", "return",
    "select", "struct", "switch", "type", "var"]

/-- Whether a text is a Go identifier: letters, digits and underscores, no digit first, and no
keyword. -/
def isIdentifier
    (name : String) :
    Bool :=
  let isLetterLike (char : Char) : Bool := char == '_' || isLetter char
  match name.toList with
  | [] => false
  | first :: rest =>
      isLetterLike first && rest.all (fun char => isLetterLike char || isDecimalDigit char)
        && !keywords.contains name

theorem isIdentifier_iff
    {name : String} :
    isIdentifier name = true ↔ ∃ first rest, name.toList = first :: rest ∧
      (first = '_' ∨ isLetter first = true) ∧
        (∀ char ∈ rest, (char = '_' ∨ isLetter char = true) ∨ isDecimalDigit char = true) ∧
          name ∉ keywords := by
  unfold isIdentifier
  cases name.toList with
  | nil => simp
  | cons first rest => simp [and_assoc]

/-- The words that are written in upper case inside names. -/
def initialism? : String → Option String
  | "id" => some "ID"
  | "fd" => some "FD"
  | "url" => some "URL"
  | "uri" => some "URI"
  | "dpms" => some "DPMS"
  | _ => none

/-- The words of a protocol name: what stands between its underscores. -/
def nameWords
    (name : String) :
    List String :=
  (splitText '_' name).filter (!·.isEmpty)

def innerWord
    (word : String) :
    String :=
  (initialism? word).getD (capitalize word)

/-- The exported name: every word starts in upper case, and no underscore is left. -/
def exportedName
    (name : String) :
    String :=
  String.join ((nameWords name).map innerWord)

/-- The name before reserved names are avoided: the first word is in lower case. -/
def plainLocalName
    (name : String) :
    String :=
  match nameWords name with
  | [] => "arg"
  | first :: rest => lowerText first ++ String.join (rest.map innerWord)

/-- The local name: keywords and reserved names get an underscore at the end. -/
def localName
    (reserved : List String)
    (name : String) :
    String :=
  let plain := plainLocalName name
  if keywords.contains plain || reserved.contains plain then plain ++ "_" else plain

def importedPackages : List String := ["fmt", "strings", "wire", "session"]

def isPackageChar
    (char : Char) :
    Bool :=
  ('a' ≤ char && char ≤ 'z') || ('0' ≤ char && char ≤ '9')

/-- The package of a protocol: the letters and digits of its name in lower case, with a letter
first, and neither a keyword nor an imported package. -/
def packageName
    (name : String) :
    String :=
  let kept := (lowerText name).toList.filter isPackageChar
  let started :=
    match kept with
    | [] => ['p']
    | first :: rest => if first.isDigit then 'p' :: first :: rest else first :: rest
  let text := String.ofList started
  if keywords.contains text || importedPackages.contains text then text ++ "proto" else text

/-- The names that generated bodies declare or use; `shared` is the package of the descriptors. -/
def reservedNames
    (shared : String) :
    List String :=
  ["o", "in", "objs", "err", "fmt", "wire", "session", "string", "int", "int32", "uint32", "byte",
    "error", "nil", "len", "true", "false", shared]

/-- A summary as a part of a sentence: one line, single spaces, no full stop at the end. -/
def sentence
    (summary : String) :
    String :=
  let text := String.intercalate " " (words summary)
  match text.toList.reverse with
  | '.' :: rest => String.ofList rest.reverse
  | _ => text

end Wayland.Binding
