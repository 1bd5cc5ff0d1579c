import Wayland.Document.Error
import Wayland.File.Path
import Wayland.Text.Case

/-!
Contract: the two syntaxes of protocol documents.

Owns: the syntax a file name stands for.

Does not own: reading either syntax.
-/

namespace Wayland.Document

/-- The syntax of a protocol document. -/
inductive Format where
  | markup
  | mapping
deriving DecidableEq, Repr

def Format.word : Format → String
  | .markup => "xml"
  | .mapping => "yaml"

/-- The syntax a file extension stands for, in either case of letters. -/
def Format.ofPath
    (path : String) :
    Except Problem Format :=
  match Text.lowerText (File.Path.extension path) with
  | ".xml" => .ok .markup
  | ".yaml" => .ok .mapping
  | ".yml" => .ok .mapping
  | _ => .error (.unknownFormat (File.Path.base path))

end Wayland.Document
