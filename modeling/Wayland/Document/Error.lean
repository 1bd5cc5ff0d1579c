import Wayland.Markup.Fault
import Wayland.Text.Quoted

/-!
Contract: the reports on documents that cannot be read.

Owns: the causes, element paths, and the report text with document, line and path.

Does not own: when a document is refused.
-/

namespace Wayland.Document

open Wayland.Text (quote)

/-- Why a document of mappings and lists cannot be read. -/
inductive MappingFault where
  /-- The text does not follow the syntax. -/
  | syntaxError (message : String)
  /-- Some values do not have the form of the model. -/
  | shape (messages : List String)
deriving DecidableEq, Repr

def MappingFault.message : MappingFault → String
  | .syntaxError message => message
  | .shape messages =>
      "yaml: unmarshal errors:\n  " ++ String.intercalate "\n  " messages

/-- Why a document is refused. -/
inductive Problem where
  | unknownElement
  | unexpectedRoot
  | unknownAttribute (name : String)
  | missingAttribute (name : String)
  | duplicateElement
  /-- An attribute whose text is no number. -/
  | badNumber (field text : String)
  /-- A version of zero where versions start at one. -/
  | zeroSince
  /-- An attribute whose text is no flag. -/
  | badFlag (field text : String)
  /-- A message type other than the destructor. -/
  | badMessageType (text : String)
  /-- An argument type that has no encoding. -/
  | badArgType (text : String)
  /-- More messages of one direction than opcodes. -/
  | tooManyMessages (kind : String)
  | unexpectedText
  | noInterfaces
  | unknownFormat (file : String)
  | emptyDocument
  | markup (failure : Markup.Failure)
  | mapping (fault : MappingFault)
  /-- The text cannot be had to its end. -/
  | unreadable (report : String)
deriving DecidableEq, Repr

/-- The classes of problems a caller can tell apart. -/
inductive Cause where
  | unknownElement
  | unknownAttribute
  | missingAttribute
  | duplicateElement
  | badNumber
  | badValue
  | unexpectedText
  | noInterfaces
  | unknownFormat
  | emptyDocument
  | markupSyntax
  | markupDeclaration
  | mappingShape
  | mappingSyntax
  | unreadable
deriving DecidableEq, Repr

def unknownArgType
    (name : String) :
    String :=
  "unknown argument type " ++ quote name

/-- The text of a number that cannot be read. -/
def malformedNumber
    (text : String) :
    String :=
  "malformed number: " ++ quote text

/-- The text of a flag that cannot be read. -/
def malformedFlag
    (text : String) :
    String :=
  "invalid attribute value: " ++ quote text ++ " is not a boolean"

namespace Problem

def cause : Problem → Cause
  | .unknownElement => .unknownElement
  | .unexpectedRoot => .unknownElement
  | .unknownAttribute _ => .unknownAttribute
  | .missingAttribute _ => .missingAttribute
  | .duplicateElement => .duplicateElement
  | .badNumber _ _ => .badNumber
  | .zeroSince => .badNumber
  | .badFlag _ _ => .badValue
  | .badMessageType _ => .badValue
  | .badArgType _ => .badValue
  | .tooManyMessages _ => .badValue
  | .unexpectedText => .unexpectedText
  | .noInterfaces => .noInterfaces
  | .unknownFormat _ => .unknownFormat
  | .emptyDocument => .emptyDocument
  | .markup failure =>
      if failure.fault.isGrammatical then .markupSyntax else .markupDeclaration
  | .mapping (.syntaxError _) => .mappingSyntax
  | .mapping (.shape _) => .mappingShape
  | .unreadable _ => .unreadable

/-- The text of a problem, without its place. -/
def text : Problem → String
  | .unknownElement => "unknown element"
  | .unexpectedRoot => "unknown element: expected protocol"
  | .unknownAttribute name => "unknown attribute: " ++ name
  | .missingAttribute name => "missing required attribute: " ++ name
  | .duplicateElement => "element may appear only once"
  | .badNumber field text => field ++ ": " ++ malformedNumber text
  | .zeroSince => "since: malformed number: 0"
  | .badFlag field text => field ++ ": " ++ malformedFlag text
  | .badMessageType text => "invalid attribute value: type " ++ quote text
  | .badArgType text => "invalid attribute value: " ++ unknownArgType text
  | .tooManyMessages kind => "invalid attribute value: more than 65536 " ++ kind ++ "s"
  | .unexpectedText => "unexpected text content"
  | .noInterfaces => "protocol declares no interfaces"
  | .unknownFormat file => "unknown document format: " ++ file
  | .emptyDocument => "document has no protocol element"
  | .markup failure => failure.message
  | .mapping fault => fault.message
  | .unreadable report => report

end Problem

/-- The steps from the root of a document to an element, outermost first. -/
abbrev Path := List String

/-- A path with one more step, which shows the name of its element if it has one. -/
def Path.push
    (path : Path)
    (kind name : String) :
    Path :=
  path ++ [if name.isEmpty then kind else kind ++ "[" ++ name ++ "]"]

def Path.text
    (path : Path) :
    String :=
  String.intercalate "/" path

/-- A problem and its place.  Line 0 stands for an unknown line. -/
structure Error where
  document : String
  path : Path := []
  line : Nat := 0
  problem : Problem
deriving DecidableEq, Repr

/-- The report: document and line, then the path if there is one, then the problem. -/
def Error.message
    (error : Error) :
    String :=
  let place :=
    if error.line > 0 then error.document ++ ":" ++ toString error.line else error.document
  let path := error.path.text
  if path.isEmpty then place ++ ": " ++ error.problem.text
  else place ++ ": " ++ path ++ ": " ++ error.problem.text

end Wayland.Document
