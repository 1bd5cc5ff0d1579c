import Wayland.Wire.Kind

/-!
Contract: the ways in which encoding, decoding and framing fail.

Owns: the causes, the place of a failure, and the report text.

Does not own: when a failure arises; that is stated by the codec and the framing.
-/

namespace Wayland.Wire

/-- The causes a caller can tell apart. -/
inductive Cause where
  | argumentCount
  | argumentKind
  | nullArgument
  | stringNul
  | messageTooLarge
  | truncated
  | badLength
  | badSize
  | unterminated
  | missingDescriptor
  | trailingBytes
deriving DecidableEq, Repr

def Cause.text : Cause → String
  | .argumentCount => "wire: argument count does not match signature"
  | .argumentKind => "wire: argument kind does not match signature"
  | .nullArgument => "wire: null value for non-nullable argument"
  | .stringNul => "wire: string contains a NUL byte"
  | .messageTooLarge => "wire: message exceeds maximum size"
  | .truncated => "wire: truncated message"
  | .badLength => "wire: length prefix exceeds remaining buffer"
  | .badSize => "wire: invalid message size in header"
  | .unterminated => "wire: string is not NUL terminated"
  | .missingDescriptor => "wire: file descriptor missing from side channel"
  | .trailingBytes => "wire: trailing bytes after last argument"

/-- An argument of a message, by their names. -/
structure Site where
  message : String
  argument : String
deriving DecidableEq, Repr

/-- The printed form `message.argument`. -/
def Site.text
    (site : Site) :
    String :=
  site.message ++ "." ++ site.argument

/-- A failure of encoding, decoding or framing. -/
inductive Error where
  /-- The number of values differs from the number of slots. -/
  | argumentCount (message : String) (expected given : Nat)
  /-- A value has another class than its slot. -/
  | kindMismatch (site : Site) (expected given : Kind)
  /-- The slot has no assigned class. -/
  | kindUnassigned (site : Site) (kind : Kind)
  /-- A new object is given no id. -/
  | missingId (site : Site)
  /-- A new object of open interface is given no interface name. -/
  | missingInterface (site : Site)
  /-- A failure at one argument that its cause describes in full. -/
  | atArgument (site : Site) (cause : Cause)
  /-- The message outgrows the size limit at some argument. -/
  | bodyTooLarge (message : String)
  /-- A body does not fit into one frame of the given total size. -/
  | frameTooLarge (size : Nat)
  /-- Bytes remain after the last argument. -/
  | trailingBytes (message : String) (extra : Nat)
  /-- A buffer ends before its first message does. -/
  | truncated
  /-- A header states an impossible size. -/
  | badSize (size : UInt16)
deriving DecidableEq, Repr

namespace Error

/-- The cause behind a failure. -/
def cause : Error → Cause
  | .argumentCount _ _ _ => .argumentCount
  | .kindMismatch _ _ _ => .argumentKind
  | .kindUnassigned _ _ => .argumentKind
  | .missingId _ => .nullArgument
  | .missingInterface _ => .argumentKind
  | .atArgument _ cause => cause
  | .bodyTooLarge _ => .messageTooLarge
  | .frameTooLarge _ => .messageTooLarge
  | .trailingBytes _ _ => .trailingBytes
  | .truncated => .truncated
  | .badSize _ => .badSize

def detail? : Error → Option String
  | .argumentCount message expected given =>
      some (message ++ " takes " ++ toString expected ++ ", got " ++ toString given)
  | .kindMismatch site expected given =>
      some (site.text ++ " is " ++ expected.text ++ ", got " ++ given.text)
  | .kindUnassigned site kind => some (site.text ++ " has " ++ kind.text)
  | .missingId site => some (site.text ++ " has no id")
  | .missingInterface site => some (site.text ++ " needs an interface name")
  | .atArgument site _ => some site.text
  | .bodyTooLarge message => some message
  | .frameTooLarge size => some (toString size ++ " bytes")
  | .trailingBytes message extra =>
      some (message ++ " has " ++ toString extra ++ " extra bytes")
  | .truncated => none
  | .badSize size => some (toString size.toNat)

/-- The report: the cause, then the detail after a colon. -/
def message
    (error : Error) :
    String :=
  match error.detail? with
  | some detail => error.cause.text ++ ": " ++ detail
  | none => error.cause.text

end Error

end Wayland.Wire
