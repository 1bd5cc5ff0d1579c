import Wayland.Session.Table
import Wayland.Text.Quoted
import Wayland.Wire.Error

/-!
Contract: the reports of sessions.

Owns: who is to blame, the reasons, their causes, and the texts.

Does not own: when an operation is refused.
-/

namespace Wayland.Session

open Wayland.Text
open Wayland.Wire

/-- Who caused an error: the peer broke the protocol, or the caller misused the session. -/
inductive Blame where
  | peer
  | caller
deriving DecidableEq, Repr

def Blame.text : Blame → String
  | .peer => "protocol_fault"
  | .caller => "caller_misuse"

/-- The causes a caller can tell apart. -/
inductive Cause where
  | unknownObject
  | destroyedObject
  | unknownOpcode
  | versionUnavailable
  | wrongInterface
  | unknownInterface
  | badVersion
  | idOutOfRange
  | idInUse
  | idOutOfSequence
  | idExhausted
  | notDestroyed
  | presetNewId
  | wire (cause : Wire.Cause)
deriving DecidableEq, Repr

def Cause.text : Cause → String
  | .unknownObject => "session: unknown object"
  | .destroyedObject => "session: object already destroyed"
  | .unknownOpcode => "session: unknown opcode"
  | .versionUnavailable => "session: message not available at negotiated version"
  | .wrongInterface => "session: object bound to a different interface"
  | .unknownInterface => "session: interface not supported locally"
  | .badVersion => "session: invalid interface version"
  | .idOutOfRange => "session: object id outside the sender's range"
  | .idInUse => "session: object id still in use"
  | .idOutOfSequence => "session: object id skips unallocated ids"
  | .idExhausted => "session: object id range exhausted"
  | .notDestroyed => "session: object id is not destroyed"
  | .presetNewId => "session: new_id must be allocated by the session"
  | .wire cause => cause.text

def TableFault.cause : TableFault → Cause
  | .outOfRange => .idOutOfRange
  | .inUse => .idInUse
  | .outOfSequence => .idOutOfSequence
  | .exhausted => .idExhausted
  | .notDestroyed => .notDestroyed

/-- What is wrong with one argument. -/
inductive ArgumentFault where
  /-- A handle of another session. -/
  | foreign (object : Object)
  /-- A handle that is no longer the live object of its id, or of the id it is passed with. -/
  | stale (object : Object)
  | destroyed (id : ObjectId)
  | unknown (id : ObjectId)
  | wrongInterface (object : Object) (wanted : String)
  /-- A new object that already has an id. -/
  | preset
  | unknownInterface (name : Bytes)
  | badVersion (name : String) (requested : UInt32)
  /-- An id outside the range of the sender. -/
  | outOfRange (id : ObjectId)
  | refused (fault : TableFault) (id : ObjectId)
deriving DecidableEq, Repr

def ArgumentFault.cause : ArgumentFault → Cause
  | .foreign _ => .unknownObject
  | .stale _ => .destroyedObject
  | .destroyed _ => .destroyedObject
  | .unknown _ => .unknownObject
  | .wrongInterface _ _ => .wrongInterface
  | .preset => .presetNewId
  | .unknownInterface _ => .unknownInterface
  | .badVersion _ _ => .badVersion
  | .outOfRange _ => .idOutOfRange
  | .refused fault _ => fault.cause

def ArgumentFault.detail? : ArgumentFault → Option String
  | .foreign object => some (object.text ++ " belongs to another session")
  | .stale object => some object.text
  | .destroyed id => some (toString id.toNat)
  | .unknown id => some (toString id.toNat)
  | .wrongInterface object wanted =>
      some (object.text ++ " is " ++ object.interface.name ++ ", want " ++ wanted)
  | .preset => none
  | .unknownInterface name => some (quoteBytes name)
  | .badVersion name requested => some (name ++ " version " ++ toString requested.toNat)
  | .outOfRange id => some (toString id.toNat)
  | .refused _ id => some (toString id.toNat)

/-- Why an operation is refused. -/
inductive Reason where
  /-- No target, or no object at an id. -/
  | unknownObject
  | destroyedObject
  | unknownOpcode (opcode : UInt16)
  | versionUnavailable (since bound : UInt32)
  | argumentCount (expected given : Nat)
  | argumentKind (slot : String) (expected given : Kind)
  | argument (fault : ArgumentFault) (name : String)
  | exhausted
  | wire (error : Wire.Error)
  | bindVersion (interface : String) (requested : UInt32)
  | bindRefused (fault : TableFault) (interface : String) (id : ObjectId)
  | releaseRefused (fault : TableFault)
deriving DecidableEq, Repr

namespace Reason

def cause : Reason → Cause
  | .unknownObject => .unknownObject
  | .destroyedObject => .destroyedObject
  | .unknownOpcode _ => .unknownOpcode
  | .versionUnavailable _ _ => .versionUnavailable
  | .argumentCount _ _ => .wire .argumentCount
  | .argumentKind _ _ _ => .wire .argumentKind
  | .argument fault _ => fault.cause
  | .exhausted => .idExhausted
  | .wire error => .wire error.cause
  | .bindVersion _ _ => .badVersion
  | .bindRefused fault _ _ => fault.cause
  | .releaseRefused fault => fault.cause

def details : Reason → List String
  | .unknownObject => []
  | .destroyedObject => []
  | .unknownOpcode opcode => [toString opcode.toNat]
  | .versionUnavailable since bound =>
      ["since " ++ toString since.toNat ++ ", bound at " ++ toString bound.toNat]
  | .argumentCount expected given =>
      ["want " ++ toString expected ++ ", got " ++ toString given]
  | .argumentKind slot expected given =>
      [slot ++ " is " ++ expected.text ++ ", got " ++ given.text]
  | .argument fault name => fault.detail?.toList ++ [name]
  | .exhausted => []
  | .wire error => error.detail?.toList
  | .bindVersion interface requested =>
      [interface ++ " version " ++ toString requested.toNat]
  | .bindRefused _ interface id => ["bind " ++ interface ++ " at " ++ toString id.toNat]
  | .releaseRefused _ => []

def text
    (reason : Reason) :
    String :=
  String.intercalate ": " (reason.cause.text :: reason.details)

end Reason

/-- An error of a session and the place it arose at; object 0 stands for none. -/
structure Error where
  blame : Blame
  object : ObjectId := 0
  interface : String := ""
  message : String := ""
  reason : Reason
deriving DecidableEq, Repr

def Error.text
    (error : Error) :
    String :=
  let id := toString error.object.toNat
  let object :=
    if error.interface.isEmpty then "object " ++ id else error.interface ++ "@" ++ id
  let place := if error.message.isEmpty then object else object ++ "." ++ error.message
  "session " ++ error.blame.text ++ " on " ++ place ++ ": " ++ error.reason.text

/-- The error at an object, under the message with the given signature. -/
def Error.atObject
    (blame : Blame)
    (object : Object)
    (signature : Option Signature)
    (reason : Reason) :
    Error :=
  { blame
    object := object.id
    interface := object.interface.name
    message := (signature.map (·.name)).getD ""
    reason }

/-- Why an operation fails. -/
inductive Failure where
  | refused (error : Error)
  /-- The transport refused the message of an object. -/
  | write (object : Object) (message text : String)
  /-- The handler of an object refused a message. -/
  | handler (object : Object) (message text : String)
deriving DecidableEq, Repr

def Failure.text : Failure → String
  | .refused error => error.text
  | .write object message text =>
      "session: write " ++ object.text ++ "." ++ message ++ ": " ++ text
  | .handler object message text =>
      "session: handle " ++ object.text ++ "." ++ message ++ ": " ++ text

end Wayland.Session
