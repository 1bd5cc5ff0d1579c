import Wayland.Text.Bytes

/-!
Contract: what can go wrong with files, and the operations that commands need.

Owns: the reports on failed file operations, and the interface to a disk.

Does not own: what a disk holds.
-/

namespace Wayland.File

/-- A step that can fail. -/
inductive Step where
  | opening
  | reading
  | makingDirectory
deriving DecidableEq, Repr

def Step.word : Step → String
  | .opening => "open"
  | .reading => "read"
  | .makingDirectory => "mkdir"

/-- Why a step fails. -/
inductive Reason where
  | missing
  | notDirectory
  | isDirectory
  | alreadyThere
  | nameTooLong
  | badName
  | other (text : String)
deriving DecidableEq, Repr

def Reason.text : Reason → String
  | .missing => "no such file or directory"
  | .notDirectory => "not a directory"
  | .isDirectory => "is a directory"
  | .alreadyThere => "file exists"
  | .nameTooLong => "file name too long"
  | .badName => "invalid argument"
  | .other text => text

/-- A failed step at a path. -/
structure Fault where
  step : Step
  path : String
  reason : Reason
deriving DecidableEq, Repr

def Fault.message
    (fault : Fault) :
    String :=
  fault.step.word ++ " " ++ fault.path ++ ": " ++ fault.reason.text

abbrev Contents := Except Fault Text.Bytes

/-- The operations on a disk. -/
structure Disk (m : Type → Type) where
  read : String → m Contents
  /-- Makes a directory and all directories above it that are missing. -/
  makeDirectories : String → m (Except Fault Unit)
  /-- Writes a whole file, which is made if it is missing. -/
  write : String → Text.Bytes → m (Except Fault Unit)

end Wayland.File
