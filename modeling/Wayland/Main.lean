import Wayland.Command.Run

/-!
Contract: the program.

Owns: the disk of the machine, its environment, and the streams and the exit status of a run.

Does not own: anything that is decided.
-/

namespace Wayland.Main

open Wayland.File (Contents Disk Fault Reason Step)

def reasonOf : IO.Error → Reason
  | .noFileOrDirectory _ _ _ => .missing
  | .inappropriateType _ _ _ => .notDirectory
  | .alreadyExists _ _ _ => .alreadyThere
  | .invalidArgument _ _ _ => .badName
  | .permissionDenied _ _ _ => .other "permission denied"
  | error => .other (toString error)

def attempt
    {α : Type}
    (step : Step)
    (path : String)
    (operation : IO α) :
    IO (Except Fault α) := do
  try
    return .ok (← operation)
  catch error => return .error ⟨step, path, reasonOf error⟩

def disk : Disk IO where
  read path := do
    let read ← attempt .opening path (IO.FS.readBinFile path)
    return read.map (·.toList)
  makeDirectories path := attempt .makingDirectory path (IO.FS.createDirAll path)
  write path content := attempt .opening path (IO.FS.writeBinFile path ⟨content.toArray⟩)

/-- The file in which the machine shows the environment of the program. -/
def environmentFile : String := "/proc/self/environ"

/-- The variables of an environment, which end with null characters. -/
def variablesOf
    (text : String) :
    List (String × String) :=
  (Text.splitText '\x00' text).filterMap fun entry =>
    match Command.cutAtEquals entry.toList with
    | (name, some value) => some (String.ofList name, String.ofList value)
    | _ => none

/-- The environment of the program; empty if the machine does not show it. -/
def environment : IO (List (String × String)) := do
  match ← disk.read environmentFile with
  | .ok bytes => return variablesOf (Text.Bytes.toText bytes)
  | .error _ => return []

end Wayland.Main

def main
    (arguments : List String) :
    IO UInt32 := do
  let environment ← Wayland.Main.environment
  let lookup (name : String) := environment.lookup name
  let outcome ← Wayland.Command.run Wayland.Main.disk lookup {} arguments
  IO.print outcome.output
  if outcome.failures.isEmpty then return 0
  IO.eprintln ("Error: " ++ outcome.report)
  return 1
