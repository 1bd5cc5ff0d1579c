import Wayland.Text.Quoted

/-!
Contract: the reports on code that cannot be generated.

Owns: the problems and their texts with the place they arose at.

Does not own: when a problem arises.
-/

namespace Wayland.Binding

open Wayland.Text (quote)

/-- Why code is not generated. -/
inductive Problem where
  | noImportPath
  | unknownRole (text : String)
  /-- One name would be declared for two things. -/
  | nameCollision (name first second : String)
  /-- Some name or path cannot be written in Go. -/
  | invalidCode
  | emptyProtocol (name : String)
  /-- Two protocols would share a package. -/
  | outputConflict (first second package : String)
  | cancelled
deriving DecidableEq, Repr

def Problem.text : Problem → String
  | .noImportPath => "generator: import path is required"
  | .unknownRole text => "generator: unknown role: " ++ quote text
  | .nameCollision name first second =>
      "generator: generated name collision: " ++ name ++ " is generated for both " ++ first
        ++ " and " ++ second
  | .invalidCode => "generator: generated code does not format"
  | .emptyProtocol name => "generator: protocol has no interfaces: " ++ name
  | .outputConflict first second package =>
      "generator: output path already taken: " ++ first ++ " and " ++ second
        ++ " both map to package " ++ package
  | .cancelled => "context canceled"

/-- A problem and the place it arose at, from the outside in. -/
structure Error where
  place : List String := []
  problem : Problem
deriving DecidableEq, Repr

def Error.message
    (error : Error) :
    String :=
  String.intercalate ": " (error.place ++ [error.problem.text])

end Wayland.Binding
