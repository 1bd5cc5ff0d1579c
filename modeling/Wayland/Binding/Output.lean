import Wayland.Binding.RoleFile

/-!
Contract: Go packages for protocols.

Owns:
- the configuration and its checks;
- the files of one protocol and of several;
- which problem is reported first.

Does not own: where files are stored.
-/

namespace Wayland.Binding

open Wayland.Model (Protocol)

/-- The runtime that generated code uses unless another one is configured. -/
def standardRuntime : String := "github.com/compose-network/wlscanner/x"

/-- What to generate. -/
structure Config where
  importPath : String
  runtimePath : String := ""
  roles : List Role := []
deriving DecidableEq, Repr

/-- A generator: a configuration that was checked and completed. -/
structure Generator where
  importPath : String
  runtimePath : String
  roles : List Role
deriving DecidableEq, Repr

/-- A generated file.  Its path is relative to the output directory. -/
structure File where
  path : String
  content : String
deriving DecidableEq, Repr

/-- The files of a protocol. -/
structure Output where
  protocol : String
  package : String
  files : List File
deriving DecidableEq, Repr

/-- What a generator tells about itself. -/
structure Metadata where
  name : String
  version : String
  description : String
  extensions : List String
deriving DecidableEq, Repr

def metadata : Metadata :=
  ⟨"go", "0.3.0", "Typed client and server packages over the session runtime", [".go"]⟩

/-- Completes and checks a configuration: without roles both are meant. -/
def Config.generator
    (config : Config) :
    Except Error Generator :=
  let roles := if config.roles.isEmpty then [⟨"client"⟩, ⟨"server"⟩] else config.roles
  let runtime := if config.runtimePath.isEmpty then standardRuntime else config.runtimePath
  if (Text.trim config.importPath).isEmpty then .error { problem := .noImportPath }
  else
    match roles.find? fun role => (sideNamed? role.label).isNone with
    | some role => .error { problem := .unknownRole role.label }
    | none => .ok ⟨config.importPath, runtime, roles⟩

namespace Generator

/-- The import path of a package: one slash at the end of the configured path is dropped. -/
def packagePath
    (generator : Generator)
    (package : String) :
    String :=
  let base :=
    match generator.importPath.toList.reverse with
    | '/' :: rest => String.ofList rest.reverse
    | _ => generator.importPath
  base ++ "/" ++ package

def roleFile
    (generator : Generator)
    (plan : ProtocolPlan)
    (role : Role) :
    Except Error File :=
  let rolePlan := planRole plan role
  let place := plan.name ++ " " ++ role.label
  match rolePlan.clash? with
  | some error => .error ⟨place :: error.place, error.problem⟩
  | none =>
      match roleText? generator.runtimePath (generator.packagePath plan.package) rolePlan with
      | none => .error ⟨[place], .invalidCode⟩
      | some text =>
          .ok ⟨plan.package ++ "/" ++ role.label ++ "/" ++ role.label ++ ".go", text⟩

/-- The files of the roles, in order. -/
def roleFiles
    (generator : Generator)
    (plan : ProtocolPlan) :
    List Role → Except Error (List File)
  | [] => .ok []
  | role :: rest =>
      match generator.roleFile plan role with
      | .error error => .error error
      | .ok file => (generator.roleFiles plan rest).map (file :: ·)

/-- The files of a protocol: the shared file, then one for each role. -/
def generate
    (generator : Generator)
    (protocol : Protocol) :
    Except Error Output :=
  if protocol.interfaces.isEmpty then .error { problem := .emptyProtocol protocol.name }
  else
    let plan := planProtocol protocol
    match clash? plan.declarations with
    | some problem => .error ⟨[protocol.name], problem⟩
    | none =>
        match sharedText? generator.runtimePath plan with
        | none => .error ⟨[protocol.name], .invalidCode⟩
        | some text =>
            match generator.roleFiles plan generator.roles with
            | .error error => .error error
            | .ok files =>
                .ok
                  { protocol := protocol.name
                    package := generator.packagePath plan.package
                    files := ⟨plan.package ++ "/protocol.go", text⟩ :: files }

/-- The outputs of protocols after those whose packages are `taken`. -/
def generateAfter
    (generator : Generator)
    (taken : List (String × String)) :
    List Protocol → Except Error (List Output)
  | [] => .ok []
  | protocol :: rest =>
      let package := packageName protocol.name
      match taken.lookup package with
      | some first =>
          .error { problem := .outputConflict first protocol.name package }
      | none =>
          match generator.generate protocol with
          | .error error => .error error
          | .ok output =>
              (generator.generateAfter ((package, protocol.name) :: taken) rest).map (output :: ·)

/-- The outputs of protocols, in order.  A cancelled run generates nothing. -/
def generateAll
    (generator : Generator)
    (cancelled : Bool)
    (protocols : List Protocol) :
    Except Error (List Output) :=
  if cancelled && !protocols.isEmpty then .error { problem := .cancelled }
  else generator.generateAfter [] protocols

end Generator

end Wayland.Binding
