import Wayland.Binding.Output
import Wayland.Text.Blank

/-!
Contract: the settings of the program.

Owns: the settings by section, their standard values, and which settings are usable.

Does not own: where settings come from.
-/

namespace Wayland

/-- What is logged, and how. -/
structure Settings.Log where
  level : String := "info"
  pretty : Bool := false
deriving DecidableEq, Repr

/-- Which collections are compiled. -/
structure Settings.Catalog where
  manifest : String := "protocols/catalog.yaml"
  collections : List String := []
  /-- How many collections are compiled at once; 0 leaves the choice to the machine. -/
  concurrency : Int := 0
deriving DecidableEq, Repr

structure Settings.Generate where
  output : String := "gen"
  importPath : String := "github.com/compose-network/wlscanner/gen"
  runtimePath : String := Binding.standardRuntime
  roles : List String := ["client", "server"]
deriving DecidableEq, Repr

/-- How the catalog is served.  Times are in nanoseconds. -/
structure Settings.Service where
  listenAddress : String := ":8090"
  readHeaderTimeout : Int := 5000000000
  readTimeout : Int := 15000000000
  writeTimeout : Int := 30000000000
  idleTimeout : Int := 120000000000
  shutdownTimeout : Int := 10000000000
  maxHeaderBytes : Int := 1048576
  crossOrigin : Bool := false
  compress : Bool := true
deriving DecidableEq, Repr

/-- Whether and where metrics are kept. -/
structure Settings.Metrics where
  enabled : Bool := true
  textfile : String := ""
deriving DecidableEq, Repr

/-- All settings.  The standard values are those that apply where nothing else is said. -/
structure Settings where
  log : Settings.Log := {}
  catalog : Settings.Catalog := {}
  generate : Settings.Generate := {}
  service : Settings.Service := {}
  metrics : Settings.Metrics := {}
deriving DecidableEq, Repr

namespace Settings

/-- Why settings are not usable. -/
inductive Problem where
  | negativeConcurrency (value : Int)
  | noOutput
  | unknownRole (error : Binding.Error)
  | generator (error : Binding.Error)
  | noListenAddress
  | noShutdownTime
  | negativeHeaderBytes
deriving DecidableEq, Repr

def Problem.text : Problem → String
  | .negativeConcurrency value =>
      "catalog.concurrency must not be negative, got " ++ toString value
  | .noOutput => "generate.output must not be empty"
  | .unknownRole error => "generate.roles: " ++ error.message
  | .generator error => "generate: " ++ error.message
  | .noListenAddress => "api: listen address is required"
  | .noShutdownTime => "api: shutdown timeout must be positive"
  | .negativeHeaderBytes => "api: max header bytes must not be negative"

/-- The problem of the code generator behind a problem, if there is one. -/
def Problem.bindingProblem? : Problem → Option Binding.Problem
  | .unknownRole error => some error.problem
  | .generator error => some error.problem
  | _ => none

/-- The roles with the given names, which become the plain names of the sides. -/
def rolesNamed : List String → Except Problem (List Binding.Role)
  | [] => .ok []
  | name :: rest =>
      match Binding.sideNamed? name with
      | none => .error (.unknownRole { problem := .unknownRole name })
      | some side => (rolesNamed rest).map (⟨side.text⟩ :: ·)

def Generate.config
    (generate : Generate) :
    Except Problem Binding.Config :=
  match rolesNamed generate.roles with
  | .error problem => .error problem
  | .ok roles =>
      let config : Binding.Config :=
        ⟨Text.trim generate.importPath, Text.trim generate.runtimePath, roles⟩
      match config.generator with
      | .error error => .error (.generator error)
      | .ok _ => .ok config

def problem?
    (settings : Settings) :
    Option Problem :=
  if settings.catalog.concurrency < 0 then
    some (.negativeConcurrency settings.catalog.concurrency)
  else if (Text.trim settings.generate.output).isEmpty then some .noOutput
  else
    match settings.generate.config with
    | .error problem => some problem
    | .ok _ =>
        if settings.service.listenAddress.isEmpty then some .noListenAddress
        else if settings.service.shutdownTimeout ≤ 0 then some .noShutdownTime
        else if settings.service.maxHeaderBytes < 0 then some .negativeHeaderBytes
        else none

end Settings

end Wayland
