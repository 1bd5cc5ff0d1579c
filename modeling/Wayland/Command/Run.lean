import Wayland.Catalog.Metrics
import Wayland.Command.Help
import Wayland.Document.Dump
import Wayland.Metrics.Exposition
import Wayland.Settings.Address
import Wayland.Settings.Load

/-!
Contract: what the commands do.

Owns:
- how settings follow from files, the environment and flags;
- compiling the catalog, or the documents of a command line, with the metrics of the run;
- what every command prints, and the failures it ends with.

Does not own: the disk, and serving requests.
-/

namespace Wayland.Command

open Wayland.Binding (Generator)
open Wayland.Catalog (Manifest Result)
open Wayland.Metrics (Registry)

/-- Why a command fails. -/
inductive Failure where
  | usage (problem : UsageProblem)
  | settings (fault : Settings.LoadFault)
  | flags (problem : Settings.Problem)
  | unknownDumpFormat (format : String)
  | importsWithoutDocuments
  | catalog (failure : Catalog.Failure)
  | address (problem : Settings.AddressProblem)
deriving DecidableEq, Repr

def Failure.message : Failure → String
  | .usage problem => problem.message
  | .settings fault => "failed to load config: " ++ fault.message
  | .flags problem => problem.text
  | .unknownDumpFormat format => "unknown dump format: " ++ Text.quote format
  | .importsWithoutDocuments => "--import needs documents on the command line"
  | .catalog failure => failure.message
  | .address problem => problem.text

/-- What a command leaves: its output, and the failures it ends with. -/
structure Outcome where
  output : String := ""
  failures : List Failure := []
deriving DecidableEq, Repr

/-- The report on all failures of a command: one below the other. -/
def Outcome.report
    (outcome : Outcome) :
    String :=
  String.intercalate "\n" (outcome.failures.map Failure.message)

/-- What is known of the program itself. -/
structure Build where
  version : String := "dev"
  time : String := "unknown"
  commit : String := "unknown"
  toolchain : String := "unknown"
  platform : String := "linux/amd64"
deriving DecidableEq, Repr

def Build.text
    (build : Build) :
    String :=
  "wlscanner\n"
    ++ "Version:    " ++ build.version ++ "\n"
    ++ "Generator:  " ++ Binding.metadata.version ++ "\n"
    ++ "Build Time: " ++ build.time ++ "\n"
    ++ "Git Commit: " ++ build.commit ++ "\n"
    ++ "Go Version: " ++ build.toolchain ++ "\n"
    ++ "OS/Arch:    " ++ build.platform ++ "\n"

/-! ## Settings -/

def applyFlags
    (given : Given)
    (settings : Settings) :
    Settings where
  log :=
    { level := (given.text? "log-level").getD settings.log.level
      pretty := (given.switch? "log-pretty").getD settings.log.pretty }
  catalog :=
    { manifest := (given.text? "manifest").getD settings.catalog.manifest
      collections := (given.texts? "collection").getD settings.catalog.collections
      concurrency := (given.number? "concurrency").getD settings.catalog.concurrency }
  generate :=
    { output := (given.text? "output").getD settings.generate.output
      importPath := (given.text? "import-path").getD settings.generate.importPath
      runtimePath := (given.text? "runtime-path").getD settings.generate.runtimePath
      roles := (given.texts? "role").getD settings.generate.roles }
  service :=
    { settings.service with
      listenAddress := (given.text? "listen-addr").getD settings.service.listenAddress
      crossOrigin := (given.switch? "cors").getD settings.service.crossOrigin }
  metrics :=
    { settings.metrics with
      textfile := (given.text? "metrics-textfile").getD settings.metrics.textfile }

def settingsOf
    {m : Type → Type}
    [Monad m]
    (disk : File.Disk m)
    (environment : String → Option String)
    (given : Given) :
    m (Except Failure Settings) := do
  let path := (given.text? "config").getD ""
  let file? ← if path.isEmpty then pure none else do pure (some (path, ← disk.read path))
  match Settings.load environment file? with
  | .error fault => return .error (.settings fault)
  | .ok loaded =>
      let settings := applyFlags given loaded
      match settings.problem? with
      | some problem => return .error (.flags problem)
      | none => return .ok settings

/-! ## Compiling -/

def documentsManifest
    (documents imports : List String) :
    Manifest :=
  { imports, collections := [{ name := "documents", documents }] }

/-- The manifest of a run: that of the documents, or the one the settings name. -/
def chooseManifest
    {m : Type → Type}
    [Monad m]
    (disk : File.Disk m)
    (settings : Settings.Catalog)
    (documents imports : List String) :
    m (Except Failure Manifest) := do
  if !documents.isEmpty then return .ok (documentsManifest documents imports)
  else if !imports.isEmpty then return .error .importsWithoutDocuments
  else
    match Catalog.readManifest settings.manifest (← disk.read settings.manifest) with
    | .error failure => return .error (.catalog failure)
    | .ok manifest =>
        match manifest.select settings.collections with
        | .error problem => return .error (.catalog { problem := .manifest problem })
        | .ok selected => return .ok selected

/-- Writes the metrics to their file, if there is to be one; it is no failure if that cannot be
done. -/
def writeMetrics
    {m : Type → Type}
    [Monad m]
    (disk : File.Disk m)
    (settings : Settings.Metrics)
    (registry : Registry) :
    m Unit := do
  if settings.enabled && !settings.textfile.isEmpty then
    let _ ← disk.write settings.textfile (Text.Bytes.ofText registry.exposition)

/-- Compiles the documents, or the catalog of the settings, and adds to the metrics. -/
def compile
    {m : Type → Type}
    [Monad m]
    (disk : File.Disk m)
    (settings : Settings)
    (registry : Registry)
    (documents imports : List String)
    (generator? : Option Generator) :
    m (Registry × Except Failure Result) := do
  match ← chooseManifest disk settings.catalog documents imports with
  | .error failure => return (registry, .error failure)
  | .ok manifest =>
      let read ← Catalog.readAll disk manifest.documentPaths
      let run : Catalog.Run := { manifest, read, generator? }
      let (records, result) := run.compile
      let registry := Catalog.countRecords registry records
      writeMetrics disk settings.metrics registry
      match result with
      | .error failure => return (registry, .error (.catalog failure))
      | .ok result => return (registry, .ok result)

/-- A name filled up with blanks to the width of a column. -/
def column
    (name : String) :
    String :=
  padded 24 name

def summaryLine
    (outcome : Catalog.Outcome) :
    String :=
  column outcome.name ++
    match outcome.verdict with
    | .skipped reason => " skipped  " ++ reason ++ "\n"
    | .failed failure => " failed   " ++ failure.message ++ "\n"
    | .compiled _ =>
        " ok       " ++ String.intercalate ", " (outcome.protocols.map (·.name)) ++ "\n"

def summary
    (result : Result) :
    String :=
  String.join (result.outcomes.map summaryLine)

def collectionFailures
    (result : Result) :
    List Failure :=
  result.failures.map .catalog

/-- The outcome of a command that fails before it prints anything. -/
def failed
    (failure : Failure) :
    Outcome :=
  { failures := [failure] }

/-! ## Commands -/

def validate
    {m : Type → Type}
    [Monad m]
    (disk : File.Disk m)
    (settings : Settings)
    (documents imports : List String) :
    m Outcome := do
  match (← compile disk settings Catalog.initialMetrics documents imports none).2 with
  | .error failure => return failed failure
  | .ok result => return ⟨summary result, collectionFailures result⟩

/-- Compiles and generates; what could be compiled is written even if other collections fail. -/
def generate
    {m : Type → Type}
    [Monad m]
    (disk : File.Disk m)
    (settings : Settings)
    (documents imports : List String) :
    m Outcome := do
  match settings.generate.config with
  | .error problem => return failed (.flags problem)
  | .ok config =>
      match config.generator with
      | .error error =>
          return failed (.catalog ⟨["failed to create generator"], .binding error⟩)
      | .ok generator =>
          let (_, compiled) ←
            compile disk settings Catalog.initialMetrics documents imports (some generator)
          match compiled with
          | .error failure => return failed failure
          | .ok result =>
              let (written, failure?) ← result.write disk settings.generate.output
              let unwritten := failure?.map (·.within "failed to write generated code")
              return ⟨summary result
                  ++ String.join (written.map fun path => "wrote " ++ path ++ "\n"),
                collectionFailures result ++ (unwritten.map Failure.catalog).toList⟩

def dump
    {m : Type → Type}
    [Monad m]
    (disk : File.Disk m)
    (path format : String) :
    m Outcome := do
  let name := Text.lowerText (Text.trim format)
  match Document.DumpFormat.ofName? name with
  | none => return failed (.unknownDumpFormat name)
  | some form =>
      let read ← Catalog.readAll disk [path]
      match Catalog.readDocument read path with
      | .error failure => return failed (.catalog failure)
      | .ok protocol => return { output := Document.dump protocol form }

/-- Compiles the catalog that is to be served, and looks whether the service has an address to
listen at. -/
def serve
    {m : Type → Type}
    [Monad m]
    (disk : File.Disk m)
    (settings : Settings) :
    m Outcome := do
  match (← compile disk settings Catalog.initialMetrics [] [] none).2 with
  | .error failure => return failed failure
  | .ok _ =>
      match Settings.addressProblem? settings.service.listenAddress with
      | some problem => return failed (.address problem)
      | none => return {}

def invoke
    {m : Type → Type}
    [Monad m]
    (disk : File.Disk m)
    (environment : String → Option String)
    (build : Build)
    (invocation : Invocation) :
    m Outcome := do
  let given := invocation.given
  let imports := (given.texts? "import").getD []
  match invocation.command with
  | .version => return { output := build.text }
  | .help => return {}
  | .completion => return {}
  | command =>
      match ← settingsOf disk environment given with
      | .error failure => return failed failure
      | .ok settings =>
          match command with
          | .generate => generate disk settings invocation.arguments imports
          | .validate => validate disk settings invocation.arguments imports
          | .dump =>
              dump disk (invocation.arguments.headD "") ((given.text? "format").getD "yaml")
          | _ => serve disk settings

def run
    {m : Type → Type}
    [Monad m]
    (disk : File.Disk m)
    (environment : String → Option String)
    (build : Build)
    (arguments : List String) :
    m Outcome := do
  match parse arguments with
  | .error problem => return failed (.usage problem)
  | .ok (.explanation topic?) => return { output := explanation topic? }
  | .ok (.unknownTopic words) => return { output := unknownTopic words }
  | .ok (.run invocation) => invoke disk environment build invocation

end Wayland.Command
