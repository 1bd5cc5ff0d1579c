import Wayland.Settings.Basic
import Wayland.Text.Duration
import Wayland.Text.Literal
import Wayland.Yaml.Tree

/-!
Contract: settings from values of any shape.

Owns:
- which values a text, a number, a flag, a duration or a list of texts accepts;
- the reports on values that are not accepted;
- the values that settings themselves stand for.

Does not own: where values come from.
-/

namespace Wayland.Settings

open Wayland.Yaml (Tree)

/-- A value together with the reports on what could not be accepted. -/
structure Read (α : Type) where
  value : α
  reports : List String := []
deriving Repr

/-- How a value is taken over: given its name and the value. -/
abbrev Accept (α : Type) := String → Tree → Read α

def unconvertible
    (name wanted : String)
    (tree : Tree) :
    String :=
  "'" ++ name ++ "' expected type '" ++ wanted ++ "', got unconvertible type '" ++ tree.typeName
    ++ "', value: '" ++ tree.shown ++ "'"

/-- Accepts a text; numbers are written out, and flags become digits. -/
def text : Accept String := fun name tree =>
  match tree with
  | .null => ⟨"", []⟩
  | .text value => ⟨value, []⟩
  | .bool value => ⟨if value then "1" else "0", []⟩
  | .int value => ⟨toString value, []⟩
  | .real value => ⟨value.plainText, []⟩
  | tree => ⟨"", [unconvertible name "string" tree]⟩

/-- A whole number in 64 bits with sign, by wrapping around. -/
def wrap64
    (value : Int) :
    Int :=
  Int.bmod value (Nat.pow 2 64)

/-- One more than the greatest whole number of 64 bits with sign. -/
def bound64 : Int := Nat.pow 2 63

/-- A floating point value cut to a whole number of 64 bits; those that do not fit become the least
number. -/
def truncate : Yaml.Real → Int
  | .finite value =>
      let (significand, place) := value.toBinary
      let magnitude : Nat :=
        if 0 ≤ place then significand * Nat.pow 2 place.toNat
        else significand / Nat.pow 2 (-place).toNat
      let signed : Int := if value.negative then -(magnitude : Int) else magnitude
      if -bound64 ≤ signed ∧ signed < bound64 then signed else -bound64
  | _ => -bound64

/-- Accepts a number under a type name; texts are read, and flags count as 0 and 1. -/
def numberAs
    (typeName : String) :
    Accept Int := fun name tree =>
  match tree with
  | .null => ⟨0, []⟩
  | .int value => ⟨wrap64 value, []⟩
  | .real value => ⟨truncate value, []⟩
  | .bool value => ⟨if value then 1 else 0, []⟩
  | .text value =>
      match Text.readInteger (if value.isEmpty then "0" else value) with
      | .ok number => ⟨number, []⟩
      | .error fault => ⟨0, ["cannot parse '" ++ name ++ "' as int: " ++ fault.message value]⟩
  | tree => ⟨0, [unconvertible name typeName tree]⟩

def number : Accept Int := numberAs "int"

/-- Accepts a duration: a text with units, or a number of nanoseconds. -/
def duration : Accept Int := fun name tree =>
  match tree with
  | .text value =>
      match Text.Duration.ofText value with
      | .ok length => ⟨length, []⟩
      | .error fault => ⟨0, ["error decoding '" ++ name ++ "': " ++ fault.message value]⟩
  | tree => numberAs "time.Duration" name tree

def isZero : Yaml.Real → Bool
  | .finite value => value.toBinary.1 == 0
  | _ => false

/-- Accepts a flag; numbers other than zero count as set. -/
def flag : Accept Bool := fun name tree =>
  match tree with
  | .null => ⟨false, []⟩
  | .bool value => ⟨value, []⟩
  | .int value => ⟨value != 0, []⟩
  | .real value => ⟨!isZero value, []⟩
  | .text value =>
      match Text.flagWord? value with
      | some found => ⟨found, []⟩
      | none =>
          if value.isEmpty then ⟨false, []⟩
          else
            ⟨false, ["cannot parse '" ++ name ++ "' as bool: " ++ Text.flagReport value]⟩
  | tree =>
      ⟨false,
        ["'" ++ name ++ "' expected type '%!s(bool=false)', got unconvertible type '"
          ++ tree.literal ++ "', value: '" ++ tree.literal ++ "'"]⟩

def textsFrom
    (name : String)
    (position : Nat) :
    List Tree → Read (List String)
  | [] => ⟨[], []⟩
  | item :: rest =>
      let first := text (name ++ "[" ++ toString position ++ "]") item
      let others := textsFrom name (position + 1) rest
      ⟨first.value :: others.value, first.reports ++ others.reports⟩

/-- Accepts a list of texts; a single text is split at its commas, and any other single value
counts as a list of one. -/
def texts : Accept (List String) := fun name tree =>
  match tree with
  | .null => ⟨[], []⟩
  | .list items => textsFrom name 0 items
  | .text value =>
      if value.isEmpty then ⟨[], []⟩
      else ⟨(Text.splitChars ',' value.toList).map String.ofList, []⟩
  | .mapping [] => ⟨[], []⟩
  | tree => textsFrom name 0 [tree]

/-! ## Sections -/

/-- The value of a key in a section, taken over by `accept`; a missing key gives `absent`. -/
def entry
    {α : Type}
    (section? : String)
    (entries : List (String × Tree))
    (key : String)
    (absent : α)
    (accept : Accept α) :
    Read α :=
  match entries.lookup key with
  | none => ⟨absent, []⟩
  | some .null => ⟨absent, []⟩
  | some tree => accept (if section?.isEmpty then key else section? ++ "." ++ key) tree

/-- Accepts a section, which must be a mapping; a date counts as one without keys. -/
def sectionOf
    {α : Type}
    (absent : α)
    (accept : List (String × Tree) → Read α) :
    Accept α := fun name tree =>
  match tree with
  | .mapping entries => accept entries
  | .date _ => accept []
  | tree => ⟨absent, ["'" ++ name ++ "' expected a map, got '" ++ tree.kindName ++ "'"]⟩

def blank : Settings where
  log := ⟨"", false⟩
  catalog := ⟨"", [], 0⟩
  generate := ⟨"", "", "", []⟩
  service := ⟨"", 0, 0, 0, 0, 0, 0, false, false⟩
  metrics := ⟨false, ""⟩

def logSection : Accept Log := fun name =>
  sectionOf blank.log
    (fun entries =>
      let level := entry name entries "level" "" text
      let pretty := entry name entries "pretty" false flag
      ⟨⟨level.value, pretty.value⟩, level.reports ++ pretty.reports⟩)
    name

def catalogSection : Accept Catalog := fun name =>
  sectionOf blank.catalog
    (fun entries =>
      let manifest := entry name entries "manifest" "" text
      let collections := entry name entries "collections" [] texts
      let concurrency := entry name entries "concurrency" 0 number
      ⟨⟨manifest.value, collections.value, concurrency.value⟩,
        manifest.reports ++ collections.reports ++ concurrency.reports⟩)
    name

def generateSection : Accept Generate := fun name =>
  sectionOf blank.generate
    (fun entries =>
      let output := entry name entries "output" "" text
      let importPath := entry name entries "import_path" "" text
      let runtimePath := entry name entries "runtime_path" "" text
      let roles := entry name entries "roles" [] texts
      ⟨⟨output.value, importPath.value, runtimePath.value, roles.value⟩,
        output.reports ++ importPath.reports ++ runtimePath.reports ++ roles.reports⟩)
    name

def serviceSection : Accept Service := fun name =>
  sectionOf blank.service
    (fun entries =>
      let address := entry name entries "listen_addr" "" text
      let header := entry name entries "read_header_timeout" 0 duration
      let read := entry name entries "read_timeout" 0 duration
      let write := entry name entries "write_timeout" 0 duration
      let idle := entry name entries "idle_timeout" 0 duration
      let shutdown := entry name entries "shutdown_timeout" 0 duration
      let bytes := entry name entries "max_header_bytes" 0 number
      let crossOrigin := entry name entries "cors" false flag
      let compress := entry name entries "compress" false flag
      ⟨⟨address.value, header.value, read.value, write.value, idle.value, shutdown.value,
          bytes.value, crossOrigin.value, compress.value⟩,
        address.reports ++ header.reports ++ read.reports ++ write.reports ++ idle.reports
          ++ shutdown.reports ++ bytes.reports ++ crossOrigin.reports ++ compress.reports⟩)
    name

def metricsSection : Accept Metrics := fun name =>
  sectionOf blank.metrics
    (fun entries =>
      let enabled := entry name entries "enabled" false flag
      let textfile := entry name entries "textfile" "" text
      ⟨⟨enabled.value, textfile.value⟩, enabled.reports ++ textfile.reports⟩)
    name

def ofEntries
    (entries : List (String × Tree)) :
    Read Settings :=
  let log := entry "" entries "log" blank.log logSection
  let catalog := entry "" entries "catalog" blank.catalog catalogSection
  let generate := entry "" entries "generate" blank.generate generateSection
  let service := entry "" entries "api" blank.service serviceSection
  let metrics := entry "" entries "metrics" blank.metrics metricsSection
  ⟨⟨log.value, catalog.value, generate.value, service.value, metrics.value⟩,
    log.reports ++ catalog.reports ++ generate.reports ++ service.reports ++ metrics.reports⟩

/-- The values that settings stand for, by section. -/
def entries
    (settings : Settings) :
    List (String × Tree) :=
  [("log", .mapping
      [("level", .text settings.log.level),
        ("pretty", .bool settings.log.pretty)]),
    ("catalog", .mapping
      [("manifest", .text settings.catalog.manifest),
        ("collections", .list (settings.catalog.collections.map .text)),
        ("concurrency", .int settings.catalog.concurrency)]),
    ("generate", .mapping
      [("output", .text settings.generate.output),
        ("import_path", .text settings.generate.importPath),
        ("runtime_path", .text settings.generate.runtimePath),
        ("roles", .list (settings.generate.roles.map .text))]),
    ("api", .mapping
      [("listen_addr", .text settings.service.listenAddress),
        ("read_header_timeout", .int settings.service.readHeaderTimeout),
        ("read_timeout", .int settings.service.readTimeout),
        ("write_timeout", .int settings.service.writeTimeout),
        ("idle_timeout", .int settings.service.idleTimeout),
        ("shutdown_timeout", .int settings.service.shutdownTimeout),
        ("max_header_bytes", .int settings.service.maxHeaderBytes),
        ("cors", .bool settings.service.crossOrigin),
        ("compress", .bool settings.service.compress)]),
    ("metrics", .mapping
      [("enabled", .bool settings.metrics.enabled),
        ("textfile", .text settings.metrics.textfile)])]

end Wayland.Settings
