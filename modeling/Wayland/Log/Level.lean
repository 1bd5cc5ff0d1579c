import Wayland.Json.Value
import Wayland.Text.Blank
import Wayland.Text.Case

/-!
Contract: leveled log entries.

Owns: the levels with their order and words, and which entries a logger keeps.

Does not own: what is logged, and when.
-/

namespace Wayland.Log

/-- The importance of an entry, or, as a bound, that nothing is important enough. -/
inductive Level where
  | trace
  | debug
  | info
  | warn
  | error
  | disabled
deriving DecidableEq, Repr

namespace Level

def text : Level → String
  | .trace => "trace"
  | .debug => "debug"
  | .info => "info"
  | .warn => "warn"
  | .error => "error"
  | .disabled => "disabled"

/-- The position of a level, the least important first. -/
def rank : Level → Nat
  | .trace => 0
  | .debug => 1
  | .info => 2
  | .warn => 3
  | .error => 4
  | .disabled => 5

/-- The level that a text asks for, in either case of letters; anything unknown asks for
information. -/
def ofText
    (text : String) :
    Level :=
  match Text.lowerText (Text.trim text) with
  | "trace" => .trace
  | "debug" => .debug
  | "warn" => .warn
  | "warning" => .warn
  | "error" => .error
  | "disabled" => .disabled
  | "off" => .disabled
  | "none" => .disabled
  | _ => .info

end Level

structure Entry where
  level : Level
  fields : List (String × Json.Value)
  message : String
deriving Repr

def Entry.json
    (entry : Entry) :
    Json.Value :=
  .object
    (("level", .text entry.level.text) :: entry.fields ++ [("message", .text entry.message)])

/-- A logger: the least important level it keeps, and the fields it adds to every entry. -/
structure Logger where
  level : Level
  fields : List (String × Json.Value) := []
deriving Repr

namespace Logger

def program
    (level : Level) :
    Logger :=
  ⟨level, [("app", .text "wlscanner")]⟩

def component
    (logger : Logger)
    (name : String) :
    Logger :=
  { logger with fields := logger.fields ++ [("component", .text name)] }

/-- The entry for an event, if its level is important enough. -/
def log?
    (logger : Logger)
    (level : Level)
    (fields : List (String × Json.Value))
    (message : String) :
    Option Entry :=
  if logger.level.rank ≤ level.rank then some ⟨level, logger.fields ++ fields, message⟩ else none

end Logger

end Wayland.Log
