/-!
Contract: positions and tokens of a YAML text, and the reports on texts that cannot be read.

Owns:
- marks, faults with the two marks they name, and the rule that picks the reported line;
- token kinds and scalar styles.

Does not own: how tokens are found in a text, and when a fault arises.
-/

namespace Wayland.Yaml

/-! ## Positions -/

/-- A position: characters, line breaks, and characters since the last break before it. -/
structure Mark where
  index : Nat := 0
  line : Nat := 0
  column : Nat := 0
deriving DecidableEq, Repr, Inhabited

/-- What notices a fault. -/
inductive Stage where
  /-- Reading characters and values, which know no position. -/
  | unplaced
  /-- Reading tokens. -/
  | token
  /-- Reading the structure that tokens form. -/
  | composition
deriving DecidableEq, Repr

/-- Why a text cannot be read.  `context` is where the construct started that could not be
finished, `problem` is where that was noticed. -/
structure Fault where
  stage : Stage
  context : Mark := {}
  problem : Mark := {}
  text : String
deriving DecidableEq, Repr

namespace Fault

/-- A fault without a position. -/
def plain
    (text : String) :
    Fault :=
  { stage := .unplaced, text }

/-- The number of the reported line, 0 for none.  The context counts unless it is on the first
line; faults of composition count lines from zero. -/
def line
    (fault : Fault) :
    Nat :=
  let noticed := if fault.context.line ≠ 0 then fault.context.line else fault.problem.line
  if noticed = 0 then 0
  else if fault.stage = .token then noticed + 1
  else noticed

def message
    (fault : Fault) :
    String :=
  if fault.line = 0 then "yaml: " ++ fault.text
  else "yaml: line " ++ toString fault.line ++ ": " ++ fault.text

end Fault

/-! ## Tokens -/

/-- How a scalar is written. -/
inductive Style where
  | plain
  | singleQuoted
  | doubleQuoted
  | literal
  | folded
deriving DecidableEq, Repr

/-- What a token says. -/
inductive TokenKind where
  | streamStart
  | streamEnd
  | versionDirective (major minor : Nat)
  | tagDirective (handle expansion : String)
  | documentStart
  | documentEnd
  | blockSequenceStart
  | blockMappingStart
  | blockEnd
  | flowSequenceStart
  | flowSequenceEnd
  | flowMappingStart
  | flowMappingEnd
  | blockEntry
  | flowEntry
  | key
  | value
  | alias (name : String)
  | anchor (name : String)
  | tag (handle suffix : String)
  | scalar (value : String) (style : Style)
deriving DecidableEq, Repr, Inhabited

/-- A token with the positions of its start and its end. -/
structure Token where
  kind : TokenKind
  start : Mark
  stop : Mark
deriving DecidableEq, Repr, Inhabited

end Wayland.Yaml
