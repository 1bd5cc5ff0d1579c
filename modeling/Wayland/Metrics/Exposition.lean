import Wayland.Metrics.Registry
import Wayland.Text.Shortest

/-!
Contract: the text in which metrics are published.

Owns: the lines of every family and sample, their order, and the texts of numbers and labels.

Does not own: what is measured.
-/

namespace Wayland.Metrics

/-- The text of a number; large ones have a power of ten. -/
def numberText
    (value : Amount) :
    String :=
  Text.Shortest.generalText value.toDecimal

def escapeLabel : Char → List Char
  | '\\' => ['\\', '\\']
  | '\n' => ['\\', 'n']
  | '"' => ['\\', '"']
  | char => [char]

def escapeHelp : Char → List Char
  | '\\' => ['\\', '\\']
  | '\n' => ['\\', 'n']
  | char => [char]

def numberLine
    (name : String)
    (labels : List (String × String))
    (value : Amount) :
    String :=
  let shown := labels.map fun (label, value) =>
    label ++ "=\"" ++ String.ofList (value.toList.flatMap escapeLabel) ++ "\""
  let labelText :=
    if shown.isEmpty then "" else "\x7b" ++ String.intercalate "," shown ++ "\x7d"
  name ++ labelText ++ " " ++ numberText value ++ "\n"

def sampleLines
    (description : Description)
    (labels : List (String × String)) :
    Sample → List String
  | .growing whole others =>
      [numberLine description.name labels (others.plus (.ofInt whole))]
  | .number value => [numberLine description.name labels value]
  | .distribution count sum counts =>
      let bucket (bound : String) (below : Nat) : String :=
        numberLine (description.name ++ "_bucket") (labels ++ [("le", bound)]) (.ofInt below)
      (description.kind.bounds.zip counts).map
          (fun (bound, below) => bucket (numberText (.ofInt bound)) below)
        ++ [bucket "+Inf" count,
          numberLine (description.name ++ "_sum") labels sum,
          numberLine (description.name ++ "_count") labels (.ofInt count)]

def Kind.word : Kind → String
  | .counter => "counter"
  | .gauge => "gauge"
  | .histogram _ => "histogram"

/-- Whether a list of texts comes no later than another. -/
def textsLe : List String → List String → Bool
  | [], _ => true
  | _ :: _, [] => false
  | left :: lefts, right :: rights =>
      if left = right then textsLe lefts rights else decide (left < right)

/-- The text of a family; one without samples is left out. -/
def Family.exposition
    (family : Family) :
    String :=
  let description := family.description
  if family.samples.isEmpty then ""
  else
    let labelled := family.samples.map fun (values, sample) =>
      (labelPairs description values, sample)
    let sorted := labelled.mergeSort fun left right =>
      textsLe (left.1.map (·.2)) (right.1.map (·.2))
    "# HELP " ++ description.name ++ " "
      ++ String.ofList (description.help.toList.flatMap escapeHelp) ++ "\n"
      ++ "# TYPE " ++ description.name ++ " " ++ description.kind.word ++ "\n"
      ++ String.join (sorted.flatMap fun (labels, sample) => sampleLines description labels sample)

/-- The text of all families, by name. -/
def Registry.exposition
    (registry : Registry) :
    String :=
  let sorted := registry.families.mergeSort fun left right =>
    decide (left.description.name ≤ right.description.name)
  String.join (sorted.map Family.exposition)

end Wayland.Metrics
