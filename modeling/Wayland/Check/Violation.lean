import Wayland.Model.Basic

/-!
Contract: violations of the consistency rules of protocols.

Owns: the rules with their names, the place of a violation, and the report texts.

Does not own: when a rule is violated.
-/

namespace Wayland.Check

/-- The consistency rules. -/
inductive Rule where
  | badName
  | duplicateInterface
  | duplicateMessage
  | duplicateArg
  | duplicateEnumeration
  | duplicateEntry
  | badVersion
  | sinceOutOfRange
  | sinceDecreasing
  | badDeprecatedSince
  | unresolvedEnumeration
  | enumerationArgType
  | bitfieldArgType
  | unresolvedInterface
  | interfaceArgType
  | nullableArgType
  | multipleDestructors
  | multipleNewIds
deriving DecidableEq, Repr

def Rule.name : Rule → String
  | .badName => "bad-name"
  | .duplicateInterface => "duplicate-interface"
  | .duplicateMessage => "duplicate-message"
  | .duplicateArg => "duplicate-arg"
  | .duplicateEnumeration => "duplicate-enum"
  | .duplicateEntry => "duplicate-entry"
  | .badVersion => "bad-version"
  | .sinceOutOfRange => "since-out-of-range"
  | .sinceDecreasing => "since-decreasing"
  | .badDeprecatedSince => "bad-deprecated-since"
  | .unresolvedEnumeration => "unresolved-enum"
  | .enumerationArgType => "enum-arg-type"
  | .bitfieldArgType => "bitfield-arg-type"
  | .unresolvedInterface => "unresolved-interface"
  | .interfaceArgType => "interface-arg-type"
  | .nullableArgType => "nullable-arg-type"
  | .multipleDestructors => "multiple-destructors"
  | .multipleNewIds => "multiple-new-ids"

/-- The place of a node by the names on the way to it; a part that does not apply is empty. -/
structure Place where
  protocol : String := ""
  interface : String := ""
  direction : String := ""
  message : String := ""
  arg : String := ""
  enumeration : String := ""
  entry : String := ""
deriving DecidableEq, Repr

structure Violation where
  place : Place
  rule : Rule
  detail : String
deriving DecidableEq, Repr

/-- One step of a printed path; steps without a name are left out. -/
def pathStep
    (kind name : String) :
    String :=
  if name.isEmpty then "" else "/" ++ kind ++ "[" ++ name ++ "]"

def Place.text
    (place : Place) :
    String :=
  place.protocol
    ++ pathStep "interface" place.interface
    ++ pathStep place.direction place.message
    ++ pathStep "arg" place.arg
    ++ pathStep "enum" place.enumeration
    ++ pathStep "entry" place.entry

def Violation.text
    (violation : Violation) :
    String :=
  violation.place.text ++ ": " ++ violation.rule.name ++ ": " ++ violation.detail

def report : List Violation → String
  | [violation] => "validation failed: " ++ violation.text
  | violations =>
      "validation failed with " ++ toString violations.length ++ " errors:"
        ++ String.join (violations.map fun violation => "\n\t" ++ violation.text)

/-- How often each rule is violated, in the order of first violation. -/
def ruleCounts
    (violations : List Violation) :
    List (Rule × Nat) :=
  let rules := violations.map (·.rule)
  rules.eraseDups.map fun rule => (rule, rules.count rule)

end Wayland.Check
