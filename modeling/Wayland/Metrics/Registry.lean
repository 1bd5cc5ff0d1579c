import Wayland.Text.Decimal

/-!
Contract: counters, gauges and histograms with labels.

Owns:
- the binary64 numbers that metrics are kept in: amounts with their rounded sum, their order, and
  their integral part in 64 bits;
- which collectors can be registered beside each other;
- the effect of an addition or observation;
- the printed lines of all samples.

Does not own: what is counted.
-/

namespace Wayland.Metrics

open Wayland.Text (Decimal)

/-! ## Amounts -/

/-- A number `count * 2 ^ place`. -/
structure Amount where
  count : Int
  place : Int := 0
deriving DecidableEq, Repr

namespace Amount

def ofInt
    (value : Int) :
    Amount :=
  { count := value }

/-- The number nearest to a decimal. -/
def ofDecimal
    (number : Decimal) :
    Amount :=
  let (significand, place) := number.toBinary
  ⟨if number.negative then -significand else significand, place⟩

/-- How many units of `2 ^ place` a number is; `place` is no greater than its own. -/
def units
    (amount : Amount)
    (place : Int) :
    Int :=
  amount.count * Nat.pow 2 (amount.place - place).toNat

/-- Whether a number is no greater than another. -/
def isAtMost
    (left right : Amount) :
    Bool :=
  let place := min left.place right.place
  decide (left.units place ≤ right.units place)

def plus
    (left right : Amount) :
    Amount :=
  let place := min left.place right.place
  let exact := left.units place + right.units place
  let (significand, place) :=
    if 0 ≤ place then Decimal.nearestBinary (exact.natAbs * Nat.pow 2 place.toNat) 1
    else Decimal.nearestBinary exact.natAbs (Nat.pow 2 (-place).toNat)
  ⟨if exact < 0 then -significand else significand, place⟩

/-- The number without its fraction. -/
def integral
    (amount : Amount) :
    Int :=
  if 0 ≤ amount.place then amount.units 0
  else Int.tdiv amount.count (Nat.pow 2 (-amount.place).toNat)

/-- Whether a number has no fraction. -/
def isWhole
    (amount : Amount) :
    Bool :=
  let whole := ofInt amount.integral
  whole.isAtMost amount && amount.isAtMost whole

/-- The integral part as a signed 64-bit number; all that do not fit become the least one. -/
def truncated
    (amount : Amount) :
    Int :=
  let limit : Int := Nat.pow 2 63
  if -limit ≤ amount.integral ∧ amount.integral < limit then amount.integral else -limit

def toDecimal
    (amount : Amount) :
    Decimal :=
  let negative := decide (amount.count < 0)
  if 0 ≤ amount.place then ⟨negative, (amount.units 0).natAbs, 0⟩
  else ⟨negative, amount.count.natAbs * Nat.pow 5 (-amount.place).toNat, amount.place⟩

end Amount

/-! ## Collectors -/

/-- What a collector measures. -/
inductive Kind where
  | counter
  | gauge
  /-- A histogram with upper bounds, ascending. -/
  | histogram (bounds : List Nat)
deriving DecidableEq, Repr

/-- The description of a collector.  A vector has one sample for each combination of label values;
any other collector has one sample. -/
structure Description where
  name : String
  help : String
  kind : Kind
  isVector : Bool := false
  labels : List String := []
deriving DecidableEq, Repr

/-- A measured value. -/
inductive Sample where
  /-- A number that only grows: the whole numbers added to it in 64 bits, and the sum of the
  others. -/
  | growing (whole : Nat) (others : Amount)
  | number (value : Amount)
  /-- Count and sum of the observations, and for every bound how many do not exceed it. -/
  | distribution (count : Nat) (sum : Amount) (counts : List Nat)
deriving DecidableEq, Repr

/-- A registered collector with its samples by label values. -/
structure Family where
  description : Description
  samples : List (List String × Sample)
deriving DecidableEq, Repr

/-- The registered collectors. -/
structure Registry where
  families : List Family := []
deriving DecidableEq, Repr

/-- The full name of a collector: the parts that are not empty, joined by underscores. -/
def fullName
    (scope subsystem name : String) :
    String :=
  if name.isEmpty then ""
  else String.intercalate "_" ([scope, subsystem, name].filter (!·.isEmpty))

/-- Whether all elements are different. -/
def allDistinct : List String → Bool
  | [] => true
  | first :: rest => !rest.contains first && allDistinct rest

/-- Whether a label can have a name: reserved names start with two underscores. -/
def isLabelName
    (name : String) :
    Bool :=
  !name.isEmpty && !("__".toList.isPrefixOf name.toList)

def Description.isValid
    (description : Description) :
    Bool :=
  !description.name.isEmpty && description.labels.all isLabelName
    && allDistinct description.labels

/-- The sample before anything is measured. -/
def Kind.zero : Kind → Sample
  | .counter => .growing 0 (.ofInt 0)
  | .gauge => .number (.ofInt 0)
  | .histogram bounds => .distribution 0 (.ofInt 0) (bounds.map fun _ => 0)

def sortNames
    (names : List String) :
    List String :=
  names.mergeSort fun left right => decide (left ≤ right)

/-- Whether a registered collector can stand for a described one: it is of the same type, or a
single gauge where a single counter is wanted. -/
def Description.serves
    (registered wanted : Description) :
    Bool :=
  if registered.isVector || wanted.isVector then
    registered.isVector == wanted.isVector
      && match registered.kind, wanted.kind with
        | .counter, .counter => true
        | .gauge, .gauge => true
        | .histogram _, .histogram _ => true
        | _, _ => false
  else
    match registered.kind, wanted.kind with
    | .counter, .counter => true
    | .gauge, .gauge => true
    | .gauge, .counter => true
    | .histogram _, .histogram _ => true
    | _, _ => false

def Description.variableLabels
    (description : Description) :
    List String :=
  if description.isVector then description.labels else []

namespace Registry

def family?
    (registry : Registry)
    (name : String) :
    Option Family :=
  registry.families.find? (·.description.name == name)

/-- Registers a collector.  A collector that is already there is used again if help, labels and
type agree; otherwise the registration is refused. -/
def register
    (registry : Registry)
    (description : Description) :
    Option Registry :=
  if !description.isValid then none
  else
    match registry.family? description.name with
    | none =>
        let samples := if description.isVector then [] else [([], description.kind.zero)]
        some ⟨registry.families ++ [⟨description, samples⟩]⟩
    | some family =>
        let agrees := family.description.help == description.help
          && sortNames family.description.variableLabels == sortNames description.variableLabels
          && family.description.serves description
        if agrees then some registry else none

end Registry

/-- The effect of a measurement: numbers grow by the amount, histograms count it. -/
def Sample.measure
    (bounds : List Nat)
    (amount : Amount) :
    Sample → Sample
  | .growing whole others =>
      if amount.isWhole && decide (amount.integral.toNat < Nat.pow 2 64) then
        .growing ((whole + amount.integral.toNat) % Nat.pow 2 64) others
      else .growing whole (others.plus amount)
  | .number value => .number (value.plus amount)
  | .distribution count sum counts =>
      .distribution (count + 1) (sum.plus amount)
        ((counts.zip bounds).map fun (below, bound) =>
          if amount.isAtMost (.ofInt bound) then below + 1 else below)

def Kind.bounds : Kind → List Nat
  | .histogram bounds => bounds
  | _ => []

/-- Changes the sample with the given label values; one that is missing starts at zero. -/
def Family.update
    (family : Family)
    (values : List String)
    (change : Sample → Sample) :
    Family :=
  let samples :=
    if family.samples.any (·.1 == values) then
      family.samples.map fun (found, sample) =>
        if found == values then (found, change sample) else (found, sample)
    else family.samples ++ [(values, change family.description.kind.zero)]
  { family with samples }

/-- Whether label values fit a collector: one for each label, and no label of a histogram has the
name of its bounds. -/
def Description.accepts
    (description : Description)
    (values : List String) :
    Bool :=
  values.length == description.variableLabels.length
    && match description.kind with
      | .histogram _ => !description.variableLabels.contains "le"
      | _ => true

namespace Registry

def update
    (registry : Registry)
    (name : String)
    (values : List String)
    (change : Sample → Sample) :
    Registry :=
  ⟨registry.families.map fun family =>
    if family.description.name == name then family.update values change else family⟩

/-- Measures an amount.  The second part tells whether it was accepted: a counter takes no negative
amount, although its sample is then there. -/
def measure
    (registry : Registry)
    (name : String)
    (values : List String)
    (amount : Amount) :
    Registry × Bool :=
  match registry.family? name with
  | none => (registry, false)
  | some family =>
      let description := family.description
      if !description.accepts values then (registry, false)
      else if description.kind == .counter && decide (amount.count < 0) then
        (registry.update name values id, false)
      else (registry.update name values (Sample.measure description.kind.bounds amount), true)

/-- Adds a whole number to a number, or observes it. -/
def add
    (registry : Registry)
    (name : String)
    (values : List String)
    (amount : Int) :
    Registry :=
  (registry.measure name values (.ofInt amount)).1

def set
    (registry : Registry)
    (name : String)
    (values : List String)
    (value : Int) :
    Registry :=
  registry.update name values fun _ => .number (.ofInt value)

end Registry

/-! ## Listings -/

/-- Labels with their values, in the order of the label names. -/
def labelPairs
    (description : Description)
    (values : List String) :
    List (String × String) :=
  (description.variableLabels.zip values).mergeSort fun left right => decide (left.1 ≤ right.1)

def sampleLine
    (description : Description)
    (values : List String)
    (sample : Sample) :
    String :=
  let labels := String.intercalate ","
    ((labelPairs description values).map fun (label, value) => label ++ "=" ++ value)
  let name := description.name ++ "\x7b" ++ labels ++ "\x7d "
  match sample with
  | .growing whole others => name ++ toString (others.plus (.ofInt whole)).truncated
  | .number value => name ++ toString value.truncated
  | .distribution count sum counts =>
      String.intercalate " "
        ((name ++ "count=" ++ toString count) :: ("sum=" ++ toString sum.truncated)
          :: (description.kind.bounds.zip counts).map fun (bound, below) =>
            toString bound ++ ":" ++ toString below)

def Registry.listing
    (registry : Registry) :
    List String :=
  sortNames (registry.families.flatMap fun family =>
    family.samples.map fun (values, sample) => sampleLine family.description values sample)

def countBounds : List Nat := [1, 2, 5, 10, 20, 50, 100, 200]

def sizeBounds : List Nat := [64, 256, 1024, 4096, 16384, 65536, 262144, 1048576]

end Wayland.Metrics
