import Mathlib.Data.List.Nodup
import Wayland.Check.Rules

/-!
Contract: the consistency rules, said about the nodes of a batch and not about how it is walked, and
lists of violations put together from parts.

Owns:
- occurrences: elements of a list together with the elements before them, so that two equal elements
  are two nodes;
- the nodes of a batch with their places, and which of them are checked;
- for every kind of node, the rules it can break and when it breaks them;
- reports of nothing, of one condition, of one report behind another, and of one report for each
  occurrence.

Does not own: that the check finds every offence, or finds it once.
-/

namespace Wayland.Check

open Wayland.Model
open Wayland.Wire (Direction)

/-! ## Nodes -/

/-- An element of a list with the elements before it. -/
structure Occurrence (α : Type) where
  earlier : List α
  item : α

def Occurrence.In
    {α : Type}
    (occurrence : Occurrence α)
    (list : List α) : Prop :=
  occurrence.earlier ++ [occurrence.item] <+: list

/-- A node of a batch by the way to it.  Documents are counted from the first import on. -/
inductive Node where
  | protocol (document : Occurrence Protocol)
  | interface (document : Occurrence Protocol) (interface : Occurrence Interface)
  | message (document : Occurrence Protocol) (interface : Occurrence Interface)
      (direction : Direction) (message : Occurrence Message)
  | arg (document : Occurrence Protocol) (interface : Occurrence Interface)
      (direction : Direction) (message : Occurrence Message) (arg : Occurrence Arg)
  | enumeration (document : Occurrence Protocol) (interface : Occurrence Interface)
      (enumeration : Occurrence Enumeration)
  | entry (document : Occurrence Protocol) (interface : Occurrence Interface)
      (enumeration : Occurrence Enumeration) (entry : Occurrence Entry)

def Batch.documents
    (batch : Batch) :
    List Protocol :=
  batch.imports ++ batch.protocols

namespace Node

def document : Node → Occurrence Protocol
  | protocol document
  | interface document _
  | message document _ _ _
  | arg document _ _ _ _
  | enumeration document _ _
  | entry document _ _ _ => document

def place : Node → Place
  | protocol document => { protocol := document.item.name }
  | interface document interfaceAt =>
      { protocol := document.item.name, interface := interfaceAt.item.name }
  | message document interfaceAt direction messageAt =>
      { protocol := document.item.name, interface := interfaceAt.item.name
        direction := directionWord direction, message := messageAt.item.name }
  | arg document interfaceAt direction messageAt argAt =>
      { protocol := document.item.name, interface := interfaceAt.item.name
        direction := directionWord direction, message := messageAt.item.name
        arg := argAt.item.name }
  | enumeration document interfaceAt enumerationAt =>
      { protocol := document.item.name, interface := interfaceAt.item.name
        enumeration := enumerationAt.item.name }
  | entry document interfaceAt enumerationAt entryAt =>
      { protocol := document.item.name, interface := interfaceAt.item.name
        enumeration := enumerationAt.item.name, entry := entryAt.item.name }

def In
    (batch : Batch) :
    Node → Prop
  | protocol document => document.In batch.documents
  | interface document interfaceAt =>
      document.In batch.documents ∧ interfaceAt.In document.item.interfaces
  | message document interfaceAt direction messageAt =>
      document.In batch.documents ∧ interfaceAt.In document.item.interfaces ∧
        messageAt.In (interfaceAt.item.messages direction)
  | arg document interfaceAt direction messageAt argAt =>
      document.In batch.documents ∧ interfaceAt.In document.item.interfaces ∧
        messageAt.In (interfaceAt.item.messages direction) ∧ argAt.In messageAt.item.args
  | enumeration document interfaceAt enumerationAt =>
      document.In batch.documents ∧ interfaceAt.In document.item.interfaces ∧
        enumerationAt.In interfaceAt.item.enumerations
  | entry document interfaceAt enumerationAt entryAt =>
      document.In batch.documents ∧ interfaceAt.In document.item.interfaces ∧
        enumerationAt.In interfaceAt.item.enumerations ∧
          entryAt.In enumerationAt.item.entries

end Node

/-- A document of the protocols, behind all imports. -/
def Batch.Checks
    (batch : Batch)
    (document : Occurrence Protocol) : Prop :=
  batch.imports.length ≤ document.earlier.length

/-! ## Names and versions -/

def IsLetter
    (char : Char) : Prop :=
  ('A' ≤ char ∧ char ≤ 'Z') ∨ ('a' ≤ char ∧ char ≤ 'z')

def IsDigit
    (char : Char) : Prop :=
  '0' ≤ char ∧ char ≤ '9'

def IsWordChar
    (char : Char) : Prop :=
  IsLetter char ∨ IsDigit char ∨ char = '_'

/-- A letter or an underscore, and then letters, digits and underscores. -/
def SpellsIdentifier
    (name : String) : Prop :=
  ∃ first rest, name.toList = first :: rest ∧ (IsLetter first ∨ first = '_') ∧
    ∀ char ∈ rest, IsWordChar char

/-- Letters, digits and underscores, at least one. -/
def SpellsEntry
    (name : String) : Prop :=
  name ≠ "" ∧ ∀ char ∈ name.toList, IsWordChar char

def SinceInRange
    (version since : UInt32) : Prop :=
  1 ≤ since ∧ since ≤ version

/-- Where a deprecation is given, it comes after the introduction and within the version. -/
def DeprecationInRange
    (version since deprecated : UInt32) : Prop :=
  deprecated ≠ 0 → since < deprecated ∧ deprecated ≤ version

/-! ## References -/

def IsFirst
    {α : Type}
    (property : α → Prop)
    (list : List α)
    (item : α) : Prop :=
  ∃ before after, list = before ++ item :: after ∧ property item ∧
    ∀ other ∈ before, ¬property other

def Batch.interfaces
    (batch : Batch) :
    List Interface :=
  batch.documents.flatMap (·.interfaces)

/-- The interface whose enumerations a reference looks into: its own one where the qualifier is empty,
else the first one of the batch that the qualifier names. -/
def Batch.LooksInto
    (batch : Batch)
    (own : Interface)
    (qualifier : String)
    (owner : Interface) : Prop :=
  if qualifier = "" then owner = own
  else IsFirst (fun interface => interface.name = qualifier) batch.interfaces owner

def Batch.Refers
    (batch : Batch)
    (own : Interface)
    (arg : Arg)
    (enumeration : Enumeration) : Prop :=
  ∃ owner, batch.LooksInto own arg.enumerationRef.1 owner ∧
    IsFirst (fun candidate => candidate.name = arg.enumerationRef.2) owner.enumerations enumeration

/-! ## Offences -/

/-- The rules an argument breaks on an interface, behind the arguments before it. -/
def ArgBreaks
    (batch : Batch)
    (own : Interface)
    (arg : Occurrence Arg) :
    Rule → Prop
  | .badName => ¬SpellsIdentifier arg.item.name
  | .duplicateArg => ∃ other ∈ arg.earlier, other.name = arg.item.name
  | .unresolvedInterface =>
      (arg.item.kind = .object ∨ arg.item.kind = .newId) ∧ arg.item.interface ≠ "" ∧
        ∀ interface ∈ batch.interfaces, interface.name ≠ arg.item.interface
  | .interfaceArgType =>
      ¬(arg.item.kind = .object ∨ arg.item.kind = .newId) ∧ arg.item.interface ≠ ""
  | .nullableArgType =>
      arg.item.nullable = true ∧ ¬(arg.item.kind = .string ∨ arg.item.kind = .object)
  | .enumerationArgType =>
      arg.item.enumeration ≠ "" ∧ ¬(arg.item.kind = .int ∨ arg.item.kind = .uint)
  | .unresolvedEnumeration =>
      arg.item.enumeration ≠ "" ∧ (arg.item.kind = .int ∨ arg.item.kind = .uint) ∧
        ∀ enumeration, ¬batch.Refers own arg.item enumeration
  | .bitfieldArgType =>
      arg.item.enumeration ≠ "" ∧ arg.item.kind = .int ∧
        ∃ enumeration, batch.Refers own arg.item enumeration ∧ enumeration.bitfield = true
  | _ => False

/-- The rules a message breaks on an interface of a version, behind the messages of its direction
before it. -/
def MessageBreaks
    (version : UInt32)
    (message : Occurrence Message) :
    Rule → Prop
  | .badName => ¬SpellsIdentifier message.item.name
  | .duplicateMessage => ∃ other ∈ message.earlier, other.name = message.item.name
  | .sinceOutOfRange => ¬SinceInRange version message.item.since
  | .badDeprecatedSince =>
      ¬DeprecationInRange version message.item.since message.item.deprecatedSince
  | .sinceDecreasing => ∃ other ∈ message.earlier, message.item.since < other.since
  | .multipleDestructors =>
      message.item.destructor = true ∧ ∃ other ∈ message.earlier, other.destructor = true
  | .multipleNewIds => 2 ≤ message.item.args.countP fun arg => arg.kind = .newId
  | _ => False

def EntryBreaks
    (version : UInt32)
    (entry : Occurrence Entry) :
    Rule → Prop
  | .badName => ¬SpellsEntry entry.item.name
  | .duplicateEntry => ∃ other ∈ entry.earlier, other.name = entry.item.name
  | .sinceOutOfRange => ¬SinceInRange version entry.item.since
  | .badDeprecatedSince =>
      ¬DeprecationInRange version entry.item.since entry.item.deprecatedSince
  | _ => False

def EnumerationBreaks
    (version : UInt32)
    (enumeration : Occurrence Enumeration) :
    Rule → Prop
  | .badName => ¬SpellsIdentifier enumeration.item.name
  | .duplicateEnumeration => ∃ other ∈ enumeration.earlier, other.name = enumeration.item.name
  | .sinceOutOfRange => ¬SinceInRange version enumeration.item.since
  | _ => False

/-- The rules an interface breaks, apart from the uniqueness of its name. -/
def InterfaceBreaks
    (interface : Interface) :
    Rule → Prop
  | .badName => ¬SpellsIdentifier interface.name
  | .badVersion => interface.version = 0
  | _ => False

def ProtocolBreaks
    (protocol : Protocol) :
    Rule → Prop
  | .badName => ¬SpellsIdentifier protocol.name
  | _ => False

def Node.Breaks
    (batch : Batch) :
    Node → Rule → Prop
  | protocol document => ProtocolBreaks document.item
  | interface _ interfaceAt => InterfaceBreaks interfaceAt.item
  | message _ interfaceAt _ messageAt => MessageBreaks interfaceAt.item.version messageAt
  | arg _ interfaceAt _ _ argAt => ArgBreaks batch interfaceAt.item argAt
  | enumeration _ interfaceAt enumerationAt =>
      EnumerationBreaks interfaceAt.item.version enumerationAt
  | entry _ interfaceAt _ entryAt => EntryBreaks interfaceAt.item.version entryAt

/-- A node is an interface whose name was declared before, in an earlier document or earlier in its
own. -/
def Node.Repeats : Node → Prop
  | interface document interfaceAt =>
      (∃ other ∈ interfaceAt.earlier, other.name = interfaceAt.item.name) ∨
        ∃ earlier ∈ document.earlier, ∃ other ∈ earlier.interfaces,
          other.name = interfaceAt.item.name
  | _ => False

/-- A node of a batch offends against a rule.  The names of interfaces are told apart over all
documents, the other rules hold for the protocols only. -/
def Batch.Offends
    (batch : Batch)
    (node : Node)
    (rule : Rule) : Prop :=
  node.In batch ∧
    (rule = .duplicateInterface ∧ node.Repeats ∨
      batch.Checks node.document ∧ node.Breaks batch rule)

/-- A list of violations reports offences: one violation for each, at its place and under its rule,
and no other. -/
def Reports
    (found : List Violation)
    (offends : Node → Rule → Prop) : Prop :=
  ∃ sites : List (Node × Rule), sites.Nodup ∧
    (∀ node rule, (node, rule) ∈ sites ↔ offends node rule) ∧
      found.map (fun violation => (violation.place, violation.rule)) =
        sites.map fun site => (site.1.place, site.2)

/-! ## Occurrences -/

section Occurrences

variable {α β : Type} {check : List α → α → List Violation}

/-- The occurrences of the elements of a list behind others, which are given latest first. -/
def occurrencesFrom
    (earlier : List α) :
    List α → List (Occurrence α)
  | [] => []
  | item :: rest => ⟨earlier.reverse, item⟩ :: occurrencesFrom (item :: earlier) rest

theorem mem_occurrencesFrom_iff
    {earlier list : List α}
    {occurrence : Occurrence α} :
    occurrence ∈ occurrencesFrom earlier list ↔
      earlier.length ≤ occurrence.earlier.length ∧ occurrence.In (earlier.reverse ++ list) := by
  obtain ⟨before, found⟩ := occurrence
  induction list generalizing earlier with
  | nil =>
      simp only [occurrencesFrom, List.not_mem_nil, Occurrence.In, List.append_nil, false_iff,
        not_and]
      intro behind isPrefix
      have shorter := isPrefix.length_le
      simp only [List.length_append, List.length_singleton, List.length_reverse] at shorter
      omega
  | cons item rest inductionHypothesis =>
      simp only [occurrencesFrom, List.mem_cons, inductionHypothesis, List.length_cons,
        List.reverse_cons, List.append_assoc, List.singleton_append, Occurrence.mk.injEq,
        Occurrence.In]
      constructor
      · rintro (⟨rfl, rfl⟩ | ⟨behind, isIn⟩)
        · exact ⟨by simp, rest, by simp⟩
        · exact ⟨by omega, isIn⟩
      · rintro ⟨behind, isIn⟩
        by_cases here : before.length = earlier.length
        · obtain ⟨after, split⟩ := isIn
          rw [List.append_assoc] at split
          have parts := List.append_inj split (by simpa using here)
          simp only [List.singleton_append, List.cons.injEq] at parts
          exact Or.inl ⟨parts.1, parts.2.1⟩
        · exact Or.inr ⟨by omega, isIn⟩

theorem nodup_occurrencesFrom
    (earlier list : List α) :
    (occurrencesFrom earlier list).Nodup := by
  induction list generalizing earlier with
  | nil => exact List.nodup_nil
  | cons item rest inductionHypothesis =>
      refine List.nodup_cons.mpr ⟨?_, inductionHypothesis (item :: earlier)⟩
      -- Later occurrences have more elements before them.
      intro member
      have behind := (mem_occurrencesFrom_iff.mp member).1
      simp only [List.length_cons, List.length_reverse] at behind
      omega

theorem withEarlier_eq_flatMap
    (earlier list : List α) :
    withEarlier check earlier list =
      (occurrencesFrom earlier list).flatMap fun occurrence =>
        check occurrence.earlier occurrence.item := by
  induction list generalizing earlier with
  | nil => rfl
  | cons item rest inductionHypothesis =>
      simp only [withEarlier, occurrencesFrom, List.flatMap_cons, inductionHypothesis]

/-- A check that does not look at the elements before is done for each element. -/
theorem flatMap_eq_withEarlier
    (checkOne : α → List Violation)
    (earlier list : List α) :
    list.flatMap checkOne = withEarlier (fun _ => checkOne) earlier list := by
  induction list generalizing earlier with
  | nil => rfl
  | cons item rest inductionHypothesis =>
      rw [List.flatMap_cons, withEarlier, inductionHypothesis]

theorem withEarlier_append
    (earlier front back : List α) :
    withEarlier check earlier (front ++ back) =
      withEarlier check earlier front ++ withEarlier check (front.reverse ++ earlier) back := by
  induction front generalizing earlier with
  | nil => rfl
  | cons item front inductionHypothesis =>
      simp [withEarlier, inductionHypothesis]

theorem withEarlier_map
    (value : β → α)
    (outer : List α)
    (earlier list : List β) :
    withEarlier check (earlier.map value ++ outer) (list.map value) =
      withEarlier (fun before item => check (outer.reverse ++ before.map value) (value item))
        earlier list := by
  induction list generalizing earlier with
  | nil => rfl
  | cons item rest inductionHypothesis =>
      rw [List.map_cons, withEarlier, withEarlier, ← List.cons_append, ← List.map_cons,
        inductionHypothesis]
      simp

/-- Looking at what stands before in a list of lists is looking at the lists before, and then in the
list itself. -/
theorem withEarlier_flatMap
    (values : β → List α)
    (earlier list : List β) :
    withEarlier check (earlier.reverse.flatMap values).reverse (list.flatMap values) =
      withEarlier
        (fun before item => withEarlier check (before.flatMap values).reverse (values item))
        earlier list := by
  induction list generalizing earlier with
  | nil => rfl
  | cons item rest inductionHypothesis =>
      rw [List.flatMap_cons, withEarlier_append, withEarlier, ← inductionHypothesis]
      simp

end Occurrences

/-! ## Reports -/

section Reporting

variable {found others : List Violation} {offends also : Node → Rule → Prop}

theorem Reports.congr
    (reports : Reports found offends)
    (same : ∀ node rule, offends node rule ↔ also node rule) :
    Reports found also := by
  obtain ⟨sites, nodup, member, shown⟩ := reports
  exact ⟨sites, nodup, fun node rule => (member node rule).trans (same node rule), shown⟩

theorem Reports.eq_nil_iff
    (reports : Reports found offends) :
    found = [] ↔ ∀ node rule, ¬offends node rule := by
  obtain ⟨sites, -, member, shown⟩ := reports
  have same : found = [] ↔ sites = [] := by
    rw [← List.map_eq_nil_iff (f := fun violation => (violation.place, violation.rule)), shown,
      List.map_eq_nil_iff]
  simp only [same, ← member, List.eq_nil_iff_forall_not_mem, Prod.forall]

theorem reports_nil :
    Reports [] fun _ _ => False :=
  ⟨[], List.nodup_nil, by simp, rfl⟩

theorem Reports.append
    (first : Reports found offends)
    (second : Reports others also)
    (apart : ∀ node rule, offends node rule → ¬also node rule) :
    Reports (found ++ others) fun node rule => offends node rule ∨ also node rule := by
  obtain ⟨sites, nodup, member, shown⟩ := first
  obtain ⟨more, nodupMore, memberMore, shownMore⟩ := second
  refine ⟨sites ++ more, ?_, ?_, by simp only [List.map_append, shown, shownMore]⟩
  · rw [List.nodup_append']
    refine ⟨nodup, nodupMore, ?_⟩
    rintro ⟨node, rule⟩ isFirst isSecond
    exact apart node rule ((member node rule).mp isFirst) ((memberMore node rule).mp isSecond)
  · intro node rule
    rw [List.mem_append, member, memberMore]

/-- One report after the other, of offences that do not meet. -/
theorem Reports.flatMap
    {α : Type}
    {items : List α}
    {report : α → List Violation}
    {offendsAt : α → Node → Rule → Prop}
    (nodup : items.Nodup)
    (each : ∀ item ∈ items, Reports (report item) (offendsAt item))
    (apart : ∀ item other node rule, offendsAt item node rule → offendsAt other node rule →
      item = other) :
    Reports (items.flatMap report) fun node rule => ∃ item ∈ items, offendsAt item node rule := by
  induction items with
  | nil => exact reports_nil.congr (by simp)
  | cons item items inductionHypothesis =>
      obtain ⟨isNew, nodup⟩ := List.nodup_cons.mp nodup
      have first := each item List.mem_cons_self
      have rest := inductionHypothesis nodup fun other member =>
        each other (List.mem_cons_of_mem item member)
      refine (first.append rest ?_).congr (by simp)
      rintro node rule here ⟨other, member, there⟩
      rw [apart item other node rule here there] at isNew
      exact isNew member

/-- A report for each occurrence in a list. -/
theorem Reports.withEarlier
    {α : Type}
    {earlier list : List α}
    {check : List α → α → List Violation}
    {offendsAt : Occurrence α → Node → Rule → Prop}
    (each : ∀ occurrence : Occurrence α, occurrence.In (earlier.reverse ++ list) →
      Reports (check occurrence.earlier occurrence.item) (offendsAt occurrence))
    (apart : ∀ occurrence other node rule, offendsAt occurrence node rule →
      offendsAt other node rule → occurrence = other) :
    Reports (withEarlier check earlier list) fun node rule =>
      ∃ occurrence : Occurrence α, earlier.length ≤ occurrence.earlier.length ∧
        occurrence.In (earlier.reverse ++ list) ∧ offendsAt occurrence node rule := by
  rw [withEarlier_eq_flatMap]
  refine (Reports.flatMap (nodup_occurrencesFrom earlier list) ?_ apart).congr ?_
  · intro occurrence member
    exact each occurrence (mem_occurrencesFrom_iff.mp member).2
  · intro node rule
    simp only [mem_occurrencesFrom_iff, and_assoc]

end Reporting

/-! ## Reports on one node -/

def ReportsAt
    (node : Node)
    (found : List Violation)
    (breaks : Rule → Prop) : Prop :=
  Reports found fun other rule => other = node ∧ breaks rule

section OneNode

variable {node : Node} {found others : List Violation} {breaks also : Rule → Prop}

theorem ReportsAt.congr
    (reports : ReportsAt node found breaks)
    (same : ∀ rule, breaks rule ↔ also rule) :
    ReportsAt node found also :=
  Reports.congr reports fun _ rule => and_congr_right fun _ => same rule

theorem ReportsAt.append
    (first : ReportsAt node found breaks)
    (second : ReportsAt node others also)
    (apart : ∀ rule, breaks rule → ¬also rule) :
    ReportsAt node (found ++ others) fun rule => breaks rule ∨ also rule := by
  refine (Reports.append first second ?_).congr ?_
  · rintro other rule ⟨-, here⟩ ⟨-, there⟩
    exact apart rule here there
  · intro other rule
    rw [and_or_left]

theorem reportsAt_nil :
    ReportsAt node [] fun _ => False :=
  reports_nil.congr (by simp)

/-- A single violation at the place of a node. -/
theorem reportsAt_singleton
    (rule : Rule)
    (detail : String) :
    ReportsAt node [⟨node.place, rule, detail⟩] fun broken => broken = rule :=
  ⟨[(node, rule)], by simp, by simp, rfl⟩

theorem reportsAt_when
    (condition : Bool)
    (rule : Rule)
    (detail : String) :
    ReportsAt node (when condition node.place rule detail) fun broken =>
      broken = rule ∧ condition = true := by
  cases condition with
  | false => exact reportsAt_nil.congr (by simp)
  | true => exact (reportsAt_singleton rule detail).congr (by simp)

end OneNode

end Wayland.Check
