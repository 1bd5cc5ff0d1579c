import Mathlib.Data.List.Induction
import Wayland.Proofs.Check.Offence

/-!
Contract: the report on one node is about exactly the rules that the node breaks.

Owns:
- names, versions and references as the rules say them and as the check computes them;
- the newest message before a message, and that it alone decides whether versions decrease;
- the own reports of arguments, messages, entries, enumerations, interfaces and protocols.

Does not own: the reports on the nodes below a node.
-/

namespace Wayland.Check

open Wayland.Model
open Wayland.Wire (Direction)

/-! ## Names -/

theorem isLetter_iff
    (char : Char) :
    char.isAlpha = true ↔ IsLetter char := by
  have upper : char.isUpper = true ↔ 'A' ≤ char ∧ char ≤ 'Z' := decide_eq_true_iff
  have lower : char.isLower = true ↔ 'a' ≤ char ∧ char ≤ 'z' := by
    change (decide ('a' ≤ char) && decide (char ≤ 'z')) = true ↔ _
    rw [Bool.and_eq_true, decide_eq_true_eq, decide_eq_true_eq]
  change (char.isUpper || char.isLower) = true ↔ _
  rw [Bool.or_eq_true, upper, lower, IsLetter]

theorem isNameChar_iff
    (char : Char) :
    isNameChar char = true ↔ IsWordChar char := by
  have digit : char.isDigit = true ↔ IsDigit char := by
    change (decide ('0' ≤ char) && decide (char ≤ '9')) = true ↔ _
    rw [Bool.and_eq_true, decide_eq_true_eq, decide_eq_true_eq, IsDigit]
  change (char.isAlpha || char.isDigit || char == '_') = true ↔ _
  rw [Bool.or_eq_true, Bool.or_eq_true, isLetter_iff, digit, beq_iff_eq, or_assoc, IsWordChar]

theorem isIdentifier_iff
    (name : String) :
    isIdentifier name = true ↔ SpellsIdentifier name := by
  unfold isIdentifier SpellsIdentifier
  cases name.toList with
  | nil => simp
  | cons first rest => simp [isLetter_iff, isNameChar_iff]

theorem isEntryName_iff
    (name : String) :
    isEntryName name = true ↔ SpellsEntry name := by
  simp [isEntryName, SpellsEntry, isNameChar_iff]

/-! ## Versions -/

theorem sinceInRange_iff
    (version since : UInt32) :
    (since < 1 || version < since) = true ↔ ¬SinceInRange version since := by
  simp only [SinceInRange, Bool.or_eq_true, decide_eq_true_eq, UInt32.lt_iff_toNat_lt,
    UInt32.le_iff_toNat_le]
  omega

theorem deprecationInRange_iff
    (version since deprecated : UInt32) :
    (deprecated != 0 && (deprecated ≤ since || version < deprecated)) = true ↔
      ¬DeprecationInRange version since deprecated := by
  by_cases absent : deprecated = 0
  · simp [DeprecationInRange, absent]
  · simp only [DeprecationInRange, bne_iff_ne.mpr absent, ne_eq, absent, not_false_eq_true,
      forall_const, Bool.true_and, Bool.or_eq_true, decide_eq_true_eq, UInt32.lt_iff_toNat_lt,
      UInt32.le_iff_toNat_le]
    omega

/-- The newest message is one of the messages, and none has a greater version. -/
theorem newestMessage?_spec
    (messages : List Message) :
    match newestMessage? messages with
    | none => messages = []
    | some newest => newest ∈ messages ∧ ∀ other ∈ messages, other.since ≤ newest.since := by
  -- Messages are looked at in order, so the last one is the new one.
  induction messages using List.reverseRecOn with
  | nil => rfl
  | append_singleton messages last inductionHypothesis =>
      unfold newestMessage? at inductionHypothesis ⊢
      rw [List.foldl_append, List.foldl_cons, List.foldl_nil]
      split at inductionHypothesis
      · rename_i noneBefore
        rw [noneBefore]
        simp [inductionHypothesis]
      · rename_i previous isPrevious
        obtain ⟨member, greatest⟩ := inductionHypothesis
        rw [isPrevious]
        simp only
        by_cases stepsBack : last.since < previous.since
        · rw [if_pos stepsBack]
          refine ⟨List.mem_append_left _ member, ?_⟩
          intro other isOther
          rcases List.mem_append.mp isOther with before | isLast
          · exact greatest other before
          · rw [List.mem_singleton.mp isLast]
            exact UInt32.le_of_lt stepsBack
        · rw [if_neg stepsBack]
          refine ⟨List.mem_append_right _ List.mem_cons_self, ?_⟩
          intro other isOther
          rcases List.mem_append.mp isOther with before | isLast
          · exact UInt32.le_trans (greatest other before) (UInt32.not_lt.mp stepsBack)
          · rw [List.mem_singleton.mp isLast]
            exact UInt32.le_refl _

/-! ## References -/

theorem find?_eq_some_iff_isFirst
    {α : Type}
    {list : List α}
    {test : α → Bool}
    {item : α} :
    list.find? test = some item ↔ IsFirst (fun found => test found = true) list item := by
  rw [List.find?_eq_some_iff_append]
  unfold IsFirst
  constructor
  · rintro ⟨passes, before, after, rfl, others⟩
    exact ⟨before, after, rfl, passes, fun other member => by simpa using others other member⟩
  · rintro ⟨before, after, rfl, passes, others⟩
    exact ⟨passes, before, after, rfl, fun other member => by simpa using others other member⟩

theorem map_snd_declarations
    (batch : Batch) :
    batch.declarations.map (·.2) = batch.interfaces := by
  simp only [Batch.declarations, declarations, Batch.interfaces, Batch.documents,
    List.map_flatMap, List.map_map]
  congr 1
  funext protocol
  exact List.map_id _

/-- A name stands for the first interface that is declared under it. -/
theorem interface?_eq_some_iff
    {batch : Batch}
    {name : String}
    {interface : Interface} :
    batch.interface? name = some interface ↔
      IsFirst (fun candidate => candidate.name = name) batch.interfaces interface := by
  unfold Batch.interface?
  have found :
      (batch.declarations.find? (·.2.name == name)).map (·.2) =
        (batch.declarations.map (·.2)).find? (·.name == name) := by
    rw [List.find?_map]
    rfl
  rw [found, map_snd_declarations, find?_eq_some_iff_isFirst]
  simp only [beq_iff_eq]

theorem interface?_isNone_iff
    {batch : Batch}
    {name : String} :
    (batch.interface? name).isNone = true ↔
      ∀ interface ∈ batch.interfaces, interface.name ≠ name := by
  unfold Batch.interface?
  rw [← map_snd_declarations]
  simp only [Option.isNone_map, Option.isNone_iff_eq_none, List.find?_eq_none, beq_iff_eq,
    List.forall_mem_map]

theorem enumeration?_eq_some_iff
    {batch : Batch}
    {own : Interface}
    {arg : Arg}
    {enumeration : Enumeration} :
    batch.enumeration? own arg = some enumeration ↔ batch.Refers own arg enumeration := by
  unfold Batch.enumeration? Batch.Refers Batch.LooksInto
  generalize arg.enumerationRef = reference
  obtain ⟨qualifier, name⟩ := reference
  simp only [String.isEmpty_iff]
  by_cases unqualified : qualifier = ""
  · simp [unqualified, Interface.enumeration?, find?_eq_some_iff_isFirst]
  · simp [unqualified, Interface.enumeration?, find?_eq_some_iff_isFirst, interface?_eq_some_iff,
      Option.bind_eq_some_iff]

theorem enumeration?_eq_none_iff
    {batch : Batch}
    {own : Interface}
    {arg : Arg} :
    batch.enumeration? own arg = none ↔ ∀ enumeration, ¬batch.Refers own arg enumeration := by
  simp only [Option.eq_none_iff_forall_ne_some, ne_eq, enumeration?_eq_some_iff]

/-! ## Reports on one node -/

section Nodes

variable {node : Node}

theorem reportsAt_name
    {kind name : String}
    {accepted : Bool}
    {Spells : Prop}
    (spells : accepted = true ↔ Spells) :
    ReportsAt node (nameViolations node.place kind name accepted) fun rule =>
      rule = .badName ∧ ¬Spells :=
  (reportsAt_when _ _ _).congr fun rule => by simp [← spells]

theorem reportsAt_since
    (version since deprecated : UInt32)
    (kind : String) :
    ReportsAt node (sinceViolations node.place version kind since deprecated) fun rule =>
      rule = .sinceOutOfRange ∧ ¬SinceInRange version since ∨
        rule = .badDeprecatedSince ∧ ¬DeprecationInRange version since deprecated := by
  refine ((reportsAt_when _ _ _).append (reportsAt_when _ _ _) ?_).congr ?_
  · simp
  · intro rule
    rw [sinceInRange_iff, deprecationInRange_iff]

theorem reportsAt_decreasing
    (earlier : List Message)
    (message : Message)
    (detail : Message → String) :
    ReportsAt node
      (match newestMessage? earlier with
        | none => []
        | some newest =>
            when (message.since < newest.since) node.place .sinceDecreasing (detail newest))
      fun rule => rule = .sinceDecreasing ∧ ∃ other ∈ earlier, message.since < other.since := by
  have newest := newestMessage?_spec earlier
  split at newest
  · rw [newest]
    exact reportsAt_nil.congr (by simp)
  · rename_i greatest isGreatest
    refine (reportsAt_when _ _ _).congr fun rule => and_congr_right fun _ => ?_
    rw [decide_eq_true_eq]
    constructor
    · exact fun less => ⟨greatest, newest.1, less⟩
    · rintro ⟨other, member, less⟩
      exact UInt32.lt_of_lt_of_le less (newest.2 other member)

theorem reportsAt_destructor
    (earlier : List Message)
    (message : Message)
    (detail : Message → String) :
    ReportsAt node
      (match earlier.find? (·.destructor) with
        | none => []
        | some first =>
            when message.destructor node.place .multipleDestructors (detail first))
      fun rule => rule = .multipleDestructors ∧
        (message.destructor = true ∧ ∃ other ∈ earlier, other.destructor = true) := by
  split
  · rename_i noneBefore
    have noDestructor := List.find?_eq_none.mp noneBefore
    exact reportsAt_nil.congr fun rule => by simpa using fun _ _ => noDestructor
  · rename_i first isFirst
    have member := List.mem_of_find?_eq_some isFirst
    have isDestructor := List.find?_some isFirst
    refine (reportsAt_when _ _ _).congr fun rule => and_congr_right fun _ => ?_
    simpa using fun _ => ⟨first, member, isDestructor⟩

/-- An argument breaks one of two rules on interfaces, by its kind. -/
theorem reportsAt_argInterface
    (batch : Batch)
    (arg : Arg) :
    ReportsAt node (interfaceViolations batch node.place arg) fun rule =>
      rule = .unresolvedInterface ∧ ((arg.kind = .object ∨ arg.kind = .newId) ∧
          arg.interface ≠ "" ∧ ∀ interface ∈ batch.interfaces, interface.name ≠ arg.interface) ∨
        rule = .interfaceArgType ∧
          (¬(arg.kind = .object ∨ arg.kind = .newId) ∧ arg.interface ≠ "") := by
  unfold interfaceViolations
  by_cases names : arg.kind = .object ∨ arg.kind = .newId
  · rw [if_pos (by simpa using names)]
    refine (reportsAt_when _ _ _).congr fun rule => ?_
    rw [Bool.and_eq_true, interface?_isNone_iff]
    simp [names]
  · rw [if_neg (by simpa using names)]
    exact (reportsAt_when _ _ _).congr fun rule => by simp [names]

/-- An argument breaks at most one rule on enumerations: it cannot have one, or it has one that is not
there, or one of bits where a signed number is passed. -/
theorem reportsAt_argEnumeration
    (batch : Batch)
    (own : Interface)
    (arg : Arg) :
    ReportsAt node (enumerationViolations batch own node.place arg) fun rule =>
      rule = .enumerationArgType ∧
          (arg.enumeration ≠ "" ∧ ¬(arg.kind = .int ∨ arg.kind = .uint)) ∨
        rule = .unresolvedEnumeration ∧
          (arg.enumeration ≠ "" ∧ (arg.kind = .int ∨ arg.kind = .uint) ∧
            ∀ enumeration, ¬batch.Refers own arg enumeration) ∨
        rule = .bitfieldArgType ∧
          (arg.enumeration ≠ "" ∧ arg.kind = .int ∧
            ∃ enumeration, batch.Refers own arg enumeration ∧ enumeration.bitfield = true) := by
  unfold enumerationViolations
  by_cases absent : arg.enumeration = ""
  · rw [if_pos (by simpa using absent)]
    exact reportsAt_nil.congr (by simp [absent])
  rw [if_neg (by simpa using absent)]
  by_cases whole : arg.kind = .int ∨ arg.kind = .uint
  · rw [if_neg (by simpa [or_iff_not_imp_left] using whole)]
    split
    · rename_i unresolved
      rw [enumeration?_eq_none_iff] at unresolved
      exact (reportsAt_singleton _ _).congr (by simp [absent, whole, unresolved])
    · rename_i enumeration resolved
      -- A reference has one meaning only.
      have onlyOne : ∀ other, batch.Refers own arg other ↔ other = enumeration := by
        intro other
        rw [← enumeration?_eq_some_iff, resolved, Option.some.injEq, eq_comm]
      refine (reportsAt_when _ _ _).congr fun rule => ?_
      simp only [onlyOne, Bool.and_eq_true, bne_iff_ne]
      rcases whole with signed | unsigned
      · simp [absent, signed, and_comm]
      · simp [absent, unsigned]
  · rw [if_pos (by simpa using whole)]
    refine (reportsAt_singleton _ _).congr ?_
    rw [not_or] at whole
    simp [absent, whole]

theorem reportsAt_when_named
    {α : Type}
    (name : α → String)
    (earlier : List α)
    (item : α)
    (rule : Rule)
    (detail : String) :
    ReportsAt node (when ((earlier.map name).contains (name item)) node.place rule detail)
      fun broken => broken = rule ∧ ∃ other ∈ earlier, name other = name item :=
  (reportsAt_when _ _ _).congr fun broken => by simp

end Nodes

/-! ## The rules of each kind of node -/

section Kinds

variable (batch : Batch) (own : Interface) (version : UInt32) (node : Node) (place : Place)

theorem reportsAt_arg
    (arg : Occurrence Arg)
    (isAt : { place with arg := arg.item.name } = node.place) :
    ReportsAt node (argViolations batch own place (arg.earlier.map (·.name)) arg.item)
      (ArgBreaks batch own arg) := by
  simp only [argViolations, isAt]
  refine ReportsAt.congr
    (((((reportsAt_name (isIdentifier_iff arg.item.name)).append
      (reportsAt_when_named Arg.name arg.earlier arg.item .duplicateArg _) ?_).append
      (reportsAt_argInterface batch arg.item) ?_).append
      (reportsAt_when _ .nullableArgType _) ?_).append
      (reportsAt_argEnumeration batch own arg.item) ?_) ?_
  · rintro rule here ⟨rfl, -⟩
    simp only [reduceCtorEq, false_and] at here
  · rintro rule here (⟨rfl, -⟩ | ⟨rfl, -⟩) <;>
      simp only [reduceCtorEq, false_and, or_self] at here
  · rintro rule here ⟨rfl, -⟩
    simp only [reduceCtorEq, false_and, or_self] at here
  · rintro rule here (⟨rfl, -⟩ | ⟨rfl, -⟩ | ⟨rfl, -⟩) <;>
      simp only [reduceCtorEq, false_and, or_self] at here
  · intro rule
    cases rule <;>
      simp only [ArgBreaks, reduceCtorEq, false_and, true_and, false_or, or_false]
    simp

theorem reportsAt_entry
    (entry : Occurrence Entry)
    (isAt : { place with entry := entry.item.name } = node.place) :
    ReportsAt node (entryViolations version place (entry.earlier.map (·.name)) entry.item)
      (EntryBreaks version entry) := by
  simp only [entryViolations, isAt]
  refine ReportsAt.congr
    (((reportsAt_name (isEntryName_iff entry.item.name)).append
      (reportsAt_when_named Entry.name entry.earlier entry.item .duplicateEntry _) ?_).append
      (reportsAt_since version entry.item.since entry.item.deprecatedSince "entry") ?_) ?_
  · rintro rule here ⟨rfl, -⟩
    simp only [reduceCtorEq, false_and] at here
  · rintro rule here (⟨rfl, -⟩ | ⟨rfl, -⟩) <;>
      simp only [reduceCtorEq, false_and, or_self] at here
  · intro rule
    cases rule <;>
      simp only [EntryBreaks, reduceCtorEq, false_and, true_and, false_or, or_false]

/-- What is reported on a message itself stands before what is reported on its arguments. -/
theorem messageViolations_own
    (direction : Direction)
    (message : Occurrence Message)
    (isAt :
      { place with direction := directionWord direction, message := message.item.name } =
        node.place) :
    ∃ found,
      messageViolations batch own place direction message.earlier message.item =
          found ++
            withEarlier
              (fun before arg => argViolations batch own node.place (before.map (·.name)) arg)
              [] message.item.args ∧
        ReportsAt node found (MessageBreaks own.version message) := by
  simp only [messageViolations, isAt]
  refine ⟨_, rfl, ReportsAt.congr
    ((((((reportsAt_name (isIdentifier_iff message.item.name)).append
      (reportsAt_when _ .duplicateMessage _) ?_).append
      (reportsAt_since own.version message.item.since message.item.deprecatedSince
        (directionWord direction)) ?_).append
      (reportsAt_decreasing message.earlier message.item _) ?_).append
      (reportsAt_destructor message.earlier message.item _) ?_).append
      (reportsAt_when _ .multipleNewIds _) ?_) ?_⟩
  · rintro rule here ⟨rfl, -⟩
    simp only [reduceCtorEq, false_and] at here
  · rintro rule here (⟨rfl, -⟩ | ⟨rfl, -⟩) <;>
      simp only [reduceCtorEq, false_and, or_self] at here
  · rintro rule here ⟨rfl, -⟩
    simp only [reduceCtorEq, false_and, or_self] at here
  · rintro rule here ⟨rfl, -⟩
    simp only [reduceCtorEq, false_and, or_self] at here
  · rintro rule here ⟨rfl, -⟩
    simp only [reduceCtorEq, false_and, or_self] at here
  · intro rule
    have newIds :
        message.item.newIds.length = message.item.args.countP fun arg => arg.kind = .newId := by
      simp [Message.newIds, List.countP_eq_length_filter, Bool.beq_eq_decide_eq]
    cases rule <;>
      simp only [MessageBreaks, reduceCtorEq, false_and, true_and, false_or, or_false,
        List.any_eq_true, beq_iff_eq, decide_eq_true_eq, newIds, gt_iff_lt, Nat.lt_iff_add_one_le]

theorem enumerationNodeViolations_own
    (enumeration : Occurrence Enumeration)
    (isAt : { place with enumeration := enumeration.item.name } = node.place) :
    ∃ found,
      enumerationNodeViolations version place (enumeration.earlier.map (·.name))
          enumeration.item =
          found ++
            withEarlier
              (fun before entry => entryViolations version node.place (before.map (·.name)) entry)
              [] enumeration.item.entries ∧
        ReportsAt node found (EnumerationBreaks version enumeration) := by
  simp only [enumerationNodeViolations, isAt]
  refine ⟨_, rfl, ReportsAt.congr
    (((reportsAt_name (isIdentifier_iff enumeration.item.name)).append
      (reportsAt_when_named Enumeration.name enumeration.earlier enumeration.item
        .duplicateEnumeration _) ?_).append
      (reportsAt_since version enumeration.item.since 0 "enum") ?_) ?_⟩
  · rintro rule here ⟨rfl, -⟩
    simp only [reduceCtorEq, false_and] at here
  · rintro rule here (⟨rfl, -⟩ | ⟨rfl, -⟩) <;>
      simp only [reduceCtorEq, false_and, or_self] at here
  · intro rule
    -- An enumeration is never deprecated.
    have neverDeprecated : DeprecationInRange version enumeration.item.since 0 :=
      fun given => absurd rfl given
    cases rule <;>
      simp only [EnumerationBreaks, reduceCtorEq, false_and, true_and, false_or, or_false,
        neverDeprecated, not_true_eq_false]

theorem interfaceNodeViolations_own
    (isAt : { place with interface := own.name } = node.place) :
    ∃ found,
      interfaceNodeViolations batch place own =
          found
            ++ withEarlier (messageViolations batch own node.place .request) [] own.requests
            ++ withEarlier (messageViolations batch own node.place .event) [] own.events
            ++ withEarlier
                (fun before enumeration =>
                  enumerationNodeViolations own.version node.place (before.map (·.name))
                    enumeration)
                [] own.enumerations ∧
        ReportsAt node found (InterfaceBreaks own) := by
  simp only [interfaceNodeViolations, isAt]
  refine ⟨_, rfl, ReportsAt.congr
    ((reportsAt_name (isIdentifier_iff own.name)).append (reportsAt_when _ .badVersion _) ?_) ?_⟩
  · rintro rule here ⟨rfl, -⟩
    simp only [reduceCtorEq, false_and] at here
  · intro rule
    have unversioned : own.version < 1 ↔ own.version = 0 := by
      rw [UInt32.lt_iff_toNat_lt, ← UInt32.toNat_inj]
      exact Nat.lt_one_iff
    cases rule <;>
      simp only [InterfaceBreaks, reduceCtorEq, false_and, true_and, false_or, or_false,
        decide_eq_true_eq, unversioned]

theorem protocolViolations_own
    (protocol : Protocol)
    (isAt : { protocol := protocol.name } = node.place) :
    ∃ found,
      protocolViolations batch protocol =
          found ++ protocol.interfaces.flatMap (interfaceNodeViolations batch node.place) ∧
        ReportsAt node found (ProtocolBreaks protocol) := by
  simp only [protocolViolations, isAt]
  refine ⟨_, rfl, (reportsAt_name (isIdentifier_iff protocol.name)).congr ?_⟩
  intro rule
  cases rule <;> simp only [ProtocolBreaks, reduceCtorEq, false_and, true_and]

end Kinds

end Wayland.Check
