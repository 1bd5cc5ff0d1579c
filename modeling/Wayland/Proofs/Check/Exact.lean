import Wayland.Proofs.Check.Rule

/-!
Contract: the check of a batch reports every offence of its nodes once.

Owns:
- the trees of nodes below messages, enumerations, interfaces and protocols, and their reports;
- the report of interfaces whose names are taken, told apart over all documents;
- that the verdict on a batch is exact, and what an accepted batch keeps to.

Does not own: what the rules say of one node.
-/

namespace Wayland.Check

open Wayland.Model
open Wayland.Text (quote)
open Wayland.Wire (Direction)

/-! ## Trees of nodes -/

namespace Node

def InMessage
    (document : Occurrence Protocol)
    (interfaceAt : Occurrence Interface)
    (direction : Direction)
    (messageAt : Occurrence Message)
    (node : Node) : Prop :=
  node = message document interfaceAt direction messageAt ∨
    ∃ argAt : Occurrence Arg, argAt.In messageAt.item.args ∧
      node = arg document interfaceAt direction messageAt argAt

def InMessages
    (document : Occurrence Protocol)
    (interfaceAt : Occurrence Interface)
    (direction : Direction)
    (node : Node) : Prop :=
  ∃ messageAt : Occurrence Message, messageAt.In (interfaceAt.item.messages direction) ∧
    node.InMessage document interfaceAt direction messageAt

def InEnumeration
    (document : Occurrence Protocol)
    (interfaceAt : Occurrence Interface)
    (enumerationAt : Occurrence Enumeration)
    (node : Node) : Prop :=
  node = enumeration document interfaceAt enumerationAt ∨
    ∃ entryAt : Occurrence Entry, entryAt.In enumerationAt.item.entries ∧
      node = entry document interfaceAt enumerationAt entryAt

def InEnumerations
    (document : Occurrence Protocol)
    (interfaceAt : Occurrence Interface)
    (node : Node) : Prop :=
  ∃ enumerationAt : Occurrence Enumeration, enumerationAt.In interfaceAt.item.enumerations ∧
    node.InEnumeration document interfaceAt enumerationAt

def InInterface
    (document : Occurrence Protocol)
    (interfaceAt : Occurrence Interface)
    (node : Node) : Prop :=
  ((node = interface document interfaceAt ∨ node.InMessages document interfaceAt .request) ∨
      node.InMessages document interfaceAt .event) ∨
    node.InEnumerations document interfaceAt

def InProtocol
    (document : Occurrence Protocol)
    (node : Node) : Prop :=
  node = protocol document ∨
    ∃ interfaceAt : Occurrence Interface, interfaceAt.In document.item.interfaces ∧
      node.InInterface document interfaceAt

variable {document other : Occurrence Protocol} {interfaceAt otherInterface : Occurrence Interface}
  {direction otherDirection : Direction} {node : Node}

theorem InMessage.eq
    {messageAt otherMessage : Occurrence Message}
    (here : node.InMessage document interfaceAt direction messageAt)
    (there : node.InMessage other otherInterface otherDirection otherMessage) :
    document = other ∧ interfaceAt = otherInterface ∧ direction = otherDirection ∧
      messageAt = otherMessage := by
  rcases here with rfl | ⟨argAt, -, rfl⟩ <;> rcases there with same | ⟨otherArg, -, same⟩ <;>
    cases same <;> exact ⟨rfl, rfl, rfl, rfl⟩

theorem InEnumeration.eq
    {enumerationAt otherEnumeration : Occurrence Enumeration}
    (here : node.InEnumeration document interfaceAt enumerationAt)
    (there : node.InEnumeration other otherInterface otherEnumeration) :
    document = other ∧ interfaceAt = otherInterface ∧ enumerationAt = otherEnumeration := by
  rcases here with rfl | ⟨entryAt, -, rfl⟩ <;> rcases there with same | ⟨otherEntry, -, same⟩ <;>
    cases same <;> exact ⟨rfl, rfl, rfl⟩

theorem InMessage.not_inEnumeration
    {messageAt : Occurrence Message}
    {enumerationAt : Occurrence Enumeration}
    (here : node.InMessage document interfaceAt direction messageAt) :
    ¬node.InEnumeration other otherInterface enumerationAt := by
  rcases here with rfl | ⟨argAt, -, rfl⟩ <;> rintro (same | ⟨entryAt, -, same⟩) <;> cases same

def interface? : Node → Option (Occurrence Interface)
  | protocol _ => none
  | interface _ interfaceAt
  | message _ interfaceAt _ _
  | arg _ interfaceAt _ _ _
  | enumeration _ interfaceAt _
  | entry _ interfaceAt _ _ => some interfaceAt

theorem InMessages.way
    (inside : node.InMessages document interfaceAt direction) :
    node.document = document ∧ node.interface? = some interfaceAt := by
  obtain ⟨messageAt, -, rfl | ⟨argAt, -, rfl⟩⟩ := inside <;> exact ⟨rfl, rfl⟩

theorem InInterface.way
    (inside : node.InInterface document interfaceAt) :
    node.document = document ∧ node.interface? = some interfaceAt := by
  rcases inside with ((rfl | requests) | events) | ⟨enumerationAt, -, rfl | ⟨entryAt, -, rfl⟩⟩
  · exact ⟨rfl, rfl⟩
  · exact requests.way
  · exact events.way
  · exact ⟨rfl, rfl⟩
  · exact ⟨rfl, rfl⟩

theorem InProtocol.document_eq
    (inside : node.InProtocol document) :
    node.document = document := by
  rcases inside with rfl | ⟨interfaceAt, -, below⟩
  · rfl
  · exact below.way.1

/-- A node of a batch is a node below its document. -/
theorem in_iff
    {batch : Batch} :
    node.In batch ↔ node.document.In batch.documents ∧ node.InProtocol node.document := by
  cases node with
  | message document interfaceAt direction messageAt
  | arg document interfaceAt direction messageAt argAt =>
      cases direction <;>
        simp [Node.In, Node.document, InProtocol, InInterface, InMessages, InMessage,
          InEnumerations, InEnumeration]
  | _ =>
      simp [Node.In, Node.document, InProtocol, InInterface, InMessages, InMessage,
        InEnumerations, InEnumeration]

end Node

def breaksIn
    (batch : Batch)
    (nodes : Node → Prop)
    (node : Node)
    (rule : Rule) : Prop :=
  nodes node ∧ node.Breaks batch rule

section Trees

variable {batch : Batch} {found others : List Violation} {nodes more : Node → Prop}

theorem reports_root
    {node : Node}
    (own : ReportsAt node found (node.Breaks batch)) :
    Reports found (breaksIn batch fun other => other = node) := by
  refine Reports.congr own ?_
  intro other rule
  exact and_congr_right fun same => by rw [same]

theorem reports_join
    (first : Reports found (breaksIn batch nodes))
    (second : Reports others (breaksIn batch more))
    (apart : ∀ node, nodes node → ¬more node) :
    Reports (found ++ others) (breaksIn batch fun node => nodes node ∨ more node) := by
  refine (first.append second ?_).congr ?_
  · intro node rule here there
    exact apart node here.1 there.1
  · intro node rule
    exact or_and_right.symm

theorem reports_forest
    {α : Type}
    {list : List α}
    {check : List α → α → List Violation}
    {tree : Occurrence α → Node → Prop}
    (each : ∀ occurrence : Occurrence α,
      Reports (check occurrence.earlier occurrence.item) (breaksIn batch (tree occurrence)))
    (apart : ∀ occurrence other node, tree occurrence node → tree other node →
      occurrence = other) :
    Reports (withEarlier check [] list)
      (breaksIn batch fun node =>
        ∃ occurrence : Occurrence α, occurrence.In list ∧ tree occurrence node) := by
  refine (Reports.withEarlier (fun occurrence _ => each occurrence) ?_).congr ?_
  · intro occurrence other node rule here there
    exact apart occurrence other node here.1 there.1
  · intro node rule
    simp [breaksIn, ← and_assoc]

variable (batch) (document : Occurrence Protocol) (interfaceAt : Occurrence Interface)

theorem reports_message
    (direction : Direction)
    (messageAt : Occurrence Message) :
    Reports
      (messageViolations batch interfaceAt.item (Node.interface document interfaceAt).place
        direction messageAt.earlier messageAt.item)
      (breaksIn batch fun node => node.InMessage document interfaceAt direction messageAt) := by
  obtain ⟨found, split, own⟩ := messageViolations_own batch interfaceAt.item
    (.message document interfaceAt direction messageAt)
    (Node.interface document interfaceAt).place direction messageAt rfl
  rw [split]
  refine reports_join (reports_root own) (reports_forest ?_ ?_) ?_
  · intro argAt
    exact reports_root (reportsAt_arg batch interfaceAt.item
      (.arg document interfaceAt direction messageAt argAt)
      (Node.message document interfaceAt direction messageAt).place argAt rfl)
  · rintro argAt otherArg node rfl same
    cases same
    rfl
  · rintro node rfl ⟨argAt, -, same⟩
    cases same

theorem reports_messages
    (direction : Direction) :
    Reports
      (withEarlier
        (messageViolations batch interfaceAt.item (Node.interface document interfaceAt).place
          direction)
        [] (interfaceAt.item.messages direction))
      (breaksIn batch fun node => node.InMessages document interfaceAt direction) :=
  reports_forest (reports_message batch document interfaceAt direction)
    fun _ _ _ here there => (here.eq there).2.2.2

theorem reports_enumeration
    (enumerationAt : Occurrence Enumeration) :
    Reports
      (enumerationNodeViolations interfaceAt.item.version
        (Node.interface document interfaceAt).place (enumerationAt.earlier.map (·.name))
        enumerationAt.item)
      (breaksIn batch fun node => node.InEnumeration document interfaceAt enumerationAt) := by
  obtain ⟨found, split, own⟩ := enumerationNodeViolations_own interfaceAt.item.version
    (.enumeration document interfaceAt enumerationAt) (Node.interface document interfaceAt).place
    enumerationAt rfl
  rw [split]
  refine reports_join (reports_root own) (reports_forest ?_ ?_) ?_
  · intro entryAt
    exact reports_root (reportsAt_entry interfaceAt.item.version
      (.entry document interfaceAt enumerationAt entryAt)
      (Node.enumeration document interfaceAt enumerationAt).place entryAt rfl)
  · rintro entryAt otherEntry node rfl same
    cases same
    rfl
  · rintro node rfl ⟨entryAt, -, same⟩
    cases same

theorem reports_enumerations :
    Reports
      (withEarlier
        (fun before enumeration =>
          enumerationNodeViolations interfaceAt.item.version
            (Node.interface document interfaceAt).place (before.map (·.name)) enumeration)
        [] interfaceAt.item.enumerations)
      (breaksIn batch fun node => node.InEnumerations document interfaceAt) :=
  reports_forest (reports_enumeration batch document interfaceAt)
    fun _ _ _ here there => (here.eq there).2.2

theorem reports_interface :
    Reports (interfaceNodeViolations batch (Node.protocol document).place interfaceAt.item)
      (breaksIn batch fun node => node.InInterface document interfaceAt) := by
  obtain ⟨found, split, own⟩ := interfaceNodeViolations_own batch interfaceAt.item
    (.interface document interfaceAt) (Node.protocol document).place rfl
  rw [split]
  refine reports_join (reports_join (reports_join (reports_root own)
    (reports_messages batch document interfaceAt .request) ?_)
    (reports_messages batch document interfaceAt .event) ?_)
    (reports_enumerations batch document interfaceAt) ?_
  · rintro node rfl ⟨messageAt, -, same | ⟨argAt, -, same⟩⟩ <;> cases same
  · rintro node (rfl | ⟨messageAt, -, here⟩) ⟨otherMessage, -, there⟩
    · rcases there with same | ⟨argAt, -, same⟩ <;> cases same
    · cases (here.eq there).2.2.1
  · rintro node ((rfl | ⟨messageAt, -, here⟩) | ⟨messageAt, -, here⟩) ⟨enumerationAt, -, there⟩
    · rcases there with same | ⟨entryAt, -, same⟩ <;> cases same
    · exact here.not_inEnumeration there
    · exact here.not_inEnumeration there

theorem reports_protocol :
    Reports (protocolViolations batch document.item)
      (breaksIn batch fun node => node.InProtocol document) := by
  obtain ⟨found, split, own⟩ := protocolViolations_own batch (.protocol document) document.item rfl
  rw [split, flatMap_eq_withEarlier _ []]
  refine reports_join (reports_root own)
    (reports_forest (reports_interface batch document) ?_) ?_
  · intro interfaceAt otherInterface node here there
    exact Option.some.inj (here.way.2.symm.trans there.way.2)
  · rintro node rfl ⟨interfaceAt, -, inside⟩
    cases inside.way.2

end Trees

/-! ## Interfaces whose names are taken -/

/-- The report of an interface behind all interfaces declared before it. -/
def takenName
    (earlier : List (String × Interface))
    (declared : String × Interface) :
    List Violation :=
  match earlier.find? (·.2.name == declared.2.name) with
  | none => []
  | some (owner, _) =>
      [{ place := { protocol := declared.1, interface := declared.2.name }
         rule := .duplicateInterface
         detail := "interface " ++ quote declared.2.name ++ " is already declared by protocol "
          ++ quote owner }]

/-- Keeping only the first declaration of each name finds the same names as keeping all. -/
theorem duplicateInterfaces_eq_withEarlier
    (kept earlier list : List (String × Interface))
    (same : ∀ name, kept.find? (·.2.name == name) = earlier.reverse.find? (·.2.name == name)) :
    duplicateInterfaces kept list = withEarlier takenName earlier list := by
  induction list generalizing kept earlier with
  | nil => rfl
  | cons declared rest inductionHypothesis =>
      obtain ⟨protocol, interface⟩ := declared
      rw [duplicateInterfaces, withEarlier, takenName, same interface.name]
      split
      · rename_i owner ownerInterface taken
        rw [taken]
        refine congrArg _ (inductionHypothesis kept _ ?_)
        intro name
        rw [same, List.reverse_cons, List.find?_append]
        by_cases isName : interface.name = name
        · subst isName
          simp [taken]
        · simp [isName]
      · rename_i free
        rw [free, List.nil_append]
        refine inductionHypothesis _ _ ?_
        intro name
        rw [List.reverse_cons, List.find?_append, List.find?_append, same]

theorem duplicateInterfaces_declarations
    (batch : Batch) :
    duplicateInterfaces [] batch.declarations =
      withEarlier
        (fun before protocol =>
          withEarlier
            (fun beforeHere interface =>
              takenName (declarations before ++ beforeHere.map (protocol.name, ·))
                (protocol.name, interface))
            [] protocol.interfaces)
        [] batch.documents := by
  let values := fun protocol : Protocol => protocol.interfaces.map (protocol.name, ·)
  calc
    duplicateInterfaces [] batch.declarations =
        withEarlier takenName [] (batch.documents.flatMap values) :=
      duplicateInterfaces_eq_withEarlier [] [] _ fun _ => rfl
    _ = withEarlier
          (fun before protocol =>
            withEarlier takenName (declarations before).reverse (values protocol))
          [] batch.documents := withEarlier_flatMap values [] batch.documents
    _ = _ := by
      congr 1
      funext before protocol
      refine (withEarlier_map (protocol.name, ·) (declarations before).reverse []
        protocol.interfaces).trans ?_
      rw [List.reverse_reverse]

theorem reports_takenName
    (document : Occurrence Protocol)
    (interfaceAt : Occurrence Interface) :
    ReportsAt (.interface document interfaceAt)
      (takenName
        (declarations document.earlier ++ interfaceAt.earlier.map (document.item.name, ·))
        (document.item.name, interfaceAt.item))
      fun rule => rule = .duplicateInterface ∧
        (Node.interface document interfaceAt).Repeats := by
  have repeats :
      (Node.interface document interfaceAt).Repeats ↔
        ∃ declared ∈ declarations document.earlier ++
            interfaceAt.earlier.map (document.item.name, ·),
          declared.2.name = interfaceAt.item.name := by
    simp only [Node.Repeats, List.mem_append, or_and_right, exists_or, declarations,
      List.mem_flatMap, List.mem_map]
    constructor
    · rintro (⟨other, member, isName⟩ | ⟨earlier, isEarlier, other, member, isName⟩)
      · exact Or.inr ⟨_, ⟨other, member, rfl⟩, isName⟩
      · exact Or.inl ⟨_, ⟨earlier, isEarlier, other, member, rfl⟩, isName⟩
    · rintro (⟨_, ⟨earlier, isEarlier, other, member, rfl⟩, isName⟩ |
        ⟨_, ⟨other, member, rfl⟩, isName⟩)
      · exact Or.inr ⟨earlier, isEarlier, other, member, isName⟩
      · exact Or.inl ⟨other, member, isName⟩
  rw [repeats, takenName]
  split
  · rename_i free
    simp only [List.find?_eq_none, beq_iff_eq] at free
    refine reportsAt_nil.congr fun rule => ⟨False.elim, ?_⟩
    rintro ⟨-, declared, member, isName⟩
    exact free declared member isName
  · rename_i owner ownerInterface taken
    have member := List.mem_of_find?_eq_some taken
    have isName := List.find?_some taken
    refine (reportsAt_singleton .duplicateInterface _).congr fun rule => ?_
    exact ⟨fun isRule => ⟨isRule, _, member, beq_iff_eq.mp isName⟩, fun both => both.1⟩

theorem reports_duplicateInterfaces
    (batch : Batch) :
    Reports (duplicateInterfaces [] batch.declarations) fun node rule =>
      node.In batch ∧ rule = .duplicateInterface ∧ node.Repeats := by
  rw [duplicateInterfaces_declarations]
  refine Reports.congr (Reports.withEarlier
    (fun document _ => Reports.withEarlier
      (fun interfaceAt _ => reports_takenName document interfaceAt) ?_) ?_) ?_
  · rintro interfaceAt otherInterface node rule ⟨rfl, -⟩ ⟨same, -⟩
    cases same
    rfl
  · rintro document other node rule ⟨interfaceAt, -, -, rfl, -⟩ ⟨otherInterface, -, -, same, -⟩
    cases same
    rfl
  · intro node rule
    cases node <;> simp [Node.In, Node.Repeats, and_assoc]

/-! ## The verdict -/

theorem reports_protocols
    (batch : Batch) :
    Reports (batch.protocols.flatMap (protocolViolations batch)) fun node rule =>
      node.In batch ∧ batch.Checks node.document ∧ node.Breaks batch rule := by
  rw [flatMap_eq_withEarlier _ batch.imports.reverse]
  refine (Reports.withEarlier (fun document _ => reports_protocol batch document) ?_).congr ?_
  · intro document other node rule here there
    exact here.1.document_eq.symm.trans there.1.document_eq
  · intro node rule
    rw [Node.in_iff, List.reverse_reverse, List.length_reverse]
    constructor
    · rintro ⟨document, checked, isIn, inside, breaks⟩
      rw [inside.document_eq]
      exact ⟨⟨isIn, inside⟩, checked, breaks⟩
    · rintro ⟨⟨isIn, inside⟩, checked, breaks⟩
      exact ⟨node.document, checked, isIn, inside, breaks⟩

/-- The violations of a batch report its offences. -/
theorem reports_violations
    (batch : Batch) :
    Reports (violations batch) batch.Offends := by
  refine ((reports_duplicateInterfaces batch).append (reports_protocols batch) ?_).congr ?_
  · rintro node rule ⟨-, rfl, -⟩ ⟨-, -, breaks⟩
    cases node <;> exact breaks
  · intro node rule
    exact and_or_left.symm

/-- A batch without offences is accepted, and any other one is answered by a report of them. -/
theorem check_eq
    (batch : Batch) :
    (check batch = .ok () ∧ violations batch = []) ∨
      (check batch = .error (violations batch) ∧ violations batch ≠ []) := by
  unfold check
  cases violations batch with
  | nil => exact Or.inl ⟨rfl, rfl⟩
  | cons first rest => exact Or.inr ⟨rfl, List.cons_ne_nil first rest⟩

theorem not_offends_of_check
    {batch : Batch}
    (accepted : check batch = .ok ())
    (node : Node)
    (rule : Rule) :
    ¬batch.Offends node rule := by
  rcases check_eq batch with ⟨-, empty⟩ | ⟨refused, -⟩
  · exact (reports_violations batch).eq_nil_iff.mp empty node rule
  · rw [refused] at accepted
    cases accepted

theorem Occurrence.in_append
    {α : Type}
    (before after : List α)
    (item : α) :
    Occurrence.In ⟨before, item⟩ (before ++ item :: after) :=
  ⟨after, by simp⟩

theorem exists_occurrence
    {α : Type}
    {list : List α}
    {item : α}
    (member : item ∈ list) :
    ∃ earlier, Occurrence.In ⟨earlier, item⟩ list := by
  obtain ⟨before, after, rfl⟩ := List.append_of_mem member
  exact ⟨before, Occurrence.in_append before after item⟩

section Checked

variable {batch : Batch} {protocol : Protocol} {interface : Interface}

/-- A protocol of a batch is a document behind all imports. -/
theorem exists_checked_document
    (checked : protocol ∈ batch.protocols) :
    ∃ earlier, Occurrence.In ⟨earlier, protocol⟩ batch.documents ∧
      batch.Checks ⟨earlier, protocol⟩ := by
  obtain ⟨before, after, split⟩ := List.append_of_mem checked
  refine ⟨batch.imports ++ before, ?_, ?_⟩
  · rw [Batch.documents, split, ← List.append_assoc]
    exact Occurrence.in_append _ _ _
  · simp [Batch.Checks]

/-- No interface of a checked protocol breaks a rule. -/
theorem not_interfaceBreaks_of_check
    (accepted : check batch = .ok ())
    (checked : protocol ∈ batch.protocols)
    (member : interface ∈ protocol.interfaces)
    (rule : Rule) :
    ¬InterfaceBreaks interface rule := by
  obtain ⟨documents, documentIn, isChecked⟩ := exists_checked_document checked
  obtain ⟨interfaces, interfaceIn⟩ := exists_occurrence member
  intro breaks
  exact not_offends_of_check accepted (.interface ⟨documents, protocol⟩ ⟨interfaces, interface⟩) rule
    ⟨⟨documentIn, interfaceIn⟩, Or.inr ⟨isChecked, breaks⟩⟩

/-- No message of a checked protocol breaks a rule. -/
theorem not_messageBreaks_of_check
    (accepted : check batch = .ok ())
    (checked : protocol ∈ batch.protocols)
    (member : interface ∈ protocol.interfaces)
    {direction : Wire.Direction}
    {message : Occurrence Message}
    (messageIn : message.In (interface.messages direction))
    (rule : Rule) :
    ¬MessageBreaks interface.version message rule := by
  obtain ⟨documents, documentIn, isChecked⟩ := exists_checked_document checked
  obtain ⟨interfaces, interfaceIn⟩ := exists_occurrence member
  intro breaks
  exact not_offends_of_check accepted
    (.message ⟨documents, protocol⟩ ⟨interfaces, interface⟩ direction message) rule
    ⟨⟨documentIn, interfaceIn, messageIn⟩, Or.inr ⟨isChecked, breaks⟩⟩

/-- No argument of a checked protocol breaks a rule. -/
theorem not_argBreaks_of_check
    (accepted : check batch = .ok ())
    (checked : protocol ∈ batch.protocols)
    (member : interface ∈ protocol.interfaces)
    {direction : Wire.Direction}
    {message : Occurrence Message}
    (messageIn : message.In (interface.messages direction))
    {arg : Occurrence Arg}
    (argIn : arg.In message.item.args)
    (rule : Rule) :
    ¬ArgBreaks batch interface arg rule := by
  obtain ⟨documents, documentIn, isChecked⟩ := exists_checked_document checked
  obtain ⟨interfaces, interfaceIn⟩ := exists_occurrence member
  intro breaks
  exact not_offends_of_check accepted
    (.arg ⟨documents, protocol⟩ ⟨interfaces, interface⟩ direction message arg) rule
    ⟨⟨documentIn, interfaceIn, messageIn, argIn⟩, Or.inr ⟨isChecked, breaks⟩⟩

end Checked

/-- The check accepts exactly the batches in which no node breaks a rule, and answers any other with
one violation for each node and each rule that it breaks. -/
theorem check_reports_each_offence_once
    (batch : Batch) :
    (check batch = .ok () ↔ ∀ node rule, ¬batch.Offends node rule) ∧
      ((∃ node rule, batch.Offends node rule) ↔
        ∃ found, check batch = .error found ∧ Reports found batch.Offends) := by
  have reports := reports_violations batch
  rcases check_eq batch with ⟨accepted, empty⟩ | ⟨refused, found⟩
  · have clean := reports.eq_nil_iff.mp empty
    rw [accepted]
    refine ⟨⟨fun _ => clean, fun _ => rfl⟩, ?_⟩
    constructor
    · rintro ⟨node, rule, offends⟩
      exact absurd offends (clean node rule)
    · rintro ⟨found, refused, -⟩
      cases refused
  · have unclean := mt reports.eq_nil_iff.mpr found
    rw [refused]
    have notAccepted : ¬Except.error (violations batch) = .ok () := fun accepted => by
      cases accepted
    refine ⟨⟨fun accepted => absurd accepted notAccepted, fun clean => absurd clean unclean⟩, ?_⟩
    simp only [not_forall, not_not] at unclean
    exact ⟨fun _ => ⟨_, rfl, reports⟩, fun _ => unclean⟩

end Wayland.Check
