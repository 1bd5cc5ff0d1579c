import Mathlib.Tactic.MkIffOfInductiveProp
import Wayland.Proofs.Document.Answer
import Wayland.Proofs.Document.Order
import Wayland.Proofs.Document.Outline

/-!
Contract: decoded records at their places in a tree.

Owns:
- what a record needs at its place, and the model that it becomes;
- that a record is finished exactly if it has what it needs, wherever its place is.

Does not own: how records are decoded, and which nodes stand at their places.
-/

namespace Wayland.Document.FromMapping

open Wayland.Document.Outline (IsTyped normalArg)
open Wayland.Model
open Wayland.Text (normalize trim)

variable {document : String} {parent : Path}

/-! ## Places -/

section Places

variable {α : Type}

/-- The parts of a list that stands at a spot, each with its own spot. -/
def Spot.place
    (spot : Spot)
    (parts : List α) :
    List (Spot × α) :=
  (spot.items parts.length).zip parts

theorem map_snd_place
    (spot : Spot)
    (parts : List α) :
    (spot.place parts).map Prod.snd = parts :=
  List.map_snd_zip (Nat.le_of_eq (length_items spot _).symm)

variable {finish : Spot → α → Except Error α} {fits : Spot → α → Prop} {finished : α → α}

/-- A part of a list fits at the spot that it has. -/
theorem exists_spot
    {spot : Spot}
    {parts : List α}
    {part : α}
    (all : ∀ placed ∈ spot.place parts, fits placed.1 placed.2)
    (isMember : part ∈ parts) :
    ∃ own, fits own part := by
  rw [← map_snd_place spot parts] at isMember
  obtain ⟨placed, isPlaced, rfl⟩ := List.mem_map.mp isMember
  exact ⟨placed.1, all placed isPlaced⟩

theorem finishAll_cons
    (latest : List α)
    (part : Spot × α)
    (rest : List (Spot × α)) :
    finishAll finish latest (part :: rest) =
      finish part.1 part.2 >>= fun value => finishAll finish (value :: latest) rest := by
  rw [finishAll]
  cases finish part.1 part.2 <;> rfl

theorem finishAll_answers
    (finishes : ∀ spot part, Answers (finish spot part) (fits spot part) (finished part))
    (latest : List α)
    (placed : List (Spot × α)) :
    Answers (finishAll finish latest placed) (∀ part ∈ placed, fits part.1 part.2)
      (latest.reverse ++ placed.map fun part => finished part.2) := by
  induction placed generalizing latest with
  | nil => exact (Answers.of_ok (by simp [finishAll])).congr (by simp)
  | cons part rest inductionHypothesis =>
      have both : (fits part.1 part.2 ∧ ∀ other ∈ rest, fits other.1 other.2) ↔
          ∀ other ∈ part :: rest, fits other.1 other.2 :=
        (List.forall_mem_cons (p := fun other : Spot × α => fits other.1 other.2)).symm
      rw [finishAll_cons]
      refine (((finishes part.1 part.2).bind fun _ =>
        inductionHypothesis (finished part.2 :: latest)).congr both).congr_value fun _ => ?_
      simp

/-- All parts of a list are finished at their spots, in order. -/
theorem place_answers
    (finishes : ∀ spot part, Answers (finish spot part) (fits spot part) (finished part))
    (spot : Spot)
    (parts : List α) :
    Answers (finishAll finish [] (spot.place parts)) (∀ part ∈ spot.place parts, fits part.1 part.2)
      (parts.map finished) := by
  refine (finishAll_answers finishes [] (spot.place parts)).congr_value fun _ => ?_
  conv_rhs => rw [← map_snd_place spot parts, List.map_map]
  rfl

end Places

/-! ## What is needed -/

/-- A message needs names and kinds.  Where its first version is zero, no key of its own says so. -/
@[mk_iff]
structure MessageFits
    (spot : Spot)
    (message : Message) : Prop where
  name : message.name ≠ ""
  since : message.since = 0 → spot.has "since" = false
  args : ∀ arg ∈ message.args, IsTyped arg ∧ arg.name ≠ ""

/-- The messages of a direction fit, and there is an opcode for each. -/
@[mk_iff]
structure MessagesFit
    (spot : Spot)
    (messages : List Message) : Prop where
  few : messages.length ≤ 0x10000
  each : ∀ placed ∈ spot.place messages, MessageFits placed.1 placed.2

/-- An entry needs a name, and a value under a key of its own. -/
@[mk_iff]
structure EntryFits
    (spot : Spot)
    (entry : Entry) : Prop where
  name : entry.name ≠ ""
  value : spot.has "value" = true

/-- An enumeration needs a name, and so on for its entries. -/
@[mk_iff]
structure EnumerationFits
    (spot : Spot)
    (enumeration : Enumeration) : Prop where
  name : enumeration.name ≠ ""
  entries : ∀ placed ∈ (spot.key "entries").place enumeration.entries, EntryFits placed.1 placed.2

/-- An interface needs a name, and so on for its parts.  Where its version is zero, a key of its own
says so. -/
@[mk_iff]
structure InterfaceFits
    (spot : Spot)
    (interface : Interface) : Prop where
  name : interface.name ≠ ""
  version : interface.version = 0 → spot.has "version" = true
  requests : MessagesFit (spot.key "requests") interface.requests
  events : MessagesFit (spot.key "events") interface.events
  enumerations : ∀ placed ∈ (spot.key "enums").place interface.enumerations,
    EnumerationFits placed.1 placed.2

/-- A protocol needs a name and an interface, and so on for its interfaces. -/
@[mk_iff]
structure ProtocolFits
    (root : Yaml.Node)
    (protocol : Protocol) : Prop where
  name : protocol.name ≠ ""
  inhabited : protocol.interfaces ≠ []
  interfaces : ∀ placed ∈ (Spot.key ⟨root, true⟩ "interfaces").place protocol.interfaces,
    InterfaceFits placed.1 placed.2

/-! ## What a record becomes -/

/-- A first version, which is one where it is zero. -/
def sinceOrOne
    (since : UInt32) :
    UInt32 :=
  if since == 0 then 1 else since

theorem sinceOrOne_ne_zero
    (since : UInt32) :
    sinceOrOne since ≠ 0 := by
  unfold sinceOrOne
  split
  · decide
  · rename_i notZero
    simpa using notZero

/-- A message with the given opcode, with its defaults and its texts in normal form. -/
def finishedMessage
    (opcode : Nat)
    (message : Message) :
    Message :=
  { message with
    opcode := UInt16.ofNat opcode
    since := sinceOrOne message.since
    description := normalDescription message.description
    args := message.args.map normalArg }

/-- The messages of a direction, each with its position as opcode. -/
def finishedMessages
    (messages : List Message) :
    List Message :=
  messages.zipIdx.map fun numbered => finishedMessage numbered.2 numbered.1

/-- An entry with its defaults and its texts in normal form. -/
def finishedEntry
    (entry : Entry) :
    Entry :=
  { entry with
    since := sinceOrOne entry.since
    summary := trim entry.summary
    description := normalDescription entry.description }

/-- An enumeration with its defaults and its texts in normal form. -/
def finishedEnumeration
    (enumeration : Enumeration) :
    Enumeration :=
  { enumeration with
    since := sinceOrOne enumeration.since
    description := normalDescription enumeration.description
    entries? := enumeration.entries?.map (·.map finishedEntry) }

/-- An interface with its texts in normal form and its parts finished. -/
def finishedInterface
    (interface : Interface) :
    Interface :=
  { interface with
    description := normalDescription interface.description
    requests := finishedMessages interface.requests
    events := finishedMessages interface.events
    enumerations := interface.enumerations.map finishedEnumeration }

/-- A protocol with its texts in normal form and its interfaces finished. -/
def finishedProtocol
    (document : String)
    (protocol : Protocol) :
    Protocol :=
  { protocol with
    document
    copyright := normalize protocol.copyright
    description := normalDescription protocol.description
    interfaces := protocol.interfaces.map finishedInterface }

/-! ## Finishing -/

theorem finishArg_answers
    (spot : Spot)
    (arg : Arg) :
    Answers (finishArg document parent spot arg) (IsTyped arg ∧ arg.name ≠ "") (normalArg arg) := by
  unfold finishArg
  refine (Answers.guarded ⟨_, rfl⟩ (Answers.guarded ⟨_, rfl⟩ (Answers.guarded ⟨_, rfl⟩
    (Answers.of_ok rfl)))).congr ?_
  have typed : IsTyped arg → arg.typeName ≠ "" := by
    intro isTyped isEmpty
    rw [IsTyped, isEmpty] at isTyped
    exact absurd isTyped (by decide)
  simp only [IsTyped, Option.isSome_iff_ne_none] at typed ⊢
  simp
  tauto

theorem finishMessage_answers
    {kind : String}
    (opcode : Nat)
    (spot : Spot)
    (message : Message) :
    Answers (finishMessage document kind parent opcode spot message) (MessageFits spot message)
      (finishedMessage opcode message) := by
  have args : Answers
      (finishAll (finishArg document (parent.push kind message.name)) []
        ((spot.key "args").place message.args))
      (∀ placed ∈ (spot.key "args").place message.args,
        IsTyped placed.2 ∧ placed.2.name ≠ "")
      (message.args.map normalArg) :=
    place_answers finishArg_answers (spot.key "args") message.args
  have each : (∀ placed ∈ (spot.key "args").place message.args,
      IsTyped placed.2 ∧ placed.2.name ≠ "") ↔
        ∀ arg ∈ message.args, IsTyped arg ∧ arg.name ≠ "" := by
    conv_rhs => rw [← map_snd_place (spot.key "args") message.args, List.forall_mem_map]
  unfold finishMessage
  refine (Answers.guarded ⟨_, rfl⟩ (Answers.guarded ⟨_, rfl⟩ ((args.congr each).bind fun _ =>
    Answers.of_ok ?_))).congr ?_
  · rfl
  · simp [messageFits_iff]

def finishNumbered
    (document kind : String)
    (parent : Path)
    (spot : Spot)
    (numbered : Message × Nat) :
    Except Error (Message × Nat) := do
  return (← finishMessage document kind parent numbered.2 spot numbered.1, numbered.2)

/-- The messages of a direction are finished like other parts of a list, each with its number. -/
theorem finishMessages_eq
    {kind : String}
    (spot : Spot)
    (messages : List Message) :
    finishMessages document kind parent spot messages =
      if messages.length > 0x10000 then fail document parent spot (.tooManyMessages kind)
      else
        finishAll (finishNumbered document kind parent) [] (spot.place messages.zipIdx) >>=
          fun numbered => .ok (numbered.map (·.1)) := by
  unfold finishMessages Spot.place
  rw [List.length_zipIdx]
  split <;> rfl

theorem finishMessages_answers
    {kind : String}
    (spot : Spot)
    (messages : List Message) :
    Answers (finishMessages document kind parent spot messages) (MessagesFit spot messages)
      (finishedMessages messages) := by
  have each (spot : Spot) (numbered : Message × Nat) :
      Answers (finishNumbered document kind parent spot numbered) (MessageFits spot numbered.1)
        (finishedMessage numbered.2 numbered.1, numbered.2) :=
    (finishMessage_answers numbered.2 spot numbered.1).map
  have fits : (∀ placed ∈ spot.place messages.zipIdx, MessageFits placed.1 placed.2.1) ↔
      ∀ placed ∈ spot.place messages, MessageFits placed.1 placed.2 := by
    have same : (spot.place messages.zipIdx).map (Prod.map id Prod.fst) = spot.place messages := by
      unfold Spot.place
      rw [← List.zip_map_right, List.zipIdx_map_fst, List.length_zipIdx]
    rw [← same, List.forall_mem_map]
    rfl
  rw [finishMessages_eq]
  refine (Answers.guarded ⟨_, rfl⟩ (((place_answers each spot messages.zipIdx).congr fits).bind
    fun _ => Answers.of_ok ?_)).congr ?_
  · simp [finishedMessages]
  · simp [messagesFit_iff]

theorem finishEntry_answers
    (spot : Spot)
    (entry : Entry) :
    Answers (finishEntry document parent spot entry) (EntryFits spot entry)
      (finishedEntry entry) := by
  unfold finishEntry
  refine (Answers.guarded ⟨_, rfl⟩ (Answers.guarded ⟨_, rfl⟩ (Answers.of_ok rfl))).congr ?_
  simp [entryFits_iff]

theorem finishEnumeration_answers
    (spot : Spot)
    (enumeration : Enumeration) :
    Answers (finishEnumeration document parent spot enumeration) (EnumerationFits spot enumeration)
      (finishedEnumeration enumeration) := by
  have entries := place_answers
    (@finishEntry_answers document (parent.push "enum" enumeration.name)) (spot.key "entries")
    enumeration.entries
  unfold finishEnumeration
  refine (Answers.guarded ⟨_, rfl⟩ (entries.bind fun _ => Answers.of_ok ?_)).congr ?_
  · unfold finishedEnumeration Enumeration.entries
    cases enumeration.entries? <;> rfl
  · simp [enumerationFits_iff]

theorem finishInterface_answers
    (spot : Spot)
    (interface : Interface) :
    Answers (finishInterface document parent spot interface) (InterfaceFits spot interface)
      (finishedInterface interface) := by
  let path := parent.push "interface" interface.name
  have requests := @finishMessages_answers document path "request" (spot.key "requests")
    interface.requests
  have events := @finishMessages_answers document path "event" (spot.key "events") interface.events
  have enumerations := place_answers (@finishEnumeration_answers document path) (spot.key "enums")
    interface.enumerations
  unfold finishInterface
  refine (Answers.guarded ⟨_, rfl⟩ (Answers.guarded ⟨_, rfl⟩ (requests.bind fun _ =>
    events.bind fun _ => enumerations.bind fun _ => Answers.of_ok ?_))).congr ?_
  · rfl
  · simp [interfaceFits_iff]

/-- A protocol is finished exactly if it has what it needs. -/
theorem finishProtocol_answers
    (root : Yaml.Node)
    (protocol : Protocol) :
    Answers (finishProtocol document root protocol) (ProtocolFits root protocol)
      (finishedProtocol document protocol) := by
  have interfaces := place_answers
    (@finishInterface_answers document (Path.push [] "protocol" protocol.name))
    (Spot.key ⟨root, true⟩ "interfaces") protocol.interfaces
  unfold finishProtocol
  refine (Answers.guarded ⟨_, rfl⟩ (Answers.guarded ⟨_, rfl⟩ (interfaces.bind fun _ =>
    Answers.of_ok ?_))).congr ?_
  · rfl
  · simp [protocolFits_iff]

/-! ## Documents -/

section Documents

variable {bytes : Text.Bytes} {tree : Yaml.Document} {written protocol : Protocol}

/-- A document whose tree is decoded is read if the decoded record has what it needs. -/
theorem readMapping_decoded
    (isTree : Yaml.Document.ofBytes bytes = .ok (some tree))
    (isDecoded : protocolShape.ofDocument (bytes.length + 1) {} tree = .ok (.ok written)) :
    readMapping document bytes = finishProtocol document tree.root written := by
  unfold readMapping
  simp only [isTree, isDecoded]

/-- A document that is read has a tree, which is decoded and finished. -/
theorem exists_decoded
    (read : readMapping document bytes = .ok protocol) :
    ∃ tree written, Yaml.Document.ofBytes bytes = .ok (some tree) ∧
      protocolShape.ofDocument (bytes.length + 1) {} tree = .ok (.ok written) ∧
      ProtocolFits tree.root written ∧ protocol = finishedProtocol document written := by
  have source := read
  unfold readMapping at source
  split at source
  · cases source
  · cases source
  · rename_i tree isTree
    split at source
    · cases source
    · cases source
    · rename_i written isDecoded
      obtain ⟨fits, isFinished⟩ :=
        ((finishProtocol_answers tree.root written).eq_ok_iff protocol).mp source
      exact ⟨tree, written, isTree, isDecoded, fits, isFinished⟩

end Documents

end Wayland.Document.FromMapping
