import Wayland.Proofs.Document.Answer
import Wayland.Proofs.Document.MarkupForm
import Wayland.Proofs.Text.Numeral

/-!
Contract: what is read from the markup of an outline.

Owns: that a document in markup is read exactly if its outline is readable, and then gives the model
of the outline.

Does not own: documents that are no outlines.
-/

namespace Wayland.Document

namespace FromMarkup

open Wayland.Document.FromMapping (normalDescription)
open Wayland.Markup (Attribute Node Tree bindingWord)
open Wayland.Model (Arg Description)
open Wayland.Text
open Outline

variable {document : String} {path : Path} {element : Element}

/-! ## Attributes -/

theorem lookup_cons_attributes
    {given : Attribute}
    {rest : List Attribute}
    {values : Values}
    (different : ((given :: rest).map (·.name.label)).Nodup)
    (label : String) :
    ((rest.find? (·.name.label == label)).map (·.value)).or
        (((given.name.label, given.value) :: values).lookup label) =
      (((given :: rest).find? (·.name.label == label)).map (·.value)).or (values.lookup label) := by
  by_cases isLabel : given.name.label = label
  · subst isLabel
    have notLater : rest.find? (·.name.label == given.name.label) = none := by
      rw [List.find?_eq_none]
      intro other isMember same
      rw [beq_iff_eq] at same
      rw [List.map_cons, List.nodup_cons] at different
      exact different.1 (same ▸ List.mem_map_of_mem isMember)
    simp [notLater]
  · have notHere : (label == given.name.label) = false :=
      beq_eq_false_iff_ne.mpr fun same => isLabel same.symm
    simp [List.find?_cons_of_neg, isLabel, List.lookup_cons, notHere]

theorem collect_ok
    {line : Nat}
    {known : List String}
    {values : Values}
    {attributes : List Attribute}
    (unqualified : ∀ given ∈ attributes, given.name.space = "")
    (areKnown : ∀ given ∈ attributes, given.name.label ∈ known)
    (noBinding : bindingWord ∉ known)
    (different : (attributes.map (·.name.label)).Nodup) :
    ∃ collected, collect document path line known values attributes = .ok collected ∧
      ∀ label, collected.lookup label =
        ((attributes.find? (·.name.label == label)).map (·.value)).or (values.lookup label) := by
  induction attributes generalizing values with
  | nil => exact ⟨values, rfl, fun _ => rfl⟩
  | cons given rest inductionHypothesis =>
      obtain ⟨plain, restPlain⟩ := List.forall_mem_cons.mp unqualified
      obtain ⟨isKnown, restKnown⟩ := List.forall_mem_cons.mp areKnown
      have restDifferent := (List.nodup_cons.mp different).2
      have notBinding : given.name.label ≠ bindingWord := by
        intro isBinding
        exact noBinding (isBinding ▸ isKnown)
      have takes : collect document path line known values (given :: rest) =
          collect document path line known ((given.name.label, given.value) :: values) rest := by
        have noSpace : ("" == bindingWord) = false := by decide
        simp [collect, plain, noSpace, notBinding, isKnown]
      obtain ⟨collected, isCollected, lookup⟩ :=
        @inductionHypothesis ((given.name.label, given.value) :: values) restPlain restKnown
          restDifferent
      refine ⟨collected, takes.trans isCollected, fun label => ?_⟩
      rw [lookup, lookup_cons_attributes different]

/-- The attributes of a plain element are read as they stand. -/
theorem attributes_ok
    {tag : String}
    {required optional : List String}
    (plain : element.IsPlain tag (required ++ optional))
    (noBinding : bindingWord ∉ required ++ optional)
    (present : ∀ name ∈ required, (element.attribute? name).isSome = true) :
    ∃ values, attributes document path element required optional = .ok values ∧
      ∀ name, values.lookup name = element.attribute? name := by
  obtain ⟨values, collected, lookup⟩ := @collect_ok document path element.line
    (required ++ optional) [] element.attributes plain.unqualified plain.known noBinding
    plain.different
  have read : ∀ name, values.lookup name = element.attribute? name := by
    intro name
    rw [lookup]
    simp [Element.attribute?]
  refine ⟨values, ?_, read⟩
  have noneMissing : (required.find? fun name => (values.lookup name).isNone) = none := by
    rw [List.find?_eq_none]
    intro name isRequired
    have isSome := present name isRequired
    rw [← read] at isSome
    simp [Option.isNone_iff_eq_none, Option.isSome_iff_ne_none.mp isSome]
  unfold attributes
  rw [collected]
  simp only [noneMissing, bind, Except.bind, pure, Except.pure]

/-! ## Values -/

variable {values : Values} {line : Nat} {name : String}

theorem value_eq
    {text : String}
    (writes : WritesText (values.lookup name) text) :
    value values name = text :=
  writes

/-- A number in decimal is read if it fits. -/
theorem number_answers
    {number? : Option Nat}
    {absent : UInt32}
    (writes : WritesNumber (values.lookup name) absent.toNat number?) :
    Answers (number document path line values name absent) (Fits number?)
      (UInt32.ofNat (number?.getD absent.toNat)) := by
  have ofDigits {written : Nat} (found : values.lookup name = some (toString written)) :
      Answers (number document path line values name absent) (written < UInt32.size)
        (UInt32.ofNat written) := by
    unfold number
    rw [found]
    dsimp only
    rw [readUInt32?_toString]
    constructor
    · intro fits
      have small : written < 2 ^ 32 := fits
      rw [if_pos small]
    · intro large
      have notSmall : ¬written < 2 ^ 32 := large
      rw [if_neg notSmall]
      exact ⟨_, rfl⟩
  obtain found | ⟨rfl, found⟩ := writes
  · cases number? with
    | none =>
        unfold number
        rw [found]
        refine (Answers.of_ok ?_).congr ?_
        · simp
        · simp [Fits, UInt32.size]
    | some written => exact ofDigits found
  · have small : absent.toNat < UInt32.size := absent.toNat_lt
    exact (ofDigits found).congr (iff_of_true small (by simp [Fits, UInt32.size]))

theorem flag_ok
    {flag : Bool}
    (writes : WritesFlag (values.lookup name) flag) :
    FromMarkup.flag document path line values name = .ok flag := by
  unfold FromMarkup.flag
  unfold WritesFlag at writes
  cases found : values.lookup name with
  | none =>
      rw [found] at writes
      cases flag with
      | false => rfl
      | true => exact absurd writes (by decide)
  | some text =>
      rw [found] at writes
      simp only [Option.getD_some] at writes
      subst writes
      cases flag <;> rfl

/-! ## Content -/

section Content

variable {σ : Type} {child : σ → Element → Except Error σ}

theorem contentFrom_eq_foldlM
    (state : σ)
    (before : List String)
    (nodes : List Node) :
    contentFrom document path child none state before nodes =
      ((elements nodes).foldlM child state).map fun state =>
        (state, String.join before.reverse ++ String.join (texts nodes)) := by
  induction nodes generalizing state before with
  | nil => simp [contentFrom, elements, texts, Except.map, pure, Except.pure]
  | cons node rest inductionHypothesis =>
      cases node with
      | text content line =>
          rw [contentFrom, inductionHypothesis]
          simp [elements, texts, String.append_assoc]
      | element tag attributes line content cut =>
          simp only [contentFrom, elements, texts, List.foldlM_cons]
          cases child state ⟨tag, attributes, line, content, cut⟩ with
          | error error => rfl
          | ok next => exact inductionHypothesis next before

/-- The children of a whole element are read one after another. -/
theorem content_eq_foldlM
    (whole : element.cut = none)
    (initial : σ) :
    content document path element initial child =
      ((elements element.content).foldlM child initial).map fun state => (state, element.text) := by
  unfold content
  rw [whole, contentFrom_eq_foldlM]
  simp [Element.text]

theorem trim_of_spaced
    (spaced : element.IsSpaced) :
    (trim element.text).isEmpty = true := by
  have blank : ∀ char ∈ element.text.toList, isBlank char = true := by
    intro char isMember
    unfold Element.text at isMember
    rw [String.toList_join] at isMember
    obtain ⟨text, isText, inText⟩ := List.mem_flatMap.mp isMember
    exact spaced text isText char inText
  simp [trim, trimChars_eq_nil_of_blank blank]

/-- Where only white space stands between them, reading the children is all there is to do. -/
theorem children_eq_foldlM
    (whole : element.cut = none)
    (spaced : element.IsSpaced)
    (initial : σ) :
    children document path element initial child =
      (elements element.content).foldlM child initial := by
  unfold children
  rw [content_eq_foldlM whole]
  cases (elements element.content).foldlM child initial with
  | error error => rfl
  | ok state =>
      simp only [Except.map, bind, Except.bind, trim_of_spaced spaced, if_true]
      rfl

theorem leaf_ok
    (whole : element.cut = none)
    (childless : elements element.content = []) :
    leaf document path element = .ok element.text := by
  unfold leaf
  rw [content_eq_foldlM whole, childless]
  rfl

end Content

/-! ## Descriptions and arguments -/

theorem description_ok
    {written : Description}
    (described : DescriptionIn element written) :
    FromMarkup.description document path element none = .ok (some (normalDescription written)) := by
  obtain ⟨values, isOk, lookup⟩ := @attributes_ok document (path.push "description" "") element
    "description" [] ["summary"] described.plain (by decide) (by simp)
  have summary : (values.lookup "summary").getD "" = written.summary := by
    rw [lookup]
    exact described.summary
  simp only [FromMarkup.description, Option.isSome_none, Bool.false_eq_true, if_false, isOk,
    leaf_ok described.plain.whole described.childless, bind, Except.bind, pure, Except.pure,
    summary, described.text.normalize_eq]
  rfl

theorem normalDescription_getD
    (description? : Option Description) :
    (description?.map normalDescription).getD {} = normalDescription (description?.getD {}) := by
  cases description? with
  | none => rfl
  | some description => rfl

/-- A child of an element that holds items under a tag. -/
def partsChild
    {α : Type}
    (document : String)
    (path : Path)
    (tag : String)
    (item : Element → Except Error α)
    (parts : Parts α)
    (child : Element) :
    Except Error (Parts α) := do
  if child.tag == "description" then
    return { parts with
      description := ← FromMarkup.description document path child parts.description }
  else if child.tag == tag then
    return { parts with items := parts.items.push (← item child) }
  else unknownChild document path child

section Parts

variable {α β : Type} {tag : String} {item : Element → Except Error β}
variable {itemIn : Element → α → Prop} {fits : α → Prop} {meaning : α → β}

/-- Items and a description are read in any mixture, each kind in its order. -/
theorem partsChild_answers
    (notDescription : tag ≠ "description")
    (tagged : ∀ child value, itemIn child value → child.tag = tag)
    (reads : ∀ child value, itemIn child value →
      Answers (item child) (fits value) (meaning value))
    {description? : Option Description}
    {items : List α}
    {children : List Element}
    (partsIn : PartsIn itemIn description? items children)
    (state : Parts β)
    (once : description?.isSome → state.description = none) :
    Answers (children.foldlM (partsChild document path tag item) state)
      (∀ value ∈ items, fits value)
      { description := (description?.map normalDescription).or state.description
        items := state.items ++ items.map meaning } := by
  induction partsIn generalizing state with
  | nil => exact (Answers.of_ok (by simp [pure, Except.pure])).congr (by simp)
  | @item description? items children child value isItem rest inductionHypothesis =>
      have step : partsChild document path tag item state child =
          item child >>= fun read => .ok { state with items := state.items.push read } := by
        simp [partsChild, tagged child value isItem, notDescription]
        rfl
      rw [List.foldlM_cons, step]
      refine (((reads child value isItem).map.bind fun _ =>
        inductionHypothesis { state with items := state.items.push (meaning value) } once).congr
          ?_).congr_value fun _ => ?_
      · simp
      · simp
  | @description items children child written isDescription rest inductionHypothesis =>
      have step : partsChild document path tag item state child =
          .ok { state with description := some (normalDescription written) } := by
        simp only [partsChild, isDescription.plain.tag, once rfl, description_ok isDescription]
        rfl
      rw [List.foldlM_cons, step]
      exact (inductionHypothesis { state with description := some (normalDescription written) }
        (by simp)).congr_value fun _ => by simp

/-- The children of an element with items and documentation. -/
theorem parts_answers
    (notDescription : tag ≠ "description")
    (tagged : ∀ child value, itemIn child value → child.tag = tag)
    (reads : ∀ child value, itemIn child value →
      Answers (item child) (fits value) (meaning value))
    (whole : element.cut = none)
    {description : Description}
    {items : List α}
    (childrenIn : ChildrenIn itemIn element description items) :
    ∃ parts, Answers (children document path element {} (partsChild document path tag item))
        (∀ value ∈ items, fits value) parts ∧
      parts.description.getD {} = normalDescription description ∧
      parts.items.toList = items.map meaning := by
  obtain ⟨spaced, description?, isDescription, partsIn⟩ := childrenIn
  have answers := @partsChild_answers document path _ _ tag item itemIn fits meaning notDescription
    tagged reads description? items _ partsIn {} fun _ => rfl
  rw [← children_eq_foldlM whole spaced] at answers
  refine ⟨_, answers, ?_, ?_⟩
  · rw [← isDescription, ← normalDescription_getD, Option.or_none]
  · simp

end Parts

theorem onlyDescription_ok
    {written : Description}
    (whole : element.cut = none)
    (childrenIn : OnlyDescriptionIn element written) :
    ∃ found, children document path element none (onlyDescription document path) = .ok found ∧
      found.getD {} = normalDescription written := by
  obtain ⟨spaced, description?, isDescription, partsIn⟩ := childrenIn
  rw [children_eq_foldlM whole spaced]
  generalize elements element.content = children at partsIn
  refine ⟨description?.map normalDescription, ?_, by rw [← isDescription, normalDescription_getD]⟩
  cases partsIn with
  | nil => rfl
  | description described rest =>
      cases rest with
      | nil =>
          simp [onlyDescription, described.plain.tag, description_ok described, pure_eq_ok, ok_bind]

theorem arg_answers
    {written : Arg}
    (argIn : ArgIn element written) :
    Answers (FromMarkup.arg document path element) (IsTyped written) (normalArg written) := by
  obtain ⟨values, isOk, lookup⟩ := @attributes_ok document (path.push "arg" "") element "arg"
    ["name", "type"] ["summary", "interface", "allow-null", "enum"] argIn.plain (by decide)
    (by simp [argIn.name, argIn.typeName])
  have name : value values "name" = written.name := by simp [value, lookup, argIn.name]
  have typeName : value values "type" = written.typeName := by simp [value, lookup, argIn.typeName]
  have summary : value values "summary" = written.summary :=
    value_eq (by rw [lookup]; exact argIn.summary)
  have interface : value values "interface" = written.interface :=
    value_eq (by rw [lookup]; exact argIn.interface)
  have enumeration : value values "enum" = written.enumeration :=
    value_eq (by rw [lookup]; exact argIn.enumeration)
  have nullable := @flag_ok document (path.push "arg" written.name) values element.line "allow-null"
    written.nullable (by rw [lookup]; exact argIn.nullable)
  obtain ⟨found, readFound, isFound⟩ := @onlyDescription_ok document
    (path.push "arg" written.name) element written.description argIn.plain.whole argIn.children
  unfold FromMarkup.arg
  simp only [isOk, ok_bind, name, typeName, summary, interface, enumeration, nullable, readFound,
    isFound]
  refine ((Answers.of_ok rfl).guarded ⟨_, rfl⟩).congr ?_
  simp [IsTyped, Option.isSome_iff_ne_none]

/-! ## Messages and enumerations -/

theorem entry_answers
    {written : Entry}
    (entryIn : EntryIn element written) :
    Answers (FromMarkup.entry document path element) written.Readable written.model := by
  obtain ⟨values, isOk, lookup⟩ := @attributes_ok document (path.push "entry" "") element "entry"
    ["name", "value"] ["summary", "since", "deprecated-since"] entryIn.plain (by decide)
    (by simp [entryIn.name, entryIn.value])
  have name : value values "name" = written.name := by simp [value, lookup, entryIn.name]
  have summary : value values "summary" = written.summary :=
    value_eq (by rw [lookup]; exact entryIn.summary)
  let inner := path.push "entry" written.name
  obtain ⟨found, readFound, isFound⟩ := @onlyDescription_ok document inner element
    written.description entryIn.plain.whole entryIn.children
  have number := @number_answers document inner values element.line "value" (some written.value) 0
    (Or.inl (by rw [lookup]; exact entryIn.value))
  have since := @number_answers document inner values element.line "since" written.since? 1
    (by rw [lookup]; exact entryIn.since)
  have deprecatedSince := @number_answers document inner values element.line "deprecated-since"
    written.deprecatedSince? 0 (by rw [lookup]; exact entryIn.deprecatedSince)
  unfold FromMarkup.entry
  simp only [isOk, ok_bind, name, summary]
  refine (number.bind fun _ => since.bind fun _ => deprecatedSince.bind fun _ =>
    Answers.of_ok ?_).congr ?_
  · simp only [inner, readFound, ok_bind, isFound]
    rfl
  · simp [Entry.Readable, Fits]

/-- A message is read to its end once it is known whether it is a destructor. -/
def messageEnd
    (document : String)
    (path : Path)
    (element : Element)
    (values : Values)
    (name : String)
    (opcode : Nat)
    (destructor : Bool) :
    Except Error Model.Message := do
  let since ← number document path element.line values "since" 1
  let deprecatedSince ← number document path element.line values "deprecated-since" 0
  let parts ← children document path element {}
    (partsChild document path "arg" (FromMarkup.arg document path))
  return {
    name, since, deprecatedSince, destructor
    opcode := UInt16.ofNat opcode
    description := parts.description.getD {}
    args := parts.items.toList }

theorem message_answers
    {tag : String}
    {written : Message}
    (messageIn : MessageIn tag element written)
    (opcode : Nat) :
    Answers (FromMarkup.message document path opcode element)
      (opcode < 0x10000 ∧ written.Readable) (written.model opcode) := by
  obtain ⟨values, isOk, lookup⟩ := @attributes_ok document (path.push element.tag "") element tag
    ["name"] ["type", "since", "deprecated-since"] messageIn.plain (by decide)
    (by simp [messageIn.name])
  have name : value values "name" = written.name := by simp [value, lookup, messageIn.name]
  let inner := path.push element.tag written.name
  have since := @number_answers document inner values element.line "since" written.since? 1
    (by rw [lookup]; exact messageIn.since)
  have deprecatedSince := @number_answers document inner values element.line "deprecated-since"
    written.deprecatedSince? 0 (by rw [lookup]; exact messageIn.deprecatedSince)
  obtain ⟨parts, readParts, description, items⟩ := @parts_answers document inner element _ _ "arg"
    (FromMarkup.arg document inner) ArgIn IsTyped normalArg (by decide)
    (fun child value isArg => isArg.plain.tag) (fun child value isArg => arg_answers isArg)
    messageIn.plain.whole _ _ messageIn.children
  have rest (destructor : Bool) :
      Answers (messageEnd document inner element values written.name opcode destructor)
        written.Readable { written.model opcode with destructor } := by
    refine (since.bind fun _ => deprecatedSince.bind fun _ => readParts.bind fun _ =>
      Answers.of_ok ?_).congr ?_
    · rw [description, items]
      rfl
    · simp [Message.Readable]
  unfold FromMarkup.message
  simp only [isOk, ok_bind, name, lookup, messageIn.destructor]
  refine (Answers.guarded ⟨_, rfl⟩ (?_ : Answers _ written.Readable _)).congr ?_
  · cases isDestructor : written.destructor with
    | false =>
        refine (rest false).congr_value fun _ => ?_
        simp [Message.model, isDestructor]
    | true =>
        refine (rest true).congr_value fun _ => ?_
        simp [Message.model, isDestructor]
  · have sameBound : ¬opcode > 0xffff ↔ opcode < 0x10000 := by omega
    rw [sameBound]

theorem enumeration_answers
    {written : Enumeration}
    (enumerationIn : EnumerationIn element written) :
    Answers (FromMarkup.enumeration document path element) written.Readable written.model := by
  obtain ⟨values, isOk, lookup⟩ := @attributes_ok document (path.push "enum" "") element "enum"
    ["name"] ["since", "bitfield"] enumerationIn.plain (by decide) (by simp [enumerationIn.name])
  have name : value values "name" = written.name := by simp [value, lookup, enumerationIn.name]
  let inner := path.push "enum" written.name
  have since := @number_answers document inner values element.line "since" written.since? 1
    (by rw [lookup]; exact enumerationIn.since)
  have bitfield := @flag_ok document inner values element.line "bitfield" written.bitfield
    (by rw [lookup]; exact enumerationIn.bitfield)
  obtain ⟨parts, readParts, description, items⟩ := @parts_answers document inner element _ _ "entry"
    (FromMarkup.entry document inner) EntryIn Entry.Readable Entry.model (by decide)
    (fun child value isEntry => isEntry.plain.tag)
    (fun child value isEntry => entry_answers isEntry)
    enumerationIn.plain.whole _ _ enumerationIn.children
  have entries : (if parts.items.isEmpty then none else some parts.items.toList) =
      written.model.entries? := by
    rw [← Array.isEmpty_toList, items, List.isEmpty_map]
    have listed := enumerationIn.listed
    cases isGiven : written.entries? with
    | none => simp [Enumeration.entries, Enumeration.model, isGiven]
    | some entries =>
        have notEmpty : entries ≠ [] := by simpa [isGiven] using listed
        simp [Enumeration.entries, Enumeration.model, isGiven, notEmpty]
  unfold FromMarkup.enumeration
  simp only [isOk, ok_bind, name]
  refine (since.bind fun _ => Answers.bind (Answers.of_ok bitfield) fun _ => readParts.bind fun _ =>
    Answers.of_ok ?_).congr ?_
  · rw [description, entries]
    rfl
  · simp [Enumeration.Readable]

/-! ## Interfaces -/

/-- Messages of one direction that can be read behind those that are read already. -/
def ReadableBehind
    (taken : Nat)
    (messages : List Message) : Prop :=
  (messages = [] ∨ taken + messages.length ≤ 0x10000) ∧ ∀ message ∈ messages, message.Readable

theorem readableBehind_nil
    (taken : Nat) :
    ReadableBehind taken [] := by
  simp [ReadableBehind]

theorem readableBehind_cons
    {taken : Nat}
    {message : Message}
    {rest : List Message} :
    ReadableBehind taken (message :: rest) ↔
      (taken < 0x10000 ∧ message.Readable) ∧ ReadableBehind (taken + 1) rest := by
  have room : taken + (rest.length + 1) ≤ 0x10000 ↔
      taken < 0x10000 ∧ (rest = [] ∨ taken + 1 + rest.length ≤ 0x10000) := by
    cases rest with
    | nil =>
        simp only [List.length_nil, true_or, and_true]
        omega
    | cons second others =>
        simp only [List.length_cons, reduceCtorEq, false_or]
        omega
  simp only [ReadableBehind, reduceCtorEq, false_or, List.length_cons, room, List.forall_mem_cons]
  tauto

theorem readableBehind_zero
    {messages : List Message} :
    ReadableBehind 0 messages ↔ MessagesReadable messages := by
  cases messages with
  | nil => simp [ReadableBehind, MessagesReadable]
  | cons message rest => simp [ReadableBehind, MessagesReadable]

/-- Requests, events, enumerations and a description are read in any mixture, each kind in its
order. -/
theorem members_answers
    {description? : Option Description}
    {requests events : List Message}
    {enumerations : List Enumeration}
    {children : List Element}
    (membersIn : MembersIn description? requests events enumerations children)
    (state : InterfaceParts)
    (once : description?.isSome → state.description = none) :
    Answers (children.foldlM (interfaceChild document path) state)
      (ReadableBehind state.requests.size requests ∧ ReadableBehind state.events.size events ∧
        ∀ enumeration ∈ enumerations, enumeration.Readable)
      { description := (description?.map normalDescription).or state.description
        requests := state.requests ++ models state.requests.size requests
        events := state.events ++ models state.events.size events
        enumerations := state.enumerations ++ enumerations.map Enumeration.model } := by
  induction membersIn generalizing state with
  | nil =>
      exact (Answers.of_ok (by simp [pure_eq_ok, models_nil])).congr
        (by simp [readableBehind_nil])
  | @request description? requests events enumerations children child message isRequest rest
      inductionHypothesis =>
      have step : interfaceChild document path state child =
          FromMarkup.message document path state.requests.size child >>= fun read =>
            .ok { state with requests := state.requests.push read } := by
        simp [interfaceChild, isRequest.plain.tag]
        rfl
      rw [List.foldlM_cons, step]
      let next : InterfaceParts :=
        { state with requests := state.requests.push (message.model state.requests.size) }
      refine (((message_answers isRequest state.requests.size).map.bind fun _ =>
        inductionHypothesis next once).congr ?_).congr_value fun _ => ?_
      · simp only [readableBehind_cons, next, Array.size_push]
        tauto
      · simp [models_cons, next]
  | @event description? requests events enumerations children child message isEvent rest
      inductionHypothesis =>
      have step : interfaceChild document path state child =
          FromMarkup.message document path state.events.size child >>= fun read =>
            .ok { state with events := state.events.push read } := by
        simp [interfaceChild, isEvent.plain.tag]
        rfl
      rw [List.foldlM_cons, step]
      let next : InterfaceParts :=
        { state with events := state.events.push (message.model state.events.size) }
      refine (((message_answers isEvent state.events.size).map.bind fun _ =>
        inductionHypothesis next once).congr ?_).congr_value fun _ => ?_
      · simp only [readableBehind_cons, next, Array.size_push]
        tauto
      · simp [models_cons, next]
  | @enumeration description? requests events enumerations children child enumeration
      isEnumeration rest inductionHypothesis =>
      have step : interfaceChild document path state child =
          FromMarkup.enumeration document path child >>= fun read =>
            .ok { state with enumerations := state.enumerations.push read } := by
        simp [interfaceChild, isEnumeration.plain.tag]
        rfl
      rw [List.foldlM_cons, step]
      let next : InterfaceParts :=
        { state with enumerations := state.enumerations.push enumeration.model }
      refine (((enumeration_answers isEnumeration).map.bind fun _ =>
        inductionHypothesis next once).congr ?_).congr_value fun _ => ?_
      · simp only [List.forall_mem_cons, next]
        tauto
      · simp [next]
  | @description requests events enumerations children child written isDescription rest
      inductionHypothesis =>
      have step : interfaceChild document path state child =
          .ok { state with description := some (normalDescription written) } := by
        simp only [interfaceChild, isDescription.plain.tag, once rfl, description_ok isDescription]
        rfl
      rw [List.foldlM_cons, step, ok_bind]
      exact (inductionHypothesis { state with description := some (normalDescription written) }
        (by simp)).congr_value fun _ => by simp

theorem interface_answers
    {written : Interface}
    (interfaceIn : InterfaceIn element written) :
    Answers (FromMarkup.interface document path element) written.Readable written.model := by
  obtain ⟨values, isOk, lookup⟩ := @attributes_ok document (path.push "interface" "") element
    "interface" ["name", "version"] ["frozen"] interfaceIn.plain (by decide)
    (by simp [interfaceIn.name, interfaceIn.version])
  have name : value values "name" = written.name := by simp [value, lookup, interfaceIn.name]
  let inner := path.push "interface" written.name
  have version := @number_answers document inner values element.line "version"
    (some written.version) 0 (Or.inl (by rw [lookup]; exact interfaceIn.version))
  have frozen := @flag_ok document inner values element.line "frozen" written.frozen
    (by rw [lookup]; exact interfaceIn.frozen)
  obtain ⟨description?, isDescription, membersIn⟩ := interfaceIn.members
  have members := @members_answers document inner _ _ _ _ _ membersIn {} fun _ => rfl
  rw [← children_eq_foldlM interfaceIn.plain.whole interfaceIn.spaced] at members
  unfold FromMarkup.interface
  simp only [isOk, ok_bind, name]
  refine (version.bind fun _ => Answers.bind (Answers.of_ok frozen) fun _ => members.bind fun _ =>
    Answers.of_ok ?_).congr ?_
  · simp only [Option.or_none, normalDescription_getD, isDescription]
    simp [Interface.model, pure_eq_ok]
  · simp only [Interface.Readable, Fits, Option.getD_some, readableBehind_zero, true_and, and_true,
      Array.size_empty]

/-! ## Protocols -/

theorem copyright_ok
    {copyright : String}
    (copyrightIn : CopyrightIn element copyright)
    (state : ProtocolParts)
    (first : state.copyright = none) :
    protocolChild document path state element =
      .ok { state with copyright := some (normalize copyright) } := by
  obtain ⟨values, isOk, -⟩ := @attributes_ok document (path.push "copyright" "") element
    "copyright" [] [] copyrightIn.plain (by decide) (by simp)
  simp only [protocolChild, copyrightIn.plain.tag, first, isOk, BEq.rfl, if_true,
    Option.isSome_none, Bool.false_eq_true, if_false, ok_bind, pure_eq_ok,
    leaf_ok copyrightIn.plain.whole copyrightIn.childless, copyrightIn.text.normalize_eq]

/-- Interfaces, a notice of rights and a description are read in any mixture, the interfaces in
their order. -/
theorem interfaces_answers
    {copyright? : Option String}
    {description? : Option Description}
    {interfaces : List Interface}
    {children : List Element}
    (interfacesIn : InterfacesIn copyright? description? interfaces children)
    (state : ProtocolParts)
    (oneCopyright : copyright?.isSome → state.copyright = none)
    (once : description?.isSome → state.description = none) :
    Answers (children.foldlM (protocolChild document path) state)
      (∀ interface ∈ interfaces, interface.Readable)
      { copyright := (copyright?.map normalize).or state.copyright
        description := (description?.map normalDescription).or state.description
        interfaces := state.interfaces ++ interfaces.map Interface.model } := by
  induction interfacesIn generalizing state with
  | nil => exact (Answers.of_ok (by simp [pure_eq_ok])).congr (by simp)
  | @interface copyright? description? interfaces children child interface isInterface rest
      inductionHypothesis =>
      have step : protocolChild document path state child =
          FromMarkup.interface document path child >>= fun read =>
            .ok { state with interfaces := state.interfaces.push read } := by
        simp [protocolChild, isInterface.plain.tag]
        rfl
      rw [List.foldlM_cons, step]
      let next : ProtocolParts :=
        { state with interfaces := state.interfaces.push interface.model }
      refine (((interface_answers isInterface).map.bind fun _ =>
        inductionHypothesis next oneCopyright once).congr ?_).congr_value fun _ => ?_
      · simp only [List.forall_mem_cons]
      · simp [next]
  | @copyright description? interfaces children child copyright isCopyright rest
      inductionHypothesis =>
      rw [List.foldlM_cons, copyright_ok isCopyright state (oneCopyright rfl), ok_bind]
      exact (inductionHypothesis { state with copyright := some (normalize copyright) }
        (by simp) once).congr_value fun _ => by simp
  | @description copyright? interfaces children child written isDescription rest
      inductionHypothesis =>
      have step : protocolChild document path state child =
          .ok { state with description := some (normalDescription written) } := by
        simp only [protocolChild, isDescription.plain.tag, once rfl, description_ok isDescription]
        rfl
      rw [List.foldlM_cons, step, ok_bind]
      exact (inductionHypothesis { state with description := some (normalDescription written) }
        oneCopyright (by simp)).congr_value fun _ => by simp

theorem protocol_answers
    {written : Outline.Protocol}
    (protocolIn : ProtocolIn element written) :
    Answers (FromMarkup.protocol document element) written.Readable (written.model document) := by
  obtain ⟨values, isOk, lookup⟩ := @attributes_ok document ["protocol"] element "protocol" ["name"]
    [] protocolIn.plain (by decide) (by simp [protocolIn.name])
  have name : value values "name" = written.name := by simp [value, lookup, protocolIn.name]
  let inner := Path.push [] "protocol" written.name
  obtain ⟨copyright?, description?, isCopyright, isDescription, interfacesIn⟩ := protocolIn.children
  have read :=
    @interfaces_answers document inner _ _ _ _ interfacesIn {} (fun _ => rfl) fun _ => rfl
  rw [← children_eq_foldlM protocolIn.plain.whole protocolIn.spaced] at read
  unfold FromMarkup.protocol
  simp only [isOk, ok_bind, name]
  refine (read.bind fun _ => Answers.guarded ⟨_, rfl⟩ (Answers.of_ok ?_)).congr ?_
  · have copyright : (copyright?.map normalize).getD "" = normalize written.copyright := by
      rw [← isCopyright]
      cases copyright? with
      | none => rfl
      | some copyright => rfl
    simp only [Option.or_none, copyright, normalDescription_getD, isDescription, pure_eq_ok]
    simp [Protocol.model]
  · simp only [Protocol.Readable, Array.isEmpty_iff, ← Array.toList_eq_nil_iff]
    simp
    tauto

/-- A document in markup is read exactly if its outline is readable, and then gives the model. -/
theorem readMarkup_answers
    {bytes : Bytes}
    {written : Outline.Protocol}
    (inMarkup : written.InMarkup (Tree.ofBytes bytes)) :
    Answers (readMarkup document bytes) written.Readable (written.model document) := by
  obtain ⟨before, tag, after, line, content, attributes, cut, nodes, blank, protocolIn⟩ := inMarkup
  have found : readMarkup document bytes =
      FromMarkup.protocol document ⟨tag, attributes, line, content, cut⟩ := by
    unfold readMarkup
    simp only [nodes]
    clear nodes
    induction before with
    | nil =>
        have isRoot : tag = "protocol" := protocolIn.plain.tag
        simp [root, isRoot]
    | cons node rest inductionHypothesis =>
        obtain ⟨⟨text, line, rfl, isBlankText⟩, restBlank⟩ := List.forall_mem_cons.mp blank
        have skipped : (trim text).isEmpty = true := by
          simp [trim, trimChars_eq_nil_of_blank isBlankText]
        simp only [List.cons_append, root, skipped, if_true]
        exact inductionHypothesis restBlank
  rw [found]
  exact protocol_answers protocolIn

end FromMarkup

end Wayland.Document
