import Wayland.Proofs.Document.Grammar
import Wayland.Proofs.Document.MarkupReading

/-!
Contract: elements are read exactly as the grammar says.

Owns:
- the reading of attributes, numbers, flags and texts of any element;
- the reading of children one after another, by what holds of the children so far;
- that every kind of element is read exactly if the grammar allows it, and gives the model that it
  stands for.

Does not own: the grammar, and how trees arise from bytes.
-/

namespace Wayland.Document

namespace FromMarkup

open Wayland.Markup (Attribute Node bindingWord)
open Wayland.Model (Description)
open Wayland.Text
open Grammar

variable {document : String} {path : Path} {element : Element} {line : Nat}

/-! ## Attributes -/

/-- The values of attributes by name, the last one first. -/
def written
    (attributes : List Attribute) :
    Values :=
  (attributes.map fun given => (given.name.label, given.value)).reverse

theorem lookup_written
    (attributes : List Attribute)
    (label : String) :
    (written attributes).lookup label =
      (attributes.filter (·.name.label == label)).getLast?.map (·.value) := by
  have fromLast (latest : List Attribute) :
      (latest.map fun given => (given.name.label, given.value)).lookup label =
        (latest.filter (·.name.label == label)).head?.map (·.value) := by
    induction latest with
    | nil => rfl
    | cons given latest inductionHypothesis =>
        by_cases isLabel : given.name.label = label
        · simp [isLabel]
        · have notHere : (label == given.name.label) = false :=
            beq_eq_false_iff_ne.mpr fun same => isLabel same.symm
          simp [List.lookup_cons, notHere, isLabel, inductionHypothesis]
  rw [written, ← List.map_reverse, fromLast, List.filter_reverse, List.head?_reverse]

theorem collect_answers
    {known : List String}
    (values : Values)
    (attributes : List Attribute) :
    Answers (collect document path line known values attributes)
      (∀ given ∈ attributes.filter (!bindsQualifier ·), given.name.label ∈ known)
      (written (attributes.filter (!bindsQualifier ·)) ++ values) := by
  induction attributes generalizing values with
  | nil => exact (Answers.of_ok rfl).congr (by simp)
  | cons given rest inductionHypothesis =>
      rw [collect]
      split
      · rename_i binds
        have isBinding : bindsQualifier given = true := binds
        rw [List.filter_cons_of_neg (by simp [isBinding])]
        exact inductionHypothesis values
      · rename_i counts
        have isCounted : bindsQualifier given = false := Bool.not_eq_true _ ▸ counts
        rw [List.filter_cons_of_pos (by simp [isCounted]), List.forall_mem_cons]
        split
        · rename_i isKnown
          have later := inductionHypothesis ((given.name.label, given.value) :: values)
          refine (later.congr ?_).congr_value fun _ => ?_
          · rw [List.contains_iff_mem] at isKnown
            simp [isKnown]
          · simp [written]
        · rename_i isUnknown
          exact Answers.of_refused rfl fun fits => isUnknown (List.contains_iff_mem.mpr fits.1)

/-- The attributes of an element, by name. -/
def valuesOf
    (element : Element) :
    Values :=
  written element.counted

theorem lookup_valuesOf
    (element : Element)
    (label : String) :
    (valuesOf element).lookup label = element.last? label :=
  lookup_written element.counted label

theorem value_valuesOf
    (element : Element)
    (label : String) :
    value (valuesOf element) label = element.textAt label := by
  rw [value, lookup_valuesOf]
  rfl

theorem attributes_answers
    (required optional : List String) :
    Answers (attributes document path element required optional)
      (element.Takes required optional) (valuesOf element) := by
  have collected := @collect_answers document path element.line (required ++ optional) []
    element.attributes
  rw [List.append_nil] at collected
  refine (collected.bind fun _ =>
    (?_ : Answers _ (∀ label ∈ required, (element.last? label).isSome = true) _)).congr
      ⟨fun both => ⟨both.1, both.2⟩, fun takes => ⟨takes.known, takes.present⟩⟩
  split
  · rename_i label missing
    refine Answers.of_refused rfl fun present => ?_
    have isMissing := List.find?_some missing
    have isPresent := present label (List.mem_of_find?_eq_some missing)
    change ((valuesOf element).lookup label).isNone = true at isMissing
    rw [lookup_valuesOf, Option.isNone_iff_eq_none] at isMissing
    rw [isMissing] at isPresent
    cases isPresent
  · rename_i noneMissing
    refine (Answers.of_ok rfl).congr ⟨fun _ label isRequired => ?_, fun _ => trivial⟩
    have isThere : ¬((valuesOf element).lookup label).isNone = true :=
      List.find?_eq_none.mp noneMissing label isRequired
    rwa [lookup_valuesOf, Bool.not_eq_true, Option.isNone_eq_false_iff] at isThere

/-! ## Values -/

theorem hasNumber_answers
    (element : Element)
    (label : String)
    (absent : UInt32) :
    Answers (number document path line (valuesOf element) label absent)
      (element.HasNumber label) (element.numberAt label absent) := by
  unfold number Element.HasNumber Element.numberAt
  rw [lookup_valuesOf]
  cases element.last? label with
  | none => exact (Answers.of_ok rfl).congr (by simp)
  | some text =>
      simp only [Option.some.injEq, forall_eq', Option.bind_some]
      cases readUInt32? text with
      | none => exact Answers.of_refused rfl (by simp)
      | some read => exact (Answers.of_ok rfl).congr (by simp)

theorem flag?_answers
    (text : String)
    (error : Error) :
    Answers (match flag? text with | some value => .ok value | none => .error error)
      (text = "true" ∨ text = "false") (text == "true") := by
  unfold flag?
  split
  · rename_i value isFlag
    split at isFlag
    · cases isFlag
      exact (Answers.of_ok rfl).congr (by simp)
    · cases isFlag
      exact (Answers.of_ok rfl).congr (by simp)
    · cases isFlag
  · rename_i notFlag
    split at notFlag
    · cases notFlag
    · cases notFlag
    · rename_i notTrue notFalse
      exact Answers.of_refused rfl fun either => either.elim notTrue notFalse

theorem hasFlag_answers
    (element : Element)
    (label : String) :
    Answers (flag document path line (valuesOf element) label)
      (element.HasFlag label) (element.flagAt label) := by
  unfold flag Element.HasFlag Element.flagAt
  rw [lookup_valuesOf]
  cases element.last? label with
  | none => exact (Answers.of_ok rfl).congr (by simp)
  | some text =>
      simp only [Option.some.injEq, forall_eq']
      exact flag?_answers text _

/-! ## Content -/

/-- The elements among whole nodes are whole. -/
theorem isWhole_of_mem_elements
    {nodes : List Node}
    (whole : ∀ node ∈ nodes, node.IsWhole)
    {child : Element}
    (member : child ∈ elements nodes) :
    child.IsWhole := by
  induction nodes with
  | nil => cases member
  | cons node rest inductionHypothesis =>
      obtain ⟨first, restWhole⟩ := List.forall_mem_cons.mp whole
      cases first with
      | text content line => exact inductionHypothesis restWhole member
      | element tag attributes line inner =>
          rcases List.mem_cons.mp member with rfl | later
          · exact ⟨rfl, inner⟩
          · exact inductionHypothesis restWhole later

theorem isEmpty_trim_iff
    (text : String) :
    (trim text).isEmpty = true ↔ ∀ char ∈ text.toList, isBlank char = true := by
  rw [String.isEmpty_iff, ← String.toList_eq_nil_iff, trim, String.toList_ofList]
  exact ⟨blank_of_trimChars_eq_nil, trimChars_eq_nil_of_blank⟩

theorem isSpaced_iff
    (element : Element) :
    (trim element.text).isEmpty = true ↔ element.IsSpaced := by
  refine ⟨fun isEmpty text member char inText => ?_, trim_of_spaced⟩
  refine (isEmpty_trim_iff element.text).mp isEmpty char ?_
  rw [Element.text, String.toList_join]
  exact List.mem_flatMap.mpr ⟨text, member, inText⟩

section Children

variable {σ : Type} {child : σ → Element → Except Error σ}

theorem leaf_answers
    (whole : element.IsWhole) :
    Answers (leaf document path element) (elements element.content = []) element.text := by
  unfold leaf
  rw [content_eq_foldlM whole.closed]
  cases elements element.content with
  | nil => exact (Answers.of_ok rfl).congr (by simp)
  | cons child children => exact Answers.of_refused rfl (by simp)

theorem children_answers
    (whole : element.IsWhole)
    {initial final : σ}
    {fits : Prop}
    (read : Answers ((elements element.content).foldlM child initial) fits final) :
    Answers (children document path element initial child) (element.IsSpaced ∧ fits) final := by
  unfold children
  rw [content_eq_foldlM whole.closed]
  by_cases holds : fits
  · simp only [read.ok holds, Except.map, ok_bind]
    split
    · rename_i isEmpty
      exact (Answers.of_ok rfl).congr (by simp [(isSpaced_iff element).mp isEmpty, holds])
    · rename_i notEmpty
      exact Answers.of_refused rfl fun both => notEmpty ((isSpaced_iff element).mpr both.1)
  · obtain ⟨error, refused⟩ := read.error holds
    simp only [refused, Except.map]
    exact Answers.of_refused rfl fun both => holds both.2

/-- Children are read one after another to what all of them stand for, if each is read exactly if it
fits behind those before it. -/
theorem foldlM_answers
    {fits : List Element → Prop}
    {image : List Element → σ}
    (start : fits [])
    (fewer : ∀ before next, fits (before ++ [next]) → fits before)
    (children : List Element)
    (step : ∀ before, ∀ next ∈ children, fits before →
      Answers (child (image before) next) (fits (before ++ [next])) (image (before ++ [next]))) :
    Answers (children.foldlM child (image [])) (fits children) (image children) := by
  have fromHere (children : List Element) :
      ∀ before, fits before →
        (∀ before, ∀ next ∈ children, fits before →
          Answers (child (image before) next) (fits (before ++ [next]))
            (image (before ++ [next]))) →
        Answers (children.foldlM child (image before)) (fits (before ++ children))
          (image (before ++ children)) := by
    induction children with
    | nil =>
        intro before fitsBefore _
        rw [List.append_nil]
        exact (Answers.of_ok rfl).congr (by simp [fitsBefore])
    | cons next rest inductionHypothesis =>
        intro before fitsBefore step
        have first := step before next (by simp) fitsBefore
        have split : before ++ next :: rest = (before ++ [next]) ++ rest := by simp
        -- What does not fit at first does not fit later.
        have earlier : ∀ rest, fits ((before ++ [next]) ++ rest) → fits (before ++ [next]) := by
          intro rest
          induction rest using List.reverseRecOn with
          | nil => simp
          | append_singleton rest last goesOn =>
              intro fitsAll
              rw [← List.append_assoc] at fitsAll
              exact goesOn (fewer _ _ fitsAll)
        rw [List.foldlM_cons, split]
        refine (first.bind fun fitsNext => inductionHypothesis _ fitsNext fun before next member =>
          step before next (by simp [member])).congr ?_
        exact ⟨fun both => both.2, fun fitsAll => ⟨earlier rest fitsAll, fitsAll⟩⟩
  exact fromHere children [] start step

end Children

/-! ## Descriptions -/

theorem isDescription_answers
    (whole : element.IsWhole)
    (earlier : Option Description) :
    Answers (description document path element earlier)
      (earlier = none ∧ IsDescription element) (some (descriptionOf element)) := by
  cases earlier with
  | some other => exact Answers.of_refused rfl (by simp)
  | none =>
      refine ((attributes_answers [] ["summary"]).bind fun _ => (leaf_answers whole).bind fun _ =>
        Answers.of_ok ?_).congr ?_
      · change Except.ok (some (Description.mk _ _)) = _
        rw [lookup_valuesOf]
        rfl
      · exact ⟨fun all => ⟨rfl, all.1, all.2.1⟩, fun both => ⟨both.2.takes, both.2.childless, trivial⟩⟩

/-! ## Children -/

section Admitted

variable {allowed : Element → Prop} {before : List Element} {next : Element}

/-- A description behind admitted children is read exactly if it is the first and well-formed. -/
theorem nextDescription_answers
    (whole : next.IsWhole)
    (isTag : next.tag = "description")
    (notAllowed : ¬allowed next)
    (admits : Admits allowed before) :
    Answers (description document path next (firstDescription? before))
      (Admits allowed (before ++ [next])) (firstDescription? (before ++ [next])) := by
  refine ((isDescription_answers whole _).congr ?_).congr_value fun more => ?_
  · rw [admits.concat_iff]
    exact ⟨fun both => ⟨fun _ => both.1, Or.inl ⟨isTag, both.2⟩⟩, fun both =>
      ⟨both.1 isTag, (both.2.resolve_right notAllowed).2⟩⟩
  · exact (firstOf?_concat_same isTag (admits.concat_iff.mp more |>.1 isTag)).symm

/-- An element that contains nothing but documentation. -/
theorem onlyDescription_answers
    (whole : element.IsWhole) :
    Answers (children document path element none (onlyDescription document path))
      (Contains element fun _ => False) (firstDescription? (elements element.content)) := by
  have step : ∀ before, ∀ next ∈ elements element.content, Admits (fun _ => False) before →
      Answers (onlyDescription document path (firstDescription? before) next)
        (Admits (fun _ => False) (before ++ [next])) (firstDescription? (before ++ [next])) := by
    intro before next member admits
    unfold onlyDescription
    split
    · rename_i isTag
      exact nextDescription_answers (isWhole_of_mem_elements whole.inner member)
        (beq_iff_eq.mp isTag) id admits
    · rename_i isOther
      rw [beq_iff_eq] at isOther
      exact Answers.of_refused rfl (Admits.not_concat isOther id)
  have read := @foldlM_answers _ _ (Admits fun _ => False) firstDescription? admits_nil
    (fun _ _ => Admits.of_concat) (elements element.content) step
  exact (children_answers whole read).congr
    ⟨fun both => ⟨both.1, both.2⟩, fun contains => ⟨contains.spaced, contains.admits⟩⟩

end Admitted

/-! ## Arguments and entries -/

theorem isArg_answers
    (whole : element.IsWhole) :
    Answers (arg document path element) (IsArg element) (argOf element) := by
  unfold arg
  refine ((attributes_answers _ _).bind fun _ => Answers.guarded ⟨_, rfl⟩
    ((hasFlag_answers element "allow-null").bind fun _ => (onlyDescription_answers whole).bind
      fun _ => Answers.of_ok ?_)).congr ?_
  · simp only [value_valuesOf]
    rfl
  · rw [value_valuesOf]
    constructor
    · rintro ⟨takes, typed, nullable, contains, -⟩
      exact ⟨takes, by simpa [Option.isSome_iff_ne_none] using typed, nullable, contains⟩
    · rintro ⟨takes, typed, nullable, contains⟩
      exact ⟨takes, by simpa [Option.isSome_iff_ne_none] using typed, nullable, contains, trivial⟩

theorem isEntry_answers
    (whole : element.IsWhole) :
    Answers (entry document path element) (IsEntry element) (entryOf element) := by
  unfold entry
  refine ((attributes_answers _ _).bind fun _ => (hasNumber_answers element "value" 0).bind fun _ =>
    (hasNumber_answers element "since" 1).bind fun _ =>
      (hasNumber_answers element "deprecated-since" 0).bind fun _ =>
        (onlyDescription_answers whole).bind fun _ => Answers.of_ok ?_).congr ?_
  · simp only [value_valuesOf]
    rfl
  · constructor
    · rintro ⟨takes, value, since, deprecatedSince, contains, -⟩
      exact ⟨takes, value, since, deprecatedSince, contains⟩
    · rintro ⟨takes, value, since, deprecatedSince, contains⟩
      exact ⟨takes, value, since, deprecatedSince, contains, trivial⟩

/-! ## Messages and enumerations -/

section Items

variable {α : Type} {tag : String} {item : Element → Except Error α} {isItem : Element → Prop}
  {meaning : Element → α}

/-- What is known of an element with items after some of its children. -/
def partsOf
    (tag : String)
    (meaning : Element → α)
    (before : List Element) :
    Parts α :=
  { description := firstDescription? before
    items := ((before.filter (·.tag == tag)).map meaning).toArray }

/-- The children of an element with items are read if they are descriptions and items. -/
theorem items_answers
    (notDescription : tag ≠ "description")
    (reads : ∀ child : Element, child.IsWhole →
      Answers (item child) (isItem child) (meaning child))
    (whole : element.IsWhole) :
    Answers (children document path element {} (partsChild document path tag item))
      (Contains element fun child => child.tag = tag ∧ isItem child)
      (partsOf tag meaning (elements element.content)) := by
  let allowed (child : Element) : Prop := child.tag = tag ∧ isItem child
  have step : ∀ before, ∀ next ∈ elements element.content, Admits allowed before →
      Answers (partsChild document path tag item (partsOf tag meaning before) next)
        (Admits allowed (before ++ [next])) (partsOf tag meaning (before ++ [next])) := by
    intro before next member admits
    have wholeNext := isWhole_of_mem_elements whole.inner member
    unfold partsChild
    split
    · rename_i isDescription
      rw [beq_iff_eq] at isDescription
      have isOther : next.tag ≠ tag := by
        rw [isDescription]
        exact notDescription.symm
      refine (nextDescription_answers wholeNext isDescription (fun both => isOther both.1)
        admits).map.congr_value fun _ => ?_
      simp only [partsOf, filter_concat_other isOther]
    · rename_i isOther
      rw [beq_iff_eq] at isOther
      split
      · rename_i isTag
        rw [beq_iff_eq] at isTag
        refine ((reads next wholeNext).map.congr ?_).congr_value fun _ => ?_
        · rw [admits.concat_other_iff isOther]
          simp [allowed, isTag]
        · have others : firstDescription? (before ++ [next]) = firstDescription? before :=
            firstOf?_concat_other isOther
          simp [partsOf, filter_concat_same isTag, others]
      · rename_i notTag
        rw [beq_iff_eq] at notTag
        exact Answers.of_refused rfl (Admits.not_concat isOther fun both => notTag both.1)
  have read := @foldlM_answers _ _ (Admits allowed) (partsOf tag meaning) admits_nil
    (fun _ _ => Admits.of_concat) (elements element.content) step
  exact (children_answers whole read).congr
    ⟨fun both => ⟨both.1, both.2⟩, fun contains => ⟨contains.spaced, contains.admits⟩⟩

end Items

/-- A message is read under a number that is an opcode. -/
theorem isMessage_answers
    (whole : element.IsWhole)
    (position : Nat) :
    Answers (message document path position element)
      (position < 65536 ∧ IsMessage element) (messageOf position element) := by
  let others : Prop := element.HasNumber "since" ∧ element.HasNumber "deprecated-since" ∧
    Contains element fun child => child.tag = "arg" ∧ IsArg child
  let inner := path.push element.tag (value (valuesOf element) "name")
  have rest (destructor : Bool) (isType : (element.last? "type").isSome = destructor) :
      Answers
        (messageEnd document inner element (valuesOf element) (value (valuesOf element) "name")
          position destructor)
        others (messageOf position element) := by
    refine ((hasNumber_answers element "since" 1).bind fun _ =>
      (hasNumber_answers element "deprecated-since" 0).bind fun _ =>
        (items_answers (by decide) (fun child wholeChild => isArg_answers wholeChild) whole).bind
          fun _ => Answers.of_ok ?_).congr ?_
    · rw [value_valuesOf, ← isType]
      rfl
    · simp [others]
  unfold message
  refine ((attributes_answers _ _).bind fun _ => Answers.guarded ⟨_, rfl⟩
    (?_ : Answers _ ((∀ text, element.last? "type" = some text → text = "destructor") ∧ others)
      _)).congr ?_
  · dsimp only
    rw [lookup_valuesOf]
    split
    · rename_i absent
      exact (rest false (by rw [absent]; rfl)).congr (by simp [absent])
    · rename_i present
      exact (rest true (by rw [present]; rfl)).congr (by simp [present])
    · rename_i text notDestructor found
      exact Answers.of_refused rfl fun both => notDestructor (both.1 text found ▸ rfl)
  · constructor
    · rintro ⟨takes, inRange, destructor, since, deprecatedSince, contains⟩
      exact ⟨by omega, takes, destructor, since, deprecatedSince, contains⟩
    · rintro ⟨inRange, takes, destructor, since, deprecatedSince, contains⟩
      exact ⟨takes, by omega, destructor, since, deprecatedSince, contains⟩

theorem isEnumeration_answers
    (whole : element.IsWhole) :
    Answers (enumeration document path element) (IsEnumeration element)
      (enumerationOf element) := by
  unfold enumeration
  refine ((attributes_answers _ _).bind fun _ => (hasNumber_answers element "since" 1).bind fun _ =>
    (hasFlag_answers element "bitfield").bind fun _ =>
      (items_answers (by decide) (fun child wholeChild => isEntry_answers wholeChild) whole).bind
        fun _ => Answers.of_ok ?_).congr ?_
  · have listed : (if (partsOf "entry" entryOf (elements element.content)).items.isEmpty then none
          else some (partsOf "entry" entryOf (elements element.content)).items.toList) =
        (enumerationOf element).entries? := by
      unfold enumerationOf partsOf childrenNamed
      cases (elements element.content).filter (·.tag == "entry") <;> simp
    simp only [value_valuesOf, listed]
    rfl
  · constructor
    · rintro ⟨takes, since, bitfield, contains, -⟩
      exact ⟨takes, since, bitfield, contains⟩
    · rintro ⟨takes, since, bitfield, contains⟩
      exact ⟨takes, since, bitfield, contains, trivial⟩

/-! ## Interfaces -/

section Interfaces

variable {before : List Element} {next : Element} {tag : String}

/-- What is known of an interface after some of its children. -/
def interfacePartsOf
    (before : List Element) :
    InterfaceParts :=
  { description := firstDescription? before
    requests := ((before.filter (·.tag == "request")).mapIdx messageOf).toArray
    events := ((before.filter (·.tag == "event")).mapIdx messageOf).toArray
    enumerations := ((before.filter (·.tag == "enum")).map enumerationOf).toArray }

/-- Children that an interface may begin with. -/
structure MembersFit
    (before : List Element) : Prop where
  admits : Admits IsMember before
  requests : (before.filter (·.tag == "request")).length ≤ 65536
  events : (before.filter (·.tag == "event")).length ≤ 65536

theorem MembersFit.of_concat
    (fits : MembersFit (before ++ [next])) :
    MembersFit before :=
  ⟨fits.admits.of_concat, (length_filter_concat_le before next "request").trans fits.requests,
    (length_filter_concat_le before next "event").trans fits.events⟩

/-- There is room for one more message of a direction. -/
theorem few_concat_iff
    (few : (before.filter (·.tag == tag)).length ≤ 65536) :
    ((before ++ [next]).filter (·.tag == tag)).length ≤ 65536 ↔
      (next.tag = tag → (before.filter (·.tag == tag)).length < 65536) := by
  by_cases isTag : next.tag = tag
  · rw [filter_concat_same isTag, List.length_append, List.length_singleton]
    simp only [isTag, forall_const]
    omega
  · simp [filter_concat_other isTag, isTag, few]

/-- A child that is no description fits if it is a member and, as a message, there is room for it. -/
theorem MembersFit.concat_iff
    (fits : MembersFit before)
    (notDescription : next.tag ≠ "description") :
    MembersFit (before ++ [next]) ↔
      IsMember next ∧
        (next.tag = "request" → (before.filter (·.tag == "request")).length < 65536) ∧
        (next.tag = "event" → (before.filter (·.tag == "event")).length < 65536) := by
  rw [← fits.admits.concat_other_iff notDescription, ← few_concat_iff fits.requests,
    ← few_concat_iff fits.events]
  exact ⟨fun more => ⟨more.admits, more.requests, more.events⟩, fun all => ⟨all.1, all.2.1, all.2.2⟩⟩

/-- A child of an interface is read exactly if it fits behind those before it. -/
theorem member_answers
    (whole : next.IsWhole)
    (fits : MembersFit before) :
    Answers (interfaceChild document path (interfacePartsOf before) next)
      (MembersFit (before ++ [next])) (interfacePartsOf (before ++ [next])) := by
  unfold interfaceChild
  split
  · rename_i isTag
    rw [beq_iff_eq] at isTag
    have notRequest : next.tag ≠ "request" := by rw [isTag]; decide
    have notEvent : next.tag ≠ "event" := by rw [isTag]; decide
    have notEnum : next.tag ≠ "enum" := by rw [isTag]; decide
    have notMember : ¬IsMember next := by simp [IsMember, notRequest, notEvent, notEnum]
    refine ((nextDescription_answers whole isTag notMember fits.admits).map.congr ?_).congr_value
      fun _ => ?_
    · refine ⟨fun admits => ⟨admits, ?_, ?_⟩, MembersFit.admits⟩
      · rw [filter_concat_other notRequest]
        exact fits.requests
      · rw [filter_concat_other notEvent]
        exact fits.events
    · simp only [interfacePartsOf, filter_concat_other notRequest, filter_concat_other notEvent,
        filter_concat_other notEnum]
  rename_i notDescription
  rw [beq_iff_eq] at notDescription
  have others : firstDescription? (before ++ [next]) = firstDescription? before :=
    firstOf?_concat_other notDescription
  split
  · rename_i isTag
    rw [beq_iff_eq] at isTag
    have notEvent : next.tag ≠ "event" := by rw [isTag]; decide
    have notEnum : next.tag ≠ "enum" := by rw [isTag]; decide
    refine ((isMessage_answers whole _).map.congr ?_).congr_value fun _ => ?_
    · rw [fits.concat_iff notDescription]
      simp [IsMember, interfacePartsOf, isTag, and_comm]
    · simp [interfacePartsOf, filter_concat_same isTag, filter_concat_other notEvent,
        filter_concat_other notEnum, others, List.mapIdx_concat]
  rename_i notRequest
  rw [beq_iff_eq] at notRequest
  split
  · rename_i isTag
    rw [beq_iff_eq] at isTag
    have notEnum : next.tag ≠ "enum" := by rw [isTag]; decide
    refine ((isMessage_answers whole _).map.congr ?_).congr_value fun _ => ?_
    · rw [fits.concat_iff notDescription]
      simp [IsMember, interfacePartsOf, isTag, and_comm]
    · simp [interfacePartsOf, filter_concat_same isTag, filter_concat_other notRequest,
        filter_concat_other notEnum, others, List.mapIdx_concat]
  rename_i notEvent
  rw [beq_iff_eq] at notEvent
  split
  · rename_i isTag
    rw [beq_iff_eq] at isTag
    refine ((isEnumeration_answers whole).map.congr ?_).congr_value fun _ => ?_
    · rw [fits.concat_iff notDescription]
      simp [IsMember, isTag]
    · simp [interfacePartsOf, filter_concat_same isTag, filter_concat_other notRequest,
        filter_concat_other notEvent, others]
  · rename_i notEnum
    rw [beq_iff_eq] at notEnum
    refine Answers.of_refused rfl fun more => ?_
    have isMember := (fits.concat_iff notDescription).mp more |>.1
    simp [IsMember, notRequest, notEvent, notEnum] at isMember

theorem isInterface_answers
    (whole : element.IsWhole) :
    Answers (interface document path element) (IsInterface element) (interfaceOf element) := by
  have start : MembersFit [] := ⟨admits_nil, by simp, by simp⟩
  have read (inner : Path) := @foldlM_answers _ (interfaceChild document inner) MembersFit
    interfacePartsOf start (fun _ _ => MembersFit.of_concat) (elements element.content)
    fun _ _ member fits => member_answers (isWhole_of_mem_elements whole.inner member) fits
  unfold interface
  refine ((attributes_answers _ _).bind fun _ => (hasNumber_answers element "version" 0).bind
    fun _ => (hasFlag_answers element "frozen").bind fun _ =>
      (children_answers whole (read _)).bind fun _ => Answers.of_ok ?_).congr ?_
  · simp only [value_valuesOf]
    rfl
  · constructor
    · rintro ⟨takes, version, frozen, ⟨spaced, fits⟩, -⟩
      exact ⟨takes, version, frozen, ⟨spaced, fits.admits⟩, fits.requests, fits.events⟩
    · rintro ⟨takes, version, frozen, ⟨spaced, admits⟩, requests, events⟩
      exact ⟨takes, version, frozen, ⟨spaced, admits, requests, events⟩, trivial⟩

end Interfaces

/-! ## Protocols -/

section Protocols

variable {before : List Element} {next : Element}

/-- What is known of a protocol after some of its children. -/
def protocolPartsOf
    (before : List Element) :
    ProtocolParts :=
  { copyright := firstCopyright? before
    description := firstDescription? before
    interfaces := ((before.filter (·.tag == "interface")).map interfaceOf).toArray }

/-- Children that a protocol may begin with. -/
structure PartsFit
    (before : List Element) : Prop where
  admits : Admits IsPart before
  copyright : (before.filter (·.tag == "copyright")).length ≤ 1

theorem PartsFit.of_concat
    (fits : PartsFit (before ++ [next])) :
    PartsFit before :=
  ⟨fits.admits.of_concat, (length_filter_concat_le before next "copyright").trans fits.copyright⟩

/-- A child that is no description fits if it is a part and, as a notice of rights, the first. -/
theorem PartsFit.concat_iff
    (fits : PartsFit before)
    (notDescription : next.tag ≠ "description") :
    PartsFit (before ++ [next]) ↔
      IsPart next ∧ (next.tag = "copyright" → firstCopyright? before = none) := by
  rw [← fits.admits.concat_other_iff notDescription, firstCopyright?,
    ← once_concat_iff (normalize ·.text) fits.copyright]
  exact ⟨fun more => ⟨more.admits, more.copyright⟩, fun both => ⟨both.1, both.2⟩⟩

/-- A child of a protocol is read exactly if it fits behind those before it. -/
theorem part_answers
    (whole : next.IsWhole)
    (fits : PartsFit before) :
    Answers (protocolChild document path (protocolPartsOf before) next)
      (PartsFit (before ++ [next])) (protocolPartsOf (before ++ [next])) := by
  unfold protocolChild
  split
  · rename_i isTag
    rw [beq_iff_eq] at isTag
    have notDescription : next.tag ≠ "description" := by rw [isTag]; decide
    have notInterface : next.tag ≠ "interface" := by rw [isTag]; decide
    have others : firstDescription? (before ++ [next]) = firstDescription? before :=
      firstOf?_concat_other notDescription
    refine ((Answers.guarded ⟨_, rfl⟩ ((attributes_answers [] []).bind fun _ =>
      (leaf_answers whole).map)).congr ?_).congr_value fun more => ?_
    · rw [fits.concat_iff notDescription]
      simp only [protocolPartsOf, IsPart, isTag, Bool.not_eq_true, Option.isSome_eq_false_iff,
        Option.isNone_iff_eq_none]
      constructor
      · rintro ⟨isFirst, takes, childless⟩
        exact ⟨Or.inl ⟨trivial, takes, childless⟩, fun _ => isFirst⟩
      · rintro ⟨⟨-, isCopyright⟩ | ⟨impossible, -⟩, isFirst⟩
        · exact ⟨isFirst trivial, isCopyright.takes, isCopyright.childless⟩
        · exact absurd impossible (by decide)
    · have isFirst : firstCopyright? before = none :=
        ((fits.concat_iff notDescription).mp more).2 isTag
      have copyright : firstCopyright? (before ++ [next]) = some (normalize next.text) :=
        firstOf?_concat_same isTag isFirst
      simp [protocolPartsOf, filter_concat_other notInterface, others, copyright]
  rename_i notCopyright
  rw [beq_iff_eq] at notCopyright
  have sameCopyright : firstCopyright? (before ++ [next]) = firstCopyright? before :=
    firstOf?_concat_other notCopyright
  split
  · rename_i isTag
    rw [beq_iff_eq] at isTag
    have notInterface : next.tag ≠ "interface" := by rw [isTag]; decide
    have notPart : ¬IsPart next := by simp [IsPart, notCopyright, notInterface]
    refine ((nextDescription_answers whole isTag notPart fits.admits).map.congr ?_).congr_value
      fun _ => ?_
    · refine ⟨fun admits => ⟨admits, ?_⟩, PartsFit.admits⟩
      rw [filter_concat_other notCopyright]
      exact fits.copyright
    · simp only [protocolPartsOf, filter_concat_other notInterface, sameCopyright]
  rename_i notDescription
  rw [beq_iff_eq] at notDescription
  have others : firstDescription? (before ++ [next]) = firstDescription? before :=
    firstOf?_concat_other notDescription
  split
  · rename_i isTag
    rw [beq_iff_eq] at isTag
    refine ((isInterface_answers whole).map.congr ?_).congr_value fun _ => ?_
    · rw [fits.concat_iff notDescription]
      simp [IsPart, isTag]
    · simp [protocolPartsOf, filter_concat_same isTag, sameCopyright, others]
  · rename_i notInterface
    rw [beq_iff_eq] at notInterface
    refine Answers.of_refused rfl fun more => ?_
    have isPart := (fits.concat_iff notDescription).mp more |>.1
    simp [IsPart, notCopyright, notInterface] at isPart

theorem isProtocol_answers
    (whole : element.IsWhole)
    (isTag : element.tag = "protocol") :
    Answers (protocol document element) (IsProtocol element) (protocolOf document element) := by
  have start : PartsFit [] := ⟨admits_nil, by simp⟩
  have read (inner : Path) := @foldlM_answers _ (protocolChild document inner) PartsFit
    protocolPartsOf start (fun _ _ => PartsFit.of_concat) (elements element.content)
    fun _ _ member fits => part_answers (isWhole_of_mem_elements whole.inner member) fits
  unfold protocol
  refine ((attributes_answers _ _).bind fun _ => (children_answers whole (read _)).bind fun _ =>
    Answers.guarded ⟨_, rfl⟩ (Answers.of_ok ?_)).congr ?_
  · simp only [value_valuesOf]
    rfl
  · have someInterface : (protocolPartsOf (elements element.content)).interfaces.isEmpty = true ↔
        childrenNamed element "interface" = [] := by
      simp [protocolPartsOf, childrenNamed]
    rw [someInterface]
    constructor
    · rintro ⟨takes, ⟨spaced, fits⟩, interfaces, -⟩
      exact ⟨isTag, takes, ⟨spaced, fits.admits⟩, fits.copyright, interfaces⟩
    · rintro ⟨-, takes, ⟨spaced, admits⟩, copyright, interfaces⟩
      exact ⟨takes, ⟨spaced, admits, copyright⟩, interfaces, trivial⟩

end Protocols

end FromMarkup

end Wayland.Document
