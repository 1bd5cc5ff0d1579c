import Wayland.Binding.SharedFile
import Wayland.Proofs.Binding.Literal

/-!
Contract: what the shared file prints for an interface is read as its descriptor.

Owns:
- lines that spell the records of a list;
- the lines of an argument, a message, a direction and an interface, read back;
- which arguments have a kind.

Does not own: the lines around a descriptor.
-/

namespace Wayland.Binding

open Wayland.Model
open Wayland.Text
open Literal

namespace Literal

/-! ## Records -/

variable {α : Type} {read : List Element → Option α}

/-- Lines spell the records of a list, each with a comma behind it. -/
def Records
    (read : List Element → Option α)
    (lines : Lines)
    (values : List α) : Prop :=
  ∃ tokens elements, lineTokens? lines = some tokens ∧ Adds tokens elements ∧
    elements.mapM (item? read) = some values

theorem records_nil :
    Records read [] [] :=
  ⟨[], [], rfl, adds_nil, rfl⟩

theorem Records.append
    {left right : Lines}
    {values others : List α}
    (first : Records read left values)
    (second : Records read right others) :
    Records read (left ++ right) (values ++ others) := by
  obtain ⟨tokens, elements, spelled, adds, areRead⟩ := first
  obtain ⟨moreTokens, moreElements, moreSpelled, moreAdds, areMoreRead⟩ := second
  exact ⟨tokens ++ moreTokens, elements ++ moreElements,
    lineTokens?_append spelled moreSpelled, adds.append moreAdds,
    by simp [List.mapM_append, areRead, areMoreRead]⟩

theorem Records.flatMap
    {β : Type}
    {items : List β}
    {spelled : β → Lines}
    {value : β → α}
    (records : ∀ item ∈ items, Records read (spelled item) [value item]) :
    Records read (items.flatMap spelled) (items.map value) := by
  induction items with
  | nil => exact records_nil
  | cons item items inductionHypothesis =>
      rw [List.forall_mem_cons] at records
      exact records.1.append (inductionHypothesis records.2)

theorem Records.map
    {β : Type}
    {items : List β}
    {spelled : β → String}
    {value : β → α}
    (records : ∀ item ∈ items, Records read [spelled item] [value item]) :
    Records read (items.map spelled) (items.map value) := by
  rw [List.map_eq_flatMap (f := spelled)]
  exact Records.flatMap records

theorem Records.indent
    {lines : Lines}
    {values : List α}
    (records : Records read lines values)
    (depth : Nat) :
    Records read (indent depth lines) values := by
  obtain ⟨tokens, elements, spelled, rest⟩ := records
  exact ⟨tokens, elements, by rw [lineTokens?_indent, spelled], rest⟩

/-- Lines between braces spell one record. -/
theorem Fills.record
    {lines : Lines}
    {tokens : List Token}
    {elements : List Element}
    {value : α}
    (spelled :
      lineTokens? lines = some (Token.mark '\x7b' :: tokens ++ [Token.mark '\x7d', .mark ',']))
    (fills : Fills tokens elements)
    (isRead : read elements = some value) :
    Records read lines [value] := by
  refine ⟨_, [(none, .composite "" elements)], spelled, ?_, by simp [item?, isRead]⟩
  simpa using fills.yields.adds

end Literal

/-! ## Arguments -/

theorem constantKind?_constant
    {kind : Wire.Kind}
    {constant : String}
    (isConstant : kindConstant? kind = some constant) :
    constantKind? constant = some kind ∧ isWord constant = true := by
  cases kind <;> simp only [kindConstant?, Option.some.injEq, reduceCtorEq] at isConstant
  all_goals
    subst isConstant
    exact ⟨rfl, by decide⟩

/-- Characters that a word does not run on into. -/
abbrev Separates
    (chars : List Char) : Prop :=
  ∀ char ∈ chars.head?, isWordChar char = false

theorem separates_part
    {part : String}
    (starts : (part.toList.head?.any fun char => !isWordChar char) = true)
    (rest : List Char) :
    Separates (part.toList ++ rest) := by
  cases chars : part.toList with
  | nil => simp [chars] at starts
  | cons first others =>
      unfold Separates
      simpa [chars] using starts

theorem separates_text
    {part : String}
    (starts : (part.toList.head?.any fun char => !isWordChar char) = true) :
    Separates part.toList := by
  simpa using separates_part starts []

variable {slot : SlotPlan} {constant : String}

/-- The tokens between the braces of an argument. -/
def slotTokens
    (slot : SlotPlan)
    (constant : String) :
    List Token :=
  [Token.word "Name", Token.mark ':', Token.text (Bytes.ofText slot.name)]
    ++ Token.mark ',' :: Token.word "Kind" :: Token.mark ':' :: [Token.word constant]
    ++ (if !slot.nullable then []
      else Token.mark ',' :: Token.word "Nullable" :: Token.mark ':' :: [Token.word "true"])
    ++ (if slot.interface.isEmpty then []
      else Token.mark ',' :: Token.word "Interface" :: Token.mark ':' ::
        [Token.text (Bytes.ofText slot.interface)])

theorem tokens?_slotLine
    (isConstant : slot.kind = some constant)
    (isWord : isWord constant = true) :
    tokens? (slotLine slot) =
      some (Token.mark '\x7b' :: slotTokens slot constant ++ [Token.mark '\x7d', .mark ',']) := by
  have opening : tokens? "\x7bName: " = some [.mark '\x7b', .word "Name", .mark ':'] := by decide
  have kindField : tokens? ", Kind: " = some [.mark ',', .word "Kind", .mark ':'] := by decide
  have nullableField : tokens? ", Nullable: true" =
      some [.mark ',', .word "Nullable", .mark ':', .word "true"] := by decide
  have interfaceField : tokens? ", Interface: " =
      some [.mark ',', .word "Interface", .mark ':'] := by decide
  have last : Spells "\x7d,".toList [.mark '\x7d', .mark ','] := ⟨_, Nat.le_refl _, rfl⟩
  obtain ⟨interfacePart, interfaceSeparates⟩ :
      Spells
          ((if slot.interface.isEmpty then ""
            else ", Interface: " ++ quote slot.interface).toList ++ "\x7d,".toList)
          ((if slot.interface.isEmpty then []
            else Token.mark ',' :: .word "Interface" :: .mark ':'
              :: [.text (Bytes.ofText slot.interface)]) ++ [Token.mark '\x7d', .mark ',']) ∧
        Separates
          ((if slot.interface.isEmpty then ""
            else ", Interface: " ++ quote slot.interface).toList ++ "\x7d,".toList) := by
    split
    · exact ⟨last, separates_text rfl⟩
    · have given := Spells.closed interfaceField rfl (Spells.quoted slot.interface last)
      rw [String.toList_append, List.append_assoc]
      exact ⟨given, separates_part rfl _⟩
  obtain ⟨nullablePart, nullableSeparates⟩ :
      Spells
          ((if slot.nullable then ", Nullable: true" else "").toList ++ _)
          ((if !slot.nullable then []
            else Token.mark ',' :: .word "Nullable" :: .mark ':' :: [.word "true"]) ++ _) ∧
        Separates ((if slot.nullable then ", Nullable: true" else "").toList ++ _) := by
    cases slot.nullable with
    | false => exact ⟨interfacePart, interfaceSeparates⟩
    | true =>
        exact ⟨Spells.append ⟨_, Nat.le_refl _, nullableField⟩ interfacePart (by decide)
          (.inr interfaceSeparates), separates_part rfl _⟩
  apply Spells.tokens?_eq
  have whole := Spells.closed opening rfl (Spells.quoted slot.name
    (Spells.closed kindField rfl (Spells.word isWord nullableSeparates nullablePart)))
  simpa [slotLine, slotTokens, isConstant] using whole

/-- The fields of an argument; those with a value of their own kind's zero are left out. -/
def slotFields
    (slot : SlotPlan)
    (constant : String) :
    List (String × Value) :=
  [("Name", Value.text (Bytes.ofText slot.name)), ("Kind", Value.word constant)]
    ++ (if !slot.nullable then [] else [("Nullable", Value.word "true")])
    ++ (if slot.interface.isEmpty then []
      else [("Interface", Value.text (Bytes.ofText slot.interface))])

theorem slotTokens_fill
    (slot : SlotPlan)
    (constant : String) :
    Fills (slotTokens slot constant) (keyed (slotFields slot constant)) := by
  have row := (((yields_text (Bytes.ofText slot.name)).row "Name").more
    (yields_word constant) "Kind").maybe
    (yields_word "true") "Nullable" (!slot.nullable) |>.maybe
    (yields_text (Bytes.ofText slot.interface)) "Interface" slot.interface.isEmpty
  have elements : keyed (slotFields slot constant) =
      [(some "Name", Value.text (Bytes.ofText slot.name))] ++ [(some "Kind", Value.word constant)]
        ++ (if !slot.nullable then [] else [(some "Nullable", Value.word "true")])
        ++ (if slot.interface.isEmpty then []
          else [(some "Interface", Value.text (Bytes.ofText slot.interface))]) := by
    unfold slotFields
    cases slot.nullable <;> cases slot.interface.isEmpty <;> rfl
  rw [elements]
  exact row.fills

theorem slot?_fields
    (slot : SlotPlan)
    (constant : String) :
    slot? (keyed (slotFields slot constant)) =
      (constantKind? constant).bind fun kind =>
        some ⟨canonical slot.name, kind, slot.nullable, canonical slot.interface⟩ := by
  unfold slotFields
  cases isEmpty : slot.interface.isEmpty with
  | false =>
      cases slot.nullable <;>
      · rw [slot?, record?_keyed (by simp) (by simp)]
        rfl
  | true =>
      have empty : canonical slot.interface = "" := by
        rw [String.isEmpty_iff.mp isEmpty]
        decide
      rw [empty]
      cases slot.nullable <;>
      · rw [slot?, record?_keyed (by simp) (by simp)]
        rfl

theorem slotLine_records
    {kind : Wire.Kind}
    (isKind : slot.kind = kindConstant? kind)
    (known : slot.kind.isSome) :
    Records slot? [slotLine slot]
      [Wire.Slot.canonical ⟨slot.name, kind, slot.nullable, slot.interface⟩] := by
  obtain ⟨constant, isConstant⟩ := Option.isSome_iff_exists.mp known
  rw [isConstant] at isKind
  obtain ⟨reads, isWord⟩ := constantKind?_constant isKind.symm
  refine Fills.record ?_ (slotTokens_fill slot constant) ?_
  · rw [lineTokens?_cons (tokens?_slotLine isConstant isWord) lineTokens?_nil]
    simp
  · rw [slot?_fields, reads]
    rfl

def HasKind
    (arg : Arg) : Prop :=
  (Wire.Kind.ofName? arg.typeName).isSome

theorem HasKind.ofName?_eq
    {arg : Arg}
    (known : HasKind arg) :
    Wire.Kind.ofName? arg.typeName = some arg.kind := by
  obtain ⟨kind, isKind⟩ := Option.isSome_iff_exists.mp known
  simp [Arg.kind, isKind]

/-- The kind of an argument that has one is not a code without a name. -/
theorem HasKind.named
    {arg : Arg}
    (known : HasKind arg) :
    arg.kind.name?.isSome := by
  have isName := List.find?_some known.ofName?_eq
  simp only [beq_iff_eq] at isName
  simp [isName]

/-- The row of an argument is read as its slot. -/
theorem argLine_records
    {arg : Arg}
    (known : HasKind arg) :
    Records slot? [slotLine (planSlot arg)] [arg.slot.canonical] := by
  have isConstant : (planSlot arg).kind = kindConstant? arg.kind := by
    simp [planSlot, known.ofName?_eq]
  have isSome : (planSlot arg).kind.isSome := by
    have named := known.named
    rw [isConstant]
    cases kind : arg.kind with
    | unassigned code => simp [kind, Wire.Kind.name?] at named
    | _ => rfl
  simpa [planSlot, Arg.slot] using slotLine_records isConstant isSome

/-! ## Messages -/

theorem isWord_toString
    (number : Nat) :
    isWord (toString number) = true := by
  have areDigits := isDigit_of_mem_toDigits number
  have areWord : ∀ char ∈ (toString number).toList, isWordChar char = true := by
    intro char isMember
    rw [toList_toString] at isMember
    have isDigit := areDigits char isMember
    have bounds := isDigit_iff.mp isDigit
    have apart (other : Char) (outside : other.toNat < 48 ∨ 57 < other.toNat) : char ≠ other := by
      rintro rfl
      omega
    simp [isWordChar, isBlank_of_isDigit isDigit, isMark, apart '"' (by decide),
      apart ',' (by decide), apart ':' (by decide), apart '\x7b' (by decide),
      apart '\x7d' (by decide)]
  have someLeft : (toString number).isEmpty = false := by
    rw [← Bool.not_eq_true, String.isEmpty_iff, ← String.toList_inj, toList_toString]
    exact Nat.toDigits_ne_nil
  simpa [Literal.isWord, someLeft] using areWord

theorem number?_toString
    (number : UInt32) :
    number? (some (.word (toString number.toNat))) = some number := by
  have small : number.toNat < UInt32.size := number.toNat_lt_size
  simp [number?, natOfDigits?_toDigits, small]

/-- The tokens of a message between its braces, without its arguments. -/
def headTokens
    (message : Message) :
    List Token :=
  [Token.word "Name", .mark ':', .text (Bytes.ofText message.name)]
    ++ Token.mark ',' :: .word "Since" :: .mark ':' :: [.word (toString message.since.toNat)]
    ++ (if !message.destructor then []
      else Token.mark ',' :: Token.word "Destructor" :: Token.mark ':' :: [Token.word "true"])

/-- The fields of a message without its arguments. -/
def headFields
    (message : Message) :
    List (String × Value) :=
  [("Name", Value.text (Bytes.ofText message.name)),
      ("Since", .word (toString message.since.toNat))]
    ++ (if !message.destructor then [] else [("Destructor", Value.word "true")])

theorem headTokens_row
    (message : Message) :
    Row (headTokens message) (keyed (headFields message)) := by
  have row := (((yields_text (Bytes.ofText message.name)).row "Name").more
    (yields_word (toString message.since.toNat)) "Since").maybe
    (yields_word "true") "Destructor" (!message.destructor)
  have elements : keyed (headFields message) =
      [(some "Name", Value.text (Bytes.ofText message.name))]
        ++ [(some "Since", Value.word (toString message.since.toNat))]
        ++ (if !message.destructor then [] else [(some "Destructor", Value.word "true")]) := by
    unfold headFields
    cases message.destructor <;> rfl
  rw [elements]
  exact row

theorem head_spells
    (message : Message)
    {right : List Char}
    {later : List Token}
    (separates : Separates right)
    (rest : Spells right later) :
    Spells
      (("\x7bName: " ++ quote message.name ++ ", Since: " ++ toString message.since.toNat
        ++ (if message.destructor then ", Destructor: true" else "")).toList ++ right)
      (Token.mark '\x7b' :: headTokens message ++ later) := by
  have opening : tokens? "\x7bName: " = some [.mark '\x7b', .word "Name", .mark ':'] := by decide
  have sinceField : tokens? ", Since: " = some [.mark ',', .word "Since", .mark ':'] := by decide
  have destructorField : tokens? ", Destructor: true" =
      some [.mark ',', .word "Destructor", .mark ':', .word "true"] := by decide
  obtain ⟨destructorPart, destructorSeparates⟩ :
      Spells
          ((if message.destructor then ", Destructor: true" else "").toList ++ right)
          ((if !message.destructor then []
            else Token.mark ',' :: .word "Destructor" :: .mark ':' :: [.word "true"]) ++ later) ∧
        Separates ((if message.destructor then ", Destructor: true" else "").toList ++ right) := by
    cases message.destructor with
    | false => exact ⟨rest, separates⟩
    | true =>
        exact ⟨Spells.append ⟨_, Nat.le_refl _, destructorField⟩ rest (by decide) (.inr separates),
          separates_part rfl _⟩
  have whole := Spells.closed opening rfl (Spells.quoted message.name
    (Spells.closed sinceField rfl
      (Spells.word (isWord_toString message.since.toNat) destructorSeparates destructorPart)))
  simpa [headTokens] using whole

theorem signature?_fields
    (message : Message)
    (args : Option (List Element)) :
    signature? (keyed (headFields message
        ++ (args.map fun elements => ("Args", Value.composite "[]wire.ArgSpec" elements)).toList)) =
      ((args.getD []).mapM (item? slot?)).bind fun slots =>
        some ⟨canonical message.name, message.since, message.destructor, slots⟩ := by
  have since := number?_toString message.since
  unfold headFields
  generalize toString message.since.toNat = word at since ⊢
  cases args <;> cases message.destructor <;>
  · rw [signature?, record?_keyed (by simp) (by simp)]
    refine Eq.trans (b := (number? (some (.word word))).bind fun since => _) rfl ?_
    rw [since]
    rfl

/-- The rows of a message are read as its signature. -/
theorem messageLines_records
    {message : Message}
    (known : ∀ arg ∈ message.args, HasKind arg)
    (owner : String)
    (direction : Wire.Direction)
    (position : Nat) :
    Records signature? (messageLines (planMessage owner direction message position))
      [message.signature.canonical] := by
  have row := headTokens_row message
  by_cases noArgs : message.args = []
  · have last : Spells "\x7d,".toList [.mark '\x7d', .mark ','] := ⟨_, Nat.le_refl _, rfl⟩
    have spelled := head_spells message (separates_text rfl) last
    have isRead : signature? (keyed (headFields message)) = some message.signature.canonical := by
      have fields := signature?_fields message none
      simp only [Option.map_none, Option.toList_none, List.append_nil] at fields
      rw [fields]
      simp [Message.signature, Wire.Signature.canonical, noArgs]
    refine Fills.record ?_ row.fills isRead
    rw [← String.toList_append] at spelled
    simpa [messageLines, planMessage, noArgs] using
      lineTokens?_cons spelled.tokens?_eq lineTokens?_nil
  · have slots : Records slot? ((message.args.map planSlot).map slotLine)
        message.signature.canonical.slots := by
      have each := Records.map fun arg isMember => argLine_records (known arg isMember)
      simpa [Message.signature, Wire.Signature.canonical, Function.comp_def] using each
    obtain ⟨slotTokens, elements, areSpelled, adds, areRead⟩ := slots.indent 1
    have opening : tokens? ", Args: []wire.ArgSpec\x7b" =
        some [.mark ',', .word "Args", .mark ':', .word "[]wire.ArgSpec", .mark '\x7b'] := by decide
    have closing : tokens? "\x7d\x7d," = some [.mark '\x7d', .mark '\x7d', .mark ','] := by decide
    have last : Spells ", Args: []wire.ArgSpec\x7b".toList _ := ⟨_, Nat.le_refl _, opening⟩
    have spelled := head_spells message (separates_text rfl) last
    rw [← String.toList_append] at spelled
    have whole := lineTokens?_cons spelled.tokens?_eq
      (lineTokens?_append areSpelled (lineTokens?_cons closing lineTokens?_nil))
    have isEmpty : (planMessage owner direction message position).slots.isEmpty = false := by
      simpa [planMessage] using noArgs
    have isRead := signature?_fields message (some elements)
    rw [Option.getD_some, areRead] at isRead
    refine Fills.record ?_
      (row.more (adds.fills.yields_typed "[]wire.ArgSpec") "Args").fills
      (Eq.trans ?_ isRead)
    · unfold messageLines
      rw [isEmpty, if_neg Bool.false_ne_true]
      refine Eq.trans whole ?_
      simp
    · simp [keyed]

/-! ## Interfaces -/

/-- The messages of one direction, unless there are none, as a field. -/
theorem directionLines_adds
    (field : String)
    {messages : List MessagePlan}
    {signatures : List Wire.Signature}
    (isField : isWord field = true)
    (records : Records signature? (messages.flatMap messageLines) signatures) :
    ∃ tokens elements, lineTokens? (directionLines field messages) = some tokens ∧
      elements.mapM (item? signature?) = some signatures ∧
        Adds tokens
          (if messages.isEmpty then []
            else [(some field, Value.composite "[]wire.MessageSpec" elements)]) := by
  obtain ⟨tokens, elements, areSpelled, adds, areRead⟩ := records.indent 1
  by_cases isEmpty : messages.isEmpty
  · exact ⟨[], elements, by simp [directionLines, isEmpty, lineTokens?_nil], areRead,
      by simpa [isEmpty] using adds_nil⟩
  · have opening : tokens? ": []wire.MessageSpec\x7b" =
        some [.mark ':', .word "[]wire.MessageSpec", .mark '\x7b'] := by decide
    have closing : tokens? "\x7d," = some [.mark '\x7d', .mark ','] := by decide
    have opened : Spells ": []wire.MessageSpec\x7b".toList _ := ⟨_, Nat.le_refl _, opening⟩
    have spelled := Spells.word isField (separates_text rfl) opened
    rw [← String.toList_append] at spelled
    have whole := lineTokens?_cons spelled.tokens?_eq
      (lineTokens?_append areSpelled (lineTokens?_cons closing lineTokens?_nil))
    have keyed := (adds.fills.yields_typed "[]wire.MessageSpec").adds_keyed field
    have lines : directionLines field messages =
        (field ++ ": []wire.MessageSpec\x7b")
          :: (indent 1 (messages.flatMap messageLines) ++ ["\x7d,"]) := by
      simp [directionLines, isEmpty]
    rw [lines, whole]
    refine ⟨_, elements, rfl, areRead, ?_⟩
    rw [if_neg isEmpty]
    simpa using keyed

def descriptorBody
    (plan : InterfacePlan) :
    Lines :=
  indent 1
    (alignRows
        [("Name:", quote plan.name ++ ","), ("Version:", toString plan.version.toNat ++ ",")]
      ++ directionLines "Requests" plan.requests
      ++ directionLines "Events" plan.events)

theorem alignRows_name_version
    (name version : String) :
    alignRows [("Name:", name), ("Version:", version)] =
      ["Name:    " ++ name, "Version: " ++ version] := by
  have columns :
      "Name:" ++ String.ofList
          (List.replicate (max "Name:".length "Version:".length + 1 - "Name:".length) ' ') =
            "Name:    " ∧
        "Version:" ++ String.ofList
          (List.replicate (max "Name:".length "Version:".length + 1 - "Version:".length) ' ') =
            "Version: " := by decide
  simpa [alignRows] using columns

theorem nameVersion_adds
    (name : String)
    (version : UInt32) :
    ∃ tokens,
      lineTokens? (alignRows
        [("Name:", quote name ++ ","), ("Version:", toString version.toNat ++ ",")]) =
          some tokens ∧
        Adds tokens [(some "Name", .text (Bytes.ofText name)),
          (some "Version", .word (toString version.toNat))] := by
  have nameField : tokens? "Name:    " = some [.word "Name", .mark ':'] := by decide
  have versionField : tokens? "Version: " = some [.word "Version", .mark ':'] := by decide
  have comma : Spells ",".toList [.mark ','] := ⟨_, Nat.le_refl _, rfl⟩
  have nameLine := Spells.closed nameField rfl (Spells.quoted name comma)
  have versionLine := Spells.closed versionField rfl
    (Spells.word (isWord_toString version.toNat) (separates_text rfl) comma)
  rw [← String.toList_append, ← String.toList_append] at nameLine versionLine
  rw [alignRows_name_version]
  refine ⟨_, lineTokens?_cons nameLine.tokens?_eq
    (lineTokens?_cons versionLine.tokens?_eq lineTokens?_nil), ?_⟩
  have both := ((yields_text (Bytes.ofText name)).adds_keyed "Name").append
    ((yields_word (toString version.toNat)).adds_keyed "Version")
  simpa using both

/-- Whether the types of all arguments of an interface have kinds. -/
def HasKinds
    (interface : Interface) : Prop :=
  ∀ message ∈ interface.requests ++ interface.events, ∀ arg ∈ message.args, HasKind arg

theorem messages_records
    {messages : List Message}
    (known : ∀ message ∈ messages, ∀ arg ∈ message.args, HasKind arg)
    (owner : String)
    (direction : Wire.Direction) :
    Records signature?
      ((messages.zipIdx.map fun (message, position) =>
        planMessage owner direction message position).flatMap messageLines)
      (messages.map fun message => message.signature.canonical) := by
  have each : Records signature?
      (messages.zipIdx.flatMap fun placed =>
        messageLines (planMessage owner direction placed.1 placed.2))
      (messages.zipIdx.map fun placed => placed.1.signature.canonical) :=
    Records.flatMap fun placed isMember =>
      messageLines_records (known placed.1 (List.fst_mem_of_mem_zipIdx isMember)) owner direction
        placed.2
  have values : messages.zipIdx.map (fun placed => placed.1.signature.canonical) =
      messages.map fun message => message.signature.canonical := by
    conv_rhs => rw [← List.zipIdx_map_fst 0 messages, List.map_map]
    rfl
  rw [values] at each
  rw [List.flatMap_map]
  exact each

/-- The fields of an interface; a direction without messages is left out. -/
def interfaceFields
    (name : Bytes)
    (version : String)
    (requests events : Option (List Element)) :
    List (String × Value) :=
  [("Name", Value.text name), ("Version", Value.word version)]
    ++ (requests.map fun elements =>
      ("Requests", Value.composite "[]wire.MessageSpec" elements)).toList
    ++ (events.map fun elements =>
      ("Events", Value.composite "[]wire.MessageSpec" elements)).toList

theorem interface?_fields
    (name : Bytes)
    (version : String)
    (requests events : Option (List Element)) :
    interface? (keyed (interfaceFields name version requests events)) =
      (number? (some (.word version))).bind fun version =>
        ((requests.getD []).mapM (item? signature?)).bind fun requests =>
          ((events.getD []).mapM (item? signature?)).bind fun events =>
            some ⟨name.toText, version, requests, events⟩ := by
  cases requests <;> cases events <;>
  · rw [interface?, record?_keyed (by simp [interfaceFields]) (by simp [interfaceFields])]
    rfl

/-- The lines between the braces of a descriptor are read as the descriptor of the interface. -/
theorem descriptorBody_reads
    {interface : Interface}
    (known : HasKinds interface) :
    (do interface? (← elements? (← lineTokens? (descriptorBody (planInterface interface))))) =
      some interface.descriptor.canonical := by
  have knownIn := List.forall_mem_append.mp known
  obtain ⟨nameTokens, nameSpelled, nameAdds⟩ :=
    nameVersion_adds interface.name interface.version
  obtain ⟨requestTokens, requests, requestsSpelled, requestsRead, requestsAdds⟩ :=
    directionLines_adds "Requests" rfl
      (messages_records knownIn.1 (exportedName interface.name) .request)
  obtain ⟨eventTokens, events, eventsSpelled, eventsRead, eventsAdds⟩ :=
    directionLines_adds "Events" rfl
      (messages_records knownIn.2 (exportedName interface.name) .event)
  have spelled : lineTokens? (descriptorBody (planInterface interface)) =
      some (nameTokens ++ requestTokens ++ eventTokens) := by
    rw [descriptorBody, lineTokens?_indent]
    exact lineTokens?_append (lineTokens?_append nameSpelled requestsSpelled) eventsSpelled
  have fills := ((nameAdds.append requestsAdds).append eventsAdds).fills
  let optional (messages : List Message) (elements : List Element) : Option (List Element) :=
    if messages.isEmpty then none else some elements
  have isRead := interface?_fields (Bytes.ofText interface.name)
    (toString interface.version.toNat) (optional interface.requests requests)
    (optional interface.events events)
  have given {messages : List Message} {elements : List Element}
      (areRead : elements.mapM (item? signature?) =
        some (messages.map fun message => message.signature.canonical)) :
      ((optional messages elements).getD []).mapM (item? signature?) =
        some (messages.map fun message => message.signature.canonical) := by
    cases messages with
    | nil => rfl
    | cons message messages => exact areRead
  rw [number?_toString, given requestsRead, given eventsRead] at isRead
  rw [spelled, Option.bind_eq_bind, Option.bind_some, fills.elements?_eq, Option.bind_eq_bind,
    Option.bind_some]
  refine Eq.trans (congrArg interface? ?_) (isRead.trans ?_)
  · cases interface.requests <;> cases interface.events <;> rfl
  · simp [Interface.descriptor, Wire.Interface.canonical, canonical, Function.comp_def]

end Wayland.Binding
