import Wayland.Binding.RoleFile
import Wayland.Proofs.Binding.Fit

/-!
Contract: the Go text of both ends of a message.

Owns:
- the method that sends a message, spelled out;
- the member of the callback interface and the case of the dispatch function that receive it;
- the functions that methods and cases call;
- that a role package spells all of them.

Does not own: what is sent and received for each argument, and the files of roles.
-/

namespace Wayland.Binding

open Wayland.Model

/-! ## Texts -/

def signatureText
    (parameters : List Parameter) :
    String :=
  ", ".intercalate (parameters.map fun parameter => parameter.name ++ " " ++ parameter.typeText)

namespace Context

variable (context : Context) (message : Message)

/-- The call that sends a message to the object of a handle. -/
def sendCall
    (opcode : String) :
    String :=
  "session.Send("
    ++ ", ".intercalate ("o.Object()" :: opcode :: message.args.map context.sentText) ++ ")"

/-- The method that sends a message.  It returns the first object that the session has made, where
the message makes one. -/
def methodText
    (owner name opcode : String) :
    List String :=
  let opening :=
    "func (o *" ++ owner ++ ") " ++ name ++ "(" ++ signatureText (context.sendParameters message)
      ++ ") "
  match message.newIds with
  | [] =>
      [opening ++ "error \x7b",
        "\t_, err := " ++ context.sendCall message opcode,
        "\treturn err",
        "\x7d"]
  | arg :: _ =>
      [opening ++ "(" ++ context.typeText arg ++ ", error) \x7b",
        "\tobjs, err := " ++ context.sendCall message opcode,
        "\tif err != nil \x7b",
        "\t\treturn nil, err",
        "\t\x7d",
        "\treturn " ++ context.typed arg "objs[0]" ++ ", nil",
        "\x7d"]

/-- The member of a callback interface that receives a message. -/
def memberText
    (owner : String) :
    String :=
  "\t" ++ exportedName message.name ++ "("
    ++ signatureText (⟨"o", "*" ++ owner⟩ :: message.args.map context.parameter) ++ ") error"

/-- The line that reads the argument at an index into a variable. -/
def settingText
    (placed : Arg × Nat) :
    List String :=
  if context.isPrepared placed.1 then
    ["\t\t" ++ (context.parameter placed.1).name ++ " := "
      ++ context.typed placed.1 (receivedText placed.1 placed.2)]
  else []

/-- What a callback is called with for the argument at an index. -/
def givenText
    (placed : Arg × Nat) :
    String :=
  if context.isPrepared placed.1 then (context.parameter placed.1).name
  else context.typed placed.1 (receivedText placed.1 placed.2)

/-- The case that receives a message and calls the callback, if one is installed. -/
def caseText
    (field opcode : String) :
    List String :=
  ["\tcase " ++ opcode ++ ":"] ++ message.args.zipIdx.flatMap context.settingText
    ++ ["\t\tif o." ++ field ++ " == nil \x7b",
      "\t\t\treturn nil",
      "\t\t\x7d",
      "\t\treturn o." ++ field ++ "." ++ exportedName message.name ++ "("
        ++ ", ".intercalate ("o" :: message.args.zipIdx.map context.givenText) ++ ")"]

end Context

/-- The function that takes the incoming messages of a handle apart by their opcodes. -/
def dispatchText
    (owner name received : String)
    (cases : List String) :
    List String :=
  ["func (o *" ++ owner ++ ") Dispatch(in *session.Incoming) error \x7b",
    "\tswitch in.Opcode \x7b"]
    ++ cases
    ++ ["\t\x7d",
      "\treturn fmt.Errorf(\"" ++ name ++ ": unknown " ++ received ++ " opcode %d\", in.Opcode)",
      "\x7d"]

def handleText
    (owner field callbacks : String) :
    List String :=
  ["type " ++ owner ++ " struct \x7b",
    "\tobj" ++ String.ofList (List.replicate (field.length - 2) ' ') ++ "*session.Object",
    "\t" ++ field ++ " " ++ owner ++ callbacks,
    "\x7d"]

/-- The function that gives the handle of an object. -/
def wrapperText
    (owner : String) :
    List String :=
  ["func as" ++ owner ++ "(obj *session.Object) *" ++ owner ++ " \x7b",
    "\tif obj == nil \x7b",
    "\t\treturn nil",
    "\t\x7d",
    "\tif h, ok := obj.Handler().(*" ++ owner ++ "); ok \x7b",
    "\t\treturn h",
    "\t\x7d",
    "\th := &" ++ owner ++ "\x7bobj: obj\x7d",
    "\tobj.SetHandler(h)",
    "\treturn h",
    "\x7d"]

/-- The function that gives the object of a handle. -/
def objectText
    (owner : String) :
    List String :=
  ["func (o *" ++ owner ++ ") Object() *session.Object \x7b",
    "\tif o == nil \x7b",
    "\t\treturn nil",
    "\t\x7d",
    "\treturn o.obj",
    "\x7d"]

/-- The function that makes the value of a text that may be missing. -/
def optionText : List String :=
  ["func optString(s *string) wire.Arg \x7b",
    "\tif s == nil \x7b",
    "\t\treturn wire.NullString()",
    "\t\x7d",
    "\treturn wire.String(*s)",
    "\x7d"]

/-- The function that reads a text that may be missing. -/
def pointerText : List String :=
  ["func stringPtr(a wire.Arg) *string \x7b",
    "\tif a.Null \x7b",
    "\t\treturn nil",
    "\t\x7d",
    "\ts := a.String",
    "\treturn &s",
    "\x7d"]

/-! ## Lines of a role file -/

def callbackText
    (typeName : String)
    (callback : Callback) :
    String :=
  callback.name ++ "("
    ++ commaList (("o *" ++ typeName) :: callback.arguments.map (·.parameter.text)) ++ ") error"

section Lines

variable {plan : RolePlan} {interface : RoleInterface}

theorem indent_one
    {lines : Lines}
    (notEmpty : ∀ line ∈ lines, line ≠ "") :
    indent 1 lines = lines.map ("\t" ++ ·) := by
  unfold indent
  refine List.map_congr_left fun line isLine => ?_
  rw [if_neg (by simpa using notEmpty line isLine)]
  rfl

/-- A line that is moved in is empty or starts with a tab. -/
theorem mem_indent
    {lines : Lines}
    {line : String}
    (isLine : line ∈ indent 1 lines) :
    line = "" ∨ ∃ rest, line = "\t" ++ rest := by
  obtain ⟨inner, -, rfl⟩ := List.mem_map.mp isLine
  split
  · rename_i isEmpty
    exact Or.inl (by simpa using isEmpty)
  · exact Or.inr ⟨inner, rfl⟩

theorem isInfix_flatMap
    {α : Type}
    {item : α}
    {items : List α}
    (isMember : item ∈ items)
    (spelled : α → Lines) :
    spelled item <:+: items.flatMap spelled := by
  rw [List.flatMap_def]
  exact List.infix_of_mem_flatten (List.mem_map_of_mem isMember)

theorem isInfix_indent
    {lines all : Lines}
    (isPart : lines <:+: all)
    (depth : Nat) :
    indent depth lines <:+: indent depth all :=
  isPart.map _

theorem isInfix_interfaceLines
    (runtime sharedPath : String)
    (interfaceIn : interface ∈ plan.interfaces) :
    roleInterfaceLines plan interface <:+: roleLines runtime sharedPath plan :=
  (isInfix_flatMap interfaceIn _).trans (List.infix_append _ _ _)

theorem isInfix_methodLines
    (plan : RolePlan)
    {method : Method}
    (isMember : method ∈ interface.methods) :
    methodLines interface.interface.typeName method <:+: roleInterfaceLines plan interface :=
  (isInfix_flatMap isMember _).trans (List.infix_append _ _ _)

theorem isInfix_intercalate
    {separator lines : Lines}
    {blocks : List Lines}
    (isMember : lines ∈ blocks) :
    lines <:+: List.intercalate separator blocks := by
  induction blocks with
  | nil => cases isMember
  | cons block blocks inductionHypothesis =>
      cases blocks with
      | nil => simp [List.mem_singleton.mp isMember]
      | cons next blocks =>
          rw [List.intercalate_cons_cons]
          rcases List.mem_cons.mp isMember with rfl | inRest
          · exact ⟨[], separator ++ List.intercalate separator (next :: blocks), by simp⟩
          · exact (inductionHypothesis inRest).trans (List.suffix_append _ _).isInfix

theorem isInfix_handleTypeLines
    (plan : RolePlan)
    (interface : RoleInterface) :
    handleTypeLines plan.role interface <:+: roleInterfaceLines plan interface :=
  ⟨[""],
    [""] ++ conversionLines plan.role plan.protocol.package interface
      ++ setterLines plan.role interface
      ++ interface.methods.flatMap (methodLines interface.interface.typeName)
      ++ dispatchLines plan.role interface,
    by simp [roleInterfaceLines]⟩

theorem fieldRows
    {field : String}
    (isLong : 3 ≤ field.length)
    (type : String) :
    indent 1 (alignRows [("obj", "*session.Object"), (field, type)]) =
      ["\tobj" ++ String.ofList (List.replicate (field.length - 2) ' ') ++ "*session.Object",
        "\t" ++ field ++ " " ++ type] := by
  have width : max (max 0 "obj".length) field.length = field.length :=
    Nat.max_eq_right (Nat.max_le.mpr ⟨Nat.zero_le _, isLong⟩)
  have first : field.length + 1 - "obj".length = field.length - 2 :=
    Nat.add_sub_add_right field.length 1 2
  have second : field.length + 1 - field.length = 1 := Nat.add_sub_cancel_left ..
  unfold alignRows
  simp only [List.foldl_cons, List.foldl_nil, List.map_cons, List.map_nil, width, first, second]
  rw [indent_one]
  · simp only [List.map_cons, List.map_nil, ← String.append_assoc]
    rfl
  · simp

/-- Where messages are received, the handle type has a field for callbacks. -/
theorem isInfix_handleText
    (role : Role)
    (notEmpty : interface.callbacks ≠ []) :
    handleText interface.interface.typeName role.layout.field role.layout.callbacks <:+:
      handleTypeLines role interface := by
  have isLong : 3 ≤ role.layout.field.length := by
    unfold Role.layout
    split <;> decide
  unfold handleTypeLines
  simp only [List.isEmpty_eq_false_iff.mpr notEmpty, Bool.false_eq_true, if_false,
    fieldRows isLong, ← String.append_assoc]
  refine List.IsInfix.trans ?_ (List.prefix_append _ _).isInfix
  rw [List.append_assoc, List.append_assoc]
  exact (List.suffix_append _ _).isInfix

/-- The interface of the callbacks, with a member for each. -/
theorem isInfix_membersLines
    (role : Role)
    (notEmpty : interface.callbacks ≠ []) :
    ["type " ++ interface.interface.typeName ++ role.layout.callbacks ++ " interface \x7b"]
        ++ (indent 1 (List.intercalate [""] (interface.callbacks.map fun callback =>
            callback.documentation.map commentLine
              ++ [callbackText interface.interface.typeName callback]))
          ++ ["\x7d"]) <:+:
      handleTypeLines role interface := by
  unfold handleTypeLines
  simp only [List.isEmpty_eq_false_iff.mpr notEmpty, Bool.false_eq_true, if_false]
  refine List.IsInfix.trans ?_ (List.suffix_append _ _).isInfix
  rw [List.append_assoc, List.append_assoc _ (["type " ++ _ ++ _ ++ _])]
  exact (List.suffix_append _ _).isInfix

/-- The lines of the function that routes messages end with its text. -/
theorem isSuffix_dispatchText
    (role : Role)
    (notEmpty : interface.callbacks ≠ []) :
    dispatchText interface.interface.typeName interface.interface.name role.layout.received
        (interface.callbacks.flatMap fun callback =>
          indent 1 (dispatchCaseLines role.layout.field callback)) <:+
      dispatchLines role interface := by
  unfold dispatchLines
  simp only [List.isEmpty_eq_false_iff.mpr notEmpty, Bool.false_eq_true, if_false]
  refine ⟨["", "// Dispatch routes an incoming " ++ role.layout.received
    ++ " to the installed callbacks. It", "// implements session.Handler."], ?_⟩
  unfold dispatchText indent
  simp only [List.map_append, List.map_flatMap, List.append_assoc]
  rfl

theorem isInfix_dispatchText
    (plan : RolePlan)
    (notEmpty : interface.callbacks ≠ []) :
    dispatchText interface.interface.typeName interface.interface.name plan.role.layout.received
        (interface.callbacks.flatMap fun callback =>
          indent 1 (dispatchCaseLines plan.role.layout.field callback)) <:+:
      roleInterfaceLines plan interface :=
  ((isSuffix_dispatchText plan.role notEmpty).trans (List.suffix_append _ _)).isInfix

/-- A case starts with its opcode, and its other lines are moved in below it. -/
theorem mem_dispatchCaseLines
    {field line : String}
    {callback : Callback}
    (isLine : line ∈ dispatchCaseLines field callback) :
    line = "case " ++ callback.opcode ++ ":" ∨ ∃ rest, line = "\t" ++ rest := by
  rcases List.mem_append.mp isLine with isLine | isLast
  · rcases List.mem_append.mp isLine with isFirst | isSetting
    · exact Or.inl (List.mem_singleton.mp isFirst)
    · obtain ⟨incoming, -, isText⟩ := List.mem_filterMap.mp isSetting
      obtain ⟨⟨name, value⟩, -, rfl⟩ := Option.map_eq_some_iff.mp isText
      exact Or.inr ⟨name ++ " := " ++ value.text, by simp only [String.append_assoc]⟩
  · simp only [List.mem_cons, List.not_mem_nil, or_false] at isLast
    refine Or.inr ?_
    rcases isLast with rfl | rfl | rfl | rfl
    · exact ⟨"if o." ++ field ++ " == nil \x7b", String.toList_inj.mp (by simp)⟩
    · exact ⟨"\treturn nil", by decide⟩
    · exact ⟨"\x7d", by decide⟩
    · exact ⟨"return o." ++ field ++ "." ++ callback.name ++ "("
        ++ commaList ("o" :: callback.arguments.map (·.value.text)) ++ ")",
        String.toList_inj.mp (by simp)⟩

theorem mem_caseLines
    {field line : String}
    {callback : Callback}
    (isLine : line ∈ indent 1 (dispatchCaseLines field callback)) :
    line = "\tcase " ++ callback.opcode ++ ":" ∨ ∃ rest, line = "\t\t" ++ rest := by
  obtain ⟨inner, isInner, rfl⟩ := List.mem_map.mp isLine
  rcases mem_dispatchCaseLines isInner with rfl | ⟨rest, rfl⟩
  · refine Or.inl ?_
    rw [if_neg (by simp)]
    exact String.toList_inj.mp (by simp)
  · refine Or.inr ⟨rest, ?_⟩
    rw [if_neg (by simp)]
    exact String.toList_inj.mp (by simp)

variable {callback : Callback}

/-- A callback is a member of the callback interface. -/
theorem exists_callbackText
    (plan : RolePlan)
    (isMember : callback ∈ interface.callbacks) :
    ∃ earlier later,
      ["type " ++ interface.interface.typeName ++ plan.role.layout.callbacks ++ " interface \x7b"]
          ++ (earlier ++ indent 1 [callbackText interface.interface.typeName callback] ++ later)
          ++ ["\x7d"] <:+: roleInterfaceLines plan interface ∧
        ∀ line ∈ earlier ++ later, line = "" ∨ ∃ rest, line = "\t" ++ rest := by
  have members := (isInfix_membersLines plan.role (List.ne_nil_of_mem isMember)).trans
    (isInfix_handleTypeLines plan interface)
  have isPart : [callbackText interface.interface.typeName callback] <:+:
      List.intercalate [""] (interface.callbacks.map fun callback =>
        callback.documentation.map commentLine
          ++ [callbackText interface.interface.typeName callback]) :=
    (List.suffix_append _ _).isInfix.trans
      (isInfix_intercalate (List.mem_map.mpr ⟨callback, isMember, rfl⟩))
  obtain ⟨earlier, later, isAll⟩ := isInfix_indent isPart 1
  refine ⟨earlier, later, ?_, fun line isLine => ?_⟩
  · rw [isAll, List.append_assoc]
    exact members
  · have inAll : line ∈
        earlier ++ indent 1 [callbackText interface.interface.typeName callback] ++ later :=
      ((List.sublist_append_left ..).append (List.Sublist.refl _)).mem isLine
    rw [isAll] at inAll
    exact mem_indent inAll

/-- The case of a callback is the first for its opcode. -/
theorem exists_caseLines
    (plan : RolePlan)
    (isMember : callback ∈ interface.callbacks)
    (different : (interface.callbacks.map (·.opcode)).Nodup) :
    ∃ earlier later,
      dispatchText interface.interface.typeName interface.interface.name plan.role.layout.received
          (earlier ++ indent 1 (dispatchCaseLines plan.role.layout.field callback) ++ later) <:+:
        roleInterfaceLines plan interface ∧
      (∀ line ∈ earlier ++ later,
        (∃ opcode, line = "\tcase " ++ opcode ++ ":") ∨ ∃ rest, line = "\t\t" ++ rest) ∧
      "\tcase " ++ callback.opcode ++ ":" ∉ earlier := by
  have cases := isInfix_dispatchText plan (List.ne_nil_of_mem isMember)
  obtain ⟨before, behind, isSplit⟩ := List.append_of_mem isMember
  rw [isSplit, List.flatMap_append, List.flatMap_cons, ← List.append_assoc] at cases
  refine ⟨_, _, cases, fun line isLine => ?_, fun again => ?_⟩
  · have inCase : ∃ other, line ∈ indent 1 (dispatchCaseLines plan.role.layout.field other) := by
      rcases List.mem_append.mp isLine with isEarlier | isLater
      · exact (List.mem_flatMap.mp isEarlier).imp fun other found => found.2
      · exact (List.mem_flatMap.mp isLater).imp fun other found => found.2
    obtain ⟨other, isOther⟩ := inCase
    exact (mem_caseLines isOther).imp (fun same => ⟨other.opcode, same⟩) id
  · obtain ⟨other, isBefore, isOther⟩ := List.mem_flatMap.mp again
    rw [isSplit, List.map_append, List.map_cons, List.nodup_append] at different
    rcases mem_caseLines isOther with same | ⟨rest, isInner⟩
    · have sameOpcode : callback.opcode = other.opcode := by
        simpa [String.append_assoc] using same
      exact different.2.2 _ (List.mem_map_of_mem isBefore) _ List.mem_cons_self sameOpcode.symm
    · have chars := congrArg String.toList isInner
      simp at chars

theorem isInfix_callbackText
    (plan : RolePlan)
    (isMember : callback ∈ interface.callbacks) :
    indent 1 [callbackText interface.interface.typeName callback] <:+:
      roleInterfaceLines plan interface := by
  obtain ⟨earlier, later, isPart, -⟩ := exists_callbackText plan isMember
  exact ((List.infix_append ..).trans (List.infix_append ..)).trans isPart

theorem isInfix_caseLines
    (plan : RolePlan)
    (isMember : callback ∈ interface.callbacks) :
    indent 1 (dispatchCaseLines plan.role.layout.field callback) <:+:
      roleInterfaceLines plan interface := by
  have inSwitch := isInfix_flatMap isMember fun callback =>
    indent 1 (dispatchCaseLines plan.role.layout.field callback)
  have cases := isInfix_dispatchText plan (List.ne_nil_of_mem isMember)
  exact (inSwitch.trans (List.infix_append ..)).trans cases

/-- The functions that turn objects into handles and handles into objects. -/
theorem isInfix_conversions
    (plan : RolePlan)
    (interface : RoleInterface) :
    wrapperText interface.interface.typeName <:+: roleInterfaceLines plan interface ∧
      objectText interface.interface.typeName <:+: roleInterfaceLines plan interface := by
  have inInterface : conversionLines plan.role plan.protocol.package interface <:+:
      roleInterfaceLines plan interface :=
    ⟨[""] ++ handleTypeLines plan.role interface ++ [""],
      setterLines plan.role interface
        ++ interface.methods.flatMap (methodLines interface.interface.typeName)
        ++ dispatchLines plan.role interface,
      by simp [roleInterfaceLines]⟩
  unfold conversionLines at inInterface
  constructor
  · refine List.IsInfix.trans ?_ inInterface
    repeat refine List.IsInfix.trans ?_ (List.prefix_append ..).isInfix
    exact ⟨[], [_], rfl⟩
  · refine List.IsInfix.trans ?_ inInterface
    refine List.IsInfix.trans ?_ (List.suffix_append ..).isInfix
    exact ⟨[_, _, _, _, _, _, _, _, _], [_, _, _, _, _, _, _, _], rfl⟩

/-- The functions for texts that may be missing. -/
theorem isInfix_options
    (runtime sharedPath : String)
    (plan : RolePlan) :
    optionText <:+: roleLines runtime sharedPath plan ∧
      pointerText <:+: roleLines runtime sharedPath plan := by
  have inFile : optionalStringLines <:+: roleLines runtime sharedPath plan :=
    (List.suffix_append ..).isInfix
  have option : optionText <:+: optionalStringLines := by decide
  have pointer : pointerText <:+: optionalStringLines := by decide
  exact ⟨option.trans inFile, pointer.trans inFile⟩

end Lines

/-! ## Methods -/

section Methods

variable {context : Context} (plan : MessagePlan)

theorem signatureText_eq
    (parameters : List Parameter) :
    signatureText parameters = commaList (parameters.map Parameter.text) :=
  rfl

/-- The lines of a method end with its text. -/
theorem isSuffix_methodText
    (known : ∀ arg ∈ plan.message.args, HasKind arg)
    (anonymous : context.handleType? "" = none)
    (single : plan.message.newIds.length ≤ 1)
    (role : Role)
    (receivesAny : Bool)
    (owner : String) :
    context.methodText plan.message owner (planMethod role context receivesAny plan).name
        (planMethod role context receivesAny plan).opcode <:+
      methodLines owner (planMethod role context receivesAny plan) := by
  have returned : (planMethod role context receivesAny plan).returned = _ :=
    planMethod_returned anonymous role receivesAny
  have sent : (planMethod role context receivesAny plan).values.map SentValue.text = _ :=
    planMethod_sent known role receivesAny
  have parameters : (planMethod role context receivesAny plan).parameters = _ :=
    planMethod_parameters known role receivesAny
  refine ⟨[""] ++ documentation (planMethod role context receivesAny plan).documentation, ?_⟩
  unfold methodLines Context.methodText Context.sendCall
  rw [sent, returned, signatureText_eq, ← parameters]
  cases isMade : plan.message.newIds with
  | nil =>
      have opened (before : String) : before ++ "error \x7b" = before ++ "error" ++ " \x7b" :=
        String.toList_inj.mp (by simp)
      simp [Returned.value?, Returned.types, commaList, opened]
  | cons arg others =>
      have isNewId : arg ∈ plan.message.newIds := by
        rw [isMade]
        exact List.mem_cons_self
      have makes : arg.kind = .newId := by
        simpa [Message.newIds] using (List.mem_filter.mp isNewId).2
      rw [isMade, List.length_cons] at single
      obtain rfl : others = [] := List.length_eq_zero_iff.mp (by omega)
      obtain ⟨types, value⟩ := context.made_text makes
      have opened (before : String) :
          before ++ "(" ++ context.typeText arg ++ ", error) \x7b" =
            before ++ ("(" ++ context.typeText arg ++ ", error)") ++ " \x7b" :=
        String.toList_inj.mp (by simp)
      simp [types, value, commaList, opened]

end Methods

/-! ## Callbacks -/

section Callbacks

variable {context : Context} (plan : MessagePlan)

/-- The lines of a case, moved in, are its text. -/
theorem indent_dispatchCaseLines
    (known : ∀ arg ∈ plan.message.args, HasKind arg)
    (role : Role)
    (field : String)
    (named : plan.name = exportedName plan.message.name) :
    indent 1 (dispatchCaseLines field (planCallback role context plan)) =
      context.caseText plan.message field (planCallback role context plan).opcode := by
  have texts (placed : Arg × Nat) (isPlaced : placed ∈ plan.message.args.zipIdx) :
      (context.incoming placed.1 placed.2).preparation.map _ = _ ∧ _ :=
    Context.incoming_texts (known _ (List.fst_mem_of_mem_zipIdx isPlaced)) placed.2
  have tabbed (first rest : String) : "\t" ++ (first ++ rest) = "\t" ++ first ++ rest :=
    (String.append_assoc ..).symm
  have settings :
      ((planCallback role context plan).arguments.filterMap fun incoming =>
          incoming.preparation.map fun read => "\t" ++ read.1 ++ " := " ++ read.2.text).map
            ("\t" ++ ·) =
        plan.message.args.zipIdx.flatMap context.settingText := by
    unfold planCallback
    rw [List.filterMap_map, List.map_filterMap, List.filterMap_eq_flatMap_toList]
    refine List.flatMap_congr fun placed isPlaced => ?_
    have setting := (texts placed isPlaced).1
    unfold Context.settingText
    by_cases isPrepared : context.isPrepared placed.1
    · rw [if_pos isPrepared] at setting ⊢
      obtain ⟨pair, isSet, same⟩ := Option.map_eq_some_iff.mp setting
      obtain ⟨name, value⟩ := Prod.mk.inj same
      rw [← name, ← value, Function.comp_apply, isSet]
      simp only [Option.map_some, Option.toList_some, tabbed]
      rfl
    · rw [if_neg isPrepared] at setting ⊢
      rw [Function.comp_apply, Option.map_eq_none_iff.mp setting]
      rfl
  have given : (planCallback role context plan).arguments.map (·.value.text) =
      plan.message.args.zipIdx.map context.givenText := by
    unfold planCallback
    rw [List.map_map]
    exact List.map_congr_left fun placed isPlaced => (texts placed isPlaced).2
  unfold dispatchCaseLines Context.caseText
  rw [indent_one]
  · simp only [List.map_append, List.map_cons, List.map_nil, given, ← named, tabbed]
    exact congrArg₂ (· ++ ·) (congrArg₂ (· ++ ·) rfl settings) rfl
  · intro line isLine
    rcases mem_dispatchCaseLines isLine with rfl | ⟨rest, rfl⟩ <;> simp

/-- The line of a callback, moved in, is its text. -/
theorem indent_callbackText
    (known : ∀ arg ∈ plan.message.args, HasKind arg)
    (role : Role)
    (owner : String)
    (named : plan.name = exportedName plan.message.name) :
    indent 1 [callbackText owner (planCallback role context plan)] =
      [context.memberText plan.message owner] := by
  have parameters : (planCallback role context plan).arguments.map (·.parameter) = _ :=
    planCallback_typed known role
  have texts : (planCallback role context plan).arguments.map (·.parameter.text) =
      (plan.message.args.map context.parameter).map Parameter.text := by
    rw [← parameters, List.map_map]
    rfl
  unfold callbackText Context.memberText
  rw [texts, signatureText_eq, ← named, indent_one]
  · simp only [List.map_cons, List.map_nil, ← String.append_assoc]
    rfl
  · simp

end Callbacks

end Wayland.Binding
