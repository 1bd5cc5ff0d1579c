import Wayland.Proofs.Binding.Fit
import Wayland.Proofs.Binding.SourceText

/-!
Contract: the files of roles hold only characters that a source file may have.

Owns:
- the parameters, values and results of methods and callbacks;
- that the file of a role has only source characters where its label and its protocol do.

Does not own: which names a role package declares.
-/

namespace Wayland.Binding

open Wayland.Model
open Wayland.Text

/-! ## Arguments -/

theorem IsWordText.localName
    {name : String}
    (isText : IsWordText name)
    (reserved : List String) :
    IsWordText (localName reserved name) := by
  have plain : IsWordText (plainLocalName name) :=
    fun char isMember => .inl (isAlnum_plainLocalName isText char isMember)
  have ending : IsWordText "_" := by
    simp [IsWordText]
  unfold Binding.localName
  simp only
  split
  · exact plain.append ending
  · exact plain

/-- A result of source texts. -/
structure Returned.IsSource
    (returned : Returned) : Prop where
  types : Binding.IsSource returned.types
  value : ∀ value, returned.value? = some value → Binding.IsSource value

theorem isSource_nothing :
    Returned.nothing.IsSource :=
  ⟨isSource_literal ⟨_, rfl, rfl⟩, fun _ isValue => nomatch isValue⟩

theorem isSource_object :
    Returned.object.IsSource := by
  refine ⟨isSource_literal ⟨_, rfl, rfl⟩, fun value isValue => ?_⟩
  cases isValue
  exact isSource_literal ⟨_, rfl, rfl⟩

theorem isSource_handle
    {typeName : String}
    (isType : Binding.IsSource typeName) :
    (Returned.handle typeName).IsSource := by
  refine ⟨?_, fun value isValue => ?_⟩
  · unfold Returned.types
    simp (disch := exact ⟨_, rfl, rfl⟩) [isType]
  · cases isValue
    simp (disch := exact ⟨_, rfl, rfl⟩) [isType]

/-- What one argument adds to a method, in source texts. -/
structure Outgoing.IsSource
    (outgoing : Outgoing) : Prop where
  parameters : ∀ parameter ∈ outgoing.parameters, Binding.IsSource parameter.text
  values : ∀ value ∈ outgoing.values, Binding.IsSource value.text
  returned : outgoing.returned.IsSource

/-- What one argument adds to a callback, in source texts. -/
structure Incoming.IsSource
    (incoming : Incoming) : Prop where
  parameter : Binding.IsSource incoming.parameter.text
  value : Binding.IsSource incoming.value.text
  preparation : ∀ name value, incoming.preparation = some (name, value) →
    Binding.IsSource name ∧ Binding.IsSource value.text

namespace Context

variable {context : Context} {arg : Arg}

theorem isSource_handleType
    (isPlan : context.protocol.IsSource)
    {interface typeName : String}
    (found : context.handleType? interface = some typeName) :
    IsSource typeName := by
  obtain ⟨plan, isNamed, rfl⟩ := Option.map_eq_some_iff.mp found
  have isMember := List.mem_reverse.mp (List.mem_of_find?_eq_some isNamed)
  exact (isPlan.interfaces plan isMember).typeName

theorem isSource_enumerationType
    (isPlan : context.protocol.IsSource)
    {typeName : String}
    (found : context.enumerationType? arg = some typeName) :
    IsSource typeName := by
  unfold enumerationType? ProtocolPlan.enumerationType? at found
  split at found
  · cases found
  · obtain ⟨enumeration, isNamed, rfl⟩ := Option.map_eq_some_iff.mp found
    obtain ⟨earlier, later, entries, -⟩ := List.lookup_eq_some_iff.mp isNamed
    have isMember :=
      List.mem_reverse.mp (entries ▸ List.mem_append_right earlier List.mem_cons_self)
    obtain ⟨interface, isInterface, inInterface⟩ := List.mem_flatMap.mp isMember
    obtain ⟨same, isEnumeration, pair⟩ := List.mem_map.mp inInterface
    obtain ⟨-, rfl⟩ := Prod.mk.inj pair
    have isSource := isPlan.interfaces interface isInterface
    have isType := (isSource.enumerations same isEnumeration).typeName
    simp (disch := exact ⟨_, rfl, rfl⟩) [isPlan.package, isType]

theorem isSource_declaredType
    (isPlan : context.protocol.IsSource)
    {typeName : String}
    (found : context.declaredType? arg = some typeName) :
    IsSource typeName := by
  unfold declaredType? at found
  split at found
  · exact isSource_enumerationType isPlan found
  · exact isSource_enumerationType isPlan found
  · exact isSource_handleType isPlan found
  · exact isSource_handleType isPlan found
  · cases found

theorem isSource_plainType
    (arg : Arg) :
    IsSource (plainType arg) := by
  unfold plainType
  repeat' split
  all_goals exact isSource_literal ⟨_, rfl, rfl⟩

theorem isSource_constructorName
    (arg : Arg) :
    IsSource (constructorName arg) := by
  unfold constructorName
  repeat' split
  all_goals exact isSource_literal ⟨_, rfl, rfl⟩

theorem isSource_receivedText
    (arg : Arg)
    (index : Nat) :
    IsSource (receivedText arg index) := by
  unfold receivedText
  split
  · simp (disch := exact ⟨_, rfl, rfl⟩)
  · rename_i field isField
    have isField : IsSource field := by
      unfold fieldName? at isField
      split at isField
      all_goals
        cases isField
        try exact isSource_literal ⟨_, rfl, rfl⟩
    split <;>
      simp (disch := exact ⟨_, rfl, rfl⟩) [isField]

theorem isSource_typeText
    (isPlan : context.protocol.IsSource)
    (arg : Arg) :
    IsSource (context.typeText arg) := by
  unfold typeText
  split
  · exact isSource_plainType arg
  · rename_i typeName found
    have isType := isSource_declaredType isPlan found
    split
    · exact isSource_append.mpr ⟨isSource_literal ⟨_, rfl, rfl⟩, isType⟩
    · exact isType

theorem isSource_typed
    (isPlan : context.protocol.IsSource)
    {value : String}
    (isValue : IsSource value) :
    IsSource (context.typed arg value) := by
  unfold typed
  split
  · exact isValue
  · rename_i typeName found
    have isType := isSource_declaredType isPlan found
    split <;>
      simp (disch := exact ⟨_, rfl, rfl⟩) [isType, isValue]

theorem isSource_untyped
    {value : String}
    (isValue : IsSource value) :
    IsSource (context.untyped arg value) := by
  have plain := isSource_plainType arg
  unfold untyped
  split
  · exact isValue
  · split <;>
      simp (disch := exact ⟨_, rfl, rfl⟩) [isValue, plain]

theorem isSource_parameterText
    {name typeText : String} :
    IsSource (Parameter.text ⟨name, typeText⟩) ↔ IsSource name ∧ IsSource typeText := by
  have blank : IsSource " " := isSource_literal ⟨_, rfl, rfl⟩
  unfold Parameter.text
  simp only [isSource_append, blank, and_true]

theorem isSource_parameterName
    {parameter : Parameter}
    (isText : IsSource parameter.text) :
    IsSource parameter.name := by
  obtain ⟨name, typeText⟩ := parameter
  exact (isSource_parameterText.mp isText).1

theorem isSource_parameter
    (isPlan : context.protocol.IsSource)
    (isName : IsWordText arg.name) :
    IsSource (context.parameter arg).text := by
  unfold parameter
  rw [isSource_parameterText]
  exact ⟨(isName.localName context.reserved).isSource, isSource_typeText isPlan arg⟩

theorem isSource_requested
    (isName : IsWordText arg.name) :
    ∀ parameter ∈ context.requested arg, IsSource parameter.text := by
  have ended (ending : String) (isEnding : IsWordText ending) :
      IsSource (localName context.reserved (arg.name ++ ending)) :=
    ((isName.append isEnding).localName context.reserved).isSource
  have interfaceName := ended "_interface" (by simp [IsWordText, IsAlnum, IsSmall])
  have versionName := ended "_version" (by simp [IsWordText, IsAlnum, IsSmall])
  have text : IsSource "string" := isSource_literal ⟨_, rfl, rfl⟩
  have number : IsSource "uint32" := isSource_literal ⟨_, rfl, rfl⟩
  intro parameter isMember
  unfold requested at isMember
  split at isMember
  · rcases List.mem_pair.mp isMember with rfl | rfl
    · exact isSource_parameterText.mpr ⟨interfaceName, text⟩
    · exact isSource_parameterText.mpr ⟨versionName, number⟩
  · cases isMember

theorem isSource_sentText
    (isName : IsWordText arg.name) :
    IsSource (context.sentText arg) := by
  have operands : ∀ operand ∈ context.operands arg, IsSource operand := by
    unfold operands
    split
    · rw [List.forall_mem_append, List.forall_mem_map, List.forall_mem_singleton]
      constructor
      · intro parameter isMember
        exact isSource_parameterName (isSource_requested isName parameter isMember)
      · exact isSource_literal ⟨_, rfl, rfl⟩
    · rw [List.forall_mem_singleton]
      exact isSource_untyped (isName.localName context.reserved).isSource
  unfold sentText
  simp (disch := exact ⟨_, rfl, rfl⟩) [isSource_constructorName, isSource_commaList operands]

/-- What a method returns for an argument is nothing, an object, or a handle that is declared. -/
theorem returned_cases
    (context : Context)
    (arg : Arg) :
    (context.outgoing arg).returned = .nothing ∨ (context.outgoing arg).returned = .object ∨
      ∃ typeName, context.handleType? arg.interface = some typeName ∧
        (context.outgoing arg).returned = .handle typeName := by
  unfold outgoing
  cases arg.kind with
  | int | uint => cases context.enumerationType? arg <;> simp
  | object => cases context.handleType? arg.interface <;> simp
  | newId => cases arg.interface.isEmpty <;> cases context.handleType? arg.interface <;> simp
  | string => cases arg.nullable <;> simp
  | fixed | array | fd | unassigned code => simp

theorem isSource_outgoing
    (isPlan : context.protocol.IsSource)
    (known : HasKind arg)
    (isName : IsWordText arg.name) :
    (context.outgoing arg).IsSource where
  parameters := by
    rw [outgoing_parameters known]
    split
    · exact isSource_requested isName
    · exact List.forall_mem_singleton.mpr (isSource_parameter isPlan isName)
  values := by
    rw [← List.forall_mem_map, outgoing_values known, List.forall_mem_singleton]
    exact isSource_sentText isName
  returned := by
    rcases returned_cases context arg with isNothing | isObject | ⟨typeName, found, isHandle⟩
    · exact isNothing ▸ isSource_nothing
    · exact isObject ▸ isSource_object
    · exact isHandle ▸ isSource_handle (isSource_handleType isPlan found)

theorem isSource_incoming
    (isPlan : context.protocol.IsSource)
    (known : HasKind arg)
    (isName : IsWordText arg.name)
    (index : Nat) :
    (context.incoming arg index).IsSource := by
  have parameter : IsSource (context.incoming arg index).parameter.text := by
    rw [incoming_parameter known]
    exact isSource_parameter isPlan isName
  have source : IsSource (context.incoming arg index).source.text := by
    rw [incoming_source known]
    exact isSource_typed isPlan (isSource_receivedText arg index)
  unfold Incoming.source at source
  cases prepared : (context.incoming arg index).preparation with
  | none =>
      rw [prepared, Option.map_none, Option.getD_none] at source
      exact ⟨parameter, source, by simp [prepared]⟩
  | some setting =>
      obtain ⟨name, value⟩ := setting
      obtain ⟨sameName, isVariable⟩ := prepared_name prepared
      have isVariableName : IsSource name := by
        rw [← sameName]
        exact isSource_parameterName parameter
      rw [prepared, Option.map_some, Option.getD_some] at source
      have isValue : IsSource (ReceivedValue.variable name).text := isVariableName
      refine ⟨parameter, isVariable ▸ isValue, ?_⟩
      intro other otherValue same
      rw [prepared] at same
      cases same
      exact ⟨isVariableName, source⟩

end Context

/-! ## Messages -/

structure Method.IsSource
    (method : Method) : Prop where
  name : Binding.IsSource method.name
  documentation : AreSource method.documentation
  parameters : ∀ parameter ∈ method.parameters, Binding.IsSource parameter.text
  values : ∀ value ∈ method.values, Binding.IsSource value.text
  opcode : Binding.IsSource method.opcode
  returned : method.returned.IsSource

structure Callback.IsSource
    (callback : Callback) : Prop where
  name : Binding.IsSource callback.name
  documentation : AreSource callback.documentation
  opcode : Binding.IsSource callback.opcode
  arguments : ∀ incoming ∈ callback.arguments, incoming.IsSource

/-- An interface of a role package in source texts. -/
structure RoleInterface.IsSource
    (plan : RoleInterface) : Prop where
  interface : plan.interface.IsSource
  methods : ∀ method ∈ plan.methods, method.IsSource
  callbacks : ∀ callback ∈ plan.callbacks, callback.IsSource

/-- A role package of source texts. -/
structure RolePlan.IsSource
    (plan : RolePlan) : Prop where
  label : Binding.IsSource plan.role.label
  protocol : plan.protocol.IsSource
  interfaces : ∀ interface ∈ plan.interfaces, interface.IsSource

/-- The words of both layouts. -/
theorem isSource_layout
    (role : Role) :
    IsSource role.layout.callbacks ∧ IsSource role.layout.setter ∧ IsSource role.layout.field ∧
      IsSource role.layout.noun ∧ IsSource role.layout.received := by
  unfold Role.layout
  split <;>
    exact ⟨isSource_literal ⟨_, rfl, rfl⟩, isSource_literal ⟨_, rfl, rfl⟩,
      isSource_literal ⟨_, rfl, rfl⟩, isSource_literal ⟨_, rfl, rfl⟩,
      isSource_literal ⟨_, rfl, rfl⟩⟩

section Messages

variable {role : Role} {context : Context} {plan : MessagePlan}

theorem areSource_methodDocumentation
    (isPlan : plan.IsSource)
    {name : String}
    (isName : IsSource name) :
    AreSource (methodDocumentation role name plan) := by
  obtain ⟨-, -, -, isNoun, -⟩ := isSource_layout role
  have isWord : IsSource (if role.isServer then "event" else "request") := by
    split <;> exact isSource_literal ⟨_, rfl, rfl⟩
  unfold methodDocumentation
  extract_lets word first
  have isFirst : IsSource first := by
    unfold first
    split <;>
      simp (disch := exact ⟨_, rfl, rfl⟩) [isName, isPlan.word, isPlan.summary, word, isWord]
  rw [areSource_append, areSource_append]
  refine ⟨⟨areSource_cons.mpr ⟨isFirst, areSource_nil⟩, ?_⟩, ?_⟩
  · split
    · simp (disch := exact ⟨_, rfl, rfl⟩) [isNoun]
    · exact areSource_nil
  · split
    · simp (disch := exact ⟨_, rfl, rfl⟩)
    · exact areSource_nil

theorem areSource_callbackDocumentation
    (isPlan : plan.IsSource) :
    AreSource (callbackDocumentation role plan) := by
  obtain ⟨-, -, -, isNoun, isReceived⟩ := isSource_layout role
  unfold callbackDocumentation
  extract_lets first
  have isFirst : IsSource first := by
    unfold first
    split <;>
      simp (disch := exact ⟨_, rfl, rfl⟩) [isPlan.name, isPlan.word, isPlan.summary, isReceived]
  rw [areSource_append]
  refine ⟨areSource_cons.mpr ⟨isFirst, areSource_nil⟩, ?_⟩
  split
  · simp (disch := exact ⟨_, rfl, rfl⟩) [isNoun]
  · exact areSource_nil

theorem isSource_planMethod
    (isProtocol : context.protocol.IsSource)
    (isPlan : plan.IsSource)
    (known : ∀ arg ∈ plan.message.args, HasKind arg)
    (receivesAny : Bool) :
    (planMethod role context receivesAny plan).IsSource := by
  have parts : ∀ part ∈ plan.message.args.map context.outgoing, part.IsSource :=
    List.forall_mem_map.mpr fun arg isArg =>
      Context.isSource_outgoing isProtocol (known arg isArg) (isPlan.arguments arg isArg)
  have isName : IsSource (planMethod role context receivesAny plan).name := by
    unfold planMethod
    simp only
    split
    · exact isSource_append.mpr ⟨isPlan.name, isSource_literal ⟨_, rfl, rfl⟩⟩
    · exact isPlan.name
  refine ⟨isName, areSource_methodDocumentation isPlan isName, ?_, ?_, ?_, ?_⟩
  · exact List.forall_mem_flatMap.mpr fun part isPart => (parts part isPart).parameters
  · exact List.forall_mem_flatMap.mpr fun part isPart => (parts part isPart).values
  · have package := isProtocol.package
    unfold planMethod
    simp (disch := exact ⟨_, rfl, rfl⟩) [package, isPlan.opcodeName]
  · unfold planMethod
    simp only
    cases last : (((plan.message.args.map context.outgoing).map (·.returned)).filter
        (· ≠ .nothing)).getLast? with
    | none => exact isSource_nothing
    | some returned =>
        have isReturned := (List.mem_filter.mp (List.mem_of_getLast? last)).1
        obtain ⟨part, isPart, rfl⟩ := List.mem_map.mp isReturned
        exact (parts part isPart).returned

theorem isSource_planCallback
    (isProtocol : context.protocol.IsSource)
    (isPlan : plan.IsSource)
    (known : ∀ arg ∈ plan.message.args, HasKind arg) :
    (planCallback role context plan).IsSource := by
  have package := isProtocol.package
  refine ⟨isPlan.name, areSource_callbackDocumentation isPlan, ?_, ?_⟩
  · unfold planCallback
    simp (disch := exact ⟨_, rfl, rfl⟩) [package, isPlan.opcodeName]
  · refine List.forall_mem_map.mpr fun placed isPlaced => ?_
    have isArg := List.fst_mem_of_mem_zipIdx isPlaced
    exact Context.isSource_incoming isProtocol (known _ isArg) (isPlan.arguments _ isArg) placed.2

end Messages

theorem isSource_planRoleInterface
    {protocol : ProtocolPlan}
    (isProtocol : protocol.IsSource)
    {interface : InterfacePlan}
    (isMember : interface ∈ protocol.interfaces)
    (known : ∀ direction, ∀ message ∈ interface.messages direction,
      ∀ arg ∈ message.message.args, HasKind arg)
    (role : Role) :
    (planRoleInterface protocol role interface).IsSource := by
  have isInterface := isProtocol.interfaces interface isMember
  have isContext : (protocol.context interface).protocol.IsSource := isProtocol
  refine ⟨isInterface, List.forall_mem_map.mpr ?_, List.forall_mem_map.mpr ?_⟩
  · intro message isMessage
    exact isSource_planMethod isContext (isInterface.messages _ message isMessage)
      (known _ message isMessage) _
  · intro message isMessage
    exact isSource_planCallback isContext (isInterface.messages _ message isMessage)
      (known _ message isMessage)

theorem isSource_planRole
    {protocol : ProtocolPlan}
    (isProtocol : protocol.IsSource)
    (known : ∀ interface ∈ protocol.interfaces, ∀ direction,
      ∀ message ∈ interface.messages direction, ∀ arg ∈ message.message.args, HasKind arg)
    {role : Role}
    (isLabel : IsSource role.label) :
    (planRole protocol role).IsSource where
  label := isLabel
  protocol := isProtocol
  interfaces := List.forall_mem_map.mpr fun interface isMember =>
    isSource_planRoleInterface isProtocol isMember (known interface isMember) role

/-! ## Lines -/

section Lines

variable {role : Role} {plan : RoleInterface}

theorem areSource_handleTypeLines
    (isLabel : IsSource role.label)
    (isPlan : plan.IsSource) :
    AreSource (handleTypeLines role plan) := by
  obtain ⟨isCallbacks, -, isField, isNoun, isReceived⟩ := isSource_layout role
  have isName := isPlan.interface.name
  have isType := isPlan.interface.typeName
  have about : AreSource (documentation
      ((plan.interface.typeName ++ " is the " ++ role.label ++ " " ++ role.layout.noun ++ " of a "
          ++ plan.interface.name ++ " object.")
        :: if plan.interface.summary.isEmpty then [] else [plan.interface.summary ++ "."])) := by
    apply areSource_documentation
    split <;>
      simp (disch := exact ⟨_, rfl, rfl⟩) [isName, isType, isLabel, isNoun,
        isPlan.interface.summary]
  have fields : AreSource (alignRows (("obj", "*session.Object")
      :: if plan.callbacks.isEmpty then []
        else [(role.layout.field, plan.interface.typeName ++ role.layout.callbacks)])) := by
    apply areSource_alignRows
    rw [List.forall_mem_cons]
    refine ⟨⟨isSource_literal ⟨_, rfl, rfl⟩, isSource_literal ⟨_, rfl, rfl⟩⟩, ?_⟩
    split
    · exact List.forall_mem_nil _
    · exact List.forall_mem_singleton.mpr ⟨isField, isSource_append.mpr ⟨isType, isCallbacks⟩⟩
  unfold handleTypeLines
  extract_lets layout typeName name methodText methods
  have signature : ∀ callback ∈ plan.callbacks, IsSource (methodText callback) := by
    intro callback isCallback
    have isSource := isPlan.callbacks callback isCallback
    have parameters : IsSource
        (commaList (("o *" ++ typeName) :: callback.arguments.map (·.parameter.text))) := by
      apply isSource_commaList
      rw [List.forall_mem_cons, List.forall_mem_map]
      refine ⟨isSource_append.mpr ⟨isSource_literal ⟨_, rfl, rfl⟩, isType⟩, ?_⟩
      exact fun incoming isIncoming => (isSource.arguments incoming isIncoming).parameter
    simp (disch := exact ⟨_, rfl, rfl⟩) [methodText, isSource.name, parameters]
  have members : AreSource (List.intercalate [""] methods) := by
    intro line isLine
    rcases mem_of_mem_intercalate isLine with isGap | ⟨lines, isMethod, isLine⟩
    · rw [List.mem_singleton.mp isGap]
      exact isSource_empty
    · obtain ⟨callback, isCallback, rfl⟩ := List.mem_map.mp isMethod
      rcases List.mem_append.mp isLine with isComment | isSignature
      · obtain ⟨text, isText, rfl⟩ := List.mem_map.mp isComment
        have isSource := isPlan.callbacks callback isCallback
        exact isSource_commentLine (isSource.documentation text isText)
      · rw [List.mem_singleton.mp isSignature]
        exact signature callback isCallback
  rw [areSource_append, areSource_append, areSource_append, areSource_append]
  refine ⟨⟨⟨⟨about, ?_⟩, areSource_indent fields 1⟩, ?_⟩, ?_⟩
  · simp (disch := exact ⟨_, rfl, rfl⟩) [typeName, isType]
  · exact areSource_cons.mpr ⟨isSource_literal ⟨_, rfl, rfl⟩, areSource_nil⟩
  · split
    · exact areSource_nil
    · have receives : AreSource (documentation
          [typeName ++ layout.callbacks ++ " receives the " ++ layout.received ++ "s of " ++ name
              ++ ". A non-nil",
            "error is returned from Session.Dispatch."]) := by
        apply areSource_documentation
        simp (disch := exact ⟨_, rfl, rfl⟩) [typeName, layout, name, isType, isCallbacks,
          isReceived, isName]
      simp (disch := exact ⟨_, rfl, rfl⟩) [receives, typeName, layout, isType, isCallbacks,
        areSource_indent members]

theorem areSource_conversionLines
    {shared : String}
    (isShared : IsSource shared)
    (isPlan : plan.interface.IsSource) :
    AreSource (conversionLines role shared plan) := by
  obtain ⟨-, -, -, isNoun, -⟩ := isSource_layout role
  have isName := isPlan.name
  have isType := isPlan.typeName
  have isDescriptor := isSource_descriptorName isPlan
  unfold conversionLines
  extract_lets typeName name descriptor
  have wraps : AreSource (documentation
      [typeName ++ "FromObject wraps obj, which must be bound to " ++ name ++ "."]) := by
    apply areSource_documentation
    simp (disch := exact ⟨_, rfl, rfl⟩) [typeName, name, isType, isName]
  have binds : AreSource (documentation
      ["Bind" ++ typeName ++ " binds a well-known " ++ name ++ " object at id."]) := by
    apply areSource_documentation
    simp (disch := exact ⟨_, rfl, rfl⟩) [typeName, name, isType, isName]
  simp (disch := exact ⟨_, rfl, rfl⟩) [wraps, binds, descriptor, typeName, name, isType, isName,
    isShared, isDescriptor, isNoun]

theorem areSource_setterLines
    (isPlan : plan.interface.IsSource) :
    AreSource (setterLines role plan) := by
  obtain ⟨isCallbacks, isSetter, isField, -, isReceived⟩ := isSource_layout role
  have isType := isPlan.typeName
  unfold setterLines
  extract_lets layout typeName
  split
  · exact areSource_nil
  · simp (disch := exact ⟨_, rfl, rfl⟩) [layout, typeName, isCallbacks, isSetter, isField,
      isReceived, isType]

theorem areSource_methodLines
    {typeName : String}
    (isType : IsSource typeName)
    {method : Method}
    (isMethod : method.IsSource) :
    AreSource (methodLines typeName method) := by
  have about := areSource_documentation isMethod.documentation
  have parameters : IsSource (commaList (method.parameters.map Parameter.text)) :=
    isSource_commaList (List.forall_mem_map.mpr isMethod.parameters)
  have operands : IsSource
      (commaList ("o.Object()" :: method.opcode :: method.values.map SentValue.text)) := by
    apply isSource_commaList
    rw [List.forall_mem_cons, List.forall_mem_cons, List.forall_mem_map]
    exact ⟨isSource_literal ⟨_, rfl, rfl⟩, isMethod.opcode, isMethod.values⟩
  unfold methodLines
  extract_lets call
  have isCall : IsSource call := by
    simp (disch := exact ⟨_, rfl, rfl⟩) [call, operands]
  rw [areSource_append, areSource_append, areSource_append, areSource_append]
  refine ⟨⟨⟨⟨?_, about⟩, ?_⟩, ?_⟩, ?_⟩
  · simp
  · simp (disch := exact ⟨_, rfl, rfl⟩) [parameters, isType, isMethod.name, isMethod.returned.types]
  · split
    · rename_i value isReturned
      have isValue := isMethod.returned.value value isReturned
      simp (disch := exact ⟨_, rfl, rfl⟩) [isCall, isValue]
    · simp (disch := exact ⟨_, rfl, rfl⟩) [isCall]
  · simp (disch := exact ⟨_, rfl, rfl⟩)

theorem areSource_dispatchCaseLines
    {field : String}
    (isField : IsSource field)
    {callback : Callback}
    (isCallback : callback.IsSource) :
    AreSource (dispatchCaseLines field callback) := by
  have operands : IsSource (commaList ("o" :: callback.arguments.map (·.value.text))) := by
    apply isSource_commaList
    rw [List.forall_mem_cons, List.forall_mem_map]
    refine ⟨isSource_literal ⟨_, rfl, rfl⟩, ?_⟩
    exact fun incoming isIncoming => (isCallback.arguments incoming isIncoming).value
  unfold dispatchCaseLines
  rw [areSource_append, areSource_append]
  refine ⟨⟨?_, ?preparations⟩, ?_⟩
  case preparations =>
    intro line isLine
    obtain ⟨incoming, isIncoming, isPrepared⟩ := List.mem_filterMap.mp isLine
    obtain ⟨⟨name, value⟩, prepared, rfl⟩ := Option.map_eq_some_iff.mp isPrepared
    obtain ⟨isName, isValue⟩ := (isCallback.arguments incoming isIncoming).preparation _ _ prepared
    simp (disch := exact ⟨_, rfl, rfl⟩) [isName, isValue]
  all_goals
    simp (disch := exact ⟨_, rfl, rfl⟩) [isField, isCallback.opcode, isCallback.name, operands]

theorem areSource_dispatchLines
    (isPlan : plan.IsSource) :
    AreSource (dispatchLines role plan) := by
  obtain ⟨-, -, isField, -, isReceived⟩ := isSource_layout role
  have isName := isPlan.interface.name
  have isType := isPlan.interface.typeName
  unfold dispatchLines
  extract_lets layout
  have cases : AreSource (plan.callbacks.flatMap (dispatchCaseLines layout.field)) :=
    areSource_flatMap.mpr fun callback isCallback =>
      areSource_dispatchCaseLines isField (isPlan.callbacks callback isCallback)
  rw [areSource_append, areSource_append]
  refine ⟨⟨?_, ?_⟩, ?_⟩
  · simp (disch := exact ⟨_, rfl, rfl⟩) [layout, isReceived, isType]
  · split
    · exact areSource_nil
    · apply areSource_indent
      simp (disch := exact ⟨_, rfl, rfl⟩) [cases]
  · simp (disch := exact ⟨_, rfl, rfl⟩) [layout, isReceived, isName]

end Lines

theorem areSource_optionalStringLines :
    AreSource optionalStringLines := by
  unfold optionalStringLines
  simp (disch := exact ⟨_, rfl, rfl⟩)

theorem isSource_packageText
    {role : Role}
    (isLabel : IsSource role.label) :
    IsSource role.packageText := by
  unfold Role.packageText
  rw [isSource_ofList]
  intro char isMember
  apply isLabel
  have inside := List.dropWhile_subset _ (List.mem_reverse.mp isMember)
  exact List.dropWhile_subset _ (List.mem_reverse.mp inside)

theorem areSource_roleInterfaceLines
    {plan : RolePlan}
    (isPlan : plan.IsSource)
    {interface : RoleInterface}
    (isMember : interface ∈ plan.interfaces) :
    AreSource (roleInterfaceLines plan interface) := by
  have isInterface := isPlan.interfaces interface isMember
  have isType := isInterface.interface.typeName
  have methods : AreSource (interface.methods.flatMap (methodLines interface.interface.typeName)) :=
    areSource_flatMap.mpr fun method isMethod =>
      areSource_methodLines isType (isInterface.methods method isMethod)
  unfold roleInterfaceLines
  simp [areSource_handleTypeLines isPlan.label isInterface,
    areSource_conversionLines isPlan.protocol.package isInterface.interface,
    areSource_setterLines isInterface.interface, methods, areSource_dispatchLines isInterface]

/-- The file of a role has only source characters. -/
theorem areSource_roleLines
    {runtime sharedPath : String}
    (isRuntime : IsSource runtime)
    (isShared : IsSource sharedPath)
    {plan : RolePlan}
    (isPlan : plan.IsSource) :
    AreSource (roleLines runtime sharedPath plan) := by
  have first := isSource_sourceLine isPlan.protocol.name
  have package := isSource_packageText isPlan.label
  have about : AreSource (documentation
      ["Package " ++ plan.role.label ++ " holds the " ++ plan.role.label ++ " side of the "
        ++ plan.protocol.name ++ " protocol."]) := by
    apply areSource_documentation
    simp (disch := exact ⟨_, rfl, rfl⟩) [isPlan.label, isPlan.protocol.name]
  have interfaces : AreSource (plan.interfaces.flatMap (roleInterfaceLines plan)) :=
    areSource_flatMap.mpr fun interface isMember => areSource_roleInterfaceLines isPlan isMember
  unfold roleLines
  simp (disch := exact ⟨_, rfl, rfl⟩) [first, about, package, interfaces, isRuntime, isShared,
    areSource_optionalStringLines]

end Wayland.Binding
