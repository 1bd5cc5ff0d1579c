import Wayland.Proofs.Binding.Distinct
import Wayland.Proofs.Binding.Roles
import Wayland.Proofs.Binding.Identifier

/-!
Contract: the parameters of methods and callbacks.

Owns:
- the names of a document that parameters are named after;
- that parameters keep clear of what the file of a role uses;
- when two parameters of a method or callback meet.

Does not own: how local names are spelled.
-/

namespace Wayland.Binding

open Wayland.Model

/-! ## Names -/

/-- The names that an argument brings to the method of its message: its own, or, where the interface
of a new object is left open, two that are made from it. -/
def sentNames
    (arg : Arg) :
    List String :=
  if arg.kind = .newId then
    if arg.interface = "" then [arg.name ++ "_interface", arg.name ++ "_version"] else []
  else [arg.name]

/-- The types and the value of the language that the file of a role uses. -/
def predeclaredNames : List String :=
  ["string", "int", "int32", "uint32", "byte", "error", "nil"]

/-- What the methods and callbacks of a role use besides their parameters: the receiver, the
parameter and the variables of bodies, predeclared names, imported packages, and what the package
declares itself. -/
def RolePlan.usedNames
    (plan : RolePlan) :
    List String :=
  ["o", "in", "objs", "err"] ++ predeclaredNames ++ plan.imports
    ++ plan.items.filterMap Scope.Item.name?

/-- The parameters that names of a document are given: their local names, which are identifiers and
are in use for nothing else.  Two of them meet exactly if they do before reserved names are avoided,
which names of separate words never do. -/
structure AreParameters
    (plan : RolePlan)
    (names sources : List String) : Prop where
  named : names = sources.map (localName plan.protocol.reserved)
  identifiers : ∀ name ∈ names, isIdentifier name = true
  notKeywords : ∀ name ∈ names, name ∉ keywords
  unused : ∀ name ∈ names, name ∉ plan.usedNames
  distinct : names.Nodup ↔ (sources.map plainLocalName).Nodup
  snake : (∀ source ∈ sources, IsSnake source) → sources.Nodup → names.Nodup

/-! ## Names in use -/

section Used

variable {protocol : Protocol}

/-- The names of a protocol and its interfaces that an accepted batch has. -/
theorem isWordText_interface
    {batch : Check.Batch}
    (accepted : Check.check batch = .ok ())
    (checked : protocol ∈ batch.protocols) :
    ∀ interface ∈ protocol.interfaces, IsWordText interface.name := by
  intro interface isMember
  have named := Check.not_interfaceBreaks_of_check accepted checked isMember .badName
  simp only [Check.InterfaceBreaks, not_not] at named
  exact isWordText_of_spells named

/-- The names that are reserved in every package. -/
def fixedNames : List String :=
  ["o", "in", "objs", "err", "fmt", "wire", "session", "string", "int", "int32", "uint32", "byte",
    "error", "nil", "len", "true", "false"]

theorem reservedNames_eq
    (package : String) :
    reservedNames package = fixedNames ++ [package] :=
  rfl

theorem mem_reserved
    {plan : ProtocolPlan}
    {name : String} :
    name ∈ plan.reserved ↔
      name ∈ fixedNames ∨ name = plan.package ∨ name ∈ ["optString", "stringPtr"] ∨
        ∃ interface ∈ plan.interfaces, "as" ++ interface.typeName = name := by
  simp [ProtocolPlan.reserved, reservedNames_eq, or_assoc]

/-- No reserved name has an underscore. -/
theorem reserved_plain
    (areTexts : ∀ interface ∈ protocol.interfaces, IsWordText interface.name) :
    ∀ name ∈ (planProtocol protocol).reserved, '_' ∉ name.toList := by
  have fixed : ∀ name ∈ fixedNames ++ ["optString", "stringPtr"], '_' ∉ name.toList := by
    decide
  intro name isReserved
  rcases mem_reserved.mp isReserved with isFixed | isPackage | isHelper | ⟨plan, isPlan, isWrapper⟩
  · exact fixed name (List.mem_append_left _ isFixed)
  · rw [isPackage, Generator.package_of_plan]
    intro isUnderscore
    have isChar := packageName_chars protocol.name '_' isUnderscore
    exact absurd isChar (by decide)
  · exact fixed name (List.mem_append_right _ isHelper)
  · obtain ⟨interface, isInterface, rfl⟩ := List.mem_map.mp isPlan
    have areAlnum := isAlnum_exportedName (areTexts interface isInterface)
    rw [← isWrapper, planInterface_typeName, String.toList_append, List.mem_append, not_or]
    exact ⟨by decide, fun isUnderscore => (areAlnum '_' isUnderscore).ne_underscore rfl⟩

/-- The first character of a local name is no capital letter. -/
theorem not_isUpper_localName
    {reserved : List String}
    {name : String}
    (isText : IsWordText name) :
    ∀ char ∈ (localName reserved name).toList.head?, ¬ IsUpper char := by
  have plain : ∃ first rest, (plainLocalName name).toList = first :: rest ∧ ¬ IsUpper first := by
    unfold plainLocalName
    cases words : nameWords name with
    | nil => exact ⟨'a', ['r', 'g'], by decide, by unfold IsUpper; decide⟩
    | cons word rest =>
        have isWord : word ∈ nameWords name := by
          rw [words]
          exact List.mem_cons_self
        have areAlnum := isAlnum_nameWords isText isWord
        have notEmpty : word ≠ "" := by
          have isKept := (List.mem_filter.mp isWord).2
          simpa using isKept
        cases chars : word.toList with
        | nil => exact absurd (String.toList_inj.mp chars) notEmpty
        | cons first others =>
            refine ⟨first.toLower, others.map Char.toLower
              ++ (String.join (rest.map innerWord)).toList, ?_, ?_⟩
            · rw [String.toList_append, lowerText_alnum areAlnum, chars]
              rfl
            · have mapped := toNat_toLower (areAlnum first (by simp [chars])).lt
              unfold IsUpper
              split at mapped <;> omega
  obtain ⟨first, rest, chars, notUpper⟩ := plain
  have starts : (localName reserved name).toList.head? = some first := by
    unfold localName
    simp only
    split <;> simp [chars]
  intro char isHead
  rw [starts] at isHead
  cases isHead
  exact notUpper

/-- A type that an accepted interface is given starts with a capital letter. -/
theorem isUpper_typeName
    {interface : Interface}
    (isText : IsWordText interface.name)
    (isName : isIdentifier (planInterface interface).typeName = true) :
    ∃ first rest, (planInterface interface).typeName.toList = first :: rest ∧ IsUpper first := by
  have isCapital := isCapital_typeName interface
  have areAlnum := isAlnum_exportedName isText
  rw [planInterface_typeName] at isName isCapital ⊢
  obtain ⟨first, rest, chars, -⟩ := isIdentifier_iff.mp isName
  refine ⟨first, rest, chars, ?_⟩
  have notSmall : ¬ IsSmall first := isCapital first (by rw [chars]; rfl)
  have isAlnum := areAlnum first (by rw [chars]; exact List.mem_cons_self)
  have notDigit : ¬ (48 ≤ first.toNat ∧ first.toNat ≤ 57) :=
    not_isDigit_of_isIdentifier isName chars
  unfold IsAlnum at isAlnum
  exact (isAlnum.resolve_left notSmall).resolve_right notDigit

/-- What the file of a role uses is reserved, or it starts with a capital letter. -/
theorem usedNames_cases
    {runtime sharedPath : String}
    {role : Role}
    (areTexts : ∀ interface ∈ protocol.interfaces, IsWordText interface.name)
    (isValid : roleIsValid runtime sharedPath (planRole (planProtocol protocol) role) = true)
    {name : String}
    (isUsed : name ∈ (planRole (planProtocol protocol) role).usedNames) :
    name ∈ (planProtocol protocol).reserved ∨
      ∃ first rest, name.toList = first :: rest ∧ IsUpper first := by
  rw [mem_reserved]
  have fixed : ∀ name ∈ ["o", "in", "objs", "err"] ++ predeclaredNames ++ ["fmt", "session", "wire"],
      name ∈ fixedNames := by
    decide
  simp only [RolePlan.usedNames, List.mem_append, RolePlan.items, List.filterMap_append,
    List.filterMap_flatMap, RoleInterface.items_names, List.mem_flatMap] at isUsed
  rcases isUsed with (isFixed | isImport) | ⟨plan, isPlan, isDeclared⟩ | isHelper
  · exact .inl (.inl (fixed name (List.mem_append_left _ (List.mem_append.mpr isFixed))))
  · rcases List.mem_append.mp (show name ∈ ["fmt", "session", "wire"]
        ++ [(planProtocol protocol).package] from isImport) with isStandard | isShared
    · exact .inl (.inl (fixed name (List.mem_append_right _ isStandard)))
    · exact .inl (.inr (.inl (List.mem_singleton.mp isShared)))
  · have isNamed := isNamed_of_roleIsValid isValid isPlan
    obtain ⟨shared, isShared, rfl⟩ := List.mem_map.mp isPlan
    obtain ⟨interface, isInterface, rfl⟩ := List.mem_map.mp isShared
    obtain ⟨first, rest, chars, isUpper⟩ :=
      isUpper_typeName (areTexts interface isInterface) isNamed.typeName
    have extended (ending : String) : ∃ first rest,
        ((planInterface interface).typeName ++ ending).toList = first :: rest ∧ IsUpper first :=
      ⟨first, rest ++ ending.toList, by rw [String.toList_append, chars]; rfl, isUpper⟩
    obtain rfl | ⟨-, rfl⟩ | rfl | rfl | rfl := RoleInterface.mem_declaredNames.mp isDeclared
    · exact .inr ⟨first, rest, chars, isUpper⟩
    · exact .inr (extended _)
    · exact .inl (.inr (.inr (.inr ⟨_, isShared, rfl⟩)))
    · exact .inr (extended _)
    · refine .inr ⟨'B', 'i' :: 'n' :: 'd' :: (planInterface interface).typeName.toList, ?_, ?_⟩
      · exact String.toList_append
      · unfold IsUpper
        decide
  · exact .inl (.inr (.inr (.inl isHelper)))

/-- The local names of a document as parameters. -/
theorem areParameters
    {runtime sharedPath : String}
    {role : Role}
    (areTexts : ∀ interface ∈ protocol.interfaces, IsWordText interface.name)
    (isValid : roleIsValid runtime sharedPath (planRole (planProtocol protocol) role) = true)
    {names sources : List String}
    (areNames : names = sources.map (localName (planProtocol protocol).reserved))
    (areSources : ∀ source ∈ sources, IsWordText source)
    (areIdentifiers : ∀ name ∈ names, isIdentifier name = true) :
    AreParameters (planRole (planProtocol protocol) role) names sources := by
  have arePlain := reserved_plain areTexts
  have clear : ∀ name ∈ names, name ∉ keywords ∧
      name ∉ (planRole (planProtocol protocol) role).usedNames := by
    rw [areNames, List.forall_mem_map]
    intro source isSource
    obtain ⟨notKeyword, notReserved⟩ := localName_clear arePlain source
    refine ⟨notKeyword, fun isUsed => ?_⟩
    rcases usedNames_cases areTexts isValid isUsed with isReserved | ⟨first, rest, chars, isUpper⟩
    · exact notReserved isReserved
    · have starts : first ∈ (localName (planProtocol protocol).reserved source).toList.head? := by
        rw [chars]
        rfl
      exact not_isUpper_localName (areSources source isSource) first starts isUpper
  have distinct : names.Nodup ↔ (sources.map plainLocalName).Nodup := by
    rw [areNames]
    unfold List.Nodup
    rw [List.pairwise_map, List.pairwise_map]
    exact List.Pairwise.iff_of_mem fun isOne isOther =>
      not_congr (localName_eq_iff (areSources _ isOne) (areSources _ isOther))
  exact
    { named := areNames
      identifiers := areIdentifiers
      notKeywords := fun name isName => (clear name isName).1
      unused := fun name isName => (clear name isName).2
      distinct
      snake := fun areSnake different => distinct.mpr
        (List.Nodup.map_on (fun _ isOne _ isOther same =>
          plainLocalName_injective (areSnake _ isOne) (areSnake _ isOther) same) different) }

end Used

/-! ## Messages -/

section Messages

variable (context : Context) (role : Role) (plan : MessagePlan)

theorem planMethod_names
    (known : ∀ arg ∈ plan.message.args, HasKind arg)
    (receivesAny : Bool) :
    (planMethod role context receivesAny plan).parameters.map (·.name) =
      (plan.message.args.flatMap sentNames).map (localName context.reserved) := by
  have each : ∀ arg ∈ plan.message.args, (context.outgoing arg).parameters.map (·.name) =
      (sentNames arg).map (localName context.reserved) := by
    intro arg isMember
    rw [Context.outgoing_parameters (known arg isMember)]
    unfold Context.requested sentNames Context.parameter
    split
    · split <;> simp only [List.map_cons, List.map_nil]
    · simp only [List.map_cons, List.map_nil]
  have parameters : (planMethod role context receivesAny plan).parameters =
      plan.message.args.flatMap fun arg => (context.outgoing arg).parameters := by
    unfold planMethod
    exact List.flatMap_map _ _ _
  rw [parameters, List.map_flatMap, List.map_flatMap]
  exact List.flatMap_congr each

theorem planCallback_names
    (known : ∀ arg ∈ plan.message.args, HasKind arg) :
    (planCallback role context plan).arguments.map (·.parameter.name) =
      (plan.message.args.map (·.name)).map (localName context.reserved) := by
  have typed : (planCallback role context plan).arguments.map (·.parameter) =
      plan.message.args.map context.parameter :=
    planCallback_typed known role
  have names := congrArg (List.map Parameter.name) typed
  simpa only [List.map_map, Function.comp_def, Context.parameter] using names

/-- The parameters of a role that can be written are identifiers. -/
theorem identifiers_of_roleIsValid
    {runtime sharedPath : String}
    {file : RolePlan}
    (isValid : roleIsValid runtime sharedPath file = true)
    {interface : RoleInterface}
    (isMember : interface ∈ file.interfaces) :
    (∀ method ∈ interface.methods, ∀ name ∈ method.parameters.map (·.name),
        isIdentifier name = true) ∧
      ∀ callback ∈ interface.callbacks, ∀ name ∈ callback.arguments.map (·.parameter.name),
        isIdentifier name = true := by
  simp only [roleIsValid, Bool.and_eq_true, List.all_eq_true] at isValid
  obtain ⟨⟨-, methods⟩, callbacks⟩ := isValid.2 interface isMember
  exact ⟨fun method isMethod => List.forall_mem_map.mpr (methods method isMethod).2,
    fun callback isCallback => List.forall_mem_map.mpr (callbacks callback isCallback).2⟩

end Messages

/-! ## Accepted protocols -/

section Accepted

variable {batch : Check.Batch} {protocol : Protocol} {interface : Interface} {message : Message}
variable {direction : Wire.Direction}

theorem isWordText_arg
    (accepted : Check.check batch = .ok ())
    (checked : protocol ∈ batch.protocols)
    (interfaceIn : interface ∈ protocol.interfaces)
    (messageIn : message ∈ interface.messages direction) :
    ∀ arg ∈ message.args, IsWordText arg.name := by
  intro arg isMember
  obtain ⟨messages, isMessage⟩ := Check.exists_occurrence messageIn
  obtain ⟨args, isArg⟩ := Check.exists_occurrence isMember
  have named := Check.not_argBreaks_of_check accepted checked interfaceIn isMessage isArg .badName
  simp only [Check.ArgBreaks, not_not] at named
  exact isWordText_of_spells named

/-- The arguments of an accepted message have different names. -/
theorem nodup_argNames
    (accepted : Check.check batch = .ok ())
    (checked : protocol ∈ batch.protocols)
    (interfaceIn : interface ∈ protocol.interfaces)
    (messageIn : message ∈ interface.messages direction) :
    (message.args.map (·.name)).Nodup := by
  obtain ⟨messages, isMessage⟩ := Check.exists_occurrence messageIn
  have apart (before : List Arg) (arg : Arg) (after : List Arg)
      (split : message.args = before ++ arg :: after) : ∀ other ∈ before, other.name ≠ arg.name := by
    have isArg : Check.Occurrence.In ⟨before, arg⟩ message.args := ⟨after, by simp [split]⟩
    have unique := Check.not_argBreaks_of_check accepted checked interfaceIn isMessage isArg
      .duplicateArg
    simpa [Check.ArgBreaks] using unique
  have each (before args : List Arg) (split : message.args = before ++ args)
      (different : (before.map (·.name)).Nodup) : (message.args.map (·.name)).Nodup := by
    induction args generalizing before with
    | nil => rwa [split, List.append_nil]
    | cons arg args inductionHypothesis =>
        refine inductionHypothesis (before ++ [arg]) (by simp [split]) ?_
        rw [List.map_append, List.map_singleton]
        refine List.nodup_append.mpr ⟨different, List.nodup_singleton _, ?_⟩
        simpa using apart before arg args split
  exact each [] message.args rfl List.nodup_nil

theorem isWordText_sentNames
    {args : List Arg}
    (areTexts : ∀ arg ∈ args, IsWordText arg.name) :
    ∀ name ∈ args.flatMap sentNames, IsWordText name := by
  have endings : ∀ ending ∈ ["_interface", "_version"], IsWordText ending := by
    simp [IsWordText, IsAlnum, IsSmall]
  intro name isName
  obtain ⟨arg, isMember, inNames⟩ := List.mem_flatMap.mp isName
  have isText := areTexts arg isMember
  unfold sentNames at inNames
  split at inNames
  · split at inNames
    · simp only [List.mem_cons, List.not_mem_nil, or_false] at inNames
      rcases inNames with rfl | rfl
      · exact isText.append (endings _ (by decide))
      · exact isText.append (endings _ (by decide))
    · cases inNames
  · rw [List.mem_singleton.mp inNames]
    exact isText

theorem planMessage_message
    (owner : String)
    (direction : Wire.Direction)
    (message : Message)
    (position : Nat) :
    (planMessage owner direction message position).message = message :=
  rfl

end Accepted

/-- The file of a role shows the method of every message that the role sends and the callback of every
message that it receives.  Their parameters are named after the arguments, those of a new object
whose interface is left open after two names made from its own.  They are identifiers that stand for
nothing else in the file, the receiver and the parameter `o` of callbacks included.  Two of them meet
exactly if their names do once underscores are dropped and letters changed.  The other parameters,
`o`, `in` and that of the setter, are the name of a package exactly if that of the protocol is. -/
theorem parameters_meet_as_spelled
    {batch : Check.Batch}
    {protocol : Protocol}
    (accepted : Check.check batch = .ok ())
    (checked : protocol ∈ batch.protocols)
    {generator : Generator}
    {output : Output}
    (generated : generator.generate protocol = .ok output)
    {role : Role}
    (isRole : role ∈ generator.roles)
    {interface : Interface}
    (interfaceIn : interface ∈ protocol.interfaces) :
    (∀ message ∈ interface.messages role.sends, ∃ method, method.message = message.name ∧
      output.Shows (packageName protocol.name) role
        (methodLines (exportedName interface.name) method) ∧
      AreParameters (planRole (planProtocol protocol) role) (method.parameters.map (·.name))
        (message.args.flatMap sentNames)) ∧
    (∀ message ∈ interface.messages role.receives, ∃ callback, callback.message = message.name ∧
      output.Shows (packageName protocol.name) role
        (indent 1 [callbackText (exportedName interface.name) callback]) ∧
      (message.args.map (·.name)).Nodup ∧
      AreParameters (planRole (planProtocol protocol) role)
        (callback.arguments.map (·.parameter.name)) (message.args.map (·.name))) ∧
    ∀ name ∈ ["o", "in", role.layout.field],
      name ∈ (planRole (planProtocol protocol) role).imports ↔ packageName protocol.name = name := by
  obtain ⟨-, isValid, files, rendered, -⟩ := Generator.generate_parts generated
  obtain ⟨file, -, isFile⟩ := Generator.exists_roleFile rendered isRole
  obtain ⟨roleValid, -⟩ := Generator.roleFile_parts isFile
  have areTexts := isWordText_interface accepted checked
  have isPlanned : planRoleInterface (planProtocol protocol) role (planInterface interface) ∈
      (planRole (planProtocol protocol) role).interfaces :=
    List.mem_map_of_mem (List.mem_map_of_mem interfaceIn)
  obtain ⟨methodNames, callbackNames⟩ := identifiers_of_roleIsValid roleValid isPlanned
  refine ⟨fun message messageIn => ?_, fun message messageIn => ?_, ?_⟩
  · have known := hasKinds_of_valid isValid interfaceIn messageIn
    obtain ⟨position, isMessage⟩ := exists_planMessage messageIn
    obtain ⟨receivesAny, shown⟩ := Output.shows_method generated isRole interfaceIn isMessage
    have names := planMethod_names ((planProtocol protocol).context (planInterface interface)) role
      (planMessage (exportedName interface.name) role.sends message position) known receivesAny
    rw [planInterface_typeName] at shown
    refine ⟨_, ?_, shown, areParameters areTexts roleValid names ?_ ?_⟩
    · simp only [planMethod, planMessage_message]
    · exact isWordText_sentNames (isWordText_arg accepted checked interfaceIn messageIn)
    · have areIdentifiers := methodNames _ (planMethod_mem (planProtocol protocol) isMessage)
      rw [planMethod_names _ _ _ known] at areIdentifiers
      rw [names]
      exact areIdentifiers
  · have known := hasKinds_of_valid isValid interfaceIn messageIn
    obtain ⟨position, isMessage⟩ := exists_planMessage messageIn
    obtain ⟨shown, -⟩ := Output.shows_callback generated isRole interfaceIn isMessage
    have names := planCallback_names ((planProtocol protocol).context (planInterface interface))
      role (planMessage (exportedName interface.name) role.receives message position) known
    rw [planInterface_typeName] at shown
    refine ⟨_, ?_, shown, nodup_argNames accepted checked interfaceIn messageIn,
      areParameters areTexts roleValid names ?_ ?_⟩
    · simp only [planCallback, planMessage_message]
    · exact List.forall_mem_map.mpr (isWordText_arg accepted checked interfaceIn messageIn)
    · exact callbackNames _ (planCallback_mem (planProtocol protocol) isMessage)
  · have others : ∀ name ∈ ["o", "in", role.layout.field], name ∉ ["fmt", "session", "wire"] := by
      unfold Role.layout
      split <;> decide
    intro name isName
    rw [← Generator.package_of_plan]
    have isImport : name ∈ (planRole (planProtocol protocol) role).imports ↔
        name ∈ ["fmt", "session", "wire"] ∨ name = (planProtocol protocol).package := by
      rw [← List.mem_singleton, ← List.mem_append]
      rfl
    rw [isImport, or_iff_right (others name isName)]
    exact eq_comm

/-- The parameters for the version of a new object and for an argument named like it meet, although
the protocol is accepted and generated. -/
theorem seal_parameters_meet :
    Check.check ⟨[sealProtocol], []⟩ = .ok () ∧
      ∃ output, sealGenerator.generate sealProtocol = .ok output ∧
        ∃ method, output.Shows "seal" ⟨"client"⟩ (methodLines "Seal" method) ∧
          ¬ (method.parameters.map (·.name)).Nodup := by
  have accepted : Check.check ⟨[sealProtocol], []⟩ = .ok () := by decide
  obtain ⟨output, generated⟩ := seal_is_generated
  have isMessage : planMessage (exportedName "seal") .request sealRequest 0 ∈
      (planInterface sealInterface).messages (Role.sends ⟨"client"⟩) :=
    List.mem_cons_self
  have isRole : ⟨"client"⟩ ∈ sealGenerator.roles := List.mem_cons_self
  obtain ⟨receivesAny, shown⟩ := Output.shows_method generated isRole List.mem_cons_self isMessage
  have known : ∀ arg ∈ sealRequest.args, HasKind arg := by
    unfold HasKind
    decide
  have names : (sealRequest.args.flatMap sentNames).map
      (localName ((planProtocol sealProtocol).context (planInterface sealInterface)).reserved) =
        ["in_", "idInterface", "idVersion", "idVersion"] := by
    decide
  refine ⟨accepted, output, generated, _, shown, ?_⟩
  rw [planMethod_names _ _ _ known, planMessage_message, names]
  decide

theorem seal_parameters_are_clear :
    Check.check ⟨[sealProtocol], []⟩ = .ok () ∧
      ∃ output, sealGenerator.generate sealProtocol = .ok output ∧
        ∃ method, method.message = "version" ∧
          output.Shows "seal" ⟨"client"⟩ (methodLines "Seal" method) ∧
          AreParameters (planRole (planProtocol sealProtocol) ⟨"client"⟩)
            (method.parameters.map (·.name)) ["in", "id_interface", "id_version", "id_version"] := by
  have accepted : Check.check ⟨[sealProtocol], []⟩ = .ok () := by decide
  obtain ⟨output, generated⟩ := seal_is_generated
  have isRole : ⟨"client"⟩ ∈ sealGenerator.roles := List.mem_cons_self
  obtain ⟨sent, -⟩ := parameters_meet_as_spelled accepted List.mem_cons_self generated isRole
    List.mem_cons_self
  obtain ⟨method, isMethod, shown, areParameters⟩ := sent _ List.mem_cons_self
  exact ⟨accepted, output, generated, method, isMethod, shown, areParameters⟩

end Wayland.Binding
