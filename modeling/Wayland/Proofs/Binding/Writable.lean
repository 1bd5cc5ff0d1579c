import Wayland.Proofs.Binding.Identifier
import Wayland.Proofs.Binding.Parameters
import Wayland.Proofs.Check.Accepted

/-!
Contract: what keeps the files of an accepted protocol from being written.

Owns:
- protocols and generators whose names, paths and labels fit the places they stand in;
- that nothing but a clash of names is reported for them, once they have interfaces.

Does not own: names that lead with a digit, and the spellings of roles.
-/

namespace Wayland.Binding

open Wayland.Model
open Wayland.Text

/-! ## What is generated, and with what -/

/-- A protocol whose interfaces and messages lead with a letter, whose arguments have known types
and names that become identifiers, and whose summaries have only source characters. -/
structure FitsSource
    (protocol : Protocol) : Prop where
  interfaces : ∀ interface ∈ protocol.interfaces, LeadsWithLetter interface.name
  messages : ∀ interface ∈ protocol.interfaces, ∀ direction,
    ∀ message ∈ interface.messages direction, LeadsWithLetter message.name
  args : ∀ interface ∈ protocol.interfaces, ∀ direction,
    ∀ message ∈ interface.messages direction, ∀ arg ∈ message.args,
      LeadsWithLetter arg.name ∨ IsBlankName arg.name
  known : ∀ interface ∈ protocol.interfaces, HasKinds interface
  summaries : ∀ summary ∈ summaries protocol, IsSource summary

/-- A path of source characters that stands between quotes as it is. -/
def IsPlainImport
    (path : String) : Prop :=
  ∀ char ∈ path.toList, IsSourceChar char ∧ char ≠ '"' ∧ char ≠ '\\' ∧ char ≠ '\n'

/-- A generator with plain paths, whose roles are words on one line. -/
structure Generator.IsPlain
    (generator : Generator) : Prop where
  runtimePath : IsPlainImport generator.runtimePath
  importPath : IsPlainImport generator.importPath
  roles : ∀ role ∈ generator.roles,
    isIdentifier role.packageText = true ∧ isCommentText role.label = true

/-! ## Paths and labels -/

theorem isStringBody_of_plain
    {path : String}
    (isPlain : IsPlainImport path) :
    isStringBody path = true := by
  have each (fuel : Nat) (chars : List Char) (enough : chars.length ≤ fuel)
      (arePlain : ∀ char ∈ chars, char ≠ '"' ∧ char ≠ '\\' ∧ char ≠ '\n') :
      isStringBodyFrom fuel chars = true := by
    induction chars generalizing fuel with
    | nil => cases fuel <;> rfl
    | cons char rest inductionHypothesis =>
        obtain ⟨⟨notQuote, notBackslash, notBreak⟩, restPlain⟩ := List.forall_mem_cons.mp arePlain
        cases fuel with
        | zero => cases enough
        | succ fuel =>
            have remaining := inductionHypothesis fuel (Nat.le_of_succ_le_succ enough) restPlain
            simp [isStringBodyFrom, notQuote, notBreak, remaining]
  unfold isStringBody
  apply each
  · rw [String.length_toList]
  · exact fun char isMember => (isPlain char isMember).2

theorem IsPlainImport.isSource
    {path : String}
    (isPlain : IsPlainImport path) :
    IsSource path :=
  fun char isMember => (isPlain char isMember).1

theorem isPlainImport_literal
    {path : String}
    (isSource : IsSource path)
    (plain : (path.toList.all fun char => char != '"' && char != '\\' && char != '\n') = true) :
    IsPlainImport path := by
  intro char isMember
  have isPlain := List.all_eq_true.mp plain char isMember
  simp only [Bool.and_eq_true, bne_iff_ne] at isPlain
  exact ⟨isSource char isMember, isPlain.1.1, isPlain.1.2, isPlain.2⟩

theorem isPlainImport_packagePath
    {generator : Generator}
    (isPlain : IsPlainImport generator.importPath)
    (name : String) :
    IsPlainImport (generator.packagePath (packageName name)) := by
  have package : ∀ char ∈ (packageName name).toList,
      IsSourceChar char ∧ char ≠ '"' ∧ char ≠ '\\' ∧ char ≠ '\n' := by
    intro char isMember
    have isChar := packageName_chars name char isMember
    refine ⟨isSource_packageName name char isMember, ?_, ?_, ?_⟩
    all_goals
      rintro rfl
      exact absurd isChar (by decide)
  have separator : IsPlainImport "/" := isPlainImport_literal (isSource_literal ⟨_, rfl, rfl⟩) rfl
  unfold Generator.packagePath IsPlainImport
  simp only [String.toList_append]
  rw [List.forall_mem_append, List.forall_mem_append]
  refine ⟨⟨?_, separator⟩, package⟩
  split
  · rename_i rest chars
    intro char isMember
    apply isPlain
    rw [String.toList_ofList] at isMember
    rw [← List.mem_reverse, chars]
    exact List.mem_cons_of_mem _ (List.mem_reverse.mp isMember)
  · exact isPlain

theorem isSourceChar_of_lt
    {char : Char}
    (isAscii : char.toNat < 128)
    (notNull : char ≠ Char.ofNat 0) :
    IsSourceChar char := by
  apply IsAscii.isSourceChar
  refine ⟨Nat.pos_of_ne_zero fun isZero => notNull ?_, isAscii⟩
  rw [← Char.ofNat_toNat char, isZero]

theorem isSourceChar_of_isLetter
    {char : Char}
    (letter : isLetter char = true) :
    IsSourceChar char := by
  unfold isLetter at letter
  split at letter
  · rename_i isAscii
    apply isSourceChar_of_lt isAscii
    rintro rfl
    cases letter
  · exact isSourceChar_of_contains (by decide +kernel) letter

theorem isSourceChar_of_isDecimalDigit
    {char : Char}
    (digit : isDecimalDigit char = true) :
    IsSourceChar char := by
  unfold isDecimalDigit at digit
  split at digit
  · rename_i isAscii
    apply isSourceChar_of_lt isAscii
    rintro rfl
    cases digit
  · exact isSourceChar_of_contains (by decide) digit

theorem isSource_of_isIdentifier
    {name : String}
    (isName : isIdentifier name = true) :
    IsSource name := by
  have ofLetterLike {char : Char} (isLike : char = '_' ∨ isLetter char = true) :
      IsSourceChar char := by
    rcases isLike with rfl | letter
    · exact IsAscii.isSourceChar (by decide)
    · exact isSourceChar_of_isLetter letter
  obtain ⟨first, rest, chars, isFirst, areRest, -⟩ := isIdentifier_iff.mp isName
  unfold IsSource
  rw [chars, List.forall_mem_cons]
  refine ⟨ofLetterLike isFirst, fun char isMember => ?_⟩
  rcases areRest char isMember with isLike | digit
  · exact ofLetterLike isLike
  · exact isSourceChar_of_isDecimalDigit digit

/-- The white space around a label is ASCII, and what is left of it is an identifier. -/
theorem isSource_label
    {role : Role}
    (isName : isIdentifier role.packageText = true) :
    IsSource role.label := by
  intro char isMember
  obtain inside | rfl | rfl | rfl := Role.mem_label_cases isMember
  · exact isSource_of_isIdentifier isName char inside
  · exact IsAscii.isSourceChar (by decide)
  · exact IsAscii.isSourceChar (by decide)
  · exact IsAscii.isSourceChar (by decide)

/-! ## The shared package -/

section Protocols

variable {protocol : Protocol} {interface : Interface}

theorem isCommentText_of_isWordText
    {name : String}
    (isText : IsWordText name) :
    isCommentText name = true := by
  unfold isCommentText
  rw [List.all_eq_true]
  intro char isMember
  rw [bne_iff_ne]
  rintro rfl
  have isWord := isText '\n' isMember
  revert isWord
  unfold IsAlnum IsSmall
  decide

theorem isExported_typeName
    (isSpelled : IsSpelled protocol)
    (fits : FitsSource protocol)
    (isMember : interface ∈ protocol.interfaces) :
    IsExported (exportedName interface.name) :=
  isExported_exportedName (isSpelled.interfaces interface isMember)
    (fits.interfaces interface isMember)

theorem isExported_messageName
    (isSpelled : IsSpelled protocol)
    (fits : FitsSource protocol)
    (isMember : interface ∈ protocol.interfaces)
    {direction : Wire.Direction}
    {message : Message}
    (isMessage : message ∈ interface.messages direction) :
    IsExported (exportedName message.name) :=
  isExported_exportedName (isSpelled.messages interface isMember direction message isMessage)
    (fits.messages interface isMember direction message isMessage)

theorem kind_isSome
    {arg : Arg}
    (known : HasKind arg) :
    (planSlot arg).kind.isSome := by
  have named := known.named
  have isConstant : (planSlot arg).kind = kindConstant? arg.kind := by
    simp [planSlot, known.ofName?_eq]
  rw [isConstant]
  cases kind : arg.kind with
  | unassigned code => simp [kind, Wire.Kind.name?] at named
  | _ => rfl

/-- The declared names of an interface are identifiers. -/
theorem identifiers_interfaceDeclarations
    (isSpelled : IsSpelled protocol)
    (fits : FitsSource protocol)
    (isMember : interface ∈ protocol.interfaces) :
    ∀ declaration ∈ interfaceDeclarations (planInterface interface),
      isIdentifier declaration.name = true := by
  have isType := isExported_typeName isSpelled fits isMember
  have descriptor : IsExported (planInterface interface).descriptorName := by
    unfold InterfacePlan.descriptorName
    rw [planInterface_typeName]
    exact isType.append (by simp [IsAlnum, IsSmall])
  have messages (direction : Wire.Direction) :
      ∀ declaration ∈ messageDeclarations (planInterface interface) direction,
        isIdentifier declaration.name = true := by
    intro declaration isDeclared
    obtain ⟨plan, isPlanned, inPair⟩ := List.mem_flatMap.mp isDeclared
    obtain ⟨message, isMessage, position, rfl⟩ := exists_of_mem_planMessages isPlanned
    have isWord := isSpelled.messages interface isMember direction message isMessage
    have label : ∀ char ∈ (directionLabel direction).toList, IsAlnum char := by
      cases direction <;> simp [directionLabel, IsAlnum, IsSmall]
    have stem : IsExported
        (exportedName interface.name ++ directionLabel direction ++ exportedName message.name) :=
      (isType.append label).append (isAlnum_exportedName isWord)
    have endings : ∀ ending ∈ ["Opcode", "SinceVersion"], ∀ char ∈ ending.toList, IsAlnum char := by
      simp [IsAlnum, IsSmall]
    rcases List.mem_pair.mp inPair with rfl | rfl
    all_goals dsimp only [planMessage]
    · exact (stem.append (endings "Opcode" (by decide))).isIdentifier
    · exact (stem.append (endings "SinceVersion" (by decide))).isIdentifier
  have enumerations : ∀ plan ∈ (planInterface interface).enumerations,
      ∀ declaration ∈ enumerationDeclarations (planInterface interface) plan,
        isIdentifier declaration.name = true := by
    refine List.forall_mem_map.mpr fun enumeration isEnumeration => ?_
    have isWord := isSpelled.enumerations interface isMember enumeration isEnumeration
    have enumerationType :
        IsExported (exportedName interface.name ++ exportedName enumeration.name) :=
      isType.append (isAlnum_exportedName isWord)
    unfold enumerationDeclarations planEnumeration
    dsimp only
    rw [List.forall_mem_cons, List.forall_mem_map]
    refine ⟨enumerationType.isIdentifier, List.forall_mem_map.mpr fun entry isEntry => ?_⟩
    have isEntryWord := isSpelled.entries interface isMember enumeration isEnumeration entry isEntry
    dsimp only
    exact (enumerationType.append (isAlnum_exportedName isEntryWord)).isIdentifier
  unfold interfaceDeclarations
  rw [List.forall_mem_cons, List.forall_mem_append, List.forall_mem_append, List.forall_mem_flatMap]
  exact ⟨descriptor.isIdentifier, ⟨messages .request, messages .event⟩, enumerations⟩

theorem sharedIsValid_of_fits
    (isSpelled : IsSpelled protocol)
    (fits : FitsSource protocol)
    {runtime : String}
    (isRuntime : IsPlainImport runtime) :
    sharedIsValid runtime (planProtocol protocol) = true := by
  have declarations : ∀ declaration ∈ (planProtocol protocol).declarations,
      isIdentifier declaration.name = true := by
    unfold ProtocolPlan.declarations
    rw [List.forall_mem_cons, List.forall_mem_cons, List.forall_mem_flatMap]
    refine ⟨by decide, by decide, List.forall_mem_map.mpr ?_⟩
    intro interface isMember
    exact identifiers_interfaceDeclarations isSpelled fits isMember
  have slots : ∀ interface ∈ (planProtocol protocol).interfaces,
      ∀ message ∈ interface.requests ++ interface.events, ∀ slot ∈ message.slots,
        slot.kind.isSome = true := by
    refine List.forall_mem_map.mpr fun interface isMember => ?_
    have each (direction : Wire.Direction) :
        ∀ message ∈ (planInterface interface).messages direction, ∀ slot ∈ message.slots,
          slot.kind.isSome = true := by
      intro plan isPlanned
      obtain ⟨message, isMessage, position, rfl⟩ := exists_of_mem_planMessages isPlanned
      refine List.forall_mem_map.mpr fun arg isArg => kind_isSome ?_
      apply fits.known interface isMember message _ arg isArg
      cases direction
      · exact List.mem_append_left _ isMessage
      · exact List.mem_append_right _ isMessage
    rw [List.forall_mem_append]
    exact ⟨each .request, each .event⟩
  have isComment : isCommentText (planProtocol protocol).name = true :=
    isCommentText_of_isWordText isSpelled.name
  unfold sharedIsValid
  simp only [Bool.and_eq_true, List.all_eq_true]
  exact ⟨⟨⟨declarations, slots⟩, isComment⟩, isStringBody_of_plain isRuntime⟩

/-! ## The packages of roles -/

/-- The parameters of a message are identifiers. -/
theorem identifiers_localNames
    (isSpelled : IsSpelled protocol)
    {names : List String}
    (areTexts : ∀ name ∈ names, IsWordText name)
    (areNamed : ∀ name ∈ names, LeadsWithLetter name ∨ IsBlankName name) :
    ∀ name ∈ names.map (localName (planProtocol protocol).reserved), isIdentifier name = true :=
  List.forall_mem_map.mpr fun name isMember =>
    isIdentifier_localName (reserved_plain isSpelled.interfaces) (areTexts name isMember)
      (areNamed name isMember)

theorem sentNames_named
    {args : List Arg}
    (areNamed : ∀ arg ∈ args, LeadsWithLetter arg.name ∨ IsBlankName arg.name) :
    ∀ name ∈ args.flatMap sentNames, LeadsWithLetter name ∨ IsBlankName name := by
  have endings : ∀ ending ∈ ["_interface", "_version"], LeadsWithLetter ending := by
    simp [LeadsWithLetter, IsAsciiLetter, IsSmall]
  intro name isName
  obtain ⟨arg, isMember, inNames⟩ := List.mem_flatMap.mp isName
  have extended (ending : String) (isEnding : ending ∈ ["_interface", "_version"]) :
      LeadsWithLetter (arg.name ++ ending) := by
    rcases areNamed arg isMember with leads | isBlank
    · exact leads.append ending
    · exact isBlank.leads_append (endings ending isEnding)
  unfold sentNames at inNames
  split at inNames
  · split at inNames
    · rcases List.mem_pair.mp inNames with rfl | rfl
      · exact .inl (extended _ (by decide))
      · exact .inl (extended _ (by decide))
    · cases inNames
  · rw [List.mem_singleton.mp inNames]
    exact areNamed arg isMember

/-- The names of an interface in a role package are identifiers. -/
theorem identifiers_roleInterface
    (isSpelled : IsSpelled protocol)
    (fits : FitsSource protocol)
    (isMember : interface ∈ protocol.interfaces)
    (role : Role) :
    (∀ method ∈ (planRoleInterface (planProtocol protocol) role (planInterface interface)).methods,
      isIdentifier method.name = true ∧
        ∀ parameter ∈ method.parameters, isIdentifier parameter.name = true) ∧
    ∀ callback ∈
        (planRoleInterface (planProtocol protocol) role (planInterface interface)).callbacks,
      isIdentifier callback.name = true ∧
        ∀ incoming ∈ callback.arguments, isIdentifier incoming.parameter.name = true := by
  have known (direction : Wire.Direction) : ∀ message ∈ interface.messages direction,
      ∀ arg ∈ message.args, HasKind arg := by
    intro message isMessage
    apply fits.known interface isMember message
    cases direction
    · exact List.mem_append_left _ isMessage
    · exact List.mem_append_right _ isMessage
  constructor
  · refine List.forall_mem_map.mpr fun plan isPlanned => ?_
    obtain ⟨message, isMessage, position, rfl⟩ := exists_of_mem_planMessages isPlanned
    have isName := isExported_messageName isSpelled fits isMember isMessage
    constructor
    · unfold planMethod
      dsimp only
      split
      all_goals dsimp only [planMessage]
      · have isMessage : IsExported (exportedName message.name ++ "Msg") :=
          isName.append (by simp [IsAlnum, IsSmall])
        exact isMessage.isIdentifier
      · exact isName.isIdentifier
    · rw [← List.forall_mem_map (f := Parameter.name) (P := fun name => isIdentifier name = true),
        planMethod_names _ _ _ (known _ message isMessage)]
      exact identifiers_localNames isSpelled
        (isWordText_sentNames (isSpelled.args interface isMember _ message isMessage))
        (sentNames_named (fits.args interface isMember _ message isMessage))
  · refine List.forall_mem_map.mpr fun plan isPlanned => ?_
    obtain ⟨message, isMessage, position, rfl⟩ := exists_of_mem_planMessages isPlanned
    have isName := isExported_messageName isSpelled fits isMember isMessage
    constructor
    · dsimp only [planCallback, planMessage]
      exact isName.isIdentifier
    · rw [← List.forall_mem_map (f := fun incoming : Incoming => incoming.parameter.name)
          (P := fun name => isIdentifier name = true),
        planCallback_names _ _ _ (known _ message isMessage)]
      exact identifiers_localNames isSpelled
        (List.forall_mem_map.mpr (isSpelled.args interface isMember _ message isMessage))
        (List.forall_mem_map.mpr (fits.args interface isMember _ message isMessage))

theorem identifiers_declaredNames
    (isSpelled : IsSpelled protocol)
    (fits : FitsSource protocol)
    (isMember : interface ∈ protocol.interfaces)
    (role : Role) :
    ∀ name ∈ (planRoleInterface (planProtocol protocol) role
        (planInterface interface)).declaredNames role,
      isIdentifier name = true := by
  have isType := isExported_typeName isSpelled fits isMember
  have callbacks : IsExported (exportedName interface.name ++ role.layout.callbacks) := by
    apply isType.append
    unfold Role.layout
    split <;> simp [IsAlnum, IsSmall]
  have wrapper : isIdentifier ("as" ++ exportedName interface.name) = true := by
    have chars : "as".toList = ['a', 's'] := by simp
    exact isType.isIdentifier_behind chars (by simp [IsSmall])
  have conversion : IsExported (exportedName interface.name ++ "FromObject") :=
    isType.append (by simp [IsAlnum, IsSmall])
  have binding : IsExported ("Bind" ++ exportedName interface.name) := by
    have isBind : IsExported "Bind" := by simp [IsExported, IsUpper, IsAlnum, IsSmall]
    exact isBind.append isType.isAlnum
  intro name isName
  rw [RoleInterface.mem_declaredNames] at isName
  dsimp only [planRoleInterface] at isName
  rw [planInterface_typeName] at isName
  obtain rfl | ⟨-, rfl⟩ | rfl | rfl | rfl := isName
  · exact isType.isIdentifier
  · exact callbacks.isIdentifier
  · exact wrapper
  · exact conversion.isIdentifier
  · exact binding.isIdentifier

theorem roleIsValid_of_fits
    (isSpelled : IsSpelled protocol)
    (fits : FitsSource protocol)
    {runtime sharedPath : String}
    (isRuntime : IsPlainImport runtime)
    (isShared : IsPlainImport sharedPath)
    {role : Role}
    (isName : isIdentifier role.packageText = true)
    (isLine : isCommentText role.label = true) :
    roleIsValid runtime sharedPath (planRole (planProtocol protocol) role) = true := by
  have declarations : ∀ declaration ∈ (planRole (planProtocol protocol) role).declarations,
      isIdentifier declaration.name = true := by
    unfold RolePlan.declarations
    rw [List.forall_mem_cons, List.forall_mem_cons, List.forall_mem_flatMap]
    refine ⟨by decide, by decide, List.forall_mem_map.mpr ?_⟩
    refine List.forall_mem_map.mpr fun interface isMember => ?_
    rw [← List.forall_mem_map (f := Declaration.name) (P := fun name => isIdentifier name = true)]
    have names := map_name_roleInterfaceDeclarations (planRole (planProtocol protocol) role).role
      (planRoleInterface (planProtocol protocol) role (planInterface interface))
    rw [names]
    exact identifiers_declaredNames isSpelled fits isMember role
  have interfaces : ∀ interface ∈ (planRole (planProtocol protocol) role).interfaces,
      (isIdentifier interface.interface.typeName = true ∧
        ∀ method ∈ interface.methods, isIdentifier method.name = true ∧
          ∀ parameter ∈ method.parameters, isIdentifier parameter.name = true) ∧
      ∀ callback ∈ interface.callbacks, isIdentifier callback.name = true ∧
        ∀ incoming ∈ callback.arguments, isIdentifier incoming.parameter.name = true := by
    refine List.forall_mem_map.mpr (List.forall_mem_map.mpr fun interface isMember => ?_)
    obtain ⟨methods, callbacks⟩ := identifiers_roleInterface isSpelled fits isMember role
    have isType := (isExported_typeName isSpelled fits isMember).isIdentifier
    rw [← planInterface_typeName] at isType
    exact ⟨⟨isType, methods⟩, callbacks⟩
  have isComment : isCommentText (planProtocol protocol).name = true :=
    isCommentText_of_isWordText isSpelled.name
  unfold roleIsValid
  simp only [Bool.and_eq_true, List.all_eq_true]
  exact ⟨⟨⟨⟨⟨⟨isName, isLine⟩, isComment⟩, isStringBody_of_plain isRuntime⟩,
    isStringBody_of_plain isShared⟩, declarations⟩, interfaces⟩

/-- A plain generator can write all files of a protocol that fits. -/
theorem canWrite_of_fits
    (isSpelled : IsSpelled protocol)
    (fits : FitsSource protocol)
    {generator : Generator}
    (isPlain : generator.IsPlain) :
    generator.CanWrite protocol where
  isSource :=
    { runtimePath := isPlain.runtimePath.isSource
      importPath := isPlain.importPath.isSource
      labels := fun role isRole => isSource_label (isPlain.roles role isRole).1 }
  isPlan := isSource_planProtocol isSpelled fits.summaries
  known := fits.known
  shared := sharedIsValid_of_fits isSpelled fits isPlain.runtimePath
  roles role isRole :=
    roleIsValid_of_fits isSpelled fits isPlain.runtimePath
      (isPlainImport_packagePath isPlain.importPath protocol.name) (isPlain.roles role isRole).1
      (isPlain.roles role isRole).2

end Protocols

/-! ## Clashes -/

theorem exists_of_clashAfter?
    {earlier declarations : List Declaration}
    {problem : Problem}
    (found : clashAfter? earlier declarations = some problem) :
    ∃ name first second, problem = .nameCollision name first second := by
  induction declarations generalizing earlier with
  | nil => cases found
  | cons next rest inductionHypothesis =>
      unfold clashAfter? at found
      split at found
      · cases found
        exact ⟨_, _, _, rfl⟩
      · exact inductionHypothesis found

/-- Every clash is reported with the name and what it would be declared for. -/
theorem exists_of_clashes
    {generator : Generator}
    {plan : ProtocolPlan}
    {problem : Problem}
    (clashes : generator.Clashes plan problem) :
    ∃ name first second, problem = .nameCollision name first second := by
  rcases clashes with inShared | ⟨role, -, place, inRole⟩
  · exact exists_of_clashAfter? inShared
  · unfold RolePlan.clash? RoleInterface.clash? at inRole
    simp only [Option.orElse_eq_or, Option.or_eq_some_iff] at inRole
    rcases inRole with inInterface | ⟨-, inPackage⟩
    · obtain ⟨interface, -, isError⟩ := List.exists_of_findSome?_eq_some inInterface
      obtain ⟨inner, clash, same⟩ := Option.map_eq_some_iff.mp isError
      cases same
      rcases Option.or_eq_some_iff.mp clash with inCallbacks | ⟨-, inMethods⟩
      · exact exists_of_clashAfter? inCallbacks
      · exact exists_of_clashAfter? inMethods
    · obtain ⟨inner, clash, same⟩ := Option.map_eq_some_iff.mp inPackage
      cases same
      exact exists_of_clashAfter? clash

/-! ## Accepted names -/

/-- Accepted names become identifiers, and so do the names of generated code.

An accepted name whose first character behind leading underscores is a letter is exported as an
identifier with a capital letter first.  Its local name, and that of a name of underscores only, is
an identifier that is neither a keyword nor reserved.  Of an accepted protocol of such names, with
known argument types and summaries of source characters, code is generated unless names clash or
there are no interfaces, by generators with plain paths whose roles are words on one line. -/
theorem accepted_names_are_written :
    (∀ name, Check.isIdentifier name = true → LeadsWithLetter name →
      isIdentifier (exportedName name) = true ∧ IsExported (exportedName name)) ∧
    (∀ name protocolName, Check.isIdentifier name = true →
      LeadsWithLetter name ∨ IsBlankName name →
        isIdentifier (localName (reservedNames (packageName protocolName)) name) = true ∧
          localName (reservedNames (packageName protocolName)) name ∉ keywords ∧
          localName (reservedNames (packageName protocolName)) name ∉
            reservedNames (packageName protocolName)) ∧
    ∀ batch, Check.check batch = .ok () → ∀ protocol ∈ batch.protocols, FitsSource protocol →
      ∀ generator : Generator, generator.IsPlain →
        if protocol.interfaces = [] then
          generator.generate protocol = .error { problem := .emptyProtocol protocol.name }
        else
          (∃ output, generator.generate protocol = .ok output) ∨
            ∃ place name first second,
              generator.generate protocol = .error ⟨place, .nameCollision name first second⟩ := by
  refine ⟨?_, ?_, ?_⟩
  · intro name accepted leads
    have isText := isWordText_of_spells ((Check.isIdentifier_iff name).mp accepted)
    have isExported := isExported_exportedName isText leads
    exact ⟨isExported.isIdentifier, isExported⟩
  · intro name protocolName accepted isNamed
    have isText := isWordText_of_spells ((Check.isIdentifier_iff name).mp accepted)
    have arePlain : ∀ word ∈ reservedNames (packageName protocolName), '_' ∉ word.toList := by
      rw [reservedNames_eq, List.forall_mem_append, List.forall_mem_singleton]
      refine ⟨by decide, fun isUnderscore => ?_⟩
      exact absurd (packageName_chars protocolName '_' isUnderscore) (by decide)
    exact ⟨isIdentifier_localName arePlain isText isNamed, localName_clear arePlain name⟩
  · intro batch accepted protocol checked fits generator isPlain
    have isSpelled := isSpelled_of_check accepted checked
    split
    · rename_i noInterfaces
      unfold Generator.generate
      rw [if_pos (by simp [noInterfaces])]
    · rename_i notEmpty
      rcases Generator.generate_cases (canWrite_of_fits isSpelled fits isPlain) notEmpty with
        isOutput | ⟨place, problem, clashes, failed⟩
      · exact .inl isOutput
      · obtain ⟨name, first, second, rfl⟩ := exists_of_clashes clashes
        exact .inr ⟨place, name, first, second, failed⟩

theorem seal_names_are_written :
    (Check.isIdentifier "id_version" = true ∧ LeadsWithLetter "id_version" ∧
      IsExported (exportedName "id_version") ∧
      localName (reservedNames (packageName "seal")) "id_version" ∉ keywords) ∧
    Check.check ⟨[sealProtocol], []⟩ = .ok () ∧ FitsSource sealProtocol ∧ sealGenerator.IsPlain ∧
      ((∃ output, sealGenerator.generate sealProtocol = .ok output) ∨
        ∃ place name first second, sealGenerator.generate sealProtocol =
          .error ⟨place, .nameCollision name first second⟩) := by
  have leads : ∀ name ∈ ["id_version", "seal", "version", "in", "id"], LeadsWithLetter name := by
    simp [LeadsWithLetter, IsAsciiLetter, IsSmall]
  have isName : Check.isIdentifier "id_version" = true := by decide
  have accepted : Check.check ⟨[sealProtocol], []⟩ = .ok () := by decide
  have silent : ∀ summary ∈ summaries sealProtocol, summary = "" := by decide
  have fits : FitsSource sealProtocol :=
    { interfaces := List.forall_mem_singleton.mpr (leads "seal" (by decide))
      messages := by
        refine List.forall_mem_singleton.mpr fun direction => ?_
        cases direction
        · exact List.forall_mem_singleton.mpr (leads "version" (by decide))
        · exact List.forall_mem_nil _
      args := by
        refine List.forall_mem_singleton.mpr fun direction => ?_
        cases direction
        · refine List.forall_mem_singleton.mpr fun arg isArg => .inl (leads arg.name ?_)
          revert arg
          decide
        · exact List.forall_mem_nil _
      known := canWrite_sealProtocol.known
      summaries := fun summary isSummary => silent summary isSummary ▸ isSource_empty }
  have isPlain : sealGenerator.IsPlain :=
    { runtimePath := isPlainImport_literal isSource_sealGenerator.runtimePath rfl
      importPath := isPlainImport_literal isSource_sealGenerator.importPath rfl
      roles := by decide }
  obtain ⟨exported, locals, written⟩ := accepted_names_are_written
  have isNamed := leads "id_version" (by decide)
  have isLocal := locals _ "seal" isName (.inl isNamed)
  refine ⟨⟨isName, isNamed, (exported _ isName isNamed).2, isLocal.2.1⟩, accepted, fits, isPlain,
    ?_⟩
  have outcome := written _ accepted _ List.mem_cons_self fits _ isPlain
  rwa [if_neg (by decide)] at outcome

/-! ## Accepted protocols that cannot be written -/

/-- The byte zero encodes the null character only. -/
theorem zero_mem_encode
    {char : Char}
    (isMember : 0 ∈ String.utf8EncodeChar char) :
    char.toNat = 0 := by
  have code : char.toNat = char.val.toNat := rfl
  unfold String.utf8EncodeChar at isMember
  simp only at isMember
  repeat' split at isMember
  all_goals
    simp only [List.mem_cons, List.not_mem_nil, or_false, ← UInt8.toNat_inj, UInt8.toNat_ofNat',
      UInt8.toNat_zero] at isMember
    omega

/-- The null character keeps a text from being a source file. -/
theorem not_source_of_null
    {text : String}
    (isMember : Char.ofNat 0 ∈ text.toList) :
    hasOnlySourceChars text = false := by
  have zero : 0 ∈ Bytes.ofText text := List.mem_flatMap.mpr ⟨_, isMember, by decide⟩
  rw [← Bytes.bytes_decode (Bytes.ofText text)] at zero
  obtain ⟨glyph, isGlyph, inGlyph⟩ := List.mem_flatMap.mp zero
  rw [← Bool.not_eq_true]
  intro onlySource
  have isSource := List.all_eq_true.mp onlySource glyph isGlyph
  cases glyph with
  | stray byte => cases isSource
  | char value =>
      have isNull := zero_mem_encode inGlyph
      simp [Glyph.char?, isNull] at isSource

theorem mem_fileText
    {lines : Lines}
    {line : String}
    (isMember : line ∈ lines)
    {char : Char}
    (inLine : char ∈ line.toList) :
    char ∈ (fileText lines).toList := by
  unfold fileText
  rw [String.toList_append, List.mem_append, String.toList_intercalate]
  exact .inl (mem_intercalate (List.mem_map_of_mem isMember) inLine)

/-- The characters of the rows of an enumeration stand in the shared file. -/
theorem entryLine_shown
    {plan : ProtocolPlan}
    {interface : InterfacePlan}
    (isInterface : interface ∈ plan.interfaces)
    {enumeration : EnumerationPlan}
    (isEnumeration : enumeration ∈ interface.enumerations)
    {line : String}
    (isLine : line ∈ entryLinesFrom enumeration.typeName [] enumeration.entries)
    {char : Char}
    (inLine : char ∈ line.toList)
    (runtime : String) :
    char ∈ (fileText (sharedLines runtime plan)).toList := by
  have notEmpty : line.isEmpty = false := by
    rw [← Bool.not_eq_true, String.isEmpty_iff]
    rintro rfl
    cases inLine
  have indented : "\t" ++ line ∈
      constantBlock (entryLinesFrom enumeration.typeName [] enumeration.entries) := by
    have someLines := List.isEmpty_eq_false_iff_exists_mem.mpr ⟨line, isLine⟩
    unfold constantBlock
    rw [if_neg (by rw [someLines]; exact Bool.false_ne_true)]
    apply List.mem_append_left
    apply List.mem_append_right
    exact List.mem_map.mpr ⟨line, isLine, by simp [notEmpty]⟩
  have inEnumeration : "\t" ++ line ∈ enumerationLines interface enumeration := by
    unfold enumerationLines
    simp only [List.mem_append]
    tauto
  have inInterface : "\t" ++ line ∈ interfaceLines interface :=
    List.mem_append_right _ (List.mem_flatMap.mpr ⟨enumeration, isEnumeration, inEnumeration⟩)
  have inFile : "\t" ++ line ∈ sharedLines runtime plan :=
    List.mem_append_left _
      (List.mem_append_right _ (List.mem_flatMap.mpr ⟨interface, isInterface, inInterface⟩))
  apply mem_fileText inFile
  rw [String.toList_append]
  exact List.mem_append_right _ inLine

section Failures

variable {generator : Generator} {protocol : Protocol}

/-- A shared file that cannot be written is reported. -/
theorem generate_of_unwritten
    (notEmpty : protocol.interfaces.isEmpty = false)
    (free : clash? (planProtocol protocol).declarations = none)
    (unwritten : sharedText? generator.runtimePath (planProtocol protocol) = none) :
    generator.generate protocol = .error ⟨[protocol.name], .invalidCode⟩ := by
  unfold Generator.generate
  simp only [notEmpty, free, unwritten]
  rfl

/-- Behind a shared file that is written, the problem of the roles is reported. -/
theorem generate_of_failed
    (notEmpty : protocol.interfaces.isEmpty = false)
    (free : clash? (planProtocol protocol).declarations = none)
    (isShared : sharedIsValid generator.runtimePath (planProtocol protocol) = true)
    (areLines : AreSource (sharedLines generator.runtimePath (planProtocol protocol)))
    {error : Error}
    (failed : generator.roleFiles (planProtocol protocol) generator.roles = .error error) :
    generator.generate protocol = .error error := by
  unfold Generator.generate sharedText?
  simp only [notEmpty, free, isShared, hasOnlySourceChars_of_source areLines, failed]
  rfl

end Failures

/-- A protocol without interfaces. -/
def hollowProtocol : Protocol where
  name := "hollow"

/-- A protocol whose interface is named by a digit. -/
def countProtocol : Protocol where
  name := "count"
  interfaces := [{ name := "_1", version := 1 }]

/-- A protocol with an argument of a type that is not on the wire. -/
def switchProtocol : Protocol where
  name := "switch"
  interfaces :=
    [{ name := "toggle"
       version := 1
       requests :=
        [{ name := "turn"
           since := 1
           args := [{ name := "on", typeName := "bool" }] }] }]

/-- An enumeration with an entry that the null character sums up. -/
def dimEnumeration : Enumeration where
  name := "mode"
  since := 1
  entries? := some [{ name := "dim", value := 0, since := 1, summary := "\x00" }]

def dimInterface : Interface where
  name := "lamp"
  version := 1
  enumerations := [dimEnumeration]

/-- A protocol with the null character in a summary. -/
def dimProtocol : Protocol where
  name := "dim"
  interfaces := [dimInterface]

/-- A generator for a role that is on a line of its own. -/
def brokenGenerator : Generator where
  importPath := "gen"
  runtimePath := "run"
  roles := [⟨"\nclient"⟩]

theorem seal_is_not_broken :
    brokenGenerator.generate sealProtocol = .error ⟨["seal \nclient"], .invalidCode⟩ := by
  have isRuntime : IsSource brokenGenerator.runtimePath := isSource_literal ⟨_, rfl, rfl⟩
  have areLines := areSource_sharedLines isRuntime canWrite_sealProtocol.isPlan
  exact generate_of_failed (by decide) (by decide) (by decide) areLines (by decide)

theorem dim_is_not_written :
    sealGenerator.generate dimProtocol = .error ⟨["dim"], .invalidCode⟩ := by
  let enumeration := planEnumeration (exportedName dimInterface.name) dimEnumeration
  have isNull : ∃ line ∈ entryLinesFrom enumeration.typeName [] enumeration.entries,
      Char.ofNat 0 ∈ line.toList := by
    decide
  obtain ⟨line, isLine, inLine⟩ := isNull
  have isInterface : planInterface dimInterface ∈ (planProtocol dimProtocol).interfaces :=
    List.mem_map_of_mem List.mem_cons_self
  have isEnumeration : enumeration ∈ (planInterface dimInterface).enumerations :=
    List.mem_map_of_mem List.mem_cons_self
  have shown :=
    entryLine_shown isInterface isEnumeration isLine inLine sealGenerator.runtimePath
  have unwritten : sharedText? sealGenerator.runtimePath (planProtocol dimProtocol) = none := by
    unfold sharedText?
    simp only [not_source_of_null shown, Bool.and_false]
    rfl
  exact generate_of_unwritten (by decide) (by decide) unwritten

/-- Accepted names need not become identifiers, and code need not be generated for them.

Names of underscores, or of digits behind one, are exported as no identifiers.  Besides these, a
protocol without interfaces, an unknown argument type, a null character in a summary and a line
break in a configured role keep code from being generated, and none of them is a clash of names. -/
theorem accepted_names_can_fail :
    ((Check.isIdentifier "_" = true ∧ exportedName "_" = "") ∧
      Check.isIdentifier "_1" = true ∧ isIdentifier (exportedName "_1") = false ∧
        isIdentifier (localName (reservedNames (packageName "count")) "_1") = false) ∧
    (Check.check ⟨[countProtocol, switchProtocol, dimProtocol, hollowProtocol, sealProtocol], []⟩ =
        .ok () ∧
      sealGenerator.generate countProtocol = .error ⟨["count"], .invalidCode⟩ ∧
      sealGenerator.generate switchProtocol = .error ⟨["switch"], .invalidCode⟩ ∧
      sealGenerator.generate dimProtocol = .error ⟨["dim"], .invalidCode⟩ ∧
      sealGenerator.generate hollowProtocol = .error { problem := .emptyProtocol "hollow" }) ∧
    Config.generator ⟨"gen", "run", [⟨"\nclient"⟩]⟩ = .ok brokenGenerator ∧
      brokenGenerator.generate sealProtocol = .error ⟨["seal \nclient"], .invalidCode⟩ := by
  refine ⟨by decide, ⟨by decide, by decide, by decide, ?_,
    by decide⟩, by decide, ?_⟩
  · exact dim_is_not_written
  · exact seal_is_not_broken

end Wayland.Binding
