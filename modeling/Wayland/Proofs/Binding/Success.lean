import Wayland.Proofs.Binding.RoleText
import Wayland.Proofs.Check.Accepted

/-!
Contract: a generator makes the files of a protocol whose parts can all be written.

Owns:
- which names and summaries of a protocol leave only source characters in its files;
- what together lets a generator succeed;
- a protocol that is generated.

Does not own: what stands in the files.
-/

namespace Wayland.Binding

open Wayland.Model (Interface Message Protocol)
open Wayland.Text

/-! ## The texts of a protocol -/

/-- A protocol whose names are letters, digits and underscores. -/
structure IsSpelled
    (protocol : Protocol) : Prop where
  name : IsWordText protocol.name
  interfaces : ∀ interface ∈ protocol.interfaces, IsWordText interface.name
  messages : ∀ interface ∈ protocol.interfaces, ∀ direction,
    ∀ message ∈ interface.messages direction, IsWordText message.name
  args : ∀ interface ∈ protocol.interfaces, ∀ direction,
    ∀ message ∈ interface.messages direction, ∀ arg ∈ message.args, IsWordText arg.name
  enumerations : ∀ interface ∈ protocol.interfaces,
    ∀ enumeration ∈ interface.enumerations, IsWordText enumeration.name
  entries : ∀ interface ∈ protocol.interfaces,
    ∀ enumeration ∈ interface.enumerations, ∀ entry ∈ enumeration.entries, IsWordText entry.name

/-- The summaries of an interface that generated files show. -/
def interfaceSummaries
    (interface : Interface) :
    List String :=
  interface.description.summary
    :: ((interface.requests ++ interface.events).map (·.description.summary)
      ++ interface.enumerations.flatMap fun enumeration =>
        enumeration.description.summary :: enumeration.entries.map (·.summary))

/-- The summaries of a protocol that generated files show. -/
def summaries
    (protocol : Protocol) :
    List String :=
  protocol.description.summary :: protocol.interfaces.flatMap interfaceSummaries

theorem isSource_exportedName
    {name : String}
    (isText : IsWordText name) :
    IsSource (exportedName name) :=
  IsWordText.isSource fun char isMember => .inl (isAlnum_exportedName isText char isMember)

theorem isSource_packageName
    (name : String) :
    IsSource (packageName name) := by
  intro char isMember
  have isChar := packageName_chars name char isMember
  simp only [isPackageChar, Bool.or_eq_true, Bool.and_eq_true, decide_eq_true_eq, Char.le_def,
    UInt32.le_iff_toNat_le] at isChar
  apply IsAscii.isSourceChar
  unfold IsAscii
  have isCode : char.val.toNat = char.toNat := rfl
  simp only [isCode, Char.reduceVal, UInt32.reduceToNat] at isChar
  omega

theorem isSource_kindConstant
    {kind : Wire.Kind}
    {constant : String}
    (found : kindConstant? kind = some constant) :
    IsSource constant := by
  unfold kindConstant? at found
  split at found
  all_goals
    cases found
    try exact isSource_literal ⟨_, rfl, rfl⟩

theorem isSource_planSlot
    (arg : Model.Arg) :
    IsSource ((planSlot arg).kind.getD "") := by
  cases found : (planSlot arg).kind with
  | none => exact isSource_empty
  | some constant =>
      obtain ⟨kind, -, isConstant⟩ := Option.bind_eq_some_iff.mp found
      exact isSource_kindConstant isConstant

/-- A planned message is that of a message of the interface. -/
theorem exists_of_mem_planMessages
    {interface : Interface}
    {direction : Wire.Direction}
    {plan : MessagePlan}
    (isMember : plan ∈ (planInterface interface).messages direction) :
    ∃ message ∈ interface.messages direction, ∃ position,
      plan = planMessage (exportedName interface.name) direction message position := by
  have isPlanned : plan ∈ (interface.messages direction).zipIdx.map fun placed =>
      planMessage (exportedName interface.name) direction placed.1 placed.2 := by
    cases direction <;> exact isMember
  obtain ⟨placed, isPlaced, rfl⟩ := List.mem_map.mp isPlanned
  exact ⟨placed.1, List.fst_mem_of_mem_zipIdx isPlaced, placed.2, rfl⟩

section Plans

variable {protocol : Protocol} {interface : Interface}

theorem summary_mem
    (isMember : interface ∈ protocol.interfaces)
    {summary : String}
    (isSummary : summary ∈ interfaceSummaries interface) :
    summary ∈ summaries protocol :=
  List.mem_cons_of_mem _ (List.mem_flatMap.mpr ⟨interface, isMember, isSummary⟩)

theorem messageSummary_mem
    {direction : Wire.Direction}
    {message : Message}
    (isMember : message ∈ interface.messages direction) :
    message.description.summary ∈ interfaceSummaries interface := by
  have inBoth : message ∈ interface.requests ++ interface.events := by
    cases direction
    · exact List.mem_append_left _ isMember
    · exact List.mem_append_right _ isMember
  exact List.mem_cons_of_mem _ (List.mem_append_left _ (List.mem_map_of_mem inBoth))

theorem isSource_planMessage
    {owner : String}
    (isOwner : IsSource owner)
    {message : Message}
    (isWord : IsWordText message.name)
    (areWords : ∀ arg ∈ message.args, IsWordText arg.name)
    (isSummary : IsSource message.description.summary)
    (direction : Wire.Direction)
    (position : Nat) :
    (planMessage owner direction message position).IsSource := by
  have isExported := isSource_exportedName isWord
  have isStem : IsSource (owner ++ directionLabel direction ++ exportedName message.name) := by
    cases direction <;> simp (disch := exact ⟨_, rfl, rfl⟩) [directionLabel, isOwner, isExported]
  unfold planMessage
  constructor
  all_goals dsimp only
  · exact isWord.isSource
  · exact isExported
  · exact isSource_append.mpr ⟨isStem, isSource_literal ⟨_, rfl, rfl⟩⟩
  · exact isSource_append.mpr ⟨isStem, isSource_literal ⟨_, rfl, rfl⟩⟩
  · exact isSource_sentence isSummary
  · exact List.forall_mem_map.mpr fun arg _ => isSource_planSlot arg
  · exact areWords

theorem isSource_planEnumeration
    {owner : String}
    (isOwner : IsSource owner)
    {enumeration : Model.Enumeration}
    (isWord : IsWordText enumeration.name)
    (areWords : ∀ entry ∈ enumeration.entries, IsWordText entry.name)
    (isSummary : IsSource enumeration.description.summary)
    (areSource : ∀ entry ∈ enumeration.entries, IsSource entry.summary) :
    (planEnumeration owner enumeration).IsSource := by
  have isType : IsSource (owner ++ exportedName enumeration.name) :=
    isSource_append.mpr ⟨isOwner, isSource_exportedName isWord⟩
  unfold planEnumeration
  constructor
  all_goals dsimp only
  · exact isWord.isSource
  · exact isType
  · exact isSource_sentence isSummary
  · refine List.forall_mem_map.mpr fun entry isEntry => ?_
    dsimp only
    exact isSource_append.mpr ⟨isType, isSource_exportedName (areWords entry isEntry)⟩
  · exact List.forall_mem_map.mpr fun entry _ => isSource_writeUInt32 _ _
  · refine List.forall_mem_map.mpr fun entry isEntry => ?_
    dsimp only
    exact isSource_sentence (areSource entry isEntry)

theorem isSource_planInterface
    (isSpelled : IsSpelled protocol)
    (isMember : interface ∈ protocol.interfaces)
    (areSource : ∀ summary ∈ interfaceSummaries interface, IsSource summary) :
    (planInterface interface).IsSource := by
  have isName := isSpelled.interfaces interface isMember
  have isType := isSource_exportedName isName
  have messages : ∀ direction, ∀ plan ∈ (planInterface interface).messages direction,
      plan.IsSource := by
    intro direction plan isPlanned
    obtain ⟨message, isMessage, position, rfl⟩ := exists_of_mem_planMessages isPlanned
    exact isSource_planMessage isType (isSpelled.messages interface isMember direction message isMessage)
      (isSpelled.args interface isMember direction message isMessage)
      (areSource _ (messageSummary_mem isMessage)) direction position
  have enumerations : ∀ enumeration ∈ interface.enumerations,
      (planEnumeration (exportedName interface.name) enumeration).IsSource := by
    intro enumeration isEnumeration
    have inSummaries : ∀ summary ∈
        enumeration.description.summary :: enumeration.entries.map (·.summary),
        IsSource summary := by
      intro summary isSummary
      apply areSource
      exact List.mem_cons_of_mem _ (List.mem_append_right _
        (List.mem_flatMap.mpr ⟨enumeration, isEnumeration, isSummary⟩))
    obtain ⟨isSummary, entrySummaries⟩ := List.forall_mem_cons.mp inSummaries
    exact isSource_planEnumeration isType
      (isSpelled.enumerations interface isMember enumeration isEnumeration)
      (isSpelled.entries interface isMember enumeration isEnumeration) isSummary
      (List.forall_mem_map.mp entrySummaries)
  refine ⟨?_, ?_, ?_, messages, ?_⟩
  all_goals dsimp only [planInterface]
  · exact isName.isSource
  · exact isType
  · exact isSource_capitalize (isSource_sentence (areSource _ List.mem_cons_self))
  · exact List.forall_mem_map.mpr enumerations

/-- The plan of a protocol is one of source texts if its names and summaries are. -/
theorem isSource_planProtocol
    (isSpelled : IsSpelled protocol)
    (areSource : ∀ summary ∈ summaries protocol, IsSource summary) :
    (planProtocol protocol).IsSource := by
  unfold planProtocol
  constructor
  all_goals dsimp only
  · exact isSpelled.name.isSource
  · exact isSource_packageName protocol.name
  · exact isSource_capitalize (isSource_sentence (areSource _ List.mem_cons_self))
  · exact List.forall_mem_map.mpr fun _ isMember =>
      isSource_planInterface isSpelled isMember fun summary isSummary =>
        areSource summary (summary_mem isMember isSummary)

theorem hasKind_planned
    (known : ∀ interface ∈ protocol.interfaces, HasKinds interface) :
    ∀ interface ∈ (planProtocol protocol).interfaces, ∀ direction,
      ∀ message ∈ interface.messages direction, ∀ arg ∈ message.message.args, HasKind arg := by
  refine List.forall_mem_map.mpr fun interface isMember direction plan isPlanned => ?_
  obtain ⟨message, isMessage, position, rfl⟩ := exists_of_mem_planMessages isPlanned
  apply known interface isMember message
  cases direction
  · exact List.mem_append_left _ isMessage
  · exact List.mem_append_right _ isMessage

/-- A protocol that has no summaries leaves only its names. -/
theorem isSource_of_silent
    (isSpelled : IsSpelled protocol)
    (areEmpty : ∀ summary ∈ summaries protocol, summary = "") :
    (planProtocol protocol).IsSource := by
  apply isSource_planProtocol isSpelled
  intro summary isSummary
  rw [areEmpty summary isSummary]
  exact isSource_empty

/-- The names of an accepted protocol. -/
theorem isSpelled_of_check
    {batch : Check.Batch}
    (accepted : Check.check batch = .ok ())
    (checked : protocol ∈ batch.protocols) :
    IsSpelled protocol where
  name := isWordText_of_spells (Check.spells_protocol accepted checked)
  interfaces _ isMember := isWordText_of_spells (Check.spells_interface accepted checked isMember)
  messages _ isMember _ _ isMessage :=
    isWordText_of_spells (Check.spells_message accepted checked isMember isMessage)
  args _ isMember _ _ isMessage _ isArg :=
    isWordText_of_spells (Check.spells_arg accepted checked isMember isMessage isArg)
  enumerations _ isMember _ isEnumeration :=
    isWordText_of_spells (Check.spells_enumeration accepted checked isMember isEnumeration)
  entries _ isMember _ isEnumeration _ isEntry := fun char inName =>
    isAlnum_of_isWordChar
      ((Check.spells_entry accepted checked isMember isEnumeration isEntry).2 char inName)

end Plans

/-! ## Success -/

namespace Generator

variable {generator : Generator} {protocol : Protocol}

/-- A generator whose paths and labels are source texts. -/
structure IsSource
    (generator : Generator) : Prop where
  runtimePath : Binding.IsSource generator.runtimePath
  importPath : Binding.IsSource generator.importPath
  labels : ∀ role ∈ generator.roles, Binding.IsSource role.label

theorem isSource_packagePath
    (isImport : Binding.IsSource generator.importPath)
    {package : String}
    (isPackage : Binding.IsSource package) :
    Binding.IsSource (generator.packagePath package) := by
  have separator : Binding.IsSource "/" := isSource_literal ⟨_, rfl, rfl⟩
  unfold packagePath
  refine isSource_append.mpr ⟨isSource_append.mpr ⟨?_, separator⟩, isPackage⟩
  split
  · rename_i rest chars
    rw [isSource_ofList]
    intro char isMember
    apply isImport
    rw [← List.mem_reverse, chars]
    exact List.mem_cons_of_mem _ (List.mem_reverse.mp isMember)
  · exact isImport

/-- What lets a generator write all files of a protocol. -/
structure CanWrite
    (generator : Generator)
    (protocol : Protocol) : Prop where
  isSource : generator.IsSource
  isPlan : (planProtocol protocol).IsSource
  known : ∀ interface ∈ protocol.interfaces, HasKinds interface
  shared : sharedIsValid generator.runtimePath (planProtocol protocol) = true
  roles : ∀ role ∈ generator.roles,
    roleIsValid generator.runtimePath (generator.packagePath (packageName protocol.name))
      (planRole (planProtocol protocol) role) = true

/-- A clash of names in one of the packages that a generator makes. -/
def Clashes
    (generator : Generator)
    (plan : ProtocolPlan)
    (problem : Problem) : Prop :=
  clash? plan.declarations = some problem ∨
    ∃ role ∈ generator.roles, ∃ place, (planRole plan role).clash? = some ⟨place, problem⟩

/-- Where a role can be written, its file is made unless names clash. -/
theorem roleFile_cases
    (canWrite : generator.CanWrite protocol)
    {role : Role}
    (isRole : role ∈ generator.roles) :
    (∃ file, generator.roleFile (planProtocol protocol) role = .ok file) ∨
      ∃ place problem, generator.Clashes (planProtocol protocol) problem ∧
        generator.roleFile (planProtocol protocol) role = .error ⟨place, problem⟩ := by
  have isShared := isSource_packagePath canWrite.isSource.importPath canWrite.isPlan.package
  have areLines := areSource_roleLines canWrite.isSource.runtimePath isShared
    (isSource_planRole canWrite.isPlan (hasKind_planned canWrite.known)
      (canWrite.isSource.labels role isRole))
  unfold roleFile
  simp only
  cases clash : (planRole (planProtocol protocol) role).clash? with
  | some error => exact .inr ⟨_, error.problem, .inr ⟨role, isRole, error.place, clash⟩, rfl⟩
  | none =>
      have isValid := canWrite.roles role isRole
      rw [← package_of_plan] at isValid
      unfold roleText?
      simp only [isValid, hasOnlySourceChars_of_source areLines, Bool.and_self, if_true]
      exact .inl ⟨_, rfl⟩

theorem roleFiles_cases
    (canWrite : generator.CanWrite protocol)
    {roles : List Role}
    (areRoles : ∀ role ∈ roles, role ∈ generator.roles) :
    (∃ files, generator.roleFiles (planProtocol protocol) roles = .ok files) ∨
      ∃ place problem, generator.Clashes (planProtocol protocol) problem ∧
        generator.roleFiles (planProtocol protocol) roles = .error ⟨place, problem⟩ := by
  induction roles with
  | nil => exact .inl ⟨[], rfl⟩
  | cons role rest inductionHypothesis =>
      obtain ⟨isRole, areRest⟩ := List.forall_mem_cons.mp areRoles
      unfold roleFiles
      rcases roleFile_cases canWrite isRole with ⟨file, first⟩ | ⟨place, problem, clash, first⟩
      · rw [first]
        rcases inductionHypothesis areRest with ⟨files, others⟩ | ⟨place, problem, clash, others⟩
        · exact .inl ⟨file :: files, by rw [others]; rfl⟩
        · exact .inr ⟨place, problem, clash, by rw [others]; rfl⟩
      · exact .inr ⟨place, problem, clash, by rw [first]⟩

/-- A generator succeeds where every file can be written, unless names clash. -/
theorem generate_cases
    (canWrite : generator.CanWrite protocol)
    (notEmpty : protocol.interfaces ≠ []) :
    (∃ output, generator.generate protocol = .ok output) ∨
      ∃ place problem, generator.Clashes (planProtocol protocol) problem ∧
        generator.generate protocol = .error ⟨place, problem⟩ := by
  have areLines := areSource_sharedLines canWrite.isSource.runtimePath canWrite.isPlan
  unfold generate
  rw [if_neg (by simpa using notEmpty)]
  simp only
  cases clash : clash? (planProtocol protocol).declarations with
  | some problem => exact .inr ⟨_, problem, .inl clash, rfl⟩
  | none =>
      unfold sharedText?
      simp only [canWrite.shared, hasOnlySourceChars_of_source areLines, Bool.and_self, if_true]
      rcases roleFiles_cases canWrite (fun _ isRole => isRole) with
        ⟨files, rendered⟩ | ⟨place, problem, clash, failed⟩
      · exact .inl ⟨_, by rw [rendered]⟩
      · exact .inr ⟨place, problem, clash, by rw [failed]⟩

/-- A generator succeeds where every file can be written and no names clash. -/
theorem exists_output
    (canWrite : generator.CanWrite protocol)
    (notEmpty : protocol.interfaces ≠ [])
    (free : clash? (planProtocol protocol).declarations = none)
    (areFree : ∀ role ∈ generator.roles, (planRole (planProtocol protocol) role).clash? = none) :
    ∃ output, generator.generate protocol = .ok output := by
  rcases generate_cases canWrite notEmpty with isOutput | ⟨-, problem, clash, -⟩
  · exact isOutput
  · rcases clash with inShared | ⟨role, isRole, place, inRole⟩
    · cases free.symm.trans inShared
    · cases (areFree role isRole).symm.trans inRole

end Generator

/-! ## A protocol -/

/-- A request that is named like an accessor.  The last of its arguments is named like the version of
the object that the one before asks for. -/
def sealRequest : Message where
  name := "version"
  since := 1
  args :=
    [{ name := "in", typeName := "uint" }, { name := "id", typeName := "new_id" },
      { name := "id_version", typeName := "uint" }]

def sealInterface : Interface where
  name := "seal"
  version := 1
  requests := [sealRequest]

def sealProtocol : Protocol where
  name := "seal"
  interfaces := [sealInterface]

def sealGenerator : Generator where
  importPath := "gen"
  runtimePath := "run"
  roles := [⟨"client"⟩]

theorem isSource_sealGenerator :
    sealGenerator.IsSource := by
  unfold sealGenerator
  constructor
  all_goals dsimp only
  · exact isSource_literal ⟨_, rfl, rfl⟩
  · exact isSource_literal ⟨_, rfl, rfl⟩
  · exact List.forall_mem_singleton.mpr (isSource_literal ⟨_, rfl, rfl⟩)

theorem canWrite_sealProtocol :
    sealGenerator.CanWrite sealProtocol := by
  have accepted : Check.check ⟨[sealProtocol], []⟩ = .ok () := by decide
  refine ⟨isSource_sealGenerator, ?_, ?_, by decide +kernel, by decide +kernel⟩
  · exact isSource_of_silent (isSpelled_of_check accepted List.mem_cons_self) (by decide)
  · unfold HasKinds HasKind
    decide

theorem seal_is_generated :
    ∃ output, sealGenerator.generate sealProtocol = .ok output :=
  Generator.exists_output canWrite_sealProtocol (by decide) (by decide) (by decide)

end Wayland.Binding
