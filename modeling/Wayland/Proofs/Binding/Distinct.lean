import Mathlib.Data.List.Forall2
import Wayland.Proofs.Binding.Items
import Wayland.Proofs.Binding.Spelling
import Wayland.Proofs.Binding.Success

/-!
Contract: the generated files of a protocol declare nothing twice.

Owns:
- that names, methods and members differ where no clash is reported;
- that methods keep away from the accessors of their handle;
- that declared names differ from those of the imported packages.

Does not own: how declarations are read from lines.
-/

namespace Wayland.Binding

open Wayland.Model (Interface Protocol)

/-! ## Kinds of items -/

namespace Scope

def Item.name? : Item → Option String
  | .name text => some text
  | .method _ _ => none
  | .member _ _ => none

def Item.method? : Item → Option (String × String)
  | .name _ => none
  | .method receiver text => some (receiver, text)
  | .member _ _ => none

def Item.member? : Item → Option (String × String)
  | .name _ => none
  | .method _ _ => none
  | .member interface text => some (interface, text)

/-- Items differ if those of each kind do. -/
theorem nodup_of_kinds
    {items : List Item}
    (names : (items.filterMap Item.name?).Nodup)
    (methods : (items.filterMap Item.method?).Nodup)
    (members : (items.filterMap Item.member?).Nodup) :
    items.Nodup := by
  induction items with
  | nil => exact List.nodup_nil
  | cons item rest inductionHypothesis =>
      cases item with
      | name text =>
          obtain ⟨isNew, others⟩ := List.nodup_cons.mp names
          refine List.nodup_cons.mpr ⟨fun again => ?_, inductionHypothesis others methods members⟩
          exact isNew (List.mem_filterMap.mpr ⟨_, again, rfl⟩)
      | method receiver text =>
          obtain ⟨isNew, others⟩ := List.nodup_cons.mp methods
          refine List.nodup_cons.mpr ⟨fun again => ?_, inductionHypothesis names others members⟩
          exact isNew (List.mem_filterMap.mpr ⟨_, again, rfl⟩)
      | member interface text =>
          obtain ⟨isNew, others⟩ := List.nodup_cons.mp members
          refine List.nodup_cons.mpr ⟨fun again => ?_, inductionHypothesis names methods others⟩
          exact isNew (List.mem_filterMap.mpr ⟨_, again, rfl⟩)

end Scope

open Scope

/-- Names under different keys. -/
theorem nodup_flatMap_keys
    {α : Type}
    {parts : List α}
    {key : α → String}
    (names : α → List String)
    (keys : (parts.map key).Nodup)
    (each : ∀ part ∈ parts, (names part).Nodup) :
    (parts.flatMap fun part => (names part).map fun name => (key part, name)).Nodup := by
  refine List.nodup_flatMap.mpr ⟨fun part isPart => ?_, ?_⟩
  · exact (each part isPart).map fun _ _ same => (Prod.mk.inj same).2
  · refine (List.pairwise_map.mp keys).imp fun differ pair isOne isOther => ?_
    obtain ⟨_, -, rfl⟩ := List.mem_map.mp isOne
    obtain ⟨_, -, same⟩ := List.mem_map.mp isOther
    exact differ (Prod.mk.inj same).1.symm

theorem nodup_of_clash?
    {declarations : List Declaration}
    (free : clash? declarations = none) :
    (declarations.map (·.name)).Nodup :=
  (names_nodup_of_clashAfter? free).1

/-! ## The shared file -/

section Shared

variable {plan : ProtocolPlan}

theorem InterfacePlan.items_names
    (interface : InterfacePlan) :
    interface.items.filterMap Item.name? = (interfaceDeclarations interface).map (·.name) := by
  have enumerations (enumeration : EnumerationPlan) :
      enumeration.items.filterMap Item.name? =
        (enumerationDeclarations interface enumeration).map (·.name) := by
    simp [EnumerationPlan.items, enumerationDeclarations, Item.name?, Function.comp_def]
  simp [InterfacePlan.items, interfaceDeclarations, messageDeclarations, InterfacePlan.messages,
    List.filterMap_flatMap, List.map_flatMap, enumerations, Item.name?]

theorem ProtocolPlan.items_names
    (plan : ProtocolPlan) :
    plan.items.filterMap Item.name? =
      "Interfaces" :: (plan.interfaces.flatMap interfaceDeclarations).map (·.name)
        ++ if plan.hasBitfields then ["formatBits"] else [] := by
  have bits : (if plan.hasBitfields then [Item.name "formatBits"] else []).filterMap Item.name? =
      if plan.hasBitfields then ["formatBits"] else [] := by
    split <;> rfl
  simp [ProtocolPlan.items, List.filterMap_flatMap, List.map_flatMap,
    InterfacePlan.items_names, bits, Item.name?]

theorem ProtocolPlan.nodup_names
    (free : clash? plan.declarations = none) :
    (plan.items.filterMap Item.name?).Nodup := by
  have different := nodup_of_clash? free
  unfold ProtocolPlan.declarations at different
  rw [plan.items_names]
  have order : ("Interfaces" :: (plan.interfaces.flatMap interfaceDeclarations).map (·.name)
      ++ ["formatBits"]).Nodup := by
    rw [List.map_cons, List.map_cons] at different
    refine (List.perm_append_singleton "formatBits" _).nodup_iff.mpr ?_
    exact (List.Perm.swap _ _ _).nodup_iff.mp different
  split
  · exact order
  · rw [List.append_nil]
    exact order.sublist (List.sublist_append_left _ _)

theorem ProtocolPlan.items_methods
    (plan : ProtocolPlan) :
    plan.items.filterMap Item.method? =
      (plan.interfaces.flatMap (·.enumerations)).map fun enumeration =>
        (enumeration.typeName, "String") := by
  have enumerations (enumeration : EnumerationPlan) :
      enumeration.items.filterMap Item.method? = [(enumeration.typeName, "String")] := by
    simp [EnumerationPlan.items, List.filterMap_cons, Item.method?]
  have constants (messages : List MessagePlan) :
      (messages.flatMap fun _ => ([] : List (String × String))) = [] :=
    List.flatMap_eq_nil_iff.mpr fun _ _ => rfl
  have interfaces (interface : InterfacePlan) :
      interface.items.filterMap Item.method? =
        interface.enumerations.map fun enumeration => (enumeration.typeName, "String") := by
    simp [InterfacePlan.items, List.filterMap_flatMap, enumerations, constants, Item.method?,
      List.filterMap_cons, List.map_eq_flatMap]
  have bits : (if plan.hasBitfields then [Item.name "formatBits"] else []).filterMap
      Item.method? = [] := by
    split <;> rfl
  simp [ProtocolPlan.items, List.filterMap_flatMap, List.map_flatMap, interfaces, bits,
    List.filterMap_cons, Item.method?]

theorem ProtocolPlan.items_members
    (plan : ProtocolPlan) :
    plan.items.filterMap Item.member? = [] := by
  have bits : (if plan.hasBitfields then [Item.name "formatBits"] else []).filterMap
      Item.member? = [] := by
    split <;> rfl
  simp [ProtocolPlan.items, InterfacePlan.items, EnumerationPlan.items, List.filterMap_flatMap,
    bits, List.filterMap_cons, Item.member?]

/-- The types of enumerations are among the declared names. -/
theorem ProtocolPlan.sublist_enumerationTypes
    (plan : ProtocolPlan) :
    ((plan.interfaces.flatMap (·.enumerations)).map (·.typeName)).Sublist
      (plan.declarations.map (·.name)) := by
  have enumerations (interface : InterfacePlan) (all : List EnumerationPlan) :
      (all.map (·.typeName)).Sublist
        ((all.flatMap (enumerationDeclarations interface)).map (·.name)) := by
    induction all with
    | nil => exact List.Sublist.refl _
    | cons enumeration rest inductionHypothesis =>
        rw [List.flatMap_cons, List.map_append]
        exact (inductionHypothesis.trans (List.sublist_append_right _ _)).cons_cons _
  have interfaces (all : List InterfacePlan) :
      ((all.flatMap (·.enumerations)).map (·.typeName)).Sublist
        ((all.flatMap interfaceDeclarations).map (·.name)) := by
    induction all with
    | nil => exact List.Sublist.refl _
    | cons interface rest inductionHypothesis =>
        rw [List.flatMap_cons, List.flatMap_cons, List.map_append, List.map_append]
        refine List.Sublist.append ?_ inductionHypothesis
        unfold interfaceDeclarations
        rw [List.map_cons, List.map_append]
        exact ((enumerations interface interface.enumerations).trans
          (List.sublist_append_right _ _)).cons _
  unfold ProtocolPlan.declarations
  exact ((interfaces plan.interfaces).cons _).cons _

theorem ProtocolPlan.nodup_items
    (free : clash? plan.declarations = none) :
    plan.items.Nodup := by
  refine nodup_of_kinds (ProtocolPlan.nodup_names free) ?_ ?_
  · have types := (nodup_of_clash? free).sublist plan.sublist_enumerationTypes
    rw [plan.items_methods]
    refine List.pairwise_map.mpr ((List.pairwise_map.mp types).imp fun differ same => ?_)
    exact differ (Prod.mk.inj same).1
  · rw [plan.items_members]
    exact List.nodup_nil

end Shared

/-! ## The files of roles -/

section Roles

variable {role : Role} {plan : RoleInterface} {file : RolePlan}

theorem RoleInterface.items_names
    (role : Role)
    (plan : RoleInterface) :
    (plan.items role).filterMap Item.name? = plan.declaredNames role := by
  unfold RoleInterface.items RoleInterface.callbackItems RoleInterface.declaredNames
  cases noCallbacks : plan.callbacks.isEmpty <;> simp [Item.name?, Function.comp_def]

theorem RoleInterface.items_methods
    (role : Role)
    (plan : RoleInterface) :
    (plan.items role).filterMap Item.method? =
      (plan.methodNames role).map fun name => (plan.interface.typeName, name) := by
  unfold RoleInterface.items RoleInterface.callbackItems
  cases noCallbacks : plan.callbacks.isEmpty <;>
    simp [Item.method?, List.filterMap_cons, Function.comp_def]

theorem RoleInterface.items_members
    (role : Role)
    (plan : RoleInterface) :
    (plan.items role).filterMap Item.member? =
      (plan.callbacks.map (·.name)).map fun name =>
        (plan.interface.typeName ++ role.layout.callbacks, name) := by
  unfold RoleInterface.items RoleInterface.callbackItems
  cases callbacks : plan.callbacks <;> simp [Item.member?, List.filterMap_cons, Function.comp_def]

theorem RolePlan.nodup_names
    (free : Binding.clash? file.declarations = none) :
    (file.items.filterMap Item.name?).Nodup := by
  have different := nodup_of_clash? free
  have names : file.items.filterMap Item.name? =
      (file.interfaces.flatMap (roleInterfaceDeclarations file.role)).map (·.name)
        ++ ["optString", "stringPtr"] := by
    simp [RolePlan.items, List.filterMap_flatMap, List.map_flatMap, RoleInterface.items_names,
      map_name_roleInterfaceDeclarations, Item.name?]
  rw [names]
  exact List.perm_append_comm.nodup_iff.mp different

/-- The handle types are among the declared names. -/
theorem RolePlan.sublist_handleTypes
    (file : RolePlan) :
    (file.interfaces.map (·.interface.typeName)).Sublist (file.declarations.map (·.name)) := by
  have interfaces (all : List RoleInterface) :
      (all.map (·.interface.typeName)).Sublist
        ((all.flatMap (roleInterfaceDeclarations file.role)).map (·.name)) := by
    induction all with
    | nil => exact List.Sublist.refl _
    | cons interface rest inductionHypothesis =>
        rw [List.flatMap_cons, List.map_append]
        exact (inductionHypothesis.trans (List.sublist_append_right _ _)).cons_cons _
  unfold RolePlan.declarations
  exact ((interfaces file.interfaces).cons _).cons _

/-- No accessor is named like another with the ending of methods. -/
theorem accessors_apart
    (role : Role)
    (receivesAny : Bool) :
    (accessors role receivesAny).Nodup ∧
      ∀ name ∈ accessors role receivesAny, name ++ "Msg" ∉ accessors role receivesAny := by
  unfold accessors Role.layout
  cases role.isClient <;> cases receivesAny <;> decide

theorem planMethod_notMem_accessors
    (role : Role)
    (context : Context)
    (receivesAny : Bool)
    (message : MessagePlan) :
    (planMethod role context receivesAny message).name ∉ accessors role receivesAny := by
  unfold planMethod
  simp only
  split
  · rename_i isAccessor
    exact (accessors_apart role receivesAny).2 _ (List.contains_iff_mem.mp isAccessor)
  · rename_i notAccessor
    exact fun isMember => notAccessor (List.contains_iff_mem.mpr isMember)

theorem RoleInterface.nodup_of_clash?
    (free : plan.clash? = none) :
    (plan.callbacks.map (·.name)).Nodup ∧ (plan.methods.map (·.name)).Nodup := by
  simp only [RoleInterface.clash?, Option.orElse_eq_or,
    Option.or_eq_none_iff] at free
  obtain ⟨callbacks, methods⟩ := free
  have first := Binding.nodup_of_clash? callbacks
  have second := Binding.nodup_of_clash? methods
  rw [List.map_map] at first second
  exact ⟨first, second⟩

/-- The methods of a handle differ from each other and from the accessors. -/
theorem RoleInterface.nodup_methodNames
    {protocol : ProtocolPlan}
    {interface : InterfacePlan}
    (free : (planRoleInterface protocol role interface).clash? = none) :
    ((planRoleInterface protocol role interface).methodNames role).Nodup := by
  let receivesAny := !(interface.messages role.receives).isEmpty
  let names := (planRoleInterface protocol role interface).methods.map (·.name)
  have apart : ∀ name ∈ names, name ∉ accessors role receivesAny := by
    intro name isMember
    obtain ⟨method, isMethod, rfl⟩ := List.mem_map.mp isMember
    obtain ⟨message, -, rfl⟩ := List.mem_map.mp isMethod
    exact planMethod_notMem_accessors role _ receivesAny message
  have together : (accessors role receivesAny ++ names).Nodup :=
    List.nodup_append'.mpr ⟨(accessors_apart role receivesAny).1, (nodup_of_clash? free).2,
      fun name isAccessor isName => apart name isName isAccessor⟩
  have setters : (if (planRoleInterface protocol role interface).callbacks.isEmpty then []
      else [role.layout.setter]) = if receivesAny then [role.layout.setter] else [] := by
    simp [planRoleInterface, receivesAny]
  have order : ((planRoleInterface protocol role interface).methodNames role).Perm
      (accessors role receivesAny ++ names) := by
    unfold RoleInterface.methodNames accessors
    rw [setters]
    refine (List.perm_append_singleton _ _).trans ?_
    exact (List.Perm.swap _ _ _).trans ((List.Perm.swap _ _ _).cons _)
  exact order.nodup_iff.mpr together

theorem RolePlan.free_parts
    (free : file.clash? = none) :
    (∀ interface ∈ file.interfaces, interface.clash? = none) ∧
      Binding.clash? file.declarations = none := by
  unfold RolePlan.clash? at free
  simpa using free

theorem planRole_role
    (protocol : ProtocolPlan)
    (role : Role) :
    (planRole protocol role).role = role :=
  rfl

theorem nodup_items_planRole
    {protocol : ProtocolPlan}
    (free : (planRole protocol role).clash? = none) :
    (planRole protocol role).items.Nodup := by
  obtain ⟨interfaces, declarations⟩ := RolePlan.free_parts free
  have types := (nodup_of_clash? declarations).sublist (planRole protocol role).sublist_handleTypes
  refine nodup_of_kinds (RolePlan.nodup_names declarations) ?_ ?_
  · have methods := nodup_flatMap_keys (RoleInterface.methodNames role) types
      fun interface isMember => by
        have isFree := interfaces interface isMember
        obtain ⟨plan, -, rfl⟩ := List.mem_map.mp isMember
        exact RoleInterface.nodup_methodNames isFree
    simpa [RolePlan.items, planRole_role, List.filterMap_flatMap, RoleInterface.items_methods,
      List.filterMap_cons, Item.method?] using methods
  · have keys : ((planRole protocol role).interfaces.map fun interface =>
        interface.interface.typeName ++ role.layout.callbacks).Nodup := by
      rw [← Function.comp_def (· ++ role.layout.callbacks), ← List.map_map]
      exact types.map fun _ _ same => (String.append_left_inj _).mp same
    have members := nodup_flatMap_keys (fun interface => interface.callbacks.map (·.name)) keys
      fun interface isMember => (RoleInterface.nodup_of_clash? (interfaces interface isMember)).1
    simpa [RolePlan.items, planRole_role, List.filterMap_flatMap, RoleInterface.items_members,
      List.filterMap_cons, Item.member?] using members

end Roles

/-! ## Imported packages -/

theorem isCapital_typeName
    (interface : Interface) :
    IsCapital (planInterface interface).typeName := by
  simp only [planInterface]
  exact isCapital_exportedName interface.name

theorem isCapital_enumeration
    {owner : String}
    (isOwner : IsCapital owner)
    (enumeration : Model.Enumeration) :
    IsCapital (planEnumeration owner enumeration).typeName ∧
      ∀ entry ∈ (planEnumeration owner enumeration).entries, IsCapital entry.constant := by
  have isType := isOwner.append (isCapital_exportedName enumeration.name)
  simp only [planEnumeration]
  refine ⟨isType, List.forall_mem_map.mpr fun entry _ => ?_⟩
  exact isType.append (isCapital_exportedName entry.name)

theorem isMarked_message
    (owner : String)
    (direction : Wire.Direction)
    (message : Model.Message)
    (position : Nat) :
    IsMarked (planMessage owner direction message position).opcodeName ∧
      IsMarked (planMessage owner direction message position).sinceName := by
  have opcode : IsMarked "Opcode" := ⟨'O', by decide, by decide⟩
  have since : IsMarked "SinceVersion" := ⟨'S', by decide, by decide⟩
  simp only [planMessage]
  exact ⟨IsMarked.append_right _ opcode, IsMarked.append_right _ since⟩

/-- What an interface declares in the shared file has a character that no package has. -/
theorem isMarked_interfaceDeclarations
    {interface : Interface}
    (areNames : ∀ declaration ∈ interfaceDeclarations (planInterface interface),
      isIdentifier declaration.name = true) :
    ∀ declaration ∈ interfaceDeclarations (planInterface interface), IsMarked declaration.name := by
  have messages (direction : Wire.Direction) :
      ∀ declaration ∈ messageDeclarations (planInterface interface) direction,
        IsMarked declaration.name := by
    intro declaration isDeclaration
    obtain ⟨plan, isPlan, inPair⟩ := List.mem_flatMap.mp isDeclaration
    obtain ⟨opcode, since⟩ : IsMarked plan.opcodeName ∧ IsMarked plan.sinceName := by
      cases direction
      all_goals
        obtain ⟨-, -, rfl⟩ := List.mem_map.mp isPlan
        exact isMarked_message _ _ _ _
    simp only [List.mem_cons, List.not_mem_nil, or_false] at inPair
    rcases inPair with rfl | rfl
    · exact opcode
    · exact since
  intro declaration isDeclaration
  have isName := areNames declaration isDeclaration
  rcases List.mem_cons.mp isDeclaration with rfl | others
  · have ending : IsMarked "Interface" := ⟨'I', by decide, by decide⟩
    exact IsMarked.append_right (planInterface interface).typeName ending
  · rcases List.mem_append.mp others with isMessage | isEnumeration
    · rcases List.mem_append.mp isMessage with isRequest | isEvent
      · exact messages .request declaration isRequest
      · exact messages .event declaration isEvent
    · obtain ⟨plan, isPlan, inside⟩ := List.mem_flatMap.mp isEnumeration
      obtain ⟨enumeration, -, rfl⟩ := List.mem_map.mp isPlan
      obtain ⟨isType, areEntries⟩ :=
        isCapital_enumeration (isCapital_exportedName interface.name) enumeration
      rcases List.mem_cons.mp inside with rfl | isEntry
      · exact isType.isMarked isName
      · obtain ⟨entry, isPlanned, rfl⟩ := List.mem_map.mp isEntry
        exact (areEntries entry isPlanned).isMarked isName

theorem mem_names
    {items : List Item}
    {name : String}
    (isMember : .name name ∈ items) :
    name ∈ items.filterMap Item.name? :=
  List.mem_filterMap.mpr ⟨_, isMember, rfl⟩

theorem shared_apart
    {runtime : String}
    {protocol : Protocol}
    (isValid : sharedIsValid runtime (planProtocol protocol) = true)
    {name : String}
    (isMember : .name name ∈ (planProtocol protocol).items) :
    name ∉ (planProtocol protocol).imports := by
  have inNames := mem_names isMember
  rw [ProtocolPlan.items_names, List.mem_append, List.mem_cons, List.mem_map] at inNames
  have isMarked : IsMarked name := by
    rcases inNames with (rfl | ⟨declaration, isDeclaration, rfl⟩) | isBits
    · exact ⟨'I', by decide, by decide⟩
    · obtain ⟨plan, isPlan, isDeclaration⟩ := List.mem_flatMap.mp isDeclaration
      have areNames := identifiers_of_sharedIsValid isValid isPlan
      obtain ⟨interface, -, rfl⟩ := List.mem_map.mp isPlan
      exact isMarked_interfaceDeclarations areNames declaration isDeclaration
    · rw [List.mem_ite_nil_right, List.mem_singleton] at isBits
      rw [isBits.2]
      exact ⟨'B', by decide, by decide⟩
  have arePackages : ∀ package ∈ ["fmt", "strings", "wire"],
      package.toList.all isPackageChar = true := by
    decide
  intro isImport
  refine isMarked.ne (List.all_eq_true.mp (arePackages name ?_)) rfl
  unfold ProtocolPlan.imports at isImport
  simp only [List.mem_append, List.mem_ite_nil_right, List.mem_singleton] at isImport
  rcases isImport with (⟨-, rfl⟩ | ⟨-, rfl⟩) | rfl <;> decide

theorem role_apart
    {runtime sharedPath : String}
    {protocol : Protocol}
    {role : Role}
    (isValid : roleIsValid runtime sharedPath (planRole (planProtocol protocol) role) = true)
    {name : String}
    (isMember : .name name ∈ (planRole (planProtocol protocol) role).items) :
    name ∉ (planRole (planProtocol protocol) role).imports := by
  have inNames := mem_names isMember
  simp only [RolePlan.items, List.filterMap_append, List.filterMap_flatMap,
    RoleInterface.items_names, List.mem_append, List.mem_flatMap] at inNames
  have isMarked : IsMarked name := by
    rcases inNames with ⟨plan, isPlan, isDeclared⟩ | isHelper
    · have isNamed := isNamed_of_roleIsValid isValid isPlan
      obtain ⟨shared, isShared, rfl⟩ := List.mem_map.mp isPlan
      obtain ⟨interface, -, rfl⟩ := List.mem_map.mp isShared
      have isType := (isCapital_typeName interface).isMarked isNamed.typeName
      obtain rfl | ⟨-, rfl⟩ | rfl | rfl | rfl := RoleInterface.mem_declaredNames.mp isDeclared
      · exact isType
      · exact isType.append_left _
      · exact IsMarked.append_right _ isType
      · exact isType.append_left _
      · exact IsMarked.append_right _ isType
    · simp only [List.filterMap_cons, List.filterMap_nil, Item.name?, List.mem_cons,
        List.not_mem_nil, or_false] at isHelper
      rcases isHelper with rfl | rfl
      · exact ⟨'S', by decide, by decide⟩
      · exact ⟨'P', by decide, by decide⟩
  have arePackages : ∀ package ∈ ["fmt", "session", "wire"],
      package.toList.all isPackageChar = true := by
    decide
  intro isImport
  refine isMarked.ne ?_ rfl
  rcases List.mem_append.mp (show name ∈ ["fmt", "session", "wire"]
      ++ [(planProtocol protocol).package] from isImport) with isStandard | isShared
  · exact List.all_eq_true.mp (arePackages name isStandard)
  · rw [List.mem_singleton.mp isShared, Generator.package_of_plan]
    exact packageName_chars protocol.name

/-! ## Generated files -/

/-- The lines of a file declare items and import packages.  No item is declared twice, and no
declared name is that of an imported package. -/
structure File.Declares
    (file : File)
    (items : List Item)
    (imports : List String) : Prop where
  reads : ∃ lines, file.content = fileText lines ∧ Scope.items lines = items ∧
    Scope.imports lines = imports
  distinct : items.Nodup
  apart : ∀ name, .name name ∈ items → name ∉ imports

namespace Generator

variable {generator : Generator} {protocol : Protocol} {output : Output}

theorem free_of_roleFile
    {plan : ProtocolPlan}
    {role : Role}
    {file : File}
    (rendered : generator.roleFile plan role = .ok file) :
    (planRole plan role).clash? = none := by
  unfold roleFile at rendered
  simp only at rendered
  split at rendered
  · cases rendered
  · rename_i free
    exact free

theorem reads_roleFile
    {plan : ProtocolPlan}
    {role : Role}
    (isPlain : '/' ∉ plan.package.toList)
    (isValid : roleIsValid generator.runtimePath (generator.packagePath plan.package)
      (planRole plan role) = true) :
    ∃ lines,
      fileText (roleLines generator.runtimePath (generator.packagePath plan.package)
          (planRole plan role)) = fileText lines ∧
        Scope.items lines = (planRole plan role).items ∧
        Scope.imports lines = (planRole plan role).imports := by
  obtain ⟨base, isPath⟩ : ∃ base, generator.packagePath plan.package = base ++ "/" ++ plan.package :=
    ⟨_, rfl⟩
  rw [isPath] at isValid ⊢
  exact ⟨_, rfl, (declares_roleLines isValid).items_eq, imports_roleLines isPlain⟩

theorem declares_roleFile
    {role : Role}
    {file : File}
    (rendered : generator.roleFile (planProtocol protocol) role = .ok file) :
    file.Declares (planRole (planProtocol protocol) role).items
      (planRole (planProtocol protocol) role).imports := by
  have free := free_of_roleFile rendered
  obtain ⟨isValid, rfl⟩ := roleFile_parts rendered
  have isPlain : '/' ∉ (planProtocol protocol).package.toList := by
    intro isMember
    rw [package_of_plan] at isMember
    exact absurd (packageName_chars protocol.name _ isMember) (by decide)
  exact
    { reads := reads_roleFile isPlain isValid
      distinct := nodup_items_planRole free
      apart := fun _ isMember => role_apart isValid isMember }

end Generator

/-- The files of a generated protocol, read line by line, declare what the plans have: the shared
file the list of interfaces, descriptors, constants, enumerations and the helper of bit fields, and
the file of a role the handles, callback interfaces, conversions, helpers and methods.  In each file
the names of the package differ from each other and from the packages that are imported, so do the
methods of every type, with the accessors among them, and the members of every callback
interface. -/
theorem generated_names_are_distinct
    {generator : Generator}
    {protocol : Protocol}
    {output : Output}
    (generated : generator.generate protocol = .ok output) :
    ∃ shared files, output.files = shared :: files ∧
      shared.Declares (planProtocol protocol).items (planProtocol protocol).imports ∧
      List.Forall₂
        (fun role file => file.Declares (planRole (planProtocol protocol) role).items
          (planRole (planProtocol protocol) role).imports)
        generator.roles files := by
  obtain ⟨free, isValid, files, rendered, rfl⟩ := Generator.generate_parts generated
  refine ⟨_, files, rfl, ?_, ?_⟩
  · exact
      { reads := ⟨_, rfl, (declares_sharedLines isValid).items_eq, imports_sharedLines _ _⟩
        distinct := ProtocolPlan.nodup_items free
        apart := fun _ isMember => shared_apart isValid isMember }
  · exact (Generator.forall₂_roleFiles rendered).imp fun _ _ isFile =>
      Generator.declares_roleFile isFile

theorem seal_names_are_distinct :
    ∃ output, sealGenerator.generate sealProtocol = .ok output ∧
      ∃ shared file, output.files = [shared, file] ∧
        shared.Declares
          [.name "Interfaces", .name "SealInterface", .name "SealRequestVersionOpcode",
            .name "SealRequestVersionSinceVersion"]
          ["wire"] ∧
        file.Declares
          [.name "Seal", .name "asSeal", .name "SealFromObject", .name "BindSeal",
            .method "Seal" "Object", .method "Seal" "Version", .method "Seal" "VersionMsg",
            .method "Seal" "Dispatch", .name "optString", .name "stringPtr"]
          ["fmt", "session", "wire", "seal"] := by
  obtain ⟨output, generated⟩ := seal_is_generated
  obtain ⟨shared, files, areFiles, isShared, areRoles⟩ := generated_names_are_distinct generated
  obtain ⟨file, others, isFile, noOthers, rfl⟩ := List.forall₂_cons_left_iff.mp areRoles
  cases noOthers
  have sharedItems : (planProtocol sealProtocol).items =
      [.name "Interfaces", .name "SealInterface", .name "SealRequestVersionOpcode",
        .name "SealRequestVersionSinceVersion"] ∧
      (planProtocol sealProtocol).imports = ["wire"] := by
    decide
  have roleItems : (planRole (planProtocol sealProtocol) ⟨"client"⟩).items =
      [.name "Seal", .name "asSeal", .name "SealFromObject", .name "BindSeal",
        .method "Seal" "Object", .method "Seal" "Version", .method "Seal" "VersionMsg",
        .method "Seal" "Dispatch", .name "optString", .name "stringPtr"] ∧
      (planRole (planProtocol sealProtocol) ⟨"client"⟩).imports =
        ["fmt", "session", "wire", "seal"] := by
    decide
  rw [sharedItems.1, sharedItems.2] at isShared
  rw [roleItems.1, roleItems.2] at isFile
  exact ⟨output, generated, shared, file, areFiles, isShared, isFile⟩

end Wayland.Binding
