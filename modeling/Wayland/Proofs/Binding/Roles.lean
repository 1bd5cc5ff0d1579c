import Wayland.Proofs.Binding.Distinct
import Wayland.Proofs.Binding.Ends
import Wayland.Proofs.Session.Sending

/-!
Contract: what is generated for roles, however they are labelled, and that two roles hold both ends
of every message.

Owns:
- the method and the callback of a message in the files of roles;
- that a message which makes an object is answered by this object alone;
- what the package of a side has for an interface;
- the file of each configured role, and when it is that of the side which the label names;
- when the paths of an output are distinct.

Does not own: the text of methods and callbacks.
-/

namespace Wayland.Binding

open Wayland.Model
open Wayland.Wire (Direction Side)

/-! ## Files of roles -/

namespace Generator

variable {generator : Generator} {output : Output}

theorem exists_roleFile
    {plan : ProtocolPlan}
    {roles : List Role}
    {files : List File}
    (rendered : generator.roleFiles plan roles = .ok files)
    {role : Role}
    (isMember : role ∈ roles) :
    ∃ file ∈ files, generator.roleFile plan role = .ok file := by
  have areFiles := forall₂_roleFiles rendered
  clear rendered
  induction areFiles with
  | nil => cases isMember
  | cons isFirst _ inductionHypothesis =>
      rcases List.mem_cons.mp isMember with rfl | inRest
      · exact ⟨_, List.mem_cons_self, isFirst⟩
      · obtain ⟨file, isFile, rendered⟩ := inductionHypothesis inRest
        exact ⟨file, List.mem_cons_of_mem _ isFile, rendered⟩

end Generator

/-- The file of a role has lines, one after the other. -/
def Output.Shows
    (output : Output)
    (package : String)
    (role : Role)
    (shown : Lines) : Prop :=
  ∃ file ∈ output.files, ∃ lines,
    file.path = package ++ "/" ++ role.label ++ "/" ++ role.label ++ ".go" ∧
      file.content = fileText lines ∧ shown <:+: lines

/-- The file of a role has lines, which end with line breaks and start behind one. -/
def Output.Writes
    (output : Output)
    (package : String)
    (role : Role)
    (shown : List String) : Prop :=
  ∃ file ∈ output.files, ∃ before after,
    file.path = package ++ "/" ++ role.label ++ "/" ++ role.label ++ ".go" ∧
      file.content = before ++ String.join (shown.map (· ++ "\n")) ++ after ∧
        (before = "" ∨ ∃ rest, before = rest ++ "\n")

/-- A file is its lines, each with a line break. -/
theorem fileText_eq_join
    {lines : Lines}
    (notEmpty : lines ≠ []) :
    fileText lines = String.join (lines.map (· ++ "\n")) := by
  unfold fileText
  induction lines with
  | nil => exact absurd rfl notEmpty
  | cons line rest inductionHypothesis =>
      cases rest with
      | nil => simp
      | cons next others =>
          have isRest := inductionHypothesis (List.cons_ne_nil next others)
          rw [String.intercalate_cons_cons, List.map_cons, String.join_cons, ← isRest]
          simp only [String.append_assoc]

theorem Output.Shows.writes
    {output : Output}
    {package : String}
    {role : Role}
    {shown : Lines}
    (shows : output.Shows package role shown) :
    output.Writes package role shown := by
  obtain ⟨file, isMember, lines, path, content, earlier, later, rfl⟩ := shows
  by_cases isEmpty : earlier ++ shown ++ later = []
  · obtain ⟨rfl, rfl⟩ : earlier = [] ∧ shown = [] := by simp_all
    exact ⟨file, isMember, "", file.content, path, by simp, Or.inl rfl⟩
  · refine ⟨file, isMember, String.join (earlier.map (· ++ "\n")),
      String.join (later.map (· ++ "\n")), path, ?_, ?_⟩
    · rw [content, fileText_eq_join isEmpty]
      simp [String.append_assoc]
    · rcases List.eq_nil_or_concat earlier with rfl | ⟨first, last, rfl⟩
      · exact Or.inl rfl
      · refine Or.inr ⟨String.join (first.map (· ++ "\n")) ++ last, ?_⟩
        simp [String.append_assoc]

section Shown

variable {protocol : Protocol} {generator : Generator} {output : Output} {role : Role}
variable {interface : Interface}

/-- The file of a role shows every part of its lines. -/
theorem Output.shows_of_lines
    (generated : generator.generate protocol = .ok output)
    (isRole : role ∈ generator.roles)
    {shown : Lines}
    (isPart : ∀ runtime sharedPath,
      shown <:+: roleLines runtime sharedPath (planRole (planProtocol protocol) role)) :
    output.Shows (packageName protocol.name) role shown := by
  obtain ⟨-, -, files, rendered, rfl⟩ := Generator.generate_parts generated
  obtain ⟨file, isMember, isFile⟩ := Generator.exists_roleFile rendered isRole
  obtain ⟨-, rfl⟩ := Generator.roleFile_parts isFile
  refine ⟨_, List.mem_cons_of_mem _ isMember, _, ?_, rfl, isPart _ _⟩
  rw [Generator.package_of_plan]

/-- The file of a role shows every part of every interface. -/
theorem Output.shows_of_part
    (generated : generator.generate protocol = .ok output)
    (isRole : role ∈ generator.roles)
    (interfaceIn : interface ∈ protocol.interfaces)
    {shown : Lines}
    (isPart : shown <:+:
      roleInterfaceLines (planRole (planProtocol protocol) role)
        (planRoleInterface (planProtocol protocol) role (planInterface interface))) :
    output.Shows (packageName protocol.name) role shown := by
  refine Output.shows_of_lines generated isRole fun _ _ =>
    isPart.trans (isInfix_interfaceLines _ _ ?_)
  exact List.mem_map.mpr ⟨_, List.mem_map.mpr ⟨interface, interfaceIn, rfl⟩, rfl⟩

theorem planMethod_mem
    (protocol : ProtocolPlan)
    {interface : InterfacePlan}
    {plan : MessagePlan}
    (isMember : plan ∈ interface.messages role.sends) :
    planMethod role (protocol.context interface) (!(interface.messages role.receives).isEmpty)
        plan ∈
      (planRoleInterface protocol role interface).methods :=
  List.mem_map_of_mem isMember

theorem planCallback_mem
    (protocol : ProtocolPlan)
    {interface : InterfacePlan}
    {plan : MessagePlan}
    (isMember : plan ∈ interface.messages role.receives) :
    planCallback role (protocol.context interface) plan ∈
      (planRoleInterface protocol role interface).callbacks :=
  List.mem_map_of_mem isMember

/-- The file of a role shows the method of every message that the role sends. -/
theorem Output.shows_method
    (generated : generator.generate protocol = .ok output)
    (isRole : role ∈ generator.roles)
    (interfaceIn : interface ∈ protocol.interfaces)
    {plan : MessagePlan}
    (isMember : plan ∈ (planInterface interface).messages role.sends) :
    ∃ receivesAny,
      output.Shows (packageName protocol.name) role
        (methodLines (planInterface interface).typeName
          (planMethod role ((planProtocol protocol).context (planInterface interface)) receivesAny
            plan)) := by
  have isMethod := planMethod_mem (planProtocol protocol) isMember
  have part := isInfix_methodLines (planRole (planProtocol protocol) role) isMethod
  exact ⟨_, Output.shows_of_part generated isRole interfaceIn part⟩

/-- The file of a role shows the callback of every message that the role receives, and the case
that calls it. -/
theorem Output.shows_callback
    (generated : generator.generate protocol = .ok output)
    (isRole : role ∈ generator.roles)
    (interfaceIn : interface ∈ protocol.interfaces)
    {plan : MessagePlan}
    (isMember : plan ∈ (planInterface interface).messages role.receives) :
    output.Shows (packageName protocol.name) role
        (indent 1
          [callbackText (planInterface interface).typeName
            (planCallback role ((planProtocol protocol).context (planInterface interface)) plan)]) ∧
      output.Shows (packageName protocol.name) role
        (indent 1
          (dispatchCaseLines role.layout.field
            (planCallback role ((planProtocol protocol).context (planInterface interface))
              plan))) := by
  have isCallback := planCallback_mem (planProtocol protocol) isMember
  have text := isInfix_callbackText (planRole (planProtocol protocol) role) isCallback
  have case := isInfix_caseLines (planRole (planProtocol protocol) role) isCallback
  exact ⟨Output.shows_of_part generated isRole interfaceIn text,
    Output.shows_of_part generated isRole interfaceIn case⟩

/-- The plan of a message stands among those of its interface. -/
theorem exists_planMessage
    {direction : Wire.Direction}
    {message : Message}
    (messageIn : message ∈ interface.messages direction) :
    ∃ position,
      planMessage (exportedName interface.name) direction message position ∈
        (planInterface interface).messages direction := by
  obtain ⟨position, isLt, isAt⟩ := List.mem_iff_getElem.mp messageIn
  have placed : (message, position) ∈ (interface.messages direction).zipIdx :=
    List.mem_zipIdx_iff_getElem?.mpr (List.getElem?_eq_some_iff.mpr ⟨isLt, isAt⟩)
  refine ⟨position, ?_⟩
  cases direction <;> exact List.mem_map.mpr ⟨_, placed, rfl⟩

theorem planInterface_typeName
    (interface : Interface) :
    (planInterface interface).typeName = exportedName interface.name := by
  rw [planInterface]

/-- Where the shared file can be written, all arguments have kinds. -/
theorem hasKinds_of_valid
    {runtime : String}
    (isValid : sharedIsValid runtime (planProtocol protocol) = true)
    (interfaceIn : interface ∈ protocol.interfaces)
    {direction : Wire.Direction}
    {message : Message}
    (messageIn : message ∈ interface.messages direction) :
    ∀ arg ∈ message.args, HasKind arg := by
  obtain ⟨position, isPlanned⟩ := exists_planMessage messageIn
  have inBoth : planMessage (exportedName interface.name) direction message position ∈
      (planInterface interface).requests ++ (planInterface interface).events := by
    cases direction
    · exact List.mem_append_left _ isPlanned
    · exact List.mem_append_right _ isPlanned
  intro arg isMember
  simp only [sharedIsValid, Bool.and_eq_true, List.all_eq_true] at isValid
  have isSome := isValid.1.1.2 (planInterface interface)
    (List.mem_map.mpr ⟨interface, interfaceIn, rfl⟩) _ inBoth (planSlot arg)
    (List.mem_map.mpr ⟨arg, isMember, rfl⟩)
  exact Option.isSome_of_isSome_bind isSome

end Shown

section Accepted

variable {batch : Check.Batch} {protocol : Protocol}

/-- No interface of an accepted protocol has the empty name. -/
theorem handleType?_empty
    (accepted : Check.check batch = .ok ())
    (checked : protocol ∈ batch.protocols)
    (interface : InterfacePlan) :
    ((planProtocol protocol).context interface).handleType? "" = none := by
  unfold Context.handleType? ProtocolPlan.interface?
  rw [Option.map_eq_none_iff, List.find?_eq_none]
  intro plan isMember
  obtain ⟨found, isFound, rfl⟩ := List.mem_map.mp (List.mem_reverse.mp isMember)
  have named := Check.not_interfaceBreaks_of_check accepted checked isFound .badName
  simp only [Check.InterfaceBreaks, not_not] at named
  obtain ⟨first, rest, isName, -⟩ := named
  have notEmpty : found.name ≠ "" := by
    intro isEmpty
    simp [isEmpty] at isName
  simpa [planInterface] using notEmpty

theorem length_newIds
    (message : Message) :
    message.newIds.length = message.args.countP (·.kind = .newId) := by
  unfold Message.newIds
  rw [← List.countP_eq_length_filter]
  exact List.countP_congr fun arg _ => by simp

/-- A message of an accepted protocol makes at most one object. -/
theorem length_newIds_le_one
    (accepted : Check.check batch = .ok ())
    (checked : protocol ∈ batch.protocols)
    {interface : Interface}
    (interfaceIn : interface ∈ protocol.interfaces)
    {direction : Wire.Direction}
    {message : Message}
    (messageIn : message ∈ interface.messages direction) :
    message.newIds.length ≤ 1 := by
  obtain ⟨earlier, isOccurrence⟩ := Check.exists_occurrence messageIn
  have clean := Check.not_messageBreaks_of_check accepted checked interfaceIn isOccurrence
    .multipleNewIds
  simp only [Check.MessageBreaks, not_le] at clean
  rw [length_newIds]
  exact Nat.le_of_lt_succ clean

end Accepted

/-! ## Both ends of a message -/

/-- The constant of a message's opcode, as a role package refers to it. -/
def opcodeText
    (package : String)
    (interface : Interface)
    (direction : Direction)
    (message : Message) :
    String :=
  package ++ "."
    ++ (exportedName interface.name ++ directionLabel direction ++ exportedName message.name
      ++ "Opcode")

/-- The name of the method that sends a message.  It leaves the accessors of a handle alone. -/
def methodName
    (role : Role)
    (interface : Interface)
    (message : Message) :
    String :=
  let name := exportedName message.name
  if name ∈ ["Object", "Version", "Dispatch"] ∨
      name = role.layout.setter ∧ interface.messages role.receives ≠ [] then name ++ "Msg"
  else name

namespace Output

variable (output : Output) (protocol : Protocol) (role : Role) (interface : Interface)
variable (message : Message)

/-- The file of a role has a method that sends a message. -/
def Sends : Prop :=
  output.Writes (packageName protocol.name) role
    (((planProtocol protocol).context (planInterface interface)).methodText message
      (exportedName interface.name) (methodName role interface message)
      (opcodeText (packageName protocol.name) interface role.sends message))

/-- The file of a role has a callback that receives a message, and calls it for the opcode of the
message. -/
structure Receives : Prop where
  handle :
    output.Writes (packageName protocol.name) role
      (handleText (exportedName interface.name) role.layout.field role.layout.callbacks)
  member : ∃ earlier later,
    output.Writes (packageName protocol.name) role
        (["type " ++ exportedName interface.name ++ role.layout.callbacks ++ " interface \x7b"]
          ++ (earlier
            ++ [((planProtocol protocol).context (planInterface interface)).memberText message
              (exportedName interface.name)]
            ++ later)
          ++ ["\x7d"]) ∧
      ∀ line ∈ earlier ++ later, line = "" ∨ ∃ rest, line = "\t" ++ rest
  case : ∃ earlier later,
    output.Writes (packageName protocol.name) role
        (dispatchText (exportedName interface.name) interface.name role.layout.received
          (earlier
            ++ ((planProtocol protocol).context (planInterface interface)).caseText message
              role.layout.field
              (opcodeText (packageName protocol.name) interface role.receives message)
            ++ later)) ∧
      (∀ line ∈ earlier ++ later,
        (∃ opcode, line = "\tcase " ++ opcode ++ ":") ∨ ∃ rest, line = "\t\t" ++ rest) ∧
      "\tcase " ++ opcodeText (packageName protocol.name) interface role.receives message ++ ":" ∉
        earlier

/-- The file of a role has the functions that its methods and callbacks use: for texts that may be
missing, and for objects and the handles of all interfaces. -/
structure Converts : Prop where
  option : output.Writes (packageName protocol.name) role optionText
  pointer : output.Writes (packageName protocol.name) role pointerText
  wrapper : ∀ interface ∈ protocol.interfaces,
    output.Writes (packageName protocol.name) role (wrapperText (exportedName interface.name))
  object : ∀ interface ∈ protocol.interfaces,
    output.Writes (packageName protocol.name) role (objectText (exportedName interface.name))

end Output

section Ends

variable {protocol : Protocol} {generator : Generator} {output : Output} {role : Role}
variable {interface : Interface} {message : Message}

theorem planInterface_messages
    (interface : Interface)
    (direction : Direction) :
    (planInterface interface).messages direction =
      (interface.messages direction).zipIdx.map fun placed =>
        planMessage (exportedName interface.name) direction placed.1 placed.2 := by
  cases direction <;> rfl

theorem planMessage_name
    (owner : String)
    (direction : Direction)
    (message : Message)
    (position : Nat) :
    (planMessage owner direction message position).name = exportedName message.name := by
  rw [planMessage]

theorem planMessage_opcodeName
    (owner : String)
    (direction : Direction)
    (message : Message)
    (position : Nat) :
    (planMessage owner direction message position).opcodeName =
      owner ++ directionLabel direction ++ exportedName message.name ++ "Opcode" := by
  rw [planMessage]

theorem planMethod_name
    (role : Role)
    (context : Context)
    (interface : Interface)
    (direction : Direction)
    (message : Message)
    (position : Nat) :
    (planMethod role context (!((planInterface interface).messages role.receives).isEmpty)
        (planMessage (exportedName interface.name) direction message position)).name =
      methodName role interface message := by
  have received : ((planInterface interface).messages role.receives).isEmpty =
      (interface.messages role.receives).isEmpty := by
    rw [planInterface_messages, List.isEmpty_map]
    cases interface.messages role.receives <;> rfl
  unfold planMethod methodName
  dsimp only
  rw [received, planMessage_name]
  refine if_congr ?_ rfl rfl
  rw [List.contains_iff_mem, accessors, List.mem_append]
  refine or_congr Iff.rfl ?_
  cases interface.messages role.receives <;> simp

/-- The opcode that a role package has for a planned message. -/
theorem opcode_of_plan
    (protocol : Protocol)
    (interface : Interface)
    (direction : Direction)
    (message : Message)
    (position : Nat) :
    ((planProtocol protocol).context (planInterface interface)).protocol.package ++ "."
        ++ (planMessage (exportedName interface.name) direction message position).opcodeName =
      opcodeText (packageName protocol.name) interface direction message := by
  rw [opcodeText, ← Generator.package_of_plan, planMessage_opcodeName]
  rfl

/-- The callbacks of an interface have different opcodes. -/
theorem nodup_opcodes
    (generated : generator.generate protocol = .ok output)
    (isRole : role ∈ generator.roles)
    (interfaceIn : interface ∈ protocol.interfaces) :
    ((planRoleInterface (planProtocol protocol) role
      (planInterface interface)).callbacks.map (·.opcode)).Nodup := by
  obtain ⟨-, -, files, rendered, -⟩ := Generator.generate_parts generated
  obtain ⟨file, -, isFile⟩ := Generator.exists_roleFile rendered isRole
  have free := (RolePlan.free_parts (Generator.free_of_roleFile isFile)).1 _
    (List.mem_map.mpr ⟨_, List.mem_map.mpr ⟨interface, interfaceIn, rfl⟩, rfl⟩)
  have names := (RoleInterface.nodup_of_clash? free).1
  let stem := (planProtocol protocol).package ++ "."
  let owner := exportedName interface.name ++ directionLabel role.receives
  have opcodes : (planRoleInterface (planProtocol protocol) role
      (planInterface interface)).callbacks.map (·.opcode) =
        ((planRoleInterface (planProtocol protocol) role
          (planInterface interface)).callbacks.map (·.name)).map fun name =>
            stem ++ (owner ++ name ++ "Opcode") := by
    unfold planRoleInterface
    simp only [planInterface_messages, List.map_map]
    refine List.map_congr_left fun placed _ => ?_
    simp only [Function.comp_apply, planCallback, planMessage_name, planMessage_opcodeName]
    rfl
  rw [opcodes]
  refine names.map fun one other same => ?_
  exact (String.append_right_inj _).mp
    ((String.append_left_inj _).mp ((String.append_right_inj _).mp same))

theorem Output.sends_of_generated
    (generated : generator.generate protocol = .ok output)
    (isRole : role ∈ generator.roles)
    (interfaceIn : interface ∈ protocol.interfaces)
    (messageIn : message ∈ interface.messages role.sends)
    (anonymous : ((planProtocol protocol).context (planInterface interface)).handleType? "" = none)
    (single : message.newIds.length ≤ 1) :
    output.Sends protocol role interface message := by
  obtain ⟨-, isValid, -⟩ := Generator.generate_parts generated
  have known := hasKinds_of_valid isValid interfaceIn messageIn
  obtain ⟨position, isPlanned⟩ := exists_planMessage messageIn
  let context := (planProtocol protocol).context (planInterface interface)
  let plan := planMessage (exportedName interface.name) role.sends message position
  let receivesAny := !((planInterface interface).messages role.receives).isEmpty
  let method := planMethod role context receivesAny plan
  have isMethod := planMethod_mem (planProtocol protocol) isPlanned
  have isPart := isInfix_methodLines (planRole (planProtocol protocol) role) isMethod
  have text : context.methodText message (planInterface interface).typeName method.name
      method.opcode <:+ methodLines (planInterface interface).typeName method :=
    isSuffix_methodText plan known anonymous single role receivesAny _
  have writes : output.Writes (packageName protocol.name) role _ :=
    (Output.shows_of_part generated isRole interfaceIn (text.isInfix.trans isPart)).writes
  have opcode : method.opcode =
      opcodeText (packageName protocol.name) interface role.sends message :=
    opcode_of_plan protocol interface role.sends message position
  have name : method.name = methodName role interface message :=
    planMethod_name role context interface role.sends message position
  rwa [planInterface_typeName, opcode, name] at writes

theorem Output.receives_of_generated
    (generated : generator.generate protocol = .ok output)
    (isRole : role ∈ generator.roles)
    (interfaceIn : interface ∈ protocol.interfaces)
    (messageIn : message ∈ interface.messages role.receives) :
    output.Receives protocol role interface message := by
  obtain ⟨-, isValid, files, rendered, isOutput⟩ := Generator.generate_parts generated
  have known := hasKinds_of_valid isValid interfaceIn messageIn
  obtain ⟨position, isPlanned⟩ := exists_planMessage messageIn
  let context := (planProtocol protocol).context (planInterface interface)
  let plan := planMessage (exportedName interface.name) role.receives message position
  have named : plan.name = exportedName plan.message.name := planMessage_name ..
  have isCallback := planCallback_mem (planProtocol protocol) isPlanned
  have opcode : (planCallback role context plan).opcode =
      opcodeText (packageName protocol.name) interface role.receives message :=
    opcode_of_plan protocol interface role.receives message position
  have writes {shown : Lines} (isPart : shown <:+:
      roleInterfaceLines (planRole (planProtocol protocol) role)
        (planRoleInterface (planProtocol protocol) role (planInterface interface))) :
      output.Writes (packageName protocol.name) role shown :=
    (Output.shows_of_part generated isRole interfaceIn isPart).writes
  have owner : (planRoleInterface (planProtocol protocol) role
      (planInterface interface)).interface.typeName = exportedName interface.name :=
    planInterface_typeName interface
  have name : (planRoleInterface (planProtocol protocol) role
      (planInterface interface)).interface.name = interface.name :=
    rfl
  constructor
  · have isPart := (isInfix_handleText role (List.ne_nil_of_mem isCallback)).trans
      (isInfix_handleTypeLines (planRole (planProtocol protocol) role) _)
    rw [owner] at isPart
    exact writes isPart
  · obtain ⟨earlier, later, isPart, aside⟩ :=
      exists_callbackText (planRole (planProtocol protocol) role) isCallback
    have text : indent 1 [callbackText (exportedName interface.name)
        (planCallback role context plan)] =
          [context.memberText message (exportedName interface.name)] :=
      indent_callbackText plan known role (exportedName interface.name) named
    rw [owner, text] at isPart
    exact ⟨earlier, later, writes isPart, aside⟩
  · obtain ⟨earlier, later, isPart, aside, isFirst⟩ :=
      exists_caseLines (planRole (planProtocol protocol) role) isCallback
        (nodup_opcodes generated isRole interfaceIn)
    have text : indent 1 (dispatchCaseLines role.layout.field (planCallback role context plan)) =
        context.caseText message role.layout.field (planCallback role context plan).opcode :=
      indent_dispatchCaseLines plan known role role.layout.field named
    rw [planRole_role, owner, name, text, opcode] at isPart
    rw [opcode] at isFirst
    exact ⟨earlier, later, writes isPart, aside, isFirst⟩

theorem Output.converts_of_generated
    (generated : generator.generate protocol = .ok output)
    (isRole : role ∈ generator.roles) :
    output.Converts protocol role := by
  have conversions (interface : Interface) (interfaceIn : interface ∈ protocol.interfaces) :
      output.Writes (packageName protocol.name) role
          (wrapperText (exportedName interface.name)) ∧
        output.Writes (packageName protocol.name) role
          (objectText (exportedName interface.name)) := by
    have parts := isInfix_conversions (planRole (planProtocol protocol) role)
      (planRoleInterface (planProtocol protocol) role (planInterface interface))
    have owner : (planRoleInterface (planProtocol protocol) role
        (planInterface interface)).interface.typeName = exportedName interface.name :=
      planInterface_typeName interface
    rw [owner] at parts
    exact parts.imp (fun part => (Output.shows_of_part generated isRole interfaceIn part).writes)
      fun part => (Output.shows_of_part generated isRole interfaceIn part).writes
  have options (shown : Lines) (isPart : ∀ runtime sharedPath,
      shown <:+: roleLines runtime sharedPath (planRole (planProtocol protocol) role)) :
      output.Writes (packageName protocol.name) role shown :=
    (Output.shows_of_lines generated isRole isPart).writes
  constructor
  · exact options optionText fun _ _ => (isInfix_options _ _ _).1
  · exact options pointerText fun _ _ => (isInfix_options _ _ _).2
  · exact fun interface interfaceIn => (conversions interface interfaceIn).1
  · exact fun interface interfaceIn => (conversions interface interfaceIn).2

end Ends

/-- In the generated packages of two roles, the method that sends a message and the callback that
receives it belong together: both ends have the same parameters but for a new object, and its type
is that of what the method returns.  A session that sends the message answers with the object that
the message makes, and with no other. -/
theorem roles_fit_together
    {batch : Check.Batch}
    {protocol : Protocol}
    (accepted : Check.check batch = .ok ())
    (checked : protocol ∈ batch.protocols)
    {generator : Generator}
    {output : Output}
    (generated : generator.generate protocol = .ok output)
    {direction : Wire.Direction}
    {sender receiver : Role}
    (sends : sender ∈ generator.roles ∧ sender.sends = direction)
    (receives : receiver ∈ generator.roles ∧ receiver.receives = direction)
    {interface : Interface}
    (interfaceIn : interface ∈ protocol.interfaces)
    {message : Message}
    (messageIn : message ∈ interface.messages direction) :
    output.Sends protocol sender interface message ∧
      output.Receives protocol receiver interface message ∧
      output.Converts protocol sender ∧ output.Converts protocol receiver ∧
      message.newIds.length ≤ 1 ∧
      ∀ (session : Session) (transport : Session.Transport) (target : Session.Object)
        (opcode : UInt16) (values : List Session.Passed) (signature : Wire.Signature)
        (created : List Session.Object),
        target.interface.message? session.side.sends opcode = some signature →
          signature.slots.map (·.kind) = message.args.map (·.kind) →
            (session.send transport (some target) opcode values).1.result = .ok created →
              created.length = message.newIds.length := by
  have single := length_newIds_le_one accepted checked interfaceIn messageIn
  have anonymous := handleType?_empty accepted checked (planInterface interface)
  refine ⟨Output.sends_of_generated generated sends.1 interfaceIn (by rw [sends.2]; exact messageIn)
      anonymous single,
    Output.receives_of_generated generated receives.1 interfaceIn
      (by rw [receives.2]; exact messageIn),
    Output.converts_of_generated generated sends.1,
    Output.converts_of_generated generated receives.1, single, ?_⟩
  intro session transport target opcode values signature created isMessage sameKinds sent
  have length := Session.length_created_of_send isMessage transport sent
  have slots : signature.slots.countP (·.kind = .newId) =
      message.args.countP (·.kind = .newId) := by
    have kinds := congrArg (List.countP (· = Wire.Kind.newId)) sameKinds
    simpa [List.countP_map, Function.comp_def] using kinds
  rw [length, slots, length_newIds]

/-- A protocol with one message, which makes an object. -/
def bridgeProtocol : Protocol where
  name := "bridge"
  interfaces :=
    [{ name := "bridge", version := 2
       requests :=
        [{ name := "cross", since := 1
           args :=
            [{ name := "toll", typeName := "uint" },
              { name := "rider", typeName := "new_id", interface := "bridge" },
              { name := "song", typeName := "string", nullable := true }] }] }]

def bridgeGenerator : Generator where
  importPath := "gen"
  runtimePath := "run"
  roles := [⟨"client"⟩, ⟨"server"⟩]

theorem canWrite_bridgeProtocol :
    bridgeGenerator.CanWrite bridgeProtocol := by
  have accepted : Check.check ⟨[bridgeProtocol], []⟩ = .ok () := by decide
  refine ⟨?_, ?_, ?_, by decide +kernel, by decide +kernel⟩
  · unfold bridgeGenerator
    constructor
    all_goals dsimp only
    · exact isSource_literal ⟨_, rfl, rfl⟩
    · exact isSource_literal ⟨_, rfl, rfl⟩
    · rw [List.forall_mem_cons, List.forall_mem_singleton]
      exact ⟨isSource_literal ⟨_, rfl, rfl⟩, isSource_literal ⟨_, rfl, rfl⟩⟩
  · exact isSource_of_silent (isSpelled_of_check accepted List.mem_cons_self) (by decide)
  · unfold HasKinds HasKind
    decide

/-- The method that sends the message of the bridge, and the callback that receives it. -/
theorem bridge_roles_fit_together :
    Check.check ⟨[bridgeProtocol], []⟩ = .ok () ∧
      ∃ output, bridgeGenerator.generate bridgeProtocol = .ok output ∧
        output.Writes "bridge" ⟨"client"⟩
          ["func (o *Bridge) Cross(toll uint32, song *string) (*Bridge, error) \x7b",
            "\tobjs, err := session.Send(o.Object(), bridge.BridgeRequestCrossOpcode, "
              ++ "wire.Uint(toll), wire.NewID(0), optString(song))",
            "\tif err != nil \x7b",
            "\t\treturn nil, err",
            "\t\x7d",
            "\treturn asBridge(objs[0]), nil",
            "\x7d"] ∧
        (∃ earlier later,
          output.Writes "bridge" ⟨"server"⟩
            (["type BridgeHandler interface \x7b"]
              ++ (earlier
                ++ ["\tCross(o *Bridge, toll uint32, rider *Bridge, song *string) error"]
                ++ later)
              ++ ["\x7d"])) ∧
        ∃ earlier later,
          output.Writes "bridge" ⟨"server"⟩
            (["func (o *Bridge) Dispatch(in *session.Incoming) error \x7b",
                "\tswitch in.Opcode \x7b"]
              ++ (earlier
                ++ ["\tcase bridge.BridgeRequestCrossOpcode:",
                  "\t\trider := asBridge(in.Object(1))",
                  "\t\tif o.handler == nil \x7b",
                  "\t\t\treturn nil",
                  "\t\t\x7d",
                  "\t\treturn o.handler.Cross(o, in.Args[0].Uint, rider, stringPtr(in.Args[2]))"]
                ++ later)
              ++ ["\t\x7d",
                "\treturn fmt.Errorf(\"bridge: unknown request opcode %d\", in.Opcode)",
                "\x7d"]) := by
  have accepted : Check.check ⟨[bridgeProtocol], []⟩ = .ok () := by decide
  have generates : ∃ output, bridgeGenerator.generate bridgeProtocol = .ok output :=
    Generator.exists_output canWrite_bridgeProtocol (by decide) (by decide)
      (by decide)
  have sends : (⟨"client"⟩ : Role) ∈ bridgeGenerator.roles ∧
      Role.sends ⟨"client"⟩ = .request := by
    decide
  have receives : (⟨"server"⟩ : Role) ∈ bridgeGenerator.roles ∧
      Role.receives ⟨"server"⟩ = .request := by
    decide
  obtain ⟨output, generated⟩ := generates
  obtain ⟨method, callback, -, -, -, -⟩ :=
    roles_fit_together accepted List.mem_cons_self generated sends receives List.mem_cons_self
      List.mem_cons_self
  obtain ⟨-, ⟨earlier, later, member, -⟩, before, behind, case, -⟩ := callback
  unfold Output.Sends at method
  refine ⟨accepted, output, generated, ?_, ⟨earlier, later, ?_⟩, before, behind, ?_⟩
  · convert method using 1 <;> decide
  · convert member using 3
    · decide
    · decide
    · exact congrArg (earlier ++ · ++ later) (by decide)
  · unfold dispatchText at case
    convert case using 4
    · decide
    · decide
    · exact congrArg (before ++ ·) (by decide)
    · decide

/-! ## Sides -/

/-- The role that is labelled with the plain name of a side. -/
def Role.plain
    (side : Side) :
    Role :=
  ⟨side.text⟩

def Role.side
    (role : Role) :
    Side :=
  if role.isClient then .client else .server

section Sides

variable {role : Role} {side : Side}

theorem Role.sends_eq
    (role : Role) :
    role.sends = role.side.sends := by
  unfold sends side
  split <;> rfl

theorem Role.receives_eq
    (role : Role) :
    role.receives = role.side.receives := by
  unfold receives side
  split <;> rfl

theorem Role.layout_eq
    (role : Role) :
    role.layout = (plain role.side).layout := by
  unfold layout side
  cases role.isClient <;> rfl

theorem Role.side_of_label
    (isPlain : role.label = side.text) :
    role.side = side := by
  unfold Role.side isClient
  rw [isPlain]
  cases side <;> rfl

end Sides

/-- What the package of a side has for an interface: one method for each message that the side
sends, and one callback for each that it receives, in order. -/
structure RoleInterface.Serves
    (handle : RoleInterface)
    (package : String)
    (side : Side)
    (interface : Interface) : Prop where
  typeName : handle.interface.typeName = exportedName interface.name
  methods : handle.methods.map (fun method => (method.message, method.opcode)) =
    (interface.messages side.sends).map fun message =>
      (message.name, opcodeText package interface side.sends message)
  callbacks : handle.callbacks.map (fun callback => (callback.message, callback.opcode)) =
    (interface.messages side.receives).map fun message =>
      (message.name, opcodeText package interface side.receives message)

/-- A role has what the side it is laid out as has. -/
theorem planRoleInterface_serves
    (protocol : Protocol)
    (role : Role)
    (interface : Interface) :
    (planRoleInterface (planProtocol protocol) role (planInterface interface)).Serves
      (packageName protocol.name) role.side interface := by
  have messages (direction : Direction) :
      ((planInterface interface).messages direction).map (fun plan =>
          (plan.message.name, (planProtocol protocol).package ++ "." ++ plan.opcodeName)) =
        (interface.messages direction).map fun message =>
          (message.name, opcodeText (packageName protocol.name) interface direction message) := by
    rw [planInterface_messages, List.map_map, Generator.package_of_plan]
    conv_rhs => rw [← List.zipIdx_map_fst 0 (interface.messages direction), List.map_map]
    rfl
  unfold planRoleInterface
  constructor
  all_goals dsimp only
  · exact planInterface_typeName interface
  · rw [← messages, ← Role.sends_eq, List.map_map]
    rfl
  · rw [← messages, ← Role.receives_eq, List.map_map]
    rfl

/-! ## Files of configured roles -/

def rolePath
    (package label : String) :
    String :=
  package ++ "/" ++ label ++ "/" ++ label ++ ".go"

/-- Role files are in one place if their labels are the same. -/
theorem rolePath_eq_iff
    {package label other : String} :
    rolePath package label = rolePath package other ↔ label = other := by
  constructor
  · intro same
    have chars := congrArg String.toList same
    simp only [rolePath, String.toList_append, List.append_assoc] at chars
    have behind := List.append_cancel_left (List.append_cancel_left chars)
    have sameLength : label.toList.length = other.toList.length := by
      have lengths := congrArg List.length behind
      simp only [List.length_append] at lengths
      omega
    exact String.toList_inj.mp (List.append_inj_left behind sameLength)
  · rintro rfl
    rfl

namespace Generator

variable {generator : Generator} {protocol : Protocol} {output : Output}

/-- A file is that of a role, with all interfaces of the protocol as a side has them. -/
structure Fills
    (generator : Generator)
    (protocol : Protocol)
    (role : Role)
    (side : Side)
    (file : File) : Prop where
  content : file.content =
    fileText (roleLines generator.runtimePath (generator.packagePath (packageName protocol.name))
      (planRole (planProtocol protocol) role))
  layout : role.layout = (Role.plain side).layout
  interfaces : List.Forall₂
    (fun interface handle => handle.Serves (packageName protocol.name) side interface)
    protocol.interfaces (planRole (planProtocol protocol) role).interfaces

/-- What is generated for a configured role: its label names a side and spells the path, and unless
it is the plain name of the client, the file is that of a server. -/
structure Makes
    (generator : Generator)
    (protocol : Protocol)
    (role : Role)
    (file : File) : Prop where
  path : file.path = rolePath (packageName protocol.name) role.label
  fills : generator.Fills protocol role role.side file
  named : ∃ side, sideNamed? role.label = some side ∧
    ((file.path = rolePath (packageName protocol.name) side.text ∧
        generator.Fills protocol role side file) ↔
      role.label = side.text)

theorem makes_of_roleFile
    {role : Role}
    {side : Side}
    (isNamed : sideNamed? role.label = some side)
    {file : File}
    (rendered : generator.roleFile (planProtocol protocol) role = .ok file) :
    generator.Makes protocol role file := by
  obtain ⟨-, isFile⟩ := roleFile_parts rendered
  rw [package_of_plan] at isFile
  have path : file.path = rolePath (packageName protocol.name) role.label := by rw [isFile]; rfl
  have fills : generator.Fills protocol role role.side file := by
    refine ⟨by rw [isFile], role.layout_eq, ?_⟩
    unfold planRole
    dsimp only
    unfold planProtocol
    dsimp only
    rw [List.map_map, List.forall₂_map_right_iff]
    exact List.forall₂_same.mpr fun interface _ => planRoleInterface_serves protocol role interface
  refine ⟨path, fills, side, isNamed, ?_⟩
  constructor
  · intro ⟨sidePath, _⟩
    exact rolePath_eq_iff.mp (path.symm.trans sidePath)
  · intro isPlain
    rw [Role.side_of_label isPlain] at fills
    exact ⟨isPlain ▸ path, fills⟩

/-- The shared file is followed by one file for each role. -/
theorem files_of_generated
    (areNamed : ∀ role ∈ generator.roles, ∃ side, sideNamed? role.label = some side)
    (generated : generator.generate protocol = .ok output) :
    ∃ files,
      output.files =
          ⟨packageName protocol.name ++ "/protocol.go",
            fileText (sharedLines generator.runtimePath (planProtocol protocol))⟩ :: files ∧
        List.Forall₂ (generator.Makes protocol) generator.roles files := by
  obtain ⟨-, -, files, rendered, rfl⟩ := generate_parts generated
  refine ⟨files, by rw [package_of_plan], ?_⟩
  have areFiles := forall₂_roleFiles rendered
  have both := (List.forall₂_and_left _ _).mpr ⟨areNamed, areFiles⟩
  exact both.imp fun role file ⟨⟨side, isNamed⟩, isFile⟩ => makes_of_roleFile isNamed isFile

/-- The paths of an output are distinct exactly if the roles are. -/
theorem paths_nodup_iff
    (generated : generator.generate protocol = .ok output) :
    (output.files.map (·.path)).Nodup ↔ generator.roles.Nodup := by
  have places := generate_places generated
  constructor
  · intro different
    rw [places.files] at different
    have names := different.of_map
    exact (List.nodup_cons.mp names).2.of_map
  · exact places.paths_nodup

end Generator

/-- A configuration is completed by both roles, and each role that it has names a side. -/
theorem roles_of_configured
    {config : Config}
    {generator : Generator}
    (configured : config.generator = .ok generator) :
    generator.roles =
        (if config.roles = [] then [.plain .client, .plain .server] else config.roles) ∧
      ∀ role ∈ generator.roles, ∃ side, sideNamed? role.label = some side := by
  unfold Config.generator at configured
  simp only at configured
  split at configured
  · cases configured
  · split at configured
    · cases configured
    · rename_i known
      cases configured
      refine ⟨by simp [Role.plain, Side.text], fun role isRole => ?_⟩
      have isKnown := List.find?_eq_none.mp known role isRole
      apply Option.ne_none_iff_exists'.mp
      simpa using isKnown

/-- For every configured role one file is made, behind the shared one, and it is that of the side
which the label of the role names exactly if the label is spelled like the side.  No two files have
one path exactly if no role is configured twice. -/
theorem roles_are_made_as_spelled
    {config : Config}
    {generator : Generator}
    (configured : config.generator = .ok generator)
    {protocol : Protocol}
    {output : Output}
    (generated : generator.generate protocol = .ok output) :
    generator.roles =
        (if config.roles = [] then [.plain .client, .plain .server] else config.roles) ∧
      (∃ files,
        output.files =
            ⟨packageName protocol.name ++ "/protocol.go",
              fileText (sharedLines generator.runtimePath (planProtocol protocol))⟩ :: files ∧
          List.Forall₂ (generator.Makes protocol) generator.roles files) ∧
      ((output.files.map (·.path)).Nodup ↔ generator.roles.Nodup) := by
  obtain ⟨roles, areNamed⟩ := roles_of_configured configured
  exact ⟨roles, Generator.files_of_generated areNamed generated,
    Generator.paths_nodup_iff generated⟩

theorem bridge_is_made_for_both :
    Config.generator ⟨"gen", "run", []⟩ = .ok bridgeGenerator ∧
      ∃ output, bridgeGenerator.generate bridgeProtocol = .ok output ∧
        (output.files.map (·.path)).Nodup ∧
        ∃ shared client server, output.files = [shared, client, server] ∧
          client.path = "bridge/client/client.go" ∧
            bridgeGenerator.Fills bridgeProtocol ⟨"client"⟩ .client client ∧
          server.path = "bridge/server/server.go" ∧
            bridgeGenerator.Fills bridgeProtocol ⟨"server"⟩ .server server := by
  have configured : Config.generator ⟨"gen", "run", []⟩ = .ok bridgeGenerator := by decide
  have generates : ∃ output, bridgeGenerator.generate bridgeProtocol = .ok output :=
    Generator.exists_output canWrite_bridgeProtocol (by decide) (by decide)
      (by decide)
  have package : packageName bridgeProtocol.name = "bridge" := by decide
  obtain ⟨output, generated⟩ := generates
  obtain ⟨-, ⟨files, areFiles, made⟩, distinct⟩ := roles_are_made_as_spelled configured generated
  obtain ⟨client, rest, madeClient, others, rfl⟩ := List.forall₂_cons_left_iff.mp made
  obtain ⟨server, last, madeServer, nothing, rfl⟩ := List.forall₂_cons_left_iff.mp others
  obtain rfl := List.forall₂_nil_left_iff.mp nothing
  have clientPath := madeClient.path
  have serverPath := madeServer.path
  have isClientPath : rolePath "bridge" "client" = "bridge/client/client.go" := by decide
  have isServerPath : rolePath "bridge" "server" = "bridge/server/server.go" := by decide
  rw [package, isClientPath] at clientPath
  rw [package, isServerPath] at serverPath
  exact ⟨configured, output, generated, distinct.mpr (by decide), _, client, server, areFiles,
    clientPath, madeClient.fills, serverPath, madeServer.fills⟩

/-- A generator for the client, which is asked for twice and with a capital letter. -/
def hastyGenerator : Generator where
  importPath := "gen"
  runtimePath := "run"
  roles := [⟨"Client"⟩, ⟨"Client"⟩]

theorem canWrite_hastyGenerator :
    hastyGenerator.CanWrite bridgeProtocol := by
  have isLabel : IsSource "Client" := isSource_literal ⟨_, rfl, rfl⟩
  refine ⟨⟨?_, ?_, ?_⟩, canWrite_bridgeProtocol.isPlan, canWrite_bridgeProtocol.known,
    by decide +kernel, by decide +kernel⟩
  · exact isSource_literal ⟨_, rfl, rfl⟩
  · exact isSource_literal ⟨_, rfl, rfl⟩
  · unfold hastyGenerator
    rw [List.forall_mem_cons, List.forall_mem_singleton]
    exact ⟨isLabel, isLabel⟩

/-- A configured role that names the client in another spelling is accepted, but its file stands
elsewhere, has no method for a request and is laid out for a server.  A role that is configured
twice is written twice to one path. -/
theorem hasty_client_is_a_server :
    Config.generator ⟨"gen", "run", [⟨"Client"⟩, ⟨"Client"⟩]⟩ = .ok hastyGenerator ∧
      sideNamed? "Client" = some .client ∧
      ((planRole (planProtocol bridgeProtocol) ⟨"Client"⟩).interfaces.map fun handle =>
          (handle.methods.map (·.message), handle.callbacks.map (·.message))) =
        [([], ["cross"])] ∧
      ∃ output, hastyGenerator.generate bridgeProtocol = .ok output ∧
        ∃ shared one other, output.files = [shared, one, other] ∧
          shared.path = "bridge/protocol.go" ∧ one.path = "bridge/Client/Client.go" ∧
          other.path = one.path ∧
          hastyGenerator.Fills bridgeProtocol ⟨"Client"⟩ .server one ∧
          ¬hastyGenerator.Fills bridgeProtocol ⟨"Client"⟩ .client one := by
  have isNamed : sideNamed? "Client" = some .client := by decide
  have package : packageName bridgeProtocol.name = "bridge" := by decide
  have generates : ∃ output, hastyGenerator.generate bridgeProtocol = .ok output :=
    Generator.exists_output canWrite_hastyGenerator (by decide) (by decide)
      (by decide)
  obtain ⟨output, generated⟩ := generates
  have areNamed : ∀ role ∈ hastyGenerator.roles, ∃ side, sideNamed? role.label = some side :=
    List.forall_mem_cons.mpr ⟨⟨_, isNamed⟩, List.forall_mem_singleton.mpr ⟨_, isNamed⟩⟩
  obtain ⟨files, areFiles, made⟩ := Generator.files_of_generated areNamed generated
  obtain ⟨one, rest, madeOne, others, rfl⟩ := List.forall₂_cons_left_iff.mp made
  obtain ⟨other, last, madeOther, nothing, rfl⟩ := List.forall₂_cons_left_iff.mp others
  obtain rfl := List.forall₂_nil_left_iff.mp nothing
  have onePath := madeOne.path
  have otherPath := madeOther.path
  rw [package] at onePath otherPath
  have sharedPath : "bridge" ++ "/protocol.go" = "bridge/protocol.go" := by decide
  have clientPath : rolePath "bridge" "Client" = "bridge/Client/Client.go" := by decide
  have isServer : Role.side ⟨"Client"⟩ = .server := by decide
  have fillsOne := madeOne.fills
  rw [isServer] at fillsOne
  refine ⟨by decide, isNamed, by decide, output, generated, _, one, other, areFiles,
    by rw [package, sharedPath], by rw [onePath, clientPath], by rw [onePath, otherPath], fillsOne,
    fun fills => ?_⟩
  have sameLayout := fills.layout
  revert sameLayout
  decide

end Wayland.Binding
