import Wayland.Proofs.Binding.Scope

/-!
Contract: what the files of a protocol declare.

Owns:
- the items of the shared file and of the file of a role, as their plans have them;
- that these are the items which are read from the lines of the files;
- the packages that the files import.

Does not own: whether items differ.
-/

namespace Wayland.Binding

open Scope

/-! ## Items of plans -/

/-- What an enumeration declares: its type, its entries, and the method that prints it. -/
def EnumerationPlan.items
    (enumeration : EnumerationPlan) :
    List Item :=
  Item.name enumeration.typeName
    :: enumeration.entries.map (fun entry => Item.name entry.constant)
    ++ [Item.method enumeration.typeName "String"]

/-- What an interface declares in the shared file: its descriptor, the constants of its messages, and
its enumerations. -/
def InterfacePlan.items
    (interface : InterfacePlan) :
    List Item :=
  Item.name interface.descriptorName
    :: (interface.requests ++ interface.events).flatMap (fun message =>
      [Item.name message.opcodeName, .name message.sinceName])
    ++ interface.enumerations.flatMap EnumerationPlan.items

def ProtocolPlan.items
    (protocol : ProtocolPlan) :
    List Item :=
  Item.name "Interfaces" :: protocol.interfaces.flatMap InterfacePlan.items
    ++ (if protocol.hasBitfields then [Item.name "formatBits"] else [])

/-- What the callback interface of an interface declares, if messages are received. -/
def RoleInterface.callbackItems
    (role : Role)
    (plan : RoleInterface) :
    List Item :=
  let typeName := plan.interface.typeName ++ role.layout.callbacks
  if plan.callbacks.isEmpty then []
  else
    Item.name typeName :: plan.callbacks.map fun callback => Item.member typeName callback.name

/-- The names of the methods of a handle: the accessors, the messages that are sent, and the one that
takes messages in. -/
def RoleInterface.methodNames
    (role : Role)
    (plan : RoleInterface) :
    List String :=
  ["Object", "Version"] ++ (if plan.callbacks.isEmpty then [] else [role.layout.setter])
    ++ plan.methods.map (·.name) ++ ["Dispatch"]

/-- What an interface declares in the file of a role: the handle, the callbacks, the conversions, and
the methods of the handle. -/
def RoleInterface.items
    (role : Role)
    (plan : RoleInterface) :
    List Item :=
  let typeName := plan.interface.typeName
  Item.name typeName :: plan.callbackItems role
    ++ ["as" ++ typeName, typeName ++ "FromObject", "Bind" ++ typeName].map Item.name
    ++ (plan.methodNames role).map (Item.method typeName)

def RolePlan.items
    (plan : RolePlan) :
    List Item :=
  plan.interfaces.flatMap (RoleInterface.items plan.role)
    ++ [Item.name "optString", Item.name "stringPtr"]

/-! ## The shared file -/

section Shared

variable {interface : InterfacePlan} {enumeration : EnumerationPlan}

theorem declares_descriptorLines
    (isName : isIdentifier interface.descriptorName = true) :
    Declares (descriptorLines interface) [.name interface.descriptorName] := by
  have opening :
      Declares ["var " ++ interface.descriptorName ++ " = &wire.Interface\x7b"]
        [.name interface.descriptorName] := by
    rw [String.append_assoc]
    refine declares_name (by simp) isName ?_ ?_
    · rintro _ ⟨⟩
      decide
    · exact between?_eq_none (behind?_eq_none (by simp) (by decide))
  unfold descriptorLines
  exact (((still_documentation _).before opening).andStill (still_indent _)).andStill still_closing

theorem declares_opcodeLines
    (areNames : ∀ message ∈ interface.requests ++ interface.events,
      isIdentifier message.opcodeName = true ∧ isIdentifier message.sinceName = true) :
    Declares (opcodeLines interface)
      ((interface.requests ++ interface.events).flatMap fun message =>
        [Item.name message.opcodeName, .name message.sinceName]) := by
  let rows := (interface.requests ++ interface.events).flatMap fun plan =>
    [(plan.opcodeName, "uint16 = " ++ toString plan.opcode.toNat),
      (plan.sinceName, "uint32 = " ++ toString plan.message.since.toNat)]
  have areRows : ∀ row ∈ rows, isIdentifier row.1 = true := by
    intro row isRow
    obtain ⟨message, isMessage, inPair⟩ := List.mem_flatMap.mp isRow
    obtain ⟨opcode, since⟩ := areNames message isMessage
    simp only [List.mem_cons, List.not_mem_nil, or_false] at inPair
    rcases inPair with rfl | rfl
    · exact opcode
    · exact since
  have names : rows.map Prod.fst =
      (interface.requests ++ interface.events).flatMap fun message =>
        [message.opcodeName, message.sinceName] := by
    simp [rows, List.map_flatMap]
  have items :
      ((interface.requests ++ interface.events).flatMap fun message =>
          [Item.name message.opcodeName, Item.name message.sinceName]) =
        (rows.map Prod.fst).map Item.name := by
    rw [names]
    simp [List.map_flatMap]
  rw [items]
  unfold opcodeLines
  show Declares
    (if rows.isEmpty then []
      else
        [""]
          ++ documentation ["Opcodes and minimum versions of the " ++ interface.name ++ " messages."]
          ++ constantBlock (alignRows rows))
    _
  split
  · rename_i noRows
    have empty : rows = [] := List.isEmpty_iff.mp noRows
    rw [empty]
    exact declares_nil
  · have constants := declares_constantBlock (alignRows rows)
    rw [innerNames_alignRows areRows] at constants
    exact (still_empty.append (still_documentation _)).before constants

theorem innerNames_entryLines
    {typeName : String}
    {entries : List EntryPlan}
    (rows : List (String × String))
    (areRows : ∀ row ∈ rows, isIdentifier row.1 = true)
    (areNames : ∀ entry ∈ entries, isIdentifier entry.constant = true) :
    innerNames (entryLinesFrom typeName rows entries) =
      rows.reverse.map Prod.fst ++ entries.map (·.constant) := by
  induction entries generalizing rows with
  | nil =>
      rw [entryLinesFrom, innerNames_alignRows fun row isRow => areRows row (List.mem_reverse.mp isRow)]
      simp
  | cons entry entries inductionHypothesis =>
      obtain ⟨isName, others⟩ := List.forall_mem_cons.mp areNames
      let row := (entry.constant, typeName ++ " = " ++ entry.value)
      have isRow : isIdentifier row.1 = true := isName
      by_cases noComment : entry.summary.isEmpty = true
      · rw [entryLinesFrom, if_pos noComment,
          inductionHypothesis (row :: rows) (List.forall_mem_cons.mpr ⟨isRow, areRows⟩)
            others]
        simp [row]
      · rw [entryLinesFrom, if_neg noComment, innerNames_append, innerNames_append,
          innerNames_comment,
          innerNames_alignRows fun row isRow => areRows row (List.mem_reverse.mp isRow),
          inductionHypothesis [row] (List.forall_mem_singleton.mpr isRow) others]
        simp [row]

theorem declares_enumerationLines
    (interface : InterfacePlan)
    (isType : isIdentifier enumeration.typeName = true)
    (areNames : ∀ entry ∈ enumeration.entries, isIdentifier entry.constant = true) :
    Declares (enumerationLines interface enumeration) enumeration.items := by
  have opening :
      Declares ["type " ++ enumeration.typeName ++ " uint32", ""] [.name enumeration.typeName] := by
    have isNoInterface : between? "type " " interface \x7b"
        ("type " ++ (enumeration.typeName ++ " uint32")) = none := by
      refine between?_eq_none_of_end ("type ".toList ++ enumeration.typeName.toList
        ++ " uint3".toList) " interface ".toList [] ?_ rfl (by decide : '2' ≠ '\x7b')
      simp
    rw [String.append_assoc]
    exact (declares_name (by simp) isType (fun _ isHead => by cases isHead; decide)
      isNoInterface).andStill still_empty
  have constants :
      Declares (constantBlock (entryLinesFrom enumeration.typeName [] enumeration.entries))
        (enumeration.entries.map fun entry => .name entry.constant) := by
    have declares :=
      declares_constantBlock (entryLinesFrom enumeration.typeName [] enumeration.entries)
    rw [innerNames_entryLines [] (by simp) areNames] at declares
    simpa [Function.comp_def] using declares
  have printing :
      Declares ["", "func (e " ++ enumeration.typeName ++ ") String() string \x7b"]
        [.method enumeration.typeName "String"] := by
    have isName : isIdentifier "String" = true := by decide
    have method := declares_method "e" "" "() string \x7b" (by decide) (by simp) isType isName
      (fun _ isHead => by cases isHead; decide)
    have line : "func (" ++ ("e" ++ (" " ++ ("" ++ (enumeration.typeName ++ (") " ++ ("String"
        ++ "() string \x7b")))))) = "func (e " ++ enumeration.typeName ++ ") String() string \x7b" := by
      rw [← String.toList_inj]
      simp
    rw [line] at method
    exact still_empty.before method
  unfold enumerationLines
  exact (((((still_empty.append (still_documentation _)).before opening).append constants).append
    printing).andStill (still_indent _)).andStill still_closing

/-- The declared names of the shared file are identifiers. -/
theorem identifiers_of_sharedIsValid
    {runtime : String}
    {plan : ProtocolPlan}
    (isValid : sharedIsValid runtime plan = true)
    (isMember : interface ∈ plan.interfaces) :
    ∀ declaration ∈ interfaceDeclarations interface, isIdentifier declaration.name = true := by
  intro declaration isDeclaration
  simp only [sharedIsValid, Bool.and_eq_true, List.all_eq_true] at isValid
  refine isValid.1.1.1 declaration ?_
  unfold ProtocolPlan.declarations
  exact List.mem_cons_of_mem _ (List.mem_cons_of_mem _
    (List.mem_flatMap.mpr ⟨interface, isMember, isDeclaration⟩))

theorem declares_interfaceLines
    (areNames : ∀ declaration ∈ interfaceDeclarations interface,
      isIdentifier declaration.name = true) :
    Declares (interfaceLines interface) interface.items := by
  obtain ⟨isDescriptor, others⟩ := List.forall_mem_cons.mp areNames
  simp only [List.forall_mem_append] at others
  obtain ⟨⟨areRequests, areEvents⟩, areEnumerations⟩ := others
  have constants (direction : Wire.Direction)
      (areConstants : ∀ declaration ∈ messageDeclarations interface direction,
        isIdentifier declaration.name = true) :
      ∀ message ∈ interface.messages direction,
        isIdentifier message.opcodeName = true ∧ isIdentifier message.sinceName = true := by
    intro message isMessage
    simp only [messageDeclarations, List.mem_flatMap] at areConstants
    exact ⟨areConstants _ ⟨message, isMessage, List.mem_cons_self⟩,
      areConstants _ ⟨message, isMessage, List.mem_cons_of_mem _ List.mem_cons_self⟩⟩
  have opcodes := declares_opcodeLines
    (List.forall_mem_append.mpr ⟨constants .request areRequests, constants .event areEvents⟩)
  have enumerations : Declares (interface.enumerations.flatMap (enumerationLines interface))
      (interface.enumerations.flatMap EnumerationPlan.items) := by
    refine declares_flatMap fun enumeration isEnumeration => ?_
    have areOwn : ∀ declaration ∈ enumerationDeclarations interface enumeration,
        isIdentifier declaration.name = true := fun declaration isDeclaration =>
      areEnumerations declaration (List.mem_flatMap.mpr ⟨enumeration, isEnumeration, isDeclaration⟩)
    obtain ⟨isType, areEntries⟩ := List.forall_mem_cons.mp areOwn
    exact declares_enumerationLines interface isType (List.forall_mem_map.mp areEntries)
  unfold interfaceLines
  exact ((still_empty.before (declares_descriptorLines isDescriptor)).append opcodes).append
    enumerations

theorem declares_formatBitsLines :
    Declares formatBitsLines [.name "formatBits"] := by
  have start : Still (formatBitsLines.take 3) := by
    repeat refine Still.literal (by decide) ?_
    exact still_nil
  have rest : Still (formatBitsLines.drop 4) := by
    repeat refine Still.literal (by decide) ?_
    exact still_nil
  have opening : Declares ["func " ++ ("formatBits"
      ++ "(v uint32, values []uint32, names []string) string \x7b")] [.name "formatBits"] :=
    declares_name (by simp) (by decide) (fun _ isHead => by cases isHead; decide)
      (between?_eq_none (behind?_eq_none (by simp) (by decide)))
  exact (start.before opening).andStill rest

theorem declares_sharedLines
    {runtime : String}
    {plan : ProtocolPlan}
    (isValid : sharedIsValid runtime plan = true) :
    Declares (sharedLines runtime plan) plan.items := by
  have list : Declares ["var Interfaces = []*wire.Interface\x7b"] [.name "Interfaces"] := by
    have line : "var Interfaces = []*wire.Interface\x7b" =
        "var " ++ ("Interfaces" ++ " = []*wire.Interface\x7b") := by decide
    rw [line]
    exact declares_name (by simp) (by decide) (fun _ isHead => by cases isHead; decide)
      (between?_eq_none (behind?_eq_none (by simp) (by decide)))
  have listing : Still (plan.interfaces.map fun interface =>
      "\t" ++ interface.descriptorName ++ ",") := by
    refine List.forall_mem_map.mpr fun interface _ char isHead => ?_
    simp only [String.toList_append, List.append_assoc] at isHead
    cases isHead
    decide
  have interfaces := declares_flatMap fun interface isMember =>
    declares_interfaceLines (identifiers_of_sharedIsValid isValid isMember)
  have printing : Declares (if plan.hasBitfields then formatBitsLines else [])
      (if plan.hasBitfields then [.name "formatBits"] else []) := by
    split
    · exact declares_formatBitsLines
    · exact declares_nil
  unfold sharedLines
  refine (((Declares.andStill (Still.before ?_ list) listing).andStill still_closing).append
    interfaces).append printing
  have standard : Still
      ((if plan.hasEnumerations then ["\t\"fmt\""] else [])
        ++ (if plan.hasBitfields then ["\t\"strings\""] else [])) := by
    refine Still.append ?_ ?_ <;> split
    · exact still_tab rfl
    · exact still_nil
    · exact still_tab rfl
    · exact still_nil
  have imports (lines : Lines) (still : Still lines) :
      Still (if lines.isEmpty then [] else lines ++ [""]) := by
    split
    · exact still_nil
    · exact still.append still_empty
  have package : Still ["package " ++ plan.package, "", "import ("] :=
    ((still_of_head 'p' (by simp) (by decide)).append still_empty).append
      (still_of_head 'i' (by decide) (by decide))
  have runtime : Still ["\t\"" ++ runtime ++ "/wire\"", ")", ""] :=
    ((still_tab (by simp)).append (still_of_head ')' (by decide) (by decide))).append
      still_empty
  have mark : Still [generatedMark, commentLine ("Source: " ++ plan.name), ""] :=
    ((still_of_head '/' (by decide) (by decide)).append
      (still_of_head '/' (commentLine_starts _) (by decide))).append still_empty
  exact ((((mark.append (still_documentation _)).append package).append (imports _ standard)).append
    runtime).append (still_documentation _)

end Shared

/-! ## The file of a role -/

section Roles

variable {role : Role} {plan : RoleInterface}

/-- Characters of the rest of a line that no identifier runs on into. -/
theorem endsName_of_head
    {tail : String}
    (char : Char)
    (isHead : tail.toList.head? = some char)
    (ends : isNameChar char = false) :
    EndsName tail.toList := by
  intro other isOther
  rw [isHead] at isOther
  cases isOther
  exact ends

/-- A method of a handle. -/
theorem declares_handleMethod
    {typeName : String}
    (name tail : String)
    (isType : isIdentifier typeName = true)
    (isName : isIdentifier name = true)
    (isHead : tail.toList.head? = some '(') :
    Declares ["func (o *" ++ (typeName ++ (") " ++ (name ++ tail)))] [.method typeName name] := by
  have line : "func (o *" ++ (typeName ++ (") " ++ (name ++ tail))) =
      "func (" ++ ("o" ++ (" " ++ ("*" ++ (typeName ++ (") " ++ (name ++ tail)))))) := by
    rw [← String.toList_inj]
    simp
  rw [line]
  exact declares_method "o" "*" tail (by decide) (by simp) isType isName
    (endsName_of_head '(' isHead (by decide))

/-- A function at the left margin. -/
theorem declares_function
    (name tail : String)
    (isName : isIdentifier name = true)
    (isHead : tail.toList.head? = some '(') :
    Declares ["func " ++ (name ++ tail)] [.name name] :=
  declares_name (by simp) isName (endsName_of_head '(' isHead (by decide))
    (between?_eq_none (behind?_eq_none (by simp) (by decide)))

theorem declares_handleTypeLines
    (isType : isIdentifier plan.interface.typeName = true)
    (areCallbacks : ∀ callback ∈ plan.callbacks, isIdentifier callback.name = true) :
    Declares (handleTypeLines role plan)
      (.name plan.interface.typeName :: plan.callbackItems role) := by
  have opening : Declares ["type " ++ plan.interface.typeName ++ " struct \x7b"]
      [.name plan.interface.typeName] := by
    rw [String.append_assoc]
    refine declares_name (by simp) isType (endsName_of_head ' ' rfl (by decide)) ?_
    refine between?_eq_none_of_end ("type ".toList ++ plan.interface.typeName.toList
      ++ " struc".toList) " interfac".toList " \x7b".toList ?_ (by decide) (by decide : 't' ≠ 'e')
    simp
  let methodText (callback : Callback) : String :=
    callback.name ++ "("
      ++ commaList (("o *" ++ plan.interface.typeName)
        :: callback.arguments.map (·.parameter.text)) ++ ") error"
  let methods := plan.callbacks.map fun callback =>
    callback.documentation.map commentLine ++ [methodText callback]
  have names : innerNames (List.intercalate [""] methods) = plan.callbacks.map (·.name) := by
    have each : ∀ callback ∈ plan.callbacks,
        innerNames (callback.documentation.map commentLine ++ [methodText callback]) =
          [callback.name] := by
      intro callback isCallback
      have text : innerNames [methodText callback] = [callback.name] := by
        simp only [methodText, String.append_assoc]
        exact innerNames_name (areCallbacks callback isCallback)
          (endsName_of_head '(' (by simp) (by decide))
      rw [innerNames_append, innerNames_comments, text, List.nil_append]
    rw [innerNames_intercalate, List.flatMap_map, List.flatMap_congr each, ← List.map_eq_flatMap]
  have block := declares_interface (plan.interface.typeName ++ role.layout.callbacks)
    (List.intercalate [""] methods)
  rw [names, List.map_map] at block
  have callbacks : Declares
      (if plan.callbacks.isEmpty then []
        else
          [""]
            ++ documentation
              [plan.interface.typeName ++ role.layout.callbacks ++ " receives the "
                ++ role.layout.received ++ "s of " ++ plan.interface.name ++ ". A non-nil",
                "error is returned from Session.Dispatch."]
            ++ ["type " ++ plan.interface.typeName ++ role.layout.callbacks ++ " interface \x7b"]
            ++ indent 1 (List.intercalate [""] methods) ++ ["\x7d"])
      (plan.callbackItems role) := by
    unfold RoleInterface.callbackItems
    split
    · exact declares_nil
    · rw [List.append_assoc, List.append_assoc, ← List.append_assoc _ _ ["\x7d"],
        String.append_assoc]
      exact (still_empty.append (still_documentation _)).before block
  exact ((((still_documentation _).before opening).andStill (still_indent _)).andStill
    still_closing).append callbacks

def RoleInterface.declaredNames
    (role : Role)
    (plan : RoleInterface) :
    List String :=
  let typeName := plan.interface.typeName
  typeName :: (if plan.callbacks.isEmpty then [] else [typeName ++ role.layout.callbacks])
    ++ ["as" ++ typeName, typeName ++ "FromObject", "Bind" ++ typeName]

/-- A declared name is that of the type, with something before it or after it. -/
theorem RoleInterface.mem_declaredNames
    {name : String} :
    name ∈ plan.declaredNames role ↔
      name = plan.interface.typeName ∨
      (plan.callbacks ≠ [] ∧ name = plan.interface.typeName ++ role.layout.callbacks) ∨
      name = "as" ++ plan.interface.typeName ∨
      name = plan.interface.typeName ++ "FromObject" ∨
      name = "Bind" ++ plan.interface.typeName := by
  unfold declaredNames
  simp only [List.cons_append, List.mem_cons, List.mem_append, List.mem_ite_nil_left,
    List.isEmpty_iff, ne_eq, List.not_mem_nil, or_false]

theorem map_name_roleInterfaceDeclarations
    (role : Role)
    (plan : RoleInterface) :
    (roleInterfaceDeclarations role plan).map (·.name) = plan.declaredNames role := by
  unfold roleInterfaceDeclarations RoleInterface.declaredNames
  cases plan.callbacks.isEmpty <;> rfl

/-- The names that an interface brings into the file of a role are identifiers. -/
structure RoleInterface.IsNamed
    (role : Role)
    (plan : RoleInterface) : Prop where
  declared : ∀ name ∈ plan.declaredNames role, isIdentifier name = true
  methods : ∀ method ∈ plan.methods, isIdentifier method.name = true
  callbacks : ∀ callback ∈ plan.callbacks, isIdentifier callback.name = true

theorem isNamed_of_roleIsValid
    {runtime sharedPath : String}
    {file : RolePlan}
    (isValid : roleIsValid runtime sharedPath file = true)
    (isMember : plan ∈ file.interfaces) :
    plan.IsNamed file.role := by
  simp only [roleIsValid, Bool.and_eq_true, List.all_eq_true] at isValid
  obtain ⟨⟨-, declarations⟩, interfaces⟩ := isValid
  obtain ⟨⟨-, methods⟩, callbacks⟩ := interfaces plan isMember
  refine ⟨?_, fun method isMethod => (methods method isMethod).1,
    fun callback isCallback => (callbacks callback isCallback).1⟩
  rw [← map_name_roleInterfaceDeclarations, List.forall_mem_map]
  intro declaration isDeclaration
  exact declarations declaration (List.mem_cons_of_mem _ (List.mem_cons_of_mem _
    (List.mem_flatMap.mpr ⟨plan, isMember, isDeclaration⟩)))

theorem RoleInterface.IsNamed.typeName
    (isNamed : plan.IsNamed role) :
    isIdentifier plan.interface.typeName = true :=
  isNamed.declared _ List.mem_cons_self

theorem RoleInterface.IsNamed.conversion
    (isNamed : plan.IsNamed role)
    (name : String)
    (isConversion : name ∈ ["as" ++ plan.interface.typeName,
      plan.interface.typeName ++ "FromObject", "Bind" ++ plan.interface.typeName]) :
    isIdentifier name = true :=
  isNamed.declared name (List.mem_append_right _ isConversion)

/-- The lines between the first lines of two functions: moved in, closing braces, comments, or
empty. -/
theorem still_body
    {lines : Lines}
    (areInside : ∀ line ∈ lines, line.toList.head? ∈ [none, some '\t', some '\x7d', some '/']) :
    Still lines := by
  intro line isMember char isHead
  have isOne := areInside line isMember
  rw [Option.mem_def.mp isHead] at isOne
  simp only [List.mem_cons, reduceCtorEq, Option.some.injEq, List.not_mem_nil, or_false,
    false_or] at isOne
  rcases isOne with rfl | rfl | rfl <;> decide

/-- Lines that declare something behind some that are still. -/
theorem declares_behind
    (count : Nat)
    {lines : Lines}
    {found : List Item}
    (still : Still (lines.take count))
    (declares : Declares (lines.drop count) found) :
    Declares lines found := by
  have both := still.before declares
  rwa [List.take_append_drop] at both

/-- A function whose name has a word in front. -/
theorem declares_prefixed
    (word name tail : String)
    (isName : isIdentifier (word ++ name) = true)
    (isHead : tail.toList.head? = some '(') :
    Declares [("func " ++ word) ++ (name ++ tail)] [.name (word ++ name)] := by
  have line : ("func " ++ word) ++ (name ++ tail) = "func " ++ ((word ++ name) ++ tail) := by
    simp only [String.append_assoc]
  rw [line]
  exact declares_function (word ++ name) tail isName isHead

theorem declares_conversionLines
    (isNamed : plan.IsNamed role)
    (shared : String) :
    Declares (conversionLines role shared plan)
      ((["as" ++ plan.interface.typeName, plan.interface.typeName ++ "FromObject",
          "Bind" ++ plan.interface.typeName].map Item.name)
        ++ ["Object", "Version"].map (Item.method plan.interface.typeName)) := by
  have isType := isNamed.typeName
  have wrapper (rest : String) :=
    declares_prefixed "as" plan.interface.typeName ("(obj *session.Object) *" ++ rest)
      (isNamed.conversion _ (by simp)) (by simp)
  have conversion (rest : String) :=
    declares_function (plan.interface.typeName ++ "FromObject") ("(obj *session.Object) (*" ++ rest)
      (isNamed.conversion _ (by simp)) (by simp)
  have binding (rest : String) :=
    declares_prefixed "Bind" plan.interface.typeName
      ("(s *session.Session, id wire.ObjectID, version uint32) (*" ++ rest)
      (isNamed.conversion _ (by simp)) (by simp)
  have object := declares_handleMethod "Object" "() *session.Object \x7b" isType (by decide) rfl
  have version := declares_handleMethod "Version" "() uint32 \x7b" isType (by decide) rfl
  have items : (["as" ++ plan.interface.typeName, plan.interface.typeName ++ "FromObject",
        "Bind" ++ plan.interface.typeName].map Item.name)
        ++ ["Object", "Version"].map (Item.method plan.interface.typeName) =
      [Item.name ("as" ++ plan.interface.typeName)]
        ++ ([Item.name (plan.interface.typeName ++ "FromObject")]
          ++ [Item.name ("Bind" ++ plan.interface.typeName),
            .method plan.interface.typeName "Object", .method plan.interface.typeName "Version"]) :=
    rfl
  rw [items]
  unfold conversionLines
  simp only [List.append_assoc, String.append_assoc] at wrapper conversion binding ⊢
  refine Declares.append ?_ ((still_documentation _).before
    (Declares.append ?_ ((still_documentation _).before (Declares.cons ?_ ?_))))
  · exact (wrapper _).andStill (still_body (by simp))
  · exact (conversion _).andStill (still_body (by simp))
  · exact binding _
  · refine declares_behind 8 (still_body (by simp)) (Declares.cons object ?_)
    exact declares_behind 7 (still_body (by simp)) (version.andStill (still_body (by simp)))

theorem declares_setterLines
    (isNamed : plan.IsNamed role) :
    Declares (setterLines role plan)
      ((if plan.callbacks.isEmpty then [] else [role.layout.setter]).map
        (Item.method plan.interface.typeName)) := by
  have isSetter : isIdentifier role.layout.setter = true := by
    unfold Role.layout
    split <;> decide
  unfold setterLines
  simp only
  split
  · exact declares_nil
  · have setter := declares_handleMethod role.layout.setter
      ("(" ++ (role.layout.field ++ (" " ++ (plan.interface.typeName
        ++ (role.layout.callbacks ++ ") \x7b"))))) isNamed.typeName isSetter (by simp)
    simp only [String.append_assoc]
    exact declares_behind 2 (still_body (by simp)) (setter.andStill (still_body (by simp)))

theorem declares_methodLines
    {typeName : String}
    {method : Method}
    (isType : isIdentifier typeName = true)
    (isName : isIdentifier method.name = true) :
    Declares (methodLines typeName method) [.method typeName method.name] := by
  have opening : Declares
      ["func (o *" ++ typeName ++ ") " ++ method.name ++ "("
        ++ commaList (method.parameters.map Parameter.text) ++ ") " ++ method.returned.types
        ++ " \x7b"]
      [.method typeName method.name] := by
    simp only [String.append_assoc]
    exact declares_handleMethod method.name _ isType isName (by simp)
  unfold methodLines
  refine (((still_empty.append (still_documentation _)).before opening).andStill ?_).andStill
    still_closing
  split <;> exact still_body (by simp)

theorem declares_dispatchLines
    (isType : isIdentifier plan.interface.typeName = true) :
    Declares (dispatchLines role plan) [.method plan.interface.typeName "Dispatch"] := by
  have dispatch := declares_handleMethod "Dispatch" "(in *session.Incoming) error \x7b" isType
    (by decide) rfl
  have opening : Declares
      ["",
        "// Dispatch routes an incoming " ++ role.layout.received
          ++ " to the installed callbacks. It",
        "// implements session.Handler.",
        "func (o *" ++ plan.interface.typeName ++ ") Dispatch(in *session.Incoming) error \x7b"]
      [.method plan.interface.typeName "Dispatch"] := by
    simp only [String.append_assoc]
    exact declares_behind 3 (still_body (by simp)) dispatch
  unfold dispatchLines
  refine (opening.andStill ?_).andStill (still_body (by simp))
  split
  · exact still_nil
  · exact still_indent _

theorem declares_roleInterfaceLines
    {file : RolePlan}
    (isNamed : plan.IsNamed file.role) :
    Declares (roleInterfaceLines file plan) (plan.items file.role) := by
  have methods := declares_flatMap fun method isMethod =>
    declares_methodLines isNamed.typeName (isNamed.methods method isMethod)
  have items : plan.items file.role =
      (.name plan.interface.typeName :: plan.callbackItems file.role)
        ++ ((["as" ++ plan.interface.typeName, plan.interface.typeName ++ "FromObject",
            "Bind" ++ plan.interface.typeName].map Item.name)
          ++ ["Object", "Version"].map (Item.method plan.interface.typeName))
        ++ (if plan.callbacks.isEmpty then [] else [file.role.layout.setter]).map
          (Item.method plan.interface.typeName)
        ++ plan.methods.flatMap (fun method => [Item.method plan.interface.typeName method.name])
        ++ [Item.method plan.interface.typeName "Dispatch"] := by
    simp [RoleInterface.items, RoleInterface.methodNames, ← List.map_eq_flatMap]
  unfold roleInterfaceLines
  rw [items]
  exact (((((still_empty.before (declares_handleTypeLines isNamed.typeName isNamed.callbacks)).andStill
    still_empty).append (declares_conversionLines isNamed _)).append
    (declares_setterLines isNamed)).append methods).append (declares_dispatchLines isNamed.typeName)

theorem declares_optionalStringLines :
    Declares optionalStringLines [.name "optString", .name "stringPtr"] := by
  have first : Declares ["func " ++ ("optString" ++ "(s *string) wire.Arg \x7b")]
      [.name "optString"] := declares_function _ _ (by decide) rfl
  have second : Declares ["func " ++ ("stringPtr" ++ "(a wire.Arg) *string \x7b")]
      [.name "stringPtr"] := declares_function _ _ (by decide) rfl
  have between : Still ((optionalStringLines.drop 2).take 6) := by
    repeat refine Still.literal (by decide) ?_
    exact still_nil
  have rest : Still (optionalStringLines.drop 9) := by
    repeat refine Still.literal (by decide) ?_
    exact still_nil
  exact still_empty.before (first.append (between.before (second.andStill rest)))

theorem declares_roleLines
    {runtime sharedPath : String}
    {file : RolePlan}
    (isValid : roleIsValid runtime sharedPath file = true) :
    Declares (roleLines runtime sharedPath file) file.items := by
  have mark : Still [generatedMark, commentLine ("Source: " ++ file.protocol.name), ""] :=
    ((still_of_head '/' (by decide) (by decide)).append
      (still_of_head '/' (commentLine_starts _) (by decide))).append still_empty
  have head : Still
      ["package " ++ file.role.packageText, "", "import (", "\t\"fmt\"", "",
        "\t\"" ++ runtime ++ "/session\"", "\t\"" ++ runtime ++ "/wire\"", "",
        "\t\"" ++ sharedPath ++ "\"", ")"] := by
    unfold Still
    simp [openers]
  have interfaces := declares_flatMap fun plan isMember =>
    declares_roleInterfaceLines (isNamed_of_roleIsValid isValid isMember)
  unfold roleLines
  exact (((mark.append (still_documentation _)).append head).before interfaces).append
    declares_optionalStringLines

end Roles

/-! ## Imports -/

theorem lastComponent_append
    (path name : String)
    (isPlain : '/' ∉ name.toList) :
    lastComponent (path ++ "/" ++ name) = name := by
  have areOther : ∀ char ∈ name.toList.reverse, (char ≠ '/') := fun char isMember same =>
    isPlain (List.mem_reverse.mp (same ▸ isMember))
  have chars : (path ++ "/" ++ name).toList.reverse =
      name.toList.reverse ++ '/' :: path.toList.reverse := by
    simp
  rw [lastComponent, chars, List.takeWhile_append_of_pos (by simpa using areOther)]
  simp

/-- The imports stand between the brackets behind their word. -/
theorem imports_block
    {before block : Lines}
    (isBefore : "import (" ∉ before)
    (isInside : ")" ∉ block)
    (after : Lines) :
    imports (before ++ ["import ("] ++ block ++ [")"] ++ after) =
      (block.filterMap (between? "\t\"" "\"")).map lastComponent := by
  have areBefore : ∀ line ∈ before, line ≠ "import (" := fun line isMember same =>
    isBefore (same ▸ isMember)
  have areInside : ∀ line ∈ block, line ≠ ")" := fun line isMember same =>
    isInside (same ▸ isMember)
  have opened : (before ++ ["import ("] ++ block ++ [")"] ++ after).dropWhile (· ≠ "import (") =
      "import (" :: (block ++ ")" :: after) := by
    rw [List.append_assoc, List.append_assoc, List.append_assoc,
      List.dropWhile_append_of_pos (by simpa using areBefore)]
    simp
  have closed : ("import (" :: (block ++ ")" :: after)).takeWhile (· ≠ ")") = "import (" :: block := by
    rw [List.takeWhile_cons_of_pos (by decide),
      List.takeWhile_append_of_pos (by simpa using areInside)]
    simp
  have noPath : between? "\t\"" "\"" "import (" = none := by decide
  rw [imports, opened, closed, List.filterMap_cons, noPath]

/-- A line that imports a path. -/
theorem between?_path
    (path : String) :
    between? "\t\"" "\"" ("\t\"" ++ path ++ "\"") = some path :=
  between?_ends "\t\"" path "\""

/-- The packages that the shared file imports. -/
def ProtocolPlan.imports
    (protocol : ProtocolPlan) :
    List String :=
  (if protocol.hasEnumerations then ["fmt"] else [])
    ++ (if protocol.hasBitfields then ["strings"] else []) ++ ["wire"]

def RolePlan.imports
    (plan : RolePlan) :
    List String :=
  ["fmt", "session", "wire", plan.protocol.package]

theorem notMem_documentation
    (texts : List String) :
    "import (" ∉ documentation texts := by
  intro isMember
  obtain ⟨text, same⟩ := exists_of_mem_documentation isMember
  have starts := commentLine_starts text
  rw [← same] at starts
  exact absurd starts (by decide)

/-- The lines in front of the imports of a file. -/
theorem notMem_header
    (source package : String)
    (texts : List String) :
    "import (" ∉
      [generatedMark, commentLine source, ""] ++ documentation texts ++ ["package " ++ package, ""] := by
  have noComment : "import (" ≠ commentLine source := by
    intro same
    have starts := commentLine_starts source
    rw [← same] at starts
    exact absurd starts (by decide)
  have noPackage : "import (" ≠ "package " ++ package := by
    rw [← String.toList_inj.ne]
    simp
  simp [notMem_documentation, noComment, noPackage, generatedMark]

/-- A line that imports a package of the runtime. -/
theorem between?_runtime
    (runtime : String)
    {package ending : String}
    (isEnding : ending = "/" ++ package ++ "\"") :
    between? "\t\"" "\"" ("\t\"" ++ runtime ++ ending) = some (runtime ++ "/" ++ package) := by
  rw [isEnding]
  have path := between?_path (runtime ++ "/" ++ package)
  simp only [String.append_assoc] at path ⊢
  exact path

theorem imports_sharedLines
    (runtime : String)
    (plan : ProtocolPlan) :
    Scope.imports (sharedLines runtime plan) = plan.imports := by
  let standard :=
    (if plan.hasEnumerations then ["\t\"fmt\""] else [])
      ++ (if plan.hasBitfields then ["\t\"strings\""] else [])
  let gap : Lines := if standard.isEmpty then [] else standard ++ [""]
  have isWire : between? "\t\"" "\"" ("\t\"" ++ runtime ++ "/wire\"") = some (runtime ++ "/" ++ "wire") :=
    between?_runtime runtime (by decide)
  have noClosing : ")" ≠ "\t\"" ++ runtime ++ "/wire\"" := by
    rw [← String.toList_inj.ne]
    simp
  have isInside : ")" ∉ gap ++ ["\t\"" ++ runtime ++ "/wire\""] := by
    have inGap : ")" ∉ gap := by
      simp only [gap, standard]
      cases plan.hasEnumerations <;> cases plan.hasBitfields <;> decide
    simp [inGap, noClosing]
  have isGap : (gap.filterMap (between? "\t\"" "\"")).map lastComponent =
      (if plan.hasEnumerations then ["fmt"] else []) ++ if plan.hasBitfields then ["strings"] else [] := by
    simp only [gap, standard]
    cases plan.hasEnumerations <;> cases plan.hasBitfields <;> decide
  have block := imports_block
    (notMem_header ("Source: " ++ plan.name) plan.package
      (("Package " ++ plan.package ++ " holds the wire descriptors of the " ++ plan.name
          ++ " protocol.")
        :: if plan.summary.isEmpty then [] else ["", plan.summary ++ "."]))
    isInside
    ([""] ++ documentation ["Interfaces lists every interface of the " ++ plan.name ++ " protocol."]
      ++ ["var Interfaces = []*wire.Interface\x7b"]
      ++ plan.interfaces.map (fun interface => "\t" ++ interface.descriptorName ++ ",")
      ++ ["\x7d"]
      ++ plan.interfaces.flatMap interfaceLines
      ++ (if plan.hasBitfields then formatBitsLines else []))
  rw [List.filterMap_append, List.map_append, isGap, List.filterMap_cons, isWire,
    List.filterMap_nil, List.map_singleton, lastComponent_append _ "wire" (by decide)] at block
  unfold sharedLines ProtocolPlan.imports
  rw [← block]
  simp only [List.append_assoc, List.cons_append, List.nil_append, gap, standard]

theorem imports_roleLines
    {runtime base : String}
    {plan : RolePlan}
    (isPlain : '/' ∉ plan.protocol.package.toList) :
    Scope.imports (roleLines runtime (base ++ "/" ++ plan.protocol.package) plan) = plan.imports := by
  let paths : Lines :=
    ["\t\"fmt\"", "", "\t\"" ++ runtime ++ "/session\"", "\t\"" ++ runtime ++ "/wire\"", "",
      "\t\"" ++ (base ++ "/" ++ plan.protocol.package) ++ "\""]
  have isInside : ")" ∉ paths := by
    simp [paths, ← String.toList_inj]
  have isFmt : between? "\t\"" "\"" "\t\"fmt\"" = some "fmt" := by decide
  have isEmpty : between? "\t\"" "\"" "" = none := by decide
  have isSession : between? "\t\"" "\"" ("\t\"" ++ runtime ++ "/session\"") =
      some (runtime ++ "/" ++ "session") :=
    between?_runtime runtime (by decide)
  have isWire : between? "\t\"" "\"" ("\t\"" ++ runtime ++ "/wire\"") =
      some (runtime ++ "/" ++ "wire") :=
    between?_runtime runtime (by decide)
  have arePaths : (paths.filterMap (between? "\t\"" "\"")).map lastComponent = plan.imports := by
    simp only [paths, List.filterMap_cons, isFmt, isEmpty, isSession, isWire, between?_path,
      List.filterMap_nil, List.map_cons, List.map_nil, lastComponent_append _ _ isPlain,
      lastComponent_append _ "session" (by decide),
      lastComponent_append _ "wire" (by decide)]
    rfl
  have block := imports_block
    (notMem_header ("Source: " ++ plan.protocol.name) plan.role.packageText
      ["Package " ++ plan.role.label ++ " holds the " ++ plan.role.label ++ " side of the "
        ++ plan.protocol.name ++ " protocol."])
    isInside
    (plan.interfaces.flatMap (roleInterfaceLines plan) ++ optionalStringLines)
  rw [arePaths] at block
  unfold roleLines
  rw [← block]
  simp only [List.append_assoc, List.cons_append, List.nil_append, paths]

end Wayland.Binding
