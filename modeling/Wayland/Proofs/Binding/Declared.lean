import Wayland.Proofs.Binding.Package
import Wayland.Proofs.Binding.Printed

/-!
Contract: the shared file declares the descriptors of its protocol.

Owns:
- which lines of the file declare a variable and which are passed over;
- the table that is read from the lines of the file;
- that names which do not clash let the list of interfaces be looked up.

Does not own: how one literal is read.
-/

namespace Wayland.Binding

open Wayland.Model
open Wayland.Text
open Literal

/-! ## Lines that declare no variable -/

/-- Lines that do not start as the declaration of a variable does. -/
def Quiet
    (lines : Lines) : Prop :=
  ∀ line ∈ lines, line.toList.head? ≠ some 'v'

theorem quiet_nil :
    Quiet [] :=
  fun _ isMember => absurd isMember List.not_mem_nil

theorem quiet_line
    {line : String}
    (starts : line.toList.head? ≠ some 'v') :
    Quiet [line] :=
  List.forall_mem_singleton.mpr starts

theorem Quiet.append
    {left right : Lines}
    (first : Quiet left)
    (second : Quiet right) :
    Quiet (left ++ right) :=
  List.forall_mem_append.mpr ⟨first, second⟩

theorem quiet_flatMap
    {α : Type}
    {items : List α}
    {spelled : α → Lines}
    (quiet : ∀ item ∈ items, Quiet (spelled item)) :
    Quiet (items.flatMap spelled) := by
  intro line isMember
  obtain ⟨item, isItem, isLine⟩ := List.mem_flatMap.mp isMember
  exact quiet item isItem line isLine

theorem quiet_indent
    (lines : Lines) :
    Quiet (indent 1 lines) := by
  intro line isMember
  obtain ⟨plain, -, rfl⟩ := List.mem_map.mp isMember
  split
  · rename_i isEmpty
    rw [String.isEmpty_iff.mp isEmpty]
    decide
  · simp

theorem commentLine_starts
    (text : String) :
    (commentLine text).toList.head? = some '/' := by
  have chars : ("// " ++ text).toList.filter (· != '\r') =
      '/' :: '/' :: ' ' :: text.toList.filter (· != '\r') := by simp
  unfold commentLine
  rw [String.toList_ofList, chars, List.head?_reverse, List.reverse_cons, List.dropWhile_append]
  split
  · rfl
  · simp

theorem mem_of_mem_intercalate
    {α : Type}
    {separator : List α}
    {lists : List (List α)}
    {item : α}
    (isMember : item ∈ separator.intercalate lists) :
    item ∈ separator ∨ ∃ list ∈ lists, item ∈ list := by
  induction lists with
  | nil => simp at isMember
  | cons first rest inductionHypothesis =>
      cases rest with
      | nil => simp_all
      | cons second others =>
          rw [List.intercalate_cons_cons, List.mem_append, List.mem_append] at isMember
          rcases isMember with (inFirst | inSeparator) | inRest
          · exact .inr ⟨first, by simp, inFirst⟩
          · exact .inl inSeparator
          · exact (inductionHypothesis inRest).imp_right fun ⟨list, isList, inList⟩ =>
              ⟨list, List.mem_cons_of_mem _ isList, inList⟩

/-- Documentation consists of comments. -/
theorem exists_of_mem_documentation
    {texts : List String}
    {line : String}
    (isMember : line ∈ documentation texts) :
    ∃ text, line = commentLine text := by
  have ofMap {α : Type} {items : List α} {text : α → String}
      (isMember : line ∈ items.map fun item => commentLine (text item)) :
      ∃ text, line = commentLine text := by
    obtain ⟨item, -, rfl⟩ := List.mem_map.mp isMember
    exact ⟨text item, rfl⟩
  unfold documentation at isMember
  split at isMember
  · exact ofMap isMember
  · rcases mem_of_mem_intercalate isMember with isGap | ⟨list, isList, inList⟩
    · exact ⟨"", List.mem_singleton.mp isGap⟩
    · obtain ⟨paragraph, -, rfl⟩ := List.mem_map.mp isList
      unfold paragraphLines at inList
      simp only at inList
      split at inList <;> split at inList <;> exact ofMap inList

theorem quiet_documentation
    (texts : List String) :
    Quiet (documentation texts) := by
  intro line isMember
  obtain ⟨text, rfl⟩ := exists_of_mem_documentation isMember
  rw [commentLine_starts]
  decide

theorem quiet_constantBlock
    (lines : Lines) :
    Quiet (constantBlock lines) := by
  unfold constantBlock
  split
  · simp [Quiet]
  · exact ((show Quiet ["const ("] by simp [Quiet]).append (quiet_indent lines)).append
      (by simp [Quiet])

theorem quiet_opcodeLines
    (interface : InterfacePlan) :
    Quiet (opcodeLines interface) := by
  unfold opcodeLines
  simp only
  split
  · exact quiet_nil
  · exact ((show Quiet [""] by simp [Quiet]).append (quiet_documentation _)).append
      (quiet_constantBlock _)

theorem quiet_enumerationLines
    (interface : InterfacePlan)
    (enumeration : EnumerationPlan) :
    Quiet (enumerationLines interface enumeration) := by
  unfold enumerationLines
  have quiet := (((((show Quiet [""] by simp [Quiet]).append (quiet_documentation
      [enumeration.typeName ++ " is the " ++ enumeration.name ++ " enum of " ++ interface.name
        ++ (if enumeration.summary.isEmpty then "" else ": " ++ enumeration.summary) ++ "."])).append
      (show Quiet ["type " ++ enumeration.typeName ++ " uint32", ""] by simp [Quiet])).append
      (quiet_constantBlock (entryLinesFrom enumeration.typeName [] enumeration.entries))).append
      (show Quiet ["", "func (e " ++ enumeration.typeName ++ ") String() string \x7b"] by
        simp [Quiet])).append (quiet_indent (enumerationTextLines enumeration))
  exact quiet.append (by simp [Quiet])

/-! ## Variables -/

variable {typeName : String}

theorem between?_ends
    (before inner after : String) :
    between? before after (before ++ inner ++ after) = some inner := by
  have prefixed : (before ++ inner ++ after).toList.dropPrefix? before.toList =
      some (inner.toList ++ after.toList) := by
    rw [String.toList_append, String.toList_append, List.append_assoc]
    exact List.dropPrefix?_append_of_beq _ BEq.rfl
  have suffixed : (inner.toList ++ after.toList).dropSuffix? after.toList = some inner.toList :=
    List.dropSuffix?_eq_some_iff.mpr ⟨after.toList, rfl, BEq.rfl⟩
  rw [between?, prefixed, Option.bind_some, suffixed, Option.map_some, String.ofList_toList]

theorem between?_of_head
    {line : String}
    (quiet : line.toList.head? ≠ some 'v')
    (after : String) :
    between? "var " after line = none := by
  have noPrefix : line.toList.dropPrefix? "var ".toList = none := by
    cases found : line.toList.dropPrefix? "var ".toList with
    | none => rfl
    | some rest =>
        obtain ⟨lead, chars, same⟩ := List.dropPrefix?_eq_some_iff.mp found
        rw [eq_of_beq same] at chars
        rw [chars] at quiet
        exact absurd rfl quiet
  rw [between?, noPrefix]
  rfl

theorem literals_quiet
    {quiet : Lines}
    (isQuiet : Quiet quiet)
    (rest : Lines) :
    literals typeName (quiet ++ rest) = literals typeName rest := by
  induction quiet with
  | nil => rfl
  | cons line quiet inductionHypothesis =>
      have areQuiet := List.forall_mem_cons.mp isQuiet
      rw [List.cons_append, literals, between?_of_head areQuiet.1, inductionHypothesis areQuiet.2]

theorem literals_of_quiet
    {quiet : Lines}
    (isQuiet : Quiet quiet) :
    literals typeName quiet = [] := by
  have passed : literals typeName (quiet ++ []) = literals typeName [] := literals_quiet isQuiet []
  rwa [List.append_nil] at passed

/-- The lines of a literal open no other one. -/
theorem literals_closed
    {body : Lines}
    (isQuiet : Quiet body)
    (rest : Lines) :
    literals typeName (body ++ ("\x7d" :: rest)) = literals typeName rest := by
  have endIsQuiet : Quiet ["\x7d"] := by simp [Quiet]
  rw [literals_quiet isQuiet]
  exact literals_quiet endIsQuiet rest

/-- The first line of a variable that is set to a literal of a type. -/
def openingLine
    (name typeName : String) :
    String :=
  "var " ++ name ++ (" = " ++ typeName ++ "\x7b")

theorem literals_same
    {name : String}
    {body : Lines}
    (isQuiet : Quiet body)
    (isOpen : "\x7d" ∉ body)
    (rest : Lines) :
    literals typeName ([openingLine name typeName] ++ body ++ ["\x7d"] ++ rest) =
      (name, body) :: literals typeName rest := by
  have taken : (body ++ ("\x7d" :: rest)).takeWhile (· ≠ "\x7d") = body := by
    have areOpen : ∀ line ∈ body, (line ≠ "\x7d") := fun line isMember same =>
      isOpen (same ▸ isMember)
    rw [List.takeWhile_append_of_pos (by simpa using areOpen)]
    simp
  rw [List.append_assoc, List.append_assoc, List.singleton_append, List.singleton_append, literals,
    openingLine, between?_ends, taken, literals_closed isQuiet]

theorem literals_other
    {name other : String}
    {body : Lines}
    (isQuiet : Quiet body)
    (differs : between? "var " (" = " ++ typeName ++ "\x7b") (openingLine name other) = none)
    (rest : Lines) :
    literals typeName ([openingLine name other] ++ body ++ ["\x7d"] ++ rest) =
      literals typeName rest := by
  rw [List.append_assoc, List.append_assoc, List.singleton_append, List.singleton_append, literals,
    differs, literals_closed isQuiet]

/-- Types that differ in one character before the same characters. -/
theorem between?_differs
    {name one other : String}
    (lead otherLead rest : List Char)
    {mark otherMark : Char}
    (isOne : (" = " ++ one ++ "\x7b").toList = lead ++ mark :: rest)
    (isOther : (" = " ++ other ++ "\x7b").toList = otherLead ++ otherMark :: rest)
    (different : mark ≠ otherMark) :
    between? "var " (" = " ++ one ++ "\x7b") (openingLine name other) = none := by
  have prefixed : (openingLine name other).toList.dropPrefix? "var ".toList =
      some (name.toList ++ (" = " ++ other ++ "\x7b").toList) := by
    rw [openingLine, String.toList_append, String.toList_append, List.append_assoc]
    exact List.dropPrefix?_append_of_beq _ BEq.rfl
  rw [between?, prefixed, Option.bind_some, Option.map_eq_none_iff]
  cases found : (name.toList ++ (" = " ++ other ++ "\x7b").toList).dropSuffix?
      (" = " ++ one ++ "\x7b").toList with
  | none => rfl
  | some inner =>
      obtain ⟨tail, chars, same⟩ := List.dropSuffix?_eq_some_iff.mp found
      rw [eq_of_beq same, isOne, isOther, ← List.append_assoc, ← List.append_assoc] at chars
      have ends := (List.append_inj' chars rfl).2
      exact absurd (List.cons.inj ends).1.symm different

/-! ## The shared file -/

theorem openingLine_interface
    (name : String) :
    "var " ++ name ++ " = &wire.Interface\x7b" = openingLine name "&wire.Interface" := by
  have ending : " = &wire.Interface\x7b" = " = " ++ "&wire.Interface" ++ "\x7b" := by decide
  rw [openingLine, ending]

theorem interfaceType_chars :
    (" = " ++ "&wire.Interface" ++ "\x7b").toList =
      " = ".toList ++ '&' :: "wire.Interface\x7b".toList := by
  decide

theorem listType_chars :
    (" = " ++ "[]*wire.Interface" ++ "\x7b").toList =
      " = []".toList ++ '*' :: "wire.Interface\x7b".toList := by
  decide

theorem between?_interface_of_list
    (name : String) :
    between? "var " (" = " ++ "&wire.Interface" ++ "\x7b") (openingLine name "[]*wire.Interface") =
      none :=
  between?_differs _ _ _ interfaceType_chars listType_chars (by decide)

theorem between?_list_of_interface
    (name : String) :
    between? "var " (" = " ++ "[]*wire.Interface" ++ "\x7b") (openingLine name "&wire.Interface") =
      none :=
  between?_differs _ _ _ listType_chars interfaceType_chars (by decide)

theorem notMem_indent
    (lines : Lines) :
    "\x7d" ∉ indent 1 lines := by
  intro isMember
  obtain ⟨line, -, same⟩ := List.mem_map.mp isMember
  split at same
  · rename_i isEmpty
    rw [String.isEmpty_iff.mp isEmpty] at same
    exact absurd same (by decide)
  · rw [← String.toList_inj] at same
    simp at same

/-- The declarations of an interface set one variable. -/
theorem interfaceLines_eq
    (interface : InterfacePlan) :
    ∃ before after, Quiet before ∧ Quiet after ∧
      interfaceLines interface =
        before ++ ([openingLine interface.descriptorName "&wire.Interface"]
          ++ descriptorBody interface ++ ["\x7d"] ++ after) := by
  let texts :=
    (interface.descriptorName ++ " describes " ++ interface.name ++ " at version "
        ++ toString interface.version.toNat ++ ".")
      :: if interface.summary.isEmpty then [] else [interface.summary ++ "."]
  refine ⟨[""] ++ documentation texts,
    opcodeLines interface ++ interface.enumerations.flatMap (enumerationLines interface), ?_, ?_, ?_⟩
  · exact (quiet_line (by decide)).append (quiet_documentation texts)
  · exact (quiet_opcodeLines interface).append
      (quiet_flatMap fun enumeration _ => quiet_enumerationLines interface enumeration)
  · rw [← openingLine_interface]
    simp only [interfaceLines, descriptorLines, List.append_assoc]
    rfl

variable {interfaces : List InterfacePlan} {tail : Lines}

/-- The variables that hold an interface, in order. -/
theorem literals_interfaces
    (isQuiet : Quiet tail) :
    literals "&wire.Interface" (interfaces.flatMap interfaceLines ++ tail) =
      interfaces.map fun interface => (interface.descriptorName, descriptorBody interface) := by
  induction interfaces with
  | nil => exact literals_of_quiet isQuiet
  | cons interface interfaces inductionHypothesis =>
      obtain ⟨before, after, beforeQuiet, afterQuiet, lines⟩ := interfaceLines_eq interface
      have bodyQuiet : Quiet (descriptorBody interface) := quiet_indent _
      rw [List.flatMap_cons, lines, List.append_assoc, List.append_assoc, literals_quiet beforeQuiet,
        List.append_assoc, literals_same bodyQuiet (notMem_indent _),
        literals_quiet afterQuiet, inductionHypothesis]
      rfl

theorem literals_lists
    (isQuiet : Quiet tail) :
    literals "[]*wire.Interface" (interfaces.flatMap interfaceLines ++ tail) = [] := by
  induction interfaces with
  | nil => exact literals_of_quiet isQuiet
  | cons interface interfaces inductionHypothesis =>
      obtain ⟨before, after, beforeQuiet, afterQuiet, lines⟩ := interfaceLines_eq interface
      have bodyQuiet : Quiet (descriptorBody interface) := quiet_indent _
      rw [List.flatMap_cons, lines, List.append_assoc, List.append_assoc, literals_quiet beforeQuiet,
        List.append_assoc, literals_other bodyQuiet (between?_list_of_interface _),
        literals_quiet afterQuiet, inductionHypothesis]

def listingLines
    (plan : ProtocolPlan) :
    Lines :=
  plan.interfaces.map fun interface => "\t" ++ interface.descriptorName ++ ","

theorem sharedLines_eq
    (runtime : String)
    (plan : ProtocolPlan) :
    ∃ before tail, Quiet before ∧ Quiet tail ∧
      sharedLines runtime plan =
        before ++ ([openingLine "Interfaces" "[]*wire.Interface"] ++ listingLines plan ++ ["\x7d"]
          ++ (plan.interfaces.flatMap interfaceLines ++ tail)) := by
  let standard :=
    (if plan.hasEnumerations then ["\t\"fmt\""] else [])
      ++ (if plan.hasBitfields then ["\t\"strings\""] else [])
  let texts :=
    ("Package " ++ plan.package ++ " holds the wire descriptors of the " ++ plan.name
        ++ " protocol.")
      :: if plan.summary.isEmpty then [] else ["", plan.summary ++ "."]
  let before : Lines :=
    [generatedMark, commentLine ("Source: " ++ plan.name), ""] ++ documentation texts
      ++ ["package " ++ plan.package, "", "import ("]
      ++ (if standard.isEmpty then [] else standard ++ [""])
      ++ ["\t\"" ++ runtime ++ "/wire\"", ")", ""]
      ++ documentation ["Interfaces lists every interface of the " ++ plan.name ++ " protocol."]
  refine ⟨before, if plan.hasBitfields then formatBitsLines else [], ?_, ?_, ?_⟩
  · refine (((((Quiet.append ?_ (quiet_documentation texts)).append ?_).append ?_).append ?_).append
      (quiet_documentation _))
    · exact (quiet_line (by decide)).append ((quiet_line (by simp [commentLine_starts])).append
        (quiet_line (by decide)))
    · exact (quiet_line (by simp)).append ((quiet_line (by decide)).append
        (quiet_line (by decide)))
    · split
      · exact quiet_nil
      · refine Quiet.append (Quiet.append ?_ ?_) (quiet_line (by decide))
        · split
          · exact quiet_line (by decide)
          · exact quiet_nil
        · split
          · exact quiet_line (by decide)
          · exact quiet_nil
    · exact (quiet_line (by simp)).append ((quiet_line (by decide)).append
        (quiet_line (by decide)))
  · split
    · unfold Quiet
      decide
    · exact quiet_nil
  · have opening : "var Interfaces = []*wire.Interface\x7b" =
        openingLine "Interfaces" "[]*wire.Interface" := by decide
    rw [← opening]
    simp only [sharedLines, before, standard, texts, listingLines, List.append_assoc]

theorem mapM_map_eq_some
    {α β γ : Type}
    {items : List α}
    {given : α → β}
    {read : β → Option γ}
    (value : α → γ)
    (areRead : ∀ item ∈ items, read (given item) = some (value item)) :
    (items.map given).mapM read = some (items.map value) := by
  induction items with
  | nil => rfl
  | cons item items inductionHypothesis =>
      rw [List.forall_mem_cons] at areRead
      simp [List.mapM_cons, areRead.1, inductionHypothesis areRead.2]

def descriptorVariable
    (interface : Interface) :
    String :=
  (planInterface interface).descriptorName

def protocolTable
    (protocol : Protocol) :
    Table where
  declared := protocol.interfaces.map fun interface =>
    (descriptorVariable interface, interface.descriptor.canonical)
  listed := protocol.interfaces.map descriptorVariable

variable {protocol : Protocol}

/-- The table in the lines of the shared file is the one of the protocol's descriptors. -/
theorem read_sharedLines
    (known : ∀ interface ∈ protocol.interfaces, HasKinds interface)
    (runtime : String) :
    Table.read? (sharedLines runtime (planProtocol protocol)) = some (protocolTable protocol) := by
  obtain ⟨before, tail, beforeQuiet, tailQuiet, lines⟩ :=
    sharedLines_eq runtime (planProtocol protocol)
  have listingQuiet : Quiet (listingLines (planProtocol protocol)) :=
    List.forall_mem_map.mpr fun interface _ => by simp
  have listingOpen : "\x7d" ∉ listingLines (planProtocol protocol) := by
    intro isMember
    obtain ⟨interface, -, same⟩ := List.mem_map.mp isMember
    rw [← String.toList_inj] at same
    simp at same
  have interfaces : literals "&wire.Interface" (sharedLines runtime (planProtocol protocol)) =
      protocol.interfaces.map fun interface =>
        (descriptorVariable interface, descriptorBody (planInterface interface)) := by
    rw [lines, literals_quiet beforeQuiet,
      literals_other listingQuiet (between?_interface_of_list _), literals_interfaces tailQuiet]
    simp [planProtocol, descriptorVariable, Function.comp_def]
  have lists : literals "[]*wire.Interface" (sharedLines runtime (planProtocol protocol)) =
      [("Interfaces", listingLines (planProtocol protocol))] := by
    rw [lines, literals_quiet beforeQuiet, literals_same listingQuiet listingOpen,
      literals_lists tailQuiet]
  have listed : (listingLines (planProtocol protocol)).mapM (between? "\t" ",") =
      some (protocol.interfaces.map descriptorVariable) := by
    have lines : listingLines (planProtocol protocol) =
        protocol.interfaces.map fun interface => "\t" ++ descriptorVariable interface ++ "," := by
      simp [listingLines, planProtocol, descriptorVariable]
    rw [lines]
    exact mapM_map_eq_some descriptorVariable fun interface _ =>
      between?_ends "\t" (descriptorVariable interface) ","
  unfold Table.read?
  rw [interfaces, lists, mapM_map_eq_some fun interface =>
    (descriptorVariable interface, interface.descriptor.canonical)]
  · simp [listed, protocolTable]
  · intro interface isMember
    obtain ⟨tokens, areTokens, rest⟩ :=
      Option.bind_eq_some_iff.mp (descriptorBody_reads (known interface isMember))
    obtain ⟨elements, areElements, isRead⟩ := Option.bind_eq_some_iff.mp rest
    simp [areTokens, areElements, isRead]

/-! ## Names that do not clash -/

theorem names_nodup_of_clashAfter?
    {earlier declarations : List Declaration}
    (free : clashAfter? earlier declarations = none) :
    (declarations.map (·.name)).Nodup ∧
      ∀ declaration ∈ declarations, ∀ former ∈ earlier, former.name ≠ declaration.name := by
  induction declarations generalizing earlier with
  | nil => simp
  | cons next rest inductionHypothesis =>
      unfold clashAfter? at free
      split at free
      · cases free
      · rename_i isNew
        obtain ⟨restNodup, restApart⟩ := inductionHypothesis free
        have apart : ∀ former ∈ earlier, former.name ≠ next.name := by
          simpa using List.find?_eq_none.mp isNew
        constructor
        · refine List.nodup_cons.mpr ⟨?_, restNodup⟩
          intro isMember
          obtain ⟨later, isLater, same⟩ := List.mem_map.mp isMember
          exact restApart later isLater next (by simp) same.symm
        · refine List.forall_mem_cons.mpr ⟨apart, fun later isLater former isFormer => ?_⟩
          exact restApart later isLater former (List.mem_cons_of_mem _ isFormer)

/-- The variables of the descriptors differ where the declarations do not clash. -/
theorem descriptorNames_nodup
    {plan : ProtocolPlan}
    (free : clash? plan.declarations = none) :
    (plan.interfaces.map InterfacePlan.descriptorName).Nodup := by
  have isSublist (interfaces : List InterfacePlan) :
      (interfaces.map InterfacePlan.descriptorName).Sublist
        ((interfaces.flatMap interfaceDeclarations).map (·.name)) := by
    induction interfaces with
    | nil => exact List.Sublist.refl _
    | cons interface interfaces inductionHypothesis =>
        simp only [List.map_cons, List.flatMap_cons, interfaceDeclarations, List.cons_append]
        rw [List.map_append]
        exact (inductionHypothesis.trans (List.sublist_append_right _ _)).cons_cons _
  have nodup := (names_nodup_of_clashAfter? free).1
  simp only [ProtocolPlan.declarations, List.map_cons, List.nodup_cons] at nodup
  exact nodup.2.2.sublist (isSublist plan.interfaces)

theorem lookup_of_nodup
    {α : Type}
    {pairs : List (String × α)}
    (different : (pairs.map Prod.fst).Nodup)
    {name : String}
    {item : α}
    (isMember : (name, item) ∈ pairs) :
    pairs.lookup name = some item := by
  induction pairs with
  | nil => cases isMember
  | cons pair pairs inductionHypothesis =>
      obtain ⟨first, found⟩ := pair
      obtain ⟨notIn, rest⟩ := List.nodup_cons.mp different
      rcases List.mem_cons.mp isMember with same | inRest
      · cases same
        simp
      · have differs : name ≠ first := by
          rintro rfl
          exact notIn (List.mem_map.mpr ⟨_, inRest, rfl⟩)
        rw [List.lookup_cons, beq_false_of_ne differs]
        exact inductionHypothesis rest inRest

/-- The listed interfaces are the descriptors of the protocol, in order. -/
theorem interfaces?_protocolTable
    (free : clash? (planProtocol protocol).declarations = none) :
    (protocolTable protocol).interfaces? = some (protocol.descriptors.map Wire.Interface.canonical) := by
  have different : ((protocolTable protocol).declared.map Prod.fst).Nodup := by
    have nodup := descriptorNames_nodup free
    simpa [protocolTable, planProtocol, descriptorVariable, Function.comp_def] using nodup
  have each :
      (protocol.interfaces.map descriptorVariable).mapM
          (fun name => (protocolTable protocol).declared.lookup name) =
        some (protocol.interfaces.map fun interface => interface.descriptor.canonical) :=
    mapM_map_eq_some _ fun interface isMember =>
      lookup_of_nodup different (List.mem_map.mpr ⟨interface, isMember, rfl⟩)
  simpa [Table.interfaces?, protocolTable, Protocol.descriptors, Function.comp_def] using each

/-! ## The table of a protocol -/

/-- The shared file of a protocol declares one variable for every interface, in document order, with
the descriptor of the interface, and lists all of them in this order.  Fields that are left out
stand for zero.  Where the file is generated, its names do not clash and the listed interfaces are
the descriptors of the protocol. -/
theorem declared_table_is_descriptor_table
    (protocol : Protocol)
    (known : ∀ interface ∈ protocol.interfaces, HasKinds interface)
    (runtime : String) :
    ∃ table, Table.read? (sharedLines runtime (planProtocol protocol)) = some table ∧
      table.listed = protocol.interfaces.map descriptorVariable ∧
      table.declared = table.listed.zip (protocol.descriptors.map Wire.Interface.canonical) ∧
      ∀ (generator : Generator) (output : Output),
        generator.generate protocol = .ok output →
          output.files.head?.map File.content =
              some (fileText (sharedLines generator.runtimePath (planProtocol protocol))) ∧
            table.interfaces? = some (protocol.descriptors.map Wire.Interface.canonical) := by
  refine ⟨protocolTable protocol, read_sharedLines known runtime, rfl, ?_, ?_⟩
  · simp [protocolTable, Protocol.descriptors, List.zip_map']
  · intro generator output generated
    obtain ⟨free, -, files, -, rfl⟩ := Generator.generate_parts generated
    exact ⟨rfl, interfaces?_protocolTable free⟩

/-- A protocol with arguments of all kinds; one name is not plain. -/
def gateProtocol : Protocol where
  name := "gate"
  interfaces :=
    [{ name := "gate", version := 3
       requests :=
        [{ name := "open", since := 1
           args :=
            [{ name := "angle", typeName := "fixed" }, { name := "speed", typeName := "int" },
              { name := "say \"hi\"\n", typeName := "string", nullable := true },
              { name := "visitor", typeName := "new_id", interface := "visitor" }] },
          { name := "remove", since := 2, destructor := true }] },
      { name := "visitor", version := 1
        events :=
        [{ name := "seen", since := 1
           args :=
            [{ name := "gate", typeName := "object", interface := "gate" },
              { name := "time", typeName := "uint" }, { name := "face", typeName := "array" },
              { name := "film", typeName := "fd" }] }] }]

theorem gate_table_is_declared :
    (∀ interface ∈ gateProtocol.interfaces, HasKinds interface) ∧
      gateProtocol.descriptors.map Wire.Interface.canonical = gateProtocol.descriptors ∧
      ∃ table, Table.read? (sharedLines standardRuntime (planProtocol gateProtocol)) = some table ∧
        table.listed = ["GateInterface", "VisitorInterface"] ∧
        table.declared = table.listed.zip gateProtocol.descriptors := by
  have known : ∀ interface ∈ gateProtocol.interfaces, HasKinds interface := by
    unfold HasKinds HasKind
    decide
  have same : gateProtocol.descriptors.map Wire.Interface.canonical = gateProtocol.descriptors := by
    decide
  obtain ⟨table, isRead, listed, declared, -⟩ :=
    declared_table_is_descriptor_table gateProtocol known standardRuntime
  refine ⟨known, same, table, isRead, ?_, ?_⟩
  · rw [listed]
    decide
  · rw [declared, same]

end Wayland.Binding
