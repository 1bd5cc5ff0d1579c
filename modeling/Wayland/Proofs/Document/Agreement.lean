import Wayland.Markup.Element
import Wayland.Proofs.Document.MappingReading
import Wayland.Proofs.Document.MarkupReading
import Wayland.Yaml.Node

/-!
Contract: the two readers of protocol documents.

Owns:
- tests that tell whether two trees of a document are the same, which can be evaluated;
- that an outline is read from markup exactly if it is read from YAML, and that both give the same
  model apart from the name of the document.

Does not own: documents that are no outlines.
-/

namespace Wayland.Markup

mutual

def Node.isSame : Node → Node → Bool
  | .text left line, .text right otherLine => left == right && line == otherLine
  | .element tag attributes line content cut,
      .element otherTag otherAttributes otherLine otherContent otherCut =>
      tag == otherTag && attributes == otherAttributes && line == otherLine && cut == otherCut
        && areSame content otherContent
  | _, _ => false

def areSame : List Node → List Node → Bool
  | [], [] => true
  | left :: rest, right :: others => left.isSame right && areSame rest others
  | _, _ => false

end

mutual

theorem Node.eq_of_isSame :
    (left right : Node) → left.isSame right = true → left = right
  | .text left line, .text right otherLine, same => by simpa [Node.isSame] using same
  | .element tag attributes line content cut,
      .element otherTag otherAttributes otherLine otherContent otherCut, same => by
      simp only [Node.isSame, Bool.and_eq_true, beq_iff_eq] at same
      obtain ⟨⟨⟨⟨rfl, rfl⟩, rfl⟩, rfl⟩, sameContent⟩ := same
      rw [eq_of_areSame content otherContent sameContent]
  | .text _ _, .element _ _ _ _ _, same => by simp [Node.isSame] at same
  | .element _ _ _ _ _, .text _ _, same => by simp [Node.isSame] at same

theorem eq_of_areSame :
    (left right : List Node) → areSame left right = true → left = right
  | [], [], _ => rfl
  | left :: rest, right :: others, same => by
      rw [areSame, Bool.and_eq_true] at same
      rw [Node.eq_of_isSame left right same.1, eq_of_areSame rest others same.2]
  | [], _ :: _, same => by simp [areSame] at same
  | _ :: _, [], same => by simp [areSame] at same

end

end Wayland.Markup

namespace Wayland.Yaml

mutual

def Node.isSame : Node → Node → Bool
  | .scalar tag value style line, .scalar otherTag otherValue otherStyle otherLine =>
      tag == otherTag && value == otherValue && style == otherStyle && line == otherLine
  | .sequence tag items line, .sequence otherTag otherItems otherLine =>
      tag == otherTag && line == otherLine && areSame items otherItems
  | .mapping tag entries line, .mapping otherTag otherEntries otherLine =>
      tag == otherTag && line == otherLine && areSamePairs entries otherEntries
  | .alias name number anchor line, .alias otherName otherNumber otherAnchor otherLine =>
      name == otherName && number == otherNumber && anchor == otherAnchor && line == otherLine
  | _, _ => false

def areSame : List Node → List Node → Bool
  | [], [] => true
  | left :: rest, right :: others => left.isSame right && areSame rest others
  | _, _ => false

def areSamePairs : List (Node × Node) → List (Node × Node) → Bool
  | [], [] => true
  | (key, value) :: rest, (otherKey, otherValue) :: others =>
      key.isSame otherKey && value.isSame otherValue && areSamePairs rest others
  | _, _ => false

end

mutual

theorem Node.eq_of_isSame :
    (left right : Node) → left.isSame right = true → left = right
  | .scalar _ _ _ _, .scalar _ _ _ _, same => by simpa [Node.isSame, and_assoc] using same
  | .sequence _ items _, .sequence _ others _, same => by
      simp only [Node.isSame, Bool.and_eq_true, beq_iff_eq] at same
      obtain ⟨⟨rfl, rfl⟩, sameItems⟩ := same
      rw [eq_of_areSame items others sameItems]
  | .mapping _ entries _, .mapping _ others _, same => by
      simp only [Node.isSame, Bool.and_eq_true, beq_iff_eq] at same
      obtain ⟨⟨rfl, rfl⟩, sameEntries⟩ := same
      rw [eq_of_areSamePairs entries others sameEntries]
  | .alias _ _ _ _, .alias _ _ _ _, same => by simpa [Node.isSame, and_assoc] using same
  | .scalar _ _ _ _, .sequence _ _ _, same => by simp [Node.isSame] at same
  | .scalar _ _ _ _, .mapping _ _ _, same => by simp [Node.isSame] at same
  | .scalar _ _ _ _, .alias _ _ _ _, same => by simp [Node.isSame] at same
  | .sequence _ _ _, .scalar _ _ _ _, same => by simp [Node.isSame] at same
  | .sequence _ _ _, .mapping _ _ _, same => by simp [Node.isSame] at same
  | .sequence _ _ _, .alias _ _ _ _, same => by simp [Node.isSame] at same
  | .mapping _ _ _, .scalar _ _ _ _, same => by simp [Node.isSame] at same
  | .mapping _ _ _, .sequence _ _ _, same => by simp [Node.isSame] at same
  | .mapping _ _ _, .alias _ _ _ _, same => by simp [Node.isSame] at same
  | .alias _ _ _ _, .scalar _ _ _ _, same => by simp [Node.isSame] at same
  | .alias _ _ _ _, .sequence _ _ _, same => by simp [Node.isSame] at same
  | .alias _ _ _ _, .mapping _ _ _, same => by simp [Node.isSame] at same

theorem eq_of_areSame :
    (left right : List Node) → areSame left right = true → left = right
  | [], [], _ => rfl
  | left :: rest, right :: others, same => by
      rw [areSame, Bool.and_eq_true] at same
      rw [Node.eq_of_isSame left right same.1, eq_of_areSame rest others same.2]
  | [], _ :: _, same => by simp [areSame] at same
  | _ :: _, [], same => by simp [areSame] at same

theorem eq_of_areSamePairs :
    (left right : List (Node × Node)) → areSamePairs left right = true → left = right
  | [], [], _ => rfl
  | (key, value) :: rest, (otherKey, otherValue) :: others, same => by
      rw [areSamePairs, Bool.and_eq_true, Bool.and_eq_true] at same
      rw [Node.eq_of_isSame key otherKey same.1.1, Node.eq_of_isSame value otherValue same.1.2,
        eq_of_areSamePairs rest others same.2]
  | [], _ :: _, same => by simp [areSamePairs] at same
  | _ :: _, [], same => by simp [areSamePairs] at same

end

mutual

theorem Node.isSame_self :
    (node : Node) → node.isSame node = true
  | .scalar _ _ _ _ => by simp [Node.isSame]
  | .sequence _ items _ => by simp [Node.isSame, areSame_self items]
  | .mapping _ entries _ => by simp [Node.isSame, areSamePairs_self entries]
  | .alias _ _ _ _ => by simp [Node.isSame]

theorem areSame_self :
    (nodes : List Node) → areSame nodes nodes = true
  | [] => rfl
  | node :: rest => by rw [areSame, Node.isSame_self node, areSame_self rest, Bool.and_self]

theorem areSamePairs_self :
    (entries : List (Node × Node)) → areSamePairs entries entries = true
  | [] => rfl
  | (key, value) :: rest => by
      rw [areSamePairs, Node.isSame_self key, Node.isSame_self value, areSamePairs_self rest,
        Bool.and_self, Bool.and_self]

end

instance : DecidableEq Node := fun left right =>
  decidable_of_iff (left.isSame right = true)
    ⟨Node.eq_of_isSame left right, fun same => same ▸ Node.isSame_self left⟩

deriving instance DecidableEq for Document

end Wayland.Yaml

namespace Wayland.Document

open Wayland.Markup (Attribute Tree)
open Wayland.Model (Protocol)
open Wayland.Text (Bytes)
open Outline

/-- A document whose parts have names, and whose first versions are at least one, is read from
markup exactly if it is read from YAML.  The models differ in nothing but the name of the
document. -/
theorem readings_agree
    {written : Outline.Protocol}
    (named : written.Named)
    (dated : written.Dated)
    {markup mapping : Bytes}
    (inMarkup : written.InMarkup (Tree.ofBytes markup))
    (inMapping : written.InMapping mapping)
    (left right : String) :
    ((∃ protocol, readMarkup left markup = .ok protocol) ↔
        ∃ protocol, readMapping right mapping = .ok protocol) ∧
      ∀ fromMarkup fromMapping, readMarkup left markup = .ok fromMarkup →
        readMapping right mapping = .ok fromMapping →
        { fromMarkup with document := right } = fromMapping := by
  have readsMarkup := @FromMarkup.readMarkup_answers left markup written inMarkup
  have readsMapping :=
    (@FromMapping.readMapping_answers right mapping written inMapping dated).congr
      (and_iff_left named)
  refine ⟨readsMarkup.ok_iff.trans readsMapping.ok_iff.symm, ?_⟩
  intro fromMarkup fromMapping isMarkup isMapping
  rw [readsMarkup.eq_of_ok isMarkup, readsMapping.eq_of_ok isMapping]
  rfl

/-! ## A lamp -/

def lampInterface : Outline.Interface :=
  { name := "lamp"
    version := 2
    description := { text := "It shines." }
    requests := [{ name := "drop", destructor := true }]
    events := [{ name := "lit" }] }

def lampOutline : Outline.Protocol :=
  { name := "room", interfaces := [lampInterface] }

/-- The lamp in markup: the event stands before the request, and the description between them. -/
def lampMarkup : Bytes :=
  ("<protocol name=\"room\"><interface name=\"lamp\" version=\"2\">" ++
    "<event name=\"lit\" since=\"1\"/><description>\n  It shines.\n</description>" ++
    "<request name=\"drop\" type=\"destructor\"/></interface></protocol>").toUTF8.toList

def lampMapping : Bytes :=
  ("name: room\ninterfaces:\n- name: lamp\n  version: 2\n  description:\n" ++
    "    text: It shines.\n  requests:\n  - name: drop\n    destructor: true\n  events:\n" ++
    "  - name: lit\n").toUTF8.toList

def nodeOf
    (element : Element) :
    Markup.Node :=
  .element element.tag element.attributes element.line element.content element.cut

/-- An attribute without a qualifier. -/
def attributeOf
    (label value : String) :
    Attribute :=
  ⟨⟨"", label⟩, value⟩

def litElement : Element :=
  ⟨"event", [attributeOf "name" "lit", attributeOf "since" "1"], 1, [], none⟩

def shineElement : Element :=
  ⟨"description", [], 1, [.text "\n  It shines.\n" 3], none⟩

def dropElement : Element :=
  ⟨"request", [attributeOf "name" "drop", attributeOf "type" "destructor"], 3, [], none⟩

def lampElement : Element :=
  ⟨"interface", [attributeOf "name" "lamp", attributeOf "version" "2"], 1,
    [nodeOf litElement, nodeOf shineElement, nodeOf dropElement], none⟩

def roomElement : Element :=
  ⟨"protocol", [attributeOf "name" "room"], 1, [nodeOf lampElement], none⟩

theorem nodes_lampMarkup :
    (Tree.ofBytes lampMarkup).nodes = [nodeOf roomElement] :=
  Markup.eq_of_areSame _ _ (by decide +kernel)

theorem isReindented_shine :
    Text.IsReindented "It shines." shineElement.text := by
  refine ⟨[[]], ["  It shines.".toList], [[]], by decide, by decide, ?_⟩
  simp

theorem lampOutline_inMarkup :
    lampOutline.InMarkup (Tree.ofBytes lampMarkup) := by
  refine ⟨[], _, [], _, _, _, _, nodes_lampMarkup, by simp, ?_⟩
  have event : MessageIn "event" litElement { name := "lit" } := {
    plain := by constructor <;> simp [litElement, attributeOf]
    name := by simp [Element.attribute?, litElement, attributeOf]
    destructor := by simp [Element.attribute?, litElement, attributeOf]
    since := Or.inr ⟨rfl, by decide⟩
    deprecatedSince := Or.inl (by decide)
    children := ⟨by simp [Element.IsSpaced, texts, litElement], none, rfl, .nil⟩ }
  have description : DescriptionIn shineElement { text := "It shines." } := {
    plain := by constructor <;> simp [shineElement]
    summary := by simp [WritesText, Element.attribute?, shineElement]
    childless := rfl
    text := isReindented_shine }
  have request : MessageIn "request" dropElement { name := "drop", destructor := true } := {
    plain := by constructor <;> simp [dropElement, attributeOf]
    name := by simp [Element.attribute?, dropElement, attributeOf]
    destructor := by simp [Element.attribute?, dropElement, attributeOf]
    since := Or.inl (by decide)
    deprecatedSince := Or.inl (by decide)
    children := ⟨by simp [Element.IsSpaced, texts, dropElement], none, rfl, .nil⟩ }
  have interface : InterfaceIn lampElement lampInterface := {
    plain := by constructor <;> simp [lampElement, attributeOf]
    name := by simp [Element.attribute?, lampElement, lampInterface, attributeOf]
    version := by decide
    frozen := by
      unfold WritesFlag
      decide
    spaced := by simp [Element.IsSpaced, texts, lampElement, nodeOf]
    members := ⟨some { text := "It shines." }, rfl,
      .event event (.description description (.request request .nil))⟩ }
  exact {
    plain := by constructor <;> simp [attributeOf, roomElement]
    name := by simp [Element.attribute?, lampOutline, attributeOf, roomElement]
    spaced := by simp [Element.IsSpaced, texts, roomElement, nodeOf]
    children := ⟨none, none, rfl, rfl, .interface interface .nil⟩ }

def textOf
    (text : String)
    (line : Nat) :
    Yaml.Node :=
  .scalar "!!str" text .plain line

def litNode : Yaml.Node :=
  .mapping "!!map" [(textOf "name" 11, textOf "lit" 11)] 11

def dropNode : Yaml.Node :=
  .mapping "!!map"
    [(textOf "name" 8, textOf "drop" 8),
      (textOf "destructor" 9, .scalar "!!bool" "true" .plain 9)] 8

def lampNode : Yaml.Node :=
  .mapping "!!map"
    [(textOf "name" 3, textOf "lamp" 3), (textOf "version" 4, .scalar "!!int" "2" .plain 4),
      (textOf "description" 5, .mapping "!!map" [(textOf "text" 6, textOf "It shines." 6)] 6),
      (textOf "requests" 7, .sequence "!!seq" [dropNode] 8),
      (textOf "events" 10, .sequence "!!seq" [litNode] 11)] 3

def roomNode : Yaml.Node :=
  .mapping "!!map"
    [(textOf "name" 1, textOf "room" 1),
      (textOf "interfaces" 2, .sequence "!!seq" [lampNode] 3)] 1

/-- A text whose tree is found to have a root. -/
theorem exists_tree_of_isSame
    {bytes : Bytes}
    {root : Yaml.Node}
    (isRoot : (Yaml.Document.ofBytes bytes).toOption.join.any (·.root.isSame root) = true) :
    ∃ tree, Yaml.Document.ofBytes bytes = .ok (some tree) ∧ tree.root = root := by
  cases isRead : Yaml.Document.ofBytes bytes with
  | error fault => simp [isRead, Except.toOption] at isRoot
  | ok tree? =>
      cases tree? with
      | none => simp [isRead, Except.toOption] at isRoot
      | some tree =>
          refine ⟨tree, rfl, Yaml.Node.eq_of_isSame _ _ ?_⟩
          simpa [isRead, Except.toOption] using isRoot

theorem root_lampMapping :
    "name".length ≤ lampMapping.length ∧
      ∃ tree, Yaml.Document.ofBytes lampMapping = .ok (some tree) ∧ tree.root = roomNode :=
  ⟨by decide +kernel, exists_tree_of_isSame (by decide +kernel)⟩

theorem textAt_textOf
    (text : String)
    (line : Nat) :
    TextAt (textOf text line) text :=
  ⟨_, _, .plain, line, rfl, Yaml.Shape.scalarValue_str text⟩

/-- A mapping with plain texts as keys. -/
theorem recordAt_of_keys
    {entries : List (Yaml.Node × Yaml.Node)}
    {line : Nat}
    {known : List String}
    (keys : List (String × Nat))
    (areKeys : entries.map (·.1) = keys.map fun key => textOf key.1 key.2)
    (different : (keys.map (·.1)).Nodup)
    (areKnown : ∀ key ∈ keys, key.1 ∈ known) :
    RecordAt (.mapping "!!map" entries line) known := by
  have isKey : ∀ entry ∈ entries, ∃ key ∈ keys, textOf key.1 key.2 = entry.1 := by
    intro entry isEntry
    rw [← List.mem_map, ← areKeys]
    exact List.mem_map_of_mem isEntry
  have texts : entries.map (·.1.text) = keys.map (·.1) := by
    have sameTexts := congrArg (List.map Yaml.Node.text) areKeys
    rw [List.map_map, List.map_map] at sameTexts
    exact sameTexts
  refine ⟨entries, line, rfl, ⟨fun entry isEntry => ?_, texts ▸ different⟩, fun entry isEntry => ?_⟩
  · obtain ⟨key, -, isText⟩ := isKey entry isEntry
    exact ⟨key.1, .plain, key.2, isText.symm⟩
  · obtain ⟨key, isKey, isText⟩ := isKey entry isEntry
    rw [← isText]
    exact areKnown key isKey

theorem lampOutline_inMapping :
    lampOutline.InMapping lampMapping := by
  obtain ⟨room, tree, isTree, isRoom⟩ := root_lampMapping
  refine ⟨room, tree, isTree, ?_⟩
  rw [isRoom]
  have event : MessageAt litNode { name := "lit" } := {
    record := recordAt_of_keys [("name", 11)] rfl (by simp) (by simp)
    name := textAt_textOf "lit" 11
    since := rfl
    deprecatedSince := rfl
    destructor := rfl
    description := rfl
    args := rfl }
  have request : MessageAt dropNode { name := "drop", destructor := true } := {
    record := recordAt_of_keys [("name", 8), ("destructor", 9)] rfl (by simp) (by simp)
    name := textAt_textOf "drop" 8
    since := rfl
    deprecatedSince := rfl
    destructor := ⟨.plain, 9, rfl⟩
    description := rfl
    args := rfl }
  have description : DescriptionAt
      (.mapping "!!map" [(textOf "text" 6, textOf "It shines." 6)] 6) { text := "It shines." } := {
    record := recordAt_of_keys [("text", 6)] rfl (by simp) (by simp)
    summary := rfl
    text := textAt_textOf "It shines." 6 }
  have interface : InterfaceAt lampNode lampInterface := {
    record := recordAt_of_keys
      [("name", 3), ("version", 4), ("description", 5), ("requests", 7), ("events", 10)] rfl
      (by simp) (by simp)
    name := textAt_textOf "lamp" 3
    version := ⟨_, rfl, 4, Yaml.Node.eq_of_isSame _ _ (by decide)⟩
    frozen := rfl
    description := description
    requests := ⟨_, _, _, rfl, .cons request .nil⟩
    events := ⟨_, _, _, rfl, .cons event .nil⟩
    enumerations := rfl }
  exact {
    record := recordAt_of_keys [("name", 1), ("interfaces", 2)] rfl (by simp) (by simp)
    name := textAt_textOf "room" 1
    copyright := rfl
    description := rfl
    interfaces := ⟨_, _, _, rfl, .cons interface .nil⟩ }

theorem lamp_readings_agree :
    readMarkup "room.xml" lampMarkup = .ok (lampOutline.model "room.xml") ∧
      readMapping "room.yaml" lampMapping = .ok (lampOutline.model "room.yaml") := by
  have named : lampOutline.Named := by
    simp [Outline.Protocol.Named, Interface.Named, Message.Named, lampOutline, lampInterface]
  have dated : lampOutline.Dated := by
    simp [Outline.Protocol.Dated, Interface.Dated, lampOutline, lampInterface]
  have readable : lampOutline.Readable := by
    simp [Outline.Protocol.Readable, Interface.Readable, MessagesReadable, Message.Readable, Fits,
      UInt32.size, lampOutline, lampInterface]
  have isMarkup : readMarkup "room.xml" lampMarkup = .ok (lampOutline.model "room.xml") :=
    (FromMarkup.readMarkup_answers lampOutline_inMarkup).ok readable
  obtain ⟨same, agree⟩ := readings_agree named dated lampOutline_inMarkup lampOutline_inMapping
    "room.xml" "room.yaml"
  obtain ⟨fromMapping, isMapping⟩ := same.mp ⟨_, isMarkup⟩
  refine ⟨isMarkup, ?_⟩
  rw [isMapping, ← agree _ _ isMarkup isMapping]
  rfl

end Wayland.Document
