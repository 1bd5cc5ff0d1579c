import Wayland.Proofs.Document.GrammarReading

/-!
Contract: documents in markup are read exactly as the grammar says, up to the end of their root.

Owns:
- that a well-formed document is accepted if and only if its first element is a protocol with nothing
  but white space before it, and that it then gives the model that this element stands for;
- that nothing behind the end of this element counts.

Does not own: the grammar of elements.
-/

namespace Wayland.Document

open Wayland.Markup (Attribute Failure Node Tree)
open Wayland.Model (Protocol)
open Wayland.Text (isBlank)

namespace Grammar

variable {element : Element} {nodes : List Node}

theorem not_standsFirst_nil :
    ¬StandsFirst element [] := by
  rintro ⟨before, after, split, -⟩
  simp at split

/-- An element stands first behind a text if the text is blank. -/
theorem standsFirst_text_iff
    (text : String)
    (line : Nat) :
    StandsFirst element (.text text line :: nodes) ↔
      (∀ char ∈ text.toList, isBlank char = true) ∧ StandsFirst element nodes := by
  constructor
  · rintro ⟨before, after, split, blank⟩
    cases before with
    | nil => cases split
    | cons first before =>
        obtain ⟨isFirst, rest⟩ := List.cons.inj split
        obtain ⟨isBlankText, restBlank⟩ := List.forall_mem_cons.mp blank
        obtain ⟨_, _, isText, chars⟩ := isBlankText
        rw [← isFirst] at isText
        cases isText
        exact ⟨chars, before, after, rest, restBlank⟩
  · rintro ⟨chars, before, after, rfl, blank⟩
    refine ⟨.text text line :: before, after, rfl, ?_⟩
    exact List.forall_mem_cons.mpr ⟨⟨text, line, rfl, chars⟩, blank⟩

/-- Only the first element stands first. -/
theorem standsFirst_element_iff
    (tag : String)
    (attributes : List Attribute)
    (line : Nat)
    (content : List Node)
    (cut : Option Failure) :
    StandsFirst element (.element tag attributes line content cut :: nodes) ↔
      element = ⟨tag, attributes, line, content, cut⟩ := by
  constructor
  · rintro ⟨before, after, split, blank⟩
    cases before with
    | nil =>
        cases split
        rfl
    | cons first before =>
        obtain ⟨isFirst, -⟩ := List.cons.inj split
        obtain ⟨_, _, isText, -⟩ := blank first (by simp)
        rw [← isFirst] at isText
        cases isText
  · rintro rfl
    exact ⟨[], nodes, rfl, by simp⟩

end Grammar

open Grammar

theorem root_ok_iff
    {document : String}
    {failure : Option Failure}
    {nodes : List Node}
    (whole : ∀ node ∈ nodes, node.IsWhole)
    (protocol : Protocol) :
    FromMarkup.root document failure nodes = .ok protocol ↔
      ∃ element, StandsFirst element nodes ∧ IsProtocol element ∧
        protocol = protocolOf document element := by
  induction nodes with
  | nil =>
      have refused : FromMarkup.root document failure [] ≠ .ok protocol := by
        cases failure <;> simp [FromMarkup.root, FromMarkup.fail]
      refine iff_of_false refused ?_
      rintro ⟨element, first, -⟩
      exact not_standsFirst_nil first
  | cons node rest inductionHypothesis =>
      obtain ⟨wholeNode, wholeRest⟩ := List.forall_mem_cons.mp whole
      cases wholeNode with
      | text content line =>
          simp only [standsFirst_text_iff]
          rw [FromMarkup.root]
          split
          · rename_i isEmpty
            have blank := (FromMarkup.isEmpty_trim_iff content).mp isEmpty
            rw [inductionHypothesis wholeRest]
            exact exists_congr fun element => and_congr_left fun _ => (and_iff_right blank).symm
          · rename_i notEmpty
            refine iff_of_false (by simp [FromMarkup.fail]) ?_
            rintro ⟨element, ⟨blank, -⟩, -⟩
            exact notEmpty ((FromMarkup.isEmpty_trim_iff content).mpr blank)
      | element tag attributes line inner =>
          simp only [standsFirst_element_iff, exists_eq_left]
          rw [FromMarkup.root]
          split
          · rename_i isTag
            have answers := @FromMarkup.isProtocol_answers document
              ⟨tag, attributes, line, _, none⟩ ⟨rfl, inner⟩ (beq_iff_eq.mp isTag)
            exact answers.eq_ok_iff protocol
          · rename_i notTag
            refine iff_of_false (by simp [FromMarkup.fail]) ?_
            rintro ⟨isProtocol, -⟩
            exact notTag (beq_iff_eq.mpr isProtocol.tag)

/-- A well-formed document is read exactly if its first element is a protocol by the grammar with
nothing but white space before it, and it gives the model that this element stands for. -/
theorem readMarkup_ok_iff_grammar
    (document : String)
    {bytes : Text.Bytes}
    (wellFormed : (Tree.ofBytes bytes).failure = none)
    (protocol : Protocol) :
    readMarkup document bytes = .ok protocol ↔
      ∃ root, StandsFirst root (Tree.ofBytes bytes).nodes ∧ IsProtocol root ∧
        protocol = protocolOf document root :=
  root_ok_iff (Markup.Tree.isWhole_ofBytes wellFormed) protocol

/-- A document with a comment, a qualifier, and a label that two attributes of an element share. -/
def kettleDocument : Text.Bytes :=
  ("<!-- tea --><protocol name=\"kitchen\"><interface name=\"kettle\" version=\"2\" a:version=\"3\">" ++
    "<description summary=\" hot \"/><event name=\"boiling\"/><request name=\"boil\" since=\"2\"/>" ++
    "</interface></protocol>").toUTF8.toList

def kettleProtocol : Protocol :=
  { name := "kitchen"
    document := "kitchen.xml"
    interfaces := [{
      name := "kettle"
      version := 3
      description := { summary := "hot" }
      requests := [{ name := "boil", since := 2 }]
      events := [{ name := "boiling", since := 1 }] }] }

theorem kettle_stands_for_model :
    (Tree.ofBytes kettleDocument).failure = none ∧
      ∃ root, StandsFirst root (Tree.ofBytes kettleDocument).nodes ∧ IsProtocol root ∧
        kettleProtocol = protocolOf "kitchen.xml" root := by
  obtain ⟨wellFormed, read⟩ : (Tree.ofBytes kettleDocument).failure = none ∧
      readMarkup "kitchen.xml" kettleDocument = .ok kettleProtocol := by
    decide +kernel
  exact ⟨wellFormed, (readMarkup_ok_iff_grammar "kitchen.xml" wellFormed kettleProtocol).mp read⟩

/-! ## The end of the root -/

namespace FromMarkup

variable {document : String}

/-- The content of an element is read only if its end tag is there. -/
theorem cut_eq_none_of_contentFrom
    {σ : Type}
    {path : Path}
    {child : σ → Element → Except Error σ}
    {cut : Option Failure}
    {state : σ}
    {texts : List String}
    {nodes : List Node}
    {result : σ × String}
    (read : contentFrom document path child cut state texts nodes = .ok result) :
    cut = none := by
  induction nodes generalizing state texts with
  | nil =>
      unfold contentFrom at read
      split at read
      · cases read
      · rfl
  | cons node rest inductionHypothesis =>
      cases node with
      | text content line =>
          rw [contentFrom] at read
          exact inductionHypothesis read
      | element tag attributes line content inner =>
          rw [contentFrom] at read
          split at read
          · cases read
          · exact inductionHypothesis read

theorem cut_eq_none_of_protocol
    {element : Element}
    {protocol : Protocol}
    (read : FromMarkup.protocol document element = .ok protocol) :
    element.cut = none := by
  simp only [FromMarkup.protocol, children, content, Wire.bind_eq_ok_iff] at read
  obtain ⟨_, -, _, ⟨_, readContent, -⟩, -⟩ := read
  exact cut_eq_none_of_contentFrom readContent

end FromMarkup

variable {document : String}

/-- What is read stands first and is closed. -/
theorem exists_root
    {failure : Option Failure}
    {nodes : List Node}
    {protocol : Protocol}
    (read : FromMarkup.root document failure nodes = .ok protocol) :
    ∃ element, StandsFirst element nodes ∧ element.cut = none := by
  induction nodes with
  | nil =>
      unfold FromMarkup.root at read
      split at read <;> cases read
  | cons node rest inductionHypothesis =>
      cases node with
      | text content line =>
          rw [FromMarkup.root] at read
          split at read
          · rename_i isEmpty
            obtain ⟨element, first, closed⟩ := inductionHypothesis read
            have blank := (FromMarkup.isEmpty_trim_iff content).mp isEmpty
            exact ⟨element, (standsFirst_text_iff content line).mpr ⟨blank, first⟩, closed⟩
          · cases read
      | element tag attributes line content cut =>
          rw [FromMarkup.root] at read
          split at read
          · exact ⟨_, (standsFirst_element_iff tag attributes line content cut).mpr rfl,
              FromMarkup.cut_eq_none_of_protocol read⟩
          · cases read

/-- Nothing behind the first element is looked at. -/
theorem root_congr
    (failure other : Option Failure)
    (before after more : List Node)
    (element : Element) :
    FromMarkup.root document failure (before ++ element.node :: after) =
      FromMarkup.root document other (before ++ element.node :: more) := by
  induction before with
  | nil => rfl
  | cons node before inductionHypothesis =>
      cases node with
      | text content line =>
          rw [List.cons_append, List.cons_append, FromMarkup.root, FromMarkup.root,
            inductionHypothesis]
      | element tag attributes line content cut => rfl

/-- A document that ends with its root, before which there is only white space. -/
def EndsWith
    (root : Element)
    (tree : Tree) : Prop :=
  tree.failure = none ∧
    ∃ before, tree.nodes = before ++ [root.node] ∧ ∀ node ∈ before, IsBlankText node

/-- A whole document that is nothing but its root and white space around it. -/
def StandsAlone
    (root : Element)
    (tree : Tree) : Prop :=
  tree.failure = none ∧
    ∃ before after, tree.nodes = before ++ root.node :: after ∧
      ∀ node ∈ before ++ after, IsBlankText node

/-- The root is the only node that is no white space, so it tells what stands before it from what
stands behind it. -/
theorem after_eq_of_blank
    {root : Element}
    {before before' after after' : List Node}
    (same : before ++ root.node :: after = before' ++ root.node :: after')
    (blank : ∀ node ∈ before, IsBlankText node)
    (blank' : ∀ node ∈ before', IsBlankText node) :
    after = after' := by
  have notBlank : ¬IsBlankText root.node := by
    rintro ⟨text, line, impossible, -⟩
    cases impossible
  induction before generalizing before' with
  | nil =>
      cases before' with
      | nil => exact (List.cons.inj same).2
      | cons node before' =>
          have isRoot : root.node = node := (List.cons.inj same).1
          exact absurd (isRoot ▸ blank' node (by simp)) notBlank
  | cons node before inductionHypothesis =>
      cases before' with
      | nil =>
          have isRoot : node = root.node := (List.cons.inj same).1
          exact absurd (isRoot ▸ blank node (by simp)) notBlank
      | cons node' before' =>
          exact inductionHypothesis (List.cons.inj same).2
            (fun node member => blank node (by simp [member]))
            (fun node member => blank' node (by simp [member]))

/-- A document whose root has ended stands alone if what follows is well-formed white space. -/
theorem EndsWith.standsAlone_iff
    {root : Element}
    {front whole : Tree}
    {more : List Node}
    (ends : EndsWith root front)
    (isWhole : whole.nodes = front.nodes ++ more) :
    StandsAlone root whole ↔ whole.failure = none ∧ ∀ node ∈ more, IsBlankText node := by
  obtain ⟨-, before, isFront, blank⟩ := ends
  rw [isFront, List.append_assoc, List.singleton_append] at isWhole
  refine and_congr_right fun _ => ?_
  constructor
  · rintro ⟨before', after', isSplit, allBlank⟩
    obtain ⟨blank', blankAfter⟩ := List.forall_mem_append.mp allBlank
    have sameAfter := after_eq_of_blank (isWhole.symm.trans isSplit) blank blank'
    rwa [sameAfter]
  · exact fun blankAfter => ⟨before, more, isWhole, List.forall_mem_append.mpr ⟨blank, blankAfter⟩⟩

/-- A document that is read starts with one that ends with its root, and the same is read whatever
follows this.  It stands alone only if white space follows, and comments and instructions, which leave
no nodes. -/
theorem readMarkup_ends_at_root
    {bytes : Text.Bytes}
    {protocol : Protocol}
    (read : readMarkup document bytes = .ok protocol) :
    ∃ root front back, bytes = front ++ back ∧ EndsWith root (Tree.ofBytes front) ∧
      ∀ other, readMarkup document (front ++ other) = .ok protocol ∧
        ∃ more, (Tree.ofBytes (front ++ other)).nodes = (Tree.ofBytes front).nodes ++ more ∧
          (StandsAlone root (Tree.ofBytes (front ++ other)) ↔
            (Tree.ofBytes (front ++ other)).failure = none ∧ ∀ node ∈ more, IsBlankText node) := by
  obtain ⟨root, ⟨before, after, isTree, blank⟩, closed⟩ := exists_root read
  have isClosed : root.node =
      .element root.tag root.attributes root.line root.content none := by
    rw [Element.node, closed]
  rw [isClosed] at isTree
  obtain ⟨front, back, isBytes, same, isFront, noFailure⟩ := Tree.up_to_closed_element isTree
  rw [← isClosed] at isTree isFront
  have ends : EndsWith root (Tree.ofBytes front) := ⟨noFailure, before, isFront, blank⟩
  refine ⟨root, front, back, isBytes, ends, fun other => ?_⟩
  obtain ⟨more, isOther⟩ := same other
  rw [← isClosed] at isOther
  have isMore : (Tree.ofBytes (front ++ other)).nodes = (Tree.ofBytes front).nodes ++ more := by
    rw [isOther, isFront, List.append_assoc]
    rfl
  refine ⟨?_, more, isMore, ends.standsAlone_iff isMore⟩
  rw [← read, readMarkup, readMarkup]
  simp only [isOther, isTree]
  exact root_congr _ _ before more after root

def strayDocument : Text.Bytes :=
  ("<protocol name=\"a\"><interface name=\"b\" version=\"1\"/></protocol>" ++
    "stray").toUTF8.toList

def strayProtocol : Protocol :=
  { name := "a"
    document := "a.xml"
    interfaces := [{ name := "b", version := 1 }] }

/-- Text behind the root is not refused. -/
theorem stray_text_is_accepted :
    ¬∀ (document : String) (bytes : Text.Bytes) (protocol : Protocol),
      readMarkup document bytes = .ok protocol → ∃ root, StandsAlone root (Tree.ofBytes bytes) := by
  intro strict
  have read : readMarkup "a.xml" strayDocument = .ok strayProtocol := by decide +kernel
  obtain ⟨root, -, before, after, isTree, blank⟩ := strict _ _ _ read
  let isStray : Node → Bool
    | .text content _ => content.toList.any (!isBlank ·)
    | .element .. => false
  have someStray : (Tree.ofBytes strayDocument).nodes.any isStray = true := by decide +kernel
  obtain ⟨node, member, stray⟩ := List.any_eq_true.mp someStray
  rw [isTree, List.mem_append, List.mem_cons] at member
  have notBlank : ¬IsBlankText node := by
    rintro ⟨text, line, rfl, isBlankText⟩
    obtain ⟨char, inText, notBlank⟩ := List.any_eq_true.mp stray
    simp [isBlankText char inText] at notBlank
  rcases member with isBefore | rfl | isAfter
  · exact notBlank (blank node (List.mem_append_left _ isBefore))
  · exact absurd stray (by simp [isStray, Element.node])
  · exact notBlank (blank node (List.mem_append_right _ isAfter))

/-- What is read of a document with text behind the root is read with anything else there. -/
theorem stray_document_ends_at_root :
    readMarkup "a.xml" strayDocument = .ok strayProtocol ∧
      ∃ root front back, strayDocument = front ++ back ∧ EndsWith root (Tree.ofBytes front) ∧
        ∀ other, readMarkup "a.xml" (front ++ other) = .ok strayProtocol := by
  have read : readMarkup "a.xml" strayDocument = .ok strayProtocol := by decide +kernel
  obtain ⟨root, front, back, isBytes, ends, same⟩ := readMarkup_ends_at_root read
  exact ⟨read, root, front, back, isBytes, ends, fun other => (same other).1⟩

end Wayland.Document
