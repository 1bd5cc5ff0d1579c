import Mathlib.Data.List.Forall2
import Wayland.Yaml.Printer
import Wayland.Yaml.Shape
import Wayland.Proofs.Yaml.Decode

/-!
Contract: trees with their references written out, and nodes that stand for values.

Owns:
- what a tree becomes when the nodes that its references stand for are written in their places, and
  what mappings inherit through merges;
- that what a mapping has of its own keeps its place;
- which nodes stand for texts, flags, numbers, lists and mappings with texts as keys, and what the
  nodes of a mapping hold under its keys;
- that the text of a value is read back as a node that stands for the value.

Does not own: how trees are decoded.
-/

namespace Wayland.Yaml

/-- The entries that merged mappings bring in, in order: the first one of each key that is not
taken. -/
def inherited
    (taken : List String) :
    List (List (Node × Node)) → List (Node × Node)
  | [] => []
  | entries :: rest =>
      let fresh := entries.filter fun entry => !taken.contains entry.1.text
      fresh ++ inherited (fresh.map (·.1.text) ++ taken) rest

mutual

/-- A node, and the same with every reference and merge expanded in place.  Lines and styles may
change. -/
inductive Expands (anchored : List (Nat × Node)) : Node → Node → Prop where
  | scalar
      {tag text : String}
      {style otherStyle : Style}
      {line otherLine : Nat} :
      Expands anchored (.scalar tag text style line) (.scalar tag text otherStyle otherLine)
  | sequence
      {tag : String}
      {nodes others : List Node}
      {line otherLine : Nat} :
      List.Forall₂ (Expands anchored) nodes others →
      Expands anchored (.sequence tag nodes line) (.sequence tag others otherLine)
  | mapping
      {tag : String}
      {entries others : List (Node × Node)}
      {line otherLine : Nat} :
      ExpandsEntries anchored (entries.map (·.1.text)) entries others →
      Expands anchored (.mapping tag entries line) (.mapping tag others otherLine)
  | alias
      {name : String}
      {number anchor line : Nat}
      {target other : Node} :
      anchored.lookup anchor = some target →
      Expands anchored target other →
      Expands anchored (.alias name number anchor line) other

/-- The entries of a mapping, and the same with every value and merge expanded.  Keys are scalars.
What is merged gives way to the keys of the mapping itself. -/
inductive ExpandsEntries (anchored : List (Nat × Node)) :
    List String → List (Node × Node) → List (Node × Node) → Prop where
  | nil
      {own : List String} :
      ExpandsEntries anchored own [] []
  | entry
      {own : List String}
      {tag text : String}
      {style otherStyle : Style}
      {line otherLine : Nat}
      {value other : Node}
      {entries others : List (Node × Node)} :
      (Node.scalar tag text style line).isMerge = false →
      Expands anchored value other →
      ExpandsEntries anchored own entries others →
      ExpandsEntries anchored own ((.scalar tag text style line, value) :: entries)
        ((.scalar tag text otherStyle otherLine, other) :: others)
  | merge
      {own : List String}
      {key value : Node}
      {sources : List (List (Node × Node))}
      {entries others : List (Node × Node)} :
      key.isMerge = true →
      ExpandsSources anchored (Shape.mergeSources value) sources →
      ExpandsEntries anchored own entries others →
      ExpandsEntries anchored own ((key, value) :: entries) (inherited own sources ++ others)

/-- Nodes that expand to mappings, and the entries of these. -/
inductive ExpandsSources (anchored : List (Nat × Node)) :
    List Node → List (List (Node × Node)) → Prop where
  | nil : ExpandsSources anchored [] []
  | cons
      {node : Node}
      {tag : String}
      {line : Nat}
      {merged : List (Node × Node)}
      {nodes : List Node}
      {sources : List (List (Node × Node))} :
      Expands anchored node (.mapping tag merged line) →
      ExpandsSources anchored nodes sources →
      ExpandsSources anchored (node :: nodes) (merged :: sources)

end

theorem notMem_inherited
    {taken : List String}
    {sources : List (List (Node × Node))}
    {entry : Node × Node}
    (isMember : entry ∈ inherited taken sources) :
    entry.1.text ∉ taken := by
  induction sources generalizing taken with
  | nil => cases isMember
  | cons entries rest inductionHypothesis =>
      rcases List.mem_append.mp isMember with isFresh | isLater
      · simpa using (List.mem_filter.mp isFresh).2
      · exact fun isTaken => inductionHypothesis isLater (List.mem_append_right _ isTaken)

variable {anchored : List (Nat × Node)}

/-- An entry under a key of a mapping itself is the one under this key in the expansion. -/
theorem ExpandsEntries.find?_eq_some
    {own : List String}
    {entries others : List (Node × Node)}
    {key : String}
    {entry : Node × Node}
    (expands : ExpandsEntries anchored own entries others)
    (isOwn : key ∈ own)
    (notMerge : key ≠ "<<")
    (found : entries.find? (·.1.text == key) = some entry) :
    ∃ other, others.find? (·.1.text == key) = some other ∧ Expands anchored entry.2 other.2 := by
  induction entries generalizing others with
  | nil => cases found
  | cons head rest inductionHypothesis =>
      cases expands with
      | @entry _ tag text style otherStyle line otherLine value other _ others _ expandsValue
          expandsRest =>
          by_cases isKey : text = key
          · have isSame : (text == key) = true := beq_iff_eq.mpr isKey
            rw [List.find?_cons_of_pos (by exact isSame)] at found
            cases found
            exact ⟨_, List.find?_cons_of_pos (by exact isSame), expandsValue⟩
          · have isOther : ¬(text == key) = true := fun same => isKey (eq_of_beq same)
            rw [List.find?_cons_of_neg (by exact isOther)] at found
            rw [List.find?_cons_of_neg (by exact isOther)]
            exact inductionHypothesis expandsRest found
      | @merge _ mergeKey value sources _ others isMerge _ expandsRest =>
          have isText : mergeKey.text = "<<" := by
            cases mergeKey with
            | scalar tag text => exact eq_of_beq (Bool.and_eq_true_iff.mp isMerge).1
            | _ => cases isMerge
          have isOther : ¬(mergeKey.text == key) = true :=
            fun same => notMerge (isText.symm.trans (eq_of_beq same)).symm
          have noneInherited : (inherited own sources).find? (·.1.text == key) = none := by
            rw [List.find?_eq_none]
            intro inheritedEntry isMember isKey
            exact notMem_inherited isMember (eq_of_beq isKey ▸ isOwn)
          rw [List.find?_cons_of_neg (by exact isOther)] at found
          rw [List.find?_append, noneInherited, Option.none_or]
          exact inductionHypothesis expandsRest found

mutual

/-- A node stands for a value. -/
inductive Carries : Node → Tree → Prop where
  | text
      {tag written text : String}
      {style : Style}
      {line : Nat} :
      scalarValue tag written = pure (.text text) →
      Carries (.scalar tag written style line) (.text text)
  | flag
      {value : Bool}
      {style : Style}
      {line : Nat} :
      Carries (.scalar "!!bool" (toString value) style line) (.bool value)
  | number
      {value : Int}
      {number line : Nat} :
      value = number →
      Carries (.scalar (scalarTag "" (toString number) .plain) (toString number) .plain line)
        (.int value)
  | list
      {tag : String}
      {nodes : List Node}
      {items : List Tree}
      {line : Nat} :
      CarryAll nodes items →
      Carries (.sequence tag nodes line) (.list items)
  | mapping
      {nodes : List (Node × Node)}
      {entries : List (String × Tree)}
      {line : Nat} :
      CarryEntries nodes entries →
      Carries (.mapping "!!map" nodes line) (.mapping entries)

/-- Nodes stand for the items of a list, in order. -/
inductive CarryAll : List Node → List Tree → Prop where
  | nil : CarryAll [] []
  | cons
      {node : Node}
      {item : Tree}
      {nodes : List Node}
      {items : List Tree} :
      Carries node item →
      CarryAll nodes items →
      CarryAll (node :: nodes) (item :: items)

/-- Nodes stand for the entries of a mapping, in order. -/
inductive CarryEntries : List (Node × Node) → List (String × Tree) → Prop where
  | nil : CarryEntries [] []
  | cons
      {key : String}
      {style : Style}
      {line : Nat}
      {node : Node}
      {value : Tree}
      {nodes : List (Node × Node)}
      {entries : List (String × Tree)} :
      Carries node value →
      CarryEntries nodes entries →
      CarryEntries ((.scalar "!!str" key style line, node) :: nodes) ((key, value) :: entries)

end

/-- The text of a value is read back as a node that stands for the value. -/
def ReadsBack
    (tree : Tree) : Prop :=
  ∃ document, Document.ofBytes (Text.Bytes.ofText tree.render) = .ok (some document) ∧
    Carries document.root tree

theorem CarryAll.forall₂
    {nodes : List Node}
    {items : List Tree}
    (carry : CarryAll nodes items) :
    List.Forall₂ Carries nodes items := by
  induction items generalizing nodes with
  | nil =>
      cases carry
      exact .nil
  | cons item items inductionHypothesis =>
      cases carry with
      | cons first rest => exact .cons first (inductionHypothesis rest)

namespace CarryEntries

variable {nodes : List (Node × Node)} {entries : List (String × Tree)}

theorem keys
    (carry : CarryEntries nodes entries) :
    nodes.map (·.1.text) = entries.map (·.1) := by
  induction entries generalizing nodes with
  | nil =>
      cases carry
      rfl
  | cons entry entries inductionHypothesis =>
      cases carry with
      | cons _ rest =>
          rw [List.map_cons, List.map_cons, inductionHypothesis rest]
          rfl

theorem isRecord
    (carry : CarryEntries nodes entries)
    (different : (entries.map (·.1)).Nodup) :
    Shape.IsRecord nodes where
  different := carry.keys ▸ different
  keys := by
    clear different
    induction entries generalizing nodes with
    | nil =>
        cases carry
        simp
    | cons entry entries inductionHypothesis =>
        cases carry with
        | @cons key style line node value nodes entries _ rest =>
            exact List.forall_mem_cons.mpr ⟨⟨key, style, line, rfl⟩, inductionHypothesis rest⟩

/-- Under every key, the nodes hold what the entries do. -/
theorem lookup
    (carry : CarryEntries nodes entries)
    (key : String) :
    Option.Rel Carries ((nodes.find? (·.1.text == key)).map (·.2)) (entries.lookup key) := by
  induction entries generalizing nodes with
  | nil =>
      cases carry
      exact .none
  | cons entry entries inductionHypothesis =>
      cases carry with
      | @cons name style line node value nodes entries carries rest =>
          have isName : (Node.scalar "!!str" name style line).text = name := rfl
          by_cases isKey : name = key
          · subst isKey
            simpa [isName] using Option.Rel.some carries
          · have notKey : (key == name) = false := beq_eq_false_iff_ne.mpr (Ne.symm isKey)
            rw [List.lookup_cons, notKey, List.find?_cons_of_neg (by simpa [isName] using isKey)]
            exact inductionHypothesis rest

end CarryEntries

end Wayland.Yaml
