import Wayland.Proofs.Binding.Declared

/-!
Contract: what the lines of a source file declare.

Owns:
- the names of a package, the methods of its types and the members of its interface types, as they
  are read from the lines of a file;
- the packages that a file imports;
- the laws by which the items of a file are put together from those of its parts.

Does not own: which files are written.
-/

namespace Wayland.Binding.Scope

open Wayland.Text

/-! ## Reading -/

/-- Something that a file declares: a name in its package, a method of a type, or a member of an
interface type. -/
inductive Item where
  | name (text : String)
  | method (receiver text : String)
  | member (interface text : String)
deriving DecidableEq, Repr

def isNameChar
    (char : Char) :
    Bool :=
  char == '_' || isLetter char || isDecimalDigit char

def leadingName
    (chars : List Char) :
    String :=
  String.ofList (chars.takeWhile isNameChar)

/-- What follows a text at the start of a line. -/
def behind?
    (lead line : String) :
    Option (List Char) :=
  line.toList.dropPrefix? lead.toList

/-- The method whose receiver and name follow: a variable, the type behind it, with or without a
star, and the name behind the bracket. -/
def methodOf
    (chars : List Char) :
    Item :=
  let receiver := ((chars.dropWhile isNameChar).drop 1).dropWhile (· == '*')
  .method (leadingName receiver) (leadingName ((receiver.dropWhile isNameChar).drop 2))

def item?
    (line : String) :
    Option Item :=
  match behind? "func (" line with
  | some chars => some (methodOf chars)
  | none =>
      (["var ", "type ", "func "].findSome? (behind? · line)).map fun chars =>
        .name (leadingName chars)

/-- The identifier that an indented line starts with. -/
def inner?
    (line : String) :
    Option String :=
  (behind? "\t" line).bind fun chars =>
    let name := leadingName chars
    if name.isEmpty then none else some name

/-- Where a line stands: at the left margin, or inside a block with a closing line, whose lines
declare an item each. -/
inductive Place where
  | margin
  | block (closing : String) (item : String → Item)

/-- What lines declare, when the first of them stands at a place. -/
def itemsFrom : Place → Lines → List Item
  | _, [] => []
  | .margin, line :: rest =>
      if line = "const (" then itemsFrom (.block ")" .name) rest
      else
        match between? "type " " interface \x7b" line with
        | some name => .name name :: itemsFrom (.block "\x7d" (.member name)) rest
        | none => (item? line).toList ++ itemsFrom .margin rest
  | .block closing item, line :: rest =>
      if line = closing then itemsFrom .margin rest
      else ((inner? line).map item).toList ++ itemsFrom (.block closing item) rest

/-- What the lines of a file declare, in order. -/
def items
    (lines : Lines) :
    List Item :=
  itemsFrom .margin lines

def lastComponent
    (path : String) :
    String :=
  String.ofList (path.toList.reverse.takeWhile (· ≠ '/')).reverse

def imports
    (lines : Lines) :
    List String :=
  (((lines.dropWhile (· ≠ "import (")).takeWhile (· ≠ ")")).filterMap (between? "\t\"" "\"")).map
    lastComponent

/-! ## Identifiers -/

theorem isIdentifier_chars
    {name : String}
    (isName : isIdentifier name = true) :
    (∀ char ∈ name.toList, isNameChar char = true) ∧ name ≠ "" := by
  obtain ⟨first, rest, chars, isFirst, areRest, -⟩ := isIdentifier_iff.mp isName
  constructor
  · rw [chars, List.forall_mem_cons]
    refine ⟨by simp [isNameChar, isFirst], fun char isMember => ?_⟩
    simpa [isNameChar] using areRest char isMember
  · rintro rfl
    simp at chars

/-- Characters that an identifier does not run on into. -/
def EndsName
    (chars : List Char) : Prop :=
  ∀ char ∈ chars.head?, isNameChar char = false

section Leading

variable {name : String} {rest : List Char}

theorem takeWhile_name
    (isName : isIdentifier name = true)
    (ends : EndsName rest) :
    (name.toList ++ rest).takeWhile isNameChar = name.toList ∧
      (name.toList ++ rest).dropWhile isNameChar = rest := by
  have areChars := (isIdentifier_chars isName).1
  rw [List.takeWhile_append_of_pos areChars, List.dropWhile_append_of_pos areChars]
  cases rest with
  | nil => simp
  | cons next rest =>
      have stops : isNameChar next = false := ends next rfl
      simp [stops]

theorem leadingName_name
    (isName : isIdentifier name = true)
    (ends : EndsName rest) :
    leadingName (name.toList ++ rest) = name := by
  rw [leadingName, (takeWhile_name isName ends).1, String.ofList_toList]

end Leading

theorem behind?_lead
    (lead rest : String) :
    behind? lead (lead ++ rest) = some rest.toList := by
  rw [behind?, String.toList_append]
  exact List.dropPrefix?_append_of_beq _ BEq.rfl

theorem behind?_eq_none
    {lead line : String}
    (differs : line.toList.head? ≠ lead.toList.head?)
    (notEmpty : lead ≠ "") :
    behind? lead line = none := by
  rw [behind?]
  cases found : line.toList.dropPrefix? lead.toList with
  | none => rfl
  | some rest =>
      obtain ⟨start, chars, same⟩ := List.dropPrefix?_eq_some_iff.mp found
      rw [eq_of_beq same] at chars
      cases leadChars : lead.toList with
      | nil => exact absurd (String.toList_inj.mp leadChars) notEmpty
      | cons first others =>
          rw [chars, leadChars] at differs
          exact absurd rfl differs

/-! ## Parts of a file -/

/-- Lines declare items, whatever follows them at the left margin. -/
def Declares
    (lines : Lines)
    (found : List Item) : Prop :=
  ∀ rest, items (lines ++ rest) = found ++ items rest

theorem Declares.items_eq
    {lines : Lines}
    {found : List Item}
    (declares : Declares lines found) :
    items lines = found := by
  have alone := declares []
  have none : items [] = [] := by simp [items, itemsFrom]
  simpa [none] using alone

theorem declares_nil :
    Declares [] [] :=
  fun _ => rfl

theorem Declares.append
    {left right : Lines}
    {first second : List Item}
    (one : Declares left first)
    (other : Declares right second) :
    Declares (left ++ right) (first ++ second) := by
  intro rest
  rw [List.append_assoc, one, other, List.append_assoc]

theorem declares_flatMap
    {α : Type}
    {parts : List α}
    {spelled : α → Lines}
    {found : α → List Item}
    (declares : ∀ part ∈ parts, Declares (spelled part) (found part)) :
    Declares (parts.flatMap spelled) (parts.flatMap found) := by
  induction parts with
  | nil => exact declares_nil
  | cons part parts inductionHypothesis =>
      rw [List.forall_mem_cons] at declares
      exact declares.1.append (inductionHypothesis declares.2)

/-- A line at the left margin that opens nothing. -/
theorem declares_line
    {line : String}
    (noConstants : line ≠ "const (")
    (noInterface : between? "type " " interface \x7b" line = none) :
    Declares [line] (item? line).toList := by
  intro rest
  simp [items, itemsFrom, noConstants, noInterface]

theorem between?_eq_none
    {before after line : String}
    (apart : behind? before line = none) :
    between? before after line = none := by
  rw [behind?] at apart
  rw [between?, apart]
  rfl

/-- A line that differs from the end of a text in one character before the same characters. -/
theorem between?_eq_none_of_end
    {before after line : String}
    (lead otherLead rest : List Char)
    {mark otherMark : Char}
    (isLine : line.toList = lead ++ mark :: rest)
    (isAfter : after.toList = otherLead ++ otherMark :: rest)
    (different : mark ≠ otherMark) :
    between? before after line = none := by
  cases found : between? before after line with
  | none => rfl
  | some inner =>
      unfold between? at found
      obtain ⟨chars, isInner, -⟩ := Option.map_eq_some_iff.mp found
      obtain ⟨behind, isBehind, isInner⟩ := Option.bind_eq_some_iff.mp isInner
      obtain ⟨start, lineChars, -⟩ := List.dropPrefix?_eq_some_iff.mp isBehind
      obtain ⟨tail, behindChars, same⟩ := List.dropSuffix?_eq_some_iff.mp isInner
      have isEnd : lead ++ mark :: rest = (start ++ chars ++ otherLead) ++ otherMark :: rest := by
        rw [← isLine, lineChars, behindChars, eq_of_beq same, isAfter]
        simp
      have ends := (List.append_inj' isEnd rfl).2
      exact absurd (List.cons.inj ends).1 different

/-- The first characters of the lines at the left margin that declare something. -/
def openers : List Char := ['v', 't', 'f', 'c']

/-- Lines that start like no declaration. -/
def Still
    (lines : Lines) : Prop :=
  ∀ line ∈ lines, ∀ char ∈ line.toList.head?, char ∉ openers

theorem still_nil :
    Still [] :=
  fun _ isMember => absurd isMember List.not_mem_nil

theorem Still.append
    {left right : Lines}
    (one : Still left)
    (other : Still right) :
    Still (left ++ right) :=
  List.forall_mem_append.mpr ⟨one, other⟩

theorem behind?_of_still
    {line lead : String}
    {char : Char}
    (still : ∀ char ∈ line.toList.head?, char ∉ openers)
    (isHead : lead.toList.head? = some char)
    (isOpener : char ∈ openers) :
    behind? lead line = none := by
  apply behind?_eq_none
  · intro same
    rw [← same] at isHead
    exact still char isHead isOpener
  · rintro rfl
    cases isHead

theorem Still.declares
    {lines : Lines}
    (still : Still lines) :
    Declares lines [] := by
  induction lines with
  | nil => exact declares_nil
  | cons line lines inductionHypothesis =>
      obtain ⟨isStill, areStill⟩ := List.forall_mem_cons.mp still
      have noVariable : behind? "var " line = none := behind?_of_still isStill rfl (by decide)
      have noType : behind? "type " line = none := behind?_of_still isStill rfl (by decide)
      have noFunction : behind? "func " line = none := behind?_of_still isStill rfl (by decide)
      have noMethod : behind? "func (" line = none := behind?_of_still isStill rfl (by decide)
      have noConstants : line ≠ "const (" := by
        rintro rfl
        exact isStill 'c' (by decide) (by decide)
      have nothing : item? line = none := by
        simp [item?, noMethod, noVariable, noType, noFunction]
      have alone := declares_line noConstants (between?_eq_none noType)
      rw [nothing] at alone
      exact alone.append (inductionHypothesis areStill)

theorem Still.before
    {lines rest : Lines}
    {found : List Item}
    (still : Still lines)
    (declares : Declares rest found) :
    Declares (lines ++ rest) found :=
  still.declares.append declares

theorem Declares.andStill
    {lines rest : Lines}
    {found : List Item}
    (declares : Declares lines found)
    (still : Still rest) :
    Declares (lines ++ rest) found := by
  have both := declares.append still.declares
  rwa [List.append_nil] at both

theorem Declares.cons
    {line : String}
    {rest : Lines}
    {item : Item}
    {found : List Item}
    (one : Declares [line] [item])
    (declares : Declares rest found) :
    Declares (line :: rest) (item :: found) :=
  one.append declares

theorem still_empty :
    Still [""] :=
  List.forall_mem_singleton.mpr fun _ isHead => nomatch isHead

theorem still_of_head
    {line : String}
    (char : Char)
    (isHead : line.toList.head? = some char)
    (harmless : char ∉ openers) :
    Still [line] := by
  refine List.forall_mem_singleton.mpr fun other isOther => ?_
  rw [isHead] at isOther
  cases isOther
  exact harmless

/-- A line that is written out, in front of others. -/
theorem Still.literal
    {chars : List Char}
    {rest : Lines}
    (harmless : chars.head?.all (fun char => decide (char ∉ openers)) = true)
    (still : Still rest) :
    Still (String.ofList chars :: rest) := by
  refine List.forall_mem_cons.mpr ⟨fun char isHead => ?_, still⟩
  rw [String.toList_ofList, Option.mem_def] at isHead
  rw [isHead] at harmless
  exact of_decide_eq_true harmless

theorem still_closing :
    Still ["\x7d"] :=
  still_of_head '\x7d' (by decide) (by decide)

theorem still_tab
    {line : String}
    (isHead : line.toList.head? = some '\t') :
    Still [line] :=
  still_of_head '\t' isHead (by decide)

theorem still_documentation
    (texts : List String) :
    Still (documentation texts) := by
  intro line isMember
  obtain ⟨text, rfl⟩ := exists_of_mem_documentation isMember
  rw [commentLine_starts]
  rintro _ ⟨⟩
  decide

/-- Lines that are moved in are empty or start with a tab. -/
theorem mem_indent
    {lines : Lines}
    {line : String}
    (isMember : line ∈ indent 1 lines) :
    line = "" ∨ line.toList.head? = some '\t' := by
  obtain ⟨plain, -, rfl⟩ := List.mem_map.mp isMember
  split
  · rename_i isEmpty
    exact .inl (String.isEmpty_iff.mp isEmpty)
  · exact .inr (by simp)

theorem still_indent
    (lines : Lines) :
    Still (indent 1 lines) := by
  intro line isMember char isHead
  rcases mem_indent isMember with rfl | isTab
  · cases isHead
  · rw [isTab] at isHead
    cases isHead
    decide

/-! ## Blocks -/

theorem itemsFrom_block
    {closing : String}
    {inside : Lines}
    (isOpen : closing ∉ inside)
    (item : String → Item)
    (rest : Lines) :
    itemsFrom (.block closing item) (inside ++ [closing] ++ rest) =
      (inside.filterMap inner?).map item ++ items rest := by
  induction inside with
  | nil => simp [itemsFrom, items]
  | cons line inside inductionHypothesis =>
      rw [List.mem_cons, not_or] at isOpen
      obtain ⟨differs, others⟩ := isOpen
      rw [List.cons_append, List.cons_append, itemsFrom, if_neg (Ne.symm differs),
        inductionHypothesis others]
      cases found : inner? line <;> simp [found]

/-- The identifiers that lines start with when they are moved in. -/
def innerNames
    (lines : Lines) :
    List String :=
  (indent 1 lines).filterMap inner?

theorem declares_constantBlock
    (lines : Lines) :
    Declares (constantBlock lines) ((innerNames lines).map Item.name) := by
  intro rest
  have isOpen : ")" ∉ indent 1 lines := by
    intro isMember
    rcases mem_indent isMember with isEmpty | isTab
    · exact absurd isEmpty (by decide)
    · exact absurd isTab (by decide)
  unfold constantBlock
  split
  · rename_i noLines
    rw [List.isEmpty_iff.mp noLines]
    exact declares_line (by decide) (by decide) rest
  · rw [List.append_assoc, List.append_assoc, List.singleton_append, items, itemsFrom, if_pos rfl,
      ← List.append_assoc, itemsFrom_block isOpen]
    rfl

theorem declares_interface
    (name : String)
    (lines : Lines) :
    Declares (["type " ++ name ++ " interface \x7b"] ++ indent 1 lines ++ ["\x7d"])
      (.name name :: (innerNames lines).map (Item.member name)) := by
  intro rest
  have notConstants : "type " ++ name ++ " interface \x7b" ≠ "const (" := by
    rw [← String.toList_inj.ne]
    simp
  have opens :
      items (("type " ++ name ++ " interface \x7b") :: (indent 1 lines ++ ["\x7d"] ++ rest)) =
        .name name :: itemsFrom (.block "\x7d" (.member name)) (indent 1 lines ++ ["\x7d"] ++ rest) := by
    rw [items, itemsFrom, if_neg notConstants, between?_ends]
  rw [List.append_assoc, List.append_assoc, List.singleton_append, ← List.append_assoc, opens,
    itemsFrom_block (notMem_indent lines)]
  rfl

/-! ## Lines that declare -/

section Lines

variable {name receiver tail : String}

/-- An identifier starts with a character of identifiers. -/
theorem exists_cons_of_name
    (isName : isIdentifier name = true) :
    ∃ first rest, name.toList = first :: rest ∧ isNameChar first = true := by
  obtain ⟨areChars, notEmpty⟩ := isIdentifier_chars isName
  cases chars : name.toList with
  | nil => exact absurd (String.toList_inj.mp chars) notEmpty
  | cons first rest => exact ⟨first, rest, rfl, areChars first (by simp [chars])⟩

/-- A declaration at the left margin: the word for its kind, the name, and the rest of the line. -/
theorem declares_name
    {lead : String}
    (isLead : lead ∈ ["var ", "type ", "func "])
    (isName : isIdentifier name = true)
    (ends : EndsName tail.toList)
    (noInterface : between? "type " " interface \x7b" (lead ++ (name ++ tail)) = none) :
    Declares [lead ++ (name ++ tail)] [.name name] := by
  obtain ⟨first, rest, chars, isFirst⟩ := exists_cons_of_name isName
  have noMethod : behind? "func (" (lead ++ (name ++ tail)) = none := by
    simp only [List.mem_cons, List.not_mem_nil, or_false] at isLead
    rcases isLead with rfl | rfl | rfl
    · exact behind?_eq_none (by simp) (by decide)
    · exact behind?_eq_none (by simp) (by decide)
    · cases found : behind? "func (" ("func " ++ (name ++ tail)) with
      | none => rfl
      | some rest =>
          -- The name would have to start with the bracket.
          obtain ⟨start, same, isStart⟩ := List.dropPrefix?_eq_some_iff.mp found
          have bracket : "func (".toList = "func ".toList ++ ['('] := by decide
          rw [eq_of_beq isStart, String.toList_append, String.toList_append, chars, bracket,
            List.append_assoc] at same
          have starts : first = '(' := (List.cons.inj (List.append_cancel_left same)).1
          rw [starts] at isFirst
          exact absurd isFirst (by decide)
  have found : ["var ", "type ", "func "].findSome? (behind? · (lead ++ (name ++ tail))) =
      some (name.toList ++ tail.toList) := by
    rw [← String.toList_append, ← behind?_lead lead (name ++ tail)]
    simp only [List.mem_cons, List.not_mem_nil, or_false] at isLead
    rcases isLead with rfl | rfl | rfl
    · simp [behind?_lead]
    · have noVariable : behind? "var " ("type " ++ (name ++ tail)) = none :=
        behind?_eq_none (by simp) (by decide)
      simp [noVariable, behind?_lead]
    · have noVariable : behind? "var " ("func " ++ (name ++ tail)) = none :=
        behind?_eq_none (by simp) (by decide)
      have noType : behind? "type " ("func " ++ (name ++ tail)) = none :=
        behind?_eq_none (by simp) (by decide)
      simp [noVariable, noType, behind?_lead]
  have isItem : item? (lead ++ (name ++ tail)) = some (.name name) := by
    rw [item?, noMethod]
    simp [found, leadingName_name isName ends]
  have notConstants : lead ++ (name ++ tail) ≠ "const (" := by
    rw [← String.toList_inj.ne]
    simp only [List.mem_cons, List.not_mem_nil, or_false] at isLead
    rcases isLead with rfl | rfl | rfl <;> simp
  have declares := declares_line notConstants noInterface
  rwa [isItem] at declares

theorem methodOf_eq
    {own : String}
    {stars : List Char}
    {rest : List Char}
    (isOwn : isIdentifier own = true)
    (areStars : ∀ char ∈ stars, (char == '*') = true)
    (isReceiver : isIdentifier receiver = true)
    (isName : isIdentifier name = true)
    (ends : EndsName rest) :
    methodOf
        (own.toList ++ (' ' :: (stars
          ++ (receiver.toList ++ (')' :: ' ' :: (name.toList ++ rest)))))) =
      .method receiver name := by
  obtain ⟨first, others, chars, isFirst⟩ := exists_cons_of_name isReceiver
  have blank (more : List Char) : EndsName (' ' :: more) := by
    rintro _ ⟨⟩
    decide
  have closed (more : List Char) : EndsName (')' :: more) := by
    rintro _ ⟨⟩
    decide
  have noStar : (first == '*') = false := by
    rw [beq_eq_false_iff_ne]
    rintro rfl
    exact absurd isFirst (by decide)
  have unstarred (more : List Char) :
      (stars ++ (receiver.toList ++ more)).dropWhile (· == '*') = receiver.toList ++ more := by
    rw [List.dropWhile_append_of_pos areStars, chars, List.cons_append, List.dropWhile_cons,
      if_neg (by simp [noStar])]
  unfold methodOf
  simp only [(takeWhile_name isOwn (blank _)).2, List.drop_succ_cons, List.drop_zero, unstarred,
    (takeWhile_name isReceiver (closed _)).2, leadingName_name isReceiver (closed _),
    leadingName_name isName ends]

/-- The method of a type: the receiver in brackets, the name, and the rest of the line. -/
theorem declares_method
    (own stars tail : String)
    (isOwn : isIdentifier own = true)
    (areStars : ∀ char ∈ stars.toList, (char == '*') = true)
    (isReceiver : isIdentifier receiver = true)
    (isName : isIdentifier name = true)
    (ends : EndsName tail.toList) :
    Declares ["func (" ++ (own ++ (" " ++ (stars ++ (receiver ++ (") " ++ (name ++ tail))))))]
      [.method receiver name] := by
  have isItem :
      item? ("func (" ++ (own ++ (" " ++ (stars ++ (receiver ++ (") " ++ (name ++ tail))))))) =
        some (.method receiver name) := by
    rw [item?, behind?_lead]
    have method := methodOf_eq isOwn areStars isReceiver isName ends
    simpa using method
  have notConstants :
      "func (" ++ (own ++ (" " ++ (stars ++ (receiver ++ (") " ++ (name ++ tail)))))) ≠ "const (" := by
    rw [← String.toList_inj.ne]
    simp
  have declares := declares_line notConstants
    (between?_eq_none (behind?_eq_none (by simp) (by decide)))
  rwa [isItem] at declares

end Lines

/-! ## Lines inside blocks -/

theorem innerNames_append
    (left right : Lines) :
    innerNames (left ++ right) = innerNames left ++ innerNames right := by
  simp [innerNames, indent]

/-- A line with something in it, moved in. -/
theorem innerNames_line
    {line : String}
    (notEmpty : line ≠ "") :
    innerNames [line] =
      if leadingName line.toList = "" then [] else [leadingName line.toList] := by
  have moved : indent 1 [line] = ["\t" ++ line] := by
    have isEmpty : line.isEmpty = false := by
      rw [← Bool.not_eq_true, String.isEmpty_iff]
      exact notEmpty
    rw [indent, List.map_singleton, isEmpty]
    rfl
  have isInner : inner? ("\t" ++ line) =
      if leadingName line.toList = "" then none else some (leadingName line.toList) := by
    rw [inner?, behind?_lead]
    simp
  rw [innerNames, moved, List.filterMap_cons, isInner]
  by_cases nothing : leadingName line.toList = "" <;> simp [nothing]

theorem innerNames_comment
    (text : String) :
    innerNames [commentLine text] = [] := by
  obtain ⟨rest, chars⟩ : ∃ rest, (commentLine text).toList = '/' :: rest := by
    have starts := commentLine_starts text
    cases chars : (commentLine text).toList with
    | nil => simp [chars] at starts
    | cons first rest =>
        rw [chars] at starts
        cases starts
        exact ⟨rest, rfl⟩
  have notEmpty : commentLine text ≠ "" := by
    rw [← String.toList_inj.ne, chars]
    simp
  have nothing : leadingName (commentLine text).toList = "" := by
    rw [leadingName, chars, List.takeWhile_cons_of_neg (by decide), String.ofList_nil]
  rw [innerNames_line notEmpty, if_pos nothing]

theorem innerNames_name
    {name tail : String}
    (isName : isIdentifier name = true)
    (ends : EndsName tail.toList) :
    innerNames [name ++ tail] = [name] := by
  have notEmpty : name ≠ "" := (isIdentifier_chars isName).2
  have someLeft : name ++ tail ≠ "" := fun isEmpty =>
    notEmpty (String.append_eq_empty_iff.mp isEmpty).1
  rw [innerNames_line someLeft, String.toList_append, leadingName_name isName ends,
    if_neg notEmpty]

theorem innerNames_intercalate
    (blocks : List Lines) :
    innerNames (List.intercalate [""] blocks) = blocks.flatMap innerNames := by
  have gap : innerNames [""] = [] := by decide
  induction blocks with
  | nil => rfl
  | cons block blocks inductionHypothesis =>
      cases blocks with
      | nil => simp
      | cons next blocks =>
          rw [List.intercalate_cons_cons, innerNames_append, innerNames_append, gap,
            inductionHypothesis]
          simp

theorem innerNames_comments
    (texts : List String) :
    innerNames (texts.map commentLine) = [] := by
  induction texts with
  | nil => rfl
  | cons text texts inductionHypothesis =>
      rw [List.map_cons, ← List.singleton_append, innerNames_append, innerNames_comment,
        inductionHypothesis, List.append_nil]

/-- The first column of aligned rows is wider than every name in it. -/
theorem le_foldl_max
    (rows : List (String × String))
    (width : Nat) :
    width ≤ rows.foldl (fun width row => max width row.1.length) width ∧
      ∀ row ∈ rows, row.1.length ≤ rows.foldl (fun width row => max width row.1.length) width := by
  induction rows generalizing width with
  | nil => simp
  | cons row rows inductionHypothesis =>
      obtain ⟨atLeast, others⟩ := inductionHypothesis (max width row.1.length)
      rw [List.foldl_cons, List.forall_mem_cons]
      exact ⟨by omega, by omega, others⟩

theorem innerNames_alignRows
    {rows : List (String × String)}
    (areNames : ∀ row ∈ rows, isIdentifier row.1 = true) :
    innerNames (alignRows rows) = rows.map Prod.fst := by
  have each (width : Nat) (chosen : List (String × String))
      (fit : ∀ row ∈ chosen, isIdentifier row.1 = true ∧ row.1.length ≤ width) :
      innerNames (chosen.map fun row =>
          row.1 ++ String.ofList (List.replicate (width + 1 - row.1.length) ' ') ++ row.2) =
        chosen.map Prod.fst := by
    induction chosen with
    | nil => rfl
    | cons row rows inductionHypothesis =>
        obtain ⟨⟨isName, isNarrow⟩, others⟩ := List.forall_mem_cons.mp fit
        have blanks : width + 1 - row.1.length = (width - row.1.length) + 1 := by omega
        have ends : EndsName
            (String.ofList (List.replicate (width + 1 - row.1.length) ' ') ++ row.2).toList := by
          rw [blanks, List.replicate_succ, String.toList_append, String.toList_ofList]
          rintro _ ⟨⟩
          decide
        have first := innerNames_name isName ends
        rw [List.map_cons, List.map_cons, ← List.singleton_append, innerNames_append,
          inductionHypothesis others, String.append_assoc, first]
        rfl
  exact each _ rows fun row isRow => ⟨areNames row isRow, (le_foldl_max rows 0).2 row isRow⟩

end Wayland.Binding.Scope
