import Wayland.Proofs.Markup.Scan

/-!
Contract: how far tags and other tokens look.

Owns:
- tags, which are read to their last byte and no further;
- all other tokens, which look one byte ahead at most.

Does not own: the parts of tokens, and sequences of tokens.
-/

namespace Wayland.Markup

open Wayland.Text
open Wayland.Wire (bind_eq_ok_iff)

variable {line : Nat}

/-! ## Attributes -/

theorem readValue_peeks
    (line : Nat) :
    Peeks fun bytes => readValue ⟨bytes, line⟩ := by
  intro bytes value after found
  cases bytes with
  | nil => cases found
  | cons quote rest =>
      simp only [readValue] at found
      split at found
      · rename_i isQuote
        obtain ⟨consumed, -, split, again⟩ := readText_peeks _ _ _ _ _ found
        refine ⟨quote :: consumed, False.elim, by rw [split]; rfl, fun other same => ?_⟩
        simp only [List.cons_append, readValue, isQuote, if_true, again other same]
      · cases found

/-- Reads on behind the name of an attribute and white space. -/
def readAssigned
    (name : Name)
    (cursor : Cursor) :
    Except Failure (Attribute × Cursor) :=
  match cursor.rest with
  | [] => throw ⟨cursor.line, .unexpectedEnd⟩
  | 61 :: rest => do
      let (value, after) ← readValue (skipBlanks cursor.line rest)
      return (⟨name, value⟩, after)
  | byte :: _ => throw ⟨lineAfter cursor.line byte, .attributeWithoutValue⟩

theorem readAttribute_eq
    (bytes : Bytes) :
    readAttribute ⟨bytes, line⟩ =
      readQualifiedName .missingAttributeName line bytes >>= fun found =>
        readAssigned found.1 (skipBlanks line found.2) :=
  rfl

theorem readAssigned_peeks
    (name : Name)
    (line : Nat) :
    Peeks fun bytes => readAssigned name ⟨bytes, line⟩ := by
  intro bytes value after found
  simp only [readAssigned] at found
  split at found
  · cases found
  · rename_i rest
    obtain ⟨⟨value, after⟩, valued, made⟩ := bind_eq_ok_iff.mp found
    cases made
    obtain ⟨consumed, -, split, again⟩ :=
      IsLocal.after_blanks (Or.inr trivial) readValue_peeks line _ _ _ valued
    refine ⟨61 :: consumed, False.elim, by rw [split]; rfl, fun other same => ?_⟩
    simp only [List.cons_append, readAssigned, again other same, bind, Except.bind]
    rfl
  · cases found

/-- An attribute consumes something. -/
theorem readAttribute_peeks
    (line : Nat) :
    IsLocal True True fun bytes => readAttribute ⟨bytes, line⟩ := by
  simp only [readAttribute_eq]
  exact IsLocal.after_name (Or.inr trivial) (fun name =>
    IsLocal.after_blanks (Or.inr trivial) (readAssigned_peeks name) line) _ line

/-! ## Tags -/

/-- What the reader of attributes finds behind white space: the end of the tag, or an attribute. -/
inductive Finds
    (read : List Attribute)
    (fuel : Nat) :
    Cursor → Except Failure (List Attribute × Bool × Cursor) → Prop where
  | close (rest : Bytes) (line : Nat) :
      Finds read fuel ⟨62 :: rest, line⟩ (.ok (read.reverse, false, ⟨rest, line⟩))
  | selfClose (rest : Bytes) (line : Nat) :
      Finds read fuel ⟨47 :: 62 :: rest, line⟩ (.ok (read.reverse, true, ⟨rest, line⟩))
  | more {byte : UInt8} {rest : Bytes} {line : Nat} {given : Attribute} {after : Cursor} :
      byte ≠ 62 → byte ≠ 47 → readAttribute ⟨byte :: rest, line⟩ = .ok (given, after) →
        Finds read fuel ⟨byte :: rest, line⟩ (readAttributes (given :: read) fuel after)

theorem readAttributes_eq_of_finds
    {read : List Attribute}
    {fuel : Nat}
    {cursor : Cursor}
    {result : Except Failure (List Attribute × Bool × Cursor)}
    (finds : Finds read fuel cursor.skipBlanks result) :
    readAttributes read (fuel + 1) cursor = result := by
  rw [readAttributes]
  generalize cursor.skipBlanks = behind at finds
  cases finds with
  | close rest line => rfl
  | selfClose rest line => rfl
  | more notClose notSlash isGiven =>
      simp only
      split
      · rename_i isEnd
        cases isEnd
      · rename_i isClose
        exact absurd (List.cons.inj isClose).1 notClose
      · rename_i isSlash
        exact absurd (List.cons.inj isSlash).1 notSlash
      · rename_i isSlash
        exact absurd (List.cons.inj isSlash).1 notSlash
      · rename_i isSlash
        exact absurd (List.cons.inj isSlash).1 notSlash
      · rw [isGiven]

theorem finds_of_readAttributes
    {read attributes : List Attribute}
    {fuel : Nat}
    {cursor after : Cursor}
    {selfClosing : Bool}
    (found : readAttributes read (fuel + 1) cursor = .ok (attributes, selfClosing, after)) :
    Finds read fuel cursor.skipBlanks (.ok (attributes, selfClosing, after)) := by
  rw [readAttributes] at found
  generalize cursor.skipBlanks = behind at found ⊢
  obtain ⟨bytes, line⟩ := behind
  simp only at found
  split at found
  · cases found
  · cases found
    exact .close _ line
  · cases found
    exact .selfClose _ line
  · cases found
  · cases found
  · rename_i notEnd notClose notSelfClose notSlash notSlashed
    split at found
    · cases found
    · rename_i given behind isGiven
      rw [← found]
      cases bytes with
      | nil => exact absurd rfl notEnd
      | cons byte rest =>
          refine .more (fun isClose => notClose rest (by rw [isClose])) ?_ isGiven
          rintro rfl
          cases rest with
          | nil => exact notSlash rfl
          | cons next rest => exact notSlashed next rest rfl

/-- What is found behind white space is found again where the tag goes on in the same way behind the same
white space. -/
theorem readAttributes_closes_of_finds
    {read attributes : List Attribute}
    {bytes front : Bytes}
    {behind after : Cursor}
    {selfClosing : Bool}
    (blank : skipBlanks line bytes = behind)
    (notEmpty : front ≠ [])
    (split : behind.rest = front ++ after.rest)
    (again : ∀ fuel other, front.length ≤ fuel + 1 →
      Finds read fuel ⟨front ++ other, behind.line⟩
        (.ok (attributes, selfClosing, ⟨other, after.line⟩))) :
    ∃ consumed, consumed ≠ [] ∧ bytes = consumed ++ after.rest ∧
      ∀ enough other, consumed.length ≤ enough →
        readAttributes read enough ⟨consumed ++ other, line⟩ =
          .ok (attributes, selfClosing, ⟨other, after.line⟩) := by
  obtain ⟨blanks, splitBlanks, againBlanks⟩ := skipBlanks_peeks blank
  refine ⟨blanks ++ front, by simp [notEmpty], ?_, fun enough other isEnough => ?_⟩
  · rw [splitBlanks, split, List.append_assoc]
  · have some := List.length_pos_iff.mpr notEmpty
    rw [List.length_append] at isEnough
    obtain ⟨fuel, rfl⟩ : ∃ fuel, enough = fuel + 1 := ⟨enough - 1, by omega⟩
    have sameHead : (front ++ other).head? = behind.rest.head? := by
      rw [split]
      exact head?_append_congr (Or.inl trivial) (fun _ => notEmpty) False.elim
    have isBehind : Cursor.skipBlanks ⟨(blanks ++ front) ++ other, line⟩ =
        ⟨front ++ other, behind.line⟩ := by
      rw [List.append_assoc]
      exact againBlanks _ sameHead
    refine readAttributes_eq_of_finds ?_
    rw [isBehind]
    exact again fuel other (by omega)

/-- The attributes of a tag and its end are read to the last byte and no further, with any fuel that
is enough for what is consumed. -/
theorem readAttributes_closes
    {read attributes : List Attribute}
    {fuel : Nat}
    {bytes : Bytes}
    {after : Cursor}
    {selfClosing : Bool}
    (found : readAttributes read fuel ⟨bytes, line⟩ = .ok (attributes, selfClosing, after)) :
    ∃ consumed, consumed ≠ [] ∧ bytes = consumed ++ after.rest ∧
      ∀ enough other, consumed.length ≤ enough →
        readAttributes read enough ⟨consumed ++ other, line⟩ =
          .ok (attributes, selfClosing, ⟨other, after.line⟩) := by
  induction fuel generalizing read bytes line with
  | zero => cases found
  | succ fuel inductionHypothesis =>
      have finds := finds_of_readAttributes found
      change Finds read fuel (skipBlanks line bytes) _ at finds
      generalize blank : skipBlanks line bytes = behind at finds
      generalize isResult : Except.ok (attributes, selfClosing, after) = result at finds
      cases finds with
      | close rest line' =>
          cases isResult
          exact readAttributes_closes_of_finds blank (@List.cons_ne_nil _ 62 []) rfl
            fun fuel other _ => .close other line'
      | selfClose rest line' =>
          cases isResult
          exact readAttributes_closes_of_finds blank (@List.cons_ne_nil _ 47 [62]) rfl
            fun fuel other _ => .selfClose other line'
      | @more byte rest line' given next notClose notSlash isGiven =>
          obtain ⟨rest', line''⟩ := next
          obtain ⟨consumed, some, split, again⟩ := inductionHypothesis isResult.symm
          obtain ⟨text, someText, splitText, againText⟩ := readAttribute_peeks line' _ _ _ isGiven
          refine readAttributes_closes_of_finds blank (List.append_ne_nil_of_right_ne_nil text some) ?_
            fun fuel other isEnough => ?_
          · rw [List.append_assoc, ← split, ← splitText]
          · have sameHead : (consumed ++ other).head? = rest'.head? := by
              rw [split]
              exact head?_append_congr (Or.inl trivial) (fun _ => some) False.elim
            have givenAgain := againText (consumed ++ other) fun _ => sameHead
            have lengths := List.length_pos_iff.mpr (someText trivial)
            rw [List.length_append] at isEnough
            have rest := again fuel other (by omega)
            cases text with
            | nil => exact absurd rfl (someText trivial)
            | cons first text =>
                obtain rfl : first = byte := (List.cons.inj splitText).1.symm
                rw [List.append_assoc, ← rest]
                exact .more notClose notSlash givenAgain

theorem readStartTag_closes
    (line : Nat) :
    Closes fun bytes => readStartTag ⟨bytes, line⟩ := by
  have behindName (name : Name) : Closes fun rest =>
      readAttributes [] (rest.length + 1) ⟨rest, line⟩ >>= fun found =>
        .ok (some (Token.startTag name found.1 found.2.1), found.2.2) := by
    intro bytes value after found
    obtain ⟨⟨attributes, selfClosing, behind⟩, isRead, made⟩ := bind_eq_ok_iff.mp found
    cases made
    obtain ⟨consumed, some, split, again⟩ := readAttributes_closes isRead
    refine ⟨consumed, fun _ => some, split, fun other _ => ?_⟩
    have isEnough : consumed.length ≤ (consumed ++ other).length + 1 := by simp; omega
    simp only [again _ other isEnough, bind, Except.bind]
  exact IsLocal.after_name (Or.inl trivial) behindName .missingElementName line

/-- Reads on behind the name of an end tag and white space. -/
def readTagEnd
    (name : Name)
    (cursor : Cursor) :
    Except Failure (Option Token × Cursor) :=
  match cursor.rest with
  | [] => throw ⟨cursor.line, .unexpectedEnd⟩
  | 62 :: rest => return (some (.endTag name), ⟨rest, cursor.line⟩)
  | byte :: _ => throw ⟨lineAfter cursor.line byte, .endTagJunk name.label⟩

theorem readEndTag_eq
    (bytes : Bytes) :
    readEndTag ⟨bytes, line⟩ =
      readQualifiedName .missingEndName line bytes >>= fun found =>
        readTagEnd found.1 (skipBlanks line found.2) :=
  rfl

theorem readTagEnd_closes
    (name : Name)
    (line : Nat) :
    Closes fun bytes => readTagEnd name ⟨bytes, line⟩ := by
  intro bytes value after found
  simp only [readTagEnd] at found
  split at found
  · cases found
  · rename_i rest
    cases found
    exact ⟨[62], by simp, rfl, fun other _ => rfl⟩
  · cases found

theorem readEndTag_closes
    (line : Nat) :
    Closes fun bytes => readEndTag ⟨bytes, line⟩ := by
  simp only [readEndTag_eq]
  exact IsLocal.after_name (Or.inl trivial) (fun name =>
    IsLocal.after_blanks (Or.inl trivial) (readTagEnd_closes name) line) _ line

/-! ## Instructions, comments and sections -/

theorem readInstructionToken_peeks
    (line : Nat) :
    Peeks fun bytes => readInstructionToken ⟨bytes, line⟩ := by
  intro bytes value after found
  obtain ⟨named, isNamed, found⟩ := bind_eq_ok_iff.mp found
  cases named with
  | none => cases found
  | some pair =>
      obtain ⟨target, rest⟩ := pair
      obtain ⟨word, -, splitWord, againWord⟩ := readName_peeks isNamed
      obtain ⟨⟨content, behind⟩, isRead, made⟩ := bind_eq_ok_iff.mp found
      obtain ⟨consumed, -, split, again⟩ := @IsLocal.after_blanks _ _ _
        (fun cursor => readInstruction [] cursor.line cursor.rest) (Or.inr trivial)
        (fun line => readInstruction_peeks [] line) line _ _ _ isRead
      cases noFault : if target == "xml" then declarationFault? content.reverse else none with
      | some fault =>
          simp only [noFault] at made
          cases made
      | none =>
          simp only [noFault] at made
          cases made
          refine ⟨word ++ consumed, False.elim, ?_, fun other same => ?_⟩
          · rw [List.append_assoc, ← split, ← splitWord]
          · have sameHead : (consumed ++ other).head? = rest.head? := by
              rw [split]
              exact head?_append_congr (Or.inr trivial) False.elim same
            have isReadAgain := again other same
            simp only at isReadAgain
            simp only [readInstructionToken, List.append_assoc, againWord _ sameHead, bind,
              Except.bind, isReadAgain, noFault]
            rfl

theorem readSection_peeks
    (line : Nat)
    (expected : Bytes) :
    Peeks (readSection line expected) := by
  induction expected with
  | nil =>
      intro bytes value after found
      simp only [readSection] at found
      obtain ⟨⟨content, behind⟩, isRead, made⟩ := bind_eq_ok_iff.mp found
      cases made
      obtain ⟨consumed, some, split, again⟩ := readText_peeks _ _ _ _ _ isRead
      refine ⟨consumed, some, split, fun other same => ?_⟩
      simp only [readSection, again other same, bind, Except.bind]
      rfl
  | cons wanted expected inductionHypothesis =>
      intro bytes value after found
      cases bytes with
      | nil => cases found
      | cons byte rest =>
          simp only [readSection] at found
          split at found
          · rename_i isWanted
            obtain ⟨consumed, -, split, again⟩ := inductionHypothesis rest value after found
            refine ⟨byte :: consumed, False.elim, by rw [split]; rfl, fun other same => ?_⟩
            simp only [List.cons_append, readSection, isWanted, if_true, again other same]
          · cases found

/-- A reader that gives nothing makes no token. -/
theorem IsLocal.skipped
    {advances ahead : Prop}
    {skip : Bytes → Except Failure Cursor}
    (isLocal : IsLocal advances ahead fun bytes => located (skip bytes))
    {bytes : Bytes}
    {token? : Option Token}
    {after : Cursor}
    (found : (skip bytes >>= fun after => .ok (none, after)) = .ok (token?, after)) :
    token? = none ∧ ∃ consumed, (advances → consumed ≠ []) ∧ bytes = consumed ++ after.rest ∧
      ∀ other : Bytes, (ahead → other.head? = after.rest.head?) →
        skip (consumed ++ other) = .ok ⟨other, after.line⟩ := by
  obtain ⟨behind, isSkipped, made⟩ := bind_eq_ok_iff.mp found
  cases made
  obtain ⟨consumed, some, split, again⟩ :=
    isLocal bytes () after (located_eq_ok_iff.mpr isSkipped)
  exact ⟨rfl, consumed, some, split, fun other same =>
    located_eq_ok_iff.mp (again other same)⟩

theorem readBang_eq_of_ne
    {byte : UInt8}
    (notDash : byte ≠ 45)
    (notBracket : byte ≠ 91)
    (rest : Bytes) :
    readBang line (byte :: rest) =
      skipDirective {} (lineAfter line byte) rest >>= fun after => .ok (none, after) := by
  unfold readBang
  split
  · rename_i isNil
    cases isNil
  · rename_i isDash
    exact absurd (List.cons.inj isDash).1 notDash
  · rename_i isDash
    exact absurd (List.cons.inj isDash).1 notDash
  · rename_i isDash
    exact absurd (List.cons.inj isDash).1 notDash
  · rename_i isBracket
    exact absurd (List.cons.inj isBracket).1 notBracket
  · rename_i same
    cases same
    rfl

theorem readBang_peeks
    (line : Nat) :
    Peeks (readBang line) := by
  intro bytes value after found
  unfold readBang at found
  split at found
  · cases found
  · cases found
  · rename_i rest
    obtain ⟨rfl, consumed, -, split, again⟩ := (skipComment_peeks true 0 0 line).skipped found
    refine ⟨45 :: 45 :: consumed, False.elim, by rw [split]; rfl, fun other same => ?_⟩
    simp only [List.cons_append, readBang, again other same, bind, Except.bind]
    rfl
  · cases found
  · rename_i rest
    obtain ⟨consumed, -, split, again⟩ := readSection_peeks line _ _ _ _ found
    refine ⟨91 :: consumed, False.elim, by rw [split]; rfl, fun other same => ?_⟩
    simp only [List.cons_append, readBang, again other same]
  · rename_i byte rest notDash notDashes notOther notBracket
    obtain ⟨rfl, consumed, -, split, again⟩ := (skipDirective_peeks {} _).skipped found
    refine ⟨byte :: consumed, False.elim, by rw [split]; rfl, fun other same => ?_⟩
    have isDirective : byte ≠ 45 ∧ byte ≠ 91 := by
      refine ⟨?_, notBracket⟩
      rintro rfl
      cases rest with
      | nil => exact notDash rfl rfl
      | cons next rest => exact notOther next rest rfl rfl
    rw [List.cons_append, readBang_eq_of_ne isDirective.1 isDirective.2, again other same]
    rfl

/-! ## Tokens -/

def Token.isTag : Token → Bool
  | .startTag _ _ _ => true
  | .endTag _ => true
  | .text _ => false

def isTag
    (token? : Option Token) :
    Bool :=
  token?.any Token.isTag

variable {bytes : Bytes} {token? : Option Token} {after : Cursor}

theorem isTag_instruction
    {cursor : Cursor}
    (found : readInstructionToken cursor = .ok (token?, after)) :
    isTag token? = false := by
  obtain ⟨named, -, found⟩ := bind_eq_ok_iff.mp found
  cases named with
  | none => cases found
  | some pair =>
      obtain ⟨_, -, made⟩ := bind_eq_ok_iff.mp found
      simp only at made
      split at made
      · cases made
      · cases made
        rfl

theorem isTag_section
    {expected : Bytes}
    (found : readSection line expected bytes = .ok (token?, after)) :
    isTag token? = false := by
  induction expected generalizing bytes with
  | nil =>
      simp only [readSection] at found
      obtain ⟨_, -, made⟩ := bind_eq_ok_iff.mp found
      cases made
      rfl
  | cons wanted expected inductionHypothesis =>
      cases bytes with
      | nil => cases found
      | cons byte rest =>
          simp only [readSection] at found
          split at found
          · exact inductionHypothesis found
          · cases found

theorem isTag_bang
    (found : readBang line bytes = .ok (token?, after)) :
    isTag token? = false := by
  unfold readBang at found
  split at found
  · cases found
  · cases found
  · obtain ⟨_, -, made⟩ := bind_eq_ok_iff.mp found
    cases made
    rfl
  · cases found
  · exact isTag_section found
  · obtain ⟨_, -, made⟩ := bind_eq_ok_iff.mp found
    cases made
    rfl

theorem readToken_startTag
    {byte : UInt8}
    (notSlash : byte ≠ 47)
    (notQuestion : byte ≠ 63)
    (notBang : byte ≠ 33)
    (rest : Bytes) :
    readToken ⟨60 :: byte :: rest, line⟩ = readStartTag ⟨byte :: rest, line⟩ := by
  simp only [readToken]
  split
  · rename_i same
    cases same
  · rename_i same
    exact absurd (List.cons.inj (List.cons.inj same).2).1 notSlash
  · rename_i same
    exact absurd (List.cons.inj (List.cons.inj same).2).1 notQuestion
  · rename_i same
    exact absurd (List.cons.inj (List.cons.inj same).2).1 notBang
  · rename_i same
    cases same
    rfl
  · rename_i isOther
    exact absurd rfl (isOther (byte :: rest))

theorem readToken_text
    {byte : UInt8}
    (notTag : byte ≠ 60)
    (rest : Bytes) :
    readToken ⟨byte :: rest, line⟩ =
      match readText .atTag ⟨byte :: rest, line⟩ with
      | .ok (content, after) => .ok (some (.text content), after)
      | .error failure => .error failure := by
  simp only [readToken]
  split
  · rename_i same
    exact absurd (List.cons.inj same).1 notTag
  · rename_i same
    exact absurd (List.cons.inj same).1 notTag
  · rename_i same
    exact absurd (List.cons.inj same).1 notTag
  · rename_i same
    exact absurd (List.cons.inj same).1 notTag
  · rename_i same
    exact absurd (List.cons.inj same).1 notTag
  · rfl

/-- Character data that does not start at a tag is not empty. -/
theorem readText_advances
    {byte : UInt8}
    {rest : Bytes}
    {content : String}
    (notTag : byte ≠ 60)
    (found : readText .atTag ⟨byte :: rest, line⟩ = .ok (content, after)) :
    after.rest.length ≤ rest.length := by
  have goesOn : ∃ newer written reference line',
      readTextFrom .atTag 0 0 [] none line (byte :: rest) =
        readTextFrom .atTag 0 newer written reference line' rest := by
    by_cases isReference : byte = 38
    · exact ⟨0, [], some .opened, line, by simp [readTextFrom, isReference]⟩
    · exact ⟨byte, if byte = 13 then [10] else [byte], none, lineAfter line byte, by
        simp [readTextFrom, notTag, isReference]⟩
  obtain ⟨newer, written, reference, line', goesOn⟩ := goesOn
  simp only [readText, goesOn] at found
  split at found
  · cases found
  · rename_i written after' readFrom
    obtain ⟨consumed, -, split, -⟩ := readTextFrom_peeks _ _ _ _ _ _ _ _ _ readFrom
    split at found
    · cases found
    · cases found
      rw [split, List.length_append]
      omega

/-- A token consumes something and looks one byte ahead at most, a tag no further than to its end. -/
theorem readToken_local
    (notEnd : bytes ≠ [])
    (found : readToken ⟨bytes, line⟩ = .ok (token?, after)) :
    ∃ consumed, consumed ≠ [] ∧ bytes = consumed ++ after.rest ∧
      ∀ other : Bytes, (isTag token? = false → other.head? = after.rest.head?) →
        readToken ⟨consumed ++ other, line⟩ = .ok (token?, ⟨other, after.line⟩) := by
  obtain ⟨byte, rest, rfl⟩ := List.exists_cons_of_ne_nil notEnd
  by_cases opens : byte = 60
  · subst opens
    cases rest with
    | nil => cases found
    | cons next rest =>
        by_cases isSlash : next = 47
        · subst isSlash
          obtain ⟨consumed, -, split, again⟩ := readEndTag_closes line rest token? after found
          exact ⟨60 :: 47 :: consumed, by simp, by rw [split]; rfl, fun other _ =>
            again other False.elim⟩
        by_cases isQuestion : next = 63
        · subst isQuestion
          have isInstruction : readInstructionToken ⟨rest, line⟩ = .ok (token?, after) := found
          obtain ⟨consumed, -, split, again⟩ :=
            readInstructionToken_peeks line rest token? after isInstruction
          exact ⟨60 :: 63 :: consumed, by simp, by rw [split]; rfl, fun other same =>
            again other fun _ => same (isTag_instruction isInstruction)⟩
        by_cases isBang : next = 33
        · subst isBang
          have isBang : readBang line rest = .ok (token?, after) := found
          obtain ⟨consumed, -, split, again⟩ := readBang_peeks line rest token? after isBang
          exact ⟨60 :: 33 :: consumed, by simp, by rw [split]; rfl, fun other same =>
            again other fun _ => same (isTag_bang isBang)⟩
        · rw [readToken_startTag isSlash isQuestion isBang] at found
          obtain ⟨consumed, some, split, again⟩ := readStartTag_closes line _ token? after found
          obtain ⟨first, consumed, rfl⟩ := List.exists_cons_of_ne_nil (some trivial)
          obtain rfl : next = first := (List.cons.inj split).1
          refine ⟨60 :: next :: consumed, by simp, by rw [split]; rfl, fun other _ => ?_⟩
          simp only [List.cons_append]
          rw [readToken_startTag isSlash isQuestion isBang]
          exact again other False.elim
  · rw [readToken_text opens] at found
    split at found
    · rename_i content after' isText
      cases found
      obtain ⟨consumed, -, split, again⟩ := readText_peeks .atTag line _ _ _ isText
      have less := readText_advances opens isText
      cases consumed with
      | nil =>
          rw [List.nil_append] at split
          rw [← split, List.length_cons] at less
          omega
      | cons first consumed =>
          obtain rfl : byte = first := (List.cons.inj split).1
          refine ⟨byte :: consumed, by simp, split, fun other same => ?_⟩
          have isTextAgain := again other fun _ => same rfl
          simp only [List.cons_append] at isTextAgain ⊢
          rw [readToken_text opens, isTextAgain]
    · cases found

end Wayland.Markup
