import Mathlib.Data.List.TakeDrop
import Mathlib.Data.List.TakeWhile
import Wayland.Markup.Token
import Wayland.Proofs.Wire.Grammar

/-!
Contract: how far the readers of markup look.

Owns:
- readers that look one byte ahead of what they consume at most;
- scanners, which decide byte by byte, as such readers: white space, character data, comments,
  instructions and directives;
- names.

Does not own: tags and tokens.
-/

namespace Wayland.Markup

open Wayland.Text
open Wayland.Wire (bind_eq_ok_iff)

/-- A reader reads the same where what it consumes is followed by something else: by anything, or, if
it looks ahead, by something that begins with the same byte.  An advancing reader consumes something. -/
def IsLocal
    {α : Type}
    (advances ahead : Prop)
    (read : Bytes → Except Failure (α × Cursor)) : Prop :=
  ∀ bytes value after, read bytes = .ok (value, after) →
    ∃ consumed, (advances → consumed ≠ []) ∧ bytes = consumed ++ after.rest ∧
      ∀ other : Bytes, (ahead → other.head? = after.rest.head?) →
        read (consumed ++ other) = .ok (value, ⟨other, after.line⟩)

/-- A reader that looks one byte ahead and may consume nothing. -/
abbrev Peeks
    {α : Type}
    (read : Bytes → Except Failure (α × Cursor)) : Prop :=
  IsLocal False True read

/-- A reader that consumes something and looks no further. -/
abbrev Closes
    {α : Type}
    (read : Bytes → Except Failure (α × Cursor)) : Prop :=
  IsLocal True False read

/-- What is consumed begins in the same way where something else follows. -/
theorem head?_append_congr
    {advances ahead : Prop}
    {consumed first second : Bytes}
    (looks : advances ∨ ahead)
    (some : advances → consumed ≠ [])
    (same : ahead → first.head? = second.head?) :
    (consumed ++ first).head? = (consumed ++ second).head? := by
  cases consumed with
  | nil => exact looks.elim (fun isAdvancing => absurd rfl (some isAdvancing)) same
  | cons byte consumed => rfl

/-! ## Scanners -/

section Scanning

variable {σ α : Type} {scan : σ → Bytes → Except Failure (α × Cursor)} {byte : UInt8}

/-- What a scanner makes of a byte: it goes on behind it, stops behind or before it, or refuses it,
whatever follows. -/
inductive Decides
    (scan : σ → Bytes → Except Failure (α × Cursor))
    (byte : UInt8) :
    (Bytes → Except Failure (α × Cursor)) → Prop where
  | goOn (state : σ) : Decides scan byte fun rest => scan state rest
  | stopBehind (value : α) (line : Nat) : Decides scan byte fun rest => .ok (value, ⟨rest, line⟩)
  | stopBefore (value : α) (line : Nat) :
      Decides scan byte fun rest => .ok (value, ⟨byte :: rest, line⟩)
  | refuse (failure : Failure) : Decides scan byte fun _ => .error failure

theorem Decides.ite
    {first second : Bytes → Except Failure (α × Cursor)}
    (condition : Prop)
    [Decidable condition]
    (decidesFirst : Decides scan byte first)
    (decidesSecond : Decides scan byte second) :
    Decides scan byte fun rest => if condition then first rest else second rest := by
  by_cases holds : condition
  · simpa only [holds, if_true] using decidesFirst
  · simpa only [holds, if_false] using decidesSecond

/-- A scanner looks one byte ahead at most. -/
theorem peeks_of_decides
    (atEnd : ∀ state value after, scan state [] = .ok (value, after) → after.rest = [])
    (atByte : ∀ state byte, Decides scan byte fun rest => scan state (byte :: rest))
    (state : σ) :
    Peeks (scan state) := by
  intro bytes value after read
  induction bytes generalizing state with
  | nil =>
      have isEnd := atEnd state value after read
      refine ⟨[], False.elim, by rw [isEnd]; rfl, fun other same => ?_⟩
      have isSame := same trivial
      rw [isEnd, List.head?_nil, List.head?_eq_none_iff] at isSame
      obtain ⟨rest, line⟩ := after
      obtain rfl : rest = [] := isEnd
      rw [isSame]
      exact read
  | cons byte bytes inductionHypothesis =>
      have decides := atByte state byte
      generalize step : (fun rest => scan state (byte :: rest)) = made at decides
      have here (rest : Bytes) : scan state (byte :: rest) = made rest := congrFun step rest
      rw [here] at read
      cases decides with
      | goOn next =>
          obtain ⟨consumed, -, split, again⟩ := inductionHypothesis next read
          refine ⟨byte :: consumed, False.elim, by rw [split]; rfl, fun other same => ?_⟩
          rw [List.cons_append, here]
          exact again other same
      | stopBehind value line =>
          cases read
          exact ⟨[byte], False.elim, rfl, fun other _ => here other⟩
      | stopBefore value line =>
          cases read
          refine ⟨[], False.elim, rfl, fun other same => ?_⟩
          cases other with
          | nil => cases same trivial
          | cons first other =>
              obtain rfl : first = byte := Option.some.inj (same trivial)
              exact here other
      | refuse failure => cases read

end Scanning

/-! ## White space, comments, instructions and directives -/

/-- White space ends before the same byte, whatever follows that. -/
theorem skipBlanks_peeks
    {line : Nat}
    {bytes : Bytes}
    {after : Cursor}
    (skipped : skipBlanks line bytes = after) :
    ∃ blanks, bytes = blanks ++ after.rest ∧
      ∀ other : Bytes, other.head? = after.rest.head? →
        skipBlanks line (blanks ++ other) = ⟨other, after.line⟩ := by
  induction bytes generalizing line with
  | nil =>
      obtain rfl := skipped
      refine ⟨[], rfl, fun other same => ?_⟩
      obtain rfl : other = [] := List.head?_eq_none_iff.mp same
      rfl
  | cons byte bytes inductionHypothesis =>
      by_cases isBlank : isTagBlank byte
      · rw [skipBlanks, if_pos isBlank] at skipped
        obtain ⟨blanks, split, again⟩ := inductionHypothesis skipped
        refine ⟨byte :: blanks, by rw [split]; rfl, fun other same => ?_⟩
        rw [List.cons_append, skipBlanks, if_pos isBlank, again other same]
      · rw [skipBlanks, if_neg isBlank] at skipped
        obtain rfl := skipped
        refine ⟨[], rfl, fun other same => ?_⟩
        cases other with
        | nil => cases same
        | cons first other =>
            obtain rfl : first = byte := Option.some.inj same
            rw [List.nil_append, skipBlanks, if_neg isBlank]

/-- A reader behind white space. -/
theorem IsLocal.after_blanks
    {α : Type}
    {advances ahead : Prop}
    {read : Cursor → Except Failure (α × Cursor)}
    (looks : advances ∨ ahead)
    (isLocal : ∀ line, IsLocal advances ahead fun bytes => read ⟨bytes, line⟩)
    (line : Nat) :
    IsLocal advances ahead fun bytes => read (skipBlanks line bytes) := by
  intro bytes value after found
  obtain ⟨blanks, splitBlanks, againBlanks⟩ := skipBlanks_peeks (@rfl _ (skipBlanks line bytes))
  obtain ⟨consumed, some, split, again⟩ := isLocal (skipBlanks line bytes).line _ _ _ found
  refine ⟨blanks ++ consumed, fun isAdvancing => ?_, ?_, fun other same => ?_⟩
  · simp [some isAdvancing]
  · rw [List.append_assoc, ← split, ← splitBlanks]
  · have sameHead : (consumed ++ other).head? = (skipBlanks line bytes).rest.head? := by
      rw [split]
      exact head?_append_congr looks some same
    simp only [List.append_assoc, againBlanks _ sameHead]
    exact again other same

/-- A reader that gives nothing but the place where it ends. -/
def located
    (skipped : Except Failure Cursor) :
    Except Failure (Unit × Cursor) :=
  skipped.map fun after => ((), after)

theorem located_eq_ok_iff
    {skipped : Except Failure Cursor}
    {after : Cursor} :
    located skipped = .ok ((), after) ↔ skipped = .ok after := by
  cases skipped <;> simp [located, Except.map]

theorem skipComment_peeks
    (strict : Bool)
    (older newer : UInt8)
    (line : Nat) :
    Peeks fun bytes => located (skipComment strict older newer line bytes) := by
  refine @peeks_of_decides (UInt8 × UInt8 × Nat) Unit
    (fun state bytes => located (skipComment strict state.1 state.2.1 state.2.2 bytes)) ?_ ?_
    (older, newer, line)
  · intro state value after read
    cases read
  · rintro ⟨older, newer, line⟩ byte
    simp only [skipComment, apply_ite located]
    refine .ite _ (.stopBehind () line) (.ite _ (.refuse _) ?_)
    exact .goOn (newer, byte, lineAfter line byte)

theorem readInstruction_peeks
    (latest : Bytes)
    (line : Nat) :
    Peeks (readInstruction latest line) := by
  refine @peeks_of_decides (Bytes × Nat) Bytes
    (fun state bytes => readInstruction state.1 state.2 bytes) ?_ ?_ (latest, line)
  · intro state value after read
    cases read
  · rintro ⟨latest, line⟩ byte
    simp only [readInstruction]
    split
    · rename_i content
      refine .ite _ (.stopBehind content line) ?_
      exact .goOn (byte :: 63 :: content, lineAfter line byte)
    · exact .goOn (byte :: latest, lineAfter line byte)

theorem skipDirective_peeks
    (state : DirectiveState)
    (line : Nat) :
    Peeks fun bytes => located (skipDirective state line bytes) := by
  refine @peeks_of_decides (DirectiveState × Nat) Unit
    (fun state bytes => located (skipDirective state.1 state.2 bytes)) ?_ ?_ (state, line)
  · intro state value after read
    cases read
  · rintro ⟨state, line⟩ byte
    let next := lineAfter line byte
    simp only [skipDirective]
    split
    · simp only [apply_ite located]
      exact .ite _ (.goOn (_, next)) (.goOn (_, next))
    · split
      · simp only [apply_ite located]
        exact .ite _ (.stopBehind () next) (.goOn (_, next))
      · simp only [apply_ite located]
        exact .ite _ (.goOn (_, next)) (.goOn (_, next))
      · simp only [apply_ite located]
        exact .ite _ (.goOn (_, next)) (.goOn (_, next))
      · simp only [apply_ite located]
        exact .ite _ (.goOn (_, next)) (.goOn (_, next))

/-! ## Character data -/

theorem readTextFrom_peeks
    (ending : TextEnd)
    (older newer : UInt8)
    (written : Bytes)
    (reference : Option Reference)
    (line : Nat) :
    Peeks (readTextFrom ending older newer written reference line) := by
  refine @peeks_of_decides (UInt8 × UInt8 × Bytes × Option Reference × Nat) Bytes
    (fun state => readTextFrom ending state.1 state.2.1 state.2.2.1 state.2.2.2.1 state.2.2.2.2)
    ?_ ?_ (older, newer, written, reference, line)
  · rintro ⟨older, newer, written, reference, line⟩ value after read
    simp only [readTextFrom] at read
    split at read
    · cases read
    · split at read
      · cases read
      · cases read
        rfl
  · rintro ⟨older, newer, written, reference, line⟩ byte
    simp only [readTextFrom]
    cases reference with
    | some reference =>
        simp only
        split
        · rename_i longer _
          exact .goOn (older, newer, written, some longer, lineAfter line byte)
        · refine .ite _ ?_ (.refuse _)
          split
          · exact .goOn (0, 0, _, none, line)
          · exact .refuse _
    | none =>
        simp only
        refine .ite _ (.stopBehind _ line) (.ite _ (.refuse _) (.ite _ (.stopBefore _ line)
          (.ite _ (.refuse _) (.ite _ (.stopBehind _ line) (.ite _ ?_ ?_)))))
        · exact .goOn (older, newer, written, some Reference.opened, line)
        · exact .goOn (newer, byte, _, none, lineAfter line byte)

theorem readText_peeks
    (ending : TextEnd)
    (line : Nat) :
    Peeks fun bytes => readText ending ⟨bytes, line⟩ := by
  intro bytes value after read
  simp only [readText] at read
  split at read
  · cases read
  · rename_i written after' readFrom
    obtain ⟨consumed, some, split, again⟩ := readTextFrom_peeks _ _ _ _ _ _ _ _ _ readFrom
    split at read
    · cases read
    · rename_i noFault
      cases read
      refine ⟨consumed, some, split, fun other same => ?_⟩
      simp only [readText, again other same, noFault]

/-! ## Names -/

theorem span_append
    {p : UInt8 → Bool}
    {name rest : Bytes}
    (inside : ∀ byte ∈ name, p byte = true)
    (outside : ∀ byte, rest.head? = some byte → p byte = false) :
    (name ++ rest).span p = (name, rest) := by
  rw [List.span_eq_takeWhile_dropWhile, List.takeWhile_append_of_pos inside,
    List.dropWhile_append_of_pos inside]
  cases rest with
  | nil => simp
  | cons byte rest => simp [outside byte rfl]

theorem readNameBytes_peeks
    {line : Nat}
    {bytes name rest : Bytes}
    (read : readNameBytes line bytes = .ok (some (name, rest))) :
    name ≠ [] ∧ bytes = name ++ rest ∧
      ∀ other : Bytes, other.head? = rest.head? →
        readNameBytes line (name ++ other) = .ok (some (name, other)) := by
  unfold readNameBytes at read
  rw [List.span_eq_takeWhile_dropWhile] at read
  cases taken : bytes.takeWhile isNameByte with
  | nil => cases left : bytes.dropWhile isNameByte <;> simp [taken, left] at read
  | cons first more =>
      cases left : bytes.dropWhile isNameByte with
      | nil => simp [taken, left] at read
      | cons next behind =>
          simp only [taken, left] at read
          cases read
          refine ⟨by simp, ?_, fun other same => ?_⟩
          · rw [← taken, ← left, List.takeWhile_append_dropWhile]
          · have inside : ∀ byte ∈ first :: more, isNameByte byte = true := by
              rw [← taken]
              exact fun byte member => List.mem_takeWhile_imp member
            have outside : ∀ byte, other.head? = some byte → isNameByte byte = false := by
              intro byte isHead
              have isNot := List.head?_dropWhile_not isNameByte bytes
              rwa [left, ← same, isHead] at isNot
            cases other with
            | nil => cases same
            | cons byte other =>
                unfold readNameBytes
                rw [span_append inside outside]

/-- A name is not empty, and it is the same whatever follows the byte that ends it. -/
theorem readName_peeks
    {line : Nat}
    {bytes rest : Bytes}
    {text : String}
    (read : readName line bytes = .ok (some (text, rest))) :
    ∃ name, name ≠ [] ∧ bytes = name ++ rest ∧
      ∀ other : Bytes, other.head? = rest.head? →
        readName line (name ++ other) = .ok (some (text, other)) := by
  unfold readName at read
  split at read
  · cases read
  · cases read
  · rename_i name rest' readBytes
    split at read
    · rename_i isName
      cases read
      obtain ⟨notEmpty, split, again⟩ := readNameBytes_peeks readBytes
      refine ⟨name, notEmpty, split, fun other same => ?_⟩
      simp only [readName, again other same, isName, if_true]
    · cases read

theorem readQualifiedName_peeks
    {missing : Fault}
    {line : Nat}
    {bytes rest : Bytes}
    {name : Name}
    (read : readQualifiedName missing line bytes = .ok (name, rest)) :
    ∃ consumed, consumed ≠ [] ∧ bytes = consumed ++ rest ∧
      ∀ other : Bytes, other.head? = rest.head? →
        readQualifiedName missing line (consumed ++ other) = .ok (name, other) := by
  unfold readQualifiedName at read
  split at read
  · cases read
  · cases read
  · rename_i text rest' readText
    split at read
    · rename_i isName
      cases read
      obtain ⟨consumed, notEmpty, split, again⟩ := readName_peeks readText
      refine ⟨consumed, notEmpty, split, fun other same => ?_⟩
      simp only [readQualifiedName, again other same, isName]
    · cases read

/-- A reader behind a name. -/
theorem IsLocal.after_name
    {α : Type}
    {advances ahead : Prop}
    {next : Name → Bytes → Except Failure (α × Cursor)}
    (looks : advances ∨ ahead)
    (isLocal : ∀ name, IsLocal advances ahead (next name))
    (missing : Fault)
    (line : Nat) :
    IsLocal True ahead fun bytes =>
      readQualifiedName missing line bytes >>= fun found => next found.1 found.2 := by
  intro bytes value after found
  obtain ⟨⟨name, rest⟩, named, found⟩ := bind_eq_ok_iff.mp found
  obtain ⟨word, notEmpty, splitWord, againWord⟩ := readQualifiedName_peeks named
  obtain ⟨consumed, some, split, again⟩ := isLocal name rest value after found
  refine ⟨word ++ consumed, fun _ => by simp [notEmpty], ?_, fun other same => ?_⟩
  · rw [List.append_assoc, ← split, ← splitWord]
  · have sameHead : (consumed ++ other).head? = rest.head? := by
      rw [split]
      exact head?_append_congr looks some same
    simp only [List.append_assoc, againWord _ sameHead]
    exact again other same

end Wayland.Markup
