import Wayland.Markup.Element
import Wayland.Proofs.Markup.Lookahead

/-!
Contract: sequences of tokens, and the nesting of elements.

Owns:
- runs of the token reader over a part of a document, and that the tokens of a document up to a tag
  are those of every document that starts with the same bytes;
- that no element is cut off in the tree of a document that can be read to its end;
- what tokens do to the nodes outside open elements;
- that a document up to the end of an outermost element is a whole document, and that the nodes up to
  this element are those of every document that starts with the same bytes.

Does not own: single tokens, and which documents can be read to their end.
-/

namespace Wayland.Markup

open Wayland.Text

/-! ## Runs of the token reader -/

/-- A number of steps of the token reader, with the tokens that they give. -/
inductive Steps : Nat → Cursor → List LocatedToken → Cursor → Prop where
  | nil (cursor : Cursor) : Steps 0 cursor [] cursor
  | token {count : Nat} {cursor next last : Cursor} {token : Token} {tokens : List LocatedToken} :
      cursor.rest ≠ [] → readToken cursor = .ok (some token, next) →
        Steps count next tokens last →
          Steps (count + 1) cursor (⟨token, next.line⟩ :: tokens) last
  | skip {count : Nat} {cursor next last : Cursor} {tokens : List LocatedToken} :
      cursor.rest ≠ [] → readToken cursor = .ok (none, next) →
        Steps count next tokens last → Steps (count + 1) cursor tokens last

section Running

variable {count : Nat} {cursor last : Cursor} {tokens : List LocatedToken}

/-- The steps of a run consume one byte each at least, and the run looks one byte ahead. -/
theorem Steps.peeks
    (steps : Steps count cursor tokens last) :
    ∃ consumed, count ≤ consumed.length ∧ cursor.rest = consumed ++ last.rest ∧
      ∀ other : Bytes, other.head? = last.rest.head? →
        Steps count ⟨consumed ++ other, cursor.line⟩ tokens ⟨other, last.line⟩ := by
  have oneMore {count : Nat} {cursor next last : Cursor} {token? : Option Token}
      {tokens : List LocatedToken}
      (notEnd : cursor.rest ≠ [])
      (found : readToken cursor = .ok (token?, next))
      (rest : ∃ consumed, count ≤ consumed.length ∧ next.rest = consumed ++ last.rest ∧
        ∀ other : Bytes, other.head? = last.rest.head? →
          Steps count ⟨consumed ++ other, next.line⟩ tokens ⟨other, last.line⟩) :
      ∃ consumed, count + 1 ≤ consumed.length ∧ cursor.rest = consumed ++ last.rest ∧
        ∀ other : Bytes, other.head? = last.rest.head? →
          ∃ behind, consumed ++ other ≠ [] ∧
            readToken ⟨consumed ++ other, cursor.line⟩ = .ok (token?, ⟨behind, next.line⟩) ∧
            Steps count ⟨behind, next.line⟩ tokens ⟨other, last.line⟩ := by
    obtain ⟨bytes, some, splitBytes, againBytes⟩ := readToken_local notEnd found
    obtain ⟨consumed, isLong, split, again⟩ := rest
    have notEmpty := List.length_pos_iff.mpr some
    refine ⟨bytes ++ consumed, by rw [List.length_append]; omega, ?_, fun other same => ?_⟩
    · rw [List.append_assoc, ← split, ← splitBytes]
    · have sameHead : (consumed ++ other).head? = next.rest.head? := by
        rw [split]
        exact head?_append_congr (Or.inr trivial) False.elim fun _ => same
      rw [List.append_assoc]
      exact ⟨consumed ++ other, by simp [some], againBytes _ fun _ => sameHead, again other same⟩
  induction steps with
  | nil cursor => exact ⟨[], Nat.le_refl 0, rfl, fun other _ => .nil _⟩
  | token notEnd found _ inductionHypothesis =>
      obtain ⟨consumed, isLong, split, again⟩ := oneMore notEnd found inductionHypothesis
      refine ⟨consumed, isLong, split, fun other same => ?_⟩
      obtain ⟨behind, some, foundAgain, rest⟩ := again other same
      exact @Steps.token _ _ ⟨behind, _⟩ _ _ _ some foundAgain rest
  | skip notEnd found _ inductionHypothesis =>
      obtain ⟨consumed, isLong, split, again⟩ := oneMore notEnd found inductionHypothesis
      refine ⟨consumed, isLong, split, fun other same => ?_⟩
      obtain ⟨behind, some, foundAgain, rest⟩ := again other same
      exact .skip some foundAgain rest

/-- What a step of the token reader comes to. -/
theorem tokensFrom_step
    {token? : Option Token}
    {next : Cursor}
    (notEnd : cursor.rest ≠ [])
    (found : readToken cursor = .ok (token?, next))
    (read : List LocatedToken)
    (fuel : Nat) :
    tokensFrom read (fuel + 1) cursor =
      tokensFrom ((token?.map fun token => ⟨token, next.line⟩).toList ++ read) fuel next := by
  have isSome : cursor.rest.isEmpty = false := by simp [notEnd]
  rw [tokensFrom, isSome, found]
  cases token? <;> rfl

/-- With enough fuel, tokens are read as a run gives them. -/
theorem Steps.tokensFrom_eq
    (steps : Steps count cursor tokens last)
    (read : List LocatedToken)
    (fuel : Nat) :
    tokensFrom read (fuel + count) cursor = tokensFrom (tokens.reverse ++ read) fuel last := by
  induction steps generalizing read with
  | nil cursor => rfl
  | token notEnd found _ inductionHypothesis =>
      rw [← Nat.add_assoc, tokensFrom_step notEnd found, inductionHypothesis]
      simp
  | skip notEnd found _ inductionHypothesis =>
      rw [← Nat.add_assoc, tokensFrom_step notEnd found, inductionHypothesis]
      rfl

/-- Tokens that were read before stay in front. -/
theorem tokensFrom_tokens
    (read : List LocatedToken)
    (fuel : Nat)
    (cursor : Cursor) :
    (tokensFrom read fuel cursor).tokens = read.reverse ++ (tokensFrom [] fuel cursor).tokens := by
  induction fuel generalizing read cursor with
  | zero => simp [tokensFrom]
  | succ fuel inductionHypothesis =>
      by_cases isEnd : cursor.rest = []
      · simp [tokensFrom, isEnd]
      · cases found : readToken cursor with
        | error failure => simp [tokensFrom, isEnd, found]
        | ok result =>
            obtain ⟨token?, next⟩ := result
            rw [tokensFrom_step isEnd found, tokensFrom_step isEnd found]
            generalize (token?.map fun token => (⟨token, next.line⟩ : LocatedToken)).toList = first
            rw [inductionHypothesis (first ++ read), inductionHypothesis (first ++ [])]
            simp

/-- Every token of a document is read at the end of a run that gives the tokens before it. -/
theorem exists_steps
    {front rest : List LocatedToken}
    {token : LocatedToken}
    {fuel : Nat}
    (found : (tokensFrom [] fuel cursor).tokens = front ++ token :: rest) :
    ∃ count middle after, Steps count cursor front middle ∧ middle.rest ≠ [] ∧
      readToken middle = .ok (some token.token, after) ∧ token.line = after.line := by
  induction fuel generalizing cursor front with
  | zero => simp [tokensFrom] at found
  | succ fuel inductionHypothesis =>
      by_cases isEnd : cursor.rest = []
      · simp [tokensFrom, isEnd] at found
      · cases isRead : readToken cursor with
        | error failure => simp [tokensFrom, isEnd, isRead] at found
        | ok result =>
            obtain ⟨token?, next⟩ := result
            rw [tokensFrom_step isEnd isRead, tokensFrom_tokens] at found
            cases token? with
            | none =>
                obtain ⟨count, middle, after, steps, rest⟩ := inductionHypothesis found
                exact ⟨count + 1, middle, after, .skip isEnd isRead steps, rest⟩
            | some first =>
                cases front with
                | nil =>
                    obtain ⟨isToken, -⟩ := List.cons.inj found
                    exact ⟨0, cursor, next, .nil cursor, isEnd, by rw [← isToken]; exact isRead,
                      by rw [← isToken]⟩
                | cons other front =>
                    obtain ⟨isFirst, later⟩ := List.cons.inj found
                    obtain ⟨count, middle, after, steps, rest⟩ := inductionHypothesis later
                    refine ⟨count + 1, middle, after, ?_, rest⟩
                    rw [← isFirst]
                    exact .token isEnd isRead steps

end Running

/-- The tokens of a document up to a tag are those of every document that starts with the same bytes.
Where nothing follows these bytes, the tag is the last token, and nothing fails. -/
theorem tokens_up_to_tag
    {document : Bytes}
    {front rest : List LocatedToken}
    {tag : LocatedToken}
    (found : (tokens document).tokens = front ++ tag :: rest)
    (isTag : tag.token.isTag = true) :
    ∃ consumed back, document = consumed ++ back ∧
      (∀ other, ∃ more, (tokens (consumed ++ other)).tokens = front ++ tag :: more) ∧
      (tokens consumed).tokens = front ++ [tag] ∧ (tokens consumed).failure = none := by
  obtain ⟨count, middle, after, steps, notEnd, isRead, isLine⟩ := exists_steps found
  obtain ⟨before, isLong, split, again⟩ := steps.peeks
  obtain ⟨bytes, some, splitTag, againTag⟩ := readToken_local notEnd isRead
  have notEmpty := List.length_pos_iff.mpr some
  -- Enough fuel is left behind the tag, whatever follows.
  have reads (other : Bytes) : ∃ fuel,
      tokens (before ++ bytes ++ other) =
        tokensFrom (tag :: front.reverse) fuel ⟨other, after.line⟩ := by
    have sameHead : (bytes ++ other).head? = middle.rest.head? := by
      rw [splitTag]
      exact head?_append_congr (Or.inl trivial) (fun _ => some) False.elim
    have tagAgain := againTag other (by simp [Markup.isTag, isTag])
    obtain ⟨fuel, isFuel⟩ : ∃ fuel, (before ++ bytes ++ other).length + 1 = fuel + 1 + count :=
      ⟨(before ++ bytes ++ other).length - count, by simp only [List.length_append]; omega⟩
    refine ⟨fuel, ?_⟩
    rw [tokens, isFuel, List.append_assoc, (again _ sameHead).tokensFrom_eq,
      tokensFrom_step (by simp [some]) tagAgain, List.append_nil]
    simp [← isLine]
  refine ⟨before ++ bytes, after.rest, ?_, fun other => ?_, ?_⟩
  · rw [List.append_assoc, ← splitTag, ← split]
  · obtain ⟨fuel, isTokens⟩ := reads other
    refine ⟨(tokensFrom [] fuel ⟨other, after.line⟩).tokens, ?_⟩
    rw [isTokens, tokensFrom_tokens, List.reverse_cons, List.reverse_reverse, List.append_assoc]
    rfl
  · obtain ⟨fuel, isTokens⟩ := reads []
    rw [List.append_nil] at isTokens
    rw [isTokens]
    cases fuel <;> simp [tokensFrom]

/-! ## Whole documents -/

/-- A node in which every element is closed by its end tag. -/
inductive Node.IsWhole : Node → Prop where
  | text (content : String) (line : Nat) : IsWhole (.text content line)
  | element (tag : String) (attributes : List Attribute) (line : Nat) {content : List Node} :
      (∀ node ∈ content, IsWhole node) → IsWhole (.element tag attributes line content none)

namespace Builder

/-- A tree under construction in which everything that was closed was closed by its end tag. -/
structure IsWhole
    (builder : Builder) : Prop where
  outside : ∀ node ∈ builder.outside, node.IsWhole
  inside : ∀ element ∈ builder.stack, ∀ node ∈ element.latest, node.IsWhole

variable {builder next : Builder}

theorem isWhole_finish
    {element : OpenElement}
    (inner : ∀ node ∈ element.latest, node.IsWhole) :
    (element.finish none).IsWhole :=
  .element _ _ _ fun node member => inner node (List.mem_reverse.mp member)

theorem IsWhole.add
    (whole : builder.IsWhole)
    {node : Node}
    (isWhole : node.IsWhole) :
    (builder.add node).IsWhole := by
  unfold Builder.add
  split
  · rename_i noneOpen
    refine ⟨List.forall_mem_cons.mpr ⟨isWhole, whole.outside⟩, ?_⟩
    simp [noneOpen]
  · rename_i innermost others someOpen
    have inside := whole.inside
    rw [someOpen, List.forall_mem_cons] at inside
    exact ⟨whole.outside,
      List.forall_mem_cons.mpr ⟨List.forall_mem_cons.mpr ⟨isWhole, inside.1⟩, inside.2⟩⟩

theorem IsWhole.push
    (whole : builder.IsWhole)
    {located : LocatedToken}
    (pushed : builder.push located = .ok next) :
    next.IsWhole := by
  unfold Builder.push at pushed
  split at pushed
  · cases pushed
    exact whole.add (.text _ _)
  · simp only at pushed
    split at pushed
    · cases pushed
      exact whole.add (isWhole_finish (by simp))
    · cases pushed
      exact ⟨whole.outside, List.forall_mem_cons.mpr ⟨by simp, whole.inside⟩⟩
  · split at pushed
    · cases pushed
    · rename_i innermost others _ someOpen
      cases pushed
      have inside := whole.inside
      rw [someOpen, List.forall_mem_cons] at inside
      have rest : Builder.IsWhole { builder with stack := others } := ⟨whole.outside, inside.2⟩
      exact rest.add (isWhole_finish inside.1)
    · cases pushed
      exact whole

/-- If all tokens fit and no element is left open, the tree is whole. -/
theorem IsWhole.buildFrom
    (whole : builder.IsWhole)
    {stream : TokenStream}
    {tokens : List LocatedToken}
    (wellFormed : (buildFrom builder stream tokens).failure = none) :
    ∀ node ∈ (buildFrom builder stream tokens).nodes, node.IsWhole := by
  induction tokens generalizing builder with
  | nil =>
      unfold Markup.buildFrom at wellFormed ⊢
      split at wellFormed
      · cases wellFormed
      · split at wellFormed
        · rename_i noneOpen
          rw [if_pos noneOpen]
          rw [List.isEmpty_iff] at noneOpen
          simpa [finish, noneOpen, cutOff] using whole.outside
        · cases wellFormed
  | cons located rest inductionHypothesis =>
      unfold Markup.buildFrom at wellFormed ⊢
      split at wellFormed
      · rename_i next pushed
        exact inductionHypothesis (whole.push pushed) wellFormed
      · cases wellFormed

end Builder

/-- In the tree of a well-formed document every element is closed by its end tag. -/
theorem Tree.isWhole_ofBytes
    {document : Text.Bytes}
    (wellFormed : (Tree.ofBytes document).failure = none) :
    ∀ node ∈ (Tree.ofBytes document).nodes, node.IsWhole :=
  Builder.IsWhole.buildFrom ⟨by simp, by simp⟩ wellFormed

/-! ## Where an element ends -/

namespace Builder

def pushAll
    (builder : Builder)
    (tokens : List LocatedToken) :
    Except Failure Builder :=
  tokens.foldlM push builder

section Building

variable {builder next : Builder} {stream : TokenStream} {front rest tokens : List LocatedToken}

theorem pushAll_cons
    {token : LocatedToken}
    (pushed : builder.push token = .ok next) :
    builder.pushAll (token :: tokens) = next.pushAll tokens := by
  rw [pushAll, List.foldlM_cons, pushed]
  rfl

theorem buildFrom_append
    (pushed : builder.pushAll front = .ok next) :
    buildFrom builder stream (front ++ rest) = buildFrom next stream rest := by
  induction front generalizing builder with
  | nil =>
      cases pushed
      rfl
  | cons token front inductionHypothesis =>
      rw [List.cons_append, buildFrom]
      cases fits : builder.push token with
      | error failure => simp [pushAll, fits, bind, Except.bind] at pushed
      | ok middle =>
          rw [pushAll_cons fits] at pushed
          exact inductionHypothesis pushed

theorem add_outside
    (builder : Builder)
    (node : Node) :
    (builder.add node).outside = builder.outside ∨
      builder.add node = ⟨[], node :: builder.outside⟩ := by
  obtain ⟨stack, outside⟩ := builder
  cases stack with
  | nil => exact Or.inr rfl
  | cons innermost others => exact Or.inl rfl

/-- What a token puts outside all open elements is the last node there, and it is a text unless the
token is a tag. -/
theorem push_outside
    {token : LocatedToken}
    (pushed : builder.push token = .ok next) :
    next.outside = builder.outside ∨
      ∃ node, next = ⟨[], node :: builder.outside⟩ ∧
        (token.token.isTag = false → ∃ text line, node = .text text line) := by
  have added {start : Builder} (sameOutside : start.outside = builder.outside) (node : Node)
      (isTag : token.token.isTag = false → ∃ text line, node = .text text line)
      (isAdded : start.add node = next) :
      next.outside = builder.outside ∨
        ∃ node, next = ⟨[], node :: builder.outside⟩ ∧
          (token.token.isTag = false → ∃ text line, node = .text text line) := by
    rw [← isAdded, ← sameOutside]
    exact (add_outside start node).imp id fun outermost => ⟨node, outermost, isTag⟩
  unfold push at pushed
  split at pushed
  · rename_i content isText
    exact added rfl _ (fun _ => ⟨content, token.line, rfl⟩) (Except.ok.inj pushed)
  · rename_i name attributes selfClosing isStart
    simp only at pushed
    split at pushed
    · exact added rfl _ (by simp [isStart, Token.isTag]) (Except.ok.inj pushed)
    · cases pushed
      exact Or.inl rfl
  · rename_i name isEnd
    split at pushed
    · cases pushed
    · rename_i innermost others _ _
      exact @added { builder with stack := others } rfl _ (by simp [isEnd, Token.isTag])
        (Except.ok.inj pushed)
    · cases pushed
      exact Or.inl rfl

/-- Open elements are cut off as one node at the end. -/
theorem cutOff_nodes
    (failure : Option Failure)
    (innermost : OpenElement)
    (others : List OpenElement)
    (outside : List Node) :
    ∃ element : OpenElement,
      cutOff failure (innermost :: others) outside =
        outside.reverse ++ [element.finish failure] := by
  induction others generalizing innermost with
  | nil => exact ⟨innermost, by rw [cutOff, List.reverse_cons]⟩
  | cons parent others inductionHypothesis =>
      rw [cutOff]
      exact inductionHypothesis _

/-- The nodes outside open elements come first in a tree. -/
theorem finish_nodes
    (builder : Builder)
    (failure : Option Failure) :
    ∃ more, (builder.finish failure).nodes = builder.outside.reverse ++ more := by
  obtain ⟨stack, outside⟩ := builder
  cases stack with
  | nil => exact ⟨[], by simp [finish, cutOff]⟩
  | cons innermost others =>
      obtain ⟨element, isCut⟩ := cutOff_nodes failure innermost others outside
      exact ⟨_, isCut⟩

theorem buildFrom_nodes
    (builder : Builder)
    (stream : TokenStream)
    (tokens : List LocatedToken) :
    ∃ more, (buildFrom builder stream tokens).nodes = builder.outside.reverse ++ more := by
  induction tokens generalizing builder with
  | nil =>
      unfold buildFrom
      split
      · exact finish_nodes builder _
      · split <;> exact finish_nodes builder _
  | cons token tokens inductionHypothesis =>
      rw [buildFrom]
      split
      · rename_i next pushed
        obtain ⟨more, isNext⟩ := inductionHypothesis next
        rcases push_outside pushed with same | ⟨node, rfl, -⟩
        · exact ⟨more, by rw [isNext, same]⟩
        · exact ⟨node :: more, by rw [isNext]; simp⟩
      · exact finish_nodes builder _

variable {before after content : List Node} {tag : String} {attributes : List Attribute} {line : Nat}

/-- Where a document breaks off, no element that is still to come is closed. -/
theorem finish_not_closed
    {failure : Option Failure}
    (isCut : failure = none → builder.stack = [])
    (toCome : builder.outside.length ≤ before.length) :
    (builder.finish failure).nodes ≠
      before ++ Node.element tag attributes line content none :: after := by
  intro isTree
  obtain ⟨stack, outside⟩ := builder
  have lengths := congrArg List.length isTree
  rw [List.length_append, List.length_cons] at lengths
  cases stack with
  | nil =>
      simp only [finish, cutOff, List.length_reverse] at lengths
      simp only at toCome
      omega
  | cons innermost others =>
      obtain ⟨element, isLast⟩ := cutOff_nodes failure innermost others outside
      simp only [finish, isLast] at isTree lengths
      simp only [List.length_append, List.length_reverse, List.length_singleton] at lengths
      simp only at toCome
      obtain rfl : after = [] := List.length_eq_zero_iff.mp (by omega)
      obtain ⟨-, isElement⟩ := List.append_inj' isTree rfl
      have sameCut := (Node.element.inj (List.cons.inj isElement).1).2.2.2.2
      exact absurd (isCut sameCut) (by simp)

/-- A closed element that is still to come is put outside all open elements by a tag, and at that time
none is open. -/
theorem exists_closing
    (isTree : (buildFrom builder stream tokens).nodes =
      before ++ Node.element tag attributes line content none :: after)
    (toCome : builder.outside.length ≤ before.length) :
    ∃ front token rest, tokens = front ++ token :: rest ∧ token.token.isTag = true ∧
      builder.pushAll (front ++ [token]) =
        .ok ⟨[], .element tag attributes line content none :: before.reverse⟩ := by
  induction tokens generalizing builder with
  | nil =>
      unfold buildFrom at isTree
      split at isTree
      · exact absurd isTree (finish_not_closed (by simp) toCome)
      · split at isTree
        · rename_i noneOpen
          exact absurd isTree (finish_not_closed (fun _ => List.isEmpty_iff.mp noneOpen) toCome)
        · exact absurd isTree (finish_not_closed (by simp) toCome)
  | cons token tokens inductionHypothesis =>
      rw [buildFrom] at isTree
      split at isTree
      · rename_i next pushed
        by_cases stillToCome : next.outside.length ≤ before.length
        · obtain ⟨front, closing, rest, rfl, isTag, all⟩ := inductionHypothesis isTree stillToCome
          refine ⟨token :: front, closing, rest, rfl, isTag, ?_⟩
          rw [List.cons_append, pushAll_cons pushed]
          exact all
        · rcases push_outside pushed with same | ⟨node, rfl, isText⟩
          · rw [same] at stillToCome
            exact absurd toCome stillToCome
          · obtain ⟨more, isNext⟩ := buildFrom_nodes ⟨[], node :: builder.outside⟩ stream tokens
            simp only [List.length_cons] at stillToCome
            rw [isTree, List.reverse_cons, List.append_assoc] at isNext
            obtain ⟨isBefore, isRest⟩ :=
              List.append_inj isNext (by rw [List.length_reverse]; omega)
            obtain ⟨isNode, -⟩ := List.cons.inj isRest
            refine ⟨[], token, tokens, rfl, ?_, ?_⟩
            · rw [← Bool.not_eq_false]
              intro notTag
              obtain ⟨text, textLine, impossible⟩ := isText notTag
              rw [← isNode] at impossible
              cases impossible
            · rw [List.nil_append, pushAll_cons pushed, isBefore, List.reverse_reverse, isNode]
              rfl
      · exact absurd isTree (finish_not_closed (by simp) toCome)

end Building

end Builder

/-- A document up to the end of an outermost element is a whole document, and every document that
starts with the same bytes has the same nodes up to this element. -/
theorem Tree.up_to_closed_element
    {document : Bytes}
    {before after content : List Node}
    {tag : String}
    {attributes : List Attribute}
    {line : Nat}
    (isTree : (Tree.ofBytes document).nodes =
      before ++ Node.element tag attributes line content none :: after) :
    ∃ front back, document = front ++ back ∧
      (∀ other, ∃ more, (Tree.ofBytes (front ++ other)).nodes =
        before ++ Node.element tag attributes line content none :: more) ∧
      (Tree.ofBytes front).nodes = before ++ [Node.element tag attributes line content none] ∧
      (Tree.ofBytes front).failure = none := by
  obtain ⟨start, token, rest, isStream, isTag, all⟩ :=
    Builder.exists_closing isTree (Nat.zero_le _)
  obtain ⟨front, back, isDocument, same, isWhole, noFailure⟩ := tokens_up_to_tag isStream isTag
  refine ⟨front, back, isDocument, fun other => ?_, ?_⟩
  · obtain ⟨later, isTokens⟩ := same other
    have split : start ++ token :: later = (start ++ [token]) ++ later := by simp
    obtain ⟨more, isMore⟩ := Builder.buildFrom_nodes
      ⟨[], .element tag attributes line content none :: before.reverse⟩
      (tokens (front ++ other)) later
    refine ⟨more, ?_⟩
    rw [Tree.ofBytes, isTokens, split, Builder.buildFrom_append all, isMore]
    simp
  · have isTree : Tree.ofBytes front =
        ⟨before ++ [Node.element tag attributes line content none], none⟩ := by
      have split : start ++ [token] = (start ++ [token]) ++ [] := by simp
      rw [Tree.ofBytes, isWhole, split, Builder.buildFrom_append all, buildFrom, noFailure]
      simp [Builder.finish, Builder.cutOff]
    rw [isTree]
    exact ⟨rfl, rfl⟩

end Wayland.Markup
