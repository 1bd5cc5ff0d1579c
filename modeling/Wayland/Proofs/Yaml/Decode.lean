import Wayland.Proofs.Yaml.Number

/-!
Contract: reading trees without references into shapes.

Owns:
- computations that note faults and never stop, and how they follow each other;
- what scalars, lists and records of plain nodes are read as: a value without a fault where a
  condition holds, and a fault everywhere else.

Does not own: references and merged mappings.
-/

namespace Wayland.Yaml

variable {α β σ : Type}

/-! ## Computations -/

/-- Outside references, a computation gives a value and notes faults, latest first. -/
def Settles
    (action : Decode α)
    (value : α)
    (faults : List String) : Prop :=
  ∀ (trail : Trail) (progress : Progress), trail.followed = [] → progress.referenced = 0 →
    ∃ nodes, (action.run trail).run progress =
      .ok (value, { progress with faults := faults ++ progress.faults, nodes })

namespace Settles

theorem of_pure
    (value : α) :
    Settles (pure value) value [] :=
  fun _ progress _ _ => ⟨progress.nodes, rfl⟩

theorem bind
    {action : Decode α}
    {next : α → Decode β}
    {value : α}
    {last : β}
    {faults later : List String}
    (first : Settles action value faults)
    (second : Settles (next value) last later) :
    Settles (action >>= next) last (later ++ faults) := by
  intro trail progress outside unreferenced
  obtain ⟨between, ran⟩ := first trail progress outside unreferenced
  obtain ⟨nodes, ranNext⟩ :=
    second trail { progress with faults := faults ++ progress.faults, nodes := between } outside
      unreferenced
  refine ⟨nodes, ?_⟩
  rw [ReaderT.run_bind, StateT.run_bind, ran, List.append_assoc]
  exact ranNext

theorem of_note
    (fault : String) :
    Settles (Decode.note fault) () [fault] :=
  fun _ progress _ _ => ⟨progress.nodes, rfl⟩

theorem then_pure
    {action : Decode α}
    {value : α}
    {faults : List String}
    (settles : Settles action value faults)
    (last : β) :
    Settles (action >>= fun _ => pure last) last faults := by
  have both : Settles (action >>= fun _ => pure last) last ([] ++ faults) :=
    settles.bind (of_pure last)
  exact both

theorem of_count :
    Settles Decode.count () [] := by
  intro trail progress outside unreferenced
  have notExcessive :
      Progress.isExcessive { progress with nodes := progress.nodes + 1 } = false := by
    simp [Progress.isExcessive, unreferenced]
  refine ⟨progress.nodes + 1, ?_⟩
  have counted : (Decode.count.run trail).run progress =
      ((if Progress.isExcessive
          { progress with
            nodes := progress.nodes + 1
            referenced := progress.referenced + (if trail.followed.isEmpty then 0 else 1) }
        then (Decode.stop "document contains excessive aliasing" : Decode Unit) else pure ()).run
          trail).run
            { progress with
              nodes := progress.nodes + 1
              referenced := progress.referenced + (if trail.followed.isEmpty then 0 else 1) } :=
    rfl
  rw [counted]
  simp only [outside, List.isEmpty_nil, if_true, Nat.add_zero, notExcessive, Bool.false_eq_true,
    if_false]
  rfl

/-- A node that is no reference is read as it stands. -/
theorem of_resolve
    {readNode : Node → Decode α}
    {node : Node}
    {value : α}
    {faults : List String}
    (plain : ∀ name number anchor line, node ≠ .alias name number anchor line)
    (settles : Settles (readNode node) value faults) :
    Settles (Decode.resolve readNode node) value faults := by
  have counted : Settles (Decode.count >>= fun _ => readNode node) value (faults ++ []) :=
    of_count.bind settles
  rw [List.append_nil] at counted
  match node with
  | .alias name number anchor line => exact absurd rfl (plain name number anchor line)
  | .scalar tag text style line => exact counted
  | .sequence tag nodes line => exact counted
  | .mapping tag entries line => exact counted

end Settles

/-- A computation gives a good value without a fault where a condition holds, and notes a fault
everywhere else. -/
def Yields
    (action : Decode α)
    (fits : Prop)
    (good : α → Prop) : Prop :=
  ∃ value faults, Settles action value faults ∧ (fits → faults = [] ∧ good value) ∧
    (¬fits → faults ≠ [])

namespace Yields

variable {action : Decode α} {fits : Prop} {good : α → Prop}

theorem of_settles
    {value : α}
    (settles : Settles action value [])
    (isGood : good value) :
    Yields action True good :=
  ⟨value, [], settles, fun _ => ⟨rfl, isGood⟩, fun refused => absurd trivial refused⟩

theorem of_pure
    {value : α}
    (isGood : good value) :
    Yields (pure value) True good :=
  of_settles (.of_pure value) isGood

theorem of_fault
    {value : α}
    {fault : String}
    {faults : List String}
    (settles : Settles action value (fault :: faults)) :
    Yields action False good :=
  ⟨value, fault :: faults, settles, False.elim, fun _ => List.cons_ne_nil _ _⟩

theorem congr
    {other : Prop}
    (yields : Yields action fits good)
    (same : fits ↔ other) :
    Yields action other good := by
  rwa [← propext same]

theorem imp
    {better : α → Prop}
    (yields : Yields action fits good)
    (implies : ∀ value, good value → better value) :
    Yields action fits better := by
  obtain ⟨value, faults, settles, holds, fails⟩ := yields
  exact ⟨value, faults, settles, fun isFit => (holds isFit).imp_right (implies value), fails⟩

/-- Two computations yield where both do. -/
theorem bind
    {next : α → Decode β}
    {further : Prop}
    {goodNext : β → Prop}
    (first : Yields action fits good)
    (second : ∀ value, Yields (next value) further fun last => good value → goodNext last) :
    Yields (action >>= next) (fits ∧ further) goodNext := by
  obtain ⟨value, faults, settles, holds, fails⟩ := first
  obtain ⟨last, later, settlesNext, holdsNext, failsNext⟩ := second value
  refine ⟨last, later ++ faults, settles.bind settlesNext, ?_, ?_⟩
  · rintro ⟨isFit, isFurther⟩
    obtain ⟨rfl, isGood⟩ := holds isFit
    obtain ⟨rfl, isGoodNext⟩ := holdsNext isFurther
    exact ⟨rfl, isGoodNext isGood⟩
  · intro refused noFaults
    obtain ⟨noLater, noFaults⟩ := List.append_eq_nil_iff.mp noFaults
    by_cases isFit : fits
    · exact failsNext (fun isFurther => refused ⟨isFit, isFurther⟩) noLater
    · exact fails isFit noFaults

/-- Behind a computation that never notes a fault, only good values matter. -/
theorem bind_always
    {next : α → Decode β}
    {goodNext : β → Prop}
    (first : Yields action True good)
    (second : ∀ value, good value → Yields (next value) fits goodNext) :
    Yields (action >>= next) fits goodNext := by
  obtain ⟨value, faults, settles, holds, -⟩ := first
  obtain ⟨rfl, isGood⟩ := holds trivial
  obtain ⟨last, later, settlesNext, both⟩ := second value isGood
  have settlesBoth : Settles (action >>= next) last (later ++ []) := settles.bind settlesNext
  rw [List.append_nil] at settlesBoth
  exact ⟨last, later, settlesBoth, both⟩

theorem of_resolve
    {readNode : Node → Decode α}
    {node : Node}
    (plain : ∀ name number anchor line, node ≠ .alias name number anchor line)
    (yields : Yields (readNode node) fits good) :
    Yields (Decode.resolve readNode node) fits good := by
  obtain ⟨value, faults, settles, both⟩ := yields
  exact ⟨value, faults, .of_resolve plain settles, both⟩

end Yields

/-! ## Scalars -/

namespace Shape

variable {limit line : Nat} {style : Style}

theorem settles_mismatch
    (node : Node)
    (typeName : String) :
    ∃ fault, Settles (mismatch node typeName) () [fault] :=
  ⟨_, .of_note _⟩

/-- A scalar whose value is known and not null. -/
theorem scalar_yields
    {typeName tag written : String}
    {accept : Value → String → Option α}
    {value : Value}
    (isValue : scalarValue tag written = pure value)
    (notNull : value ≠ .null)
    (current : α) :
    Yields ((scalar typeName accept).read limit (.scalar tag written style line) current)
      ((accept value written).isSome = true)
      fun result => some result.1 = accept value written ∧ result.2 = true := by
  unfold scalar
  dsimp only
  refine Yields.of_resolve (by simp) ?_
  simp only [isValue, pure_bind]
  cases value
  case null => exact absurd rfl notNull
  all_goals
    cases accepted : accept _ written with
    | some result => exact (Yields.of_pure (by simp)).congr (by simp)
    | none =>
        obtain ⟨fault, noted⟩ := settles_mismatch (.scalar tag written style line) typeName
        exact (Yields.of_fault (noted.then_pure _)).congr (by simp)

theorem scalarValue_str
    (written : String) :
    scalarValue "!!str" written = pure (.text written) := by
  simp [scalarValue]

theorem namedText_yields
    {tag written text : String}
    (isValue : scalarValue tag written = pure (.text text))
    (typeName current : String) :
    Yields ((namedText typeName).read limit (.scalar tag written style line) current) True
      (· = (text, true)) := by
  refine ((scalar_yields isValue (by simp) current).imp ?_).congr (by simp)
  rintro ⟨result, usable⟩ ⟨isResult, rfl⟩
  cases isResult
  rfl

theorem text_yields
    (written current : String) :
    Yields (text.read limit (.scalar "!!str" written style line) current) True
      (· = (written, true)) :=
  namedText_yields (scalarValue_str written) "string" current

theorem bool_yields
    (flag current : Bool) :
    Yields (bool.read limit (.scalar "!!bool" (toString flag) style line) current) True
      (· = (flag, true)) := by
  have isValue : scalarValue "!!bool" (toString flag) = pure (.bool flag) := by
    cases flag <;> rfl
  refine ((scalar_yields isValue (by simp) current).imp ?_).congr (by simp)
  rintro ⟨result, usable⟩ ⟨isResult, rfl⟩
  cases isResult
  rfl

/-- The tag of a number in decimal is that of its value. -/
theorem scalarTag_toString
    (number : Nat) :
    scalarTag "" (toString number) .plain = (plainValue true (toString number)).tag := by
  have notMerge : (toString number == "<<") = false := by
    rw [beq_eq_false_iff_ne]
    intro isMerge
    have isMember : '<' ∈ Nat.toDigits 10 number := by
      rw [← Text.toList_toString, isMerge]
      decide
    exact absurd (Text.isDigit_of_mem_toDigits number '<' isMember) (by decide)
  have given : ("" != "" && "" != "!") = false := by decide
  simp only [scalarTag, given, notMerge, Bool.false_eq_true, if_false, ne_eq, not_true_eq_false]

/-- A number in decimal under its own tag is read as its value. -/
theorem scalarValue_toString
    (number : Nat) :
    ∃ value, scalarValue (scalarTag "" (toString number) .plain) (toString number) = pure value ∧
      IsValueOf number value := by
  obtain ⟨value, isValue, kind⟩ := plainValue_toString number
  refine ⟨value, ?_, kind⟩
  rw [scalarTag_toString, isValue]
  rcases kind with ⟨-, rfl⟩ | ⟨-, rfl | rfl⟩
  · generalize toString number = text at isValue
    simp [scalarValue, Value.tag, isValue]
  · generalize toString number = text at isValue
    simp [scalarValue, Value.tag, isValue]
  · simp [scalarValue, Value.tag]

/-- A number in decimal is read if it has at most 32 bits. -/
theorem uint32_yields
    (number : Nat)
    (current : UInt32) :
    Yields
      (uint32.read limit
        (.scalar (scalarTag "" (toString number) .plain) (toString number) .plain line) current)
      (number < 2 ^ 32) (· = (UInt32.ofNat number, true)) := by
  obtain ⟨value, isValue, kind⟩ := scalarValue_toString number
  have notNull : value ≠ .null := by
    rintro rfl
    simp [IsValueOf] at kind
  unfold uint32
  -- Rounding keeps a number that has more than 64 bits far above 32 bits.
  have tooLarge (large : 2 ^ 64 ≤ number) :
      ∀ whole, Real.natural? (.finite ⟨false, number, 0⟩) = some whole → ¬whole < Nat.pow 2 32 := by
    intro whole isWhole small
    have bound := le_wholeOf_toBinary large
    simp only [Real.natural?, Bool.false_and, Bool.false_eq_true, if_false,
      Option.some.injEq] at isWhole
    have same : wholeOf (Text.Decimal.toBinary ⟨false, number, 0⟩) = whole := isWhole
    rw [same] at bound
    exact absurd small (Nat.not_lt.mpr bound)
  rcases kind with ⟨-, rfl⟩ | ⟨large, rfl | rfl⟩
  · refine ((scalar_yields isValue notNull current).imp ?_).congr ?_
    · rintro ⟨result, usable⟩ ⟨isResult, rfl⟩
      simp only [Int.natCast_nonneg, if_true, Int.toNat_natCast] at isResult
      split at isResult
      · cases isResult
        rfl
      · cases isResult
    · simp only [Int.natCast_nonneg, if_true, Int.toNat_natCast]
      show (if number < 2 ^ 32 then some (UInt32.ofNat number) else none).isSome = true ↔ _
      split <;> simp_all
  · have notSmall : ¬number < 2 ^ 32 := by omega
    cases isWhole : Real.natural? (.finite ⟨false, number, 0⟩) with
    | none =>
        refine ((scalar_yields isValue notNull current).imp ?_).congr ?_
        · rintro result ⟨isResult, -⟩
          simp [isWhole] at isResult
        · simpa [isWhole] using notSmall
    | some whole =>
        have notWhole := tooLarge large whole isWhole
        refine ((scalar_yields isValue notNull current).imp ?_).congr ?_
        · rintro result ⟨isResult, -⟩
          simp [isWhole, notWhole] at isResult
        · simpa [isWhole, notWhole] using notSmall
  · refine ((scalar_yields isValue notNull current).imp ?_).congr ?_
    · rintro ⟨result, usable⟩ ⟨isResult, -⟩
      cases isResult
    · simp
      omega

/-! ## Lists -/

section Lists

variable {shape : Shape α} {initial : α} {itemIn : Node → β → Prop} {fits : β → Prop}
  {meaning : β → α}

/-- All items are read, in order. -/
theorem items_yields
    (reads : ∀ node item, itemIn node item →
      Yields (shape.read limit node initial) (fits item) (· = (meaning item, true)))
    {nodes : List Node}
    {written : List β}
    (listed : List.Forall₂ itemIn nodes written)
    (latest : List α) :
    Yields (items shape limit initial latest nodes) (∀ item ∈ written, fits item)
      (· = latest.reverse ++ written.map meaning) := by
  induction listed generalizing latest with
  | nil => exact (Yields.of_pure (by simp)).congr (by simp)
  | @cons node item nodes written isItem rest inductionHypothesis =>
      refine ((reads node item isItem).bind fun read => ?_).congr List.forall_mem_cons.symm
      obtain ⟨value, usable⟩ := read
      refine (inductionHypothesis (if usable then value :: latest else latest)).imp ?_
      rintro last rfl isRead
      cases isRead
      simp

theorem list_yields
    {typeName tag : String}
    (reads : ∀ node item, itemIn node item →
      Yields (shape.read limit node initial) (fits item) (· = (meaning item, true)))
    {nodes : List Node}
    {written : List β}
    (listed : List.Forall₂ itemIn nodes written)
    (current : Option (List α)) :
    Yields ((list typeName shape initial).read limit (.sequence tag nodes line) current)
      (∀ item ∈ written, fits item) (· = (some (written.map meaning), true)) := by
  unfold list
  dsimp only
  refine Yields.of_resolve (by simp) ?_
  refine ((items_yields reads listed []).bind fun read =>
    (Yields.of_pure ?_)).congr (Iff.of_eq (and_true _))
  rintro rfl
  rfl

end Lists

/-! ## Records -/

/-- A mapping whose keys are different texts. -/
structure IsRecord
    (entries : List (Node × Node)) : Prop where
  keys : ∀ entry ∈ entries, ∃ text style line, entry.1 = .scalar "!!str" text style line
  different : (entries.map (·.1.text)).Nodup

section Records

variable {entries : List (Node × Node)}

theorem IsRecord.tail
    {entry : Node × Node}
    (isRecord : IsRecord (entry :: entries)) :
    IsRecord entries where
  keys other isMember := isRecord.keys other (List.mem_cons_of_mem _ isMember)
  different := (List.nodup_cons.mp isRecord.different).2

theorem repeatedKeys_eq_nil
    (isRecord : IsRecord entries) :
    repeatedKeys (entries.map (·.1)) = [] := by
  induction entries with
  | nil => rfl
  | cons entry rest inductionHypothesis =>
      have notLater : (rest.map (·.1)).filter (sameKey entry.1) = [] := by
        rw [List.filter_eq_nil_iff]
        intro key isKey same
        obtain ⟨other, isOther, rfl⟩ := List.mem_map.mp isKey
        obtain ⟨text, style, line, isText⟩ := isRecord.keys entry (by simp)
        obtain ⟨otherText, otherStyle, otherLine, isOtherText⟩ :=
          isRecord.keys other (List.mem_cons_of_mem _ isOther)
        rw [isText, isOtherText] at same
        have sameText : text = otherText := by simpa [sameKey] using same
        refine (List.nodup_cons.mp isRecord.different).1 (List.mem_map.mpr ⟨other, isOther, ?_⟩)
        show other.1.text = entry.1.text
        rw [isText, isOtherText, sameText]
        rfl
      simp only [List.map_cons, repeatedKeys, notLater, List.map_nil, List.nil_append]
      exact inductionHypothesis isRecord.tail

theorem filter_isMerge
    (isRecord : IsRecord entries) :
    entries.filter (·.1.isMerge) = [] := by
  rw [List.filter_eq_nil_iff]
  intro entry isMember
  obtain ⟨text, style, line, isText⟩ := isRecord.keys entry isMember
  simp [isText, Node.isMerge]

/-- The entry that is found under its key is itself. -/
theorem IsRecord.find?_eq
    (isRecord : IsRecord entries)
    {entry : Node × Node}
    (isEntry : entry ∈ entries) :
    entries.find? (·.1.text == entry.1.text) = some entry := by
  induction entries with
  | nil => cases isEntry
  | cons first rest inductionHypothesis =>
      rcases List.mem_cons.mp isEntry with rfl | isLater
      · simp
      · have different : first.1.text ≠ entry.1.text := fun same =>
          (List.nodup_cons.mp isRecord.different).1 (List.mem_map.mpr ⟨entry, isLater, same.symm⟩)
        rw [List.find?_cons_of_neg (by simpa using different)]
        exact inductionHypothesis isRecord.tail isLater

@[simp]
theorem field_name
    (name : String)
    (shape : Shape α)
    (get : σ → α)
    (put : σ → α → σ) :
    (field name shape get put).name = name :=
  rfl

/-- A component of a record, under the key that sets it. -/
structure Part (σ : Type) where
  key : String
  {kind : Type}
  get : σ → kind

/-- Two records have the same components under a key. -/
def Agree
    (parts : List (Part σ))
    (key : String)
    (left right : σ) : Prop :=
  ∀ part ∈ parts, part.key = key → part.get left = part.get right

theorem Agree.refl
    (parts : List (Part σ))
    (key : String)
    (record : σ) :
    Agree parts key record record :=
  fun _ _ _ => rfl

theorem Agree.trans
    {parts : List (Part σ)}
    {key : String}
    {first second third : σ}
    (left : Agree parts key first second)
    (right : Agree parts key second third) :
    Agree parts key first third :=
  fun part isPart isKey => (left part isPart isKey).trans (right part isPart isKey)

/-- Reading a node sets the components under a key, as those of the target where they were initial,
and nothing else. -/
def SetsField
    (found : Field σ)
    (limit : Nat)
    (parts : List (Part σ))
    (fits : Prop)
    (initial target : σ)
    (node : Node) : Prop :=
  ∀ record, Yields (found.read limit node record) fits fun next =>
    (Agree parts found.name record initial → Agree parts found.name next target) ∧
      ∀ key, key ≠ found.name → Agree parts key next record

variable {fields : List (Field σ)} {parts : List (Part σ)} {fitsAt : String → Prop}
  {initial target : σ} {typeName : String}

/-- Every entry sets its own field, in any order. -/
theorem entriesFrom_yields
    (isRecord : IsRecord entries)
    (sets : ∀ entry ∈ entries, ∃ found, fields.find? (·.name == entry.1.text) = some found ∧
      SetsField found limit parts (fitsAt entry.1.text) initial target entry.2)
    (seen : List String)
    (unseen : ∀ entry ∈ entries, entry.1.text ∉ seen)
    (record : σ) :
    Yields (entriesFrom typeName fields limit none seen record entries)
      (∀ entry ∈ entries, fitsAt entry.1.text) fun result => result.2 = none ∧
        ((∀ entry ∈ entries, Agree parts entry.1.text record initial) →
          ∀ entry ∈ entries, Agree parts entry.1.text result.1 target) ∧
        ∀ key, key ∉ entries.map (·.1.text) → Agree parts key result.1 record := by
  induction entries generalizing seen record with
  | nil =>
      exact (Yields.of_pure ⟨rfl, by simp, fun key _ => .refl parts key record⟩).congr (by simp)
  | cons entry rest inductionHypothesis =>
      obtain ⟨key, value⟩ := entry
      obtain ⟨text, style, line, isText⟩ := isRecord.keys (key, value) (by simp)
      simp only at isText
      subst isText
      have isKey : (Node.scalar "!!str" text style line).text = text := rfl
      obtain ⟨⟨found, isFound, setsHere⟩, setsRest⟩ := List.forall_mem_cons.mp sets
      simp only [isKey] at isFound setsHere
      have isName : found.name = text := by simpa using List.find?_some isFound
      have notSeen : seen.contains text = false := by
        simpa [isKey] using unseen _ (List.mem_cons_self ..)
      have notLater : text ∉ rest.map (·.1.text) := (List.nodup_cons.mp isRecord.different).1
      have restUnseen : ∀ entry ∈ rest, entry.1.text ∉ text :: seen := by
        intro entry isMember isSeen
        rcases List.mem_cons.mp isSeen with isText | isSeen
        · exact notLater (List.mem_map.mpr ⟨entry, isMember, isText⟩)
        · exact unseen entry (List.mem_cons_of_mem _ isMember) isSeen
      have read : Yields
          (found.read limit value record >>= fun next =>
            entriesFrom typeName fields limit none (text :: seen) next rest)
          (fitsAt text ∧ ∀ entry ∈ rest, fitsAt entry.1.text) fun result => result.2 = none ∧
            ((∀ entry ∈ (Node.scalar "!!str" text style line, value) :: rest,
                Agree parts entry.1.text record initial) →
              ∀ entry ∈ (Node.scalar "!!str" text style line, value) :: rest,
                Agree parts entry.1.text result.1 target) ∧
            ∀ key, key ∉ ((Node.scalar "!!str" text style line, value) :: rest).map (·.1.text) →
              Agree parts key result.1 record := by
        refine (setsHere record).bind fun next =>
          (inductionHypothesis isRecord.tail setsRest (text :: seen) restUnseen next).imp ?_
        rintro ⟨last, taken⟩ ⟨rfl, agreesRest, unchanged⟩ ⟨agreesHere, unchangedHere⟩
        rw [isName] at agreesHere unchangedHere
        refine ⟨rfl, fun agrees => ?_, fun key notKey => ?_⟩
        · obtain ⟨here, others⟩ := List.forall_mem_cons.mp agrees
          refine List.forall_mem_cons.mpr ⟨?_, agreesRest fun entry isMember => ?_⟩
          · exact (unchanged text notLater).trans (agreesHere here)
          · have different : entry.1.text ≠ text := fun same =>
              notLater (List.mem_map.mpr ⟨entry, isMember, same⟩)
            exact (unchangedHere _ different).trans (others entry isMember)
        · rw [List.map_cons, List.mem_cons, not_or] at notKey
          exact (unchanged key notKey.2).trans (unchangedHere key notKey.1)
      have notMerge : ¬(Node.scalar "!!str" text style line).isMerge = true := by
        simp [Node.isMerge]
      have notTaken : Taken.has none (.text text) = false := rfl
      unfold entriesFrom
      rw [if_neg notMerge]
      refine ((text_yields text "").bind_always ?_).congr List.forall_mem_cons.symm
      rintro name rfl
      simp only [Bool.not_true, notTaken, Bool.or_self, Bool.false_eq_true, if_false, isFound,
        notSeen]
      exact read

/-- Whatever stood there, a node is read if a condition holds, and then from the initial value as
the given one. -/
def Reads
    (shape : Shape α)
    (limit : Nat)
    (node : Node)
    (fits : Prop)
    (initial value : α) : Prop :=
  ∀ current, Yields (shape.read limit node current) fits fun result =>
    current = initial → result = (value, true)

/-- The value under a key, or its absence, is what a field of the target needs. -/
def ReadsField
    (found : Field σ)
    (limit : Nat)
    (parts : List (Part σ))
    (fits : Prop)
    (initial target : σ) :
    Option Node → Prop
  | some node => SetsField found limit parts fits initial target node
  | none => fits ∧ Agree parts found.name initial target

/-- The entries of a mapping make up the target: their keys are different and known, and every
field is read or rightly left out. -/
structure MakesUp
    (fields : List (Field σ))
    (limit : Nat)
    (parts : List (Part σ))
    (fitsAt : String → Prop)
    (initial target : σ)
    (entries : List (Node × Node)) : Prop where
  isRecord : IsRecord entries
  known : ∀ entry ∈ entries, entry.1.text ∈ fields.map (·.name)
  reads : ∀ found ∈ fields, ReadsField found limit parts (fitsAt found.name) initial target
    ((entries.find? (·.1.text == found.name)).map (·.2))
  others : ∀ part ∈ parts, part.key ∉ fields.map (·.name) → part.get initial = part.get target
  complete : ∀ {left right : σ}, (∀ part ∈ parts, part.get left = part.get right) → left = right

namespace MakesUp

theorem found_of_mem
    (makesUp : MakesUp fields limit parts fitsAt initial target entries)
    {entry : Node × Node}
    (isEntry : entry ∈ entries) :
    ∃ found ∈ fields, found.name = entry.1.text ∧
      fields.find? (·.name == entry.1.text) = some found := by
  obtain ⟨field, isField, isName⟩ := List.mem_map.mp (makesUp.known entry isEntry)
  have isSome : (fields.find? (·.name == entry.1.text)).isSome = true :=
    List.find?_isSome.mpr ⟨field, isField, by simp [isName]⟩
  obtain ⟨found, isFound⟩ := Option.isSome_iff_exists.mp isSome
  exact ⟨found, List.mem_of_find?_eq_some isFound, by simpa using List.find?_some isFound, isFound⟩

theorem sets
    (makesUp : MakesUp fields limit parts fitsAt initial target entries) :
    ∀ entry ∈ entries, ∃ found, fields.find? (·.name == entry.1.text) = some found ∧
      SetsField found limit parts (fitsAt entry.1.text) initial target entry.2 := by
  intro entry isEntry
  obtain ⟨found, isField, isName, isFound⟩ := makesUp.found_of_mem isEntry
  have readsField := makesUp.reads found isField
  rw [isName, makesUp.isRecord.find?_eq isEntry] at readsField
  exact ⟨found, isFound, readsField⟩

theorem fits_iff
    (makesUp : MakesUp fields limit parts fitsAt initial target entries) :
    (∀ entry ∈ entries, fitsAt entry.1.text) ↔ ∀ found ∈ fields, fitsAt found.name := by
  constructor
  · intro fits found isField
    have readsField := makesUp.reads found isField
    cases isEntry : entries.find? (·.1.text == found.name) with
    | none =>
        rw [isEntry] at readsField
        exact readsField.1
    | some entry =>
        have isName : entry.1.text = found.name := by simpa using List.find?_some isEntry
        exact isName ▸ fits entry (List.mem_of_find?_eq_some isEntry)
  · intro fits entry isEntry
    obtain ⟨found, isField, isName, -⟩ := makesUp.found_of_mem isEntry
    exact isName ▸ fits found isField

/-- A component that no entry sets is that of the target from the start. -/
theorem initial_eq
    (makesUp : MakesUp fields limit parts fitsAt initial target entries)
    {part : Part σ}
    (isPart : part ∈ parts)
    (unwritten : part.key ∉ entries.map (·.1.text)) :
    part.get initial = part.get target := by
  by_cases isField : part.key ∈ fields.map (·.name)
  · obtain ⟨found, isFound, isName⟩ := List.mem_map.mp isField
    have isAbsent : entries.find? (·.1.text == found.name) = none := by
      rw [List.find?_eq_none]
      intro entry isEntry isKey
      rw [beq_iff_eq, isName] at isKey
      exact unwritten (List.mem_map.mpr ⟨entry, isEntry, isKey⟩)
    have readsField := makesUp.reads found isFound
    rw [isAbsent] at readsField
    exact readsField.2 part isPart isName.symm
  · exact makesUp.others part isPart isField

/-- A record is read where all its fields are. -/
theorem reads_record
    {optional : Bool}
    {fits : Prop}
    (makesUp : MakesUp fields limit parts fitsAt initial target entries)
    (allFit : (∀ found ∈ fields, fitsAt found.name) ↔ fits) :
    Reads (record typeName fields optional) (limit + 1) (.mapping "!!map" entries line) fits initial
      target := by
  intro current
  have notNull : ((Node.mapping "!!map" entries line).shortTag == "!!null") = false :=
    beq_eq_false_iff_ne.mpr (by simp [Node.shortTag])
  have read : Yields (entriesFrom typeName fields limit none [] current entries >>= fun result =>
      pure (result.1, true)) fits fun result => current = initial → result = (target, true) := by
    refine ((entriesFrom_yields makesUp.isRecord makesUp.sets [] (by simp) current).bind
      fun result => Yields.of_pure ?_).congr
        ((and_true _).to_iff.trans (makesUp.fits_iff.trans allFit))
    rintro ⟨-, written, unwritten⟩ rfl
    congr 1
    refine makesUp.complete fun part isPart => ?_
    by_cases isWritten : part.key ∈ entries.map (·.1.text)
    · obtain ⟨entry, isEntry, isKey⟩ := List.mem_map.mp isWritten
      exact written (fun entry _ => .refl parts _ current) entry isEntry part isPart isKey.symm
    · exact (unwritten part.key isWritten part isPart rfl).trans
        (makesUp.initial_eq isPart isWritten)
  unfold record
  dsimp only
  refine Yields.of_resolve (by simp) ?_
  simp only [notNull, Bool.and_false, Bool.false_and, Bool.false_eq_true, if_false, recordFrom,
    repeatedKeys_eq_nil makesUp.isRecord, filter_isMerge makesUp.isRecord, List.isEmpty_nil,
    Bool.not_true, List.getLast?_nil, bind_assoc, pure_bind]
  exact read

end MakesUp

/-- The way a field is taken from and put into a record belongs to the components of its key. -/
structure IsPart
    (parts : List (Part σ))
    (name : String)
    (get : σ → α)
    (put : σ → α → σ) : Prop where
  isMember : ⟨name, get⟩ ∈ parts
  unique : ∀ part ∈ parts, part.key = name → part = ⟨name, get⟩
  get_put : ∀ record source, get (put record (get source)) = get source
  keeps : ∀ record value, ∀ part ∈ parts, part.key ≠ name →
    part.get (put record value) = part.get record

theorem field_reads
    {name : String}
    {shape : Shape α}
    {get : σ → α}
    {put : σ → α → σ}
    {fits : Prop}
    {node? : Option Node}
    (isPart : IsPart parts name get put)
    (given : ∀ node, node? = some node → Reads shape limit node fits (get initial) (get target))
    (absent : node? = none → fits ∧ get initial = get target) :
    ReadsField (field name shape get put) limit parts fits initial target node? := by
  cases node? with
  | none =>
      refine ⟨(absent rfl).1, fun part isMember isName => ?_⟩
      rw [isPart.unique part isMember isName]
      exact (absent rfl).2
  | some node =>
      intro record
      refine ((given node rfl (get record)).bind fun value =>
        Yields.of_pure (fun isRead => ?_)).congr (and_true _).to_iff
      refine ⟨fun agrees part isMember isName => ?_, fun key different part isMember isKey => ?_⟩
      · have isInitial : get record = get initial := agrees _ isPart.isMember rfl
        rw [isRead isInitial, isPart.unique part isMember isName]
        exact isPart.get_put record target
      · exact isPart.keeps record value.1 part isMember (isKey ▸ different)

end Records

end Shape

end Wayland.Yaml
