import Mathlib.Data.List.Nodup
import Wayland.Proofs.Catalog.Pool

/-!
Contract: collections are compiled independently of each other.

Owns:
- the collections that a selection keeps, and what it refuses;
- that a collection comes to the same when it is compiled alone, and without the imports that it
  lists itself.

Does not own: the order of the steps of a run.
-/

namespace Wayland.Catalog

open Wayland.Model (Protocol)

/-! ## Selections -/

namespace Manifest

variable {manifest : Manifest} {collection : Collection}

theorem nodup_of_problemFrom?
    {position : Nat}
    {seen : List String}
    {collections : List Collection}
    (valid : problemFrom? position seen collections = none) :
    (collections.map (·.name)).Nodup ∧ ∀ name ∈ collections.map (·.name), name ∉ seen := by
  induction collections generalizing position seen with
  | nil => exact ⟨List.nodup_nil, List.forall_mem_nil _⟩
  | cons collection rest inductionHypothesis =>
      unfold problemFrom? at valid
      repeat' split at valid
      all_goals try cases valid
      rename_i notSeen _
      obtain ⟨different, unseen⟩ := inductionHypothesis valid
      rw [List.map_cons, List.nodup_cons, List.forall_mem_cons]
      refine ⟨⟨fun isRepeated => ?_, different⟩, by simpa using notSeen, fun name isName => ?_⟩
      · exact unseen _ isRepeated List.mem_cons_self
      · exact fun isSeen => unseen name isName (List.mem_cons_of_mem _ isSeen)

/-- The collections of a valid manifest have different names. -/
theorem names_nodup
    (valid : manifest.problem? = none) :
    (manifest.collections.map (·.name)).Nodup := by
  unfold problem? at valid
  split at valid
  · cases valid
  · exact (nodup_of_problemFrom? valid).1

/-- A valid manifest finds every collection by its name. -/
theorem collection_of_mem
    (valid : manifest.problem? = none)
    (isMember : collection ∈ manifest.collections) :
    manifest.collection collection.name = .ok collection := by
  unfold Manifest.collection
  cases found : manifest.collections.find? (·.name == collection.name) with
  | none => simpa using List.find?_eq_none.mp found collection isMember
  | some other =>
      have sameName : other.name = collection.name := by simpa using List.find?_some found
      have isOther := List.mem_of_find?_eq_some found
      rw [List.inj_on_of_nodup_map (names_nodup valid) isOther isMember sameName]

theorem collection_of_not_mem
    {name : String}
    (unknown : ∀ collection ∈ manifest.collections, collection.name ≠ name) :
    manifest.collection name = .error (.unknownCollection name) := by
  unfold Manifest.collection
  rw [List.find?_eq_none.mpr (by simpa using unknown)]

/-- A collection with a name is there and to be compiled. -/
def Offers
    (manifest : Manifest)
    (name : String) : Prop :=
  ∃ collection ∈ manifest.collections, collection.name = name ∧ collection.enabled = true

/-- A reason to refuse a name: it is unknown, or that of a collection that is left out. -/
def Refuses
    (manifest : Manifest)
    (name : String)
    (problem : ManifestProblem) : Prop :=
  (problem = .unknownCollection name ∧
      ∀ collection ∈ manifest.collections, collection.name ≠ name) ∨
    ∃ collection ∈ manifest.collections, collection.name = name ∧ collection.enabled = false ∧
      problem = .collectionDisabled name collection.disabled

/-- A name is offered or refused. -/
theorem offers_or_refuses
    (valid : manifest.problem? = none)
    (name : String)
    (rest : List String) :
    (manifest.Offers name ∧ manifest.selectProblem? (name :: rest) = manifest.selectProblem? rest) ∨
      ∃ problem, manifest.Refuses name problem ∧
        manifest.selectProblem? (name :: rest) = some problem := by
  rw [selectProblem?]
  by_cases known : ∃ collection ∈ manifest.collections, collection.name = name
  · obtain ⟨collection, isMember, rfl⟩ := known
    rw [collection_of_mem valid isMember]
    cases enabled : collection.enabled with
    | true => exact .inl ⟨⟨collection, isMember, rfl, enabled⟩, by simp [enabled]⟩
    | false =>
        exact .inr ⟨_, .inr ⟨collection, isMember, rfl, enabled, rfl⟩, by simp [enabled]⟩
  · have unknown : ∀ collection ∈ manifest.collections, collection.name ≠ name :=
      fun collection isMember sameName => known ⟨collection, isMember, sameName⟩
    rw [collection_of_not_mem unknown]
    exact .inr ⟨_, .inl ⟨rfl, unknown⟩, rfl⟩

theorem not_offers_of_refuses
    (valid : manifest.problem? = none)
    {name : String}
    {problem : ManifestProblem}
    (refuses : manifest.Refuses name problem) :
    ¬manifest.Offers name := by
  rintro ⟨collection, isMember, sameName, enabled⟩
  rcases refuses with ⟨-, unknown⟩ | ⟨other, isOther, otherName, disabled, -⟩
  · exact unknown collection isMember sameName
  · have same := List.inj_on_of_nodup_map (names_nodup valid) isOther isMember
      (otherName.trans sameName.symm)
    rw [same, enabled] at disabled
    cases disabled

/-- Names are selected exactly if all are offered, and otherwise one of them is refused. -/
theorem selectProblem?_cases
    (valid : manifest.problem? = none)
    (names : List String) :
    ((∀ name ∈ names, manifest.Offers name) ∧ manifest.selectProblem? names = none) ∨
      ∃ name ∈ names, ∃ problem, manifest.Refuses name problem ∧
        manifest.selectProblem? names = some problem := by
  induction names with
  | nil => exact .inl ⟨List.forall_mem_nil _, rfl⟩
  | cons name rest inductionHypothesis =>
      rcases offers_or_refuses valid name rest with ⟨offers, same⟩ | ⟨problem, refuses, found⟩
      · rw [same]
        rcases inductionHypothesis with ⟨offersRest, noProblem⟩ | ⟨other, isOther, refused⟩
        · exact .inl ⟨List.forall_mem_cons.mpr ⟨offers, offersRest⟩, noProblem⟩
        · exact .inr ⟨other, List.mem_cons_of_mem _ isOther, refused⟩
      · exact .inr ⟨name, List.mem_cons_self, problem, refuses, found⟩

/-- What a selection comes to.  Names in any order and any number keep the collections that they
name, in the order of the manifest, if all are known and enabled.  No names keep all collections. -/
structure Selects
    (manifest : Manifest)
    (names : List String) : Prop where
  whole : names = [] → manifest.select names = .ok manifest
  kept : names ≠ [] → (∀ name ∈ names, manifest.Offers name) →
    manifest.select names =
      .ok { manifest with collections := manifest.collections.filter (names.contains ·.name) }
  refused : (∃ name ∈ names, ¬manifest.Offers name) →
    ∃ name ∈ names, ∃ problem, manifest.Refuses name problem ∧
      manifest.select names = .error problem

theorem selects
    (valid : manifest.problem? = none)
    (names : List String) :
    manifest.Selects names where
  whole noNames := by
    rw [noNames]
    rfl
  kept someNames offers := by
    unfold select
    rw [if_neg (by simpa using someNames)]
    rcases selectProblem?_cases valid names with
      ⟨-, noProblem⟩ | ⟨name, isName, problem, refuses, -⟩
    · rw [noProblem]
    · exact absurd (offers name isName) (not_offers_of_refuses valid refuses)
  refused := by
    rintro ⟨name, isName, notOffered⟩
    unfold select
    rw [if_neg (by simpa using List.ne_nil_of_mem isName)]
    rcases selectProblem?_cases valid names with
      ⟨offers, -⟩ | ⟨other, isOther, problem, refuses, found⟩
    · exact absurd (offers name isName) notOffered
    · exact ⟨other, isOther, problem, refuses, by rw [found]⟩

theorem filter_named
    {collections : List Collection}
    (different : (collections.map (·.name)).Nodup)
    (isMember : collection ∈ collections) :
    collections.filter ([collection.name].contains ·.name) = [collection] := by
  induction collections with
  | nil => cases isMember
  | cons first rest inductionHypothesis =>
      rw [List.map_cons, List.nodup_cons] at different
      obtain ⟨isNew, differentRest⟩ := different
      rcases List.mem_cons.mp isMember with rfl | inRest
      · have noOther : rest.filter ([collection.name].contains ·.name) = [] := by
          rw [List.filter_eq_nil_iff]
          intro other isOther
          have sameName := List.mem_map_of_mem (f := Collection.name) isOther
          simp only [List.contains_cons, List.contains_nil, Bool.or_false, beq_iff_eq]
          rintro isSame
          exact isNew (isSame ▸ sameName)
        rw [List.filter_cons_of_pos (by simp), noOther]
      · have notFirst : first.name ≠ collection.name := by
          rintro isSame
          exact isNew (isSame ▸ List.mem_map_of_mem (f := Collection.name) inRest)
        rw [List.filter_cons_of_neg (by simpa using notFirst)]
        exact inductionHypothesis differentRest inRest

end Manifest

/-! ## Runs of one collection -/

namespace Run

def only
    (run : Run)
    (collection : Collection) :
    Run :=
  { run with manifest := { run.manifest with collections := [collection] } }

/-- A run without the imports that are documents of a collection. -/
def without
    (run : Run)
    (collection : Collection) :
    Run :=
  { run with
    manifest :=
      { run.manifest with
        imports := run.manifest.imports.filter fun document =>
          !(collection.documents.map run.cleanPath).contains (run.cleanPath document) } }

variable {run : Run} {imports : List Protocol} {records : List Record} {collection : Collection}

theorem select_only
    (valid : run.manifest.problem? = none)
    (isMember : collection ∈ run.manifest.collections)
    (enabled : collection.enabled = true) :
    run.manifest.select [collection.name] = .ok (run.only collection).manifest := by
  have offers : ∀ name ∈ [collection.name], run.manifest.Offers name :=
    List.forall_mem_singleton.mpr ⟨collection, isMember, rfl, enabled⟩
  have kept := (Manifest.selects valid [collection.name]).kept (List.cons_ne_nil _ _) offers
  rw [Manifest.filter_named (Manifest.names_nodup valid) isMember] at kept
  exact kept

/-- A run that has its imports gives every collection its outcome. -/
theorem compile_eq
    (notCancelled : run.cancelled = false)
    (areImports : run.imports = (records, .ok imports)) :
    run.compile.2 =
      .ok ⟨imports, run.manifest.collections.map fun collection =>
        (run.compileCollection imports collection).2⟩ := by
  unfold compile
  rw [areImports, notCancelled]
  simp only [Bool.false_and, Bool.false_eq_true, if_false, List.map_map]
  rfl

theorem compile_only
    (notCancelled : run.cancelled = false)
    (areImports : run.imports = (records, .ok imports)) :
    (run.only collection).compile.2 =
      .ok ⟨imports, [(run.compileCollection imports collection).2]⟩ := by
  have sameImports : (run.only collection).imports = (records, .ok imports) := areImports
  exact compile_eq notCancelled sameImports

/-! ## Imports that a collection lists itself -/

theorem forall₂_filter_zip
    {α β : Type}
    {related : α → β → Prop}
    {left : List α}
    {right : List β}
    (areRelated : List.Forall₂ related left right)
    (test : α → Bool) :
    List.Forall₂ related (left.filter test)
      (((left.zip right).filter fun pair => test pair.1).map (·.2)) := by
  induction areRelated with
  | nil => exact .nil
  | @cons one other _ _ isRelated _ inductionHypothesis =>
      rw [List.zip_cons_cons]
      simp only [List.filter_cons]
      cases test one with
      | true => exact .cons isRelated inductionHypothesis
      | false => exact inductionHypothesis

/-- The imports that are left have the protocols that the collection is judged with. -/
theorem imports_without
    (areImports : run.imports = (records, .ok imports))
    (collection : Collection) :
    ∃ records,
      (run.without collection).imports =
        (records, .ok (run.foreignImports imports collection)) := by
  have areRead : List.Forall₂ (fun document protocol => run.document document = .ok protocol)
      run.manifest.imports imports := by
    unfold Run.imports at areImports
    split at areImports
    · cases areImports
    · rename_i isRead
      cases areImports
      exact forall₂_of_readDocuments isRead
  have areForeign := forall₂_filter_zip areRead fun document =>
    !(collection.documents.map run.cleanPath).contains (run.cleanPath document)
  obtain ⟨foreignRecords, isRead⟩ := readDocuments_of_forall₂ .imported areForeign
  refine ⟨foreignRecords, ?_⟩
  have sameRead : readDocuments .imported (run.without collection).document
      (run.without collection).manifest.imports =
        (run.foreignImports imports collection, foreignRecords, none) := isRead
  unfold Run.imports
  rw [sameRead]

theorem filter_zip_filter
    {α β : Type}
    (left : List α)
    (right : List β)
    (test : α → Bool) :
    (((left.filter test).zip (((left.zip right).filter fun pair => test pair.1).map (·.2))).filter
        fun pair => test pair.1).map (·.2) =
      ((left.zip right).filter fun pair => test pair.1).map (·.2) := by
  induction left generalizing right with
  | nil => rfl
  | cons one left inductionHypothesis =>
      cases right with
      | nil => simp
      | cons other right =>
          have others := inductionHypothesis right
          simp only [List.zip_cons_cons, List.filter_cons]
          cases passes : test one with
          | true => simp [passes, others]
          | false => simpa using others

/-- What is left is foreign to the collection again. -/
theorem foreignImports_without
    (run : Run)
    (imports : List Protocol)
    (collection : Collection) :
    (run.without collection).foreignImports (run.foreignImports imports collection) collection =
      run.foreignImports imports collection :=
  filter_zip_filter run.manifest.imports imports fun document =>
    !(collection.documents.map run.cleanPath).contains (run.cleanPath document)

/-- A collection comes to the same without the imports that it lists itself. -/
theorem compileCollection_without
    (run : Run)
    (imports : List Protocol)
    (collection : Collection) :
    ((run.without collection).compileCollection (run.foreignImports imports collection)
        collection).2 =
      (run.compileCollection imports collection).2 := by
  have sameDocument : (run.without collection).document = run.document := rfl
  have sameJudge (protocols : List Protocol) :
      (run.without collection).judge (run.foreignImports imports collection) collection protocols =
        run.judge imports collection protocols := by
    unfold judge
    rw [foreignImports_without]
    rfl
  simp only [outcome_compileCollection, sameDocument, sameJudge]

/-! ## Independence -/

/-- The outcome of a collection depends on nothing but the collection and the imports that it does
not list itself. -/
structure Isolates
    (run : Run)
    (imports : List Protocol)
    (collection : Collection)
    (outcome : Outcome) : Prop where
  name : outcome.name = collection.name
  /-- A collection that is left out is skipped, and none of its documents is read. -/
  skipped : collection.enabled = false →
    run.compileCollection imports collection =
        ([], collection.outcome [] (.skipped collection.disabled)) ∧
      outcome = collection.outcome [] (.skipped collection.disabled)
  /-- Any other collection has the outcome of a run that selects it alone. -/
  alone : collection.enabled = true →
    run.manifest.select [collection.name] = .ok (run.only collection).manifest ∧
      (run.only collection).compile.2 = .ok ⟨imports, [outcome]⟩
  failed : ∀ failure, outcome.failure? = some failure → outcome.outputs = []
  /-- The imports that the collection lists itself take no part. -/
  own : ∃ records foreign, (run.without collection).imports = (records, .ok foreign) ∧
    ((run.without collection).compileCollection foreign collection).2 = outcome

theorem isolates
    (valid : run.manifest.problem? = none)
    (notCancelled : run.cancelled = false)
    (areImports : run.imports = (records, .ok imports))
    (isMember : collection ∈ run.manifest.collections) :
    run.Isolates imports collection (run.compileCollection imports collection).2 where
  name := by
    rw [outcome_compileCollection]
    split <;> rfl
  skipped disabled := by
    have isSkipped : run.compileCollection imports collection =
        ([], collection.outcome [] (.skipped collection.disabled)) := by
      unfold compileCollection
      rw [disabled]
      rfl
    exact ⟨isSkipped, by rw [isSkipped]⟩
  alone enabled := ⟨select_only valid isMember enabled, compile_only notCancelled areImports⟩
  failed failure isFailure := by
    unfold Outcome.failure? at isFailure
    unfold Outcome.outputs
    split at isFailure
    · rename_i verdict
      rw [verdict]
    · cases isFailure
  own := by
    obtain ⟨foreignRecords, areForeign⟩ := imports_without areImports collection
    exact ⟨foreignRecords, _, areForeign, compileCollection_without run imports collection⟩

end Run

/-- Where the imports of a valid manifest can be read, every collection has one outcome, in the
order of the manifest.  It is the outcome that the collection has when it is compiled alone, however
many collections are under way at once and in whatever order they take their steps.  A selection
keeps the collections that are named, or all if none is. -/
theorem collections_compile_independently
    {run : Run}
    (valid : run.manifest.problem? = none)
    (notCancelled : run.cancelled = false)
    {records : List Record}
    {imports : List Protocol}
    (areImports : run.imports = (records, .ok imports)) :
    (∃ outcomes, run.compile.2 = .ok ⟨imports, outcomes⟩ ∧
      List.Forall₂ (run.Isolates imports) run.manifest.collections outcomes ∧
      ∀ (processors : Nat) (configured : Int), 0 < processors →
        run.Settles imports (concurrency processors configured) outcomes) ∧
      ∀ names, run.manifest.Selects names := by
  refine ⟨⟨_, Run.compile_eq notCancelled areImports, ?_, ?_⟩, Manifest.selects valid⟩
  · rw [List.forall₂_map_right_iff, List.forall₂_same]
    exact fun collection isMember => Run.isolates valid notCancelled areImports isMember
  · intro processors configured someProcessors
    apply Run.settles
    unfold concurrency
    split <;> omega

def roomProtocol : Protocol where
  name := "room"
  document := "room.xml"
  interfaces := [{ name := "lamp", version := 1 }]

/-- A manifest that imports a document, which one of its collections lists too. -/
def streetManifest : Manifest where
  imports := ["room.xml"]
  collections :=
    [{ name := "inside", documents := ["./room.xml"] },
      { name := "closed", documents := ["wall.xml"], disabled := "no door" },
      { name := "outside", documents := ["gate.xml"] }]

/-- A run of that manifest.  All documents but the import are missing. -/
def streetRun : Run where
  manifest := streetManifest
  read path :=
    if path = "room.xml" then
      .ok (Text.Bytes.ofText
        "<protocol name='room'><interface name='lamp' version='1'/></protocol>")
    else .error ⟨.opening, path, .missing⟩

theorem street_compiles_independently :
    streetRun.manifest.problem? = none ∧
      (∃ records, streetRun.imports = (records, .ok [roomProtocol])) ∧
      (∃ inside closed outside,
        streetRun.compile.2 = .ok ⟨[roomProtocol], [inside, closed, outside]⟩ ∧
        (streetRun.only { name := "inside", documents := ["./room.xml"] }).compile.2 =
          .ok ⟨[roomProtocol], [inside]⟩ ∧
        closed.verdict = .skipped "no door" ∧
        streetRun.Settles [roomProtocol] (concurrency 2 0) [inside, closed, outside]) ∧
      streetManifest.select ["outside", "inside", "outside"] =
        .ok { streetManifest with
          collections := streetManifest.collections.filter
            (["outside", "inside", "outside"].contains ·.name) } := by
  have valid : streetRun.manifest.problem? = none := by decide
  have areImports : streetRun.imports = ([.document .imported true], .ok [roomProtocol]) := by
    decide +kernel
  have offers : ∀ name ∈ ["outside", "inside", "outside"], streetManifest.Offers name := by
    unfold Manifest.Offers
    decide
  obtain ⟨⟨outcomes, compiled, isolated, settles⟩, selects⟩ :=
    collections_compile_independently valid rfl areImports
  obtain ⟨inside, behind, isInside, others, rfl⟩ := List.forall₂_cons_left_iff.mp isolated
  obtain ⟨closed, last, isClosed, another, rfl⟩ := List.forall₂_cons_left_iff.mp others
  obtain ⟨outside, rest, -, nothing, rfl⟩ := List.forall₂_cons_left_iff.mp another
  obtain rfl := List.forall₂_nil_left_iff.mp nothing
  have skipped := (isClosed.skipped (by decide)).2
  exact ⟨valid, ⟨_, areImports⟩, ⟨inside, closed, outside, compiled,
    (isInside.alone (by decide)).2, by rw [skipped]; rfl, settles 2 0 (by decide)⟩,
    (selects _).kept (by decide) offers⟩

/-- Without names, a selection keeps all collections, also one that is left out. -/
theorem no_names_keep_street :
    streetManifest.problem? = none ∧ streetManifest.select [] = .ok streetManifest ∧
      streetManifest.select [] ≠
        .ok { streetManifest with
          collections := streetManifest.collections.filter (([] : List String).contains ·.name) } ∧
      ∃ collection ∈ streetManifest.collections, collection.enabled = false := by
  decide

end Wayland.Catalog
