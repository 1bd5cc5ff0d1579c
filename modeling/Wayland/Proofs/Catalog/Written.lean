import Mathlib.Tactic.Basic
import Wayland.Catalog.Compile
import Wayland.Proofs.Binding.Success
import Wayland.Proofs.File.Store

/-!
Contract: the generated files of a run on a disk.

Owns:
- that writing reports the paths of all files in order, and that a file can be read afterwards
  unless a later one has the same path;
- that the files of a run have different paths exactly if no two collections generate the same
  package, so that nothing is lost then;
- two collections that do, and what is lost of them.

Does not own: whether two collections do.  Two protocols of one collection never share a package,
but every collection is generated on its own.
-/

namespace Wayland.Catalog

open Wayland.Binding (Config Generator Output fileText packageName planProtocol planRole roleLines
  sharedLines)
open Wayland.File (Store)
open Wayland.File.Path (IsPlainPath join join_injective)
open Wayland.Text (Bytes)

/-! ## Writing -/

section Writing

variable {store after : Store} {directory : String} {written paths : List String}
variable {files rest : List (String × Binding.File)}

/-- A file that was written has its directory made, and then its content put at its path. -/
theorem writeFiles_cons
    {file : String × Binding.File}
    (wrote : (writeFiles Store.disk directory written (file :: rest)).run store =
      ((paths, none), after)) :
    ∃ made stored,
      Store.Extends store made ∧
      made.write (join [directory, file.2.path]) (Bytes.ofText file.2.content) = (stored, none) ∧
      (writeFiles Store.disk directory (join [directory, file.2.path] :: written) rest).run stored =
        ((paths, none), after) := by
  obtain ⟨collection, file⟩ := file
  have extended :=
    Store.makeDirectories_extends store (File.Path.directory (join [directory, file.path]))
  have noFailure := congrArg (fun outcome => outcome.1.2) wrote
  rw [writeFiles, Store.run_bind, Store.run_makeDirectories] at wrote noFailure
  cases made : store.makeDirectories (File.Path.directory (join [directory, file.path])) with
  | mk reached fault? =>
      rw [made] at wrote noFailure extended
      cases fault? with
      | some fault => cases noFailure
      | none =>
          simp only [Store.outcome] at wrote noFailure
          rw [Store.run_bind, Store.run_write] at wrote noFailure
          cases put : reached.write (join [directory, file.path]) (Bytes.ofText file.content) with
          | mk stored fault? =>
              rw [put] at wrote noFailure
              cases fault? with
              | some fault => cases noFailure
              | none => exact ⟨reached, stored, extended, put, wrote⟩

/-- A file whose directory can be made and that can be put at its path is written. -/
theorem writeFiles_step
    {made stored : Store}
    {collection name path content : String}
    (isPath : join [directory, name] = path)
    (isMade : store.makeDirectories (File.Path.directory path) = (made, none))
    (isPut : made.write path (Bytes.ofText content) = (stored, none))
    (written : List String)
    (rest : List (String × Binding.File)) :
    (writeFiles Store.disk directory written ((collection, ⟨name, content⟩) :: rest)).run store =
      (writeFiles Store.disk directory (path :: written) rest).run stored := by
  rw [writeFiles, isPath, Store.run_bind, Store.run_makeDirectories, isMade]
  simp only [Store.outcome]
  rw [Store.run_bind, Store.run_write, isPut]
  rfl

/-- The paths of all files are reported, latest first. -/
theorem writeFiles_paths
    (wrote : (writeFiles Store.disk directory written files).run store = ((paths, none), after)) :
    paths = (files.map fun file => join [directory, file.2.path]).reverse ++ written := by
  induction files generalizing store written with
  | nil =>
      cases wrote
      rfl
  | cons file rest inductionHypothesis =>
      obtain ⟨made, stored, -, -, further⟩ := writeFiles_cons wrote
      rw [inductionHypothesis further]
      simp

/-- A file that none of the written ones shares its path with stays as it is. -/
theorem writeFiles_frame
    (plain : ∀ file ∈ files, IsPlainPath file.2.path)
    {path : String}
    (isPlain : IsPlainPath path)
    (different : ∀ file ∈ files, file.2.path ≠ path)
    {content : Bytes}
    (present : store.read (join [directory, path]) = .ok content)
    (wrote : (writeFiles Store.disk directory written files).run store = ((paths, none), after)) :
    after.read (join [directory, path]) = .ok content := by
  induction files generalizing store written with
  | nil =>
      cases wrote
      exact present
  | cons file rest inductionHypothesis =>
      rw [List.forall_mem_cons] at plain different
      obtain ⟨made, stored, extended, put, further⟩ := writeFiles_cons wrote
      have before := Store.read_of_extends extended present
      have untouched :=
        Store.read_of_write_other isPlain plain.1 (Ne.symm different.1) before put
      exact inductionHypothesis plain.2 different.2 untouched further

/-- A file can be read after all are written, unless a later one has the same path. -/
theorem writeFiles_read
    {before : List (String × Binding.File)}
    {file : String × Binding.File}
    (plain : ∀ other ∈ before ++ file :: rest, IsPlainPath other.2.path)
    (isLast : ∀ other ∈ rest, other.2.path ≠ file.2.path)
    (wrote : (writeFiles Store.disk directory written (before ++ file :: rest)).run store =
      ((paths, none), after)) :
    after.read (join [directory, file.2.path]) = .ok (Bytes.ofText file.2.content) := by
  induction before generalizing store written with
  | nil =>
      rw [List.nil_append, List.forall_mem_cons] at plain
      obtain ⟨made, stored, -, put, further⟩ := writeFiles_cons wrote
      exact writeFiles_frame plain.2 plain.1 isLast (Store.read_of_write put) further
  | cons first others inductionHypothesis =>
      rw [List.cons_append, List.forall_mem_cons] at plain
      obtain ⟨made, stored, -, -, further⟩ := writeFiles_cons wrote
      exact inductionHypothesis plain.2 further

/-- Files with different paths can all be read after they are written. -/
theorem writeFiles_read_of_nodup
    (plain : ∀ file ∈ files, IsPlainPath file.2.path)
    (different : (files.map (·.2.path)).Nodup)
    (wrote : (writeFiles Store.disk directory written files).run store = ((paths, none), after))
    {file : String × Binding.File}
    (isMember : file ∈ files) :
    after.read (join [directory, file.2.path]) = .ok (Bytes.ofText file.2.content) := by
  obtain ⟨before, rest, rfl⟩ := List.mem_iff_append.mp isMember
  refine writeFiles_read plain (fun other isOther same => ?_) wrote
  rw [List.map_append, List.map_cons] at different
  have notLater := (List.nodup_cons.mp (List.nodup_append.mp different).2.1).1
  exact notLater (List.mem_map.mpr ⟨other, isOther, same⟩)

/-- The reported paths are different exactly if the files have different paths. -/
theorem paths_nodup_iff
    (plain : ∀ file ∈ files, IsPlainPath file.2.path) :
    (files.map fun file => join [directory, file.2.path]).Nodup ↔
      (files.map (·.2.path)).Nodup := by
  have joined :
      (files.map fun file => join [directory, file.2.path]) =
        (files.map (·.2.path)).map fun path => join [directory, path] := by
    rw [List.map_map]
    rfl
  rw [joined]
  refine ⟨List.Nodup.of_map _, fun different => ?_⟩
  refine List.Nodup.map_on (fun left isLeft right isRight same => ?_) different
  obtain ⟨one, isOne, rfl⟩ := List.mem_map.mp isLeft
  obtain ⟨other, isOther, rfl⟩ := List.mem_map.mp isRight
  exact join_injective (plain one isOne) (plain other isOther) same

end Writing

/-! ## Outputs of a run -/

/-- No two collections generate the same package. -/
def Result.Separate
    (result : Result) : Prop :=
  result.outcomes.Pairwise fun one other =>
    ∀ left ∈ one.outputs, ∀ right ∈ other.outputs, left.package ≠ right.package

/-- All outputs are placed by one generator, each collection generates a package at most once, and
the generator has different roles. -/
structure Result.Placed
    (result : Result)
    (generator : Generator) : Prop where
  roles : generator.roles.Nodup
  places : ∀ outcome ∈ result.outcomes, ∀ output ∈ outcome.outputs,
    ∃ package, generator.Places output package
  different : ∀ outcome ∈ result.outcomes,
    outcome.outputs.Pairwise fun one other => one.package ≠ other.package

section Run

variable {run : Run} {result : Result} {generator : Generator}

theorem outputs_of_judge
    {imports protocols : List Model.Protocol}
    {collection : Collection}
    {outputs : List Output}
    (judged : run.judge imports collection protocols = .compiled outputs) :
    outputs = [] ∨ ∃ generator, run.generator? = some generator ∧
      generator.generateAll run.cancelled protocols = .ok outputs := by
  unfold Run.judge at judged
  split at judged
  · cases judged
  · split at judged
    · cases judged
      exact Or.inl rfl
    · rename_i generator isGenerator
      split at judged
      · cases judged
      · rename_i generated
        cases judged
        exact Or.inr ⟨generator, isGenerator, generated⟩

/-- A collection has outputs only if one call of the generator gave all of them. -/
theorem outputs_of_compileCollection
    (run : Run)
    (imports : List Model.Protocol)
    (collection : Collection) :
    (run.compileCollection imports collection).2.outputs = [] ∨
      ∃ generator protocols, run.generator? = some generator ∧
        generator.generateAll run.cancelled protocols =
          .ok (run.compileCollection imports collection).2.outputs := by
  unfold Run.compileCollection
  simp only
  split
  · exact Or.inl rfl
  · split
    · exact Or.inl rfl
    · rename_i protocols records read
      cases judged : run.judge imports collection protocols with
      | failed failure => exact Or.inl rfl
      | skipped reason => exact Or.inl rfl
      | compiled outputs =>
          obtain isEmpty | ⟨generator, isGenerator, generated⟩ := outputs_of_judge judged
          · exact Or.inl isEmpty
          · exact Or.inr ⟨generator, protocols, isGenerator, generated⟩

theorem outcomes_of_compile
    (compiled : run.compile.2 = .ok result) :
    ∃ imports, ∀ outcome ∈ result.outcomes, ∃ collection,
      outcome = (run.compileCollection imports collection).2 := by
  unfold Run.compile at compiled
  split at compiled
  · cases compiled
  · rename_i records imports read
    split at compiled
    · cases compiled
    · cases compiled
      refine ⟨imports, fun outcome isMember => ?_⟩
      rw [List.map_map] at isMember
      obtain ⟨collection, -, rfl⟩ := List.mem_map.mp isMember
      exact ⟨collection, rfl⟩

theorem exists_placed
    (configured : ∀ generator, run.generator? = some generator →
      ∃ config : Config, config.roles.Nodup ∧ config.generator = .ok generator)
    (compiled : run.compile.2 = .ok result) :
    ∃ generator, result.Placed generator := by
  obtain ⟨imports, outcomes⟩ := outcomes_of_compile compiled
  have made : ∀ outcome ∈ result.outcomes, outcome.outputs = [] ∨
      ∃ generator protocols, run.generator? = some generator ∧
        generator.generateAll run.cancelled protocols = .ok outcome.outputs := by
    intro outcome isMember
    obtain ⟨collection, rfl⟩ := outcomes outcome isMember
    exact outputs_of_compileCollection run imports collection
  cases hasGenerator : run.generator? with
  | none =>
      have noOutputs : ∀ outcome ∈ result.outcomes, outcome.outputs = [] := by
        intro outcome isMember
        obtain isEmpty | ⟨generator, protocols, isGenerator, -⟩ := made outcome isMember
        · exact isEmpty
        · rw [hasGenerator] at isGenerator
          cases isGenerator
      refine ⟨⟨"", "", []⟩, List.nodup_nil, fun outcome isMember => ?_, fun outcome isMember => ?_⟩
      · simp [noOutputs outcome isMember]
      · simp [noOutputs outcome isMember]
  | some generator =>
      obtain ⟨config, different, isConfigured⟩ := configured generator hasGenerator
      have placed : ∀ outcome ∈ result.outcomes,
          (∀ output ∈ outcome.outputs, ∃ package, generator.Places output package) ∧
            outcome.outputs.Pairwise fun one other => one.package ≠ other.package := by
        intro outcome isMember
        obtain isEmpty | ⟨other, protocols, isOther, generated⟩ := made outcome isMember
        · simp [isEmpty]
        · rw [hasGenerator, Option.some.injEq] at isOther
          subst isOther
          exact Generator.generateAll_places generated
      exact ⟨generator, Generator.roles_nodup different isConfigured,
        fun outcome isMember => (placed outcome isMember).1,
        fun outcome isMember => (placed outcome isMember).2⟩

namespace Result.Placed

theorem files_paths
    (result : Result) :
    result.files.map (·.2.path) =
      (result.outcomes.flatMap Outcome.outputs).flatMap fun output =>
        output.files.map (·.path) := by
  simp [Result.files, List.map_flatMap, List.flatMap_assoc, Function.comp_def]

theorem plain
    (placed : result.Placed generator) :
    ∀ file ∈ result.files, IsPlainPath file.2.path := by
  intro file isMember
  have isPath : file.2.path ∈ result.files.map (·.2.path) := List.mem_map_of_mem isMember
  rw [files_paths] at isPath
  obtain ⟨output, isOutput, inOutput⟩ := List.mem_flatMap.mp isPath
  obtain ⟨outcome, isOutcome, inOutcome⟩ := List.mem_flatMap.mp isOutput
  obtain ⟨package, places⟩ := placed.places outcome isOutcome output inOutcome
  exact places.isPlainPath inOutput

/-- The files have different paths exactly if no two collections generate the same package. -/
theorem paths_nodup_iff_separate
    (placed : result.Placed generator) :
    (result.files.map (·.2.path)).Nodup ↔ result.Separate := by
  have places : ∀ output ∈ result.outcomes.flatMap Outcome.outputs,
      ∃ package, generator.Places output package := by
    intro output isMember
    obtain ⟨outcome, isOutcome, inOutcome⟩ := List.mem_flatMap.mp isMember
    exact placed.places outcome isOutcome output inOutcome
  have eachNodup : ∀ output ∈ result.outcomes.flatMap Outcome.outputs,
      (output.files.map (·.path)).Nodup := by
    intro output isMember
    obtain ⟨package, isPlaced⟩ := places output isMember
    exact isPlaced.paths_nodup placed.roles
  have disjoint :
      (result.outcomes.flatMap Outcome.outputs).Pairwise (fun one other =>
          (one.files.map (·.path)).Disjoint (other.files.map (·.path))) ↔
        (result.outcomes.flatMap Outcome.outputs).Pairwise fun one other =>
          one.package ≠ other.package := by
    refine List.Pairwise.iff_of_mem fun {one other} isOne isOther => ?_
    obtain ⟨package, onePlaced⟩ := places one isOne
    obtain ⟨otherPackage, otherPlaced⟩ := places other isOther
    exact onePlaced.paths_disjoint_iff otherPlaced
  calc
    (result.files.map (·.2.path)).Nodup
        ↔ (result.outcomes.flatMap Outcome.outputs).Pairwise (fun one other =>
            (one.files.map (·.path)).Disjoint (other.files.map (·.path))) := by
          rw [files_paths, List.nodup_flatMap]
          exact ⟨fun both => both.2, fun apart => ⟨eachNodup, apart⟩⟩
    _ ↔ (result.outcomes.flatMap Outcome.outputs).Pairwise fun one other =>
            one.package ≠ other.package := disjoint
    _ ↔ result.Separate := by
          rw [List.pairwise_flatMap]
          exact ⟨fun both => both.2, fun apart => ⟨placed.different, apart⟩⟩

end Result.Placed

end Run

/-! ## Two collections with a lamp each -/

section Lamps

/-- A protocol with one interface, as it is read of a document. -/
def lampProtocol
    (name document : String) :
    Model.Protocol where
  name
  document
  interfaces := [{ name := "lamp", version := 1 }]

/-- Three such protocols.  The second is named like the first but for a capital letter. -/
def lamps : List Model.Protocol :=
  [lampProtocol "room" "one.xml", lampProtocol "Room" "other.xml", lampProtocol "desk" "other.xml"]

def lampGenerator : Generator where
  importPath := "example.com/gen"
  runtimePath := Binding.standardRuntime
  roles := [⟨"client"⟩]

/-- Two collections of one document each, for which client code is generated. -/
def lampRun
    (other : String) :
    Run where
  manifest :=
    { collections :=
        [{ name := "first", documents := ["one.xml"] },
          { name := "second", documents := ["other.xml"] }] }
  read path :=
    .ok (Bytes.ofText
      (if path = "one.xml" then
        "<protocol name='room'><interface name='lamp' version='1'/></protocol>"
      else other))
  generator? := some lampGenerator

def lampTexts
    (protocol : Model.Protocol) :
    String × String :=
  (fileText (sharedLines Binding.standardRuntime (planProtocol protocol)),
    fileText
      (roleLines Binding.standardRuntime (lampGenerator.packagePath (packageName protocol.name))
        (planRole (planProtocol protocol) ⟨"client"⟩)))

def lampOutput
    (protocol : Model.Protocol) :
    Output where
  protocol := protocol.name
  package := lampGenerator.packagePath (packageName protocol.name)
  files :=
    [⟨packageName protocol.name ++ "/protocol.go", (lampTexts protocol).1⟩,
      ⟨packageName protocol.name ++ "/" ++ "client" ++ "/" ++ "client" ++ ".go",
        (lampTexts protocol).2⟩]

def lampResult
    (first second : Model.Protocol) :
    Result where
  imports := []
  outcomes :=
    [("first", first), ("second", second)].map fun collected =>
      { name := collected.1
        version := ""
        description := ""
        protocols := [collected.2]
        verdict := .compiled [lampOutput collected.2] }

theorem files_lampResult
    (first second : Model.Protocol) :
    (lampResult first second).files =
      [("first", ⟨packageName first.name ++ "/protocol.go", (lampTexts first).1⟩),
        ("first", ⟨packageName first.name ++ "/" ++ "client" ++ "/" ++ "client" ++ ".go",
          (lampTexts first).2⟩),
        ("second", ⟨packageName second.name ++ "/protocol.go", (lampTexts second).1⟩),
        ("second", ⟨packageName second.name ++ "/" ++ "client" ++ "/" ++ "client" ++ ".go",
          (lampTexts second).2⟩)] :=
  rfl

theorem lampGenerator_configured
    (other : String) :
    ∀ generator, (lampRun other).generator? = some generator →
      ∃ config : Config, config.roles.Nodup ∧ config.generator = .ok generator := by
  rintro generator isGenerator
  refine ⟨{ importPath := "example.com/gen", roles := [⟨"client"⟩] }, by decide, ?_⟩
  cases isGenerator
  decide

theorem check_lamps :
    ∀ protocol ∈ lamps, Check.check ⟨[protocol], []⟩ = .ok () := by
  decide

theorem canWrite_lamp
    {protocol : Model.Protocol}
    (isLamp : protocol ∈ lamps) :
    lampGenerator.CanWrite protocol := by
  have isSpelled := Binding.isSpelled_of_check (check_lamps protocol isLamp) List.mem_cons_self
  have silent : ∀ protocol ∈ lamps, ∀ summary ∈ Binding.summaries protocol, summary = "" := by
    decide
  have kinds : ∀ protocol ∈ lamps, ∀ interface ∈ protocol.interfaces,
      Binding.HasKinds interface := by
    unfold Binding.HasKinds Binding.HasKind
    decide
  have shared : ∀ protocol ∈ lamps,
      Binding.sharedIsValid lampGenerator.runtimePath (planProtocol protocol) = true := by
    decide +kernel
  have roles : ∀ protocol ∈ lamps, ∀ role ∈ lampGenerator.roles,
      Binding.roleIsValid lampGenerator.runtimePath
        (lampGenerator.packagePath (packageName protocol.name))
        (planRole (planProtocol protocol) role) = true := by
    decide +kernel
  refine ⟨⟨?_, ?_, ?_⟩, Binding.isSource_of_silent isSpelled (silent protocol isLamp),
    kinds protocol isLamp, shared protocol isLamp, roles protocol isLamp⟩
  · exact Binding.isSource_literal ⟨_, rfl, rfl⟩
  · exact Binding.isSource_literal ⟨_, rfl, rfl⟩
  · exact List.forall_mem_singleton.mpr (Binding.isSource_literal ⟨_, rfl, rfl⟩)

theorem generate_lamp
    {protocol : Model.Protocol}
    (isLamp : protocol ∈ lamps) :
    lampGenerator.generate protocol = .ok (lampOutput protocol) := by
  have notEmpty : ∀ protocol ∈ lamps, protocol.interfaces ≠ [] := by
    decide
  have free : ∀ protocol ∈ lamps, Binding.clash? (planProtocol protocol).declarations = none := by
    decide
  have areFree : ∀ protocol ∈ lamps, ∀ role ∈ lampGenerator.roles,
      (planRole (planProtocol protocol) role).clash? = none := by
    decide
  obtain ⟨output, generated⟩ := Generator.exists_output (canWrite_lamp isLamp)
    (notEmpty protocol isLamp) (free protocol isLamp) (areFree protocol isLamp)
  rw [generated]
  obtain ⟨-, -, files, rendered, rfl⟩ := Generator.generate_parts generated
  obtain ⟨file, others, isFile, noOthers, rfl⟩ :=
    List.forall₂_cons_left_iff.mp (Generator.forall₂_roleFiles rendered)
  obtain rfl := List.forall₂_nil_left_iff.mp noOthers
  obtain ⟨-, rfl⟩ := Generator.roleFile_parts isFile
  rw [Generator.package_of_plan]
  rfl

/-- A collection of one lamp. -/
theorem compileCollection_lamp
    {other document : String}
    {protocol : Model.Protocol}
    (isLamp : protocol ∈ lamps)
    (read : (lampRun other).document document = .ok protocol)
    (name : String) :
    ((lampRun other).compileCollection [] { name, documents := [document] }).2 =
      { name
        version := ""
        description := ""
        protocols := [protocol]
        verdict := .compiled [lampOutput protocol] } := by
  have foreign (collection : Collection) : (lampRun other).foreignImports [] collection = [] := rfl
  have generated : lampGenerator.generateAll false [protocol] = .ok [lampOutput protocol] := by
    simp [Generator.generateAll, Generator.generateAfter, generate_lamp isLamp, Except.map]
  have judged (collection : Collection) :
      (lampRun other).judge [] collection [protocol] = .compiled [lampOutput protocol] := by
    have isGenerator : (lampRun other).generator? = some lampGenerator := rfl
    have goesOn : (lampRun other).cancelled = false := rfl
    unfold Run.judge
    rw [foreign, check_lamps protocol isLamp, isGenerator, goesOn]
    simp only [generated]
  have isRead : readDocuments .collected (lampRun other).document [document] =
      ([protocol], [.document .collected true], none) := by
    simp [readDocuments, read]
  have enabled : ({ name, documents := [document] } : Collection).enabled = true := rfl
  unfold Run.compileCollection
  simp only [isRead, judged, enabled, Bool.not_true, Bool.false_eq_true, if_false]

theorem compile_lamps
    (other : String)
    {first second : Model.Protocol}
    (areLamps : first ∈ lamps ∧ second ∈ lamps)
    (read : (lampRun other).document "one.xml" = .ok first ∧
      (lampRun other).document "other.xml" = .ok second) :
    (lampRun other).compile.2 = .ok (lampResult first second) := by
  have outcomes := congrArg₂ (fun one two : Outcome => [one, two])
    (compileCollection_lamp areLamps.1 read.1 "first")
    (compileCollection_lamp areLamps.2 read.2 "second")
  exact congrArg (fun outcomes => Except.ok (⟨[], outcomes⟩ : Result)) outcomes

/-- A disk with a directory for every package of a lamp. -/
def lampStore
    (files : List (List String × String)) :
    Store where
  workingDirectory := ["home"]
  entries :=
    files.map (fun file => ("home" :: file.1, .file (Bytes.ofText file.2)))
      ++ [["out"], ["out", "room"], ["out", "room", "client"], ["out", "desk"],
        ["out", "desk", "client"]].map fun place => ("home" :: place, .directory)

/-- Two files are written to a fresh disk, and more after them. -/
theorem write_room
    (shared client : String)
    (rest : List (String × Binding.File)) :
    (writeFiles Store.disk "out" []
        (("first", ⟨"room/protocol.go", shared⟩) :: ("first", ⟨"room/client/client.go", client⟩)
          :: rest)).run (lampStore []) =
      (writeFiles Store.disk "out" ["out/room/client/client.go", "out/room/protocol.go"] rest).run
        (lampStore [(["out", "room", "client", "client.go"], client),
          (["out", "room", "protocol.go"], shared)]) := by
  let begun := lampStore [(["out", "room", "protocol.go"], shared)]
  have madeShared :
      (lampStore []).makeDirectories (File.Path.directory "out/room/protocol.go") =
        (lampStore [], none) := by
    rfl
  have putShared :
      (lampStore []).write "out/room/protocol.go" (Bytes.ofText shared) = (begun, none) := by
    rfl
  have madeClient :
      begun.makeDirectories (File.Path.directory "out/room/client/client.go") = (begun, none) := by
    rfl
  have putClient :
      begun.write "out/room/client/client.go" (Bytes.ofText client) =
        (lampStore [(["out", "room", "client", "client.go"], client),
          (["out", "room", "protocol.go"], shared)], none) := by
    rfl
  rw [writeFiles_step (by decide) madeShared putShared,
    writeFiles_step (by decide) madeClient putClient]

theorem write_of_files
    {result : Result}
    {files : List (String × Binding.File)}
    (areFiles : result.files = files)
    {store after : Store}
    {written : List String}
    (wrote : (writeFiles Store.disk "out" [] files).run store = ((written, none), after)) :
    (result.write Store.disk "out").run store = ((written.reverse, none), after) := by
  rw [Result.write, Store.run_bind, areFiles, wrote]
  rfl

/-- The files of another package are written beside those of the first. -/
theorem write_desk
    (first second : String × String) :
    ∃ after,
      (writeFiles Store.disk "out" []
          [("first", ⟨"room/protocol.go", first.1⟩), ("first", ⟨"room/client/client.go", first.2⟩),
            ("second", ⟨"desk/protocol.go", second.1⟩),
            ("second", ⟨"desk/client/client.go", second.2⟩)]).run (lampStore []) =
        ((["out/desk/client/client.go", "out/desk/protocol.go", "out/room/client/client.go",
          "out/room/protocol.go"], none), after) := by
  let before := [(["out", "room", "client", "client.go"], first.2),
    (["out", "room", "protocol.go"], first.1)]
  let begun := lampStore ((["out", "desk", "protocol.go"], second.1) :: before)
  have madeShared :
      (lampStore before).makeDirectories (File.Path.directory "out/desk/protocol.go") =
        (lampStore before, none) := by
    rfl
  have putShared :
      (lampStore before).write "out/desk/protocol.go" (Bytes.ofText second.1) = (begun, none) := by
    rfl
  have madeClient :
      begun.makeDirectories (File.Path.directory "out/desk/client/client.go") = (begun, none) := by
    rfl
  have putClient :
      begun.write "out/desk/client/client.go" (Bytes.ofText second.2) =
        (lampStore ((["out", "desk", "client", "client.go"], second.2)
          :: (["out", "desk", "protocol.go"], second.1) :: before), none) := by
    rfl
  rw [write_room, writeFiles_step (by decide) madeShared putShared,
    writeFiles_step (by decide) madeClient putClient]
  exact ⟨_, rfl⟩

/-- The files of the same package are written over those of the first. -/
theorem write_room_again
    (first second : String × String) :
    (writeFiles Store.disk "out" []
        [("first", ⟨"room/protocol.go", first.1⟩), ("first", ⟨"room/client/client.go", first.2⟩),
          ("second", ⟨"room/protocol.go", second.1⟩),
          ("second", ⟨"room/client/client.go", second.2⟩)]).run (lampStore []) =
      ((["out/room/client/client.go", "out/room/protocol.go", "out/room/client/client.go",
          "out/room/protocol.go"], none),
        lampStore [(["out", "room", "client", "client.go"], second.2),
          (["out", "room", "protocol.go"], second.1)]) := by
  let before := [(["out", "room", "client", "client.go"], first.2),
    (["out", "room", "protocol.go"], first.1)]
  let begun := lampStore [(["out", "room", "protocol.go"], second.1),
    (["out", "room", "client", "client.go"], first.2)]
  have madeShared :
      (lampStore before).makeDirectories (File.Path.directory "out/room/protocol.go") =
        (lampStore before, none) := by
    rfl
  have putShared :
      (lampStore before).write "out/room/protocol.go" (Bytes.ofText second.1) = (begun, none) := by
    rfl
  have madeClient :
      begun.makeDirectories (File.Path.directory "out/room/client/client.go") = (begun, none) := by
    rfl
  have putClient :
      begun.write "out/room/client/client.go" (Bytes.ofText second.2) =
        (lampStore [(["out", "room", "client", "client.go"], second.2),
          (["out", "room", "protocol.go"], second.1)], none) := by
    rfl
  rw [write_room, writeFiles_step (by decide) madeShared putShared,
    writeFiles_step (by decide) madeClient putClient]
  rfl

/-- A shared file begins with the name of its protocol, as it is written. -/
theorem lampTexts_ne :
    Bytes.ofText (lampTexts (lampProtocol "room" "one.xml")).1 ≠
      Bytes.ofText (lampTexts (lampProtocol "Room" "other.xml")).1 := by
  have begins (protocol : Model.Protocol) : ∃ rest,
      Bytes.ofText (lampTexts protocol).1 =
        Bytes.ofText (Binding.generatedMark ++ "\n")
          ++ (Bytes.ofText (Binding.commentLine ("Source: " ++ protocol.name)) ++ rest) := by
    unfold lampTexts fileText sharedLines Bytes.ofText
    simp only [List.cons_append, String.intercalate_cons_cons, String.toList_append,
      List.append_assoc, List.flatMap_append]
    exact ⟨_, rfl⟩
  intro same
  obtain ⟨rest, first⟩ := begins (lampProtocol "room" "one.xml")
  obtain ⟨others, second⟩ := begins (lampProtocol "Room" "other.xml")
  rw [same, second] at first
  have marks := List.append_inj_left (List.append_cancel_left first) (by decide)
  revert marks
  decide

end Lamps

/-! ## Results on a disk -/

/-- The files of a run have different paths exactly if no two collections generate the same package.
A successful write reports the paths of all files in order, without a repetition exactly then, and
then every file is on the disk with its own content. -/
theorem separate_collections_keep_their_files
    {run : Run}
    {result : Result}
    (configured : ∀ generator, run.generator? = some generator →
      ∃ config : Config, config.roles.Nodup ∧ config.generator = .ok generator)
    (compiled : run.compile.2 = .ok result) :
    ((result.files.map (·.2.path)).Nodup ↔ result.Separate) ∧
      ∀ (directory : String) (store after : Store) (written : List String),
        (result.write Store.disk directory).run store = ((written, none), after) →
          written = result.files.map (fun file => join [directory, file.2.path]) ∧
          (written.Nodup ↔ result.Separate) ∧
          (result.Separate → ∀ file ∈ result.files,
            after.read (join [directory, file.2.path]) = .ok (Bytes.ofText file.2.content)) := by
  obtain ⟨generator, placed⟩ := exists_placed configured compiled
  refine ⟨placed.paths_nodup_iff_separate, fun directory store after written wrote => ?_⟩
  obtain ⟨paths, wroteFiles, reported⟩ :
      ∃ paths, (writeFiles Store.disk directory [] result.files).run store =
        ((paths, none), after) ∧ written = paths.reverse := by
    rw [Result.write, Store.run_bind] at wrote
    cases ran : (writeFiles Store.disk directory [] result.files).run store with
    | mk outcome reached =>
        obtain ⟨paths, failure?⟩ := outcome
        rw [ran] at wrote
        cases wrote
        exact ⟨paths, rfl, rfl⟩
  have allPaths : written = result.files.map fun file => join [directory, file.2.path] := by
    rw [reported, writeFiles_paths wroteFiles]
    simp
  refine ⟨allPaths, ?_, fun separate file isMember => ?_⟩
  · rw [allPaths, paths_nodup_iff placed.plain]
    exact placed.paths_nodup_iff_separate
  · exact writeFiles_read_of_nodup placed.plain (placed.paths_nodup_iff_separate.mpr separate)
      wroteFiles isMember

/-- Collections of different packages keep their files. -/
theorem house_files_are_kept :
    ∃ result,
      (lampRun "<protocol name='desk'><interface name='lamp' version='1'/></protocol>").compile.2 =
        .ok result ∧
      result.Separate ∧
      ∃ after,
        (result.write Store.disk "out").run (lampStore []) =
            ((["out/room/protocol.go", "out/room/client/client.go", "out/desk/protocol.go",
              "out/desk/client/client.go"], none), after) ∧
          ∀ file ∈ result.files,
            after.read (join ["out", file.2.path]) = .ok (Bytes.ofText file.2.content) := by
  have areLamps :
      lampProtocol "room" "one.xml" ∈ lamps ∧ lampProtocol "desk" "other.xml" ∈ lamps := by
    decide
  have compiled := compile_lamps
    "<protocol name='desk'><interface name='lamp' version='1'/></protocol>" areLamps
    (by decide +kernel)
  have files :
      (lampResult (lampProtocol "room" "one.xml") (lampProtocol "desk" "other.xml")).files = _ :=
    files_lampResult _ _
  obtain ⟨after, wrote⟩ := write_desk (lampTexts (lampProtocol "room" "one.xml"))
    (lampTexts (lampProtocol "desk" "other.xml"))
  have written := write_of_files files wrote
  obtain ⟨-, writes⟩ :=
    separate_collections_keep_their_files (lampGenerator_configured _) compiled
  obtain ⟨-, separate, kept⟩ := writes "out" (lampStore []) after _ written
  have isSeparate := separate.mp (by decide)
  exact ⟨_, compiled, isSeparate, after, written, kept isSeparate⟩

/-- Collections of one package are written over each other: the write succeeds, and reports paths
twice, but the first collection cannot be read. -/
theorem room_is_written_over :
    ∃ result,
      (lampRun "<protocol name='Room'><interface name='lamp' version='1'/></protocol>").compile.2 =
        .ok result ∧
      ∃ after,
        (result.write Store.disk "out").run (lampStore []) =
            ((["out/room/protocol.go", "out/room/client/client.go", "out/room/protocol.go",
              "out/room/client/client.go"], none), after) ∧
          ∃ file ∈ result.files,
            after.read (join ["out", file.2.path]) ≠ .ok (Bytes.ofText file.2.content) := by
  have areLamps :
      lampProtocol "room" "one.xml" ∈ lamps ∧ lampProtocol "Room" "other.xml" ∈ lamps := by
    decide
  have compiled := compile_lamps
    "<protocol name='Room'><interface name='lamp' version='1'/></protocol>" areLamps
    (by decide +kernel)
  have files :
      (lampResult (lampProtocol "room" "one.xml") (lampProtocol "Room" "other.xml")).files = _ :=
    files_lampResult _ _
  have written := write_of_files files
    (write_room_again (lampTexts (lampProtocol "room" "one.xml"))
      (lampTexts (lampProtocol "Room" "other.xml")))
  have isFirst :
      ("first", ⟨"room/protocol.go", (lampTexts (lampProtocol "room" "one.xml")).1⟩) ∈
        (lampResult (lampProtocol "room" "one.xml") (lampProtocol "Room" "other.xml")).files := by
    rw [files]
    exact List.mem_cons_self
  refine ⟨_, compiled, _, written, _, isFirst, fun same => ?_⟩
  have isSecond : (lampStore
      [(["out", "room", "client", "client.go"], (lampTexts (lampProtocol "Room" "other.xml")).2),
        (["out", "room", "protocol.go"], (lampTexts (lampProtocol "Room" "other.xml")).1)]).read
          "out/room/protocol.go" =
      .ok (Bytes.ofText (lampTexts (lampProtocol "Room" "other.xml")).1) := by
    rfl
  have isPath : join ["out", "room/protocol.go"] = "out/room/protocol.go" := by decide
  rw [isPath, isSecond, Except.ok.injEq] at same
  exact lampTexts_ne same.symm

end Wayland.Catalog
