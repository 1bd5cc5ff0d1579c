import Wayland.Catalog.Compile
import Wayland.Proofs.Binding.Package
import Wayland.Proofs.Binding.Success
import Wayland.Proofs.File.Below

/-!
Contract: generated files stay where they belong.

Owns:
- that a run fails over the first package that two of its protocols share;
- that the files of a run that succeeds are at different places below the output directory, and that
  writing them changes nothing elsewhere.

Does not own: files of different runs.
-/

/-! ## Shared packages -/

namespace Wayland.Binding.Generator

open Wayland.Model (Protocol)

variable {generator : Generator} {earlier before rest : List Protocol} {second : Protocol}

/-- What is remembered of the protocols that were generated, the latest first. -/
def takenBy
    (earlier : List Protocol) :
    List (String × String) :=
  earlier.map fun protocol => (packageName protocol.name, protocol.name)

/-- A protocol whose package is taken is refused, whatever comes after it. -/
theorem conflict_of_taken
    {first : String}
    (isTaken : (takenBy earlier).lookup (packageName second.name) = some first) :
    ∃ one, [one, second].Sublist (earlier.reverse ++ second :: rest) ∧
      packageName one.name = packageName second.name ∧
      generator.generateAfter (takenBy earlier) (second :: rest) =
        .error { problem := .outputConflict one.name second.name (packageName second.name) } := by
  obtain ⟨front, back, split, -⟩ := List.lookup_eq_some_iff.mp isTaken
  have isMember : (packageName second.name, first) ∈ takenBy earlier := by
    rw [split]
    exact List.mem_append_right _ List.mem_cons_self
  obtain ⟨one, isOne, same⟩ := List.mem_map.mp isMember
  obtain ⟨ofPackage, named⟩ := Prod.mk.inj same
  refine ⟨one, ?_, ofPackage, ?_⟩
  · have ofEarlier : [one].Sublist earlier.reverse :=
      List.singleton_sublist.mpr (List.mem_reverse.mpr isOne)
    have ofRest : [second].Sublist (second :: rest) := List.singleton_sublist.mpr List.mem_cons_self
    exact ofEarlier.append ofRest
  · simp only [generateAfter, isTaken, named]

/-- Of two protocols that share a package the later one is refused, if not an earlier one is. -/
theorem generateAfter_conflict
    (generates : ∀ protocol ∈ before, ∃ output, generator.generate protocol = .ok output)
    (shared : ∃ first ∈ earlier ++ before, packageName first.name = packageName second.name) :
    ∃ one other, [one, other].Sublist (earlier.reverse ++ (before ++ second :: rest)) ∧
      packageName one.name = packageName other.name ∧
      generator.generateAfter (takenBy earlier) (before ++ second :: rest) =
        .error { problem := .outputConflict one.name other.name (packageName other.name) } := by
  induction before generalizing earlier with
  | nil =>
      rw [List.append_nil] at shared
      obtain ⟨first, isFirst, samePackage⟩ := shared
      cases lookup : (takenBy earlier).lookup (packageName second.name) with
      | none =>
          have unused := List.lookup_eq_none_iff.mp lookup
            (packageName first.name, first.name) (List.mem_map_of_mem isFirst)
          simp [samePackage] at unused
      | some name =>
          obtain ⟨one, refused⟩ := conflict_of_taken lookup
          exact ⟨one, second, refused⟩
  | cons protocol before inductionHypothesis =>
      cases lookup : (takenBy earlier).lookup (packageName protocol.name) with
      | some name =>
          obtain ⟨one, refused⟩ := conflict_of_taken lookup
          exact ⟨one, protocol, refused⟩
      | none =>
          rw [List.forall_mem_cons] at generates
          obtain ⟨output, generated⟩ := generates.1
          have sharedLater : ∃ first ∈ (protocol :: earlier) ++ before,
              packageName first.name = packageName second.name := by
            obtain ⟨first, isFirst, samePackage⟩ := shared
            exact ⟨first, List.perm_middle.mem_iff.mp isFirst, samePackage⟩
          obtain ⟨one, other, inOrder, samePackage, refused⟩ :=
            inductionHypothesis generates.2 sharedLater
          refine ⟨one, other, ?_, samePackage, ?_⟩
          · simpa using inOrder
          · have further : generator.generateAfter
                ((packageName protocol.name, protocol.name) :: takenBy earlier)
                  (before ++ second :: rest) = _ := refused
            simp only [List.cons_append, generateAfter, lookup, generated, further]
            rfl

/-- A protocol is generated by itself exactly if the run is not cancelled. -/
theorem generateAll_alone_iff
    {cancelled : Bool}
    {protocol : Protocol}
    {output : Output} :
    generator.generateAll cancelled [protocol] = .ok [output] ↔
      cancelled = false ∧ generator.generate protocol = .ok output := by
  cases cancelled with
  | true => simp [generateAll]
  | false =>
      simp only [generateAll, generateAfter, List.lookup_nil, Bool.false_and, if_false,
        Bool.false_eq_true, true_and]
      cases generator.generate protocol with
      | error error => simp
      | ok made => simp [Except.map]

end Wayland.Binding.Generator

namespace Wayland.Catalog

open Wayland.Binding (Config Generator Output packageName IsPackageName)
open Wayland.File (Place Store)
open Wayland.File.Path (IsName IsPlainPath join nested steps)
open Wayland.Model (Protocol)
open Wayland.Text (Bytes)

/-! ## Writing -/

/-- Writing files at plain paths changes nothing but what is below the directory, whether it comes to
its end or breaks off. -/
theorem writeFiles_contained
    {files : List (String × Binding.File)}
    (plain : ∀ file ∈ files, IsPlainPath file.2.path)
    (store : Store)
    (directory : String)
    (written : List String) :
    Store.Contained (store.meant directory) store
      ((writeFiles Store.disk directory written files).run store).2 := by
  induction files generalizing store written with
  | nil => exact .refl _ store
  | cons file rest inductionHypothesis =>
      obtain ⟨collection, file⟩ := file
      rw [List.forall_mem_cons] at plain
      obtain ⟨names, someLeft, areNames, path⟩ := plain.1
      simp only at path
      have making := Store.makeDirectories_contained store directory areNames someLeft
      rw [← path] at making
      rw [writeFiles, Store.run_bind, Store.run_makeDirectories]
      cases made : store.makeDirectories (File.Path.directory (join [directory, file.path])) with
      | mk reached fault? =>
          rw [made] at making
          cases fault? with
          | some fault => exact making
          | none =>
              have writing := Store.write_contained reached directory areNames someLeft
                (Bytes.ofText file.content)
              rw [← path, Store.meant_congr making.workingDirectory] at writing
              simp only [Store.outcome]
              rw [Store.run_bind, Store.run_write]
              cases put : reached.write (join [directory, file.path])
                  (Bytes.ofText file.content) with
              | mk stored fault? =>
                  rw [put] at writing
                  have both := making.trans writing
                  cases fault? with
                  | some fault => exact both
                  | none =>
                      have others := inductionHypothesis plain.2 stored
                        (join [directory, file.path] :: written)
                      rw [Store.meant_congr both.workingDirectory] at others
                      exact both.trans others

/-! ## Outputs of a run -/

def LeadsDown
    (path : String) :
    Prop :=
  ∀ component ∈ steps path, component ≠ "" ∧ component ≠ "." ∧ component ≠ ".."

theorem leadsDown_of_isPlainPath
    {path : String}
    (isPlain : IsPlainPath path) :
    LeadsDown path := by
  obtain ⟨names, someLeft, areNames, rfl⟩ := isPlain
  have cut : steps (nested names) = names := by
    rw [File.Path.steps_eq, File.Path.splitChars_nested areNames someLeft]
    simp
  intro component isComponent
  rw [cut] at isComponent
  have isName := areNames component isComponent
  exact ⟨isName.ne_empty, isName.ne_dot, isName.ne_dots⟩

/-- The files of outputs of different packages have different paths. -/
theorem outputs_paths_nodup
    {generator : Generator}
    {outputs : List Output}
    (different : generator.roles.Nodup)
    (places : ∀ output ∈ outputs, ∃ package, generator.Places output package)
    (apart : outputs.Pairwise fun one other => one.package ≠ other.package) :
    (outputs.flatMap fun output => output.files.map (·.path)).Nodup := by
  rw [List.nodup_flatMap]
  constructor
  · intro output isMember
    obtain ⟨package, isPlaced⟩ := places output isMember
    exact isPlaced.paths_nodup different
  · refine apart.imp_of_mem fun {one other} isOne isOther packages => ?_
    obtain ⟨package, onePlaced⟩ := places one isOne
    obtain ⟨otherPackage, otherPlaced⟩ := places other isOther
    exact (onePlaced.paths_disjoint_iff otherPlaced).mpr packages

/-- Every protocol name becomes a package name.  Hence the files of all outputs of a run have different
paths, which lead down, and writing them changes nothing but what is below the output directory.  A
run fails, without any output, if two of its protocols share a package and those before the second
one are generated. -/
theorem output_paths_are_safe
    {config : Config}
    {generator : Generator}
    (configured : config.generator = .ok generator)
    (cancelled : Bool) :
    (∀ name, IsPackageName (packageName name)) ∧
    (∀ protocols outputs, config.roles.Nodup →
      generator.generateAll cancelled protocols = .ok outputs →
        (outputs.flatMap fun output => output.files.map (·.path)).Nodup ∧
        ∀ output ∈ outputs,
          (∀ file ∈ output.files, LeadsDown file.path) ∧
          ∀ (store : Store) (directory collection : String),
            Store.Contained (store.meant directory) store
              ((writeFiles Store.disk directory []
                (output.files.map fun file => (collection, file))).run store).2) ∧
    ∀ (before rest : List Protocol) (second : Protocol),
      (∃ first ∈ before, packageName first.name = packageName second.name) →
      (∀ earlier ∈ before, ∃ output, generator.generateAll cancelled [earlier] = .ok [output]) →
        ∃ one other, [one, other].Sublist (before ++ second :: rest) ∧
          packageName one.name = packageName other.name ∧
          generator.generateAll cancelled (before ++ second :: rest) =
            .error { problem := .outputConflict one.name other.name (packageName other.name) } := by
  refine ⟨Binding.packageName_isPackageName, ?_, ?_⟩
  · intro protocols outputs distinct generated
    have different := Generator.roles_nodup distinct configured
    obtain ⟨places, apart⟩ := Generator.generateAll_places generated
    refine ⟨outputs_paths_nodup different places apart, fun output isMember => ?_⟩
    obtain ⟨package, isPlaced⟩ := places output isMember
    have plain : ∀ file ∈ output.files, IsPlainPath file.path := fun file isFile =>
      isPlaced.isPlainPath (List.mem_map_of_mem isFile)
    refine ⟨fun file isFile => leadsDown_of_isPlainPath (plain file isFile), ?_⟩
    intro store directory collection
    exact writeFiles_contained (by simpa using plain) store directory []
  · intro before rest second shared generates
    have generatesAlone : ∀ protocol ∈ before, ∃ output,
        generator.generate protocol = .ok output := fun protocol isMember =>
      (generates protocol isMember).imp fun _ alone => (Generator.generateAll_alone_iff.mp alone).2
    obtain ⟨first, isFirst, samePackage⟩ := shared
    obtain ⟨output, alone⟩ := generates first isFirst
    obtain ⟨rfl, -⟩ := Generator.generateAll_alone_iff.mp alone
    have sharedHere : ∃ first ∈ [] ++ before, packageName first.name = packageName second.name :=
      ⟨first, isFirst, samePackage⟩
    obtain ⟨one, other, inOrder, ofPackage, refused⟩ :=
      Generator.generateAfter_conflict generatesAlone sharedHere
    refine ⟨one, other, inOrder, ofPackage, ?_⟩
    unfold Generator.generateAll
    rw [Bool.false_and, if_neg Bool.false_ne_true]
    exact refused

def sealConfig : Config where
  importPath := "gen"
  runtimePath := "run"
  roles := [⟨"client"⟩]

/-- A protocol whose name differs in case and by marks alone. -/
def loudProtocol : Protocol where
  name := "../SEAL"
  interfaces := [Binding.sealInterface]

theorem seal_stays_below_directory :
    sealConfig.roles.Nodup ∧
      (∃ output, Binding.sealGenerator.generateAll false [Binding.sealProtocol] = .ok [output] ∧
        ∀ (store : Store) (directory collection : String),
          Store.Contained (store.meant directory) store
            ((writeFiles Store.disk directory []
              (output.files.map fun file => (collection, file))).run store).2) ∧
      packageName Binding.sealProtocol.name = packageName loudProtocol.name ∧
      ∃ one other, [one, other].Sublist [Binding.sealProtocol, loudProtocol] ∧
        Binding.sealGenerator.generateAll false [Binding.sealProtocol, loudProtocol] =
          .error { problem := .outputConflict one.name other.name (packageName other.name) } := by
  have configured : sealConfig.generator = .ok Binding.sealGenerator := by decide
  have distinct : sealConfig.roles.Nodup := by decide
  have samePackage : packageName Binding.sealProtocol.name = packageName loudProtocol.name := by
    decide +kernel
  obtain ⟨output, generated⟩ := Binding.seal_is_generated
  have alone := Generator.generateAll_alone_iff.mpr ⟨rfl, generated⟩
  obtain ⟨-, writes, conflicts⟩ := output_paths_are_safe configured false
  obtain ⟨-, safe⟩ := writes _ _ distinct alone
  obtain ⟨one, other, inOrder, -, refused⟩ := conflicts [Binding.sealProtocol] [] loudProtocol
    ⟨Binding.sealProtocol, List.mem_singleton_self _, samePackage⟩
    (List.forall_mem_singleton.mpr ⟨output, alone⟩)
  exact ⟨distinct, ⟨output, alone, (safe output List.mem_cons_self).2⟩, samePackage, one, other,
    inOrder, refused⟩

end Wayland.Catalog
