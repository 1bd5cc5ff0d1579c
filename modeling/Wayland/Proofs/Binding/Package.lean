import Mathlib.Data.List.Nodup
import Mathlib.Data.List.TakeWhile
import Wayland.Binding.Output
import Wayland.Proofs.File.Path

/-!
Contract: where the generated files of a protocol are.

Owns:
- the names on the way to the files, which are components of paths and different for every file of a
  protocol;
- that one call generates every package at most once.

Does not own: what stands in the files.
-/

namespace Wayland.Binding

open Wayland.File.Path (IsName IsPlainPath nested nested_injective)
open Wayland.Model (Protocol)
open Wayland.Text

/-! ## Names -/

/-- A text without slashes and dots. -/
def IsPlain
    (text : String) : Prop :=
  ∀ char ∈ text.toList, char ≠ '/' ∧ char ≠ '.'

variable {text name : String}

theorem IsPlain.isName
    (isPlain : IsPlain text)
    (notEmpty : text ≠ "") :
    IsName text where
  ne_empty := notEmpty
  ne_dot := by
    rintro rfl
    exact (isPlain '.' (by simp)).2 rfl
  ne_dots := by
    rintro rfl
    exact (isPlain '.' (by simp)).2 rfl
  whole isMember := (isPlain '/' isMember).1 rfl

/-- A plain text with the extension of a source file. -/
theorem IsPlain.isName_source
    (isPlain : IsPlain text) :
    IsName (text ++ ".go") := by
  have chars : (text ++ ".go").toList = text.toList ++ ['.', 'g', 'o'] := by simp
  have hasG : 'g' ∈ (text ++ ".go").toList := by simp [chars]
  refine ⟨?_, ?_, ?_, ?_⟩
  · rintro isEmpty
    simp [isEmpty] at hasG
  · rintro isDot
    simp [isDot] at hasG
  · rintro isDots
    simp [isDots] at hasG
  · rw [chars]
    intro isMember
    obtain inText | inExtension := List.mem_append.mp isMember
    · exact (isPlain '/' inText).1 rfl
    · simp at inExtension

theorem packageName_chars
    (name : String) :
    ∀ char ∈ (packageName name).toList, isPackageChar char = true := by
  have keptChars : ∀ char ∈ (lowerText name).toList.filter isPackageChar,
      isPackageChar char = true := fun char isMember => (List.mem_filter.mp isMember).2
  have textChars (started : List Char)
      (startedChars : ∀ char ∈ started, isPackageChar char = true) :
      ∀ char ∈ (if keywords.contains (String.ofList started)
          || importedPackages.contains (String.ofList started) then
          String.ofList started ++ "proto" else String.ofList started).toList,
        isPackageChar char = true := by
    intro char isMember
    split at isMember
    · rw [String.toList_append, String.toList_ofList, List.mem_append] at isMember
      obtain inText | inEnd := isMember
      · exact startedChars char inText
      · have ending : ['p', 'r', 'o', 't', 'o'].all isPackageChar = true := by decide
        exact List.all_eq_true.mp ending char (by simpa using inEnd)
    · rw [String.toList_ofList] at isMember
      exact startedChars char isMember
  unfold packageName
  apply textChars
  split
  · simp [isPackageChar]
  · rename_i first rest kept
    rw [kept] at keptChars
    split
    · rw [List.forall_mem_cons]
      exact ⟨by decide, keptChars⟩
    · exact keptChars

theorem packageName_ne_empty
    (name : String) :
    packageName name ≠ "" := by
  have textSome (started : List Char) (someLeft : started ≠ []) :
      (if keywords.contains (String.ofList started)
        || importedPackages.contains (String.ofList started) then
        String.ofList started ++ "proto" else String.ofList started) ≠ "" := by
    have notEmpty : String.ofList started ≠ "" := by
      simpa [← String.toList_inj] using someLeft
    split
    · simp [String.append_eq_empty_iff]
    · exact notEmpty
  unfold packageName
  apply textSome
  split
  · simp
  · split <;> simp

theorem packageName_isName
    (name : String) :
    IsName (packageName name) := by
  refine IsPlain.isName (fun char isMember => ?_) (packageName_ne_empty name)
  have isPackage := packageName_chars name char isMember
  constructor
  · rintro rfl
    exact absurd isPackage (by decide)
  · rintro rfl
    exact absurd isPackage (by decide)

/-- A package name that is no keyword and hides none of the packages that generated files import. -/
structure IsPackageName
    (name : String) : Prop where
  starts : ∃ first rest, name.toList = first :: rest ∧ 'a' ≤ first ∧ first ≤ 'z'
  chars : ∀ char ∈ name.toList, ('a' ≤ char ∧ char ≤ 'z') ∨ ('0' ≤ char ∧ char ≤ '9')
  notKeyword : name ∉ keywords
  notImported : name ∉ importedPackages

/-- The letters that avoid a keyword or an imported package end neither. -/
theorem proto_ends_no_word
    (text : String) :
    text ++ "proto" ∉ keywords ++ importedPackages := by
  have noSuffix : ((keywords ++ importedPackages).all fun word =>
      !"proto".toList.isSuffixOf word.toList) = true := by decide
  intro isWord
  have ends := List.all_eq_true.mp noSuffix _ isWord
  rw [String.toList_append, List.isSuffixOf_iff_suffix.mpr (List.suffix_append _ _)] at ends
  cases ends

/-- A package name is a text that starts with a letter, with an end that keeps it from being a word
that has a meaning already. -/
theorem packageName_cases
    (name : String) :
    ∃ first rest, 'a' ≤ first ∧ first ≤ 'z' ∧
      (packageName name = String.ofList (first :: rest) ++ "proto" ∨
        packageName name = String.ofList (first :: rest) ∧
          String.ofList (first :: rest) ∉ keywords ++ importedPackages) := by
  have started : ∃ first rest, 'a' ≤ first ∧ first ≤ 'z' ∧ packageName name =
      if keywords.contains (String.ofList (first :: rest))
          || importedPackages.contains (String.ofList (first :: rest)) then
        String.ofList (first :: rest) ++ "proto" else String.ofList (first :: rest) := by
    cases kept : (lowerText name).toList.filter isPackageChar with
    | nil => exact ⟨'p', [], by decide, by decide, by simp only [packageName, kept]⟩
    | cons first rest =>
        have isPackage : isPackageChar first = true :=
          (List.mem_filter.mp (kept ▸ List.mem_cons_self : first ∈ List.filter _ _)).2
        by_cases isDigit : first.isDigit = true
        · exact ⟨'p', first :: rest, by decide, by decide,
            by simp only [packageName, kept, isDigit, if_true]⟩
        · have letter : 'a' ≤ first ∧ first ≤ 'z' := by
            unfold isPackageChar at isPackage
            unfold Char.isDigit at isDigit
            simp only [Bool.or_eq_true, Bool.and_eq_true, decide_eq_true_eq] at isPackage isDigit
            exact isPackage.resolve_right isDigit
          exact ⟨first, rest, letter.1, letter.2,
            by simp only [packageName, kept, isDigit, if_false, Bool.false_eq_true]⟩
  obtain ⟨first, rest, above, below, isText⟩ := started
  refine ⟨first, rest, above, below, ?_⟩
  rw [isText]
  split
  · exact .inl rfl
  · rename_i isFree
    exact .inr ⟨rfl, by simpa using isFree⟩

/-- Every protocol name becomes a package name. -/
theorem packageName_isPackageName
    (name : String) :
    IsPackageName (packageName name) := by
  obtain ⟨first, rest, above, below, isText⟩ := packageName_cases name
  have free : packageName name ∉ keywords ++ importedPackages := by
    rcases isText with avoided | ⟨plain, isFree⟩
    · rw [avoided]
      exact proto_ends_no_word _
    · rwa [plain]
  rw [List.mem_append, not_or] at free
  refine ⟨?_, fun char isMember => ?_, free.1, free.2⟩
  · rcases isText with avoided | ⟨plain, -⟩
    · exact ⟨first, rest ++ "proto".toList, by simp [avoided], above, below⟩
    · exact ⟨first, rest, by simp [plain], above, below⟩
  · simpa [isPackageChar] using packageName_chars name char isMember

theorem isIdentifier_isPlain
    (isName : isIdentifier name = true) :
    IsPlain name ∧ name ≠ "" := by
  obtain ⟨first, rest, chars, isFirst, areRest, -⟩ := isIdentifier_iff.mp isName
  have letterLike : ∀ char ∈ name.toList,
      (char = '_' ∨ isLetter char = true) ∨ isDecimalDigit char = true := by
    rw [chars, List.forall_mem_cons]
    exact ⟨Or.inl isFirst, areRest⟩
  refine ⟨fun char isMember => ?_, ?_⟩
  · have kind := letterLike char isMember
    constructor
    · rintro rfl
      simp [isLetter, isDecimalDigit] at kind
    · rintro rfl
      simp [isLetter, isDecimalDigit] at kind
  · rintro rfl
    simp at chars

theorem mem_dropWhile_or
    {α : Type}
    (test : α → Bool)
    {items : List α}
    {item : α}
    (isMember : item ∈ items) :
    test item = true ∨ item ∈ items.dropWhile test := by
  rw [← List.takeWhile_append_dropWhile (p := test) (l := items), List.mem_append] at isMember
  obtain taken | dropped := isMember
  · exact Or.inl (List.mem_takeWhile_imp taken)
  · exact Or.inr dropped

/-- A character of a label is in its package clause, or it is white space around the label. -/
theorem Role.mem_label_cases
    {role : Role}
    {char : Char}
    (isMember : char ∈ role.label.toList) :
    char ∈ role.packageText.toList ∨ char = ' ' ∨ char = '\t' ∨ char = '\r' := by
  unfold packageText
  extract_lets isGap
  have ofGap (gap : isGap char = true) : char = ' ' ∨ char = '\t' ∨ char = '\r' := by
    simpa [isGap, or_assoc] using gap
  rw [String.toList_ofList, List.mem_reverse]
  obtain gap | inside := mem_dropWhile_or isGap isMember
  · exact .inr (ofGap gap)
  · obtain gap | inside := mem_dropWhile_or isGap (List.mem_reverse.mpr inside)
    · exact .inr (ofGap gap)
    · exact .inl inside

/-- A label whose package clause is an identifier is a plain text. -/
theorem Role.label_isPlain
    {role : Role}
    (isName : isIdentifier role.packageText = true) :
    IsPlain role.label ∧ role.label ≠ "" := by
  obtain ⟨isPlain, notEmpty⟩ := isIdentifier_isPlain isName
  constructor
  · intro char isMember
    obtain inside | rfl | rfl | rfl := mem_label_cases isMember
    · exact isPlain char inside
    · decide
    · decide
    · decide
  · intro isEmpty
    apply notEmpty
    rw [packageText, isEmpty]
    rfl

/-! ## Files -/

def fileNames
    (package : String)
    (roles : List Role) :
    List (List String) :=
  [package, "protocol.go"] :: roles.map fun role => [package, role.label, role.label ++ ".go"]

theorem fileNames_nodup
    {package : String}
    {roles : List Role}
    (different : roles.Nodup) :
    (fileNames package roles).Nodup := by
  have labels : ∀ one other : Role,
      [package, one.label, one.label ++ ".go"] = [package, other.label, other.label ++ ".go"] →
        one = other := by
    intro one other same
    cases one
    cases other
    simp_all
  refine List.nodup_cons.mpr ⟨by simp, ?_⟩
  exact List.pairwise_map.mpr (different.imp fun distinct same => distinct (labels _ _ same))

/-- The files of an output are those of a package, and all names on the way to them are components
of paths. -/
structure Generator.Places
    (generator : Generator)
    (output : Output)
    (package : String) : Prop where
  packagePath : output.package = generator.packagePath package
  files : output.files.map (·.path) = (fileNames package generator.roles).map nested
  areNames : ∀ names ∈ fileNames package generator.roles, ∀ name ∈ names, IsName name

namespace Generator

variable {generator : Generator} {output : Output} {package : String}

theorem packagePath_injective
    {one other : String}
    (same : generator.packagePath one = generator.packagePath other) :
    one = other := by
  unfold packagePath at same
  exact (String.append_right_inj _).mp same

/-- What a generator has found out about a role whose file it makes, and the file. -/
theorem roleFile_parts
    {plan : ProtocolPlan}
    {role : Role}
    {file : File}
    (rendered : generator.roleFile plan role = .ok file) :
    roleIsValid generator.runtimePath (generator.packagePath plan.package) (planRole plan role) =
        true ∧
      file =
        ⟨plan.package ++ "/" ++ role.label ++ "/" ++ role.label ++ ".go",
          fileText
            (roleLines generator.runtimePath (generator.packagePath plan.package)
              (planRole plan role))⟩ := by
  unfold roleFile at rendered
  simp only at rendered
  split at rendered
  · cases rendered
  · split at rendered
    · cases rendered
    · rename_i text isText
      cases rendered
      unfold roleText? at isText
      simp only [Option.ite_none_right_eq_some, Option.some.injEq, Bool.and_eq_true] at isText
      obtain ⟨⟨isValid, -⟩, rfl⟩ := isText
      exact ⟨isValid, rfl⟩

theorem roleFile_path
    {plan : ProtocolPlan}
    {role : Role}
    {file : File}
    (rendered : generator.roleFile plan role = .ok file) :
    file.path = nested [plan.package, role.label, role.label ++ ".go"] ∧
      IsName role.label ∧ IsName (role.label ++ ".go") := by
  obtain ⟨isValid, rfl⟩ := roleFile_parts rendered
  have isIdentifier : isIdentifier role.packageText = true := by
    simp only [roleIsValid, Bool.and_eq_true] at isValid
    exact isValid.1.1.1.1.1.1
  obtain ⟨isPlain, notEmpty⟩ := role.label_isPlain isIdentifier
  refine ⟨?_, isPlain.isName notEmpty, isPlain.isName_source⟩
  simp [nested, String.intercalate_cons_cons, String.append_assoc]

/-- There is one file for every role. -/
theorem forall₂_roleFiles
    {plan : ProtocolPlan}
    {roles : List Role}
    {files : List File}
    (rendered : generator.roleFiles plan roles = .ok files) :
    List.Forall₂ (fun role file => generator.roleFile plan role = .ok file) roles files := by
  induction roles generalizing files with
  | nil =>
      cases rendered
      exact .nil
  | cons first rest inductionHypothesis =>
      unfold roleFiles at rendered
      split at rendered
      · cases rendered
      · rename_i file isFirst
        cases others : generator.roleFiles plan rest with
        | error error =>
            rw [others] at rendered
            cases rendered
        | ok restFiles =>
            rw [others] at rendered
            cases rendered
            exact .cons isFirst (inductionHypothesis others)

theorem roleFiles_paths
    {plan : ProtocolPlan}
    {roles : List Role}
    {files : List File}
    (rendered : generator.roleFiles plan roles = .ok files) :
    files.map (·.path) =
        roles.map (fun role => nested [plan.package, role.label, role.label ++ ".go"]) ∧
      ∀ role ∈ roles, IsName role.label ∧ IsName (role.label ++ ".go") := by
  have areFiles := forall₂_roleFiles rendered
  clear rendered
  induction areFiles with
  | nil => simp
  | cons first _ inductionHypothesis =>
      obtain ⟨path, areNames⟩ := roleFile_path first
      obtain ⟨paths, restNames⟩ := inductionHypothesis
      exact ⟨by simp [path, paths], List.forall_mem_cons.mpr ⟨areNames, restNames⟩⟩

theorem places_of_plan
    {plan : ProtocolPlan}
    {text protocol : String}
    {files : List File}
    (isPackage : IsName plan.package)
    (rendered : generator.roleFiles plan generator.roles = .ok files) :
    generator.Places
      { protocol
        package := generator.packagePath plan.package
        files := ⟨plan.package ++ "/protocol.go", text⟩ :: files }
      plan.package := by
  obtain ⟨paths, areNames⟩ := roleFiles_paths rendered
  refine ⟨rfl, ?_, ?_⟩
  · simp only [List.map_cons, paths, fileNames, List.map_map]
    congr 1
    simp [nested, String.intercalate_cons_cons, String.append_assoc]
  · have shared : IsName "protocol.go" := by
      have isPlain : IsPlain "protocol" := by simp [IsPlain]
      simpa using isPlain.isName_source
    unfold fileNames
    simp only [List.forall_mem_cons, List.forall_mem_map]
    refine ⟨⟨isPackage, shared, by simp⟩, fun role isMember => ?_⟩
    exact ⟨isPackage, (areNames role isMember).1, (areNames role isMember).2, by simp⟩

theorem package_of_plan
    (protocol : Protocol) :
    (planProtocol protocol).package = packageName protocol.name := by
  simp only [planProtocol]

/-- What a generator that succeeds has found out about a protocol, and what it answers. -/
theorem generate_parts
    {protocol : Protocol}
    (generated : generator.generate protocol = .ok output) :
    clash? (planProtocol protocol).declarations = none ∧
      sharedIsValid generator.runtimePath (planProtocol protocol) = true ∧
        ∃ files, generator.roleFiles (planProtocol protocol) generator.roles = .ok files ∧
          output =
            { protocol := protocol.name
              package := generator.packagePath (planProtocol protocol).package
              files :=
                ⟨(planProtocol protocol).package ++ "/protocol.go",
                  fileText (sharedLines generator.runtimePath (planProtocol protocol))⟩ :: files } := by
  unfold generate at generated
  simp only at generated
  split at generated
  · cases generated
  · split at generated
    · cases generated
    · rename_i free
      split at generated
      · cases generated
      · rename_i text isText
        split at generated
        · cases generated
        · rename_i files rendered
          cases generated
          unfold sharedText? at isText
          simp only [Option.ite_none_right_eq_some, Option.some.injEq, Bool.and_eq_true] at isText
          obtain ⟨⟨isValid, -⟩, rfl⟩ := isText
          exact ⟨free, isValid, files, rendered, rfl⟩

/-- The files of a generated protocol are those of the package of its name. -/
theorem generate_places
    {protocol : Protocol}
    (generated : generator.generate protocol = .ok output) :
    generator.Places output (packageName protocol.name) := by
  rw [← package_of_plan]
  have isPackage : IsName (planProtocol protocol).package := by
    rw [package_of_plan]
    exact packageName_isName protocol.name
  obtain ⟨-, -, files, rendered, rfl⟩ := generate_parts generated
  exact places_of_plan isPackage rendered

/-- One call generates every package at most once, and none that is taken. -/
theorem generateAfter_places
    {taken : List (String × String)}
    {protocols : List Protocol}
    {outputs : List Output}
    (generated : generator.generateAfter taken protocols = .ok outputs) :
    (∀ output ∈ outputs, ∃ package,
        generator.Places output package ∧ taken.lookup package = none) ∧
      outputs.Pairwise fun one other => one.package ≠ other.package := by
  induction protocols generalizing taken outputs with
  | nil =>
      cases generated
      simp
  | cons protocol rest inductionHypothesis =>
      unfold generateAfter at generated
      simp only at generated
      split at generated
      · cases generated
      · rename_i isFree
        split at generated
        · cases generated
        · rename_i output first
          cases others : generator.generateAfter
              ((packageName protocol.name, protocol.name) :: taken) rest with
          | error error =>
              rw [others] at generated
              cases generated
          | ok restOutputs =>
              rw [others] at generated
              cases generated
              have places := generate_places first
              obtain ⟨restPlaces, restDifferent⟩ := inductionHypothesis others
              constructor
              · rw [List.forall_mem_cons]
                refine ⟨⟨packageName protocol.name, places, isFree⟩, fun other isMember => ?_⟩
                obtain ⟨package, otherPlaces, notTaken⟩ := restPlaces other isMember
                rw [List.lookup_eq_none_iff, List.forall_mem_cons] at notTaken
                exact ⟨package, otherPlaces, List.lookup_eq_none_iff.mpr notTaken.2⟩
              · refine List.pairwise_cons.mpr ⟨fun other isMember same => ?_, restDifferent⟩
                obtain ⟨package, otherPlaces, notTaken⟩ := restPlaces other isMember
                rw [places.packagePath, otherPlaces.packagePath] at same
                rw [packagePath_injective same] at notTaken
                simp at notTaken

theorem generateAll_places
    {cancelled : Bool}
    {protocols : List Protocol}
    {outputs : List Output}
    (generated : generator.generateAll cancelled protocols = .ok outputs) :
    (∀ output ∈ outputs, ∃ package, generator.Places output package) ∧
      outputs.Pairwise fun one other => one.package ≠ other.package := by
  unfold generateAll at generated
  split at generated
  · cases generated
  · obtain ⟨places, different⟩ := generateAfter_places generated
    exact ⟨fun output isMember => (places output isMember).imp fun _ found => found.1, different⟩

theorem roles_nodup
    {config : Config}
    (different : config.roles.Nodup)
    (configured : config.generator = .ok generator) :
    generator.roles.Nodup := by
  unfold Config.generator at configured
  simp only at configured
  split at configured
  · cases configured
  · split at configured
    · cases configured
    · cases configured
      show (if _ then _ else _ : List Role).Nodup
      split
      · decide
      · exact different

/-! ## Paths -/

namespace Places

variable {other : Output} {otherPackage : String}

theorem exists_names
    (places : generator.Places output package)
    {path : String}
    (isPath : path ∈ output.files.map (·.path)) :
    ∃ names, names ≠ [] ∧ (∀ name ∈ names, IsName name) ∧ names.head? = some package ∧
      path = nested names := by
  rw [places.files] at isPath
  obtain ⟨names, isMember, rfl⟩ := List.mem_map.mp isPath
  have head : names.head? = some package := by
    unfold fileNames at isMember
    obtain rfl | ofRole := List.mem_cons.mp isMember
    · rfl
    · obtain ⟨role, -, rfl⟩ := List.mem_map.mp ofRole
      rfl
  refine ⟨names, ?_, places.areNames names isMember, head, rfl⟩
  rintro rfl
  cases head

/-- The files of one output have different paths. -/
theorem paths_nodup
    (places : generator.Places output package)
    (different : generator.roles.Nodup) :
    (output.files.map (·.path)).Nodup := by
  rw [places.files]
  have notNil : ∀ names ∈ fileNames package generator.roles, names ≠ [] := by
    simp [fileNames]
  refine List.Nodup.map_on (fun one isOne other isOther same => ?_) (fileNames_nodup different)
  exact nested_injective (places.areNames one isOne) (places.areNames other isOther)
    (notNil one isOne) (notNil other isOther) same

theorem isPlainPath
    (places : generator.Places output package)
    {path : String}
    (isPath : path ∈ output.files.map (·.path)) :
    IsPlainPath path := by
  obtain ⟨names, someLeft, areNames, -, rfl⟩ := places.exists_names isPath
  exact ⟨names, someLeft, areNames, rfl⟩

/-- Two outputs share a path exactly if they are of the same package. -/
theorem paths_disjoint_iff
    (places : generator.Places output package)
    (otherPlaces : generator.Places other otherPackage) :
    (output.files.map (·.path)).Disjoint (other.files.map (·.path)) ↔
      output.package ≠ other.package := by
  constructor
  · intro disjoint same
    rw [places.packagePath, otherPlaces.packagePath] at same
    have samePackage := packagePath_injective same
    have shared : nested [package, "protocol.go"] ∈ output.files.map (·.path) := by
      simp [places.files, fileNames]
    have otherShared : nested [package, "protocol.go"] ∈ other.files.map (·.path) := by
      simp [otherPlaces.files, fileNames, samePackage]
    exact disjoint shared otherShared
  · intro different path isPath isOther
    obtain ⟨names, someLeft, areNames, head, rfl⟩ := places.exists_names isPath
    obtain ⟨otherNames, otherSome, otherAreNames, otherHead, same⟩ :=
      otherPlaces.exists_names isOther
    have sameNames := nested_injective areNames otherAreNames someLeft otherSome same
    rw [sameNames, otherHead, Option.some.injEq] at head
    exact different (by rw [places.packagePath, otherPlaces.packagePath, head])

end Places

end Generator

end Wayland.Binding
