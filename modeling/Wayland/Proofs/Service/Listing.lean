import Mathlib.Data.List.Forall2
import Wayland.Proofs.Check.Rule
import Wayland.Proofs.Model.Json
import Wayland.Service.Answer

/-!
Contract: the list of protocols and the lookups below it tell the same story.

Owns:
- that a name is listed once, and the entry that stands for it;
- where an entry comes from: the first compiled collection that has the name, or else the imports;
- the answers about a published result, for every mixture of collections and imports.

Does not own: how the variables of a path come by their values.
-/

namespace Wayland.Service

open Wayland.Catalog (Outcome Result)
open Wayland.Check (IsFirst find?_eq_some_iff_isFirst)
open Wayland.Json (Value mend member?_mended mendedItems_eq read? read?_compact textOf)
open Wayland.Model (Interface Protocol)
open Wayland.Text (Bytes)

/-! ## Names -/

/-- A collection that compiled, and has a protocol of the name. -/
def Compiles
    (name : String)
    (outcome : Outcome) :
    Prop :=
  outcome.status = .compiled ∧ ∃ protocol ∈ outcome.protocols, protocol.name = name

/-- A compiled collection or an import has a protocol of the name. -/
def IsOffered
    (result : Result)
    (name : String) :
    Prop :=
  (∃ outcome ∈ result.outcomes, Compiles name outcome) ∨
    ∃ protocol ∈ result.imports, protocol.name = name

/-- Where an entry of the list comes from. -/
inductive Stems (result : Result) : Listed → Prop where
  /-- The first compiled collection that has the name, and its first protocol of that name. -/
  | compiled {outcome : Outcome} {protocol : Protocol}
      (collection : IsFirst (Compiles protocol.name) result.outcomes outcome)
      (model : IsFirst (fun other => other.name = protocol.name) outcome.protocols protocol) :
      Stems result ⟨outcome.name, protocol⟩
  /-- The first import of the name, which no collection compiled. -/
  | imported {protocol : Protocol}
      (uncompiled : ¬ ∃ outcome ∈ result.outcomes, Compiles protocol.name outcome)
      (model : IsFirst (fun other => other.name = protocol.name) result.imports protocol) :
      Stems result ⟨importCollection, protocol⟩

/-! ## Candidates -/

section Candidates

variable {result : Result} {entry : Listed} {name : String}

theorem exists_candidate_iff :
    (∃ candidate ∈ candidates result, candidate.protocol.name = name) ↔ IsOffered result name := by
  unfold candidates IsOffered Compiles
  simp only [List.mem_append, List.mem_flatMap, List.mem_map, List.mem_filter, beq_iff_eq]
  constructor
  · rintro ⟨_, ⟨outcome, ⟨isMember, isCompiled⟩, protocol, isOne, rfl⟩ | ⟨protocol, isOne, rfl⟩,
      named⟩
    · exact .inl ⟨outcome, isMember, isCompiled, protocol, isOne, named⟩
    · exact .inr ⟨protocol, isOne, named⟩
  · rintro (⟨outcome, isMember, isCompiled, protocol, isOne, named⟩ | ⟨protocol, isOne, named⟩)
    · exact ⟨_, .inl ⟨outcome, ⟨isMember, isCompiled⟩, protocol, isOne, rfl⟩, named⟩
    · exact ⟨_, .inr ⟨protocol, isOne, rfl⟩, named⟩

theorem find?_listed
    (collection : String)
    (protocols : List Protocol)
    (name : String) :
    (protocols.map (Listed.mk collection)).find? (·.protocol.name == name) =
      (protocols.find? (·.name == name)).map (Listed.mk collection) := by
  rw [List.find?_map]
  rfl

theorem not_compiles_of_find?
    {outcome : Outcome}
    (unfound : outcome.protocols.find? (·.name == name) = none) :
    ¬Compiles name outcome := by
  rintro ⟨-, protocol, isOne, named⟩
  exact List.find?_eq_none.mp unfound protocol isOne (by simp [named])

/-- The first candidate that a collection contributes is from the first one that has the name.
Collections that did not compile stand between the compiled ones, and do not count. -/
theorem isFirst_of_findSome?
    (found : (result.outcomes.filter (·.status == .compiled)).findSome? (fun outcome =>
      (outcome.protocols.find? (·.name == name)).map (Listed.mk outcome.name)) = some entry) :
    ∃ outcome protocol, entry = ⟨outcome.name, protocol⟩ ∧
      IsFirst (Compiles name) result.outcomes outcome ∧
        IsFirst (fun other => other.name = name) outcome.protocols protocol := by
  obtain ⟨passed, outcome, left, kept, hit, missed⟩ := List.findSome?_eq_some_iff.mp found
  obtain ⟨front, back, outcomes, keptFront, keptBack⟩ := List.filter_eq_append_iff.mp kept
  obtain ⟨skipped, after, backOutcomes, unkept, isCompiled, -⟩ :=
    List.filter_eq_cons_iff.mp keptBack
  obtain ⟨protocol, isProtocol, isEntry⟩ := Option.map_eq_some_iff.mp hit
  have isOne := List.mem_of_find?_eq_some isProtocol
  have named : protocol.name = name := by simpa using List.find?_some isProtocol
  have model := find?_eq_some_iff_isFirst.mp isProtocol
  refine ⟨outcome, protocol, isEntry.symm, ⟨front ++ skipped, after, ?_, ?_, ?_⟩, ?_⟩
  · rw [outcomes, backOutcomes, List.append_assoc]
  · exact ⟨by simpa using isCompiled, protocol, isOne, named⟩
  · intro earlier isEarlier compiles
    rcases List.mem_append.mp isEarlier with inFront | isSkipped
    · have isPassed : earlier ∈ passed := by
        rw [← keptFront]
        exact List.mem_filter.mpr ⟨inFront, by simp [compiles.1]⟩
      exact not_compiles_of_find? (Option.map_eq_none_iff.mp (missed earlier isPassed)) compiles
    · exact unkept earlier isSkipped (by simp [compiles.1])
  · simpa using model

/-- The first candidate of a name is where its entry comes from. -/
theorem stems_of_find?
    (found : (candidates result).find? (·.protocol.name == name) = some entry) :
    Stems result entry := by
  have named : entry.protocol.name = name := by simpa using List.find?_some found
  subst named
  unfold candidates at found
  simp only [List.find?_append, List.find?_flatMap, find?_listed] at found
  cases compiled : (result.outcomes.filter (·.status == .compiled)).findSome? (fun outcome =>
      (outcome.protocols.find? (·.name == entry.protocol.name)).map (Listed.mk outcome.name)) with
  | some first =>
      rw [compiled, Option.some_or] at found
      obtain rfl : first = entry := Option.some.inj found
      obtain ⟨outcome, protocol, rfl, collection, model⟩ := isFirst_of_findSome? compiled
      exact .compiled collection model
  | none =>
      rw [compiled, Option.none_or] at found
      obtain ⟨protocol, isProtocol, rfl⟩ := Option.map_eq_some_iff.mp found
      refine .imported ?_ (by simpa using find?_eq_some_iff_isFirst.mp isProtocol)
      rintro ⟨outcome, isMember, compiles⟩
      have isKept : outcome ∈ result.outcomes.filter (·.status == .compiled) :=
        List.mem_filter.mpr ⟨isMember, by simp [compiles.1]⟩
      have unfound := List.findSome?_eq_none_iff.mp compiled outcome isKept
      exact not_compiles_of_find? (Option.map_eq_none_iff.mp unfound) compiles

end Candidates

/-! ## The index -/

section Index

variable {result : Result} {entry : Listed} {name : String}

/-- The list is searched as the candidates are, but for names that were seen before. -/
theorem find?_firstOfEach
    (seen : List String)
    (list : List Listed)
    (name : String) :
    (firstOfEach seen list).find? (·.protocol.name == name) =
      if name ∈ seen then none else list.find? (·.protocol.name == name) := by
  induction list generalizing seen with
  | nil => simp [firstOfEach]
  | cons candidate rest inductionHypothesis =>
      unfold firstOfEach
      by_cases isSeen : candidate.protocol.name ∈ seen
      · rw [if_pos (by simpa using isSeen), inductionHypothesis]
        by_cases known : name ∈ seen
        · rw [if_pos known, if_pos known]
        · have different : candidate.protocol.name ≠ name := fun same => known (same ▸ isSeen)
          rw [if_neg known, if_neg known, List.find?_cons_of_neg (by simpa using different)]
      · rw [if_neg (by simpa using isSeen)]
        by_cases same : candidate.protocol.name = name
        · rw [List.find?_cons_of_pos (by simpa using same), if_neg (same ▸ isSeen),
            List.find?_cons_of_pos (by simpa using same)]
        · rw [List.find?_cons_of_neg (by simpa using same), inductionHypothesis,
            List.find?_cons_of_neg (by simpa using same)]
          simp [Ne.symm same]

/-- A list without names that were seen before has each name once. -/
theorem nodup_firstOfEach
    (seen : List String)
    (list : List Listed) :
    ((firstOfEach seen list).map (·.protocol.name)).Nodup ∧
      ∀ name ∈ seen, name ∉ (firstOfEach seen list).map (·.protocol.name) := by
  induction list generalizing seen with
  | nil => simp [firstOfEach]
  | cons candidate rest inductionHypothesis =>
      unfold firstOfEach
      by_cases isSeen : candidate.protocol.name ∈ seen
      · rw [if_pos (by simpa using isSeen)]
        exact inductionHypothesis seen
      · rw [if_neg (by simpa using isSeen), List.map_cons, List.nodup_cons]
        obtain ⟨different, unseen⟩ := inductionHypothesis (candidate.protocol.name :: seen)
        refine ⟨⟨unseen _ List.mem_cons_self, different⟩, ?_⟩
        intro name known isListed
        rcases List.mem_cons.mp isListed with same | isLater
        · exact isSeen (same ▸ known)
        · exact unseen name (List.mem_cons_of_mem _ known) isLater

theorem listed?_eq
    (result : Result)
    (name : String) :
    listed? result name = (candidates result).find? (·.protocol.name == name) := by
  unfold listed? index
  rw [find?_firstOfEach, if_neg List.not_mem_nil]

/-- Every name is listed once. -/
theorem nodup_index
    (result : Result) :
    ((index result).map (·.protocol.name)).Nodup :=
  (nodup_firstOfEach [] (candidates result)).1

/-- A lookup finds exactly the entries of the list. -/
theorem listed?_eq_some_iff :
    listed? result name = some entry ↔ entry ∈ index result ∧ entry.protocol.name = name := by
  constructor
  · intro found
    exact ⟨List.mem_of_find?_eq_some found, by simpa using List.find?_some found⟩
  · rintro ⟨isMember, rfl⟩
    cases found : listed? result entry.protocol.name with
    | none => exact absurd (by simp) (List.find?_eq_none.mp found entry isMember)
    | some other =>
        have sameName : other.protocol.name = entry.protocol.name := by
          simpa using List.find?_some found
        have isOther := List.mem_of_find?_eq_some found
        rw [List.inj_on_of_nodup_map (nodup_index result) isOther isMember sameName]

theorem listed?_eq_none_iff :
    listed? result name = none ↔ name ∉ (index result).map (·.protocol.name) := by
  simp [listed?]

theorem mem_index_names_iff :
    name ∈ (index result).map (·.protocol.name) ↔ IsOffered result name := by
  rw [← exists_candidate_iff, ← not_iff_not, ← listed?_eq_none_iff, listed?_eq]
  simp

theorem stems_of_mem_index
    (isMember : entry ∈ index result) :
    Stems result entry := by
  have found := listed?_eq_some_iff.mpr ⟨isMember, rfl⟩
  rw [listed?_eq] at found
  exact stems_of_find? found

end Index

/-! ## Answers -/

def Captures.protocolName
    (captures : Captures) :
    String :=
  Bytes.toText (captures.value "name")

def Captures.interfaceName
    (captures : Captures) :
    String :=
  Bytes.toText (captures.value "iface")

/-- A response has a status, and its body is read as a JSON value. -/
structure Response.Tells
    (response : Response)
    (status : Nat)
    (value : Value) : Prop where
  status : response.status = status
  kind : ("Content-Type", ["application/json"]) ∈ response.headers.fields
  body : read? response.body = some value

/-- What the list says of an entry. -/
structure Presents
    (value : Value)
    (entry : Listed) : Prop where
  name : value.member? "name" = some (.text (mend entry.protocol.name))
  collection : value.member? "collection" = some (.text (mend entry.collection))
  document : textOf (value.member? "document") = mend entry.protocol.document
  summary : textOf (value.member? "summary") = mend entry.protocol.description.summary
  interfaces : value.member? "interfaces" =
    some (.list (entry.protocol.interfaces.map fun interface => .text (mend interface.name)))

namespace State

def Answers
    (state : State)
    (exchange : Exchange)
    (captures : Captures)
    (endpoint : Endpoint)
    (status : Nat)
    (value : Value) : Prop :=
  ∃ response, state.answer exchange captures endpoint = .ok response ∧ response.Tells status value

/-- An endpoint answers that nothing is there, by an error with a code and a message. -/
def Refuses
    (state : State)
    (exchange : Exchange)
    (captures : Captures)
    (endpoint : Endpoint)
    (code message : String) : Prop :=
  ∃ value error, state.Answers exchange captures endpoint 404 value ∧
    value.member? "error" = some error ∧
      error.member? "code" = some (.text code) ∧
      error.member? "message" = some (.text (mend message))

end State

/-- What a service shows of a result: a list of protocols, and lookups that agree with it. -/
structure Shows
    (state : State)
    (exchange : Exchange)
    (result : Result)
    (entries : List Listed) : Prop where
  /-- The list shows the entries, in order and nothing else. -/
  list : ∀ captures, ∃ values,
    state.Answers exchange captures .protocols 200 (.list values) ∧
      List.Forall₂ Presents values entries
  /-- Each name is listed once: those of compiled collections and of imports. -/
  once : (entries.map (·.protocol.name)).Nodup
  complete : ∀ name, name ∈ entries.map (·.protocol.name) ↔ IsOffered result name
  stems : ∀ entry ∈ entries, Stems result entry
  /-- A lookup returns the model of the entry, and fails under a name that is not listed. -/
  listed : ∀ entry ∈ entries, ∀ captures, captures.protocolName = entry.protocol.name →
    ∃ value, state.Answers exchange captures .protocol 200 value ∧
      Protocol.ofJson value = entry.protocol.mended
  unlisted : ∀ captures, captures.protocolName ∉ entries.map (·.protocol.name) →
    ∀ endpoint ∈ [Endpoint.protocol, .interface],
      state.Refuses exchange captures endpoint "protocol_not_found"
        ("unknown protocol " ++ captures.protocolName)
  /-- Below an entry are its interfaces, the first of each name, and nothing else. -/
  interface : ∀ entry ∈ entries, ∀ captures, captures.protocolName = entry.protocol.name →
    ∀ interface, IsFirst (fun other => other.name = captures.interfaceName)
        entry.protocol.interfaces interface →
      ∃ value, state.Answers exchange captures .interface 200 value ∧
        Interface.ofJson value = interface.mended
  noInterface : ∀ entry ∈ entries, ∀ captures, captures.protocolName = entry.protocol.name →
    captures.interfaceName ∉ entry.protocol.interfaces.map (·.name) →
      state.Refuses exchange captures .interface "interface_not_found"
        ("unknown interface " ++ captures.interfaceName)
  /-- What failed or was skipped is not served on its own account. -/
  withheld : ∀ outcome ∈ result.outcomes, outcome.status ≠ .compiled →
    ∀ protocol ∈ outcome.protocols, ¬IsOffered result protocol.name →
      protocol.name ∉ entries.map (·.protocol.name) ∧
        ∀ captures, captures.protocolName = protocol.name →
          ∀ endpoint ∈ [Endpoint.protocol, .interface],
            state.Refuses exchange captures endpoint "protocol_not_found"
              ("unknown protocol " ++ protocol.name)

section Answers

variable {state : State} {published : Published} {exchange : Exchange} {captures : Captures}
variable {entry : Listed} {endpoint : Endpoint}

/-- The body of a JSON response is read as its value. -/
theorem tells_json
    (exchange : Exchange)
    (status : Nat)
    (value : Value) :
    (exchange.json status value).Tells status value.mended where
  status := rfl
  kind := by
    have spelled : canonicalName "Content-Type" = "Content-Type" := by decide
    simp [Exchange.json, Headers.set, spelled]
  body := read?_compact value (by decide)

theorem answers_of_view
    {value : Value}
    (shown : state.answer exchange captures endpoint = .ok (exchange.json 200 value)) :
    state.Answers exchange captures endpoint 200 value.mended :=
  ⟨_, shown, tells_json exchange 200 value⟩

/-- The report of a problem has its code and its message. -/
theorem refuses_of_problem
    {problem : Problem}
    {message : String}
    (reported : state.answer exchange captures endpoint = .ok (exchange.problem state.now problem))
    (isMissing : problem.status = 404)
    (isMessage : problem.message = .text message) :
    state.Refuses exchange captures endpoint problem.code message := by
  let report : Value := .ofOptions [
    ("code", some (.text problem.code)),
    ("message", some problem.message),
    ("request_id", Value.nonEmpty exchange.id),
    ("timestamp", some (.text state.now)),
    ("details", problem.details?)]
  have isObject : Value.object [("error", report)] = .ofOptions [("error", some report)] := rfl
  have error := member?_mended isObject ["error"] rfl (by decide) "error"
  have members := member?_mended (rfl : report = .ofOptions _)
    ["code", "message", "request_id", "timestamp", "details"] rfl (by decide)
  have tells : (exchange.problem state.now problem).Tells problem.status
      (Value.object [("error", report)]).mended :=
    tells_json exchange problem.status (.object [("error", report)])
  rw [isMissing] at tells
  refine ⟨_, _, ⟨_, reported, tells⟩, error, ?_, ?_⟩
  · have plain : mend problem.code = problem.code := by
      unfold Problem.code
      split <;> decide
    simp [members, plain]
  · simp [members, List.lookup_cons, isMessage]

theorem presents_protocolView
    (entry : Listed) :
    Presents (protocolView entry).mended entry := by
  have members := member?_mended (rfl : protocolView entry = .ofOptions _)
    ["name", "collection", "document", "summary", "interfaces"] rfl (by decide)
  constructor <;> simp [members, List.lookup_cons]

theorem protocol_eq_ok
    (isPublished : state.published? = some published)
    (isMember : entry ∈ index published.result)
    (asked : captures.protocolName = entry.protocol.name) :
    state.protocol (captures.value "name") = .ok entry.protocol := by
  have found := listed?_eq_some_iff.mpr ⟨isMember, asked.symm⟩
  unfold Captures.protocolName at found
  simp only [State.protocol, State.result, isPublished, bind, Except.bind, found]

theorem protocol_eq_error
    (isPublished : state.published? = some published)
    (unlisted : captures.protocolName ∉ (index published.result).map (·.protocol.name)) :
    state.protocol (captures.value "name") = .error (.unknownProtocol (captures.value "name")) := by
  have unfound := listed?_eq_none_iff.mpr unlisted
  unfold Captures.protocolName at unfound
  simp only [State.protocol, State.result, isPublished, bind, Except.bind, unfound]

theorem answers_list
    (isPublished : state.published? = some published) :
    ∃ values, state.Answers exchange captures .protocols 200 (.list values) ∧
      List.Forall₂ Presents values (index published.result) := by
  have shown : state.answer exchange captures .protocols =
      .ok (exchange.json 200 (.list ((index published.result).map protocolView))) := by
    simp only [State.answer, State.view, State.result, isPublished, bind, Except.bind, pure,
      Except.pure]
  have answers := answers_of_view shown
  rw [Value.mended_list] at answers
  refine ⟨_, answers, ?_⟩
  rw [List.forall₂_map_left_iff, List.forall₂_map_left_iff]
  exact List.forall₂_same.mpr fun entry _ => presents_protocolView entry

theorem answers_of_listed
    (isPublished : state.published? = some published)
    (isMember : entry ∈ index published.result)
    (asked : captures.protocolName = entry.protocol.name) :
    ∃ value, state.Answers exchange captures .protocol 200 value ∧
      Protocol.ofJson value = entry.protocol.mended := by
  have found := protocol_eq_ok isPublished isMember asked
  have shown : state.answer exchange captures .protocol =
      .ok (exchange.json 200 entry.protocol.json) := by
    simp only [State.answer, State.view, found, bind, Except.bind, pure, Except.pure]
  exact ⟨_, answers_of_view shown, Protocol.ofJson_json entry.protocol⟩

/-- Nothing is found under a name that is not listed, nor below it. -/
theorem refuses_of_unlisted
    (isPublished : state.published? = some published)
    (unlisted : captures.protocolName ∉ (index published.result).map (·.protocol.name))
    (isEndpoint : endpoint ∈ [Endpoint.protocol, .interface]) :
    state.Refuses exchange captures endpoint "protocol_not_found"
      ("unknown protocol " ++ captures.protocolName) := by
  have unfound := protocol_eq_error isPublished unlisted
  have reported : state.answer exchange captures endpoint =
      .ok (exchange.problem state.now (.unknownProtocol (captures.value "name"))) := by
    rcases List.mem_pair.mp isEndpoint with rfl | rfl
    · simp only [State.answer, State.view, unfound, bind, Except.bind]
    · simp only [State.answer, State.view, State.interface, unfound, bind, Except.bind]
  exact refuses_of_problem reported rfl rfl

theorem answers_of_interface
    (isPublished : state.published? = some published)
    (isMember : entry ∈ index published.result)
    (asked : captures.protocolName = entry.protocol.name)
    {interface : Interface}
    (isFirst : IsFirst (fun other => other.name = captures.interfaceName)
      entry.protocol.interfaces interface) :
    ∃ value, state.Answers exchange captures .interface 200 value ∧
      Interface.ofJson value = interface.mended := by
  have protocolFound := protocol_eq_ok isPublished isMember asked
  have found : entry.protocol.interface? (Bytes.toText (captures.value "iface")) = some interface :=
    find?_eq_some_iff_isFirst.mpr (by simpa [Captures.interfaceName] using isFirst)
  have shown : state.answer exchange captures .interface =
      .ok (exchange.json 200 interface.json) := by
    simp only [State.answer, State.view, State.interface, protocolFound, found, bind, Except.bind,
      pure, Except.pure]
  exact ⟨_, answers_of_view shown, Interface.ofJson_json interface⟩

theorem refuses_of_noInterface
    (isPublished : state.published? = some published)
    (isMember : entry ∈ index published.result)
    (asked : captures.protocolName = entry.protocol.name)
    (unknown : captures.interfaceName ∉ entry.protocol.interfaces.map (·.name)) :
    state.Refuses exchange captures .interface "interface_not_found"
      ("unknown interface " ++ captures.interfaceName) := by
  have protocolFound := protocol_eq_ok isPublished isMember asked
  have unfound : entry.protocol.interface? (Bytes.toText (captures.value "iface")) = none :=
    List.find?_eq_none.mpr (by simpa [Captures.interfaceName] using unknown)
  have reported : state.answer exchange captures .interface =
      .ok (exchange.problem state.now
        (.unknownInterface (captures.value "iface") entry.protocol.name)) := by
    simp only [State.answer, State.view, State.interface, protocolFound, unfound, bind, Except.bind]
  exact refuses_of_problem reported rfl rfl

end Answers

/-- The service shows what was published last: the list of protocols and the lookups below it agree,
for every mixture of compiled, failed and skipped collections with imports. -/
theorem shows_index
    (state : State)
    (published : Published)
    (exchange : Exchange) :
    Shows { state with published? := some published } exchange published.result
      (index published.result) where
  list _ := answers_list rfl
  once := nodup_index published.result
  complete _ := mem_index_names_iff
  stems _ := stems_of_mem_index
  listed _ isMember _ asked := answers_of_listed rfl isMember asked
  unlisted _ unlisted _ isEndpoint := refuses_of_unlisted rfl unlisted isEndpoint
  interface _ isMember _ asked _ isFirst := answers_of_interface rfl isMember asked isFirst
  noInterface _ isMember _ asked unknown := refuses_of_noInterface rfl isMember asked unknown
  withheld outcome _ _ protocol _ notOffered := by
    have unlisted : protocol.name ∉ (index published.result).map (·.protocol.name) :=
      fun isListed => notOffered (mem_index_names_iff.mp isListed)
    refine ⟨unlisted, fun captures asked endpoint isEndpoint => ?_⟩
    rw [← asked] at unlisted ⊢
    exact refuses_of_unlisted rfl unlisted isEndpoint

/-- A collection that failed, two that compiled and one that was skipped, with imports.  All of them
share names. -/
def mixedResult : Result where
  outcomes := [
    { name := "early", version := "", description := "", verdict := .failed ⟨[], .cancelled⟩
      protocols := [{ name := "shell", document := "early.xml" }, { name := "lost" }] },
    { name := "desktop", version := "", description := "", verdict := .compiled []
      protocols := [{ name := "shell", document := "desktop.xml" }] },
    { name := "phone", version := "", description := "", verdict := .compiled []
      protocols := [{ name := "shell", document := "phone.xml" }, { name := "layer" }] },
    { name := "late", version := "", description := "", verdict := .skipped "off"
      protocols := [{ name := "core", document := "late.xml" }] }]
  imports := [
    { name := "core", document := "core.xml" }, { name := "layer", document := "core.xml" }]

/-- The service after the mixture was published. -/
def mixedState : State where
  published? := some ⟨mixedResult, "run", "now"⟩
  registry := {}
  now := "now"

def plainExchange : Exchange where
  request := { method := "GET", target := { path := [slash] } }
  id := "1"
  headers := {}

/-- The variables of a path that asks for a protocol. -/
def askFor
    (name : String) :
    Captures :=
  ⟨[("name", Bytes.ofText name)]⟩

/-- Of the collections that share a name the first one that compiled is shown, and what only the
failed one has is not. -/
theorem mixed_result_is_shown :
    index mixedResult =
        [⟨"desktop", { name := "shell", document := "desktop.xml" }⟩,
          ⟨"phone", { name := "layer" }⟩,
          ⟨"imports", { name := "core", document := "core.xml" }⟩] ∧
      Shows mixedState plainExchange mixedResult (index mixedResult) ∧
      (∃ value, mixedState.Answers plainExchange (askFor "shell") .protocol 200 value ∧
        Protocol.ofJson value = { name := "shell", document := "desktop.xml" }) ∧
      ¬IsOffered mixedResult "lost" ∧
      mixedState.Refuses plainExchange (askFor "lost") .protocol "protocol_not_found"
        "unknown protocol lost" := by
  have entries : index mixedResult =
      [⟨"desktop", { name := "shell", document := "desktop.xml" }⟩, ⟨"phone", { name := "layer" }⟩,
        ⟨"imports", { name := "core", document := "core.xml" }⟩] := by
    decide
  have shows := shows_index mixedState ⟨mixedResult, "run", "now"⟩ plainExchange
  have isFirst : (⟨"desktop", { name := "shell", document := "desktop.xml" }⟩ : Listed) ∈
      index mixedResult := by
    rw [entries]
    exact List.mem_cons_self
  refine ⟨entries, shows, shows.listed _ isFirst (askFor "shell") (by decide), ?_, ?_⟩
  · rw [← mem_index_names_iff, entries]
    decide
  · refine shows.unlisted (askFor "lost") ?_ .protocol List.mem_cons_self
    show _ ∉ (index mixedResult).map (·.protocol.name)
    rw [entries]
    decide

end Wayland.Service
