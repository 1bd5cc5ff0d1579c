import Wayland.Check.Rules
import Wayland.Proofs.Document.Agreement
import Wayland.Proofs.Document.Finishing
import Wayland.Proofs.Yaml.Expansion

/-!
Contract: references and merges in documents in YAML.

Owns:
- the keys that the reader looks for in the tree itself, and which of them references hide;
- that a document is read like its expansion where no such key is hidden, and that one of the two is
  refused where one is.

Does not own: that both are decoded as the same record.
-/

namespace Wayland.Document.FromMapping

open Wayland.Document.Outline (IsTyped)
open Wayland.Model
open Wayland.Yaml (Expands)

/-! ## Spots in two trees -/

/-- The trees of a document: the one with references, and the one where they are expanded. -/
inductive Form where
  | referring
  | expanded

def Spot.item
    (spot : Spot)
    (index : Nat) :
    Spot :=
  match spot.exact, item? index spot.node with
  | true, some node => ⟨node, true⟩
  | _, _ => { spot with exact := false }

theorem items_eq_map
    (spot : Spot)
    (length : Nat) :
    spot.items length = (List.range length).map spot.item := by
  obtain ⟨node, isExact⟩ := spot
  have others (missing : Spot) :
      List.replicate length missing = (List.range length).map fun _ => missing := by
    rw [List.map_const', List.length_range]
  cases isExact with
  | false => exact others _
  | true =>
      cases node with
      | sequence tag nodes line =>
          refine List.ext_getElem (by simp [Spot.items]; omega) fun index inside _ => ?_
          rw [length_items] at inside
          simp only [Spot.items, Spot.item, item?, List.getElem_map, List.getElem_range]
          by_cases written : index < nodes.length
          · rw [List.getElem_append_left (by simp; omega), List.getElem?_eq_getElem written]
            simp
          · rw [List.getElem_append_right (by simp; omega), List.getElem_replicate,
              List.getElem?_eq_none (Nat.le_of_not_lt written)]
      | _ => exact others _

abbrev Twin := Form → Spot

def Twin.key
    (twin : Twin)
    (key : String) :
    Twin :=
  fun form => (twin form).key key

/-- The parts of a list that stands at a spot in both trees, each with its own spots. -/
def Twin.place
    {α : Type}
    (twin : Twin)
    (parts : List α) :
    List (Twin × α) :=
  ((List.range parts.length).map fun index form => (twin form).item index).zip parts

theorem map_place
    {α : Type}
    (twin : Twin)
    (parts : List α)
    (form : Form) :
    (twin.place parts).map (Prod.map (· form) id) = (twin form).place parts := by
  unfold Twin.place Spot.place
  rw [← List.zip_map_left, List.map_map, items_eq_map]
  rfl

/-! ## What the expansion shows -/

section Shows

variable {anchored : List (Nat × Yaml.Node)} {node other value : Yaml.Node} {spot : Spot}
  {twin : Twin} {label : String} {index : Nat}

/-- An entry of a mapping itself is an entry of its expansion. -/
theorem entryNamed?_expands
    (expands : Expands anchored node other)
    (notMerge : label ≠ "<<")
    (found : entryNamed? label node = some value) :
    ∃ otherValue, entryNamed? label other = some otherValue ∧ Expands anchored value otherValue := by
  cases expands with
  | mapping expandsEntries =>
      obtain ⟨entry, isEntry, rfl⟩ := Option.map_eq_some_iff.mp found
      have isKey : entry.1.text = label := by simpa using List.find?_some isEntry
      have isOwn := List.mem_map_of_mem (f := (·.1.text)) (List.mem_of_find?_eq_some isEntry)
      rw [isKey] at isOwn
      obtain ⟨otherEntry, isOther, expandsValue⟩ :=
        expandsEntries.find?_eq_some isOwn notMerge isEntry
      exact ⟨otherEntry.2, Option.map_eq_some_iff.mpr ⟨otherEntry, isOther, rfl⟩, expandsValue⟩
  | _ => cases found

/-- An item of a list itself is an item of its expansion. -/
theorem item?_expands
    (expands : Expands anchored node other)
    (found : item? index node = some value) :
    ∃ otherValue, item? index other = some otherValue ∧ Expands anchored value otherValue := by
  cases expands with
  | sequence expandsNodes =>
      obtain ⟨inside, rfl⟩ := List.getElem?_eq_some_iff.mp found
      have insideOther := expandsNodes.length_eq ▸ inside
      exact ⟨_, List.getElem?_eq_getElem insideOther, expandsNodes.get inside insideOther⟩
  | _ => cases found

theorem key_eq_of_exact
    (isExact : (spot.key label).exact = true) :
    ∃ node, spot.exact = true ∧ entryNamed? label spot.node = some node ∧
      spot.key label = ⟨node, true⟩ := by
  unfold Spot.key at isExact ⊢
  split at isExact
  · rename_i node isSpot found
    exact ⟨node, isSpot, found, rfl⟩
  · cases isExact

theorem item_eq_of_exact
    (isExact : (spot.item index).exact = true) :
    ∃ node, spot.exact = true ∧ item? index spot.node = some node ∧
      spot.item index = ⟨node, true⟩ := by
  unfold Spot.item at isExact ⊢
  split at isExact
  · rename_i node isSpot found
    exact ⟨node, isSpot, found, rfl⟩
  · cases isExact

/-- What the document with references shows at a spot, its expansion shows as well. -/
def Twin.Shows
    (anchored : List (Nat × Yaml.Node))
    (twin : Twin) : Prop :=
  (twin .referring).exact = true →
    (twin .expanded).exact = true ∧ Expands anchored (twin .referring).node (twin .expanded).node

theorem Twin.Shows.key
    (shows : twin.Shows anchored)
    (notMerge : label ≠ "<<") :
    (twin.key label).Shows anchored := by
  intro isExact
  obtain ⟨node, isSpot, found, isKey⟩ := key_eq_of_exact isExact
  obtain ⟨otherExact, expands⟩ := shows isSpot
  obtain ⟨other, isOther, expandsValue⟩ := entryNamed?_expands expands notMerge found
  unfold Twin.key
  rw [isKey]
  simp only [Spot.key, otherExact, isOther]
  exact ⟨trivial, expandsValue⟩

theorem Twin.Shows.item
    (shows : twin.Shows anchored)
    (index : Nat) :
    Twin.Shows anchored fun form => (twin form).item index := by
  intro isExact
  obtain ⟨node, isSpot, found, isItem⟩ := item_eq_of_exact isExact
  obtain ⟨otherExact, expands⟩ := shows isSpot
  obtain ⟨other, isOther, expandsValue⟩ := item?_expands expands found
  dsimp only
  rw [isItem]
  simp only [Spot.item, otherExact, isOther]
  exact ⟨trivial, expandsValue⟩

theorem Twin.Shows.place
    {α : Type}
    {parts : List α}
    {placed : Twin × α}
    (shows : twin.Shows anchored)
    (isPlaced : placed ∈ twin.place parts) :
    placed.1.Shows anchored := by
  obtain ⟨index, -, isItem⟩ := List.mem_map.mp (List.of_mem_zip isPlaced).1
  rw [← isItem]
  exact shows.item index

theorem Twin.Shows.has
    (shows : twin.Shows anchored)
    (notMerge : label ≠ "<<")
    (has : (twin .referring).has label = true) :
    (twin .expanded).has label = true := by
  obtain ⟨isSpot, isSome⟩ := Bool.and_eq_true_iff.mp has
  obtain ⟨value, found⟩ := Option.isSome_iff_exists.mp isSome
  obtain ⟨otherExact, expands⟩ := shows isSpot
  obtain ⟨other, isOther, -⟩ := entryNamed?_expands expands notMerge found
  simp [Spot.has, otherExact, isOther]

end Shows

/-! ## Keys that are looked for -/

/-- The keys that are looked for in the tree. -/
inductive Need where
  | version
  | since
  | value
deriving DecidableEq

def Need.key : Need → String
  | .version => "version"
  | .since => "since"
  | .value => "value"

theorem Need.key_ne_merge
    (need : Need) :
    need.key ≠ "<<" := by
  cases need <;> decide

/-- Where messages have a first version of zero. -/
def messageSites
    (twin : Twin)
    (messages : List Message) :
    List (Twin × Need) :=
  (twin.place messages).flatMap fun placed =>
    if placed.2.since = 0 then [(placed.1, .since)] else []

def enumerationSites
    (twin : Twin)
    (enumeration : Enumeration) :
    List (Twin × Need) :=
  ((twin.key "entries").place enumeration.entries).map fun placed => (placed.1, .value)

/-- Where keys are looked for in an interface, whose own version is among them if it is zero. -/
def interfaceSites
    (twin : Twin)
    (interface : Interface) :
    List (Twin × Need) :=
  (if interface.version = 0 then [(twin, .version)] else [])
    ++ messageSites (twin.key "requests") interface.requests
    ++ messageSites (twin.key "events") interface.events
    ++ ((twin.key "enums").place interface.enumerations).flatMap fun placed =>
      enumerationSites placed.1 placed.2

def roots
    (root expanded : Yaml.Node) :
    Twin
  | .referring => ⟨root, true⟩
  | .expanded => ⟨expanded, true⟩

def sites
    (root expanded : Yaml.Node)
    (written : Protocol) :
    List (Twin × Need) :=
  (((roots root expanded).key "interfaces").place written.interfaces).flatMap fun placed =>
    interfaceSites placed.1 placed.2

/-- References hide a key that is looked for: only the expansion shows it. -/
def Hides
    (root expanded : Yaml.Node)
    (written : Protocol)
    (need : Need) : Prop :=
  ∃ twin, (twin, need) ∈ sites root expanded written ∧ (twin .referring).has need.key = false ∧
    (twin .expanded).has need.key = true

instance
    (root expanded : Yaml.Node)
    (written : Protocol)
    (need : Need) :
    Decidable (Hides root expanded written need) :=
  decidable_of_iff
    (∃ site ∈ sites root expanded written, site.2 = need ∧
      (site.1 .referring).has need.key = false ∧ (site.1 .expanded).has need.key = true)
    ⟨fun ⟨(twin, _), isSite, isNeed, hidden⟩ => ⟨twin, isNeed ▸ isSite, hidden⟩,
      fun ⟨twin, isSite, hidden⟩ => ⟨(twin, need), isSite, rfl, hidden⟩⟩

/-- Whether a spot has what is needed there: versions and values are, zeros are not. -/
def Need.Met
    (spot : Spot) :
    Need → Prop
  | .since => spot.has "since" = false
  | .version => spot.has "version" = true
  | .value => spot.has "value" = true

section Fits

variable {twin : Twin} {form : Form} {site : Twin × Need}

theorem mem_place
    {α : Type}
    {parts : List α}
    {placed : Twin × α}
    (isPlaced : placed ∈ twin.place parts)
    (form : Form) :
    (placed.1 form, placed.2) ∈ (twin form).place parts := by
  rw [← map_place]
  exact List.mem_map_of_mem isPlaced

theorem met_of_messagesFit
    {messages : List Message}
    (fits : MessagesFit (twin form) messages)
    (isSite : site ∈ messageSites twin messages) :
    site.2.Met (site.1 form) := by
  obtain ⟨placed, isPlaced, isSite⟩ := List.mem_flatMap.mp isSite
  obtain ⟨isZero, isHere⟩ := List.mem_ite_nil_right.mp isSite
  rw [List.mem_singleton.mp isHere]
  exact (fits.each _ (mem_place isPlaced form)).since isZero

theorem met_of_interfaceFits
    {interface : Interface}
    (fits : InterfaceFits (twin form) interface)
    (isSite : site ∈ interfaceSites twin interface) :
    site.2.Met (site.1 form) := by
  simp only [interfaceSites, List.mem_append, List.mem_ite_nil_right, List.mem_singleton,
    List.mem_flatMap] at isSite
  rcases isSite with ((⟨isZero, rfl⟩ | isRequest) | isEvent) | ⟨placed, isPlaced, isSite⟩
  · exact fits.version isZero
  · exact met_of_messagesFit fits.requests isRequest
  · exact met_of_messagesFit fits.events isEvent
  · obtain ⟨entry, isEntry, rfl⟩ := List.mem_map.mp isSite
    have enumerationFits := fits.enumerations _ (mem_place isPlaced form)
    exact (enumerationFits.entries _ (mem_place isEntry form)).value

/-- A record that fits a tree has what is needed there. -/
theorem met_of_protocolFits
    {root expanded : Yaml.Node}
    {written : Protocol}
    (fits : ProtocolFits (roots root expanded form).node written)
    (isSite : site ∈ sites root expanded written) :
    site.2.Met (site.1 form) := by
  obtain ⟨placed, isPlaced, isSite⟩ := List.mem_flatMap.mp isSite
  refine met_of_interfaceFits ?_ isSite
  have isSpot : (⟨(roots root expanded form).node, true⟩ : Spot) = roots root expanded form := by
    cases form <;> rfl
  have interfaces := fits.interfaces
  rw [isSpot] at interfaces
  exact interfaces _ (mem_place isPlaced form)

end Fits

/-! ## Answers apart from lines -/

/-- An answer apart from the line that an error points to. -/
def apartFromLine
    {α : Type}
    (result : Except Error α) :
    Except Error α :=
  result.mapError fun error => { error with line := 0 }

/-- Two answers are the same value, or errors that differ at most in their lines. -/
def Alike
    {α : Type}
    (left right : Except Error α) : Prop :=
  apartFromLine left = apartFromLine right

namespace Alike

variable {α β : Type}

theorem bind
    {left right : Except Error α}
    {next otherNext : α → Except Error β}
    (first : Alike left right)
    (rest : ∀ value, Alike (next value) (otherNext value)) :
    Alike (left >>= next) (right >>= otherNext) := by
  have split (result : Except Error α) (next : α → Except Error β) :
      apartFromLine (result >>= next) =
        apartFromLine result >>= fun value => apartFromLine (next value) := by
    cases result <;> rfl
  unfold Alike at first
  rw [Alike, split, split, first]
  exact congrArg _ (funext rest)

theorem guarded
    {bad otherBad : Prop}
    [Decidable bad]
    [Decidable otherBad]
    {refusal otherRefusal result otherResult : Except Error α}
    (same : bad ↔ otherBad)
    (refusals : Alike refusal otherRefusal)
    (results : Alike result otherResult) :
    Alike (if bad then refusal else result) (if otherBad then otherRefusal else otherResult) := by
  by_cases isBad : bad
  · rw [if_pos isBad, if_pos (same.mp isBad)]
    exact refusals
  · rw [if_neg isBad, if_neg (mt same.mpr isBad)]
    exact results

end Alike

section Finishing

variable {document kind : String} {parent : Path} {twin : Twin}

/-- Parts that are finished alike at their spots are finished alike in order. -/
theorem finishAll_alike
    {α : Type}
    {finish : Spot → α → Except Error α}
    {placed : List (Twin × α)}
    (alike : ∀ part ∈ placed,
      Alike (finish (part.1 .referring) part.2) (finish (part.1 .expanded) part.2))
    (latest : List α) :
    Alike (finishAll finish latest (placed.map (Prod.map (· .referring) id)))
      (finishAll finish latest (placed.map (Prod.map (· .expanded) id))) := by
  induction placed generalizing latest with
  | nil => rfl
  | cons part rest inductionHypothesis =>
      rw [List.map_cons, List.map_cons, finishAll_cons, finishAll_cons]
      exact (alike part List.mem_cons_self).bind fun value =>
        inductionHypothesis (fun other isLater => alike other (List.mem_cons_of_mem _ isLater))
          (value :: latest)

theorem place_alike
    {α : Type}
    {finish : Spot → α → Except Error α}
    {parts : List α}
    (alike : ∀ placed ∈ twin.place parts,
      Alike (finish (placed.1 .referring) placed.2) (finish (placed.1 .expanded) placed.2)) :
    Alike (finishAll finish [] ((twin .referring).place parts))
      (finishAll finish [] ((twin .expanded).place parts)) := by
  rw [← map_place, ← map_place]
  exact finishAll_alike alike []

/-- The spot of an argument matters for lines only. -/
theorem finishArg_alike
    (spot other : Spot)
    (arg : Arg) :
    Alike (finishArg document parent spot arg) (finishArg document parent other arg) := by
  unfold finishArg
  exact .guarded Iff.rfl rfl (.guarded Iff.rfl rfl (.guarded Iff.rfl rfl rfl))

theorem finishMessage_alike
    {opcode : Nat}
    {message : Message}
    (same : message.since = 0 → (twin .referring).has "since" = (twin .expanded).has "since") :
    Alike (finishMessage document kind parent opcode (twin .referring) message)
      (finishMessage document kind parent opcode (twin .expanded) message) := by
  have zeros : (message.since == 0 && (twin .referring).has "since") = true ↔
      (message.since == 0 && (twin .expanded).has "since") = true := by
    by_cases isZero : message.since = 0
    · rw [same isZero]
    · simp [isZero]
  have args := @place_alike (twin.key "args") Arg
    (finishArg document (parent.push kind message.name)) message.args
    fun placed _ => finishArg_alike _ _ _
  unfold finishMessage
  exact .guarded Iff.rfl rfl (.guarded zeros rfl (args.bind fun _ => rfl))

/-- Both trees answer alike at a site. -/
def SameAt
    (site : Twin × Need) : Prop :=
  (site.1 .referring).has site.2.key = (site.1 .expanded).has site.2.key

theorem finishMessages_alike
    {messages : List Message}
    (same : ∀ site ∈ messageSites twin messages, SameAt site) :
    Alike (finishMessages document kind parent (twin .referring) messages)
      (finishMessages document kind parent (twin .expanded) messages) := by
  have unnumbered :
      (twin.place messages.zipIdx).map (Prod.map id Prod.fst) = twin.place messages := by
    unfold Twin.place
    rw [← List.zip_map_right, List.zipIdx_map_fst, List.length_zipIdx]
  have all : Alike
      (finishAll (finishNumbered document kind parent) []
        ((twin .referring).place messages.zipIdx))
      (finishAll (finishNumbered document kind parent) []
        ((twin .expanded).place messages.zipIdx)) := by
    refine place_alike fun placed isPlaced => ?_
    refine (finishMessage_alike fun isZero => ?_).bind fun _ => rfl
    have isMessage : (placed.1, placed.2.1) ∈ twin.place messages := by
      rw [← unnumbered]
      exact List.mem_map_of_mem isPlaced
    have isSite : (placed.1, Need.since) ∈ messageSites twin messages :=
      List.mem_flatMap.mpr ⟨_, isMessage, List.mem_ite_nil_right.mpr
        ⟨isZero, List.mem_singleton_self _⟩⟩
    exact same _ isSite
  rw [finishMessages_eq, finishMessages_eq]
  exact .guarded Iff.rfl rfl (all.bind fun _ => rfl)

theorem finishEntry_alike
    {entry : Entry}
    (same : (twin .referring).has "value" = (twin .expanded).has "value") :
    Alike (finishEntry document parent (twin .referring) entry)
      (finishEntry document parent (twin .expanded) entry) := by
  unfold finishEntry
  exact .guarded Iff.rfl rfl (.guarded (by rw [same]) rfl rfl)

theorem finishEnumeration_alike
    {enumeration : Enumeration}
    (same : ∀ site ∈ enumerationSites twin enumeration, SameAt site) :
    Alike (finishEnumeration document parent (twin .referring) enumeration)
      (finishEnumeration document parent (twin .expanded) enumeration) := by
  have entries := @place_alike (twin.key "entries") Entry
    (finishEntry document (parent.push "enum" enumeration.name)) enumeration.entries
    fun placed isPlaced => finishEntry_alike (same _ (List.mem_map_of_mem isPlaced))
  unfold finishEnumeration
  exact .guarded Iff.rfl rfl (entries.bind fun _ => rfl)

theorem finishInterface_alike
    {interface : Interface}
    (same : ∀ site ∈ interfaceSites twin interface, SameAt site) :
    Alike (finishInterface document parent (twin .referring) interface)
      (finishInterface document parent (twin .expanded) interface) := by
  simp only [interfaceSites, List.forall_mem_append] at same
  obtain ⟨⟨⟨own, requests⟩, events⟩, enumerations⟩ := same
  have versions : (interface.version == 0 && !(twin .referring).has "version") = true ↔
      (interface.version == 0 && !(twin .expanded).has "version") = true := by
    by_cases isZero : interface.version = 0
    · have sameVersion : (twin .referring).has "version" = (twin .expanded).has "version" :=
        own (twin, .version) (List.mem_ite_nil_right.mpr ⟨isZero, List.mem_singleton_self _⟩)
      rw [sameVersion]
    · simp [isZero]
  let path := parent.push "interface" interface.name
  have ofRequests := @finishMessages_alike document "request" path _ _ requests
  have ofEvents := @finishMessages_alike document "event" path _ _ events
  have ofEnumerations := @place_alike (twin.key "enums") Enumeration
    (finishEnumeration document path) interface.enumerations fun placed isPlaced =>
      finishEnumeration_alike fun site isSite =>
        enumerations site (List.mem_flatMap.mpr ⟨placed, isPlaced, isSite⟩)
  unfold finishInterface
  exact .guarded Iff.rfl rfl (.guarded versions rfl (ofRequests.bind fun _ =>
    ofEvents.bind fun _ => ofEnumerations.bind fun _ => rfl))

/-- A record is finished alike in both trees if they answer alike wherever a key is looked for. -/
theorem finishProtocol_alike
    {root expanded : Yaml.Node}
    {written : Protocol}
    (same : ∀ site ∈ sites root expanded written, SameAt site) :
    Alike (finishProtocol document root written) (finishProtocol document expanded written) := by
  have interfaces := @place_alike ((roots root expanded).key "interfaces") Interface
    (finishInterface document (Path.push [] "protocol" written.name)) written.interfaces
    fun placed isPlaced => finishInterface_alike fun site isSite =>
      same site (List.mem_flatMap.mpr ⟨placed, isPlaced, isSite⟩)
  unfold finishProtocol
  exact .guarded Iff.rfl rfl (.guarded Iff.rfl rfl (interfaces.bind fun _ => rfl))

end Finishing

/-! ## Sites that both trees show -/

section Sites

variable {anchored : List (Nat × Yaml.Node)} {twin : Twin} {site : Twin × Need}

theorem shows_of_mem_messageSites
    {messages : List Message}
    (shows : twin.Shows anchored)
    (isSite : site ∈ messageSites twin messages) :
    site.1.Shows anchored := by
  obtain ⟨placed, isPlaced, isSite⟩ := List.mem_flatMap.mp isSite
  have ofMessage := shows.place isPlaced
  rw [List.mem_singleton.mp (List.mem_ite_nil_right.mp isSite).2]
  exact ofMessage

theorem shows_of_mem_interfaceSites
    {interface : Interface}
    (shows : twin.Shows anchored)
    (isSite : site ∈ interfaceSites twin interface) :
    site.1.Shows anchored := by
  simp only [interfaceSites, List.mem_append, List.mem_ite_nil_right, List.mem_singleton,
    List.mem_flatMap] at isSite
  rcases isSite with ((⟨-, rfl⟩ | isRequest) | isEvent) | ⟨placed, isPlaced, isSite⟩
  · exact shows
  · exact shows_of_mem_messageSites (shows.key (by decide)) isRequest
  · exact shows_of_mem_messageSites (shows.key (by decide)) isEvent
  · obtain ⟨entry, isEntry, rfl⟩ := List.mem_map.mp isSite
    have ofEnumeration := (shows.key (by decide : "enums" ≠ "<<")).place isPlaced
    have ofEntry := (ofEnumeration.key (by decide : "entries" ≠ "<<")).place isEntry
    exact ofEntry

/-- Where a key is looked for, the expansion shows what the document shows. -/
theorem shows_of_mem_sites
    {root expanded : Yaml.Node}
    {written : Protocol}
    (expands : Expands anchored root expanded)
    (isSite : site ∈ sites root expanded written) :
    site.1.Shows anchored := by
  have atRoots : (roots root expanded).Shows anchored := fun _ => ⟨rfl, expands⟩
  obtain ⟨placed, isPlaced, isSite⟩ := List.mem_flatMap.mp isSite
  have ofInterface := (atRoots.key (by decide : "interfaces" ≠ "<<")).place isPlaced
  exact shows_of_mem_interfaceSites ofInterface isSite

/-- The trees answer alike where nothing is hidden. -/
theorem sameAt_of_not_hides
    {root expanded : Yaml.Node}
    {written : Protocol}
    (expands : Expands anchored root expanded)
    (isSite : site ∈ sites root expanded written)
    (shown : ¬Hides root expanded written site.2) :
    SameAt site := by
  have toExpanded := (shows_of_mem_sites expands isSite).has site.2.key_ne_merge
  by_contra differ
  refine shown ⟨site.1, isSite, ?_, ?_⟩
  all_goals
    unfold SameAt at differ
    grind

end Sites

section Documents

variable {document : String} {bytes otherBytes : Text.Bytes} {tree expanded : Yaml.Document}
  {written : Protocol}

/-- A document and its expansion are read alike unless a reference or a merge hides a key that the
reader looks for in the tree.  Those keys are the values of entries, without which the document is
refused, the versions of interfaces where they are zero, likewise, and the first versions of
messages where they are zero, for which the expansion is refused.  Readings that succeed agree. -/
theorem references_are_transparent_unless_hidden
    (isTree : Yaml.Document.ofBytes bytes = .ok (some tree))
    (isExpanded : Yaml.Document.ofBytes otherBytes = .ok (some expanded))
    (expands : Expands tree.anchored tree.root expanded.root)
    (isDecoded : protocolShape.ofDocument (bytes.length + 1) {} tree = .ok (.ok written))
    (isOtherDecoded :
      protocolShape.ofDocument (otherBytes.length + 1) {} expanded = .ok (.ok written)) :
    ((∀ need, ¬Hides tree.root expanded.root written need) →
      Alike (readMapping document bytes) (readMapping document otherBytes)) ∧
    (Hides tree.root expanded.root written .value ∨
        Hides tree.root expanded.root written .version →
      ∃ error, readMapping document bytes = .error error) ∧
    (Hides tree.root expanded.root written .since →
      ∃ error, readMapping document otherBytes = .error error) ∧
    ∀ protocol other, readMapping document bytes = .ok protocol →
      readMapping document otherBytes = .ok other → protocol = other := by
  have ofTree := @finishProtocol_answers document tree.root written
  have ofExpanded := @finishProtocol_answers document expanded.root written
  rw [readMapping_decoded isTree isDecoded, readMapping_decoded isExpanded isOtherDecoded]
  refine ⟨fun shown => ?_, fun hidden => ?_, fun hidden => ?_,
    fun protocol other read otherRead => ?_⟩
  · exact finishProtocol_alike fun site isSite => sameAt_of_not_hides expands isSite (shown _)
  · refine ofTree.error fun fits => ?_
    have met {site} := @met_of_protocolFits .referring site tree.root expanded.root written fits
    rcases hidden with ⟨twin, isSite, isHidden, -⟩ | ⟨twin, isSite, isHidden, -⟩
    · exact absurd (met isSite) (by simp_all [Need.Met, Need.key])
    · exact absurd (met isSite) (by simp_all [Need.Met, Need.key])
  · refine ofExpanded.error fun fits => ?_
    have met {site} := @met_of_protocolFits .expanded site tree.root expanded.root written fits
    obtain ⟨twin, isSite, -, isShown⟩ := hidden
    exact absurd (met isSite) (by simp_all [Need.Met, Need.key])
  · rw [((ofTree.eq_ok_iff protocol).mp read).2, ((ofExpanded.eq_ok_iff other).mp otherRead).2]

/-- A range of arguments that is written once, for the request and for the event. -/
def faderMapping : Text.Bytes :=
  ("name: room\ninterfaces:\n- name: fader\n  version: 1\n  requests:\n  - name: dim\n" ++
    "    args: &levels [{name: level, type: uint}]\n" ++
    "  events:\n  - name: dimmed\n    args: *levels\n").toUTF8.toList

def faderExpansion : Text.Bytes :=
  ("name: room\ninterfaces:\n- name: fader\n  version: 1\n  requests:\n  - name: dim\n" ++
    "    args: [{name: level, type: uint}]\n" ++
    "  events:\n  - name: dimmed\n    args: [{name: level, type: uint}]\n").toUTF8.toList

def levelsNode
    (line : Nat) :
    Yaml.Node :=
  .sequence "!!seq"
    [.mapping "!!map"
      [(textOf "name" line, textOf "level" line), (textOf "type" line, textOf "uint" line)] line]
    line

def dimRequestNode : Yaml.Node :=
  .mapping "!!map" [(textOf "name" 6, textOf "dim" 6), (textOf "args" 7, levelsNode 7)] 6

def faderNode
    (args : Yaml.Node) :
    Yaml.Node :=
  .mapping "!!map"
    [(textOf "name" 1, textOf "room" 1),
      (textOf "interfaces" 2, .sequence "!!seq"
        [.mapping "!!map"
          [(textOf "name" 3, textOf "fader" 3), (textOf "version" 4, .scalar "!!int" "1" .plain 4),
            (textOf "requests" 5, .sequence "!!seq" [dimRequestNode] 6),
            (textOf "events" 8, .sequence "!!seq"
              [.mapping "!!map" [(textOf "name" 9, textOf "dimmed" 9), (textOf "args" 10, args)] 9]
              9)] 3] 3)] 1

def faderTree : Yaml.Document :=
  ⟨faderNode (.alias "levels" 0 0 10), [(0, levelsNode 7)]⟩

def faderWritten : Protocol :=
  { name := "room"
    interfaces := [{
      name := "fader"
      version := 1
      requests := [{ name := "dim", args := [{ name := "level", typeName := "uint" }] }]
      events := [{ name := "dimmed", args := [{ name := "level", typeName := "uint" }] }] }] }

theorem expands_levels
    (anchored : List (Nat × Yaml.Node))
    (line otherLine : Nat) :
    Expands anchored (levelsNode line) (levelsNode otherLine) :=
  .sequence (.cons (.mapping (.entry rfl .scalar (.entry rfl .scalar .nil))) .nil)

theorem expands_fader :
    Expands faderTree.anchored faderTree.root (faderNode (levelsNode 10)) := by
  have request : Expands faderTree.anchored dimRequestNode dimRequestNode :=
    .mapping (.entry rfl .scalar (.entry rfl (expands_levels _ 7 7) .nil))
  have args : Expands faderTree.anchored (.alias "levels" 0 0 10) (levelsNode 10) :=
    .alias rfl (expands_levels _ 7 10)
  refine .mapping (.entry rfl .scalar (.entry rfl (.sequence (.cons ?_ .nil)) .nil))
  refine .mapping (.entry rfl .scalar (.entry rfl .scalar (.entry rfl
    (.sequence (.cons request .nil)) (.entry rfl (.sequence (.cons ?_ .nil)) .nil))))
  exact .mapping (.entry rfl .scalar (.entry rfl args .nil))

/-- Shared arguments hide nothing, so the document is read like its expansion. -/
theorem fader_is_read_like_its_expansion :
    Alike (readMapping "room.yaml" faderMapping) (readMapping "room.yaml" faderExpansion) := by
  have isTree : Yaml.Document.ofBytes faderMapping = .ok (some faderTree) := by decide +kernel
  have isExpanded :
      Yaml.Document.ofBytes faderExpansion = .ok (some ⟨faderNode (levelsNode 10), []⟩) := by
    decide +kernel
  have isDecoded :
      protocolShape.ofDocument (faderMapping.length + 1) {} faderTree = .ok (.ok faderWritten) := by
    decide +kernel
  have isOtherDecoded : protocolShape.ofDocument (faderExpansion.length + 1) {}
      ⟨faderNode (levelsNode 10), []⟩ = .ok (.ok faderWritten) := by
    decide +kernel
  refine (references_are_transparent_unless_hidden isTree isExpanded expands_fader isDecoded
    isOtherDecoded).1 fun need => ?_
  cases need <;> decide +kernel

/-- An enumeration that is written once, for two interfaces. -/
def modeMapping : Text.Bytes :=
  ("name: room\ninterfaces:\n- name: lamp\n  version: 1\n" ++
    "  enums: [&mode {name: mode, entries: [{name: dim, value: 0}]}]\n" ++
    "- name: bulb\n  version: 1\n  enums: [*mode]\n").toUTF8.toList

def modeExpansion : Text.Bytes :=
  ("name: room\ninterfaces:\n- name: lamp\n  version: 1\n" ++
    "  enums: [{name: mode, entries: [{name: dim, value: 0}]}]\n" ++
    "- name: bulb\n  version: 1\n" ++
    "  enums: [{name: mode, entries: [{name: dim, value: 0}]}]\n").toUTF8.toList

def modesNode
    (line : Nat) :
    Yaml.Node :=
  .mapping "!!map"
    [(textOf "name" line, textOf "mode" line),
      (textOf "entries" line, .sequence "!!seq"
        [.mapping "!!map"
          [(textOf "name" line, textOf "dim" line),
            (textOf "value" line, .scalar "!!int" "0" .plain line)] line] line)] line

/-- An interface with an enumeration, on three lines. -/
def modalNode
    (name : String)
    (line : Nat)
    (enumeration : Yaml.Node) :
    Yaml.Node :=
  .mapping "!!map"
    [(textOf "name" line, textOf name line),
      (textOf "version" (line + 1), .scalar "!!int" "1" .plain (line + 1)),
      (textOf "enums" (line + 2), .sequence "!!seq" [enumeration] (line + 2))] line

/-- Two interfaces, with the enumeration of the second one. -/
def modalRoomNode
    (enumeration : Yaml.Node) :
    Yaml.Node :=
  .mapping "!!map"
    [(textOf "name" 1, textOf "room" 1),
      (textOf "interfaces" 2, .sequence "!!seq"
        [modalNode "lamp" 3 (modesNode 5), modalNode "bulb" 6 enumeration] 3)] 1

theorem expands_modes
    (anchored : List (Nat × Yaml.Node))
    (line otherLine : Nat) :
    Expands anchored (modesNode line) (modesNode otherLine) :=
  .mapping (.entry rfl .scalar (.entry rfl (.sequence (.cons (.mapping (.entry rfl .scalar
    (.entry rfl .scalar .nil))) .nil)) .nil))

theorem expands_modal
    {anchored : List (Nat × Yaml.Node)}
    {name : String}
    {line : Nat}
    {enumeration other : Yaml.Node}
    (expands : Expands anchored enumeration other) :
    Expands anchored (modalNode name line enumeration) (modalNode name line other) :=
  .mapping (.entry rfl .scalar (.entry rfl .scalar (.entry rfl (.sequence (.cons expands .nil))
    .nil)))

def modeTree : Yaml.Document :=
  ⟨modalRoomNode (.alias "mode" 0 0 8), [(0, modesNode 5)]⟩

def modeWritten : Protocol :=
  let enumeration : Enumeration :=
    { name := "mode", entries? := some [{ name := "dim", value := 0 }] }
  { name := "room"
    interfaces := [
      { name := "lamp", version := 1, enumerations := [enumeration] },
      { name := "bulb", version := 1, enumerations := [enumeration] }] }

/-- An enumeration that is shared by reference is refused for the values of its entries, and the
same document with the enumeration in both places is read and passes validation. -/
theorem shared_enumeration_is_refused :
    ∃ tree expanded model,
      Yaml.Document.ofBytes modeMapping = .ok (some tree) ∧
      Yaml.Document.ofBytes modeExpansion = .ok (some expanded) ∧
      Expands tree.anchored tree.root expanded.root ∧
      readMapping "room.yaml" modeMapping = .error {
        document := "room.yaml"
        path := ["protocol[room]", "interface[bulb]", "enum[mode]", "entry[dim]"]
        line := 8
        problem := .missingAttribute "value" } ∧
      readMapping "room.yaml" modeExpansion = .ok model ∧
      Check.check ⟨[model], []⟩ = .ok () := by
  have isTree : Yaml.Document.ofBytes modeMapping = .ok (some modeTree) := by decide +kernel
  have isExpanded :
      Yaml.Document.ofBytes modeExpansion = .ok (some ⟨modalRoomNode (modesNode 8), []⟩) := by
    decide +kernel
  have isDecoded :
      protocolShape.ofDocument (modeMapping.length + 1) {} modeTree = .ok (.ok modeWritten) := by
    decide +kernel
  have isOtherDecoded : protocolShape.ofDocument (modeExpansion.length + 1) {}
      ⟨modalRoomNode (modesNode 8), []⟩ = .ok (.ok modeWritten) := by
    decide +kernel
  refine ⟨_, _, finishedProtocol "room.yaml" modeWritten, isTree, isExpanded, ?_, ?_, ?_,
    by decide +kernel⟩
  · have own := expands_modes modeTree.anchored 5 5
    have shared : Expands modeTree.anchored (.alias "mode" 0 0 8) (modesNode 8) :=
      .alias rfl (expands_modes _ 5 8)
    exact .mapping (.entry rfl .scalar (.entry rfl (.sequence (.cons (expands_modal own)
      (.cons (expands_modal shared) .nil))) .nil))
  · rw [readMapping_decoded isTree isDecoded]
    decide +kernel
  · rw [readMapping_decoded isExpanded isOtherDecoded]
    decide +kernel

end Documents

end Wayland.Document.FromMapping
