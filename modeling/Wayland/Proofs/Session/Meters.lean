import Wayland.Session.Metrics
import Wayland.Proofs.Metrics.Registry
import Wayland.Proofs.Session.Bookkeeping

/-!
Contract: what the collectors of sessions show.

Owns:
- what records add to the samples of sessions;
- that, after every run of sessions that share their collectors, the counters show what was done and
  the gauge shows how many objects are alive.

Does not own: what operations put on record.
-/

namespace Wayland.Session

open Wayland.Metrics

/-! ### Names -/

theorem messagesName :
    metricName "messages_total" = "wlscanner_session_messages_total" := by
  decide

theorem sizesName :
    metricName "message_size_bytes" = "wlscanner_session_message_size_bytes" := by
  decide

theorem errorsName :
    metricName "errors_total" = "wlscanner_session_errors_total" := by
  decide

theorem liveName :
    metricName "objects_live" = "wlscanner_session_objects_live" := by
  decide

theorem createdName :
    metricName "objects_created_total" = "wlscanner_session_objects_created_total" := by
  decide

theorem destroyedName :
    metricName "objects_destroyed_total" = "wlscanner_session_objects_destroyed_total" := by
  decide

theorem resetsName :
    metricName "namespace_resets_total" = "wlscanner_session_namespace_resets_total" := by
  decide

/-! ### Additions -/

def Record.additions : Record → List Addition
  | .created interface =>
      [(metricName "objects_live", [], 1), (metricName "objects_created_total", [interface], 1)]
  | .destroyed interface =>
      [(metricName "objects_live", [], -1), (metricName "objects_destroyed_total", [interface], 1)]
  | .sent interface size =>
      [(metricName "messages_total", ["out", interface], 1),
        (metricName "message_size_bytes", ["out"], size)]
  | .received interface size =>
      [(metricName "messages_total", ["in", interface], 1),
        (metricName "message_size_bytes", ["in"], size)]
  | .failed blame => [(metricName "errors_total", [blame.text], 1)]
  | .reset live =>
      [(metricName "objects_live", [], -live), (metricName "namespace_resets_total", [], 1)]

theorem Record.count_eq_addAll
    (registry : Registry)
    (record : Record) :
    record.count registry = registry.addAll record.additions := by
  cases record <;> rfl

theorem countRecords_eq_addAll
    (registry : Registry)
    (records : List Record) :
    countRecords registry records = registry.addAll (records.flatMap Record.additions) := by
  induction records generalizing registry with
  | nil => rfl
  | cons record records inductionHypothesis =>
      have rest := inductionHypothesis (record.count registry)
      rw [Record.count_eq_addAll] at rest
      rw [List.flatMap_cons, Registry.addAll_append, ← rest, ← Record.count_eq_addAll]
      rfl

section Counting

variable {name : String} {values : List String}

/-- Records add to a sample as often as there are records of a kind, if each such record does so once
and the others do not. -/
theorem countP_additions
    {wanted : Record → Bool}
    (one : ∀ record : Record,
      record.additions.countP (Addition.isTo name values) = if wanted record then 1 else 0)
    (records : List Record) :
    (records.flatMap Record.additions).countP (Addition.isTo name values) =
      records.countP wanted := by
  induction records with
  | nil => rfl
  | cons record records inductionHypothesis =>
      rw [List.flatMap_cons, List.countP_append, one, inductionHypothesis, List.countP_cons]
      omega

/-- Only the gauge moves by other numbers than one, and the sizes of messages are observed. -/
theorem additions_one
    {record : Record}
    {addition : Addition}
    (member : addition ∈ record.additions) :
    addition.1 = metricName "objects_live" ∨ addition.1 = metricName "message_size_bytes" ∨
      addition.2.2 = 1 := by
  cases record with
  | failed blame =>
      rw [List.mem_singleton.mp member]
      exact Or.inr (Or.inr rfl)
  | _ =>
      simp only [Record.additions, List.mem_cons, List.not_mem_nil, or_false] at member
      rcases member with rfl | rfl <;> simp

/-- A counter shows how many records there are of a kind. -/
theorem sample?_countRecords
    {description : Description}
    {wanted : Record → Bool}
    (described : initialMetrics.description? name = some description)
    (accepted : description.accepts values = true)
    (started : initialMetrics.sample? name values = some (.counted 0))
    (notLive : name ≠ metricName "objects_live")
    (notSizes : name ≠ metricName "message_size_bytes")
    (one : ∀ record : Record,
      record.additions.countP (Addition.isTo name values) = if wanted record then 1 else 0)
    (records : List Record) :
    (countRecords initialMetrics records).sample? name values =
      some (.counted (records.countP wanted)) := by
  have ones : ∀ addition ∈ records.flatMap Record.additions, addition.1 = name →
      addition.2.2 = 1 := by
    intro addition member atName
    obtain ⟨record, -, isOf⟩ := List.mem_flatMap.mp member
    rcases additions_one isOf with isLive | isSize | isOne
    · exact absurd (atName.symm.trans isLive) notLive
    · exact absurd (atName.symm.trans isSize) notSizes
    · exact isOne
  rw [countRecords_eq_addAll, Registry.sample?_addAll_counted described accepted ones started,
    countP_additions one, Nat.zero_add]

def Counter.series : Counter → String × List String
  | .created interface => (metricName "objects_created_total", [interface])
  | .destroyed interface => (metricName "objects_destroyed_total", [interface])
  | .failed blame => (metricName "errors_total", [blame.text])
  | .sent interface => (metricName "messages_total", ["out", interface])
  | .received interface => (metricName "messages_total", ["in", interface])

/-- A record adds to the series of a counter exactly if the counter counts it. -/
theorem Counter.countP_additions
    (counter : Counter)
    (record : Record) :
    record.additions.countP (Addition.isTo counter.series.1 counter.series.2) =
      if counter.counts record then 1 else 0 := by
  have text (one other : Blame) : one.text = other.text ↔ one = other := by
    cases one <;> cases other <;> decide
  cases counter <;> cases record <;>
    simp [series, counts, Record.additions, Addition.isTo, Record.isSent, Record.isReceived, text,
      errorsName, liveName, createdName, destroyedName, messagesName, sizesName, resetsName,
      List.countP_cons]

/-- Every counter is shown. -/
theorem Counter.shown
    (counter : Counter)
    (records : List Record) :
    (countRecords initialMetrics records).sample? counter.series.1 counter.series.2 =
      some (.counted (records.countP counter.counts)) := by
  have names : counter.series.1 ≠ metricName "objects_live" ∧
      counter.series.1 ≠ metricName "message_size_bytes" := by
    cases counter <;>
      simp [series, createdName, destroyedName, errorsName, messagesName, liveName, sizesName]
  cases counter <;>
    exact sample?_countRecords rfl rfl rfl names.1 names.2 (Counter.countP_additions _) records

end Counting

/-! ### The gauge -/

/-- The gauge of live objects is there and stands at a number. -/
structure Gauges
    (registry : Registry)
    (number : Nat) : Prop where
  described : registry.description? (metricName "objects_live") =
    initialMetrics.description? (metricName "objects_live")
  standsAt : ∃ sample,
    registry.sample? (metricName "objects_live") [] = some sample ∧ sample.StandsAt number

section Gauging

variable {registry : Registry} {number : Nat}

theorem gauges_initial :
    Gauges initialMetrics 0 :=
  ⟨rfl, _, rfl, .ofInt 0, rfl, by simp⟩

/-- An addition to the gauge moves it. -/
theorem Gauges.add
    (gauges : Gauges registry number)
    {amount : Int}
    {next : Nat}
    (sum : (number : Int) + amount = next)
    (small : next ≤ 2 ^ 53) :
    Gauges (registry.add (metricName "objects_live") [] amount) next := by
  obtain ⟨described, sample, found, standsAt⟩ := gauges
  refine ⟨(Registry.description?_add ..).trans described,
    sample.measure Kind.gauge.bounds (.ofInt amount), ?_, ?_⟩
  · rw [Registry.sample?_add_self (described.trans rfl) rfl (by simp), found]
    rfl
  · rw [← sum]
    exact standsAt.measure _ (by omega)

/-- An addition to another sample does not. -/
theorem Gauges.add_other
    (gauges : Gauges registry number)
    {name : String}
    (other : metricName "objects_live" ≠ name)
    (values : List String)
    (amount : Int) :
    Gauges (registry.add name values amount) number := by
  obtain ⟨described, sample, found, standsAt⟩ := gauges
  refine ⟨(Registry.description?_add ..).trans described, sample, ?_, standsAt⟩
  refine (Registry.sample?_add_of_ne ?_ _).trans found
  intro same
  exact other (Prod.mk.inj same).1

theorem Gauges.coming
    (gauges : Gauges registry number)
    (object : Object)
    (small : number + 1 ≤ 2 ^ 53) :
    Gauges (object.coming.count registry) (number + 1) :=
  (gauges.add rfl small).add_other (by simp [liveName, createdName]) _ _

theorem Gauges.going
    (gauges : Gauges registry (number + 1))
    (object : Object)
    (small : number ≤ 2 ^ 53) :
    Gauges (object.going.count registry) number :=
  (gauges.add (by omega) small).add_other (by simp [liveName, destroyedName]) _ _

theorem Gauges.reset
    {live : Nat}
    (gauges : Gauges registry (number + live))
    (small : number ≤ 2 ^ 53) :
    Gauges (Record.count registry (.reset live)) number :=
  (gauges.add (by omega) small).add_other (by simp [liveName, resetsName]) _ _

theorem Gauges.neutral
    (gauges : Gauges registry number)
    {record : Record}
    (neutral : record.IsNeutral) :
    Gauges (record.count registry) number := by
  cases record with
  | created interface => exact neutral.elim
  | destroyed interface => exact neutral.elim
  | reset live => exact neutral.elim
  | failed blame => exact gauges.add_other (by simp [liveName, errorsName]) _ _
  | sent interface size =>
      exact (gauges.add_other (by simp [liveName, messagesName]) _ _).add_other
        (by simp [liveName, sizesName]) _ _
  | received interface size =>
      exact (gauges.add_other (by simp [liveName, messagesName]) _ _).add_other
        (by simp [liveName, sizesName]) _ _

/-- The gauge goes up by every object that comes. -/
theorem Gauges.all_coming
    (gauges : Gauges registry number)
    (objects : List Object)
    (small : number + objects.length ≤ 2 ^ 53) :
    Gauges (countRecords registry (objects.map Object.coming)) (number + objects.length) := by
  induction objects generalizing registry number with
  | nil => exact gauges
  | cons object objects inductionHypothesis =>
      rw [List.length_cons] at small ⊢
      have rest := inductionHypothesis (gauges.coming object (by omega)) (by omega)
      rwa [Nat.add_assoc, Nat.add_comm 1] at rest

/-- The gauge goes down by every object that is destroyed. -/
theorem Gauges.all_going
    {objects : List Object}
    (gauges : Gauges registry (number + objects.length))
    (small : number + objects.length ≤ 2 ^ 53) :
    Gauges (countRecords registry (objects.map Object.going)) number := by
  induction objects generalizing registry with
  | nil => exact gauges
  | cons object objects inductionHypothesis =>
      rw [List.length_cons, ← Nat.add_assoc] at gauges small
      exact inductionHypothesis (gauges.going object (by omega)) (by omega)

/-- The gauge is not moved by records that are not about objects. -/
theorem Gauges.all_neutral
    (gauges : Gauges registry number)
    {records : List Record}
    (neutral : ∀ record ∈ records, record.IsNeutral) :
    Gauges (countRecords registry records) number := by
  induction records generalizing registry with
  | nil => exact gauges
  | cons record records inductionHypothesis =>
      exact inductionHypothesis (gauges.neutral (neutral record (by simp)))
        fun later member => neutral later (by simp [member])

theorem countRecords_append
    (registry : Registry)
    (records more : List Record) :
    countRecords registry (records ++ more) = countRecords (countRecords registry records) more :=
  List.foldl_append

/-- After every operation of a session the gauge stands at what the table counts, with what others
have.  In between it may stand one higher: objects come before the target of a destructor goes. -/
theorem Gauges.perform
    {session : Session}
    {operation : Operation}
    (wellFormed : session.WellFormed)
    (nextWellFormed : (operation.perform session).WellFormed)
    {others : Nat}
    (gauges : Gauges registry (others + session.table.live))
    (small : others + (operation.perform session).table.live < 2 ^ 53) :
    Gauges (countRecords registry (operation.records session))
      (others + (operation.perform session).table.live) := by
  cases perform_books wellFormed operation with
  | reset => exact gauges.reset (Nat.le_of_lt small)
  | @usual _ notes notReset isNotes recorded =>
      have counted := (perform_objects wellFormed notReset).length_eq
      rw [List.length_append, List.length_append,
        ← Table.WellFormed.live_eq_length wellFormed,
        ← Table.WellFormed.live_eq_length nextWellFormed] at counted
      have one := length_ended_le session operation
      rw [recorded, countRecords_append, countRecords_append]
      have came := gauges.all_coming (operation.created session) (by omega)
      have noted := came.all_neutral isNotes.neutral
      have sum : others + session.table.live + (operation.created session).length =
          others + (operation.perform session).table.live +
            ((operation.endings session).filterMap Event.ended?).length := by
        omega
      rw [sum] at noted
      exact noted.all_going (by omega)

end Gauging

/-! ### Sessions that share their collectors -/

namespace World

section Sharing

variable {world : World} {registry : Registry}

theorem le_total
    (count : Session → Nat)
    {number : Nat}
    {session : Session}
    (found : world.session? number = some session) :
    count session ≤ world.total count :=
  List.single_le_sum (fun _ _ => Nat.zero_le _) _
    (List.mem_map_of_mem (List.mem_of_getElem? found))

/-- After every move the gauge stands at what the tables of all sessions count. -/
theorem Sound.gauges_act
    (sound : world.Sound)
    (gauges : Gauges registry (world.total (·.table.live)))
    (move : Move)
    (small : (world.act move).total (·.table.live) < 2 ^ 53) :
    Gauges (countRecords registry (world.records move))
      ((world.act move).total (·.table.live)) := by
  cases move with
  | start side =>
      rw [total_start]
      exact gauges
  | perform number operation =>
      cases found : world.session? number with
      | none =>
          rw [act_of_none found]
          simp only [records, found]
          exact gauges
      | some session =>
          have part := le_total (·.table.live) found
          have sum := total_perform (·.table.live) found operation
          -- What the other sessions have together.
          obtain ⟨others, before⟩ := Nat.exists_eq_add_of_le part
          have after : (world.act (.perform number operation)).total (·.table.live) =
              others + (operation.perform session).table.live := by
            omega
          rw [before, Nat.add_comm] at gauges
          rw [after] at small ⊢
          have next := ((sound number session found).perform operation).wellFormed
          simp only [records, found]
          exact gauges.perform (sound.wellFormed found) next small

/-- After every run of moves the gauge stands at what the tables of all sessions count. -/
theorem Sound.gauges_run
    (sound : world.Sound)
    (gauges : Gauges registry (world.total (·.table.live)))
    (moves : List Move)
    (small : ∀ front, front <+: moves → (world.run front).total (·.table.live) < 2 ^ 53) :
    Gauges (countRecords registry (world.recorded moves))
      ((world.run moves).total (·.table.live)) := by
  induction moves generalizing world registry with
  | nil => exact gauges
  | cons move moves inductionHypothesis =>
      have first : Gauges (countRecords registry (world.records move))
          ((world.act move).total (·.table.live)) :=
        sound.gauges_act gauges move (small [move] ⟨moves, rfl⟩)
      rw [recorded, countRecords_append]
      refine inductionHypothesis (sound.act move) first fun front isPrefix => ?_
      exact small (move :: front) (List.cons_prefix_cons.mpr ⟨rfl, isPrefix⟩)

end Sharing

/-- The shared collectors of all sessions after a run of moves. -/
def metrics
    (moves : List Move) :
    Registry :=
  countRecords initialMetrics (recorded {} moves)

end World

open World in
/-- A counter shows what was counted of all operations. -/
theorem Counter.sample?_metrics
    (counter : Counter)
    (moves : List Move) :
    (metrics moves).sample? counter.series.1 counter.series.2 =
      some (.counted (tally counter.measure {} moves)) := by
  rw [metrics, counter.shown, sound_empty.countP_recorded fun _ _ => counter.countP_records]

open World in
/-- After every run of any number of sessions that share their collectors, whichever of their
operations succeed or fail: the gauge of live objects stands at the sum of what the tables count, as
far as whole numbers are exact for a gauge; the counters of created and destroyed objects show how
many of an interface were made and were destroyed by destructors, and what was made and not destroyed
is either alive or was dropped by a reset; the counters of errors show the decodings that failed, and
the binds, releases and sends that failed otherwise than in the transport; and the counters of
messages show the sends and decodings that succeeded, by the interface of their target. -/
theorem metrics_match_tables
    (moves : List Move) :
    ((∀ front, front <+: moves → (run {} front).total (·.table.live) < 2 ^ 53) →
      ∃ gauge, (metrics moves).sample? (metricName "objects_live") [] = some gauge ∧
        gauge.StandsAt ((run {} moves).total (·.table.live))) ∧
    (∀ interface,
      (metrics moves).sample? (metricName "objects_created_total") [interface] =
          some (.counted (tally (Operation.madeOf interface) {} moves)) ∧
        (metrics moves).sample? (metricName "objects_destroyed_total") [interface] =
          some (.counted (tally (Operation.endedOf interface) {} moves)) ∧
        tally (Operation.madeOf interface) {} moves =
          tally (Operation.endedOf interface) {} moves +
            (run {} moves).total (·.table.objects.countP (Object.isOf interface)) +
            tally (Operation.droppedOf interface) {} moves) ∧
    (metrics moves).sample? (metricName "errors_total") ["protocol_fault"] =
      some (.counted (tally Operation.failedDecodes {} moves)) ∧
    (metrics moves).sample? (metricName "errors_total") ["caller_misuse"] =
      some (.counted (tally Operation.misuses {} moves)) ∧
    ∀ interface,
      (metrics moves).sample? (metricName "messages_total") ["out", interface] =
          some (.counted (tally (Operation.sentTo interface) {} moves)) ∧
        (metrics moves).sample? (metricName "messages_total") ["in", interface] =
          some (.counted (tally (Operation.receivedFor interface) {} moves)) := by
  refine ⟨?gauge, ?objects, ?faults, ?misuses, ?messages⟩
  case gauge =>
    intro small
    exact (sound_empty.gauges_run gauges_initial moves small).standsAt
  case objects =>
    intro interface
    refine ⟨?_, ?_, ?_⟩
    · exact (Counter.created interface).sample?_metrics moves
    · exact (Counter.destroyed interface).sample?_metrics moves
    · have balanced := sound_empty.balance (fun _ _ => rfl) (fun session operation wellFormed =>
        perform_balance wellFormed operation interface) moves
      have nothing : total (·.table.objects.countP (Object.isOf interface)) {} = 0 := rfl
      rw [tally_add, nothing] at balanced
      omega
  case faults => exact (Counter.failed .peer).sample?_metrics moves
  case misuses => exact (Counter.failed .caller).sample?_metrics moves
  case messages =>
    intro interface
    exact ⟨(Counter.sent interface).sample?_metrics moves,
      (Counter.received interface).sample?_metrics moves⟩

/-- An interface whose only request is a destructor. -/
def candle : Wire.Interface :=
  { name := "candle"
    version := 1
    requests := [{ name := "snuff", destructor := true }] }

/-- Two sessions bind three candles.  The first session binds one twice, which is refused, and snuffs
it; the second receives a message for an object that is not there, and is reset. -/
def candlelight : List Move :=
  [.start .client, .start .server, .perform 0 (.bind 1 candle 1), .perform 0 (.bind 2 candle 1),
    .perform 1 (.bind 1 candle 1), .perform 0 (.bind 1 candle 1),
    .perform 0 (.send {}
      (some { session := 0, serial := 0, id := 1, interface := candle, version := 1,
              generation := 1 }) 0 []),
    .perform 1 (.decode { sender := 9, opcode := 0, payload := {} }), .perform 1 .reset]

open World in
/-- One of the three candles is left, one was snuffed and one dropped. -/
theorem one_candle_left :
    (∃ gauge, (metrics candlelight).sample? (metricName "objects_live") [] = some gauge ∧
      gauge.StandsAt 1) ∧
    tally (Operation.madeOf "candle") {} candlelight = 3 ∧
    (metrics candlelight).sample? (metricName "objects_created_total") ["candle"] =
      some (.counted 3) ∧
    (metrics candlelight).sample? (metricName "objects_destroyed_total") ["candle"] =
      some (.counted 1) ∧
    (metrics candlelight).sample? (metricName "errors_total") ["protocol_fault"] =
      some (.counted 1) ∧
    (metrics candlelight).sample? (metricName "errors_total") ["caller_misuse"] =
      some (.counted 1) ∧
    (metrics candlelight).sample? (metricName "messages_total") ["out", "candle"] =
      some (.counted 1) := by
  obtain ⟨gauge, objects, faults, misuses, messages⟩ := metrics_match_tables candlelight
  have small : ∀ front ∈ candlelight.inits, (run {} front).total (·.table.live) < 2 ^ 53 := by
    decide
  have left : (run {} candlelight).total (·.table.live) = 1 := by decide
  have made : tally (Operation.madeOf "candle") {} candlelight = 3 := by decide
  have snuffed : tally (Operation.endedOf "candle") {} candlelight = 1 := by decide
  have strayed : tally Operation.failedDecodes {} candlelight = 1 := by decide
  have refused : tally Operation.misuses {} candlelight = 1 := by decide
  have sent : tally (Operation.sentTo "candle") {} candlelight = 1 := by decide
  refine ⟨?_, made, made ▸ (objects "candle").1, snuffed ▸ (objects "candle").2.1,
    strayed ▸ faults, refused ▸ misuses, sent ▸ (messages "candle").1⟩
  have level := gauge fun front isPrefix => small front ((List.mem_inits _ _).mpr isPrefix)
  rwa [left] at level

end Wayland.Session
