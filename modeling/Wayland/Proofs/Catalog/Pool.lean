import Mathlib.Algebra.GroupWithZero.Nat
import Mathlib.Data.List.Forall2
import Mathlib.Logic.Relation
import Wayland.Catalog.Compile

/-!
Contract: collections are compiled at the same time, and their steps may come in any order.

Owns:
- the tasks of a run, of which a limited number is under way, and the steps they take;
- that a task is always on its way to the outcome that its collection has by itself;
- that the steps come to an end, and end with an outcome for every collection.

Does not own: what becomes of one collection.
-/

namespace Wayland.Catalog

open Wayland.Model (Protocol)

/-! ## Tasks -/

def Collection.outcome
    (collection : Collection)
    (protocols : List Protocol)
    (verdict : Verdict) :
    Outcome :=
  { name := collection.name
    version := collection.version
    description := collection.description
    protocols
    verdict }

/-- How far a collection is. -/
inductive Task where
  | waiting
  /-- Some documents are still to be read; the protocols are those of the others. -/
  | reading (pending : List String) (protocols : List Protocol)
  | done (outcome : Outcome)

def Task.isReading : Task → Bool
  | .reading _ _ => true
  | .waiting | .done _ => false

/-- The tasks of a run by the positions of their collections.  The tasks from the position `next` on
are not started.  Every document that was read is kept with the position it was read for. -/
structure Pool where
  next : Nat
  tasks : List Task
  reads : List (Nat × String)

namespace Pool

def start
    (manifest : Manifest) :
    Pool :=
  ⟨0, manifest.collections.map fun _ => .waiting, []⟩

def underWay
    (pool : Pool) :
    Nat :=
  pool.tasks.countP Task.isReading

/-- Every collection was started, and none is under way. -/
def IsComplete
    (pool : Pool) : Prop :=
  pool.tasks.length ≤ pool.next ∧ pool.underWay = 0

def advance
    (pool : Pool)
    (task : Task) :
    Pool :=
  ⟨pool.next + 1, pool.tasks.set pool.next task, pool.reads⟩

def read
    (pool : Pool)
    (position : Nat)
    (document : String)
    (task : Task) :
    Pool :=
  ⟨pool.next, pool.tasks.set position task, pool.reads ++ [(position, document)]⟩

def finish
    (pool : Pool)
    (position : Nat)
    (outcome : Outcome) :
    Pool :=
  ⟨pool.next, pool.tasks.set position (.done outcome), pool.reads⟩

end Pool

/-- How many collections may be under way: as many as there are processors, unless a number is
configured. -/
def concurrency
    (processors : Nat)
    (configured : Int) :
    Nat :=
  if configured < 1 then processors else configured.toNat

section Steps

variable (run : Run) (imports : List Protocol) (limit : Nat)

/-- A step of a run.  The collections are looked at in order, and a collection that is to be
compiled waits until fewer than the limit are under way.  Those that are under way take their steps
in any order. -/
inductive Step : Pool → Pool → Prop where
  | skip {pool : Pool} {collection : Collection}
      (isNext : run.manifest.collections[pool.next]? = some collection)
      (disabled : collection.enabled = false) :
      Step pool (pool.advance (.done (collection.outcome [] (.skipped collection.disabled))))
  | start {pool : Pool} {collection : Collection}
      (isNext : run.manifest.collections[pool.next]? = some collection)
      (enabled : collection.enabled = true)
      (isFree : pool.underWay < limit) :
      Step pool (pool.advance (.reading collection.documents []))
  | read {pool : Pool} {position : Nat} {document : String} {pending : List String}
      {protocols : List Protocol} {protocol : Protocol}
      (isReading : pool.tasks[position]? = some (.reading (document :: pending) protocols))
      (isRead : run.document document = .ok protocol) :
      Step pool (pool.read position document (.reading pending (protocols ++ [protocol])))
  | fail {pool : Pool} {position : Nat} {document : String} {pending : List String}
      {protocols : List Protocol} {collection : Collection} {failure : Failure}
      (isReading : pool.tasks[position]? = some (.reading (document :: pending) protocols))
      (isCollection : run.manifest.collections[position]? = some collection)
      (isBroken : run.document document = .error failure) :
      Step pool
        (pool.read position document (.done (collection.outcome protocols (.failed failure))))
  | judge {pool : Pool} {position : Nat} {protocols : List Protocol} {collection : Collection}
      (isReading : pool.tasks[position]? = some (.reading [] protocols))
      (isCollection : run.manifest.collections[position]? = some collection) :
      Step pool
        (pool.finish position
          (collection.outcome protocols (run.judge imports collection protocols)))

def Run.Reaches
    (pool : Pool) : Prop :=
  Relation.ReflTransGen (Step run imports limit) (.start run.manifest) pool

end Steps

/-! ## Documents -/

section Documents

variable {read : String → Except Failure Protocol}

/-- What was read of some documents is the start of what is read of all. -/
theorem readDocuments_append
    (role : DocumentRole)
    {before : List String}
    {protocols : List Protocol}
    (areRead : List.Forall₂ (fun document protocol => read document = .ok protocol) before
      protocols)
    (after : List String) :
    (readDocuments role read (before ++ after)).1 =
        protocols ++ (readDocuments role read after).1 ∧
      (readDocuments role read (before ++ after)).2.2 = (readDocuments role read after).2.2 := by
  induction areRead with
  | nil => exact ⟨rfl, rfl⟩
  | cons isRead _ inductionHypothesis =>
      obtain ⟨sameProtocols, sameFailure⟩ := inductionHypothesis
      rw [List.cons_append, readDocuments, isRead]
      exact ⟨by rw [List.cons_append, ← sameProtocols], sameFailure⟩

/-- Documents that are read without a failure have a protocol each. -/
theorem forall₂_of_readDocuments
    {role : DocumentRole}
    {documents : List String}
    {protocols : List Protocol}
    {records : List Record}
    (areRead : readDocuments role read documents = (protocols, records, none)) :
    List.Forall₂ (fun document protocol => read document = .ok protocol) documents protocols := by
  induction documents generalizing protocols records with
  | nil =>
      cases areRead
      exact .nil
  | cons document rest inductionHypothesis =>
      unfold readDocuments at areRead
      cases isRead : read document with
      | error failure =>
          rw [isRead] at areRead
          cases areRead
      | ok protocol =>
          rw [isRead] at areRead
          obtain ⟨rfl, -, noFailure⟩ : _ ∧ _ ∧ (readDocuments role read rest).2.2 = none := by
            simpa using areRead
          exact .cons isRead (inductionHypothesis (Prod.ext rfl (Prod.ext rfl noFailure)))

theorem readDocuments_of_forall₂
    (role : DocumentRole)
    {documents : List String}
    {protocols : List Protocol}
    (areRead : List.Forall₂ (fun document protocol => read document = .ok protocol) documents
      protocols) :
    ∃ records, readDocuments role read documents = (protocols, records, none) := by
  have readAll := readDocuments_append role areRead []
  rw [List.append_nil] at readAll
  obtain ⟨allProtocols, noFailure⟩ := readAll
  refine ⟨(readDocuments role read documents).2.1, Prod.ext ?_ (Prod.ext rfl noFailure)⟩
  rw [allProtocols]
  exact List.append_nil protocols

end Documents

section Runs

variable {run : Run} {imports : List Protocol} {limit : Nat} {collection : Collection}

/-- What becomes of a collection by itself. -/
theorem outcome_compileCollection
    (run : Run)
    (imports : List Protocol)
    (collection : Collection) :
    (run.compileCollection imports collection).2 =
      if collection.enabled then
        let found := readDocuments .collected run.document collection.documents
        collection.outcome found.1
          (match found.2.2 with
            | some (_, failure) => .failed failure
            | none => run.judge imports collection found.1)
      else collection.outcome [] (.skipped collection.disabled) := by
  unfold Run.compileCollection Collection.outcome
  cases collection.enabled with
  | false => rfl
  | true =>
      obtain ⟨protocols, records, failure?⟩ :=
        readDocuments .collected run.document collection.documents
      cases failure? <;> rfl

/-! ## What a task has to do with its collection -/

/-- A task is on the way to the outcome of a collection. -/
def Task.LeadsTo
    (run : Run)
    (imports : List Protocol)
    (collection : Collection) :
    Task → Prop
  | .waiting => True
  | .reading pending protocols =>
      collection.enabled = true ∧ ∃ behind, collection.documents = behind ++ pending ∧
        List.Forall₂ (fun document protocol => run.document document = .ok protocol) behind
          protocols
  | .done outcome => outcome = (run.compileCollection imports collection).2

/-- A collection that was not looked at is waiting. -/
structure Pool.Sound
    (run : Run)
    (imports : List Protocol)
    (pool : Pool) : Prop where
  length : pool.tasks.length = run.manifest.collections.length
  waiting : ∀ position, pool.tasks[position]? = some .waiting ↔
    pool.next ≤ position ∧ position < pool.tasks.length
  leads : ∀ (position : Nat) (task : Task), pool.tasks[position]? = some task →
    ∀ collection, run.manifest.collections[position]? = some collection →
      task.LeadsTo run imports collection
  reads : ∀ position document, (position, document) ∈ pool.reads →
    ∃ collection, run.manifest.collections[position]? = some collection ∧
      collection.enabled = true ∧ document ∈ collection.documents

/-! ## Steps -/

theorem Pool.sound_start
    (run : Run)
    (imports : List Protocol) :
    (Pool.start run.manifest).Sound run imports where
  length := List.length_map _
  waiting position := by
    unfold start
    rw [List.getElem?_map, Option.map_eq_some_iff, List.length_map]
    constructor
    · rintro ⟨collection, isAt, -⟩
      exact ⟨Nat.zero_le _, (List.getElem?_eq_some_iff.mp isAt).1⟩
    · rintro ⟨-, isLt⟩
      exact ⟨_, List.getElem?_eq_getElem isLt, rfl⟩
  leads position task isAt collection isCollection := by
    unfold start at isAt
    rw [List.getElem?_map, isCollection] at isAt
    cases isAt
    trivial
  reads position document isMember := by cases isMember

/-- A started task leaves a state sound if it leads to the outcome of its collection. -/
theorem Pool.Sound.set
    {pool : Pool}
    (sound : pool.Sound run imports)
    {position : Nat}
    (isCollection : run.manifest.collections[position]? = some collection)
    {task : Task}
    (leads : task.LeadsTo run imports collection)
    (isStarted : task ≠ .waiting)
    {next : Nat}
    (isPassed : position < next)
    (sameElsewhere : ∀ other, other ≠ position → (next ≤ other ↔ pool.next ≤ other))
    {reads : List (Nat × String)}
    (areReads : ∀ entry ∈ reads, entry ∈ pool.reads ∨
      entry.1 = position ∧ collection.enabled = true ∧ entry.2 ∈ collection.documents) :
    (⟨next, pool.tasks.set position task, reads⟩ : Pool).Sound run imports := by
  have isLt : position < pool.tasks.length := by
    rw [sound.length]
    exact (List.getElem?_eq_some_iff.mp isCollection).1
  constructor
  · show (pool.tasks.set position task).length = _
    rw [List.length_set, sound.length]
  · intro other
    show (pool.tasks.set position task)[other]? = _ ↔ next ≤ other ∧ _
    rw [List.length_set]
    by_cases isHere : other = position
    · rw [isHere, List.getElem?_set_self isLt, Option.some.injEq]
      constructor
      · intro isWaiting
        exact absurd isWaiting isStarted
      · intro isAhead
        omega
    · rw [List.getElem?_set_ne (Ne.symm isHere), sound.waiting, sameElsewhere other isHere]
  · intro other found isAt otherCollection isOther
    by_cases isHere : other = position
    · rw [isHere] at isAt isOther
      rw [List.getElem?_set_self isLt, Option.some.injEq] at isAt
      rw [isCollection, Option.some.injEq] at isOther
      rw [← isAt, ← isOther]
      exact leads
    · rw [List.getElem?_set_ne (Ne.symm isHere)] at isAt
      exact sound.leads other found isAt otherCollection isOther
  · intro other document isMember
    rcases areReads (other, document) isMember with isOld | ⟨isHere, enabled, isDocument⟩
    · exact sound.reads other document isOld
    · rw [show other = position from isHere]
      exact ⟨collection, isCollection, enabled, isDocument⟩

/-- The collection of a task that is under way. -/
theorem Pool.Sound.reading
    {pool : Pool}
    (sound : pool.Sound run imports)
    {position : Nat}
    {pending : List String}
    {protocols : List Protocol}
    (isReading : pool.tasks[position]? = some (.reading pending protocols)) :
    position < pool.next ∧ ∃ collection, run.manifest.collections[position]? = some collection ∧
      (Task.reading pending protocols).LeadsTo run imports collection := by
  have isLt := (List.getElem?_eq_some_iff.mp isReading).1
  constructor
  · by_contra notPassed
    have isWaiting := (sound.waiting position).mpr ⟨by omega, isLt⟩
    rw [isReading] at isWaiting
    cases isWaiting
  · rw [sound.length] at isLt
    have isCollection := List.getElem?_eq_getElem isLt
    exact ⟨_, isCollection, sound.leads position _ isReading _ isCollection⟩

/-- The task whose turn it is to start. -/
theorem Pool.Sound.next
    {pool : Pool}
    (sound : pool.Sound run imports)
    (isNext : run.manifest.collections[pool.next]? = some collection) :
    pool.tasks[pool.next]? = some .waiting := by
  rw [sound.waiting, sound.length]
  exact ⟨Nat.le_refl _, (List.getElem?_eq_some_iff.mp isNext).1⟩

/-- The next task is started. -/
theorem Pool.Sound.advance
    {pool : Pool}
    (sound : pool.Sound run imports)
    (isNext : run.manifest.collections[pool.next]? = some collection)
    {task : Task}
    (leads : task.LeadsTo run imports collection)
    (isStarted : task ≠ .waiting) :
    (pool.advance task).Sound run imports := by
  refine sound.set isNext leads isStarted (Nat.lt_succ_self _) ?_ fun entry isOld => .inl isOld
  intro other notNext
  omega

/-- A task that is under way goes on, and reads only documents that were pending. -/
theorem Pool.Sound.proceed
    {pool : Pool}
    (sound : pool.Sound run imports)
    {position : Nat}
    {pending : List String}
    {protocols : List Protocol}
    (isReading : pool.tasks[position]? = some (.reading pending protocols))
    {task : Task}
    (leads : ∀ collection, run.manifest.collections[position]? = some collection →
      (Task.reading pending protocols).LeadsTo run imports collection →
        task.LeadsTo run imports collection)
    (isStarted : task ≠ .waiting)
    {reads : List (Nat × String)}
    (areReads : ∀ entry ∈ reads, entry ∈ pool.reads ∨ entry.1 = position ∧ entry.2 ∈ pending) :
    (⟨pool.next, pool.tasks.set position task, reads⟩ : Pool).Sound run imports := by
  obtain ⟨isPassed, collection, isCollection, onTheWay⟩ := sound.reading isReading
  refine sound.set isCollection (leads collection isCollection onTheWay) isStarted isPassed
    (fun other _ => Iff.rfl) fun entry isEntry => ?_
  obtain ⟨enabled, behind, documents, -⟩ := onTheWay
  refine (areReads entry isEntry).imp_right fun ⟨isHere, isPending⟩ => ⟨isHere, enabled, ?_⟩
  rw [documents]
  exact List.mem_append_right _ isPending

/-- A task that is under way reads its next document. -/
theorem Pool.Sound.read
    {pool : Pool}
    (sound : pool.Sound run imports)
    {position : Nat}
    {document : String}
    {pending : List String}
    {protocols : List Protocol}
    (isReading : pool.tasks[position]? = some (.reading (document :: pending) protocols))
    {task : Task}
    (leads : ∀ collection, run.manifest.collections[position]? = some collection →
      (Task.reading (document :: pending) protocols).LeadsTo run imports collection →
        task.LeadsTo run imports collection)
    (isStarted : task ≠ .waiting) :
    (pool.read position document task).Sound run imports := by
  refine sound.proceed isReading leads isStarted fun entry isEntry => ?_
  refine (List.mem_append.mp isEntry).imp_right fun isNew => ?_
  rw [List.mem_singleton.mp isNew]
  exact ⟨rfl, List.mem_cons_self⟩

/-- Every step keeps the tasks on the way to the outcomes of their collections. -/
theorem Step.sound
    {before after : Pool}
    (step : Step run imports limit before after)
    (sound : before.Sound run imports) :
    after.Sound run imports := by
  cases step with
  | skip isNext disabled =>
      refine sound.advance isNext ?_ Task.noConfusion
      show _ = (run.compileCollection imports _).2
      rw [outcome_compileCollection, disabled]
      rfl
  | start isNext enabled _ =>
      exact sound.advance isNext ⟨enabled, [], rfl, .nil⟩ Task.noConfusion
  | @read _ document _ _ _ isReading isRead =>
      refine sound.read isReading ?_ Task.noConfusion
      rintro collection - ⟨enabled, behind, documents, areRead⟩
      refine ⟨enabled, behind ++ [document], ?_, ?_⟩
      · rw [documents, List.append_assoc, List.singleton_append]
      · exact List.rel_append areRead (.cons isRead .nil)
  | fail isReading isCollection isBroken =>
      refine sound.read isReading ?_ Task.noConfusion
      rintro found isFound ⟨enabled, behind, documents, areRead⟩
      rw [isCollection, Option.some.injEq] at isFound
      subst isFound
      show _ = (run.compileCollection imports _).2
      obtain ⟨sameProtocols, sameFailure⟩ := readDocuments_append .collected areRead (_ :: _)
      rw [← documents] at sameProtocols sameFailure
      rw [outcome_compileCollection, enabled, if_pos rfl]
      simp only [sameProtocols, sameFailure, readDocuments, isBroken, List.append_nil]
  | judge isReading isCollection =>
      refine sound.proceed isReading ?_ Task.noConfusion fun entry isOld => .inl isOld
      rintro found isFound ⟨enabled, behind, documents, areRead⟩
      rw [isCollection, Option.some.injEq] at isFound
      subst isFound
      show _ = (run.compileCollection imports _).2
      rw [List.append_nil] at documents
      rw [← documents] at areRead
      obtain ⟨records, isRead⟩ := readDocuments_of_forall₂ .collected areRead
      rw [outcome_compileCollection, enabled, if_pos rfl, isRead]

/-! ## Runs -/

/-- How many steps a task may still take once it is started. -/
def Task.remaining : Task → Nat
  | .reading pending _ => pending.length + 1
  | .waiting | .done _ => 0

/-- A bound on the steps that a run may still take. -/
def Pool.remaining
    (manifest : Manifest)
    (pool : Pool) :
    Nat :=
  ((manifest.collections.drop pool.next).map fun collection =>
      collection.documents.length + 2).sum
    + (pool.tasks.map Task.remaining).sum

theorem sum_map_set
    {α : Type}
    (weight : α → Nat)
    {list : List α}
    {position : Nat}
    {old : α}
    (isAt : list[position]? = some old)
    (new : α) :
    ((list.set position new).map weight).sum + weight old =
      (list.map weight).sum + weight new := by
  induction list generalizing position with
  | nil => cases isAt
  | cons first rest inductionHypothesis =>
      cases position with
      | zero =>
          cases isAt
          simp only [List.set_cons_zero, List.map_cons, List.sum_cons]
          omega
      | succ position =>
          have others := inductionHypothesis isAt
          simp only [List.set_cons_succ, List.map_cons, List.sum_cons]
          omega

theorem Step.remaining_lt
    {before after : Pool}
    (step : Step run imports limit before after)
    (sound : before.Sound run imports) :
    after.remaining run.manifest < before.remaining run.manifest := by
  -- A start takes a collection from those ahead, and any other step shortens one task.
  have ahead {collection : Collection}
      (isNext : run.manifest.collections[before.next]? = some collection) :
      ((run.manifest.collections.drop before.next).map fun collection =>
          collection.documents.length + 2).sum =
        collection.documents.length + 2
          + ((run.manifest.collections.drop (before.next + 1)).map fun collection =>
              collection.documents.length + 2).sum := by
    obtain ⟨isLt, isAt⟩ := List.getElem?_eq_some_iff.mp isNext
    rw [List.drop_eq_getElem_cons isLt, isAt, List.map_cons, List.sum_cons]
  unfold Pool.remaining
  cases step with
  | @skip collection isNext disabled =>
      have changed := sum_map_set Task.remaining (sound.next isNext)
        (.done (collection.outcome [] (.skipped collection.disabled)))
      have total := ahead isNext
      simp only [Task.remaining, Pool.advance] at changed ⊢
      omega
  | @start collection isNext enabled _ =>
      have changed := sum_map_set Task.remaining (sound.next isNext)
        (.reading collection.documents [])
      have total := ahead isNext
      simp only [Task.remaining, Pool.advance] at changed ⊢
      omega
  | @read _ _ pending protocols protocol isReading isRead =>
      have changed := sum_map_set Task.remaining isReading
        (.reading pending (protocols ++ [protocol]))
      simp only [Task.remaining, Pool.read, List.length_cons] at changed ⊢
      omega
  | @fail _ _ _ protocols collection failure isReading isCollection isBroken =>
      have changed := sum_map_set Task.remaining isReading
        (.done (collection.outcome protocols (.failed failure)))
      simp only [Task.remaining, Pool.read, List.length_cons] at changed ⊢
      omega
  | @judge _ protocols collection isReading isCollection =>
      have changed := sum_map_set Task.remaining isReading
        (.done (collection.outcome protocols (run.judge imports collection protocols)))
      simp only [Task.remaining, Pool.finish, List.length_nil] at changed ⊢
      omega

/-- A run that is not complete can take a step. -/
theorem Pool.Sound.exists_step
    {pool : Pool}
    (sound : pool.Sound run imports)
    (someFree : 0 < limit)
    (notComplete : ¬pool.IsComplete) :
    ∃ after, Step run imports limit pool after := by
  by_cases isIdle : pool.underWay = 0
  · have isLt : pool.next < run.manifest.collections.length := by
      by_contra allStarted
      apply notComplete
      exact ⟨by rw [sound.length]; omega, isIdle⟩
    have isNext := List.getElem?_eq_getElem isLt
    cases enabled : run.manifest.collections[pool.next].enabled with
    | false => exact ⟨_, .skip isNext enabled⟩
    | true => exact ⟨_, .start isNext enabled (by omega)⟩
  · obtain ⟨task, isTask, isReading⟩ := List.countP_pos_iff.mp (Nat.pos_of_ne_zero isIdle)
    obtain ⟨position, isAt⟩ := List.mem_iff_getElem?.mp isTask
    cases task with
    | waiting => cases isReading
    | done outcome => cases isReading
    | reading pending protocols =>
        obtain ⟨-, collection, isCollection, -⟩ := sound.reading isAt
        cases pending with
        | nil => exact ⟨_, .judge isAt isCollection⟩
        | cons document pending =>
            cases isRead : run.document document with
            | ok protocol => exact ⟨_, .read isAt isRead⟩
            | error failure => exact ⟨_, .fail isAt isCollection isRead⟩

/-- A complete run has the outcome of every collection. -/
theorem Pool.Sound.tasks_eq
    {pool : Pool}
    (sound : pool.Sound run imports)
    (complete : pool.IsComplete) :
    pool.tasks = run.manifest.collections.map fun collection =>
      .done (run.compileCollection imports collection).2 := by
  obtain ⟨allStarted, isIdle⟩ := complete
  apply List.ext_getElem
  · rw [sound.length, List.length_map]
  · intro position isLt otherLt
    have isAt := List.getElem?_eq_getElem isLt
    have isCollection := List.getElem?_eq_getElem (sound.length ▸ isLt)
    have leads := sound.leads position _ isAt _ isCollection
    rw [List.getElem_map]
    cases isTask : pool.tasks[position] with
    | waiting =>
        rw [isTask] at isAt
        have isAhead := (sound.waiting position).mp isAt
        omega
    | reading pending protocols =>
        have notReading := List.countP_eq_zero.mp isIdle _ (List.getElem_mem isLt)
        rw [isTask] at notReading
        exact absurd rfl notReading
    | done outcome =>
        rw [isTask] at leads
        exact congrArg Task.done leads

theorem Run.Reaches.sound
    {pool : Pool}
    (reaches : run.Reaches imports limit pool) :
    pool.Sound run imports := by
  induction reaches with
  | refl => exact Pool.sound_start run imports
  | tail _ step inductionHypothesis => exact step.sound inductionHypothesis

/-- However a run goes on, it comes to an end, and then the collections have their outcomes.  On the
way, documents are read for enabled collections only. -/
structure Run.Settles
    (run : Run)
    (imports : List Protocol)
    (limit : Nat)
    (outcomes : List Outcome) : Prop where
  goesOn : ∀ pool, run.Reaches imports limit pool → ¬pool.IsComplete →
    ∃ after, Step run imports limit pool after
  ends : ∀ pools : Nat → Pool, pools 0 = .start run.manifest →
    ∃ time, ¬Step run imports limit (pools time) (pools (time + 1))
  outcomes : ∀ pool, run.Reaches imports limit pool → pool.IsComplete →
    pool.tasks = outcomes.map Task.done
  reads : ∀ pool, run.Reaches imports limit pool → ∀ position document,
    (position, document) ∈ pool.reads →
      ∃ collection, run.manifest.collections[position]? = some collection ∧
        collection.enabled = true ∧ document ∈ collection.documents

theorem Run.settles
    (run : Run)
    (imports : List Protocol)
    (someFree : 0 < limit) :
    run.Settles imports limit
      (run.manifest.collections.map fun collection =>
        (run.compileCollection imports collection).2) where
  goesOn pool reaches notComplete := reaches.sound.exists_step someFree notComplete
  ends pools isStart := by
    by_contra goesOn
    simp only [not_exists, not_not] at goesOn
    have reaches (time : Nat) : run.Reaches imports limit (pools time) := by
      induction time with
      | zero =>
          rw [isStart]
          exact .refl
      | succ time inductionHypothesis => exact inductionHypothesis.tail (goesOn time)
    have bounded (time : Nat) :
        (pools time).remaining run.manifest + time ≤ (pools 0).remaining run.manifest := by
      induction time with
      | zero => exact Nat.le_refl _
      | succ time inductionHypothesis =>
          have shorter := (goesOn time).remaining_lt (reaches time).sound
          omega
    have tooLong := bounded ((pools 0).remaining run.manifest + 1)
    omega
  outcomes pool reaches complete := by
    rw [reaches.sound.tasks_eq complete, List.map_map]
    rfl
  reads pool reaches := reaches.sound.reads

end Runs

end Wayland.Catalog
