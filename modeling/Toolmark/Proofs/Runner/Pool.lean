import Mathlib.Data.List.Forall2
import Mathlib.Data.List.Nodup
import Toolmark.Proofs.Runner

/-!
# Tools that run at the same time

A pool holds the detectors of a run, each with how far it has come. Its moves are the start of one
tool and the end of one; they may come in any order. Every path of a pool starts each tool at most
once, cannot get stuck, and ends with the evidence of the detectors in their order.
-/

namespace Toolmark

namespace Runner

/-- How far a detector has come. -/
inductive Stage where
  /-- Its tool has not been started. -/
  | waiting
  /-- Its tool has been started. -/
  | running (attempt : Attempt)
  /-- Its evidence is known. -/
  | finished (evidence : Evidence)

/-- The kinds of moves. -/
inductive MoveKind where
  /-- A tool is started. -/
  | begins
  /-- A tool ends. -/
  | ends
deriving DecidableEq

/-- What can happen in a pool. -/
structure Move where
  /-- What happens to a tool. -/
  kind : MoveKind
  /-- The index of its detector. -/
  index : Nat
deriving DecidableEq

/-- The index of a tool that ends. -/
def Move.ended? : Move → Option Nat
  | ⟨.begins, _⟩ => none
  | ⟨.ends, index⟩ => some index

namespace Stage

/-- The number of moves of a kind that the tool has made. -/
def count (kind : MoveKind) : Stage → Nat
  | waiting => 0
  | running _ => match kind with
      | .begins => 1
      | .ends => 0
  | finished _ => 1

theorem count_le_one (kind : MoveKind) (stage : Stage) : stage.count kind ≤ 1 := by
  cases stage <;> cases kind <;> simp [count]

/-- The evidence, if it is known. -/
def evidence? : Stage → Option Evidence
  | finished evidence => some evidence
  | _ => none

end Stage

/-- A detector with how far it has come. -/
structure Slot where
  /-- The detector. -/
  detector : Detector
  /-- How far it has come. -/
  stage : Stage

/-- The detectors of a run, in the order of registration. -/
abbrev Pool := List Slot

namespace Pool

/-- The pool before the first move. -/
def initial (detectors : List Detector) : Pool := detectors.map fun detector => ⟨detector, .waiting⟩

/-- The evidence of all detectors, once all of it is known. -/
def outputs (pool : Pool) : Option (List Evidence) := pool.mapM fun slot => slot.stage.evidence?

/-- The number of moves of a kind that the tool at an index has made. -/
def tally (pool : Pool) (kind : MoveKind) (index : Nat) : Nat :=
  (pool[index]?.map fun slot => slot.stage.count kind).getD 0

variable (tools : Tools) (binary : String) (deadline : Instant)

/-- A move takes a pool to the next. A waiting tool may be started at any instant, and a started
one may end at any time; its detector then evaluates the result. -/
inductive Step : Pool → Move → Pool → Prop where
  /-- The tool of a waiting detector is started. -/
  | begins {pool : Pool} {index : Nat} {detector : Detector} (now : Instant)
      (waits : pool[index]? = some ⟨detector, .waiting⟩) :
      Step pool ⟨.begins, index⟩
        (pool.set index
          ⟨detector, .running (tools.attempt detector.tool binary now deadline)⟩)
  /-- The tool of a detector ends. -/
  | ends {pool : Pool} {index : Nat} {detector : Detector} {attempt : Attempt}
      (runs : pool[index]? = some ⟨detector, .running attempt⟩) :
      Step pool ⟨.ends, index⟩
        (pool.set index ⟨detector, .finished (detector.evaluate attempt.result)⟩)

/-- Moves that take a pool to another, one after the other. -/
inductive Path : Pool → List Move → Pool → Prop where
  /-- No move. -/
  | nil (pool : Pool) : Path pool [] pool
  /-- One move and those behind it. -/
  | cons {pool next last : Pool} {move : Move} {moves : List Move}
      (step : Step tools binary deadline pool move next) (path : Path next moves last) :
      Path pool (move :: moves) last

/-- Whatever happens, the detector will have found the evidence once its tool has ended. -/
def Promises (slot : Slot) (evidence : Evidence) : Prop :=
  match slot.stage with
  | .waiting => ∀ now,
      slot.detector.evaluate (tools.attempt slot.detector.tool binary now deadline).result = evidence
  | .running attempt => slot.detector.evaluate attempt.result = evidence
  | .finished found => found = evidence

variable {tools : Tools} {binary : String} {deadline : Instant} {pool next last : Pool}
  {move : Move} {moves : List Move}

theorem Path.append {later : List Move} (path : Path tools binary deadline pool moves next)
    (continued : Path tools binary deadline next later last) :
    Path tools binary deadline pool (moves ++ later) last := by
  induction path with
  | nil => exact continued
  | cons step _ induction => exact .cons step (induction continued)

/-! ## What one move changes -/

theorem lt_length_of_getElem? {index : Nat} {slot : Slot} (present : pool[index]? = some slot) :
    index < pool.length :=
  (List.getElem?_eq_some_iff.mp present).1

theorem tally_set {index : Nat} (inRange : index < pool.length) (slot : Slot) (kind : MoveKind)
    (other : Nat) :
    tally (pool.set index slot) kind other =
      if index = other then slot.stage.count kind else pool.tally kind other := by
  unfold tally
  rw [List.getElem?_set]
  by_cases same : index = other
  · simp [same, same ▸ inRange]
  · simp [same]

/-- A move is made by the tool that it names, and by no other. -/
theorem Step.tally_eq (step : Step tools binary deadline pool move next) (kind : MoveKind)
    (index : Nat) :
    next.tally kind index = pool.tally kind index + if move = ⟨kind, index⟩ then 1 else 0 := by
  cases step with
  | @begins named detector now waits =>
      rw [tally_set (lt_length_of_getElem? waits)]
      by_cases same : named = index
      · subst same
        cases kind <;> simp [tally, waits, Stage.count]
      · simp [same]
  | @ends named detector attempt runs =>
      rw [tally_set (lt_length_of_getElem? runs)]
      by_cases same : named = index
      · subst same
        cases kind <;> simp [tally, runs, Stage.count]
      · simp [same]

theorem tally_initial (detectors : List Detector) (kind : MoveKind) (index : Nat) :
    (initial detectors).tally kind index = 0 := by
  unfold tally initial
  rw [List.getElem?_map]
  cases detectors[index]? <;> rfl

theorem Path.tally_eq (path : Path tools binary deadline pool moves last) (kind : MoveKind)
    (index : Nat) :
    last.tally kind index = pool.tally kind index + moves.count ⟨kind, index⟩ := by
  induction path with
  | nil => simp
  | cons step _ induction =>
      rw [induction, step.tally_eq, List.count_cons, Nat.add_assoc, Nat.add_comm (ite _ _ _)]
      simp only [beq_iff_eq]

theorem Path.count_eq {detectors : List Detector}
    (path : Path tools binary deadline (initial detectors) moves last) (move : Move) :
    moves.count move = last.tally move.kind move.index := by
  rw [path.tally_eq, tally_initial, Nat.zero_add]

theorem tally_le_one (pool : Pool) (kind : MoveKind) (index : Nat) :
    pool.tally kind index ≤ 1 := by
  unfold tally
  cases pool[index]? with
  | none => simp
  | some slot => exact slot.stage.count_le_one kind

theorem lt_length_of_tally {kind : MoveKind} {index : Nat}
    (positive : 0 < pool.tally kind index) : index < pool.length := by
  by_contra outOfRange
  rw [tally, List.getElem?_eq_none (Nat.not_lt.mp outOfRange)] at positive
  exact Nat.lt_irrefl 0 positive

/-! ## What every pool keeps -/

theorem forall₂_set {α β : Type} {related : α → β → Prop} {xs : List α} {ys : List β} {index : Nat}
    {old new : α} (all : List.Forall₂ related xs ys) (present : xs[index]? = some old)
    (keeps : ∀ y, related old y → related new y) :
    List.Forall₂ related (xs.set index new) ys := by
  induction all generalizing index with
  | nil => simp at present
  | cons first rest induction =>
      cases index with
      | zero =>
          obtain rfl : _ = old := by simpa using present
          exact .cons (keeps _ first) rest
      | succ index => exact .cons first (induction (by simpa using present))

variable {evidence : List Evidence}

/-- A move keeps what every slot promises: a tool that is started keeps to the promise of its
detector, and one that ends fulfils it. -/
theorem Step.promises (step : Step tools binary deadline pool move next)
    (promised : List.Forall₂ (Promises tools binary deadline) pool evidence) :
    List.Forall₂ (Promises tools binary deadline) next evidence := by
  cases step with
  | begins now waits => exact forall₂_set promised waits fun _ promise => promise now
  | ends runs => exact forall₂_set promised runs fun _ promise => promise

theorem Path.promises (path : Path tools binary deadline pool moves last)
    (promised : List.Forall₂ (Promises tools binary deadline) pool evidence) :
    List.Forall₂ (Promises tools binary deadline) last evidence := by
  induction path with
  | nil => exact promised
  | cons step _ induction => exact induction (step.promises promised)

/-! ## How a pool ends -/

theorem outputs_cons_finished (detector : Detector) (found : Evidence) (rest : Pool) :
    outputs (⟨detector, .finished found⟩ :: rest) = (outputs rest).map (found :: ·) := by
  rw [outputs, List.mapM_cons]
  change ((outputs rest).bind fun later => some (found :: later)) = _
  cases outputs rest <;> rfl

theorem outputs_of_promises
    (promised : List.Forall₂ (Promises tools binary deadline) pool evidence) :
    pool.outputs = some evidence ∧ (∀ slot ∈ pool, ∃ found, slot.stage = .finished found) ∨
      pool.outputs = none ∧ ∃ slot ∈ pool, slot.stage.evidence? = none := by
  induction promised with
  | nil => exact .inl ⟨rfl, by simp⟩
  | @cons slot expected rest others first _ induction =>
      obtain ⟨detector, stage⟩ := slot
      cases stage with
      | waiting => exact .inr ⟨rfl, _, List.mem_cons_self, rfl⟩
      | running attempt => exact .inr ⟨rfl, _, List.mem_cons_self, rfl⟩
      | finished found =>
          have fulfilled : found = expected := first
          rcases induction with ⟨done, allDone⟩ | ⟨notDone, other, member, unfinished⟩
          · left
            constructor
            · rw [outputs_cons_finished, done, fulfilled]
              rfl
            · simpa using allDone
          · right
            refine ⟨?_, other, List.mem_cons_of_mem _ member, unfinished⟩
            rw [outputs_cons_finished, notDone]
            rfl

theorem exists_step {slot : Slot} (member : slot ∈ pool)
    (unfinished : slot.stage.evidence? = none) :
    ∃ move next, Step tools binary deadline pool move next := by
  obtain ⟨index, present⟩ := List.getElem?_of_mem member
  obtain ⟨detector, stage⟩ := slot
  cases stage with
  | waiting => exact ⟨_, _, .begins 0 present⟩
  | running attempt => exact ⟨_, _, .ends present⟩
  | finished evidence => nomatch unfinished

/-- A pool with promises has a move, or has the promised evidence. -/
theorem exists_step_or_outputs
    (promised : List.Forall₂ (Promises tools binary deadline) pool evidence) :
    pool.outputs = none ∧ (∃ move next, Step tools binary deadline pool move next) ∨
      pool.outputs = some evidence ∧ ∀ slot ∈ pool, ∃ found, slot.stage = .finished found := by
  rcases outputs_of_promises promised with done | ⟨notDone, slot, member, unfinished⟩
  · exact .inr done
  · exact .inl ⟨notDone, exists_step member unfinished⟩

theorem promises_initial {result : Invocation → ToolResult}
    (steady : ∀ invocation now,
      (tools.attempt invocation binary now deadline).result = result invocation)
    (detectors : List Detector) :
    List.Forall₂ (Promises tools binary deadline) (initial detectors)
      (detectors.map fun detector => detector.evaluate (result detector.tool)) := by
  rw [initial, List.forall₂_map_left_iff, List.forall₂_map_right_iff, List.forall₂_same]
  exact fun detector _ now => congrArg detector.evaluate (steady detector.tool now)

/-! ## All orders are possible -/

/-- The pool with the tools of trials started. -/
def started (trials : List Trial) : Pool :=
  trials.map fun trial => ⟨trial.detector, .running trial.attempt⟩

/-- Whatever the tools are, trials that have begun give their evidence in every order in which they
end. -/
theorem outputs_of_started {trials : List Trial}
    (path : Path tools binary deadline (started trials) moves last) :
    last.outputs = none ∧ (∃ move next, Step tools binary deadline last move next) ∨
      last.outputs = some (trials.map Trial.evidence) := by
  have promised : List.Forall₂ (Promises tools binary deadline) (started trials)
      (trials.map Trial.evidence) := by
    rw [started, List.forall₂_map_left_iff, List.forall₂_map_right_iff, List.forall₂_same]
    exact fun trial _ => rfl
  exact (exists_step_or_outputs (path.promises promised)).imp_right And.left

theorem path_begins (tools : Tools) (binary : String) (deadline now : Instant) (front : Pool)
    (detectors : List Detector) :
    Path tools binary deadline (front ++ initial detectors)
      ((List.range' front.length detectors.length).map (⟨.begins, ·⟩))
      (front ++ started (trialsAtOnce tools binary deadline now detectors)) := by
  induction detectors generalizing front with
  | nil => exact .nil _
  | cons detector rest induction =>
      have waits : (front ++ initial (detector :: rest))[front.length]? =
          some ⟨detector, .waiting⟩ := by
        simp [initial]
      have later := induction
        (front ++ [⟨detector, .running (tools.attempt detector.tool binary now deadline)⟩])
      simp only [List.length_append, List.length_singleton, List.append_assoc,
        List.singleton_append] at later
      rw [List.length_cons, List.range'_succ, List.map_cons]
      refine .cons (.begins now waits) ?_
      rw [List.set_append_right _ _ (Nat.le_refl _), Nat.sub_self]
      exact later

theorem exists_path_ends {order : List Nat} (once : order.Nodup)
    (running : ∀ index ∈ order, ∃ detector attempt,
      pool[index]? = some ⟨detector, .running attempt⟩) :
    ∃ last, Path tools binary deadline pool
      (order.map (⟨.ends, ·⟩)) last := by
  induction order generalizing pool with
  | nil => exact ⟨pool, .nil pool⟩
  | cons first rest induction =>
      obtain ⟨notAgain, restOnce⟩ := List.nodup_cons.mp once
      obtain ⟨detector, attempt, runs⟩ := running first List.mem_cons_self
      have stillRunning : ∀ index ∈ rest, ∃ other attempt',
          (pool.set first ⟨detector, .finished (detector.evaluate attempt.result)⟩)[index]? =
            some ⟨other, .running attempt'⟩ := by
        intro index member
        have different : first ≠ index := fun same => notAgain (same ▸ member)
        rw [List.getElem?_set_ne different]
        exact running index (List.mem_cons_of_mem _ member)
      obtain ⟨last, path⟩ := induction restOnce stillRunning
      exact ⟨last, .cons (.ends runs) path⟩

/-- Every order in which the tools of all detectors end is that of some path. -/
theorem exists_path_of_order (tools : Tools) (binary : String) (deadline now : Instant)
    {detectors : List Detector} {order : List Nat}
    (all : order.Perm (List.range detectors.length)) :
    ∃ last, Path tools binary deadline (initial detectors)
      ((List.range detectors.length).map (⟨.begins, ·⟩) ++ order.map (⟨.ends, ·⟩)) last := by
  have begins := path_begins tools binary deadline now [] detectors
  rw [List.nil_append, List.nil_append, List.length_nil, ← List.range_eq_range'] at begins
  have running : ∀ index ∈ order, ∃ detector attempt,
      (started (trialsAtOnce tools binary deadline now detectors))[index]? =
        some ⟨detector, .running attempt⟩ := by
    intro index member
    have inRange : index < detectors.length := List.mem_range.mp (all.mem_iff.mp member)
    refine ⟨detectors[index], tools.attempt detectors[index].tool binary now deadline, ?_⟩
    simp [started, trialsAtOnce, inRange]
  obtain ⟨last, ends⟩ := exists_path_ends (all.nodup_iff.mpr List.nodup_range) running
  exact ⟨last, begins.append ends⟩

/-! ## Every path -/

/-- All moves of detectors: each tool is started, and each ends. -/
def allMoves (detectors : List Detector) : List Move :=
  [.begins, .ends].flatMap fun kind => (List.range detectors.length).map (⟨kind, ·⟩)

variable {detectors : List Detector}

theorem mem_allMoves_iff : move ∈ allMoves detectors ↔ move.index < detectors.length := by
  obtain ⟨kind, index⟩ := move
  cases kind <;> simp [allMoves]

theorem nodup_allMoves (detectors : List Detector) : (allMoves detectors).Nodup := by
  have once (kind : MoveKind) :
      ((List.range detectors.length).map fun index => Move.mk kind index).Nodup :=
    List.nodup_range.map fun _ _ same => (Move.mk.inj same).2
  refine List.nodup_flatMap.mpr ⟨fun kind _ => once kind, ?_⟩
  simp [List.disjoint_left]

theorem Path.length_eq (path : Path tools binary deadline pool moves last) :
    last.length = pool.length := by
  induction path with
  | nil => rfl
  | cons step _ induction =>
      rw [induction]
      cases step <;> exact List.length_set

theorem length_initial (detectors : List Detector) :
    (initial detectors).length = detectors.length :=
  List.length_map _

theorem Path.nodup (path : Path tools binary deadline (initial detectors) moves last) :
    moves.Nodup :=
  List.nodup_iff_count_le_one.mpr fun move =>
    path.count_eq move ▸ last.tally_le_one move.kind move.index

theorem Path.subset_allMoves
    (path : Path tools binary deadline (initial detectors) moves last) :
    moves ⊆ allMoves detectors := by
  intro move member
  have counted := List.count_pos_iff.mpr member
  rw [path.count_eq] at counted
  have inRange := lt_length_of_tally counted
  rwa [path.length_eq, length_initial, ← mem_allMoves_iff] at inRange

/-- A path ends, since it has at most two moves for each detector. -/
theorem Path.length_le (path : Path tools binary deadline (initial detectors) moves last) :
    moves.length ≤ 2 * detectors.length := by
  have within := List.Nodup.length_le_of_subset path.nodup path.subset_allMoves
  simp only [allMoves, List.flatMap_cons, List.flatMap_nil, List.append_nil, List.length_append,
    List.length_map, List.length_range] at within
  omega

/-- Once all detectors are done, each tool has been started once and has ended once. -/
theorem Path.perm_allMoves (path : Path tools binary deadline (initial detectors) moves last)
    (done : ∀ slot ∈ last, ∃ evidence, slot.stage = .finished evidence) :
    moves.Perm (allMoves detectors) := by
  refine (List.perm_ext_iff_of_nodup path.nodup (nodup_allMoves detectors)).mpr fun move =>
    ⟨fun member => path.subset_allMoves member, fun member => List.count_pos_iff.mp ?_⟩
  have inLast : move.index < last.length := by
    rw [path.length_eq, length_initial]
    exact mem_allMoves_iff.mp member
  obtain ⟨evidence, stage⟩ := done last[move.index] (List.getElem_mem inLast)
  rw [path.count_eq, tally, List.getElem?_eq_getElem inLast, Option.map_some, Option.getD_some,
    stage]
  exact Nat.one_pos

/-- A path either can go on or has ended with the evidence of the detectors. -/
theorem Path.outcome {result : Invocation → ToolResult}
    (steady : ∀ invocation now,
      (tools.attempt invocation binary now deadline).result = result invocation)
    (path : Path tools binary deadline (initial detectors) moves last) :
    last.outputs = none ∧ (∃ move next, Step tools binary deadline last move next) ∨
      last.outputs =
          some (detectors.map fun detector => detector.evaluate (result detector.tool)) ∧
        moves.Perm (allMoves detectors) := by
  have promised := path.promises (promises_initial steady detectors)
  exact (exists_step_or_outputs promised).imp_right fun done =>
    ⟨done.1, path.perm_allMoves done.2⟩

end Pool

open Pool in
/-- With all tools at the same time a run returns what a pool does, whatever the tools are and in
whichever order they end. -/
theorem evidence_of_path {runner : Runner} {tools : Tools} {binary : String}
    {start deadline : Instant} {moves : List Move} {last : Pool} {evidence : List Evidence}
    (concurrent : runner.sequential = false)
    (deadline_eq : deadline? start runner.timeoutSecs = some deadline)
    (path : Path tools binary deadline
      (started (trialsAtOnce tools binary deadline start runner.detectors)) moves last)
    (outputs_eq : last.outputs = some evidence) :
    ∃ run, runner.run tools binary start = .ok run ∧ run.evidence = evidence ∧
      run.calls = runner.detectors.map (·.tool) := by
  have evidence_eq : evidence =
      (trialsAtOnce tools binary deadline start runner.detectors).map Trial.evidence := by
    rcases outputs_of_started path with ⟨notDone, _⟩ | done
    · rw [notDone] at outputs_eq
      nomatch outputs_eq
    · exact Option.some.inj (outputs_eq.symm.trans done)
  have trials_eq : runner.trials tools binary start deadline =
      trialsAtOnce tools binary deadline start runner.detectors := by
    rw [trials_eq, concurrent, if_neg Bool.false_ne_true]
  refine ⟨_, run_eq deadline_eq, ?_, rfl⟩
  rw [trials_eq, evidence_eq]

end Runner

open Runner Pool in
/-- When the result of a tool depends on nothing but its command line and the binary, the order in
which tools end is of no consequence. Both modes return the evidence of each detector in its place.
Whatever happens in a pool, no tool is started twice, the pool never gets stuck, and when it is done
it has that evidence and has started every tool. Each order of the ends occurs. A run with all tools
at the same time returns what a pool of its own trials does, whatever the tools are. Windows are
taken without overflow, as of styles that fit the text (`Style.Fits`). -/
theorem evidence_independent_of_order (detectors : List Detector) {seconds : Nat} {tools : Tools}
    {binary : String} {start deadline : Instant} {result : Invocation → ToolResult}
    (deadline_eq : deadline? start seconds = some deadline)
    (steady : ∀ invocation now,
      (tools.attempt invocation binary now deadline).result = result invocation) :
    let evidence := detectors.map fun detector => detector.evaluate (result detector.tool)
    (∀ sequential, ∃ run,
      (Runner.mk detectors seconds sequential).run tools binary start = .ok run ∧
        run.evidence = evidence ∧ run.calls = detectors.map (·.tool)) ∧
      (∀ moves last, Path tools binary deadline (initial detectors) moves last →
        moves.Nodup ∧ moves.length ≤ 2 * detectors.length ∧
          (last.outputs = none ∧ (∃ move next, Step tools binary deadline last move next) ∨
            last.outputs = some evidence ∧ moves.Perm (allMoves detectors))) ∧
      (∀ order : List Nat, order.Perm (List.range detectors.length) →
        ∃ moves last, Path tools binary deadline (initial detectors) moves last ∧
          moves.filterMap Move.ended? = order ∧ last.outputs = some evidence) ∧
      ∀ (others : Tools) moves last outputs,
        Path others binary deadline
            (started (trialsAtOnce others binary deadline start detectors)) moves last →
          last.outputs = some outputs →
            ∃ run, (Runner.mk detectors seconds false).run others binary start = .ok run ∧
              run.evidence = outputs ∧ run.calls = detectors.map (·.tool) := by
  refine ⟨fun sequential => ?_, fun moves last path => ?_, fun order all => ?_,
    fun others moves last outputs path outputs_eq =>
      evidence_of_path rfl deadline_eq path outputs_eq⟩
  · have receives : (Runner.mk detectors seconds sequential).Receives tools binary start deadline
        result :=
      receives_of_instants (fun _ => True) trivial fun invocation now _ =>
        ⟨steady invocation now, trivial⟩
    exact exists_run_of_receives receives deadline_eq
  · exact ⟨path.nodup, path.length_le, path.outcome steady⟩
  · obtain ⟨last, path⟩ := exists_path_of_order tools binary deadline start all
    refine ⟨_, last, path, ?_, ?_⟩
    · simp [Move.ended?, List.filterMap_map, Function.comp_def]
    · rcases path.outcome steady with ⟨_, move, next, step⟩ | ⟨outputs_eq, _⟩
      · -- One move more would exceed the length of every path.
        have tooLong := (path.append (.cons step (.nil next))).length_le
        simp only [List.length_append, List.length_map, List.length_range, all.length_eq,
          List.length_singleton] at tooLong
        omega
      · exact outputs_eq

/-- Tools that take one millisecond, of which one fails and the others print their names. -/
def failingNm : Tools where
  attempt invocation _ now _ :=
    { result :=
        if invocation.program = "nm" then .error (.failed "nm" "exit status: 1")
        else .ok invocation.program
      spawned := true
      log := []
      finish := now + 1 }

/-- Of three detectors, the first and the last are alike and end in the opposite order. -/
theorem evidence_independent_of_order_reversed :
    ∃ moves last,
      Runner.Pool.Path failingNm "app" 30000
          (Runner.Pool.initial [Detector.strings, Detector.symbols, Detector.strings]) moves last ∧
        moves.filterMap Runner.Move.ended? = [2, 1, 0] ∧
        last.outputs.map (·.map Evidence.technique) = some [.strings, .symbols, .strings] := by
  have deadline_eq : deadline? 0 30 = some 30000 := rfl
  have steady : ∀ invocation now, (failingNm.attempt invocation "app" now 30000).result =
      (failingNm.attempt invocation "app" 0 30000).result := fun _ _ => rfl
  obtain ⟨_, _, ordered, _⟩ := evidence_independent_of_order
    [Detector.strings, Detector.symbols, Detector.strings] deadline_eq steady
  obtain ⟨moves, last, path, order_eq, outputs_eq⟩ := ordered [2, 1, 0] (by decide)
  exact ⟨moves, last, path, order_eq, by rw [outputs_eq]; rfl⟩

end Toolmark
