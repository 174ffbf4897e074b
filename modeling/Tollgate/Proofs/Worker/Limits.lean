import Mathlib.Data.List.Induction
import Tollgate.Proofs.Worker.Bench

/-!
The limits of a worker. Whatever is done to it and whatever it does, it never runs more jobs than it
has slots, its queue never holds more than it has room for, and no slot is ever lost.
-/

namespace Tollgate

/-- The phase of a worker that somebody holds, after something that may have told it to stop or may
have let it stop. -/
def WorkerPhase.afterwards (aborts stops : Bool) : WorkerPhase → WorkerPhase
  | .working => if aborts then .stopping else .working
  | .stopping => if stops then .ended else .stopping
  | .ended => .ended

namespace WorkerPhase

/-- Where nothing tells it to stop or lets it stop, a worker stays in its phase. -/
@[simp] theorem afterwards_none (phase : WorkerPhase) : phase.afterwards false false = phase := by
  -- Either flag off leaves its own phase alone, and the third phase is final anyhow.
  cases phase <;> rfl

/-- A worker does not go on if it did not before, or if it is told to stop. -/
theorem afterwards_ne_working (phase : WorkerPhase) (aborts stops : Bool) :
    phase.afterwards aborts stops ≠ .working ↔ phase ≠ .working ∨ aborts = true := by
  -- There are twelve cases, of three phases and two flags.
  cases phase <;> cases aborts <;> cases stops <;> decide

/-- A worker has ended if it had before, or if it did not go on and gets to stop. -/
theorem afterwards_eq_ended (phase : WorkerPhase) (aborts stops : Bool) :
    phase.afterwards aborts stops = .ended ↔
      phase = .ended ∨ (stops = true ∧ phase ≠ .working) := by
  cases phase <;> cases aborts <;> cases stops <;> decide

end WorkerPhase

namespace WorkerMove

variable {Job : Type}

/-- The worker is told to stop. -/
def aborts : WorkerMove Job → Bool
  | .abort => true
  | _ => false

/-- The worker stops if it has been told to. -/
def stops : WorkerMove Job → Bool
  | .stop => true
  | _ => false

/-- A move that a worker makes by itself neither tells it to stop nor lets it stop. -/
theorem aborts_of_isOwn {move : WorkerMove Job} (own : move.isOwn = true) :
    move.aborts = false ∧ move.stops = false := by
  cases move <;> simp_all [isOwn, aborts, stops]

end WorkerMove

namespace Worker

variable {Job : Type} {worker after : Worker Job} {limits : WorkerLimits}
  {events more : List (JobEvent Job)} {next : WorkerMove Job}

/-- A job is accepted as long as the worker can be reached, has not ended and has room for it. -/
theorem accepts_iff (worker : Worker Job) :
    worker.accepts = true ↔
      worker.held = true ∧ worker.phase ≠ .ended ∧ worker.queue.length < worker.capacity := by
  -- These are the conditions of the definition itself, spelled out.
  simp [accepts, and_assoc]

/-- Besides those in the queue, at most the job in the hand waits. -/
theorem length_waiting_le (worker : Worker Job) :
    worker.waiting.length ≤ worker.queue.length + 1 := by
  rw [waiting, List.length_append]
  -- The hand holds one job at most.
  have held : worker.hand.toList.length ≤ 1 := by cases worker.hand <;> simp
  omega

/-- The worker keeps to its limits. -/
structure WithinLimits (limits : WorkerLimits) (worker : Worker Job) : Prop where
  /-- The queue holds at least one job. -/
  capacity : worker.capacity = max limits.capacity 1
  /-- There is a slot for at least one job. -/
  concurrency : worker.concurrency = max limits.concurrency 1
  /-- A slot is free or a job runs in it. -/
  slots : worker.running.length + worker.free = worker.concurrency
  /-- There is room for all jobs in the queue. -/
  queued : worker.queue.length ≤ worker.capacity

/-- A worker that has just been started keeps to its limits. -/
theorem withinLimits_spawn (limits : WorkerLimits) :
    (spawn limits : Worker Job).WithinLimits limits where
  capacity := rfl
  concurrency := rfl
  -- A slot is free for each job that may run, and none runs yet.
  slots := by simp [spawn]
  queued := by simp [spawn]

/-- No move makes a worker exceed its limits. -/
theorem Step.withinLimits (step : worker.Step next after events)
    (within : worker.WithinLimits limits) : after.WithinLimits limits := by
  obtain ⟨capacity, concurrency, slots, queued⟩ := within
  cases step with
  | accept job accepts =>
    -- A job is accepted only where there is room, so the queue stays within its bounds.
    have room := ((accepts_iff worker).mp accepts).2.2
    exact ⟨capacity, concurrency, slots, by simpa using Nat.succ_le_of_lt room⟩
  | take _ _ taken =>
    refine ⟨capacity, concurrency, slots, ?_⟩
    -- The queue gets shorter by the job that is taken from it.
    rw [taken, List.length_cons] at queued
    exact Nat.le_of_succ_le queued
  | start _ _ counted =>
    -- The job takes the slot that is free no longer.
    refine ⟨capacity, concurrency, ?_, queued⟩
    simp only [List.length_append, List.length_singleton]
    omega
  | leave exit runs =>
    -- However the job ends, its slot is free again.
    refine ⟨capacity, concurrency, ?_, queued⟩
    have bound := (List.getElem?_eq_some_iff.mp runs).1
    simp only [List.length_eraseIdx, if_pos bound]
    omega
  -- All slots are given back, and nothing is left in the queue.
  | stop => exact ⟨capacity, concurrency, by simp, by simp⟩
  | idle | refuse | drop | abort | abortAgain | stopUntold | close =>
    exact ⟨capacity, concurrency, slots, queued⟩

/-- The jobs that a worker has are no more than it has places for. -/
theorem WithinLimits.pending_le (within : worker.WithinLimits limits) :
    worker.running.length + worker.waiting.length ≤
      max limits.capacity 1 + max limits.concurrency 1 + 1 := by
  -- Every place is in the queue, in a slot, or in the hand.
  obtain ⟨capacity, concurrency, slots, queued⟩ := within
  have waiting := worker.length_waiting_le
  omega

/-- The jobs a worker has accepted are accounted for. -/
structure Accounts (limits : WorkerLimits) (events : List (JobEvent Job)) (worker : Worker Job) :
    Prop where
  /-- As long as it has not ended, it has all those that have not come to their end. -/
  pending : worker.phase ≠ .ended →
    (accepted events).length =
      (left events).length + (worker.running.length + worker.waiting.length)
  /-- Once it has ended, it has none. -/
  spent : worker.phase = .ended → worker.running = [] ∧ worker.waiting = []
  /-- Those that were lost when it was stopped were no more than it had places for. -/
  lost : worker.phase = .ended →
    (accepted events).length ≤
      (left events).length + (max limits.capacity 1 + max limits.concurrency 1 + 1)

/-- A worker that has just been started has accepted nothing. -/
theorem accounts_spawn (limits : WorkerLimits) :
    (spawn limits : Worker Job).Accounts limits [] where
  -- Nothing has been accepted, and nothing is there.
  pending _ := rfl
  spent ended := nomatch ended
  lost ended := nomatch ended

/-- Whether or not a worker has ended, only so many jobs can be accepted and not at their end. -/
theorem Accounts.accepted_le (accounts : worker.Accounts limits events)
    (within : worker.WithinLimits limits) :
    (accepted events).length ≤
      (left events).length + (max limits.capacity 1 + max limits.concurrency 1 + 1) := by
  -- What has not come to its end is either still there, or was lost when the worker ended.
  by_cases ended : worker.phase = .ended
  · exact accounts.lost ended
  · rw [accounts.pending ended]
    exact Nat.add_le_add_left within.pending_le _

/-- As many jobs are with a worker before and come to it as come to their end and are with it
afterwards. -/
theorem Conveys.length_eq {before : Worker Job} (conveys : Conveys before events after) :
    before.running.length + before.waiting.length + (accepted events).length =
      (left events).length + (after.running.length + after.waiting.length) := by
  -- In the order of acceptance and as a permutation, the jobs are the same before and after.
  have inOrder := congrArg List.length conveys.inOrder
  have parted := conveys.parted.length_eq
  simp only [List.length_append, List.length_map] at inOrder parted
  omega

/-- Nothing happens to jobs any more once a worker has ended and none runs. -/
theorem Step.of_ended (step : worker.Step next after more) (ended : worker.phase = .ended)
    (idle : worker.running = []) :
    after.phase = .ended ∧ after.running = [] ∧ after.waiting = worker.waiting ∧
      accepted more = [] ∧ left more = [] := by
  -- Only the moves of a worker that goes on touch its jobs, besides those of jobs that run.
  cases step with
  | idle | refuse | drop | abortAgain | stopUntold => exact ⟨ended, idle, rfl, rfl, rfl⟩
  | accept _ accepts => exact absurd ended ((accepts_iff worker).mp accepts).2.1
  | leave _ runs => simp [idle] at runs
  | take working | start working | abort working | close working => simp [ended] at working
  | stop stopping => simp [ended] at stopping

/-- A worker that ends has no jobs left. -/
theorem Step.of_ends (step : worker.Step next after more) (going : worker.phase ≠ .ended)
    (ended : after.phase = .ended) :
    after.running = [] ∧ after.waiting = [] ∧ accepted more = [] ∧ left more = [] := by
  -- There are two ways to end: all jobs are thrown away, or there are none.
  cases step with
  | stop => exact ⟨rfl, rfl, rfl, rfl⟩
  | close _ drained =>
    obtain ⟨-, waitless, idle⟩ := (isDrained_iff worker).mp drained
    exact ⟨idle, waitless, rfl, rfl⟩
  | abort => simp at ended
  | idle | accept | refuse | take | start | leave | drop | abortAgain | stopUntold =>
    exact absurd ended going

/-- After any move the jobs accepted are accounted for. -/
theorem Step.accounts (step : worker.Step next after more) (within : worker.WithinLimits limits)
    (accounts : worker.Accounts limits events) : after.Accounts limits (events ++ more) := by
  by_cases ended : worker.phase = .ended
  · -- It has ended before, and all is as it was.
    obtain ⟨idle, waitless⟩ := accounts.spent ended
    obtain ⟨stays, stillIdle, same, noneAccepted, noneLeft⟩ := step.of_ended ended idle
    refine ⟨fun going => absurd stays going, fun _ => ⟨stillIdle, same.trans waitless⟩, fun _ => ?_⟩
    simpa [noneAccepted, noneLeft] using accounts.lost ended
  · have pending := accounts.pending ended
    by_cases ends : after.phase = .ended
    · -- It ends now, and what it had before is lost.
      obtain ⟨idle, waitless, noneAccepted, noneLeft⟩ := step.of_ends ended ends
      refine ⟨fun going => absurd ends going, fun _ => ⟨idle, waitless⟩, fun _ => ?_⟩
      simpa [noneAccepted, noneLeft] using accounts.accepted_le within
    · -- It goes on, and nothing is lost.
      have balance := (step.conveys fun _ => ends).length_eq
      refine ⟨fun _ => ?_, fun ended => absurd ended ends, fun ended => absurd ended ends⟩
      simp only [accepted_append, left_append, List.length_append]
      omega

/-- A worker that somebody holds after a move was held before it, and the move has only done to its
phase what telling it to stop does, or letting it stop. -/
theorem Step.phase_of_held (step : worker.Step next after events) (held : after.held = true) :
    worker.held = true ∧ after.phase = worker.phase.afterwards next.aborts next.stops := by
  cases step with
  -- A move of the worker's own neither tells it to stop nor lets it stop.
  | idle own =>
    obtain ⟨aborts, stops⟩ := WorkerMove.aborts_of_isOwn own
    exact ⟨held, by rw [aborts, stops, WorkerPhase.afterwards_none]⟩
  | accept | refuse | take | start | leave =>
    exact ⟨held, (WorkerPhase.afterwards_none _).symm⟩
  | drop => simp at held
  | abort working => exact ⟨held, by rw [working]; rfl⟩
  | abortAgain told =>
    -- One that has been told already stays as it is when it is told again.
    refine ⟨held, ?_⟩
    cases phase : worker.phase with
    | working => exact absurd phase told
    | stopping | ended => rfl
  | stop stopping => exact ⟨held, by rw [stopping]; rfl⟩
  | stopUntold untold =>
    -- One that has not been told stays as it is when it gets to it.
    refine ⟨held, ?_⟩
    cases phase : worker.phase with
    | stopping => exact absurd phase untold
    | working | ended => rfl
  | close _ drained =>
    -- A worker ends by itself only when nobody holds it any more.
    have held : worker.held = true := held
    simp [((isDrained_iff worker).mp drained).1] at held

/-- A worker that somebody holds after moves of its own was held before them, and is in the same
phase. -/
theorem phase_moves_of_isOwn {own : List (WorkerMove Job)}
    (each : ∀ next ∈ own, next.isOwn = true) (held : (worker.moves own).1.held = true) :
    worker.held = true ∧ (worker.moves own).1.phase = worker.phase := by
  -- A worker that nobody holds may end by itself, so the law is about one that is held.
  refine moves_keep []
    (fun _ after => after.held = true → worker.held = true ∧ after.phase = worker.phase) ?_
    (fun held => ⟨held, rfl⟩) held
  intro next member before after _ _ step kept held
  -- Each of the moves leaves the phase alone, for the worker goes on being held.
  obtain ⟨aborts, stops⟩ := WorkerMove.aborts_of_isOwn (each next member)
  obtain ⟨reached, phase⟩ := step.phase_of_held held
  rw [aborts, stops, WorkerPhase.afterwards_none] at phase
  exact ⟨(kept reached).1, phase.trans (kept reached).2⟩

/-- The worker keeps to its limits, and the jobs it has accepted are accounted for. -/
def Sound (limits : WorkerLimits) (events : List (JobEvent Job)) (worker : Worker Job) : Prop :=
  worker.WithinLimits limits ∧ worker.Accounts limits events

/-- Whatever moves are made, a worker keeps to its limits and its jobs are accounted for. -/
theorem Sound.moves (sound : worker.Sound limits events) (moves : List (WorkerMove Job)) :
    (worker.moves moves).1.Sound limits (events ++ (worker.moves moves).2) := by
  -- Both halves are laws of a single step, and the run of the moves hands them on.
  refine moves_keep events (Sound limits) ?_ sound
  rintro next - before after events more step ⟨within, accounts⟩
  exact ⟨step.withinLimits within, step.accounts within accounts⟩

/-- When jobs are changed where they are, those that wait are the same ones, changed. -/
@[simp] theorem waiting_mapJobs (change : Job → Job) (worker : Worker Job) :
    (worker.mapJobs change).waiting = worker.waiting.map change := by
  simp only [mapJobs, waiting, List.map_append, Option.toList_map]

/-- Changing jobs where they are leaves a worker within its limits, and their accounts as they
are. -/
theorem Sound.mapJobs (sound : worker.Sound limits events) (change : Job → Job) :
    (worker.mapJobs change).Sound limits events := by
  -- The limits speak of how many jobs there are, not of which.
  obtain ⟨⟨capacity, concurrency, slots, queued⟩, pending, spent, lost⟩ := sound
  refine ⟨⟨capacity, concurrency, ?_, ?_⟩, ?_, ?_, lost⟩
  · simpa [Worker.mapJobs] using slots
  · simpa [Worker.mapJobs] using queued
  · rw [waiting_mapJobs, List.length_map]
    simpa [Worker.mapJobs] using pending
  · rw [waiting_mapJobs, List.map_eq_nil_iff]
    simpa [Worker.mapJobs] using spent

end Worker

namespace Bench

open Worker

variable {bench after : Bench} {limits : WorkerLimits} {events more : List (JobEvent Chore)}
  {operation : Operation}

/-- Whatever is done to a bench, it keeps to its limits and its jobs are accounted for. -/
theorem Course.sound (course : bench.Course operation after more)
    (sound : bench.Sound limits events) : after.Sound limits (events ++ more) := by
  -- Every course is one of moves, unless it leaves the worker alone or changes jobs in place.
  cases course with
  | @move _ next => simpa [moves] using sound.moves [next]
  | unheard => simpa using sound
  | release id => simpa using sound.mapJobs (Chore.release id)
  | stop => simpa [moves] using sound.moves [.stop]
  | drain =>
    -- Left to itself, the worker makes moves of its own, however many.
    obtain ⟨own, -, same⟩ := drain_eq_moves Chore.exit? bench
    rw [same]
    exact sound.moves own

/-- A bench that somebody holds after an operation was held before it, and the operation has only
done to its phase what telling it to stop does, or letting it stop. -/
theorem Course.phase_of_held (course : bench.Course operation after more)
    (held : after.held = true) :
    bench.held = true ∧
      after.phase = bench.phase.afterwards (operation = .abort) (operation = .settle) := by
  cases course with
  | @move _ next asked =>
    -- The operation is one that tells the worker to stop exactly if its move does.
    have moved := (step_move bench next).phase_of_held held
    cases operation <;> cases asked <;> exact moved
  | unheard | release => exact ⟨held, (WorkerPhase.afterwards_none _).symm⟩
  | stop => exact (step_move bench .stop).phase_of_held held
  | drain calm =>
    -- The worker makes only moves of its own, none of which touches its phase.
    obtain ⟨own, each, same⟩ := drain_eq_moves Chore.exit? bench
    rw [same] at held ⊢
    obtain ⟨reached, phase⟩ := phase_moves_of_isOwn each held
    refine ⟨reached, phase.trans ?_⟩
    cases going : bench.phase with
    | stopping => exact absurd going calm
    | working | ended => rfl

/-- Something that happens to a bench. -/
inductive Happening where
  /-- An operation is carried out from its beginning to its end. -/
  | whole (operation : Operation)
  /-- A move is made, be it in the midst of an operation. -/
  | single (move : WorkerMove Chore)
  deriving DecidableEq

namespace Happening

/-- The worker is told to stop. -/
def aborts : Happening → Bool
  | .whole operation => operation = .abort
  | .single move => move.aborts

/-- The worker stops if it has been told to. -/
def stops : Happening → Bool
  | .whole operation => operation = .settle
  | .single move => move.stops

end Happening

/-- Lets something happen to a bench, and tells what it did to the jobs. -/
def happen (bench : Bench) : Happening → Bench × List (JobEvent Chore)
  | .whole operation =>
    let (after, report) := perform bench operation
    (after, operation.events report)
  | .single move => bench.move move

/-- Lets one thing after another happen to a bench, and tells what all of them did to the jobs. -/
def happenAll (bench : Bench) : List Happening → Bench × List (JobEvent Chore)
  | [] => (bench, [])
  | first :: rest =>
    let (bench, events) := happen bench first
    let (bench, more) := happenAll bench rest
    (bench, events ++ more)

/-- What happens last happens to the bench that all before has led to. -/
theorem happenAll_concat (bench : Bench) (happenings : List Happening) (last : Happening) :
    happenAll bench (happenings ++ [last]) =
      ((happen (happenAll bench happenings).1 last).1,
        (happenAll bench happenings).2 ++ (happen (happenAll bench happenings).1 last).2) := by
  -- The bench is general, for the later happenings start from where the first one leaves it.
  induction happenings generalizing bench with
  | nil => simp [happenAll]
  | cons first rest ih => simp only [List.cons_append, happenAll, ih, List.append_assoc]

/-- Operations that are carried out one after another are such happenings. -/
theorem happenAll_whole (bench : Bench) (operations : List Operation) :
    happenAll bench (operations.map .whole) =
      ((performAll bench operations).1, history operations (performAll bench operations).2) := by
  -- A report says of a whole operation what has happened in it, and nothing else is told.
  induction operations generalizing bench with
  | nil => rfl
  | cons first rest ih => simp [happenAll, happen, ih, performAll, history]

/-- The worker has been told to stop, and has got to it since. -/
def HasStopped (happenings : List Happening) : Prop :=
  ∃ told came, told.aborts = true ∧ came.stops = true ∧ [told, came].Sublist happenings

/-- It has got to it in the end if it had before, or if it gets to it now. -/
theorem hasStopped_concat (happenings : List Happening) (last : Happening) :
    HasStopped (happenings ++ [last]) ↔
      HasStopped happenings ∨
        (last.stops = true ∧ ∃ told ∈ happenings, told.aborts = true) := by
  -- The pair that shows it is either there before, or its second part is the last happening.
  simp only [HasStopped, pair_sublist_concat]
  constructor
  · rintro ⟨told, came, aborts, stops, before | ⟨member, rfl⟩⟩
    · exact Or.inl ⟨told, came, aborts, stops, before⟩
    · exact Or.inr ⟨stops, told, member, aborts⟩
  · rintro (⟨told, came, aborts, stops, before⟩ | ⟨stops, told, member, aborts⟩)
    · exact ⟨told, came, aborts, stops, Or.inl before⟩
    · exact ⟨told, last, aborts, stops, Or.inr ⟨member, rfl⟩⟩

/-- Whatever happens to a bench, it keeps to its limits and its jobs are accounted for. -/
theorem sound_happen (sound : bench.Sound limits events) (happening : Happening) :
    (happen bench happening).1.Sound limits (events ++ (happen bench happening).2) := by
  -- A single move is a run of moves with one in it.
  cases happening with
  | single move => simpa [moves, happen] using sound.moves [move]
  | whole operation => exact (course_perform bench operation).sound sound

/-- A bench that is held after something was held before it, and this has only done to its phase
what telling it to stop does, or letting it stop. -/
theorem phase_happen {happening : Happening} (held : (happen bench happening).1.held = true) :
    bench.held = true ∧
      (happen bench happening).1.phase =
        bench.phase.afterwards happening.aborts happening.stops := by
  -- Both kinds come down to steps, for which this has been shown.
  cases happening with
  | single move => exact (step_move bench move).phase_of_held held
  | whole operation => exact (course_perform bench operation).phase_of_held held

/-- As long as somebody holds a bench, its phase tells whether it has been told to stop, and whether
it has got to it. -/
theorem phase_happenAll (limits : WorkerLimits) (happenings : List Happening)
    (held : (happenAll (spawn limits) happenings).1.held = true) :
    ((happenAll (spawn limits) happenings).1.phase ≠ .working ↔
        ∃ told ∈ happenings, told.aborts = true) ∧
      ((happenAll (spawn limits) happenings).1.phase = .ended ↔ HasStopped happenings) := by
  -- The last thing to happen decides from what all before has led to.
  induction happenings using List.reverseRecOn with
  | nil => simp [happenAll, spawn, HasStopped]
  | append_singleton happenings last ih =>
    rw [happenAll_concat] at held ⊢
    obtain ⟨held, phase⟩ := phase_happen held
    obtain ⟨told, stopped⟩ := ih held
    -- It has been told at last if it had been before, or if this tells it.
    have toldNow : (∃ told ∈ happenings ++ [last], told.aborts = true) ↔
        (∃ told ∈ happenings, told.aborts = true) ∨ last.aborts = true := by
      simp [or_and_right, exists_or]
    rw [phase, WorkerPhase.afterwards_ne_working, WorkerPhase.afterwards_eq_ended,
      hasStopped_concat, toldNow, told, stopped]
    exact ⟨Iff.rfl, Iff.rfl⟩

/-- Whatever happens to a bench, it is sound afterwards. -/
theorem sound_happenAll (limits : WorkerLimits) (happenings : List Happening) :
    (happenAll (spawn limits) happenings).1.Sound limits
      (happenAll (spawn limits) happenings).2 := by
  -- Both the limits and the accounts are carried from one happening to the next.
  induction happenings using List.reverseRecOn with
  | nil => exact ⟨withinLimits_spawn limits, accounts_spawn limits⟩
  | append_singleton happenings last ih =>
    rw [happenAll_concat]
    exact sound_happen ih last

/-- Whatever is done to a bench, in whole operations or in the midst of them, and however its jobs
end: it runs at most as many jobs at once as it may, its queue holds at most as many as it may,
every slot is free or taken, and the jobs accepted that have not come to their end are no more than
fit in queue, slots and hand. As long as somebody holds the worker, it has ended exactly if it has
been told to stop and has got to it since, and a job is accepted exactly if it has not ended and
there is room in the queue. -/
theorem keeps_to_limits (limits : WorkerLimits) (happenings : List Happening) :
    let bench := (happenAll (spawn limits) happenings).1
    let events := (happenAll (spawn limits) happenings).2
    bench.running.length ≤ max limits.concurrency 1 ∧
      bench.queue.length ≤ max limits.capacity 1 ∧
      bench.running.length + bench.free = max limits.concurrency 1 ∧
      (accepted events).length ≤
        (left events).length + (max limits.capacity 1 + max limits.concurrency 1 + 1) ∧
      (bench.held = true →
        (bench.phase = .ended ↔ HasStopped happenings) ∧
          ∀ chore, (perform bench (.submit chore)).2 = .submitted true ↔
            bench.phase ≠ .ended ∧ bench.queue.length < max limits.capacity 1) := by
  intro bench events
  have sound : bench.Sound limits events := sound_happenAll limits happenings
  obtain ⟨within, accounts⟩ := sound
  -- A slot is taken or free, so no more jobs run than there are slots.
  have slots := within.slots.trans within.concurrency
  refine ⟨by omega, within.capacity ▸ within.queued, slots, accounts.accepted_le within,
    fun held => ⟨(phase_happenAll limits happenings held).2, fun chore => ?_⟩⟩
  -- What the worker can take in is asked of the worker that is held.
  rw [← within.capacity]
  simp [perform, held, accepts_iff]

/-- A bench for one job at a time, with room for one more. Its first job crashes, and its slot is
free for the second; with the third in the hand and the fourth in the queue, a fifth is refused. The
worker has been told to stop, but has not got to it. -/
theorem keeps_to_limits_crash :
    let happenings : List Happening :=
      [.whole (.submit ⟨"a", false, true⟩), .whole .settle, .whole (.submit ⟨"b", true, false⟩),
        .single .take, .single .start, .whole (.submit ⟨"c", false, false⟩), .single .take,
        .whole .abort, .whole (.submit ⟨"d", false, false⟩)]
    let bench := (happenAll (spawn ⟨0, 1⟩) happenings).1
    bench.held = true ∧ bench.running.length + bench.free = 1 ∧ bench.queue.length = 1 ∧
      ¬HasStopped happenings ∧
      (perform bench (.submit ⟨"e", false, false⟩)).2 ≠ .submitted true := by
  intro happenings bench
  -- The state the worker is left in can be computed; what follows from it is the theorem.
  have held : bench.held = true := by decide +kernel
  have queued : bench.queue.length = 1 := by decide +kernel
  have goesOn : bench.phase ≠ .ended := by decide +kernel
  obtain ⟨-, -, slots, -, reached⟩ := keeps_to_limits ⟨0, 1⟩ happenings
  obtain ⟨stopped, accepts⟩ := reached held
  refine ⟨held, slots, queued, mt stopped.mpr goesOn, fun accepted => ?_⟩
  have room : bench.queue.length < 1 := ((accepts _).mp accepted).2
  -- A job that is accepted needs room, and the only place is taken.
  omega

end Bench

end Tollgate
