import Tollgate.Proofs.Worker.Moves

/-!
Jobs on their way through a worker. Until it is started, a job waits in the queue or in the hand of
the worker; a worker that is left to itself starts all that wait, in the order they were accepted.
-/

namespace Tollgate

/-- The job whose start an event tells of. -/
def JobEvent.started? {Job : Type} : JobEvent Job → Option Job
  | .started job => some job
  | _ => none

namespace Worker

variable {Job : Type} {worker : Worker Job} {exit? : Job → Option Exit}

/-- The jobs that have been accepted and not yet started, the next one first. -/
def waiting (worker : Worker Job) : List Job :=
  worker.hand.toList ++ worker.queue

/-- A job that is accepted waits behind all others; one that is refused does not wait at all. -/
theorem waiting_submit (worker : Worker Job) (job : Job) :
    (worker.move (.submit job)).1.waiting =
      if worker.accepts then worker.waiting ++ [job] else worker.waiting := by
  -- A job that is accepted is put at the end of the queue.
  cases accepted : worker.accepts with
  | false => simp [move, accepted]
  | true => simp [move, accepted, waiting]

/-- A worker that goes on but has nothing to do by itself: none of its jobs can come to an end, none
waits for a slot that is free, and it has jobs or may still be given some. -/
theorem blocked_of_nextMove?_none (working : worker.phase = .working)
    (halts : worker.nextMove? exit? = none) :
    (∀ job ∈ worker.running, exit? job = none) ∧
      (worker.waiting = [] ∨ worker.free = 0) ∧ worker.isDrained = false := by
  unfold nextMove? at halts
  -- The moves are tried in their order, and none of them can be made.
  simp only [working] at halts
  split at halts
  · simp at halts
  · rename_i noExit
    refine ⟨exit?_of_firstExit?_none noExit, ?_⟩
    -- With a job in the hand there is no slot for it; without, there is none in the queue either.
    cases inHand : worker.hand with
    | some job =>
      have full : worker.free = 0 := by simpa [inHand] using halts
      exact ⟨Or.inr full, by simp [isDrained, inHand]⟩
    | none =>
      have queued : worker.queue = [] := by
        cases queued : worker.queue with
        | nil => rfl
        | cons job rest => simp [inHand, queued] at halts
      refine ⟨Or.inl (by simp [waiting, inHand, queued]), ?_⟩
      -- With nothing in hand or queue, it would have come to its end if it were drained.
      simpa [inHand, queued] using halts

/-- The worker goes on, others may still submit jobs, and it has slots for them to run in. -/
structure Open (worker : Worker Job) : Prop where
  working : worker.phase = .working
  held : worker.held = true
  slots : 0 < worker.free + worker.running.length

/-- A worker that has just been started is open. -/
theorem open_spawn (limits : WorkerLimits) : (spawn limits : Worker Job).Open where
  working := rfl
  held := rfl
  slots := by
    show 0 < max limits.concurrency 1 + 0
    omega

/-- Submitting a job leaves a worker open, whether or not it is accepted. -/
theorem Open.submit (isOpen : worker.Open) (job : Job) : (worker.move (.submit job)).1.Open := by
  simp only [move]
  -- The queue plays no part in being open.
  split
  · exact ⟨isOpen.working, isOpen.held, isOpen.slots⟩
  · exact isOpen

/-- An open worker has done all it can only when no job waits and none runs. -/
theorem Open.idle (isOpen : worker.Open)
    (halts : worker.nextMove? (fun _ => some .completed) = none) :
    worker.hand = none ∧ worker.queue = [] ∧ worker.running = [] := by
  -- Every job that runs could come to its end, so none runs.
  obtain ⟨blocked, starved, -⟩ := blocked_of_nextMove?_none isOpen.working halts
  have idle : worker.running = [] :=
    List.eq_nil_iff_forall_not_mem.mpr fun job runs => nomatch blocked job runs
  -- With nothing running, all slots are free, so no job waits for one.
  have slots : 0 < worker.free := by simpa [idle] using isOpen.slots
  obtain ⟨inHand, queued⟩ := List.append_eq_nil_iff.mp (starved.resolve_right (by omega))
  exact ⟨Option.toList_eq_nil_iff.mp inHand, queued, idle⟩

/-- What an open worker does next where all jobs can be completed: it lets the first one that runs
come to its end, or starts the one in its hand, or takes one in its hand. -/
theorem Open.next_cases (isOpen : worker.Open) {next : WorkerMove Job}
    (chosen : worker.nextMove? (fun _ => some .completed) = some next) :
    (∃ job rest, worker.running = job :: rest ∧ worker.move next =
      ({ worker with running := rest, free := worker.free + 1 }, [.left job .completed])) ∨
    (∃ job free, worker.running = [] ∧ worker.hand = some job ∧ worker.free = free + 1 ∧
      worker.move next = ({ worker with hand := none, free, running := [job] }, [.started job])) ∨
    ∃ job rest, worker.running = [] ∧ worker.hand = none ∧ worker.queue = job :: rest ∧
      worker.move next = ({ worker with queue := rest, hand := some job }, []) := by
  obtain ⟨capacity, concurrency, free, queue, hand, running, held, phase⟩ := worker
  obtain ⟨rfl, rfl, slots⟩ := isOpen
  -- The cases are those of the choice: a job that runs comes first, then the hand, then the queue.
  cases running with
  | cons job rest =>
    obtain rfl : next = .leave 0 .completed := by simpa [nextMove?, firstExit?] using chosen.symm
    exact Or.inl ⟨job, rest, rfl, rfl⟩
  | nil =>
    -- With nothing running, there is a slot.
    obtain ⟨fewer, rfl⟩ : ∃ fewer, free = fewer + 1 :=
      Nat.exists_eq_succ_of_ne_zero (Nat.ne_of_gt (by simpa using slots))
    cases hand with
    | some job =>
      obtain rfl : next = .start := by simpa [nextMove?, firstExit?] using chosen.symm
      exact Or.inr (Or.inl ⟨job, fewer, rfl, rfl, rfl, rfl⟩)
    | none =>
      cases queue with
      -- An open worker is held by somebody, so it is not drained.
      | nil => simp [nextMove?, firstExit?, isDrained] at chosen
      | cons job rest =>
        obtain rfl : next = .take := by simpa [nextMove?, firstExit?] using chosen.symm
        exact Or.inr (Or.inr ⟨job, rest, rfl, rfl, rfl, rfl⟩)

/-- An open worker stays open whatever it does next, and a job waits no longer once it is
started. -/
theorem Open.next (isOpen : worker.Open) {next : WorkerMove Job}
    (chosen : worker.nextMove? (fun _ => some .completed) = some next) :
    (worker.move next).1.Open ∧
      worker.waiting =
        (worker.move next).2.filterMap (·.started?) ++ (worker.move next).1.waiting := by
  have moves := isOpen.next_cases chosen
  obtain ⟨working, held, slots⟩ := isOpen
  rcases moves with
    ⟨job, rest, runs, moved⟩ | ⟨job, free, idle, inHand, counted, moved⟩ |
      ⟨job, rest, idle, empty, queued, moved⟩ <;> rw [moved]
  · -- The slot of the job is free again.
    refine ⟨⟨working, held, ?_⟩, rfl⟩
    show 0 < worker.free + 1 + rest.length
    omega
  · -- The job in the hand gets the slot, and is the one that has waited longest.
    refine ⟨⟨working, held, ?_⟩, by simp [waiting, inHand, JobEvent.started?]⟩
    show 0 < free + 1
    omega
  · -- The job waits in the hand instead of the queue.
    refine ⟨⟨working, held, ?_⟩, by simp [waiting, empty, queued]⟩
    exact slots

/-- An open worker that is left to itself starts all jobs that wait, in their order, and then has
none left. -/
theorem Open.drain (isOpen : worker.Open) :
    (worker.drain fun _ => some .completed).1.Open ∧
      (worker.drain fun _ => some .completed).1.waiting = [] ∧
      (worker.drain fun _ => some .completed).1.running = [] ∧
      (worker.drain fun _ => some .completed).2.filterMap (·.started?) = worker.waiting := by
  -- Each move of the worker leaves it fewer moves to make, and hands on what still waits.
  induction worker using Worker.drain.induct (fun _ => some .completed) with
  | case1 worker chosen =>
    -- There is no move left, so nobody waits.
    obtain ⟨empty, queued, idle⟩ := isOpen.idle chosen
    rw [drain_of_none chosen]
    refine ⟨isOpen, ?_, idle, ?_⟩ <;> simp [waiting, empty, queued]
  | case2 worker next chosen shorter settled more rest ih =>
    -- One move, and then the rest by induction.
    obtain ⟨stillOpen, parted⟩ := isOpen.next chosen
    obtain ⟨finallyOpen, nothing, idle, started⟩ := ih stillOpen
    rw [drain_of_some chosen]
    refine ⟨finallyOpen, nothing, idle, ?_⟩
    rw [List.filterMap_append, started, parted]

/-- An open worker that settles is left with nothing to do, having started all jobs that waited, in
their order. -/
theorem Open.settle (isOpen : worker.Open) :
    (worker.settle fun _ => some .completed).1.Open ∧
      (worker.settle fun _ => some .completed).1.waiting = [] ∧
      (worker.settle fun _ => some .completed).1.running = [] ∧
      (worker.settle fun _ => some .completed).2.filterMap (·.started?) = worker.waiting := by
  rw [settle_of_not_stopping (by simp [isOpen.working])]
  exact isOpen.drain

end Worker

end Tollgate
