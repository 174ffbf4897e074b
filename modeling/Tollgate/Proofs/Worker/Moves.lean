import Tollgate.Worker.Settle

/-!
What a single move can do to a worker and to its jobs, and the moves of a worker that is left to
itself. A law of workers is shown for a single move and carried on from there.
-/

namespace Tollgate

/-- The move is one that a worker makes by itself as long as it goes on. -/
def WorkerMove.isOwn {Job : Type} : WorkerMove Job → Bool
  | .take | .start | .leave _ _ | .close => true
  | .submit _ | .drop | .abort | .stop => false

namespace Worker

variable {Job : Type} {worker after : Worker Job} {exit? : Job → Option Exit}

/-- What a move can do to a worker: what the worker is like afterwards, and what has happened to
its jobs. -/
inductive Step (worker : Worker Job) :
    WorkerMove Job → Worker Job → List (JobEvent Job) → Prop where
  /-- The worker cannot make the move. -/
  | idle {move : WorkerMove Job} (own : move.isOwn = true) : Step worker move worker []
  /-- A job is put into the queue. -/
  | accept (job : Job) (accepts : worker.accepts = true) :
    Step worker (.submit job) { worker with queue := worker.queue ++ [job] } [.accepted job]
  /-- A job is sent away. -/
  | refuse (job : Job) (accepts : worker.accepts = false) :
    Step worker (.submit job) worker [.refused job]
  /-- The first job of the queue is taken in hand. -/
  | take {job : Job} {rest : List Job} (working : worker.phase = .working)
    (empty : worker.hand = none) (queued : worker.queue = job :: rest) :
    Step worker .take { worker with queue := rest, hand := some job } []
  /-- The job in the hand gets a slot. -/
  | start {job : Job} {free : Nat} (working : worker.phase = .working)
    (inHand : worker.hand = some job) (slots : worker.free = free + 1) :
    Step worker .start { worker with hand := none, free, running := worker.running ++ [job] }
      [.started job]
  /-- A job that runs comes to its end. -/
  | leave {position : Nat} {job : Job} (exit : Exit) (runs : worker.running[position]? = some job) :
    Step worker (.leave position exit)
      { worker with running := worker.running.eraseIdx position, free := worker.free + 1 }
      [.left job exit]
  /-- Nobody holds the worker any more. -/
  | drop : Step worker .drop { worker with held := false } []
  /-- The worker is told to stop. -/
  | abort (working : worker.phase = .working) :
    Step worker .abort { worker with phase := .stopping } []
  /-- The worker has been told to stop already, or has ended. -/
  | abortAgain (told : worker.phase ≠ .working) : Step worker .abort worker []
  /-- The worker stops, and its jobs with it. -/
  | stop (stopping : worker.phase = .stopping) :
    Step worker .stop
      { worker with
        queue := [], hand := none, running := [], free := worker.concurrency, phase := .ended } []
  /-- The worker has not been told to stop, or has ended. -/
  | stopUntold (untold : worker.phase ≠ .stopping) : Step worker .stop worker []
  /-- The worker has nothing left to do. -/
  | close (working : worker.phase = .working) (drained : worker.isDrained = true) :
    Step worker .close { worker with phase := .ended } []

/-- Every move does one of these things. -/
theorem step_move (worker : Worker Job) (next : WorkerMove Job) :
    worker.Step next (worker.move next).1 (worker.move next).2 := by
  -- The conditions of the move are those of the step that it turns out to be.
  cases next with
  | submit job =>
    simp only [move]
    split
    · exact .accept job ‹_›
    · exact .refuse job (Bool.not_eq_true _ ▸ ‹¬_›)
  | take =>
    simp only [move]
    split
    · exact .take ‹_› ‹_› ‹_›
    · exact .idle rfl
  | start =>
    simp only [move]
    split
    · exact .start ‹_› ‹_› ‹_›
    · exact .idle rfl
  | leave position exit =>
    simp only [move]
    split
    · exact .leave exit ‹_›
    · exact .idle rfl
  | drop => exact .drop
  | abort =>
    simp only [move]
    split
    · exact .abort ‹_›
    · exact .abortAgain ‹_›
  | stop =>
    simp only [move]
    split
    · exact .stop ‹_›
    · exact .stopUntold ‹_›
  | close =>
    simp only [move]
    split
    · split
      · exact .close ‹_› ‹_›
      · exact .idle rfl
    · exact .idle rfl

/-- A law that none of the moves breaks holds after all of them. -/
theorem moves_keep {moves : List (WorkerMove Job)} (events : List (JobEvent Job))
    (Law : List (JobEvent Job) → Worker Job → Prop)
    (step : ∀ next ∈ moves, ∀ worker after events more, Step worker next after more →
      Law events worker → Law (events ++ more) after)
    (law : Law events worker) :
    Law (events ++ (worker.moves moves).2) (worker.moves moves).1 := by
  -- The law speaks of all that has happened so far, which grows at its end.
  induction moves generalizing worker events with
  | nil => rwa [Worker.moves, List.append_nil]
  | cons next rest ih =>
    -- The first move is a step, after which the law holds of what has happened up to there.
    have first := step next List.mem_cons_self _ _ _ _ (step_move worker next) law
    simpa only [Worker.moves, List.append_assoc] using
      ih _ (fun other later => step other (List.mem_cons_of_mem next later)) first

/-- The first job that can come to its end has its place among the jobs, and comes to that end. -/
theorem exit?_of_firstExit? {jobs : List Job} {position : Nat} {exit : Exit}
    (found : firstExit? exit? jobs = some (position, exit)) :
    ∃ job, jobs[position]? = some job ∧ exit? job = some exit := by
  -- The place is counted up by one for every job passed over.
  induction jobs generalizing position with
  | nil => simp [firstExit?] at found
  | cons job rest ih =>
    unfold firstExit? at found
    split at found
    · rename_i first
      simp only [Option.some.injEq, Prod.mk.injEq] at found
      obtain ⟨rfl, rfl⟩ := found
      exact ⟨job, rfl, first⟩
    · obtain ⟨⟨inner, last⟩, located, same⟩ := Option.map_eq_some_iff.mp found
      simp only [Prod.mk.injEq] at same
      obtain ⟨rfl, rfl⟩ := same
      simpa using ih located

/-- No job can come to its end if none is found that can. -/
theorem exit?_of_firstExit?_none {jobs : List Job} (unable : firstExit? exit? jobs = none) :
    ∀ job ∈ jobs, exit? job = none := by
  -- A job that could come to its end would have been found when it was passed over.
  induction jobs with
  | nil => simp
  | cons job rest ih =>
    unfold firstExit? at unable
    split at unable
    · simp at unable
    · rename_i first
      intro other member
      rcases List.mem_cons.mp member with rfl | later
      · exact first
      · exact ih (Option.map_eq_none_iff.mp unable) other later

/-- Only a worker that goes on moves by itself, by moves of its own, and it lets a job leave only
when it can come to its end. -/
theorem own_of_nextMove? {next : WorkerMove Job} (chosen : worker.nextMove? exit? = some next) :
    worker.phase = .working ∧ next.isOwn = true ∧
      ∀ position exit, next = .leave position exit →
        ∃ job, worker.running[position]? = some job ∧ exit? job = some exit := by
  unfold nextMove? at chosen
  split at chosen
  · rename_i working
    refine ⟨working, ?_⟩
    -- Jobs that can come to their end are let go before anything else is done.
    split at chosen
    · rename_i position exit located
      obtain rfl := Option.some.inj chosen
      refine ⟨rfl, fun _ _ same => ?_⟩
      cases same
      exact exit?_of_firstExit? located
    · -- What it does instead is to start a job, to take one, or to end.
      split at chosen <;> split at chosen <;> try split at chosen
      all_goals simp at chosen
      all_goals subst chosen; simp [WorkerMove.isOwn]
  · simp at chosen

/-- A worker that has nothing to do by itself stays as it is. -/
theorem drain_of_none (chosen : worker.nextMove? exit? = none) :
    worker.drain exit? = (worker, []) := by
  rw [drain]
  split
  · rfl
  · -- The worker has been found to have nothing to do, so there is no next move.
    rename_i next found
    rw [chosen] at found
    cases found

/-- A worker that is left to itself makes its next move and goes on from there. -/
theorem drain_of_some {next : WorkerMove Job} (chosen : worker.nextMove? exit? = some next) :
    worker.drain exit? =
      (((worker.move next).1.drain exit?).1,
        (worker.move next).2 ++ ((worker.move next).1.drain exit?).2) := by
  rw [drain]
  split
  · -- The move that is made next is the one that was chosen, as there is only one.
    rename_i found
    rw [chosen] at found
    cases found
  · rename_i other found
    obtain rfl := Option.some.inj (chosen.symm.trans found)
    rfl

/-- A worker that is left to itself makes moves of its own. -/
theorem drain_eq_moves (exit? : Job → Option Exit) (worker : Worker Job) :
    ∃ own : List (WorkerMove Job),
      (∀ next ∈ own, next.isOwn = true) ∧ worker.drain exit? = worker.moves own := by
  -- The induction is on the moves that are made until there is none left to make.
  induction worker using Worker.drain.induct exit? with
  | case1 worker chosen => exact ⟨[], by simp, drain_of_none chosen⟩
  | case2 worker next chosen shorter settled more rest ih =>
    obtain ⟨own, each, same⟩ := ih
    refine ⟨next :: own, ?_, ?_⟩
    · rintro other (_ | ⟨_, member⟩)
      · exact (own_of_nextMove? chosen).2.1
      · exact each other member
    · rw [drain_of_some chosen, same]
      rfl

/-- A worker that has been left to itself has nothing more to do. -/
theorem nextMove?_drain (exit? : Job → Option Exit) (worker : Worker Job) :
    (worker.drain exit?).1.nextMove? exit? = none := by
  -- The last of these workers is one that has no next move, and the others lead to it.
  induction worker using Worker.drain.induct exit? with
  | case1 worker chosen => rwa [drain_of_none chosen]
  | case2 worker next chosen shorter settled more rest ih => rwa [drain_of_some chosen]

/-- A worker that has been told to stop does so when it settles. -/
theorem settle_of_stopping (stopping : worker.phase = .stopping) :
    worker.settle exit? = worker.move .stop := by
  simp only [settle, stopping]

/-- Unless it has been told to stop, a worker that settles is left to itself. -/
-- Stopping and being left to itself are the only two ways for a worker to settle.
theorem settle_of_not_stopping (calm : worker.phase ≠ .stopping) :
    worker.settle exit? = worker.drain exit? := by
  unfold settle
  split
  · exact absurd ‹_› calm
  · rfl

end Worker

end Tollgate
