import Tollgate.Worker.Basic

/-! A worker left to itself until nothing more can happen without help from outside. -/

namespace Tollgate.Worker

variable {Job : Type}

/-- The first job that can come to its end, as its place among the others and how it ends. -/
def firstExit? (exit? : Job → Option Exit) : List Job → Option (Nat × Exit)
  | [] => none
  | job :: rest =>
    match exit? job with
    | some exit => some (0, exit)
    | none => (firstExit? exit? rest).map fun (position, exit) => (position + 1, exit)

/-- A job that can come to its end has a place among the jobs. -/
theorem firstExit?_bounded {exit? : Job → Option Exit} {jobs : List Job} {position : Nat}
    {exit : Exit} (found : firstExit? exit? jobs = some (position, exit)) :
    position < jobs.length := by
  -- The place is counted up by one for every job passed over.
  induction jobs generalizing position with
  | nil => simp [firstExit?] at found
  | cons job rest ih =>
    unfold firstExit? at found
    split at found
    · simp only [Option.some.injEq, Prod.mk.injEq] at found
      simp [← found.1]
    · obtain ⟨inner, located, same⟩ := Option.map_eq_some_iff.mp found
      simp only [Prod.mk.injEq] at same
      have := @ih inner.1 (by rw [located, ← same.2])
      simp only [List.length_cons]
      omega

/-- The next move of a worker that goes on, if there is one: jobs end as soon as they can, a job
in the hand starts as soon as a slot is free, and an empty hand takes the next job. -/
def nextMove? (exit? : Job → Option Exit) (worker : Worker Job) : Option (WorkerMove Job) :=
  match worker.phase with
  | .working =>
    match firstExit? exit? worker.running with
    | some (position, exit) => some (.leave position exit)
    | none =>
      if worker.hand.isSome then if 0 < worker.free then some .start else none
      else if !worker.queue.isEmpty then some .take
      else if worker.isDrained then some .close
      else none
  | _ => none

/-- How many moves a worker can still make by itself. -/
def load (worker : Worker Job) : Nat :=
  3 * worker.queue.length + (if worker.hand.isSome then 2 else 0) + worker.running.length +
    if worker.phase = .ended then 0 else 1

/-- Every move of the worker leaves it fewer moves to make. -/
theorem load_move_lt {exit? : Job → Option Exit} {worker : Worker Job} {next : WorkerMove Job}
    (chosen : worker.nextMove? exit? = some next) : (worker.move next).1.load < worker.load := by
  -- A job loses weight on its way from the queue through the hand to a slot and out of it.
  unfold nextMove? at chosen
  split at chosen
  · rename_i working
    split at chosen
    · -- A job that ends is no longer running.
      rename_i position exit located
      have bounded := firstExit?_bounded located
      simp only [Option.some.injEq] at chosen
      subst chosen
      have found := List.getElem?_eq_getElem bounded
      simp only [move, found, load, List.length_eraseIdx, if_pos bounded]
      omega
    · split at chosen
      · rename_i holding
        split at chosen
        · -- A job that starts moves from the hand, which counts double, to a slot.
          rename_i slots
          simp only [Option.some.injEq] at chosen
          subst chosen
          obtain ⟨job, held⟩ := Option.isSome_iff_exists.mp holding
          obtain ⟨free, counted⟩ := Nat.exists_eq_succ_of_ne_zero (Nat.ne_of_gt slots)
          simp only [move, working, held, counted, load, List.length_append, List.length_cons,
            List.length_nil, Option.isSome_some, Option.isSome_none]
          simp
          omega
        · simp at chosen
      · rename_i empty
        have unhanded : worker.hand = none := by simpa using empty
        split at chosen
        · -- A job taken up moves from the queue, which counts three times, to the hand.
          rename_i waiting
          simp only [Option.some.injEq] at chosen
          subst chosen
          cases queued : worker.queue with
          | nil => simp [queued] at waiting
          | cons job rest =>
            simp only [move, working, unhanded, queued, load, List.length_cons, Option.isSome_some,
              Option.isSome_none]
            simp
            omega
        · split at chosen
          · -- The last move is to end.
            rename_i drained
            simp only [Option.some.injEq] at chosen
            subst chosen
            simp [move, working, drained, load]
          · simp at chosen
  · simp at chosen

/-- Makes the worker's own moves until there are none left. -/
def drain (exit? : Job → Option Exit) (worker : Worker Job) : Worker Job × List (JobEvent Job) :=
  match chosen : worker.nextMove? exit? with
  | none => (worker, [])
  | some next =>
    have := load_move_lt chosen
    let (settled, more) := drain exit? (worker.move next).1
    (settled, (worker.move next).2 ++ more)
termination_by worker.load

/-- Lets everything happen that can, given which jobs can come to their end and how; a worker that
has been told to stop does so first. -/
def settle (exit? : Job → Option Exit) (worker : Worker Job) :
    Worker Job × List (JobEvent Job) :=
  match worker.phase with
  | .stopping => worker.move .stop
  | _ => worker.drain exit?

end Tollgate.Worker
