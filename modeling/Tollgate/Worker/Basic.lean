/-!
A worker that carries out jobs behind the back of those who submit them. Its queue is bounded, and
so is the number of jobs it runs at once; between the two it holds at most one job in its hand,
taken from the queue but still without a slot to run in.
-/

namespace Tollgate

/-- How much a worker takes on. -/
structure WorkerLimits where
  /-- How many jobs its queue holds. -/
  capacity : Nat
  /-- How many jobs it runs at once. -/
  concurrency : Nat
  deriving DecidableEq

/-- The limits of a worker unless others are given. -/
def WorkerLimits.standard : WorkerLimits := ⟨1024, 16⟩

/-- How far the end of a worker has come. -/
inductive WorkerPhase where
  /-- It goes on. -/
  | working
  /-- It has been told to stop, and will when it gets to it. -/
  | stopping
  /-- It is gone. -/
  | ended
  deriving DecidableEq

/-- A worker with what it has accepted and not yet finished. -/
structure Worker (Job : Type) where
  /-- How many jobs the queue holds. -/
  capacity : Nat
  /-- How many slots there are for jobs to run in. -/
  concurrency : Nat
  /-- How many of the slots are free. -/
  free : Nat
  /-- Jobs not yet taken up, the next one first. -/
  queue : List Job
  /-- A job taken from the queue that has no slot yet. -/
  hand : Option Job
  /-- Jobs that run, in the order they were started. -/
  running : List Job
  /-- Somebody can still submit jobs. -/
  held : Bool
  /-- How far its end has come. -/
  phase : WorkerPhase
  deriving DecidableEq

/-- How a job comes to its end. -/
inductive Exit where
  | completed
  | crashed
  deriving DecidableEq

/-- Something that happens to a job. -/
inductive JobEvent (Job : Type) where
  | accepted (job : Job)
  | refused (job : Job)
  | started (job : Job)
  | left (job : Job) (exit : Exit)
  deriving DecidableEq

/-- A single step of a worker or of those who deal with it. -/
inductive WorkerMove (Job : Type) where
  /-- A job is submitted. -/
  | submit (job : Job)
  /-- The worker takes the next job from its queue. -/
  | take
  /-- The job in the worker's hand gets a slot. -/
  | start
  /-- A running job comes to its end. -/
  | leave (position : Nat) (exit : Exit)
  /-- Nobody will submit any more jobs. -/
  | drop
  /-- The worker is told to stop. -/
  | abort
  /-- The worker stops as it has been told, with all its jobs. -/
  | stop
  /-- The worker ends for want of anything more to do. -/
  | close
  deriving DecidableEq

namespace Worker

variable {Job : Type}

/-- A worker with nothing to do yet, which holds and runs at least one job. -/
def spawn (limits : WorkerLimits) : Worker Job where
  -- Limits of nothing would leave a worker that could never do anything.
  capacity := max limits.capacity 1
  concurrency := max limits.concurrency 1
  free := max limits.concurrency 1
  queue := []
  hand := none
  running := []
  held := true
  phase := .working

/-- The worker with every one of its jobs changed, and each where it was. -/
def mapJobs (change : Job → Job) (worker : Worker Job) : Worker Job :=
  { worker with
    queue := worker.queue.map change
    hand := worker.hand.map change
    running := worker.running.map change }

/-- A job submitted now is accepted. -/
def accepts (worker : Worker Job) : Bool :=
  -- The job in the hand is out of the queue, and takes up none of its places.
  worker.held && worker.phase ≠ .ended && worker.queue.length < worker.capacity

/-- Nothing is left to do, and nothing can come. -/
def isDrained (worker : Worker Job) : Bool :=
  !worker.held && worker.queue.isEmpty && worker.hand.isNone && worker.running.isEmpty

/-- Makes a move, and tells what it did to the jobs; a move that cannot be made changes nothing. -/
def move (worker : Worker Job) : WorkerMove Job → Worker Job × List (JobEvent Job)
  | .submit job =>
    if worker.accepts then ({ worker with queue := worker.queue ++ [job] }, [.accepted job])
    else (worker, [.refused job])
  | .take =>
    -- A job is taken whether or not there is a slot for it, as long as the hand is empty.
    match worker.phase, worker.hand, worker.queue with
    | .working, none, job :: rest => ({ worker with queue := rest, hand := some job }, [])
    | _, _, _ => (worker, [])
  | .start =>
    match worker.phase, worker.hand, worker.free with
    | .working, some job, free + 1 =>
      ({ worker with hand := none, free, running := worker.running ++ [job] }, [.started job])
    | _, _, _ => (worker, [])
  | .leave position exit =>
    match worker.running[position]? with
    | some job =>
      -- However a job ends, its slot is free again.
      ({ worker with running := worker.running.eraseIdx position, free := worker.free + 1 },
        [.left job exit])
    | none => (worker, [])
  | .drop => ({ worker with held := false }, [])
  -- Whoever tells a worker to stop does not wait for it; it still accepts jobs until it does.
  | .abort =>
    match worker.phase with
    | .working => ({ worker with phase := .stopping }, [])
    | _ => (worker, [])
  | .stop =>
    match worker.phase with
    | .stopping =>
      -- What waits and what runs goes with the worker, and all slots are free.
      ({ worker with
          queue := [], hand := none, running := [], free := worker.concurrency, phase := .ended },
        [])
    | _ => (worker, [])
  | .close =>
    match worker.phase with
    | .working => if worker.isDrained then ({ worker with phase := .ended }, []) else (worker, [])
    | _ => (worker, [])

/-- Makes moves in a row, and tells what all of them did to the jobs. -/
def moves (worker : Worker Job) : List (WorkerMove Job) → Worker Job × List (JobEvent Job)
  | [] => (worker, [])
  | first :: rest =>
    let (worker, events) := worker.move first
    let (worker, more) := worker.moves rest
    (worker, events ++ more)

end Worker

end Tollgate
