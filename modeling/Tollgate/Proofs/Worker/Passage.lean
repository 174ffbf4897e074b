import Mathlib.Data.List.Perm.Basic
import Tollgate.Proofs.Worker.Moves
import Tollgate.Proofs.Worker.Settle

/-!
The way of jobs through a worker. As long as it is not told to stop, a worker starts the jobs it has
accepted in the order it has accepted them, and all of them are in the queue, in the hand, running
or at their end, each in one place.
-/

namespace Tollgate

variable {Job : Type}

namespace JobEvent

/-- The job whose acceptance an event tells of. -/
def accepted? : JobEvent Job → Option Job
  | .accepted job => some job
  | _ => none

/-- The job whose refusal an event tells of. -/
def refused? : JobEvent Job → Option Job
  | .refused job => some job
  | _ => none

/-- The job whose end an event tells of, and how it has ended. -/
def left? : JobEvent Job → Option (Job × Exit)
  | .left job exit => some (job, exit)
  | _ => none

end JobEvent

/-- The job that a move submits. -/
def WorkerMove.submitted? : WorkerMove Job → Option Job
  | .submit job => some job
  | _ => none

namespace Worker

variable {worker before after : Worker Job} {events more : List (JobEvent Job)}

/-- The jobs accepted, in their order. -/
def accepted (events : List (JobEvent Job)) : List Job := events.filterMap (·.accepted?)

/-- The jobs refused, in their order. -/
def refused (events : List (JobEvent Job)) : List Job := events.filterMap (·.refused?)

/-- The jobs started, in their order. -/
def started (events : List (JobEvent Job)) : List Job := events.filterMap (·.started?)

/-- The jobs that have come to their end, and how, in the order they have. -/
def left (events : List (JobEvent Job)) : List (Job × Exit) := events.filterMap (·.left?)

/-- The jobs submitted, in their order. -/
def submitted (moves : List (WorkerMove Job)) : List Job := moves.filterMap (·.submitted?)

@[simp] theorem accepted_append (events more : List (JobEvent Job)) :
    accepted (events ++ more) = accepted events ++ accepted more := List.filterMap_append

@[simp] theorem refused_append (events more : List (JobEvent Job)) :
    refused (events ++ more) = refused events ++ refused more := List.filterMap_append

@[simp] theorem started_append (events more : List (JobEvent Job)) :
    started (events ++ more) = started events ++ started more := List.filterMap_append

@[simp] theorem left_append (events more : List (JobEvent Job)) :
    left (events ++ more) = left events ++ left more := List.filterMap_append

/-- A worker is drained when nobody holds it and no job waits or runs. -/
theorem isDrained_iff (worker : Worker Job) :
    worker.isDrained = true ↔
      worker.held = false ∧ worker.waiting = [] ∧ worker.running = [] := by
  simp only [isDrained, waiting, Bool.and_eq_true, Bool.not_eq_true', List.isEmpty_iff,
    Option.isNone_iff_eq_none, List.append_eq_nil_iff, Option.toList_eq_nil_iff]
  -- The conditions are the same, in another order.
  tauto

/-- No job gets lost on the way from one state of a worker to another. -/
structure Conveys (before : Worker Job) (events : List (JobEvent Job)) (after : Worker Job) :
    Prop where
  /-- Those that waited, and those accepted behind them, have been started in this order or still
  wait. -/
  inOrder : before.waiting ++ accepted events = started events ++ after.waiting
  /-- Those that ran, and those started, have come to their end or still run. -/
  parted : (before.running ++ started events).Perm ((left events).map Prod.fst ++ after.running)

/-- Nothing gets lost where nothing happens. -/
theorem Conveys.refl (worker : Worker Job) : Conveys worker [] worker where
  inOrder := by simp [accepted, started]
  parted := by simp [started, left]

/-- Nothing gets lost on a way in two parts if nothing gets lost on either. -/
theorem Conveys.trans {middle : Worker Job} (first : Conveys before events middle)
    (second : Conveys middle more after) : Conveys before (events ++ more) after where
  inOrder := by
    -- What waits after the first part is what the second begins with.
    calc before.waiting ++ accepted (events ++ more)
        = (started events ++ middle.waiting) ++ accepted more := by
          rw [accepted_append, ← List.append_assoc, first.inOrder]
      _ = started (events ++ more) ++ after.waiting := by
          rw [List.append_assoc, second.inOrder, started_append, List.append_assoc]
  parted := by
    -- What runs after the first part is what the second begins with.
    have earlier := first.parted.append_right (started more)
    have later := second.parted.append_left ((left events).map Prod.fst)
    simp only [started_append, left_append, List.map_append, List.append_assoc] at *
    exact earlier.trans later

/-- A move loses no job, except where a worker stops as it has been told. -/
theorem Step.conveys {next : WorkerMove Job} (step : worker.Step next after events)
    (kept : worker.phase = .stopping → after.phase ≠ .ended) : Conveys worker events after := by
  cases step with
  -- The cases are those of a move: most leave the jobs in their places.
  | idle | abortAgain | stopUntold => exact .refl worker
  | accept job =>
    exact ⟨by simp [accepted, started, waiting, JobEvent.accepted?, JobEvent.started?],
      by simp [started, left, JobEvent.started?, JobEvent.left?]⟩
  | refuse job =>
    exact ⟨by simp [accepted, started, JobEvent.accepted?, JobEvent.started?],
      by simp [started, left, JobEvent.started?, JobEvent.left?]⟩
  | take _ empty queued =>
    exact ⟨by simp [accepted, started, waiting, empty, queued], by simp [started, left]⟩
  | start _ inHand =>
    exact ⟨by simp [accepted, started, waiting, inHand, JobEvent.accepted?, JobEvent.started?],
      by simp [started, left, JobEvent.started?, JobEvent.left?]⟩
  | @leave position job exit runs =>
    refine ⟨by simp [accepted, started, waiting, JobEvent.accepted?, JobEvent.started?], ?_⟩
    -- The job goes from among those that run to those that have ended.
    obtain ⟨bound, rfl⟩ := List.getElem?_eq_some_iff.mp runs
    simpa [started, left, JobEvent.started?, JobEvent.left?] using
      (List.getElem_cons_eraseIdx_perm bound).symm
  | drop => exact ⟨by simp [accepted, started, waiting], by simp [started, left]⟩
  | abort => exact ⟨by simp [accepted, started, waiting], by simp [started, left]⟩
  | stop stopping => exact absurd rfl (kept stopping)
  | close => exact ⟨by simp [accepted, started, waiting], by simp [started, left]⟩

/-- Only a worker that is told to stop comes to be about to stop. -/
theorem Step.phase_ne_stopping {next : WorkerMove Job} (step : worker.Step next after events)
    (calm : worker.phase ≠ .stopping) (other : next ≠ .abort) : after.phase ≠ .stopping := by
  cases step with
  -- Being told to stop is the one way there.
  | abort => exact absurd rfl other
  | stop | close => simp
  | _ => exact calm

/-- Moves among which the worker is not told to stop lose no job, and it is not about to stop
afterwards. -/
theorem conveys_moves (calm : worker.phase ≠ .stopping) {moves : List (WorkerMove Job)}
    (unstopped : .abort ∉ moves) :
    Conveys worker (worker.moves moves).2 (worker.moves moves).1 ∧
      (worker.moves moves).1.phase ≠ .stopping := by
  -- Only a worker about to stop loses jobs, so that it is not is carried along.
  refine moves_keep []
    (fun events after => Conveys worker events after ∧ after.phase ≠ .stopping) ?_
    ⟨.refl worker, calm⟩
  rintro next member before after events more step ⟨conveys, calm⟩
  exact ⟨conveys.trans (step.conveys fun stopping => absurd stopping calm),
    step.phase_ne_stopping calm fun told => unstopped (told ▸ member)⟩

/-- A move that submits a job has it accepted or refused, and no other move has any. -/
theorem Step.submitted {next : WorkerMove Job} (step : worker.Step next after events) :
    next.submitted?.toList = accepted events ++ refused events := by
  cases step with
  -- A submission is never idle, and no other move submits.
  | idle own =>
    cases next with
    | submit job => simp [WorkerMove.isOwn] at own
    | _ => rfl
  | _ => rfl

/-- Every job that is submitted is accepted or refused, and none besides. -/
theorem submitted_perm (worker : Worker Job) (moves : List (WorkerMove Job)) :
    (submitted moves).Perm
      (accepted (worker.moves moves).2 ++ refused (worker.moves moves).2) := by
  induction moves generalizing worker with
  -- By induction on the moves, the worker going on from where the first has left it.
  | nil => exact .refl []
  | cons next rest ih =>
    have first : submitted (next :: rest) = next.submitted?.toList ++ submitted rest := by
      cases submits : next.submitted? <;> simp [submitted, submits]
    rw [first, (step_move worker next).submitted]
    simp only [moves, accepted_append, refused_append, List.append_assoc]
    -- A job refused at first comes before those accepted later.
    have later := (ih (worker.move next).1).append_left (refused (worker.move next).2)
    exact (later.trans (List.perm_append_comm_assoc ..)).append_left _

/-- A worker that is never told to stop loses no job, starts none twice and keeps their order. At
every moment the jobs it has accepted are those it has started, then the one in its hand, then those
in its queue; a job that has been started has come to its end or runs; and where no job is submitted
twice, none is started twice, and none that has been refused. -/
theorem accepted_eq_started_append (limits : WorkerLimits) (moves : List (WorkerMove Job))
    (unstopped : .abort ∉ moves) :
    let worker := ((spawn limits).moves moves).1
    let events := ((spawn limits).moves moves).2
    accepted events = started events ++ worker.hand.toList ++ worker.queue ∧
      (started events).Perm ((left events).map Prod.fst ++ worker.running) ∧
      (submitted moves).Perm (accepted events ++ refused events) ∧
      ((submitted moves).Nodup →
        (started events).Nodup ∧ ∀ job ∈ refused events, job ∉ started events) := by
  intro worker events
  have calm : (spawn limits : Worker Job).phase ≠ .stopping := nofun
  obtain ⟨⟨inOrder, parted⟩, -⟩ := conveys_moves calm unstopped
  -- Nothing waits or runs at a worker that has just been started.
  have inOrder : accepted events = started events ++ worker.waiting := inOrder
  have parted : (started events).Perm ((left events).map Prod.fst ++ worker.running) := parted
  have submits : (submitted moves).Perm (accepted events ++ refused events) :=
    submitted_perm (spawn limits) moves
  refine ⟨by rw [inOrder, waiting, List.append_assoc], parted, submits, fun distinct => ?_⟩
  -- The jobs started are among those accepted, which are distinct from each other and from those
  -- refused.
  have distinct := submits.nodup_iff.mp distinct
  rw [inOrder] at distinct
  obtain ⟨acceptedOnce, -, apart⟩ := List.nodup_append.mp distinct
  refine ⟨(List.nodup_append.mp acceptedOnce).1, fun job sentAway starts => ?_⟩
  exact apart job (List.mem_append_left _ starts) job sentAway rfl

/-- A worker for one job at a time, with room for one more. The second job waits in its hand, the
third in its queue, and the fourth is refused. The first crashes after everybody has let go of the
worker, and the second starts in its place. -/
theorem accepted_eq_started_append_crash :
    let moves : List (WorkerMove Nat) :=
      [.submit 1, .take, .submit 2, .start, .take, .submit 3, .submit 4, .drop, .submit 5,
        .leave 0 .crashed, .start, .take]
    let worker := ((spawn ⟨1, 0⟩).moves moves).1
    let events := ((spawn ⟨1, 0⟩).moves moves).2
    .abort ∉ moves ∧ (submitted moves).Nodup ∧
      accepted events = [1, 2] ++ [3] ++ [] ∧ started events = [1, 2] ∧
      accepted events = started events ++ worker.hand.toList ++ worker.queue ∧
      (∀ job ∈ refused events, job ∉ started events) ∧ refused events = [4, 5] := by
  intro moves worker events
  -- The conditions hold of these moves, and the rest is read off the state they lead to.
  have unstopped : WorkerMove.abort ∉ moves := by decide
  have distinct : (submitted moves).Nodup := by decide
  obtain ⟨inOrder, -, -, once⟩ := accepted_eq_started_append ⟨1, 0⟩ moves unstopped
  exact ⟨unstopped, distinct, by decide, by decide, inOrder, (once distinct).2, by decide⟩

end Worker

end Tollgate
