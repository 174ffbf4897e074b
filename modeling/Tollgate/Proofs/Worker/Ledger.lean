import Tollgate.Proofs.Worker.Limits

/-!
The books of a bench that is never told to stop. What its reports tell is enough to say where every
job is: all that were accepted wait in their order, run or have come to their end, and those that
have been released since they were submitted are held up no longer.
-/

namespace Tollgate

namespace Worker

variable {Job : Type} {worker after : Worker Job} {exit? : Job → Option Exit}
  {events : List (JobEvent Job)} {next : WorkerMove Job}

/-- A worker is held as before unless it is let go of. -/
theorem Step.held_eq (step : worker.Step next after events) (other : next ≠ .drop) :
    after.held = worker.held := by
  cases step with
  | drop => exact absurd rfl other
  | _ => rfl

/-- By moves of its own a worker does not let go of itself. -/
theorem held_moves_of_isOwn {own : List (WorkerMove Job)}
    (each : ∀ next ∈ own, next.isOwn = true) : (worker.moves own).1.held = worker.held := by
  -- Being held is a law that none of these moves touches.
  refine moves_keep [] (fun _ after => after.held = worker.held) ?_ rfl
  rintro next member before after _ _ step kept
  refine (step.held_eq ?_).trans kept
  rintro rfl
  cases each _ member

/-- By moves of its own a worker accepts no job. -/
theorem accepted_moves_of_isOwn {own : List (WorkerMove Job)}
    (each : ∀ next ∈ own, next.isOwn = true) : accepted (worker.moves own).2 = [] := by
  -- To submit a job is no move of the worker's own.
  have unasked : submitted own = [] := by
    refine List.filterMap_eq_nil_iff.mpr fun next member => ?_
    have own := each next member
    cases next <;> first | rfl | cases own
  -- All that are accepted have been submitted, and none has been.
  have balance := submitted_perm worker own
  rw [unasked, List.nil_perm, List.append_eq_nil_iff] at balance
  exact balance.1

/-- A worker that settles starts jobs that have waited, in their order; none waits that did not. -/
theorem settle_sublist (exit? : Job → Option Exit) (worker : Worker Job) :
    (started (worker.settle exit?).2 ++ (worker.settle exit?).1.waiting).Sublist worker.waiting := by
  by_cases stopping : worker.phase = .stopping
  · -- It stops at once, and whatever has waited is lost.
    rw [settle_of_stopping stopping]
    simp [move, stopping, started, waiting]
  · obtain ⟨own, each, drained⟩ := worker.drain_eq_moves exit?
    have unstopped : WorkerMove.abort ∉ own := by
      -- To be told to stop is no move of the worker's own either.
      intro member
      cases each _ member
    have inOrder := (conveys_moves stopping unstopped).1.inOrder
    rw [accepted_moves_of_isOwn each, List.append_nil] at inOrder
    rw [settle_of_not_stopping stopping, drained, ← inOrder]

/-- A job that comes to its end did run. -/
theorem Step.runs_of_left (step : worker.Step next after events) {job : Job} {exit : Exit}
    (ends : (job, exit) ∈ left events) :
    ∃ position, next = .leave position exit ∧ worker.running[position]? = some job := by
  cases step with
  -- Only this step has a job leave, and it is the one that ran at the place.
  | @leave position _ last runs =>
    obtain ⟨rfl, rfl⟩ : job = _ ∧ exit = last := by simpa [left, JobEvent.left?] using ends
    exact ⟨position, rfl, runs⟩
  | _ => simp [left, JobEvent.left?] at ends

/-- A worker that is left to itself lets jobs leave only when and how they can. -/
theorem exit?_of_left_drain {job : Job} {exit : Exit}
    (ends : (job, exit) ∈ left (worker.drain exit?).2) : exit? job = some exit := by
  induction worker using Worker.drain.induct exit? with
  -- Nothing is left to do, so nothing leaves.
  | case1 worker chosen => simp [drain_of_none chosen, left] at ends
  | case2 worker next chosen shorter settled more rest ih =>
    rw [drain_of_some chosen, left_append, List.mem_append] at ends
    rcases ends with now | later
    · -- It leaves in the next move, which is chosen because it can.
      obtain ⟨position, rfl, runs⟩ := (step_move worker next).runs_of_left now
      obtain ⟨found, located, can⟩ := (own_of_nextMove? chosen).2.2 position exit rfl
      rw [runs] at located
      obtain rfl := Option.some.inj located
      exact can
    · exact ih later

end Worker

namespace Chore

/-- The job when it has nothing to wait for any more. -/
def freed (chore : Chore) : Chore := { chore with waits := false }

/-- How the job comes to its end. -/
def lastExit (chore : Chore) : Exit := if chore.crashes then .crashed else .completed

/-- A job can come to its end, in its own way, unless it waits. -/
theorem exit?_eq_some_iff (chore : Chore) (exit : Exit) :
    chore.exit? = some exit ↔ chore.waits = false ∧ exit = chore.lastExit := by
  obtain ⟨name, waits, crashes⟩ := chore
  -- A job that waits has no way to its end, and any other one has its own.
  cases waits with
  | true => simp [exit?]
  | false =>
    simp only [exit?, lastExit, Bool.false_eq_true, if_false, Option.some.injEq, true_and]
    exact eq_comm

/-- A job that cannot come to its end waits. -/
theorem exit?_eq_none_iff (chore : Chore) : chore.exit? = none ↔ chore.waits = true := by
  cases waits : chore.waits <;> simp [exit?, waits]

/-- A release leaves a job its name. -/
@[simp] theorem id_release (id : String) (chore : Chore) : (chore.release id).id = chore.id := by
  -- Only the wait of a job is taken away, if it is the one that is named.
  unfold release
  split <;> rfl

/-- A release changes nothing about a job that does not wait. -/
theorem release_of_not_waits {chore : Chore} (free : chore.waits = false) (id : String) :
    chore.release id = chore := by
  obtain ⟨name, waits, crashes⟩ := chore
  obtain rfl : waits = false := free
  simp [release]

end Chore

namespace Bench

open Worker
open scoped List

variable {bench after : Bench} {limits : WorkerLimits} {operation : Operation}
  {operations : List Operation} {events more : List (JobEvent Chore)} {chore : Chore}

/-- The job that an operation submits. -/
def Operation.submitted? : Operation → Option Chore
  | .submit chore => some chore
  | _ => none

/-- The jobs submitted, in their order, whatever comes of them. -/
def submissions (operations : List Operation) : List Chore :=
  operations.filterMap (·.submitted?)

/-- The name of a job has been released since the job was submitted. -/
def Released (operations : List Operation) (chore : Chore) : Prop :=
  [.submit chore, .release chore.id].Sublist operations

instance (operations : List Operation) (chore : Chore) : Decidable (Released operations chore) :=
  inferInstanceAs (Decidable (List.Sublist _ _))

/-- A job as it stands after operations: once it has been released, it waits no longer. -/
def standing (operations : List Operation) (chore : Chore) : Chore :=
  if Released operations chore then chore.freed else chore

/-- A job has been released in the end if it had been before, or if it has been submitted and is
released now. -/
theorem released_concat (operations : List Operation) (last : Operation) (chore : Chore) :
    Released (operations ++ [last]) chore ↔
      Released operations chore ∨
        (.submit chore ∈ operations ∧ Operation.release chore.id = last) :=
  pair_sublist_concat ..

/-- Only a job that has been submitted has been released. -/
theorem Released.submitted (released : Released operations chore) :
    .submit chore ∈ operations :=
  released.subset List.mem_cons_self

/-- A release makes of a job that has been submitted what it makes of it anywhere. -/
theorem standing_release (known : .submit chore ∈ operations) (id : String) :
    standing (operations ++ [.release id]) chore = (standing operations chore).release id := by
  by_cases before : Released operations chore
  · -- It has been released before, and no release makes any difference.
    have still : Released (operations ++ [.release id]) chore :=
      (released_concat ..).mpr (Or.inl before)
    rw [standing, standing, if_pos still, if_pos before]
    have free : chore.freed.waits = false := rfl
    exact (Chore.release_of_not_waits free id).symm
  · -- It counts as released from now on if it is the job that is named.
    have now : Released (operations ++ [.release id]) chore ↔ chore.id = id := by
      simp [released_concat, before, known]
    rw [standing, standing, if_neg before, Chore.release]
    simp only [now]
    rfl

/-- What is not a release leaves a job as it stood. -/
theorem standing_concat {last : Operation} (other : ∀ id, last ≠ .release id) (chore : Chore) :
    standing (operations ++ [last]) chore = standing operations chore := by
  -- Only a release can complete the pair of a submission and a release.
  have same : Released (operations ++ [last]) chore ↔ Released operations chore := by
    rw [released_concat]
    exact or_iff_left fun ⟨_, now⟩ => other _ now.symm
  simp only [standing, same]

/-- A job that has not been submitted stands as it is. -/
theorem standing_of_unknown (unknown : .submit chore ∉ operations) :
    standing operations chore = chore :=
  if_neg fun released => unknown released.submitted

/-- A job keeps its name. -/
@[simp] theorem id_standing (operations : List Operation) (chore : Chore) :
    (standing operations chore).id = chore.id := by
  -- The only thing that may have changed is that it waits no longer.
  unfold standing
  split <;> rfl

/-- A job crashes in the end or does not, whether or not it has been released. -/
@[simp] theorem crashes_standing (operations : List Operation) (chore : Chore) :
    (standing operations chore).crashes = chore.crashes := by
  unfold standing
  split <;> rfl

/-- Somebody holds a bench after an operation if somebody held it before and does not let go. -/
theorem Course.held_iff (course : bench.Course operation after events) :
    after.held = true ↔ bench.held = true ∧ operation ≠ .drop := by
  cases course with
  | @move _ next asked =>
    -- Of single moves, only one lets go of the worker.
    by_cases drops : operation = .drop
    · subst drops
      obtain rfl : WorkerMove.drop = next := Option.some.inj asked
      simp [Worker.move]
    · have other : next ≠ .drop := by
        rintro rfl
        cases operation <;> simp_all [Operation.move?]
      rw [(step_move bench next).held_eq other]
      simp [drops]
  | unheard | release => simp [mapJobs]
  | stop => simp [(step_move bench .stop).held_eq]
  | drain =>
    -- Left to itself the worker makes only moves of its own.
    obtain ⟨own, each, same⟩ := drain_eq_moves Chore.exit? bench
    simp [same, held_moves_of_isOwn each]

/-- An operation has no other job accepted than the one it submits. -/
theorem Course.accepted_sublist (course : bench.Course operation after events) :
    (accepted events).Sublist operation.submitted?.toList := by
  cases course with
  | @move _ next asked =>
    -- The move submits the very job of the operation.
    have same : next.submitted? = operation.submitted? := by
      cases operation <;> cases asked <;> rfl
    rw [← same, (step_move bench next).submitted]
    exact List.sublist_append_left ..
  -- Nothing is accepted where nothing is submitted.
  | unheard | release => exact List.nil_sublist _
  | stop =>
    have nothing := (step_move bench .stop).submitted
    exact nothing ▸ List.sublist_append_left ..
  | drain =>
    obtain ⟨own, each, same⟩ := drain_eq_moves Chore.exit? bench
    rw [same, accepted_moves_of_isOwn each]
    exact List.nil_sublist _

/-- A job that comes to its end in an operation does so because it can. -/
theorem Course.exit?_of_left (course : bench.Course operation after events) {exit : Exit}
    (ends : (chore, exit) ∈ left events) : chore.exit? = some exit := by
  cases course with
  | @move _ next asked =>
    -- Among the moves that operations ask for, none lets a job leave.
    obtain ⟨position, rfl, -⟩ := (step_move bench next).runs_of_left ends
    cases operation <;> cases asked
  | unheard | release => simp [left] at ends
  | stop =>
    obtain ⟨position, other, -⟩ := (step_move bench .stop).runs_of_left ends
    cases other
  -- What leaves does so in a worker that is left to itself, which looks whether it can.
  | drain => exact exit?_of_left_drain ends

/-- Unless a bench is told to stop, no job is lost in an operation that changes none. -/
theorem Course.conveys (course : bench.Course operation after events)
    (calm : bench.phase ≠ .stopping) (untold : operation ≠ .abort)
    (other : ∀ id, operation ≠ .release id) : Conveys bench events after := by
  cases course with
  | @move _ next asked => exact (step_move bench next).conveys fun stopping => absurd stopping calm
  | unheard => exact .refl bench
  | release id => exact absurd rfl (other id)
  | stop stopping => exact absurd stopping calm
  -- Jobs are conveyed through moves as long as none of them tells the worker to stop.
  | drain =>
    obtain ⟨own, each, same⟩ := drain_eq_moves Chore.exit? bench
    rw [same]
    exact (conveys_moves calm fun told => nomatch each _ told).1

/-- A bench that is not told to stop does not come to be about to stop. -/
theorem Course.phase_ne_stopping (course : bench.Course operation after events)
    (calm : bench.phase ≠ .stopping) (untold : operation ≠ .abort) : after.phase ≠ .stopping := by
  cases course with
  | @move _ next asked =>
    -- A move that tells the worker to stop would be that of an operation that does.
    refine (step_move bench next).phase_ne_stopping calm ?_
    rintro rfl
    cases operation <;> simp_all [Operation.move?]
  | unheard | release => exact calm
  | stop stopping => exact absurd stopping calm
  | drain =>
    obtain ⟨own, each, same⟩ := drain_eq_moves Chore.exit? bench
    rw [same]
    exact (conveys_moves calm fun told => nomatch each _ told).2

/-- An operation releases jobs or does not. -/
theorem Operation.eq_release_or (operation : Operation) :
    (∃ id, operation = .release id) ∨ ∀ id, operation ≠ .release id := by
  cases operation <;> simp

/-- A release changes jobs where they are, and nothing else happens. -/
theorem Course.of_release {id : String} (course : bench.Course (.release id) after events) :
    after = bench.mapJobs (Chore.release id) ∧ events = [] := by
  cases course with
  | move asked => cases asked
  | release => exact ⟨rfl, rfl⟩

/-- The job of the last operation is the last one submitted. -/
theorem submissions_concat (operations : List Operation) (last : Operation) :
    submissions (operations ++ [last]) = submissions operations ++ last.submitted?.toList := by
  -- There is at most one job to be added.
  cases submits : last.submitted? <;> simp [submissions, submits]

/-- The jobs submitted are those there was an operation for. -/
theorem mem_submissions : chore ∈ submissions operations ↔ .submit chore ∈ operations := by
  simp only [submissions, List.mem_filterMap]
  constructor
  · -- Only the operation that submits a job has one.
    rintro ⟨operation, member, submits⟩
    cases operation <;> simp_all [Operation.submitted?]
  · exact fun member => ⟨_, member, rfl⟩

/-- The books of a bench: what has been done to it and what its reports tell, against the jobs that
are with it. -/
structure Ledger (operations : List Operation) (events : List (JobEvent Chore)) (bench : Bench) :
    Prop where
  /-- It has not been told to stop. -/
  calm : bench.phase ≠ .stopping
  /-- Somebody holds it until it is let go of. -/
  held : bench.held = true ↔ .drop ∉ operations
  /-- Jobs are accepted in the order they are submitted in. -/
  submitted : (accepted events).Sublist (submissions operations)
  /-- Jobs are started in the order they were accepted in, and the others wait in this order. -/
  inOrder : (accepted events).map (·.id) = (started events ++ bench.waiting).map (·.id)
  /-- A job accepted has come to its end, runs or waits, as it stands by now. -/
  parted : ((accepted events).map (standing operations)).Perm
    ((left events).map Prod.fst ++ (bench.running ++ bench.waiting))
  /-- Jobs have come to their end as they could. -/
  exits : ∀ chore exit, (chore, exit) ∈ left events → chore.exit? = some exit

/-- A bench that has just been started has nothing in its books. -/
theorem ledger_spawn (limits : WorkerLimits) : Ledger [] [] (spawn limits) where
  calm := by simp [spawn]
  held := by simp [spawn]
  submitted := List.nil_sublist _
  inOrder := rfl
  parted := .refl []
  exits := by simp [left]

/-- A job that has been accepted has been submitted. -/
theorem Ledger.submitted_of_accepted (ledger : Ledger operations events bench)
    (member : chore ∈ accepted events) : .submit chore ∈ operations :=
  mem_submissions.mp (ledger.submitted.subset member)

/-- A release puts all jobs that have been accepted as they stand from then on, be they waiting,
running or at their end. -/
theorem Ledger.parted_release (ledger : Ledger operations events bench) (id : String) :
    ((accepted events).map (standing (operations ++ [.release id]))).Perm
      ((left events).map Prod.fst ++
        ((bench.mapJobs (Chore.release id)).running ++
          (bench.mapJobs (Chore.release id)).waiting)) := by
  -- Each of them has been submitted, so the release counts for it.
  have each : (accepted events).map (standing (operations ++ [.release id])) =
      ((accepted events).map (standing operations)).map (Chore.release id) := by
    -- The rows are compared job by job, as both are lists of the same jobs.
    rw [List.map_map]
    refine List.map_congr_left fun chore member => ?_
    exact standing_release (ledger.submitted_of_accepted member) id
  -- A job that has come to its end was not waiting, and it makes no difference to it.
  have gone : ((left events).map Prod.fst).map (Chore.release id) = (left events).map Prod.fst := by
    refine (List.map_congr_left fun chore member => ?_).trans (List.map_id _)
    obtain ⟨⟨chore, exit⟩, ends, rfl⟩ := List.mem_map.mp member
    have free := ((chore.exit?_eq_some_iff exit).mp (ledger.exits chore exit ends)).1
    exact Chore.release_of_not_waits free id
  have parted := ledger.parted.map (Chore.release id)
  rw [List.map_append, List.map_append, gone] at parted
  rw [each, waiting_mapJobs]
  exact parted

/-- An operation other than a release moves jobs on, the one it submits included, as they stand. -/
theorem Ledger.parted_concat (ledger : Ledger operations events bench)
    {last : Operation} (course : bench.Course last after more) (untold : last ≠ .abort)
    (fresh : ∀ chore, last = .submit chore → .submit chore ∉ operations)
    (other : ∀ id, last ≠ .release id) :
    ((accepted (events ++ more)).map (standing (operations ++ [last]))).Perm
      ((left (events ++ more)).map Prod.fst ++ (after.running ++ after.waiting)) := by
  have conveys := course.conveys ledger.calm untold other
  have same : standing (operations ++ [last]) = standing operations :=
    funext fun chore => standing_concat other chore
  -- The job accepted now, if there is one, is the one submitted now.
  have asIs : (accepted more).map (standing operations) = accepted more := by
    refine (List.map_congr_left fun chore member => ?_).trans (List.map_id _)
    have submits := course.accepted_sublist.subset member
    refine standing_of_unknown (fresh chore ?_)
    cases last <;> simp_all [Operation.submitted?]
  rw [accepted_append, left_append, List.map_append, List.map_append, same, asIs]
  -- Those that waited or are accepted now have been started or wait; those that ran or have been
  -- started are at their end or run.
  calc (accepted events).map (standing operations) ++ accepted more
      ~ (left events).map Prod.fst ++ (bench.running ++ (bench.waiting ++ accepted more)) := by
        simpa only [List.append_assoc] using ledger.parted.append_right (accepted more)
    _ = (left events).map Prod.fst ++ ((bench.running ++ started more) ++ after.waiting) := by
        rw [conveys.inOrder, List.append_assoc]
    _ ~ (left events).map Prod.fst ++
          (((left more).map Prod.fst ++ after.running) ++ after.waiting) :=
        (conveys.parted.append_right _).append_left _
    _ = _ := by simp only [List.append_assoc]

/-- The books are kept through every operation but one that tells the worker to stop, as long as
only jobs are submitted that have not been before. -/
theorem Ledger.concat (ledger : Ledger operations events bench) {last : Operation}
    (course : bench.Course last after more) (untold : last ≠ .abort)
    (fresh : ∀ chore, last = .submit chore → .submit chore ∉ operations) :
    Ledger (operations ++ [last]) (events ++ more) after where
  calm := course.phase_ne_stopping ledger.calm untold
  -- To let go of the bench is what the last operation may have done.
  held := by
    rw [course.held_iff, ledger.held]
    simp [eq_comm]
  submitted := by
    -- The job of this operation comes last in either list.
    rw [accepted_append, submissions_concat]
    exact ledger.submitted.append course.accepted_sublist
  inOrder := by
    -- A release leaves the jobs their names, and anything else leaves them their order.
    have inOrder := ledger.inOrder
    rcases last.eq_release_or with ⟨id, rfl⟩ | other
    · obtain ⟨rfl, rfl⟩ := course.of_release
      simpa [Function.comp_def] using inOrder
    · have conveys := congrArg (List.map (·.id)) (course.conveys ledger.calm untold other).inOrder
      simp only [accepted_append, started_append, List.map_append, List.append_assoc] at *
      rw [inOrder, List.append_assoc, conveys]
  -- A release changes how jobs stand, and all else moves them on.
  parted := by
    rcases last.eq_release_or with ⟨id, rfl⟩ | other
    · obtain ⟨rfl, rfl⟩ := course.of_release
      simpa using ledger.parted_release id
    · exact ledger.parted_concat course untold fresh other
  -- A job that leaves now does so because it can.
  exits := by
    intro chore exit ends
    rw [left_append, List.mem_append] at ends
    exact ends.elim (ledger.exits chore exit) course.exit?_of_left

/-- The books of a bench are kept whatever is done to it, as long as it is not told to stop and no
two jobs of a name are submitted to it. -/
theorem ledger_performAll (limits : WorkerLimits) (operations : List Operation)
    (unstopped : .abort ∉ operations) (distinct : ((submissions operations).map (·.id)).Nodup) :
    Ledger operations (history operations (performAll (spawn limits) operations).2)
      (performAll (spawn limits) operations).1 := by
  -- The last operation is done to a bench whose books have been kept so far.
  induction operations using List.reverseRecOn with
  | nil => exact ledger_spawn limits
  | append_singleton operations last ih =>
    rw [submissions_concat, List.map_append] at distinct
    obtain ⟨distinct, -, apart⟩ := List.nodup_append.mp distinct
    rw [List.mem_append, not_or] at unstopped
    rw [performAll_concat, history_concat _ _ (length_performAll ..)]
    -- The last operation does not tell the worker to stop, and its job is a new one.
    refine (ih unstopped.1 distinct).concat (course_perform _ last) ?_ ?_
    · rintro rfl
      exact unstopped.2 List.mem_cons_self
    · -- A job submitted before would have a name that is not taken yet.
      rintro chore rfl before
      have taken := List.mem_map_of_mem (f := Chore.id) (mem_submissions.mpr before)
      exact apart _ taken _ (by simp [Operation.submitted?]) rfl

end Bench

end Tollgate
