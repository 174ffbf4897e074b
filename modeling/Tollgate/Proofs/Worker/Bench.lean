import Tollgate.Proofs.Worker.Passage
import Tollgate.Worker.Bench

/-!
Benches seen from outside: what the reports tell of the jobs, and which moves of the worker the
operations consist of.
-/

namespace Tollgate.Bench

open Worker

variable {bench : Bench}

/-- What has happened to the jobs in an operation, as its report has it. -/
def Operation.events (operation : Operation) (report : Report) : List (JobEvent Chore) :=
  match operation, report with
  | .submit chore, .submitted accepted => [if accepted then .accepted chore else .refused chore]
  | _, .settled events _ => events
  | _, _ => []

/-- What has happened to the jobs in one operation after another. -/
def history (operations : List Operation) (reports : List Report) : List (JobEvent Chore) :=
  (List.zipWith Operation.events operations reports).flatten

/-- The single move that an operation asks for, if it asks for one. -/
def Operation.move? : Operation → Option (WorkerMove Chore)
  | .submit chore => some (.submit chore)
  | .drop => some .drop
  | .abort => some .abort
  | .release _ | .settle => none

/-- What an operation can do to a bench: what the bench is like afterwards, and what has happened to
its jobs. -/
inductive Course (bench : Bench) : Operation → Bench → List (JobEvent Chore) → Prop where
  /-- The operation is a single move. -/
  | move {operation : Operation} {next : WorkerMove Chore} (asked : operation.move? = some next) :
    Course bench operation (bench.move next).1 (bench.move next).2
  /-- There is nobody to tell about the job. -/
  | unheard (chore : Chore) (gone : bench.held = false) : Course bench (.submit chore) bench []
  /-- Jobs are released where they are. -/
  | release (id : String) : Course bench (.release id) (bench.mapJobs (Chore.release id)) []
  /-- The worker stops as it has been told. -/
  | stop (stopping : bench.phase = .stopping) :
    Course bench .settle (bench.move .stop).1 (bench.move .stop).2
  /-- The worker is left to itself. -/
  | drain (calm : bench.phase ≠ .stopping) :
    Course bench .settle (bench.drain Chore.exit?).1 (bench.drain Chore.exit?).2

/-- Every operation does one of these things, and reports it. -/
theorem course_perform (bench : Bench) (operation : Operation) :
    bench.Course operation (perform bench operation).1
      (operation.events (perform bench operation).2) := by
  cases operation with
  | submit chore =>
    cases held : bench.held with
    -- Nobody holds the worker any more, so the job never gets to it.
    | false => simpa [perform, held, Operation.events] using Course.unheard chore held
    | true =>
      -- A held worker reports of the job just what its own move says has happened.
      have told : [if bench.accepts then JobEvent.accepted chore else .refused chore] =
          (bench.move (.submit chore)).2 := by
        cases accepts : bench.accepts <;> simp [Worker.move, accepts]
      simp only [perform, held, if_true, Operation.events, told]
      exact .move rfl
  | release id => exact .release id
  | drop => exact @Course.move bench .drop .drop rfl
  | abort =>
    -- To be told to stop happens to the worker and to none of its jobs.
    have told : [] = (bench.move .abort).2 := by
      simp only [Worker.move]
      split <;> rfl
    simp only [perform, Operation.events, told]
    exact .move rfl
  | settle =>
    -- Settling is the only operation whose course depends on what the worker has been told.
    by_cases stopping : bench.phase = .stopping
    · simp only [perform, Operation.events, settle_of_stopping stopping]
      exact .stop stopping
    · simp only [perform, Operation.events, settle_of_not_stopping stopping]
      exact .drain stopping

/-- Two things come one after the other in a list that has one more at its end if they did before,
or if that one is the second of them and the first was there. -/
theorem pair_sublist_concat {Entry : Type} (first second last : Entry) (entries : List Entry) :
    [first, second].Sublist (entries ++ [last]) ↔
      [first, second].Sublist entries ∨ (first ∈ entries ∧ second = last) := by
  -- Seen from the end, the list begins with the entry that was added.
  rw [← List.reverse_sublist, ← @List.reverse_sublist _ _ entries]
  simp [List.sublist_cons_iff, eq_comm, and_comm]

/-- There is a report on every operation. -/
@[simp] theorem length_performAll (bench : Bench) (operations : List Operation) :
    (performAll bench operations).2.length = operations.length := by
  -- One report is made for each operation, so both lists grow together.
  induction operations generalizing bench with
  | nil => rfl
  | cons first rest ih => simp [performAll, ih]

/-- What comes last is done to the bench that all before has led to. -/
theorem performAll_concat (bench : Bench) (operations : List Operation) (last : Operation) :
    performAll bench (operations ++ [last]) =
      ((perform (performAll bench operations).1 last).1,
        (performAll bench operations).2 ++ [(perform (performAll bench operations).1 last).2]) := by
  -- The bench is general, because the operations after the first are done to the bench it leaves.
  induction operations generalizing bench with
  | nil => rfl
  | cons first rest ih => simp only [List.cons_append, performAll, ih]

/-- What has happened in the last operation comes last. -/
theorem history_concat {operations : List Operation} {reports : List Report} (last : Operation)
    (report : Report) (each : reports.length = operations.length) :
    history (operations ++ [last]) (reports ++ [report]) =
      history operations reports ++ last.events report := by
  -- With as many reports as operations, the last of each are paired with one another.
  simp [history, List.zipWith_append each.symm]

end Tollgate.Bench
