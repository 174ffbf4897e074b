import Tollgate.Worker.Settle

/-! A worker on its own, with jobs that do nothing but keep a log of their start and end. -/

namespace Tollgate

/-- A job that logs its start, may wait to be released, and may crash before it logs its end. -/
structure Chore where
  /-- Name of the job in the log. -/
  id : String
  /-- It does not go on before it is released. -/
  waits : Bool
  /-- It crashes at the end. -/
  crashes : Bool
  deriving DecidableEq

namespace Chore

/-- How a job comes to its end, unless it still waits. -/
def exit? (chore : Chore) : Option Exit :=
  if chore.waits then none else some (if chore.crashes then .crashed else .completed)

/-- The job once all jobs of a name have been released. -/
def release (id : String) (chore : Chore) : Chore :=
  if chore.id = id then { chore with waits := false } else chore

end Chore

/-- A worker with such jobs. -/
abbrev Bench := Worker Chore

namespace Bench

/-- Something done to a bench. -/
inductive Operation where
  /-- A job is submitted. -/
  | submit (chore : Chore)
  /-- The jobs of a name are released. -/
  | release (id : String)
  /-- Nobody will submit any more jobs. -/
  | drop
  /-- The worker is told to stop. -/
  | abort
  /-- Everything happens that can. -/
  | settle
  deriving DecidableEq

/-- What is seen of a bench. -/
inductive Report where
  /-- Nothing is reported. -/
  | silent
  /-- Whether a job was accepted. -/
  | submitted (accepted : Bool)
  /-- What happened since the last time, and whether the worker has ended. -/
  | settled (events : List (JobEvent Chore)) (ended : Bool)
  deriving DecidableEq

/-- Does something to a bench. -/
def perform (bench : Bench) : Operation → Bench × Report
  | .submit chore =>
    -- Once everybody has let go of the worker, there is nobody to tell about the job.
    if bench.held then ((bench.move (.submit chore)).1, .submitted bench.accepts)
    else (bench, .silent)
  | .release id =>
    -- A release reaches the jobs there are, and none that is submitted later.
    (bench.mapJobs (Chore.release id), .silent)
  | .drop => ((bench.move .drop).1, .silent)
  | .abort => ((bench.move .abort).1, .silent)
  | .settle =>
    let (bench, events) := bench.settle Chore.exit?
    (bench, .settled events (bench.phase == .ended))

/-- Does one thing after another to a bench, and tells what is seen each time. -/
def performAll (bench : Bench) : List Operation → Bench × List Report
  | [] => (bench, [])
  | first :: rest =>
    let (bench, report) := perform bench first
    let (bench, reports) := performAll bench rest
    (bench, report :: reports)

/-- The line an event leaves in the log, if it leaves one. -/
def logLine? : JobEvent Chore → Option String
  | .started chore => some ("start " ++ chore.id)
  | .left chore .completed => some ("end " ++ chore.id)
  | _ => none

/-- The lines that events leave in the log, in ascending order. -/
def logLines (events : List (JobEvent Chore)) : List String :=
  (events.filterMap logLine?).mergeSort fun left right => decide (left ≤ right)

end Bench

end Tollgate
