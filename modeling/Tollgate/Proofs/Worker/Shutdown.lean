import Tollgate.Proofs.Worker.Rest

/-!
The end of a worker that is let go of. It ends when all its jobs have come to their end and not
before, and by then every job it has accepted has been started and finished once.
-/

namespace Tollgate.Bench

open Worker
open scoped List

variable {bench : Bench} {limits : WorkerLimits} {operations : List Operation}
  {events : List (JobEvent Chore)} {chore : Chore}

/-- The lines of the log that a report shows. -/
def Report.log : Report → List String
  | .settled events _ => logLines events
  | _ => []

/-- The lines of the log that all reports together show. -/
def logs (reports : List Report) : List String := reports.flatMap (·.log)

/-- The jobs that have been completed, in the order they have. -/
def completed (events : List (JobEvent Chore)) : List Chore :=
  (left events).filterMap fun (chore, exit) => if exit = .completed then some chore else none

/-- The lines that jobs leave in the log from their start to their end: those that crash leave none
at their end. -/
def lines (chores : List Chore) : List String :=
  chores.map ("start " ++ ·.id) ++ (chores.filter (!·.crashes)).map ("end " ++ ·.id)

/-- A report shows the lines of what it tells of, in another order. -/
theorem log_perm (operation : Operation) (report : Report) :
    report.log.Perm ((operation.events report).filterMap logLine?) := by
  -- Only the report of a worker that settles has lines, which are sorted there.
  cases report with
  | settled events ended =>
    have same : operation.events (.settled events ended) = events := by cases operation <;> rfl
    rw [same]
    exact List.mergeSort_perm ..
  | submitted accepted => cases operation <;> cases accepted <;> exact .refl []
  | silent => cases operation <;> exact .refl []

/-- All reports together show the lines of all that has happened, in another order. -/
theorem logs_perm (operations : List Operation) (reports : List Report)
    (each : reports.length = operations.length) :
    (logs reports).Perm ((history operations reports).filterMap logLine?) := by
  -- Reports and operations are as many, so they are gone through together.
  induction operations generalizing reports with
  | nil => simp_all [logs, history]
  | cons operation rest ih =>
    cases reports with
    | nil => cases each
    | cons report reports =>
      have later := ih reports (by simpa using each)
      simpa [logs, history, List.filterMap_append] using (log_perm operation report).append later

/-- The log has a line for every job started and one for every job completed. -/
theorem filterMap_logLine?_perm (events : List (JobEvent Chore)) :
    (events.filterMap logLine?).Perm
      ((started events).map ("start " ++ ·.id) ++ (completed events).map ("end " ++ ·.id)) := by
  -- The lines of starts stand before those of ends, so an end moves back to its place.
  induction events with
  | nil => exact .refl []
  | cons event rest ih =>
    cases event with
    | accepted | refused => exact ih
    | started chore => exact ih.cons _
    | left chore exit =>
      cases exit with
      | crashed => exact ih
      | completed => exact (ih.cons _).trans List.perm_middle.symm

/-- The worker has been reported to have ended the last time it settled. -/
theorem reported_iff (limits : WorkerLimits) (operations : List Operation) :
    (∃ told, (performAll (spawn limits) (operations ++ [.settle])).2.getLast? =
        some (.settled told true)) ↔
      (performAll (spawn limits) (operations ++ [.settle])).1.phase = .ended := by
  -- The last operation settles the worker, and its report tells how it is then.
  simp [performAll_concat, perform]

/-- All jobs accepted have come to their end exactly if none runs or waits any more. -/
theorem Ledger.all_left_iff (ledger : Ledger operations events bench)
    (distinct : ((submissions operations).map (·.id)).Nodup) :
    (∀ chore ∈ accepted events, HasLeft events chore) ↔
      bench.running = [] ∧ bench.waiting = [] := by
  -- By their names, the jobs accepted are those that have left and those that are still there.
  have names := ledger.names
  have apart := (List.nodup_append.mp (names.nodup_iff.mp (ledger.distinct distinct))).2.2
  rw [← List.append_eq_nil_iff]
  constructor
  · intro allLeft
    refine List.eq_nil_iff_forall_not_mem.mpr fun chore stays => ?_
    -- A job that is still there would have the name of one that is not.
    have stays := List.mem_map_of_mem (f := Chore.id) stays
    obtain ⟨other, member, same⟩ :=
      List.mem_map.mp (names.mem_iff.mpr (List.mem_append_right _ stays))
    exact apart _ (allLeft other member) _ (same ▸ stays) rfl
  · -- With nobody there, only those that have left remain.
    intro allGone chore member
    have named := names.mem_iff.mp (List.mem_map_of_mem (f := Chore.id) member)
    rwa [allGone, List.map_nil, List.append_nil] at named

/-- At rest, no job accepted runs or waits if none of them is held up. -/
theorem Ledger.none_of_rests (ledger : Ledger operations events bench) (rests : bench.Rests)
    (within : bench.WithinLimits limits)
    (released : ∀ chore ∈ accepted events, ¬IsHeldUp operations chore) :
    bench.running = [] ∧ bench.waiting = [] := by
  -- A job that runs at rest is held up, and none of them is.
  have idle : bench.running = [] := by
    refine List.eq_nil_iff_forall_not_mem.mpr fun chore runs => ?_
    obtain ⟨member, heldUp⟩ := ledger.heldUp_of_running runs (rests.blocked chore runs)
    exact released chore member heldUp
  -- All slots are free, and there is at least one.
  refine ⟨idle, rests.starved.resolve_right ?_⟩
  -- With nothing running, every slot is free, and waiting jobs would have been started.
  have slots := within.slots.trans within.concurrency
  simp only [idle, List.length_nil] at slots
  omega

/-- Once no job runs or waits, those that do not crash have been completed. -/
theorem Ledger.completed_perm (ledger : Ledger operations events bench)
    (idle : bench.running = []) (nobody : bench.waiting = []) :
    (completed events).Perm
      (((accepted events).filter (!·.crashes)).map (standing operations)) := by
  -- A job that has come to its end has been completed exactly if it does not crash.
  have orderly : completed events = ((left events).map Prod.fst).filter (!·.crashes) := by
    rw [completed, List.filter_map, ← List.filterMap_eq_map, List.filterMap_filter]
    refine List.filterMap_congr fun (chore, exit) ends => ?_
    -- How a job that has left did so is told by whether it crashes.
    obtain ⟨-, rfl⟩ := (chore.exit?_eq_some_iff exit).mp (ledger.exits chore exit ends)
    cases crashes : chore.crashes <;> simp [Chore.lastExit, crashes]
  have parted := ledger.parted.filter (!·.crashes)
  have same : (!·.crashes) ∘ standing operations = (!·.crashes) :=
    funext fun chore => congrArg not (crashes_standing operations chore)
  rw [idle, nobody, List.append_nil, List.append_nil, List.filter_map (f := standing operations),
    same] at parted
  rw [orderly]
  exact parted.symm

/-- Once no job runs or waits, the log has a line for the start of every job accepted, and one for
the end of every one of them that does not crash. -/
theorem Ledger.lines_perm (ledger : Ledger operations events bench)
    (idle : bench.running = []) (nobody : bench.waiting = []) :
    (events.filterMap logLine?).Perm (lines (accepted events)) := by
  -- Jobs are started in the order of acceptance, and with none waiting all have been.
  have starts : (started events).map ("start " ++ ·.id) =
      (accepted events).map ("start " ++ ·.id) := by
    have inOrder := congrArg (List.map ("start " ++ ·)) ledger.inOrder
    simpa [nobody, Function.comp_def] using inOrder.symm
  have ends : ((completed events).map ("end " ++ ·.id)).Perm
      (((accepted events).filter (!·.crashes)).map ("end " ++ ·.id)) := by
    simpa [Function.comp_def] using (ledger.completed_perm idle nobody).map ("end " ++ ·.id)
  rw [lines, ← starts]
  exact (filterMap_logLine?_perm events).trans (ends.append_left _)

/-- No line tells of a start and of an end. -/
theorem start_ne_end (first second : String) : "start " ++ first ≠ "end " ++ second := by
  intro same
  -- The two words differ in their first letter.
  have initial := congrArg (fun line => line.toList.head?) same
  simp at initial

/-- A line of a start is one of a job of that name. -/
theorem start_mem_lines {id : String} {chores : List Chore} :
    "start " ++ id ∈ lines chores ↔ id ∈ chores.map (·.id) := by
  simp [lines, (start_ne_end _ _).symm]

/-- A line of an end is one of a job of that name that does not crash. -/
theorem end_mem_lines {id : String} {chores : List Chore} :
    "end " ++ id ∈ lines chores ↔ id ∈ (chores.filter (!·.crashes)).map (·.id) := by
  simp [lines, start_ne_end]

/-- Jobs that have no name in common leave no line twice. -/
theorem nodup_lines {chores : List Chore} (distinct : (chores.map (·.id)).Nodup) :
    (lines chores).Nodup := by
  -- Jobs that do not crash have no name in common either.
  have unlike : ((chores.filter (!·.crashes)).map (·.id)).Nodup :=
    (List.filter_sublist.map _).nodup distinct
  have starts := distinct.map fun _ _ => (String.append_right_inj "start ").mp
  have ends := unlike.map fun _ _ => (String.append_right_inj "end ").mp
  rw [List.map_map] at starts ends
  -- Lines of the same kind differ in the name, and lines of different kinds in the word.
  refine List.nodup_append.mpr ⟨starts, ends, fun line first other second same => ?_⟩
  obtain ⟨chore, -, rfl⟩ := List.mem_map.mp first
  obtain ⟨crashing, -, rfl⟩ := List.mem_map.mp second
  exact start_ne_end _ _ same

/-- A bench is never told to stop, and no two jobs of a name are submitted to it. Whenever it
settles, the worker is reported to have ended exactly if it has been let go of and every job that
has been accepted has come to its end. Once it has been let go of and every job accepted that waits
has been released, it is reported to have ended the next time it settles. By then the log has one
line for the start of every job accepted and one for the end of every one of them that does not
crash, and nothing besides; so it has no line of a job that has not been accepted. -/
theorem ends_when_all_left (limits : WorkerLimits) (operations : List Operation)
    (unstopped : .abort ∉ operations) (distinct : ((submissions operations).map (·.id)).Nodup) :
    let reports := (performAll (spawn limits) (operations ++ [.settle])).2
    let events := history (operations ++ [.settle]) reports
    ((∃ told, reports.getLast? = some (.settled told true)) ↔
        .drop ∈ operations ∧ ∀ chore ∈ accepted events, HasLeft events chore) ∧
      (.drop ∈ operations →
        (∀ chore ∈ accepted events, chore.waits = true → Released operations chore) →
          (∃ told, reports.getLast? = some (.settled told true)) ∧
            (logs reports).Perm (lines (accepted events)) ∧ (logs reports).Nodup ∧
            ∀ chore ∈ submissions operations, chore ∉ accepted events →
              "start " ++ chore.id ∉ logs reports ∧ "end " ++ chore.id ∉ logs reports) := by
  intro reports events
  -- No job is lost, as the worker is never told to stop.
  have ledger := ledger_settle limits unstopped distinct
  have rests := rests_settle limits unstopped distinct
  obtain ⟨within, -⟩ := sound_performAll limits (operations ++ [.settle])
  -- At rest it has ended exactly if nobody holds it and no job is left, that is, if all have left.
  have gone := (not_congr ledger.held).trans Decidable.not_not
  rw [Bool.not_eq_true] at gone
  rw [reported_iff, rests.ended, gone, ← ledger.all_left_iff distinct]
  refine ⟨Iff.rfl, fun dropped released => ?_⟩
  -- Jobs that wait for their release have been released, so none is held up.
  obtain ⟨idle, nobody⟩ := ledger.none_of_rests rests within fun chore member heldUp =>
    heldUp.2 (released chore member heldUp.1)
  refine ⟨⟨dropped, (ledger.all_left_iff distinct).mpr ⟨idle, nobody⟩⟩, ?_⟩
  -- The lines shown are those of what has happened, and these are two for each job at most.
  have shown : (logs reports).Perm _ :=
    (logs_perm (operations ++ [.settle]) reports (length_performAll ..)).trans
      (ledger.lines_perm idle nobody)
  refine ⟨shown, shown.nodup_iff.mpr (nodup_lines (ledger.distinct distinct)), ?_⟩
  intro chore submits refused
  -- The only job of that name is this one.
  have unknown : chore.id ∉ (accepted events).map (·.id) := by
    intro named
    obtain ⟨other, member, same⟩ := List.mem_map.mp named
    have alike := List.inj_on_of_nodup_map distinct (ledger.submitted.subset member) submits same
    exact refused (alike ▸ member)
  rw [shown.mem_iff, shown.mem_iff, start_mem_lines, end_mem_lines]
  exact ⟨unknown, fun ends => unknown ((List.filter_sublist.map _).subset ends)⟩

/-- A bench for one job at a time, with room for one more. With the first job running, the second in
the hand and the third in the queue, the fourth is refused. After it has been let go of, the worker
waits for the first job to be released; then it finishes them all, the second with a crash, and
ends. -/
theorem ends_when_all_left_release :
    let before : List Operation :=
      [.submit ⟨"a", true, false⟩, .settle, .submit ⟨"b", false, true⟩, .settle,
        .submit ⟨"c", false, false⟩, .submit ⟨"d", false, false⟩, .drop]
    let held := (performAll (spawn ⟨1, 1⟩) (before ++ [.settle])).2
    let after := before ++ [.settle, .release "a"]
    let reports := (performAll (spawn ⟨1, 1⟩) (after ++ [.settle])).2
    let events := history (after ++ [.settle]) reports
    .abort ∉ after ∧ ((submissions after).map (·.id)).Nodup ∧
      (¬∃ told, held.getLast? = some (.settled told true)) ∧
      (∃ told, reports.getLast? = some (.settled told true)) ∧
      accepted events = [⟨"a", true, false⟩, ⟨"b", false, true⟩, ⟨"c", false, false⟩] ∧
      (logs reports).Perm (lines (accepted events)) ∧ (logs reports).Nodup ∧
      "start d" ∉ logs reports := by
  intro before held after reports events
  have unstopped : .abort ∉ after := by decide
  have distinct : ((submissions after).map (·.id)).Nodup := by decide
  -- The first part is about the moment when the first job still waits.
  obtain ⟨early, -⟩ := ends_when_all_left ⟨1, 1⟩ before (by decide) (by decide)
  obtain ⟨-, last⟩ := ends_when_all_left ⟨1, 1⟩ after unstopped distinct
  have known : accepted events =
      [⟨"a", true, false⟩, ⟨"b", false, true⟩, ⟨"c", false, false⟩] := by decide +kernel
  -- The only job that waits for its release is the first one.
  have released : ∀ chore ∈ accepted events, chore.waits = true → Released after chore := by
    rw [known]
    decide
  obtain ⟨ended, shown, once, unstarted⟩ := last (by decide) released
  refine ⟨unstopped, distinct, fun told => ?_, ended, known, shown, once, ?_⟩
  · -- The first job has not come to its end.
    exact absurd (early.mp told).2 (by decide +kernel)
  · exact (unstarted ⟨"d", false, false⟩ (by decide) (by rw [known]; decide)).1

end Tollgate.Bench
