import Mathlib.Data.List.Nodup
import Mathlib.Data.List.Perm.Subperm
import Tollgate.Proofs.Worker.Ledger

/-!
What keeps jobs waiting. A worker that has been left to itself starts and finishes all it can, so a
job waits only while every slot is taken, and a slot is taken only by a job that cannot go on.
-/

namespace Tollgate.Bench

open Worker

variable {bench : Bench} {limits : WorkerLimits} {operations : List Operation}
  {events : List (JobEvent Chore)} {chore : Chore}

/-- A job of this name has been started. -/
def HasStarted (events : List (JobEvent Chore)) (chore : Chore) : Prop :=
  chore.id ∈ (started events).map (·.id)

/-- A job of this name has come to its end, be it that it is completed or that it has crashed. -/
def HasLeft (events : List (JobEvent Chore)) (chore : Chore) : Prop :=
  chore.id ∈ (left events).map (·.1.id)

instance (events : List (JobEvent Chore)) (chore : Chore) : Decidable (HasStarted events chore) :=
  inferInstanceAs (Decidable (_ ∈ _))

instance (events : List (JobEvent Chore)) (chore : Chore) : Decidable (HasLeft events chore) :=
  inferInstanceAs (Decidable (_ ∈ _))

/-- The job waits for a release that has not been given. -/
def IsHeldUp (operations : List Operation) (chore : Chore) : Prop :=
  chore.waits = true ∧ ¬Released operations chore

instance (operations : List Operation) (chore : Chore) : Decidable (IsHeldUp operations chore) :=
  inferInstanceAs (Decidable (_ ∧ _))

/-- A job still waits exactly if it is held up, and then stands as it was submitted. -/
theorem standing_waits (operations : List Operation) (chore : Chore) :
    (standing operations chore).waits = true ↔
      IsHeldUp operations chore ∧ standing operations chore = chore := by
  -- Released or not, a job waits only if it did so when it was submitted.
  unfold standing IsHeldUp
  split
  · simp_all [Chore.freed]
  · simp_all

/-- A bench at which nothing more can happen without help from outside. -/
structure Rests (bench : Bench) : Prop where
  /-- The jobs that run wait for something. -/
  blocked : ∀ chore ∈ bench.running, chore.waits = true
  /-- No job waits for a slot while one is free. -/
  starved : bench.waiting = [] ∨ bench.free = 0
  /-- It has ended when nobody holds it and no job is left. -/
  ended : bench.phase = .ended ↔
    bench.held = false ∧ bench.running = [] ∧ bench.waiting = []

/-- A bench is at rest if it has nothing to do by itself, has not been told to stop, and can only
have ended for want of anything to do. -/
theorem rests_of_nextMove?_none (halts : bench.nextMove? Chore.exit? = none)
    (calm : bench.phase ≠ .stopping)
    (spent : bench.phase = .ended →
      bench.held = false ∧ bench.running = [] ∧ bench.waiting = []) :
    bench.Rests := by
  cases phase : bench.phase with
  | stopping => exact absurd phase calm
  | ended =>
    obtain ⟨gone, idle, nobody⟩ := spent phase
    exact ⟨by simp [idle], Or.inl nobody, by simp [phase, gone, idle, nobody]⟩
  | working =>
    obtain ⟨blocked, starved, undrained⟩ := blocked_of_nextMove?_none phase halts
    refine ⟨fun chore member => ?_, starved, ?_⟩
    · exact (chore.exit?_eq_none_iff).mp (blocked chore member)
    · -- Where nothing were left, it would have ended by itself.
      have left : ¬(bench.held = false ∧ bench.waiting = [] ∧ bench.running = []) := by
        rw [← isDrained_iff, undrained]
        exact Bool.false_ne_true
      rw [phase]
      exact ⟨nofun, fun ⟨gone, idle, nobody⟩ => absurd ⟨gone, nobody, idle⟩ left⟩

/-- Whatever is done to a bench, it keeps to its limits and its jobs are accounted for. -/
theorem sound_performAll (limits : WorkerLimits) (operations : List Operation) :
    (performAll (spawn limits) operations).1.Sound limits
      (history operations (performAll (spawn limits) operations).2) := by
  -- Whole operations are happenings, for which this has been shown.
  simpa only [happenAll_whole] using sound_happenAll limits (operations.map .whole)

/-- A bench that is not told to stop ends only once nobody holds it. -/
theorem not_held_of_ended (limits : WorkerLimits) (unstopped : .abort ∉ operations)
    (ended : (performAll (spawn limits) operations).1.phase = .ended) :
    (performAll (spawn limits) operations).1.held = false := by
  have phase := phase_happenAll limits (operations.map .whole)
  rw [happenAll_whole] at phase
  -- If somebody held it, it could not have ended without being told to.
  by_contra held
  rw [Bool.not_eq_false] at held
  obtain ⟨happening, member, aborts⟩ := (phase held).1.mp (by simp [ended])
  obtain ⟨operation, asked, rfl⟩ := List.mem_map.mp member
  have told : operation = .abort := by simpa [Happening.aborts] using aborts
  exact unstopped (told ▸ asked)

/-- A bench that is never told to stop is at rest after it has settled. -/
theorem rests_settle (limits : WorkerLimits) (unstopped : .abort ∉ operations)
    (distinct : ((submissions operations).map (·.id)).Nodup) :
    (performAll (spawn limits) (operations ++ [.settle])).1.Rests := by
  -- It has not been told to stop, so to settle is to be left to itself.
  have calm := (ledger_performAll limits operations unstopped distinct).calm
  have settled : (performAll (spawn limits) (operations ++ [.settle])).1 =
      ((performAll (spawn limits) operations).1.drain Chore.exit?).1 := by
    rw [performAll_concat]
    simp only [perform, settle_of_not_stopping calm]
  -- It has made all the moves it could, and whatever else is needed holds after any operation.
  refine rests_of_nextMove?_none ?_ ?_ fun ended => ?_
  · rw [settled]
    exact nextMove?_drain Chore.exit? _
  · rw [performAll_concat]
    exact (course_perform _ .settle).phase_ne_stopping calm (by decide)
  · have gone := not_held_of_ended limits (by simpa using unstopped) ended
    exact ⟨gone, (sound_performAll limits _).2.spent ended⟩

/-- To settle changes nothing that the books have of what has been done to a bench. -/
theorem ledger_settle (limits : WorkerLimits) (unstopped : .abort ∉ operations)
    (distinct : ((submissions operations).map (·.id)).Nodup) :
    Ledger operations
      (history (operations ++ [.settle]) (performAll (spawn limits) (operations ++ [.settle])).2)
      (performAll (spawn limits) (operations ++ [.settle])).1 := by
  -- To settle submits nothing and releases nothing.
  have unasked : submissions (operations ++ [.settle]) = submissions operations := by
    simp [submissions_concat, Operation.submitted?]
  have same : standing (operations ++ [.settle]) = standing operations :=
    funext fun chore => standing_concat (by simp) chore
  obtain ⟨calm, held, submitted, inOrder, parted, exits⟩ :=
    ledger_performAll limits (operations ++ [.settle]) (by simpa using unstopped)
      (unasked ▸ distinct)
  exact ⟨calm, by simpa using held, unasked ▸ submitted, inOrder, same ▸ parted, exits⟩

/-- No two jobs that are accepted have a name in common if none do that are submitted. -/
theorem Ledger.distinct (ledger : Ledger operations events bench)
    (distinct : ((submissions operations).map (·.id)).Nodup) :
    ((accepted events).map (·.id)).Nodup :=
  -- Those accepted are among those submitted, in the same order.
  (ledger.submitted.map _).nodup distinct

/-- The names of the jobs accepted are those of the jobs at their end, running and waiting. -/
theorem Ledger.names (ledger : Ledger operations events bench) :
    ((accepted events).map (·.id)).Perm
      ((left events).map (·.1.id) ++ (bench.running ++ bench.waiting).map (·.id)) := by
  -- The books have the jobs themselves in these places.
  simpa [Function.comp_def] using ledger.parted.map (·.id)

/-- A job that runs and waits has been accepted, and is held up. -/
theorem Ledger.heldUp_of_running (ledger : Ledger operations events bench)
    (runs : chore ∈ bench.running) (waits : chore.waits = true) :
    chore ∈ accepted events ∧ IsHeldUp operations chore := by
  have stands : chore ∈ (accepted events).map (standing operations) :=
    ledger.parted.mem_iff.mpr (by simp [runs])
  -- It is a job accepted as it stands, and only one that is held up still waits.
  obtain ⟨original, member, rfl⟩ := List.mem_map.mp stands
  obtain ⟨heldUp, same⟩ := (standing_waits operations original).mp waits
  rw [same]
  exact ⟨member, heldUp⟩

/-- Where no job waits, all that have been accepted have been started. -/
theorem Ledger.hasStarted (ledger : Ledger operations events bench) (nobody : bench.waiting = [])
    (member : chore ∈ accepted events) : HasStarted events chore := by
  -- With nobody waiting, those accepted and those started bear the same names.
  have named := List.mem_map_of_mem (f := Chore.id) member
  rwa [ledger.inOrder, nobody, List.append_nil] at named

/-- Where no job waits and all that run are held up, the others have come to their end. -/
theorem Ledger.hasLeft (ledger : Ledger operations events bench) (nobody : bench.waiting = [])
    (blocked : ∀ chore ∈ bench.running, chore.waits = true) (member : chore ∈ accepted events)
    (free : ¬IsHeldUp operations chore) : HasLeft events chore := by
  -- With nobody waiting, the job is at its end or runs.
  have stands : standing operations chore ∈ (left events).map Prod.fst ++ bench.running := by
    have all := ledger.parted.mem_iff.mp (List.mem_map_of_mem (f := standing operations) member)
    simpa [nobody] using all
  rcases List.mem_append.mp stands with ended | runs
  · have named := List.mem_map_of_mem (f := Chore.id) ended
    simpa [HasLeft, Function.comp_def] using named
  · exact absurd ((standing_waits operations chore).mp (blocked _ runs)).1 free

/-- The jobs that run are no more than those accepted that are held up, if each of them is. -/
theorem Ledger.running_le (ledger : Ledger operations events bench)
    (distinct : ((submissions operations).map (·.id)).Nodup)
    (blocked : ∀ chore ∈ bench.running, chore.waits = true) :
    bench.running.length ≤ ((accepted events).filter (IsHeldUp operations ·)).length := by
  -- They differ by their names, and each of them is one of those.
  have once : bench.running.Nodup := by
    have names := ledger.names.nodup_iff.mp (ledger.distinct distinct)
    simp only [List.map_append] at names
    exact List.Nodup.of_map _ (List.nodup_append.mp (List.nodup_append.mp names).2.1).1
  refine (List.Nodup.subperm once fun chore runs => ?_).length_le
  obtain ⟨member, heldUp⟩ := ledger.heldUp_of_running runs (blocked chore runs)
  exact List.mem_filter.mpr ⟨member, decide_eq_true heldUp⟩

/-- A bench is never told to stop, and no two jobs of a name are submitted to it. Whenever it has
settled, a job that has been accepted has been started too, unless as many jobs run as may, all of
them waiting for a release that has not been given. So where fewer than that have been accepted,
every job has been started, and every other has come to its end. -/
theorem held_up_of_not_started (limits : WorkerLimits) (operations : List Operation)
    (unstopped : .abort ∉ operations) (distinct : ((submissions operations).map (·.id)).Nodup) :
    let run := performAll (spawn limits) (operations ++ [.settle])
    let events := history (operations ++ [.settle]) run.2
    ((∃ chore ∈ accepted events, ¬HasStarted events chore) →
        run.1.running.length = max limits.concurrency 1 ∧
          ∀ chore ∈ run.1.running, chore ∈ accepted events ∧ IsHeldUp operations chore) ∧
      (((accepted events).filter (IsHeldUp operations ·)).length < max limits.concurrency 1 →
        ∀ chore ∈ accepted events,
          HasStarted events chore ∧ (¬IsHeldUp operations chore → HasLeft events chore)) := by
  intro run events
  have ledger : Ledger operations events run.1 := ledger_settle limits unstopped distinct
  have rests : run.1.Rests := rests_settle limits unstopped distinct
  obtain ⟨within, -⟩ := sound_performAll limits (operations ++ [.settle])
  have slots : run.1.running.length + run.1.free = max limits.concurrency 1 :=
    within.slots.trans within.concurrency
  -- Whoever runs at rest waits for a release.
  have heldUp := fun chore runs => ledger.heldUp_of_running runs (rests.blocked chore runs)
  refine ⟨fun ⟨chore, member, unstarted⟩ => ⟨?_, heldUp⟩, fun few chore member => ?_⟩
  · -- Some job waits, so no slot is free.
    have full := rests.starved.resolve_left fun nobody =>
      unstarted (ledger.hasStarted nobody member)
    omega
  · -- A slot is free, so no job waits.
    have fewer := ledger.running_le distinct rests.blocked
    have nobody := rests.starved.resolve_right (by omega)
    exact ⟨ledger.hasStarted nobody member, ledger.hasLeft nobody rests.blocked member⟩

/-- A bench for one job at a time. Its first job waits to be released; the second, which will crash,
stays in the hand for want of a slot, and the third in the queue. Once the first has been released,
all are started and come to their end. -/
theorem held_up_of_not_started_release :
    let before : List Operation :=
      [.submit ⟨"a", true, false⟩, .settle, .submit ⟨"b", false, true⟩, .settle,
        .submit ⟨"c", false, false⟩]
    let run := performAll (spawn ⟨1, 1⟩) (before ++ [.settle])
    let events := history (before ++ [.settle]) run.2
    let after := before ++ [.settle, .release "a"]
    let released := performAll (spawn ⟨1, 1⟩) (after ++ [.settle])
    let more := history (after ++ [.settle]) released.2
    .abort ∉ after ∧ ((submissions after).map (·.id)).Nodup ∧
      ¬HasStarted events ⟨"b", false, true⟩ ∧ run.1.running.length = 1 ∧
      (∀ chore ∈ run.1.running, IsHeldUp before chore) ∧
      ∀ chore ∈ accepted more, HasStarted more chore ∧ HasLeft more chore := by
  intro before run events after released more
  -- Before the release, the second job has been accepted and not started.
  have unstarted :
      ⟨"b", false, true⟩ ∈ accepted events ∧ ¬HasStarted events ⟨"b", false, true⟩ := by
    decide +kernel
  obtain ⟨busy, -⟩ := held_up_of_not_started ⟨1, 1⟩ before (by decide) (by decide)
  obtain ⟨full, heldUp⟩ := busy ⟨_, unstarted⟩
  have free : ∀ chore ∈ accepted more, ¬IsHeldUp after chore := by decide +kernel
  have unstopped : .abort ∉ after := by decide
  have distinct : ((submissions after).map (·.id)).Nodup := by decide
  obtain ⟨-, idle⟩ := held_up_of_not_started ⟨1, 1⟩ after unstopped distinct
  -- With nothing held up any longer, there are more slots than jobs that could fill them.
  have all := idle (by decide +kernel)
  refine ⟨unstopped, distinct, unstarted.2, full, fun chore runs => (heldUp chore runs).2, ?_⟩
  exact fun chore member => ⟨(all chore member).1, (all chore member).2 (free chore member)⟩

end Tollgate.Bench
