import Tollgate.Proofs.Catalog.Hub
import Tollgate.Proofs.Gate.Provision

/-!
A gate at which events are announced, and whose worker gives new models their mappings whenever it
settles, is one of the hubs at which announcements commute.
-/

namespace Tollgate

namespace Hub

variable {hub : Hub}

/-- Calls of one seeding in a row are turns of its dialogue. -/
theorem run_replicate_call (hub : Hub) (count place : Nat) :
    hub.run (List.replicate count (.call place)) =
      { hub with pool := hub.pool.run (List.replicate count ⟨place, false⟩) } := by
  induction count generalizing hub with
  | zero => rfl
  | succ count ih =>
    -- The first call is a turn of the dialogue at this place, and so are all others.
    simp only [List.replicate_succ, run, List.foldl_cons, Vault.Pool.run]
    exact ih (hub.step (.call place))

theorem run_append (hub : Hub) (moves more : List Move) :
    hub.run (moves ++ more) = (hub.run moves).run more :=
  List.foldl_append

end Hub

namespace Gate

open Seeding (Request)

variable {gate : Gate} {hub : Hub} {now : Instant} {waiting : List Request}

/-- The errand of giving the models of a provider their mappings. -/
def errandOf (request : Request) : Errand := .seed request.1 request.2

/-- The hub has the catalog and the store of the gate, and of its seedings these are yet to begin
while all others have come to their end. -/
structure Mirrored (hub : Hub) (waiting : List Request) (gate : Gate) : Prop where
  catalog : hub.catalog = gate.catalog
  vault : hub.pool.vault = gate.store.vault
  tasks : ∃ ended : List Nat, hub.pool.tasks =
    ended.map .done ++ waiting.map fun request => Seeding.seed request.1 request.2
  -- The store of the gate tells the truth, and lets everyone through.
  truthful : gate.store.vault.staleMappings = false
  unlimited : gate.store.allowance = none

/-- An announcement at a gate is one at the hub. -/
theorem Mirrored.publish (mirrored : Mirrored hub waiting gate) (event : ModelEvent) :
    Mirrored (hub.step (.announce .inOrder event)) (waiting ++ event.request?.toList)
      (gate.publish event) := by
  -- Catalog and queue aside, an announcement leaves the gate as it is.
  have store : (gate.publish event).store = gate.store := by cases event <;> rfl
  obtain ⟨ended, tasks⟩ := mirrored.tasks
  refine ⟨?_, ?_, ⟨ended, ?_⟩, ?_, ?_⟩
  · rw [publish_catalog, ← mirrored.catalog]
    rfl
  · rw [store, ← mirrored.vault]
    rfl
  · -- The seeding that begins at the hub is the one that the worker is asked for.
    show hub.pool.tasks ++ _ = _
    rw [tasks, List.map_append, List.append_assoc]
    cases event <;> rfl
  · rw [store]
    exact mirrored.truthful
  · rw [store]
    exact mirrored.unlimited

/-- A seeding that the worker starts makes all its calls at the hub, one after the other. -/
theorem Mirrored.started {request : Request} {rest : List Request}
    (mirrored : Mirrored hub (request :: rest) gate) (now : Instant) :
    ∃ calls : List Hub.Move, calls.filterMap (·.event?) = [] ∧
      Mirrored (hub.run calls) rest (gate.follow now (.started (errandOf request))) := by
  obtain ⟨catalog, vault, ⟨ended, tasks⟩, truthful, unlimited⟩ := mirrored
  -- The dialogue at the gate leads to the same store as at the hub.
  have held := Vault.run_watched_of_unlimited (Seeding.seed request.1 request.2) unlimited
  have followed : (gate.follow now (.started (errandOf request))).store =
      ((Seeding.seed request.1 request.2).run Vault.Watched.answer gate.store).2 := by
    simp only [follow, converse, errandOf, Errand.dialogue, Dialogue.run_andThen,
      Dialogue.run_done]
  obtain ⟨count, led⟩ := Vault.Pool.run_alone (ended.map .done)
    (rest.map fun request => Seeding.seed request.1 request.2)
    -- The store tells the truth, and so the dialogue is answered as at the hub.
    (Seeding.seed request.1 request.2) gate.store.vault
  rw [truthful] at led
  have pool : hub.pool = ⟨gate.store.vault, ended.map .done ++ Seeding.seed request.1 request.2 ::
      rest.map fun request => Seeding.seed request.1 request.2⟩ := by
    rw [← vault]
    exact congrArg (Vault.Pool.mk hub.pool.vault) tasks
  -- The dialogue comes to its end in so many calls, at its place behind those that have ended.
  refine ⟨.replicate count (.call (ended.map Dialogue.done).length), ?_, ?_⟩
  · simp [Hub.Move.event?]
  rw [Hub.run_replicate_call, pool, led]
  refine ⟨catalog, ?_, ⟨ended ++
    [((Seeding.seed request.1 request.2).run Vault.answer gate.store.vault).1], ?_⟩, ?_, ?_⟩
  · rw [followed, held.1]
  · rw [List.map_append, List.append_assoc]
    rfl
  · -- Calls do not change whether the store tells the truth.
    rw [followed, held.1]
    exact (Dialogue.run_keeps Vault.staleMappings (Dialogue.asksOnly_any _)
      (fun call _ => Vault.staleMappings_answer call) _).trans truthful
  · rw [followed]
    exact held.2

/-- What the worker does when it settles is a run of calls at the hub. -/
theorem Mirrored.foldl_follow (mirrored : Mirrored hub waiting gate) (now : Instant)
    {events : List (JobEvent Errand)}
    (told : events.filterMap (·.started?) = waiting.map errandOf) :
    ∃ calls : List Hub.Move, calls.filterMap (·.event?) = [] ∧
      Mirrored (hub.run calls) [] (events.foldl (follow now) gate) := by
  -- Events other than starts do nothing, and each start is that of the seeding that waits first.
  induction events generalizing hub gate waiting with
  | nil =>
    -- Nobody waits any more.
    obtain rfl : waiting = [] := by simpa using told.symm
    exact ⟨[], rfl, mirrored⟩
  | cons event rest ih =>
    rw [List.filterMap_cons] at told
    cases event with
    | started errand =>
      -- The seeding that is started is the one that has waited longest.
      obtain ⟨request, others, rfl, rfl, remaining⟩ := List.map_eq_cons_iff.mp told.symm
      obtain ⟨calls, quiet, next⟩ := mirrored.started now
      obtain ⟨more, alsoQuiet, last⟩ := ih next remaining.symm
      refine ⟨calls ++ more, by rw [List.filterMap_append, quiet, alsoQuiet]; rfl, ?_⟩
      rw [Hub.run_append]
      exact last
    -- At the hub there is nothing to match.
    | accepted errand | refused errand | left errand exit => exact ih mirrored told

/-- After any announcements, with the worker settling from time to time, the gate is one of the hubs
that have been told the same events. -/
theorem exists_hub_run {history : List (Instant × Operation)}
    (mirrored : Mirrored hub waiting gate) (isOpen : gate.worker.Open)
    (asked : gate.worker.waiting = waiting.map errandOf)
    (only : ∀ step ∈ history, step.2 = .settle ∨ ∃ event, step.2 = .publish event)
    (harmless : gate.runsHarmlessly history = true) :
    ∃ moves left, moves.filterMap (·.event?) = gate.announcements history ∧
      Mirrored (hub.run moves) left (gate.performAll history).2 ∧
      (gate.performAll history).2.worker.waiting = left.map errandOf := by
  -- Each operation is matched by moves of the hub: an announcement by one, a settling by calls.
  induction history generalizing hub gate waiting with
  -- Nothing has happened on either side.
  | nil => exact ⟨[], waiting, rfl, mirrored, asked⟩
  | cons first rest ih =>
    obtain ⟨now, operation⟩ := first
    obtain ⟨here, later⟩ := Bool.and_eq_true_iff.mp harmless
    have others := fun step member => only step (List.mem_cons_of_mem _ member)
    rcases only (now, operation) List.mem_cons_self with rfl | ⟨event, rfl⟩
    · -- The worker starts all seedings that wait, in their order.
      obtain ⟨settledOpen, nothing, -, started⟩ := isOpen.settle
      have same : Mirrored hub waiting
          { gate with worker := (gate.worker.settle fun _ => some .completed).1 } :=
        ⟨mirrored.catalog, mirrored.vault, mirrored.tasks, mirrored.truthful, mirrored.unlimited⟩
      obtain ⟨calls, quiet, next⟩ := same.foldl_follow now (started.trans asked)
      -- The errands of the worker change the store, and nothing else of the gate.
      have worker : (gate.settle now).worker =
          (gate.worker.settle fun _ => some .completed).1 := by
        obtain ⟨store, settled⟩ := exists_foldl_follow_eq
          { gate with worker := (gate.worker.settle fun _ => some .completed).1 } now
          (gate.worker.settle fun _ => some .completed).2
        exact congrArg Gate.worker settled
      have settled : Mirrored (hub.run calls) [] (gate.settle now) := next
      obtain ⟨moves, left, told, last, remains⟩ := ih settled
        (worker ▸ settledOpen) (by rw [worker, nothing]; rfl) others later
      refine ⟨calls ++ moves, left, ?_, ?_, remains⟩
      · rw [List.filterMap_append, quiet, told]
        rfl
      · rw [Hub.run_append]
        exact last
    · -- The worker accepts a seeding if there is one, and it waits behind all others.
      have next : (gate.publish event).worker.Open ∧ (gate.publish event).worker.waiting =
          (waiting ++ event.request?.toList).map errandOf := by
        -- Only registrations have seedings to be accepted.
        cases event with
        | withdrawn provider connection =>
          rw [ModelEvent.request?, Option.toList_none, List.append_nil]
          exact ⟨isOpen, asked⟩
        | registered provider connection models =>
          have accepted : gate.worker.accepts = true := here
          refine ⟨isOpen.submit _, ?_⟩
          show (gate.worker.move (.submit (.seed provider models))).1.waiting = _
          rw [Worker.waiting_submit, accepted, if_pos rfl, asked, List.map_append]
          rfl
      obtain ⟨moves, left, told, last, remains⟩ := ih (mirrored.publish event) next.1
        next.2 others later
      exact ⟨.announce .inOrder event :: moves, left, congrArg (event :: ·) told, last, remains⟩

/-- What a gate shows of connections and what it has mapped, with no seeding under way. -/
def asHub (gate : Gate) : Hub := ⟨gate.catalog, gate.store.vault, []⟩

/-- Nothing has been announced at the gate, and nothing is in the way of giving models mappings. -/
structure Unannounced (gate : Gate) : Prop where
  catalog : gate.catalog = .empty
  isOpen : gate.worker.Open
  waiting : gate.worker.waiting = []
  inOrder : gate.store.vault.failing = false
  truthful : gate.store.vault.staleMappings = false
  unlimited : gate.store.allowance = none

/-- A gate is a hub at which nothing has been announced, if nothing has been announced at the
gate. -/
theorem Unannounced.mirrored (unannounced : gate.Unannounced) :
    Mirrored (.opening gate.store.vault) [] gate where
  catalog := unannounced.catalog.symm
  vault := rfl
  tasks := ⟨[], rfl⟩
  truthful := unannounced.truthful
  unlimited := unannounced.unlimited

/-- Where no seeding is left to begin, all have come to their end. -/
theorem Mirrored.ended (mirrored : Mirrored hub [] gate) :
    (∃ counts, hub.pool.LeadsTo counts) ∧ hub.catalog = gate.asHub.catalog ∧
      -- What has ended tells what it has counted.
      hub.mappings = gate.asHub.mappings := by
  obtain ⟨ended, tasks⟩ := mirrored.tasks
  refine ⟨⟨ended, ?_⟩, mirrored.catalog, congrArg (·.tables.mappings) mirrored.vault⟩
  rw [Vault.Pool.LeadsTo, tasks]
  simp [Dialogue.result?]

/-- In a run that starts before anything has been announced, events of these connections have been
announced, with the worker settling from time to time. It has accepted all seedings, and none of
them is left. -/
structure Publishes (gate : Gate) (history : List (Instant × Operation))
    (sent : String → String → List ModelEvent) : Prop where
  unannounced : gate.Unannounced
  only : ∀ step ∈ history, step.2 = .settle ∨ ∃ event, step.2 = .publish event
  told : ModelEvent.Interleaves sent (gate.announcements history)
  harmless : gate.runsHarmlessly history = true
  settled : (gate.performAll history).2.worker.waiting = []

/-- What such a run has led to is what some hub shows that has been told the same. -/
theorem Publishes.exists_reflects {history : List (Instant × Operation)}
    {sent : String → String → List ModelEvent} (publishes : Publishes gate history sent) :
    ∃ other added stages, Hub.Reflects gate.tables.mappings (gate.announcements history) added
      stages other ∧ (∃ counts, other.pool.LeadsTo counts) ∧
        other.catalog = (gate.performAll history).2.asHub.catalog ∧
        other.mappings = (gate.performAll history).2.asHub.mappings := by
  have unannounced := publishes.unannounced
  -- The run is matched by moves of the hub from its beginning.
  obtain ⟨moves, left, told, mirrored, remains⟩ := exists_hub_run unannounced.mirrored
    unannounced.isOpen unannounced.waiting publishes.only publishes.harmless
  obtain rfl : left = [] := by simpa using remains.symm.trans publishes.settled
  -- What hubs reflect holds of this one, which has been told the same events.
  obtain ⟨added, stages, reflects⟩ := (Hub.reflects_opening unannounced.inOrder).run moves
  rw [told, List.nil_append, List.nil_append] at reflects
  exact ⟨_, added, stages, reflects, mirrored.ended⟩

/-- Whatever order the events of different connections are announced in at two gates, and whenever
their workers settle: in the end both show the same of the connections and have the same mapped. -/
theorem publications_commute {other : Gate} {history rest : List (Instant × Operation)}
    {sent : String → String → List ModelEvent} (publishes : Publishes gate history sent)
    (alsoPublishes : Publishes other rest sent)
    (same : gate.tables.mappings = other.tables.mappings) :
    Hub.Alike (gate.performAll history).2.asHub (other.performAll rest).2.asHub := by
  -- Both runs are those of hubs, and these are alike.
  obtain ⟨_, _, _, reflects, ⟨counts, ended⟩, catalog, mappings⟩ := publishes.exists_reflects
  obtain ⟨_, _, _, mirrors, ⟨more, alsoEnded⟩, catalog', mappings'⟩ :=
    alsoPublishes.exists_reflects
  rw [← same] at mirrors
  have alike := reflects.alike mirrors publishes.told alsoPublishes.told ended alsoEnded
  -- What is alike are the readings of catalogs and mappings.
  constructor
  · rw [← catalog, ← catalog']
    exact alike.providers
  · rw [← catalog, ← catalog']
    exact alike.names
  · simp only [Hub.Undisputed, ← catalog, ← catalog']
    exact alike.models
  · rw [← mappings, ← mappings']
    exact alike.mapped

/-- Two connections register one model in different casing, in either order, and one of them
withdraws. Each gate has mapped what it was told first, and both look the same. -/
theorem publications_commute_two_orders :
    let gate := opened .universal .standard .standard
    let named (id : String) : Descriptor := ⟨id, none, none, none, []⟩
    let upper := ModelEvent.registered "p" "c" [named "Opus"]
    let lower := ModelEvent.registered "p" "d" [named "opus", named "haiku"]
    let gone := ModelEvent.withdrawn "p" "c"
    let history := [(0, Operation.publish upper), (1, .settle), (2, .publish lower),
      (3, .publish gone), (4, .settle)]
    let rest := [(0, Operation.publish lower), (1, .publish upper), (2, .publish gone), (3, .settle)]
    let sent := ModelEvent.about [upper, lower, gone]
    Publishes gate history sent ∧ Publishes gate rest sent ∧
      (gate.performAll history).2.tables.mappings =
        [.identity "p" "Opus", .identity "p" "haiku"] ∧
      (gate.performAll rest).2.tables.mappings =
        [.identity "p" "opus", .identity "p" "haiku"] ∧
      Hub.Alike (gate.performAll history).2.asHub (gate.performAll rest).2.asHub := by
  intro gate named upper lower gone history rest sent
  -- A gate just opened is in order, and its worker is open.
  have unannounced : gate.Unannounced :=
    ⟨rfl, Worker.open_spawn _, rfl, rfl, rfl, rfl⟩
  have publishes : Publishes gate history sent :=
    ⟨unannounced, by simp [history], fun _ _ => rfl, by decide +kernel, by decide +kernel⟩
  have retold : ModelEvent.Interleaves sent (gate.announcements rest) := by
    intro provider connection
    show ModelEvent.about [lower, upper, gone] provider connection =
      ModelEvent.about [upper, lower, gone] provider connection
    -- The two events that have changed places are about different connections.
    by_cases first : "c" = connection
    · subst first
      simp [ModelEvent.about, ModelEvent.Names, ModelEvent.provider, ModelEvent.connection,
        List.filter_cons, upper, lower, gone]
    · simp [ModelEvent.about, ModelEvent.Names, ModelEvent.provider, ModelEvent.connection,
        List.filter_cons, upper, lower, gone, first]
  have alsoPublishes : Publishes gate rest sent :=
    ⟨unannounced, by simp [rest], retold, by decide +kernel, by decide +kernel⟩
  exact ⟨publishes, alsoPublishes, by decide +kernel, by decide +kernel,
    publications_commute publishes alsoPublishes rfl⟩

end Gate

end Tollgate
