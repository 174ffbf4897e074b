import Tollgate.Proofs.Catalog.Provision
import Tollgate.Proofs.Catalog.View
import Tollgate.Proofs.Gate.Management
import Tollgate.Proofs.Gate.Run
import Tollgate.Proofs.Worker.Settle

/-!
Mappings for the models that are shown. The catalog follows an announcement at once and forgets
again what is withdrawn; mappings come later, when the worker gets to its errand, and stay. At any
moment in between, whatever has been announced is mentioned by a mapping or waits for one.
-/

namespace Tollgate

namespace ModelEvent

/-- The event registers the model for the provider. -/
def Registers (event : ModelEvent) (provider : String) (model : Descriptor) : Prop :=
  ∃ connection models, event = .registered provider connection models ∧ model ∈ models

end ModelEvent

namespace Gate

open Vault (Watched)

variable {gate before after : Gate} {now : Instant} {operation : Operation}
  {recorded announced : List ModelEvent}

/-- The event that an operation announces, and the gate at that moment. -/
def Operation.announced? (gate : Gate) (now : Instant) : Operation → Option (Gate × ModelEvent)
  | .publish event => some (gate, event)
  | .serve request =>
    match gate.authenticate now request.path request.query request.headers with
    | (.error _, _) => none
    | (.ok context, admitted) =>
      let (handling, handled) :=
        admitted.converse (Web.dispatch now admitted.catalog context request)
      handling.event.map (handled, ·)
  | _ => none

/-- The event that an operation lets the catalog alone take note of. -/
def Operation.recorded? : Operation → Option ModelEvent
  | .record event => some event
  | _ => none

/-- If the worker starts a seeding, it is answered all it asks. -/
def answersSeeding (gate : Gate) : JobEvent Errand → Bool
  | .started (.seed provider models) =>
    (Seeding.seed provider models).allAnswered Watched.answer gate.store
  | _ => true

/-- All seedings that the worker starts are answered all they ask. -/
def answersSeedings (gate : Gate) (now : Instant) : List (JobEvent Errand) → Bool
  | [] => true
  | event :: rest => gate.answersSeeding event && (gate.follow now event).answersSeedings now rest

/-- The operation does not keep new models from getting their mappings: it does not stop the worker,
which accepts every seeding, and every seeding that is run meanwhile is answered all it asks. -/
def Operation.isHarmless (gate : Gate) (now : Instant) (operation : Operation) : Bool :=
  match operation with
  | .stopWorker => false
  | .settle =>
    let (worker, events) := gate.worker.settle fun _ => some .completed
    answersSeedings { gate with worker } now events
  | operation =>
    match operation.announced? gate now with
    | some (announcing, .registered _ _ _) => announcing.worker.accepts
    | _ => true

/-- No operation of the run keeps new models from getting their mappings. -/
def runsHarmlessly (gate : Gate) : List (Instant × Operation) → Bool
  | [] => true
  | (now, first) :: rest =>
    first.isHarmless gate now && (gate.perform now first).2.runsHarmlessly rest

/-- The events announced in a run. -/
def announcements (gate : Gate) : List (Instant × Operation) → List ModelEvent
  | [] => []
  | (now, first) :: rest =>
    ((first.announced? gate now).map (·.2)).toList ++ (gate.perform now first).2.announcements rest

/-- The events that the catalog alone takes note of in a run. -/
def records (history : List (Instant × Operation)) : List ModelEvent :=
  history.filterMap (·.2.recorded?)

/-- Nothing has happened that concerns the models registered, except that some of them may have got
mappings. At most, the use of a key is about to be recorded. -/
structure Aside (before after : Gate) : Prop where
  catalog : after.catalog = before.catalog
  worker : after.worker = before.worker ∨
    ∃ key, after.worker = (before.worker.move (.submit (.touch key))).1
  mentioned : ∀ provider model, before.tables.hasMapping provider model = true →
    after.tables.hasMapping provider model = true

theorem Aside.refl (gate : Gate) : Aside gate gate where
  catalog := rfl
  worker := Or.inl rfl
  mentioned _ _ := id

/-- A dialogue with the store concerns no models. -/
theorem Aside.converse {Result : Type} (aside : Aside before after)
    (dialogue : Dialogue Result) : Aside before (after.converse dialogue).2 where
  catalog := aside.catalog
  worker := aside.worker
  mentioned provider model known :=
    -- What dialogues do to the store takes no mapping away.
    (after.converse_becomes dialogue).hasMapping (aside.mentioned provider model known)

/-- Letting a request in or turning it away concerns no models. -/
theorem aside_authenticate (gate : Gate) (now : Instant) (path : String) (query : Option String)
    (headers : Web.Headers) : Aside gate (gate.authenticate now path query headers).2 where
  catalog := (gate.authenticate_keeps now path query headers).1
  worker := by
    -- The worker has nothing new to do, or the use of a key to record.
    rcases gate.authenticate_worker now path query headers with same | ⟨context, -, touched⟩
    · exact Or.inl same
    · exact Or.inr ⟨context.key, touched⟩
  mentioned provider model known :=
    (gate.authenticate_becomes now path query headers).hasMapping known

/-- An operation that announces an event does nothing else that concerns models. -/
theorem perform_of_announced? {announcing : Gate} {event : ModelEvent}
    (found : operation.announced? gate now = some (announcing, event)) :
    Aside gate announcing ∧ (gate.perform now operation).2 = announcing.publish event := by
  -- Only publications and requests announce anything.
  cases operation with
  | publish published =>
    cases found
    exact ⟨Aside.refl gate, rfl⟩
  | serve request =>
    have aside := gate.aside_authenticate now request.path request.query request.headers
    simp only [Operation.announced?] at found
    -- A request that is refused announces nothing.
    rcases admitted : gate.authenticate now request.path request.query request.headers with
      ⟨refusal | context, after⟩ <;> rw [admitted] at found aside
    · cases found
    · -- The event is what the handler comes to, and the handler does not do more about it.
      obtain ⟨announcedBy, handled, same⟩ := Option.map_eq_some_iff.mp found
      cases same
      refine ⟨aside.converse _, ?_⟩
      show (gate.serve now request).2 = _
      rw [serve_eq_guard, guard_of_ok admitted, carryOut_gate, handled]
      rfl
  | _ => cases found

/-- An operation that announces nothing and lets the catalog take note of nothing leaves the models
alone, unless it is for the worker. -/
theorem aside_perform (unannounced : operation.announced? gate now = none)
    (unrecorded : operation.recorded? = none) (unsettled : operation ≠ .settle)
    (unstopped : operation ≠ .stopWorker) : Aside gate (gate.perform now operation).2 := by
  -- No operation takes mappings away.
  have mentioned (provider model : String)
      (known : gate.tables.hasMapping provider model = true) :
      (gate.perform now operation).2.tables.hasMapping provider model = true :=
    perform_keeps (·.hasMapping provider model = true)
      (fun _ change known => Vault.Tables.hasMapping_write known change) known
  -- What is left for the other operations is to leave models alone.
  cases operation with
  | settle => exact absurd rfl unsettled
  | stopWorker => exact absurd rfl unstopped
  | publish event => cases unannounced
  | record event => cases unrecorded
  | authenticate path query headers => exact gate.aside_authenticate now path query headers
  | serve request =>
    have aside := gate.aside_authenticate now request.path request.query request.headers
    show Aside gate (gate.serve now request).2
    simp only [Operation.announced?] at unannounced
    rcases admitted : gate.authenticate now request.path request.query request.headers with
      ⟨refusal | context, after⟩ <;> rw [admitted] at unannounced aside
    · rw [serve_eq_guard, guard_of_error (by rw [admitted]), admitted]
      exact aside
    · -- The request is handled without an event, so only its dialogue is left.
      have quiet := Option.map_eq_none_iff.mp unannounced
      rw [serve_eq_guard, guard_of_ok admitted, carryOut_gate, quiet]
      exact aside.converse _
  | evaluate account instant thenFail =>
    obtain ⟨store, evaluated⟩ := gate.exists_evaluate_eq account instant thenFail
    have performed : (gate.perform now (.evaluate account instant thenFail)).2 =
        { gate with store } := evaluated
    exact ⟨by rw [performed], Or.inl (by rw [performed]), mentioned⟩
  | _ => exact ⟨rfl, Or.inl rfl, mentioned⟩

/-- The model is mentioned, or will be, for the worker has been asked to see to it. -/
def Foreseen (gate : Gate) (provider : String) (model : Descriptor) : Prop :=
  gate.tables.hasMapping provider model.id = true ∨
    ∃ models, .seed provider models ∈ gate.worker.waiting ∧ model ∈ models

/-- What holds of a gate that has announced some events and has let the catalog alone take note of
others, as long as nothing keeps new models from getting their mappings. -/
structure Provident (recorded announced : List ModelEvent) (gate : Gate) : Prop where
  isOpen : gate.worker.Open
  -- The catalog knows of no events but these.
  tracked : ∃ events, Catalog.Tracks events gate.catalog ∧
    ∀ event ∈ events, event ∈ recorded ∨ event ∈ announced
  -- Every model with a name that has been announced is seen to, live or not.
  foreseen : ∀ event ∈ announced, ∀ provider model, event.Registers provider model →
    provider ≠ "" → model.id ≠ "" → gate.Foreseen provider model

theorem provident_opened (zone : Calendar.Zone) (policy : Policy) (limits : WorkerLimits) :
    Provident [] [] (opened zone policy limits) where
  isOpen := Worker.open_spawn limits
  tracked := ⟨[], Catalog.tracks_nil, by simp⟩
  foreseen := by simp

/-- What concerns no models leaves all seen to that are. -/
theorem Foreseen.aside {provider : String} {model : Descriptor}
    (foreseen : before.Foreseen provider model) (aside : Aside before after) :
    after.Foreseen provider model := by
  -- What is mentioned stays mentioned, and what waits goes on waiting.
  rcases foreseen with known | ⟨models, waiting, listed⟩
  · exact Or.inl (aside.mentioned provider model.id known)
  · refine Or.inr ⟨models, ?_, listed⟩
    rcases aside.worker with same | ⟨key, touched⟩
    · rwa [same]
    · -- The record of a use waits behind, if it is accepted.
      rw [touched, Worker.waiting_submit]
      split
      · exact List.mem_append_left _ waiting
      · exact waiting

theorem Provident.aside (provident : Provident recorded announced before)
    (aside : Aside before after) : Provident recorded announced after where
  isOpen := by
    -- An errand that is submitted leaves an open worker open.
    rcases aside.worker with same | ⟨key, touched⟩
    · exact same ▸ provident.isOpen
    · exact touched ▸ provident.isOpen.submit _
  tracked := by
    rw [aside.catalog]
    exact provident.tracked
  foreseen event member provider model registers providerNamed named :=
    (provident.foreseen event member provider model registers providerNamed named).aside aside

/-- A catalog that takes note of one more event knows of no other. -/
theorem Provident.tracked_note (provident : Provident recorded announced gate)
    (event : ModelEvent) :
    ∃ events, Catalog.Tracks events (gate.catalog.note .inOrder event) ∧
      ∀ known ∈ events, known = event ∨ known ∈ recorded ∨ known ∈ announced := by
  -- The event comes behind all that the catalog knows of.
  obtain ⟨events, tracks, known⟩ := provident.tracked
  refine ⟨events ++ [event], tracks.note .inOrder event, ?_⟩
  intro other member
  rcases List.mem_append.mp member with earlier | last
  · exact Or.inr (known other earlier)
  · exact Or.inl (List.mem_singleton.mp last)

/-- What the catalog alone takes note of makes no difference to the mappings. -/
theorem Provident.record (provident : Provident recorded announced gate) (event : ModelEvent) :
    Provident (recorded ++ [event]) announced (gate.record event) := by
  -- The catalog is told, and nothing else in the gate.
  have worker : (gate.record event).worker = gate.worker := by cases event <;> rfl
  have tables : (gate.record event).tables = gate.tables := by cases event <;> rfl
  constructor
  · exact worker ▸ provident.isOpen
  · obtain ⟨events, tracks, known⟩ := provident.tracked_note event
    refine ⟨events, gate.record_catalog event ▸ tracks, ?_⟩
    intro other member
    rcases known other member with rfl | noted | published
    · exact Or.inl (by simp)
    · exact Or.inl (List.mem_append_left _ noted)
    · exact Or.inr published
  · simp only [Foreseen, worker, tables]
    exact provident.foreseen

/-- Models that are announced are seen to from the moment on that the worker accepts its errand. -/
theorem Provident.publish (provident : Provident recorded announced gate) {event : ModelEvent}
    (accepted : ∀ provider connection models, event = .registered provider connection models →
      gate.worker.accepts = true) :
    Provident recorded (announced ++ [event]) (gate.publish event) := by
  -- The catalog follows the event, which is one of those announced from now on.
  have tracked : ∃ events, Catalog.Tracks events (gate.publish event).catalog ∧
      ∀ known ∈ events, known ∈ recorded ∨ known ∈ announced ++ [event] := by
    obtain ⟨events, tracks, known⟩ := provident.tracked_note event
    refine ⟨events, gate.publish_catalog event ▸ tracks, ?_⟩
    intro other member
    rcases known other member with rfl | noted | published
    · exact Or.inr (by simp)
    · exact Or.inl noted
    · exact Or.inr (List.mem_append_left _ published)
  -- Only a registration asks for mappings.
  cases event with
  | withdrawn provider connection =>
    -- Nothing is asked of the worker, and the event registers nothing.
    refine ⟨provident.isOpen, tracked, ?_⟩
    intro other member owner model registers
    rcases List.mem_append.mp member with earlier | last
    · exact provident.foreseen other earlier owner model registers
    · obtain ⟨_, _, same, -⟩ := registers
      rw [List.mem_singleton.mp last] at same
      cases same
  | registered provider connection models =>
    have waiting : (gate.publish (.registered provider connection models)).worker.waiting =
        gate.worker.waiting ++ [.seed provider models] := by
      show (gate.worker.move (.submit (.seed provider models))).1.waiting = _
      rw [Worker.waiting_submit, accepted provider connection models rfl, if_pos rfl]
    refine ⟨provident.isOpen.submit _, tracked, ?_⟩
    intro other member owner model registers ownerNamed named
    rcases List.mem_append.mp member with earlier | last
    · -- What waited before goes on waiting.
      rcases provident.foreseen other earlier owner model registers ownerNamed named with
        known | ⟨listed, queued, inside⟩
      · exact Or.inl known
      · refine Or.inr ⟨listed, ?_, inside⟩
        rw [waiting]
        exact List.mem_append_left _ queued
    · -- The worker has just been asked to see to the model.
      obtain ⟨_, listed, same, inside⟩ := registers
      rw [List.mem_singleton.mp last] at same
      cases same
      refine Or.inr ⟨models, ?_, inside⟩
      rw [waiting]
      simp

/-- A model that the worker is asked to see to is mentioned after the worker has started to, if it
is answered all it asks. -/
theorem hasMapping_foldl_follow {events : List (JobEvent Errand)} {provider : String}
    {models : List Descriptor} {model : Descriptor}
    (answered : gate.answersSeedings now events = true)
    (started : .seed provider models ∈ events.filterMap (·.started?)) (providerNamed : provider ≠ "")
    (listed : model ∈ models) (named : model.id ≠ "") :
    (events.foldl (follow now) gate).tables.hasMapping provider model.id = true := by
  -- The worker is followed up to the start of the seeding, and mappings stay from then on.
  induction events generalizing gate with
  | nil => simp at started
  | cons event rest ih =>
    -- The event is followed, and then the rest with what it has left.
    obtain ⟨first, others⟩ := Bool.and_eq_true_iff.mp answered
    rw [List.foldl_cons]
    -- This is the seeding that was asked for, or it comes later.
    by_cases here : event = .started (.seed provider models)
    · subst here
      refine ((gate.follow now _).foldl_follow_becomes now rest).hasMapping ?_
      simp only [follow, converse, tables, Errand.dialogue, Dialogue.run_andThen,
        Dialogue.run_done]
      exact Seeding.hasMapping_run_seed first providerNamed listed named
    · refine ih others ?_
      rw [List.filterMap_cons] at started
      cases told : event.started? with
      | none => simpa [told] using started
      | some job =>
        rw [told] at started
        refine (List.mem_cons.mp started).resolve_left ?_
        rintro rfl
        cases event <;> cases told
        exact here rfl

/-- A worker that settles sees to all models that wait for it, if it is answered all it asks. -/
theorem Provident.settle (provident : Provident recorded announced gate)
    (harmless : Operation.settle.isHarmless gate now = true) :
    Provident recorded announced (gate.settle now) ∧ (gate.settle now).worker.waiting = [] ∧
      (gate.settle now).worker.running = [] := by
  -- An open worker that settles starts all that has waited, and nothing waits then.
  obtain ⟨isOpen, nothing, idle, started⟩ := provident.isOpen.settle
  have answered : answersSeedings
      { gate with worker := (gate.worker.settle fun _ => some .completed).1 } now
      (gate.worker.settle fun _ => some .completed).2 = true := harmless
  -- Settling is between the worker and the store, so the catalog stays as it is.
  obtain ⟨store, settled⟩ := exists_foldl_follow_eq
    { gate with worker := (gate.worker.settle fun _ => some .completed).1 } now
    (gate.worker.settle fun _ => some .completed).2
  have settled : gate.settle now =
      { gate with worker := (gate.worker.settle fun _ => some .completed).1, store } := settled
  -- All parts that speak of waiting errands are settled at once.
  have provident' : Provident recorded announced (gate.settle now) := by
    constructor
    · rw [settled]
      exact isOpen
    · rw [settled]
      exact provident.tracked
    · intro event member provider model registers providerNamed named
      left
      rcases provident.foreseen event member provider model registers providerNamed named with
        known | ⟨models, waiting, listed⟩
      · exact (gate.settle_becomes now).hasMapping known
      · -- What waited has been started.
        rw [← started] at waiting
        exact hasMapping_foldl_follow answered waiting providerNamed listed named
  exact ⟨provident', by rw [settled, nothing], by rw [settled, idle]⟩

/-- A harmless operation keeps the gate provident. -/
theorem Provident.perform (provident : Provident recorded announced gate)
    (harmless : operation.isHarmless gate now = true) :
    Provident (recorded ++ operation.recorded?.toList)
      (announced ++ ((operation.announced? gate now).map (·.2)).toList)
      (gate.perform now operation).2 := by
  -- Whether something is announced decides which part of the gate has to look to it.
  cases found : operation.announced? gate now with
  | some announcement =>
    obtain ⟨announcing, event⟩ := announcement
    obtain ⟨aside, published⟩ := perform_of_announced? found
    rw [published]
    -- No operation both announces an event and only records one.
    have unrecorded : operation.recorded? = none := by
      cases operation <;> first | rfl | cases found
    rw [unrecorded, Option.toList_none, List.append_nil]
    refine (provident.aside aside).publish ?_
    -- A harmless operation announces new models only to a worker that accepts the errand.
    rintro provider connection models rfl
    -- Only operations that announce something need the worker for that.
    cases operation with
    | publish event =>
      cases found
      exact harmless
    | serve request => simpa only [Operation.isHarmless, found] using harmless
    | _ => cases found
  | none =>
    rw [Option.map_none, Option.toList_none, List.append_nil]
    -- Nothing is announced: the worker settles, the catalog is told something, or neither.
    by_cases settles : operation = .settle
    · subst settles
      show Provident (recorded ++ []) announced (gate.settle now)
      rw [List.append_nil]
      exact (provident.settle harmless).1
    · cases noted : operation.recorded? with
      | some event =>
        cases operation <;> cases noted
        exact provident.record event
      | none =>
        rw [Option.toList_none, List.append_nil]
        have unstopped : operation ≠ .stopWorker := by
          rintro rfl
          cases harmless
        exact provident.aside (aside_perform found noted settles unstopped)

/-- A harmless run keeps the gate provident. -/
theorem Provident.performAll (provident : Provident recorded announced gate)
    {history : List (Instant × Operation)} (harmless : gate.runsHarmlessly history = true) :
    Provident (recorded ++ records history) (announced ++ gate.announcements history)
      (gate.performAll history).2 := by
  -- Each operation adds its own event to those before.
  induction history generalizing gate recorded announced with
  | nil => simpa [records, announcements, Gate.performAll] using provident
  | cons first rest ih =>
    -- The first operation is harmless, and so is what follows it.
    obtain ⟨now, operation⟩ := first
    obtain ⟨here, later⟩ := Bool.and_eq_true_iff.mp harmless
    have next := ih (provident.perform here) later
    rw [List.append_assoc, List.append_assoc] at next
    have records : records ((now, operation) :: rest) =
        operation.recorded?.toList ++ records rest := by
      rw [Gate.records, List.filterMap_cons]
      cases operation.recorded? <;> rfl
    rw [records]
    exact next

/-- The models listed for a provider have been registered for it by some event. -/
theorem Provident.exists_registers (provident : Provident recorded announced gate)
    {provider : String} {model : Descriptor} (listed : model ∈ gate.catalog.modelsOf provider) :
    provider ≠ "" ∧ model.id ≠ "" ∧
      ∃ event, (event ∈ recorded ∨ event ∈ announced) ∧ event.Registers provider model := by
  -- What is listed comes from an event that the catalog has followed.
  obtain ⟨events, tracks, known⟩ := provident.tracked
  simp only [Catalog.modelsOf] at listed
  split at listed
  · simp at listed
  · rename_i view shown
    -- Some live connection offers the model, and was registered by the last event about it.
    obtain ⟨connection, models, ⟨providerNamed, -, latest⟩, offers⟩ :=
      tracks.genuine ((tracks.mem_ordered shown).mp listed)
    obtain ⟨before, after, rfl, -, -⟩ := latest
    obtain ⟨ahead, behind, rfl, ⟨named, -⟩, -⟩ := offers
    refine ⟨providerNamed, named, .registered provider connection (ahead ++ model :: behind), ?_,
      connection, _, rfl, by simp⟩
    exact known _ (by simp)

/-- A run is harmless up to its last operation, and so is that. -/
theorem runsHarmlessly_concat (gate : Gate) (history : List (Instant × Operation))
    (now : Instant) (last : Operation) :
    gate.runsHarmlessly (history ++ [(now, last)]) =
      (gate.runsHarmlessly history && last.isHarmless (gate.performAll history).2 now) := by
  -- Harmless is what every operation of the run is, the last one included.
  induction history generalizing gate with
  | nil => simp [runsHarmlessly, Gate.performAll]
  | cons first rest ih =>
    simp only [List.cons_append, runsHarmlessly, ih, Bool.and_assoc]
    rfl

/-- After every settling of a run in which nothing kept new models from getting their mappings, each
model that is listed for a provider is mentioned by a mapping of the provider. The only exceptions
are models that the catalog alone has taken note of, while no announcement has ever been made of
their names. -/
theorem listed_models_are_mentioned (zone : Calendar.Zone) (policy : Policy)
    (limits : WorkerLimits) (history : List (Instant × Operation)) (now : Instant)
    (harmless : (opened zone policy limits).runsHarmlessly (history ++ [(now, .settle)]) = true) :
    let settled := ((opened zone policy limits).performAll (history ++ [(now, .settle)])).2
    settled.worker.waiting = [] ∧ settled.worker.running = [] ∧
      ∀ provider, ∀ model ∈ settled.catalog.modelsOf provider,
        settled.tables.hasMapping provider model.id = true ∨
          (∃ event ∈ records history, event.Registers provider model) ∧
            ∀ event ∈ (opened zone policy limits).announcements history, ∀ other,
              event.Registers provider other → other.key ≠ model.key := by
  intro settled
  -- All before the settling is harmless, and so is the settling itself.
  rw [runsHarmlessly_concat, Bool.and_eq_true] at harmless
  have same : settled = ((opened zone policy limits).performAll history).2.settle now :=
    performAll_concat _ history now .settle
  obtain ⟨provident, nothing, idle⟩ :=
    ((provident_opened zone policy limits).performAll harmless.1).settle harmless.2
  rw [← same] at provident nothing idle
  refine ⟨nothing, idle, ?_⟩
  intro provider model listed
  obtain ⟨providerNamed, named, event, known, registers⟩ := provident.exists_registers listed
  -- What has been announced is mentioned now, since nothing waits any longer.
  have mentioned (event : ModelEvent)
      (member : event ∈ (opened zone policy limits).announcements history) (other : Descriptor)
      (registers : event.Registers provider other) (same : other.key = model.key) :
      settled.tables.hasMapping provider model.id = true := by
    -- A model of the same folded name has a name as well.
    have otherNamed : other.id ≠ "" := by
      intro unnamed
      have key : model.key = Text.fold "" := by rw [← same, Descriptor.key, unnamed]
      exact Text.fold_ne_empty named (key.trans (by decide))
    -- The other model is mentioned by now, as no errand is left.
    rcases provident.foreseen event member provider other registers providerNamed otherNamed with
      found | ⟨models, waiting, -⟩
    · obtain ⟨mapping, inside, mentions⟩ := List.any_eq_true.mp found
      exact List.any_eq_true.mpr ⟨mapping, inside, Mapping.mentions_of_key_eq same mentions⟩
    · rw [nothing] at waiting
      simp at waiting
  -- A model of a name that has been announced is mentioned, whoever else has registered it.
  by_cases unannounced : ∀ event ∈ (opened zone policy limits).announcements history, ∀ other,
      event.Registers provider other → other.key ≠ model.key
  · right
    refine ⟨⟨event, ?_, registers⟩, unannounced⟩
    exact known.resolve_right fun published => unannounced event published model registers rfl
  · left
    simp only [not_forall, not_not] at unannounced
    obtain ⟨published, member, other, registers, same⟩ := unannounced
    exact mentioned published member other registers same

/-- Existing mappings are not seen while a model is registered, it comes again in other casing, and
one of its provider's models is chosen by hand for another name; a second connection is put into the
catalog alone. -/
theorem listed_models_are_mentioned_recased :
    let model (id : String) : Descriptor := ⟨id, none, none, none, []⟩
    let history : List (Instant × Operation) :=
      [(0, .setStale true), (1, .publish (.registered "P" "c" [model "Opus", model "Haiku"])),
        (2, .addMapping ⟨"p", "real", "HAIKU", true⟩), (3, .settle),
        (4, .publish (.registered "P" "c" [model "OPUS"])),
        (5, .record (.registered "P" "d" [model "own"]))]
    let start := opened .universal .standard .standard
    let settled := (start.performAll (history ++ [(6, .settle)])).2
    start.runsHarmlessly (history ++ [(6, .settle)]) = true ∧
      settled.catalog.merged.get? "P" = some [("opus", model "OPUS"), ("own", model "own")] ∧
      settled.tables.mappings = [⟨"p", "real", "HAIKU", true⟩, .identity "P" "Opus",
        .identity "P" "Haiku"] ∧
      ∃ event ∈ records history, event.Registers "P" (model "own") := by
  intro model history start settled
  -- The run is short enough to be computed, and no step of it does any harm.
  have harmless : start.runsHarmlessly (history ++ [(6, .settle)]) = true := by decide +kernel
  have shown : settled.catalog.merged.get? "P" =
      some [("opus", model "OPUS"), ("own", model "own")] := by decide +kernel
  have rows : settled.tables.mappings = [⟨"p", "real", "HAIKU", true⟩, .identity "P" "Opus",
      .identity "P" "Haiku"] := by decide +kernel
  obtain ⟨-, -, mentioned⟩ :=
    listed_models_are_mentioned .universal .standard .standard history 6 harmless
  refine ⟨harmless, shown, rows, ?_⟩
  -- The model that was only recorded is listed among the others.
  have listed : model "own" ∈ settled.catalog.modelsOf "P" := by
    simp only [Catalog.modelsOf, shown, Catalog.ordered, List.mem_map]
    exact ⟨("own", model "own"), Index.mem_sorted.mpr (by simp), rfl⟩
  rcases mentioned "P" (model "own") listed with known | ⟨recorded, -⟩
  · exact absurd known (by decide +kernel)
  · exact recorded

/-- A model that the catalog alone takes note of is listed without ever being mentioned. -/
theorem recorded_model_is_listed_unmentioned :
    ¬ ∀ (zone : Calendar.Zone) (policy : Policy) (limits : WorkerLimits)
      (history : List (Instant × Operation)) (now : Instant),
      (opened zone policy limits).runsHarmlessly (history ++ [(now, .settle)]) = true →
        let settled := ((opened zone policy limits).performAll (history ++ [(now, .settle)])).2
        ∀ provider, ∀ model ∈ settled.catalog.modelsOf provider,
          settled.tables.hasMapping provider model.id = true := by
  intro claimed
  -- The catalog is told of a model that is never announced.
  have mentioned := claimed .universal .standard .standard
    [(0, .record (.registered "p" "c" [⟨"m", none, none, none, []⟩]))] 1 (by decide +kernel)
    "p" ⟨"m", none, none, none, []⟩ (by decide +kernel)
  exact absurd mentioned (by decide +kernel)

end Gate

end Tollgate
