import Tollgate.Proofs.Gate.Management
import Tollgate.Proofs.Gate.Setting
import Tollgate.Proofs.Gate.Withdrawal
import Tollgate.Proofs.Vault.Use
import Tollgate.Proofs.Worker.Ledger

/-!
Which keys are on record as used. The record is made later than the use, by an errand of the worker
that may be refused, lost or in vain. So every errand that waits is traced back to a request that
was let in, and every record to an errand or to somebody who has made it by hand.
-/

namespace Tollgate

/-- The key whose use an errand is to record. -/
def Errand.touched? : Errand → Option KeyId
  | .touch key => some key
  | .seed _ _ => none

/-- Submits one job after another. -/
def Worker.submitAll {Job : Type} (worker : Worker Job) (jobs : List Job) : Worker Job :=
  jobs.foldl (fun worker job => (worker.move (.submit job)).1) worker

/-- An open worker stays open whatever is submitted. -/
theorem Worker.Open.submitAll {Job : Type} {worker : Worker Job} (isOpen : worker.Open)
    (jobs : List Job) : (worker.submitAll jobs).Open := by
  -- Submitting keeps a worker open, whether or not the job is accepted.
  induction jobs generalizing worker with
  | nil => exact isOpen
  | cons job rest ih => exact ih (isOpen.submit job)

/-- Seeding records no use. -/
theorem Seeding.quiet_seed (provider : String) (models : List Descriptor) :
    (seed provider models).AsksOnly (·.isTouch = false) := by
  have quiet (count : Nat) (models : List Descriptor) :
      (seedEach provider count models).AsksOnly (·.isTouch = false) := by
    -- Whatever comes of the calls for one model, the seeding goes on with the next.
    induction models generalizing count with
    | nil => exact Dialogue.asksOnly_done count
    | cons model rest ih =>
      refine ⟨rfl, ?_⟩
      -- The mapping is looked for, and added only if the answer is that there is none.
      rintro (outage | _ | _)
      · exact ih count
      · refine ⟨rfl, ?_⟩
        rintro (outage | _ | _)
        · exact ih count
        · exact ih count
        · exact ih (count + 1)
      · exact ih count
  unfold seed
  split
  · exact Dialogue.asksOnly_done 0
  · exact quiet 0 _

namespace Gate

open Vault (Watched)

/-- The key that has let a request in. -/
def admitted? : Admission.Verdict → Option KeyId
  | .ok (some context) => some context.key
  | _ => none

/-- The key that lets the request of an operation in. -/
def Operation.admitted? (gate : Gate) (now : Instant) : Operation → Option KeyId
  | .authenticate path query headers =>
    Gate.admitted? (gate.authenticate now path query headers).1
  | .serve request =>
    Gate.admitted? (gate.authenticate now request.path request.query request.headers).1
  | _ => none

/-- The operation brings a request to the gate. -/
def Operation.isRequest : Operation → Bool
  | .authenticate _ _ _ | .serve _ => true
  | _ => false

/-- The operation earns the key a record of its use: such a record is made by hand, or a request is
let in with the key. -/
def Operation.Earns (gate : Gate) (now : Instant) (operation : Operation) (key : KeyId) : Prop :=
  (∃ instant, operation = .direct (.touchKey key instant) ∧
      (gate.call (.touchKey key instant)).1 = .ok ()) ∨
    ∃ context, operation.Admits gate now context ∧ context.key = key

/-- In the course of a gate something has earned the key a record of its use. -/
def Earned (gate : Gate) (key : KeyId) (history : List (Instant × Operation)) : Prop :=
  ∃ former now operation latter, history = former ++ (now, operation) :: latter ∧
    operation.Earns (gate.performAll former).2 now key

/-- The keys whose uses wait to be recorded, the first one first. -/
def unrecorded (gate : Gate) : List KeyId := gate.worker.waiting.filterMap (·.touched?)

/-- When the worker settles at an instant, it gets to record a use of the key, and the gate is met
like this at that moment. -/
def GetsToRecord (gate : Gate) (now : Instant) (key : KeyId) (met : Gate) : Prop :=
  ∃ former latter,
    (gate.worker.settle fun _ => some .completed).2 = former ++ .started (.touch key) :: latter ∧
      met = former.foldl (follow now)
        { gate with worker := (gate.worker.settle fun _ => some .completed).1 }

/-- Nothing keeps the store from recording the use of keys. -/
structure KeepsRecords (gate : Gate) : Prop where
  inOrder : gate.store.vault.failing = false
  touching : gate.store.vault.failingTouch = false
  unlimited : gate.store.allowance = none

variable {gate met : Gate} {now : Instant} {operation : Operation} {key : KeyId}
  {context : Context}

/-- The key that lets a request in is that of the context it is given. -/
theorem admitted?_eq_some_iff (verdict : Admission.Verdict) :
    admitted? verdict = some key ↔ ∃ context, verdict = .ok (some context) ∧ context.key = key := by
  -- The verdict is a refusal, a request that needs no key, or a context.
  rcases verdict with refusal | _ | context <;> simp [admitted?]

/-- A request is let in by a key exactly if it is given a context of that key. -/
theorem Operation.admitted?_eq_some_iff :
    operation.admitted? gate now = some key ↔
      ∃ context, operation.Admits gate now context ∧ context.key = key := by
  cases operation with
  | authenticate path query headers => exact Gate.admitted?_eq_some_iff _
  | serve request => exact Gate.admitted?_eq_some_iff _
  | _ => simp [Operation.admitted?, Operation.Admits]

/-- Of all that is submitted, the uses of keys wait to be recorded if they are accepted. -/
theorem unrecorded_submit (worker : Worker Errand) (errand : Errand) :
    (worker.move (.submit errand)).1.waiting.filterMap (·.touched?) =
      worker.waiting.filterMap (·.touched?) ++
        if worker.accepts then errand.touched?.toList else [] := by
  -- The errand waits behind the others if it is accepted, and is nowhere if it is not.
  rw [Worker.waiting_submit]
  split
  · rw [List.filterMap_append]
    cases touched : errand.touched? <;> simp [touched]
  · rw [List.append_nil]

/-- Errands that record no use leave the uses that wait to be recorded as they are. -/
theorem unrecorded_submitAll {errands : List Errand}
    (others : ∀ errand ∈ errands, errand.touched? = none) (worker : Worker Errand) :
    (worker.submitAll errands).waiting.filterMap (·.touched?) =
      worker.waiting.filterMap (·.touched?) := by
  -- No errand in the list adds to the uses that wait, so none does after all of them.
  induction errands generalizing worker with
  | nil => rfl
  | cons errand rest ih =>
    have first := unrecorded_submit worker errand
    rw [others errand (by simp), Option.toList_none, ite_self, List.append_nil] at first
    rw [← first]
    exact ih (fun other member => others other (by simp [member])) _

/-- A request that is let in by a key gives the worker the errand to record the use of the key, and
any other request gives it none. -/
theorem worker_authenticate (gate : Gate) (now : Instant) (path : String) (query : Option String)
    (headers : Web.Headers) :
    (gate.authenticate now path query headers).2.worker =
      gate.worker.submitAll
        ((admitted? (gate.authenticate now path query headers).1).toList.map .touch) := by
  simp only [authenticate, converse]
  -- The errand is submitted only where the verdict has a context.
  split
  · rename_i context admitted
    simp only [admitted, admitted?]
    rfl
  · rename_i other
    -- Without a context the worker gets nothing, and the list of keys is empty.
    have unadmitted : admitted? ((Admission.ask gate.zone gate.policy now path query headers).run
        Watched.answer gate.store).1 = none := by
      rw [Option.eq_none_iff_forall_ne_some]
      intro key admitted
      obtain ⟨context, found, -⟩ := (admitted?_eq_some_iff _).mp admitted
      exact other context found
    simp only [unadmitted]
    rfl

/-- Announcing an event gives the worker no errand but a seeding. -/
theorem worker_publishAny (gate : Gate) (event : Option ModelEvent) :
    ∃ seedings : List Errand, (∀ errand ∈ seedings, errand.touched? = none) ∧
      (gate.publishAny event).worker = gate.worker.submitAll seedings := by
  -- Only the registration of models has something for the worker to do.
  rcases event with _ | ⟨provider, connection, models⟩ | ⟨provider, connection⟩
  · exact ⟨[], by simp, rfl⟩
  · exact ⟨[.seed provider models], by simp [Errand.touched?], rfl⟩
  · exact ⟨[], by simp, rfl⟩

/-- Unless it is for the worker itself, an operation gives it the errand to record the use of the
key that has let a request in, and after that at most a seeding. -/
theorem worker_perform (gate : Gate) (now : Instant) (unsettled : operation ≠ .settle)
    (unstopped : operation ≠ .stopWorker) :
    ∃ seedings : List Errand, (∀ errand ∈ seedings, errand.touched? = none) ∧
      (gate.perform now operation).2.worker =
        (gate.worker.submitAll ((operation.admitted? gate now).toList.map .touch)).submitAll
          seedings := by
  -- Requests and announcements are the only operations that have something for the worker.
  cases operation with
  | settle => exact absurd rfl unsettled
  | stopWorker => exact absurd rfl unstopped
  | authenticate path query headers =>
    exact ⟨[], by simp, gate.worker_authenticate now path query headers⟩
  | serve request =>
    have asked := gate.worker_authenticate now request.path request.query request.headers
    show ∃ seedings : List Errand, _ ∧ (gate.serve now request).2.worker = _
    rw [Operation.admitted?, ← asked]
    rcases admitted : gate.authenticate now request.path request.query request.headers with
      -- Either the request is refused, or it goes on to what it asks for.
      ⟨refusal | context, after⟩
    · rw [serve_eq_guard, guard_of_error (by rw [admitted]), admitted]
      exact ⟨[], by simp, rfl⟩
    · -- The errand of a request that is let in comes before that of the event it leads to.
      rw [serve_eq_guard, guard_of_ok admitted, carryOut_gate]
      exact worker_publishAny _ _
  | publish event => exact worker_publishAny gate (some event)
  | record event => cases event <;> exact ⟨[], by simp, rfl⟩
  | evaluate account instant thenFail =>
    obtain ⟨store, evaluated⟩ := gate.exists_evaluate_eq account instant thenFail
    refine ⟨[], by simp, ?_⟩
    show (gate.evaluate account instant thenFail).2.worker = _
    rw [evaluated]
    rfl
  | _ => exact ⟨[], by simp, rfl⟩

/-- Unless the worker settles, the uses that have waited go on waiting to be recorded, and behind
them that of the key that has let a request in, if the worker accepts the errand. -/
theorem unrecorded_perform (unsettled : operation ≠ .settle) :
    (gate.perform now operation).2.unrecorded =
      gate.unrecorded ++
        if gate.worker.accepts then (operation.admitted? gate now).toList else [] := by
  -- To be told to stop takes nothing away from the jobs that wait yet.
  by_cases unstopped : operation = .stopWorker
  · subst unstopped
    have waiting : (gate.worker.move .abort).1.waiting = gate.worker.waiting := by
      simp only [Worker.move]
      split <;> rfl
    show List.filterMap _ (gate.worker.move .abort).1.waiting = _
    have nobody : Operation.stopWorker.admitted? gate now = none := rfl
    rw [waiting, nobody, Option.toList_none, ite_self, List.append_nil]
    rfl
  · obtain ⟨seedings, others, moved⟩ := gate.worker_perform now unsettled unstopped
    rw [unrecorded, moved, unrecorded_submitAll others]
    cases operation.admitted? gate now with
    | none => simp [Worker.submitAll, unrecorded]
    | some key => exact unrecorded_submit gate.worker (.touch key)

/-- As long as it is not told to stop, the worker is open. -/
theorem open_perform (isOpen : gate.worker.Open) (unstopped : operation ≠ .stopWorker) :
    (gate.perform now operation).2.worker.Open := by
  -- The worker settles, or something may be submitted to it, and both keep it open.
  by_cases unsettled : operation = .settle
  · subst unsettled
    obtain ⟨store, settled⟩ := gate.exists_settle_eq now
    show (gate.settle now).worker.Open
    rw [settled]
    exact isOpen.settle.1
  · obtain ⟨seedings, -, moved⟩ := gate.worker_perform now unsettled unstopped
    rw [moved]
    exact (isOpen.submitAll _).submitAll _

/-- As long as it is not told to stop in it, the worker is open after every course. -/
theorem open_performAll {history : List (Instant × Operation)} (isOpen : gate.worker.Open)
    (unstopped : ∀ step ∈ history, step.2 ≠ .stopWorker) :
    (gate.performAll history).2.worker.Open := by
  -- The worker is open for each operation, since none before has told it to stop.
  induction history generalizing gate with
  | nil => exact isOpen
  | cons step rest ih =>
    exact ih (open_perform isOpen (unstopped step (by simp)))
      fun other member => unstopped other (by simp [member])

/-- A use that waits to be recorded waits for as long as the worker does not settle. -/
theorem mem_unrecorded_performAll {history : List (Instant × Operation)}
    (waits : key ∈ gate.unrecorded) (unsettled : ∀ step ∈ history, step.2 ≠ .settle) :
    key ∈ (gate.performAll history).2.unrecorded := by
  induction history generalizing gate with
  | nil => exact waits
  | cons step rest ih =>
    -- Whatever the operation adds comes behind what has waited so far.
    have still : key ∈ (gate.perform step.1 step.2).2.unrecorded := by
      rw [unrecorded_perform (unsettled step (by simp))]
      exact List.mem_append_left _ waits
    exact ih still fun other member => unsettled other (by simp [member])

/-- When the worker starts an errand, no key comes to be on record as used but the one whose use it
is to record. -/
theorem everUsed_follow {event : JobEvent Errand}
    (used : (gate.follow now event).tables.everUsed key = true) :
    gate.tables.everUsed key = true ∨ event = .started (.touch key) := by
  cases event with
  | started errand =>
    cases errand with
    -- A seeding makes no call that would record a use.
    | seed provider models =>
      have quiet : (Errand.dialogue now (.seed provider models)).AsksOnly (·.isTouch = false) :=
        Dialogue.asksOnly_andThen (Seeding.quiet_seed provider models)
          fun _ => Dialogue.asksOnly_done ()
      exact Or.inl ((Vault.everUsed_run quiet gate.store).symm.trans used)
    | touch touched =>
      have used : (gate.store.answer (.touchKey touched now)).2.vault.tables.everUsed key = true :=
        used
      -- If the store answers at all, it records the use of the very key of the errand.
      rcases Vault.watched_answer_touchKey touched now gate.store with ⟨-, kept⟩ | ⟨-, recorded⟩
      · rw [kept] at used
        exact Or.inl used
      · by_cases same : touched = key
        · exact Or.inr (by rw [same])
        · rw [recorded, Vault.Tables.everUsed_touch_of_ne same] at used
          exact Or.inl used
  | _ => exact Or.inl used

/-- The worker records no uses but those it starts to record. -/
theorem everUsed_foldl_follow {events : List (JobEvent Errand)}
    (used : (events.foldl (follow now) gate).tables.everUsed key = true) :
    gate.tables.everUsed key = true ∨ .touch key ∈ Worker.started events := by
  -- Each event hands on the gate that the one before it has left.
  induction events generalizing gate with
  | nil => exact Or.inl used
  | cons event rest ih =>
    -- What comes to be on record later is due to an errand started later.
    rcases ih used with before | later
    · rcases everUsed_follow before with earlier | here
      · exact Or.inl earlier
      · exact Or.inr (by simp [Worker.started, here, JobEvent.started?])
    · refine Or.inr ?_
      rw [← List.singleton_append, Worker.started_append]
      exact List.mem_append_right _ later

/-- A worker that settles records no uses but those that have waited for it. -/
theorem everUsed_settle (used : (gate.settle now).tables.everUsed key = true) :
    gate.tables.everUsed key = true ∨ key ∈ gate.unrecorded := by
  -- Errands that are started are among those that have waited.
  rcases everUsed_foldl_follow used with before | starts
  · exact Or.inl before
  · have waited := (gate.worker.settle_sublist fun _ => some .completed).subset
      (List.mem_append_left _ starts)
    exact Or.inr (List.mem_filterMap.mpr ⟨.touch key, waited, rfl⟩)

/-- A call made by hand records a use only if it is there for it and is answered. -/
theorem everUsed_call {call : Call} (used : (gate.call call).2.tables.everUsed key = true) :
    gate.tables.everUsed key = true ∨
      ∃ instant, call = .touchKey key instant ∧ (gate.call (.touchKey key instant)).1 = .ok () := by
  have used : (Vault.answer call gate.store.vault).2.tables.everUsed key = true := used
  cases call with
  | touchKey touched instant =>
    -- A store that answers has changed the row of one key alone.
    rcases Vault.answer_touchKey touched instant gate.store.vault with refused | recorded
    · rw [refused] at used
      exact Or.inl used
    · by_cases same : touched = key
      · subst same
        exact Or.inr ⟨instant, rfl, by rw [Gate.call, recorded]⟩
      · rw [recorded, Vault.Tables.everUsed_touch_of_ne same] at used
        exact Or.inl used
  | _ => exact Or.inl ((Vault.everUsed_answer rfl gate.store.vault).symm.trans used)

/-- No key comes to be on record as used but by hand, and by the worker that settles. -/
theorem everUsed_perform (used : (gate.perform now operation).2.tables.everUsed key = true) :
    gate.tables.everUsed key = true ∨ operation.Earns gate now key ∨
      (operation = .settle ∧ key ∈ gate.unrecorded) := by
  -- Changes to the store made by those who run it are told apart from calls to it.
  cases made : operation.write? with
  | some change =>
    -- The changes that operations are there to make are others.
    have other : ∀ instant, change ≠ .touch key instant := by
      cases operation <;> cases made <;> nofun
    rw [perform_of_write? made, Vault.Tables.everUsed_write_of_ne other] at used
    exact Or.inl used
  | none =>
    -- Besides calls by hand and the worker, no operation gets to record any use.
    cases operation with
    | direct call =>
      rcases everUsed_call used with before | ⟨instant, rfl, answered⟩
      · exact Or.inl before
      · exact Or.inr (Or.inl (Or.inl ⟨instant, rfl, answered⟩))
    | countFunding account =>
      have used : ((countFunding account).run Vault.answer gate.store.vault).2.tables.everUsed key =
          true := used
      rw [countFunding_tables] at used
      exact Or.inl used
    | settle =>
      rcases everUsed_settle used with before | waited
      · exact Or.inl before
      · exact Or.inr (Or.inr ⟨rfl, waited⟩)
    | authenticate path query headers =>
      have kept := (gate.authenticate_keeps now path query headers).2
      have used : (gate.authenticate now path query headers).2.tables.everUsed key = true := used
      rw [tables, kept] at used
      exact Or.inl used
    | evaluate account instant thenFail =>
      have used : (gate.evaluate account instant thenFail).2.tables.everUsed key = true := used
      rw [evaluate_tables] at used
      exact Or.inl used
    | seed provider models =>
      exact Or.inl ((Vault.everUsed_run (Seeding.quiet_seed provider models) gate.store).symm.trans
        used)
    | serve request =>
      have used : (gate.serve now request).2.tables.everUsed key = true := used
      rw [serve_tables] at used
      exact Or.inl used
    | publish event | record event => cases event <;> exact Or.inl used
    | openAccount _ | setDisabled _ _ | issueKey _ _ _ _ | revoke _ | deactivate _ | addBill _ _
    | addCard _ _ | addUse _ | addMapping _ => cases made
    | _ => exact Or.inl used

/-- What has been earned so far accounts for all records that have been made, and for those that are
still to be made. -/
structure Accounted (earned : KeyId → Prop) (gate : Gate) : Prop where
  used : ∀ key, gate.tables.everUsed key = true → earned key
  pending : ∀ key ∈ gate.unrecorded, earned key

/-- An operation leaves all records accounted for, with what it earns itself. -/
theorem Accounted.perform {earned : KeyId → Prop} (accounted : Accounted earned gate) (now : Instant)
    (operation : Operation) :
    Accounted (fun key => earned key ∨ operation.Earns gate now key)
      (gate.perform now operation).2 where
  used key used := by
    -- A record is there from before, is made now by hand, or by an errand that has waited.
    rcases everUsed_perform used with before | made | ⟨-, waited⟩
    · exact Or.inl (accounted.used key before)
    · exact Or.inr made
    · exact Or.inl (accounted.pending key waited)
  pending key waits := by
    by_cases settles : operation = .settle
    · -- What still waits after settling has waited before.
      subst settles
      obtain ⟨store, settled⟩ := gate.exists_settle_eq now
      have waits : key ∈ (gate.settle now).unrecorded := waits
      rw [unrecorded, settled] at waits
      obtain ⟨errand, still, touches⟩ := List.mem_filterMap.mp waits
      have waited := (gate.worker.settle_sublist fun _ => some .completed).subset
        (List.mem_append_right _ still)
      exact Or.inl (accounted.pending key (List.mem_filterMap.mpr ⟨errand, waited, touches⟩))
    · rw [unrecorded_perform settles] at waits
      rcases List.mem_append.mp waits with before | new
      · exact Or.inl (accounted.pending key before)
      · -- The errand has just been submitted for a request that was let in.
        right
        right
        split at new
        · exact Operation.admitted?_eq_some_iff.mp (Option.mem_toList.mp new)
        · simp at new

/-- A key that has earned a record of its use has done so in every longer course. -/
theorem Earned.append {history : List (Instant × Operation)} (earned : gate.Earned key history)
    (more : List (Instant × Operation)) : gate.Earned key (history ++ more) := by
  -- The operation that has earned it stands at the same place in the longer course.
  obtain ⟨former, now, operation, latter, rfl, earns⟩ := earned
  exact ⟨former, now, operation, latter ++ more, by simp, earns⟩

/-- After every course of a gate that has just been opened, all records are accounted for. -/
theorem accounted_performAll (zone : Calendar.Zone) (policy : Policy) (limits : WorkerLimits)
    (history : List (Instant × Operation)) :
    Accounted (fun key => (opened zone policy limits).Earned key history)
      ((opened zone policy limits).performAll history).2 := by
  -- The course grows at its end, and each operation adds what it earns.
  induction history using List.reverseRecOn with
  | nil =>
    -- Nothing has been stored, and nothing has been submitted.
    exact ⟨nofun, nofun⟩
  | append_singleton former step ih =>
    obtain ⟨now, operation⟩ := step
    have next := ih.perform now operation
    rw [performAll_concat]
    have earned (key : KeyId)
        (so : (opened zone policy limits).Earned key former ∨
          operation.Earns ((opened zone policy limits).performAll former).2 now key) :
        (opened zone policy limits).Earned key (former ++ [(now, operation)]) := by
      rcases so with before | here
      · exact before.append _
      · exact ⟨former, now, operation, [], rfl, here⟩
    exact ⟨fun key used => earned key (next.used key used),
      fun key waits => earned key (next.pending key waits)⟩

/-- A request is let in by a key that is stored. -/
theorem Operation.Admits.stored (admits : operation.Admits gate now context) :
    context.key ∈ gate.tables.keys.map (·.key.id) := by
  -- Whoever is let in by a key has had it found among the stored ones.
  obtain ⟨digest, found, located, rfl, -⟩ := admits.resolved
  obtain ⟨row, member, rfl⟩ := Vault.Tables.mem_of_keyOf? located
  exact List.mem_map.mpr ⟨row, member, rfl⟩

/-- The use of a key that lets a request in waits to be recorded, if the worker accepts the
errand. -/
theorem Operation.Admits.waits (admits : operation.Admits gate now context)
    (accepted : gate.worker.accepts = true) :
    context.key ∈ (gate.perform now operation).2.unrecorded := by
  have admitted : operation.admitted? gate now = some context.key :=
    Operation.admitted?_eq_some_iff.mpr ⟨context, admits, rfl⟩
  -- Settling is not a request, so the operation lets the uses go on waiting.
  have unsettled : operation ≠ .settle := by
    rintro rfl
    exact admits
  rw [unrecorded_perform unsettled, accepted, if_pos rfl, admitted]
  simp

/-- An open worker that settles gets to record every use that waits for it. -/
theorem exists_getsToRecord (isOpen : gate.worker.Open) (waits : key ∈ gate.unrecorded)
    (now : Instant) : ∃ met, gate.GetsToRecord now key met := by
  -- What waits for an open worker is started while it settles, in whichever order.
  obtain ⟨errand, waiting, touches⟩ := List.mem_filterMap.mp waits
  obtain rfl : errand = .touch key := by
    cases errand <;> cases touches
    rfl
  rw [← isOpen.settle.2.2.2] at waiting
  obtain ⟨event, happens, starts⟩ := List.mem_filterMap.mp waiting
  obtain rfl : event = .started (.touch key) := by
    cases event <;> cases starts
    rfl
  obtain ⟨former, latter, parted⟩ := List.append_of_mem happens
  exact ⟨_, former, latter, parted, rfl⟩

/-- A use is on record after the worker has settled if the store has answered when the worker got to
record it. -/
theorem GetsToRecord.everUsed (gets : gate.GetsToRecord now key met)
    (stored : key ∈ gate.tables.keys.map (·.key.id))
    (answered : (met.store.answer (.touchKey key now)).1 = .ok ()) :
    (gate.settle now).tables.everUsed key = true := by
  obtain ⟨former, latter, parted, rfl⟩ := gets
  -- Settling makes the events follow one another, so the record comes in between.
  have settled : gate.settle now = (former ++ .started (.touch key) :: latter).foldl (follow now)
      { gate with worker := (gate.worker.settle fun _ => some .completed).1 } := by
    rw [← parted]
    rfl
  rw [settled, List.foldl_append, List.foldl_cons]
  generalize reached : former.foldl (follow now)
    { gate with worker := (gate.worker.settle fun _ => some .completed).1 } = met at answered
  -- The key is still stored at that moment, and once its use is recorded it stays so.
  have still : key ∈ met.tables.keys.map (·.key.id) := by
    have becomes := foldl_follow_becomes
      { gate with worker := (gate.worker.settle fun _ => some .completed).1 } now former
    rw [reached] at becomes
    exact becomes.keeps (fun tables => key ∈ tables.keys.map (·.key.id))
      (fun _ change _ stored => Vault.Tables.stored_write stored change) stored
  have recorded : (met.follow now (.started (.touch key))).tables.everUsed key = true := by
    -- The store was asked just then, and it has answered.
    rcases Vault.watched_answer_touchKey key now met.store with ⟨refused, -⟩ | ⟨-, touched⟩
    · cases answered.symm.trans refused
    · show (met.store.answer (.touchKey key now)).2.vault.tables.everUsed key = true
      rw [touched]
      exact Vault.Tables.everUsed_touch still now
  exact (foldl_follow_becomes _ now latter).keeps (·.everUsed key = true)
    (fun _ change _ used => Vault.Tables.everUsed_write used change) recorded

/-- Calls do nothing about what may keep the store from recording the use of keys. -/
theorem KeepsRecords.converse {Result : Type} (keeps : gate.KeepsRecords)
    (dialogue : Dialogue Result) : (gate.converse dialogue).2.KeepsRecords := by
  -- Without a limit, the switch makes no difference to what a dialogue does to the store.
  have behind := Vault.run_watched_of_unlimited dialogue keeps.unlimited
  have same := Dialogue.run_keeps (fun vault : Vault => (vault.failing, vault.failingTouch))
    dialogue.asksOnly_any (fun call _ vault => by rw [Vault.answer_eq]) gate.store.vault
  rw [← behind.1, keeps.inOrder, keeps.touching] at same
  exact ⟨congrArg Prod.fst same, congrArg Prod.snd same, behind.2⟩

/-- Where nothing keeps the store from recording the use of keys, the worker is answered whenever it
gets to record one. -/
theorem KeepsRecords.answered (keeps : gate.KeepsRecords) (gets : gate.GetsToRecord now key met) :
    (met.store.answer (.touchKey key now)).1 = .ok () := by
  -- The errands before this one leave the store able to answer.
  obtain ⟨former, latter, -, rfl⟩ := gets
  have followed (events : List (JobEvent Errand)) (gate : Gate) (keeps : gate.KeepsRecords) :
      (events.foldl (follow now) gate).KeepsRecords := by
    -- Each event hands on a store as good as before.
    induction events generalizing gate with
    | nil => exact keeps
    | cons event rest ih =>
      refine ih _ ?_
      cases event with
      | started errand => exact keeps.converse (errand.dialogue now)
      | _ => exact keeps
  obtain ⟨inOrder, touching, unlimited⟩ := followed former
    { gate with worker := (gate.worker.settle fun _ => some .completed).1 }
    ⟨keeps.inOrder, keeps.touching, keeps.unlimited⟩
  simp [Watched.answer, unlimited, Vault.answer, Vault.refuses, inOrder, touching]

/-- A request that no key lets in leaves no trace in what the store keeps, and asks nothing of the
worker. -/
theorem perform_of_not_admits (asks : operation.isRequest = true)
    (nobody : ∀ context, ¬ operation.Admits gate now context) :
    (gate.perform now operation).2.tables = gate.tables ∧
      (gate.perform now operation).2.worker = gate.worker := by
  -- There is no key whose use could be recorded, for none has let the request in.
  have unadmitted : operation.admitted? gate now = none := by
    rw [Option.eq_none_iff_forall_ne_some]
    intro key admitted
    obtain ⟨context, admits, -⟩ := Operation.admitted?_eq_some_iff.mp admitted
    exact nobody context admits
  -- Requests only read from the store, and the worker gets no errand for them.
  cases operation with
  | authenticate path query headers =>
    refine ⟨congrArg Vault.tables (gate.authenticate_keeps now path query headers).2, ?_⟩
    have asked := gate.worker_authenticate now path query headers
    rw [show Gate.admitted? _ = none from unadmitted] at asked
    exact asked
  | serve request =>
    refine ⟨gate.serve_tables now request, ?_⟩
    have asked := gate.worker_authenticate now request.path request.query request.headers
    rw [show Gate.admitted? _ = none from unadmitted] at asked
    -- Who is not let in by a key has no access to management either.
    have unprivileged : gate.Unprivileged now request :=
      fun context admitted => absurd admitted (nobody context)
    obtain ⟨store, -, served⟩ := serve_of_unprivileged unprivileged
    show (gate.serve now request).2.worker = _
    rw [served]
    exact asked
  | _ => cases asks

/-- In every course of a gate since it was opened, a key is on record as used only if something has
earned it that: somebody has made the record by hand, or a request was let in with the key. Such a
request leads to the record if the worker accepts the errand. Unless it has been told to stop, the
worker gets to record the use when it settles next, and the record is there from then on if the
store answers, which it does if nothing is wrong with it. A request that no key lets in leaves no
trace. -/
theorem use_is_earned (zone : Calendar.Zone) (policy : Policy) (limits : WorkerLimits) :
    let start := opened zone policy limits
    (∀ history key,
      (start.performAll history).2.tables.everUsed key = true → start.Earned key history) ∧
    (∀ former now operation context between later,
      operation.Admits (start.performAll former).2 now context →
      (start.performAll former).2.worker.accepts = true →
      (∀ step ∈ between, step.2 ≠ .settle) →
        let settling := (start.performAll (former ++ (now, operation) :: between)).2
        ((∀ step ∈ former ++ between, step.2 ≠ .stopWorker) →
          ∃ met, settling.GetsToRecord later context.key met) ∧
        ∀ met, settling.GetsToRecord later context.key met →
          (settling.KeepsRecords ∨
            (met.store.answer (.touchKey context.key later)).1 = .ok ()) →
          ∀ rest, ((settling.settle later).performAll rest).2.tables.everUsed context.key = true) ∧
    ∀ history now operation, operation.isRequest = true →
      (∀ context, ¬ operation.Admits (start.performAll history).2 now context) →
        ((start.performAll history).2.perform now operation).2.tables =
            (start.performAll history).2.tables ∧
          ((start.performAll history).2.perform now operation).2.worker =
            (start.performAll history).2.worker := by
  intro start
  refine ⟨fun history key used => (accounted_performAll zone policy limits history).used key used,
    ?_, fun history now operation asks nobody => perform_of_not_admits asks nobody⟩
  intro former now operation context between later admits accepted unsettled settling
  -- The request is one of the operations between the start and the settling.
  have reached : settling =
      (((start.performAll former).2.perform now operation).2.performAll between).2 :=
    start.performAll_append former ((now, operation) :: between)
  constructor
  · -- The worker is still open, and the use has waited since the request.
    intro unstopped
    -- The request is not itself what tells the worker to stop.
    have going : operation ≠ .stopWorker := by
      rintro rfl
      exact admits
    have before : (start.performAll former).2.worker.Open :=
      open_performAll (Worker.open_spawn limits) fun step member =>
        unstopped step (List.mem_append_left _ member)
    have isOpen : settling.worker.Open := by
      rw [reached]
      exact open_performAll (open_perform before going) fun step member =>
        unstopped step (List.mem_append_right _ member)
    have waits : context.key ∈ settling.unrecorded := by
      rw [reached]
      exact mem_unrecorded_performAll (admits.waits accepted) unsettled
    exact exists_getsToRecord isOpen waits later
  · intro met gets answers rest
    -- The key is still stored, and so there is something to make the record of.
    have stored : context.key ∈ settling.tables.keys.map (·.key.id) := by
      rw [reached]
      have step (tables : Vault.Tables) (change : Vault.Write)
          (stored : context.key ∈ tables.keys.map (·.key.id)) :=
        Vault.Tables.stored_write stored change
      exact performAll_keeps _ step (perform_keeps _ step admits.stored) between
    have answered : (met.store.answer (.touchKey context.key later)).1 = .ok () :=
      answers.elim (fun keeps => keeps.answered gets) id
    exact performAll_keeps (·.everUsed context.key = true)
      (fun _ change used => Vault.Tables.everUsed_write used change)
      (gets.everUsed stored answered) rest

/-- The store cannot record the use of a key for a while, and so the first request that the key lets
in leads to no record. The second one does, and the record stays after the key has been
withdrawn. -/
theorem use_is_earned_second_request :
    let start := opened .universal .standard .standard
    let key : KeyId := ⟨"k"⟩
    let context : Context := ⟨key, "key-t", false, none⟩
    let request := Operation.authenticate "/v1/models" none [⟨"X-Api-Key", "t"⟩]
    let former : List (Instant × Operation) := [(0, .issueKey key "t" none false),
      (1, .setFailingTouch true), (2, request), (3, .settle), (4, .setFailingTouch false)]
    let between : List (Instant × Operation) := [(6, .deactivate key)]
    let settling := (start.performAll (former ++ (5, request) :: between)).2
    (start.performAll former).2.tables.everUsed key = false ∧
      request.Admits (start.performAll former).2 5 context ∧
      (start.performAll former).2.worker.accepts = true ∧ settling.KeepsRecords ∧
      start.Earned key (former ++ (5, request) :: between ++ [(7, .settle)]) ∧
      ∃ met, settling.GetsToRecord 7 key met ∧
        ((settling.settle 7).performAll [(8, .revoke key)]).2.tables.everUsed key = true := by
  intro start key context request former between settling
  -- The first use is not on record, and the worker can take on another.
  obtain ⟨unused, accepted⟩ : (start.performAll former).2.tables.everUsed key = false ∧
      (start.performAll former).2.worker.accepts = true := by decide +kernel
  have admits : request.Admits (start.performAll former).2 5 context := by
    show ((start.performAll former).2.authenticate 5 "/v1/models" none
      [⟨"X-Api-Key", "t"⟩]).1 = .ok (some context)
    decide +kernel
  obtain ⟨inOrder, touching, unlimited⟩ : settling.store.vault.failing = false ∧
      settling.store.vault.failingTouch = false ∧ settling.store.allowance = none := by
    decide +kernel
  have keeps : settling.KeepsRecords := ⟨inOrder, touching, unlimited⟩
  obtain ⟨earned, leads, -⟩ := use_is_earned .universal .standard .standard
  -- The worker has never been told to stop, so it gets to the second errand.
  obtain ⟨reaches, marks⟩ := leads former 5 request context between 7 admits accepted (by decide)
  obtain ⟨met, gets⟩ := reaches (by decide)
  have recorded : (start.performAll (former ++ (5, request) :: between ++
      [(7, .settle)])).2.tables.everUsed key = true := by
    rw [performAll_concat]
    exact marks met gets (Or.inl keeps) []
  exact ⟨unused, admits, accepted, keeps, earned _ key recorded, met, gets,
    marks met gets (Or.inl keeps) [(8, .revoke key)]⟩

end Gate

end Tollgate
