import Tollgate.Proofs.Gate.Rejection
import Tollgate.Proofs.Gate.Run

/-!
Management by those who have no access to it. Their requests announce nothing, and what they are
told about the providers is the same whatever is registered.
-/

namespace Tollgate

namespace Web

variable {now : Instant} {context : Option Context} {request : Request} {resource : Resource}

/-- Those without access to management are refused, whatever would have been done for others. -/
theorem forAdmin_of_not (unprivileged : isAdmin context = false) (handling : Handling) :
    forAdmin context handling = .refused .forbidden := by
  -- The guard comes first in every handler.
  rw [forAdmin, unprivileged, if_neg Bool.false_ne_true]

/-- Reading the name of a segment has no effect of its own. -/
theorem event_named {go : String → Handling} (quiet : ∀ name, (go name).event = none)
    (segment : Segment) : (named segment go).event = none := by
  unfold named
  -- A segment with no name is answered at once.
  split
  · rfl
  · exact quiet _

/-- Models sent by those without access to management are not registered. -/
theorem event_registerModels (unprivileged : isAdmin context = false) (headers : Headers)
    (body provider connection : String) :
    (registerModels context headers body provider connection).event = none := by
  -- The body is read before anybody asks who sent it, but nothing is announced on that account.
  unfold registerModels
  split
  · rfl
  · split
    · rfl
    · split
      · rfl
      · rw [forAdmin_of_not unprivileged]
        rfl

/-- Whatever those without access to management ask for, nothing is announced. -/
theorem endsIn_handle (unprivileged : isAdmin context = false) (catalog : Catalog) :
    (handle now catalog context request resource).EndsIn (·.event = none) := by
  -- All handlers of management guard what they do, and the others announce nothing by their nature.
  cases resource with
  | health =>
    apply Dialogue.endsIn_demand
    · exact fun _ => rfl
    · exact fun _ => rfl
  | clientModels => rfl
  | connectionModels provider connection =>
    exact event_named (fun provider => event_named
      (fun connection => event_registerModels unprivileged request.headers request.body _ _) _) _
  | connection provider connection =>
    refine event_named (fun provider => event_named (fun connection => ?_) _) _
    rw [withdrawConnection, forAdmin_of_not unprivileged]
    rfl
  | providerModels provider =>
    refine event_named (fun provider => ?_) _
    rw [showProvider, forAdmin_of_not unprivileged]
    rfl
  | providerModel provider model =>
    refine event_named (fun provider => event_named (fun model => ?_) _) _
    rw [showModel, forAdmin_of_not unprivileged]
    rfl

/-- Whatever their path and method, requests of those without access to management announce
nothing. -/
theorem endsIn_dispatch (unprivileged : isAdmin context = false) (catalog : Catalog) :
    (dispatch now catalog context request).EndsIn (·.event = none) := by
  unfold dispatch
  split
  · rfl
  · split
    · exact endsIn_handle unprivileged catalog
    · rfl

/-- No management is shown any part of the catalog to those without access to it. -/
theorem handle_blind (unprivileged : isAdmin context = false)
    (managed : resource.isManagement = true) (catalog other : Catalog) :
    handle now catalog context request resource = handle now other context request resource := by
  -- Only two of the handlers read the catalog, and both ask the guard first.
  cases resource with
  | health | clientModels => cases managed
  | connectionModels _ _ | connection _ _ => rfl
  | providerModels provider =>
    have same : showProvider catalog context = showProvider other context := by
      funext provider
      simp only [showProvider, forAdmin_of_not unprivileged]
    simp only [handle, same]
  | providerModel provider model =>
    have same : showModel catalog context = showModel other context := by
      funext provider model
      simp only [showModel, forAdmin_of_not unprivileged]
    simp only [handle, same]

/-- The path names something that is for management alone. -/
def Request.concernsManagement (request : Request) : Prop :=
  ∃ resource, Resource.ofPath? request.path = some resource ∧ resource.isManagement = true

/-- Requests for management are handled alike for those without access to it, whatever is
registered. -/
theorem dispatch_blind (unprivileged : isAdmin context = false)
    (concerns : request.concernsManagement) (catalog other : Catalog) :
    dispatch now catalog context request = dispatch now other context request := by
  obtain ⟨resource, named, managed⟩ := concerns
  -- Route and method are settled without the catalog.
  simp only [dispatch, named]
  rw [handle_blind unprivileged managed catalog other]

/-- Handling a request asks the store at most whether it is there. -/
theorem onlyReads_dispatch (now : Instant) (catalog : Catalog) (context : Option Context)
    (request : Request) : (dispatch now catalog context request).OnlyReads := by
  unfold dispatch
  -- Only the handling of a resource under its own method can ask anything.
  split
  · exact Dialogue.onlyReads_done _
  · rename_i resource _
    split
    · -- Only the state of the service is asked for.
      cases resource with
      | health => exact Dialogue.onlyReads_demand rfl fun _ => Dialogue.onlyReads_done _
      | _ => exact Dialogue.onlyReads_done _
    · exact Dialogue.onlyReads_done _

end Web

namespace Gate

/-- The gate with other models registered. -/
def withCatalog (gate : Gate) (catalog : Catalog) : Gate := { gate with catalog }

/-- A request changes nothing that is managed, and tells nothing of it. -/
structure Unmanaging (gate : Gate) (now : Instant) (request : Web.Request) : Prop where
  -- If it is handled at all, no event comes of it.
  quiet : ∀ context after,
    gate.authenticate now request.path request.query request.headers = (.ok context, after) →
      (after.converse (Web.dispatch now after.catalog context request)).1.event = none
  -- What is registered stays, and so do the tables of the store with all mappings.
  catalog : (gate.serve now request).2.catalog = gate.catalog
  vault : (gate.serve now request).2.store.vault = gate.store.vault
  -- The worker is given nothing but the record of the use of the key, if a key has been used.
  worker : (gate.serve now request).2.worker = gate.worker ∨
    ∃ context,
      (gate.authenticate now request.path request.query request.headers).1 = .ok (some context) ∧
        (gate.serve now request).2.worker =
          (gate.worker.move (.submit (.touch context.key))).1
  -- Where the path is for management, all goes the same way with any other models registered.
  blind : request.concernsManagement → ∀ other,
    (gate.withCatalog other).serve now request =
      ((gate.serve now request).1, (gate.serve now request).2.withCatalog other)

variable {gate : Gate} {now : Instant} {path : String} {query : Option String}
  {headers : Web.Headers} {request : Web.Request} {context : Option Context} {after : Gate}

/-- Letting a request in changes nothing that is managed. -/
theorem authenticate_keeps (gate : Gate) (now : Instant) (path : String) (query : Option String)
    (headers : Web.Headers) :
    (gate.authenticate now path query headers).2.catalog = gate.catalog ∧
      (gate.authenticate now path query headers).2.store.vault = gate.store.vault := by
  -- The store is only read, and the use of a key is left to the worker.
  have kept := Vault.run_watched_keeps
    (Admission.onlyReads_ask gate.zone gate.policy now path query headers) gate.store
  simp only [authenticate, converse]
  split <;> exact ⟨rfl, kept⟩

/-- Letting a request in gives the worker at most the record of the use of the key. -/
theorem authenticate_worker (gate : Gate) (now : Instant) (path : String)
    (query : Option String) (headers : Web.Headers) :
    (gate.authenticate now path query headers).2.worker = gate.worker ∨
      ∃ context, (gate.authenticate now path query headers).1 = .ok (some context) ∧
        (gate.authenticate now path query headers).2.worker =
          (gate.worker.move (.submit (.touch context.key))).1 := by
  simp only [authenticate, converse]
  -- A context is there only if a key has been checked, and its use is then submitted.
  split
  · rename_i context admitted
    exact Or.inr ⟨context, admitted, rfl⟩
  · exact Or.inl rfl

/-- Nobody looks at what is registered to let a request in. -/
theorem authenticate_withCatalog (gate : Gate) (other : Catalog) (now : Instant) (path : String)
    (query : Option String) (headers : Web.Headers) :
    (gate.withCatalog other).authenticate now path query headers =
      ((gate.authenticate now path query headers).1,
        (gate.authenticate now path query headers).2.withCatalog other) := by
  simp only [authenticate, converse, withCatalog]
  -- Whether there is a context to record the use of does not depend on the catalog.
  split <;> rfl

/-- Where nothing is announced, the gate is left as the dialogue with the store has left it. -/
theorem carryOut_of_quiet {dialogue : Dialogue Web.Handling} (gate : Gate)
    (request : Web.Request) (ends : dialogue.EndsIn (·.event = none)) :
    gate.carryOut request dialogue =
      ((gate.converse dialogue).1.response.sentFor request, (gate.converse dialogue).2) := by
  have quiet : (gate.converse dialogue).1.event = none := Dialogue.run_endsIn ends _ _
  simp only [carryOut, quiet, publishAny]

/-- Nobody looks at what is registered to send what announces nothing. -/
theorem carryOut_withCatalog {dialogue : Dialogue Web.Handling} (gate : Gate) (other : Catalog)
    (request : Web.Request) (ends : dialogue.EndsIn (·.event = none)) :
    (gate.withCatalog other).carryOut request dialogue =
      ((gate.carryOut request dialogue).1,
        (gate.carryOut request dialogue).2.withCatalog other) := by
  -- With nothing to announce, only the store differs before and after.
  rw [carryOut_of_quiet _ _ ends, carryOut_of_quiet _ _ ends]
  rfl

/-- The request is not let in for somebody with access to management. -/
def Unprivileged (gate : Gate) (now : Instant) (request : Web.Request) : Prop :=
  ∀ context, (gate.authenticate now request.path request.query request.headers).1 =
    .ok (some context) → context.admin = false

/-- A handler is told of nobody with access to management. -/
theorem Unprivileged.isAdmin (unprivileged : gate.Unprivileged now request)
    (admitted : gate.authenticate now request.path request.query request.headers =
      (.ok context, after)) : Web.isAdmin context = false := by
  -- On an open path there is no context at all, and no access either.
  cases context with
  | none => rfl
  | some context => exact unprivileged context (by rw [admitted])

/-- Nothing is done about such a request once it has been let in, but that the store may be asked
whether it is there. -/
theorem serve_of_unprivileged (unprivileged : gate.Unprivileged now request) :
    ∃ store : Vault.Watched, store.vault = gate.store.vault ∧
      (gate.serve now request).2 =
        { (gate.authenticate now request.path request.query request.headers).2 with store } := by
  have kept := (gate.authenticate_keeps now request.path request.query request.headers).2
  rcases admitted : gate.authenticate now request.path request.query request.headers with
    ⟨refusal | context, after⟩ <;> rw [admitted] at kept
  · -- The request is turned away, and nothing more is done.
    refine ⟨after.store, kept, ?_⟩
    rw [serve_eq_guard, guard_of_error (by rw [admitted]), admitted]
  · -- The request is handled, and the handler announces nothing.
    have reads := Web.onlyReads_dispatch now after.catalog context request
    refine ⟨(after.converse (Web.dispatch now after.catalog context request)).2.store,
      (Vault.run_watched_keeps reads after.store).trans kept, ?_⟩
    rw [serve_eq_guard, guard_of_ok admitted,
      carryOut_of_quiet _ _ (Web.endsIn_dispatch (unprivileged.isAdmin admitted) _)]
    rfl

/-- Answering a request leaves what the store keeps as it is. -/
theorem serve_tables (gate : Gate) (now : Instant) (request : Web.Request) :
    (gate.serve now request).2.tables = gate.tables := by
  have kept := (gate.authenticate_keeps now request.path request.query request.headers).2
  rcases admitted : gate.authenticate now request.path request.query request.headers with
    ⟨refusal | context, after⟩ <;> rw [admitted] at kept
  · rw [serve_eq_guard, guard_of_error (by rw [admitted]), admitted]
    -- The store is only read on the way in.
    exact congrArg Vault.tables kept
  · have reads := Web.onlyReads_dispatch now after.catalog context request
    -- Handling reads as well, and an event leaves the tables alone.
    rw [serve_eq_guard, guard_of_ok admitted, carryOut_gate, publishAny_tables]
    exact congrArg Vault.tables ((Vault.run_watched_keeps reads after.store).trans kept)

/-- What is registered makes no difference to such a request, if it is about management. -/
theorem serve_withCatalog (unprivileged : gate.Unprivileged now request)
    (concerns : request.concernsManagement) (other : Catalog) :
    (gate.withCatalog other).serve now request =
      ((gate.serve now request).1, (gate.serve now request).2.withCatalog other) := by
  have same := authenticate_withCatalog gate other now request.path request.query request.headers
  rcases admitted : gate.authenticate now request.path request.query request.headers with
    ⟨refusal | context, after⟩ <;> rw [admitted] at same
  · rw [serve_eq_guard, serve_eq_guard, guard_of_error (by rw [same]),
      -- Turned away before any handler sees the catalog.
      guard_of_error (by rw [admitted]), same, admitted]
  · -- The handler does the same in both cases, and announces nothing.
    have known := unprivileged.isAdmin admitted
    have alike : Web.dispatch now other context request =
        Web.dispatch now after.catalog context request :=
      Web.dispatch_blind known concerns other after.catalog
    rw [serve_eq_guard, serve_eq_guard, guard_of_ok same, guard_of_ok admitted]
    show (after.withCatalog other).carryOut request (Web.dispatch now other context request) = _
    rw [alike]
    exact carryOut_withCatalog after other request (Web.endsIn_dispatch known _)

/-- A request that is not let in for somebody with access to management changes nothing that is
managed, and is told nothing of it. -/
theorem unprivileged_manages_nothing (gate : Gate) (now : Instant) (request : Web.Request)
    (unprivileged : gate.Unprivileged now request) : Unmanaging gate now request := by
  have kept := gate.authenticate_keeps now request.path request.query request.headers
  obtain ⟨store, same, served⟩ := serve_of_unprivileged unprivileged
  constructor
  · -- Each field is one of the lemmas above.
    intro context after admitted
    exact Dialogue.run_endsIn (Web.endsIn_dispatch (unprivileged.isAdmin admitted) _) _ _
  · rw [served]
    exact kept.1
  · rw [served]
    exact same
  · rw [served]
    exact gate.authenticate_worker now request.path request.query request.headers
  · exact fun concerns other => serve_withCatalog unprivileged concerns other

/-- The bearer of a key that gives no access to management registers a model, in a body that would
be accepted from others. -/
theorem unprivileged_manages_nothing_registering :
    let gate := ((opened .universal .standard .standard).performAll
      [(0, .publish (.registered "p" "c" [⟨"m", none, none, none, []⟩])),
        (1, .issueKey ⟨"k"⟩ "t" none false)]).2
    let request : Web.Request :=
      ⟨.put, "/v0/management/providers/p/connections/c/models", none,
        [⟨"X-Api-Key", "t"⟩, ⟨"Content-Type", "application/json"⟩],
        "[\x7b\"id\":\"n\"\x7d]"⟩
    gate.Unprivileged 2 request ∧ request.concernsManagement ∧
      (gate.serve 2 request).1.status = 403 ∧ Unmanaging gate 2 request := by
  intro gate request
  have presented : Admission.Presents gate.policy request.path request.query request.headers
      -- The key is found by the digest of what the header carries, and gives no access to
      -- management.
      (Digest.ofToken "t") := ⟨by decide, ⟨"t", .header⟩, by decide, rfl⟩
  have known : gate.tables.keyOf? (Digest.ofToken "t") =
      some ⟨⟨"k"⟩, none, "key-t", false, true, false⟩ := by decide +kernel
  have unprivileged : gate.Unprivileged 2 request := by
    intro context admitted
    obtain ⟨digest, key, presented', found, rfl, -⟩ := authenticate_ok admitted
    rw [← presented.unique presented', known] at found
    cases found
    rfl
  have concerns : request.concernsManagement :=
    ⟨.connectionModels "p".toList "c".toList, by decide, rfl⟩
  have refused : (gate.serve 2 request).1.status = 403 := by decide +kernel
  exact ⟨unprivileged, concerns, refused, unprivileged_manages_nothing gate 2 request unprivileged⟩

end Gate

end Tollgate
