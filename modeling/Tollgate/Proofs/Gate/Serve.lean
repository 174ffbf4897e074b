import Tollgate.Proofs.Admission

/-!
Requests that are turned away. They get the refusal and nothing else, whatever would have handled
them, and they leave behind what the gate keeps just as it was.
-/

namespace Tollgate.Gate

/-- Everything that the gate keeps is as before. Only the switch at the store may have noted more
calls, and let them through. -/
structure Untouched (before after : Gate) : Prop where
  zone : after.zone = before.zone
  policy : after.policy = before.policy
  -- Accounts, keys, bills, cards, uses and mappings are all in the tables of the store.
  vault : after.store.vault = before.store.vault
  catalog : after.catalog = before.catalog
  worker : after.worker = before.worker

/-- What handles requests: it is told which models are registered, and who has sent the request if
that is known. -/
abbrev Handler := Catalog → Option Context → Dialogue Web.Handling

/-- Sends what a handler has come to, and takes note of the event it announces. -/
def carryOut (gate : Gate) (request : Web.Request) (dialogue : Dialogue Web.Handling) :
    Web.Response × Gate :=
  let (handling, gate) := gate.converse dialogue
  (handling.response.sentFor request, gate.publishAny handling.event)

/-- What is announced comes last. -/
theorem carryOut_gate (gate : Gate) (request : Web.Request) (dialogue : Dialogue Web.Handling) :
    (gate.carryOut request dialogue).2 =
      (gate.converse dialogue).2.publishAny (gate.converse dialogue).1.event :=
  rfl

/-- Answers a request with a handler of any kind behind the gate. -/
def guard (gate : Gate) (handler : Handler) (now : Instant) (request : Web.Request) :
    Web.Response × Gate :=
  let (verdict, gate) := gate.authenticate now request.path request.query request.headers
  match verdict with
  | .error refusal => ((Web.Response.ofRefusal refusal).sentFor request, gate)
  | .ok context => gate.carryOut request (handler gate.catalog context)

/-- A request is sent to everything there is by the gate, and cannot get at it otherwise. -/
structure Guarded (gate : Gate) (now : Instant) (request : Web.Request) : Prop where
  -- Requests are answered by what their paths name, behind the gate.
  served : gate.serve now request =
    gate.guard (fun catalog context => Web.dispatch now catalog context request) now request
  -- One that is turned away gets the status and the body of the refusal, the latter unless only
  -- the head of a resource is asked for.
  refused : ∀ refusal,
    (gate.authenticate now request.path request.query request.headers).1 = .error refusal →
      (gate.serve now request).1.status = refusal.status ∧
        (gate.serve now request).1.body =
          if request.method = .head ∧ (Web.Resource.ofPath? request.path).isSome then none
          else some refusal.body
  -- It makes no difference to it what there would have been to handle it.
  unhandled : ∀ refusal,
    (gate.authenticate now request.path request.query request.headers).1 = .error refusal →
      ∀ handler, gate.guard handler now request = gate.serve now request
  -- And it changes nothing that the gate keeps.
  untouched : ∀ refusal,
    (gate.authenticate now request.path request.query request.headers).1 = .error refusal →
      Untouched gate (gate.serve now request).2
  -- One that is let in is handled, for the one whose key has let it in, if there is a key.
  handled : ∀ context after,
    gate.authenticate now request.path request.query request.headers = (.ok context, after) →
      ∀ handler, gate.guard handler now request =
        after.carryOut request (handler after.catalog context)

/-- Only reading from the store touches nothing. -/
theorem untouched_converse {Result : Type} {dialogue : Dialogue Result} (gate : Gate)
    (reads : dialogue.OnlyReads) : Untouched gate (gate.converse dialogue).2 where
  zone := rfl
  policy := rfl
  vault := Vault.run_watched_keeps reads gate.store
  catalog := rfl
  worker := rfl

variable {gate : Gate} {now : Instant} {path : String} {query : Option String}
  {headers : Web.Headers} {request : Web.Request} {refusal : Refusal}

/-- No use of a key is recorded for a request that is turned away. -/
theorem authenticate_of_error
    (refused : (gate.authenticate now path query headers).1 = .error refusal) :
    (gate.authenticate now path query headers).2 =
      (gate.converse (Admission.ask gate.zone gate.policy now path query headers)).2 := by
  rw [Admission.authenticate_verdict] at refused
  simp only [authenticate, converse, refused]

/-- Turning a request away touches nothing. -/
theorem untouched_authenticate
    (refused : (gate.authenticate now path query headers).1 = .error refusal) :
    Untouched gate (gate.authenticate now path query headers).2 := by
  -- All that the gate does about the request is to read from the store.
  have reads := Admission.onlyReads_ask gate.zone gate.policy now path query headers
  rw [authenticate_of_error refused]
  exact untouched_converse gate reads

/-- A request that is turned away gets the refusal, whatever is behind the gate. -/
theorem guard_of_error
    (refused : (gate.authenticate now request.path request.query request.headers).1 =
      .error refusal) (handler : Handler) :
    gate.guard handler now request =
      ((Web.Response.ofRefusal refusal).sentFor request,
        (gate.authenticate now request.path request.query request.headers).2) := by
  simp only [guard, refused]

/-- A request that is let in gets what the handler says. -/
theorem guard_of_ok {context : Option Context} {after : Gate}
    (admitted : gate.authenticate now request.path request.query request.headers =
      (.ok context, after)) (handler : Handler) :
    gate.guard handler now request =
      after.carryOut request (handler after.catalog context) := by
  simp only [guard, admitted]

/-- The body of a response is kept back only from those who ask for the head of a resource. -/
theorem sentFor_eq (response : Web.Response) (request : Web.Request) :
    response.sentFor request =
      ⟨response.status,
        if request.method = .head ∧ (Web.Resource.ofPath? request.path).isSome then none
        else response.body⟩ := by
  unfold Web.Response.sentFor
  split <;> rfl

/-- The gate answers requests by what their paths name. -/
theorem serve_eq_guard (gate : Gate) (now : Instant) (request : Web.Request) :
    gate.serve now request =
      gate.guard (fun catalog context => Web.dispatch now catalog context request) now request :=
  rfl

/-- No request gets past the gate. -/
theorem serve_guarded (gate : Gate) (now : Instant) (request : Web.Request) :
    Guarded gate now request where
  served := serve_eq_guard gate now request
  refused refusal refused := by
    rw [serve_eq_guard, guard_of_error refused, sentFor_eq]
    exact ⟨rfl, rfl⟩
  unhandled refusal refused handler := by
    rw [serve_eq_guard, guard_of_error refused, guard_of_error refused]
  untouched refusal refused := by
    rw [serve_eq_guard, guard_of_error refused]
    exact untouched_authenticate refused
  handled context after admitted handler := guard_of_ok admitted handler

/-- The body of a refusal is not kept back from those who ask for the head of what does not
exist. -/
theorem head_of_nothing_has_body :
    ¬ ∀ (gate : Gate) (now : Instant) (request : Web.Request) (refusal : Refusal),
      (gate.authenticate now request.path request.query request.headers).1 = .error refusal →
        (gate.serve now request).1 =
          if request.method = .head then Web.Response.bare refusal.status
          else ⟨refusal.status, some refusal.body⟩ := by
  intro claimed
  -- No path is open at first but that of the state of the service.
  have sent := claimed (.opened .universal .standard .standard) 0
    ⟨.head, "/nope", none, [], ""⟩ .missingCredential rfl
  have body := congrArg Web.Response.body sent
  cases body

end Tollgate.Gate
