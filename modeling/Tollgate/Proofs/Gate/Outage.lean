import Tollgate.Proofs.Gate.Management
import Tollgate.Proofs.Gate.Setting
import Tollgate.Proofs.Gate.Withdrawal

/-!
A store that fails. As long as it does, no call to it succeeds, whoever makes it and whatever has
been left to the worker before, and it keeps what it kept. Requests that need it are refused without
a word about the reason.
-/

namespace Tollgate

namespace Vault

/-- A watched store that fails answers no call, whether or not it is let through, and stays as it
is. -/
theorem watched_answer_of_failing {watched : Watched} (failing : watched.vault.failing = true)
    (call : Call) :
    (watched.answer call).1 = .error unresponsive ∧
      (watched.answer call).2.vault = watched.vault := by
  simp only [Watched.answer, answer_of_failing failing]
  -- Either the switch does not let the call through, or the store itself fails it.
  split <;> exact ⟨rfl, rfl⟩

/-- No dialogue makes a difference to a store that fails. -/
theorem run_watched_of_failing {Result : Type} (dialogue : Dialogue Result) {watched : Watched}
    (failing : watched.vault.failing = true) :
    (dialogue.run Watched.answer watched).2.vault = watched.vault :=
  -- The store fails at every call of the dialogue, for it is the same each time.
  Dialogue.run_relates
    (fun before after : Watched => before.vault.failing = true → after.vault = before.vault)
    (fun _ _ => rfl)
    (fun _ _ _ former latter failing =>
      (latter (former failing ▸ failing)).trans (former failing))
    dialogue.asksOnly_any (fun call _ _ failing => (watched_answer_of_failing failing call).2)
    watched failing

end Vault

namespace Gate

variable {gate : Gate} {now : Instant} {operation : Operation} {path digest : String}
  {query : Option String} {headers : Web.Headers} {request : Web.Request}

/-- The operation leaves it to calls to change what the store keeps, and does not bring the store
back into order. -/
def Operation.Bears (operation : Operation) : Prop :=
  operation.write? = none ∧ operation ≠ .setFailing false

/-- Errands are in vain with a store that fails. -/
theorem settle_of_failing (failing : gate.store.vault.failing = true) (now : Instant) :
    (gate.settle now).tables = gate.tables := by
  have followed (events : List (JobEvent Errand)) (gate : Gate)
      (failing : gate.store.vault.failing = true) :
      (events.foldl (follow now) gate).store.vault = gate.store.vault := by
    -- Each event hands on the store as it was, which fails the next errand too.
    induction events generalizing gate with
    | nil => rfl
    | cons event rest ih =>
      -- Only an errand that is started makes calls, and with this store they are in vain.
      have first : (gate.follow now event).store.vault = gate.store.vault := by
        cases event with
        | started errand => exact Vault.run_watched_of_failing (errand.dialogue now) failing
        | _ => rfl
      exact (ih _ (first ▸ failing)).trans first
  exact congrArg Vault.tables (followed _ _ failing)

/-- As long as the store fails, nothing is changed that it keeps. -/
theorem tables_perform_of_failing (failing : gate.store.vault.failing = true)
    (bears : operation.Bears) : (gate.perform now operation).2.tables = gate.tables := by
  obtain ⟨unwritten, -⟩ := bears
  cases operation with
  -- A call made by hand comes to a store that refuses it, and so it changes nothing.
  | direct call =>
    show (Vault.answer call gate.store.vault).2.tables = _
    rw [Vault.answer_of_failing failing]
    rfl
  -- All that is left are looks at the store, errands, and requests.
  | countFunding account => exact countFunding_tables account gate.store.vault
  | settle => exact settle_of_failing failing now
  | authenticate path query headers =>
    exact congrArg Vault.tables (gate.authenticate_keeps now path query headers).2
  | evaluate account instant thenFail => exact gate.evaluate_tables account instant thenFail
  | seed provider models =>
    exact congrArg Vault.tables
      (Vault.run_watched_of_failing (Seeding.seed provider models) failing)
  | serve request => exact gate.serve_tables now request
  | publish event | record event => cases event <;> rfl
  -- Those who run the store do not bear with the outage when they write to it.
  | openAccount _ | setDisabled _ _ | issueKey _ _ _ _ | revoke _ | deactivate _ | addBill _ _
  | addCard _ _ | addUse _ | addMapping _ => cases unwritten
  | _ => rfl

/-- A store that fails goes on to unless it is brought back into order. -/
theorem failing_perform (failing : gate.store.vault.failing = true) (bears : operation.Bears) :
    (gate.perform now operation).2.store.vault.failing = true := by
  -- Whether the store fails is part of the setting, and few operations change that.
  have set := congrArg Setting.failing (gate.setting_perform now operation)
  have before : gate.setting.failing = true := failing
  refine set.trans ?_
  cases operation with
  | setFailing failing =>
    cases failing with
    | false => exact absurd rfl bears.2
    -- Such an operation makes the store fail that fails already.
    | true => rfl
  | evaluate account instant thenFail => simp [Operation.onSetting, before]
  | _ => exact before

/-- The store fails after everything that bears with it, and keeps what it kept. -/
theorem performAll_of_failing {history : List (Instant × Operation)}
    (failing : gate.store.vault.failing = true) (bears : ∀ step ∈ history, step.2.Bears) :
    (gate.performAll history).2.store.vault.failing = true ∧
      (gate.performAll history).2.tables = gate.tables := by
  -- The outage lasts through each step, so that the next one is made in it as well.
  induction history generalizing gate with
  | nil => exact ⟨failing, rfl⟩
  | cons step rest ih =>
    obtain ⟨now, operation⟩ := step
    have here : operation.Bears := bears (now, operation) (by simp)
    obtain ⟨still, kept⟩ := ih (failing_perform failing here)
      fun other member => bears other (by simp [member])
    exact ⟨still, kept.trans (tables_perform_of_failing failing here)⟩

/-- A credential cannot be looked at while the store fails. -/
theorem authenticate_of_failing (failing : gate.store.vault.failing = true)
    (presented : Admission.Presents gate.policy path query headers digest) :
    (gate.authenticate now path query headers).1 = .error (.storage Vault.unresponsive) := by
  -- The key is the first thing to be asked for, and that call fails already.
  have refused := (Vault.watched_answer_of_failing failing (.findKey digest)).1
  have answered : gate.store.answer (.findKey digest) =
      (.error Vault.unresponsive, (gate.store.answer (.findKey digest)).2) := by
    rw [← refused]
  rw [Admission.authenticate_verdict, (Admission.Exit.keyUnread presented answered).leads.1]

/-- A request with a credential is refused while the store fails, and is told nothing of the
reason. -/
theorem serve_of_failing (failing : gate.store.vault.failing = true)
    (presented : Admission.Presents gate.policy request.path request.query request.headers digest) :
    (gate.serve now request).1 =
      ⟨500,
        if request.method = .head ∧ (Web.Resource.ofPath? request.path).isSome then none
        else some (.record [("error", .record [("code", .string "internal_error"),
          ("message", .string "An internal error occurred")])])⟩ := by
  rw [serve_eq_guard, guard_of_error (authenticate_of_failing failing presented), sentFor_eq]
  rfl

/-- Nobody is let in by a key while the store fails. -/
theorem not_admits_of_failing (failing : gate.store.vault.failing = true) (context : Context) :
    ¬ operation.Admits gate now context := by
  -- Whoever is let in by a key has come with a credential, which cannot be looked at.
  have refused (path : String) (query : Option String) (headers : Web.Headers)
      -- A key can only have let somebody in who has presented something.
      (admitted : (gate.authenticate now path query headers).1 = .ok (some context)) : False := by
    obtain ⟨digest, -, presented, -⟩ := authenticate_ok admitted
    rw [authenticate_of_failing failing presented] at admitted
    cases admitted
  -- No other operation lets anybody in by a key.
  cases operation with
  | authenticate path query headers => exact refused path query headers
  | serve request => exact refused request.path request.query request.headers
  | _ => exact id

/-- While the store fails, whatever is done leaves all that it keeps as it was, short of changing it
by other means than calls and of bringing the store back into order. All that time every call fails
that is made by hand, every request with a credential is refused without a word about the reason,
and no request is let in by a key. -/
theorem outage_leaves_no_trace (gate : Gate) (history : List (Instant × Operation))
    (failing : gate.store.vault.failing = true) (bears : ∀ step ∈ history, step.2.Bears) :
    let met := (gate.performAll history).2
    met.tables = gate.tables ∧
      (∀ now call, (met.perform now (.direct call)).1 =
        .outcome call (.error Vault.unresponsive)) ∧
      (∀ now (request : Web.Request) digest,
        Admission.Presents met.policy request.path request.query request.headers digest →
          (met.serve now request).1 =
            ⟨500,
              if request.method = .head ∧ (Web.Resource.ofPath? request.path).isSome then none
              else some (.record [("error", .record [("code", .string "internal_error"),
                ("message", .string "An internal error occurred")])])⟩) ∧
      ∀ now (operation : Operation) context, ¬ operation.Admits met now context := by
  intro met
  obtain ⟨still, kept⟩ := performAll_of_failing failing bears
  refine ⟨kept, fun now call => ?_, fun now request digest presented => ?_,
    fun now operation context => not_admits_of_failing still context⟩
  · -- A call made by hand goes to the store itself, past the switch.
    show Answer.outcome call (Vault.answer call met.store.vault).1 = _
    rw [Vault.answer_of_failing still]
  · exact serve_of_failing still presented

/-- The record of a use and a seeding wait for the worker when the outage begins, and are lost in
it. In the middle of the outage the bearer of an administrator's key cannot look at a provider's
models. -/
theorem outage_leaves_no_trace_errands :
    let model : Descriptor := ⟨"m", none, none, none, []⟩
    let request : Web.Request :=
      ⟨.get, "/v0/management/providers/p/models", none, [⟨"X-Api-Key", "t"⟩], ""⟩
    let gate := ((opened .universal .standard .standard).performAll
      [(0, .issueKey ⟨"k"⟩ "t" none true), (1, .serve request),
        (2, .publish (.registered "p" "c" [model])), (3, .setFailing true)]).2
    let history : List (Instant × Operation) :=
      [(4, .settle), (5, .serve request), (6, .seed "p" [model, ⟨"n", none, none, none, []⟩]),
        (7, .publish (.registered "p" "d" [model])), (8, .direct (.touchKey ⟨"k"⟩ 8)), (9, .settle)]
    let met := (gate.performAll history).2
    gate.store.vault.failing = true ∧ (∀ step ∈ history, step.2.Bears) ∧
      gate.worker.queue = [.touch ⟨"k"⟩, .seed "p" [model]] ∧ met.tables = gate.tables ∧
      Admission.Presents met.policy request.path request.query request.headers
        (Digest.ofToken "t") ∧
      (met.serve 10 request).1.status = 500 ∧
      ∀ now (operation : Operation) context, ¬ operation.Admits met now context := by
  intro model request gate history met
  obtain ⟨failing, queued⟩ : gate.store.vault.failing = true ∧
      gate.worker.queue = [.touch ⟨"k"⟩, .seed "p" [model]] := by decide +kernel
  have bears : ∀ step ∈ history, step.2.Bears := by
    -- Nothing in the history writes to the store or brings it back into order.
    simp [history, Operation.Bears, Operation.write?]
  -- Nothing in the outage has to do with the rules of authentication.
  have rules : met.policy = .standard := by decide +kernel
  have presented : Admission.Presents met.policy request.path request.query request.headers
      (Digest.ofToken "t") := by
    rw [rules]
    exact ⟨by decide, ⟨"t", .header⟩, by decide, rfl⟩
  obtain ⟨kept, -, answered, shut⟩ := outage_leaves_no_trace gate history failing bears
  refine ⟨failing, bears, queued, kept, presented, ?_, shut⟩
  rw [answered 10 request _ presented]

/-- Those who ask for the head of a resource during an outage do not get the body of the refusal. -/
theorem head_in_outage_has_no_body :
    ¬ ∀ (gate : Gate) (now : Instant) (request : Web.Request) (digest : String),
      gate.store.vault.failing = true →
      Admission.Presents gate.policy request.path request.query request.headers digest →
        (gate.serve now request).1 =
          ⟨500, some (.record [("error", .record [("code", .string "internal_error"),
            ("message", .string "An internal error occurred")])])⟩ := by
  intro claimed
  -- A resource is asked for its head, with a token that cannot be looked up.
  have answered := claimed ((opened .universal .standard .standard).perform 0 (.setFailing true)).2 1
    ⟨.head, "/v1/models", none, [⟨"X-Api-Key", "t"⟩], ""⟩ (Digest.ofToken "t") rfl
    ⟨by decide, ⟨"t", .header⟩, by decide, rfl⟩
  -- The answer to such a request has no body, whereas one would have to be there.
  have body : (none : Option Json) = some _ := congrArg Web.Response.body answered
  cases body

end Gate

end Tollgate
