import Mathlib.Data.List.Basic
import Tollgate.Proofs.Gate.Management
import Tollgate.Proofs.Json.Reader

/-!
Requests that have been let in and are handled without a word to the store, as all are that concern
models. Those for management are refused where nobody with access to it has sent them; but a body
comes first, and one that is too large or cannot be read is all that its sender is told of.
-/

namespace Tollgate

namespace Web

variable {context : Option Context} {request : Request} {resource : Resource}

/-- The segments of the path that stand for names. -/
def Resource.names : Resource → List Segment
  | .health | .clientModels => []
  | .connectionModels provider name | .connection provider name => [provider, name]
  | .providerModels provider => [provider]
  | .providerModel provider model => [provider, model]

/-- The request is for the resource, by a method that may be used on it, and wants more than the
head of the response. -/
structure Request.Reaches (request : Request) (resource : Resource) : Prop where
  path : Resource.ofPath? request.path = some resource
  method : resource.allows request.method = true
  whole : request.method ≠ .head

/-- A name that can be read is gone on with. -/
theorem named_of_read {segment : Segment} {name : String}
    (read : decodeSegment? segment = some name) (go : String → Handling) :
    named segment go = go name := by
  -- Reading the segment decides whether anything is gone on with at all.
  rw [named, read]

/-- Those who want more than the head of a response get all of it. -/
theorem sentFor_of_whole (whole : request.method ≠ .head) (response : Response) :
    response.sentFor request = response := by
  -- Only the head of a response goes without the rest of it.
  rw [Response.sentFor, if_neg fun headOnly => whole headOnly.1]

/-- How a request for management is answered if nobody with access to it has sent it. -/
structure TurnsDown (request : Request) (resource : Resource) (response : Response) : Prop where
  -- It is forbidden to whoever has no body to send, or sends one that holds models.
  forbidden : (∀ provider connection, resource = .connectionModels provider connection →
      announcesJson request.headers = true ∧ isOversized request.body = false ∧
        ∃ models, Descriptor.listOfText request.body = .ok models) →
    response.status = 403 ∧ response.body = some (.record [("error", .record
      [("code", .string "forbidden"), ("message", .string "Forbidden")])])
  -- A body of another kind, one that is too large, and one that holds anything else are not looked
  -- at any further, in this order.
  unannounced : ∀ provider connection, resource = .connectionModels provider connection →
    announcesJson request.headers = false → response = .bare 415
  oversized : ∀ provider connection, resource = .connectionModels provider connection →
    announcesJson request.headers = true → isOversized request.body = true →
      response = .bare 413
  unread : ∀ provider connection flaw, resource = .connectionModels provider connection →
    announcesJson request.headers = true → isOversized request.body = false →
      Descriptor.listOfText request.body = .error flaw →
        response = .bare (if flaw = .unfit then 422 else 400)

/-- Where there is no body to be read, everybody without access to management is refused alike. -/
theorem turnsDown_forbidden
    (bodiless : ∀ provider connection, resource ≠ .connectionModels provider connection) :
    TurnsDown request resource (.ofRefusal .forbidden) where
  forbidden _ := ⟨rfl, rfl⟩
  unannounced provider connection same := absurd same (bodiless provider connection)
  oversized provider connection same := absurd same (bodiless provider connection)
  unread provider connection _ same := absurd same (bodiless provider connection)

/-- The sender of models without access to management is refused only if there are any. -/
theorem turnsDown_registerModels (unprivileged : isAdmin context = false) (request : Request)
    (segment other : Segment) (provider connection : String) :
    TurnsDown request (.connectionModels segment other)
      (registerModels context request.headers request.body provider connection).response := by
  -- The kind of the body comes first, then its size and what it holds, and only then who sends it.
  cases announced : announcesJson request.headers with
  | false =>
    have answered : registerModels context request.headers request.body provider connection =
        .plain (.bare 415) := by simp [registerModels, announced]
    rw [answered]
    -- The other three conditions need a body that is announced.
    constructor <;> simp [announced, Handling.plain]
  | true =>
    cases sized : isOversized request.body with
    | true =>
      have answered : registerModels context request.headers request.body provider connection =
          .plain (.bare 413) := by simp [registerModels, announced, sized]
      rw [answered]
      -- Of the three that are left, two need a body that is not too large.
      constructor <;> simp [announced, sized, Handling.plain]
    | false =>
      cases read : Descriptor.listOfText request.body with
      | error flaw =>
        have answered : registerModels context request.headers request.body provider connection =
            .plain (.bare (bodyStatus flaw)) := by simp [registerModels, announced, sized, read]
        rw [answered]
        -- How the body cannot be read decides between the two answers there are for that.
        constructor <;> cases flaw <;> simp [announced, sized, read, Handling.plain, bodyStatus]
      | ok models =>
        have answered : registerModels context request.headers request.body provider connection =
            .refused .forbidden := by
          simp [registerModels, announced, sized, read, forAdmin_of_not unprivileged]
        rw [answered]
        -- The body holds models, so it is only asked who has sent it.
        refine ⟨fun _ => ⟨rfl, rfl⟩, ?_, ?_, ?_⟩ <;> simp [announced, sized, read]

/-- A text behind more spaces than there may be octets in a body. -/
def overlong (text : String) : String :=
  String.ofList (List.replicate (bodyLimit + 1) ' ') ++ text

/-- That is too much, whatever the text. -/
theorem isOversized_overlong (text : String) : isOversized (overlong text) = true := by
  -- Every space is one octet.
  have spaces (count : Nat) :
      (String.ofList (List.replicate count ' ')).utf8ByteSize = count := by
    induction count with
    | zero => rfl
    | succ count ih =>
      rw [List.replicate_succ, String.ofList_cons, String.utf8ByteSize_append, ih,
        String.utf8ByteSize_singleton]
      exact Nat.add_comm 1 count
  -- The spaces alone are one octet more than there may be.
  rw [isOversized, overlong, String.utf8ByteSize_append, spaces, decide_eq_true_eq]
  omega

/-- Yet the spaces make no difference to the models that the text lists. -/
theorem listOfText_overlong (text : String) :
    Descriptor.listOfText (overlong text) = Descriptor.listOfText text :=
  Json.whole_list_append (fun _ space => by rw [List.eq_of_mem_replicate space]; rfl) text

/-- Whatever management is asked for, it is turned down where nobody with access to it asks. -/
theorem handle_turnsDown (now : Instant) (catalog : Catalog) (request : Request)
    (unprivileged : isAdmin context = false) (managed : resource.isManagement = true)
    (read : ∀ segment ∈ resource.names, (decodeSegment? segment).isSome = true) :
    ∃ handling, handle now catalog context request resource = .done handling ∧
      TurnsDown request resource handling.response := by
  -- Each segment is the name that it is read as.
  replace read segment member := Option.isSome_iff_exists.mp (read segment member)
  cases resource with
  | health | clientModels => cases managed
  -- This is the only resource for which there is a body to be read.
  | connectionModels segment other =>
    obtain ⟨provider, first⟩ := read segment (by simp [Resource.names])
    obtain ⟨connection, second⟩ := read other (by simp [Resource.names])
    refine ⟨registerModels context request.headers request.body provider connection, ?_,
      turnsDown_registerModels unprivileged request segment other provider connection⟩
    rw [handle, named_of_read first, named_of_read second]
  -- Nothing is sent to the others but the path, which can be read.
  | connection segment other =>
    obtain ⟨provider, first⟩ := read segment (by simp [Resource.names])
    obtain ⟨connection, second⟩ := read other (by simp [Resource.names])
    refine ⟨.refused .forbidden, ?_, turnsDown_forbidden (by simp)⟩
    rw [handle, named_of_read first, named_of_read second, withdrawConnection,
      forAdmin_of_not unprivileged]
  | providerModels segment =>
    obtain ⟨provider, first⟩ := read segment (by simp [Resource.names])
    refine ⟨.refused .forbidden, ?_, turnsDown_forbidden (by simp)⟩
    rw [handle, named_of_read first, showProvider, forAdmin_of_not unprivileged]
  | providerModel segment other =>
    obtain ⟨provider, first⟩ := read segment (by simp [Resource.names])
    obtain ⟨model, second⟩ := read other (by simp [Resource.names])
    refine ⟨.refused .forbidden, ?_, turnsDown_forbidden (by simp)⟩
    rw [handle, named_of_read first, named_of_read second, showModel,
      forAdmin_of_not unprivileged]

end Web

namespace Gate

variable {gate after : Gate} {now : Instant} {request : Web.Request} {resource : Web.Resource}
  {context : Option Context} {handling : Web.Handling}

/-- A request that has been let in is answered as it is handled, if the store is not asked for
anything, and what is announced comes last. -/
theorem serve_of_handle (reaches : request.Reaches resource)
    (admitted : gate.authenticate now request.path request.query request.headers =
      (.ok context, after))
    (handled : Web.handle now gate.catalog context request resource = .done handling) :
    gate.serve now request = (handling.response, after.publishAny handling.event) := by
  -- Letting a request in leaves the catalog alone, so it is handled with the one there was.
  have kept : after.catalog = gate.catalog := by
    rw [← (gate.authenticate_keeps now request.path request.query request.headers).1, admitted]
  have dispatched : Web.dispatch now after.catalog context request = .done handling := by
    simp only [Web.dispatch, reaches.path, reaches.method, if_true, kept, handled]
  rw [serve_eq_guard, guard_of_ok admitted, dispatched]
  exact congrArg (·, after.publishAny handling.event) (Web.sentFor_of_whole reaches.whole _)

/-- Whoever is let in without access to management is turned down on every path for it, whatever is
sent; but one whose body is not taken in, or cannot be read, is told of that and nothing else. -/
theorem unprivileged_is_turned_down (gate : Gate) (now : Instant) (request : Web.Request)
    (resource : Web.Resource) (context : Option Context) (reaches : request.Reaches resource)
    (managed : resource.isManagement = true)
    (read : ∀ segment ∈ resource.names, (Web.decodeSegment? segment).isSome = true)
    (admitted : (gate.authenticate now request.path request.query request.headers).1 = .ok context)
    (unprivileged : Web.isAdmin context = false) :
    Web.TurnsDown request resource (gate.serve now request).1 := by
  obtain ⟨handling, handled, turnsDown⟩ :=
    Web.handle_turnsDown now gate.catalog request unprivileged managed read
  -- The request is answered as it is handled, and it is handled as a refusal.
  rw [serve_of_handle reaches (Prod.ext admitted rfl) handled]
  exact turnsDown

/-- All of management is open to everyone, so it is not asked who sends a list of one model. It is
forbidden all the same; and had the list been cut short, or had it come behind too many spaces,
nothing else would be said of it. -/
theorem unprivileged_is_turned_down_open_path :
    let gate := opened .universal { Policy.standard with openBases := ["/v0"] } .standard
    let request (body : String) : Web.Request :=
      ⟨.put, "/v0/management/providers/p%20q/connections/c/models", none,
        [⟨"Content-Type", "application/json"⟩], body⟩
    let resource : Web.Resource := .connectionModels "p%20q".toList "c".toList
    let whole := request "[\x7b\"id\":\"n\"\x7d]"
    let short := request "[\x7b\"id\":"
    let large := request (Web.overlong whole.body)
    (gate.authenticate 0 whole.path whole.query whole.headers).1 = .ok none ∧
      Web.TurnsDown whole resource (gate.serve 0 whole).1 ∧
      Web.TurnsDown short resource (gate.serve 0 short).1 ∧
      Web.TurnsDown large resource (gate.serve 0 large).1 ∧
      (gate.serve 0 whole).1.status = 403 ∧ (gate.serve 0 short).1.status = 400 ∧
      (gate.serve 0 large).1.status = 413 := by
  intro gate request resource whole short large
  have read : ∀ segment ∈ resource.names, (Web.decodeSegment? segment).isSome = true := by
    decide +kernel
  -- All of management is open here, so the requests are let in without a credential.
  have admitted : (gate.authenticate 0 whole.path whole.query whole.headers).1 = .ok none := by
    decide +kernel
  have first := unprivileged_is_turned_down gate 0 whole resource none
    ⟨by decide +kernel, rfl, by decide⟩ rfl read admitted rfl
  have second := unprivileged_is_turned_down gate 0 short resource none
    ⟨by decide +kernel, rfl, by decide⟩ rfl read admitted rfl
  have third := unprivileged_is_turned_down gate 0 large resource none
    ⟨by decide +kernel, rfl, by decide⟩ rfl read admitted rfl
  refine ⟨admitted, first, second, third, by decide +kernel, by decide +kernel, ?_⟩
  -- What is too large is not looked into here either.
  rw [third.oversized _ _ rfl (by decide +kernel) (Web.isOversized_overlong _)]
  rfl

/-- The bearer of a key that gives no access to management is not told that it is forbidden, where
what is sent is not announced as a list of models. -/
theorem unannounced_body_is_not_forbidden :
    ¬ ∀ (history : List (Instant × Operation)) (now : Instant) (request : Web.Request)
      (resource : Web.Resource) (context : Option Context),
      let gate := ((opened .universal .standard .standard).performAll history).2
      request.Reaches resource → resource.isManagement = true →
        (∀ segment ∈ resource.names, (Web.decodeSegment? segment).isSome = true) →
          (gate.authenticate now request.path request.query request.headers).1 = .ok context →
            Web.isAdmin context = false → (gate.serve now request).1.status = 403 := by
  intro claimed
  -- The list is empty, and nothing says that it is one.
  have told := claimed [(0, .issueKey ⟨"k"⟩ "t" none false)] 1
    ⟨.put, "/v0/management/providers/p/connections/c/models", none, [⟨"X-Api-Key", "t"⟩], "[]"⟩
    (.connectionModels "p".toList "c".toList) (some ⟨⟨"k"⟩, "key-t", false, none⟩)
    ⟨by decide, rfl, by decide⟩ rfl (by decide +kernel) (by decide +kernel) rfl
  exact absurd told (by decide +kernel)

end Gate

end Tollgate
