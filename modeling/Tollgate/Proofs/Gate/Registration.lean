import Tollgate.Proofs.Catalog.Replacement
import Tollgate.Proofs.Credential
import Tollgate.Proofs.Descriptor
import Tollgate.Proofs.Gate.Background
import Tollgate.Proofs.Text.Blank

/-!
Models sent by somebody with access to management. All of them are registered, and then read back by
whoever asks for the models of the provider, or none is and everything stays as it was.
-/

namespace Tollgate

namespace Web

variable {context : Option Context} {request : Request} {provider connection : String}
  {models : List Descriptor}

/-- The request sends these models for a connection of a provider, in a body that is announced as a
list of models and is not too large. -/
structure Request.Sends (request : Request) (provider connection : String)
    (models : List Descriptor) : Prop where
  place : ∃ segment other, request.Reaches (.connectionModels segment other) ∧
    decodeSegment? segment = some provider ∧ decodeSegment? other = some connection
  announced : announcesJson request.headers = true
  sized : isOversized request.body = false
  read : Descriptor.listOfText request.body = .ok models

/-- The request asks for the models of a provider. -/
def Request.AsksFor (request : Request) (provider : String) : Prop :=
  ∃ segment, request.Reaches (.providerModels segment) ∧ decodeSegment? segment = some provider

/-- Those who have access to management are let go on. -/
theorem forAdmin_of_isAdmin (privileged : isAdmin context = true) (handling : Handling) :
    forAdmin context handling = handling := by
  -- Who asks is known to have access.
  rw [forAdmin, if_pos privileged]

/-- Models are registered unless the name of one of them is white space alone. -/
theorem registerModels_of_sends (sends : request.Sends provider connection models)
    (privileged : isAdmin context = true) :
    registerModels context request.headers request.body provider connection =
      if ∃ model ∈ models, Text.AllBlank model.id.toList then .refused unnamedModel
      else .announced (.registered provider connection models) := by
  -- A name is trimmed to nothing exactly if it is white space alone.
  have blank : (models.any fun model => (Text.trim model.id).isEmpty) = true ↔
      ∃ model ∈ models, Text.AllBlank model.id.toList := by
    simp only [List.any_eq_true, String.isEmpty_iff, Text.trim_eq_empty_iff, List.all_eq_true,
      Text.AllBlank]
  -- All checks before the one of the names are passed.
  simp only [registerModels, sends.announced, sends.sized, sends.read,
    forAdmin_of_isAdmin privileged, blank, Bool.not_true, Bool.false_eq_true, if_false]

end Web

/-- The models that an errand is to give mappings, if it is such an errand. -/
def Errand.request? : Errand → Option Seeding.Request
  | .touch _ => none
  | .seed provider models => some (provider, models)

namespace Gate

open Catalog (Replaced SameOf Tracks)

variable {gate : Gate} {now : Instant} {request : Web.Request} {provider connection : String}
  {models : List Descriptor}

/-- The models that wait to be given mappings. -/
def seedings (gate : Gate) : List Seeding.Request :=
  gate.worker.waiting.filterMap (·.request?)

/-- The request is let in for somebody with access to management. -/
def Privileged (gate : Gate) (now : Instant) (request : Web.Request) : Prop :=
  ∃ context, (gate.authenticate now request.path request.query request.headers).1 =
    .ok (some context) ∧ context.admin = true

/-- Of the models that a request sends for a connection, all are registered or none. -/
structure AllOrNone (gate : Gate) (now : Instant) (request : Web.Request)
    (provider connection : String) (models : List Descriptor) : Prop where
  -- Models of which one has no name but white space are refused, and nothing changes.
  refused : (∃ model ∈ models, Text.AllBlank model.id.toList) →
    (gate.serve now request).1.status = 400 ∧
      (gate.serve now request).1.body = some (.record [("error", .record
        [("code", .string "invalid_request"),
          ("message", .string "Model id must not be empty")])])
  unchanged : (∃ model ∈ models, Text.AllBlank model.id.toList) →
    (gate.serve now request).2.catalog = gate.catalog ∧
      (gate.serve now request).2.store.vault = gate.store.vault ∧
      (gate.serve now request).2.seedings = gate.seedings
  -- All others are accepted.
  accepted : (∀ model ∈ models, ¬ Text.AllBlank model.id.toList) →
    (gate.serve now request).1 = .bare 204
  -- From then on, whoever asks for the models of the provider gets them in the place of those that
  -- the connection had registered before, along with those of other connections.
  shown : provider ≠ "" → connection ≠ "" → (∀ model ∈ models, ¬ Text.AllBlank model.id.toList) →
    ∀ (later : Gate) (moment : Instant) (query : Web.Request),
      later.catalog = (gate.serve now request).2.catalog → query.AsksFor provider →
        later.Privileged moment query →
          ∃ listed, (later.serve moment query).1 = .found (.list (listed.map Descriptor.toJson)) ∧
            Descriptor.listOfText (Json.list (listed.map Descriptor.toJson)).render = .ok listed ∧
            Replaced gate.catalog provider connection models listed
  -- But there is nothing to register for a connection that lacks a name, or whose provider does.
  unnamed : provider = "" ∨ connection = "" →
    (gate.serve now request).2.catalog = gate.catalog
  -- In no case does it make a difference to another provider.
  others : ∀ other, other ≠ provider →
    SameOf other gate.catalog (gate.serve now request).2.catalog

/-- A handler is told of somebody with access to management. -/
theorem Privileged.isAdmin (privileged : gate.Privileged now request) :
    ∃ context, (gate.authenticate now request.path request.query request.headers).1 = .ok context ∧
      Web.isAdmin context = true := by
  obtain ⟨context, admitted, admin⟩ := privileged
  -- The context is one for somebody with a key.
  exact ⟨some context, admitted, admin⟩

/-- Letting a request in gives no models mappings, and keeps none from getting them. -/
theorem authenticate_seedings (gate : Gate) (now : Instant) (path : String)
    (query : Option String) (headers : Web.Headers) :
    (gate.authenticate now path query headers).2.seedings = gate.seedings := by
  -- Whether or not a use is to be recorded, no seeding is submitted.
  rcases gate.authenticate_worker now path query headers with same | ⟨context, -, touched⟩
  · rw [seedings, same, seedings]
  · -- The record of the use of a key is an errand of another kind.
    rw [seedings, touched, Worker.waiting_submit, seedings]
    split
    · rw [List.filterMap_append]
      exact List.append_nil _
    · rfl

/-- Models sent by somebody with access to management are refused or announced. -/
theorem serve_of_sends (sends : request.Sends provider connection models)
    (privileged : gate.Privileged now request) :
    gate.serve now request =
      let after := (gate.authenticate now request.path request.query request.headers).2
      if ∃ model ∈ models, Text.AllBlank model.id.toList then
        (.ofRefusal Web.unnamedModel, after)
      else (.bare 204, after.publish (.registered provider connection models)) := by
  -- The path is that of a connection, with names that can be read.
  obtain ⟨segment, other, reaches, first, second⟩ := sends.place
  obtain ⟨context, admitted, known⟩ := privileged.isAdmin
  have handled : Web.handle now gate.catalog context request (.connectionModels segment other) =
      .done (Web.registerModels context request.headers request.body provider connection) := by
    rw [Web.handle, Web.named_of_read first, Web.named_of_read second]
  rw [serve_of_handle reaches (Prod.ext admitted rfl) handled,
    Web.registerModels_of_sends sends known]
  -- The two ways to handle the request are those that are told apart here.
  split <;> rfl

/-- Those with access to management are shown what is listed of a provider. -/
theorem serve_of_asksFor (asks : request.AsksFor provider)
    (privileged : gate.Privileged now request) :
    (gate.serve now request).1 =
      .found (.list ((gate.catalog.modelsOf provider).map Descriptor.toJson)) := by
  obtain ⟨segment, reaches, read⟩ := asks
  -- There is access, and so there is an answer.
  obtain ⟨context, admitted, known⟩ := privileged.isAdmin
  have handled : Web.handle now gate.catalog context request (.providerModels segment) =
      .done (.plain (.found (.list
        ((gate.catalog.modelsOf provider).map Descriptor.toJson)))) := by
    rw [Web.handle, Web.named_of_read read, Web.showProvider, Web.forAdmin_of_isAdmin known]
  rw [serve_of_handle reaches (Prod.ext admitted rfl) handled]
  rfl

/-- The catalog follows the announcement of models that are not refused. -/
theorem catalog_serve_of_sends (sends : request.Sends provider connection models)
    (privileged : gate.Privileged now request) :
    (gate.serve now request).2.catalog =
      if ∃ model ∈ models, Text.AllBlank model.id.toList then gate.catalog
      else gate.catalog.note .inOrder (.registered provider connection models) := by
  -- To let the request in leaves the catalog alone.
  have kept := (gate.authenticate_keeps now request.path request.query request.headers).1
  rw [serve_of_sends sends privileged]
  split
  · exact kept
  · rw [publish_catalog, kept]

/-- Models that somebody with access to management sends for a connection are all registered or
none is, if the catalog is tracked. -/
theorem allOrNone {events : List ModelEvent} (tracks : Tracks events gate.catalog)
    (sends : request.Sends provider connection models)
    (privileged : gate.Privileged now request) :
    AllOrNone gate now request provider connection models where
  refused blank := by
    rw [serve_of_sends sends privileged, if_pos blank]
    exact ⟨rfl, rfl⟩
  unchanged blank := by
    -- A refusal comes after the request is let in, which leaves everything but a record of use.
    have kept := gate.authenticate_keeps now request.path request.query request.headers
    rw [serve_of_sends sends privileged, if_pos blank]
    exact ⟨kept.1, kept.2, gate.authenticate_seedings now request.path request.query request.headers⟩
  accepted spoken := by
    rw [serve_of_sends sends privileged, if_neg (by simpa using spoken)]
  shown providerNamed connectionNamed spoken later moment query same asks admitted := by
    have named := (Catalog.isNamed_iff provider connection).mpr ⟨providerNamed, connectionNamed⟩
    -- A name that is more than white space is not empty.
    have replaced := tracks.replaced .inOrder named fun model listed empty =>
      spoken model listed (by simp [empty, Text.AllBlank])
    rw [catalog_serve_of_sends sends privileged, if_neg (by simpa using spoken)] at same
    rw [← same] at replaced
    exact ⟨_, serve_of_asksFor asks admitted,
      Json.whole_render_list fun model _ => Descriptor.recovers_toJson model, replaced⟩
  unnamed missing := by
    have named := (Catalog.not_isNamed_iff provider connection).mpr missing
    -- Without a name, the catalog is left as it is when it is told.
    rw [catalog_serve_of_sends sends privileged, Catalog.note, Catalog.registerBy, if_neg named,
      ite_self]
  others other different := by
    -- Refused or accepted, nothing is said about any other provider.
    rw [catalog_serve_of_sends sends privileged]
    split
    · exact ⟨rfl, rfl⟩
    · exact Catalog.sameOf_note gate.catalog .inOrder different

/-- After any course of a gate, models that somebody with access to management sends for a
connection are all registered, or none of them is. -/
theorem registration_all_or_none (zone : Calendar.Zone) (policy : Policy) (limits : WorkerLimits)
    (history : List (Instant × Operation)) (now : Instant) (request : Web.Request)
    (provider connection : String) (models : List Descriptor)
    (sends : request.Sends provider connection models)
    (privileged : ((opened zone policy limits).performAll history).2.Privileged now request) :
    AllOrNone ((opened zone policy limits).performAll history).2 now request provider connection
      models := by
  -- The catalog has followed the events noted in the course.
  have tracks := Catalog.tracks_follow
    (((opened zone policy limits).noted history).map fun event => (Traversal.inOrder, event))
  have followed := catalog_performAll (opened zone policy limits) history
  rw [show (opened zone policy limits).catalog = .empty from rfl] at followed
  rw [← followed] at tracks
  exact allOrNone tracks sends privileged

/-- One of two connections sends a model in two casings, in the place of another model. The last
casing is found, as is the model of the other connection. But had one of the names been white space,
nothing would have changed. -/
theorem registration_all_or_none_recased :
    let model (id : String) : Descriptor := ⟨id, none, none, none, []⟩
    let history : List (Instant × Operation) :=
      [(0, .publish (.registered "p" "d" [model "other"])),
        (1, .publish (.registered "p" "c" [model "old"])), (2, .issueKey ⟨"k"⟩ "t" none true)]
    let gate := ((opened .universal .standard .standard).performAll history).2
    let request (body : String) : Web.Request :=
      ⟨.put, "/v0/management/providers/p/connections/c/models", none,
        [⟨"X-Api-Key", "t"⟩, ⟨"Content-Type", "application/json"⟩], body⟩
    let spoken := request "[\x7b\"id\":\"New\"\x7d,[\"NEW\",null,\"o\",8,[]]]"
    let blank := request "[\x7b\"id\":\"New\"\x7d,\x7b\"id\":\" \"\x7d]"
    let last : Descriptor := ⟨"NEW", none, some "o", some 8, []⟩
    let registered := (gate.serve 3 spoken).2.catalog
    AllOrNone gate 3 spoken "p" "c" [model "New", last] ∧
      (gate.serve 3 spoken).1.status = 204 ∧ registered.find? "p" "new" = some last ∧
      registered.find? "p" "other" = some (model "other") ∧ registered.find? "p" "old" = none ∧
      AllOrNone gate 3 blank "p" "c" [model "New", model " "] ∧
      (gate.serve 3 blank).1.status = 400 ∧
      (gate.serve 3 blank).2.catalog.find? "p" "old" = some (model "old") := by
  intro model history gate request spoken blank last registered
  -- The path is looked at once, for whatever body is sent to it.
  have reaches (body : String) :
      (request body).Reaches (.connectionModels "p".toList "c".toList) := by
    refine ⟨?_, rfl, Web.Method.noConfusion⟩
    show Web.Resource.ofPath? "/v0/management/providers/p/connections/c/models" = _
    decide
  have place (body : String) : ∃ segment other,
      (request body).Reaches (.connectionModels segment other) ∧
        Web.decodeSegment? segment = some "p" ∧ Web.decodeSegment? other = some "c" :=
    ⟨_, _, reaches body, by decide +kernel, by decide +kernel⟩
  have sends : spoken.Sends "p" "c" [model "New", last] :=
    ⟨place _, by decide +kernel, by decide +kernel, by decide +kernel⟩
  have alsoSends : blank.Sends "p" "c" [model "New", model " "] :=
    ⟨place _, by decide +kernel, by decide +kernel, by decide +kernel⟩
  -- The key is an administrator's, and is still good.
  have privileged : gate.Privileged 3 spoken :=
    ⟨⟨⟨"k"⟩, "key-t", true, none⟩, by decide +kernel, rfl⟩
  have first := registration_all_or_none .universal .standard .standard history 3 spoken "p" "c" _
    sends privileged
  have second := registration_all_or_none .universal .standard .standard history 3 blank "p" "c" _
    alsoSends privileged
  -- What the catalog has come to is told without letting anybody in again.
  have followed : registered =
      gate.catalog.note .inOrder (.registered "p" "c" [model "New", last]) :=
    (catalog_serve_of_sends sends privileged).trans (if_neg (by decide))
  have kept : (gate.serve 3 blank).2.catalog = gate.catalog := (second.unchanged (by decide)).1
  rw [followed, kept, first.accepted (by decide), (second.refused (by decide)).1]
  refine ⟨first, rfl, ?_, ?_, ?_, second, rfl, ?_⟩ <;> decide +kernel

/-- Models sent for a provider without a name are not listed, models in a body that is not announced
as a list of models are not accepted, and neither are models in a body that is too large. -/
theorem nameless_or_unannounced_is_not_registered :
    (¬ ∀ (history : List (Instant × Operation)) (now moment : Instant)
      (request query : Web.Request) (provider connection : String) (models : List Descriptor),
      let gate := ((opened .universal .standard .standard).performAll history).2
      let after := (gate.serve now request).2
      request.Sends provider connection models → gate.Privileged now request →
        (∀ model ∈ models, ¬ Text.AllBlank model.id.toList) → query.AsksFor provider →
          after.Privileged moment query →
            ∃ listed : List Descriptor,
              (after.serve moment query).1 = .found (.list (listed.map Descriptor.toJson)) ∧
                ∀ model ∈ models, model.key ∈ listed.map (·.key)) ∧
    (¬ ∀ (history : List (Instant × Operation)) (now : Instant) (request : Web.Request)
      (segment other : Web.Segment) (models : List Descriptor),
      let gate := ((opened .universal .standard .standard).performAll history).2
      request.Reaches (.connectionModels segment other) →
        (Web.decodeSegment? segment).isSome = true → (Web.decodeSegment? other).isSome = true →
          Descriptor.listOfText request.body = .ok models → gate.Privileged now request →
            (∀ model ∈ models, ¬ Text.AllBlank model.id.toList) →
              (gate.serve now request).1.status = 204) ∧
    ¬ ∀ (history : List (Instant × Operation)) (now : Instant) (request : Web.Request)
      (segment other : Web.Segment) (models : List Descriptor),
      let gate := ((opened .universal .standard .standard).performAll history).2
      request.Reaches (.connectionModels segment other) →
        (Web.decodeSegment? segment).isSome = true → (Web.decodeSegment? other).isSome = true →
          Web.announcesJson request.headers = true →
            Descriptor.listOfText request.body = .ok models → gate.Privileged now request →
              (∀ model ∈ models, ¬ Text.AllBlank model.id.toList) →
                (gate.serve now request).1.status = 204 := by
  refine ⟨?nameless, ?unannounced, ?oversized⟩
  case nameless =>
    intro claimed
    -- The provider is the empty segment between two slashes.
    let history : List (Instant × Operation) := [(0, .issueKey ⟨"k"⟩ "t" none true)]
    let gate := ((opened .universal .standard .standard).performAll history).2
    let request : Web.Request := ⟨.put, "/v0/management/providers//connections/c/models", none,
      [⟨"X-Api-Key", "t"⟩, ⟨"Content-Type", "application/json"⟩], "[\x7b\"id\":\"m\"\x7d]"⟩
    let query : Web.Request :=
      ⟨.get, "/v0/management/providers//models", none, [⟨"X-Api-Key", "t"⟩], ""⟩
    have sends : request.Sends "" "c" [⟨"m", none, none, none, []⟩] :=
      ⟨⟨[], "c".toList, ⟨by decide, rfl, by decide⟩, by decide +kernel, by decide +kernel⟩,
        by decide +kernel, by decide +kernel, by decide +kernel⟩
    have asks : query.AsksFor "" := ⟨[], ⟨by decide, rfl, by decide⟩, by decide +kernel⟩
    have admitted : gate.Privileged 1 request :=
      ⟨⟨⟨"k"⟩, "key-t", true, none⟩, by decide +kernel, rfl⟩
    have privileged : (gate.serve 1 request).2.Privileged 2 query :=
      ⟨⟨⟨"k"⟩, "key-t", true, none⟩, by decide +kernel, rfl⟩
    obtain ⟨listed, shown, named⟩ :=
      claimed history 1 2 request query "" "c" _ sends admitted (by decide) asks privileged
    -- There is nothing that could be shown for the provider.
    have nothing : (gate.serve 1 request).2.catalog.modelsOf "" = [] := by
      rw [catalog_serve_of_sends sends admitted]
      decide
    have same := (serve_of_asksFor asks privileged).symm.trans shown
    rw [nothing] at same
    obtain rfl : listed = [] := by simpa [Web.Response.found] using same
    simp at named
  case unannounced =>
    intro claimed
    have accepted := claimed [(0, .issueKey ⟨"k"⟩ "t" none true)] 1
      ⟨.put, "/v0/management/providers/p/connections/c/models", none, [⟨"X-Api-Key", "t"⟩],
        "[\x7b\"id\":\"m\"\x7d]"⟩
      "p".toList "c".toList [⟨"m", none, none, none, []⟩] ⟨by decide, rfl, by decide⟩
      (by decide +kernel) (by decide +kernel) (by decide +kernel)
      ⟨⟨⟨"k"⟩, "key-t", true, none⟩, by decide +kernel, rfl⟩ (by decide)
    exact absurd accepted (by decide +kernel)
  case oversized =>
    intro claimed
    let history : List (Instant × Operation) := [(0, .issueKey ⟨"k"⟩ "t" none true)]
    let gate := ((opened .universal .standard .standard).performAll history).2
    let request : Web.Request := ⟨.put, "/v0/management/providers/p/connections/c/models", none,
      [⟨"X-Api-Key", "t"⟩, ⟨"Content-Type", "application/json"⟩],
      Web.overlong "[\x7b\"id\":\"m\"\x7d]"⟩
    let context : Context := ⟨⟨"k"⟩, "key-t", true, none⟩
    have reaches : request.Reaches (.connectionModels "p".toList "c".toList) :=
      ⟨by decide, rfl, Web.Method.noConfusion⟩
    have read : Descriptor.listOfText request.body = .ok [⟨"m", none, none, none, []⟩] :=
      (Web.listOfText_overlong _).trans (by decide +kernel)
    have admitted : (gate.authenticate 1 request.path request.query request.headers).1 =
        .ok (some context) := by decide +kernel
    have accepted := claimed history 1 request "p".toList "c".toList _ reaches (by decide +kernel)
      (by decide +kernel) (by decide +kernel) read ⟨context, admitted, rfl⟩ (by decide)
    -- The body is announced as it should be, and nothing but its size is looked at.
    have handled : Web.handle 1 gate.catalog (some context) request
        (.connectionModels "p".toList "c".toList) = .done (.plain (.bare 413)) := by
      have announced : Web.announcesJson request.headers = true := by decide +kernel
      have first : Web.decodeSegment? "p".toList = some "p" := by decide +kernel
      have second : Web.decodeSegment? "c".toList = some "c" := by decide +kernel
      rw [Web.handle, Web.named_of_read first, Web.named_of_read second, Web.registerModels,
        announced, Web.isOversized_overlong]
      rfl
    rw [serve_of_handle reaches (Prod.ext admitted rfl) handled] at accepted
    exact absurd accepted (by decide)

end Gate

end Tollgate
