import Mathlib.Data.List.Forall2
import Tollgate.Proofs.Catalog.View
import Tollgate.Proofs.Gate.Isolation
import Tollgate.Proofs.Gate.Provision

/-!
What goes on in the background. The worker, the records of when keys were used and the mappings
never decide whether a request is let in, and the store never decides what the catalog makes of an
event. Two courses of a gate are compared that differ in nothing but what is done in the background.
-/

namespace Tollgate

namespace Vault.Tables

/-- The row without the record of its use. -/
def withoutUse (row : KeyRow) : KeyRow := { row with lastUsed := none }

/-- The tables as far as they decide about requests: without the records of when keys were used, and
without mappings. -/
def foreground (tables : Tables) : Tables :=
  { tables with keys := tables.keys.map withoutUse, mappings := [] }

variable {tables other : Tables} {change : Write}

/-- Without records of use there is nothing more to leave out. -/
theorem map_withoutUse_again (rows : List KeyRow) :
    (rows.map withoutUse).map withoutUse = rows.map withoutUse := by
  -- To leave the record of the use out twice is to leave it out.
  rw [List.map_map]
  rfl

/-- A change of a row that is the same with and without records of use leaves the same rows but for
these. -/
theorem map_withoutUse_changeFirst {wanted : KeyRow → Bool} {alter : KeyRow → KeyRow}
    (blind : ∀ row, wanted (withoutUse row) = wanted row)
    (alike : ∀ row, withoutUse (alter (withoutUse row)) = withoutUse (alter row))
    (rows : List KeyRow) :
    (changeFirst wanted alter (rows.map withoutUse)).map withoutUse =
      (changeFirst wanted alter rows).map withoutUse := by
  -- The row that is changed is the same one, and so is what becomes of it.
  induction rows with
  | nil => rfl
  | cons row rest ih =>
    simp only [List.map_cons, changeFirst, blind]
    split
    · simp only [List.map_cons, alike, map_withoutUse_again]
    · simp only [List.map_cons, ih]
      rfl

/-- The foreground has no background of its own. -/
theorem foreground_foreground (tables : Tables) :
    tables.foreground.foreground = tables.foreground := by
  -- There are neither records nor mappings left that could be left out.
  simp only [foreground, map_withoutUse_again]

/-- What a change makes of the foreground can be told from the foreground alone. -/
theorem foreground_write (tables : Tables) (change : Write) :
    (tables.foreground.write change).foreground = (tables.write change).foreground := by
  -- Changes of keys are made where the keys are, and all others leave the keys alone.
  cases change with
  | revoke key | deactivate key | touch key instant =>
    exact congrArg (fun keys => ({ tables with keys, mappings := [] } : Tables))
      (map_withoutUse_changeFirst (fun _ => rfl) (fun _ => rfl) tables.keys)
  | issueKey token key =>
    -- Whether the name of the key is taken can be told without records of use.
    have taken : (tables.keys.map withoutUse).any (·.key.id == key.id) =
        tables.keys.any (·.key.id == key.id) := List.any_map
    simp only [write, addKey, foreground, taken]
    split <;> simp only [List.map_append, map_withoutUse_again]
  | openAccount account =>
    -- Accounts are all in the foreground, so they are taken or free on both sides alike.
    by_cases taken : tables.accounts.any (·.id == account.id) = true
    · have alsoTaken : tables.foreground.accounts.any (·.id == account.id) = true := taken
      rw [write, write, addAccount, addAccount, if_pos taken, if_pos alsoTaken,
        foreground_foreground]
    · have alsoFree : ¬ tables.foreground.accounts.any (·.id == account.id) = true := taken
      rw [write, write, addAccount, addAccount, if_neg taken, if_neg alsoFree]
      simp only [foreground, map_withoutUse_again]
  | setDisabled account disabled =>
    simp only [write, setDisabled, foreground, map_withoutUse_again]
  | addBill account bill | addCard account card | addUse use | addMapping mapping =>
    simp only [write, addBill, addCard, addUse, addMapping, foreground, map_withoutUse_again]

/-- Routine changes are made in the background. -/
theorem foreground_of_isRoutine (routine : change.IsRoutine) (tables : Tables) :
    (tables.write change).foreground = tables.foreground := by
  -- Routine changes concern only the two things that are left out.
  cases change with
  | touch key instant =>
    exact congrArg (fun keys => ({ tables with keys, mappings := [] } : Tables))
      (map_changeFirst withoutUse fun _ => rfl)
  | addMapping mapping => rfl
  | _ => exact routine.elim

/-- Tables that come about by routine changes are the same in the foreground. -/
theorem Becomes.foreground (becomes : Becomes Write.IsRoutine tables other) :
    other.foreground = tables.foreground :=
  becomes.keeps (·.foreground = tables.foreground)
    (fun between _ routine same => (foreground_of_isRoutine routine between).trans same) rfl

/-- Whatever decides about a token is in the foreground. -/
theorem ground?_foreground (tables : Tables) (digest : String) :
    tables.foreground.ground? digest = tables.ground? digest := by
  -- A row is found by its digest, and it is the key in it that is handed out.
  have found : tables.foreground.keyOf? digest = tables.keyOf? digest := by
    rw [keyOf?, foreground, List.find?_map, Option.map_map]
    rfl
  rw [ground?, found]
  rfl

/-- No key is stored for a token of which nothing decides. -/
theorem keyOf?_of_ground?_eq_none {digest : String} (unknown : tables.ground? digest = none) :
    tables.keyOf? digest = none :=
  Option.map_eq_none_iff.mp unknown

end Vault.Tables

namespace Admission

open Vault (Watched)

/-- Two stores in which the same decides about a token, or nothing does, lead to the same verdict on
it. -/
theorem run_askKey_of_ground? {zone : Calendar.Zone} {now : Instant} {first second : Watched}
    {digest : String} (same : first.SameCondition second)
    (ground : first.vault.tables.ground? digest = second.vault.tables.ground? digest) :
    ((askKey zone now digest).run Watched.answer first).1 =
      ((askKey zone now digest).run Watched.answer second).1 := by
  -- Either both stores have the same to say about the token, or neither knows it.
  cases found : first.vault.tables.ground? digest with
  | some decisive => exact run_askKey_alike same found (ground.symm.trans found)
  | none =>
    -- Neither store knows a key, and so nothing more is asked.
    have unknown := Vault.Tables.keyOf?_of_ground?_eq_none found
    have alsoUnknown := Vault.Tables.keyOf?_of_ground?_eq_none (ground.symm.trans found)
    refine same.run_demand rfl (unknown.trans alsoUnknown.symm) ?_
    intro after later _ _ _
    simp only [Vault.respond, unknown, Dialogue.run_done]

end Admission

namespace Gate

/-- Two gates differ in nothing but their workers, their catalogs, the calls they have noted and let
through, and what their stores keep or refuse in the background. -/
structure SameForeground (first second : Gate) : Prop where
  setting : first.setting = second.setting
  tables : first.tables.foreground = second.tables.foreground

/-- The operation only concerns what goes on in the background: the worker, the records of when keys
were used, and the mappings. -/
def Operation.isBackground : Operation → Bool
  | .settle | .stopWorker | .setFailingTouch _ | .setStale _ | .addMapping _ | .listMappings
  | .wasUsed _ | .seed _ _ => true
  | .direct (.touchKey _ _) | .direct (.mappingExists _ _) | .direct (.insertMapping _) => true
  | _ => false

/-- A course of a gate without what is done in the background. -/
def foregroundOf (history : List (Instant × Operation)) : List (Instant × Operation) :=
  history.filter fun step => !step.2.isBackground

/-- The decision about a request that comes to a gate. -/
structure Hearing where
  /-- How many calls the store still lets through at that moment, if their number is limited. -/
  allowance : Option Nat
  /-- The verdict. -/
  verdict : Admission.Verdict

/-- The decision about the request that an operation brings to a gate, if it brings one. -/
def Operation.hearing? (gate : Gate) (now : Instant) : Operation → Option Hearing
  | .authenticate path query headers =>
    some ⟨gate.store.allowance, (gate.authenticate now path query headers).1⟩
  | .serve request =>
    some ⟨gate.store.allowance,
      (gate.authenticate now request.path request.query request.headers).1⟩
  | _ => none

/-- The decisions about all requests of a course, in their order. -/
def hearings (gate : Gate) : List (Instant × Operation) → List Hearing
  | [] => []
  | (now, first) :: rest =>
    (first.hearing? gate now).toList ++ (gate.perform now first).2.hearings rest

/-- Two decisions about a request come to the same, unless the number of calls let through is
limited and there are too few left for one of them. -/
structure Hearing.Agrees (first second : Hearing) : Prop where
  limited : first.allowance.isSome = second.allowance.isSome
  verdict : first.allowance = second.allowance → first.verdict = second.verdict
  spent : first.verdict ≠ second.verdict →
    first.verdict = outOfCalls ∨ second.verdict = outOfCalls

/-- The event that an operation has the catalog follow, announced or not. -/
def Operation.noted? (gate : Gate) (now : Instant) (operation : Operation) : Option ModelEvent :=
  ((operation.announced? gate now).map (·.2)).or operation.recorded?

/-- The events that the catalog follows in a course, in their order. -/
def noted (gate : Gate) : List (Instant × Operation) → List ModelEvent
  | [] => []
  | (now, first) :: rest =>
    (first.noted? gate now).toList ++ (gate.perform now first).2.noted rest

variable {first second : Gate} {now : Instant} {operation : Operation}

theorem SameForeground.symm (same : first.SameForeground second) : second.SameForeground first :=
  ⟨same.setting.symm, same.tables.symm⟩

theorem SameForeground.trans {third : Gate} (same : first.SameForeground second)
    (also : second.SameForeground third) : first.SameForeground third :=
  ⟨same.setting.trans also.setting, same.tables.trans also.tables⟩

/-- Gates that have just been opened under the same rules are the same in the foreground, whatever
their workers take on. -/
theorem sameForeground_opened (zone : Calendar.Zone) (policy : Policy)
    (limits other : WorkerLimits) :
    SameForeground (opened zone policy limits) (opened zone policy other) :=
  ⟨rfl, rfl⟩

/-- Gates that are the same in the foreground know the same accounts. -/
theorem SameForeground.knows (same : first.SameForeground second) : first.knows = second.knows :=
  congrArg (fun tables account => (tables.account? account).isSome) same.tables

/-- Every operation makes of the foreground what can be told from it alone. -/
theorem foreground_perform (gate : Gate) (now : Instant) (operation : Operation) :
    (gate.perform now operation).2.tables.foreground =
      (operation.write?.elim gate.tables.foreground gate.tables.foreground.write).foreground := by
  -- The operation makes one change, or leaves the foreground as it is.
  cases made : operation.write? with
  | none =>
    rw [(perform_of_no_write? made).foreground]
    exact (Vault.Tables.foreground_foreground _).symm
  | some change =>
    rw [perform_of_write? made]
    exact (Vault.Tables.foreground_write gate.tables change).symm

/-- Gates that are the same in the foreground still are after the same has been done to both. -/
theorem SameForeground.both (same : first.SameForeground second) (now : Instant)
    (operation : Operation) :
    (first.perform now operation).2.SameForeground (second.perform now operation).2 where
  setting := by rw [setting_perform, setting_perform, same.setting, same.knows]
  tables := by rw [foreground_perform, foreground_perform, same.tables]

/-- What is done in the background sets no gate in another way. -/
theorem Operation.onSetting_of_isBackground (background : operation.isBackground = true)
    (known : AccountId → Bool) (setting : Setting) :
    operation.onSetting known setting = setting := by
  -- The operations that set a gate in another way belong to the foreground.
  cases operation with
  | setFailing failing | limitCalls allowance | setPolicy policy
  | evaluate account instant thenFail => cases background
  | _ => rfl

/-- What is done in the background makes no change but a routine one. -/
theorem Operation.isRoutine_of_isBackground (background : operation.isBackground = true) :
    ∀ change ∈ operation.write?, change.IsRoutine := by
  intro change made
  -- The only change made in the background is to add a mapping.
  cases operation with
  | openAccount account | setDisabled account disabled | issueKey id token owner admin
  | revoke key | deactivate key | addBill account bill | addCard account card | addUse use =>
    cases background
  | addMapping mapping =>
    cases made
    trivial
  | _ => cases made

/-- What is done in the background leaves a gate as it is in the foreground. -/
theorem sameForeground_perform (background : operation.isBackground = true) (gate : Gate)
    (now : Instant) : (gate.perform now operation).2.SameForeground gate where
  setting := by
    rw [setting_perform, Operation.onSetting_of_isBackground background]
  tables := by
    -- If it makes a change at all, that change is a routine one.
    have routine := Operation.isRoutine_of_isBackground background
    cases made : operation.write? with
    | none => exact (perform_of_no_write? made).foreground
    | some change =>
      rw [perform_of_write? made]
      exact Vault.Tables.foreground_of_isRoutine (routine change made) gate.tables

/-- The same decides about a token at gates that are the same in the foreground. -/
theorem SameForeground.ground? (same : first.SameForeground second) (digest : String) :
    first.tables.ground? digest = second.tables.ground? digest := by
  -- What decides can be told from the foreground, which both gates share.
  rw [← Vault.Tables.ground?_foreground first.tables, same.tables,
    Vault.Tables.ground?_foreground]

/-- Gates that are the same in the foreground come to the same verdict on a request, if their stores
let through as many calls. -/
theorem SameForeground.authenticate (same : first.SameForeground second)
    (allowance : first.store.allowance = second.store.allowance) (now : Instant) (path : String)
    (query : Option String) (headers : Web.Headers) :
    (first.authenticate now path query headers).1 =
      (second.authenticate now path query headers).1 := by
  have zone : first.zone = second.zone := congrArg Setting.zone same.setting
  have policy : first.policy = second.policy := congrArg Setting.policy same.setting
  have condition : first.store.SameCondition second.store :=
    ⟨congrArg Setting.failing same.setting, allowance⟩
  rw [Admission.authenticate_verdict, Admission.authenticate_verdict, zone, policy]
  -- The store is asked about a request only if it needs a credential and carries one.
  by_cases opened : Web.isOpen second.policy path = true
  · rw [Admission.ask_of_isOpen opened]
    rfl
  · have closed := Bool.eq_false_iff.mpr opened
    cases found : Credential.find? second.policy path query headers with
    | none =>
      rw [Admission.ask_of_absent closed found]
      rfl
    | some credential =>
      rw [Admission.ask_of_presents ⟨closed, credential, found, rfl⟩]
      -- What decides about the token is in the foreground.
      exact Admission.run_askKey_of_ground? condition (same.ground? _)

/-- Gates that are the same in the foreground still are if their stores let all calls through. -/
theorem SameForeground.unlimited (same : first.SameForeground second) :
    first.unlimited.SameForeground second.unlimited where
  setting := congrArg (fun setting : Setting => { setting with limited := false }) same.setting
  tables := same.tables

/-- Gates that are the same in the foreground decide alike about a request. -/
theorem SameForeground.agrees (same : first.SameForeground second) (now : Instant) (path : String)
    (query : Option String) (headers : Web.Headers) :
    Hearing.Agrees
      ⟨first.store.allowance, (first.authenticate now path query headers).1⟩
      ⟨second.store.allowance, (second.authenticate now path query headers).1⟩ := by
  -- With all calls let through, both gates would come to the same verdict.
  have concur : Concur outOfCalls first second fun gate =>
      (gate.authenticate now path query headers).1 :=
    .of_unlimited (fun allowance => same.authenticate allowance now path query headers)
      (fun gate => gate.authenticate_or_outOfCalls now path query headers)
      (same.unlimited.authenticate rfl now path query headers)
  exact ⟨congrArg Setting.limited same.setting, concur.same, concur.spent⟩

/-- Gates that are the same in the foreground decide alike about the request of an operation. -/
theorem SameForeground.hearing? (same : first.SameForeground second) (now : Instant)
    (operation : Operation) :
    List.Forall₂ Hearing.Agrees (operation.hearing? first now).toList
      (operation.hearing? second now).toList := by
  -- Only two kinds of operations bring a request.
  cases operation with
  | authenticate path query headers => exact .cons (same.agrees now path query headers) .nil
  | serve request =>
    exact .cons (same.agrees now request.path request.query request.headers) .nil
  | _ => exact .nil

/-- What is done in the background brings no request. -/
theorem Operation.hearing?_of_isBackground (background : operation.isBackground = true)
    (gate : Gate) (now : Instant) : operation.hearing? gate now = none := by
  -- An operation that brings a request is none of the background.
  cases operation with
  | authenticate path query headers | serve request => cases background
  | _ => rfl

/-- No request is heard in the background. -/
theorem hearings_of_isBackground (background : operation.isBackground = true) (gate : Gate)
    (now : Instant) (rest : List (Instant × Operation)) :
    gate.hearings ((now, operation) :: rest) = (gate.perform now operation).2.hearings rest := by
  -- The operation has no decision to add to those of the rest.
  rw [hearings, Operation.hearing?_of_isBackground background, Option.toList_none,
    List.nil_append]

/-- What is done in the background does not show in the rest of a course. -/
theorem foregroundOf_of_isBackground (background : operation.isBackground = true) (now : Instant)
    (rest : List (Instant × Operation)) :
    foregroundOf ((now, operation) :: rest) = foregroundOf rest := by
  simp [foregroundOf, background]

/-- Anything else shows at its place in the course. -/
theorem foregroundOf_of_not_isBackground (shown : ¬ operation.isBackground = true) (now : Instant)
    (rest : List (Instant × Operation)) :
    foregroundOf ((now, operation) :: rest) = (now, operation) :: foregroundOf rest := by
  simp [foregroundOf, shown]

/-- A course in the background alone has no requests. -/
theorem hearings_of_foregroundOf_nil {history : List (Instant × Operation)} (gate : Gate)
    (nothing : foregroundOf history = []) : gate.hearings history = [] := by
  -- All steps are in the background, and none of them has a request.
  induction history generalizing gate with
  | nil => rfl
  | cons step rest ih =>
    obtain ⟨now, operation⟩ := step
    by_cases background : operation.isBackground = true
    · rw [hearings_of_isBackground background]
      rw [foregroundOf_of_isBackground background] at nothing
      exact ih _ nothing
    · rw [foregroundOf_of_not_isBackground background] at nothing
      cases nothing

/-- A course comes to its first operation in the foreground with a gate that is the same there. -/
theorem exists_hearings_eq_append {history shown : List (Instant × Operation)} (gate : Gate)
    (next : foregroundOf history = (now, operation) :: shown) :
    ∃ (met : Gate) (rest : List (Instant × Operation)), met.SameForeground gate ∧
      foregroundOf rest = shown ∧
        gate.hearings history =
          (operation.hearing? met now).toList ++ (met.perform now operation).2.hearings rest := by
  -- Steps in the background are passed by until one shows, which has to be the given one.
  induction history generalizing gate with
  | nil => cases next
  | cons step rest ih =>
    obtain ⟨earlier, first⟩ := step
    by_cases background : first.isBackground = true
    · -- The course is no further in the foreground after this step.
      rw [foregroundOf_of_isBackground background] at next
      obtain ⟨met, remaining, same, left, heard⟩ := ih (gate.perform earlier first).2 next
      refine ⟨met, remaining, ?_, left, ?_⟩
      · exact same.trans (sameForeground_perform background gate earlier)
      · rw [hearings_of_isBackground background, heard]
    · -- This is the step that shows, and nothing has been done to the gate before it.
      rw [foregroundOf_of_not_isBackground background] at next
      obtain ⟨here, left⟩ := List.cons.inj next
      cases here
      exact ⟨gate, rest, ⟨rfl, rfl⟩, left, rfl⟩

/-- Gates that are the same in the foreground decide alike about all requests of two courses that
differ only in the background. -/
theorem SameForeground.hearings {history other : List (Instant × Operation)}
    (same : first.SameForeground second) (alike : foregroundOf history = foregroundOf other) :
    List.Forall₂ Hearing.Agrees (first.hearings history) (second.hearings other) := by
  -- Whenever the first course goes on in the foreground, the second one catches up with it.
  induction history generalizing first second other with
  -- Nothing is left in the foreground of the second course either.
  | nil =>
    rw [hearings_of_foregroundOf_nil second alike.symm]
    exact .nil
  | cons step rest ih =>
    obtain ⟨now, operation⟩ := step
    by_cases background : operation.isBackground = true
    · -- Such a step leaves the first gate the same as the second in the foreground.
      rw [hearings_of_isBackground background]
      rw [foregroundOf_of_isBackground background] at alike
      exact ih ((sameForeground_perform background first now).trans same) alike
    · -- Both courses have come to the same operation, at gates that are still the same there.
      rw [foregroundOf_of_not_isBackground background] at alike
      obtain ⟨met, others, kept, remaining, heard⟩ :=
        exists_hearings_eq_append second alike.symm
      have same : first.SameForeground met := same.trans kept.symm
      rw [heard]
      exact List.rel_append (same.hearing? now operation)
        (ih (same.both now operation) remaining.symm)

/-- Whatever an operation does, the catalog follows the event that it notes, and nothing else. -/
theorem catalog_perform (gate : Gate) (now : Instant) (operation : Operation) :
    (gate.perform now operation).2.catalog =
      gate.catalog.follow
        ((operation.noted? gate now).toList.map fun event => (.inOrder, event)) := by
  unfold Operation.noted?
  cases found : operation.announced? gate now with
  | some announcement =>
    -- The event is announced, after nothing that concerns the catalog.
    obtain ⟨announcing, event⟩ := announcement
    obtain ⟨aside, published⟩ := perform_of_announced? found
    rw [published, publish_catalog, aside.catalog]
    rfl
  | none =>
    -- Events may also be recorded without being announced.
    cases recorded : operation.recorded? with
    | some event =>
      cases operation <;> cases recorded
      exact gate.record_catalog event
    | none =>
      -- What is left to the worker does not concern the catalog, and neither does stopping it.
      by_cases settles : operation = .settle
      · subst settles
        obtain ⟨store, settled⟩ := gate.exists_settle_eq now
        show (gate.settle now).catalog = gate.catalog
        rw [settled]
      · by_cases stops : operation = .stopWorker
        · subst stops
          rfl
        · exact (aside_perform found recorded settles stops).catalog

/-- After a course, the catalog has followed the events noted in it. -/
theorem catalog_performAll (gate : Gate) (history : List (Instant × Operation)) :
    (gate.performAll history).2.catalog =
      gate.catalog.follow ((gate.noted history).map fun event => (.inOrder, event)) := by
  -- Each operation hands its catalog on to the rest of the course.
  induction history generalizing gate with
  | nil => rfl
  | cons step rest ih =>
    obtain ⟨now, operation⟩ := step
    -- The rest of the course starts from the catalog that the operation leaves.
    show ((gate.perform now operation).2.performAll rest).2.catalog = _
    rw [ih, catalog_perform, noted, List.map_append]
    exact List.foldl_append.symm

/-- Nothing that is done in the background decides about a request, except that it may use up calls
where their number is limited, so that there are too few left for the request. And the catalog shows
the same after the same events, whatever the store keeps or refuses, and whatever the worker
does. -/
theorem background_decides_nothing :
    (∀ first second : Gate, first.SameForeground second → ∀ history other,
      foregroundOf history = foregroundOf other →
        List.Forall₂ Hearing.Agrees (first.hearings history) (second.hearings other)) ∧
    ∀ first second : Gate, first.catalog = second.catalog → ∀ history other,
      first.noted history = second.noted other →
        (first.performAll history).2.catalog = (second.performAll other).2.catalog := by
  constructor
  · intro first second same history other alike
    exact same.hearings alike
  · intro first second same history other alike
    -- Both catalogs have followed the same events from the same beginning.
    rw [catalog_performAll, catalog_performAll, same, alike]

/-- One worker takes everything on, the other one is stopped and all else in the background fails as
well. The bearer of a key is let in twice by both gates, and both show the model that is registered
in between. -/
theorem background_decides_nothing_worker_stopped :
    let first := opened .universal .standard .standard
    let second := opened .universal .standard ⟨1, 1⟩
    let key := Operation.issueKey ⟨"k"⟩ "t" none false
    let request := Operation.authenticate "/v1/models" none [⟨"X-Api-Key", "t"⟩]
    let event := ModelEvent.registered "p" "c" [⟨"m", none, none, none, []⟩]
    let history := [(0, key), (1, request), (2, .settle), (3, .publish event), (4, .settle),
      (5, request)]
    let other := [(0, key), (0, .setFailingTouch true), (0, .stopWorker), (1, request),
      (2, .addMapping ⟨"p", "m", "n", true⟩), (3, .publish event), (4, .settle), (5, request)]
    first.SameForeground second ∧ foregroundOf history = foregroundOf other ∧
      List.Forall₂ Hearing.Agrees (first.hearings history) (second.hearings other) ∧
      first.noted history = second.noted other ∧
      (first.performAll history).2.catalog = (second.performAll other).2.catalog ∧
      (first.performAll history).2.tables.everUsed ⟨"k"⟩ = true ∧
      (second.performAll other).2.tables.everUsed ⟨"k"⟩ = false := by
  intro first second key request event history other
  have same : first.SameForeground second :=
    sameForeground_opened .universal .standard .standard ⟨1, 1⟩
  -- The steps that make the difference are all in the background.
  have alike : foregroundOf history = foregroundOf other := by decide
  have noted : first.noted history = second.noted other := by decide +kernel
  obtain ⟨decided, followed⟩ := background_decides_nothing
  refine ⟨same, alike, decided first second same history other alike, noted,
    followed first second rfl history other noted, ?_, ?_⟩ <;> decide +kernel

/-- The store lets two more calls through. The bearer of a key needs one each time, and is let in
twice; but if the worker gets to record the first use in between, that takes the second call. -/
theorem settling_uses_calls_up :
    let gate := opened .universal .standard .standard
    let request := Operation.authenticate "/v1/models" none [⟨"X-Api-Key", "t"⟩]
    let issued := (0, Operation.issueKey ⟨"k"⟩ "t" none false)
    let limited := (1, Operation.limitCalls (some 2))
    let history := [issued, limited, (2, request), (4, request)]
    let other := [issued, limited, (2, request), (3, .settle), (4, request)]
    let context : Context := ⟨⟨"k"⟩, "key-t", false, none⟩
    foregroundOf history = foregroundOf other ∧
      (gate.hearings history).map (·.verdict.toOption) = [some (some context), some (some context)] ∧
      (gate.hearings other).map (·.verdict.toOption) = [some (some context), none] := by
  -- The course is short enough for the verdicts to be computed.
  decide +kernel

end Gate

end Tollgate
