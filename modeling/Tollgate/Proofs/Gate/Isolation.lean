import Tollgate.Proofs.Gate.Limit
import Tollgate.Proofs.Gate.Withdrawal
import Tollgate.Proofs.Vault.Ground

/-!
Isolation of those who use the gate from one another. Whatever is done for others in between makes
no difference to the bearer of a token, as long as nobody changes the settings of the gate: requests
with the token meet the same verdicts, and the account of its key may use the same. Only where the
store lets no more than a number of calls through may others use up those that the bearer needs.
-/

namespace Tollgate

namespace Admission

open Vault (Watched)

variable {zone : Calendar.Zone} {now : Instant} {first second : Watched} {digest : String}

/-- Two stores that keep the same of the owner of a key lead to the same verdict on it. -/
theorem run_askOwner_alike (same : first.SameCondition second) (key : AccessKey)
    {owner : AccountId}
    (holdings : first.vault.tables.holdings owner = second.vault.tables.holdings owner) :
    ((askOwner zone now key owner).run Watched.answer first).1 =
      ((askOwner zone now key owner).run Watched.answer second).1 := by
  -- Both dialogues ask for the account, and go on in the same way with what they are told.
  have concerns : (Call.findAccount owner).Concerns owner := rfl
  refine same.run_demand rfl (Vault.Tables.respond_of_holdings concerns holdings _ _) ?_
  intro after later still kept alsoKept
  simp only [Vault.respond]
  cases found : first.vault.tables.account? owner with
  -- Neither store knows the owner, and both say so.
  | none => rfl
  | some account =>
    by_cases disabled : account.disabled = true
    · -- The account is disabled in both, and asked nothing more about.
      simp only [if_pos disabled, Dialogue.run_done]
    · -- The account that is found is the owner, of which the same is kept.
      have named : account.id = owner := by simpa using List.find?_some found
      have holdings : after.vault.tables.holdings account.id =
          later.vault.tables.holdings account.id := by
        rw [kept, alsoKept, named]
        exact holdings
      have evaluated := still.run holdings (Entitlement.asksOnly_ask zone account now)
      simp only [if_neg disabled, Dialogue.run_andThen, evaluated]
      rcases ((Entitlement.ask zone account now).run Watched.answer later).1 with
        outage | _ | denial <;> rfl

/-- Two stores in which the same decides about a token lead to the same verdict on it. -/
theorem run_askKey_alike (same : first.SameCondition second) {ground : Vault.Ground}
    (found : first.vault.tables.ground? digest = some ground)
    (alsoFound : second.vault.tables.ground? digest = some ground) :
    ((askKey zone now digest).run Watched.answer first).1 =
      ((askKey zone now digest).run Watched.answer second).1 := by
  -- What decides is the key, and what there is of its owner.
  obtain ⟨located, held⟩ := Vault.Tables.ground?_eq_some_iff.mp found
  obtain ⟨alsoLocated, alsoHeld⟩ := Vault.Tables.ground?_eq_some_iff.mp alsoFound
  -- Both dialogues are told of the same key, and only its owner is left to ask for.
  refine same.run_demand rfl (located.trans alsoLocated.symm) ?_
  intro after later still kept alsoKept
  simp only [Vault.respond, located]
  by_cases unusable : (!ground.key.isUsable) = true
  · -- A key that cannot be used decides by itself.
    simp only [if_pos unusable, Dialogue.run_done]
  · simp only [if_neg unusable]
    cases owned : ground.key.owner with
    | none => rfl
    | some owner =>
      -- What there is of the owner is the same in both stores.
      rw [owned] at held alsoHeld
      refine run_askOwner_alike still ground.key ?_
      rw [kept, alsoKept]
      exact Option.some.inj (held.symm.trans alsoHeld)

end Admission

namespace Gate

open Vault (Watched)

namespace Operation

/-- What an operation makes of what decides about a token. -/
def onGround (operation : Operation) (ground : Vault.Ground) : Vault.Ground :=
  match operation.write? with
  | none => ground
  | some change => change.onGround ground

/-- The operation opens the account, unless its identity is taken. -/
def opens (account : AccountId) (operation : Operation) : Bool :=
  operation.write?.any (Vault.Write.opens account)

/-- The operation is about other keys and other accounts, or about none, and leaves the gate set as
it is. Requests may come from anybody. -/
def Spares (key : AccessKey) : Operation → Prop
  | .setFailing _ | .limitCalls _ | .setPolicy _ => False
  | .evaluate _ _ thenFail => thenFail = false
  | operation => ∀ change ∈ operation.write?, change.Spares key

end Operation

variable {gate : Gate} {now : Instant} {operation : Operation} {digest : String}
  {ground : Vault.Ground} {key : AccessKey}

/-- Every operation does to what decides about a token what can be told from it alone. -/
theorem ground?_perform (distinct : gate.tables.Distinct)
    (found : gate.tables.ground? digest = some ground) (now : Instant) (operation : Operation) :
    (gate.perform now operation).2.tables.ground? digest = some (operation.onGround ground) := by
  -- An operation that names a change makes it; what any other does comes from calls.
  unfold Operation.onGround
  cases made : operation.write? with
  | none =>
    -- Calls make routine changes only, and these are about no key and no account.
    exact (perform_of_no_write? made).ground? distinct found fun change routine =>
      Vault.Tables.spares_of_isRoutine routine ground.key
  | some change =>
    rw [perform_of_write? made]
    exact Vault.Tables.ground?_write distinct found change

/-- An account that is known stays known, and any other one becomes known by being opened. -/
theorem knows_perform (distinct : gate.tables.Distinct) (now : Instant) (operation : Operation)
    (account : AccountId) :
    (gate.perform now operation).2.knows account =
      (gate.knows account || operation.opens account) := by
  simp only [knows, Operation.opens]
  cases made : operation.write? with
  | none =>
    -- The changes that calls make open no account.
    have becomes : gate.tables.Becomes Vault.Write.IsRoutine
        (gate.perform now operation).2.tables := perform_of_no_write? made
    have kept := becomes.keeps
      (fun tables => tables.Distinct ∧
        (tables.account? account).isSome = (gate.tables.account? account).isSome)
      ?_ ⟨distinct, rfl⟩
    · rw [kept.2, Option.any_none, Bool.or_false]
    · intro tables change routine law
      refine ⟨law.1.write change, ?_⟩
      have opensNone : change.opens account = false := by
        cases change <;> first | rfl | exact routine.elim
      rw [Vault.Tables.isSome_account?_write law.1, opensNone, Bool.or_false, law.2]
  | some change =>
    -- What an operation is there to write opens the account, or does not.
    rw [perform_of_write? made, Vault.Tables.isSome_account?_write distinct, Option.any_some]

/-- Something that is done for others leaves a gate set as it is. -/
theorem Operation.Spares.onSetting (spares : operation.Spares key) (known : AccountId → Bool)
    (setting : Setting) : operation.onSetting known setting = setting := by
  cases operation with
  | setFailing _ | limitCalls _ | setPolicy _ => exact spares.elim
  | evaluate account instant thenFail =>
    -- It has been assumed not to let the store fail.
    obtain rfl : thenFail = false := spares
    simp only [Operation.onSetting, Bool.false_and, Bool.or_false]
  | _ => rfl

/-- Something that is done for others makes no change but changes that are about others. -/
theorem Operation.Spares.write? (spares : operation.Spares key) :
    ∀ change ∈ operation.write?, change.Spares key := by
  cases operation with
  | setFailing _ | limitCalls _ | setPolicy _ => exact spares.elim
  | evaluate account instant thenFail => exact fun change made => by cases made
  | _ => exact spares

/-- Something that is done for others than the bearer of a key does nothing to what decides about a
token that stands for the key. -/
theorem ground?_perform_of_spares (distinct : gate.tables.Distinct)
    (found : gate.tables.ground? digest = some ground) (named : ground.key.id = key.id)
    (owned : ground.key.owner = key.owner) (now : Instant) (spares : operation.Spares key) :
    (gate.perform now operation).2.tables.ground? digest = some ground := by
  cases made : operation.write? with
  -- With nothing to write, it does to the ground what it does to any.
  | none => rw [ground?_perform distinct found, Operation.onGround, made]
  | some change =>
    rw [perform_of_write? made]
    -- What is written is about another key and another owner.
    exact Vault.Tables.ground?_write_of_spares distinct found
      ((spares.write? change made).congr named owned)

/-- The second course of a gate is the first one with more done in between for others than the
bearer of a key. The accounts opened in between are new ones: the first course does not probe
them. -/
inductive Joined (key : AccessKey) :
    List (Instant × Operation) → List (Instant × Operation) → Prop
  /-- Nothing is done. -/
  | nil : Joined key [] []
  /-- The same is done in both courses. -/
  | both (now : Instant) (operation : Operation) {course more : List (Instant × Operation)}
      (rest : Joined key course more) :
      Joined key ((now, operation) :: course) ((now, operation) :: more)
  /-- Something is done for others. -/
  | others (now : Instant) (operation : Operation) {course more : List (Instant × Operation)}
      (spares : operation.Spares key)
      (fresh : ∀ account, operation.opens account → ∀ step ∈ course, ¬ step.2.probes account)
      (rest : Joined key course more) : Joined key course ((now, operation) :: more)

/-- Two gates that still have a course before them are in line for the bearer of a key. -/
structure InLine (digest : String) (key : AccessKey) (course : List (Instant × Operation))
    (alone among : Gate) : Prop where
  distinct : alone.tables.Distinct
  alsoDistinct : among.tables.Distinct
  setting : among.setting = alone.setting
  -- The key may have changed in the meantime, in the same way for both.
  ground : ∃ ground, alone.tables.ground? digest = some ground ∧
    among.tables.ground? digest = some ground ∧
      ground.key.id = key.id ∧ ground.key.owner = key.owner
  -- What is still to come cannot tell the gates apart by the accounts they know.
  known : ∀ account, ∀ step ∈ course, step.2.probes account →
    among.knows account = alone.knows account

/-- What an operation makes of what decides about a token is about the same key of the same
owner. -/
theorem Operation.onGround_named (operation : Operation) (ground : Vault.Ground) :
    (operation.onGround ground).key.id = ground.key.id ∧
      (operation.onGround ground).key.owner = ground.key.owner := by
  unfold Operation.onGround
  cases operation.write? with
  | none => exact ⟨rfl, rfl⟩
  | some change => exact Vault.Tables.onKey_named ground.key change

variable {course more : List (Instant × Operation)} {alone among : Gate}

/-- Gates that are in line still are after the same has been done to both. -/
theorem InLine.both (inLine : InLine digest key ((now, operation) :: course) alone among) :
    InLine digest key course (alone.perform now operation).2 (among.perform now operation).2 := by
  obtain ⟨distinct, alsoDistinct, setting, ⟨ground, found, alsoFound, named, owned⟩, known⟩ := inLine
  -- Each of the things in line changes as can be told from those in line alone.
  have asNamed := operation.onGround_named ground
  refine ⟨?_, ?_, ?_, ⟨operation.onGround ground, ?_, ?_, ?_, ?_⟩, ?_⟩
  · -- Identities stay distinct whatever is done.
    exact distinct_perform distinct now operation
  · exact distinct_perform alsoDistinct now operation
  · -- If the store is made to fail once an account is found, both gates know it, or neither does.
    rw [setting_perform, setting_perform, setting]
    exact Operation.onSetting_congr _ fun account => known account (now, operation) (by simp)
  · exact ground?_perform distinct found now operation
  · exact ground?_perform alsoDistinct alsoFound now operation
  · exact asNamed.1.trans named
  · exact asNamed.2.trans owned
  · -- Who is known changes in the same way at both gates.
    intro account step member probes
    rw [knows_perform alsoDistinct, knows_perform distinct,
      known account step (List.mem_cons_of_mem _ member) probes]

/-- Gates that are in line still are after something has been done to one of them for others. -/
theorem InLine.others (inLine : InLine digest key course alone among)
    (spares : operation.Spares key)
    (fresh : ∀ account, operation.opens account → ∀ step ∈ course, ¬ step.2.probes account) :
    InLine digest key course alone (among.perform now operation).2 := by
  obtain ⟨distinct, alsoDistinct, setting, ⟨ground, found, alsoFound, named, owned⟩, known⟩ := inLine
  -- Nothing has happened at the first gate, and nothing that matters at the second one.
  refine ⟨distinct, ?_, ?_, ⟨ground, found, ?_, named, owned⟩, ?_⟩
  · exact distinct_perform alsoDistinct now operation
  · -- What is done for others leaves the settings alone.
    rw [setting_perform, spares.onSetting, setting]
  · exact ground?_perform_of_spares alsoDistinct alsoFound named owned now spares
  · intro account step member probes
    -- An account that is probed later on is not one that has been opened just now.
    have unopened : operation.opens account = false :=
      Bool.eq_false_iff.mpr fun opens => fresh account opens step member probes
    rw [knows_perform alsoDistinct, unopened, Bool.or_false, known account step member probes]

/-- Gates that are in line stay so on two courses of which the second one has more for others. -/
theorem InLine.performAll (inLine : InLine digest key course alone among)
    (joined : Joined key course more) :
    InLine digest key [] (alone.performAll course).2 (among.performAll more).2 := by
  -- The courses are followed step by step, and the second one is at times a step ahead.
  induction joined generalizing alone among with
  | nil => exact inLine
  | both now operation rest ih => exact ih inLine.both
  | others now operation spares fresh rest ih => exact ih (inLine.others spares fresh)

/-- The stores of gates that are in line are in the same condition, if they let through as many
calls. -/
theorem InLine.sameCondition (inLine : InLine digest key course alone among)
    (allowance : among.store.allowance = alone.store.allowance) :
    among.store.SameCondition alone.store :=
  ⟨congrArg Setting.failing inLine.setting, allowance⟩

/-- The stores of gates that are in line keep the same of the account that owns the key. -/
theorem InLine.holdings (inLine : InLine digest key course alone among) {owner : AccountId}
    (owned : key.owner = some owner) :
    among.tables.holdings owner = alone.tables.holdings owner := by
  -- What decides about the token includes what there is of the owner of its key.
  obtain ⟨ground, found, alsoFound, -, owns⟩ := inLine.ground
  obtain ⟨-, held⟩ := Vault.Tables.ground?_eq_some_iff.mp found
  obtain ⟨-, alsoHeld⟩ := Vault.Tables.ground?_eq_some_iff.mp alsoFound
  rw [owns, owned] at held alsoHeld
  exact Option.some.inj (alsoHeld.symm.trans held)

/-- Gates that are in line come to the same verdict on a request with the token. -/
theorem InLine.authenticate (inLine : InLine digest key course alone among)
    (allowance : among.store.allowance = alone.store.allowance) (now : Instant) {path : String}
    {query : Option String} {headers : Web.Headers}
    (presented : Admission.Presents alone.policy path query headers digest) :
    (among.authenticate now path query headers).1 =
      (alone.authenticate now path query headers).1 := by
  -- Zone and rules are part of the settings.
  have zone : among.zone = alone.zone := congrArg Setting.zone inLine.setting
  have policy : among.policy = alone.policy := congrArg Setting.policy inLine.setting
  -- The rules being the same, both gates ask for the key with the same digest.
  obtain ⟨ground, found, alsoFound, -, -⟩ := inLine.ground
  rw [Admission.authenticate_verdict, Admission.authenticate_verdict, zone, policy,
    Admission.ask_of_presents presented]
  exact Admission.run_askKey_alike (inLine.sameCondition allowance) alsoFound found

/-- Gates that are in line agree on what the account that owns the key may use. -/
theorem InLine.entitlement (inLine : InLine digest key course alone among)
    (allowance : among.store.allowance = alone.store.allowance) {account : Account}
    (owned : key.owner = some account.id) (instant : Instant) :
    (among.converse (Entitlement.ask among.zone account instant)).1 =
      (alone.converse (Entitlement.ask alone.zone account instant)).1 := by
  have zone : among.zone = alone.zone := congrArg Setting.zone inLine.setting
  -- The same is asked, of stores that keep the same and are in the same condition.
  rw [zone]
  exact (inLine.sameCondition allowance).run (inLine.holdings owned)
    (Entitlement.asksOnly_ask alone.zone account instant)

/-- Gates that are in line agree on what comes of looking up the account that owns the key and
asking what it may use, even if the store fails in between. -/
theorem InLine.evaluate (inLine : InLine digest key course alone among)
    (allowance : among.store.allowance = alone.store.allowance) {owner : AccountId}
    (owned : key.owner = some owner) (instant : Instant) (thenFail : Bool) :
    (among.evaluate owner instant thenFail).1 = (alone.evaluate owner instant thenFail).1 := by
  have zone : among.zone = alone.zone := congrArg Setting.zone inLine.setting
  have holdings := inLine.holdings owned
  have kept : among.tables.account? owner = alone.tables.account? owner :=
    congrArg Vault.Holdings.account holdings
  have failing : among.store.vault.failing = alone.store.vault.failing :=
    congrArg Setting.failing inLine.setting
  -- Both gates find the account, or neither does.
  cases fails : alone.store.vault.failing with
  -- Both stores fail at the first call.
  | true => rw [evaluate_of_failing fails, evaluate_of_failing (failing.trans fails)]
  | false =>
    cases found : alone.tables.account? owner with
    | none =>
      rw [evaluate_of_unknown fails found,
        evaluate_of_unknown (failing.trans fails) (kept.trans found)]
    | some account =>
      rw [evaluate_of_known fails found, evaluate_of_known (failing.trans fails) (kept.trans found)]
      -- Whether or not the stores are made to fail, they stay in the same condition.
      obtain rfl : account.id = owner := by simpa using List.find?_some found
      have same : Watched.SameCondition
          (among.changeVault fun vault => { vault with failing := thenFail }).store
          (alone.changeVault fun vault => { vault with failing := thenFail }).store :=
        ⟨rfl, allowance⟩
      have evaluated := same.run holdings (Entitlement.asksOnly_ask among.zone account instant)
      rw [zone] at evaluated
      refine congrArg (Except.map some) ?_
      simp only [changeVault, zone]
      exact evaluated

/-- Gates that are in line still are if their stores let all calls through. -/
theorem InLine.unlimited (inLine : InLine digest key course alone among) :
    InLine digest key course alone.unlimited among.unlimited where
  distinct := inLine.distinct
  alsoDistinct := inLine.alsoDistinct
  setting := congrArg (fun setting : Setting => { setting with limited := false }) inLine.setting
  ground := inLine.ground
  known := inLine.known

/-- The bearers of a token notice no difference between two gates, and neither do those who ask what
the account of its key may use, unless calls to the store are limited in number and too few of them
are left at one of the gates. -/
structure SameFor (digest : String) (owner : Option AccountId) (alone among : Gate) : Prop where
  -- Both gates find the same credentials in a request.
  policy : among.policy = alone.policy
  -- Both are limited in their calls, or neither is, and then as many are let through.
  limited : among.store.allowance.isSome = alone.store.allowance.isSome
  unlimited : alone.store.allowance = none → among.store.allowance = alone.store.allowance
  verdicts : ∀ now path query headers, Admission.Presents alone.policy path query headers digest →
    Concur outOfCalls among alone fun gate => (gate.authenticate now path query headers).1
  entitlements : ∀ account : Account, owner = some account.id → ∀ instant,
    Concur (.error Vault.unresponsive) among alone fun gate =>
      (gate.converse (Entitlement.ask gate.zone account instant)).1
  evaluations : ∀ account, owner = some account → ∀ instant thenFail,
    Concur (.error Vault.unresponsive) among alone fun gate =>
      (gate.evaluate account instant thenFail).1

/-- Gates that are in line are the same for the bearers of the token. -/
theorem InLine.sameFor (inLine : InLine digest key course alone among) :
    SameFor digest key.owner alone among := by
  have limited : among.store.allowance.isSome = alone.store.allowance.isSome :=
    congrArg Setting.limited inLine.setting
  -- Without a limit the gates would agree on everything.
  have free := inLine.unlimited
  refine ⟨congrArg Setting.policy inLine.setting, limited, ?unlimited, ?verdicts, ?entitlements,
    ?evaluations⟩
  case unlimited =>
    intro unlimited
    -- A gate is without limit if the other one is.
    rw [unlimited] at limited ⊢
    exact Option.not_isSome_iff_eq_none.mp (Bool.eq_false_iff.mp limited)
  case verdicts =>
    intro now path query headers presented
    exact .of_unlimited (fun allowance => inLine.authenticate allowance now presented)
      (fun gate => gate.authenticate_or_outOfCalls now path query headers)
      (free.authenticate rfl now presented)
  case entitlements =>
    intro account owned instant
    exact .of_unlimited (fun allowance => inLine.entitlement allowance owned instant)
      (fun gate => gate.entitlement_or_unresponsive account instant)
      (free.entitlement rfl owned instant)
  case evaluations =>
    intro account owned instant thenFail
    exact .of_unlimited (fun allowance => inLine.evaluate allowance owned instant thenFail)
      (fun gate => gate.evaluate_or_unresponsive account instant thenFail)
      (free.evaluate rfl owned instant thenFail)

/-- Whatever a gate has been through, once there is a key for a token, nothing that is done for
others makes a difference to the bearers of the token, wherever it is done in the further course of
things, even if it is a new key for the same token; unless it uses up calls to a store that lets
only so many through. -/
theorem tenants_isolated (zone : Calendar.Zone) (policy : Policy) (limits : WorkerLimits)
    (history : List (Instant × Operation)) :
    let start := ((opened zone policy limits).performAll history).2
    ∀ token key, start.tables.keyOf? (Digest.ofToken token) = some key →
      ∀ course more, Joined key course more →
        SameFor (Digest.ofToken token) key.owner (start.performAll course).2
          (start.performAll more).2 := by
  intro start token key located course more joined
  -- Identities have been distinct from the opening on.
  have distinct : start.tables.Distinct := distinct_performAll zone policy limits history
  -- At first the two gates are one, and that is in line with itself.
  let ground : Vault.Ground := ⟨key, key.owner.map start.tables.holdings⟩
  have found : start.tables.ground? (Digest.ofToken token) = some ground :=
    Vault.Tables.ground?_eq_some_iff.mpr ⟨located, rfl⟩
  have inLine : InLine (Digest.ofToken token) key course start start :=
    ⟨distinct, distinct, rfl, ⟨ground, found, found, rfl, rfl⟩, fun _ _ _ _ => rfl⟩
  exact (inLine.performAll joined).sameFor

/-- An account with a card uses almost as much as it may in a day. In between, a key of another
account is issued for the same token, that account uses far more, and the new key is withdrawn. The
first key lets its bearer in as if nothing had happened. -/
theorem tenants_isolated_shared_token :
    let owner : AccountId := ⟨"a"⟩
    let other : AccountId := ⟨"b"⟩
    let key : AccessKey := ⟨⟨"k"⟩, some owner, "key-t", false, true, false⟩
    let start := ((opened .universal .standard .standard).performAll
      [(0, .openAccount ⟨owner, false, 3⟩), (1, .addCard owner ⟨5, true, some 1, none⟩),
        (2, .issueKey key.id "t" (some owner) false)]).2
    let course := [(8, Operation.addUse ⟨owner, 1, .prepaid, false, 8⟩)]
    let more := [(3, Operation.openAccount ⟨other, true, 0⟩),
      (4, .issueKey ⟨"l"⟩ "t" (some other) true), (5, .addUse ⟨other, 7, .prepaid, false, 5⟩),
      (8, .addUse ⟨owner, 1, .prepaid, false, 8⟩), (9, .revoke ⟨"l"⟩), (10, .settle)]
    let alone := (start.performAll course).2
    let among := (start.performAll more).2
    start.tables.keyOf? (Digest.ofToken "t") = some key ∧ Joined key course more ∧
      SameFor (Digest.ofToken "t") key.owner alone among ∧
      (among.authenticate 11 "/v1/models" none [⟨"X-Api-Key", "t"⟩]).1.toOption =
        some (some (.ofKey key)) := by
  intro owner other key start course more alone among
  -- The first key was there before the second one for the same token.
  have known : start.tables.keyOf? (Digest.ofToken "t") = some key := by decide +kernel
  have joined : Joined key course more := by
    refine .others _ _ ?_ ?_ (.others _ _ ?_ ?_ (.others _ _ ?_ ?_ (.both _ _
      (.others _ _ ?_ ?_ (.others _ _ ?_ ?_ .nil)))))
    -- Each inserted operation is about the other account and the other key.
    all_goals
      simp [Operation.Spares, Operation.write?, Vault.Write.Spares, Operation.probes, course, key,
        owner, other]
  have same := tenants_isolated .universal .standard .standard _ "t" key known course more joined
  refine ⟨known, joined, same, ?_⟩
  decide +kernel

/-- The store lets one more call through, and the bearer of a key needs it. If somebody else comes
first, with a key of their own, the bearer is not let in. -/
theorem requests_of_others_use_calls_up :
    ¬ ∀ (history : List (Instant × Operation)) (token : String) (key : AccessKey),
      let start := ((opened .universal .standard .standard).performAll history).2
      start.tables.keyOf? (Digest.ofToken token) = some key →
        ∀ course more, Joined key course more →
          let alone := (start.performAll course).2
          let among := (start.performAll more).2
          ∀ now path query headers,
            Admission.Presents alone.policy path query headers (Digest.ofToken token) →
              (among.authenticate now path query headers).1 =
                (alone.authenticate now path query headers).1 := by
  intro claimed
  -- Two keys without owners, so that each request takes one call.
  let key : AccessKey := ⟨⟨"k"⟩, none, "key-t", false, true, false⟩
  let other := Operation.authenticate "/v1/models" none [⟨"X-Api-Key", "u"⟩]
  let history : List (Instant × Operation) := [(0, .issueKey key.id "t" none false),
    (1, .issueKey ⟨"l"⟩ "u" none false), (2, .limitCalls (some 1))]
  have joined : Joined key [] [(3, other)] := .others 3 other (by simp [Operation.Spares, other,
    Operation.write?]) (by simp) .nil
  have presented : Admission.Presents .standard "/v1/models" none [⟨"X-Api-Key", "t"⟩]
      -- The token in the header stands for the first key.
      (Digest.ofToken "t") := ⟨by decide +kernel, ⟨"t", .header⟩, by decide +kernel, rfl⟩
  have same := claimed history "t" key (by decide +kernel) [] _ joined 4 "/v1/models" none
    [⟨"X-Api-Key", "t"⟩] presented
  -- Alone the bearer gets the call and is let in.
  have differ := congrArg Except.toOption same
  exact absurd differ (by decide +kernel)

end Gate

end Tollgate
