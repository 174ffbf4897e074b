import Tollgate.Gate.Basic
import Tollgate.Proofs.Funding.Entitlement

/-!
The ways out of the gate. The checks are made in a fixed order, each of them on what those before it
have found, and the first one that a request does not pass decides about it. Nothing is assumed
about the store, which may answer or fail anew at every call.
-/

namespace Tollgate.Admission

section

variable {State : Type} (answerer : Answerer State) (zone : Calendar.Zone) (policy : Policy)
  (now : Instant) (path : String) (query : Option String) (headers : Web.Headers) (state : State)

/-- The request needs a credential, and carries one whose token has this digest. -/
def Presents (digest : String) : Prop :=
  Web.isOpen policy path = false ∧
    ∃ credential, Credential.find? policy path query headers = some credential ∧
      digest = Digest.ofToken credential.value

/-- The store knows a key by the digest, and the key lets its bearer in. -/
def Unlocks (digest : String) (key : AccessKey) (after : State) : Prop :=
  answerer (.findKey digest) state = (.ok (some key), after) ∧
    key.active = true ∧ key.revoked = false

/-- The key belongs to an account that the store knows and that is not disabled. -/
def BelongsTo (key : AccessKey) (owner : AccountId) (account : Account) (after : State) : Prop :=
  key.owner = some owner ∧ answerer (.findAccount owner) state = (.ok (some account), after) ∧
    account.disabled = false

/-- A way out of the gate: the verdict on the request, the calls made to come to it, and how they
leave the store. -/
inductive Exit : Verdict → List Call → State → Prop
  /-- The path is open to everyone. -/
  | opened (opened : Web.isOpen policy path = true) : Exit (.ok none) [] state
  /-- The request carries no credential. -/
  | unpresented (closed : Web.isOpen policy path = false)
      (absent : Credential.find? policy path query headers = none) :
      Exit (.error .missingCredential) [] state
  /-- The key cannot be read. -/
  | keyUnread {digest : String} {outage : Outage} {after : State}
      (presented : Presents policy path query headers digest)
      (failed : answerer (.findKey digest) state = (.error outage, after)) :
      Exit (.error (.storage outage)) [.findKey digest] after
  /-- There is no such key. -/
  | keyUnknown {digest : String} {after : State}
      (presented : Presents policy path query headers digest)
      (unknown : answerer (.findKey digest) state = (.ok none, after)) :
      Exit (.error .invalidKey) [.findKey digest] after
  /-- The key is switched off or withdrawn. -/
  | keyUnusable {digest : String} {key : AccessKey} {after : State}
      (presented : Presents policy path query headers digest)
      (found : answerer (.findKey digest) state = (.ok (some key), after))
      (unusable : key.active = false ∨ key.revoked = true) :
      Exit (.error .invalidKey) [.findKey digest] after
  /-- The key belongs to nobody, and lets its bearer in. -/
  | unowned {digest : String} {key : AccessKey} {after : State}
      (presented : Presents policy path query headers digest)
      (unlocked : Unlocks answerer state digest key after) (unowned : key.owner = none) :
      Exit (.ok (some ⟨key.id, key.name, key.admin, none⟩)) [.findKey digest] after
  /-- The account that owns the key cannot be read. -/
  | ownerUnread {digest : String} {key : AccessKey} {between after : State} {owner : AccountId}
      {outage : Outage} (presented : Presents policy path query headers digest)
      (unlocked : Unlocks answerer state digest key between) (owned : key.owner = some owner)
      (failed : answerer (.findAccount owner) between = (.error outage, after)) :
      Exit (.error (.storage outage)) [.findKey digest, .findAccount owner] after
  /-- There is no account that owns the key. -/
  | ownerUnknown {digest : String} {key : AccessKey} {between after : State} {owner : AccountId}
      (presented : Presents policy path query headers digest)
      (unlocked : Unlocks answerer state digest key between) (owned : key.owner = some owner)
      (unknown : answerer (.findAccount owner) between = (.ok none, after)) :
      Exit (.error .invalidKey) [.findKey digest, .findAccount owner] after
  /-- The account that owns the key is disabled. -/
  | ownerDisabled {digest : String} {key : AccessKey} {between after : State} {owner : AccountId}
      {account : Account} (presented : Presents policy path query headers digest)
      (unlocked : Unlocks answerer state digest key between) (owned : key.owner = some owner)
      (found : answerer (.findAccount owner) between = (.ok (some account), after))
      (disabled : account.disabled = true) :
      Exit (.error .invalidKey) [.findKey digest, .findAccount owner] after
  /-- What pays for the account cannot be read: the first call for it that fails decides. -/
  | fundingUnread {digest : String} {key : AccessKey} {between settled after : State}
      {owner : AccountId} {account : Account} {failing : Call} {outage : Outage}
      (presented : Presents policy path query headers digest)
      (unlocked : Unlocks answerer state digest key between)
      (owned : BelongsTo answerer between key owner account settled)
      (failed : (Entitlement.ask zone account now).FailsAt answerer settled failing outage after) :
      Exit (.error (.storage outage))
        (.findKey digest :: .findAccount owner ::
          (Entitlement.ask zone account now).calls answerer settled) after
  /-- Nothing pays for the account. -/
  | unfunded {digest : String} {key : AccessKey} {between settled after : State}
      {owner : AccountId} {account : Account}
      (presented : Presents policy path query headers digest)
      (unlocked : Unlocks answerer state digest key between)
      (owned : BelongsTo answerer between key owner account settled)
      (denied : (Entitlement.ask zone account now).run answerer settled =
        (.ok (.denied .insufficientBalance), after)) :
      Exit (.error .insufficientBalance)
        (.findKey digest :: .findAccount owner ::
          (Entitlement.ask zone account now).calls answerer settled) after
  /-- The account has reached its limit for the day. -/
  | capped {digest : String} {key : AccessKey} {between settled after : State}
      {owner : AccountId} {account : Account}
      (presented : Presents policy path query headers digest)
      (unlocked : Unlocks answerer state digest key between)
      (owned : BelongsTo answerer between key owner account settled)
      (denied : (Entitlement.ask zone account now).run answerer settled =
        (.ok (.denied .dailyCapExceeded), after)) :
      Exit (.error .dailyCapExceeded)
        (.findKey digest :: .findAccount owner ::
          (Entitlement.ask zone account now).calls answerer settled) after
  /-- The account may use the service, and its key lets its bearer in. -/
  | granted {digest : String} {key : AccessKey} {between settled after : State}
      {owner : AccountId} {account : Account}
      (presented : Presents policy path query headers digest)
      (unlocked : Unlocks answerer state digest key between)
      (owned : BelongsTo answerer between key owner account settled)
      (granted : (Entitlement.ask zone account now).run answerer settled =
        (.ok .granted, after)) :
      Exit (.ok (some ⟨key.id, key.name, key.admin, some owner⟩))
        (.findKey digest :: .findAccount owner ::
          (Entitlement.ask zone account now).calls answerer settled) after

/-- The request passes every check, and is let in with this context. -/
def Admits (context : Context) : Prop :=
  ∃ digest key between,
    Presents policy path query headers digest ∧ Unlocks answerer state digest key between ∧
      context = ⟨key.id, key.name, key.admin, key.owner⟩ ∧
      (key.owner = none ∨ ∃ owner account settled,
        BelongsTo answerer between key owner account settled ∧
          ((Entitlement.ask zone account now).run answerer settled).1 = .ok .granted)

end

variable {State : Type} {answerer : Answerer State} {zone : Calendar.Zone} {policy : Policy}
  {now : Instant} {path : String} {query : Option String} {headers : Web.Headers}

/-- Nothing is asked about a request to an open path. -/
theorem ask_of_isOpen (opened : Web.isOpen policy path = true) :
    ask zone policy now path query headers = .done (.ok none) := by
  -- This is the first check of all.
  rw [ask, if_pos opened]

/-- Nothing is asked about a request without a credential. -/
theorem ask_of_absent (closed : Web.isOpen policy path = false)
    (absent : Credential.find? policy path query headers = none) :
    ask zone policy now path query headers = .done (.error .missingCredential) := by
  -- The path is not open, so there would have to be a credential.
  simp only [ask, closed, absent, Bool.false_eq_true, if_false]

/-- About a request with a credential, only its digest is asked. -/
theorem ask_of_presents {digest : String} (presented : Presents policy path query headers digest) :
    ask zone policy now path query headers = askKey zone now digest := by
  obtain ⟨closed, credential, found, rfl⟩ := presented
  -- Both checks that need no store are passed.
  simp only [ask, closed, found, Bool.false_eq_true, if_false]

/-- A key is usable if it is switched on and has not been withdrawn. -/
theorem isUsable_iff (key : AccessKey) :
    key.isUsable = true ↔ key.active = true ∧ key.revoked = false := by
  simp [AccessKey.isUsable]

/-- A key is of no use if it is switched off or has been withdrawn. -/
theorem isUsable_eq_false_iff (key : AccessKey) :
    key.isUsable = false ↔ key.active = false ∨ key.revoked = true := by
  rw [AccessKey.isUsable, Bool.and_eq_false_iff, Bool.not_eq_false']

/-- A usable key that belongs to nobody is all that is asked for. -/
theorem leads_askKey_unowned {state after : State} {digest : String} {key : AccessKey}
    (unlocked : Unlocks answerer state digest key after) (unowned : key.owner = none) :
    (askKey zone now digest).Leads answerer state (.ok (some (.ofKey key))) [.findKey digest]
      after := by
  obtain ⟨found, usable⟩ := unlocked
  -- The key is found and usable, and nobody has to be asked about it.
  apply Dialogue.leads_demand_ok found
  simp only [(isUsable_iff key).mpr usable, unowned, Bool.not_true, Bool.false_eq_true, if_false]
  exact Dialogue.leads_done _ _

/-- A usable key that belongs to an account leaves the rest to the account. -/
theorem leads_askKey_owned {state between after : State} {digest : String} {key : AccessKey}
    {owner : AccountId} {verdict : Verdict} {made : List Call}
    (unlocked : Unlocks answerer state digest key between) (owned : key.owner = some owner)
    (rest : (askOwner zone now key owner).Leads answerer between verdict made after) :
    (askKey zone now digest).Leads answerer state verdict (.findKey digest :: made) after := by
  obtain ⟨found, usable⟩ := unlocked
  -- The key is found and usable, and the account has to be asked about.
  apply Dialogue.leads_demand_ok found
  simpa only [(isUsable_iff key).mpr usable, owned, Bool.not_true, Bool.false_eq_true,
    if_false] using rest

/-- The verdict on a request whose key belongs to an account of which this is known. -/
def verdictOn (key : AccessKey) : Except Outage Entitlement → Verdict
  | .error outage => .error (.storage outage)
  | .ok (.denied denial) => .error (.ofDenial denial)
  | .ok .granted => .ok (some (.ofKey key))

/-- An account that is not disabled is let in as far as it may use the service. -/
theorem leads_askOwner {state settled after : State} {key : AccessKey} {owner : AccountId}
    {account : Account} {found : Except Outage Entitlement}
    (owned : BelongsTo answerer state key owner account settled)
    (evaluated : (Entitlement.ask zone account now).run answerer settled = (found, after)) :
    (askOwner zone now key owner).Leads answerer state (verdictOn key found)
      (.findAccount owner :: (Entitlement.ask zone account now).calls answerer settled) after := by
  -- The account is found first, and then evaluated.
  obtain ⟨-, known, enabled⟩ := owned
  apply Dialogue.leads_demand_ok known
  simp only [enabled, Bool.false_eq_true, if_false]
  -- Nothing is asked once the account has been evaluated.
  have evaluation : (Entitlement.ask zone account now).Leads answerer settled found _ after :=
    ⟨evaluated, rfl⟩
  rw [← List.append_nil (Dialogue.calls answerer _ _)]
  apply Dialogue.leads_andThen evaluation
  -- What comes of the evaluation is a failure, a denial or a grant.
  rcases found with outage | denial | _ <;> exact Dialogue.leads_done _ _

/-- A request with a credential is decided by the key that the credential stands for. -/
theorem leads_ask {state after : State} {digest : String} {verdict : Verdict} {made : List Call}
    (presented : Presents policy path query headers digest)
    (rest : (askKey zone now digest).Leads answerer state verdict made after) :
    (ask zone policy now path query headers).Leads answerer state verdict made after := by
  rw [ask_of_presents presented]
  exact rest

/-- A usable key whose account is not disabled lets its bearer in as far as the account may use the
service. -/
theorem leads_ask_owned {state between settled after : State} {digest : String} {key : AccessKey}
    {owner : AccountId} {account : Account} {found : Except Outage Entitlement}
    (presented : Presents policy path query headers digest)
    (unlocked : Unlocks answerer state digest key between)
    (owned : BelongsTo answerer between key owner account settled)
    (evaluated : (Entitlement.ask zone account now).run answerer settled = (found, after)) :
    (ask zone policy now path query headers).Leads answerer state (verdictOn key found)
      (.findKey digest :: .findAccount owner ::
        (Entitlement.ask zone account now).calls answerer settled) after :=
  leads_ask presented (leads_askKey_owned unlocked owned.1 (leads_askOwner owned evaluated))

/-- Every way out is the way the dialogue takes. -/
theorem Exit.leads {state after : State} {verdict : Verdict} {made : List Call}
    (left : Exit answerer zone policy now path query headers state verdict made after) :
    (ask zone policy now path query headers).Leads answerer state verdict made after := by
  -- Each way out is followed call by call up to the one that decides.
  cases left with
  -- The first two need no call at all.
  | opened opened =>
    rw [ask_of_isOpen opened]
    exact Dialogue.leads_done _ _
  | unpresented closed absent =>
    rw [ask_of_absent closed absent]
    exact Dialogue.leads_done _ _
  -- The next three are decided by the key.
  | keyUnread presented failed =>
    exact leads_ask presented (Dialogue.leads_demand_error failed)
  | keyUnknown presented unknown =>
    exact leads_ask presented (Dialogue.leads_demand_ok unknown (Dialogue.leads_done _ _))
  | @keyUnusable digest key _ presented found unusable =>
    apply leads_ask presented
    apply Dialogue.leads_demand_ok found
    have refused : key.isUsable = false := by
      rcases unusable with inactive | withdrawn <;> simp [AccessKey.isUsable, *]
    simp only [refused, Bool.not_false, if_true]
    exact Dialogue.leads_done _ _
  | unowned presented unlocked unowned =>
    apply leads_ask presented
    simpa only [Context.ofKey, unowned] using leads_askKey_unowned unlocked unowned
  -- The next three are decided by the account of the key.
  | ownerUnread presented unlocked owned failed =>
    apply leads_ask presented
    exact leads_askKey_owned unlocked owned (Dialogue.leads_demand_error failed)
  | ownerUnknown presented unlocked owned unknown =>
    apply leads_ask presented
    apply leads_askKey_owned unlocked owned
    exact Dialogue.leads_demand_ok unknown (Dialogue.leads_done _ _)
  | ownerDisabled presented unlocked owned found disabled =>
    apply leads_ask presented
    apply leads_askKey_owned unlocked owned
    apply Dialogue.leads_demand_ok found
    simp only [disabled, if_true]
    exact Dialogue.leads_done _ _
  -- The last four are decided by what pays for the account.
  | @fundingUnread _ _ _ _ _ _ account _ _ presented unlocked owned failed =>
    have evaluated :=
      (Dialogue.run_eq_error_iff (Entitlement.passesOn_ask zone account now)).mpr ⟨_, failed⟩
    exact leads_ask_owned presented unlocked owned evaluated
  | unfunded presented unlocked owned denied =>
    exact leads_ask_owned presented unlocked owned denied
  | capped presented unlocked owned denied =>
    exact leads_ask_owned presented unlocked owned denied
  | granted presented unlocked owned granted =>
    have led := leads_ask_owned presented unlocked owned granted
    simpa only [verdictOn, Context.ofKey, owned.1] using led

/-- An account that owns the key and is not disabled leaves a way out, whatever comes of its
evaluation. -/
theorem exists_exit_of_belongsTo {state between settled : State} {digest : String}
    {key : AccessKey} {owner : AccountId} {account : Account}
    (presented : Presents policy path query headers digest)
    (unlocked : Unlocks answerer state digest key between)
    (owned : BelongsTo answerer between key owner account settled) :
    ∃ verdict made after, Exit answerer zone policy now path query headers state verdict made
      after := by
  -- Whatever the evaluation comes to, one of the ways out begins there.
  rcases evaluated : (Entitlement.ask zone account now).run answerer settled with ⟨found, after⟩
  rcases found with outage | _ | _ | _
  · obtain ⟨failing, failed⟩ :=
      (Dialogue.run_eq_error_iff (Entitlement.passesOn_ask zone account now)).mp evaluated
    exact ⟨_, _, _, .fundingUnread presented unlocked owned failed⟩
  · exact ⟨_, _, _, .granted presented unlocked owned evaluated⟩
  · exact ⟨_, _, _, .unfunded presented unlocked owned evaluated⟩
  · exact ⟨_, _, _, .capped presented unlocked owned evaluated⟩

/-- A usable key leaves a way out, whoever owns it. -/
theorem exists_exit_of_unlocks {state between : State} {digest : String} {key : AccessKey}
    (presented : Presents policy path query headers digest)
    (unlocked : Unlocks answerer state digest key between) :
    ∃ verdict made after, Exit answerer zone policy now path query headers state verdict made
      after := by
  cases owned : key.owner with
  | none => exact ⟨_, _, _, .unowned presented unlocked owned⟩
  | some owner =>
    -- Only now is the account asked for, and what comes of it leaves four ways out.
    rcases asked : answerer (.findAccount owner) between with ⟨outage | account, settled⟩
    · exact ⟨_, _, _, .ownerUnread presented unlocked owned asked⟩
    · cases account with
      | none => exact ⟨_, _, _, .ownerUnknown presented unlocked owned asked⟩
      | some account =>
        cases disabled : account.disabled with
        | true => exact ⟨_, _, _, .ownerDisabled presented unlocked owned asked disabled⟩
        | false => exact exists_exit_of_belongsTo presented unlocked ⟨owned, asked, disabled⟩

/-- A credential leaves a way out, whatever the store knows about it. -/
theorem exists_exit_of_presents {state : State} {digest : String}
    (presented : Presents policy path query headers digest) :
    ∃ verdict made after, Exit answerer zone policy now path query headers state verdict made
      after := by
  -- The key may be unreadable, unknown, or known.
  rcases asked : answerer (.findKey digest) state with ⟨outage | key, between⟩
  · exact ⟨_, _, _, .keyUnread presented asked⟩
  · cases key with
    | none => exact ⟨_, _, _, .keyUnknown presented asked⟩
    | some key =>
      -- A key may be known and yet not let anyone in.
      by_cases usable : key.isUsable = true
      · exact exists_exit_of_unlocks presented ⟨asked, (isUsable_iff key).mp usable⟩
      · have unusable : key.active = false ∨ key.revoked = true := by
          simpa [isUsable_iff, Classical.or_iff_not_imp_left] using usable
        exact ⟨_, _, _, .keyUnusable presented asked unusable⟩

/-- There is a way out for every request. -/
theorem exists_exit (answerer : Answerer State) (zone : Calendar.Zone) (policy : Policy)
    (now : Instant) (path : String) (query : Option String) (headers : Web.Headers)
    (state : State) :
    ∃ verdict made after, Exit answerer zone policy now path query headers state verdict made
      after := by
  -- The first two checks need no store.
  cases opened : Web.isOpen policy path with
  | true => exact ⟨_, _, _, .opened opened⟩
  | false =>
    cases found : Credential.find? policy path query headers with
    | none => exact ⟨_, _, _, .unpresented opened found⟩
    | some credential => exact exists_exit_of_presents ⟨opened, credential, found, rfl⟩

/-- The ways out are those the dialogue takes, and no others. -/
theorem exit_iff_leads {state after : State} {verdict : Verdict} {made : List Call} :
    Exit answerer zone policy now path query headers state verdict made after ↔
      (ask zone policy now path query headers).Leads answerer state verdict made after := by
  constructor
  · -- Every way out has been followed through the dialogue.
    exact Exit.leads
  · -- There is a way out, and the dialogue leads to one end only.
    intro led
    obtain ⟨found, noted, other, left⟩ :=
      exists_exit answerer zone policy now path query headers state
    obtain ⟨rfl, rfl, rfl⟩ := Dialogue.leads_unique led left.leads
    exact left

/-- A request is let in with a context exactly if it passes every check with it. -/
theorem exit_admits_iff {state : State} {context : Context} :
    (∃ made after, Exit answerer zone policy now path query headers state (.ok (some context))
      made after) ↔ Admits answerer zone policy now path query headers state context := by
  constructor
  · -- Two ways out let the request in, one for keys with an owner and one for those without.
    rintro ⟨made, after, left⟩
    cases left with
    | @unowned digest key _ presented unlocked unowned =>
      exact ⟨digest, key, _, presented, unlocked, by rw [unowned], Or.inl unowned⟩
    | @granted digest key between settled _ owner account presented unlocked owned granted =>
      exact ⟨digest, key, between, presented, unlocked, by rw [owned.1],
        Or.inr ⟨owner, account, settled, owned, by rw [granted]⟩⟩
  · -- The key that lets the request in has an owner or not, and either makes a way out.
    rintro ⟨digest, key, between, presented, unlocked, rfl, unowned | owned⟩
    · rw [unowned]
      exact ⟨_, _, .unowned presented unlocked unowned⟩
    · obtain ⟨owner, account, settled, owned, granted⟩ := owned
      rw [owned.1]
      exact ⟨_, _, .granted presented unlocked owned (Prod.ext granted rfl)⟩

/-- Asking whether the account of a key may use a service is only reading. -/
theorem onlyReads_askOwner (zone : Calendar.Zone) (now : Instant) (key : AccessKey)
    (owner : AccountId) : (askOwner zone now key owner).OnlyReads := by
  unfold askOwner
  apply Dialogue.onlyReads_demand rfl
  intro found
  cases found with
  | none => exact Dialogue.onlyReads_done _
  -- A known account is evaluated unless it is disabled, and the evaluation only reads.
  | some account =>
    by_cases disabled : account.disabled = true
    · simp only [if_pos disabled]
      exact Dialogue.onlyReads_done _
    · simp only [if_neg disabled]
      apply Dialogue.onlyReads_andThen (Entitlement.onlyReads_ask zone account now)
      rintro (outage | granted | denial) <;> exact Dialogue.onlyReads_done _

/-- Asking whether a key lets its bearer in is only reading. -/
theorem onlyReads_askKey (zone : Calendar.Zone) (now : Instant) (digest : String) :
    (askKey zone now digest).OnlyReads := by
  -- The first call reads, and what follows depends on what it has found.
  unfold askKey
  apply Dialogue.onlyReads_demand rfl
  intro found
  cases found with
  | none => exact Dialogue.onlyReads_done _
  | some key =>
    cases usable : key.isUsable with
    | false =>
      simp only [usable]
      exact Dialogue.onlyReads_done _
    | true =>
      -- Only a key with an owner leaves more to be asked.
      simp only [usable]
      cases key.owner with
      | none => exact Dialogue.onlyReads_done _
      | some owner => exact onlyReads_askOwner zone now key owner

/-- Asking whether a request is let in is only reading. -/
theorem onlyReads_ask (zone : Calendar.Zone) (policy : Policy) (now : Instant) (path : String)
    (query : Option String) (headers : Web.Headers) :
    (ask zone policy now path query headers).OnlyReads := by
  -- Two checks need no call, and the third one only reads.
  unfold ask
  split
  · exact Dialogue.onlyReads_done _
  · split
    · exact Dialogue.onlyReads_done _
    · exact onlyReads_askKey zone now _

/-- The verdict at the gate is that of the dialogue it holds with its store. -/
theorem authenticate_verdict (gate : Gate) (now : Instant) (path : String)
    (query : Option String) (headers : Web.Headers) :
    (gate.authenticate now path query headers).1 =
      ((ask gate.zone gate.policy now path query headers).run Vault.Watched.answer
        gate.store).1 := by
  -- What the gate does after the dialogue leaves the verdict as it is.
  simp only [Gate.authenticate, Gate.converse]
  split <;> rfl

/-- Whatever the store does, a request is let in with a context only by passing every check, and
otherwise the first check it does not pass decides; the gate holds just this dialogue. -/
theorem ask_fails_closed (answerer : Answerer State) (zone : Calendar.Zone) (policy : Policy)
    (now : Instant) (path : String) (query : Option String) (headers : Web.Headers)
    (state : State) :
    (∀ context,
      ((ask zone policy now path query headers).run answerer state).1 = .ok (some context) ↔
        Admits answerer zone policy now path query headers state context) ∧
    (∀ verdict made after,
      (ask zone policy now path query headers).Leads answerer state verdict made after ↔
        Exit answerer zone policy now path query headers state verdict made after) ∧
    ∀ gate : Gate,
      (gate.authenticate now path query headers).1 =
        ((ask gate.zone gate.policy now path query headers).run Vault.Watched.answer
          gate.store).1 := by
  refine ⟨?_, fun _ _ _ => exit_iff_leads.symm, ?_⟩
  · intro context
    -- Being let in is one of the ways out.
    rw [← exit_admits_iff]
    constructor
    · -- The dialogue itself shows the way out by which the request was let in.
      intro admitted
      have led := Dialogue.leads_self answerer (ask zone policy now path query headers) state
      rw [admitted] at led
      exact ⟨_, _, exit_iff_leads.mpr led⟩
    · -- A way out that lets the request in is what the dialogue comes to.
      rintro ⟨made, after, left⟩
      rw [left.leads.1]
  · exact fun gate => authenticate_verdict gate now path query headers

/-- All that a store is asked about the token `t` is the key stored by its digest in hexadecimal
letters. Where one is stored its bearer is let in, and where there is none, or no answer, not. -/
theorem ask_fails_closed_digest :
    let digest := "e3b98a4da31a127d4bde6e43033f66ba274cab0eb7eb1c70ec41402bf6273dd8"
    let key : AccessKey := ⟨⟨"k"⟩, none, "key-t", false, true, false⟩
    let headers : Web.Headers := [⟨"Authorization", "Bearer t"⟩]
    let dialogue := ask .universal .standard 1 "/v1/models" none headers
    let vault (keys : List Vault.KeyRow) (failing : Bool) : Vault :=
      { Vault.empty with tables := { Vault.Tables.empty with keys }, failing }
    let stored := vault [⟨digest, none, key⟩] false
    Admits Vault.answer .universal .standard 1 "/v1/models" none headers stored (.ofKey key) ∧
      dialogue.Leads Vault.answer stored (.ok (some (.ofKey key))) [.findKey digest] stored ∧
      dialogue.Leads Vault.answer (vault [] false) (.error .invalidKey) [.findKey digest]
        (vault [] false) ∧
      dialogue.Leads Vault.answer (vault [] true) (.error (.storage Vault.unresponsive))
        [.findKey digest] (vault [] true) := by
  intro digest key headers dialogue vault stored
  -- The token is that of the header, and its digest can be computed.
  have presented : Presents .standard "/v1/models" none headers digest :=
    ⟨by decide, ⟨"t", .header⟩, by decide +kernel, by decide +kernel⟩
  have closed := ask_fails_closed Vault.answer .universal .standard 1 "/v1/models" none headers
  have unlocked : Unlocks Vault.answer stored digest key stored :=
    ⟨rfl, rfl, rfl⟩
  -- The key belongs to nobody, so the digest is all that is asked for.
  have known := ((closed stored).2.1 _ _ _).mpr (.unowned presented unlocked rfl)
  refine ⟨?_, known, ?_, ?_⟩
  · exact ((closed stored).1 _).mp (congrArg Prod.fst known.1)
  · exact ((closed _).2.1 _ _ _).mpr (.keyUnknown presented rfl)
  · exact ((closed _).2.1 _ _ _).mpr (.keyUnread presented rfl)

end Tollgate.Admission
