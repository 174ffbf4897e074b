import Tollgate.Gate.Operation
import Tollgate.Proofs.Gate.Serve

/-!
Credentials that are rejected, whatever else there is to be said for those who carry them. None of
them lets anyone in, and where the store responds nobody can tell from the response why.
-/

namespace Tollgate

namespace Vault.Tables

/-- A digest stands for no key that may let its bearer in, whatever would pay for it. -/
inductive Rejects (tables : Tables) (digest : String) : Prop
  /-- There is no such key. -/
  | unknown (unknown : tables.keyOf? digest = none)
  /-- The key is switched off or withdrawn. -/
  | unusable {key : AccessKey} (found : tables.keyOf? digest = some key)
      (unusable : key.active = false ∨ key.revoked = true)
  /-- There is no account that owns the key. -/
  | ownerUnknown {key : AccessKey} {owner : AccountId} (found : tables.keyOf? digest = some key)
      (owned : key.owner = some owner) (unknown : tables.account? owner = none)
  /-- The account that owns the key is disabled. -/
  | ownerDisabled {key : AccessKey} {owner : AccountId} {account : Account}
      (found : tables.keyOf? digest = some key) (owned : key.owner = some owner)
      (known : tables.account? owner = some account) (disabled : account.disabled = true)

/-- Of a digest that is not rejected, the key is usable and its owner, if it has one, is known and
not disabled. -/
theorem Rejects.not_of_usable {tables : Tables} {digest : String} {key : AccessKey}
    (found : tables.keyOf? digest = some key) (active : key.active = true)
    (kept : key.revoked = false)
    (owned : ∀ owner, key.owner = some owner →
      ∃ account, tables.account? owner = some account ∧ account.disabled = false) :
    ¬ tables.Rejects digest := by
  intro rejects
  -- Every reason to reject it is about the same key, and about the same owner.
  cases rejects with
  | unknown unknown => simp [unknown] at found
  | @unusable same found' unusable =>
    obtain rfl : key = same := Option.some.inj (found.symm.trans found')
    simp [active, kept] at unusable
  | @ownerUnknown same owner found' owned' unknown =>
    obtain rfl : key = same := Option.some.inj (found.symm.trans found')
    obtain ⟨account, known, -⟩ := owned owner owned'
    simp [unknown] at known
  | @ownerDisabled same owner account found' owned' known disabled =>
    obtain rfl : key = same := Option.some.inj (found.symm.trans found')
    obtain ⟨other, known', enabled⟩ := owned owner owned'
    obtain rfl : account = other := Option.some.inj (known.symm.trans known')
    simp [enabled] at disabled

end Vault.Tables

/-- A request carries one credential only. -/
theorem Admission.Presents.unique {policy : Policy} {path digest other : String}
    {query : Option String} {headers : Web.Headers}
    (presented : Presents policy path query headers digest)
    (presented' : Presents policy path query headers other) : digest = other := by
  -- The credential of a request is found by a function, so there is only one.
  obtain ⟨-, credential, found, rfl⟩ := presented
  obtain ⟨-, same, found', rfl⟩ := presented'
  rw [Option.some.inj (found.symm.trans found')]

namespace Gate

variable {gate : Gate} {now : Instant} {path digest : String} {query : Option String}
  {headers : Web.Headers} {context : Context}

/-- A request that is let in by a key carries a credential for a stored key that is not rejected,
whatever state the store is in. -/
theorem authenticate_ok
    (admitted : (gate.authenticate now path query headers).1 = .ok (some context)) :
    ∃ digest key, Admission.Presents gate.policy path query headers digest ∧
      gate.tables.keyOf? digest = some key ∧ context = .ofKey key ∧
      ¬ gate.tables.Rejects digest := by
  -- The request has passed every check, and the store has answered each time what its tables say.
  have led := Dialogue.leads_self Vault.Watched.answer
    (Admission.ask gate.zone gate.policy now path query headers) gate.store
  rw [← Admission.authenticate_verdict, admitted] at led
  obtain ⟨digest, key, between, presented, ⟨answered, active, kept⟩, same, owned⟩ :=
    -- Of all ways through the checks, only one lets a request in by a key.
    Admission.exit_admits_iff.mp ⟨_, _, Admission.exit_iff_leads.mpr led⟩
  obtain ⟨found, unchanged⟩ := Vault.watched_answer_ok rfl answered
  refine ⟨digest, key, presented, found.symm, same, ?_⟩
  apply Vault.Tables.Rejects.not_of_usable found.symm active kept
  -- If the key is owned, the account that was found for it is not disabled.
  intro owner belongs
  rcases owned with unowned | ⟨same, account, settled, ⟨belongs', known, enabled⟩, -⟩
  · simp [unowned] at belongs
  · obtain rfl : owner = same := Option.some.inj (belongs.symm.trans belongs')
    obtain ⟨located, -⟩ := Vault.watched_answer_ok rfl known
    rw [unchanged] at located
    exact ⟨account, located.symm, enabled⟩

/-- A credential that is rejected lets nobody in, whatever state the store is in. -/
theorem authenticate_ne_of_rejects
    (presented : Admission.Presents gate.policy path query headers digest)
    (rejects : gate.tables.Rejects digest) :
    (gate.authenticate now path query headers).1 ≠ .ok (some context) := by
  intro admitted
  obtain ⟨other, key, presented', -, -, accepted⟩ := authenticate_ok admitted
  -- What the request presents is the token it was let in by.
  rw [presented.unique presented'] at rejects
  exact accepted rejects

/-- The store responds to the two calls that it takes to look at a key and at its owner. -/
structure Responds (gate : Gate) : Prop where
  inOrder : gate.store.vault.failing = false
  through : ∀ limit, gate.store.allowance = some limit → 2 ≤ limit

/-- The switch lets the first call through. -/
theorem Responds.first (responds : gate.Responds) : gate.store.allowance ≠ some 0 := by
  intro spent
  -- A switch set to nothing would let through fewer than the two calls.
  have enough := responds.through 0 spent
  omega

/-- The switch lets a second call through. -/
theorem Responds.second (responds : gate.Responds) :
    gate.store.allowance.map (· - 1) ≠ some 0 := by
  intro spent
  -- After one call there is still one left of the two.
  obtain ⟨limit, limited, last⟩ := Option.map_eq_some_iff.mp spent
  have enough := responds.through limit limited
  omega

/-- A store that responds finds a key by its digest, and stays open for another call. -/
theorem Responds.findKey (responds : gate.Responds) (digest : String) :
    ∃ after : Vault.Watched, gate.store.answer (.findKey digest) =
        (.ok (gate.tables.keyOf? digest), after) ∧
      ∀ owner, ∃ last, after.answer (.findAccount owner) =
        (.ok (gate.tables.account? owner), last) := by
  -- Both calls only read, so the second one meets the tables of the first.
  refine ⟨_, Vault.watched_answer_of_isRead responds.inOrder responds.first rfl, fun owner => ?_⟩
  exact ⟨_, Vault.watched_answer_of_isRead responds.inOrder responds.second rfl⟩

/-- A key whose owner is unknown or disabled is told to be invalid, whether or not it is usable. -/
theorem authenticate_of_owner {key : AccessKey} {owner : AccountId} {known : Option Account}
    {between last : Vault.Watched}
    (presented : Admission.Presents gate.policy path query headers digest)
    (answered : gate.store.answer (.findKey digest) = (.ok (some key), between))
    (owned : key.owner = some owner)
    (asked : between.answer (.findAccount owner) = (.ok known, last))
    (disabled : ∀ account, known = some account → account.disabled = true) :
    (gate.authenticate now path query headers).1 = .error .invalidKey := by
  rw [Admission.authenticate_verdict]
  -- The owner is asked for only if the key itself is usable.
  by_cases unusable : key.active = false ∨ key.revoked = true
  · rw [(Admission.Exit.keyUnusable presented answered unusable).leads.1]
  · have usable : key.active = true ∧ key.revoked = false := by simpa using unusable
    have unlocked : Admission.Unlocks Vault.Watched.answer gate.store digest key between :=
      ⟨answered, usable⟩
    -- The account is unknown or, if there is one, disabled, and the verdict is the same.
    cases known with
    | none => rw [(Admission.Exit.ownerUnknown presented unlocked owned asked).leads.1]
    | some account =>
      have disabled : account.disabled = true := disabled account rfl
      rw [(Admission.Exit.ownerDisabled presented unlocked owned asked disabled).leads.1]

/-- Where the store responds, a credential that is rejected is told to be invalid and nothing
else. -/
theorem authenticate_of_rejects (responds : gate.Responds)
    (presented : Admission.Presents gate.policy path query headers digest)
    (rejects : gate.tables.Rejects digest) :
    (gate.authenticate now path query headers).1 = .error .invalidKey := by
  obtain ⟨after, answered, next⟩ := responds.findKey digest
  -- Each reason is a way out of its own, and all of them have the same verdict.
  cases rejects with
  | unknown unknown =>
    rw [unknown] at answered
    rw [Admission.authenticate_verdict,
      (Admission.Exit.keyUnknown presented answered).leads.1]
  | unusable found unusable =>
    rw [found] at answered
    rw [Admission.authenticate_verdict,
      (Admission.Exit.keyUnusable presented answered unusable).leads.1]
  | @ownerUnknown key owner found owned unknown =>
    rw [found] at answered
    obtain ⟨last, asked⟩ := next owner
    exact authenticate_of_owner presented answered owned asked (by simp [unknown])
  | @ownerDisabled key owner account found owned known disabled =>
    rw [found] at answered
    obtain ⟨last, asked⟩ := next owner
    exact authenticate_of_owner presented answered owned asked (by simp [known, disabled])

/-- The request needs a credential, and carries one that the tables of the store reject. -/
def CarriesRejected (gate : Gate) (request : Web.Request) : Prop :=
  ∃ digest, Admission.Presents gate.policy request.path request.query request.headers digest ∧
    gate.tables.Rejects digest

/-- A request with a credential that is rejected is answered as the refusal of an invalid key, and
leaves everything as it was. -/
theorem serve_of_rejects (now : Instant) {request : Web.Request} (responds : gate.Responds)
    (carries : gate.CarriesRejected request) :
    (gate.serve now request).1 = (Web.Response.ofRefusal .invalidKey).sentFor request ∧
      Untouched gate (gate.serve now request).2 := by
  obtain ⟨digest, presented, rejects⟩ := carries
  -- The request is not let in, so it goes no further than to its refusal.
  have refused : (gate.authenticate now request.path request.query request.headers).1 =
      .error .invalidKey := authenticate_of_rejects responds presented rejects
  rw [serve_eq_guard, guard_of_error refused]
  exact ⟨rfl, untouched_authenticate refused⟩

/-- Two gates answer a request alike if its credential is rejected by both, for whatever reason, and
whatever else they keep; and it leaves both as they were. -/
theorem rejections_alike (first second : Gate) (now later : Instant) (request : Web.Request)
    (firstResponds : first.Responds) (secondResponds : second.Responds)
    (firstRejects : first.CarriesRejected request)
    (secondRejects : second.CarriesRejected request) :
    (first.serve now request).1 = (second.serve later request).1 ∧
      Untouched first (first.serve now request).2 ∧
      Untouched second (second.serve later request).2 := by
  obtain ⟨answer, untouched⟩ := serve_of_rejects now firstResponds firstRejects
  obtain ⟨answer', untouched'⟩ := serve_of_rejects later secondResponds secondRejects
  -- The answer depends on nothing but the request, and so it is the same.
  exact ⟨answer.trans answer'.symm, untouched, untouched'⟩

/-- A gate that has never heard of a token, and one at which it stands for an administrator whose
account has a card to pay from but is disabled. -/
theorem rejections_alike_unknown_and_disabled :
    let owner : AccountId := ⟨"a"⟩
    let first := opened .universal .standard .standard
    let second := (first.performAll [(0, .openAccount ⟨owner, true, 0⟩),
      (1, .addCard owner ⟨5, true, some 1, none⟩), (2, .issueKey ⟨"k"⟩ "t" (some owner) true),
      (3, .publish (.registered "p" "c" [⟨"m", none, none, none, []⟩]))]).2
    let request : Web.Request :=
      ⟨.get, "/v0/management/providers/p/models", none, [⟨"X-Api-Key", "t"⟩], ""⟩
    first.Responds ∧ second.Responds ∧ first.CarriesRejected request ∧
      second.CarriesRejected request ∧ (first.serve 4 request).1 = (second.serve 5 request).1 ∧
        Untouched first (first.serve 4 request).2 ∧
        Untouched second (second.serve 5 request).2 := by
  intro owner first second request
  -- The token is presented to either gate in the same header.
  have presented : Admission.Presents .standard request.path request.query request.headers
      (Digest.ofToken "t") := ⟨by decide, ⟨"t", .header⟩, by decide, rfl⟩
  have found : second.tables.keyOf? (Digest.ofToken "t") =
      some ⟨⟨"k"⟩, some owner, "key-t", true, true, false⟩ := by decide +kernel
  -- Neither store is out of order, and no switch is set.
  have responds : first.Responds := ⟨rfl, by simp [first, opened]⟩
  have responds' : second.Responds := ⟨rfl, by decide +kernel⟩
  have carries : first.CarriesRejected request := ⟨_, presented, .unknown rfl⟩
  have carries' : second.CarriesRejected request :=
    ⟨_, presented, .ownerDisabled found rfl rfl rfl⟩
  exact ⟨responds, responds', carries, carries',
    rejections_alike first second 4 5 request responds responds' carries carries'⟩

end Gate

end Tollgate
