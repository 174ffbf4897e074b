import Tollgate.Proofs.Gate.Rejection
import Tollgate.Proofs.Gate.Run
import Tollgate.Proofs.Vault.Identity

/-!
Keys that have been withdrawn or switched off, and accounts that are disabled. Neither the one nor
the other lets anyone in, however the gate came to where it is and whatever has happened since.
-/

namespace Tollgate.Gate

/-- The operation, done at an instant, lets a request in with a context. -/
def Operation.Admits (gate : Gate) (now : Instant) : Operation → Context → Prop
  | .authenticate path query headers, context =>
    (gate.authenticate now path query headers).1 = .ok (some context)
  | .serve request, context =>
    (gate.authenticate now request.path request.query request.headers).1 = .ok (some context)
  | _, _ => False

/-- The operation is about a request that needs a credential, and carries one with this digest. -/
def Operation.Presents (policy : Policy) : Operation → String → Prop
  | .authenticate path query headers, digest => Admission.Presents policy path query headers digest
  | .serve request, digest =>
    Admission.Presents policy request.path request.query request.headers digest
  | _, _ => False

/-- Whoever comes with the key is not let in. -/
structure ShutsOut (gate : Gate) (key : KeyId) : Prop where
  -- No request is let in under the name of the key.
  unnamed : ∀ now (operation : Operation) context,
    operation.Admits gate now context → context.key ≠ key
  -- No credential for which the key comes first in the store lets anyone in under any name.
  unopened : ∀ now (operation : Operation) digest found,
    operation.Presents gate.policy digest → gate.tables.keyOf? digest = some found →
      found.id = key → ∀ context, ¬ operation.Admits gate now context

/-- Nobody who comes with a key of the account is let in. -/
def Suspends (gate : Gate) (account : AccountId) : Prop :=
  ∀ now (operation : Operation) digest found,
    operation.Presents gate.policy digest → gate.tables.keyOf? digest = some found →
      found.owner = some account → ∀ context, ¬ operation.Admits gate now context

variable {gate : Gate} {now : Instant} {operation : Operation} {digest : String}
  {context : Context} {key : KeyId}

/-- An operation that lets a request in does so for a stored key that is not rejected. -/
theorem Operation.Admits.resolved (admits : operation.Admits gate now context) :
    ∃ digest key, gate.tables.keyOf? digest = some key ∧ context = .ofKey key ∧
      ¬ gate.tables.Rejects digest := by
  -- Only the two kinds of operations that bring a request can let one in.
  cases operation with
  | authenticate path query headers =>
    obtain ⟨digest, key, -, found, same, accepted⟩ := authenticate_ok admits
    exact ⟨digest, key, found, same, accepted⟩
  | serve request =>
    obtain ⟨digest, key, -, found, same, accepted⟩ := authenticate_ok admits
    exact ⟨digest, key, found, same, accepted⟩
  | _ => exact admits.elim

/-- No operation lets a request in with a credential that is rejected. -/
theorem Operation.Presents.not_admits (presented : operation.Presents gate.policy digest)
    (rejects : gate.tables.Rejects digest) : ¬ operation.Admits gate now context := by
  -- The credential of the operation is that of its request.
  cases operation with
  | authenticate path query headers => exact authenticate_ne_of_rejects presented rejects
  | serve request => exact authenticate_ne_of_rejects presented rejects
  | _ => exact id

/-- A gate shuts out a key that its store has barred. -/
theorem shutsOut_of_barred (barred : gate.tables.Barred key) : gate.ShutsOut key := by
  -- The key is not usable, so a credential it comes first for is rejected.
  have rejects {digest : String} {found : AccessKey}
      (located : gate.tables.keyOf? digest = some found) (named : found.id = key) :
      gate.tables.Rejects digest := by
    obtain ⟨row, member, rfl⟩ := Vault.Tables.mem_of_keyOf? located
    have unusable := barred.unusable row member named
    exact .unusable located ((Admission.isUsable_eq_false_iff row.key).mp unusable)
  -- Whatever it is let in under, it comes with a key that the digest leads to.
  constructor
  · intro now operation context admits named
    obtain ⟨digest, found, located, rfl, accepted⟩ := admits.resolved
    exact accepted (rejects located named)
  · intro now operation digest found presented located named context
    exact presented.not_admits (rejects located named)

/-- A gate suspends an account that is disabled. -/
theorem suspends_of_disabled (distinct : gate.tables.Distinct) {account : Account}
    (member : account ∈ gate.tables.accounts) (disabled : account.disabled = true) :
    gate.Suspends account.id := by
  intro now operation digest found presented located owned context
  -- Identities occur once, so the account found for the owner is the disabled one.
  have known := Vault.Tables.account?_eq_of_mem distinct member
  exact presented.not_admits (.ownerDisabled located owned known disabled)

/-- No operation brings an identity into the store a second time. -/
theorem distinct_perform (distinct : gate.tables.Distinct) (now : Instant)
    (operation : Operation) : (gate.perform now operation).2.tables.Distinct :=
  perform_keeps Vault.Tables.Distinct (fun _ change distinct => distinct.write change) distinct

/-- No identity occurs twice in the store of a gate that has been run since it was opened. -/
theorem distinct_performAll (zone : Calendar.Zone) (policy : Policy) (limits : WorkerLimits)
    (history : List (Instant × Operation)) :
    ((opened zone policy limits).performAll history).2.tables.Distinct := by
  -- A gate that has just been opened has nothing in its store.
  have fresh : (opened zone policy limits).tables.Distinct := Vault.Tables.distinct_empty
  exact performAll_keeps Vault.Tables.Distinct (fun _ change distinct => distinct.write change)
    fresh history

/-- Withdrawing a stored key or switching it off bars it. -/
theorem barred_perform (distinct : gate.tables.Distinct)
    (stored : key ∈ gate.tables.keys.map (·.key.id))
    (withdrawal : operation = .revoke key ∨ operation = .deactivate key) :
    (gate.perform now operation).2.tables.Barred key := by
  -- In both ways the key becomes one that lets nobody in.
  rcases withdrawal with rfl | rfl
  · exact Vault.Tables.barred_revoke distinct stored
  · exact Vault.Tables.barred_deactivate distinct stored

/-- In every run since the gate was opened, a key that has been withdrawn or switched off is shut
out for good, and the keys of an account let nobody in for as long as it is disabled. -/
theorem withdrawal_is_final (zone : Calendar.Zone) (policy : Policy) (limits : WorkerLimits)
    (history : List (Instant × Operation)) :
    let gate := ((opened zone policy limits).performAll history).2
    (∀ key ∈ gate.tables.keys.map (·.key.id), ∀ now withdrawal later,
      withdrawal = .revoke key ∨ withdrawal = .deactivate key →
        ((gate.perform now withdrawal).2.performAll later).2.ShutsOut key) ∧
      ∀ account ∈ gate.tables.accounts, account.disabled = true → gate.Suspends account.id := by
  intro gate
  -- No identity occurs twice, whatever has been done so far.
  have distinct : gate.tables.Distinct := distinct_performAll zone policy limits history
  constructor
  · intro key stored now withdrawal later withdrawn
    -- The key is barred at once, and nothing that is done later can change that.
    have barred : (gate.perform now withdrawal).2.tables.Barred key :=
      barred_perform distinct stored withdrawn
    exact shutsOut_of_barred (performAll_keeps (Vault.Tables.Barred · key)
      (fun _ change barred => barred.write change) barred later)
  · -- A disabled account needs no change at all to be suspended.
    intro account member disabled
    exact suspends_of_disabled distinct member disabled

/-- The token of an administrator's key that has been withdrawn is issued again, to nobody's
account, and the old key is touched. Still it is the old one that the token stands for. Its account,
which has a card to pay from, was disabled all along. -/
theorem withdrawal_is_final_reissued :
    let owner : AccountId := ⟨"a"⟩
    let key : KeyId := ⟨"k"⟩
    let gate := ((opened .universal .standard .standard).performAll
      [(0, .openAccount ⟨owner, true, 0⟩), (1, .addCard owner ⟨5, true, some 1, none⟩),
        (2, .issueKey key "t" (some owner) true)]).2
    let later := ((gate.perform 3 (.revoke key)).2.performAll
      [(4, .issueKey ⟨"l"⟩ "t" none true), (5, .direct (.touchKey key 5)), (6, .settle)]).2
    key ∈ gate.tables.keys.map (·.key.id) ∧ ⟨owner, true, 0⟩ ∈ gate.tables.accounts ∧
      later.tables.keyOf? (Digest.ofToken "t") =
        some ⟨key, some owner, "key-t", true, true, true⟩ ∧
      later.ShutsOut key ∧ gate.Suspends owner := by
  intro owner key gate later
  have stored : key ∈ gate.tables.keys.map (·.key.id) := by decide +kernel
  have opened : ⟨owner, true, 0⟩ ∈ gate.tables.accounts := by decide +kernel
  -- The new key for the token is stored behind the old one, which is found first.
  have found : later.tables.keyOf? (Digest.ofToken "t") =
      some ⟨key, some owner, "key-t", true, true, true⟩ := by decide +kernel
  obtain ⟨final, suspended⟩ := withdrawal_is_final .universal .standard .standard
    [(0, .openAccount ⟨owner, true, 0⟩), (1, .addCard owner ⟨5, true, some 1, none⟩),
      (2, .issueKey key "t" (some owner) true)]
  exact ⟨stored, opened, found, final key stored 3 (.revoke key) _ (Or.inl rfl),
    suspended _ opened rfl⟩

end Tollgate.Gate
