import Tollgate.Proofs.Vault.Identity

/-!
What the store keeps that decides about the bearer of a token: the first key stored under its
digest, and what there is of the account that owns the key. Every change of the store does to this
what can be told without looking at anything else, and most changes do nothing to it.
-/

namespace Tollgate.Vault

/-- What the store keeps of an account. -/
structure Holdings where
  /-- Identity of the account. -/
  id : AccountId
  /-- The account, if there is one. -/
  account : Option Account
  /-- Its bills. -/
  bills : List Bill
  /-- Its prepaid cards. -/
  cards : List Card
  /-- Its uses of services. -/
  uses : List Use

/-- What decides about the bearer of a token. -/
structure Ground where
  /-- The key that the token stands for. -/
  key : AccessKey
  /-- What there is of the account that owns the key, if one does. -/
  holdings : Option Holdings

/-- What a change of the store makes of a key that is stored. -/
def Write.onKey (key : AccessKey) : Write → AccessKey
  | .revoke id => if key.id = id then { key with revoked := true } else key
  | .deactivate id => if key.id = id then { key with active := false } else key
  | _ => key

/-- What a change of the store makes of the holdings of an account. -/
def Write.onHoldings (holdings : Holdings) : Write → Holdings
  | .openAccount account =>
    if account.id = holdings.id then
      { holdings with account := holdings.account.or (some account) }
    else holdings
  | .setDisabled id disabled =>
    if id = holdings.id then
      { holdings with account := holdings.account.map fun found => { found with disabled } }
    else holdings
  | .addBill id bill =>
    if id = holdings.id then { holdings with bills := holdings.bills ++ [bill] } else holdings
  | .addCard id card =>
    if id = holdings.id then { holdings with cards := holdings.cards ++ [card] } else holdings
  | .addUse use =>
    if use.account = holdings.id then { holdings with uses := holdings.uses ++ [use] }
    else holdings
  | _ => holdings

/-- What a change of the store makes of what decides about a token. -/
def Write.onGround (change : Write) (ground : Ground) : Ground :=
  ⟨change.onKey ground.key, ground.holdings.map change.onHoldings⟩

/-- The change is about other keys and other accounts. New keys are others, even for the same token
and the same account. -/
def Write.Spares (key : AccessKey) : Write → Prop
  | .openAccount account => key.owner ≠ some account.id
  | .setDisabled id _ | .addBill id _ | .addCard id _ => key.owner ≠ some id
  | .addUse use => key.owner ≠ some use.account
  | .revoke id | .deactivate id => id ≠ key.id
  | .issueKey _ _ | .touch _ _ | .addMapping _ => True

/-- Whether a change is about others depends on no more of a key than its identity and its owner. -/
theorem Write.Spares.congr {change : Write} {key other : AccessKey} (named : other.id = key.id)
    (owned : other.owner = key.owner) (spares : change.Spares key) : change.Spares other := by
  -- The only conditions are on the identity and on the owner.
  cases change with
  | issueKey token issued | touch id instant | addMapping mapping => trivial
  | revoke id | deactivate id => rwa [Write.Spares, named]
  | _ => rwa [Write.Spares, owned]

/-- The change opens the account, unless its identity is taken. -/
def Write.opens (id : AccountId) : Write → Bool
  | .openAccount account => account.id == id
  | _ => false

namespace Tables

/-- What the store keeps of an account. -/
def holdings (tables : Tables) (id : AccountId) : Holdings :=
  ⟨id, tables.account? id, tables.billsOf id, tables.cardsOf id,
    tables.usage.filter (·.account == id)⟩

/-- What decides about the bearers of the tokens with a digest, if there is a key for them. -/
def ground? (tables : Tables) (digest : String) : Option Ground :=
  (tables.keyOf? digest).map fun key => ⟨key, key.owner.map tables.holdings⟩

variable {tables other : Tables} {digest : String} {key : AccessKey} {ground : Ground}
  {change : Write}

/-- What decides about a token is the key it stands for and what there is of its owner. -/
theorem ground?_eq_some_iff :
    tables.ground? digest = some ground ↔
      tables.keyOf? digest = some ground.key ∧
        ground.holdings = ground.key.owner.map tables.holdings := by
  constructor
  · -- What is found is put together from the key and from what there is of its owner.
    intro found
    obtain ⟨key, located, rfl⟩ := Option.map_eq_some_iff.mp found
    exact ⟨located, rfl⟩
  · rintro ⟨located, same⟩
    rw [ground?, located, Option.map_some, ← same]

/-- A key stored behind others does not come before them. -/
theorem keyOf?_concat {rows : List KeyRow} (row : KeyRow)
    (found : (rows.find? (·.digest == digest)).map (·.key) = some key) :
    ((rows ++ [row]).find? (·.digest == digest)).map (·.key) = some key := by
  -- The row that has been found stays the first one with this digest.
  obtain ⟨first, located, same⟩ := Option.map_eq_some_iff.mp found
  rw [List.find?_append, located, Option.some_or, Option.map_some, same]

/-- A change of the first row of some key leaves all rows where they are found. -/
theorem keyOf?_changeFirst (distinct : tables.Distinct) (id : KeyId) (alter : KeyRow → KeyRow)
    (blind : ∀ row, (alter row).digest = row.digest) {row : KeyRow}
    (located : tables.keys.find? (·.digest == digest) = some row) :
    { tables with keys := changeFirst (·.key.id == id) alter tables.keys }.keyOf? digest =
      some (if row.key.id = id then (alter row).key else row.key) := by
  -- The digest of a row does not change, so the same row is found, changed or not.
  have found : (changeFirst (·.key.id == id) alter tables.keys).find? (·.digest == digest) =
      (tables.keys.find? (·.digest == digest)).map fun row =>
        if row.key.id = id then alter row else row :=
    find?_changeFirst distinct.keys (by simp [blind])
  simp only [keyOf?, found, located, Option.map_some]
  split <;> rfl

/-- The key that comes first for a token goes on to, and changes only by what is done to it. -/
theorem keyOf?_write (distinct : tables.Distinct) (found : tables.keyOf? digest = some key)
    (change : Write) : (tables.write change).keyOf? digest = some (change.onKey key) := by
  -- The key is that of the first row with the digest, which is the one to be followed.
  obtain ⟨row, located, rfl⟩ := Option.map_eq_some_iff.mp found
  -- New keys are stored behind it, and all other changes are made where keys are.
  cases change with
  | issueKey token issued =>
    simp only [write, addKey]
    split
    · exact found
    · exact keyOf?_concat _ found
  | revoke id =>
    exact keyOf?_changeFirst distinct id
      (fun row => { row with key := { row.key with revoked := true } }) (fun _ => rfl) located
  | deactivate id =>
    exact keyOf?_changeFirst distinct id
      (fun row => { row with key := { row.key with active := false } }) (fun _ => rfl) located
  | touch id instant =>
    -- The record of a use is no part of the key.
    have touched := keyOf?_changeFirst distinct id
      (fun row => { row with lastUsed := some instant }) (fun _ => rfl) located
    rw [ite_self] at touched
    exact touched
  | openAccount account =>
    simp only [write, addAccount]
    split <;> exact found
  | _ => exact found

/-- An account is found under its identity from the moment it is opened, unless another one is. -/
theorem account?_addAccount (tables : Tables) (account : Account) (id : AccountId) :
    (tables.addAccount account).account? id =
      if account.id = id then (tables.account? id).or (some account) else tables.account? id := by
  -- The new account is put behind the others, if it is put there at all.
  by_cases taken : tables.accounts.any (·.id == account.id) = true
  · -- The account that has the identity is found, so there is no need of the new one.
    obtain ⟨found, member, named⟩ := List.any_eq_true.mp taken
    have known : (tables.account? account.id).isSome := List.find?_isSome.mpr ⟨found, member, named⟩
    rw [addAccount, if_pos taken]
    split
    · rename_i same
      rw [← same, Option.or_of_isSome known]
    · rfl
  · -- There is no such account yet, so the new one is the first of its identity.
    rw [addAccount, if_neg taken, account?, List.find?_append]
    by_cases same : account.id = id
    · simp [account?, same]
    · simp [account?, same]

/-- Only the account that is disabled or enabled is found changed. -/
theorem account?_setDisabled (distinct : tables.Distinct) (other : AccountId) (disabled : Bool)
    (id : AccountId) :
    (tables.setDisabled other disabled).account? id =
      if other = id then (tables.account? id).map fun found => { found with disabled }
      else tables.account? id := by
  -- The accounts are looked through before and after in the same order.
  have found : (changeFirst (·.id == other) (fun account => { account with disabled })
      tables.accounts).find? (·.id == id) =
        (tables.accounts.find? (·.id == id)).map fun account =>
          if account.id = other then { account with disabled } else account :=
    find?_changeFirst distinct.accounts fun _ => rfl
  rw [setDisabled, account?, found, account?]
  -- The account that is looked for is changed only if it is the one to be changed.
  cases located : tables.accounts.find? (·.id == id) with
  | none => simp
  | some account =>
    have named : account.id = id := by simpa using List.find?_some located
    by_cases same : other = id
    · simp [named, same]
    · simp [named, same, Ne.symm same]

/-- What there is of an account changes only by what is done to it. -/
theorem holdings_write (distinct : tables.Distinct) (change : Write) (id : AccountId) :
    (tables.write change).holdings id = change.onHoldings (tables.holdings id) := by
  -- The tables of an account are changed one at a time, and other changes are in other tables.
  cases change with
  | openAccount account =>
    -- Opening an account touches no other table.
    have others : (tables.addAccount account).holdings id =
        { tables.holdings id with account := (tables.addAccount account).account? id } := by
      unfold addAccount
      split <;> rfl
    rw [write, others, account?_addAccount]
    by_cases same : account.id = id <;> simp [Write.onHoldings, holdings, same]
  | setDisabled other disabled =>
    -- Disabling or enabling one touches no other table either.
    have others : (tables.setDisabled other disabled).holdings id =
        { tables.holdings id with account := (tables.setDisabled other disabled).account? id } :=
      rfl
    rw [write, others, account?_setDisabled distinct]
    by_cases same : other = id <;> simp [Write.onHoldings, holdings, same]
  | addBill other bill =>
    by_cases same : other = id <;>
      simp [write, addBill, Write.onHoldings, holdings, account?, billsOf, cardsOf, same]
  | addCard other card =>
    by_cases same : other = id <;>
      simp [write, addCard, Write.onHoldings, holdings, account?, billsOf, cardsOf, same]
  | addUse use =>
    by_cases same : use.account = id <;>
      simp [write, addUse, Write.onHoldings, holdings, account?, billsOf, cardsOf, same]
  -- Keys belong to nothing that is kept of an account.
  | issueKey token issued =>
    simp only [write, addKey]
    split <;> rfl
  | revoke other | deactivate other | touch other instant | addMapping mapping => rfl

/-- An account that can be found goes on to be, and any other one is found once it is opened. -/
theorem isSome_account?_write (distinct : tables.Distinct) (change : Write) (id : AccountId) :
    ((tables.write change).account? id).isSome =
      ((tables.account? id).isSome || change.opens id) := by
  -- Whether the account can be found is part of what there is of it.
  have told : (tables.write change).account? id = (change.onHoldings (tables.holdings id)).account :=
    congrArg Holdings.account (holdings_write distinct change id)
  rw [told]
  cases change with
  | openAccount account =>
    by_cases same : account.id = id <;> simp [Write.onHoldings, Write.opens, holdings, same]
  | setDisabled other disabled | addBill other bill | addCard other card =>
    by_cases same : other = id <;> simp [Write.onHoldings, Write.opens, holdings, same]
  | addUse use =>
    by_cases same : use.account = id <;> simp [Write.onHoldings, Write.opens, holdings, same]
  | _ => exact (Bool.or_false _).symm

/-- No change of the store gives a key another identity or another owner. -/
theorem onKey_named (key : AccessKey) (change : Write) :
    (change.onKey key).id = key.id ∧ (change.onKey key).owner = key.owner := by
  -- Only two changes touch a key, each a single field of it.
  cases change with
  | revoke id | deactivate id =>
    simp only [Write.onKey]
    split <;> exact ⟨rfl, rfl⟩
  | _ => exact ⟨rfl, rfl⟩

/-- A change of the store does to what decides about a token what it does to the key and to what
there is of its owner. -/
theorem ground?_write (distinct : tables.Distinct) (found : tables.ground? digest = some ground)
    (change : Write) : (tables.write change).ground? digest = some (change.onGround ground) := by
  -- The key is followed by itself, and then what there is of its owner.
  obtain ⟨located, held⟩ := ground?_eq_some_iff.mp found
  refine ground?_eq_some_iff.mpr ⟨keyOf?_write distinct located change, ?_⟩
  -- The key still has the owner whose holdings are meant.
  have owner : (change.onGround ground).key.owner = ground.key.owner :=
    (onKey_named ground.key change).2
  rw [owner]
  simp only [Write.onGround, held, Option.map_map]
  exact congrArg (Option.map · _) (funext fun id => (holdings_write distinct change id).symm)

/-- A change that is about others does nothing to what decides about a token. -/
theorem ground?_write_of_spares (distinct : tables.Distinct)
    (found : tables.ground? digest = some ground) (spares : change.Spares ground.key) :
    (tables.write change).ground? digest = some ground := by
  obtain ⟨located, held⟩ := ground?_eq_some_iff.mp found
  rw [ground?_write distinct found, Write.onGround]
  -- The change is about another key, if it is about a key.
  have key : change.onKey ground.key = ground.key := by
    cases change with
    | revoke id | deactivate id => exact if_neg (Ne.symm spares)
    | _ => rfl
  -- The change is about another account, if it is about an account.
  have holdings : ground.holdings.map change.onHoldings = ground.holdings := by
    rw [held]
    cases owned : ground.key.owner with
    | none => rfl
    | some owner =>
      -- The owner is not the account that the change is about.
      refine congrArg some ?_
      cases change with
      | openAccount account | addUse use | setDisabled id disabled | addBill id bill
      | addCard id card => exact if_neg fun same => spares (owned.trans (congrArg some same.symm))
      | _ => rfl
  rw [key, holdings]

/-- Routine changes are about no key and no account. -/
theorem spares_of_isRoutine (routine : change.IsRoutine) (key : AccessKey) :
    change.Spares key := by
  -- None of the two routine changes is about a key or an account.
  cases change <;> trivial

/-- Changes that are about others do nothing to what decides about a token. -/
theorem Becomes.ground? {allowed : Write → Prop} (becomes : Becomes allowed tables other)
    (distinct : tables.Distinct) (found : tables.ground? digest = some ground)
    (spare : ∀ change, allowed change → change.Spares ground.key) :
    other.ground? digest = some ground := by
  -- That no identity occurs twice has to be carried along.
  have kept := becomes.keeps
    (fun tables => tables.Distinct ∧ tables.ground? digest = some ground) ?_
    ⟨distinct, found⟩
  · exact kept.2
  · intro tables change permitted law
    exact ⟨law.1.write change, ground?_write_of_spares law.1 law.2 (spare change permitted)⟩

/-- What there is of an account is all that is told of it. -/
theorem respond_of_holdings {account : AccountId} {call : Call}
    (concerns : call.Concerns account) (same : tables.holdings account = other.holdings account)
    (stale otherStale : Bool) :
    (respond tables stale call).1 = (respond other otherStale call).1 := by
  -- Each call asks for one part of the holdings.
  cases call with
  | findAccount id =>
    obtain rfl : id = account := concerns
    exact congrArg Holdings.account same
  | listBills id =>
    obtain rfl : id = account := concerns
    exact congrArg Holdings.bills same
  | listCards id =>
    obtain rfl : id = account := concerns
    exact congrArg Holdings.cards same
  | sumUsage id since scope =>
    obtain rfl : id = account := concerns
    -- The uses that count are among those of the account.
    have counted (tables : Tables) : tables.usage.filter (·.counts id since scope) =
        (tables.usage.filter (·.account == id)).filter (·.counts id since scope) := by
      rw [List.filter_filter]
      apply List.filter_congr
      intro use member
      cases own : use.account == id <;> simp [Use.counts, own]
    have uses := congrArg Holdings.uses same
    simp only [respond, usedSince, counted]
    exact congrArg (fun uses : List Use =>
      ((uses.filter (·.counts id since scope)).map (·.cost)).foldl (· + ·) 0) uses
  | _ => exact concerns.elim

end Tables

/-- Two watched stores are in the same condition: they fail or both do not, and let through as many
calls. -/
structure Watched.SameCondition (first second : Watched) : Prop where
  failing : first.vault.failing = second.vault.failing
  allowance : first.allowance = second.allowance

/-- Two watched stores in the same condition that would tell the same do so, and stay as they are
but for the number of calls let through. -/
theorem Watched.SameCondition.answer {call : Call} {first second : Watched}
    (same : first.SameCondition second) (isRead : call.isRead = true)
    (told : (respond first.vault.tables first.vault.staleMappings call).1 =
      (respond second.vault.tables second.vault.staleMappings call).1) :
    (first.answer call).1 = (second.answer call).1 ∧
      (first.answer call).2.SameCondition (second.answer call).2 := by
  -- A call that is let through by one is let through by the other, and then met by both in order,
  -- or by neither.
  have kept := watched_answer_keeps isRead first
  have alsoKept := watched_answer_keeps isRead second
  obtain ⟨failing, allowance⟩ := same
  have after : (first.answer call).2.allowance = (second.answer call).2.allowance := by
    simp only [Watched.answer, allowance]
    split <;> rfl
  refine ⟨?_, ?_, after⟩
  · -- Whether the call is let through is the same, and so is whether the store fails.
    simp only [Watched.answer, allowance]
    split
    · rfl
    · cases fails : second.vault.failing with
      | true => simp [Vault.answer, refuses, failing, fails]
      | false =>
        rw [fails] at failing
        rw [answer_of_isRead failing isRead, answer_of_isRead fails isRead, told]
  · rw [kept, alsoKept]
    exact failing

/-- Two watched stores in the same condition that would tell the same when an answer is demanded
lead to the same, if whatever follows the answer does. -/
theorem Watched.SameCondition.run_demand {Result : Type} {call : Call} {failed : Outage → Result}
    {next : call.Answer → Dialogue Result} {first second : Watched}
    (same : first.SameCondition second) (isRead : call.isRead = true)
    (told : (respond first.vault.tables first.vault.staleMappings call).1 =
      (respond second.vault.tables second.vault.staleMappings call).1)
    (rest : ∀ after later : Watched, after.SameCondition later → after.vault = first.vault →
      later.vault = second.vault →
        let answer := (respond first.vault.tables first.vault.staleMappings call).1
        ((next answer).run Watched.answer after).1 = ((next answer).run Watched.answer later).1) :
    ((Dialogue.demand call failed next).run Watched.answer first).1 =
      ((Dialogue.demand call failed next).run Watched.answer second).1 := by
  obtain ⟨alike, still⟩ := same.answer isRead told
  have kept := watched_answer_keeps isRead first
  have alsoKept := watched_answer_keeps isRead second
  -- The two outcomes are one, as the stores are alike.
  rcases asked : first.answer call with ⟨outcome, after⟩
  rcases alsoAsked : second.answer call with ⟨_, later⟩
  rw [asked, alsoAsked] at alike still
  rw [asked] at kept
  rw [alsoAsked] at alsoKept
  obtain rfl : outcome = _ := alike
  cases outcome with
  | error outage => rw [Dialogue.run_demand_error asked, Dialogue.run_demand_error alsoAsked]
  | ok answer =>
    -- Both have answered, and the answer is what the tables of the first one say.
    obtain rfl := (watched_answer_ok isRead asked).1
    rw [Dialogue.run_demand_ok asked, Dialogue.run_demand_ok alsoAsked]
    exact rest after later still kept alsoKept

/-- About an account of which they keep the same, two watched stores in the same condition tell the
same. -/
theorem Watched.SameCondition.run {Result : Type} {dialogue : Dialogue Result}
    {account : AccountId} {first second : Watched} (same : first.SameCondition second)
    (holdings : first.vault.tables.holdings account = second.vault.tables.holdings account)
    (asks : dialogue.AsksOnly (·.Concerns account)) :
    (dialogue.run Watched.answer first).1 = (dialogue.run Watched.answer second).1 := by
  -- The condition of the stores and their holdings are carried from call to call.
  refine Dialogue.run_alike (fun first second : Watched => first.SameCondition second ∧
    first.vault.tables.holdings account = second.vault.tables.holdings account) asks ?_
    ⟨same, holdings⟩
  rintro call concerns first second ⟨same, holdings⟩
  obtain ⟨told, still⟩ := same.answer concerns.isRead
    (Tables.respond_of_holdings concerns holdings _ _)
  refine ⟨told, still, ?_⟩
  -- Calls that only read leave the holdings as they are.
  rw [watched_answer_keeps concerns.isRead, watched_answer_keeps concerns.isRead]
  exact holdings

end Tollgate.Vault
