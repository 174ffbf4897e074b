import Tollgate.Proofs.Funding.Inquiry

/-!
More funding and more use. A further card never takes away what has been granted, nor does a further
bill where one grants something already; further use never brings about a grant, and never decides
whether anything pays for the account.
-/

namespace Tollgate.Entitlement

/-- The verdict on an account that some bill grants something, as the store sums up its use. -/
def limitVerdict (bills : List Bill) (used : Amount) : Entitlement :=
  if ∃ bill ∈ bills, bill.daily.toInt ≤ 0 then .granted
  else below used (Amount.saturatingSum (bills.map (·.daily)))

/-- One bill without a limit for the day lifts the limits of all others. -/
theorem limitVerdict_of_unlimited {bills : List Bill} {bill : Bill} {used : Amount}
    (member : bill ∈ bills) (unlimited : bill.daily.toInt ≤ 0) :
    limitVerdict bills used = .granted :=
  if_pos ⟨bill, member, unlimited⟩

/-- Bills that all have limits set their sum. -/
theorem limitVerdict_of_limited {bills : List Bill} {used : Amount}
    (limited : ∀ bill ∈ bills, 0 < bill.daily.toInt) :
    limitVerdict bills used = below used (Amount.saturatingSum (bills.map (·.daily))) := by
  -- A bill without a limit would contradict what all of them have.
  apply if_neg
  intro lifted
  obtain ⟨bill, member, unlimited⟩ := lifted
  exact Int.not_le.mpr (limited bill member) unlimited

/-- Use stays below a limit exactly if the numbers say so. -/
theorem below_eq_granted_iff {used cap : Amount} :
    below used cap = .granted ↔ used.toInt < cap.toInt := by
  -- Of the two outcomes only one is a grant.
  rw [below_eq]
  split <;> simp [*]

/-- The limits of more bills come to no less. -/
theorem toInt_saturatingSum_le_append {limits more : List Amount}
    (positive : ∀ limit ∈ limits ++ more, 0 < limit.toInt) :
    (Amount.saturatingSum limits).toInt ≤ (Amount.saturatingSum (limits ++ more)).toInt := by
  -- Both sums are exact up to the greatest amount, and the exact ones differ by what is added.
  have nonneg : ∀ limit ∈ limits ++ more, 0 ≤ limit.toInt := by
    intro limit member
    exact Int.le_of_lt (positive limit member)
  have added := Amount.exactSum_nonneg fun limit member =>
    nonneg limit (List.mem_append_right limits member)
  have former := Amount.toInt_saturatingSum fun limit member =>
    nonneg limit (List.mem_append_left more member)
  have latter := Amount.toInt_saturatingSum nonneg
  rw [Amount.exactSum_append] at latter
  omega

/-- More bills do not take away what the limits of some grant. -/
theorem limitVerdict_append {bills : List Bill} {used : Amount}
    (granted : limitVerdict bills used = .granted) (more : List Bill) :
    limitVerdict (bills ++ more) used = .granted := by
  rcases limited_or_unlimited (bills ++ more) with limited | ⟨bill, member, unlimited⟩
  · -- None of the bills lifts the limits, and their sum can only have grown.
    have former : ∀ bill ∈ bills, 0 < bill.daily.toInt := by
      intro bill member
      exact limited bill (List.mem_append_left more member)
    rw [limitVerdict_of_limited former, below_eq_granted_iff] at granted
    rw [limitVerdict_of_limited limited, below_eq_granted_iff]
    have positive : ∀ limit ∈ (bills ++ more).map (·.daily), 0 < limit.toInt := by
      intro limit member
      obtain ⟨bill, inside, rfl⟩ := List.mem_map.mp member
      exact limited bill inside
    rw [List.map_append] at positive ⊢
    exact Int.lt_of_lt_of_le granted (toInt_saturatingSum_le_append positive)
  · exact limitVerdict_of_unlimited member unlimited

/-- Less use does not take away what the limits of bills grant. -/
theorem limitVerdict_antitone {bills : List Bill} {used more : Amount}
    (grows : used.toInt ≤ more.toInt) (granted : limitVerdict bills more = .granted) :
    limitVerdict bills used = .granted := by
  -- Where limits count, less use is as far below them.
  rcases limited_or_unlimited bills with limited | ⟨bill, member, unlimited⟩
  · rw [limitVerdict_of_limited limited, below_eq_granted_iff] at granted ⊢
    exact Int.lt_of_le_of_lt grows granted
  · exact limitVerdict_of_unlimited member unlimited

/-- Cards grant something exactly if there is one to pay from, and what is charged leaves room for
more unless it has no limit. -/
theorem cardVerdict_eq_granted_iff {holdsCard : Prop} [Decidable holdsCard]
    {dailyMax usedToday : Int} :
    cardVerdict holdsCard dailyMax usedToday = .granted ↔
      holdsCard ∧ (dailyMax ≤ 0 ∨ usedToday + 1 < dailyMax) := by
  unfold cardVerdict
  by_cases holds : holdsCard
  · -- There is a card to pay from, and the limit decides.
    simp only [holds, not_true_eq_false, if_false, true_and]
    by_cases unlimited : dailyMax ≤ 0
    · simp [unlimited]
    · simp [unlimited]
  · simp [holds]

/-- An account that some bill grants something lacks no funding. -/
theorem limitVerdict_ne_insufficient (bills : List Bill) (used : Amount) :
    limitVerdict bills used ≠ .denied .insufficientBalance := by
  unfold limitVerdict below
  split
  · -- The limits grant, or deny for another reason.
    simp
  · split <;> simp

/-- Nothing pays for an account that no bill grants anything exactly if there is no card to pay
from. -/
theorem cardVerdict_eq_insufficient_iff {holdsCard : Prop} [Decidable holdsCard]
    {dailyMax usedToday : Int} :
    cardVerdict holdsCard dailyMax usedToday = .denied .insufficientBalance ↔ ¬ holdsCard := by
  unfold cardVerdict
  by_cases holds : holdsCard
  · -- A card to pay from may have a limit, which leads to the other denial.
    simp only [holds, not_true_eq_false, if_false, iff_false]
    split
    · simp
    · split <;> simp
  · simp [holds]

/-- The verdict on an account to which a store in order leads. -/
def storedVerdict (zone : Calendar.Zone) (tables : Vault.Tables) (account : Account)
    (now : Instant) : Entitlement :=
  let today := Calendar.dayStart zone now
  let bills := grantingBills tables account.id now
  if account.disabled then .denied .insufficientBalance
  else if bills ≠ [] then limitVerdict bills (tables.usedSince account.id today .all)
  else
    cardVerdict (HoldsCard tables account.id now) account.dailyMax.toInt
      (tables.usedSince account.id today .prepaid).toInt

section

variable {zone : Calendar.Zone} {tables : Vault.Tables} {account : Account} {now : Instant}

/-- A disabled account is refused whatever is kept about it. -/
theorem storedVerdict_of_disabled (disabled : account.disabled = true) :
    storedVerdict zone tables account now = .denied .insufficientBalance := by
  rw [storedVerdict, if_pos disabled]

/-- Where a bill grants something, the limits of the bills decide. -/
theorem storedVerdict_of_covered (enabled : account.disabled = false)
    (covered : grantingBills tables account.id now ≠ []) :
    -- Neither the account nor the lack of bills stands in the way.
    storedVerdict zone tables account now =
      limitVerdict (grantingBills tables account.id now)
        (tables.usedSince account.id (Calendar.dayStart zone now) .all) := by
  simp only [storedVerdict, enabled, Bool.false_eq_true, if_false, if_pos covered]

/-- Where no bill grants anything, the cards decide. -/
theorem storedVerdict_of_uncovered (enabled : account.disabled = false)
    (uncovered : grantingBills tables account.id now = []) :
    storedVerdict zone tables account now =
      cardVerdict (HoldsCard tables account.id now) account.dailyMax.toInt
        (tables.usedSince account.id (Calendar.dayStart zone now) .prepaid).toInt := by
  simp only [storedVerdict, enabled, Bool.false_eq_true, if_false, uncovered, ne_eq,
    not_true_eq_false]

/-- In a store in order, the bills that have been read are those kept for the account. -/
theorem ReadsBills.stored {vault after : Vault} {bills : List Bill} (now : Instant)
    (inOrder : vault.failing = false)
    (billed : ReadsBills Vault.answer account vault bills after) :
    account.disabled = false ∧ granting bills now = grantingBills vault.tables account.id now ∧
      after = vault := by
  -- What has been read is what the store lists, of which the same bills grant something.
  obtain ⟨enabled, listed⟩ := billed
  obtain ⟨same, kept⟩ := Vault.eq_of_answer_isRead inOrder rfl listed
  refine ⟨enabled, ?_, kept⟩
  rw [Except.ok.inj same]
  exact granting_billsOf vault.tables account.id now

/-- In a store in order, one of the cards that have been read can be paid from exactly if the
account holds one. -/
theorem ReadsCards.stored {vault after : Vault} {cards : List Card} (inOrder : vault.failing = false)
    (carded : ReadsCards Vault.answer account now vault cards after) :
    account.disabled = false ∧ grantingBills vault.tables account.id now = [] ∧
      ((∃ card ∈ cards, card.isValidAt now = true) ↔ HoldsCard vault.tables account.id now) ∧
      after = vault := by
  -- The bills have been read before, and the cards are found as the store keeps them.
  obtain ⟨bills, between, billed, uncovered, listed⟩ := carded
  obtain ⟨enabled, same, rfl⟩ := billed.stored now inOrder
  obtain ⟨found, kept⟩ := Vault.eq_of_answer_isRead inOrder rfl listed
  refine ⟨enabled, same ▸ uncovered, ?_, kept⟩
  rw [← any_isValidAt_iff, Except.ok.inj found, List.any_eq_true]
  exact Iff.rfl

/-- Every course that a store in order lets an inquiry take comes to its verdict. -/
theorem Inquiry.eq_storedVerdict {vault after : Vault} {result : Except Outage Entitlement}
    {made : List Call} (inOrder : vault.failing = false)
    (taken : Inquiry Vault.answer zone account now vault result made after) :
    result = .ok (storedVerdict zone vault.tables account now) := by
  -- A store in order does not fail to be read, which leaves the courses that end with a verdict.
  cases taken with
  | disabled disabled => rw [storedVerdict_of_disabled disabled]
  | billsUnread enabled failed =>
    -- Nothing that is read from a store in order fails.
    exact absurd failed (Vault.answer_ne_error_of_isRead inOrder rfl)
  | unlimited billed lifted =>
    -- One of the bills kept for the account lifts the limits.
    obtain ⟨enabled, same, -⟩ := billed.stored now inOrder
    obtain ⟨bill, member, unbounded⟩ := lifted
    rw [same] at member
    rw [storedVerdict_of_covered enabled (List.ne_nil_of_mem member),
      limitVerdict_of_unlimited member unbounded]
  | useUnread billed limited failed =>
    obtain ⟨-, -, rfl⟩ := billed.stored now inOrder
    exact absurd failed (Vault.answer_ne_error_of_isRead inOrder rfl)
  | useRead billed limited summed =>
    -- What is compared is what the store sums up, with the limits of the bills it keeps.
    obtain ⟨enabled, same, rfl⟩ := billed.stored now inOrder
    obtain ⟨read, -⟩ := Vault.eq_of_answer_isRead inOrder rfl summed
    obtain ⟨covered, bounded⟩ := limited
    rw [same] at covered bounded
    rw [storedVerdict_of_covered enabled covered, limitVerdict_of_limited bounded, same,
      Except.ok.inj read]
    rfl
  | cardsUnread billed uncovered failed =>
    obtain ⟨-, -, rfl⟩ := billed.stored now inOrder
    exact absurd failed (Vault.answer_ne_error_of_isRead inOrder rfl)
  | cardless carded invalid =>
    -- The cards that have been read are those kept, and none of them can be paid from.
    obtain ⟨enabled, uncovered, holds, -⟩ := carded.stored inOrder
    rw [holds] at invalid
    rw [storedVerdict_of_uncovered enabled uncovered, cardVerdict, if_pos invalid]
  | uncapped carded valid uncapped =>
    -- One of those kept can be paid from, and nothing limits what is charged to it.
    obtain ⟨enabled, uncovered, holds, -⟩ := carded.stored inOrder
    rw [holds] at valid
    rw [storedVerdict_of_uncovered enabled uncovered, cardVerdict,
      if_neg (Classical.not_not.mpr valid), if_pos uncapped]
  | chargesUnread carded valid capped failed =>
    obtain ⟨-, -, -, rfl⟩ := carded.stored inOrder
    exact absurd failed (Vault.answer_ne_error_of_isRead inOrder rfl)
  | chargesRead carded valid capped summed =>
    -- One unit more than what was charged is compared with the limit.
    obtain ⟨enabled, uncovered, holds, rfl⟩ := carded.stored inOrder
    obtain ⟨read, -⟩ := Vault.eq_of_answer_isRead inOrder rfl summed
    rw [holds] at valid
    rw [storedVerdict_of_uncovered enabled uncovered, cardVerdict,
      if_neg (Classical.not_not.mpr valid), if_neg (Int.not_le.mpr capped), below_next_eq,
      Except.ok.inj read]
    rfl

/-- A store in order leads to its verdict, and stays as it is. -/
theorem run_ask_of_inOrder (zone : Calendar.Zone) (account : Account) (now : Instant)
    (vault : Vault) (inOrder : vault.failing = false) :
    (ask zone account now).run Vault.answer vault =
      (.ok (storedVerdict zone vault.tables account now), vault) := by
  -- The course that is taken ends with the verdict, and reading leaves the store as it is.
  obtain ⟨result, made, after, taken⟩ := exists_inquiry Vault.answer zone account now vault
  have kept : ((ask zone account now).run Vault.answer vault).2 = vault :=
    Dialogue.run_keeps id (onlyReads_ask zone account now)
      (fun _ isRead => Vault.answer_keeps isRead) vault
  have led := taken.leads.1
  rw [taken.eq_storedVerdict inOrder] at led
  rw [led] at kept ⊢
  rw [show after = vault from kept]

/-- An account may use a service exactly if it is not disabled, and the limits of its bills grant
that or, where no bill grants anything, it has a card to pay from and room for what is charged to
it. -/
theorem storedVerdict_granted_iff :
    storedVerdict zone tables account now = .granted ↔
      account.disabled = false ∧
        (grantingBills tables account.id now ≠ [] ∧
            limitVerdict (grantingBills tables account.id now)
              (tables.usedSince account.id (Calendar.dayStart zone now) .all) = .granted ∨
          grantingBills tables account.id now = [] ∧ HoldsCard tables account.id now ∧
            (account.dailyMax.toInt ≤ 0 ∨
              (tables.usedSince account.id (Calendar.dayStart zone now) .prepaid).toInt + 1 <
                account.dailyMax.toInt)) := by
  -- The cards are asked only where no bill grants anything.
  cases disabled : account.disabled with
  | true => simp [storedVerdict_of_disabled disabled]
  | false =>
    -- Both ways are the verdict itself, the conditions having been settled.
    by_cases covered : grantingBills tables account.id now = []
    · rw [storedVerdict_of_uncovered disabled covered, cardVerdict_eq_granted_iff]
      simp [covered]
    · rw [storedVerdict_of_covered disabled covered]
      simp [covered]

/-- Nothing pays for an account exactly if it is disabled, or has neither a bill that grants
something nor a card to pay from. -/
theorem storedVerdict_insufficient_iff :
    storedVerdict zone tables account now = .denied .insufficientBalance ↔
      account.disabled = true ∨
        grantingBills tables account.id now = [] ∧ ¬ HoldsCard tables account.id now := by
  -- Limits that have been reached lead to the other denial.
  cases disabled : account.disabled with
  | true => simp [storedVerdict_of_disabled disabled]
  | false =>
    by_cases covered : grantingBills tables account.id now = []
    · rw [storedVerdict_of_uncovered disabled covered, cardVerdict_eq_insufficient_iff]
      simp [covered]
    · -- Where bills decide, the denial is of the other kind.
      have limited := limitVerdict_ne_insufficient (grantingBills tables account.id now)
        (tables.usedSince account.id (Calendar.dayStart zone now) .all)
      rw [storedVerdict_of_covered disabled covered]
      simp [covered, limited]

/-- The bills that grant an account something go on doing so when there are more. -/
theorem grantingBills_addBill (tables : Vault.Tables) (owner : AccountId) (bill : Bill)
    (account : AccountId) (now : Instant) :
    ∃ more, grantingBills (tables.addBill owner bill) account now =
      grantingBills tables account now ++ more := by
  -- The new bill is the last one, and grants something by itself or not at all.
  refine ⟨grantingBills (Vault.Tables.empty.addBill owner bill) account now, ?_⟩
  simp only [grantingBills, Vault.Tables.addBill, Vault.Tables.empty, List.filter_append,
    List.map_append, List.nil_append]

/-- An account that holds a card goes on doing so when there are more. -/
theorem HoldsCard.addCard {account : AccountId} (holds : HoldsCard tables account now)
    (owner : AccountId) (card : Card) : HoldsCard (tables.addCard owner card) account now := by
  -- The card there was is still among those kept.
  obtain ⟨entry, member, owned, valid⟩ := holds
  exact ⟨entry, List.mem_append_left _ member, owned, valid⟩

/-- A use that costs something adds to what has been used, if it counts. -/
theorem exactUse_le_addUse {use : Use} (nonneg : 0 ≤ use.cost.toInt) (tables : Vault.Tables)
    (account : AccountId) (since : Instant) (scope : Scope) :
    exactUse tables account since scope ≤ exactUse (tables.addUse use) account since scope := by
  -- The new use is the last one, and counts by itself or not at all.
  simp only [exactUse, Vault.Tables.addUse, List.filter_append, List.map_append,
    Amount.exactSum_append]
  have added : 0 ≤ Amount.exactSum (([use].filter fun use =>
      use.account = account ∧ use.failed = false ∧ since ≤ use.instant ∧
        (scope = .prepaid → use.charge = .prepaid)).map (·.cost)) := by
    -- The only use that is added costs no less than nothing.
    apply Amount.exactSum_nonneg
    intro amount member
    obtain ⟨counted, inside, rfl⟩ := List.mem_map.mp member
    rw [List.mem_singleton.mp (List.mem_filter.mp inside).1]
    exact nonneg
  omega

/-- As long as sums are amounts, a store finds no less used after a use that costs something. -/
theorem toInt_usedSince_le_addUse {use : Use} {account : AccountId} {since : Instant} {scope : Scope}
    (nonneg : 0 ≤ use.cost.toInt) (fits : Amount.Fits (exactUse tables account since scope))
    (stillFits : Amount.Fits (exactUse (tables.addUse use) account since scope)) :
    (tables.usedSince account since scope).toInt ≤
      ((tables.addUse use).usedSince account since scope).toInt := by
  -- Sums that are amounts are exact.
  rw [toInt_usedSince fits, toInt_usedSince stillFits]
  exact exactUse_le_addUse nonneg tables account since scope

/-- A further card, whoever owns it, takes nothing away. -/
theorem storedVerdict_addCard (granted : storedVerdict zone tables account now = .granted)
    (owner : AccountId) (card : Card) :
    storedVerdict zone (tables.addCard owner card) account now = .granted := by
  -- Neither the bills nor the use change, and the cards there were are still there.
  rw [storedVerdict_granted_iff] at granted ⊢
  obtain ⟨enabled, ⟨covered, within⟩ | ⟨uncovered, holds, room⟩⟩ := granted
  · exact ⟨enabled, Or.inl ⟨covered, within⟩⟩
  · exact ⟨enabled, Or.inr ⟨uncovered, holds.addCard owner card, room⟩⟩

/-- A further bill, whoever it is for, takes nothing away from an account with a bill that grants
something. -/
theorem storedVerdict_addBill (covered : grantingBills tables account.id now ≠ [])
    (granted : storedVerdict zone tables account now = .granted) (owner : AccountId) (bill : Bill) :
    storedVerdict zone (tables.addBill owner bill) account now = .granted := by
  -- The bills of the account are those there were, with some more behind them.
  obtain ⟨more, listed⟩ := grantingBills_addBill tables owner bill account.id now
  rw [storedVerdict_granted_iff] at granted ⊢
  obtain ⟨enabled, ⟨-, within⟩ | ⟨uncovered, -⟩⟩ := granted
  · -- The limits of the bills there were are among those of all bills.
    have stillCovered := List.append_ne_nil_of_left_ne_nil covered more
    rw [listed]
    exact ⟨enabled, Or.inl ⟨stillCovered, limitVerdict_append within more⟩⟩
  · exact absurd uncovered covered

/-- A further use that costs something brings about no grant. -/
theorem storedVerdict_addUse {use : Use} (nonneg : 0 ≤ use.cost.toInt)
    (fits : ∀ scope, Amount.Fits (exactUse tables account.id (Calendar.dayStart zone now) scope))
    (stillFits : ∀ scope, Amount.Fits
      (exactUse (tables.addUse use) account.id (Calendar.dayStart zone now) scope))
    (granted : storedVerdict zone (tables.addUse use) account now = .granted) :
    storedVerdict zone tables account now = .granted := by
  -- The bills and the cards are the same, and what they are compared with was no more.
  have grows (scope : Scope) := toInt_usedSince_le_addUse nonneg (fits scope) (stillFits scope)
  rw [storedVerdict_granted_iff] at granted ⊢
  obtain ⟨enabled, ⟨covered, within⟩ | ⟨uncovered, holds, room⟩⟩ := granted
  · exact ⟨enabled, Or.inl ⟨covered, limitVerdict_antitone (grows .all) within⟩⟩
  · -- Less was used before, so there was more room.
    have roomBefore := grows .prepaid
    exact ⟨enabled, Or.inr ⟨uncovered, holds, by omega⟩⟩

end

/-- In a store in order the inquiry into an account comes to a verdict, which a further card does
not turn from a grant into a denial, nor a further bill if some bill of the account grants something
already, whoever these are for. A further use that costs no less than nothing turns no denial into a
grant, and changes nothing in whether anything pays for the account, as long as what was used today
can be written as an amount before and after. -/
theorem ask_monotone (zone : Calendar.Zone) (account : Account) (now : Instant) (vault : Vault)
    (inOrder : vault.failing = false) :
    ∃ verdict, (ask zone account now).run Vault.answer vault = (.ok verdict, vault) ∧
      (∀ owner card, verdict = .granted →
        ((ask zone account now).run Vault.answer
          { vault with tables := vault.tables.addCard owner card }).1 = .ok .granted) ∧
      (∀ owner bill,
        (∃ entry ∈ vault.tables.bills, entry.1 = account.id ∧ entry.2.qualifiesAt now = true) →
        verdict = .granted →
        ((ask zone account now).run Vault.answer
          { vault with tables := vault.tables.addBill owner bill }).1 = .ok .granted) ∧
      ∀ use : Use, 0 ≤ use.cost.toInt →
        (∀ scope, Amount.Fits
          (exactUse vault.tables account.id (Calendar.dayStart zone now) scope)) →
        (∀ scope, Amount.Fits
          (exactUse (vault.tables.addUse use) account.id (Calendar.dayStart zone now) scope)) →
        ∃ later,
          ((ask zone account now).run Vault.answer
            { vault with tables := vault.tables.addUse use }).1 = .ok later ∧
          (verdict ≠ .granted → later ≠ .granted) ∧
          (later = .denied .insufficientBalance ↔ verdict = .denied .insufficientBalance) := by
  -- Whatever is added, the store stays in order and leads to its verdict.
  have leads (tables : Vault.Tables) : ((ask zone account now).run Vault.answer
      { vault with tables }).1 = .ok (storedVerdict zone tables account now) :=
    congrArg Prod.fst (run_ask_of_inOrder zone account now { vault with tables } inOrder)
  refine ⟨_, run_ask_of_inOrder zone account now vault inOrder, ?_, ?_, ?_⟩
  · -- The verdict of the store is that of its tables, with and without the card.
    intro owner card granted
    rw [leads, storedVerdict_addCard granted owner card]
  · -- A bill that qualifies is one of those that grant the account something.
    intro owner bill qualifying granted
    obtain ⟨entry, member, owned, qualifies⟩ := qualifying
    have covered : grantingBills vault.tables account.id now ≠ [] := by
      rw [← granting_billsOf]
      have listed : entry.2 ∈ vault.tables.billsOf account.id :=
        List.mem_map_of_mem (List.mem_filter.mpr ⟨member, beq_iff_eq.mpr owned⟩)
      exact List.ne_nil_of_mem (List.mem_filter.mpr ⟨listed, qualifies⟩)
    rw [leads, storedVerdict_addBill covered granted owner bill]
  · intro use nonneg fits stillFits
    refine ⟨_, leads _, ?_, ?_⟩
    · -- A grant would have been one before.
      intro denied granted
      exact denied (storedVerdict_addUse nonneg fits stillFits granted)
    · -- Neither the bills nor the cards are touched by a use.
      rw [storedVerdict_insufficient_iff, storedVerdict_insufficient_iff]
      exact Iff.rfl

/-- Next to its limit, an account is granted the service, also with a card of someone else or a bill
that takes the sum of its limits past the greatest amount; once the limit is reached, a use that
costs nothing leaves it so. -/
theorem ask_monotone_reached_limit :
    let account : Account := ⟨⟨"a"⟩, false, 0⟩
    let bill : Bill := ⟨1, 300, true, "paid", 0, 20⟩
    let card : Card := ⟨5, true, some 1, none⟩
    let spending (cost : Amount) : Use := ⟨account.id, cost, .prepaid, false, 5⟩
    let vault (cost : Amount) : Vault := ⟨{ Vault.Tables.empty with
      bills := [(account.id, bill)], usage := [spending cost] }, false, false, false⟩
    let ended (tables : Vault.Tables) := ((ask .universal account 10).run Vault.answer
      { vault 0 with tables }).1
    ended ((vault 299).tables.addCard ⟨"b"⟩ card) = .ok .granted ∧
      ended ((vault 299).tables.addBill account.id { bill with daily := Int64.maxValue }) =
        .ok .granted ∧
      ∃ later, ended ((vault 300).tables.addUse (spending 0)) = .ok later ∧ later ≠ .granted ∧
        later ≠ .denied .insufficientBalance := by
  intro account bill card spending vault ended
  have fits : ∀ scope, Amount.Fits
      (exactUse (vault 300).tables account.id (Calendar.dayStart .universal 10) scope) := by
    intro scope
    cases scope <;> constructor <;> decide
  have stillFits : ∀ scope, Amount.Fits
      (exactUse ((vault 300).tables.addUse (spending 0)) account.id
        (Calendar.dayStart .universal 10) scope) := by
    intro scope
    cases scope <;> constructor <;> decide
  -- One store leads to a grant, and the other one to the denial of a limit that has been reached.
  obtain ⟨within, granted, carded, billed, -⟩ :=
    ask_monotone .universal account 10 (vault 299) rfl
  obtain ⟨reached, denied, -, -, used⟩ := ask_monotone .universal account 10 (vault 300) rfl
  have grant : within = .granted := by
    rw [run_ask_of_inOrder .universal account 10 _ rfl] at granted
    exact (Except.ok.inj (congrArg Prod.fst granted)).symm.trans (by decide)
  have denial : reached = .denied .dailyCapExceeded := by
    rw [run_ask_of_inOrder .universal account 10 _ rfl] at denied
    exact (Except.ok.inj (congrArg Prod.fst denied)).symm.trans (by decide)
  obtain ⟨later, ends, refused, paid⟩ := used (spending 0) (by decide) fits stillFits
  refine ⟨carded ⟨"b"⟩ card grant, billed account.id _ ⟨(account.id, bill), ?_, rfl, ?_⟩ grant,
    later, ends, refused ?_, ?_⟩
  · exact List.mem_cons_self
  · decide
  · rw [denial]
    decide
  · intro unpaid
    rw [paid, denial] at unpaid
    cases unpaid

end Tollgate.Entitlement
