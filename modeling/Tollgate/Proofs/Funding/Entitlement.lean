import Tollgate.Proofs.Funding.Bills
import Tollgate.Proofs.Vault.Reading

/-!
Whether an account may use a service, by rules in exact numbers. A store in order leads the
evaluation to the verdict of these rules, as long as what was used today can be written as an
amount.
-/

namespace Tollgate.Entitlement

/-- The bills kept for an account that grant it something at an instant. -/
def grantingBills (tables : Vault.Tables) (account : AccountId) (now : Instant) : List Bill :=
  (tables.bills.filter fun entry =>
    entry.1 = account ∧ entry.2.enabled = true ∧ entry.2.status = "paid" ∧
      entry.2.start ≤ now ∧ now ≤ entry.2.finish ∧ 0 < entry.2.remaining.toInt).map (·.2)

/-- An account owns a card that has been redeemed, has something left and has not expired. -/
def HoldsCard (tables : Vault.Tables) (account : AccountId) (now : Instant) : Prop :=
  ∃ entry ∈ tables.cards,
    entry.1 = account ∧ entry.2.enabled = true ∧ entry.2.redeemed.isSome = true ∧
      0 < entry.2.balance.toInt ∧ entry.2.expires.all (now ≤ ·) = true

instance (tables : Vault.Tables) (account : AccountId) (now : Instant) :
    Decidable (HoldsCard tables account now) :=
  inferInstanceAs (Decidable (∃ entry ∈ tables.cards, _))

/-- The exact cost of what an account has used with success since an instant, in a scope. -/
def exactUse (tables : Vault.Tables) (account : AccountId) (since : Instant) (scope : Scope) :
    Int :=
  Amount.exactSum ((tables.usage.filter fun use =>
    use.account = account ∧ use.failed = false ∧ since ≤ use.instant ∧
      (scope = .prepaid → use.charge = .prepaid)).map (·.cost))

/-- The verdict on an account that some bill grants something. -/
def billVerdict (bills : List Bill) (usedToday : Int) : Entitlement :=
  if ∃ bill ∈ bills, bill.daily.toInt ≤ 0 then .granted
  else if usedToday < Amount.exactSum (bills.map (·.daily)) then .granted
  else .denied .dailyCapExceeded

/-- The verdict on an account that no bill grants anything. -/
def cardVerdict (holdsCard : Prop) [Decidable holdsCard] (dailyMax usedToday : Int) :
    Entitlement :=
  if ¬ holdsCard then .denied .insufficientBalance
  else if dailyMax ≤ 0 then .granted
  else if usedToday + 1 < dailyMax then .granted
  else .denied .dailyCapExceeded

/-- The verdict on an account at an instant, all sums being exact. -/
def exactVerdict (zone : Calendar.Zone) (tables : Vault.Tables) (account : Account)
    (now : Instant) : Entitlement :=
  let today := Calendar.dayStart zone now
  let bills := grantingBills tables account.id now
  if account.disabled then .denied .insufficientBalance
  else if bills ≠ [] then billVerdict bills (exactUse tables account.id today .all)
  else
    cardVerdict (HoldsCard tables account.id now) account.dailyMax.toInt
      (exactUse tables account.id today .prepaid)

/-- The bills of the account that grant something are those among the bills listed for it. -/
theorem granting_billsOf (tables : Vault.Tables) (account : AccountId) (now : Instant) :
    granting (tables.billsOf account) now = grantingBills tables account now := by
  -- Whether owners or terms are looked at first, the same entries remain.
  simp only [granting, Vault.Tables.billsOf, grantingBills, List.filter_map, List.filter_filter]
  congr 1
  apply List.filter_congr
  intro entry _
  rw [Bool.eq_iff_iff]
  simp [Bill.qualifiesAt_iff, and_comm]

/-- What it takes for a card to be paid from. -/
theorem isValidAt_iff (card : Card) (now : Instant) :
    card.isValidAt now = true ↔
      card.enabled = true ∧ card.redeemed.isSome = true ∧ 0 < card.balance.toInt ∧
        card.expires.all (now ≤ ·) = true := by
  -- A card without an expiry never expires.
  unfold Card.isValidAt
  cases card.expires with
  | none => simp [Int64.lt_iff_toInt_lt, and_assoc, and_comm]
  | some expiry => simp [Int64.lt_iff_toInt_lt, and_assoc, and_left_comm]

/-- A card that can be paid from is listed exactly if the account holds one. -/
theorem any_isValidAt_iff (tables : Vault.Tables) (account : AccountId) (now : Instant) :
    (tables.cardsOf account).any (·.isValidAt now) = true ↔ HoldsCard tables account now := by
  -- The store lists the cards without their owner, having looked at the owner first.
  simp only [List.any_eq_true, Vault.Tables.cardsOf, List.mem_map, List.mem_filter, beq_iff_eq,
    isValidAt_iff, HoldsCard]
  constructor
  · rintro ⟨card, ⟨entry, ⟨inside, owned⟩, rfl⟩, valid⟩
    exact ⟨entry, inside, owned, valid⟩
  · rintro ⟨entry, inside, owned, valid⟩
    exact ⟨entry.2, ⟨entry, ⟨inside, owned⟩, rfl⟩, valid⟩

/-- The uses that count in a scope. -/
theorem counts_iff (use : Use) (account : AccountId) (since : Instant) (scope : Scope) :
    use.counts account since scope = true ↔
      use.account = account ∧ use.failed = false ∧ since ≤ use.instant ∧
        (scope = .prepaid → use.charge = .prepaid) := by
  -- In either scope the conditions are those of the count, in another order.
  cases scope <;>
    simp [Use.counts, Scope.covers, Scope.charge?, and_left_comm, and_comm]

/-- The store sums up use without loss if the exact sum is an amount. -/
theorem toInt_usedSince {tables : Vault.Tables} {account : AccountId} {since : Instant}
    {scope : Scope} (fits : Amount.Fits (exactUse tables account since scope)) :
    (tables.usedSince account since scope).toInt = exactUse tables account since scope := by
  -- Both sums go over the same uses.
  have counted : (tables.usage.filter (·.counts account since scope)) =
      tables.usage.filter fun use =>
        use.account = account ∧ use.failed = false ∧ since ≤ use.instant ∧
          (scope = .prepaid → use.charge = .prepaid) := by
    apply List.filter_congr
    intro use _
    rw [Bool.eq_iff_iff, counts_iff, decide_eq_true_eq]
  rw [Vault.Tables.usedSince, counted]
  exact Amount.toInt_foldl_add_of_fits fits

/-- Use stays below a limit exactly if the numbers say so. -/
theorem below_eq (used cap : Amount) :
    below used cap = if used.toInt < cap.toInt then .granted else .denied .dailyCapExceeded := by
  simp only [below, Int64.lt_iff_toInt_lt]

/-- The next use fits under a limit exactly if the numbers say so; where the sum is cut off, no
limit is left above it. -/
theorem below_next_eq (used cap : Amount) :
    below (Amount.saturatingAdd used leastUse) cap =
      if used.toInt + 1 < cap.toInt then .granted else .denied .dailyCapExceeded := by
  -- A sum that is cut off is the greatest amount, which no limit exceeds.
  have sum := Amount.toInt_saturatingAdd used leastUse
  have least := used.minValue_le_toInt
  have greatest := cap.toInt_le
  have one : leastUse.toInt = 1 := rfl
  have same : (Amount.saturatingAdd used leastUse).toInt < cap.toInt ↔
      used.toInt + 1 < cap.toInt := by omega
  simp only [below_eq, same]

/-- The summed limits of bills are cut off at the greatest amount, which use that stays below it
cannot tell from the exact sum. -/
theorem below_saturatingSum_eq {used : Amount} {limits : List Amount}
    (positive : ∀ limit ∈ limits, 0 < limit.toInt) (room : used.toInt < Int64.maxValue.toInt) :
    below used (Amount.saturatingSum limits) =
      if used.toInt < Amount.exactSum limits then .granted else .denied .dailyCapExceeded := by
  -- Where the sum is cut off, what was used is below both the cut and the exact sum.
  have sum := Amount.toInt_saturatingSum fun limit member => Int.le_of_lt (positive limit member)
  have same : used.toInt < (Amount.saturatingSum limits).toInt ↔
      used.toInt < Amount.exactSum limits := by omega
  simp only [below_eq, same]

/-- Asking about the cards of an account passes failures of the store on. -/
theorem passesOn_askCards (account : Account) (now dayStart : Instant) :
    (askCards account now dayStart).PassesOn := by
  -- Each demand hands its failure on; in between, the dialogue ends or demands again.
  unfold askCards
  apply Dialogue.passesOn_demand
  intro cards
  split
  · exact ⟨_, rfl⟩
  · split
    · exact ⟨_, rfl⟩
    · apply Dialogue.passesOn_demand
      intro used
      exact ⟨_, rfl⟩

/-- Asking whether an account may use a service passes failures of the store on. -/
theorem passesOn_ask (zone : Calendar.Zone) (account : Account) (now : Instant) :
    (ask zone account now).PassesOn := by
  unfold ask
  split
  · exact ⟨_, rfl⟩
  · apply Dialogue.passesOn_demand
    intro bills
    -- What the bills come to decides what else is asked for.
    cases judgeBills bills now with
    | uncovered => exact passesOn_askCards account now _
    | unlimited => exact ⟨_, rfl⟩
    | capped cap =>
      apply Dialogue.passesOn_demand
      intro used
      exact ⟨_, rfl⟩

/-- About the cards of an account, nothing is asked but what concerns the account. -/
theorem asksOnly_askCards (account : Account) (now dayStart : Instant) :
    (askCards account now dayStart).AsksOnly (·.Concerns account.id) := by
  -- The cards and what was charged to them are those of the account itself.
  unfold askCards
  refine Dialogue.asksOnly_demand (by exact rfl) ?_
  intro cards
  split
  · exact Dialogue.asksOnly_done _
  · split
    · exact Dialogue.asksOnly_done _
    · refine Dialogue.asksOnly_demand (by exact rfl) ?_
      intro used
      exact Dialogue.asksOnly_done _

/-- To find out whether an account may use a service, nothing is asked but what concerns it. -/
theorem asksOnly_ask (zone : Calendar.Zone) (account : Account) (now : Instant) :
    (ask zone account now).AsksOnly (·.Concerns account.id) := by
  unfold ask
  split
  · -- A disabled account is asked nothing about.
    exact Dialogue.asksOnly_done _
  · refine Dialogue.asksOnly_demand (by exact rfl) ?_
    intro bills
    -- What the bills come to decides what else is asked for.
    cases judgeBills bills now with
    | uncovered => exact asksOnly_askCards account now _
    | unlimited => exact Dialogue.asksOnly_done _
    | capped cap =>
      refine Dialogue.asksOnly_demand (by exact rfl) ?_
      intro used
      exact Dialogue.asksOnly_done _

/-- Asking whether an account may use a service is only reading. -/
theorem onlyReads_ask (zone : Calendar.Zone) (account : Account) (now : Instant) :
    (ask zone account now).OnlyReads :=
  (asksOnly_ask zone account now).mono fun _ concerns => concerns.isRead

variable {vault : Vault} {account : Account} {now : Instant}

/-- Asking about the cards of an account leads to the verdict in exact numbers. -/
theorem run_askCards (inOrder : vault.failing = false) {dayStart : Instant}
    (fits : Amount.Fits (exactUse vault.tables account.id dayStart .prepaid)) :
    (askCards account now dayStart).run Vault.answer vault =
      (.ok (cardVerdict (HoldsCard vault.tables account.id now) account.dailyMax.toInt
        (exactUse vault.tables account.id dayStart .prepaid)), vault) := by
  -- These are the two readings that may be made, and what a store in order answers.
  have listed : Vault.answer (.listCards account.id) vault =
      (.ok (vault.tables.cardsOf account.id), vault) := Vault.answer_of_isRead inOrder rfl
  have summed : Vault.answer (.sumUsage account.id dayStart .prepaid) vault =
      (.ok (vault.tables.usedSince account.id dayStart .prepaid), vault) :=
    Vault.answer_of_isRead inOrder rfl
  rw [askCards, Dialogue.run_demand_ok listed, cardVerdict]
  by_cases holds : HoldsCard vault.tables account.id now
  · have valid := (any_isValidAt_iff vault.tables account.id now).mpr holds
    rw [if_neg (by simp [valid]), if_neg (Classical.not_not.mpr holds), Account.prepaidCap?]
    -- A limit counts only if it is more than nothing.
    by_cases capped : 0 < account.dailyMax
    · -- The account has a limit, so what it used today is asked for.
      have bounded := Int64.lt_iff_toInt_lt.mp capped
      rw [Int64.toInt_zero] at bounded
      rw [if_pos capped, if_neg (Int.not_le.mpr bounded)]
      simp only [Dialogue.run_demand_ok summed, Dialogue.run_done, below_next_eq,
        toInt_usedSince fits]
    · have unbounded := Int64.le_iff_toInt_le.mp (Int64.not_lt.mp capped)
      rw [Int64.toInt_zero] at unbounded
      rw [if_neg capped, if_pos unbounded]
      rfl
  · -- No card can be paid from, and nothing more is asked.
    have invalid : ¬ (vault.tables.cardsOf account.id).any (·.isValidAt now) = true :=
      fun valid => holds ((any_isValidAt_iff vault.tables account.id now).mp valid)
    rw [if_pos (by simpa using invalid), if_pos holds]
    rfl

/-- Whatever the store keeps, asking it about an account leads to the verdict in exact numbers. -/
theorem run_ask_eq_exactVerdict (zone : Calendar.Zone) (inOrder : vault.failing = false)
    (allFits : Amount.Fits
      (exactUse vault.tables account.id (Calendar.dayStart zone now) .all))
    (prepaidFits : Amount.Fits
      (exactUse vault.tables account.id (Calendar.dayStart zone now) .prepaid))
    (room : exactUse vault.tables account.id (Calendar.dayStart zone now) .all <
      Int64.maxValue.toInt) :
    (ask zone account now).run Vault.answer vault =
      (.ok (exactVerdict zone vault.tables account now), vault) := by
  -- Bills and use are read from a store in order, and the cards as shown before.
  have listed : Vault.answer (.listBills account.id) vault =
      (.ok (vault.tables.billsOf account.id), vault) := Vault.answer_of_isRead inOrder rfl
  have summed : Vault.answer (.sumUsage account.id (Calendar.dayStart zone now) .all) vault =
      (.ok (vault.tables.usedSince account.id (Calendar.dayStart zone now) .all), vault) :=
    Vault.answer_of_isRead inOrder rfl
  have same := granting_billsOf vault.tables account.id now
  rw [ask, exactVerdict]
  by_cases disabled : account.disabled = true
  · -- A disabled account is turned down before anything is asked.
    rw [if_pos disabled, if_pos disabled]
    rfl
  rw [if_neg disabled, if_neg disabled]
  simp only [Dialogue.run_demand_ok listed]
  by_cases covered : grantingBills vault.tables account.id now = []
  · -- No bill grants anything, so the cards decide.
    rw [judgeBills_of_none (same.trans covered), if_neg (Classical.not_not.mpr covered)]
    exact run_askCards inOrder prepaidFits
  rw [if_pos covered, billVerdict]
  by_cases unlimited : ∃ bill ∈ grantingBills vault.tables account.id now, bill.daily.toInt ≤ 0
  · -- One bill has no limit for the day, so nothing else is asked.
    -- The bill that lifts the limits is one of those the store lists.
    obtain ⟨bill, member, unbounded⟩ := unlimited
    rw [judgeBills_of_unlimited (same.symm ▸ member) unbounded, if_pos ⟨bill, member, unbounded⟩]
    rfl
  · -- All bills have limits, against which everything used today counts.
    have limited : ∀ bill ∈ granting (vault.tables.billsOf account.id) now,
        0 < bill.daily.toInt := by
      intro bill member
      exact Int.not_le.mp fun unbounded => unlimited ⟨bill, same ▸ member, unbounded⟩
    have positive : ∀ limit ∈ (grantingBills vault.tables account.id now).map (·.daily),
        0 < limit.toInt := by
      rw [← same]
      simpa using limited
    -- What the store sums up is the exact sum, since that is an amount.
    have exactly := toInt_usedSince allFits
    rw [judgeBills_of_limited (same.symm ▸ covered) limited, if_neg unlimited, same]
    simp only [Dialogue.run_demand_ok summed, Dialogue.run_done,
      below_saturatingSum_eq positive (exactly.symm ▸ room), exactly]

/-- Two paid bills whose limits for the day add up to exactly what was used: the limit is reached,
and the redeemed card is not asked for. -/
theorem run_ask_at_reached_limit :
    let account : Account := ⟨⟨"a"⟩, false, 0⟩
    let bill : Bill := ⟨1, 300, true, "paid", 0, 20⟩
    let card : Card := ⟨5, true, some 1, none⟩
    let vault : Vault := ⟨{ Vault.Tables.empty with
      bills := [(account.id, bill), (account.id, bill)]
      cards := [(account.id, card)]
      usage := [⟨account.id, 600, .prepaid, false, 5⟩, ⟨account.id, 7, .bill, true, 5⟩] },
      false, false, false⟩
    vault.failing = false ∧
      Amount.Fits (exactUse vault.tables account.id (Calendar.dayStart .universal 10) .all) ∧
      Amount.Fits (exactUse vault.tables account.id (Calendar.dayStart .universal 10) .prepaid) ∧
      exactUse vault.tables account.id (Calendar.dayStart .universal 10) .all <
        Int64.maxValue.toInt ∧
      (ask .universal account 10).run Vault.answer vault =
        (.ok (.denied .dailyCapExceeded), vault) := by
  intro account bill card vault
  have allFits : Amount.Fits
      (exactUse vault.tables account.id (Calendar.dayStart .universal 10) .all) := by
    constructor <;> decide
  have prepaidFits : Amount.Fits
      (exactUse vault.tables account.id (Calendar.dayStart .universal 10) .prepaid) := by
    constructor <;> decide
  have room : exactUse vault.tables account.id (Calendar.dayStart .universal 10) .all <
      Int64.maxValue.toInt := by decide
  have verdict : exactVerdict .universal vault.tables account 10 = .denied .dailyCapExceeded := by
    decide
  -- Uses that failed do not count, and the limits are compared with the other ones.
  refine ⟨rfl, allFits, prepaidFits, room, ?_⟩
  exact verdict ▸ run_ask_eq_exactVerdict .universal rfl allFits prepaidFits room

end Tollgate.Entitlement
