import Tollgate.Proofs.Funding.Entitlement

/-!
What is read to find out whether an account may use a service. A reading is made only if those
before it leave the verdict open, so that the failure of any other one is never noticed.
-/

namespace Tollgate

/-- The limit on what is charged to cards counts only if it is more than nothing. -/
theorem Account.prepaidCap?_eq (account : Account) :
    account.prepaidCap? = if 0 < account.dailyMax.toInt then some account.dailyMax else none := by
  -- The limit is tested as an amount, and counts as the number it stands for.
  simp only [Account.prepaidCap?, Int64.lt_iff_toInt_lt, Int64.toInt_zero]

namespace Entitlement

/-- The bills have limits for the day, or one of them lifts the limits of all others. -/
theorem limited_or_unlimited (bills : List Bill) :
    (∀ bill ∈ bills, 0 < bill.daily.toInt) ∨ ∃ bill ∈ bills, bill.daily.toInt ≤ 0 := by
  by_cases lifted : ∃ bill ∈ bills, bill.daily.toInt ≤ 0
  · exact Or.inr lifted
  · -- No bill lifts the limits, so every one has its own.
    refine Or.inl ?_
    intro bill member
    exact Int.not_le.mp fun unlimited => lifted ⟨bill, member, unlimited⟩

/-- Some bill grants something, and all bills that do have a limit for the day. -/
def IsLimited (bills : List Bill) (now : Instant) : Prop :=
  granting bills now ≠ [] ∧ ∀ bill ∈ granting bills now, 0 < bill.daily.toInt

/-- Some bill grants something without a limit for the day. -/
def IsUnlimited (bills : List Bill) (now : Instant) : Prop :=
  ∃ bill ∈ granting bills now, bill.daily.toInt ≤ 0

/-- The bills grant nothing, they lift all limits, or they set one. -/
theorem granting_cases (bills : List Bill) (now : Instant) :
    granting bills now = [] ∨ IsUnlimited bills now ∨ IsLimited bills now := by
  by_cases uncovered : granting bills now = []
  · exact Or.inl uncovered
  · -- The limits are asked of those bills only that grant something.
    rcases limited_or_unlimited (granting bills now) with limited | lifted
    · exact Or.inr (Or.inr ⟨uncovered, limited⟩)
    · exact Or.inr (Or.inl lifted)

/-- What is used of a service today is read in a scope by this call. -/
def useToday (zone : Calendar.Zone) (account : Account) (now : Instant) (scope : Scope) : Call :=
  .sumUsage account.id (Calendar.dayStart zone now) scope

section

variable {State : Type} (answerer : Answerer State) (zone : Calendar.Zone) (account : Account)
  (now : Instant) (state : State)

/-- The account is not disabled, and these are its bills. -/
def ReadsBills (bills : List Bill) (after : State) : Prop :=
  account.disabled = false ∧ answerer (.listBills account.id) state = (.ok bills, after)

/-- No bill grants the account anything, and these are its cards. -/
def ReadsCards (cards : List Card) (after : State) : Prop :=
  ∃ bills between, ReadsBills answerer account state bills between ∧ granting bills now = [] ∧
    answerer (.listCards account.id) between = (.ok cards, after)

/-- A course that the inquiry into an account may take: what it comes to, the readings it makes, and
how they leave the store. -/
inductive Inquiry : Except Outage Entitlement → List Call → State → Prop
  /-- The account is disabled, and nothing is read. -/
  | disabled (disabled : account.disabled = true) :
      Inquiry (.ok (.denied .insufficientBalance)) [] state
  /-- The bills cannot be read. -/
  | billsUnread {outage : Outage} {after : State} (enabled : account.disabled = false)
      (failed : answerer (.listBills account.id) state = (.error outage, after)) :
      Inquiry (.error outage) [.listBills account.id] after
  /-- A bill without a limit for the day leaves nothing to be read. -/
  | unlimited {bills : List Bill} {after : State}
      (billed : ReadsBills answerer account state bills after) (lifted : IsUnlimited bills now) :
      Inquiry (.ok .granted) [.listBills account.id] after
  /-- The bills have a limit, and what was used today cannot be read. -/
  | useUnread {bills : List Bill} {between after : State} {outage : Outage}
      (billed : ReadsBills answerer account state bills between) (limited : IsLimited bills now)
      (failed : answerer (useToday zone account now .all) between = (.error outage, after)) :
      Inquiry (.error outage) [.listBills account.id, useToday zone account now .all] after
  /-- The bills have a limit, with which the use of today is compared. -/
  | useRead {bills : List Bill} {between after : State} {used : Amount}
      (billed : ReadsBills answerer account state bills between) (limited : IsLimited bills now)
      (summed : answerer (useToday zone account now .all) between = (.ok used, after)) :
      Inquiry (.ok (below used (Amount.saturatingSum ((granting bills now).map (·.daily)))))
        [.listBills account.id, useToday zone account now .all] after
  /-- No bill grants anything, and the cards cannot be read. -/
  | cardsUnread {bills : List Bill} {between after : State} {outage : Outage}
      (billed : ReadsBills answerer account state bills between)
      (uncovered : granting bills now = [])
      (failed : answerer (.listCards account.id) between = (.error outage, after)) :
      Inquiry (.error outage) [.listBills account.id, .listCards account.id] after
  /-- No card can be paid from either. -/
  | cardless {cards : List Card} {after : State}
      (carded : ReadsCards answerer account now state cards after)
      (invalid : ¬ ∃ card ∈ cards, card.isValidAt now = true) :
      Inquiry (.ok (.denied .insufficientBalance))
        [.listBills account.id, .listCards account.id] after
  /-- A card can be paid from, and the account has no limit for what is charged to cards. -/
  | uncapped {cards : List Card} {after : State}
      (carded : ReadsCards answerer account now state cards after)
      (valid : ∃ card ∈ cards, card.isValidAt now = true) (uncapped : account.dailyMax.toInt ≤ 0) :
      Inquiry (.ok .granted) [.listBills account.id, .listCards account.id] after
  /-- The account has such a limit, and what was charged today cannot be read. -/
  | chargesUnread {cards : List Card} {between after : State} {outage : Outage}
      (carded : ReadsCards answerer account now state cards between)
      (valid : ∃ card ∈ cards, card.isValidAt now = true) (capped : 0 < account.dailyMax.toInt)
      (failed : answerer (useToday zone account now .prepaid) between = (.error outage, after)) :
      Inquiry (.error outage)
        [.listBills account.id, .listCards account.id, useToday zone account now .prepaid] after
  /-- The account has such a limit, with which the charges of today are compared. -/
  | chargesRead {cards : List Card} {between after : State} {used : Amount}
      (carded : ReadsCards answerer account now state cards between)
      (valid : ∃ card ∈ cards, card.isValidAt now = true) (capped : 0 < account.dailyMax.toInt)
      (summed : answerer (useToday zone account now .prepaid) between = (.ok used, after)) :
      Inquiry (.ok (below (Amount.saturatingAdd used leastUse) account.dailyMax))
        [.listBills account.id, .listCards account.id, useToday zone account now .prepaid] after

end

variable {State : Type} {answerer : Answerer State} {zone : Calendar.Zone} {account : Account}
  {now : Instant}

/-- What the bills come to decides how the inquiry goes on. -/
def afterBills (zone : Calendar.Zone) (account : Account) (now : Instant) :
    BillVerdict → Dialogue (Except Outage Entitlement)
  | .uncovered => askCards account now (Calendar.dayStart zone now)
  | .unlimited => .done (.ok .granted)
  | .capped cap =>
    .demand (useToday zone account now .all) .error fun used => .done (.ok (below used cap))

/-- The bills of an account that is not disabled are read first. -/
theorem ask_eq (enabled : account.disabled = false) :
    ask zone account now =
      .demand (.listBills account.id) .error fun bills =>
        afterBills zone account now (judgeBills bills now) := by
  -- Either side goes on by the same three cases.
  simp only [ask, enabled, Bool.false_eq_true, if_false]
  congr 1

/-- Once the bills have been read, the inquiry goes on as they decide. -/
theorem leads_ask_bills {state between after : State} {bills : List Bill} {verdict : BillVerdict}
    {result : Except Outage Entitlement} {made : List Call}
    (billed : ReadsBills answerer account state bills between)
    (judged : judgeBills bills now = verdict)
    (rest : (afterBills zone account now verdict).Leads answerer between result made after) :
    (ask zone account now).Leads answerer state result (.listBills account.id :: made) after := by
  -- The first call is that for the bills, and its answer chooses the rest.
  obtain ⟨enabled, listed⟩ := billed
  rw [ask_eq enabled]
  apply Dialogue.leads_demand_ok listed
  rw [judged]
  exact rest

/-- What follows once the cards have been read. -/
def afterCards (zone : Calendar.Zone) (account : Account) (now : Instant) (cards : List Card) :
    Dialogue (Except Outage Entitlement) :=
  if ∃ card ∈ cards, card.isValidAt now = true then
    if 0 < account.dailyMax.toInt then
      .demand (useToday zone account now .prepaid) .error fun used =>
        .done (.ok (below (Amount.saturatingAdd used leastUse) account.dailyMax))
    else .done (.ok .granted)
  else .done (.ok (.denied .insufficientBalance))

/-- The cards of an account are read before what was charged to them. -/
theorem askCards_eq (zone : Calendar.Zone) (account : Account) (now : Instant) :
    askCards account now (Calendar.dayStart zone now) =
      .demand (.listCards account.id) .error (afterCards zone account now) := by
  -- Either side asks the same of the cards, in the other order.
  unfold askCards
  congr 1
  funext cards
  rw [afterCards, Account.prepaidCap?_eq]
  by_cases valid : ∃ card ∈ cards, card.isValidAt now = true
  · have found : cards.any (·.isValidAt now) = true := List.any_eq_true.mpr valid
    rw [if_neg (by simp [found]), if_pos valid]
    -- Where nothing is left above nothing, the account has no limit.
    by_cases capped : 0 < account.dailyMax.toInt
    · simp only [if_pos capped]
      rfl
    · simp only [if_neg capped]
  · -- Without a card to pay from, the limit of the account is not looked at.
    have missed : ¬ cards.any (·.isValidAt now) = true := mt List.any_eq_true.mp valid
    rw [if_pos (by simpa using missed), if_neg valid]

/-- Where no bill grants anything, the inquiry goes on as the cards decide. -/
theorem leads_ask_cards {state between after : State} {cards : List Card}
    {result : Except Outage Entitlement} {made : List Call}
    (carded : ReadsCards answerer account now state cards between)
    (rest : (afterCards zone account now cards).Leads answerer between result made after) :
    (ask zone account now).Leads answerer state result
      (.listBills account.id :: .listCards account.id :: made) after := by
  -- The bills come to nothing, so the next call is that for the cards.
  obtain ⟨bills, middle, billed, uncovered, listed⟩ := carded
  apply leads_ask_bills billed (judgeBills_of_none uncovered)
  rw [afterBills, askCards_eq]
  exact Dialogue.leads_demand_ok listed rest

/-- Every course is the one that the dialogue takes. -/
theorem Inquiry.leads {state after : State} {result : Except Outage Entitlement}
    {made : List Call} (taken : Inquiry answerer zone account now state result made after) :
    (ask zone account now).Leads answerer state result made after := by
  -- Each course is followed reading by reading up to the one that decides.
  cases taken with
  | disabled disabled =>
    rw [ask, if_pos disabled]
    exact Dialogue.leads_done _ _
  -- The failure ends the inquiry at once.
  | billsUnread enabled failed =>
    rw [ask_eq enabled]
    exact Dialogue.leads_demand_error failed
  | unlimited billed lifted =>
    obtain ⟨bill, member, unbounded⟩ := lifted
    apply leads_ask_bills billed (judgeBills_of_unlimited member unbounded)
    exact Dialogue.leads_done _ _
  | useUnread billed limited failed =>
    apply leads_ask_bills billed (judgeBills_of_limited limited.1 limited.2)
    exact Dialogue.leads_demand_error failed
  | useRead billed limited summed =>
    apply leads_ask_bills billed (judgeBills_of_limited limited.1 limited.2)
    -- What is read is compared with the summed limits, and that is all.
    exact Dialogue.leads_demand_ok summed (Dialogue.leads_done _ _)
  | cardsUnread billed uncovered failed =>
    apply leads_ask_bills billed (judgeBills_of_none uncovered)
    rw [afterBills, askCards_eq]
    exact Dialogue.leads_demand_error failed
  | cardless carded invalid =>
    apply leads_ask_cards carded
    rw [afterCards, if_neg invalid]
    exact Dialogue.leads_done _ _
  -- No limit is left to compare anything with.
  | uncapped carded valid uncapped =>
    apply leads_ask_cards carded
    rw [afterCards, if_pos valid, if_neg (Int.not_lt.mpr uncapped)]
    exact Dialogue.leads_done _ _
  | chargesUnread carded valid capped failed =>
    apply leads_ask_cards carded
    rw [afterCards, if_pos valid, if_pos capped]
    exact Dialogue.leads_demand_error failed
  -- The last course is the longest one: bills, cards, and then what was charged.
  | chargesRead carded valid capped summed =>
    apply leads_ask_cards carded
    rw [afterCards, if_pos valid, if_pos capped]
    exact Dialogue.leads_demand_ok summed (Dialogue.leads_done _ _)

/-- Cards that have been read leave a course to take. -/
theorem exists_inquiry_of_cards {state between : State} {cards : List Card}
    (carded : ReadsCards answerer account now state cards between) :
    ∃ result made after, Inquiry answerer zone account now state result made after := by
  -- Without a card to pay from, or without a limit, no more is read.
  by_cases valid : ∃ card ∈ cards, card.isValidAt now = true
  · -- Only a card to pay from makes the limit matter.
    by_cases capped : 0 < account.dailyMax.toInt
    · rcases asked : answerer (useToday zone account now .prepaid) between with
        ⟨outage | used, after⟩
      · exact ⟨_, _, _, .chargesUnread carded valid capped asked⟩
      · exact ⟨_, _, _, .chargesRead carded valid capped asked⟩
    · exact ⟨_, _, _, .uncapped carded valid (Int.not_lt.mp capped)⟩
  · exact ⟨_, _, _, .cardless carded valid⟩

/-- Bills that have been read leave a course to take. -/
theorem exists_inquiry_of_bills {state between : State} {bills : List Bill}
    (billed : ReadsBills answerer account state bills between) :
    ∃ result made after, Inquiry answerer zone account now state result made after := by
  -- The bills send the inquiry to the cards, end it, or ask for the use of today.
  rcases granting_cases bills now with uncovered | lifted | limited
  · rcases asked : answerer (.listCards account.id) between with ⟨outage | cards, after⟩
    · exact ⟨_, _, _, .cardsUnread billed uncovered asked⟩
    · exact exists_inquiry_of_cards ⟨bills, between, billed, uncovered, asked⟩
  · exact ⟨_, _, _, .unlimited billed lifted⟩
  · rcases asked : answerer (useToday zone account now .all) between with ⟨outage | used, after⟩
    · exact ⟨_, _, _, .useUnread billed limited asked⟩
    · exact ⟨_, _, _, .useRead billed limited asked⟩

/-- There is a course for every account. -/
theorem exists_inquiry (answerer : Answerer State) (zone : Calendar.Zone) (account : Account)
    (now : Instant) (state : State) :
    ∃ result made after, Inquiry answerer zone account now state result made after := by
  -- A disabled account needs no store.
  cases disabled : account.disabled with
  | true => exact ⟨_, _, _, .disabled disabled⟩
  | false =>
    rcases asked : answerer (.listBills account.id) state with ⟨outage | bills, after⟩
    · exact ⟨_, _, _, .billsUnread disabled asked⟩
    · exact exists_inquiry_of_bills ⟨disabled, asked⟩

/-- The courses are those the dialogue takes, and no others. -/
theorem inquiry_iff_leads {state after : State} {result : Except Outage Entitlement}
    {made : List Call} :
    Inquiry answerer zone account now state result made after ↔
      (ask zone account now).Leads answerer state result made after := by
  constructor
  · -- One way this has just been shown course by course.
    exact Inquiry.leads
  · -- There is a course, and the dialogue leads to one end only.
    intro led
    obtain ⟨found, noted, other, taken⟩ := exists_inquiry answerer zone account now state
    obtain ⟨rfl, rfl, rfl⟩ := Dialogue.leads_unique led taken.leads
    exact taken

/-- Whatever the store does, only what decides is read: nothing for a disabled account, otherwise
the bills first; behind bills with limits what was used today, behind bills that grant nothing the
cards, and what was charged to them only if one can be paid from and the account has a limit. The
inquiry fails exactly with the first of these readings to fail, which is the last one made, and
whatever else the store may answer or fail to answer makes no difference. -/
theorem ask_reads_what_decides (answerer : Answerer State) (zone : Calendar.Zone)
    (account : Account) (now : Instant) (state : State) :
    (∀ result made after, (ask zone account now).Leads answerer state result made after ↔
      Inquiry answerer zone account now state result made after) ∧
    (∀ outage after, (ask zone account now).run answerer state = (.error outage, after) ↔
      ∃ answered failing, (ask zone account now).calls answerer state = answered ++ [failing] ∧
        (ask zone account now).FailsAt answerer state failing outage after) ∧
    ∀ other : Answerer State,
      (∀ call ∈ (ask zone account now).calls answerer state,
        ∀ met, other call met = answerer call met) →
      (ask zone account now).run other state = (ask zone account now).run answerer state ∧
        (ask zone account now).calls other state = (ask zone account now).calls answerer state := by
  refine ⟨fun _ _ _ => inquiry_iff_leads.symm, ?_, ?_⟩
  · intro outage after
    have passes := passesOn_ask zone account now
    rw [Dialogue.run_eq_error_iff passes]
    constructor
    · -- The first reading to fail ends the inquiry, so it is the last one.
      intro failed
      obtain ⟨failing, fails⟩ := failed
      obtain ⟨answered, listed⟩ := fails.calls_eq passes
      exact ⟨answered, failing, listed, fails⟩
    · intro failed
      obtain ⟨answered, failing, -, fails⟩ := failed
      exact ⟨failing, fails⟩
  · -- Only the readings that are made are put to the other store.
    intro other agree
    exact Dialogue.leads_congr (Dialogue.leads_self answerer (ask zone account now) state) agree

/-- The bill has run out, so a card pays, with a limit for the day: what was used in all is not
read, and it makes no difference whether it can be. -/
theorem ask_reads_what_decides_prepaid :
    let account : Account := ⟨⟨"a"⟩, false, 10⟩
    let bill : Bill := ⟨0, 5, true, "paid", 0, 20⟩
    let card : Card := ⟨5, true, some 1, none⟩
    let reading (used : Except Outage Amount) : Answerer Unit := fun call _ =>
      match call with
      | .listBills _ => (.ok [bill], ())
      | .listCards _ => (.ok [card], ())
      | .sumUsage _ _ .prepaid => (.ok 8, ())
      | .sumUsage _ _ .all => (used, ())
      | _ => (.error Vault.unresponsive, ())
    let made : List Call := [.listBills account.id, .listCards account.id,
      .sumUsage account.id (Calendar.dayStart .universal 10) .prepaid]
    (∀ call ∈ made, ∀ met, reading (.ok 1000) call met =
        reading (.error Vault.unresponsive) call met) ∧
      (ask .universal account 10).Leads (reading (.error Vault.unresponsive)) () (.ok .granted) made
        () ∧
      (ask .universal account 10).run (reading (.ok 1000)) () = (.ok .granted, ()) := by
  intro account bill card reading made
  have agree : ∀ call ∈ made, ∀ met,
      reading (.ok 1000) call met = reading (.error Vault.unresponsive) call met := by
    intro call member met
    -- The readings that are made are these three and no others.
    simp only [made, List.mem_cons, List.not_mem_nil, or_false] at member
    -- None of the three readings is the one in which the stores differ.
    rcases member with rfl | rfl | rfl <;> rfl
  have billed : ReadsBills (reading (.error Vault.unresponsive)) account () [bill] () := ⟨rfl, rfl⟩
  have uncovered : granting [bill] 10 = [] := by decide
  have taken : Inquiry (reading (.error Vault.unresponsive)) .universal account 10 ()
      (.ok .granted) made () :=
    -- No bill is left to grant anything, one card is there, and the account has a limit.
    .chargesRead ⟨[bill], (), billed, uncovered, rfl⟩ ⟨card, List.mem_cons_self, by decide⟩
      (by decide) rfl
  obtain ⟨courses, -, unaware⟩ := ask_reads_what_decides (reading (.error Vault.unresponsive))
    .universal account 10 ()
  have led := (courses _ _ _).mpr taken
  refine ⟨agree, led, ?_⟩
  have same := (unaware (reading (.ok 1000)) (led.2.symm ▸ agree)).1
  exact same.trans led.1

end Entitlement

end Tollgate
