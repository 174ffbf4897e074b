import Tollgate.Funding.Entitlement
import Tollgate.Proofs.Funding.Amount

/-!
What the bills of an account come to. Only three of the ways to judge them can be taken: no bill
grants anything, one of those that do has no limit for the day, or their limits are summed. Sums
that are cut off at the greatest amount do not lead into the fourth.
-/

namespace Tollgate

/-- What it takes for a bill to grant something. -/
theorem Bill.qualifiesAt_iff {bill : Bill} {now : Instant} :
    bill.qualifiesAt now = true ↔
      bill.enabled = true ∧ bill.status = "paid" ∧ bill.start ≤ now ∧ now ≤ bill.finish ∧
        0 < bill.remaining.toInt := by
  -- Amounts are compared as integers, since the sums are to be judged as such.
  simp only [qualifiesAt, paidStatus, Bool.and_eq_true, beq_iff_eq, decide_eq_true_eq,
    Int64.lt_iff_toInt_lt, Int64.toInt_zero, and_assoc]

/-- A bill that has no limit for the day. -/
theorem Bill.hasUnlimitedDay_iff {bill : Bill} :
    bill.hasUnlimitedDay = true ↔ bill.daily.toInt ≤ 0 := by
  simp only [hasUnlimitedDay, decide_eq_true_eq, Int64.le_iff_toInt_le, Int64.toInt_zero]

namespace Entitlement

/-- The bills that grant something at an instant. -/
def granting (bills : List Bill) (now : Instant) : List Bill :=
  bills.filter (·.qualifiesAt now)

/-- Positive amounts on bills come to more than nothing exactly if there is a bill, however much of
the sum is cut off. -/
theorem saturatingSum_map_pos_iff {bills : List Bill} {amountOf : Bill → Amount}
    (positive : ∀ bill ∈ bills, 0 < (amountOf bill).toInt) :
    0 < Amount.saturatingSum (bills.map amountOf) ↔ bills ≠ [] := by
  -- The sum is positive if there is anything to add, since nothing added is negative.
  rw [Amount.saturatingSum_pos_iff]
  · simp
  · intro amount member
    obtain ⟨bill, inside, rfl⟩ := List.mem_map.mp member
    exact positive bill inside

/-- What is left on bills each of which grants something at some instant comes to more than nothing
exactly if there is a bill. -/
theorem saturatingSum_remaining_pos_iff {bills : List Bill}
    (qualify : ∀ bill ∈ bills, ∃ now, bill.qualifiesAt now = true) :
    0 < Amount.saturatingSum (bills.map (·.remaining)) ↔ bills ≠ [] := by
  -- A bill on which nothing is left does not grant anything.
  apply saturatingSum_map_pos_iff
  intro bill member
  obtain ⟨now, qualifies⟩ := qualify bill member
  obtain ⟨-, -, -, -, left⟩ := Bill.qualifiesAt_iff.mp qualifies
  exact left

/-- What is left on the bills that grant something at an instant comes to more than nothing exactly
if there is such a bill. -/
theorem remaining_pos_iff (bills : List Bill) (now : Instant) :
    0 < Amount.saturatingSum ((granting bills now).map (·.remaining)) ↔
      granting bills now ≠ [] :=
  saturatingSum_remaining_pos_iff fun _ member => ⟨now, (List.mem_filter.mp member).2⟩

/-- Where no bill grants anything, the bills do not cover the account. -/
theorem judgeBills_of_none {bills : List Bill} {now : Instant} (absent : granting bills now = []) :
    judgeBills bills now = .uncovered := by
  -- The bills that count are those left by the filter, and there are none.
  have nothing : bills.filter (·.qualifiesAt now) = [] := absent
  simp [judgeBills, nothing, Amount.saturatingSum]

/-- Some bill that grants something is past the first question. -/
theorem judgeBills_of_some {bills : List Bill} {now : Instant} (present : granting bills now ≠ []) :
    judgeBills bills now =
      if (granting bills now).any (·.hasUnlimitedDay) then .unlimited
      else if Amount.saturatingSum ((granting bills now).map (·.daily)) ≤ 0 then .unlimited
      else .capped (Amount.saturatingSum ((granting bills now).map (·.daily))) := by
  -- Something is left on the bills that count, so the account is covered.
  have covered := (remaining_pos_iff bills now).mpr present
  rw [← Int64.not_le] at covered
  exact if_neg covered

/-- One bill without a limit for the day lifts the limits of all others. -/
theorem judgeBills_of_unlimited {bills : List Bill} {now : Instant} {bill : Bill}
    (member : bill ∈ granting bills now) (unlimited : bill.daily.toInt ≤ 0) :
    judgeBills bills now = .unlimited := by
  have lifted : (granting bills now).any (·.hasUnlimitedDay) = true :=
    -- The bill that is given shows that there is one without a limit.
    List.any_eq_true.mpr ⟨bill, member, Bill.hasUnlimitedDay_iff.mpr unlimited⟩
  rw [judgeBills_of_some (List.ne_nil_of_mem member), if_pos lifted]

/-- Limits for the day are summed if every bill that grants something has one. -/
theorem judgeBills_of_limited {bills : List Bill} {now : Instant} (present : granting bills now ≠ [])
    (limited : ∀ bill ∈ granting bills now, 0 < bill.daily.toInt) :
    judgeBills bills now =
      .capped (Amount.saturatingSum ((granting bills now).map (·.daily))) := by
  -- No bill lifts the limit, for each has one that is more than nothing.
  have kept : ¬ (granting bills now).any (·.hasUnlimitedDay) = true := by
    intro lifted
    obtain ⟨bill, member, unlimited⟩ := List.any_eq_true.mp lifted
    have bounded := limited bill member
    have unbounded := Bill.hasUnlimitedDay_iff.mp unlimited
    omega
  -- Positive limits cannot add up to nothing, so the third question is never answered by yes.
  have positive := (saturatingSum_map_pos_iff limited).mpr present
  rw [← Int64.not_le] at positive
  rw [judgeBills_of_some present, if_neg kept, if_neg positive]

/-- Cutting sums off is safe for bills that grant something. What is left on them comes to more than
nothing exactly if there is such a bill. If each of them has a limit for the day, the limits come to
their exact sum, up to the greatest amount, in whichever order they are added; that is more than
nothing, and so it is the limit under which the account is put. -/
theorem bill_sums_lift_no_limit (bills : List Bill)
    (qualify : ∀ bill ∈ bills, ∃ now, bill.qualifiesAt now = true) :
    (0 < Amount.saturatingSum (bills.map (·.remaining)) ↔ bills ≠ []) ∧
    ((∀ bill ∈ bills, bill.hasUnlimitedDay = false) → bills ≠ [] →
      (Amount.saturatingSum (bills.map (·.daily))).toInt =
          min (Amount.exactSum (bills.map (·.daily))) Int64.maxValue.toInt ∧
        (∀ other : List Bill, other.Perm bills →
          Amount.saturatingSum (other.map (·.daily)) =
            Amount.saturatingSum (bills.map (·.daily))) ∧
        0 < Amount.saturatingSum (bills.map (·.daily)) ∧
        ∀ stored now, granting stored now = bills →
          judgeBills stored now = .capped (Amount.saturatingSum (bills.map (·.daily)))) := by
  refine ⟨saturatingSum_remaining_pos_iff qualify, ?_⟩
  intro limited present
  -- Not to be without a limit is to have one that is more than nothing.
  have bounded : ∀ bill ∈ bills, 0 < bill.daily.toInt := by
    intro bill member
    have kept : ¬ bill.hasUnlimitedDay = true := by simp [limited bill member]
    exact Int.not_le.mp (mt Bill.hasUnlimitedDay_iff.mpr kept)
  -- The laws of cut-off sums are about amounts that are not negative.
  have nonneg : ∀ limit ∈ bills.map (·.daily), 0 ≤ limit.toInt := by
    intro limit member
    obtain ⟨bill, inside, rfl⟩ := List.mem_map.mp member
    exact Int.le_of_lt (bounded bill inside)
  refine ⟨Amount.toInt_saturatingSum nonneg, ?_, (saturatingSum_map_pos_iff bounded).mpr present, ?_⟩
  · intro other same
    exact (Amount.saturatingSum_perm nonneg (same.symm.map _)).symm
  · -- Among all bills that are stored, these are the ones that count.
    rintro stored now rfl
    exact judgeBills_of_limited present bounded

/-- Two limits that exceed the greatest amount together, one of them by itself the greatest, and a
third bill that has run out: the account is put under the greatest amount. -/
theorem bill_sums_lift_no_limit_overflow :
    let bills : List Bill := [⟨1, Int64.maxValue, true, "paid", 0, 20⟩,
      ⟨Int64.maxValue, 5, true, "paid", 0, 20⟩]
    let stored : List Bill := ⟨0, 7, true, "paid", 0, 20⟩ :: bills
    (∀ bill ∈ bills, ∃ now, bill.qualifiesAt now = true) ∧
      (∀ bill ∈ bills, bill.hasUnlimitedDay = false) ∧ bills ≠ [] ∧
      granting stored 10 = bills ∧
      0 < Amount.saturatingSum (bills.map (·.remaining)) ∧
      Amount.saturatingSum (bills.reverse.map (·.daily)) =
        Amount.saturatingSum (bills.map (·.daily)) ∧
      judgeBills stored 10 = .capped Int64.maxValue := by
  intro bills stored
  have qualify : ∀ bill ∈ bills, ∃ now, bill.qualifiesAt now = true := by
    intro bill member
    exact ⟨10, (by decide : ∀ bill ∈ bills, bill.qualifiesAt 10 = true) bill member⟩
  have limited : ∀ bill ∈ bills, bill.hasUnlimitedDay = false := by decide
  have present : bills ≠ [] := by decide
  have count : granting stored 10 = bills := by decide
  obtain ⟨covered, sums⟩ := bill_sums_lift_no_limit bills qualify
  obtain ⟨exactly, ordered, -, judged⟩ := sums limited present
  -- One more than the greatest amount is cut off to the greatest.
  have greatest : Amount.saturatingSum (bills.map (·.daily)) = Int64.maxValue := by
    apply Int64.toInt_inj.mp
    rw [exactly]
    decide
  refine ⟨qualify, limited, present, count, covered.mpr present, ordered _ bills.reverse_perm, ?_⟩
  rw [judged stored 10 count, greatest]

end Entitlement

end Tollgate
