import Tollgate.Proofs.Calendar.Day
import Tollgate.Vault.Basic

/-!
What has been used today. Two days or more away from all clock changes, the uses that count from the
start of the day on are those whose date is today's.
-/

namespace Tollgate

open Calendar

variable {zone : Zone} {now : Instant}

/-- Where the instants until now that come from the start of the day on are those of today, a use
until now counts from there on exactly if it is one of today. -/
theorem Use.counts_iff_of_today {start : Instant}
    (today : ∀ past ≤ now, zone.dateOf past = zone.dateOf now ↔ start ≤ past)
    (notAfter : start ≤ now) (use : Use) (account : AccountId) (scope : Scope) :
    use.counts account start scope = true ↔
      use.account = account ∧ use.failed = false ∧ scope.covers use.charge = true ∧
        (use.instant ≤ now → zone.dateOf use.instant = zone.dateOf now) := by
  -- A use after now counts in any case, and one until now goes by its date.
  have since : start ≤ use.instant ↔
      (use.instant ≤ now → zone.dateOf use.instant = zone.dateOf now) := by
    rcases Int.lt_or_le now use.instant with future | past
    · simp [Int.not_le.mpr future, Int.le_trans notAfter (Int.le_of_lt future)]
    · simp [past, today use.instant past]
  simp only [counts, Bool.and_eq_true, beq_iff_eq, decide_eq_true_eq, Bool.not_eq_true', since]
  -- Both sides ask for the same four things, the time among them.
  constructor
  · rintro ⟨⟨⟨own, recent⟩, worked⟩, inScope⟩
    exact ⟨own, worked, inScope, recent⟩
  · rintro ⟨own, worked, inScope, recent⟩
    exact ⟨⟨⟨own, recent⟩, worked⟩, inScope⟩

/-- Two days or more away from all clock changes, the day starts at its midnight, which is less than
a day ago, and of the uses until now those that have today's date are summed up. The months of the
two changes have to tell their order, unless saving is in force. -/
theorem Vault.Tables.usedSince_dayStart {text : String} (given : Zone.ofText? text = some zone)
    (orderly : zone.Orderly) (dates : zone.Dates now)
    (far : ∀ year, ∀ turn ∈ zone.turns year, turn.IsFar (now / secondMicros))
    (months : zone.MonthsApart (yearOf (zone.dateOf now)) ∨
      ∃ saving ∈ zone.saving, zone.offset now = saving.offset)
    (behind : yearStart firstYear * daySeconds ≤ zone.dateOf now * daySeconds - zone.offset now) :
    ((zone.localSecond (dayStart zone now) = zone.dateOf now * daySeconds ∧
        dayStart zone now % secondMicros = 0) ∧
      now - 24 * 3600 * secondMicros < dayStart zone now ∧ dayStart zone now ≤ now) ∧
      ∀ (tables : Vault.Tables) (account : AccountId) (scope : Scope),
        (∀ use ∈ tables.usage, use.instant ≤ now →
          (use.counts account (dayStart zone now) scope = true ↔
            use.account = account ∧ use.failed = false ∧ scope.covers use.charge = true ∧
              zone.dateOf use.instant = zone.dateOf now)) ∧
        tables.usedSince account (dayStart zone now) scope =
          ((tables.usage.filter fun use =>
            use.account = account ∧ use.failed = false ∧ scope.covers use.charge = true ∧
              (use.instant ≤ now → zone.dateOf use.instant = zone.dateOf now)).map
            (·.cost)).foldl (· + ·) 0 := by
  -- The start is the midnight from which on instants have the date of now.
  have real := Zone.isReal_of_ofText? given
  have starts := orderly.dayStart_of_far real dates far months behind
  have midnight := orderly.midnight_of_far real far starts
  have today (past : Instant) (until_ : past ≤ now) :
      -- Until now, to have the date of now is to be no earlier than its midnight.
      zone.dateOf past = zone.dateOf now ↔ dayStart zone now ≤ past := by
    rw [starts]
    exact orderly.dateOf_eq_iff real far until_
  have counted := Use.counts_iff_of_today today midnight.2.2
  refine ⟨midnight, fun tables account scope => ⟨fun use _ past => ?_, ?_⟩⟩
  · -- For a use until now the condition on its time is that of its date.
    simp [counted, past]
  · rw [Vault.Tables.usedSince]
    -- The sums are over the same uses, for each counts exactly if it is one of today.
    congr 3
    funext use
    rw [Bool.eq_iff_iff, counted, decide_eq_true_eq]

/-- Saving from March to November, five hours and then four behind universal time. -/
def marchToNovember : Zone :=
  ⟨-18000, some ⟨-14400, ⟨.counted 70, 7200⟩, ⟨.counted 310, 7200⟩⟩⟩

/-- Three days before a year ends, and before 1970 begins, all changes are far. Of two uses a
microsecond apart only the second one, made at midnight, is one of today. -/
theorem Vault.Tables.usedSince_dayStart_december :
    let account : AccountId := ⟨"a0"⟩
    let tables := (Vault.Tables.empty.addUse ⟨account, 3, .bill, false, -414000000001⟩).addUse
      ⟨account, 5, .bill, false, -414000000000⟩
    Zone.ofText? "XST5XDT,J70,J310" = some marchToNovember ∧
      (marchToNovember.localSecond (dayStart marchToNovember (-334800000000)) =
          marchToNovember.dateOf (-334800000000) * daySeconds ∧
        -334800000000 - 24 * 3600 * secondMicros < dayStart marchToNovember (-334800000000)) ∧
      tables.usedSince account (dayStart marchToNovember (-334800000000)) .all = 5 := by
  intro account tables
  -- The zone is read from its name, and its changes are months apart.
  have given : Zone.ofText? "XST5XDT,J70,J310" = some marchToNovember := by decide +kernel
  have orderly : marchToNovember.Orderly :=
    Zone.orderly_of_counted rfl rfl rfl (by decide) (by decide) (by decide)
  have far : ∀ year, ∀ turn ∈ marchToNovember.turns year,
      turn.IsFar (-334800000000 / secondMicros) :=
    orderly.isFar_of_year (Zone.isReal_of_ofText? given)
      (show yearStart 1969 * 86400 + 349200 ≤ _ ∧ _ from by decide) (by decide)
  -- Both dates are within the range, so that midnight can be looked up.
  have dates : marchToNovember.Dates (-334800000000) := ⟨by decide, by decide⟩
  obtain ⟨⟨⟨midnight, -⟩, recent, -⟩, summed⟩ := Vault.Tables.usedSince_dayStart given orderly dates
    far (.inl (by rintro saving ⟨⟩; decide)) (by decide)
  refine ⟨given, ⟨midnight, recent⟩, ((summed tables account .all).2).trans ?_⟩
  decide +kernel

/-- Saving from the sixtieth day of a year to the eightieth, both in March. -/
def withinMarch : Zone :=
  ⟨0, some ⟨3600, ⟨.counted 60, 7200⟩, ⟨.counted 80, 7200⟩⟩⟩

/-- In July of a year in which clocks are changed twice in March, the day is taken to start an hour
before midnight, and on the first instants that can be looked up, whose midnight cannot, at once. -/
theorem dayStart_not_midnight :
    (Zone.ofText? "XST0XDT,J60,J80" = some withinMarch ∧ withinMarch.Orderly ∧
      (∀ year, ∀ turn ∈ withinMarch.turns year, turn.IsFar (1688212800000000 / secondMicros)) ∧
      withinMarch.localSecond (dayStart withinMarch 1688212800000000) ≠
        withinMarch.dateOf 1688212800000000 * daySeconds) ∧
    Zone.ofText? "<+14>-14" = some ⟨50400, none⟩ ∧
      Zone.localSecond ⟨50400, none⟩ (dayStart ⟨50400, none⟩ (-8334601228800000000)) ≠
        Zone.dateOf ⟨50400, none⟩ (-8334601228800000000) * daySeconds := by
  -- That the other hypotheses hold shows that it is the months which matter here.
  have given : Zone.ofText? "XST0XDT,J60,J80" = some withinMarch := by decide +kernel
  have orderly : withinMarch.Orderly :=
    Zone.orderly_of_counted rfl rfl rfl (by decide) (by decide) (by decide)
  have far : ∀ year, ∀ turn ∈ withinMarch.turns year,
      turn.IsFar (1688212800000000 / secondMicros) :=
    orderly.isFar_of_year (Zone.isReal_of_ofText? given)
      (show yearStart 2023 * 86400 + 349200 ≤ _ ∧ _ from by decide) (by decide)
  exact ⟨⟨given, orderly, far, by decide⟩, by decide +kernel, by decide⟩

end Tollgate
