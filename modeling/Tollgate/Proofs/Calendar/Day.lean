import Tollgate.Proofs.Calendar.Turn

/-!
The start of the day. It is found by way of two lookups, of which the one for instants goes by the
year of universal time and the one for local times by the year that clocks show. Where both agree on
which changes matter, a day that the changes spare starts at its midnight, or an hour later if
clocks skip it, and two days or more away from all changes it starts at midnight in any case.
-/

namespace Tollgate.Calendar

/-- Seconds are covered from the first day of the first year to the last day of the last one. -/
theorem isCovered_iff (second : Int) :
    isCovered second = true ↔
      yearStart firstYear * 86400 ≤ second ∧ second < yearStart (lastYear + 1) * 86400 := by
  simp only [isCovered, Bool.and_eq_true, decide_eq_true_eq]
  exact Iff.rfl

/-- A local time that is shown by no other offsets than clocks can be set to, at moments that can be
looked up, stands for the last of these moments. -/
theorem Showing.second?_eq {showing : Showing} {localSecond : Int}
    (found : ∀ offset ∈ showing.offsets,
      isClockOffset offset = true ∧ isCovered (localSecond - offset) = true) :
    showing.second? localSecond = showing.offsets.getLast?.map (localSecond - ·) := by
  -- Each offset in question turns the local time into a moment that can be looked up.
  have under {offset : Int} (shown : offset ∈ showing.offsets) :
      secondUnder? localSecond offset = some (localSecond - offset) := by
    obtain ⟨clock, covered⟩ := found offset shown
    simp [secondUnder?, clock, covered]
  -- At most two offsets are looked up, and the last of them counts.
  cases showing with
  | never => rfl
  | once offset => exact under (by simp [offsets])
  | twice first second =>
    rw [second?, under (by simp [offsets]), under (by simp [offsets])]
    rfl

section

variable {zone : Zone} {cycle : Cycle} {now : Instant}

/-- Clocks show the times of a day as the cycle of their zone says. -/
theorem Zone.Follows.shows (follows : zone.Follows cycle) {day localSecond : Int}
    (months : zone.MonthsApart (yearOf day)) (within : localSecond / daySeconds = day) :
    cycle.Shows (yearOf day) localSecond (zone.showing localSecond) := by
  -- The date names the year that the lookup goes by.
  subst within
  rw [follows.showing localSecond months]
  exact cycle.shows_showing localSecond

/-- The midnight that begins a date belongs to it. -/
theorem Zone.dateOf_midnight (zone : Zone) (now : Instant) :
    zone.dateOf now * daySeconds / daySeconds = zone.dateOf now := by
  simp only [daySeconds]
  omega

/-- What clocks show at an instant is a time of its date. -/
theorem Zone.dateOf_within (zone : Zone) (now : Instant) :
    zone.dateOf now * 86400 ≤ zone.localSecond now ∧
      zone.localSecond now < zone.dateOf now * 86400 + 86400 := by
  simp only [dateOf, daySeconds]
  omega

/-- Where the turns near an instant stay in their years, those of the year of its date tell by which
offset it is shown. -/
theorem Zone.Follows.dated (follows : zone.Follows cycle) (sound : cycle.Sound)
    (settled : ∀ year, ∀ turn ∈ zone.turns year,
      turn.IsFar (now / secondMicros) ∨ turn.StaysIn year) :
    cycle.Dated (yearOf (zone.dateOf now)) (zone.dateOf now * daySeconds) (now / secondMicros)
      (zone.offset now) := by
  -- The local time lies in the year of the date, and that is what the offset is told by.
  have sameDay := zone.dateOf_within now
  have lower := yearStart_yearOf_le (zone.dateOf now)
  have upper := lt_yearStart_yearOf (zone.dateOf now)
  have shown : yearStart (yearOf (zone.dateOf now)) * 86400 ≤ zone.localSecond now ∧
      zone.localSecond now < yearStart (yearOf (zone.dateOf now) + 1) * 86400 := by omega
  -- The offset of the moment is that of the period it lies in.
  have inner : cycle.IsInner (now / secondMicros) → zone.offset now = cycle.inner :=
    follows.inner _
  have outer : ¬ cycle.IsInner (now / secondMicros) → zone.offset now = cycle.outer :=
    follows.outer _
  have told := sound.isInner_iff_of_settled inner shown fun year turn member =>
    settled year turn (follows.turns year turn member)
  rw [told] at inner outer
  exact ⟨inner, outer, sameDay⟩

/-- Whatever is asked, clocks show times by offsets that they can be set to. -/
theorem Zone.Orderly.isClockOffset_of_shown (orderly : zone.Orderly) (real : zone.IsReal)
    {localSecond offset : Int} (shown : offset ∈ (zone.showing localSecond).offsets) :
    isClockOffset offset = true := by
  -- Both offsets are such, and no other one occurs.
  have standard := real.standard
  have other := orderly.offset
  cases found : zone.saving with
  | none =>
    simp only [showing, found, Showing.offsets, List.mem_singleton] at shown
    rwa [shown]
  | some saving =>
    have either : offset = zone.standard ∨ offset = saving.offset := by
      simp only [showing, found] at shown
      -- Each branch of the lookup names only these two offsets.
      repeat' split at shown
      all_goals simp_all [Showing.offsets, or_comm]
    rcases either with rfl | rfl
    · exact standard
    · exact other saving found

/-- If the turns near an instant stay in their years and leave the day in order, its midnight, or
the hour behind if clocks skip midnight, leads the instant. -/
theorem Zone.Orderly.leads (orderly : zone.Orderly) (real : zone.IsReal)
    (months : zone.MonthsApart (yearOf (zone.dateOf now)))
    (spared : ∀ year, ∀ turn ∈ zone.turns year, turn.IsFar (now / secondMicros) ∨
      turn.StaysIn year ∧ turn.Spares (zone.dateOf now * daySeconds)) :
    (zone.showing (zone.dateOf now * daySeconds)).Leads (zone.dateOf now * daySeconds)
        (now / secondMicros) ∧
      (zone.showing (zone.dateOf now * daySeconds) = .never →
        (zone.showing (zone.dateOf now * daySeconds + 3600)).Leads
          (zone.dateOf now * daySeconds + 3600) (now / secondMicros)) := by
  cases found : zone.saving with
  | none =>
    -- There is one offset throughout.
    have offset : zone.offset now = zone.standard := by simp only [Zone.offset, offsetAt, found]
    simp only [showing, found]
    refine ⟨.once ?_, fun skipped => Showing.noConfusion skipped⟩
    simp only [dateOf, localSecond, offset, daySeconds]
    omega
  | some saving =>
    -- The question is answered by the cycle that the zone follows.
    obtain ⟨cycle, sound, follows⟩ := orderly.exists_cycle real found
    have dated := follows.dated sound fun year turn member =>
      (spared year turn member).imp_right And.left
    -- A turn that is far from now leaves the day in order, whichever day that is.
    have spares (turn : Turn) (member : turn ∈ cycle.turns (yearOf (zone.dateOf now))) :
        turn.Spares (zone.dateOf now * daySeconds) := by
      rcases spared _ turn (follows.turns _ turn member) with far | ⟨_, spares⟩
      · exact dated.spares_of_far sound member far
      · exact spares
    have midnight := follows.shows months (dateOf_midnight zone now)
    -- Should midnight be skipped, the time an hour behind is asked for, which is of the same date.
    have hour := follows.shows months
      (show (zone.dateOf now * daySeconds + 3600) / daySeconds = _ by
        simp only [daySeconds]; omega)
    refine ⟨dated.leads_of_spared sound spares midnight, fun skipped => ?_⟩
    rw [skipped] at midnight
    exact dated.leads_of_skipped sound spares midnight hour

/-- A time behind the first day of the years in which moments are looked up stands for the last of
the moments at which clocks show it, if it leads one of these years. -/
theorem Showing.Leads.second?_eq {showing : Showing} {localSecond second : Int}
    (leads : showing.Leads localSecond second)
    (clock : ∀ offset ∈ showing.offsets, isClockOffset offset = true)
    (covered : isCovered second = true)
    (behind : (yearStart firstYear + 1) * 86400 ≤ localSecond) :
    showing.second? localSecond = showing.offsets.getLast?.map (localSecond - ·) := by
  -- The moments are not after one that can be looked up, and no offset reaches back a whole day.
  refine Showing.second?_eq fun offset shown => ⟨clock offset shown, ?_⟩
  -- Clocks are set by less than a day, and the time is behind the first day.
  have within := (isClockOffset_iff offset).mp (clock offset shown)
  have notAfter := leads.notAfter offset shown
  rw [isCovered_iff] at covered ⊢
  omega

/-- The last moment at which clocks show a time that leads an instant is not after the instant, and
less than twenty-five hours before it. -/
theorem Showing.Leads.within_day {showing : Showing} {localSecond last now : Int}
    (leads : showing.Leads localSecond (now / secondMicros))
    (shown : last ∈ showing.offsets.getLast?) :
    (localSecond - last) * secondMicros ≤ now ∧
      now - (localSecond - last) * secondMicros < 25 * 3600 * secondMicros := by
  -- The last offset is one of those by which the time is shown.
  have notAfter := leads.notAfter last (List.mem_of_getLast? shown)
  have within := leads.within last shown
  simp only [secondMicros] at *
  omega

/-- Clocks never show a time that they show by no offset. -/
theorem Showing.eq_never_of_getLast? {showing : Showing} (unseen : showing.offsets.getLast? = none) :
    showing = .never := by
  cases showing <;> simp [offsets] at unseen ⊢

/-- More than four days behind the start of a year and three before its end, the turns of all other
years are far. -/
theorem Zone.Orderly.isFar_of_ne (orderly : zone.Orderly) (real : zone.IsReal)
    {second year other : Int} (within : yearStart year * 86400 + 349200 ≤ second ∧
      second + 259200 ≤ yearStart (year + 1) * 86400) (differs : other ≠ year) :
    ∀ turn ∈ zone.turns other, turn.IsFar second := by
  -- Whatever the offset before a change is, the turn is within a day of what clocks then show.
  have far {change : Change} {offset : Int} (real : change.IsReal)
      (clock : isClockOffset offset = true) :
      change.moment other - offset + 172800 ≤ second ∨
        second + 172800 ≤ change.moment other - offset := by
    have moment := real.moment_within other
    rw [isClockOffset_iff] at clock
    rcases Int.lt_or_lt_of_ne differs with past | future
    · have := yearStart_mono (show other + 1 ≤ year by omega)
      have := yearStart_succ other
      split at this <;> omega
    · have := yearStart_mono (show year + 1 ≤ other by omega)
      omega
  -- Both turns of the year come of a change that is real.
  intro turn member
  cases found : zone.saving with
  | none => simp [turns, found] at member
  | some saving =>
    obtain ⟨start, finish⟩ := real.changes saving found
    simp only [turns, found, List.mem_cons, List.not_mem_nil, or_false] at member
    rcases member with rfl | rfl
    · exact far start real.standard
    · exact far finish (orderly.offset saving found)

/-- So it is enough to look at the turns of the year of a moment if that is not near its ends. -/
theorem Zone.Orderly.isFar_of_year (orderly : zone.Orderly) (real : zone.IsReal) {second year : Int}
    (within : yearStart year * 86400 + 349200 ≤ second ∧
      second + 259200 ≤ yearStart (year + 1) * 86400)
    (far : ∀ turn ∈ zone.turns year, turn.IsFar second) :
    ∀ other, ∀ turn ∈ zone.turns other, turn.IsFar second := by
  intro other
  -- The year itself is given, and all others are too far away.
  rcases eq_or_ne other year with rfl | differs
  · exact far
  · exact orderly.isFar_of_ne real within differs

/-- The start of a day that all turns leave in order is not after any instant of the day, and less
than twenty-five hours before all of them. -/
theorem dayStart_within_day {text : String} (given : Zone.ofText? text = some zone)
    (orderly : zone.Orderly) (dates : zone.Dates now)
    (behind : yearStart firstYear < zone.dateOf now)
    (months : zone.MonthsApart (yearOf (zone.dateOf now)))
    (spared : ∀ year, ∀ turn ∈ zone.turns year, turn.IsFar (now / secondMicros) ∨
      turn.StaysIn year ∧ turn.Spares (zone.dateOf now * daySeconds)) :
    dayStart zone now ≤ now ∧ now - dayStart zone now < 25 * 3600 * secondMicros := by
  have real := Zone.isReal_of_ofText? given
  obtain ⟨midnight, hour⟩ := orderly.leads real months spared
  have clock {localSecond : Int} : ∀ offset ∈ (zone.showing localSecond).offsets,
      isClockOffset offset = true := fun _ => orderly.isClockOffset_of_shown real
  have midnightStands :=
    midnight.second?_eq clock dates.instant (by simp only [daySeconds]; omega)
  simp only [dayStart, Zone.secondOfLocal?, midnightStands]
  -- Midnight stands for a moment, unless clocks skip it.
  cases last : (zone.showing (zone.dateOf now * daySeconds)).offsets.getLast? with
  | some offset => exact midnight.within_day last
  | none =>
    -- Clocks skip midnight.
    have hour := hour (Showing.eq_never_of_getLast? last)
    have hourStands := hour.second?_eq clock dates.instant (by simp only [daySeconds]; omega)
    simp only [hourStands, Option.map_none]
    cases last : (zone.showing (zone.dateOf now * daySeconds + 3600)).offsets.getLast? with
    | some offset => exact hour.within_day last
    | none =>
      -- They skip the hour behind it as well, and the day starts at once.
      simp [secondMicros]

/-- Saving from the midnight of the 250th day of a year, which is skipped, to that of the 97th. -/
def skipsMidnight : Zone :=
  ⟨-14400, some ⟨-10800, ⟨.counted 250, 0⟩, ⟨.counted 97, 0⟩⟩⟩

/-- Saving from the last Sunday of March to the last Sunday of October, which clocks let begin
twice. -/
def repeatsMidnight : Zone :=
  ⟨-3600, some ⟨0, ⟨.weekday 3 5 0, 0⟩, ⟨.weekday 10 5 0, 3600⟩⟩⟩

/-- One yearly change skips the midnight of a day, which starts an hour late. -/
theorem dayStart_within_day_skipped_midnight :
    Zone.ofText? "<-04>4<-03>,J250/0,J97/0" = some skipsMidnight ∧
      dayStart skipsMidnight 1725710400000000 ≤ 1725710400000000 ∧
      1725710400000000 - dayStart skipsMidnight 1725710400000000 < 25 * 3600 * secondMicros := by
  have given : Zone.ofText? "<-04>4<-03>,J250/0,J97/0" = some skipsMidnight := by decide +kernel
  have orderly : skipsMidnight.Orderly :=
    Zone.orderly_of_counted rfl rfl rfl (by decide) (by decide) (by decide)
  have dates : skipsMidnight.Dates 1725710400000000 := ⟨by decide, by decide⟩
  refine ⟨given, dayStart_within_day given orderly dates (by decide) ?months ?spared⟩
  case months => simp [Zone.MonthsApart, skipsMidnight]; decide
  case spared =>
    intro year turn member
    rcases eq_or_ne year 2024 with rfl | other
    · -- Of the two turns of this year, one is at this midnight and the other one months away.
      simp only [Zone.turns, skipsMidnight, List.mem_cons, List.not_mem_nil, or_false] at member
      rcases member with rfl | rfl
      · exact .inr ⟨⟨by decide, by decide⟩, ⟨by decide, by decide, by decide⟩⟩
      · exact .inl (.inl (by decide))
    · exact .inl (orderly.isFar_of_ne (Zone.isReal_of_ofText? given) (by decide) other turn member)

/-- Clocks that are set back to midnight an hour after it let the day start when they show it again,
which is after an instant of the first hour. -/
theorem dayStart_after_repeated_midnight :
    Zone.ofText? "<-01>1<+00>,M3.5.0/0,M10.5.0/1" = some repeatsMidnight ∧
      ¬ dayStart repeatsMidnight 1729989000000000 ≤ 1729989000000000 := by
  decide +kernel

/-- If saving is not held to start in an earlier month than it ends, clocks show its offset until it
ends. -/
theorem Zone.showing_of_not_over {saving : Saving} {localSecond year : Int}
    (found : zone.saving = some saving) (sameYear : yearOf (localSecond / daySeconds) = year)
    (later : ¬ saving.start.monthIn year < saving.finish.monthIn year)
    (notOver : zone.standard ≠ saving.offset → localSecond < saving.finish.moment year ∧
      localSecond < saving.finish.moment year + zone.standard - saving.offset) :
    zone.showing localSecond = .once saving.offset := by
  -- The two branches for saving that ends first are those for equal and for other offsets.
  simp only [showing, found, sameYear, later, decide_false]
  split
  · rename_i same
    rw [same]
  · rename_i differ
    obtain ⟨notBefore, notAfter⟩ := notOver differ
    simp [notAfter, Int.le_of_lt notBefore]

namespace Zone.Orderly

variable {second earlier : Int}

/-- The offset stays the same in the two days before a moment from which all turns are far. -/
theorem offsetAt_of_far (orderly : zone.Orderly) (real : zone.IsReal)
    (far : ∀ year, ∀ turn ∈ zone.turns year, turn.IsFar second)
    (recent : earlier ≤ second ∧ second < earlier + 172800) :
    zone.offsetAt earlier = zone.offsetAt second := by
  -- Without saving there is only one offset.
  cases found : zone.saving with
  | none => simp only [offsetAt, found]
  | some saving =>
    obtain ⟨cycle, sound, follows⟩ := orderly.exists_cycle real found
    -- Between the two moments there is no turn, and so the same period goes on.
    have same := Cycle.isInner_iff_of_far
      (fun year turn member => far year turn (follows.turns year turn member)) recent
    -- The inner offset is in force at both moments, or the outer one is.
    by_cases inside : cycle.IsInner second
    · rw [follows.inner second inside, follows.inner earlier (same.mpr inside)]
    · rw [follows.outer second inside, follows.outer earlier (mt same.mp inside)]

/-- All offsets are at most half a day apart. -/
theorem offsetAt_close (orderly : zone.Orderly) (first second : Int) :
    zone.offsetAt first - zone.offsetAt second ≤ 43200 := by
  have close := orderly.close
  cases found : zone.saving with
  | none => simp [offsetAt, found]
  | some saving =>
    have close := close saving found
    simp only [offsetAt, found]
    -- Both moments have one of two offsets, which are at most half a day apart.
    split <;> split <;> omega

/-- Far from all turns, the instants until now that have the date of now are those from its midnight
on. -/
theorem dateOf_eq_iff (orderly : zone.Orderly) (real : zone.IsReal) {past now : Int}
    (far : ∀ year, ∀ turn ∈ zone.turns year, turn.IsFar (now / secondMicros))
    (until_ : past ≤ now) :
    zone.dateOf past = zone.dateOf now ↔
      (zone.dateOf now * daySeconds - zone.offset now) * secondMicros ≤ past := by
  -- Both instants are within their own dates, as clocks show them.
  have today := zone.dateOf_within now
  have thatDay := zone.dateOf_within past
  have seconds : past / secondMicros ≤ now / secondMicros := by
    simp only [secondMicros]
    omega
  -- The instant is rounded down to its second, which does not matter for a bound on it.
  have midnight {second : Int} : second * secondMicros ≤ past ↔ second ≤ past / secondMicros := by
    simp only [secondMicros]
    omega
  rw [midnight, daySeconds]
  simp only [localSecond] at today thatDay
  by_cases recent : now / secondMicros < past / secondMicros + 172800
  · -- Both instants are shown by the same offset.
    have same : zone.offset past = zone.offset now :=
      orderly.offsetAt_of_far real far ⟨seconds, recent⟩
    rw [same] at thatDay
    omega
  · -- No two offsets make up for two days.
    have close : zone.offset past - zone.offset now ≤ 43200 := orderly.offsetAt_close _ _
    omega

/-- Far from all turns, clocks show the midnight of a date once, by the offset that is still in
force. -/
theorem showing_of_far (orderly : zone.Orderly) (real : zone.IsReal)
    (far : ∀ year, ∀ turn ∈ zone.turns year, turn.IsFar (now / secondMicros))
    (months : zone.MonthsApart (yearOf (zone.dateOf now))) :
    zone.showing (zone.dateOf now * daySeconds) = .once (zone.offset now) := by
  cases found : zone.saving with
  | none => simp only [showing, Zone.offset, offsetAt, found]
  | some saving =>
    -- No turn comes between midnight and now.
    obtain ⟨cycle, sound, follows⟩ := orderly.exists_cycle real found
    have dated := follows.dated sound fun year turn member => .inl (far year turn member)
    have midnight := follows.shows months (dateOf_midnight zone now)
    exact dated.once_of_far sound
      (fun turn member => far _ turn (follows.turns _ turn member)) midnight

/-- So they do while saving is in force, in whichever months it starts and ends. -/
theorem showing_of_far_saving (orderly : zone.Orderly) (real : zone.IsReal)
    (far : ∀ year, ∀ turn ∈ zone.turns year, turn.IsFar (now / secondMicros)) {saving : Saving}
    (found : zone.saving = some saving) (saves : zone.offset now = saving.offset) :
    zone.showing (zone.dateOf now * daySeconds) = .once (zone.offset now) := by
  by_cases months : zone.MonthsApart (yearOf (zone.dateOf now))
  · exact orderly.showing_of_far real far months
  · -- Saving starts and ends in one month, and is held to last through the turn of the year.
    obtain ⟨first, later⟩ : saving.start.day.on (yearOf (zone.dateOf now)) <
          saving.finish.day.on (yearOf (zone.dateOf now)) ∧
        ¬ saving.start.monthIn (yearOf (zone.dateOf now)) <
          saving.finish.monthIn (yearOf (zone.dateOf now)) := by
      simpa [MonthsApart, found] using months
    -- Saving would last through the turn of the year only if it ended before it starts.
    have starts : saving.StartsFirst := by
      refine (orderly.order saving found).resolve_right fun ends => ?_
      have := ends (yearOf (zone.dateOf now))
      omega
    have sound := orderly.sound_startingCycle real found starts
    have dated := (orderly.follows_startingCycle real found starts).dated sound
      fun year turn member => .inl (far year turn member)
    -- Its end is far from now, and now it is in force, so the end is still to come.
    have closing := far (yearOf (zone.dateOf now))
      ⟨finishSecond saving (yearOf (zone.dateOf now)), saving.offset, zone.standard⟩
      (by simp [turns, found])
    rw [saves] at dated ⊢
    refine showing_of_not_over found (congrArg yearOf (dateOf_midnight zone now)) later
      fun differ => ?_
    have close := orderly.close saving found
    obtain ⟨inner, outer, sameDay⟩ := dated
    simp only [startingCycle, finishSecond, Turn.IsFar] at *
    omega

/-- Every offset is one that clocks can be set to. -/
theorem isClockOffset_offsetAt (orderly : zone.Orderly) (real : zone.IsReal) (second : Int) :
    isClockOffset (zone.offsetAt second) = true := by
  have other := orderly.offset
  cases found : zone.saving with
  | none => simpa only [offsetAt, found] using real.standard
  | some saving =>
    -- Saving is in force or it is not.
    simp only [offsetAt, found]
    split
    · exact other saving found
    · exact real.standard

/-- Far from all turns, the day starts at its midnight, if that is not before all that can be looked
up. -/
theorem dayStart_of_far (orderly : zone.Orderly) (real : zone.IsReal) (dates : zone.Dates now)
    (far : ∀ year, ∀ turn ∈ zone.turns year, turn.IsFar (now / secondMicros))
    (months : zone.MonthsApart (yearOf (zone.dateOf now)) ∨
      ∃ saving ∈ zone.saving, zone.offset now = saving.offset)
    (behind : yearStart firstYear * daySeconds ≤ zone.dateOf now * daySeconds - zone.offset now) :
    dayStart zone now = (zone.dateOf now * daySeconds - zone.offset now) * secondMicros := by
  -- Midnight is not after now, so it can be looked up as well.
  have covered : isCovered (zone.dateOf now * daySeconds - zone.offset now) = true := by
    have today := zone.dateOf_within now
    have notAfter := (isCovered_iff _).mp dates.instant
    rw [isCovered_iff]
    simp only [localSecond, daySeconds] at today behind ⊢
    omega
  -- The offset is one that can be set, so the lookup does not reject it.
  have clock : isClockOffset (zone.offset now) = true := orderly.isClockOffset_offsetAt real _
  have midnight : zone.showing (zone.dateOf now * daySeconds) = .once (zone.offset now) := by
    rcases months with months | ⟨saving, found, saves⟩
    · exact orderly.showing_of_far real far months
    · exact orderly.showing_of_far_saving real far found saves
  simp [dayStart, secondOfLocal?, midnight, Showing.second?, secondUnder?, clock, covered]

/-- That is a midnight as clocks show it, and less than a day has passed since. -/
theorem midnight_of_far (orderly : zone.Orderly) (real : zone.IsReal) {start now : Int}
    (far : ∀ year, ∀ turn ∈ zone.turns year, turn.IsFar (now / secondMicros))
    (starts : start = (zone.dateOf now * daySeconds - zone.offset now) * secondMicros) :
    (zone.localSecond start = zone.dateOf now * daySeconds ∧ start % secondMicros = 0) ∧
      now - 24 * 3600 * secondMicros < start ∧ start ≤ now := by
  have today := zone.dateOf_within now
  -- Today lasts from its midnight on, by the offset that is in force.
  simp only [localSecond] at today
  have second : start / secondMicros = zone.dateOf now * daySeconds - zone.offset now := by
    simp only [starts, secondMicros]
    omega
  -- The same offset is in force at both ends of the time between.
  have same : zone.offset start = zone.offset now := by
    refine orderly.offsetAt_of_far real far ?_
    rw [second, daySeconds]
    omega
  refine ⟨⟨?shown, ?whole⟩, ?day⟩
  case shown =>
    rw [localSecond, same, second]
    omega
  case whole =>
    simp only [starts, secondMicros]
    omega
  case day =>
    simp only [starts, secondMicros, daySeconds] at today ⊢
    omega

end Zone.Orderly

end

end Tollgate.Calendar
