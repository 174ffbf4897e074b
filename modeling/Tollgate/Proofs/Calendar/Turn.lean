import Tollgate.Proofs.Calendar.Saving

/-!
Local times and the turns of their year. Where turns are far from a moment or stay in their years,
those of the year that clocks show tell by which offset it is shown; and unless they fall on the
midnight before it in an awkward way, clocks show that midnight no later than the moment, and less
than twenty-five hours before it.
-/

namespace Tollgate.Calendar

/-- The turn is two days or more away from a second. -/
def Turn.IsFar (turn : Turn) (second : Int) : Prop :=
  turn.second + 172800 ≤ second ∨ second + 172800 ≤ turn.second

instance (turn : Turn) (second : Int) : Decidable (turn.IsFar second) :=
  inferInstanceAs (Decidable (_ ∨ _))

/-- What clocks show at the turn is within a year. -/
structure Turn.StaysIn (turn : Turn) (year : Int) : Prop where
  before : yearStart year * 86400 ≤ turn.shownBefore ∧
    turn.shownBefore ≤ yearStart (year + 1) * 86400
  after : yearStart year * 86400 ≤ turn.shownAfter ∧
    turn.shownAfter ≤ yearStart (year + 1) * 86400

/-- The turn leaves the day that begins with a midnight in order: clocks are not set back to
midnight or past it, and not set past it unless past the hour behind it as well. Nor are they set
back by more than an hour in the course of the day. -/
structure Turn.Spares (turn : Turn) (midnight : Int) : Prop where
  notRepeated : ¬ (turn.shownAfter ≤ midnight ∧ midnight < turn.shownBefore)
  notSkipped : turn.shownBefore ≤ midnight → midnight < turn.shownAfter →
    midnight + 3600 ≤ turn.shownAfter
  notLong : midnight ≤ turn.shownAfter → turn.shownAfter < midnight + 86400 →
    turn.shownBefore ≤ turn.shownAfter + 3600

/-- The offsets that are in force when clocks show a local time, the first time first. -/
def Showing.offsets : Showing → List Int
  | .never => []
  | .once offset => [offset]
  | .twice first second => [first, second]

/-- The moments at which clocks show a local time are not after a second, and the last of them is
less than twenty-five hours before it. -/
structure Showing.Leads (showing : Showing) (localSecond second : Int) : Prop where
  notAfter : ∀ offset ∈ showing.offsets, localSecond - offset ≤ second
  within : ∀ last ∈ showing.offsets.getLast?, second < localSecond - last + 90000

section

variable {localSecond second offset first last : Int}

/-- A time that clocks never show leads everything. -/
theorem Showing.Leads.never : Showing.never.Leads localSecond second :=
  ⟨by simp [offsets], by simp [offsets]⟩

/-- A time that clocks show once leads what its moment leads. -/
theorem Showing.Leads.once
    (led : localSecond - offset ≤ second ∧ second < localSecond - offset + 90000) :
    (Showing.once offset).Leads localSecond second :=
  ⟨by simpa [offsets] using led.1, by simpa [offsets] using led.2⟩

/-- A time that clocks show twice leads what its last moment leads. -/
theorem Showing.Leads.twice (notAfter : localSecond - first ≤ second)
    (led : localSecond - last ≤ second ∧ second < localSecond - last + 90000) :
    (Showing.twice first last).Leads localSecond second :=
  -- Both moments and the last of them are what has been assumed of each.
  ⟨by simp only [offsets, List.forall_mem_cons]; exact ⟨notAfter, led.1, by simp⟩,
    by simpa [offsets] using led.2⟩

end

namespace Cycle

variable {cycle : Cycle} {year midnight second offset : Int} {showing : Showing}

/-- What holds of both turns of a year holds of all. -/
theorem forall_mem_turns {property : Turn → Prop} :
    (∀ turn ∈ cycle.turns year, property turn) ↔
      property ⟨cycle.opens year, cycle.outer, cycle.inner⟩ ∧
        property ⟨cycle.closes year, cycle.inner, cycle.outer⟩ := by
  simp [turns]

/-- Where the turns near a second stay in their years, the offset in force is told by the turns of
the year that clocks show. -/
theorem Sound.isInner_iff_of_settled (sound : cycle.Sound)
    (inner : cycle.IsInner second → offset = cycle.inner)
    (shown : yearStart year * 86400 ≤ second + offset ∧
      second + offset < yearStart (year + 1) * 86400)
    (settled : ∀ year, ∀ turn ∈ cycle.turns year, turn.IsFar second ∨ turn.StaysIn year) :
    cycle.IsInner second ↔ cycle.opens year ≤ second ∧ second < cycle.closes year := by
  refine ⟨fun inside => ?_, fun inside => ⟨year, inside⟩⟩
  have same := inner inside
  obtain ⟨other, opened, open_⟩ := inside
  -- An offset is less than a day, and the two differ by half a day at most.
  have clock := (isClockOffset_iff _).mp sound.inner
  have close := sound.close
  -- The inner offset of another year would reach past one end of that year.
  rcases Int.lt_trichotomy other year with past | rfl | future
  · exfalso
    have later := yearStart_mono (show other + 1 ≤ year by omega)
    have longer := yearStart_mono (show other ≤ year by omega)
    have closes := sound.closesWithin other
    -- A turn of that year is either far from the second or within its own year.
    rcases (forall_mem_turns.mp (settled other)).2 with far | stays
    · simp only [Turn.IsFar] at far
      omega
    · have before := stays.before
      simp only [Turn.shownBefore] at before
      omega
  · exact ⟨opened, open_⟩
  · exfalso
    have later := yearStart_mono (show year + 1 ≤ other by omega)
    have opens := sound.opensWithin other
    rcases (forall_mem_turns.mp (settled other)).1 with far | stays
    · simp only [Turn.IsFar] at far
      omega
    · have after := stays.after
      simp only [Turn.shownAfter] at after
      omega

/-- Two moments less than two days apart, from whose later one all turns are far, are on the same
side of every turn. -/
theorem isInner_iff_of_far {earlier : Int}
    (far : ∀ year, ∀ turn ∈ cycle.turns year, turn.IsFar second)
    (recent : earlier ≤ second ∧ second < earlier + 172800) :
    cycle.IsInner earlier ↔ cycle.IsInner second := by
  -- No turn of any year comes between the two.
  refine exists_congr fun year => ?_
  -- The condition for one year is that for the other, turn by turn.
  obtain ⟨opening, closing⟩ := forall_mem_turns.mp (far year)
  simp only [Turn.IsFar] at opening closing
  omega

/-- What a local time of a year is to the turns of that year, and how often clocks show it. -/
inductive Shows (cycle : Cycle) (year localSecond : Int) : Showing → Prop
  /-- The turns make no difference. -/
  | level (same : cycle.outer = cycle.inner) : Shows cycle year localSecond (.once cycle.outer)
  /-- The time comes before the inner offset does. -/
  | before (early : localSecond ≤ cycle.opens year + cycle.outer ∧
      localSecond < cycle.opens year + cycle.inner) :
      Shows cycle year localSecond (.once cycle.outer)
  /-- The time is skipped when the inner offset comes into force. -/
  | skippedFirst (gap : cycle.opens year + cycle.outer < localSecond ∧
      localSecond < cycle.opens year + cycle.inner) : Shows cycle year localSecond .never
  /-- The time comes again when the inner offset comes into force. -/
  | repeatedFirst (lap : cycle.opens year + cycle.inner ≤ localSecond ∧
      localSecond ≤ cycle.opens year + cycle.outer) :
      Shows cycle year localSecond (.twice cycle.outer cycle.inner)
  /-- The time comes while the inner offset is in force. -/
  | between (opened : cycle.opens year + cycle.inner ≤ localSecond ∧
        cycle.opens year + cycle.outer < localSecond)
      (open_ : localSecond < cycle.closes year + cycle.inner ∧
        localSecond < cycle.closes year + cycle.outer) :
      Shows cycle year localSecond (.once cycle.inner)
  /-- The time is skipped when the outer offset comes into force again. -/
  | skippedLast (gap : cycle.closes year + cycle.inner ≤ localSecond ∧
      localSecond < cycle.closes year + cycle.outer) : Shows cycle year localSecond .never
  /-- The time comes again when the outer offset comes into force again. -/
  | repeatedLast (lap : cycle.closes year + cycle.outer ≤ localSecond ∧
      localSecond ≤ cycle.closes year + cycle.inner) :
      Shows cycle year localSecond (.twice cycle.inner cycle.outer)
  /-- The time comes when the outer offset is in force again. -/
  | after (late : cycle.closes year + cycle.outer ≤ localSecond ∧
      cycle.closes year + cycle.inner < localSecond) :
      Shows cycle year localSecond (.once cycle.outer)

/-- Every local time is found to be one of these. -/
theorem shows_showing (cycle : Cycle) (localSecond : Int) :
    cycle.Shows (yearOf (localSecond / daySeconds)) localSecond (cycle.showing localSecond) := by
  -- The comparisons come in the order of time, and each excludes what comes before.
  simp only [Cycle.showing]
  generalize yearOf (localSecond / daySeconds) = year
  split
  · -- Without a difference there is only one offset to show it by.
    exact .level ‹_›
  · split
    · -- Clocks go forward first and back later.
      split
      · exact .before (by omega)
      · split
        · exact .skippedFirst (by omega)
        · split
          · exact .between (by omega) (by omega)
          · split
            · exact .repeatedLast (by omega)
            · exact .after (by omega)
    · -- Clocks go back first and forward later.
      split
      · exact .before (by omega)
      · split
        · exact .repeatedFirst (by omega)
        · split
          · exact .between (by omega) (by omega)
          · split
            · exact .skippedLast (by omega)
            · exact .after (by omega)

/-- A moment of the day that begins with a midnight, and the offset by which clocks show it, which
depends on whether the moment lies between the turns of the year of the day. -/
structure Dated (cycle : Cycle) (year midnight second offset : Int) : Prop where
  inner : cycle.opens year ≤ second ∧ second < cycle.closes year → offset = cycle.inner
  outer : ¬ (cycle.opens year ≤ second ∧ second < cycle.closes year) → offset = cycle.outer
  sameDay : midnight ≤ second + offset ∧ second + offset < midnight + 86400

/-- Far from all turns, clocks show the midnight before a moment once, while the same offset is in
force. -/
theorem Dated.once_of_far (dated : cycle.Dated year midnight second offset) (sound : cycle.Sound)
    (far : ∀ turn ∈ cycle.turns year, turn.IsFar second)
    (shows_ : cycle.Shows year midnight showing) : showing = .once offset := by
  -- Midnight is at most a day off, so it is on the same side of both turns as the moment.
  obtain ⟨opening, closing⟩ := forall_mem_turns.mp far
  simp only [Turn.IsFar] at opening closing
  -- The two offsets differ by half a day at most.
  have close := sound.close
  obtain ⟨inner, outer, sameDay⟩ := dated
  cases shows_ with
  | level same =>
    congr 1
    omega
  | before early =>
    congr 1
    omega
  | skippedFirst gap => omega
  | repeatedFirst lap => omega
  | between opened open_ =>
    congr 1
    omega
  | skippedLast gap => omega
  | repeatedLast lap => omega
  | after late =>
    congr 1
    omega

/-- A turn that is far from a moment leaves the day of the moment in order. -/
theorem Dated.spares_of_far (dated : cycle.Dated year midnight second offset)
    (sound : cycle.Sound) {turn : Turn} (member : turn ∈ cycle.turns year)
    (far : turn.IsFar second) : turn.Spares midnight := by
  have close := sound.close
  have inner := (isClockOffset_iff _).mp sound.inner
  -- Offsets are less than a day in either direction.
  have outer := (isClockOffset_iff _).mp sound.outer
  -- Whatever the offsets are, both are within half a day of the one by which the moment is shown.
  have near : (turn.before - offset ≤ 43200 ∧ offset - turn.before ≤ 43200) ∧
      turn.after - offset ≤ 43200 ∧ offset - turn.after ≤ 43200 := by
    have same : offset = cycle.inner ∨ offset = cycle.outer :=
      (Classical.em _).imp dated.inner dated.outer
    simp only [turns, List.mem_cons, List.not_mem_nil, or_false] at member
    rcases member with rfl | rfl <;> simp only <;> omega
  have sameDay := dated.sameDay
  simp only [Turn.IsFar] at far
  constructor <;> simp only [Turn.shownBefore, Turn.shownAfter] <;> omega

/-- If the turns leave a day in order, the moments at which clocks show its midnight lead any moment
of it. -/
theorem Dated.leads_of_spared (dated : cycle.Dated year midnight second offset)
    (sound : cycle.Sound) (spared : ∀ turn ∈ cycle.turns year, turn.Spares midnight)
    (shows_ : cycle.Shows year midnight showing) : showing.Leads midnight second := by
  -- A turn in the course of the day lengthens it by an hour at most.
  obtain ⟨⟨openNotRepeated, _, openNotLong⟩, ⟨closeNotRepeated, _, closeNotLong⟩⟩ :=
    forall_mem_turns.mp spared
  -- The turns of a year are far enough from each other not to meet in one day.
  have apart := (sound.apart year).1
  simp only [Turn.shownAfter, Turn.shownBefore] at *
  obtain ⟨inner, outer, sameDay⟩ := dated
  cases shows_ with
  -- There is no difference between the offsets in force.
  | level same => exact .once (by omega)
  | before early =>
    -- The inner offset may come into force in the course of the day.
    exact .once (by omega)
  | skippedFirst gap => exact .never
  | repeatedFirst lap =>
    -- Clocks are set back when they are to show midnight, and the day begins when they do.
    exact .twice (by omega) (by omega)
  | between opened open_ =>
    -- The outer offset may come into force in the course of the day.
    exact .once (by omega)
  | skippedLast gap => exact .never
  -- The same holds where the inner offset comes to its end.
  | repeatedLast lap => exact .twice (by omega) (by omega)
  | after late => exact .once (by omega)

/-- If they leave a day in order whose midnight clocks skip, the moment at which clocks show the
hour behind it, if they show it, leads any moment of the day. -/
theorem Dated.leads_of_skipped (dated : cycle.Dated year midnight second offset)
    (sound : cycle.Sound) (spared : ∀ turn ∈ cycle.turns year, turn.Spares midnight)
    (skipped : cycle.Shows year midnight .never)
    (shows_ : cycle.Shows year (midnight + 3600) showing) :
    showing.Leads (midnight + 3600) second := by
  -- Either the hour behind midnight is skipped as well, or it is what clocks show at the turn.
  obtain ⟨⟨_, openNotSkipped, _⟩, ⟨_, closeNotSkipped, closeNotLong⟩⟩ :=
    forall_mem_turns.mp spared
  have close := sound.close
  have apart := (sound.apart year).1
  -- The conditions are put in terms of what clocks show.
  simp only [Turn.shownAfter, Turn.shownBefore] at *
  obtain ⟨inner, outer, sameDay⟩ := dated
  cases skipped with
  | skippedFirst gap =>
    cases shows_ with
    | skippedFirst | skippedLast => exact .never
    | between opened open_ => exact .once (by omega)
    -- At no other time would midnight have been skipped.
    | level | before | repeatedFirst | repeatedLast | after => omega
  | skippedLast gap =>
    cases shows_ with
    | skippedFirst | skippedLast => exact .never
    | after late => exact .once (by omega)
    | level | before | repeatedFirst | between | repeatedLast => omega

end Cycle

end Tollgate.Calendar
