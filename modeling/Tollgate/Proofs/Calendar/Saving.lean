import Tollgate.Calendar.Day
import Tollgate.Proofs.Calendar.ZoneText

/-!
Daylight saving through the years. Whether saving starts or ends first in a year, there are an outer
offset around the turn of the year and an inner one between two changes, and all that is asked of a
zone can be told from when the inner offset comes into force and when it does so no more.
-/

namespace Tollgate.Calendar

/-- A moment at which clocks are set to another offset. -/
structure Turn where
  /-- The second of universal time. -/
  second : Int
  /-- The offset until then. -/
  before : Int
  /-- The offset from then on. -/
  after : Int

/-- What clocks would show at a turn if they were not set. -/
def Turn.shownBefore (turn : Turn) : Int := turn.second + turn.before

/-- What clocks show at a turn once they are set. -/
def Turn.shownAfter (turn : Turn) : Int := turn.second + turn.after

/-- The turns that the rule of a zone has in a year. -/
def Zone.turns (zone : Zone) (year : Int) : List Turn :=
  match zone.saving with
  | none => []
  | some saving =>
    [⟨zone.startSecond saving year, zone.standard, saving.offset⟩,
      ⟨finishSecond saving year, saving.offset, zone.standard⟩]

/-- Changes that come in turns: one offset holds between the changes of a year, and the other one
around the turn of the year. -/
structure Cycle where
  /-- The offset around the turn of the year. -/
  outer : Int
  /-- The offset between the changes of a year. -/
  inner : Int
  /-- When the inner offset comes into force in a year. -/
  opens : Int → Int
  /-- When the outer offset is in force again. -/
  closes : Int → Int

namespace Cycle

/-- The inner offset is in force at a second. -/
def IsInner (cycle : Cycle) (second : Int) : Prop :=
  ∃ year, cycle.opens year ≤ second ∧ second < cycle.closes year

/-- The turns of a year. -/
def turns (cycle : Cycle) (year : Int) : List Turn :=
  [⟨cycle.opens year, cycle.outer, cycle.inner⟩, ⟨cycle.closes year, cycle.inner, cycle.outer⟩]

/-- The inner offset is in force at a second, as told from the changes of its year and of the years
beside it. -/
def isInner (cycle : Cycle) (second : Int) : Bool :=
  let year := yearOf (second / daySeconds)
  if second < cycle.opens year then
    cycle.opens (year - 1) ≤ second && second < cycle.closes (year - 1)
  else if second < cycle.closes year then true
  else cycle.opens (year + 1) ≤ second && second < cycle.closes (year + 1)

/-- How often clocks show a local time, as told from the changes of its year. -/
def showing (cycle : Cycle) (localSecond : Int) : Showing :=
  let year := yearOf (localSecond / daySeconds)
  if cycle.outer = cycle.inner then .once cycle.outer
  else if cycle.outer < cycle.inner then
    if localSecond ≤ cycle.opens year + cycle.outer then .once cycle.outer
    else if localSecond < cycle.opens year + cycle.inner then .never
    else if localSecond < cycle.closes year + cycle.outer then .once cycle.inner
    else if localSecond ≤ cycle.closes year + cycle.inner then .twice cycle.inner cycle.outer
    else .once cycle.outer
  else
    if localSecond < cycle.opens year + cycle.inner then .once cycle.outer
    else if localSecond ≤ cycle.opens year + cycle.outer then .twice cycle.outer cycle.inner
    else if localSecond < cycle.closes year + cycle.inner then .once cycle.inner
    else if localSecond < cycle.closes year + cycle.outer then .never
    else .once cycle.outer

/-- Clocks that are changed show a time of the year of the change, or at most one of the first
twenty-five hours of the next. More than a day lies between any two changes, and the offsets are
such as clocks can be set to and at most half a day apart. -/
structure Sound (cycle : Cycle) : Prop where
  outer : isClockOffset cycle.outer = true
  inner : isClockOffset cycle.inner = true
  close : cycle.outer - cycle.inner ≤ 43200 ∧ cycle.inner - cycle.outer ≤ 43200
  opensWithin : ∀ year, yearStart year * 86400 ≤ cycle.opens year + cycle.outer ∧
    cycle.opens year + cycle.outer < (yearStart year + 365) * 86400 + 90000
  closesWithin : ∀ year, yearStart year * 86400 ≤ cycle.closes year + cycle.inner ∧
    cycle.closes year + cycle.inner < (yearStart year + 365) * 86400 + 90000
  apart : ∀ year, cycle.opens year + 86400 < cycle.closes year ∧
    cycle.closes year + 86400 < cycle.opens (year + 1)

variable {cycle : Cycle}

/-- The inner offset of a year is in force in that year and, at most, in those beside it. -/
theorem Sound.eq_or_beside (sound : cycle.Sound) {second year other : Int}
    (within : yearStart year * 86400 ≤ second ∧ second < yearStart (year + 1) * 86400)
    (inside : cycle.opens other ≤ second ∧ second < cycle.closes other) :
    other = year - 1 ∨ other = year ∨ other = year + 1 := by
  -- The period of a year begins and ends within the year, but for what the offsets shift.
  have opens := (sound.opensWithin other).1
  have closes := (sound.closesWithin other).2
  have outer := (isClockOffset_iff _).mp sound.outer
  have inner := (isClockOffset_iff _).mp sound.inner
  -- In all other years it is out of force long before, or comes long after.
  rcases Int.lt_or_le other (year - 1) with past | present
  · have := yearStart_mono (show other ≤ year by omega)
    omega
  · rcases Int.lt_or_le (year + 1) other with future | present
    · have := yearStart_mono (show year + 1 ≤ other by omega)
      omega
    · omega

/-- It is enough to look at the year of a second and at those beside it. -/
theorem Sound.isInner_iff (sound : cycle.Sound) (second : Int) :
    cycle.isInner second = true ↔ cycle.IsInner second := by
  -- The second lies in its year, and at no greater distance from it than clocks are set.
  have lower := yearStart_yearOf_le (second / daySeconds)
  have upper := lt_yearStart_yearOf (second / daySeconds)
  simp only [isInner, IsInner]
  generalize yearOf (second / daySeconds) = year at *
  simp only [daySeconds] at lower upper
  -- The period that the second lies in can only be one of three.
  have near {other : Int} (inside : cycle.opens other ≤ second ∧ second < cycle.closes other) :
      other = year - 1 ∨ other = year ∨ other = year + 1 :=
    sound.eq_or_beside (by omega) inside
  -- The periods of these three years follow one another, with a day between any two.
  have here := sound.apart year
  have before := sound.apart (year - 1)
  have behind := sound.apart (year + 1)
  rw [Int.sub_add_cancel] at before
  split
  · -- The changes of the year are still to come.
    simp only [Bool.and_eq_true, decide_eq_true_eq]
    constructor
    · intro inside
      exact ⟨year - 1, inside⟩
    · rintro ⟨other, inside⟩
      rcases near inside with rfl | rfl | rfl <;> omega
  · split
    · -- The second lies between the changes of the year.
      simp only [true_iff]
      exact ⟨year, by omega⟩
    · -- The changes of the year are over.
      simp only [Bool.and_eq_true, decide_eq_true_eq]
      constructor
      · intro inside
        exact ⟨year + 1, inside⟩
      · rintro ⟨other, inside⟩
        rcases near inside with rfl | rfl | rfl <;> omega

end Cycle

/-- Saving starts before it ends in every year, and at least three days lie between all changes. -/
def Saving.StartsFirst (saving : Saving) : Prop :=
  ∀ year, saving.start.day.on year + 3 ≤ saving.finish.day.on year ∧
    saving.finish.day.on year + 3 ≤ saving.start.day.on (year + 1)

/-- Saving ends before it starts in every year, and at least three days lie between all changes. -/
def Saving.EndsFirst (saving : Saving) : Prop :=
  ∀ year, saving.finish.day.on year + 3 ≤ saving.start.day.on year ∧
    saving.start.day.on year + 3 ≤ saving.finish.day.on (year + 1)

/-- If clocks are changed at all, the two changes come in the same order in every year, with at
least three days between any two, and the offsets are such as clocks can be set to and no more than
half a day apart. -/
structure Zone.Orderly (zone : Zone) : Prop where
  order : ∀ saving ∈ zone.saving, saving.StartsFirst ∨ saving.EndsFirst
  offset : ∀ saving ∈ zone.saving, isClockOffset saving.offset = true
  close : ∀ saving ∈ zone.saving,
    zone.standard - saving.offset ≤ 43200 ∧ saving.offset - zone.standard ≤ 43200

/-- Changes on counted days come in order if the counts are apart. -/
theorem Zone.orderly_of_counted {zone : Zone} {saving : Saving} {start finish : Nat}
    (found : zone.saving = some saving) (starts : saving.start.day = .counted start)
    (ends : saving.finish.day = .counted finish)
    (apart : start + 4 ≤ finish ∧ finish + 4 ≤ start + 365 ∨
      finish + 4 ≤ start ∧ start + 4 ≤ finish + 365)
    (clock : isClockOffset saving.offset = true)
    (close : zone.standard - saving.offset ≤ 43200 ∧ saving.offset - zone.standard ≤ 43200) :
    zone.Orderly := by
  -- A zone has saving once at most.
  have only {other : Saving} (member : other ∈ zone.saving) : other = saving :=
    Option.some.inj (member.symm.trans found)
  -- There is only one saving to be looked at, in each of the three respects.
  refine ⟨fun other member => ?order, fun other member => ?offset, fun other member => ?close⟩ <;>
    obtain rfl := only member
  case order =>
    simp only [Saving.StartsFirst, Saving.EndsFirst, starts, ends]
    exact apart.imp YearDay.apart_of_counted YearDay.apart_of_counted
  case offset => exact clock
  case close => exact close

/-- Saving that starts before it ends in a year does so in an earlier month. -/
def Zone.MonthsApart (zone : Zone) (year : Int) : Prop :=
  ∀ saving ∈ zone.saving, saving.start.day.on year < saving.finish.day.on year →
    saving.start.monthIn year < saving.finish.monthIn year

/-- The cycle of saving that starts before it ends in a year. -/
def Zone.startingCycle (zone : Zone) (saving : Saving) : Cycle :=
  ⟨zone.standard, saving.offset, zone.startSecond saving, finishSecond saving⟩

/-- The cycle of saving that lasts through the turn of the year. -/
def Zone.endingCycle (zone : Zone) (saving : Saving) : Cycle :=
  ⟨saving.offset, zone.standard, finishSecond saving, zone.startSecond saving⟩

/-- All that is asked of a zone can be told from a cycle. -/
structure Zone.Follows (zone : Zone) (cycle : Cycle) : Prop where
  turns : ∀ year, ∀ turn ∈ cycle.turns year, turn ∈ zone.turns year
  inner : ∀ second, cycle.IsInner second → zone.offsetAt second = cycle.inner
  outer : ∀ second, ¬ cycle.IsInner second → zone.offsetAt second = cycle.outer
  showing : ∀ localSecond, zone.MonthsApart (yearOf (localSecond / daySeconds)) →
    zone.showing localSecond = cycle.showing localSecond

section

variable {zone : Zone} {saving : Saving}

/-- A change that is real comes on a day of its year or, in a common year, on the day behind it. -/
theorem Change.IsReal.moment_within {change : Change} (real : change.IsReal) (year : Int) :
    yearStart year * 86400 ≤ change.moment year ∧
      change.moment year < (yearStart year + 365) * 86400 + 90000 := by
  -- The day is within the year or right behind it, and the time within the day or the hour behind.
  have day := YearDay.on_within real.day year
  -- The change is made at a time of its day, which may be past the end of it by an hour.
  have time := real.time
  simp only [moment, daySeconds] at time ⊢
  omega

/-- Changes three days apart make turns more than a day apart, unless the offsets differ by more
than half a day. -/
theorem Change.IsReal.moment_apart {change other : Change} (real : change.IsReal)
    (otherReal : other.IsReal) {year later before after : Int}
    (days : change.day.on year + 3 ≤ other.day.on later) (close : after - before ≤ 43200) :
    change.moment year - before + 86400 < other.moment later - after := by
  -- Three days apart, the days of the changes leave two whole days between the times.
  have time := real.time
  have otherTime := otherReal.time
  simp only [moment, daySeconds] at time ⊢
  omega

/-- Saving that starts before it ends makes a sound cycle. -/
theorem Zone.Orderly.sound_startingCycle (orderly : zone.Orderly) (real : zone.IsReal)
    (found : zone.saving = some saving) (first : saving.StartsFirst) :
    (zone.startingCycle saving).Sound where
  outer := real.standard
  inner := orderly.offset saving found
  close := orderly.close saving found
  opensWithin year := by
    simpa [startingCycle, startSecond] using (real.changes saving found).1.moment_within year
  closesWithin year := by
    simpa [startingCycle, finishSecond] using (real.changes saving found).2.moment_within year
  -- The end of saving follows its start in the year, and its next start follows in the next.
  apart year := by
    obtain ⟨start, finish⟩ := real.changes saving found
    obtain ⟨ahead, behind⟩ := orderly.close saving found
    exact ⟨start.moment_apart finish (first year).1 behind,
      finish.moment_apart start (first year).2 ahead⟩

/-- So does saving that lasts through the turn of the year. -/
theorem Zone.Orderly.sound_endingCycle (orderly : zone.Orderly) (real : zone.IsReal)
    (found : zone.saving = some saving) (first : saving.EndsFirst) :
    (zone.endingCycle saving).Sound where
  outer := orderly.offset saving found
  inner := real.standard
  close := (orderly.close saving found).symm
  opensWithin year := by
    simpa [endingCycle, finishSecond] using (real.changes saving found).2.moment_within year
  closesWithin year := by
    simpa [endingCycle, startSecond] using (real.changes saving found).1.moment_within year
  -- The start of saving follows its end in the year, and its next end follows in the next.
  apart year := by
    obtain ⟨start, finish⟩ := real.changes saving found
    obtain ⟨ahead, behind⟩ := orderly.close saving found
    exact ⟨finish.moment_apart start (first year).1 ahead,
      start.moment_apart finish (first year).2 behind⟩

/-- Shifting a moment by one offset and back by another. -/
theorem shift (moment before after : Int) : moment - before + after = moment + after - before := by
  omega

/-- A zone whose saving starts before it ends follows the cycle of it. -/
theorem Zone.Orderly.follows_startingCycle (orderly : zone.Orderly) (real : zone.IsReal)
    (found : zone.saving = some saving) (first : saving.StartsFirst) :
    zone.Follows (zone.startingCycle saving) := by
  -- Both lookups take the branches in which the period lies inside the year.
  have sound := orderly.sound_startingCycle real found first
  have saves (second : Int) :
      zone.isSaving saving second = (zone.startingCycle saving).isInner second := by
    have apart := (sound.apart (yearOf (second / daySeconds))).1
    simp only [startingCycle] at apart
    rw [isSaving, if_pos (by omega)]
    rfl
  refine ⟨?turns, ?inner, ?outer, ?showing⟩
  -- The turns of the cycle are those of the zone.
  case turns =>
    intro year turn member
    rw [turns, found]
    exact member
  -- The inner offset of this cycle is that of saving.
  case inner =>
    intro second inside
    have saving := (saves second).trans ((sound.isInner_iff second).mpr inside)
    simp only [offsetAt, found, saving, if_true]
    rfl
  case outer =>
    intro second outside
    rw [← sound.isInner_iff, ← saves] at outside
    simp only [offsetAt, found, outside]
    rfl
  -- The months of the changes come in the order that the lookup expects.
  case showing =>
    intro localSecond months
    have days := first (yearOf (localSecond / daySeconds))
    have earlier := months saving found (by omega)
    simp only [showing, found, earlier, Cycle.showing, startingCycle, startSecond, finishSecond,
      decide_true, if_true, Int.sub_add_cancel, shift]

/-- A zone whose saving lasts through the turn of the year follows the cycle of it. -/
theorem Zone.Orderly.follows_endingCycle (orderly : zone.Orderly) (real : zone.IsReal)
    (found : zone.saving = some saving) (first : saving.EndsFirst) :
    zone.Follows (zone.endingCycle saving) := by
  -- Both lookups take the branches in which the break lies inside the year.
  have sound := orderly.sound_endingCycle real found first
  have saves (second : Int) :
      zone.isSaving saving second = !(zone.endingCycle saving).isInner second := by
    have apart := (sound.apart (yearOf (second / daySeconds))).1
    simp only [endingCycle] at apart
    rw [isSaving, if_neg (by omega)]
    simp only [Cycle.isInner, endingCycle]
    -- Both look at the same changes, one for the break and the other for what is not broken.
    by_cases opened : second < finishSecond saving (yearOf (second / daySeconds))
    · simp only [opened, if_true]
      rfl
    · by_cases closed : second < zone.startSecond saving (yearOf (second / daySeconds))
      · simp only [opened, closed, if_true, if_false, Bool.not_true]
      · simp only [opened, closed, if_false]
        rfl
  refine ⟨?turns, ?inner, ?outer, ?showing⟩
  -- The turns are listed the other way round.
  case turns =>
    intro year turn member
    rw [turns, found]
    simpa [Cycle.turns, endingCycle, or_comm] using member
  -- The inner offset of this cycle is the standard one, in the break.
  case inner =>
    intro second inside
    have saving := saves second
    rw [(sound.isInner_iff second).mpr inside] at saving
    simp only [offsetAt, found, saving]
    rfl
  case outer =>
    intro second outside
    have saving := saves second
    rw [← sound.isInner_iff, Bool.not_eq_true] at outside
    rw [outside] at saving
    simp only [offsetAt, found, saving]
    rfl
  case showing =>
    intro localSecond months
    have days := first (yearOf (localSecond / daySeconds))
    -- The month in which saving starts is not before the one in which it ends.
    have later : ¬ saving.start.monthIn (yearOf (localSecond / daySeconds)) <
        saving.finish.monthIn (yearOf (localSecond / daySeconds)) :=
      Nat.not_lt_of_le (monthIn_mono _ (by omega))
    simp only [showing, found, later, Cycle.showing, endingCycle, startSecond, finishSecond,
      decide_false, Int.sub_add_cancel, shift]
    -- The lookup goes by which of the offsets is greater.
    rcases Int.lt_trichotomy zone.standard saving.offset with ahead | same | behind
    · simp [ahead, Int.ne_of_lt ahead, Int.ne_of_gt ahead, Int.lt_asymm ahead]
    · simp [same]
    · simp [behind, Int.ne_of_lt behind, Int.ne_of_gt behind, Int.lt_asymm behind]

/-- Whichever change comes first, there is a cycle that the zone follows. -/
theorem Zone.Orderly.exists_cycle (orderly : zone.Orderly) (real : zone.IsReal)
    (found : zone.saving = some saving) :
    ∃ cycle : Cycle, cycle.Sound ∧ zone.Follows cycle := by
  -- Each of the two orders has a cycle of its own.
  rcases orderly.order saving found with first | first
  · exact ⟨_, orderly.sound_startingCycle real found first,
      orderly.follows_startingCycle real found first⟩
  · exact ⟨_, orderly.sound_endingCycle real found first,
      orderly.follows_endingCycle real found first⟩

end

end Tollgate.Calendar
