import Tollgate.Calendar.ZoneText
import Tollgate.Proofs.Calendar.Date

/-!
What the text of a zone says is within bounds: numbers of days name days of the year, clocks are
changed in the course of the day they are changed on or in the hour behind it, and standard time is
less than a day ahead or behind.
-/

namespace Tollgate.Calendar

/-- A change on a day of the year, in the course of the day or in the hour behind it. -/
structure Change.IsReal (change : Change) : Prop where
  day : change.day.IsReal
  time : 0 ≤ change.time ∧ change.time < daySeconds + 3600

/-- A zone that a text can describe. -/
structure Zone.IsReal (zone : Zone) : Prop where
  standard : isClockOffset zone.standard = true
  changes : ∀ saving ∈ zone.saving, saving.start.IsReal ∧ saving.finish.IsReal

/-- Clocks can be set less than a day ahead or behind. -/
theorem isClockOffset_iff (offset : Int) :
    isClockOffset offset = true ↔ -86400 < offset ∧ offset < 86400 := by
  -- The day that an offset is compared with is counted in seconds.
  simp only [isClockOffset, Bool.and_eq_true, decide_eq_true_eq]
  exact Iff.rfl

/-- A number is taken only within its bounds. -/
theorem takeNumber_within {low high value : Nat} {text rest : List Char}
    (taken : takeNumber low high text = some (value, rest)) : low ≤ value ∧ value ≤ high := by
  simp only [takeNumber] at taken
  -- The bounds are what the number is tested for.
  split at taken
  · rename_i within
    simp only [Bool.and_eq_true, decide_eq_true_eq] at within
    obtain ⟨rfl, -⟩ := Prod.mk.inj (Option.some.inj taken)
    exact ⟨within.1.2, within.2⟩
  · simp at taken

/-- Minutes and seconds stay below sixty. -/
theorem takeSixtieths_within {value : Nat} {text rest : List Char}
    (taken : takeSixtieths text = some (value, rest)) : value ≤ 59 := by
  -- A part that is left out counts as zero.
  unfold takeSixtieths at taken
  split at taken
  · exact (takeNumber_within taken).2
  · obtain ⟨rfl, -⟩ := Prod.mk.inj (Option.some.inj taken)
    decide

/-- A time is within the hour that the bound on its hours begins. -/
theorem takeTime_within {bound : Nat} {time : Int} {text rest : List Char}
    (taken : takeTime bound text = some (time, rest)) : 0 ≤ time ∧ time < (bound + 1) * 3600 := by
  -- Hours are bounded by the text of their kind, minutes and seconds by sixty.
  simp only [takeTime, Option.bind_eq_bind, Option.bind_eq_some_iff] at taken
  obtain ⟨⟨hours, behind⟩, counted, taken⟩ := taken
  have within := (takeNumber_within counted).2
  simp only at taken
  split at taken
  · simp only [Option.bind_eq_some_iff] at taken
    obtain ⟨⟨minutes, behind⟩, minutesTaken, ⟨seconds, last⟩, secondsTaken, taken⟩ := taken
    have := takeSixtieths_within minutesTaken
    have := takeSixtieths_within secondsTaken
    obtain ⟨rfl, -⟩ := Prod.mk.inj (Option.some.inj taken)
    omega
  · obtain ⟨rfl, -⟩ := Prod.mk.inj (Option.some.inj taken)
    omega

/-- An offset that is given is one that clocks can be set to. -/
theorem takeOffset_within {offset : Int} {text rest : List Char}
    (taken : takeOffset text = some (offset, rest)) : isClockOffset (-offset) = true := by
  have clock {time : Int} (within : 0 ≤ time ∧ time < (23 + 1) * 3600) :
      isClockOffset time = true ∧ isClockOffset (-time) = true := by
    -- The hours end where the day does, so the time itself and its opposite are both below a day.
    rw [isClockOffset_iff, isClockOffset_iff]
    omega
  -- The text gives the offset to the west, so the sign is turned twice or not at all.
  unfold takeOffset at taken
  split at taken
  · obtain ⟨⟨time, behind⟩, timeTaken, same⟩ := Option.map_eq_some_iff.mp taken
    obtain ⟨rfl, -⟩ := Prod.mk.inj same
    rw [Int.neg_neg]
    exact (clock (takeTime_within timeTaken)).1
  · exact (clock (takeTime_within taken)).2
  · exact (clock (takeTime_within taken)).2

/-- A number behind a full stop is taken only within its bounds. -/
theorem takeDotted_within {low high value : Nat} {text rest : List Char}
    (taken : takeDotted low high text = some (value, rest)) : low ≤ value ∧ value ≤ high := by
  -- Without a full stop there is no number.
  unfold takeDotted at taken
  split at taken
  · exact takeNumber_within taken
  · simp at taken

/-- A day of the year that is taken is one. -/
theorem takeYearDay_real {yearDay : YearDay} {text rest : List Char}
    (taken : takeYearDay text = some (yearDay, rest)) : yearDay.IsReal := by
  -- Each of the three ways to write a day takes its numbers within bounds.
  unfold takeYearDay at taken
  split at taken
  · obtain ⟨⟨number, behind⟩, numberTaken, same⟩ := Option.map_eq_some_iff.mp taken
    obtain ⟨rfl, -⟩ := Prod.mk.inj same
    exact takeNumber_within numberTaken
  · simp only [Option.bind_eq_bind, Option.bind_eq_some_iff] at taken
    obtain ⟨⟨month, behind⟩, monthTaken, ⟨week, after⟩, weekTaken, ⟨day, last⟩, dayTaken, taken⟩ :=
      taken
    obtain ⟨rfl, -⟩ := Prod.mk.inj (Option.some.inj taken)
    exact ⟨takeNumber_within monthTaken, takeDotted_within weekTaken,
      (takeDotted_within dayTaken).2⟩
  · obtain ⟨⟨number, behind⟩, numberTaken, same⟩ := Option.map_eq_some_iff.mp taken
    obtain ⟨rfl, -⟩ := Prod.mk.inj same
    exact (takeNumber_within numberTaken).2

/-- A change that is taken is real. -/
theorem takeChange_real {change : Change} {text rest : List Char}
    (taken : takeChange text = some (change, rest)) : change.IsReal := by
  unfold takeChange at taken
  -- A change has its day behind a comma, and its time behind a slash if it has one.
  split at taken
  · simp only [Option.bind_eq_bind, Option.bind_eq_some_iff] at taken
    obtain ⟨⟨day, behind⟩, dayTaken, taken⟩ := taken
    -- The day is tested first, whatever follows it.
    have day := takeYearDay_real dayTaken
    simp only at taken
    split at taken
    · simp only [Option.bind_eq_some_iff] at taken
      obtain ⟨⟨time, last⟩, timeTaken, taken⟩ := taken
      obtain ⟨rfl, -⟩ := Prod.mk.inj (Option.some.inj taken)
      exact ⟨day, takeTime_within timeTaken⟩
    · -- Clocks are changed at two unless another time is given.
      obtain ⟨rfl, -⟩ := Prod.mk.inj (Option.some.inj taken)
      exact ⟨day, by simp [daySeconds]⟩
  · simp at taken

/-- A zone that has a text is real. -/
theorem Zone.isReal_of_ofText? {text : String} {zone : Zone} (given : ofText? text = some zone) :
    zone.IsReal := by
  -- Each step of reading the text has succeeded, since the last one has.
  simp only [ofText?, Option.bind_eq_bind, Option.bind_eq_some_iff] at given
  obtain ⟨named, _, ⟨west, behind⟩, standardTaken, given⟩ := given
  have standard := takeOffset_within standardTaken
  -- Whatever the offset of the saving is, both changes are taken behind it.
  have changed {offset : Int} {rest : List Char}
      (given : ((takeChange rest).bind fun start => (takeChange start.2).bind fun finish =>
        if finish.2.isEmpty then some ⟨-west, some ⟨offset, start.1, finish.1⟩⟩ else none) =
          some zone) : zone.IsReal := by
    simp only [Option.bind_eq_some_iff] at given
    obtain ⟨⟨start, _⟩, startTaken, ⟨finish, _⟩, finishTaken, given⟩ := given
    -- Nothing may be left over behind the second change.
    split at given
    · obtain rfl := Option.some.inj given
      refine ⟨standard, fun saving found => ?_⟩
      obtain rfl := Option.some.inj found
      exact ⟨takeChange_real startTaken, takeChange_real finishTaken⟩
    · simp at given
  simp only at given
  split at given
  · -- Nothing is said about daylight saving.
    obtain rfl := Option.some.inj given
    exact ⟨standard, by simp⟩
  · obtain ⟨_, _, given⟩ := Option.bind_eq_some_iff.mp given
    -- The offset of the saving is an hour ahead, or stands in front of the changes.
    split at given
    · exact changed given
    · obtain ⟨⟨offset, _⟩, _, given⟩ := Option.bind_eq_some_iff.mp given
      exact changed given

end Tollgate.Calendar
