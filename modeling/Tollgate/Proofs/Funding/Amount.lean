import Tollgate.Funding.Amount

/-! Sums of amounts against the exact sums of the numbers they stand for. -/

namespace Tollgate.Amount

/-- A number that is an amount. -/
def Fits (value : Int) : Prop :=
  Int64.minValue.toInt ≤ value ∧ value ≤ Int64.maxValue.toInt

/-- The exact sum of a list of amounts. -/
def exactSum : List Amount → Int
  | [] => 0
  | amount :: rest => amount.toInt + exactSum rest

@[simp] theorem exactSum_nil : exactSum [] = 0 := rfl

@[simp] theorem exactSum_cons (amount : Amount) (rest : List Amount) :
    exactSum (amount :: rest) = amount.toInt + exactSum rest := rfl

/-- The exact sum of two lists of amounts in a row. -/
theorem exactSum_append (amounts more : List Amount) :
    exactSum (amounts ++ more) = exactSum amounts + exactSum more := by
  -- The sum of the first amounts is taken in front, one amount at a time.
  induction amounts with
  | nil => rw [List.nil_append, exactSum_nil, Int.zero_add]
  | cons amount rest ih => rw [List.cons_append, exactSum_cons, exactSum_cons, ih, Int.add_assoc]

/-- The exact sum does not depend on the order of the amounts. -/
theorem exactSum_perm {amounts other : List Amount} (same : amounts.Perm other) :
    exactSum amounts = exactSum other := by
  -- The cases are the steps that make up a permutation.
  induction same with
  | nil => rfl
  | cons amount _ ih => rw [exactSum_cons, exactSum_cons, ih]
  | swap first second rest =>
    simp only [exactSum_cons]
    omega
  | trans _ _ first second => rw [first, second]

/-- Clamping keeps a number between the least and the greatest amount. -/
theorem toInt_clamp (value : Int) :
    (clamp value).toInt = max Int64.minValue.toInt (min value Int64.maxValue.toInt) := by
  -- Numbers in range are kept, and the others go to the nearer end of it.
  simp only [clamp, Int64.toInt_minValue, Int64.toInt_maxValue]
  split
  · rw [Int64.toInt_minValue]
    omega
  · split
    · rw [Int64.toInt_maxValue]
      omega
    · rw [Int64.toInt_ofInt_of_le (by omega) (by omega)]
      omega

/-- A saturating sum is the exact sum kept in range. -/
theorem toInt_saturatingAdd (left right : Amount) :
    (saturatingAdd left right).toInt =
      max Int64.minValue.toInt (min (left.toInt + right.toInt) Int64.maxValue.toInt) :=
  toInt_clamp _

/-- The exact sum of amounts that are not negative is not negative. -/
theorem exactSum_nonneg {amounts : List Amount}
    (nonneg : ∀ amount ∈ amounts, 0 ≤ amount.toInt) : 0 ≤ exactSum amounts := by
  induction amounts with
  | nil => simp
  | cons amount rest ih =>
    have head := nonneg amount (by simp)
    -- Nothing is taken away by the amounts that follow.
    have tail := ih fun other member => nonneg other (by simp [member])
    rw [exactSum_cons]
    omega

/-- Going on from an amount that is not negative, a saturating sum of such amounts is their exact
sum, up to the greatest amount. -/
theorem toInt_foldl_saturatingAdd {amounts : List Amount}
    (nonneg : ∀ amount ∈ amounts, 0 ≤ amount.toInt) (initial : Amount)
    (started : 0 ≤ initial.toInt) :
    (amounts.foldl saturatingAdd initial).toInt =
      min (initial.toInt + exactSum amounts) Int64.maxValue.toInt := by
  -- Once the greatest amount is reached, nothing that follows can lead away from it.
  induction amounts generalizing initial with
  | nil =>
    have bounded := initial.toInt_le
    simp only [List.foldl_nil, exactSum_nil]
    omega
  | cons amount rest ih =>
    have head := nonneg amount (by simp)
    have others : ∀ other ∈ rest, 0 ≤ other.toInt :=
      fun other member => nonneg other (by simp [member])
    have tail := exactSum_nonneg others
    -- The first addition stops at the greatest amount or is exact, and so does what follows.
    have step := toInt_saturatingAdd initial amount
    -- The ends of the range are needed as numbers.
    have least := Int64.toInt_minValue
    have greatest := Int64.toInt_maxValue
    rw [List.foldl_cons, ih others _ (by omega), step, exactSum_cons]
    omega

/-- A saturating sum of amounts that are not negative is their exact sum, up to the greatest
amount. -/
theorem toInt_saturatingSum {amounts : List Amount}
    (nonneg : ∀ amount ∈ amounts, 0 ≤ amount.toInt) :
    (saturatingSum amounts).toInt = min (exactSum amounts) Int64.maxValue.toInt := by
  have summed := toInt_foldl_saturatingAdd nonneg 0 (by simp)
  simpa [saturatingSum] using summed

/-- A saturating sum of amounts that are not negative does not depend on their order. -/
theorem saturatingSum_perm {amounts other : List Amount}
    (nonneg : ∀ amount ∈ amounts, 0 ≤ amount.toInt) (same : amounts.Perm other) :
    saturatingSum amounts = saturatingSum other := by
  -- In either order the sum is cut off at the end only, not on the way.
  have alsoNonneg : ∀ amount ∈ other, 0 ≤ amount.toInt :=
    fun amount member => nonneg amount (same.mem_iff.mpr member)
  apply Int64.toInt_inj.mp
  rw [toInt_saturatingSum nonneg, toInt_saturatingSum alsoNonneg, exactSum_perm same]

/-- The exact sum of positive amounts is positive as soon as there is one of them. -/
theorem exactSum_pos {amounts : List Amount} (positive : ∀ amount ∈ amounts, 0 < amount.toInt)
    (nonempty : amounts ≠ []) : 0 < exactSum amounts := by
  -- The first amount is more than nothing, and the others take nothing away.
  cases amounts with
  | nil => exact absurd rfl nonempty
  | cons amount rest =>
    have head := positive amount (by simp)
    have tail : 0 ≤ exactSum rest := exactSum_nonneg fun other member =>
      Int.le_of_lt (positive other (by simp [member]))
    rw [exactSum_cons]
    omega

/-- A saturating sum of positive amounts is positive exactly if there is one of them. -/
theorem saturatingSum_pos_iff {amounts : List Amount}
    (positive : ∀ amount ∈ amounts, 0 < amount.toInt) :
    0 < saturatingSum amounts ↔ amounts ≠ [] := by
  constructor
  · rintro summed rfl
    -- The sum of no amounts is nothing.
    simp [saturatingSum] at summed
  · -- The sum may be cut off, but only far above nothing.
    intro nonempty
    have summed := toInt_saturatingSum fun amount member =>
      Int.le_of_lt (positive amount member)
    have total := exactSum_pos positive nonempty
    have greatest := Int64.toInt_maxValue
    rw [Int64.lt_iff_toInt_lt, summed, Int64.toInt_zero]
    omega

/-- A sum of amounts that goes round at the ends of the range agrees with the exact sum up to whole
rounds. -/
theorem toInt_foldl_add (amounts : List Amount) (initial : Amount) :
    (amounts.foldl (· + ·) initial).toInt =
      (initial.toInt + exactSum amounts).bmod Int64.size := by
  -- Whole rounds lost on the way do not matter for the next addition.
  induction amounts generalizing initial with
  | nil => simp
  | cons amount rest ih =>
    have step : (initial + amount).toInt = (initial.toInt + amount.toInt).bmod Int64.size :=
      Int64.toInt_add initial amount
    rw [List.foldl_cons, ih, step, Int.bmod_add_bmod, exactSum_cons, Int.add_assoc]

/-- A sum of amounts is the exact sum whenever that is an amount itself, whatever happens on the
way. -/
theorem toInt_foldl_add_of_fits {amounts : List Amount} (fits : Fits (exactSum amounts)) :
    (amounts.foldl (· + ·) 0).toInt = exactSum amounts := by
  -- A number in range is the only one in range that differs from it by whole rounds.
  obtain ⟨least, greatest⟩ := fits
  rw [Int64.toInt_minValue] at least
  rw [Int64.toInt_maxValue] at greatest
  rw [toInt_foldl_add, Int64.toInt_zero, Int.zero_add]
  have range : Int64.size = 2 * 9223372036854775808 := rfl
  exact Int.bmod_eq_of_le (by omega) (by omega)

end Tollgate.Amount
