import OlapQuery.Decimal.Shortest
import OlapQuery.Proofs.ExactNumbers

-- The decimal that stands for a double lies among the reals that round to it, and no real rounds
-- to two doubles. So the decimal is enough to tell which double it stands for. That there is one
-- of at most seventeen digits is a matter of widths: their grid is finer than the doubles.

namespace OlapQuery.Decimal

def value (d : Decimal) : ℚ :=
  d.digits * 10 ^ d.exponent

namespace Binary

def value (b : Binary) : ℚ :=
  b.significand * 2 ^ b.exponent

-- Half way to the next smaller double, which may be closer by half, and to the next larger one.
def low (b : Binary) : ℚ :=
  (4 * b.significand - if b.narrowBelow then 1 else 2) * 2 ^ (b.exponent - 2)

def high (b : Binary) : ℚ :=
  (4 * b.significand + 2) * 2 ^ (b.exponent - 2)

-- The magnitude of a double that is not zero.
structure Double (b : Binary) : Prop where
  fits : Canonical b.significand b.exponent
  some : 0 < b.significand
  narrow : b.narrowBelow = true ↔ b.significand = 2 ^ 52 ∧ -1074 < b.exponent

-- The real rounds to the double: the ends of the interval only do if the significand is even.
structure Rounds (b : Binary) (r : ℚ) : Prop where
  least : b.low ≤ r
  most : r ≤ b.high
  inside : b.significand % 2 = 1 → b.low < r ∧ r < b.high

section Order

theorem quarter (e : Int) : (2 : ℚ) ^ e = 4 * 2 ^ (e - 2) := by
  rw [zpow_sub₀ (by norm_num)]
  norm_num
  ring

theorem value_quarters (b : Binary) : b.value = 4 * b.significand * 2 ^ (b.exponent - 2) := by
  rw [value,quarter]
  ring

theorem low_value (b : Binary) : b.low < b.value := by
  have power : (0 : ℚ) < 2 ^ (b.exponent - 2) := zpow_pos (by norm_num) _
  rw [low,value_quarters]
  gcongr
  split <;> linarith

theorem value_high (b : Binary) : b.value < b.high := by
  have power : (0 : ℚ) < 2 ^ (b.exponent - 2) := zpow_pos (by norm_num) _
  rw [high,value_quarters]
  gcongr
  linarith

theorem rounds_value (b : Binary) : b.Rounds b.value :=
  ⟨b.low_value.le,b.value_high.le,fun _ => ⟨b.low_value,b.value_high⟩⟩

variable {a b : Binary}

theorem low_pos (some : 0 < b.significand) : 0 < b.low := by
  have power : (0 : ℚ) < 2 ^ (b.exponent - 2) := zpow_pos (by norm_num) _
  have counted : (1 : ℚ) ≤ b.significand := by exact_mod_cast some
  rw [low]
  apply mul_pos _ power
  split <;> linarith

-- The intervals of doubles in ascending order meet in one end at most, and then one of the two
-- does not have it.
theorem apart_alike (same : a.exponent = b.exponent) (order : a.significand < b.significand) :
    a.high ≤ b.low ∧ (a.significand % 2 = 0 → b.significand % 2 = 0 → a.high < b.low) := by
  have power : (0 : ℚ) < 2 ^ (b.exponent - 2) := zpow_pos (by norm_num) _
  have next : (a.significand : ℚ) + 1 ≤ b.significand := by exact_mod_cast order
  rw [high,low,same]
  constructor
  · gcongr
    split <;> linarith
  · intro even other
    have skips : (a.significand : ℚ) + 2 ≤ b.significand := by
      have : a.significand + 2 ≤ b.significand := by omega
      exact_mod_cast this
    gcongr
    split <;> linarith

theorem apart_scaled (first : a.Double) (second : b.Double) (order : a.exponent < b.exponent) :
    a.high ≤ b.low ∧ (a.significand % 2 = 0 → a.high < b.low) := by
  have power : (0 : ℚ) < 2 ^ (a.exponent - 2) := zpow_pos (by norm_num) _
  have least := first.fits.least
  have below := first.fits.below
  have full : 2 ^ 52 ≤ b.significand := second.fits.full.resolve_right (by omega)
  -- The least double of a larger exponent, less a quarter of its last place.
  have start : (2 ^ 55 - 2 : ℚ) * 2 ^ (a.exponent - 2) ≤ b.low := by
    have scaled : (2 : ℚ) ^ (a.exponent - 2) * 2 ≤ 2 ^ (b.exponent - 2) := by
      rw [← zpow_add_one₀ (by norm_num)]
      exact zpow_le_zpow_right₀ (by norm_num) (by omega)
    have counted : (2 ^ 54 - 1 : ℚ) ≤ 4 * b.significand - if b.narrowBelow then 1 else 2 := by
      by_cases leading : b.significand = 2 ^ 52
      · rw [if_pos (second.narrow.mpr ⟨leading,by omega⟩),leading]
        norm_num
      · have more : ((2 ^ 52 + 1 : Nat) : ℚ) ≤ b.significand := by
          have : 2 ^ 52 + 1 ≤ b.significand := by omega
          exact_mod_cast this
        push_cast at more
        split <;> linarith
    calc (2 ^ 55 - 2 : ℚ) * 2 ^ (a.exponent - 2)
        = (2 ^ 54 - 1) * (2 ^ (a.exponent - 2) * 2) := by ring
      _ ≤ (4 * b.significand - if b.narrowBelow then 1 else 2) * 2 ^ (b.exponent - 2) := by
        gcongr
  constructor
  · refine le_trans ?_ start
    rw [high]
    have most : (a.significand : ℚ) + 1 ≤ 2 ^ 53 := by exact_mod_cast below
    gcongr
    linarith
  · intro even
    refine lt_of_lt_of_le ?_ start
    rw [high]
    have most : (a.significand : ℚ) + 2 ≤ 2 ^ 53 := by
      have : a.significand + 2 ≤ 2 ^ 53 := by omega
      exact_mod_cast this
    gcongr
    linarith

theorem rounds_apart {r : ℚ} (first : a.Rounds r) (second : b.Rounds r)
    (apart : a.high ≤ b.low)
    (strict : a.significand % 2 = 0 → b.significand % 2 = 0 → a.high < b.low) : False := by
  have least := second.least
  have most := first.most
  rcases Nat.mod_two_eq_zero_or_one a.significand with even | odd
  · rcases Nat.mod_two_eq_zero_or_one b.significand with other | odd
    · have := strict even other
      linarith
    · have := (second.inside odd).1
      linarith
  · have := (first.inside odd).2
    linarith

theorem rounds_unique {r : ℚ} (first : a.Double) (second : b.Double) (left : a.Rounds r)
    (right : b.Rounds r) : a.significand = b.significand ∧ a.exponent = b.exponent := by
  rcases lt_trichotomy a.exponent b.exponent with order | same | order
  · obtain ⟨apart,strict⟩ := apart_scaled first second order
    exact (rounds_apart left right apart fun even _ => strict even).elim
  · rcases lt_trichotomy a.significand b.significand with order | equal | order
    · obtain ⟨apart,strict⟩ := apart_alike same order
      exact (rounds_apart left right apart strict).elim
    · exact ⟨equal,same⟩
    · obtain ⟨apart,strict⟩ := apart_alike same.symm order
      exact (rounds_apart right left apart strict).elim
  · obtain ⟨apart,strict⟩ := apart_scaled second first order
    exact (rounds_apart right left apart fun even _ => strict even).elim

end Order

section Grid

theorem zpow_toNat {x : ℚ} (some : x ≠ 0) (n : Int) :
    x ^ n.toNat = x ^ n * x ^ (-n).toNat := by
  rw [← zpow_natCast,← zpow_natCast,← zpow_add₀ some]
  congr 1
  omega

-- The interval of a double, counted in steps of a power of ten.
structure Steps (b : Binary) (exponent : Int) (i : Interval) : Prop where
  some : 0 < i.denominator
  low : (i.low : ℚ) = b.low * 10 ^ (-exponent) * i.denominator
  value : (i.value : ℚ) = b.value * 10 ^ (-exponent) * i.denominator
  high : (i.high : ℚ) = b.high * 10 ^ (-exponent) * i.denominator
  closed : i.closed = (b.significand % 2 == 0)

theorem interval_steps {b : Binary} (some : 0 < b.significand) : b.Steps 0 b.interval := by
  have power := zpow_toNat (x := 2) (by norm_num) (b.exponent - 2)
  refine ⟨Nat.pow_pos (by decide),?_,?_,?_,rfl⟩
  · have cast : ((if b.narrowBelow then 4 * b.significand - 1 else 4 * b.significand - 2 : Nat) : ℚ)
        = 4 * b.significand - if b.narrowBelow then 1 else 2 := by
      split
      · push_cast [show 1 ≤ 4 * b.significand by omega]
        ring
      · push_cast [show 2 ≤ 4 * b.significand by omega]
        ring
    simp only [interval,Nat.pow_eq,Nat.cast_mul,cast,Nat.cast_pow,Nat.cast_ofNat,power,low]
    ring
  · simp only [interval,Nat.pow_eq,Nat.cast_mul,Nat.cast_pow,Nat.cast_ofNat,power,value_quarters]
    ring
  · simp only [interval,Nat.pow_eq,Nat.cast_mul,Nat.cast_add,Nat.cast_pow,Nat.cast_ofNat,power,high]
    ring

theorem onGrid_steps {b : Binary} (some : 0 < b.significand) (exponent : Int) :
    b.Steps exponent (b.interval.onGrid exponent) := by
  have whole := interval_steps some
  have power : (10 : ℚ) ^ (-exponent).toNat = 10 ^ (-exponent) * 10 ^ exponent.toNat := by
    rw [zpow_toNat (by norm_num) (-exponent),neg_neg]
  have positive := whole.some
  refine ⟨Nat.mul_pos positive (Nat.pow_pos (by decide)),?_,?_,?_,whole.closed⟩
  · simp only [Interval.onGrid,Nat.pow_eq,Nat.cast_mul,Nat.cast_pow,Nat.cast_ofNat,power,whole.low]
    ring
  · simp only [Interval.onGrid,Nat.pow_eq,Nat.cast_mul,Nat.cast_pow,Nat.cast_ofNat,power,whole.value]
    ring
  · simp only [Interval.onGrid,Nat.pow_eq,Nat.cast_mul,Nat.cast_pow,Nat.cast_ofNat,power,whole.high]
    ring

section
variable {b : Binary} {exponent : Int} {i : Interval} (steps : b.Steps exponent i)
include steps

theorem steps_compare {x : ℚ} {k : Nat} (is : (k : ℚ) = x * 10 ^ (-exponent) * i.denominator)
    (n : Nat) : (k ≤ n * i.denominator ↔ x ≤ n * 10 ^ exponent) ∧
      (n * i.denominator ≤ k ↔ n * 10 ^ exponent ≤ x) := by
  have unit : (0 : ℚ) < 10 ^ exponent := zpow_pos (by norm_num) _
  have count : (0 : ℚ) < i.denominator := by exact_mod_cast steps.some
  constructor
  · rw [← Nat.cast_le (α := ℚ),Nat.cast_mul,is,mul_le_mul_iff_left₀ count,zpow_neg,
      mul_inv_le_iff₀ unit]
  · rw [← Nat.cast_le (α := ℚ),Nat.cast_mul,is,mul_le_mul_iff_left₀ count,zpow_neg,
      le_mul_inv_iff₀ unit]

theorem contains_rounds {n : Nat} (inside : i.contains n = true) : b.Rounds (n * 10 ^ exponent) := by
  obtain ⟨least,above⟩ := steps_compare steps steps.low n
  obtain ⟨below,most⟩ := steps_compare steps steps.high n
  unfold Interval.contains at inside
  split at inside
  · rename_i closed
    rw [steps.closed,beq_iff_eq] at closed
    simp only [Bool.and_eq_true,decide_eq_true_eq] at inside
    exact ⟨least.mp inside.1,most.mp inside.2,fun odd => by omega⟩
  · simp only [Bool.and_eq_true,decide_eq_true_eq] at inside
    have first := not_le.mp (mt above.mpr (by omega))
    have last := not_le.mp (mt below.mpr (by omega))
    exact ⟨first.le,last.le,fun _ => ⟨first,last⟩⟩

theorem steps_inside : i.low < i.value ∧ i.value < i.high := by
  have unit : (0 : ℚ) < 10 ^ (-exponent) := zpow_pos (by norm_num) _
  have count : (0 : ℚ) < i.denominator := by exact_mod_cast steps.some
  have low := mul_lt_mul_of_pos_right (mul_lt_mul_of_pos_right b.low_value unit) count
  have high := mul_lt_mul_of_pos_right (mul_lt_mul_of_pos_right b.value_high unit) count
  rw [← steps.low,← steps.value] at low
  rw [← steps.value,← steps.high] at high
  exact_mod_cast And.intro low high

omit steps in
theorem nearest_contains {n : Nat} (found : i.nearest? = some n) : i.contains n = true := by
  unfold Interval.nearest? at found
  dsimp only at found
  split at found
  · cases found
  · rename_i below _
    cases found
    exact below
  · rename_i above
    cases found
    exact above
  · rename_i below above
    split at found
    · cases found; exact below
    · split at found
      · cases found; exact above
      · split at found
        · cases found; exact below
        · cases found; exact above

theorem steps_wide (wide : (10 : ℚ) ^ exponent < b.high - b.low) :
    i.low + i.denominator < i.high := by
  have unit : (0 : ℚ) < 10 ^ (-exponent) := zpow_pos (by norm_num) _
  have count : (0 : ℚ) < i.denominator := by exact_mod_cast steps.some
  have one : (10 : ℚ) ^ exponent * 10 ^ (-exponent) = 1 := by
    rw [← zpow_add₀ (by norm_num),add_neg_cancel,zpow_zero]
  have counted : b.low * 10 ^ (-exponent) + 1 < b.high * 10 ^ (-exponent) := by
    have scaled := mul_lt_mul_of_pos_right wide unit
    rw [one,sub_mul] at scaled
    linarith
  have order := mul_lt_mul_of_pos_right counted count
  rw [add_mul,one_mul,← steps.low,← steps.high] at order
  exact_mod_cast order

-- In an interval that is wider than a step the value is next to a step.
theorem nearest_found (wide : (10 : ℚ) ^ exponent < b.high - b.low) : i.nearest? ≠ none := by
  intro none
  have wide := steps_wide steps wide
  obtain ⟨low,high⟩ := steps_inside steps
  have first := Nat.div_mul_le_self i.value i.denominator
  have last := @Nat.lt_div_mul_add i.value _ steps.some
  unfold Interval.nearest? at none
  dsimp only at none
  split at none
  · rename_i below above
    unfold Interval.contains at below above
    rw [Nat.add_mul,Nat.one_mul] at above
    split at below
    · rename_i closed
      rw [if_pos closed] at above
      simp only [Bool.and_eq_false_iff,decide_eq_false_iff_not] at below above
      omega
    · rename_i closed
      rw [if_neg closed] at above
      simp only [Bool.and_eq_false_iff,decide_eq_false_iff_not] at below above
      omega
  · cases none
  · cases none
  · split at none
    · cases none
    · split at none
      · cases none
      · split at none <;> cases none

end

end Grid

section Leading

variable {b : Binary}

-- A binary exponent times the logarithm, cut off and less one, is a decimal exponent that is not
-- too large.
theorem power_estimate {k estimate : Int} (is : estimate = Int.fdiv (k * 30103) 100000)
    (small : -10000 < k) (large : k < 10000) : (10 : ℚ) ^ (estimate - 1) ≤ 2 ^ k := by
  have cut : estimate * 100000 ≤ k * 30103 := by
    rw [is,Int.fdiv_eq_ediv_of_nonneg _ (by norm_num)]
    omega
  rcases le_total 0 k with up | down
  · have compared : ((10 : ℚ) ^ (estimate - 1)) ^ 196 ≤ (2 ^ k) ^ 196 := by
      calc ((10 : ℚ) ^ (estimate - 1)) ^ 196 = 10 ^ ((estimate - 1) * 196) := by
            rw [← zpow_natCast,← zpow_mul]; rfl
        _ ≤ 10 ^ (59 * k) := zpow_le_zpow_right₀ (by norm_num) (by omega)
        _ = (10 ^ (59 : Int)) ^ k := by rw [zpow_mul]
        _ ≤ (2 ^ (196 : Int)) ^ k := zpow_le_zpow_left₀ up (by positivity) (by norm_num)
        _ = (2 ^ k) ^ 196 := by rw [← zpow_natCast,← zpow_mul,← zpow_mul,mul_comm]; rfl
    exact le_of_pow_le_pow_left₀ (by norm_num) (by positivity) compared
  · have compared : ((10 : ℚ) ^ (estimate - 1)) ^ 93 ≤ (2 ^ k) ^ 93 := by
      calc ((10 : ℚ) ^ (estimate - 1)) ^ 93 = 10 ^ ((estimate - 1) * 93) := by
            rw [← zpow_natCast,← zpow_mul]; rfl
        _ ≤ 10 ^ (28 * k) := zpow_le_zpow_right₀ (by norm_num) (by omega)
        _ = (10 ^ (28 : Int)) ^ k := by rw [zpow_mul]
        _ ≤ (2 ^ (93 : Int)) ^ k := by
            rw [← neg_neg k,zpow_neg,zpow_neg (2 ^ (93 : Int) : ℚ)]
            gcongr ?_⁻¹
            exact zpow_le_zpow_left₀ (by omega) (by positivity) (by norm_num)
        _ = (2 ^ k) ^ 93 := by rw [← zpow_natCast,← zpow_mul,← zpow_mul,mul_comm]; rfl
    exact le_of_pow_le_pow_left₀ (by norm_num) (by positivity) compared

theorem log2_value (some : 0 < b.significand) :
    (2 : ℚ) ^ ((b.significand.log2 : Int) + b.exponent) ≤ b.value := by
  have digits : ((2 ^ b.significand.log2 : Nat) : ℚ) ≤ b.significand := by
    exact_mod_cast Nat.log2_self_le some.ne'
  push_cast at digits
  rw [zpow_add₀ (by norm_num),zpow_natCast,value]
  gcongr

theorem reaches_value {exponent : Int} (some : 0 < b.significand)
    (reaches : (b.interval.onGrid exponent).denominator ≤ (b.interval.onGrid exponent).value) :
    (10 : ℚ) ^ exponent ≤ b.value := by
  have steps := onGrid_steps some exponent
  have compared := (steps_compare steps steps.value 1).2.mp (by rwa [Nat.one_mul])
  rwa [Nat.cast_one,one_mul] at compared

theorem leading_value (double : b.Double) : (10 : ℚ) ^ b.leadingExponent b.interval ≤ b.value := by
  have some := double.some
  have digits := (Nat.log2_lt some.ne').mpr double.fits.below
  have least := double.fits.least
  have most := double.fits.most
  unfold leadingExponent
  dsimp only
  split
  · rename_i reaches
    exact reaches_value some (of_decide_eq_true reaches)
  · split
    · rename_i reaches
      exact reaches_value some (of_decide_eq_true reaches)
    · exact (power_estimate rfl (by omega) (by omega)).trans (log2_value some)

theorem step_width (double : b.Double) {exponent : Int}
    (fine : exponent = b.leadingExponent b.interval - 16) : (10 : ℚ) ^ exponent < b.high - b.low := by
  have power : (0 : ℚ) < 2 ^ (b.exponent - 2) := zpow_pos (by norm_num) _
  have leading := leading_value double
  rw [value_quarters] at leading
  have step : (10 : ℚ) ^ exponent * 10 ^ 16 = 10 ^ b.leadingExponent b.interval := by
    rw [fine,zpow_sub₀ (by norm_num)]
    norm_num
  have width : b.high - b.low
      = (if b.narrowBelow then 3 else 4) * 2 ^ (b.exponent - 2) := by
    rw [high,low]
    split <;> ring
  have bounded : 4 * (b.significand : ℚ) < (if b.narrowBelow then 3 else 4) * 10 ^ 16 := by
    split
    · rename_i narrow
      rw [(double.narrow.mp narrow).1]
      norm_num
    · have below : (b.significand : ℚ) < 2 ^ 53 := by exact_mod_cast double.fits.below
      linarith
  have short : 4 * (b.significand : ℚ) * 2 ^ (b.exponent - 2)
      < (if b.narrowBelow then 3 else 4) * 10 ^ 16 * 2 ^ (b.exponent - 2) := by gcongr
  rw [width]
  linarith

-- Seventeen digits are always enough.
theorem nearest_last (double : b.Double) :
    (b.interval.onGrid (b.leadingExponent b.interval - (16 : Nat))).nearest? ≠ none :=
  nearest_found (onGrid_steps double.some _) (step_width double rfl)

theorem stripZeros_value (n : Nat) (d : Decimal) : (stripZeros n d).value = d.value := by
  induction n generalizing d with
  | zero => rfl
  | succ n ih =>
      unfold stripZeros
      split
      · rename_i zero
        have digits : (d.digits : ℚ) = 10 * (d.digits / 10 : Nat) := by
          have whole : d.digits = 10 * (d.digits / 10) := by omega
          exact_mod_cast whole
        rw [ih,Decimal.value,Decimal.value,digits,zpow_add_one₀ (by norm_num)]
        ring
      · rfl

theorem shortest_rounds (double : b.Double) : b.Rounds b.shortest.value := by
  unfold shortest
  rw [if_neg double.some.ne']
  dsimp only
  rw [stripZeros_value]
  cases found : (List.range 17).findSome? fun (places : Nat) =>
      ((b.interval.onGrid (b.leadingExponent b.interval - (places : Int))).nearest?.map fun digits =>
        ({ digits,exponent := b.leadingExponent b.interval - (places : Int) } : Decimal)) with
  | none =>
      have last := List.findSome?_eq_none_iff.mp found 16 (by decide)
      rw [Option.map_eq_none_iff] at last
      exact absurd last (nearest_last double)
  | some d =>
      obtain ⟨places,-,made⟩ := List.exists_of_findSome?_eq_some found
      obtain ⟨digits,nearest,rfl⟩ := Option.map_eq_some_iff.mp made
      exact contains_rounds (onGrid_steps double.some _) (nearest_contains nearest)

end Leading

end Binary

end OlapQuery.Decimal
