import Mathlib.Algebra.Order.Field.Power
import Mathlib.Algebra.Order.Ring.Rat
import Mathlib.Tactic.FieldSimp
import Mathlib.Tactic.Linarith
import Mathlib.Tactic.Ring
import OlapQuery.PostProcess

-- Doubles as the rational numbers they stand for. Comparisons are those of the numbers, and a
-- sum is exact whenever it is the number of some double; a number put into a row and read back
-- is the same number.

namespace OlapQuery.Decimal

open Float.Model (UnpackedFloat Format totalExponent)
open Float.Model.UnpackedFloat

def unpackedValue? : UnpackedFloat → Option ℚ
  | .infinity _ => none
  | .notANumber => none
  | .zero _ => some 0
  | .finite s m e _ => some ((s.apply m : ℤ) * 2 ^ e)

def value? (x : Float) : Option ℚ :=
  unpackedValue? x.toModel.unpack

-- The mantissas and exponents of finite doubles. Each number but zero has one of them.
structure Canonical (m : Nat) (e : Int) : Prop where
  below : m < 2 ^ 53
  least : -1074 ≤ e
  most : e ≤ 971
  full : 2 ^ 52 ≤ m ∨ e = -1074

section Packing

theorem unpackSign_pack (s : Sign) (exponent : BitVec 11) (mantissa : BitVec 52) :
    Sign.ofBitVec (@unpackSign Format.binary64 (packComponents Format.binary64 s exponent mantissa))
      = s := by
  have bit : @unpackSign Format.binary64 (packComponents Format.binary64 s exponent mantissa)
      = s.toBitVec := by
    apply BitVec.eq_of_getLsbD_eq
    intro i bound
    obtain rfl : i = 0 := by omega
    delta unpackSign
    simp [packComponents]
    rw [BitVec.getLsbD_append,BitVec.getLsbD_append]
    simp
  rw [bit]
  cases s <;> rfl

theorem toNat_implicit (m : BitVec 52) : (1#1 ++ m).toNat = 2 ^ 52 + m.toNat := by
  rw [BitVec.toNat_append,← Nat.shiftLeft_add_eq_or_of_lt m.isLt]
  simp [Nat.shiftLeft_eq]

theorem unpack_normal {s : Sign} {exponent : BitVec 11} {mantissa : BitVec 52}
    (number : exponent ≠ -1#11) (normal : exponent ≠ 0#11) :
    UnpackedFloat.unpack Format.binary64 (packComponents Format.binary64 s exponent mantissa)
      = .finite s (1#1 ++ mantissa).toNat (exponent.toNat - 1075) (by rw [toNat_implicit]; omega) := by
  unfold UnpackedFloat.unpack
  dsimp only
  rw [if_neg (by rwa [unpackExponent_packComponents]),
    if_neg (by rwa [unpackExponent_packComponents]),UnpackedFloat.finite.injEq]
  refine ⟨unpackSign_pack _ _ _,?_,?_⟩
  · rw [unpackMantissa_packComponents]
  · rw [unpackExponent_packComponents]
    rfl

theorem unpack_subnormal {s : Sign} {mantissa : BitVec 52} (some : mantissa ≠ 0#52) :
    UnpackedFloat.unpack Format.binary64 (packComponents Format.binary64 s 0#11 mantissa)
      = .finite s mantissa.toNat (-1074) (by simpa [BitVec.toNat_pos,BitVec.pos_iff_ne_zero]) := by
  have number : 0#11 ≠ -1#11 := by decide
  unfold UnpackedFloat.unpack
  dsimp only
  rw [if_neg (by rwa [unpackExponent_packComponents]),
    if_pos (unpackExponent_packComponents ..),
    dif_neg (by rwa [unpackMantissa_packComponents]),UnpackedFloat.finite.injEq]
  refine ⟨unpackSign_pack _ _ _,?_,?_⟩
  · rw [unpackMantissa_packComponents]
  · rw [unpackExponent_packComponents]
    rfl

theorem unpack_pack {s : Sign} {m : Nat} {e : Int} (positive : 0 < m) (fits : Canonical m e) :
    (Float.Model.pack (.finite s m e positive)).unpack = .finite s m e positive := by
  obtain ⟨below,least,most,full⟩ := fits
  obtain ⟨biased,is⟩ : ∃ biased, biased = (e + 1023 + 52).toNat := ⟨_,rfl⟩
  have packed : UnpackedFloat.pack Format.binary64 (.finite s m e positive) =
      if 2048 ≤ biased + 1 then packedInfinity Format.binary64 s
      else if m.log2 + 1 = 53 then
        packComponents Format.binary64 s (BitVec.ofNat 11 biased) (BitVec.ofNat 52 m)
      else packComponents Format.binary64 s 0#11 (BitVec.ofNat 52 m) := is ▸ rfl
  change UnpackedFloat.unpack Format.binary64 (UnpackedFloat.pack Format.binary64 _) = _
  rw [packed,if_neg (by omega)]
  by_cases normal : 2 ^ 52 ≤ m
  · have digits : m.log2 + 1 = 53 := by
      have high := (Nat.le_log2 positive.ne').mpr normal
      have low := (Nat.log2_lt positive.ne').mpr below
      omega
    have exponent : (BitVec.ofNat 11 biased).toNat = biased := by
      rw [BitVec.toNat_ofNat,Nat.mod_eq_of_lt (by omega)]
    have number : BitVec.ofNat 11 biased ≠ -1#11 := by
      intro same
      rw [same] at exponent
      change 2047 = biased at exponent
      omega
    have nonzero : BitVec.ofNat 11 biased ≠ 0#11 := by
      intro same
      rw [same] at exponent
      change 0 = biased at exponent
      omega
    rw [if_pos digits,unpack_normal number nonzero,UnpackedFloat.finite.injEq]
    refine ⟨rfl,?_,?_⟩
    · rw [toNat_implicit,BitVec.toNat_ofNat]
      omega
    · omega
  · have digits : ¬ m.log2 + 1 = 53 := by
      have low := (Nat.log2_lt positive.ne').mpr (Nat.lt_of_not_le normal)
      omega
    have mantissa : (BitVec.ofNat 52 m).toNat = m := by
      rw [BitVec.toNat_ofNat,Nat.mod_eq_of_lt (Nat.lt_of_not_le normal)]
    have nonzero : BitVec.ofNat 52 m ≠ 0#52 := by
      intro zero
      rw [zero] at mantissa
      exact positive.ne mantissa
    rw [if_neg digits,unpack_subnormal nonzero,UnpackedFloat.finite.injEq]
    exact ⟨rfl,mantissa,(full.resolve_left normal).symm⟩

theorem unpack_zero (s : Sign) : (Float.Model.pack (.zero s)).unpack = .zero s := by
  cases s <;> rfl

theorem unpack_canonical {v : Float.Model} {s : Sign} {m : Nat} {e : Int} {positive : 0 < m}
    (is : v.unpack = .finite s m e positive) : Canonical m e := by
  have mantissa := (@unpackMantissa Format.binary64 v.toBits.toBitVec).isLt
  have exponent := (@unpackExponent Format.binary64 v.toBits.toBitVec).isLt
  change _ < 2 ^ 52 at mantissa
  change _ < 2 ^ 11 at exponent
  change UnpackedFloat.unpack Format.binary64 v.toBits.toBitVec = _ at is
  unfold UnpackedFloat.unpack at is
  dsimp only at is
  by_cases number : @unpackExponent Format.binary64 v.toBits.toBitVec = -1#11
  · rw [if_pos number] at is
    by_cases none : @unpackMantissa Format.binary64 v.toBits.toBitVec = 0#52
    · rw [if_pos none] at is
      cases is
    · rw [if_neg none] at is
      cases is
  · rw [if_neg number] at is
    have below : (@unpackExponent Format.binary64 v.toBits.toBitVec).toNat ≠ 2047 := by
      intro top
      exact number (BitVec.eq_of_toNat_eq top)
    by_cases zero : @unpackExponent Format.binary64 v.toBits.toBitVec = 0#11
    · rw [if_pos zero] at is
      by_cases none : @unpackMantissa Format.binary64 v.toBits.toBitVec = 0#52
      · rw [dif_pos none] at is
        cases is
      · rw [dif_neg none] at is
        injection is with _ first second
        rw [zero] at second
        change (0 : Int) - 1075 + 1 = e at second
        exact ⟨by omega,by omega,by omega,.inr (by omega)⟩
    · rw [if_neg zero] at is
      have above : (@unpackExponent Format.binary64 v.toBits.toBitVec).toNat ≠ 0 := by
        intro none
        exact zero (BitVec.eq_of_toNat_eq none)
      injection is with _ first second
      have implicit := first.symm.trans (toNat_implicit _)
      change (_ : Int) - 1075 = e at second
      exact ⟨by omega,by omega,by omega,.inl (by omega)⟩

end Packing

section Comparison

theorem Canonical.lt {m n : Nat} {e f : Int} (left : Canonical m e) (right : Canonical n f)
    (order : e < f) : (m : ℚ) * 2 ^ e < n * 2 ^ f := by
  have high : 2 ^ 52 ≤ n := right.full.resolve_right (by have := left.least; omega)
  have power : (0 : ℚ) < 2 ^ e := zpow_pos (by norm_num) e
  calc (m : ℚ) * 2 ^ e < 2 ^ 53 * 2 ^ e := by
        gcongr
        exact_mod_cast left.below
    _ = 2 ^ 52 * 2 ^ (e + 1) := by rw [zpow_add_one₀ (by norm_num)]; ring
    _ ≤ n * 2 ^ f := by
        gcongr
        · exact_mod_cast high
        · norm_num
        · omega

theorem Canonical.compare {m n : Nat} {e f : Int} (left : Canonical m e) (right : Canonical n f) :
    (compare e f).then (compare m n) = compare ((m : ℚ) * 2 ^ e) (n * 2 ^ f) := by
  rcases lt_trichotomy e f with order | rfl | order
  · rw [compare_lt_iff_lt.mpr order,compare_lt_iff_lt.mpr (left.lt right order)]
    rfl
  · have power : (0 : ℚ) < 2 ^ e := zpow_pos (by norm_num) e
    rw [compare_eq_iff_eq.mpr rfl,Ordering.eq_then]
    rcases lt_trichotomy m n with order | rfl | order
    · rw [compare_lt_iff_lt.mpr order,compare_lt_iff_lt.mpr (by gcongr)]
    · rw [compare_eq_iff_eq.mpr rfl,compare_eq_iff_eq.mpr rfl]
    · rw [compare_gt_iff_gt.mpr order,compare_gt_iff_gt.mpr (by show _ < _; gcongr)]
  · rw [compare_gt_iff_gt.mpr order,compare_gt_iff_gt.mpr (right.lt left order)]
    rfl

theorem value_cases {v : Float.Model} {q : ℚ} (is : unpackedValue? v.unpack = some q) :
    (∃ s, v.unpack = .zero s ∧ q = 0) ∨
      ∃ m e positive, Canonical m e ∧
        ((v.unpack = .finite .positive m e positive ∧ q = m * 2 ^ e) ∨
          (v.unpack = .finite .negative m e positive ∧ q = -(m * 2 ^ e))) := by
  cases shape : v.unpack with
  | infinity s => rw [shape] at is; cases is
  | notANumber => rw [shape] at is; cases is
  | zero s => rw [shape] at is; cases is; exact .inl ⟨s,rfl,rfl⟩
  | finite s m e positive =>
      rw [shape] at is
      cases is
      refine .inr ⟨m,e,positive,unpack_canonical shape,?_⟩
      cases s
      · exact .inr ⟨rfl,by simp [Sign.apply]⟩
      · exact .inl ⟨rfl,by simp [Sign.apply]⟩

theorem compare_value {a b : Float.Model} {q r : ℚ} (left : unpackedValue? a.unpack = some q)
    (right : unpackedValue? b.unpack = some r) : a.unpack.compare b.unpack = some (compare q r) := by
  have magnitude {m : Nat} (e : Int) (positive : 0 < m) : (0 : ℚ) < m * 2 ^ e := by positivity
  rcases value_cases left with ⟨s,first,rfl⟩ | ⟨m,e,some,fits,⟨first,rfl⟩ | ⟨first,rfl⟩⟩ <;>
    rcases value_cases right with ⟨t,second,rfl⟩ | ⟨n,f,other,fits',⟨second,rfl⟩ | ⟨second,rfl⟩⟩ <;>
    rw [first,second]
  · rw [compare_eq_iff_eq.mpr rfl]; rfl
  · rw [compare_lt_iff_lt.mpr (magnitude f other)]; rfl
  · rw [compare_gt_iff_gt.mpr (by have := magnitude f other; show _ < _; linarith)]; rfl
  · rw [compare_gt_iff_gt.mpr (magnitude e some)]; rfl
  · rw [← fits.compare fits']; rfl
  · rw [compare_gt_iff_gt.mpr
      (by have := magnitude e some; have := magnitude f other; show _ < _; linarith)]; rfl
  · rw [compare_lt_iff_lt.mpr (by have := magnitude e some; linarith)]; rfl
  · rw [compare_lt_iff_lt.mpr (by have := magnitude e some; have := magnitude f other; linarith)]; rfl
  · have opposite : compare (-((m : ℚ) * 2 ^ e)) (-(n * 2 ^ f))
        = (compare ((m : ℚ) * 2 ^ e) (n * 2 ^ f)).swap := by
      rcases lt_trichotomy ((m : ℚ) * 2 ^ e) (n * 2 ^ f) with order | order | order
      · rw [compare_lt_iff_lt.mpr order,compare_gt_iff_gt.mpr (neg_lt_neg order)]; rfl
      · rw [order,compare_eq_iff_eq.mpr rfl,compare_eq_iff_eq.mpr rfl]; rfl
      · rw [compare_gt_iff_gt.mpr order,compare_lt_iff_lt.mpr (neg_lt_neg order)]; rfl
    rw [opposite,← fits.compare fits']; rfl

theorem lt_value {x y : Float} {q r : ℚ} (left : value? x = some q) (right : value? y = some r) :
    x < y ↔ q < r := by
  have means : x < y ↔ (x.toModel.unpack.compare y.toModel.unpack == some .lt) = true :=
    decide_eq_true_iff
  rw [means,compare_value left right]
  simp [compare_lt_iff_lt]

theorem value_of_beq {x y : Float} {q : ℚ} (right : value? y = some q) (same : (x == y) = true) :
    value? x = some q := by
  change (x.toModel.unpack.compare y.toModel.unpack == some .eq) = true at same
  cases left : value? x with
  | some r =>
      rw [compare_value left right] at same
      simp only [Option.some_beq_some,beq_iff_eq,compare_eq_iff_eq] at same
      rw [same]
  | none =>
      change unpackedValue? x.toModel.unpack = none at left
      rcases value_cases right with ⟨t,second,-⟩ | ⟨n,f,other,-,⟨second,-⟩ | ⟨second,-⟩⟩ <;>
        rw [second] at same
      all_goals
        cases shape : x.toModel.unpack with
        | infinity s => rw [shape] at same; cases s <;> cases same
        | notANumber => rw [shape] at same; cases same
        | zero s => rw [shape] at left; cases left
        | finite s m e positive => rw [shape] at left; cases left

end Comparison

section Addition

theorem shift_exact (k n : Nat) :
    ExtendedMantissa.ofMantissaAndAccuracy (k * 2 ^ n) .exact >>> n
      = ExtendedMantissa.mk k false false := by
  change n.repeat ExtendedMantissa.shiftRightOne _ = _
  induction n generalizing k with
  | zero => rw [pow_zero,mul_one]; rfl
  | succ n ih =>
      have halved := ih (2 * k)
      rw [mul_comm 2 k,mul_assoc,← pow_succ'] at halved
      rw [Nat.repeat,halved]
      simp [ExtendedMantissa.shiftRightOne]

theorem aligned {m k : Nat} {e t : Int} (order : e ≤ t) (same : (m : ℚ) * 2 ^ e = k * 2 ^ t) :
    m = k * 2 ^ (t - e).toNat := by
  have power : (2 : ℚ) ^ e ≠ 0 := zpow_ne_zero e (by norm_num)
  have split : (2 : ℚ) ^ t = 2 ^ (t - e).toNat * 2 ^ e := by
    rw [← zpow_natCast,← zpow_add₀ (by norm_num),Int.toNat_of_nonneg (by omega)]
    congr 1
    omega
  rw [split,← mul_assoc] at same
  exact_mod_cast mul_right_cancel₀ power same

theorem log2_aligned {m k : Nat} {e t : Int} (some : 0 < m)
    (order : e ≤ t) (same : (m : ℚ) * 2 ^ e = k * 2 ^ t) : (m.log2 : Int) + e = k.log2 + t := by
  have is := aligned order same
  have positive : k ≠ 0 := by rintro rfl; simp at is; omega
  have digits : m.log2 = k.log2 + (t - e).toNat := by
    rw [Nat.log2_eq_iff some.ne',is,pow_add,add_right_comm,pow_add _ (k.log2 + 1)]
    have low := Nat.log2_self_le positive
    have high := @Nat.lt_log2_self k
    constructor <;> gcongr
  omega

-- The exponent that rounding aims at is that of the number's canonical form.
theorem target_value {m k : Nat} {e t : Int} (some : 0 < m) (fits : Canonical k t) (positive : 0 < k)
    (same : (m : ℚ) * 2 ^ e = k * 2 ^ t) : Format.binary64.targetExponent (totalExponent m e) = t := by
  have digits : (m.log2 : Int) + e = k.log2 + t := by
    rcases le_total e t with order | order
    · exact log2_aligned some order same
    · exact (log2_aligned positive order same.symm).symm
  change max ((m.log2 : Int) + 1 + e - 53) (-1074) = t
  obtain ⟨below,least,most,full⟩ := fits
  have low := (Nat.log2_lt positive.ne').mpr below
  rcases full with normal | rfl
  · have high := (Nat.le_log2 positive.ne').mpr normal
    omega
  · omega

theorem roundWithAccuracy_exact {s : Sign} {k n : Nat} {t : Int} (positive : 0 < k)
    (fits : Canonical k t) :
    roundWithAccuracy Format.binary64 s (k * 2 ^ n) (t - n) .exact = .finite s k t positive := by
  have same : ((k * 2 ^ n : Nat) : ℚ) * 2 ^ (t - n) = k * 2 ^ t := by
    rw [zpow_sub₀ (by norm_num),zpow_natCast]
    push_cast
    field_simp
  have first : shiftToTargetExponent Format.binary64 (k * 2 ^ n) (t - n) .exact
      = (ExtendedMantissa.mk k false false,t) := by
    unfold shiftToTargetExponent shiftToExponent
    rw [target_value (by positivity) fits positive same]
    have amount : (t - (t - n)).toNat = n := by omega
    simp only [amount,shift_exact]
    congr 1
    omega
  have second : shiftToTargetExponent Format.binary64 k t .exact
      = (ExtendedMantissa.mk k false false,t) := by
    unfold shiftToTargetExponent shiftToExponent
    rw [target_value positive fits positive rfl]
    simp only [sub_self]
    exact Prod.ext rfl (add_zero t)
  have rounded : (ExtendedMantissa.mk k false false).roundedMantissa = k := rfl
  unfold roundWithAccuracy
  rw [first]
  dsimp only
  rw [rounded,second]
  exact dif_neg positive.ne'

theorem round_exact {s : Sign} {m k : Nat} {e t : Int} (some : 0 < m) (positive : 0 < k)
    (fits : Canonical k t) (same : (m : ℚ) * 2 ^ e = k * 2 ^ t) :
    UnpackedFloat.round Format.binary64 s m e = .finite s k t positive := by
  unfold UnpackedFloat.round decreaseExponent
  rw [target_value some fits positive same]
  dsimp only
  rcases le_total e t with order | order
  · have amount : (e - t).toNat = 0 := by omega
    have exponent : e = t - ((t - e).toNat : Int) := by omega
    rw [amount,Nat.shiftLeft_zero,aligned order same,Nat.cast_zero,sub_zero]
    have rounded := @roundWithAccuracy_exact s k (t - e).toNat t positive fits
    rwa [← exponent] at rounded
  · have rounded := @roundWithAccuracy_exact s k 0 t positive fits
    have exponent : e - ((e - t).toNat : Int) = t - (0 : Nat) := by omega
    rw [pow_zero,mul_one] at rounded
    rwa [exponent,Nat.shiftLeft_eq,← aligned order same.symm]

theorem normalize_exact {m : Int} {e : Int} {s : Sign} {z : Float.Model}
    (representable : unpackedValue? z.unpack = some ((m : ℚ) * 2 ^ e)) :
    unpackedValue? (Float.Model.pack (UnpackedFloat.normalize Format.binary64 m e s)).unpack
      = some ((m : ℚ) * 2 ^ e) := by
  have power : (0 : ℚ) < 2 ^ e := zpow_pos (by norm_num) e
  unfold UnpackedFloat.normalize
  rcases lt_trichotomy m 0 with sign | rfl | sign
  · rw [compare_lt_iff_lt.mpr sign]
    have negative : (m : ℚ) * 2 ^ e < 0 := mul_neg_of_neg_of_pos (by exact_mod_cast sign) power
    rcases value_cases representable with
      ⟨t,-,zero⟩ | ⟨k,t,positive,fits,⟨-,is⟩ | ⟨-,is⟩⟩
    · exact absurd zero negative.ne
    · exact absurd is (negative.trans (by positivity)).ne
    · have same : ((-m).toNat : ℚ) * 2 ^ e = k * 2 ^ t := by
        have cast : (((-m).toNat : Int) : ℚ) = -m := by
          rw [Int.toNat_of_nonneg (by omega)]
          push_cast
          rfl
        rw [Int.cast_natCast] at cast
        rw [cast]
        linarith
      change unpackedValue? (Float.Model.pack (round _ _ _ _)).unpack = _
      rw [round_exact (by omega) positive fits same,unpack_pack positive fits,is]
      change some ((Sign.negative.apply k : ℤ) * (2 : ℚ) ^ t) = _
      simp [Sign.apply]
  · rw [compare_eq_iff_eq.mpr rfl,Int.cast_zero,zero_mul]
    change unpackedValue? (Float.Model.pack (.zero s)).unpack = _
    rw [unpack_zero]
    rfl
  · rw [compare_gt_iff_gt.mpr sign]
    have above : 0 < (m : ℚ) * 2 ^ e := mul_pos (by exact_mod_cast sign) power
    rcases value_cases representable with
      ⟨t,-,zero⟩ | ⟨k,t,positive,fits,⟨-,is⟩ | ⟨-,is⟩⟩
    · exact absurd zero above.ne'
    · have same : (m.toNat : ℚ) * 2 ^ e = k * 2 ^ t := by
        have cast : ((m.toNat : Int) : ℚ) = m := by rw [Int.toNat_of_nonneg (by omega)]
        rw [Int.cast_natCast] at cast
        rw [cast,is]
      change unpackedValue? (Float.Model.pack (round _ _ _ _)).unpack = _
      rw [round_exact (by omega) positive fits same,unpack_pack positive fits,is]
      rfl
    · have below : -((k : ℚ) * 2 ^ t) < 0 := by
        have := mul_pos (Nat.cast_pos.mpr positive) (zpow_pos (by norm_num) t : (0 : ℚ) < 2 ^ t)
        linarith
      exact absurd is (below.trans above).ne'

theorem decrease_value {s : Sign} {m : Nat} {e t : Int} (order : t ≤ e) :
    ((s.apply ((decreaseExponent m e t).1 : Nat) : Int) : ℚ) * 2 ^ t = (s.apply m : Int) * 2 ^ e := by
  have split : (2 : ℚ) ^ e = 2 ^ (e - t).toNat * 2 ^ t := by
    rw [← zpow_natCast,← zpow_add₀ (by norm_num),Int.toNat_of_nonneg (by omega)]
    congr 1
    omega
  change ((s.apply ((m <<< (e - t).toNat : Nat) : Int) : Int) : ℚ) * 2 ^ t = _
  rw [Nat.shiftLeft_eq,split]
  cases s <;> simp [Sign.apply] <;> ring

theorem add_exact {x y z : Float} {q r : ℚ} (left : value? x = some q) (right : value? y = some r)
    (representable : value? z = some (q + r)) : value? (x + y) = some (q + r) := by
  change unpackedValue? (Float.Model.pack
    (UnpackedFloat.add Format.binary64 x.toModel.unpack y.toModel.unpack)).unpack = _
  change unpackedValue? _ = _ at left right
  cases first : x.toModel.unpack with
  | infinity s => rw [first] at left; cases left
  | notANumber => rw [first] at left; cases left
  | zero s =>
      rw [first] at left
      obtain rfl : 0 = q := Option.some.inj left
      rw [zero_add]
      cases second : y.toModel.unpack with
      | infinity t => rw [second] at right; cases right
      | notANumber => rw [second] at right; cases right
      | zero t => rw [second] at right; cases right; cases s <;> cases t <;> rfl
      | finite t n f other =>
          rw [second] at right
          change unpackedValue? (Float.Model.pack (.finite t n f other)).unpack = _
          rwa [unpack_pack other (unpack_canonical second)]
  | finite s m e positive =>
      cases second : y.toModel.unpack with
      | infinity t => rw [second] at right; cases right
      | notANumber => rw [second] at right; cases right
      | zero t =>
          rw [second] at right
          obtain rfl : 0 = r := Option.some.inj right
          rw [first] at left
          change unpackedValue? (Float.Model.pack (.finite s m e positive)).unpack = _
          rwa [unpack_pack positive (unpack_canonical first),add_zero]
      | finite t n f other =>
          rw [first] at left
          rw [second] at right
          have total : q + r = ((s.apply (decreaseExponent m e (min e f)).1
              + t.apply (decreaseExponent n f (min e f)).1 : Int) : ℚ) * 2 ^ min e f := by
            rw [← Option.some.inj left,← Option.some.inj right,Int.cast_add,add_mul,
              decrease_value (min_le_left e f),decrease_value (min_le_right e f)]
          change unpackedValue? _ = _ at representable
          rw [total] at representable ⊢
          exact normalize_exact representable

end Addition

section Rows

theorem value_finite {x : Float} {q : ℚ} (is : value? x = some q) :
    x.isNaN = false ∧ x.isInf = false := by
  change x.toModel.unpack.isNaN = false ∧ x.toModel.unpack.isInf = false
  rcases value_cases is with ⟨s,shape,-⟩ | ⟨m,e,positive,-,⟨shape,-⟩ | ⟨shape,-⟩⟩ <;>
    rw [shape] <;> exact ⟨rfl,rfl⟩

theorem beq_of_whole {x : Float} {n : Int} (is : whole? x = some n) :
    (Float.ofInt n == x) = true := by
  obtain ⟨test,found⟩ := Option.ite_none_right_eq_some.mp is
  rw [← Option.some.inj found]
  exact (Bool.and_eq_true_iff.mp test).2

theorem number_ofNumber {x : Float} {q : ℚ} (is : value? x = some q) :
    ((Json.ofNumber x).number?).bind value? = some q := by
  unfold Json.ofNumber
  cases whole : whole? x with
  | some n => exact value_of_beq is (beq_of_whole whole)
  | none =>
      obtain ⟨number,finite⟩ := value_finite is
      simp only [number,finite,Bool.or_self,Bool.false_eq_true,↓reduceIte]
      exact is

end Rows

end OlapQuery.Decimal
