import OlapQuery.Proofs.NumberIdentity

-- Whole numbers of a word as doubles. Rounding can change them, but it leaves their exponents far
-- below those of the greatest doubles, so that all of them are finite.

namespace OlapQuery.Decimal

open Float.Model (Format UnpackedFloat totalExponent)
open Float.Model.UnpackedFloat

-- Finite, with an exponent of this or less.
def Within (most : Int) : UnpackedFloat → Prop
  | .zero _ => True
  | .finite _ _ e _ => e ≤ most
  | _ => False

theorem Within.value {most : Int} {u : UnpackedFloat} (within : Within most u) :
    (unpackedValue? u).isSome := by
  cases u with
  | zero | finite => rfl
  | _ => exact within.elim

theorem Within.neg {most : Int} {u : UnpackedFloat} (within : Within most u) :
    Within most u.neg := by
  cases u with
  | zero | finite => exact within
  | _ => exact within.elim

section Packing

theorem components_within {s : Sign} {exponent : BitVec 11} {mantissa : BitVec 52} {most : Int}
    (least : -1074 ≤ most) (below : (exponent.toNat : Int) - 1075 ≤ most) (bounded : most ≤ 971) :
    Within most (unpack Format.binary64 (packComponents Format.binary64 s exponent mantissa)) := by
  have number : exponent ≠ -1#11 := by
    rintro rfl
    change (2047 : Int) - 1075 ≤ most at below
    omega
  by_cases zero : exponent = 0#11
  · subst zero
    by_cases nothing : mantissa = 0#52
    · rw [nothing,unpack_nothing]
      trivial
    · rw [unpack_subnormal nothing]
      exact least
  · rw [unpack_normal number zero]
    exact below

theorem pack_within {u : UnpackedFloat} {most : Int} (within : Within most u) (least : -1074 ≤ most)
    (bounded : most ≤ 971) : Within most (Float.Model.pack u).unpack := by
  cases u with
  | infinity | notANumber => exact within.elim
  | zero s =>
      rw [unpack_zero]
      trivial
  | finite s m e positive =>
      change e ≤ most at within
      obtain ⟨biased,is⟩ : ∃ biased, biased = (e + 1023 + 52).toNat := ⟨_,rfl⟩
      have packed : pack Format.binary64 (.finite s m e positive) =
          if 2048 ≤ biased + 1 then packedInfinity Format.binary64 s
          else if m.log2 + 1 = 53 then
            packComponents Format.binary64 s (BitVec.ofNat 11 biased) (BitVec.ofNat 52 m)
          else packComponents Format.binary64 s 0#11 (BitVec.ofNat 52 m) := is ▸ rfl
      have exponent : (BitVec.ofNat 11 biased).toNat = biased := by
        rw [BitVec.toNat_ofNat,Nat.mod_eq_of_lt (by omega)]
      change Within most (unpack Format.binary64 (pack Format.binary64 _))
      rw [packed,if_neg (by omega)]
      split
      · exact components_within least (by omega) bounded
      · exact components_within least (by simp; omega) bounded

end Packing

section Rounding

theorem shifted_le (em : ExtendedMantissa) (n : Nat) : (em >>> n).mantissa ≤ em.mantissa := by
  change (n.repeat ExtendedMantissa.shiftRightOne em).mantissa ≤ _
  induction n with
  | zero => exact Nat.le_refl _
  | succ n ih => exact Nat.le_trans (Nat.div_le_self _ 2) ih

theorem rounded_le (em : ExtendedMantissa) : em.roundedMantissa ≤ em.mantissa + 1 := by
  unfold ExtendedMantissa.roundedMantissa Accuracy.roundToNearestEven
  split <;> omega

theorem log2_few {k : Nat} (few : k ≤ 2 ^ 117) : k.log2 ≤ 117 := by
  by_cases zero : k = 0
  · subst zero
    decide
  · have := (Nat.log2_lt (k := 118) zero).mpr (by omega)
    omega

theorem shift_amount (k : Nat) (f : Int) : ∃ n : Nat,
    (n : Int) = max 0 (max ((k.log2 : Int) + 1 + f - 53) (-1074) - f) ∧
      shiftToTargetExponent Format.binary64 k f .exact
        = (ExtendedMantissa.mk k false false >>> n,f + n) :=
  ⟨(max ((k.log2 : Int) + 1 + f - 53) (-1074) - f).toNat,by omega,rfl⟩

theorem round_within {s : Sign} {m : Nat} {e most : Int} (few : m < 2 ^ 117)
    (small : e + 140 ≤ most) (least : -934 ≤ most) :
    Within most (roundWithAccuracy Format.binary64 s m e .exact) := by
  obtain ⟨n,first,shift⟩ := shift_amount m e
  have digits := log2_few (Nat.le_of_lt few)
  have less := shifted_le (ExtendedMantissa.mk m false false) n
  have next := rounded_le (ExtendedMantissa.mk m false false >>> n)
  unfold roundWithAccuracy
  rw [shift]
  dsimp only at less ⊢
  generalize (ExtendedMantissa.mk m false false >>> n).roundedMantissa = k at next ⊢
  obtain ⟨n',second,again⟩ := shift_amount k (e + n)
  have left := log2_few (show k ≤ 2 ^ 117 by omega)
  rw [again]
  by_cases zero : (ExtendedMantissa.mk k false false >>> n').mantissa = 0
  · exact (congrArg (Within most) (dif_pos zero)).mpr trivial
  · exact (congrArg (Within most) (dif_neg zero)).mpr (show e + n + n' ≤ most by omega)

end Rounding

section Words

variable {n : Nat}

theorem ofWord_within (word : n < 2 ^ 64) : Within 140 n.toUInt64.toFloat.toModel.unpack := by
  have same : n.toUInt64.toNat = n := toBitVec_word word
  change Within 140 (Float.Model.pack (UnpackedFloat.normalize Format.binary64 n.toUInt64.toNat 0
    .positive)).unpack
  refine pack_within ?_ (by decide) (by decide)
  rw [same]
  unfold UnpackedFloat.normalize
  rcases Nat.eq_zero_or_pos n with rfl | some
  · trivial
  · rw [compare_gt_iff_gt.mpr (by omega : (n : Int) > 0)]
    -- The mantissa is first given as many digits as a double has.
    have moved : (0 - max ((n.log2 : Int) + 1 + 0 - 53) (-1074)).toNat ≤ 52 := by omega
    have few : n <<< (0 - max ((n.log2 : Int) + 1 + 0 - 53) (-1074)).toNat < 2 ^ 117 := by
      rw [Nat.shiftLeft_eq]
      calc n * 2 ^ _ ≤ n * 2 ^ 52 := Nat.mul_le_mul_left n (Nat.pow_le_pow_right (by decide) moved)
        _ < 2 ^ 117 := by omega
    exact round_within few (by omega) (by decide)

theorem one_unpacked (positive : 0 < 2 ^ 52) :
    (Float.exactlyRepresentablePowersOfTen[0]).toModel.unpack
      = .finite .positive (2 ^ 52) (-52) positive := rfl

theorem times_one_within {x : Float} (within : Within 140 x.toModel.unpack) :
    Within 280 (x * Float.exactlyRepresentablePowersOfTen[0]).toModel.unpack := by
  change Within _ (Float.Model.pack (UnpackedFloat.mul Format.binary64 x.toModel.unpack
    (Float.exactlyRepresentablePowersOfTen[0]).toModel.unpack)).unpack
  rw [one_unpacked (by decide)]
  refine pack_within ?_ (by decide) (by decide)
  cases shape : x.toModel.unpack with
  | infinity | notANumber => exact (shape ▸ within).elim
  | zero s => trivial
  | finite s m e positive =>
      have fits := unpack_canonical shape
      have below := fits.below
      rw [shape] at within
      change e ≤ 140 at within
      exact round_within (by omega) (by omega) (by decide)

-- Of more digits than a double has, a number is read with some more bits and rounded.
theorem scientific_rounded (some : n ≠ 0) (word : n < 2 ^ 64) : ∃ m < 2 ^ 117,
    UnpackedFloat.ofScientific Format.binary64 n (Int.ofNat 0)
      = roundWithAccuracy Format.binary64 .positive m (-53) .exact := by
  have least : ¬Int.ofNat 0 < -(2 ^ Format.binary64.exponentBits + (n.log2 : Int)) := by
    have : (0 : Int) ≤ 2 ^ Format.binary64.exponentBits := by decide
    simp only [Int.ofNat_eq_natCast]
    omega
  refine ⟨n <<< 53 * 10 ^ 0,?_,?_⟩
  · rw [Nat.shiftLeft_eq]
    omega
  · unfold UnpackedFloat.ofScientific
    rw [dif_neg some,if_neg (by decide),if_neg least,if_pos (by decide)]
    rfl

theorem ofNat_within (word : n < 2 ^ 64) : Within 280 (Float.ofNat n).toModel.unpack := by
  change Within 280 (Float.ofScientific n false 0).toModel.unpack
  unfold Float.ofScientific
  split
  · exact times_one_within (ofWord_within word)
  · rename_i large
    have some : n ≠ 0 := by
      rintro rfl
      exact large ⟨by decide,by decide⟩
    obtain ⟨m,few,read⟩ := scientific_rounded some word
    change Within 280 (Float.Model.pack (UnpackedFloat.ofScientific Format.binary64 n
      (Int.ofNat 0))).unpack
    rw [read]
    exact pack_within (round_within few (by decide) (by decide)) (by decide) (by decide)

end Words

theorem ofInt_finite {n : Int} (least : Word.minInt64 ≤ n) (most : n ≤ Word.max64) :
    (value? (Float.ofInt n)).isSome := by
  cases n with
  | ofNat n => exact (ofNat_within (by simp [Word.max64] at most; omega)).value
  | negSucc n =>
      have word : n + 1 < 2 ^ 64 := by simp [Word.minInt64] at least; omega
      exact (pack_within (ofNat_within word).neg (by decide) (by decide)).value

end OlapQuery.Decimal
