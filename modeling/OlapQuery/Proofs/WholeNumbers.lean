import OlapQuery.Proofs.ExactNumbers
import OlapQuery.Proofs.NumberTexts

-- Whole numbers of up to 53 binary digits are doubles, and their texts are read as them.

namespace OlapQuery.Decimal

open Float.Model (Format UnpackedFloat)
open Float.Model.UnpackedFloat

theorem packComponents_toNat (s : Sign) (exponent : BitVec 11) (mantissa : BitVec 52) :
    (packComponents Format.binary64 s exponent mantissa).toNat
      = s.toBitVec.toNat * 2 ^ 63 + exponent.toNat * 2 ^ 52 + mantissa.toNat := by
  have whole : packComponents Format.binary64 s exponent mantissa
      = (s.toBitVec ++ exponent) ++ mantissa := rfl
  rw [whole,BitVec.toNat_append,← Nat.shiftLeft_add_eq_or_of_lt (BitVec.isLt _),
    BitVec.toNat_append,← Nat.shiftLeft_add_eq_or_of_lt (BitVec.isLt _),Nat.shiftLeft_eq,
    Nat.shiftLeft_eq,Nat.add_mul,Nat.mul_assoc,← pow_add]

theorem toBitVec_word {n : Nat} (below : n < 2 ^ 64) : n.toUInt64.toBitVec.toNat = n := by
  rw [Nat.toUInt64_eq,UInt64.toBitVec_ofNat',BitVec.toNat_ofNat,Nat.mod_eq_of_lt below]

-- A double by its bits: the exponent, which counts from -1075, above the mantissa, of which
-- the leading digit is left out.
theorem ofBits_value {biased m : Nat} (some : 0 < biased) (bounded : biased < 2047)
    (leading : 2 ^ 52 ≤ m) (below : m < 2 ^ 53) :
    value? (Float.ofBits ((biased - 1) * 2 ^ 52 + m).toUInt64)
      = .some ((m : ℚ) * 2 ^ ((biased : Int) - 1075)) := by
  have exponent : (BitVec.ofNat 11 biased).toNat = biased := by
    rw [BitVec.toNat_ofNat,Nat.mod_eq_of_lt (by omega)]
  have rest : (BitVec.ofNat 52 m).toNat = m - 2 ^ 52 := by
    rw [BitVec.toNat_ofNat]
    omega
  have bits : ((biased - 1) * 2 ^ 52 + m).toUInt64.toBitVec
      = packComponents Format.binary64 .positive (BitVec.ofNat 11 biased) (BitVec.ofNat 52 m) := by
    have positive : Sign.positive.toBitVec.toNat = 0 := rfl
    apply BitVec.eq_of_toNat_eq
    rw [packComponents_toNat,positive,exponent,rest,toBitVec_word (by omega)]
    omega
  have number : BitVec.ofNat 11 biased ≠ -1#11 := by
    intro same
    rw [same] at exponent
    change 2047 = biased at exponent
    omega
  have normal : BitVec.ofNat 11 biased ≠ 0#11 := by
    intro same
    rw [same] at exponent
    change 0 = biased at exponent
    omega
  have fits : Canonical m ((biased : Int) - 1075) := ⟨below,by omega,by omega,.inl leading⟩
  have shape : unpack Format.binary64
      (packComponents Format.binary64 .positive (BitVec.ofNat 11 biased) (BitVec.ofNat 52 m))
        = .finite .positive m ((biased : Int) - 1075) (by omega) := by
    rw [unpack_normal number normal,UnpackedFloat.finite.injEq]
    refine ⟨rfl,?_,by rw [exponent]⟩
    rw [toNat_implicit,rest]
    omega
  change unpackedValue? (Float.Model.pack (unpack Format.binary64 _)).unpack = _
  rw [bits,shape,unpack_pack (by omega) fits]
  rfl

theorem roundedQuotient_one (n : Nat) : roundedQuotient n 1 = n := by
  simp [roundedQuotient,Nat.mod_one]

theorem leading_digit {n : Nat} (some : 0 < n) (below : n < 2 ^ 53) :
    2 ^ 52 ≤ n * 2 ^ (52 - n.log2) ∧ n * 2 ^ (52 - n.log2) < 2 ^ 53 := by
  have digits := (Nat.log2_lt some.ne').mpr below
  have split : 2 ^ n.log2 * 2 ^ (52 - n.log2) = 2 ^ 52 := by
    rw [← pow_add]
    congr 1
    omega
  have low : 2 ^ n.log2 * 2 ^ (52 - n.log2) ≤ n * 2 ^ (52 - n.log2) :=
    Nat.mul_le_mul_right _ (Nat.log2_self_le some.ne')
  have high : n * 2 ^ (52 - n.log2) < 2 ^ (n.log2 + 1) * 2 ^ (52 - n.log2) :=
    Nat.mul_lt_mul_of_pos_right Nat.lt_log2_self (by positivity)
  rw [pow_succ,mul_right_comm] at high
  omega

theorem nearestBits_whole {n : Nat} (some : 0 < n) (below : n < 2 ^ 53) :
    nearestBits n 1 = (n.log2 + 1023 - 1) * 2 ^ 52 + n * 2 ^ (52 - n.log2) := by
  have digits := (Nat.log2_lt some.ne').mpr below
  obtain ⟨leading,-⟩ := leading_digit some below
  have one : Nat.log2 1 = 0 := rfl
  have exponent : (n.log2 : Int) - (Nat.log2 1 : Int) - 52 = -((52 - n.log2 : Nat) : Int) := by
    rw [one]
    omega
  have full : ¬ n * 2 ^ (52 - n.log2) < 4503599627370496 := by omega
  have normal : ¬ -((52 - n.log2 : Nat) : Int) < -1074 := by omega
  have biased : (-((52 - n.log2 : Nat) : Int) + 1074).toNat = n.log2 + 1023 - 1 := by omega
  have whole : (-((52 - n.log2 : Nat) : Int)).toNat = 0 := by omega
  simp only [nearestBits,exponent,neg_neg,Int.toNat_natCast,whole,Nat.pow_eq,pow_zero,mul_one,
    Nat.div_one,if_neg full,if_neg normal,biased,roundedQuotient_one]
  rfl

theorem nearestFloat_bits {n bits : Nat} (some : 0 < n) (short : n < 10 ^ 16)
    (found : nearestBits n 1 = bits) (finite : bits < infinityBits) :
    nearestFloat n 0 = Float.ofBits bits.toUInt64 := by
  have length : (toString n).length ≤ 16 := (Nat.length_repr_le_iff (by decide)).mpr short
  have small : ¬ ((toString n).length : Int) + 0 > 310 := by omega
  have large : ¬ ((toString n).length : Int) + 0 < -330 := by omega
  have scaled : n * Nat.pow 10 (0 : Int).toNat = n := Nat.mul_one n
  have unit : Nat.pow 10 (-(0 : Int)).toNat = 1 := rfl
  unfold nearestFloat
  dsimp only
  rw [if_neg some.ne',if_neg small,if_neg large,scaled,unit,found,if_neg (Nat.not_le.mpr finite)]

theorem nearestFloat_whole {n : Nat} (below : n < 2 ^ 53) :
    value? (nearestFloat n 0) = some (n : ℚ) := by
  by_cases zero : n = 0
  · subst zero; rfl
  · have some : 0 < n := Nat.pos_of_ne_zero zero
    have digits := (Nat.log2_lt zero).mpr below
    obtain ⟨leading,top⟩ := leading_digit some below
    have finite : (n.log2 + 1023 - 1) * 2 ^ 52 + n * 2 ^ (52 - n.log2) < infinityBits := by
      unfold infinityBits
      omega
    have exponent : ((n.log2 + 1023 : Nat) : Int) - 1075 = -((52 - n.log2 : Nat) : Int) := by
      omega
    rw [nearestFloat_bits some (by omega) (nearestBits_whole some below) finite,
      ofBits_value (by omega) (by omega) leading top,exponent,zpow_neg,zpow_natCast]
    push_cast
    rw [mul_inv_cancel_right₀ (by positivity)]

theorem toLower_digit {c : Char} (digit : c.isDigit = true) : c.toLower = c := by
  have bounds : 48 ≤ c.val ∧ c.val ≤ 57 := by simpa [Char.isDigit] using digit
  have low : ¬ 65 ≤ c.val := by
    intro upper
    exact absurd (UInt32.le_trans upper bounds.2) (by decide)
  exact dif_neg fun upper => low upper.1

-- Digits at the front are the number, unless a point follows, and what comes after them is to be
-- an exponent.
theorem readFloat_front {cs rest : List Char} (digits : Digits cs)
    (ends : ∀ c ∈ rest.head?, c.isDigit = false ∧ c ≠ '.') :
    readFloat (String.ofList (cs ++ rest))
      = (readExponent rest).map (nearestFloat (natOfDigits cs)) := by
  obtain ⟨some,each⟩ := digits
  have whole : (cs ++ rest).takeWhile Char.isDigit = cs := by
    rw [List.takeWhile_append_of_pos each]
    cases rest with
    | nil => simp
    | cons c more => simp [(ends c rfl).1]
  have left : (cs ++ rest).dropWhile Char.isDigit = rest := by
    rw [List.dropWhile_append_of_pos each]
    cases rest with
    | nil => rfl
    | cons c more => simp [(ends c rfl).1]
  obtain ⟨c,more,rfl⟩ := List.exists_cons_of_ne_nil some
  have digit := each c List.mem_cons_self
  have unsigned : c ≠ '-' ∧ c ≠ '+' := by
    constructor <;> (rintro rfl; cases digit)
  have wordless (word : String) (letter : word.toList.head?.any Char.isDigit = false) :
      (String.ofList (((c :: more) ++ rest).map Char.toLower) == word) = false := by
    rw [beq_eq_false_iff_ne]
    rintro rfl
    simp [toLower_digit digit,digit] at letter
  have number : readMagnitude ((c :: more) ++ rest)
      = (readExponent rest).map (nearestFloat (natOfDigits (c :: more))) := by
    unfold readMagnitude
    dsimp only
    rw [wordless "inf" rfl,wordless "infinity" rfl,wordless "nan" rfl,whole,left]
    cases rest with
    | nil => simp
    | cons d others =>
        have point : d ≠ '.' := (ends d rfl).2
        simp [point]
  rw [← number]
  simp [readFloat,unsigned]

theorem natOfDigits_nat (n : Nat) : natOfDigits (toString n).toList = n := by
  change Nat.ofDigitChars 10 n.repr.toList 0 = n
  rw [Nat.toList_repr]
  exact Nat.ofDigitChars_ten_toDigits

theorem readFloat_nat {n : Nat} (below : n < 2 ^ 53) :
    ∃ x, readFloat (toString n) = some x ∧ value? x = some (n : ℚ) := by
  have read := @readFloat_front (toString n).toList [] (digits_nat n) (by simp)
  rw [List.append_nil,String.ofList_toList,natOfDigits_nat] at read
  exact ⟨_,read,nearestFloat_whole below⟩

end OlapQuery.Decimal
