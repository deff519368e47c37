import OlapQuery.Proofs.ShortestDigits
import OlapQuery.Proofs.WholeNumbers

-- A number is what its text says: two numbers are written alike if and only if they are equal. The
-- text of a number has a value of its own, before any rounding, and this is one of the reals that
-- round to the number.

namespace OlapQuery.Decimal

open Float.Model (UnpackedFloat Format)
open Float.Model.UnpackedFloat

section Bits

theorem unpack_infinite (s : Sign) (mantissa : BitVec 52) :
    UnpackedFloat.unpack Format.binary64 (packComponents Format.binary64 s (-1#11) mantissa)
        = .infinity s ∨
      UnpackedFloat.unpack Format.binary64 (packComponents Format.binary64 s (-1#11) mantissa)
        = .notANumber := by
  unfold UnpackedFloat.unpack
  dsimp only
  rw [if_pos (unpackExponent_packComponents ..),unpackSign_pack]
  split
  · exact .inl rfl
  · exact .inr rfl

theorem unpack_nothing (s : Sign) :
    UnpackedFloat.unpack Format.binary64 (packComponents Format.binary64 s 0#11 0#52) = .zero s := by
  cases s <;> rfl

variable (x : Float)

theorem fraction_bits : (x.toBits &&& 0xFFFFFFFFFFFFF).toNat = x.toBits.toNat % 2 ^ 52 := by
  rw [UInt64.toNat_and]
  exact Nat.and_two_pow_sub_one_eq_mod _ 52

theorem exponent_bits : ((x.toBits >>> 52) &&& 0x7FF).toNat = x.toBits.toNat / 2 ^ 52 % 2 ^ 11 := by
  rw [UInt64.toNat_and,UInt64.toNat_shiftRight,Nat.shiftRight_eq_div_pow]
  exact Nat.and_two_pow_sub_one_eq_mod _ 11

theorem sign_bit : isNegative x = true ↔ x.toBits.toNat / 2 ^ 63 = 1 := by
  rw [isNegative,beq_iff_eq,← UInt64.toNat_inj,UInt64.toNat_shiftRight,Nat.shiftRight_eq_div_pow]
  rfl

def sign : Sign :=
  if isNegative x then .negative else .positive

theorem sign_toNat : (sign x).toBitVec.toNat = x.toBits.toNat / 2 ^ 63 := by
  have below := x.toBits.toNat_lt
  have bit := sign_bit x
  unfold sign
  split
  · rename_i negative
    exact (bit.mp negative).symm
  · rename_i positive
    have other := mt bit.mpr positive
    change 0 = _
    omega

theorem bits_components : x.toModel.toBits.toBitVec = packComponents Format.binary64 (sign x)
    (BitVec.ofNat 11 (x.toBits.toNat / 2 ^ 52)) (BitVec.ofNat 52 x.toBits.toNat) := by
  have below := x.toBits.toNat_lt
  apply BitVec.eq_of_toNat_eq
  rw [packComponents_toNat,sign_toNat,BitVec.toNat_ofNat,BitVec.toNat_ofNat]
  change x.toBits.toNat = _
  omega

theorem unpack_components : x.toModel.unpack = UnpackedFloat.unpack Format.binary64
    (packComponents Format.binary64 (sign x) (BitVec.ofNat 11 (x.toBits.toNat / 2 ^ 52))
      (BitVec.ofNat 52 x.toBits.toNat)) := by
  rw [← bits_components]
  rfl

variable {x}

theorem unpack_magnitude (finite : x.isNaN = false ∧ x.isInf = false) :
    (x.toModel.unpack = .zero (sign x) ∧ (Binary.ofBits x.toBits).significand = 0) ∨
      (Binary.ofBits x.toBits).Double ∧ ∃ some, x.toModel.unpack
        = .finite (sign x) (Binary.ofBits x.toBits).significand (Binary.ofBits x.toBits).exponent
            some := by
  change x.toModel.unpack.isNaN = false ∧ x.toModel.unpack.isInf = false at finite
  obtain ⟨b,is⟩ : ∃ b, Binary.ofBits x.toBits = b := ⟨_,rfl⟩
  rw [unpack_components] at finite ⊢
  rw [is]
  unfold Binary.ofBits at is
  rw [fraction_bits,exponent_bits] at is
  have fraction : x.toBits.toNat % 2 ^ 52 = (BitVec.ofNat 52 x.toBits.toNat).toNat :=
    (BitVec.toNat_ofNat _ _).symm
  have biased : x.toBits.toNat / 2 ^ 52 % 2 ^ 11
    = (BitVec.ofNat 11 (x.toBits.toNat / 2 ^ 52)).toNat := (BitVec.toNat_ofNat _ _).symm
  rw [fraction,biased] at is
  generalize BitVec.ofNat 11 (x.toBits.toNat / 2 ^ 52) = exponent at finite is ⊢
  generalize BitVec.ofNat 52 x.toBits.toNat = mantissa at finite is ⊢
  have low : mantissa.toNat < 2 ^ 52 := mantissa.isLt
  have high : exponent.toNat < 2 ^ 11 := exponent.isLt
  dsimp only at is
  by_cases top : exponent = -1#11
  · subst top
    rcases unpack_infinite (sign x) mantissa with shape | shape <;> rw [shape] at finite
    · cases finite.2
    · cases finite.1
  · have number : exponent.toNat ≠ 2047 := fun same => top (BitVec.eq_of_toNat_eq same)
    by_cases least : exponent = 0#11
    · subst least
      by_cases none : mantissa = 0#52
      · subst none
        subst is
        exact .inl ⟨unpack_nothing _,rfl⟩
      · have some : 0 < mantissa.toNat := by simpa [BitVec.toNat_pos,BitVec.pos_iff_ne_zero]
        have fits : Canonical mantissa.toNat (-1074) := ⟨by omega,by decide,by decide,.inr rfl⟩
        subst is
        exact .inr ⟨⟨fits,some,by simp⟩,some,unpack_subnormal none⟩
    · have normal : exponent.toNat ≠ 0 := fun same => least (BitVec.eq_of_toNat_eq same)
      have fits : Canonical (mantissa.toNat + 4503599627370496) ((exponent.toNat : Int) - 1075) :=
        ⟨by omega,by omega,by omega,.inl (by omega)⟩
      rw [if_neg (by simpa using normal)] at is
      subst is
      rw [unpack_normal top least]
      refine .inr ⟨⟨fits,Nat.succ_pos _,?_⟩,Nat.succ_pos _,?_⟩
      · simp only [Bool.and_eq_true,beq_iff_eq,decide_eq_true_eq]
        omega
      · rw [UnpackedFloat.finite.injEq]
        exact ⟨rfl,(toNat_implicit _).trans (Nat.add_comm ..),rfl⟩

theorem bits_inj {x y : Float} (same : x.toBits.toNat = y.toBits.toNat) : x = y := by
  have bits : x.toBits = y.toBits := UInt64.toNat_inj.mp same
  obtain ⟨⟨a,valid⟩⟩ := x
  obtain ⟨⟨b,other⟩⟩ := y
  change a = b at bits
  subst bits
  rfl

variable (x) in
theorem ofBits_parts :
    (x.toBits.toNat / 2 ^ 52 % 2 ^ 11 = 0 ∧
      (Binary.ofBits x.toBits).significand = x.toBits.toNat % 2 ^ 52 ∧
      (Binary.ofBits x.toBits).exponent = -1074) ∨
    (0 < x.toBits.toNat / 2 ^ 52 % 2 ^ 11 ∧
      (Binary.ofBits x.toBits).significand = x.toBits.toNat % 2 ^ 52 + 2 ^ 52 ∧
      (Binary.ofBits x.toBits).exponent = (x.toBits.toNat / 2 ^ 52 % 2 ^ 11 : Nat) - 1075) := by
  unfold Binary.ofBits
  rw [fraction_bits,exponent_bits]
  dsimp only
  split
  · rename_i zero
    exact .inl ⟨eq_of_beq zero,rfl,rfl⟩
  · rename_i normal
    exact .inr ⟨Nat.pos_of_ne_zero (by simpa using normal),rfl,rfl⟩

theorem magnitude_inj {x y : Float} (signs : sign x = sign y)
    (significand : (Binary.ofBits x.toBits).significand = (Binary.ofBits y.toBits).significand)
    (exponent : (Binary.ofBits x.toBits).exponent = (Binary.ofBits y.toBits).exponent) : x = y := by
  have first := sign_toNat x
  rw [signs,sign_toNat] at first
  apply bits_inj
  rcases ofBits_parts x with ⟨zero,left,power⟩ | ⟨some,left,power⟩ <;>
    rcases ofBits_parts y with ⟨nothing,right,grade⟩ | ⟨other,right,grade⟩ <;>
    omega

theorem zero_whole (nothing : (Binary.ofBits x.toBits).significand = 0) : whole? x = some 0 := by
  have below := x.toBits.toNat_lt
  have bits : x.toBits.toNat = (0.0 : Float).toBits.toNat ∨
      x.toBits.toNat = (-0.0 : Float).toBits.toNat := by
    have plus : (0.0 : Float).toBits.toNat = 0 := by decide +kernel
    have minus : (-0.0 : Float).toBits.toNat = 2 ^ 63 := by decide +kernel
    rcases ofBits_parts x with ⟨zero,left,-⟩ | ⟨some,left,-⟩ <;> omega
  rcases bits with same | same
  · rw [bits_inj same]
    decide +kernel
  · rw [bits_inj same]
    decide +kernel

theorem unpack_unbounded (number : x.isNaN = false) (infinite : x.isInf = true) :
    x.toModel.unpack = .infinity (sign x) := by
  change x.toModel.unpack.isNaN = false at number
  change x.toModel.unpack.isInf = true at infinite
  rw [unpack_components] at number infinite ⊢
  generalize BitVec.ofNat 11 (x.toBits.toNat / 2 ^ 52) = exponent at number infinite ⊢
  generalize BitVec.ofNat 52 x.toBits.toNat = mantissa at number infinite ⊢
  by_cases top : exponent = -1#11
  · subst top
    refine (unpack_infinite (sign x) mantissa).resolve_right fun shape => ?_
    rw [shape] at number
    cases number
  · by_cases least : exponent = 0#11
    · subst least
      by_cases none : mantissa = 0#52
      · subst none
        rw [unpack_nothing] at infinite
        cases infinite
      · rw [unpack_subnormal none] at infinite
        cases infinite
    · rw [unpack_normal top least] at infinite
      cases infinite

end Bits

section Values

variable {x y : Float}

theorem value_magnitude (finite : x.isNaN = false ∧ x.isInf = false) :
    value? x = some ((if isNegative x then -1 else 1) * (Binary.ofBits x.toBits).value) := by
  have signed (m : Nat) : (((sign x).apply m : Int) : ℚ) = (if isNegative x then -1 else 1) * m := by
    unfold sign
    split <;> simp [Sign.apply]
  unfold value? Binary.value
  rcases unpack_magnitude finite with ⟨shape,nothing⟩ | ⟨-,counted,shape⟩
  · rw [shape,nothing,Nat.cast_zero,zero_mul,mul_zero]
    rfl
  · rw [shape,← mul_assoc,← signed]
    rfl

theorem beq_value {q r : ℚ} (left : value? x = some q) (right : value? y = some r) :
    (x == y) = true ↔ q = r := by
  change (x.toModel.unpack.compare y.toModel.unpack == some .eq) = true ↔ _
  rw [compare_value left right]
  simp

theorem number_of_beq (same : (x == y) = true) : x.isNaN = false := by
  change (x.toModel.unpack.compare y.toModel.unpack == some .eq) = true at same
  change x.toModel.unpack.isNaN = false
  cases shape : x.toModel.unpack with
  | notANumber => rw [shape] at same; cases same
  | _ => rfl

-- Equal numbers are one double, but for the two zeros.
theorem beq_double (finite : x.isNaN = false ∧ x.isInf = false)
    (other : y.isNaN = false ∧ y.isInf = false) (same : (x == y) = true) :
    x = y ∨ (Binary.ofBits x.toBits).significand = 0 ∧ (Binary.ofBits y.toBits).significand = 0 := by
  have numbers := (beq_value (value_magnitude finite) (value_magnitude other)).mp same
  have value_pos {b : Binary} (double : b.Double) : 0 < b.value :=
    (Binary.low_pos double.some).trans b.low_value
  have value_zero {b : Binary} (nothing : b.significand = 0) : b.value = 0 := by
    simp [Binary.value,nothing]
  rcases unpack_magnitude finite with ⟨-,nothing⟩ | ⟨double,-⟩
  · rcases unpack_magnitude other with ⟨-,zero⟩ | ⟨double,-⟩
    · exact .inr ⟨nothing,zero⟩
    · have some := value_pos double
      rw [value_zero nothing,mul_zero] at numbers
      split at numbers <;> linarith
  · have some := value_pos double
    rcases unpack_magnitude other with ⟨-,zero⟩ | ⟨second,-⟩
    · rw [value_zero zero,mul_zero] at numbers
      split at numbers <;> linarith
    · have more := value_pos second
      have signs : isNegative x = isNegative y := by
        cases first : isNegative x <;> cases last : isNegative y <;>
          simp only [first,last,if_true,if_false,Bool.false_eq_true] at numbers <;>
          first | rfl | (exfalso; linarith)
      have magnitudes : (Binary.ofBits x.toBits).value = (Binary.ofBits y.toBits).value := by
        rw [signs] at numbers
        split at numbers <;> linarith
      have rounded := Binary.rounds_value (Binary.ofBits x.toBits)
      rw [magnitudes] at rounded
      obtain ⟨significand,exponent⟩ := Binary.rounds_unique double second rounded
        (Binary.rounds_value _)
      exact .inl (magnitude_inj (by rw [sign,sign,signs]) significand exponent)

end Values

section Texts

-- What digits, a fraction and an exponent say, taken apart as the reader does and not rounded.
def textValue (cs : List Char) : ℚ :=
  let number := cs.takeWhile (· != 'e')
  let whole := number.takeWhile (· != '.')
  let fraction := (number.dropWhile (· != '.')).drop 1
  natOfDigits (whole ++ fraction)
    * 10 ^ ((readExponent (cs.dropWhile (· != 'e'))).getD 0 - fraction.length)

theorem natOfDigits_append (front back : List Char) :
    natOfDigits (front ++ back) = 10 ^ back.length * natOfDigits front + natOfDigits back :=
  Nat.ofDigitChars_append (b := 10) 0 |>.trans Nat.ofDigitChars_eq_ofDigitChars_zero

theorem natOfDigits_zeros (n : Nat) : natOfDigits (zeros n).toList = 0 := by
  rw [zeros,String.toList_ofList]
  exact Nat.ofDigitChars_replicate_zero.trans (Nat.mul_zero _)

theorem takeWhile_mark {front back : List Char} {mark : Char} (clear : mark ∉ front)
    (starts : ∀ c ∈ back.head?, c = mark) :
    (front ++ back).takeWhile (· != mark) = front ∧
      (front ++ back).dropWhile (· != mark) = back := by
  have each : ∀ c ∈ front, (c != mark) = true := by
    intro c listed
    rw [bne_iff_ne]
    rintro rfl
    exact clear listed
  rw [List.takeWhile_append_of_pos each,List.dropWhile_append_of_pos each]
  cases back with
  | nil => simp
  | cons c rest =>
      obtain rfl : c = mark := starts c rfl
      simp

theorem textValue_parts {whole point power : List Char}
    (digits : ∀ c ∈ whole, c.isDigit = true) (places : ∀ c ∈ point.drop 1, c.isDigit = true)
    (mark : ∀ c ∈ point.head?, c = '.') (grade : ∀ c ∈ power.head?, c = 'e') :
    textValue (whole ++ point ++ power) = natOfDigits (whole ++ point.drop 1)
      * 10 ^ ((readExponent power).getD 0 - (point.drop 1).length) := by
  have unmarked : '.' ∉ whole := fun listed => absurd (digits _ listed) (by decide)
  have ungraded : 'e' ∉ whole ++ point := by
    intro listed
    rcases List.mem_append.mp listed with early | late
    · exact absurd (digits _ early) (by decide)
    · cases point with
      | nil => cases late
      | cons c more =>
          obtain rfl : c = '.' := mark c rfl
          rcases List.mem_cons.mp late with same | late
          · cases same
          · exact absurd (places _ late) (by decide)
  obtain ⟨number,exponent⟩ := takeWhile_mark ungraded grade
  obtain ⟨front,back⟩ := takeWhile_mark unmarked mark
  unfold textValue
  dsimp only
  rw [number,exponent,front,back]

theorem readExponent_digits {digits : List Char} (each : Digits digits) :
    readExponent ('e' :: digits) = some (natOfDigits digits : Int) ∧
      readExponent ('e' :: '-' :: digits) = some (-(natOfDigits digits : Int)) := by
  have all : digits.all Char.isDigit = true := List.all_eq_true.mpr each.2
  have some : digits.isEmpty = false := List.isEmpty_eq_false_iff.mpr each.1
  constructor
  · obtain ⟨c,more,rfl⟩ := List.exists_cons_of_ne_nil each.1
    have digit := each.2 c List.mem_cons_self
    have unsigned : c ≠ '-' ∧ c ≠ '+' := by
      constructor <;> (rintro rfl; cases digit)
    simp [readExponent,unsigned,all]
  · simp [readExponent,some,all]

theorem readExponent_written (e : Int) :
    readExponent ('e' :: ((if 0 ≤ e then "" else "-") ++ toString e.natAbs).toList) = some e := by
  obtain ⟨positive,negative⟩ := readExponent_digits (digits_nat e.natAbs)
  rw [natOfDigits_nat] at positive negative
  split
  · rw [String.empty_append]
    exact positive.trans (congrArg some (by omega))
  · rw [String.toList_append]
    exact negative.trans (congrArg some (by omega))

theorem length_zeros (n : Nat) : (zeros n).toList.length = n := by
  rw [zeros,String.toList_ofList,List.length_replicate]

theorem take_drop_chars (text : String) (n : Nat) :
    (text.take n).toString.toList ++ (text.drop n).toString.toList = text.toList := by
  change (text.take n).copy.toList ++ (text.drop n).copy.toList = _
  rw [String.toList_copy_take,String.toList_copy_drop,List.take_append_drop]

theorem length_drop_chars (text : String) (n : Nat) :
    (text.drop n).toString.toList.length = text.length - n := by
  change (text.drop n).copy.toList.length = _
  rw [String.toList_copy_drop,List.length_drop,String.length_toList]

section
variable {digits : String} (known : Digits digits.toList)
include known

theorem textValue_whole (n : Nat) : textValue (digits ++ zeros n ++ ".0").toList
    = natOfDigits digits.toList * 10 ^ n := by
  have last : natOfDigits ['0'] = 0 := rfl
  have parts := @textValue_parts (digits ++ zeros n).toList ['.','0'] []
    (by rw [String.toList_append]; exact (known.append (zeros_digits n)).2) (by simp) (by simp)
    (by simp)
  rw [String.toList_append,← List.append_nil (_ ++ _)]
  refine parts.trans ?_
  simp only [List.drop_one,List.tail_cons,String.toList_append,natOfDigits_append,length_zeros,
    natOfDigits_zeros,last,readExponent]
  push_cast
  simp
  ring

theorem textValue_point {n : Nat} (some : 0 < n) :
    textValue ((digits.take n).toString ++ "." ++ (digits.drop n).toString).toList
      = natOfDigits digits.toList * 10 ^ (-(digits.length - n : Nat) : Int) := by
  have parts := @textValue_parts (digits.take n).toString.toList
    ('.' :: (digits.drop n).toString.toList) [] (digits_take known some).2 (drop_digits known n)
    (by simp) (by simp)
  rw [List.drop_one,List.tail_cons,take_drop_chars,length_drop_chars,List.append_nil] at parts
  simpa [readExponent] using parts

theorem textValue_fraction (n : Nat) : textValue ("0." ++ zeros n ++ digits).toList
    = natOfDigits digits.toList * 10 ^ (-(n + digits.length : Nat) : Int) := by
  have parts := @textValue_parts ['0'] ('.' :: (zeros n ++ digits).toList) [] (by simp)
    (by
      intro c listed
      rw [List.drop_one,List.tail_cons,String.toList_append] at listed
      rcases List.mem_append.mp listed with early | late
      · exact zeros_digits n c early
      · exact known.2 c late)
    (by simp) (by simp)
  have first : natOfDigits ['0'] = 0 := rfl
  rw [List.drop_one,List.tail_cons,natOfDigits_append,String.toList_append,natOfDigits_append,
    natOfDigits_zeros,first,List.length_append,length_zeros,String.length_toList] at parts
  simpa [readExponent] using parts

theorem textValue_exponent (e : Int) :
    textValue ((digits.take 1).toString ++ (if (digits.drop 1).toString.isEmpty then ""
        else "." ++ (digits.drop 1).toString) ++ "e" ++ (if 0 ≤ e then "" else "-")
          ++ toString e.natAbs).toList
      = natOfDigits digits.toList * 10 ^ (e - (digits.length - 1 : Nat)) := by
  have point : (if (digits.drop 1).toString.isEmpty then ""
      else "." ++ (digits.drop 1).toString).toList.drop 1 = (digits.drop 1).toString.toList := by
    split
    · rename_i none
      rw [String.isEmpty_iff.mp none]
      rfl
    · simp
  have parts := @textValue_parts (digits.take 1).toString.toList
    (if (digits.drop 1).toString.isEmpty then "" else "." ++ (digits.drop 1).toString).toList
    ('e' :: ((if 0 ≤ e then "" else "-") ++ toString e.natAbs).toList)
    (digits_take known one_pos).2 (by rw [point]; exact drop_digits known 1)
    (by split <;> simp) (by simp)
  rw [point,take_drop_chars,length_drop_chars,readExponent_written,Option.getD_some] at parts
  rw [← parts]
  simp [String.append_assoc]

end

theorem writeDecimal_value (d : Decimal) :
    textValue (Layout.text.writeDecimal d).toList = d.value := by
  have known := digits_nat d.digits
  have number := natOfDigits_nat d.digits
  have some : 0 < (toString d.digits).length := by
    rw [← String.length_toList]
    exact List.length_pos_of_ne_nil known.1
  unfold Layout.writeDecimal Decimal.value
  dsimp only
  generalize toString d.digits = digits at known number some ⊢
  split
  · rename_i whole
    rw [textValue_whole known,number,← zpow_natCast,Int.toNat_of_nonneg whole.1]
  · split
    · rename_i inside
      rw [textValue_point known (by omega),number]
      congr 2
      omega
    · split
      · rw [textValue_fraction known,number]
        congr 2
        omega
      · refine (textValue_exponent known _).trans ?_
        rw [number]
        congr 2
        omega

-- A number that is not written as a whole one has a fraction or an exponent.
theorem writeDecimal_marked (d : Decimal) :
    '.' ∈ (Layout.text.writeDecimal d).toList ∨ 'e' ∈ (Layout.text.writeDecimal d).toList := by
  unfold Layout.writeDecimal
  dsimp only
  split
  · exact .inl (by simp)
  · split
    · exact .inl (by simp)
    · split
      · exact .inl (by simp)
      · exact .inr (by simp)

theorem writeDecimal_dashless (d : Decimal) (text : String) :
    "" ++ Layout.text.writeDecimal d ≠ "-" ++ text := by
  intro same
  have head := (writeDecimal_numeral d).head []
  rw [List.append_nil,← String.empty_append (s := Layout.text.writeDecimal d),same,
    String.toList_append] at head
  exact head rfl

theorem int_chars {n : Int} {c : Char} (listed : c ∈ (toString n).toList) :
    c.isDigit = true ∨ c = '-' := by
  cases n with
  | ofNat n => exact .inl ((digits_nat n).2 c listed)
  | negSucc n =>
      change c ∈ ("-" ++ (n + 1).repr).toList at listed
      rw [String.toList_append] at listed
      rcases List.mem_append.mp listed with early | late
      · exact .inr (List.mem_singleton.mp early)
      · exact .inl ((digits_nat (n + 1)).2 c late)

theorem int_text_inj {m n : Int} (same : toString m = toString n) : m = n := by
  have signless {k l : Nat} (alike : toString (k : Int) = toString (Int.negSucc l)) : False := by
    have dash : '-' ∈ (toString k).toList := by
      change toString k = "-" ++ (l + 1).repr at alike
      rw [alike]
      simp
    exact absurd ((digits_nat k).2 _ dash) (by decide)
  cases m with
  | ofNat k =>
      cases n with
      | ofNat l =>
          have alike : toString k = toString l := same
          rw [← natOfDigits_nat k,alike,natOfDigits_nat]
      | negSucc l => exact (signless same).elim
  | negSucc k =>
      cases n with
      | ofNat l => exact (signless same.symm).elim
      | negSucc l =>
          have alike : "-" ++ toString (k + 1) = "-" ++ toString (l + 1) := same
          have counted := natOfDigits_nat (k + 1)
          rw [(String.append_right_inj _).mp alike,natOfDigits_nat] at counted
          rw [Nat.succ_injective counted]

end Texts

section Identity

variable {x y : Float}

theorem numberText_whole {n : Int} (whole : whole? x = some n) : numberText x = toString n := by
  rw [numberText,whole]

theorem numberText_double (finite : x.isNaN = false ∧ x.isInf = false) (fractional : whole? x = none) :
    (Binary.ofBits x.toBits).Double ∧ numberText x
      = (if isNegative x then "-" else "")
          ++ Layout.text.writeDecimal (Binary.ofBits x.toBits).shortest := by
  have some : (Binary.ofBits x.toBits).significand ≠ 0 := by
    intro nothing
    rw [zero_whole nothing] at fractional
    cases fractional
  have nonzero : (x == 0.0) = false := by
    apply Bool.eq_false_iff.mpr
    intro same
    rcases beq_double finite ⟨by decide +kernel,by decide +kernel⟩ same with rfl | ⟨nothing,-⟩
    · exact some (by decide +kernel)
    · exact some nothing
  refine ⟨(unpack_magnitude finite).elim (fun zero => absurd zero.2 some) (·.1),?_⟩
  rw [numberText,fractional]
  simp only [Layout.write,finite.1,finite.2,nonzero,Bool.false_eq_true,↓reduceIte]

theorem numberText_unbounded (number : x.isNaN = false) (infinite : x.isInf = true) :
    numberText x = if isNegative x then "-inf" else "inf" := by
  unfold numberText
  split
  · rename_i n whole
    rw [(whole_finite whole).2] at infinite
    cases infinite
  · simp only [Layout.write,number,infinite,Bool.false_eq_true,↓reduceIte]
    rfl

theorem beq_whole {n : Int} (finite : x.isNaN = false ∧ x.isInf = false)
    (other : y.isNaN = false ∧ y.isInf = false) (left : whole? x = some n) (right : whole? y = some n) :
    (x == y) = true := by
  have first := value_of_beq (value_magnitude finite) (beq_of_whole left)
  have second := value_of_beq (value_magnitude other) (beq_of_whole right)
  exact (beq_value (value_magnitude finite) (value_magnitude other)).mpr
    (Option.some.inj (first.symm.trans second))

theorem whole_marks {n : Int} (whole : whole? x = some n)
    (finite : y.isNaN = false ∧ y.isInf = false) (fractional : whole? y = none) :
    numberText x ≠ numberText y := by
  intro same
  rw [numberText_whole whole,(numberText_double finite fractional).2] at same
  have unmarked {c : Char} (other : c.isDigit = false ∧ c ≠ '-')
      (listed : c ∈ (Layout.text.writeDecimal (Binary.ofBits y.toBits).shortest).toList) : False := by
    have inside : c ∈ (toString n).toList := by
      rw [same,String.toList_append]
      exact List.mem_append_right _ listed
    rcases int_chars inside with digit | dash
    · rw [other.1] at digit
      cases digit
    · exact other.2 dash
  rcases writeDecimal_marked (Binary.ofBits y.toBits).shortest with listed | listed
  · exact unmarked (by decide) listed
  · exact unmarked (by decide) listed

theorem double_text_inj (finite : x.isNaN = false ∧ x.isInf = false)
    (other : y.isNaN = false ∧ y.isInf = false) (left : whole? x = none) (right : whole? y = none)
    (same : numberText x = numberText y) : x = y := by
  obtain ⟨first,front⟩ := numberText_double finite left
  obtain ⟨second,back⟩ := numberText_double other right
  rw [front,back] at same
  have signs : isNegative x = isNegative y := by
    cases a : isNegative x <;> cases b : isNegative y <;>
      simp only [a,b,if_true,if_false,Bool.false_eq_true] at same
    · rfl
    · exact (writeDecimal_dashless _ _ same).elim
    · exact (writeDecimal_dashless _ _ same.symm).elim
    · rfl
  rw [signs] at same
  have values := writeDecimal_value (Binary.ofBits x.toBits).shortest
  rw [(String.append_right_inj _).mp same,writeDecimal_value] at values
  have rounds := Binary.shortest_rounds first
  rw [← values] at rounds
  obtain ⟨significand,exponent⟩ :=
    Binary.rounds_unique first second rounds (Binary.shortest_rounds second)
  exact magnitude_inj (by rw [sign,sign,signs]) significand exponent

theorem unbounded_marks (finite : x.isNaN = false ∧ x.isInf = false) (number : y.isNaN = false)
    (infinite : y.isInf = true) : numberText x ≠ numberText y := by
  intro same
  have letter : 'i' ∈ (numberText y).toList := by
    rw [numberText_unbounded number infinite]
    split <;> decide
  rw [← same] at letter
  rcases (numberText_signed finite.1 finite.2).chars letter with digit | mark
  · exact absurd digit (by decide)
  · exact absurd mark (by decide)

theorem beq_unbounded (finite : x.isNaN = false ∧ x.isInf = false) (number : y.isNaN = false)
    (infinite : y.isInf = true) : (x == y) = false ∧ (y == x) = false := by
  change (x.toModel.unpack.compare y.toModel.unpack == some .eq) = false ∧
    (y.toModel.unpack.compare x.toModel.unpack == some .eq) = false
  rw [unpack_unbounded number infinite]
  rcases unpack_magnitude finite with ⟨shape,-⟩ | ⟨-,counted,shape⟩
  · rw [shape]
    cases sign x <;> cases sign y <;> exact ⟨rfl,rfl⟩
  · rw [shape]
    cases sign x <;> cases sign y <;> exact ⟨rfl,rfl⟩

theorem infinity_text_inj (number : x.isNaN = false) (numeric : y.isNaN = false)
    (infinite : x.isInf = true) (unbounded : y.isInf = true) :
    numberText x = numberText y ↔ (x == y) = true := by
  change _ ↔ (x.toModel.unpack.compare y.toModel.unpack == some .eq) = true
  rw [numberText_unbounded number infinite,numberText_unbounded numeric unbounded,
    unpack_unbounded number infinite,unpack_unbounded numeric unbounded,sign,sign]
  cases isNegative x <;> cases isNegative y <;> decide

theorem numberText_same (number : x.isNaN = false) (numeric : y.isNaN = false) :
    numberText x = numberText y ↔ (x == y) = true := by
  cases left : x.isInf <;> cases right : y.isInf
  · have finite := And.intro number left
    have other := And.intro numeric right
    constructor
    · intro same
      cases first : whole? x with
      | some m =>
          cases second : whole? y with
          | some n =>
              rw [numberText_whole first,numberText_whole second] at same
              rw [int_text_inj same] at first
              exact beq_whole finite other first second
          | none => exact absurd same (whole_marks first other second)
      | none =>
          cases second : whole? y with
          | some n => exact absurd same.symm (whole_marks second finite first)
          | none =>
              rw [double_text_inj finite other first second same]
              exact (beq_value (value_magnitude other) (value_magnitude other)).mpr rfl
    · intro same
      rcases beq_double finite other same with rfl | ⟨nothing,zero⟩
      · rfl
      · rw [numberText_whole (zero_whole nothing),numberText_whole (zero_whole zero)]
  · have finite := And.intro number left
    have apart := (beq_unbounded finite numeric right).1
    exact iff_of_false (unbounded_marks finite numeric right) (Bool.eq_false_iff.mp apart)
  · have finite := And.intro numeric right
    have apart := (beq_unbounded finite number left).2
    exact iff_of_false (unbounded_marks finite number left).symm (Bool.eq_false_iff.mp apart)
  · exact infinity_text_inj number numeric left right

end Identity

end OlapQuery.Decimal
