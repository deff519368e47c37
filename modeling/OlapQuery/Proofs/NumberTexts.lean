import Mathlib.Data.List.Basic
import OlapQuery.Decimal.Layout

-- How numbers are written: a sign or none, digits, a fraction or none, and an exponent or none.

namespace OlapQuery.Decimal

def Digits (cs : List Char) : Prop :=
  cs ≠ [] ∧ ∀ c ∈ cs, c.isDigit = true

def Fraction (cs : List Char) : Prop :=
  cs = [] ∨ ∃ digits, Digits digits ∧ cs = '.' :: digits

def Exponent (cs : List Char) : Prop :=
  cs = [] ∨ ∃ digits, Digits digits ∧ (cs = 'e' :: digits ∨ cs = 'e' :: '-' :: digits)

structure Numeral (cs : List Char) : Prop where
  parts : ∃ whole fraction exponent, Digits whole ∧ Fraction fraction ∧ Exponent exponent ∧
    cs = whole ++ fraction ++ exponent

theorem Digits.append {as bs : List Char} (first : Digits as) (second : ∀ c ∈ bs, c.isDigit = true) :
    Digits (as ++ bs) := by
  refine ⟨List.append_ne_nil_of_left_ne_nil first.1 bs,?_⟩
  intro c listed
  rcases List.mem_append.mp listed with early | late
  · exact first.2 c early
  · exact second c late

theorem Digits.last {digits : List Char} (each : Digits digits) (before : List Char) :
    (before ++ digits).getLast? ≠ some 'e' := by
  intro last
  rw [List.getLast?_append_of_ne_nil _ each.1] at last
  exact absurd (each.2 'e' (List.mem_of_getLast? last)) (by decide)

-- A numeral ends with a digit, so that no sign after it belongs to an exponent.
theorem Numeral.last {cs : List Char} (numeral : Numeral cs) : cs.getLast? ≠ some 'e' := by
  obtain ⟨whole,fraction,exponent,digits,point,power,rfl⟩ := numeral.parts
  rcases power with rfl | ⟨more,last,rfl | rfl⟩
  · rcases point with rfl | ⟨more,last,rfl⟩
    · simpa using digits.last []
    · simpa using last.last (whole ++ ['.'])
  · simpa using last.last (whole ++ fraction ++ ['e'])
  · simpa using last.last (whole ++ fraction ++ ['e','-'])

theorem Numeral.head {cs : List Char} (numeral : Numeral cs) (rest : List Char) :
    (cs ++ rest).head? ≠ some '-' := by
  obtain ⟨whole,fraction,exponent,digits,-,-,rfl⟩ := numeral.parts
  cases whole with
  | nil => exact absurd rfl digits.1
  | cons c whole =>
      intro head
      cases head
      cases digits.2 '-' List.mem_cons_self

theorem digits_nat (n : Nat) : Digits (toString n).toList := by
  change Digits n.repr.toList
  rw [Nat.toList_repr]
  exact ⟨Nat.toDigits_ne_nil,fun c listed => Nat.isDigit_of_mem_toDigits (by decide) (by decide) listed⟩

theorem zeros_digits (n : Nat) : ∀ c ∈ (zeros n).toList, c.isDigit = true := by
  intro c listed
  rw [zeros,String.toList_ofList] at listed
  cases (List.mem_replicate.mp listed).2
  rfl

theorem digits_take {text : String} (digits : Digits text.toList) {n : Nat} (some : 0 < n) :
    Digits (text.take n).toString.toList := by
  change Digits (text.take n).copy.toList
  rw [String.toList_copy_take]
  refine ⟨?_,fun c listed => digits.2 c (List.mem_of_mem_take listed)⟩
  intro none
  rcases List.take_eq_nil_iff.mp none with zero | empty
  · omega
  · exact digits.1 empty

theorem drop_digits {text : String} (digits : Digits text.toList) (n : Nat) :
    ∀ c ∈ (text.drop n).toString.toList, c.isDigit = true := by
  intro c listed
  change c ∈ (text.drop n).copy.toList at listed
  rw [String.toList_copy_drop] at listed
  exact digits.2 c (List.mem_of_mem_drop listed)

theorem digits_drop {text : String} (digits : Digits text.toList) {n : Nat}
    (short : n < text.length) : Digits (text.drop n).toString.toList := by
  refine ⟨?_,drop_digits digits n⟩
  change (text.drop n).copy.toList ≠ []
  rw [String.toList_copy_drop]
  intro none
  have long := List.drop_eq_nil_iff.mp none
  rw [String.length_toList] at long
  omega

theorem writeDecimal_numeral (d : Decimal) : Numeral (Layout.text.writeDecimal d).toList := by
  have known := digits_nat d.digits
  unfold Layout.writeDecimal
  dsimp only
  generalize toString d.digits = digits at known ⊢
  split
  · have whole := known.append (zeros_digits d.exponent.toNat)
    exact ⟨_,['.','0'],[],whole,.inr ⟨['0'],by simp [Digits],rfl⟩,.inl rfl,by simp⟩
  · rename_i fractional
    split
    · rename_i inside
      have whole := @digits_take digits known ((digits.length : Int) + d.exponent).toNat (by omega)
      have rest := @digits_drop digits known ((digits.length : Int) + d.exponent).toNat (by omega)
      exact ⟨_,_,[],whole,.inr ⟨_,rest,rfl⟩,.inl rfl,by simp⟩
    · split
      · have rest : Digits ((zeros (-((digits.length : Int) + d.exponent)).toNat).toList
            ++ digits.toList) := by
          refine ⟨List.append_ne_nil_of_right_ne_nil _ known.1,?_⟩
          intro c listed
          rcases List.mem_append.mp listed with early | late
          · exact zeros_digits _ c early
          · exact known.2 c late
        exact ⟨['0'],_,[],by simp [Digits],.inr ⟨_,rest,rfl⟩,.inl rfl,by simp⟩
      · have lead := @digits_take digits known 1 (by omega)
        have fraction : Fraction (if (digits.drop 1).toString.isEmpty then ""
            else "." ++ (digits.drop 1).toString).toList := by
          split
          · exact .inl rfl
          · rename_i some
            refine .inr ⟨(digits.drop 1).toString.toList,⟨?_,drop_digits known 1⟩,by simp⟩
            intro none
            exact some (String.isEmpty_iff.mpr (String.toList_eq_nil_iff.mp none))
        have exponent : Exponent ("e" ++ (if 0 ≤ (digits.length : Int) + d.exponent - 1 then
            (if Layout.text.exponentPlus then "+" else "") else "-")
              ++ toString ((digits.length : Int) + d.exponent - 1).natAbs).toList := by
          refine .inr ⟨_,digits_nat ((digits.length : Int) + d.exponent - 1).natAbs,?_⟩
          split
          · exact .inl (by simp [Layout.text])
          · exact .inr (by simp)
        exact ⟨_,_,_,lead,fraction,exponent,by simp [String.append_assoc]⟩

theorem Digits.numeral {cs : List Char} (digits : Digits cs) : Numeral cs :=
  ⟨cs,[],[],digits,.inl rfl,.inl rfl,by simp⟩

def Signed (cs : List Char) : Prop :=
  Numeral cs ∨ ∃ numeral, Numeral numeral ∧ cs = '-' :: numeral

theorem int_signed (n : Int) : Signed (toString n).toList := by
  cases n with
  | ofNat n => exact .inl (digits_nat n).numeral
  | negSucc n =>
      refine .inr ⟨_,(digits_nat (n + 1)).numeral,?_⟩
      change ("-" ++ (n + 1).repr).toList = _
      simp

theorem numberText_signed {x : Float} (number : x.isNaN = false) (finite : x.isInf = false) :
    Signed (numberText x).toList := by
  unfold numberText
  split
  · exact int_signed _
  · unfold Layout.write
    simp only [number,finite,Bool.false_eq_true,↓reduceIte]
    have magnitude : Numeral (if x == 0.0 then "0.0"
        else Layout.text.writeDecimal (Binary.ofBits x.toBits).shortest).toList := by
      split
      · exact ⟨['0'],['.','0'],[],by simp [Digits],.inr ⟨['0'],by simp [Digits],rfl⟩,.inl rfl,rfl⟩
      · exact writeDecimal_numeral _
    cases isNegative x with
    | false =>
        refine .inl ?_
        split <;> simp_all
    | true =>
        refine .inr ⟨_,magnitude,?_⟩
        split <;> simp

open Float.Model (UnpackedFloat) in
theorem whole_finite {x : Float} {n : Int} (is : whole? x = some n) :
    x.isNaN = false ∧ x.isInf = false := by
  obtain ⟨test,-⟩ := Option.ite_none_right_eq_some.mp is
  have means : x.abs < 1e15 ↔ ((Float.Model.pack x.toModel.unpack.abs).unpack.compare
      (1e15 : Float).toModel.unpack == some .lt) = true := decide_eq_true_iff
  have small := means.mp (of_decide_eq_true (Bool.and_eq_true_iff.mp test).1)
  change x.toModel.unpack.isNaN = false ∧ x.toModel.unpack.isInf = false
  cases shape : x.toModel.unpack with
  | notANumber =>
      rw [shape] at small
      revert small
      decide +kernel
  | infinity s =>
      rw [shape] at small
      revert small
      cases s <;> decide +kernel
  | zero s => exact ⟨rfl,rfl⟩
  | finite s m e positive => exact ⟨rfl,rfl⟩

theorem numberText_word {x : Float} (infinite : ¬ (x.isNaN = false ∧ x.isInf = false)) :
    numberText x = "NaN" ∨ numberText x = "inf" ∨ numberText x = "-inf" := by
  unfold numberText
  split
  · rename_i n is
    exact absurd (whole_finite is) infinite
  · unfold Layout.write
    split
    · exact .inl rfl
    · have unbounded : x.isInf = true := by simp_all
      rw [if_pos unbounded]
      split
      · exact .inr (.inr rfl)
      · exact .inr (.inl rfl)

theorem Numeral.chars {cs : List Char} (numeral : Numeral cs) {c : Char} (listed : c ∈ cs) :
    c.isDigit = true ∨ c ∈ ['.','e','-'] := by
  obtain ⟨whole,fraction,exponent,digits,point,power,rfl⟩ := numeral.parts
  rcases List.mem_append.mp listed with listed | listed
  · rcases List.mem_append.mp listed with listed | listed
    · exact .inl (digits.2 c listed)
    · rcases point with rfl | ⟨more,digits,rfl⟩
      · cases listed
      · rcases List.mem_cons.mp listed with rfl | listed
        · exact .inr (by decide)
        · exact .inl (digits.2 c listed)
  · rcases power with rfl | ⟨more,digits,rfl | rfl⟩
    · cases listed
    · rcases List.mem_cons.mp listed with rfl | listed
      · exact .inr (by decide)
      · exact .inl (digits.2 c listed)
    · rcases List.mem_cons.mp listed with rfl | listed
      · exact .inr (by decide)
      · rcases List.mem_cons.mp listed with rfl | listed
        · exact .inr (by decide)
        · exact .inl (digits.2 c listed)

theorem Signed.chars {cs : List Char} (signed : Signed cs) {c : Char} (listed : c ∈ cs) :
    c.isDigit = true ∨ c ∈ ['.','e','-'] := by
  rcases signed with numeral | ⟨numeral,shape,rfl⟩
  · exact numeral.chars listed
  · rcases List.mem_cons.mp listed with rfl | listed
    · exact .inr (by decide)
    · exact shape.chars listed

theorem numberText_chars {x : Float} {c : Char} (listed : c ∈ (numberText x).toList) :
    c.isDigit = true ∨ c ∈ ['.','e','-','N','a','i','n','f'] := by
  by_cases finite : x.isNaN = false ∧ x.isInf = false
  · refine ((numberText_signed finite.1 finite.2).chars listed).imp_right fun other => ?_
    exact List.mem_append_left ['N','a','i','n','f'] other
  · right
    have word (text : String) (inside : text.toList.all ['.','e','-','N','a','i','n','f'].contains)
        (is : numberText x = text) : c ∈ ['.','e','-','N','a','i','n','f'] := by
      rw [is] at listed
      exact List.contains_iff_mem.mp (List.all_eq_true.mp inside c listed)
    rcases numberText_word finite with is | is | is
    · exact word "NaN" (by decide) is
    · exact word "inf" (by decide) is
    · exact word "-inf" (by decide) is

end OlapQuery.Decimal
