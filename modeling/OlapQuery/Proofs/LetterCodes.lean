import OlapQuery.Text.Letters

-- Where letters and digits begin. No code point before that of the digit zero is one of them.

namespace OlapQuery.Unicode

namespace CodeSet

def From (least : Nat) (s : List (Nat × Nat)) : Prop :=
  ∀ range ∈ s, least ≤ range.1

-- No number of a text is below the least; `code` is the one that is being read.
def numbersFrom (least : Nat) : Option Nat → List Char → Bool
  | code,[] => code.all (least ≤ ·)
  | code,c :: rest =>
      match c with
      | ' ' | '\n' => code.all (least ≤ ·) && numbersFrom least none rest
      | '-' | '~' => code.any (least ≤ ·) && numbersFrom least none rest
      | c => numbersFrom least (some (16 * code.getD 0 + (Text.hexValue? c).getD 0)) rest

variable {least : Nat}

theorem seconds_from {first : Nat} (later : least ≤ first) (last : Nat) : From least (seconds first last) := by
  have each (codes : List Nat) (done : List (Nat × Nat)) (all : From least done) :
      From least (codes.foldl (fun done i => (first + 2 * i,first + 2 * i) :: done) done) := by
    induction codes generalizing done with
    | nil => exact all
    | cons i rest ih => exact ih _ (List.forall_mem_cons.mpr ⟨Nat.le_add_right_of_le later,all⟩)
  exact each _ [] nofun

-- The ranges that were read are such, and so is the range that has begun.
structure Scan.From (least : Nat) (s : Scan) : Prop where
  ranges : CodeSet.From least s.ranges
  begun : s.mark ≠ .single → least ≤ s.first

theorem finish_from {s : Scan} (begins : s.From least) (ends : s.code.all (least ≤ ·) = true) :
    From least s.finish := by
  obtain ⟨ranges,first,mark,code⟩ := s
  cases code with
  | none => exact begins.ranges
  | some code =>
      cases mark with
      | single => exact List.forall_mem_cons.mpr ⟨of_decide_eq_true ends,begins.ranges⟩
      | everySecond =>
          exact List.forall_mem_append.mpr ⟨seconds_from (begins.begun nofun) code,begins.ranges⟩
      | _ => exact List.forall_mem_cons.mpr ⟨begins.begun nofun,begins.ranges⟩

theorem mark_from {s : Scan} (begins : s.From least) (mark : Mark)
    (given : s.code.any (least ≤ ·) = true) :
    Scan.From least { s with first := s.code.getD 0,mark,code := none } := by
  refine ⟨begins.ranges,fun _ => ?_⟩
  cases is : s.code with
  | none => rw [is] at given; cases given
  | some code =>
      rw [is] at given
      exact of_decide_eq_true given

theorem scan_from {cs : List Char} {s : Scan} (begins : s.From least)
    (checks : numbersFrom least s.code cs = true) : From least (cs.foldl Scan.step s).finish := by
  induction cs generalizing s with
  | nil => exact finish_from begins checks
  | cons c rest ih =>
      unfold numbersFrom at checks
      rw [List.foldl_cons]
      split at checks
      · obtain ⟨ends,others⟩ := Bool.and_eq_true_iff.mp checks
        exact ih ⟨finish_from begins ends,fun other => absurd rfl other⟩ others
      · obtain ⟨ends,others⟩ := Bool.and_eq_true_iff.mp checks
        exact ih ⟨finish_from begins ends,fun other => absurd rfl other⟩ others
      · obtain ⟨given,others⟩ := Bool.and_eq_true_iff.mp checks
        exact ih (mark_from begins .to given) others
      · obtain ⟨given,others⟩ := Bool.and_eq_true_iff.mp checks
        exact ih (mark_from begins .everySecond given) others
      · rename_i blank line dash wave
        have step : s.step c = { s with code := some (16 * s.code.getD 0 + (Text.hexValue? c).getD 0) } := by
          unfold Scan.step
          split
          · exact absurd rfl blank
          · exact absurd rfl line
          · exact absurd rfl dash
          · exact absurd rfl wave
          · rfl
        rw [step]
        exact ih ⟨begins.ranges,begins.begun⟩ checks

-- The characters are given, so that checking them does not decode the text.
theorem ofText_from {text : String} {cs : List Char} (written : text = String.ofList cs)
    (checks : numbersFrom least none cs = true) : From least (ofText text) := by
  rw [ofText,written,String.toList_ofList]
  have scanned := scan_from (s := {}) ⟨nofun,fun other => absurd rfl other⟩ checks
  exact fun range listed => scanned range (List.mem_reverse.mp listed)

theorem joinFrom_from {current : Nat × Nat} {s : List (Nat × Nat)} (first : least ≤ current.1)
    (others : From least s) : From least (joinFrom current s) := by
  induction s generalizing current with
  | nil => exact List.forall_mem_singleton.mpr first
  | cons range rest ih =>
      obtain ⟨here,later⟩ := List.forall_mem_cons.mp others
      unfold joinFrom
      split
      · exact ih first later
      · exact List.forall_mem_cons.mpr ⟨first,ih here later⟩

theorem join_from {s : List (Nat × Nat)} (each : From least s) : From least (join s) := by
  cases s with
  | nil => exact nofun
  | cons range rest =>
      obtain ⟨here,later⟩ := List.forall_mem_cons.mp each
      exact joinFrom_from here later

theorem union_from {a b : CodeSet} (first : From least a) (second : From least b) :
    From least (union a b) := by
  refine join_from fun range listed => ?_
  rcases List.mem_merge.mp listed with here | there
  · exact first range here
  · exact second range there

theorem unions_from {sets : List CodeSet} (each : ∀ s ∈ sets, From least s) :
    From least (unions sets) := by
  refine join_from fun range listed => ?_
  obtain ⟨s,member,inside⟩ := List.mem_flatten.mp (List.mem_mergeSort.mp listed)
  exact each s member range inside

theorem contains_from {s : CodeSet} (each : From least s) {code : Nat} (before : code < least) :
    s.contains code = false := by
  refine List.any_eq_false.mpr fun range listed => ?_
  have start := each range listed
  simp only [Bool.and_eq_true,decide_eq_true_eq]
  omega

end CodeSet

open CodeSet

section Tables

-- A text is as long a list as it has characters.
set_option maxRecDepth 60000

def zeroCode : Nat := 0x30

theorem letters_from : ∀ category ∈ [Category.lowercaseLetter,.uppercaseLetter,.titlecaseLetter,
    .modifierLetter,.otherLetter], From zeroCode category.codes := by
  simp only [List.forall_mem_cons]
  exact ⟨ofText_from rfl (by decide +kernel),ofText_from rfl (by decide +kernel),
    ofText_from rfl (by decide +kernel),ofText_from rfl (by decide +kernel),
    ofText_from rfl (by decide +kernel),nofun⟩

theorem numbers_from : ∀ category ∈ [Category.decimalNumber,.letterNumber,.otherNumber],
    From zeroCode category.codes := by
  simp only [List.forall_mem_cons]
  exact ⟨ofText_from rfl (by decide +kernel),ofText_from rfl (by decide +kernel),
    ofText_from rfl (by decide +kernel),nofun⟩

theorem others_from :
    From zeroCode otherLowercase ∧ From zeroCode otherUppercase ∧ From zeroCode otherAlphabetic :=
  ⟨ofText_from rfl (by decide +kernel),ofText_from rfl (by decide +kernel),
    ofText_from rfl (by decide +kernel)⟩

theorem alphabetic_from : From zeroCode alphabetic := by
  obtain ⟨lower,upper,other⟩ := others_from
  have lowercase : From zeroCode lowercase := union_from (letters_from _ (by decide)) lower
  have uppercase : From zeroCode uppercase := union_from (letters_from _ (by decide)) upper
  have titlecase := letters_from .titlecaseLetter (by decide)
  have modifier := letters_from .modifierLetter (by decide)
  have letter := letters_from .otherLetter (by decide)
  have number := numbers_from .letterNumber (by decide)
  have cased : From zeroCode cased := unions_from (by simpa using ⟨lowercase,uppercase,titlecase⟩)
  have others : From zeroCode (codesOf [.modifierLetter,.otherLetter,.letterNumber]) :=
    unions_from (by simpa using ⟨modifier,letter,number⟩)
  exact unions_from (by simpa using ⟨cased,others,other⟩)

theorem alphanumeric_from : From zeroCode alphanumeric :=
  union_from alphabetic_from (unions_from (List.forall_mem_map.mpr numbers_from))

end Tables

end OlapQuery.Unicode

namespace OlapQuery.Text

theorem not_alphanumeric {c : Char} (before : c.toNat < Unicode.zeroCode) : isAlphanumeric c = false :=
  Unicode.CodeSet.contains_from Unicode.alphanumeric_from before

end OlapQuery.Text
