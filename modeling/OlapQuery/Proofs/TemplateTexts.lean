import Mathlib.Data.List.ReduceOption
import OlapQuery.Proofs.TemplateFrames

-- The texts that are templates. What such a text is like is said of its slots and of what stands
-- outside of them, by counting; the reader, which stops at the first thing that is wrong, accepts just
-- these texts and puts operands into just the slots.

namespace OlapQuery.Sql

section Parentheses

-- Inside so many parentheses, a text closes them all and never more than are open.
structure Closing (depth : Nat) (text : List Char) : Prop where
  within : ∀ before, before <+: text → before.count ')' ≤ depth + before.count '('
  whole : text.count ')' = depth + text.count '('

variable {depth : Nat} {text : List Char}

theorem closing_nil : Closing depth [] ↔ depth = 0 := by
  constructor
  · intro closing
    exact closing.whole.symm
  · rintro rfl
    refine ⟨?_,rfl⟩
    intro before front
    rw [List.prefix_nil.mp front]
    exact Nat.le_refl _

-- A character after which so many parentheses are open, whatever follows.
theorem closing_step {c : Char} {next : Nat}
    (step : ∀ rest : List Char, (c :: rest).count ')' + (next + rest.count '(')
      = rest.count ')' + (depth + (c :: rest).count '(')) :
    Closing depth (c :: text) ↔ Closing next text := by
  constructor
  · rintro ⟨within,whole⟩
    refine ⟨?_,?_⟩
    · intro before front
      have longer := within _ (List.prefix_cons_inj c |>.mpr front)
      have counted := step before
      omega
    · have counted := step text
      omega
  · rintro ⟨within,whole⟩
    refine ⟨?_,?_⟩
    · intro before front
      rcases List.prefix_cons_iff.mp front with rfl | ⟨later,rfl,inside⟩
      · exact Nat.zero_le _
      · have shorter := within later inside
        have counted := step later
        omega
    · have counted := step text
      omega

theorem closing_open : Closing depth ('(' :: text) ↔ Closing (depth + 1) text := by
  refine closing_step fun rest => ?_
  simp
  omega

theorem closing_close : Closing (depth + 1) (')' :: text) ↔ Closing depth text := by
  refine closing_step fun rest => ?_
  simp
  omega

theorem closing_none : ¬ Closing 0 (')' :: text) := by
  intro closing
  have one := closing.within [')'] (List.prefix_cons_inj _ |>.mpr List.nil_prefix)
  exact absurd one (by decide)

theorem closing_other {c : Char} (unopened : c ≠ '(') (unclosed : c ≠ ')') :
    Closing depth (c :: text) ↔ Closing depth text := by
  refine closing_step fun rest => ?_
  rw [List.count_cons_of_ne unopened,List.count_cons_of_ne unclosed]

end Parentheses

section Quotes

-- The characters of a text that stand outside quotes, if an apostrophe opens or closes one.
def unquoted (quoted : Bool) : List Char → List Char
  | [] => []
  | c :: rest =>
      if c == apostrophe then unquoted (!quoted) rest
      else if quoted then unquoted quoted rest
      else c :: unquoted quoted rest

end Quotes

-- What is asked of a text that is read on inside so many parentheses, or inside a quote. The text
-- outside of slots is what the frame has in it.
structure Remaining (depth : Nat) (quoted : Bool) (frame : Frame) : Prop where
  dollarless : some '$' ∉ frame
  closing : Closing depth (unquoted quoted frame.reduceOption)
  ended : (quoted.toNat + frame.reduceOption.count apostrophe) % 2 = 0

section Steps

variable {depth : Nat} {quoted : Bool} {frame : Frame}

theorem remaining_nil : Remaining depth quoted [] ↔ depth = 0 ∧ quoted = false := by
  constructor
  · rintro ⟨-,closing,ended⟩
    refine ⟨closing_nil.mp closing,?_⟩
    cases quoted with
    | false => rfl
    | true => cases ended
  · rintro ⟨rfl,rfl⟩
    exact ⟨nofun,closing_nil.mpr rfl,rfl⟩

theorem remaining_slot : Remaining depth quoted (none :: frame) ↔ Remaining depth quoted frame := by
  constructor
  · rintro ⟨dollarless,closing,ended⟩
    exact ⟨fun listed => dollarless (List.mem_cons_of_mem _ listed),closing,ended⟩
  · rintro ⟨dollarless,closing,ended⟩
    exact ⟨by simpa using dollarless,closing,ended⟩

theorem remaining_dollar : ¬ Remaining depth quoted (some '$' :: frame) :=
  fun remaining => remaining.dollarless List.mem_cons_self

theorem remaining_quote : Remaining depth quoted (some apostrophe :: frame) ↔
    Remaining depth (!quoted) frame := by
  have other : some '$' ≠ some apostrophe := by decide
  have parity (n : Nat) : (quoted.toNat + (n + 1)) % 2 = 0 ↔ ((!quoted).toNat + n) % 2 = 0 := by
    cases quoted <;> simp <;> omega
  constructor
  · rintro ⟨dollarless,closing,ended⟩
    refine ⟨fun listed => dollarless (List.mem_cons_of_mem _ listed),?_,?_⟩
    · simpa [unquoted] using closing
    · rw [List.reduceOption_cons_of_some,List.count_cons_self] at ended
      exact (parity _).mp ended
  · rintro ⟨dollarless,closing,ended⟩
    refine ⟨by simp [other,dollarless],?_,?_⟩
    · simpa [unquoted] using closing
    · rw [List.reduceOption_cons_of_some,List.count_cons_self]
      exact (parity _).mpr ended

theorem remaining_char {c : Char} {next : Nat} (plain : c ≠ '$') (bare : c ≠ apostrophe)
    (step : ∀ text, Closing depth (unquoted quoted (c :: text)) ↔ Closing next (unquoted quoted text)) :
    Remaining depth quoted (some c :: frame) ↔ Remaining next quoted frame := by
  have same : (some c :: frame).reduceOption.count apostrophe = frame.reduceOption.count apostrophe := by
    rw [List.reduceOption_cons_of_some,List.count_cons_of_ne bare]
  constructor
  · rintro ⟨dollarless,closing,ended⟩
    rw [same] at ended
    exact ⟨fun listed => dollarless (List.mem_cons_of_mem _ listed),(step _).mp closing,ended⟩
  · rintro ⟨dollarless,closing,ended⟩
    rw [← same] at ended
    exact ⟨by simp [plain.symm,dollarless],(step _).mpr closing,ended⟩

end Steps

section Reading

open Template (Fault scan flush)

-- What is to come of reading on: segments, with slots if the text has them, or an error if it is not as
-- asked.
def Right (depth : Nat) (quoted : Bool) (frame : Frame) : Except Fault (List Segment) → Prop
  | .ok segments => Remaining depth quoted frame ∧ (.operand ∈ segments ↔ none ∈ frame)
  | .error _ => ¬ Remaining depth quoted frame

theorem Right.char {depth next : Nat} {quoted later : Bool} {c : Char} {rest : List Char}
    {result : Except Fault (List Segment)} (plain : c ≠ '$')
    (step : Remaining depth quoted (some c :: slots rest) ↔ Remaining next later (slots rest))
    (right : Right next later (slots rest) result) : Right depth quoted (slots (c :: rest)) result := by
  rw [slots_other plain]
  cases result with
  | error fault => exact fun remaining => right (step.mp remaining)
  | ok segments => exact ⟨step.mpr right.1,right.2.trans (by simp)⟩

theorem flush_operand {pending : List Char} {segments : List Segment} :
    .operand ∈ flush pending segments ↔ .operand ∈ segments := by
  unfold flush
  split <;> simp

theorem scan_right (position depth : Nat) (quoted : Bool) (pending cs : List Char) :
    Right depth quoted (slots cs) (scan position depth quoted pending cs) := by
  fun_induction scan position depth quoted pending cs with
  | case1 position depth quoted pending ended =>
      refine ⟨remaining_nil.mpr (by simpa using ended),?_⟩
      rw [flush_operand]
      exact iff_of_false List.not_mem_nil List.not_mem_nil
  | case2 position depth quoted pending unended =>
      intro remaining
      exact unended (by simpa using remaining_nil.mp remaining)
  | case3 position depth quoted pending rest ih =>
      rw [slots]
      cases read : scan (position + 2) depth quoted [] rest with
      | error fault =>
          rw [read] at ih
          exact fun remaining => ih (remaining_slot.mp remaining)
      | ok segments =>
          rw [read] at ih
          refine ⟨remaining_slot.mpr ih.1,?_⟩
          rw [flush_operand]
          simp
  | case4 position depth quoted pending c rest unpaired dollar =>
      obtain rfl := beq_iff_eq.mp dollar
      rw [slots]
      · exact remaining_dollar
      · exact fun later _ => unpaired later rfl
  | case5 position depth quoted pending c rest unpaired next plain quote ih =>
      obtain rfl := beq_iff_eq.mp quote
      exact ih.char (by simpa using plain) remaining_quote
  | case6 position depth quoted pending c rest unpaired next plain bare opens ih =>
      obtain ⟨rfl,rfl⟩ : c = '(' ∧ quoted = false := by simpa using opens
      exact ih.char (by decide) (remaining_char (by decide) (by decide) fun text => closing_open)
  | case7 position quoted pending c rest unpaired plain bare unopened closes =>
      obtain ⟨rfl,rfl⟩ : c = ')' ∧ quoted = false := by simpa using closes
      rw [slots_other (by decide)]
      exact fun remaining => closing_none remaining.closing
  | case8 position quoted pending c rest unpaired next plain bare unopened closes depth ih =>
      obtain ⟨rfl,rfl⟩ : c = ')' ∧ quoted = false := by simpa using closes
      exact ih.char (by decide) (remaining_char (by decide) (by decide) fun text => closing_close)
  | case9 position depth quoted pending c rest unpaired next plain bare unopened unclosed ih =>
      have plain : c ≠ '$' := by simpa using plain
      refine ih.char plain (remaining_char plain (by simpa using bare) fun text => ?_)
      have bare : (c == apostrophe) = false := by simpa using bare
      cases quoted with
      | true => simp [unquoted,bare]
      | false =>
          have unopened : c ≠ '(' := by simpa using unopened
          have unclosed : c ≠ ')' := by simpa using unclosed
          simpa [unquoted,bare] using closing_other unopened unclosed

end Reading

-- The text of a template: it has a slot and, apart from slots, no dollar; outside quotes the
-- parentheses match, and the quotes are all closed.
structure WellFormed (frame : Frame) : Prop where
  slotted : none ∈ frame
  dollarless : some '$' ∉ frame
  closing : Closing 0 (unquoted false frame.reduceOption)
  ended : frame.reduceOption.count apostrophe % 2 = 0

theorem wellFormed_remaining {frame : Frame} :
    WellFormed frame ↔ Remaining 0 false frame ∧ none ∈ frame := by
  have none_open (n : Nat) : (false.toNat + n) % 2 = 0 ↔ n % 2 = 0 := by simp
  constructor
  · rintro ⟨slotted,dollarless,closing,ended⟩
    exact ⟨⟨dollarless,closing,(none_open _).mpr ended⟩,slotted⟩
  · rintro ⟨⟨dollarless,closing,ended⟩,slotted⟩
    exact ⟨slotted,dollarless,closing,(none_open _).mp ended⟩

theorem fill_slots (cs : List Char) : fill "$$" (slots cs) = cs := by
  fun_induction slots cs with
  | case1 => rfl
  | case2 rest ih => rw [fill_none,ih]; rfl
  | case3 c rest unpaired ih => rw [fill_some,ih]

-- A text is accepted as a template if and only if it is well formed, and what is rendered is the text
-- with the operand in place of every slot.
theorem parse_exact (source : String) :
    match Template.parse source with
    | .ok t => WellFormed (slots source.toList) ∧
        (∀ operand, (t.render operand).toList = fill operand (slots source.toList)) ∧
        t.source = source
    | .error _ => ¬ WellFormed (slots source.toList) := by
  have right := scan_right 0 0 false [] source.toList
  cases parsed : Template.parse source with
  | error fault =>
      intro formed
      obtain ⟨remaining,slotted⟩ := wellFormed_remaining.mp formed
      unfold Template.parse at parsed
      split at parsed
      · rename_i position stray
        rw [stray] at right
        exact right remaining
      · rename_i unbalanced
        rw [unbalanced] at right
        exact right remaining
      · rename_i segments read
        rw [read] at right
        have listed : segments.contains .operand = true :=
          List.contains_iff_mem.mpr (right.2.mpr slotted)
        rw [if_pos listed] at parsed
        cases parsed
  | ok t =>
      have rendered := parse_render parsed
      refine ⟨?_,rendered,?_⟩
      · unfold Template.parse at parsed
        split at parsed
        · cases parsed
        · cases parsed
        · rename_i segments read
          rw [read] at right
          split at parsed
          · rename_i listed
            exact wellFormed_remaining.mpr ⟨right.1,right.2.mp (List.contains_iff_mem.mp listed)⟩
          · cases parsed
      · apply String.toList_inj.mp
        exact (rendered "$$").trans (fill_slots _)

end OlapQuery.Sql
