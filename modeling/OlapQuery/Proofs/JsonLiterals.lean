import OlapQuery.Proofs.JsonTexts

-- The texts of JSON as they are written between their marks. A text with escapes reads as fewer
-- characters than it is written with, so that written characters read as themselves only if each
-- of them does.

namespace OlapQuery.Json

-- What has been read of a text that is still open, in reverse.
def Scan.read? : Scan → Option (List Char)
  | .text done => some done
  | .escape done => some done
  | .unit done _ _ _ => some done
  | .pair done _ _ => some done
  | _ => none

-- It stands for itself between the marks of a text.
def Plain (c : Char) : Prop :=
  c ≠ '"' ∧ c ≠ '\\' ∧ 0x20 ≤ c.toNat

instance (c : Char) : Decidable (Plain c) :=
  inferInstanceAs (Decidable (_ ∧ _))

structure Literal where
  written : List Char
  content : List Char
deriving DecidableEq

-- The texts, from the characters in reverse that are written of one so far.
def literalsFrom (scan : Scan) (written : List Char) : List Char → List Literal
  | [] => []
  | c :: rest =>
      match scanChar scan c with
      | none => []
      | some (_,next) =>
          match scan.read?,next.read? with
          | none,_ => literalsFrom next [] rest
          | some done,none =>
              { written := written.reverse,content := done.reverse } :: literalsFrom next [] rest
          | some _,some _ => literalsFrom next (c :: written) rest

def literals (text : String) : List Literal :=
  literalsFrom .between [] text.toList

section Steps

variable {scan next : Scan} {done : List Char} {c : Char} {tokens : List Token}

theorem scanAll_tokens (scan : Scan) (tokens : List Token) (cs : List Char) :
    scanAll scan tokens cs = (scanAll scan [] cs).map (tokens.reverse ++ ·) := by
  induction cs generalizing scan tokens with
  | nil =>
      unfold scanAll
      cases finishScan scan <;> simp
  | cons c rest ih =>
      unfold scanAll
      cases scanChar scan c with
      | none => rfl
      | some step =>
          dsimp only
          rw [ih,ih step.2 (step.1.reverse ++ []),Option.map_map]
          congr 1
          funext later
          simp

theorem scanAll_nil (scan : Scan) : scanAll scan [] [] = finishScan scan := by
  unfold scanAll
  cases finishScan scan <;> simp

theorem scanAll_cons (step : scanChar scan c = some (tokens,next)) (rest : List Char) :
    scanAll scan [] (c :: rest) = (scanAll next [] rest).map (tokens ++ ·) := by
  rw [scanAll,step]
  dsimp only
  rw [scanAll_tokens,List.append_nil,List.reverse_reverse]

theorem plain_step (plain : Plain c) : scanChar (.text done) c = some ([],.text (c :: done)) := by
  obtain ⟨quote,slash,control⟩ := plain
  simp [scanChar,quote,slash,Nat.not_lt.mpr control]

theorem hex_digit {n : Nat} (digit : Text.hexValue? c = some n) : c ≠ '$' ∧ c ≠ '"' := by
  constructor
  · rintro rfl
    have none : Text.hexValue? '$' = none := by decide
    rw [none] at digit
    cases digit
  · rintro rfl
    have none : Text.hexValue? '"' = none := by decide
    rw [none] at digit
    cases digit

theorem finishUnit_read {code : Nat} {high : Option Nat}
    (finished : finishUnit done code high = some next) :
    next.read? = some done ∨ ∃ value, next.read? = some (value :: done) := by
  unfold finishUnit at finished
  split at finished
  · split at finished
    · cases finished
      exact .inl rfl
    · split at finished
      · cases finished
      · cases finished
        exact .inr ⟨_,rfl⟩
  · split at finished
    · cases finished
      exact .inr ⟨_,rfl⟩
    · cases finished

-- A character ends the text, or is the next of it: then at most one character more was read, and
-- the same one if it is a dollar or a mark.
inductive TextStep (scan : Scan) (done : List Char) (c : Char) : List Token → Scan → Prop
  | close (mark : c = '"') (text : scan = .text done) :
      TextStep scan done c [.text (String.ofList done.reverse)] .between
  | more {next : Scan} (read : List Char) (stays : next.read? = some (read ++ done))
      (short : read.length ≤ 1) (kept : c = '$' ∨ c = '"' → read = [c]) :
      TextStep scan done c [] next

theorem text_step (inside : scan.read? = some done) (step : scanChar scan c = some (tokens,next)) :
    TextStep scan done c tokens next := by
  cases scan with
  | text past =>
      cases inside
      simp only [scanChar] at step
      split at step
      · rename_i mark
        cases step
        exact .close (by simpa using mark) rfl
      · rename_i other
        split at step
        · rename_i slash
          obtain rfl := beq_iff_eq.mp slash
          cases step
          exact .more [] rfl (Nat.zero_le 1) (by decide)
        · split at step
          · cases step
          · cases step
            exact .more [c] rfl Nat.le.refl fun _ => rfl
  | escape past =>
      cases inside
      simp only [scanChar] at step
      split at step
      · rename_i unit
        obtain rfl := beq_iff_eq.mp unit
        cases step
        exact .more [] rfl (Nat.zero_le 1) (by decide)
      · obtain ⟨value,is,same⟩ := Option.map_eq_some_iff.mp step
        cases same
        refine .more [value] rfl Nat.le.refl fun kept => ?_
        rcases kept with rfl | rfl
        · cases is
        · cases is
          rfl
  | unit past left code high =>
      cases inside
      obtain ⟨digit,is,step⟩ := Option.bind_eq_some_iff.mp step
      have other : ¬ (c = '$' ∨ c = '"') := by
        rintro (dollar | mark)
        · exact (hex_digit is).1 dollar
        · exact (hex_digit is).2 mark
      dsimp only at step
      split at step
      · obtain ⟨after,finished,same⟩ := Option.map_eq_some_iff.mp step
        cases same
        rcases finishUnit_read finished with read | ⟨value,read⟩
        · exact .more [] read (Nat.zero_le 1) fun kept => absurd kept other
        · exact .more [value] read Nat.le.refl fun kept => absurd kept other
      · cases step
        exact .more [] rfl (Nat.zero_le 1) fun kept => absurd kept other
  | pair past high slashSeen =>
      cases inside
      simp only [scanChar] at step
      split at step
      · rename_i slash
        obtain ⟨-,rfl⟩ : slashSeen = false ∧ c = '\\' := by simpa using slash
        cases step
        exact .more [] rfl (Nat.zero_le 1) (by decide)
      · split at step
        · rename_i unit
          obtain ⟨-,rfl⟩ : slashSeen = true ∧ c = 'u' := by simpa using unit
          cases step
          exact .more [] rfl (Nat.zero_le 1) (by decide)
        · cases step
  | _ => cases inside

end Steps

section Texts

-- The characters are those of one text up to its closing mark, and read as the content.
inductive Reads : Scan → List Char → List Char → Prop
  | close {done : List Char} : Reads (.text done) [] done.reverse
  | more {scan next : Scan} {c : Char} {rest content : List Char} (inside : scan.read?.isSome)
      (step : scanChar scan c = some ([],next)) (stays : next.read?.isSome)
      (reads : Reads next rest content) : Reads scan (c :: rest) content

variable {scan : Scan} {done written content : List Char}

theorem Reads.leads (reads : Reads scan written content) (after : List Char) :
    scanAll scan [] (written ++ after) = scanAll (.text content.reverse) [] after := by
  induction reads with
  | close => rw [List.nil_append,List.reverse_reverse]
  | more inside step stays reads ih =>
      rw [List.cons_append,scanAll_cons step,ih]
      exact Option.map_id'

theorem Reads.scanned (reads : Reads scan written content) (after : List Char) :
    scanAll scan [] (written ++ '"' :: after) =
      (scanAll .between [] after).map (.text (String.ofList content) :: ·) := by
  have closes : scanChar (.text content.reverse) '"' =
    some ([.text (String.ofList content.reverse.reverse)],.between) := rfl
  rw [reads.leads,scanAll_cons closes,List.reverse_reverse]
  rfl

-- The text with these characters before what has been read of it.
def Scan.after (before : List Char) : Scan → Scan
  | .text done => .text (done ++ before)
  | .escape done => .escape (done ++ before)
  | .unit done left code high => .unit (done ++ before) left code high
  | .pair done high slashSeen => .pair (done ++ before) high slashSeen
  | other => other

theorem finishUnit_after {code : Nat} {high : Option Nat} {next : Scan} (before : List Char)
    (finished : finishUnit done code high = some next) :
    finishUnit (done ++ before) code high = some (next.after before) := by
  cases high <;> (simp only [finishUnit] at finished ⊢; grind [Scan.after])

theorem scanChar_after {next : Scan} {c : Char} (before : List Char) (inside : scan.read?.isSome)
    (step : scanChar scan c = some ([],next)) :
    scanChar (scan.after before) c = some ([],next.after before) := by
  cases scan with
  | text done =>
      simp only [scanChar,Scan.after] at step ⊢
      grind [Scan.after]
  | escape done =>
      simp only [scanChar,Scan.after] at step ⊢
      split at step
      · rename_i unit
        cases step
        rw [if_pos unit]
      · rename_i other
        obtain ⟨value,is,same⟩ := Option.map_eq_some_iff.mp step
        cases same
        rw [if_neg other,is]
        rfl
  | unit done left code high =>
      obtain ⟨digit,is,step⟩ := Option.bind_eq_some_iff.mp step
      refine Option.bind_eq_some_iff.mpr ⟨digit,is,?_⟩
      dsimp only at step ⊢
      split at step
      · rename_i last
        obtain ⟨found,finished,same⟩ := Option.map_eq_some_iff.mp step
        cases same
        rw [if_pos last,finishUnit_after before finished]
        rfl
      · rename_i more
        cases step
        rw [if_neg more]
        rfl
  | pair done high slashSeen =>
      simp only [scanChar,Scan.after] at step ⊢
      grind [Scan.after]
  | _ => cases inside

theorem Reads.after (reads : Reads scan written content) (before : List Char) :
    Reads (scan.after before) written (before.reverse ++ content) := by
  induction reads with
  | @close done =>
      rw [← List.reverse_append]
      exact .close
  | @more scan next c rest content inside step stays reads ih =>
      have goes (s : Scan) (still : s.read?.isSome) : (s.after before).read?.isSome := by
        cases s <;> first | rfl | cases still
      exact .more (goes _ inside) (scanChar_after before inside step) (goes _ stays) ih

theorem Reads.literals (reads : Reads scan written content) (before after : List Char) :
    literalsFrom scan before (written ++ '"' :: after) =
      { written := before.reverse ++ written,content } :: literalsFrom .between [] after := by
  induction reads generalizing before with
  | close =>
      rw [List.append_nil]
      rfl
  | @more scan next c rest content inside step stays reads ih =>
      obtain ⟨done,here⟩ := Option.isSome_iff_exists.mp inside
      obtain ⟨later,there⟩ := Option.isSome_iff_exists.mp stays
      rw [List.cons_append,literalsFrom,step]
      dsimp only
      rw [here,there]
      dsimp only
      rw [ih]
      simp

theorem reads_of_scan {cs : List Char} {tokens : List Token} (inside : scan.read? = some done)
    (scanned : scanAll scan [] cs = some tokens) : ∃ written content after later,
      Reads scan written content ∧ cs = written ++ '"' :: after ∧
        scanAll .between [] after = some later ∧
          tokens = .text (String.ofList content) :: later := by
  induction cs generalizing scan done tokens with
  | nil =>
      rw [scanAll_nil] at scanned
      cases scan with
      | between => cases inside
      | number past => cases inside
      | word past => cases inside
      | _ => cases scanned
  | cons c rest ih =>
      cases step : scanChar scan c with
      | none => rw [scanAll,step] at scanned; cases scanned
      | some found =>
          obtain ⟨more,next⟩ := found
          rw [scanAll_cons step] at scanned
          obtain ⟨later,scans,rfl⟩ := Option.map_eq_some_iff.mp scanned
          cases text_step inside step with
          | close mark text =>
              subst mark text
              exact ⟨[],_,rest,later,.close,rfl,scans,rfl⟩
          | more read stays short kept =>
              obtain ⟨written,content,after,others,reads,rfl,last,rfl⟩ := ih stays scans
              have inside := Option.isSome_of_eq_some inside
              have stays := Option.isSome_of_eq_some stays
              exact ⟨c :: written,content,after,others,.more inside step stays reads,rfl,last,rfl⟩

theorem Reads.length (reads : Reads scan written content) (inside : scan.read? = some done) :
    content.length ≤ done.length + written.length := by
  induction reads generalizing done with
  | close =>
      cases inside
      simp
  | more _ step _ reads ih =>
      cases text_step inside step with
      | more read stays short kept =>
          have later := ih stays
          rw [List.length_append] at later
          rw [List.length_cons]
          omega

theorem Reads.count (reads : Reads scan written content) (inside : scan.read? = some done) {c : Char}
    (kept : c = '$' ∨ c = '"') : done.count c + written.count c ≤ content.count c := by
  induction reads generalizing done with
  | close =>
      cases inside
      simp
  | @more scan next d rest content _ step _ reads ih =>
      cases text_step inside step with
      | more read stays short same =>
          have later := ih stays
          rw [List.count_append] at later
          by_cases is : d = c
          · subst is
            rw [same kept] at later
            simp at later
            rw [List.count_cons_self]
            omega
          · rw [List.count_cons_of_ne is]
            omega

-- A text without escapes is read as it is written; otherwise less is read than is written.
theorem Reads.plain_or_shorter (reads : Reads (.text done) written content) :
    (∀ c ∈ written, Plain c) ∧ content = done.reverse ++ written ∨
      content.length < done.length + written.length := by
  generalize is : Scan.text done = scan at reads
  induction reads generalizing done with
  | close =>
      cases is
      exact .inl ⟨nofun,(List.append_nil _).symm⟩
  | @more scan next c rest content _ step _ reads ih =>
      subst is
      by_cases plain : Plain c
      · rw [plain_step plain] at step
        cases step
        rcases ih rfl with ⟨others,same⟩ | shorter
        · exact .inl ⟨List.forall_mem_cons.mpr ⟨plain,others⟩,by simpa using same⟩
        · refine .inr ?_
          rw [List.length_cons] at shorter ⊢
          omega
      · -- Of the rest, only a backslash goes on with the text.
        have slash : next = .escape done := by
          simp only [scanChar] at step
          split at step
          · cases step
          · rename_i quote
            split at step
            · cases step
              rfl
            · rename_i slash
              split at step
              · cases step
              · rename_i control
                exact absurd ⟨by simpa using quote,by simpa using slash,by omega⟩ plain
        subst slash
        have later := reads.length rfl
        refine .inr ?_
        rw [List.length_cons]
        omega

theorem reads_plain {cs : List Char} (plain : ∀ c ∈ cs, Plain c) (done : List Char) :
    Reads (.text done) cs (done.reverse ++ cs) := by
  induction cs generalizing done with
  | nil =>
      have closes : Reads (.text done) [] done.reverse := .close
      simpa using closes
  | cons c rest ih =>
      obtain ⟨first,others⟩ := List.forall_mem_cons.mp plain
      refine .more rfl (plain_step first) rfl ?_
      simpa using ih others (c :: done)

theorem Reads.plain (reads : Reads (.text []) written written) : ∀ c ∈ written, Plain c := by
  rcases reads.plain_or_shorter with ⟨plain,-⟩ | shorter
  · exact plain
  · simp at shorter

-- Characters that are put between the marks of a text are read as themselves only if they are plain.
theorem plain_of_scan {cs after : List Char} {later : List Token}
    (scanned : scanAll (.text []) [] (cs ++ '"' :: after) = some (.text (String.ofList cs) :: later)) :
    (∀ c ∈ cs, Plain c) ∧ scanAll .between [] after = some later := by
  obtain ⟨written,content,rest,others,reads,split,scans,same⟩ := reads_of_scan rfl scanned
  obtain ⟨first,rfl⟩ := List.cons.inj same
  obtain rfl : cs = content := String.ofList_inj.mp (Token.text.inj first)
  have quotes := reads.count rfl (.inr rfl)
  rcases List.append_eq_append_iff.mp split with ⟨more,rfl,tail⟩ | ⟨more,is,tail⟩
  · cases more with
    | nil =>
        obtain ⟨-,rfl⟩ := List.cons.inj tail
        rw [List.append_nil] at reads
        exact ⟨reads.plain,scans⟩
    | cons c more =>
        obtain ⟨rfl,-⟩ := List.cons.inj tail
        rw [List.count_append,List.count_cons_self] at quotes
        omega
  · cases more with
    | nil =>
        obtain ⟨-,rfl⟩ := List.cons.inj tail
        rw [List.append_nil] at is
        subst is
        exact ⟨reads.plain,scans⟩
    | cons c more =>
        rcases reads.plain_or_shorter with ⟨-,same⟩ | shorter
        · rw [is] at same
          simp at same
        · rw [is,List.length_append,List.length_cons,List.length_nil] at shorter
          omega

end Texts

section Lexing

theorem ofNumberText_number {cs : List Char} {j : Json} (read : ofNumberText cs = some j) :
    (Token.value j).Scalar := by
  unfold ofNumberText at read
  obtain ⟨n,-,read⟩ := Option.bind_eq_some_iff.mp read
  dsimp only at read
  have float {j : Json} (read : n.float?.map Json.float = some j) : (Token.value j).Scalar := by
    obtain ⟨x,-,rfl⟩ := Option.map_eq_some_iff.mp read
    trivial
  split at read
  · exact float read
  · split at read
    · split at read
      · cases read
        trivial
      · exact float read
    · split at read
      · cases read
        trivial
      · exact float read

theorem wordToken_scalar {cs : List Char} {t : Token} (read : wordToken? cs = some t) :
    t.Scalar ∧ t.text? = none := by
  unfold wordToken? at read
  split at read <;> cases read <;> exact ⟨trivial,rfl⟩

-- What is read between texts.
def Textless (ts : List Token) : Prop :=
  ∀ t ∈ ts, t.Scalar ∧ t.text? = none

theorem finishScan_textless {scan : Scan} {ts : List Token} (read : finishScan scan = some ts) :
    Textless ts := by
  cases scan with
  | between =>
      cases read
      exact nofun
  | number done =>
      obtain ⟨number,is,rfl⟩ := Option.map_eq_some_iff.mp read
      exact List.forall_mem_singleton.mpr ⟨ofNumberText_number is,rfl⟩
  | word done =>
      obtain ⟨word,is,rfl⟩ := Option.map_eq_some_iff.mp read
      exact List.forall_mem_singleton.mpr (wordToken_scalar is)
  | _ => cases read

-- Between texts there is no dollar, and only a mark begins one.
structure Outside (c : Char) (ts : List Token) (next : Scan) : Prop where
  textless : Textless ts
  dollarless : c ≠ '$'
  begins : c = '"' → next = .text []
  stays : c ≠ '"' → next.read? = none

theorem beginToken_outside {c : Char} {ts : List Token} {next : Scan}
    (read : beginToken c = some (ts,next)) : Outside c ts next := by
  have dollarless : c ≠ '$' := by
    rintro rfl
    cases read
  by_cases mark : c = '"'
  · subst mark
    cases read
    exact ⟨nofun,dollarless,fun _ => rfl,fun other => absurd rfl other⟩
  · have single (t : Token) (scalar : t.Scalar ∧ t.text? = none) : Textless [t] :=
      List.forall_mem_singleton.mpr scalar
    suffices Textless ts ∧ next.read? = none from
      ⟨this.1,dollarless,fun is => absurd is mark,fun _ => this.2⟩
    unfold beginToken at read
    split at read
    · cases read; exact ⟨single _ ⟨trivial,rfl⟩,rfl⟩
    · cases read; exact ⟨single _ ⟨trivial,rfl⟩,rfl⟩
    · cases read; exact ⟨single _ ⟨trivial,rfl⟩,rfl⟩
    · cases read; exact ⟨single _ ⟨trivial,rfl⟩,rfl⟩
    · exact absurd rfl mark
    · split at read
      · cases read; exact ⟨single _ ⟨trivial,rfl⟩,rfl⟩
      · split at read
        · cases read; exact ⟨single _ ⟨trivial,rfl⟩,rfl⟩
        · split at read
          · cases read; exact ⟨nofun,rfl⟩
          · split at read
            · cases read; exact ⟨nofun,rfl⟩
            · split at read
              · cases read; exact ⟨nofun,rfl⟩
              · cases read

theorem Outside.after {c : Char} {ts : List Token} {next : Scan} (outside : Outside c ts next)
    {t : Token} (bare : t.Scalar ∧ t.text? = none) : Outside c (t :: ts) next :=
  { outside with textless := List.forall_mem_cons.mpr ⟨bare,outside.textless⟩ }

theorem outside_step {scan next : Scan} {c : Char} {ts : List Token} (outside : scan.read? = none)
    (step : scanChar scan c = some (ts,next)) : Outside c ts next := by
  cases scan with
  | between => exact beginToken_outside step
  | number done =>
      simp only [scanChar] at step
      split at step
      · rename_i more
        cases step
        refine ⟨nofun,?_,?_,fun _ => rfl⟩
        · rintro rfl
          cases more
        · rintro rfl
          cases more
      · obtain ⟨number,is,step⟩ := Option.bind_eq_some_iff.mp step
        obtain ⟨⟨tokens,later⟩,begins,same⟩ := Option.bind_eq_some_iff.mp step
        cases same
        exact (beginToken_outside begins).after ⟨ofNumberText_number is,rfl⟩
  | word done =>
      simp only [scanChar] at step
      split at step
      · rename_i more
        cases step
        refine ⟨nofun,?_,?_,fun _ => rfl⟩
        · rintro rfl
          cases more
        · rintro rfl
          cases more
      · obtain ⟨word,is,step⟩ := Option.bind_eq_some_iff.mp step
        obtain ⟨⟨tokens,later⟩,begins,same⟩ := Option.bind_eq_some_iff.mp step
        cases same
        exact (beginToken_outside begins).after (wordToken_scalar is)
  | _ => cases outside

-- The characters are those of texts and of what stands between them; they have these tokens, and
-- among them these texts.
inductive Lexed : Scan → List Char → List Token → List Literal → Prop
  | finish {scan : Scan} {ts : List Token} (outside : scan.read? = none)
      (last : finishScan scan = some ts) : Lexed scan [] ts []
  | char {scan next : Scan} {c : Char} {rest : List Char} {more ts : List Token}
      {ls : List Literal} (outside : scan.read? = none)
      (step : scanChar scan c = some (more,next)) (bare : c ≠ '"') (lexed : Lexed next rest ts ls) :
      Lexed scan (c :: rest) (more ++ ts) ls
  | literal {scan : Scan} {written content rest : List Char} {more ts : List Token}
      {ls : List Literal} (outside : scan.read? = none)
      (step : scanChar scan '"' = some (more,.text [])) (reads : Reads (.text []) written content)
      (lexed : Lexed .between rest ts ls) :
      Lexed scan ('"' :: (written ++ '"' :: rest)) (more ++ .text (String.ofList content) :: ts)
        ({ written,content } :: ls)

theorem literalsFrom_outside {scan next : Scan} {c : Char} {ts : List Token}
    (outside : scan.read? = none) (step : scanChar scan c = some (ts,next)) (written rest : List Char) :
    literalsFrom scan written (c :: rest) = literalsFrom next [] rest := by
  rw [literalsFrom,step]
  dsimp only
  rw [outside]

theorem lexed {scan : Scan} {cs : List Char} {ts : List Token} (outside : scan.read? = none)
    (scanned : scanAll scan [] cs = some ts) : Lexed scan cs ts (literalsFrom scan [] cs) := by
  -- After a text, scanning goes on from some way further on.
  induction size : cs.length using Nat.strongRecOn generalizing scan cs ts with | ind size ih
  subst size
  cases cs with
  | nil =>
      rw [scanAll_nil] at scanned
      exact .finish outside scanned
  | cons c rest =>
      cases step : scanChar scan c with
      | none => rw [scanAll,step] at scanned; cases scanned
      | some found =>
          obtain ⟨more,next⟩ := found
          have along := outside_step outside step
          rw [scanAll_cons step] at scanned
          obtain ⟨later,scans,rfl⟩ := Option.map_eq_some_iff.mp scanned
          rw [literalsFrom_outside outside step]
          by_cases mark : c = '"'
          · subst mark
            obtain rfl := along.begins rfl
            obtain ⟨written,content,after,others,reads,rfl,last,rfl⟩ := reads_of_scan rfl scans
            have shorter : after.length < ('"' :: (written ++ '"' :: after)).length := by
              simp only [List.length_cons,List.length_append]
              omega
            rw [reads.literals]
            exact .literal outside step reads (ih _ shorter rfl last rfl)
          · have shorter : rest.length < (c :: rest).length := Nat.lt_succ_self _
            exact .char outside step mark (ih _ shorter (along.stays mark) scans rfl)

theorem Lexed.scalar {scan : Scan} {cs : List Char} {ts : List Token} {ls : List Literal}
    (lexed : Lexed scan cs ts ls) : ∀ t ∈ ts, t.Scalar := by
  induction lexed with
  | finish outside last => exact fun t listed => (finishScan_textless last t listed).1
  | char outside step bare lexed ih =>
      intro t listed
      rcases List.mem_append.mp listed with here | later
      · exact ((outside_step outside step).textless t here).1
      · exact ih t later
  | literal outside step reads lexed ih =>
      intro t listed
      rcases List.mem_append.mp listed with here | later
      · exact ((outside_step outside step).textless t here).1
      · rcases List.mem_cons.mp later with rfl | later
        · trivial
        · exact ih t later

theorem Lexed.reads {scan : Scan} {cs : List Char} {ts : List Token} {ls : List Literal}
    (lexed : Lexed scan cs ts ls) : ∀ l ∈ ls, Reads (.text []) l.written l.content := by
  induction lexed with
  | finish => exact List.forall_mem_nil _
  | char _ _ _ _ ih => exact ih
  | literal _ _ reads _ ih => exact List.forall_mem_cons.mpr ⟨reads,ih⟩

theorem Lexed.texts {scan : Scan} {cs : List Char} {ts : List Token} {ls : List Literal}
    (lexed : Lexed scan cs ts ls) (s : String) :
    .text s ∈ ts ↔ ∃ l ∈ ls, String.ofList l.content = s := by
  have apart {ts : List Token} (textless : Textless ts) : .text s ∉ ts :=
    fun listed => nomatch (textless _ listed).2
  induction lexed with
  | finish outside last => simp [apart (finishScan_textless last)]
  | char outside step bare lexed ih =>
      simp [apart (outside_step outside step).textless,ih]
  | literal outside step reads lexed ih =>
      simp [apart (outside_step outside step).textless,ih,eq_comm]

end Lexing

end OlapQuery.Json
