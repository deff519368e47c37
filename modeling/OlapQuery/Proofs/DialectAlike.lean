import OlapQuery.Proofs.Checked
import OlapQuery.Proofs.NumberTexts
import OlapQuery.Proofs.TemplateFrames
import OlapQuery.Proofs.Together

-- Alike operands stay alike under every operation of a dialect whose tables are sound.

namespace OlapQuery.Sql

open Time (Duration CalendarUnit Instant Part Zone)

theorem digit_unmarked {c : Char} (digit : c.isDigit = true) : unmarked c = true := by
  simp only [unmarked,Bool.and_eq_true,bne_iff_ne]
  refine ⟨⟨⟨?_,?_⟩,?_⟩,?_⟩
  all_goals
    rintro rfl
    revert digit
    decide

theorem number_clean (x : Float) : Clean (Dialect.formatNumber x) := by
  refine List.all_eq_true.mpr fun c listed => ?_
  rcases Decimal.numberText_chars listed with digit | other
  · exact digit_unmarked digit
  · exact List.all_eq_true.mp (by decide) c other

theorem int_clean (n : Int) : Clean (toString n) := by
  refine List.all_eq_true.mpr fun c listed => ?_
  rcases (Decimal.int_signed n).chars listed with digit | other
  · exact digit_unmarked digit
  · exact List.all_eq_true.mp (by decide) c other

theorem nat_clean (n : Nat) : Clean (toString n) :=
  List.all_eq_true.mpr fun c listed => digit_unmarked ((Decimal.digits_nat n).2 c listed)

theorem padLeft_clean (width n : Nat) : Clean (Time.padLeft width n) := by
  refine Clean.append (.of_chars (List.all_eq_true.mpr fun c listed => ?_)) (nat_clean n)
  rw [(List.mem_replicate.mp listed).2]
  rfl

theorem date_clean (date : Time.Date) : Clean (Time.dateText date) := by
  have year : Clean (Time.yearText date.year) := by
    unfold Time.yearText
    split
    · exact padLeft_clean _ _
    · split
      · exact .append (.of_chars (by decide)) (padLeft_clean _ _)
      · exact .append (.of_chars (by decide)) (padLeft_clean _ _)
  have dash : Clean "-" := .of_chars (by decide)
  exact (((year.append dash).append (padLeft_clean _ _)).append dash).append (padLeft_clean _ _)

theorem millis_clean (t : Instant) : Clean t.millisText := by
  have colon : Clean ":" := .of_chars (by decide)
  have day : Clean "T" := .of_chars (by decide)
  have point : Clean "." := .of_chars (by decide)
  have zone : Clean "Z" := .of_chars (by decide)
  exact ((((((((date_clean _).append day).append (padLeft_clean _ _)).append colon).append
    (padLeft_clean _ _)).append colon).append (padLeft_clean _ _)).append
    (point.append (padLeft_clean _ _))).append zone

theorem naive_clean (t : Instant) : Clean (Dialect.naiveTimestamp t) := by
  have colon : Clean ":" := .of_chars (by decide)
  have blank : Clean " " := .of_chars (by decide)
  have point : Clean "." := .of_chars (by decide)
  exact ((((((((date_clean _).append blank).append (padLeft_clean _ _)).append colon).append
    (padLeft_clean _ _)).append colon).append (padLeft_clean _ _)).append point).append
    (padLeft_clean _ _)

theorem unit_clean (unit : CalendarUnit) : Clean unit.name := by
  cases unit <;> exact .of_chars (by decide)

theorem keyword_clean (unit : CalendarUnit) : Clean (Dialect.unitKeyword unit) := by
  unfold Dialect.unitKeyword
  cases unit <;> exact .of_chars (by decide +kernel)

namespace Dialect

variable {d : Dialect} {pairs : List (String × String)} {a b e f : String}

theorem formatBool_opening (value : Bool) :
    Opening d pairs (d.formatBool value) (d.formatBool value) := by
  apply Settled.opening
  unfold formatBool
  split <;> cases value <;> exact .of_chars (by decide)

theorem timeToSql_alike (t : Instant) :
    Piece d pairs (d.timeToSql (some t)) (d.timeToSql (some t)) := by
  unfold timeToSql
  dsimp only
  split
  · exact (Settled.quoting (millis_clean t).plain (fun _ => rfl) rfl).opening.piece
  · exact (Settled.quoting (millis_clean t).plain (fun _ => rfl) rfl).opening.piece
  · have shape : "TIMESTAMP '" ++ naiveTimestamp t ++ "'"
        = "TIMESTAMP " ++ d.quoteString (naiveTimestamp t) := by
      rw [quoteString_plain (naive_clean t).plain,← String.append_assoc,← String.append_assoc]
      rfl
    rw [shape]
    exact (Piece.quoteString (.inl rfl)).after (.of_chars (by decide))
  · exact (Settled.quoting (naive_clean t).plain (fun _ => rfl) rfl).opening.piece

theorem utcToWalltime_alike {zone : Zone} (operand : Piece d pairs a b) (plain : Plain zone.name) :
    Piece d pairs (d.utcToWalltime a zone) (d.utcToWalltime b zone) := by
  unfold utcToWalltime
  split
  · exact operand
  · split
    · exact operand
    · exact ((operand.after (.of_chars (by decide))).quoting plain rfl (fun _ => rfl) rfl).piece
    · exact ((operand.after (.of_chars (by decide))).quoting plain rfl (fun _ => rfl) rfl).piece
    · exact ((operand.after (.of_chars (by decide))).quoting plain rfl (fun _ => rfl) rfl).piece

theorem walltimeToUtc_alike {zone : Zone} (operand : Piece d pairs a b) (plain : Plain zone.name) :
    Piece d pairs (d.walltimeToUtc a zone) (d.walltimeToUtc b zone) := by
  unfold walltimeToUtc
  split
  · exact operand
  · split
    · exact operand
    · exact ((operand.after (.of_chars (by decide))).quoting plain rfl (fun _ => rfl) rfl).piece
    · exact ((operand.after (.of_chars (by decide))).quoting plain rfl (fun _ => rfl) rfl).piece
    · exact ((operand.after (.of_chars (by decide))).quoting plain rfl (fun _ => rfl) rfl).piece

theorem truncation_alike {spec : String} (operand : Piece d pairs a b) (clean : Clean spec) :
    Opening d pairs ("TIMESTAMP_TRUNC(" ++ a ++ ", " ++ spec) ("TIMESTAMP_TRUNC(" ++ b ++ ", " ++ spec) :=
  (operand.call (.of_chars (by decide)) (.of_chars (by decide))).followed clean.settled

theorem bucketCall_alike {spec : String} (operand : Piece d pairs a b) (clean : Clean spec) :
    Piece d pairs (d.bucketCall a spec) (d.bucketCall b spec) := by
  unfold bucketCall
  split
  · exact ((operand.after (.of_chars (by decide))).quoting clean.plain rfl (fun _ => rfl) rfl).piece
  · exact ((truncation_alike operand clean).followed (.of_chars (by decide))).piece
  · have start : Settled ("DATE_TRUNC('" ++ spec ++ "', ") :=
      .quoting clean.plain (fun _ => rfl) rfl
    exact (operand.call start (.of_chars (by decide))).piece
  · exact ((operand.after (.of_chars (by decide))).quoting clean.plain rfl (fun _ => rfl) rfl).piece

theorem render_alike {template : Template} (operand : Piece d pairs a b) (sound : template.Sound) :
    Piece d pairs (template.render a) (template.render b) := by
  obtain ⟨frame,calm,fills⟩ := sound
  intro xs ys fresh rest
  rw [fills,fills]
  exact (settled_alike operand rest).1 calm

section Tables

variable (sound : d.tables.Sound)
include sound

theorem castExpression_alike (operand : Piece d pairs a b) (source target : DataType) :
    Together (Piece d pairs) (d.castExpression source a target) (d.castExpression source b target) := by
  unfold castExpression
  split
  · exact .ok operand
  · cases found : d.tables.cast? source target with
    | none => exact .error
    | some template =>
        obtain ⟨entry,first,rfl⟩ := Option.map_eq_some_iff.mp found
        exact .ok (render_alike operand (sound.casts entry (List.mem_of_find?_eq_some first)))

theorem timePart_alike {zone : Zone} (operand : Piece d pairs a b) (part : Part)
    (plain : Plain zone.name) :
    Together (Piece d pairs) (d.timePart a part zone) (d.timePart b part zone) := by
  unfold timePart
  cases found : d.tables.timePart? part with
  | none => exact .error
  | some template =>
      obtain ⟨entry,first,rfl⟩ := Option.map_eq_some_iff.mp found
      exact .ok (render_alike (utcToWalltime_alike operand plain)
        (sound.parts entry (List.mem_of_find?_eq_some first)))

theorem timeFloor_alike {zone : Zone} (operand : Piece d pairs a b) (duration : Duration)
    (plain : Plain zone.name) :
    Together (Piece d pairs) (d.timeFloor a duration zone) (d.timeFloor b duration zone) := by
  unfold timeFloor
  cases asked : d.tables.bucket? duration with
  | error => exact .error
  | ok answer =>
    have found := (Tables.bucket_ok.mp asked).2
    cases answer with
    | none => exact .error
    | some spec =>
      have clean : Clean spec := by
        obtain ⟨before,after,shape,-⟩ := List.lookup_eq_some_iff.mp found.symm
        refine sound.buckets (duration.text,spec) ?_
        rw [shape]
        simp
      change Together _ (if _ then _ else _) (if _ then _ else _)
      split
      · refine .ok (Opening.piece ?_)
        exact (truncation_alike operand clean).piece.quoting plain rfl (fun _ => rfl) rfl
      · exact .ok (walltimeToUtc_alike (bucketCall_alike (utcToWalltime_alike operand plain) clean)
          plain)

end Tables

theorem addInterval_alike (operand : Piece d pairs a b) (unit : CalendarUnit) (amount : Nat)
    (negative : Bool) : Piece d pairs (d.addInterval a unit amount negative)
      (d.addInterval b unit amount negative) := by
  have number := (nat_clean amount).settled
  have last : Joint ")" := .of_chars (by decide)
  have counted {verb : String} (call : Settled verb) : Piece d pairs
      (verb ++ a ++ ", INTERVAL " ++ toString amount ++ " " ++ unitKeyword unit ++ ")")
      (verb ++ b ++ ", INTERVAL " ++ toString amount ++ " " ++ unitKeyword unit ++ ")") := by
    have blank : Settled " " := .of_chars (by decide)
    exact (((((operand.call call (.of_chars (by decide))).followed number).followed blank).followed
      (keyword_clean unit).settled).followed last.2).piece
  unfold addInterval
  split
  · have call : Settled ("DATE_ADD('" ++ unit.name ++ "', ") :=
      .quoting (unit_clean unit).plain (fun _ => rfl) rfl
    have sign : Settled (if negative then "-1 * " else "") := by
      cases negative <;> exact .of_chars (by decide)
    exact (operand.call (((call.append sign).append number).append (.of_chars (by decide))) last).piece
  · have call : Settled ((if negative then "DATETIME_SUB" else "DATETIME_ADD") ++ "(") := by
      cases negative <;> exact .append (.of_chars (by decide)) (.of_chars (by decide))
    exact counted call
  · have sign : Joint (if negative then " - " else " + ") := by
      cases negative <;> exact .of_chars (by decide)
    have inside : Plain (toString amount ++ " " ++ unit.name) :=
      (((nat_clean amount).append (.of_chars (by decide))).append (unit_clean unit)).plain
    have opened : Opening d pairs ("(" ++ a ++ (if negative then " - " else " + "))
        ("(" ++ b ++ (if negative then " - " else " + ")) := operand.call (.of_chars (by decide)) sign
    have interval : Opening d pairs
        ("(" ++ a ++ (if negative then " - " else " + ") ++ "INTERVAL '"
          ++ (toString amount ++ " " ++ unit.name) ++ "')")
        ("(" ++ b ++ (if negative then " - " else " + ") ++ "INTERVAL '"
          ++ (toString amount ++ " " ++ unit.name) ++ "')") :=
      opened.piece.quoting inside rfl (fun _ => rfl) rfl
    simp only [← String.append_assoc] at interval
    exact interval.piece
  · have call : Settled ((if negative then "DATE_SUB" else "DATE_ADD") ++ "(") := by
      cases negative <;> exact .append (.of_chars (by decide)) (.of_chars (by decide))
    exact counted call

theorem timeShift_alike {zone : Zone} (operand : Piece d pairs a b) (duration : Duration)
    (step : Int) (plain : Plain zone.name) :
    Piece d pairs (d.timeShift a duration step zone) (d.timeShift b duration step zone) := by
  unfold timeShift
  split
  · exact operand
  · have shifted (parts : List (CalendarUnit × Nat)) : ∀ {a b : String}, Piece d pairs a b →
        Piece d pairs
          (parts.foldl (fun sql part => d.addInterval sql part.1 part.2 (step < 0)) a)
          (parts.foldl (fun sql part => d.addInterval sql part.1 part.2 (step < 0)) b) := by
      induction parts with
      | nil => exact id
      | cons part parts ih => exact fun operand => ih (addInterval_alike operand _ _ _)
    exact walltimeToUtc_alike (shifted _ (utcToWalltime_alike operand plain)) plain

theorem extract_alike {s t : String} (operand : Piece d pairs a b) (known : s = t ∨ (s,t) ∈ pairs) :
    Piece d pairs (d.extract a s) (d.extract b t) := by
  have pattern : Piece d pairs (d.quoteString s) (d.quoteString t) := .quoteString known
  unfold extract
  split <;> refine (operand.pair pattern ?_ ?_ ?_).piece <;> exact .of_chars (by decide)

theorem regexMatch_alike {s t : String} (operand : Piece d pairs a b)
    (known : s = t ∨ (s,t) ∈ pairs) : Piece d pairs (d.regexMatch a s) (d.regexMatch b t) := by
  have pattern : Piece d pairs (d.quoteString s) (d.quoteString t) := .quoteString known
  unfold regexMatch
  split <;> refine (operand.pair pattern ?_ ?_ ?_).piece <;> exact .of_chars (by decide)

section Operands

variable (operand : Piece d pairs a b) (expression : Piece d pairs e f)
include operand expression

theorem contains_alike : Piece d pairs (d.contains a e) (d.contains b f) := by
  unfold contains
  split
  · refine (expression.pair operand ?_ ?_ ?_).piece <;> exact .of_chars (by decide)
  · refine (operand.pair expression ?_ ?_ ?_).piece <;> exact .of_chars (by decide)

theorem concat_alike : Piece d pairs (d.concat a e) (d.concat b f) := by
  unfold concat
  split <;> refine (operand.pair expression ?_ ?_ ?_).piece <;> exact .of_chars (by decide)

theorem indexOf_alike : Piece d pairs (d.indexOf a e) (d.indexOf b f) := by
  unfold indexOf
  split
  · refine (expression.pair operand ?_ ?_ ?_).piece <;> exact .of_chars (by decide)
  · refine (operand.pair expression ?_ ?_ ?_).piece <;> exact .of_chars (by decide)

theorem isNotDistinctFrom_alike :
    Piece d pairs (isNotDistinctFrom a e) (isNotDistinctFrom b f) := by
  have absent {a b : String} (piece : Piece d pairs a b) : (a == null) = (b == null) := by
    have clean : ∀ c ∈ null.toList, d.isMark c = false := by
      have free : Clean null := .of_chars (by decide)
      exact fun c listed => unmarked_plain (List.all_eq_true.mp free c listed)
    have same : a = null ∨ b = null → a = b := by
      rintro (rfl | rfl)
      · exact String.toList_injective (piece.alike.unquoted (.inl clean))
      · exact String.toList_injective (piece.alike.unquoted (.inr clean))
    rw [Bool.eq_iff_iff,beq_iff_eq,beq_iff_eq]
    exact ⟨fun is => same (.inl is) ▸ is,fun is => same (.inr is) ▸ is⟩
  have given : Joint " IS " := .of_chars (by decide)
  have absence : Settled null := .of_chars (by decide)
  unfold isNotDistinctFrom
  rw [absent operand,absent expression]
  split
  · exact ((expression.followed given).followed absence).piece
  · split
    · exact ((operand.followed given).followed absence).piece
    · refine (operand.pair expression ?_ ?_ ?_).piece <;> exact .of_chars (by decide)

end Operands

theorem substr_alike (operand : Piece d pairs a b) (position len : Int) :
    Together (Piece d pairs) (substr a position len) (substr b position len) := by
  have comma : Settled ", " := .of_chars (by decide)
  have start : Opening d pairs ("SUBSTR(" ++ a ++ ", ") ("SUBSTR(" ++ b ++ ", ") :=
    operand.call (.of_chars (by decide)) (.of_chars (by decide))
  unfold substr
  split
  · exact .ok ((((start.followed (int_clean _).settled).followed comma).followed
      (int_clean _).settled).followed (.of_chars (by decide))).piece
  · exact .error

end Dialect

end OlapQuery.Sql
