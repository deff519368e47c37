import Mathlib.Data.List.Forall2
import OlapQuery.Proofs.Structure
import OlapQuery.Sql.Tables
import OlapQuery.TimeFilter

-- Computations that may break off: what they come to when they go on, and exactly when they do.

namespace OlapQuery

theorem mapM_ok {α β ε : Type} {f : α → Except ε β} {as : List α} {bs : List β}
    (ran : as.mapM f = .ok bs) : List.Forall₂ (fun a b => f a = .ok b) as bs := by
  induction as generalizing bs with
  | nil => cases ran; exact .nil
  | cons a rest ih =>
      cases first : f a with
      | error => simp [List.mapM_cons,first,bind,Except.bind] at ran
      | ok b =>
          cases others : rest.mapM f with
          | error => simp [List.mapM_cons,first,others,bind,Except.bind] at ran
          | ok later =>
              simp only [List.mapM_cons,first,others,bind,Except.bind,pure,Except.pure] at ran
              cases ran
              exact .cons first (ih others)

theorem mapM_result {α β ε : Type} {f : α → Except ε β} {as : List α} {bs : List β}
    (ran : as.mapM f = .ok bs) : ∀ a ∈ as, ∃ b, f a = .ok b := by
  have each := mapM_ok ran
  clear ran
  induction each with
  | nil => exact List.forall_mem_nil _
  | cons first _ ih => exact List.forall_mem_cons.mpr ⟨⟨_,first⟩,ih⟩

theorem mapM_total {α β ε : Type} {f : α → Except ε β} {g : α → β} {as : List α}
    (each : ∀ a ∈ as, f a = .ok (g a)) : as.mapM f = .ok (as.map g) :=
  (mapM_each each).trans List.mapM_pure

namespace Checked

variable {α ε : Type} {checked : Checked α}

theorem raise_ok {a : α} : (checked.raise : Except (Stop ε) α) = .ok a ↔ checked = .ok a := by
  cases checked <;> simp [raise,Except.mapError]

end Checked

namespace Time

theorem Instant.next_ok {t u : Instant} :
    t.next = .ok u ↔ (t.addMillis 1).inCalendar = true ∧ u = t.addMillis 1 := by
  unfold next
  split
  · rename_i inside
    simp [inside,eq_comm]
  · rename_i outside
    simp [outside]

namespace Duration

variable {d : Duration}

def ClockFits (d : Duration) : Prop :=
  d.hours.toNat + d.minutes.toNat + d.seconds.toNat ≤ Word.max32

instance (d : Duration) : Decidable d.ClockFits :=
  inferInstanceAs (Decidable (_ ≤ _))

theorem display_ok {text : String} :
    d.display = .ok text ↔ (d.weeks ≠ 0 ∨ d.ClockFits) ∧ text = d.text := by
  unfold display
  split
  · rename_i weeks
    have weeks : d.weeks ≠ 0 := by simpa using weeks
    simp [weeks,eq_comm]
  · rename_i weeks
    have weeks : d.weeks = 0 := by simpa using weeks
    have clock : Checked.word32 (d.hours.toNat + d.minutes.toNat + d.seconds.toNat)
        = if d.ClockFits then .ok (d.hours.toNat + d.minutes.toNat + d.seconds.toNat)
          else .error .panic := rfl
    rw [clock]
    split
    · rename_i fits
      simp [weeks,fits,bind,Except.bind,pure,Except.pure,eq_comm]
    · rename_i large
      simp [weeks,large,bind,Except.bind]

theorem floor_some {t s : Instant} {zone : Zone} :
    d.floor t zone = .ok (some s) ↔ (zone.localTime t).date.inCalendar = true ∧
      ∃ start, d.floorLocal (zone.localTime t) = some start ∧ start.date.inCalendar = true ∧
        zone.instant? start = some s := by
  unfold floor
  split
  · rename_i mixed
    have none : d.floorLocal (zone.localTime t) = none := by
      rw [floorLocal,Option.isNone_iff_eq_none.mp mixed]
      rfl
    simp [none]
  · unfold Zone.clock
    by_cases known : (zone.localTime t).date.inCalendar = true
    · rw [if_pos known]
      simp only [known,true_and,bind,Except.bind]
      cases starts : d.floorLocal (zone.localTime t) with
      | none => simp [pure,Except.pure]
      | some start =>
          by_cases inside : start.date.inCalendar = true
          · simp [inside,pure,Except.pure]
          · simp [inside,throw,throwThe,MonadExceptOf.throw]
    · rw [if_neg known]
      simp [known,bind,Except.bind]

end Duration

end Time

namespace TimeFilter

theorem clauseRanges_ok {column : String} {clause : Expr} {ranges : Option (List TimeRange)} :
    clauseRanges column clause = .ok ranges ↔
      (∀ t ∈ clauseEdges column clause, t.next = .ok (t.addMillis 1)) ∧
        ranges = clauseRanges? column clause := by
  unfold clauseRanges
  cases ends : (clauseEdges column clause).mapM Time.Instant.next with
  | error =>
      refine ⟨nofun,fun ⟨each,_⟩ => ?_⟩
      rw [mapM_total each] at ends
      cases ends
  | ok nexts =>
      have each : ∀ t ∈ clauseEdges column clause, t.next = .ok (t.addMillis 1) := by
        intro t listed
        obtain ⟨u,goes⟩ := mapM_result ends t listed
        rw [goes,(Time.Instant.next_ok.mp goes).2]
      simp only [bind,Except.bind,pure,Except.pure,Except.ok.injEq]
      exact ⟨fun same => ⟨each,same.symm⟩,fun both => both.2.symm⟩

theorem lift_ok {filter : Expr} {column : Option String} {lifted : TimeFilter} :
    lift filter column = .ok lifted ↔
      (∀ c ∈ column, ∀ clause ∈ clauses filter,
        clauseRanges c clause = .ok (clauseRanges? c clause)) ∧ lifted = split filter column := by
  cases column with
  | none => simp [lift,eq_comm]
  | some c =>
      change ((clauses filter).mapM (clauseRanges c) >>= fun _ => .ok (split filter (some c))) = _ ↔ _
      cases ends : (clauses filter).mapM (clauseRanges c) with
      | error =>
          constructor
          · intro goes
            cases goes
          · rintro ⟨each,-⟩
            rw [mapM_total (each c rfl)] at ends
            cases ends
      | ok ranges =>
          have each : ∀ clause ∈ clauses filter,
              clauseRanges c clause = .ok (clauseRanges? c clause) := by
            intro clause listed
            obtain ⟨found,goes⟩ := mapM_result ends clause listed
            rw [goes,(clauseRanges_ok.mp goes).2]
          constructor
          · intro goes
            refine ⟨fun d is => ?_,(Except.ok.inj goes).symm⟩
            cases is
            exact each
          · rintro ⟨-,rfl⟩
            rfl

theorem lift_split {filter : Expr} {column : Option String} {lifted : TimeFilter}
    (goes : lift filter column = .ok lifted) : lifted = split filter column :=
  (lift_ok.mp goes).2

end TimeFilter

theorem Sql.Tables.bucket_ok {t : Tables} {d : Time.Duration} {answer : Option String} :
    t.bucket? d = .ok answer ↔
      (d.weeks ≠ 0 ∨ d.ClockFits) ∧ answer = t.buckets.get? d.text := by
  unfold bucket?
  cases printed : d.display with
  | error =>
      refine ⟨nofun,fun ⟨fits,_⟩ => ?_⟩
      rw [Time.Duration.display_ok.mpr ⟨fits,rfl⟩] at printed
      cases printed
  | ok text =>
      obtain ⟨fits,rfl⟩ := Time.Duration.display_ok.mp printed
      simp [Except.map,fits,eq_comm]

end OlapQuery
