import OlapQuery.Proofs.Tables
import OlapQuery.Proofs.TemplateFrames

-- The tables that come with the dialects have settled frames only.

namespace OlapQuery.Sql

-- The characters of a text, read off the way it is written.
inductive Spelled : String → List Char → Prop where
  | constant : Spelled (String.ofList cs) cs
  | append (first : Spelled a as) (second : Spelled b bs) : Spelled (a ++ b) (as ++ bs)

theorem Spelled.toList {text : String} {cs : List Char} (spelled : Spelled text cs) :
    text.toList = cs := by
  induction spelled with
  | constant => exact String.toList_ofList
  | append first second left right => rw [String.toList_append,left,right]

inductive Entry.Sound : Entry → Prop where
  | cast (spelled : Spelled text cs) (calm : settled false (slots cs) = true) :
      Entry.Sound (.cast target source text)
  | bucket (spelled : Spelled spec cs) (free : cs.all unmarked = true) :
      Entry.Sound (.bucket duration spec)
  | timePart (spelled : Spelled text cs) (calm : settled false (slots cs) = true) :
      Entry.Sound (.timePart part text)

theorem Tables.add_cases {t u : Tables} {entry : Entry} (added : t.add entry = .ok u) :
    (∃ source target text template, entry = .cast target source text ∧
      Template.parse text = .ok template ∧
      u = { t with castEntries := { source,target,template } :: t.castEntries }) ∨
    (∃ name spec duration, entry = .bucket name spec ∧ Time.Duration.parse? name = some duration ∧
      u = { t with buckets := t.buckets.insert duration.text spec }) ∨
    (∃ part text template, entry = .timePart part text ∧ Template.parse text = .ok template ∧
      u = { t with partEntries := { part,template } :: t.partEntries }) := by
  cases entry with
  | cast target source text =>
      cases read : Template.parse text with
      | error fault => simp [add,read,bind,Except.bind] at added
      | ok template =>
          simp only [add,read,bind,Except.bind,pure,Except.pure] at added
          cases added
          exact .inl ⟨source,target,text,template,rfl,read,rfl⟩
  | bucket name spec =>
      unfold add at added
      dsimp only at added
      split at added
      · rename_i duration read
        cases added
        exact .inr (.inl ⟨name,spec,duration,rfl,read,rfl⟩)
      · cases added
  | timePart part text =>
      cases read : Template.parse text with
      | error fault => simp [add,read,bind,Except.bind] at added
      | ok template =>
          simp only [add,read,bind,Except.bind,pure,Except.pure] at added
          cases added
          exact .inr (.inr ⟨part,text,template,rfl,read,rfl⟩)

theorem Tables.add_sound {t u : Tables} {entry : Entry} (before : t.Sound) (sound : entry.Sound)
    (added : t.add entry = .ok u) : u.Sound := by
  rcases add_cases added with ⟨source,target,text,template,rfl,read,rfl⟩ |
    ⟨name,spec,duration,rfl,-,rfl⟩ | ⟨part,text,template,rfl,read,rfl⟩
  · refine {before with casts := fun entry listed => ?_}
    cases sound with
    | cast spelled calm =>
        rcases List.mem_cons.mp listed with rfl | earlier
        · exact parse_sound read (by rwa [spelled.toList])
        · exact before.casts entry earlier
  · refine {before with buckets := fun entry listed => ?_}
    cases sound with
    | bucket spelled free =>
        rcases Table.mem_insert listed with rfl | earlier
        · rwa [Clean,spelled.toList]
        · exact before.buckets entry earlier
  · refine {before with parts := fun entry listed => ?_}
    cases sound with
    | timePart spelled calm =>
        rcases List.mem_cons.mp listed with rfl | earlier
        · exact parse_sound read (by rwa [spelled.toList])
        · exact before.parts entry earlier

theorem Tables.fold_sound {entries : List Entry} {t u : Tables} (before : t.Sound)
    (each : ∀ entry ∈ entries, entry.Sound) (ran : entries.foldlM Tables.add t = .ok u) :
    u.Sound := by
  induction entries generalizing t with
  | nil => cases ran; exact before
  | cons entry rest ih =>
      cases first : t.add entry with
      | error fault => simp [List.foldlM_cons,first,bind,Except.bind] at ran
      | ok next =>
          rw [List.foldlM_cons,first] at ran
          exact ih (Tables.add_sound before (each entry List.mem_cons_self) first)
            (fun entry listed => each entry (List.mem_cons_of_mem _ listed)) ran

theorem Tables.fold_parts {entries : List Entry} {t u : Tables}
    (ran : entries.foldlM Tables.add t = .ok u) : ∀ entry ∈ u.partEntries, entry ∈ t.partEntries ∨
      ∃ text, .timePart entry.part text ∈ entries ∧ Template.parse text = .ok entry.template := by
  induction entries generalizing t with
  | nil => cases ran; exact fun entry listed => .inl listed
  | cons first rest ih =>
      cases added : t.add first with
      | error fault => simp [List.foldlM_cons,added,bind,Except.bind] at ran
      | ok next =>
          rw [List.foldlM_cons,added] at ran
          intro entry listed
          rcases ih ran entry listed with early | ⟨text,later,read⟩
          · rcases add_cases added with ⟨_,_,_,_,-,-,rfl⟩ | ⟨_,_,_,-,-,rfl⟩ |
              ⟨part,text,template,rfl,read,rfl⟩
            · exact .inl early
            · exact .inl early
            · rcases List.mem_cons.mp early with rfl | before
              · exact .inr ⟨text,List.mem_cons_self,read⟩
              · exact .inl before
          · exact .inr ⟨text,List.mem_cons_of_mem _ later,read⟩

theorem Tables.build_fold {entries : List Entry} {t : Tables} (built : Tables.build entries = .ok t) :
    entries.foldlM Tables.add {} = .ok t := by
  unfold Tables.build at built
  cases keys : Tables.keysOf entries with
  | error => simp [keys,Checked.raise,Except.mapError,bind,Except.bind] at built
  | ok texts =>
      cases ran : entries.foldlM Tables.add {} with
      | error => simp [keys,ran,Checked.raise,Except.mapError,bind,Except.bind] at built
      | ok last =>
          simp only [keys,ran,Checked.raise,Except.mapError,bind,Except.bind] at built
          cases built
          rfl

theorem tables_parts {family : Family} {entry : PartEntry}
    (listed : entry ∈ family.tables.partEntries) :
    ∃ text, .timePart entry.part text ∈ family.entries ∧
      Template.parse text = .ok entry.template := by
  unfold Family.tables at listed
  split at listed
  · rename_i built
    exact (Tables.fold_parts (Tables.build_fold built) entry listed).resolve_left nofun
  · cases listed

theorem entries_sound (family : Family) : ∀ entry ∈ family.entries, entry.Sound := by
  cases family
  all_goals
    simp only [Family.entries,prestoEntries,bigQueryEntries,postgresEntries,mySqlEntries,
      bigQueryDayOfWeek,bigQueryHourOfWeek,bigQueryMinuteOfWeek,bigQuerySecondOfWeek,
      postgresField,postgresDayOfWeek,List.forall_mem_cons,List.not_mem_nil,false_implies,
      implies_true,and_true,-String.reduceAppend]
    repeat' apply And.intro
    all_goals
      constructor
      · repeat' first | with_reducible apply Spelled.append | exact .constant
      · decide +kernel

theorem tables_sound (family : Family) : family.tables.Sound := by
  have empty : Tables.Sound {} :=
    ⟨fun _ none => (nomatch none),fun _ none => (nomatch none),fun _ none => (nomatch none)⟩
  unfold Family.tables
  split
  · rename_i built
    exact Tables.fold_sound empty (entries_sound family) (Tables.build_fold built)
  · exact empty

end OlapQuery.Sql
