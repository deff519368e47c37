import OlapQuery.DataType
import OlapQuery.Proofs.DurationGrammar
import OlapQuery.Proofs.JsonTexts
import OlapQuery.Proofs.LooseTimes
import OlapQuery.Proofs.ValueForm
import OlapQuery.Time.Part

-- Values whose texts are changed. The texts of times, durations, parts, zones and types have no dollar,
-- so that none is made of variables. Where texts without a dollar stay as they are, changing the texts
-- of a JSON form changes those of the value, and nothing else of it.

namespace OlapQuery

def Dollarless {α : Type} (read : String → Option α) : Prop :=
  ∀ text a, read text = some a → '$' ∉ text.toList

theorem find_dollarless {α : Type} {name : α → String} {all : List α}
    (each : ∀ a ∈ all, '$' ∉ (name a).toList) :
    Dollarless fun text => all.find? fun a => name a == text := by
  intro text a found
  have same : name a = text := by simpa using List.find?_some found
  exact same ▸ each a (List.mem_of_find?_eq_some found)

theorem DataType.parse_dollarless : Dollarless DataType.parse? :=
  find_dollarless (by decide)

namespace Time

theorem Part.parse_dollarless : Dollarless Part.parse? :=
  find_dollarless (by decide)

theorem Zone.parse_dollarless (zones : Zone.Database) :
    Dollarless fun name => (Zone.parse zones name).toOption := by
  intro name zone parsed inside
  unfold Zone.parse at parsed
  dsimp only at parsed
  split at parsed
  · rename_i found
    exact absurd (List.all_eq_true.mp (zones.plain found) '$' inside) (by decide)
  · cases parsed

theorem unitOfLetter_other (inTime : Bool) : Duration.unitOfLetter inTime '$' = none := by
  cases inTime <;> rfl

theorem readGroups_dollarless {d e : Duration} {inTime : Bool} {digits cs : List Char}
    (read : Duration.readGroups d inTime digits cs = some e) : '$' ∉ cs := by
  induction cs generalizing d inTime digits with
  | nil => exact List.not_mem_nil
  | cons c rest ih =>
      unfold Duration.readGroups at read
      by_cases dollar : c = '$'
      · subst dollar
        simp [unitOfLetter_other] at read
      · have others : '$' ∉ rest := by
          split at read
          · exact ih read
          · split at read
            · exact ih read
            · split at read
              · exact ih read
              · cases read
        simpa [Ne.symm dollar] using others

theorem Duration.parse_dollarless : Dollarless Duration.parse? := by
  intro text d parsed
  obtain ⟨body,spelled,read,-⟩ := parse_some.mp parsed
  rw [spelled]
  simpa using readGroups_dollarless read

section Takers

variable {cs rest : List Char}

theorem dropWhile_dollar {p : Char → Bool} (other : p '$' = false) (inside : '$' ∈ cs) :
    '$' ∈ cs.dropWhile p := by
  rw [← List.takeWhile_append_dropWhile (p := p) (l := cs)] at inside
  rcases List.mem_append.mp inside with taken | left
  · have is := List.mem_takeWhile_imp taken
    rw [other] at is
    cases is
  · exact left

theorem drop_dollar {count : Nat} (other : '$' ∉ cs.take count) (inside : '$' ∈ cs) :
    '$' ∈ cs.drop count := by
  rw [← List.take_append_drop count cs] at inside
  exact (List.mem_append.mp inside).resolve_left other

theorem digit_dollar {digits : List Char} (each : ∀ c ∈ digits, c.isDigit = true) : '$' ∉ digits :=
  fun inside => absurd (each _ inside) (by decide)

theorem skipBlanks_dollar (inside : '$' ∈ cs) : '$' ∈ skipBlanks cs := by
  refine dropWhile_dollar ?_ inside
  rw [Text.isBlank,whiteSpace_codes]
  decide

theorem takeNumber_dollar {width n : Nat} (taken : takeNumber width cs = some (n,rest))
    (inside : '$' ∈ cs) : '$' ∈ rest := by
  obtain ⟨-,same⟩ := Option.ite_none_left_eq_some.mp taken
  cases same
  have start : ((cs.takeWhile Char.isDigit).take width) <+: cs :=
    (List.take_prefix ..).trans (List.takeWhile_prefix _)
  refine drop_dollar ?_ inside
  rw [← List.prefix_iff_eq_take.mp start]
  exact digit_dollar fun c listed => List.mem_takeWhile_imp (List.mem_of_mem_take listed)

theorem takeChar_dollar {accept : Char → Bool} (other : accept '$' = false)
    (taken : takeChar accept cs = some rest) (inside : '$' ∈ cs) : '$' ∈ rest := by
  cases cs with
  | nil => cases taken
  | cons c later =>
      obtain ⟨accepted,same⟩ := Option.ite_none_right_eq_some.mp taken
      cases same
      rcases List.mem_cons.mp inside with rfl | later
      · rw [other] at accepted
        cases accepted
      · exact later

theorem takeNext_dollar {mark : Char} {n : Nat} (other : '$' ≠ mark)
    (taken : takeNext mark cs = some (n,rest)) (inside : '$' ∈ cs) : '$' ∈ rest := by
  obtain ⟨after,marked,taken⟩ := Option.bind_eq_some_iff.mp taken
  have later : '$' ∈ after := by
    refine takeChar_dollar ?_ marked (skipBlanks_dollar inside)
    exact beq_false_of_ne other
  exact takeNumber_dollar taken (skipBlanks_dollar later)

theorem takeYear_dollar {year : Int} (taken : takeYear cs = some (year,rest)) (inside : '$' ∈ cs) :
    '$' ∈ rest := by
  unfold takeYear at taken
  split at taken
  · obtain ⟨⟨n,after⟩,number,same⟩ := Option.map_eq_some_iff.mp taken
    cases same
    exact takeNumber_dollar number (by simpa using inside)
  · obtain ⟨⟨n,after⟩,number,same⟩ := Option.map_eq_some_iff.mp taken
    cases same
    exact takeNumber_dollar number (by simpa using inside)
  · obtain ⟨⟨n,after⟩,number,same⟩ := Option.map_eq_some_iff.mp taken
    cases same
    exact takeNumber_dollar number inside

theorem takeFraction_dollar {nanos : Nat} (taken : takeFraction cs = some (nanos,rest))
    (inside : '$' ∈ cs) : '$' ∈ rest := by
  unfold takeFraction at taken
  split at taken
  · obtain ⟨-,same⟩ := Option.ite_none_left_eq_some.mp taken
    cases same
    exact dropWhile_dollar rfl (by simpa using inside)
  · cases taken
    exact inside

theorem takeDigits_dollar {count n : Nat} (taken : takeDigits count cs = some (n,rest))
    (inside : '$' ∈ cs) : '$' ∈ rest := by
  obtain ⟨digits,same⟩ := Option.ite_none_right_eq_some.mp taken
  cases same
  obtain ⟨-,digits⟩ := Bool.and_eq_true_iff.mp digits
  exact drop_dollar (digit_dollar (List.all_eq_true.mp digits)) inside

theorem takeLooseOffset_dollar {offset : Int} (taken : takeLooseOffset cs = some (offset,rest))
    (inside : '$' ∈ cs) : '$' ∈ rest := by
  unfold takeLooseOffset at taken
  split at taken
  · cases taken
    simpa using inside
  · cases taken
    simpa using inside
  · rename_i sign later _ _
    dsimp only at taken
    split at taken
    · rename_i word
      cases taken
      refine drop_dollar (fun within => ?_) inside
      have upper : '$' ∈ ((sign :: later).take 3).map Char.toUpper :=
        List.mem_map.mpr ⟨'$',within,by decide⟩
      rw [beq_iff_eq.mp word] at upper
      exact absurd upper (by decide)
    · split at taken
      · cases taken
      · rename_i signed
        have other : sign ≠ '$' := by
          rintro rfl
          exact signed (by decide)
        have left : '$' ∈ later := by simpa [Ne.symm other] using inside
        obtain ⟨⟨hours,after⟩,first,taken⟩ := Option.bind_eq_some_iff.mp taken
        obtain ⟨⟨minutes,last⟩,second,taken⟩ := Option.bind_eq_some_iff.mp taken
        dsimp only at taken
        split at taken
        · cases taken
        · cases taken
          have parted : isOffsetMark '$' = false := by
            rw [isOffsetMark,Text.isBlank,whiteSpace_codes]
            decide
          exact takeDigits_dollar second (dropWhile_dollar parted (takeDigits_dollar first left))
  · cases taken

theorem Instant.parseLoose_dollarless : Dollarless Instant.parseLoose? := by
  intro text t read inside
  unfold Instant.parseLoose? at read
  obtain ⟨⟨year,cs⟩,first,read⟩ := Option.bind_eq_some_iff.mp read
  have inside := takeYear_dollar first (skipBlanks_dollar inside)
  obtain ⟨⟨month,cs⟩,next,read⟩ := Option.bind_eq_some_iff.mp read
  have inside := takeNext_dollar (by decide) next inside
  obtain ⟨⟨day,cs⟩,next,read⟩ := Option.bind_eq_some_iff.mp read
  have inside := takeNext_dollar (by decide) next inside
  obtain ⟨cs,mark,read⟩ := Option.bind_eq_some_iff.mp read
  have inside := takeChar_dollar rfl mark inside
  obtain ⟨⟨hour,cs⟩,next,read⟩ := Option.bind_eq_some_iff.mp read
  have inside := takeNumber_dollar next (skipBlanks_dollar inside)
  obtain ⟨⟨minute,cs⟩,next,read⟩ := Option.bind_eq_some_iff.mp read
  have inside := takeNext_dollar (by decide) next inside
  obtain ⟨⟨second,cs⟩,next,read⟩ := Option.bind_eq_some_iff.mp read
  have inside := takeNext_dollar (by decide) next inside
  obtain ⟨⟨nanos,cs⟩,next,read⟩ := Option.bind_eq_some_iff.mp read
  have inside := takeFraction_dollar next inside
  obtain ⟨⟨offset,cs⟩,next,read⟩ := Option.bind_eq_some_iff.mp read
  have inside := skipBlanks_dollar (takeLooseOffset_dollar next (skipBlanks_dollar inside))
  obtain ⟨ended,-⟩ := Option.ite_none_right_eq_some.mp read
  rw [List.isEmpty_iff.mp ended] at inside
  cases inside

end Takers

end Time

-- Texts without a dollar stay.
def FixesDollarless (f : String → String) : Prop :=
  ∀ text, '$' ∉ text.toList → f text = text

namespace Json

variable {f : String → String} {α β : Type}

@[simp] theorem mapTexts_str (s : String) : (str s).mapTexts f = .str (f s) := rfl

@[simp] theorem mapTexts_arr (items : List Json) :
    (arr items).mapTexts f = .arr (items.map (mapTexts f)) := by
  rw [mapTexts,mapStrings,mapItems_map]
  rfl

@[simp] theorem mapTexts_obj (fields : List (String × Json)) :
    (obj fields).mapTexts f = .obj (fields.map fun member => (member.1,member.2.mapTexts f)) := by
  rw [mapTexts,mapStrings,mapFields_map]
  rfl

def Keeps (f : String → String) (decode : Json → Option α) : Prop :=
  ∀ j a, decode j = some a → decode (j.mapTexts f) = some a

theorem keeps_scalar {decode : Json → Option α} (text : ∀ s, decode (.str s) = none)
    (list : ∀ items, decode (.arr items) = none) (object : ∀ fields, decode (.obj fields) = none) :
    Keeps f decode := by
  intro j a read
  cases j with
  | str s => rw [text] at read; cases read
  | arr items => rw [list] at read; cases read
  | obj fields => rw [object] at read; cases read
  | _ => exact read

theorem keeps_text (fixed : FixesDollarless f) {parse : String → Option α}
    (dollarless : Dollarless parse) : Keeps f fun j => j.str?.bind parse := by
  intro j a read
  obtain ⟨s,is,parsed⟩ := Option.bind_eq_some_iff.mp read
  cases j with
  | str t =>
      cases is
      rw [mapTexts_str,fixed s (dollarless s a parsed)]
      exact read
  | _ => cases is

theorem isNothing_map (origin : Origin) (j : Json) :
    isNothing origin (j.mapTexts f) = isNothing origin j := by
  cases j with
  | arr items => cases items <;> simp [isNothing]
  | obj fields => cases fields <;> simp [isNothing]
  | _ => rfl

theorem choice_map {origin : Origin} {j : Json} {name : String} (read : j.choice? origin = some name) :
    (j.mapTexts f).choice? origin = some name ∨ (j.mapTexts f).choice? origin = some (f name) := by
  unfold choice? at read
  split at read
  · cases read
    exact .inr rfl
  · rename_i other content
    obtain ⟨nothing,same⟩ := Option.ite_none_right_eq_some.mp read
    cases same
    refine .inl ?_
    rw [mapTexts_obj]
    exact if_pos ((isNothing_map origin content).trans nothing)
  · cases read

theorem keeps_choice (fixed : FixesDollarless f) (origin : Origin) {parse : String → Option α}
    (dollarless : Dollarless parse) : Keeps f fun j => (j.choice? origin).bind parse := by
  intro j a read
  obtain ⟨name,is,parsed⟩ := Option.bind_eq_some_iff.mp read
  rcases choice_map (f := f) is with same | changed
  · exact Option.bind_eq_some_iff.mpr ⟨name,same,parsed⟩
  · rw [fixed name (dollarless name a parsed)] at changed
    exact Option.bind_eq_some_iff.mpr ⟨name,changed,parsed⟩

theorem mapM_changed {decode decode' : α → Option β} {change : β → β} {as : List α} {bs : List β}
    (each : ∀ a ∈ as, ∀ b, decode a = some b → decode' a = some (change b))
    (read : as.mapM decode = some bs) : as.mapM decode' = some (bs.map change) := by
  induction as generalizing bs with
  | nil => cases read; rfl
  | cons a rest ih =>
      rw [List.mapM_cons] at read ⊢
      obtain ⟨b,first,read⟩ := Option.bind_eq_some_iff.mp read
      obtain ⟨others,later,same⟩ := Option.bind_eq_some_iff.mp read
      cases same
      rw [each a List.mem_cons_self b first,
        ih (fun c listed => each c (List.mem_cons_of_mem _ listed)) later]
      rfl

namespace Parts

theorem count_map (g : α → β) (given : List (String × α)) (name : String) :
    count (given.map fun member => (member.1,g member.2)) name = count given name := by
  rw [count,count,List.filter_map,List.length_map]
  rfl

theorem fields_map (g : α → β) (parts : Parts α) (origin : Origin) (shape : Shape) :
    (parts.map g).fields? origin shape =
      (parts.fields? origin shape).map (List.map fun member => (member.1,g member.2)) := by
  cases parts with
  | members given =>
      simp only [map,fields?,count_map]
      split <;> rfl
  | items given =>
      simp only [map,fields?,List.length_map]
      split
      · rfl
      · split
        · rw [Option.map_some,List.zip_map_right]
          rfl
        · rfl

theorem tagged_map (g : α → β) (parts : Parts α) (tag : String) :
    (parts.map g).tagged? tag = (parts.tagged? tag).map fun found => (g found.1,found.2.map g) := by
  cases parts with
  | members given =>
      simp only [map,tagged?,count_map,Table.lookup_map,List.filter_map]
      split
      · cases List.lookup tag given <;> rfl
      · rfl
  | items given => cases given <;> rfl

end Parts

theorem parts_map (j : Json) : (j.mapTexts f).parts? = j.parts?.map (Parts.map (mapTexts f)) := by
  cases j with
  | arr items => rw [mapTexts_arr]; rfl
  | obj fields => rw [mapTexts_obj]; rfl
  | _ => rfl

theorem bounds_map {j : Json} {low high : Option Json} (read : j.bounds? = some (low,high)) :
    (j.mapTexts f).bounds? = some (low.map (mapTexts f),high.map (mapTexts f)) := by
  obtain ⟨parts,are,read⟩ := Option.bind_eq_some_iff.mp read
  obtain ⟨fields,given,same⟩ := Option.bind_eq_some_iff.mp read
  cases same
  refine Option.bind_eq_some_iff.mpr ⟨parts.map (mapTexts f),by rw [parts_map,are]; rfl,?_⟩
  refine Option.bind_eq_some_iff.mpr ⟨_,by rw [Parts.fields_map,given]; rfl,?_⟩
  rw [Table.lookup_map,Table.lookup_map]

theorem optional_map {decode : Json → Option α} (keeps : Keeps f decode) {member : Option Json}
    {a : Option α} (read : optional decode member = some a) :
    optional decode (member.map (mapTexts f)) = some a := by
  unfold optional at read
  split at read
  · exact read
  · exact read
  · rename_i j given
    obtain ⟨b,decoded,same⟩ := Option.map_eq_some_iff.mp read
    cases same
    have other : j.mapTexts f ≠ .null := by
      cases j with
      | null => exact absurd rfl given
      | arr items => simp
      | obj fields => simp
      | _ => nofun
    rw [Option.map_some,optional]
    · exact Option.map_eq_some_iff.mpr ⟨b,keeps j b decoded,rfl⟩
    · exact other

theorem number_keeps : Keeps f number? :=
  keeps_scalar (fun _ => rfl) (fun _ => rfl) fun _ => rfl

theorem bool_keeps : Keeps f bool? :=
  keeps_scalar (fun _ => rfl) (fun _ => rfl) fun _ => rfl

theorem looseInstant_keeps (fixed : FixesDollarless f) : Keeps f looseInstant? :=
  keeps_text fixed Time.Instant.parseLoose_dollarless

theorem type_keeps (fixed : FixesDollarless f) (origin : Origin) : Keeps f (typeFrom? origin) :=
  keeps_choice fixed origin DataType.parse_dollarless

end Json

open Json (Keeps)

theorem TimeRange.ofJson_keeps {f : String → String} (fixed : FixesDollarless f) :
    Keeps f TimeRange.ofJson? := by
  intro j range read
  obtain ⟨⟨low,high⟩,bounds,read⟩ := Option.bind_eq_some_iff.mp read
  obtain ⟨start,first,read⟩ := Option.bind_eq_some_iff.mp read
  obtain ⟨finish,second,same⟩ := Option.bind_eq_some_iff.mp read
  have instants := Json.looseInstant_keeps fixed
  refine Option.bind_eq_some_iff.mpr ⟨_,Json.bounds_map bounds,?_⟩
  refine Option.bind_eq_some_iff.mpr ⟨start,Json.optional_map instants first,?_⟩
  exact Option.bind_eq_some_iff.mpr ⟨finish,Json.optional_map instants second,same⟩

theorem NumberRange.ofJson_keeps {f : String → String} : Keeps f NumberRange.ofJson? := by
  intro j range read
  obtain ⟨⟨low,high⟩,bounds,read⟩ := Option.bind_eq_some_iff.mp read
  obtain ⟨start,first,read⟩ := Option.bind_eq_some_iff.mp read
  obtain ⟨finish,second,same⟩ := Option.bind_eq_some_iff.mp read
  refine Option.bind_eq_some_iff.mpr ⟨_,Json.bounds_map bounds,?_⟩
  refine Option.bind_eq_some_iff.mpr ⟨start,Json.optional_map Json.number_keeps first,?_⟩
  exact Option.bind_eq_some_iff.mpr ⟨finish,Json.optional_map Json.number_keeps second,same⟩

namespace Value

-- Changes the texts of a value.
mutual
def mapTexts (f : String → String) : Value → Value
  | .string s => .string (f s)
  | .set type elements => .set type (mapAllTexts f elements)
  | other => other

def mapAllTexts (f : String → String) : List Value → List Value
  | [] => []
  | v :: rest => mapTexts f v :: mapAllTexts f rest
end

variable {f : String → String} {origin : Json.Origin}

@[simp] theorem mapAllTexts_map (vs : List Value) : mapAllTexts f vs = vs.map (mapTexts f) := by
  induction vs with
  | nil => rfl
  | cons v rest ih => rw [mapAllTexts,ih,List.map_cons]

theorem scalarOfJson_map (fixed : FixesDollarless f) {kind : String} {content : Option Json} {v : Value}
    (read : scalarOfJson? kind content = some v) : '$' ∉ kind.toList ∧
      scalarOfJson? kind (content.map (Json.mapTexts f)) = some (v.mapTexts f) := by
  unfold scalarOfJson? at read
  split at read
  · cases read
    exact ⟨by decide,rfl⟩
  · cases read
    exact ⟨by decide,rfl⟩
  · obtain ⟨b,is,rfl⟩ := Option.map_eq_some_iff.mp read
    refine ⟨by decide,?_⟩
    exact Option.map_eq_some_iff.mpr ⟨b,Json.bool_keeps _ b is,rfl⟩
  · obtain ⟨x,is,rfl⟩ := Option.map_eq_some_iff.mp read
    refine ⟨by decide,?_⟩
    exact Option.map_eq_some_iff.mpr ⟨x,Json.number_keeps _ x is,rfl⟩
  · rename_i j
    obtain ⟨s,is,rfl⟩ := Option.map_eq_some_iff.mp read
    cases j with
    | str t => cases is; exact ⟨by decide,rfl⟩
    | _ => cases is
  · obtain ⟨t,is,rfl⟩ := Option.map_eq_some_iff.mp read
    refine ⟨by decide,?_⟩
    exact Option.map_eq_some_iff.mpr ⟨t,Json.looseInstant_keeps fixed _ t is,rfl⟩
  · obtain ⟨r,is,rfl⟩ := Option.map_eq_some_iff.mp read
    refine ⟨by decide,?_⟩
    exact Option.map_eq_some_iff.mpr ⟨r,TimeRange.ofJson_keeps fixed _ r is,rfl⟩
  · obtain ⟨r,is,rfl⟩ := Option.map_eq_some_iff.mp read
    refine ⟨by decide,?_⟩
    exact Option.map_eq_some_iff.mpr ⟨r,NumberRange.ofJson_keeps _ r is,rfl⟩
  · cases read

-- What a piece of JSON stands for is what the changed piece stands for, changed likewise.
structure Mapped (f : String → String) (origin : Json.Origin) (j : Json) : Prop where
  value : ∀ v, (read origin j).value = some v →
    (read origin (j.mapTexts f)).value = some (v.mapTexts f)
  elements : ∀ vs, (read origin j).elements = some vs →
    (read origin (j.mapTexts f)).elements = some (vs.map (mapTexts f))
  setContent : ∀ v, (read origin j).setContent = some v →
    (read origin (j.mapTexts f)).setContent = some (v.mapTexts f)

section Records

variable {parts : Json.Parts Json} {v : Value}

theorem lookup_mapped (fields : List (String × Json)) (name : String) :
    List.lookup name (fields.map fun member => (member.1,read origin (member.2.mapTexts f))) =
      (List.lookup name fields).map fun j => read origin (j.mapTexts f) :=
  Table.lookup_map (fun j => read origin (j.mapTexts f)) fields name

theorem setOfParts_map (fixed : FixesDollarless f) (each : parts.Each (Mapped f origin))
    (reads : setOfParts? origin (parts.map (read origin)) = some v) :
    setOfParts? origin (parts.map fun j => read origin (j.mapTexts f)) = some (v.mapTexts f) := by
  obtain ⟨_,given,reads⟩ := Option.bind_eq_some_iff.mp reads
  rw [Json.Parts.fields_map] at given
  obtain ⟨fields,own,rfl⟩ := Option.map_eq_some_iff.mp given
  obtain ⟨_,found,reads⟩ := Option.bind_eq_some_iff.mp reads
  rw [Table.lookup_map] at found
  obtain ⟨first,here,rfl⟩ := Option.map_eq_some_iff.mp found
  obtain ⟨type,typed,reads⟩ := Option.bind_eq_some_iff.mp reads
  obtain ⟨_,found,reads⟩ := Option.bind_eq_some_iff.mp reads
  rw [Table.lookup_map] at found
  obtain ⟨second,there,rfl⟩ := Option.map_eq_some_iff.mp found
  obtain ⟨elements,listed,same⟩ := Option.bind_eq_some_iff.mp reads
  cases same
  rw [read_json] at typed
  have typed := Json.type_keeps fixed origin first type typed
  have listed := (each.found own there).elements elements listed
  simp [setOfParts?,Json.Parts.fields_map,own,lookup_mapped,here,there,typed,listed,mapTexts]

theorem ofParts_map (fixed : FixesDollarless f) (each : parts.Each (Mapped f origin))
    (reads : ofParts? origin (parts.map (read origin)) = some v) :
    ofParts? origin (parts.map fun j => read origin (j.mapTexts f)) = some (v.mapTexts f) := by
  obtain ⟨_,given,reads⟩ := Option.bind_eq_some_iff.mp reads
  rw [Json.Parts.fields_map] at given
  obtain ⟨fields,own,rfl⟩ := Option.map_eq_some_iff.mp given
  obtain ⟨_,found,reads⟩ := Option.bind_eq_some_iff.mp reads
  rw [Table.lookup_map] at found
  obtain ⟨first,here,rfl⟩ := Option.map_eq_some_iff.mp found
  obtain ⟨kind,chosen,reads⟩ := Option.bind_eq_some_iff.mp reads
  rw [read_json] at chosen
  rw [Table.lookup_map] at reads
  have kept : '$' ∉ kind.toList → (first.mapTexts f).choice? origin = some kind := by
    intro dollarless
    rcases Json.choice_map (f := f) chosen with same | changed
    · exact same
    · rwa [fixed kind dollarless] at changed
  have parts (kept : (first.mapTexts f).choice? origin = some kind) :
      ofParts? origin (parts.map fun j => read origin (j.mapTexts f)) =
        if kind == "SET" then (List.lookup "value" fields).bind fun j =>
          (read origin (j.mapTexts f)).setContent
        else scalarOfJson? kind ((List.lookup "value" fields).map (Json.mapTexts f)) := by
    simp [ofParts?,Json.Parts.fields_map,own,lookup_mapped,here,kept,Option.map_map,
      Function.comp_def,Option.bind_map]
  dsimp only at reads
  split at reads
  · rename_i set
    obtain rfl := beq_iff_eq.mp set
    rw [parts (kept (by decide)),if_pos set]
    obtain ⟨_,found,content⟩ := Option.bind_eq_some_iff.mp reads
    obtain ⟨second,there,rfl⟩ := Option.map_eq_some_iff.mp found
    exact Option.bind_eq_some_iff.mpr ⟨second,there,(each.found own there).setContent v content⟩
  · rename_i other
    have same : ((fun r => r.json) ∘ read origin) = id := funext fun j => read_json ..
    rw [Option.map_map,same,Option.map_id] at reads
    obtain ⟨dollarless,mapped⟩ := scalarOfJson_map fixed reads
    rw [parts (kept dollarless),if_neg other]
    exact mapped

theorem elementsOf_map {vs : List Value} (each : parts.Each (Mapped f origin))
    (reads : elementsOf? (parts.map (read origin)) = some vs) :
    elementsOf? (parts.map fun j => read origin (j.mapTexts f)) = some (vs.map (mapTexts f)) := by
  cases parts with
  | items items =>
      rw [Json.Parts.map,elementsOf?,List.mapM_map] at reads ⊢
      exact Json.mapM_changed (fun j listed => (each j listed).value) reads
  | members fields => cases reads

end Records

theorem read_mapped (fixed : FixesDollarless f) (j : Json) : Mapped f origin j := by
  induction j using Json.parts_induction with
  | step j each =>
      cases are : j.parts? with
      | none =>
          have plain : read origin j = reading origin j none := by
            rw [read,Json.readBy_parts,are]
            rfl
          refine ⟨?_,?_,?_⟩ <;> rw [plain] <;> nofun
      | some parts =>
          have before : read origin j = reading origin j (some (parts.map (read origin))) := by
            rw [read,Json.readBy_parts,are]
            rfl
          have after : read origin (j.mapTexts f) = reading origin (j.mapTexts f)
              (some (parts.map fun j => read origin (j.mapTexts f))) := by
            rw [read,Json.readBy_parts,Json.parts_map,are,Option.map_some,Option.map_some,
              Json.Parts.map_map]
          refine ⟨?_,?_,?_⟩ <;> rw [before,after]
          · exact fun v => ofParts_map fixed (each parts are)
          · exact fun vs => elementsOf_map (each parts are)
          · exact fun v => setOfParts_map fixed (each parts are)

end Value

end OlapQuery
