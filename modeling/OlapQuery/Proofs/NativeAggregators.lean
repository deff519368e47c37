import OlapQuery.Proofs.DruidForm

-- An aggregator in the engine's own form that names a native kind is read as a native one if it
-- has the members of the kind. Those are read as they stand, and the others are lost.

namespace OlapQuery.Druid

open Json (given)

section Decoders

theorem str_some {j : Json} {s : String} (read : j.str? = some s) : j = .str s := by
  cases j with
  | str s => cases read; rfl
  | _ => cases read

theorem bool_some {j : Json} {b : Bool} (read : j.bool? = some b) : j = .bool b := by
  cases j with
  | bool b => cases read; rfl
  | _ => cases read

theorem strings_some {j : Json} {items : List String} (read : strings? j = some items) :
    j = Json.ofStrings items := by
  obtain ⟨parts,listed,each⟩ := Option.bind_eq_some_iff.mp read
  have same : parts = items.map Json.str := by
    clear read listed
    induction parts generalizing items with
    | nil => cases each; rfl
    | cons j rest ih =>
        rw [List.mapM_cons] at each
        obtain ⟨s,first,each⟩ := Option.bind_eq_some_iff.mp each
        obtain ⟨others,later,each⟩ := Option.bind_eq_some_iff.mp each
        cases each
        rw [str_some first,ih later,List.map_cons]
  cases j with
  | arr parts => cases listed; rw [same,Json.ofStrings]
  | _ => cases listed

end Decoders

namespace Aggregation

def members (kind : String) : List String :=
  "type" :: (shape kind).map (·.name)

theorem members_distinct {kind : String} (known : kind ∈ kinds) : (members kind).Nodup := by
  have each : ∀ kind ∈ kinds, (members kind).Nodup := by decide
  exact each kind known

variable {fields : List (String × Json)} {kind : String}

-- What is read as a record of a native kind, with the members that it is read from.
structure Tagged (fields : List (String × Json)) (kind : String) (found : Fields Reading) : Prop where
  known : kind ∈ kinds
  once : ∀ name ∈ members kind, (fields.map (·.1)).count name ≤ 1
  same : ∀ name, name ≠ "type" → found.json? name = List.lookup name fields

theorem count_names {α : Type} (given : List (String × α)) (name : String) :
    Json.Parts.count given name = (given.map (·.1)).count name := by
  rw [Json.Parts.count,List.count_eq_countP,List.countP_map,List.countP_eq_length_filter]
  rfl

theorem count_filter {α : Type} {tag name : String} (other : name ≠ tag)
    (given : List (String × α)) :
    Json.Parts.count (given.filter (fun member => member.1 != tag)) name
      = Json.Parts.count given name := by
  rw [Json.Parts.count,Json.Parts.count,List.filter_filter]
  congr 1
  refine List.filter_congr fun member _ => ?_
  by_cases same : member.1 = name
  · simp [same,other]
  · simp [same]

theorem tagged {found : Fields Reading} {other : String}
    (typed : List.lookup "type" fields = some (.str kind))
    (reads : taggedFields? kinds shape (.members (Json.readMembers reading fields)) = some (other,found)) :
    other = kind ∧ Tagged fields kind found := by
  obtain ⟨⟨tag,body⟩,tags,reads⟩ := Option.bind_eq_some_iff.mp reads
  obtain ⟨named,names,reads⟩ := Option.bind_eq_some_iff.mp reads
  obtain ⟨parts,shaped,is⟩ := Option.bind_eq_some_iff.mp reads
  cases is
  obtain ⟨one,tags⟩ := Option.ite_none_right_eq_some.mp tags
  obtain ⟨_,first,is⟩ := Option.map_eq_some_iff.mp tags
  cases is
  obtain ⟨counts,is⟩ := Option.ite_none_right_eq_some.mp shaped
  cases is
  rw [Json.readMembers_map,Table.lookup_map,typed] at first
  cases first
  obtain ⟨listed,is⟩ := Option.ite_none_right_eq_some.mp names
  cases is
  have given : (Json.readMembers reading fields).map (·.1) = fields.map (·.1) := by
    rw [Json.readMembers_map,List.map_map]
    rfl
  refine ⟨rfl,by simpa using listed,fun name member => ?_,fun name other => ?_⟩
  · rcases List.mem_cons.mp member with rfl | member
    · rw [← given,← count_names]
      exact Nat.le_of_eq (beq_iff_eq.mp one)
    · obtain ⟨field,inside,rfl⟩ := List.mem_map.mp member
      by_cases tag : field.name = "type"
      · rw [tag,← given,← count_names]
        exact Nat.le_of_eq (beq_iff_eq.mp one)
      · have few := of_decide_eq_true (List.all_eq_true.mp counts field inside)
        rwa [count_filter tag,count_names,given] at few
  · rw [Fields.json?,Table.lookup_filter other,Json.readMembers_map,Table.lookup_map,Option.map_map]
    exact (congrArg (Option.map · _) (funext read_json)).trans Option.map_id'

def Written (fields : List (String × Json)) (kind : String) (a : Aggregation) : Prop :=
  ∃ parts, a.toJson = .obj parts ∧ parts.map (·.1) = members kind ∧
    ∀ part ∈ parts, List.lookup part.1 fields = some part.2

theorem field_named {aggregator : FieldAggregator}
    (parsed : FieldAggregator.parse? kind = some aggregator) :
    aggregator.name = kind ∧ ["type","name","fieldName"] = members kind := by
  unfold FieldAggregator.parse? at parsed
  split at parsed <;> cases parsed <;> exact ⟨rfl,rfl⟩

theorem written {a : Aggregation} (typed : List.lookup "type" fields = some (.str kind))
    (flat : kind ≠ "filtered") (reads : ofParts? (.members (Json.readMembers reading fields)) = some a) :
    kind ∈ kinds ∧ (∀ name ∈ members kind, (fields.map (·.1)).count name ≤ 1) ∧
      Written fields kind a := by
  obtain ⟨⟨other,found⟩,tags,reads⟩ := Option.bind_eq_some_iff.mp reads
  obtain ⟨rfl,tagged⟩ := tagged typed tags
  refine ⟨tagged.known,tagged.once,?_⟩
  obtain ⟨name,named,reads⟩ := Option.bind_eq_some_iff.mp reads
  have need {α : Type} {member : String} {decode : Json → Option α} {value : α}
      (reads : found.need member decode = some value) (other : member ≠ "type") :
      ∃ j, List.lookup member fields = some j ∧ decode j = some value := by
    rw [Fields.need,tagged.same member other] at reads
    exact Option.bind_eq_some_iff.mp reads
  have text {member s : String} (reads : found.need member Json.str? = some s)
      (other : member ≠ "type") : List.lookup member fields = some (.str s) := by
    obtain ⟨j,stands,is⟩ := need reads other
    rwa [str_some is] at stands
  have texts {member : String} {items : List String}
      (reads : found.need member strings? = some items) (other : member ≠ "type") :
      List.lookup member fields = some (Json.ofStrings items) := by
    obtain ⟨j,stands,is⟩ := need reads other
    rwa [strings_some is] at stands
  have called := text named (by decide)
  split at reads
  · cases reads
    exact ⟨_,rfl,rfl,by simp [typed,called]⟩
  · obtain ⟨fieldNames,columns,reads⟩ := Option.bind_eq_some_iff.mp reads
    obtain ⟨byRow,rows,reads⟩ := Option.bind_eq_some_iff.mp reads
    cases reads
    obtain ⟨j,flag,is⟩ := need rows (by decide)
    rw [bool_some is] at flag
    exact ⟨_,rfl,rfl,by simp [typed,called,texts columns (by decide),flag]⟩
  · obtain ⟨fieldNames,columns,reads⟩ := Option.bind_eq_some_iff.mp reads
    obtain ⟨aggregate,first,reads⟩ := Option.bind_eq_some_iff.mp reads
    obtain ⟨combine,second,reads⟩ := Option.bind_eq_some_iff.mp reads
    obtain ⟨reset,third,reads⟩ := Option.bind_eq_some_iff.mp reads
    cases reads
    exact ⟨_,rfl,rfl,by simp [typed,called,texts columns (by decide),text first (by decide),
      text second (by decide),text third (by decide)]⟩
  · exact (flat rfl).elim
  · obtain ⟨aggregator,parsed,reads⟩ := Option.bind_eq_some_iff.mp reads
    obtain ⟨fieldName,column,reads⟩ := Option.bind_eq_some_iff.mp reads
    cases reads
    obtain ⟨rfl,named⟩ := field_named parsed
    exact ⟨_,rfl,named,by simp [typed,called,text column (by decide)]⟩

theorem ordered_kept {parts : List (String × Json)} (distinct : (parts.map (·.1)).Nodup)
    (few : ∀ part ∈ parts, (fields.map (·.1)).count part.1 ≤ 1)
    (stand : ∀ part ∈ parts, List.lookup part.1 fields = some part.2) :
    (Json.obj parts).ordered = (Json.obj fields).ordered ↔
      ∀ name ∈ fields.map (·.1), name ∈ parts.map (·.1) := by
  have names (entries : List (String × Json)) :
      (entries.map fun entry => (entry.1,entry.2.ordered)).map (·.1) = entries.map (·.1) := by
    rw [List.map_map]
    rfl
  rw [Json.ordered,Json.ordered,orderedFields_map,orderedFields_map]
  constructor
  · intro same name listed
    have table := Json.obj.inj same
    rw [← names,← Table.names_ofList] at listed ⊢
    rwa [table]
  · intro named
    have once : (fields.map (·.1)).Nodup := by
      refine List.nodup_iff_count_le_one.mpr fun name => ?_
      by_cases listed : name ∈ fields.map (·.1)
      · obtain ⟨part,member,rfl⟩ := List.mem_map.mp (named name listed)
        exact few part member
      · rw [List.count_eq_zero.mpr listed]
        exact Nat.zero_le 1
    have moved := (Table.perm_of_lookup distinct once stand named).map
      fun entry => (entry.1,entry.2.ordered)
    rw [Table.ofList_congr (by rwa [names]) moved]

-- One that names a native kind is the same JSON after it was read exactly if it is not read as a
-- native one, or has no members but those of the kind. A native filter around another aggregator
-- is apart: it has its parts read again as well.
theorem custom_kept_iff (typed : List.lookup "type" fields = some (.str kind))
    (flat : kind ≠ "filtered") : (custom (.obj fields)).Kept ↔
      ofParts? (.members (Json.readMembers reading fields)) = none ∨
        ∀ name ∈ fields.map (·.1), name ∈ members kind := by
  have again : (custom (.obj fields)).reread
      = (ofParts? (.members (Json.readMembers reading fields))).getD (.custom (.obj fields)) := rfl
  rw [Kept,again]
  cases reads : ofParts? (.members (Json.readMembers reading fields)) with
  | none => simp
  | some a =>
      obtain ⟨known,few,parts,is,names,stand⟩ := written typed flat reads
      have exactly := ordered_kept (names ▸ members_distinct known)
        (fun part listed => few _ (names ▸ List.mem_map_of_mem listed)) stand
      rw [Option.getD_some,is,← names]
      exact exactly.trans (by simp)

theorem foreign_unread (typed : List.lookup "type" fields = some (.str kind))
    (foreign : kind ∉ kinds) : ofParts? (.members (Json.readMembers reading fields)) = none := by
  refine Option.eq_none_iff_forall_ne_some.mpr fun a reads => foreign ?_
  obtain ⟨⟨_,_⟩,tags,-⟩ := Option.bind_eq_some_iff.mp reads
  exact (tagged typed tags).2.known

end Aggregation

end OlapQuery.Druid
