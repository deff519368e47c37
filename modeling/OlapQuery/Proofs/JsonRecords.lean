import OlapQuery.Json.Record
import OlapQuery.Proofs.Tables

-- Records in JSON: what is written with each name once is read as it was written, and what is
-- read comes from the parts that were given.

namespace OlapQuery.Json

-- JSON holds lists of JSON, which the plain induction does not reach into. This one gives the
-- property of every item of a list and of every member of an object.
@[elab_as_elim]
theorem structural {motive : Json → Prop} (null : motive .null) (bool : ∀ b, motive (.bool b))
    (int : ∀ n, motive (.int n)) (float : ∀ x, motive (.float x)) (str : ∀ s, motive (.str s))
    (arr : ∀ items, (∀ j ∈ items, motive j) → motive (.arr items))
    (obj : ∀ fields, (∀ field ∈ fields, motive field.2) → motive (.obj fields)) : ∀ j, motive j := by
  intro j
  apply @Json.rec motive (fun items => ∀ j ∈ items, motive j)
    (fun fields => ∀ field ∈ fields, motive field.2) (fun field => motive field.2)
    null bool int float str arr obj
  · exact List.forall_mem_nil _
  · exact fun _ _ first others => List.forall_mem_cons.mpr ⟨first,others⟩
  · exact List.forall_mem_nil _
  · exact fun _ _ first others => List.forall_mem_cons.mpr ⟨first,others⟩
  · exact fun _ _ holds => holds

section Lists

variable {α β : Type}

theorem mapM_some {f : α → Option β} {g : α → β} {as : List α} (each : ∀ a ∈ as, f a = some (g a)) :
    as.mapM f = some (as.map g) := by
  induction as with
  | nil => rfl
  | cons a rest ih =>
      rw [List.mapM_cons,each a List.mem_cons_self,
        ih fun b later => each b (List.mem_cons_of_mem _ later)]
      rfl

theorem mem_mapM {f : α → Option β} {as : List α} {bs : List β} (read : as.mapM f = some bs) :
    ∀ b ∈ bs, ∃ a ∈ as, f a = some b := by
  induction as generalizing bs with
  | nil => cases read; exact fun b listed => nomatch listed
  | cons a rest ih =>
      rw [List.mapM_cons] at read
      obtain ⟨first,is,read⟩ := Option.bind_eq_some_iff.mp read
      obtain ⟨others,are,read⟩ := Option.bind_eq_some_iff.mp read
      cases read
      intro b listed
      rcases List.mem_cons.mp listed with rfl | later
      · exact ⟨a,List.mem_cons_self,is⟩
      · obtain ⟨c,member,reads⟩ := ih are b later
        exact ⟨c,List.mem_cons_of_mem _ member,reads⟩

end Lists

section Words

theorem nat64_written (n : UInt64) : (Json.int n.toNat).nat64? = some n.toNat := by
  have most := n.toNat_lt
  have between : (0 : Int) ≤ n.toNat ∧ (n.toNat : Int) ≤ Word.max64 := by
    unfold Word.max64
    omega
  simp only [nat64?,intBetween?,if_pos between,Option.map_some,Int.toNat_natCast]

theorem int64_written (n : Int64) : (Json.int n.toInt).int64? = some n.toInt := by
  have least := n.le_toInt
  have most := n.toInt_lt
  have between : Word.minInt64 ≤ n.toInt ∧ n.toInt ≤ Word.maxInt64 := by
    unfold Word.minInt64 Word.maxInt64
    omega
  simp only [int64?,intBetween?,if_pos between]

theorem int32_written (n : Int32) : (Json.int n.toInt).int32? = some n.toInt := by
  have least := n.le_toInt
  have most := n.toInt_lt
  have between : Word.minInt32 ≤ n.toInt ∧ n.toInt ≤ Word.maxInt32 := by
    unfold Word.minInt32 Word.maxInt32
    omega
  simp only [int32?,intBetween?,if_pos between]

end Words

section Members

def given (members : List (String × Option Json)) : List (String × Json) :=
  members.filterMap fun member => member.2.map fun j => (member.1,j)

theorem ofMembers_given (members : List (String × Option Json)) :
    ofMembers members = .obj (given members) := rfl

theorem given_names (members : List (String × Option Json)) :
    ((given members).map (·.1)).Sublist (members.map (·.1)) := by
  induction members with
  | nil => exact .slnil
  | cons member rest ih =>
      obtain ⟨name,j⟩ := member
      cases j with
      | none => exact ih.cons _
      | some j => exact ih.cons_cons _

theorem lookup_given {members : List (String × Option Json)} (distinct : (members.map (·.1)).Nodup)
    (name : String) :
    List.lookup name (given members) = (List.lookup name members).bind id := by
  induction members with
  | nil => rfl
  | cons member rest ih =>
      obtain ⟨other,j⟩ := member
      obtain ⟨apart,once⟩ := List.nodup_cons.mp distinct
      by_cases same : name = other
      · subst same
        cases j with
        | none =>
            have unlisted : List.lookup name (given rest) = none := by
              refine List.lookup_eq_none_iff.mpr fun member listed => ?_
              have inside := (given_names rest).subset (List.mem_map_of_mem listed)
              exact bne_iff_ne.mpr fun same => apart (same ▸ inside)
            simpa [given] using unlisted
        | some j => simp [given]
      · have other : (name == other) = false := by simpa using same
        rw [List.lookup_cons,other]
        cases j with
        | none => exact ih once
        | some j =>
            refine Eq.trans ?_ (ih once)
            simp [given,List.lookup_cons,other]

end Members

namespace Parts

variable {α : Type} {P : α → Prop}

theorem count_le_one {given : List (String × α)} (distinct : (given.map (·.1)).Nodup)
    (name : String) : count given name ≤ 1 := by
  have counted : count given name = (given.map (·.1)).count name := by
    rw [count,List.count_eq_countP,List.countP_map,List.countP_eq_length_filter]
    rfl
  rw [counted]
  exact List.nodup_iff_count_le_one.mp distinct name

theorem fields_members {given : List (String × α)} (distinct : (given.map (·.1)).Nodup)
    (origin : Origin) (shape : Shape) : (members given).fields? origin shape = some given :=
  if_pos (List.all_eq_true.mpr fun field _ => decide_eq_true (count_le_one distinct field.name))

theorem tagged_members {tag : String} (kind : α) {given : List (String × α)}
    (apart : tag ∉ given.map (·.1)) :
    (members ((tag,kind) :: given)).tagged? tag = some (kind,members given) := by
  have others : ∀ member ∈ given, member.1 ≠ tag := fun member listed same =>
    apart (List.mem_map.mpr ⟨member,listed,same⟩)
  have none : given.filter (fun member => member.1 == tag) = [] :=
    List.filter_eq_nil_iff.mpr fun member listed => by simpa using others member listed
  have all : given.filter (fun member => member.1 != tag) = given :=
    List.filter_eq_self.mpr fun member listed => by simpa using others member listed
  simp [tagged?,count,none,all]

def map {β : Type} (g : α → β) : Parts α → Parts β
  | .members given => .members (given.map fun member => (member.1,g member.2))
  | .items given => .items (given.map g)

theorem map_map {β γ : Type} (g : α → β) (h : β → γ) (parts : Parts α) :
    (parts.map g).map h = parts.map fun a => h (g a) := by
  cases parts <;> simp [map]

def Each (P : α → Prop) : Parts α → Prop
  | .members given => ∀ member ∈ given, P member.2
  | .items given => ∀ item ∈ given, P item

theorem Each.fields {parts : Parts α} (each : parts.Each P) {origin : Origin} {shape : Shape}
    {fields : List (String × α)} (read : parts.fields? origin shape = some fields) :
    ∀ field ∈ fields, P field.2 := by
  cases parts with
  | members given =>
      obtain ⟨-,is⟩ := Option.ite_none_right_eq_some.mp read
      cases is
      exact each
  | items given =>
      obtain ⟨-,read⟩ := Option.ite_none_left_eq_some.mp read
      obtain ⟨-,is⟩ := Option.ite_none_right_eq_some.mp read
      cases is
      exact fun field listed => each _ (List.of_mem_zip listed).2

theorem Each.found {parts : Parts α} (each : parts.Each P) {origin : Origin} {shape : Shape}
    {fields : List (String × α)} (read : parts.fields? origin shape = some fields) {name : String}
    {a : α} (found : List.lookup name fields = some a) : P a :=
  each.fields read _ (Table.lookup_mem found)

theorem Each.tagged {parts rest : Parts α} (each : parts.Each P) {tag : String} {kind : α}
    (read : parts.tagged? tag = some (kind,rest)) : P kind ∧ rest.Each P := by
  cases parts with
  | members given =>
      obtain ⟨-,read⟩ := Option.ite_none_right_eq_some.mp read
      obtain ⟨_,found,is⟩ := Option.map_eq_some_iff.mp read
      cases is
      exact ⟨each _ (Table.lookup_mem found),fun member kept => each member (List.mem_filter.mp kept).1⟩
  | items given =>
      cases given with
      | nil => cases read
      | cons first more =>
          cases read
          exact List.forall_mem_cons.mp each

theorem Each.map {β : Type} {g : α → β} {Q : β → Prop} {parts : Parts α}
    (each : parts.Each fun a => Q (g a)) : (parts.map g).Each Q := by
  cases parts <;> exact List.forall_mem_map.mpr each

end Parts

-- The induction over the parts of a piece, whichever they are.
@[elab_as_elim]
theorem parts_induction {motive : Json → Prop}
    (step : ∀ j, (∀ parts, j.parts? = some parts → parts.Each motive) → motive j) (j : Json) :
    motive j := by
  induction j using structural with
  | arr items ih =>
      refine step _ fun parts are => ?_
      cases are
      exact ih
  | obj fields ih =>
      refine step _ fun parts are => ?_
      cases are
      exact ih
  | _ => exact step _ nofun

section Readings

variable {α β : Type} {make : Json → Option (Parts α) → α}

@[simp] theorem readItems_map (items : List Json) :
    readItems make items = items.map (readBy make) := by
  induction items with
  | nil => rfl
  | cons j rest ih => rw [readItems,ih,List.map_cons]

@[simp] theorem readMembers_map (fields : List (String × Json)) :
    readMembers make fields = fields.map fun field => (field.1,readBy make field.2) := by
  induction fields with
  | nil => rfl
  | cons field rest ih => rw [readMembers,ih,List.map_cons]

theorem readBy_keeps {f : α → β} {g : Json → β} (keeps : ∀ j parts, f (make j parts) = g j)
    (j : Json) : f (readBy make j) = g j := by
  cases j <;> exact keeps _ _

theorem readBy_parts (j : Json) :
    readBy make j = make j (j.parts?.map (Parts.map (readBy make))) := by
  cases j with
  | arr items => rw [readBy,readItems_map]; rfl
  | obj fields => rw [readBy,readMembers_map]; rfl
  | _ => rfl

theorem readBy_each {P : α → Prop}
    (made : ∀ j parts, (∀ given, parts = some given → given.Each P) → P (make j parts)) (j : Json) :
    P (readBy make j) := by
  induction j using parts_induction with
  | step j each =>
      rw [readBy_parts]
      refine made _ _ fun given is => ?_
      obtain ⟨parts,are,rfl⟩ := Option.map_eq_some_iff.mp is
      exact (each parts are).map

end Readings

end OlapQuery.Json
