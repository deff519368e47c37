import Mathlib.Data.List.Nodup
import Mathlib.Data.List.Perm.Basic
import OlapQuery.Table

-- Tables: what stands in a table after an entry was put into it, and the order of their names.

namespace OlapQuery.Table

variable {α : Type u}

theorem lookup_mem {fields : List (String × α)} {name : String} {a : α}
    (found : List.lookup name fields = some a) : (name,a) ∈ fields := by
  obtain ⟨_,_,rfl,-⟩ := List.lookup_eq_some_iff.mp found
  exact List.mem_append_right _ List.mem_cons_self

theorem mem_lookup {fields : List (String × α)} (distinct : (fields.map (·.1)).Nodup)
    {name : String} {a : α} (listed : (name,a) ∈ fields) : List.lookup name fields = some a := by
  obtain ⟨before,after,rfl⟩ := List.append_of_mem listed
  refine List.lookup_eq_some_iff.mpr ⟨before,after,rfl,fun field earlier => bne_iff_ne.mpr ?_⟩
  rw [List.map_append,List.map_cons] at distinct
  exact fun same => (List.nodup_append.mp distinct).2.2 _ (List.mem_map_of_mem earlier) _
    List.mem_cons_self same.symm

theorem lookup_read {β : Type v} (read : String → α → β) (fields : List (String × α))
    (name : String) :
    List.lookup name (fields.map fun field => (field.1,read field.1 field.2))
      = (List.lookup name fields).map (read name) := by
  induction fields with
  | nil => rfl
  | cons field rest ih =>
      rw [List.map_cons,List.lookup_cons,List.lookup_cons]
      cases here : name == field.1 with
      | true => rw [beq_iff_eq.mp here]; rfl
      | false => exact ih

theorem lookup_map {β : Type v} (f : α → β) (fields : List (String × α)) (name : String) :
    List.lookup name (fields.map fun field => (field.1,f field.2))
      = (List.lookup name fields).map f :=
  lookup_read (fun _ => f) fields name

theorem lookup_kept (keep : String → Bool) (fields : List (String × α)) (name : String) :
    List.lookup name (fields.filter fun field => keep field.1)
      = if keep name then List.lookup name fields else none := by
  induction fields with
  | nil => simp
  | cons field rest ih =>
      rw [List.filter_cons,List.lookup_cons]
      cases here : name == field.1 with
      | true =>
          rw [← beq_iff_eq.mp here]
          cases kept : keep name with
          | true => rw [if_pos rfl,List.lookup_cons,here]; rfl
          | false => rw [if_neg (by simp),ih,kept]; rfl
      | false =>
          split
          · rw [List.lookup_cons,here,ih]
          · exact ih

theorem lookup_filter {tag name : String} (other : name ≠ tag) (fields : List (String × α)) :
    List.lookup name (fields.filter (fun field => field.1 != tag)) = List.lookup name fields :=
  (lookup_kept (· != tag) fields name).trans (if_pos (by simpa using other))

theorem get_erase (erased name : String) (table : Table α) :
    (table.erase erased).get? name = if name = erased then none else table.get? name := by
  refine (lookup_kept (· != erased) table name).trans ?_
  by_cases same : name = erased <;> simp [same,get?]

theorem get_cons (name other : String) (value : α) (rest : Table α) :
    get? ((name,value) :: rest) other = if other = name then some value else rest.get? other := by
  by_cases same : other = name
  · simp [get?,same]
  · have different : (other == name) = false := by simpa using same
    simp [get?,List.lookup_cons,same,different]

theorem get_insert (name other : String) (value : α) (table : Table α) :
    (insert name value table).get? other
      = if other = name then some value else table.get? other := by
  induction table with
  | nil => exact get_cons name other value []
  | cons entry rest ih =>
      obtain ⟨key,old⟩ := entry
      unfold insert
      split
      · rename_i taken
        cases beq_iff_eq.mp taken
        by_cases same : other = name <;> simp [get_cons,same]
      · rename_i free
        split
        · rw [get_cons]
        · rw [get_cons,get_cons,ih]
          by_cases same : other = key
          · have different : key ≠ name := fun equal => free (by simp [equal])
            simp [same,different]
          · simp [same]

theorem mem_insert {name : String} {value : α} {table : Table α} {entry : String × α}
    (listed : entry ∈ table.insert name value) : entry = (name,value) ∨ entry ∈ table := by
  induction table with
  | nil => exact .inl (List.mem_singleton.mp listed)
  | cons other rest ih =>
      unfold Table.insert at listed
      grind

theorem names_insert (name : String) (value : α) (table : Table α) (other : String) :
    other ∈ (insert name value table).names ↔ other = name ∨ other ∈ table.names := by
  induction table with
  | nil => simp [insert,names]
  | cons entry rest ih =>
      obtain ⟨key,old⟩ := entry
      simp only [names,List.map_cons,List.mem_cons] at ih ⊢
      unfold insert
      split
      · rename_i taken
        cases beq_iff_eq.mp taken
        simp
      · split
        · simp
        · rw [List.map_cons,List.mem_cons,ih]
          exact or_left_comm

theorem insert_perm {name : String} {value : α} {table : Table α} (fresh : name ∉ table.names) :
    (insert name value table).Perm ((name,value) :: table) := by
  induction table with
  | nil => exact .refl _
  | cons entry rest ih =>
      obtain ⟨other,old⟩ := entry
      simp only [names,List.map_cons,List.mem_cons,not_or] at fresh
      unfold insert
      rw [if_neg (by simpa using fresh.1)]
      split
      · exact .refl _
      · exact ((ih fresh.2).cons _).trans (.swap _ _ _)

theorem ofList_perm {entries : List (String × α)} (distinct : (entries.map (·.1)).Nodup) :
    (ofList entries).Perm entries := by
  have run : ∀ table : Table α, (table.names ++ entries.map (·.1)).Nodup →
      (entries.foldl (fun table entry => insert entry.1 entry.2 table) table).Perm
        (table ++ entries) := by
    clear distinct
    induction entries with
    | nil => exact fun table _ => by simp
    | cons entry rest ih =>
        intro table distinct
        have fresh : entry.1 ∉ table.names := by
          intro known
          exact (List.nodup_append.mp distinct).2.2 _ known _ (by simp) rfl
        have grown : (insert entry.1 entry.2 table).Perm (entry :: table) := insert_perm fresh
        have moved : ((insert entry.1 entry.2 table).names ++ rest.map (·.1)).Perm
            (table.names ++ (entry :: rest).map (·.1)) :=
          ((grown.map (·.1)).append_right _).trans List.perm_middle.symm
        refine (ih _ (moved.nodup_iff.mpr distinct)).trans ?_
        exact (grown.append_right rest).trans List.perm_middle.symm
  exact run [] (by simpa [names] using distinct)

-- Each name once, in the order of the names.
def Ordered (table : Table α) : Prop :=
  table.Pairwise (fun a b => a.1 < b.1)

instance (table : Table α) : Decidable table.Ordered :=
  inferInstanceAs (Decidable (List.Pairwise _ _))

theorem Ordered.distinct {table : Table α} (ordered : table.Ordered) :
    (table.map (·.1)).Nodup := by
  refine List.pairwise_map.mpr (List.Pairwise.imp ?_ ordered)
  intro a b before same
  exact String.lt_irrefl _ (same ▸ before)

theorem insert_ordered (name : String) (value : α) {table : Table α} (ordered : table.Ordered) :
    (insert name value table).Ordered := by
  induction table with
  | nil => exact List.pairwise_singleton _ _
  | cons entry rest ih =>
      obtain ⟨other,old⟩ := entry
      obtain ⟨first,later⟩ := List.pairwise_cons.mp ordered
      unfold insert
      split
      · rename_i taken
        cases beq_iff_eq.mp taken
        exact List.pairwise_cons.mpr ⟨first,later⟩
      · rename_i free
        split
        · rename_i before
          refine List.pairwise_cons.mpr ⟨fun listed member => ?_,ordered⟩
          rcases List.mem_cons.mp member with rfl | behind
          · exact before
          · exact String.lt_trans before (first listed behind)
        · rename_i behind
          have after : other < name := by
            have apart : name ≠ other := by simpa using free
            exact Std.lt_of_le_of_ne (String.not_lt.mp behind) apart.symm
          refine List.pairwise_cons.mpr ⟨fun listed member => ?_,ih later⟩
          rcases mem_insert member with rfl | before
          · exact after
          · exact first listed before

theorem ofList_ordered (entries : List (String × α)) : (ofList entries).Ordered := by
  have run : ∀ table : Table α, table.Ordered →
      (entries.foldl (fun table entry => insert entry.1 entry.2 table) table).Ordered := by
    induction entries with
    | nil => exact fun _ ordered => ordered
    | cons entry rest ih => exact fun table ordered => ih _ (insert_ordered _ _ ordered)
  exact run [] List.Pairwise.nil

theorem mem_ofList {entries : List (String × α)} {entry : String × α}
    (listed : entry ∈ ofList entries) : entry ∈ entries := by
  have run : ∀ table : Table α,
      entry ∈ entries.foldl (fun table entry => insert entry.1 entry.2 table) table →
        entry ∈ table ∨ entry ∈ entries := by
    clear listed
    induction entries with
    | nil => exact fun _ listed => .inl listed
    | cons first rest ih =>
        intro table listed
        rcases ih _ listed with early | late
        · rcases mem_insert early with rfl | before
          · exact .inr List.mem_cons_self
          · exact .inl before
        · exact .inr (List.mem_cons_of_mem _ late)
  simpa using run [] listed

theorem names_ofList (entries : List (String × α)) (name : String) :
    name ∈ (ofList entries).names ↔ name ∈ entries.map (·.1) := by
  have run : ∀ table : Table α,
      name ∈ (entries.foldl (fun table entry => insert entry.1 entry.2 table) table).names ↔
        name ∈ table.names ∨ name ∈ entries.map (·.1) := by
    induction entries with
    | nil => simp
    | cons entry rest ih =>
        intro table
        rw [List.foldl_cons,ih,names_insert,List.map_cons,List.mem_cons]
        tauto
  exact (run []).trans (by simp [names])

theorem ofList_self {table : Table α} (ordered : table.Ordered) : ofList table = table :=
  (ofList_perm ordered.distinct).eq_of_pairwise
    (fun _ _ _ _ before behind => (String.lt_asymm before behind).elim)
    (ofList_ordered table) ordered

theorem ofList_congr {as bs : List (String × α)} (distinct : (as.map (·.1)).Nodup)
    (same : as.Perm bs) : ofList as = ofList bs :=
  (((ofList_perm distinct).trans same).trans
      (ofList_perm ((same.map _).nodup_iff.mp distinct)).symm).eq_of_pairwise
    (fun _ _ _ _ before behind => (String.lt_asymm before behind).elim)
    (ofList_ordered as) (ofList_ordered bs)

theorem perm_of_lookup {as bs : List (String × α)} (distinct : (as.map (·.1)).Nodup)
    (once : (bs.map (·.1)).Nodup) (found : ∀ a ∈ as, List.lookup a.1 bs = some a.2)
    (named : ∀ name ∈ bs.map (·.1), name ∈ as.map (·.1)) : as.Perm bs := by
  refine (List.perm_ext_iff_of_nodup distinct.of_map once.of_map).mpr fun entry => ?_
  constructor
  · exact fun listed => lookup_mem (found entry listed)
  · intro listed
    obtain ⟨a,member,same⟩ := List.mem_map.mp (named entry.1 (List.mem_map_of_mem listed))
    have value := (found a member).symm.trans (same ▸ mem_lookup once listed)
    have equal : a = entry := Prod.ext same (Option.some.inj value)
    exact equal ▸ member

theorem lookup_ofList {entries : List (String × α)} (distinct : (entries.map (·.1)).Nodup)
    (name : String) : List.lookup name (ofList entries) = List.lookup name entries := by
  have same := ofList_perm distinct
  cases found : List.lookup name entries with
  | some a => exact mem_lookup (ofList_ordered entries).distinct (same.mem_iff.mpr (lookup_mem found))
  | none =>
      refine List.lookup_eq_none_iff.mpr fun entry listed => ?_
      exact List.lookup_eq_none_iff.mp found entry (mem_ofList listed)

end OlapQuery.Table
