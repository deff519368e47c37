import OlapQuery.Proofs.JsonLiterals
import OlapQuery.Proofs.LetterCodes
import OlapQuery.Settings

-- Texts with variables. A text is cut into characters and the names of variables, the same for every
-- environment, and expanding it puts the values in their places.

namespace OlapQuery.Environment

inductive Piece where
  | char (c : Char)
  | reference (name : String)

namespace Piece

def name? : Piece → Option String
  | .char _ => none
  | .reference name => some name

def text (env : Environment) : Piece → List Char
  | .char c => [c]
  | .reference name => ((env.get? name).getD "").toList

end Piece

namespace Place

-- The pieces that a character completes, and the place after it.
def step (c : Char) : Place → List Piece × Place
  | .plain => ((outsideText c).map .char,outside c)
  | .dollar =>
      if c.toNat == 0x7B then ([],.braces [])
      else if isNameChar c then ([],.name [c])
      else (.char '$' :: (outsideText c).map .char,outside c)
  | .braces letters =>
      if c.toNat == 0x7D then ([.reference (String.ofList letters.reverse)],.plain)
      else ([],.braces (c :: letters))
  | .name letters =>
      if isNameChar c then ([],.name (c :: letters))
      else (.reference (String.ofList letters.reverse) :: (outsideText c).map .char,outside c)

-- The pieces that the end completes. A name in braces must be closed.
def finish? : Place → Option (List Piece)
  | .plain => some []
  | .dollar => some [.char '$']
  | .braces _ => none
  | .name letters => some [.reference (String.ofList letters.reverse)]

end Place

def cutFrom (place : Place) : List Char → Option (List Piece)
  | [] => place.finish?
  | c :: rest => (cutFrom (place.step c).2 rest).map ((place.step c).1 ++ ·)

section Steps

variable {env : Environment} {whole : String} {place : Place} {c : Char}

theorem outsideText_other (other : c ≠ '$') : outsideText c = [c] ∧ outside c = .plain := by
  simp [outsideText,outside,other]

theorem outsideText_text (env : Environment) (c : Char) :
    ((outsideText c).map Piece.char).flatMap (Piece.text env) = outsideText c := by
  unfold outsideText
  split <;> rfl

theorem outsideText_nameless (c : Char) : ((outsideText c).map Piece.char).filterMap Piece.name? = [] := by
  unfold outsideText
  split <;> rfl

theorem value_defined {name : List Char} (defined : (env.get? (String.ofList name.reverse)).isSome) :
    env.value name = .ok (Piece.text env (.reference (String.ofList name.reverse))) := by
  obtain ⟨value,found⟩ := Option.isSome_iff_exists.mp defined
  simp [Environment.value,Piece.text,found]

theorem variablesFrom_step (place : Place) (c : Char) (rest : List Char) :
    variablesFrom place (c :: rest) =
      (place.step c).1.filterMap Piece.name? ++ variablesFrom (place.step c).2 rest := by
  have chars := outsideText_nameless c
  cases place with
  | plain => simp [variablesFrom,Place.step,chars]
  | dollar =>
      rw [variablesFrom,Place.step]
      split
      · rfl
      · split
        · rfl
        · simp [Piece.name?]
  | braces name =>
      rw [variablesFrom,Place.step]
      split <;> rfl
  | name name =>
      rw [variablesFrom,Place.step]
      split
      · rfl
      · simp [Piece.name?,chars]

theorem expandFrom_step (rest : List Char)
    (defined : ∀ name ∈ (place.step c).1.filterMap Piece.name?, (env.get? name).isSome) :
    expandFrom env whole place (c :: rest) =
      (expandFrom env whole (place.step c).2 rest).map
        ((place.step c).1.flatMap (Piece.text env) ++ ·) := by
  have chars := outsideText_text env c
  cases place with
  | plain =>
      rw [Place.step,chars]
      rfl
  | dollar =>
      rw [expandFrom,Place.step]
      split
      · cases expandFrom env whole (.braces []) rest <;> rfl
      · split
        · cases expandFrom env whole (.name [c]) rest <;> rfl
        · rw [List.flatMap_cons,chars]
          rfl
  | braces name =>
      rw [expandFrom]
      rw [Place.step] at defined ⊢
      split
      · rename_i close
        rw [if_pos close] at defined
        rw [value_defined (defined _ List.mem_cons_self),List.flatMap_singleton]
        rfl
      · cases expandFrom env whole (.braces (c :: name)) rest <;> rfl
  | name name =>
      rw [expandFrom]
      rw [Place.step] at defined ⊢
      split
      · cases expandFrom env whole (.name (c :: name)) rest <;> rfl
      · rename_i ended
        rw [if_neg ended] at defined
        rw [value_defined (defined _ List.mem_cons_self),List.flatMap_cons,chars]
        rfl

theorem step_char {d : Char} (listed : .char d ∈ (place.step c).1) : d = c ∨ d = '$' := by
  have outsides (inside : Piece.char d ∈ (outsideText c).map Piece.char) : d = c := by
    unfold outsideText at inside
    split at inside
    · cases inside
    · simpa using inside
  cases place with
  | plain => exact .inl (outsides listed)
  | dollar =>
      rw [Place.step] at listed
      split at listed
      · cases listed
      · split at listed
        · cases listed
        · rcases List.mem_cons.mp listed with same | inside
          · exact .inr (Piece.char.inj same)
          · exact .inl (outsides inside)
  | braces name =>
      rw [Place.step] at listed
      split at listed
      · simp at listed
      · cases listed
  | name name =>
      rw [Place.step] at listed
      split at listed
      · cases listed
      · rcases List.mem_cons.mp listed with same | inside
        · cases same
        · exact .inl (outsides inside)

-- A mark ends a name, unless the name is in braces.
theorem step_mark {pieces : List Piece} (finished : place.finish? = some pieces) :
    place.step '"' = (pieces ++ [.char '"'],.plain) := by
  have ends : isNameChar '"' = false := by
    rw [isNameChar,Text.not_alphanumeric (by decide)]
    rfl
  cases place with
  | plain => cases finished; rfl
  | dollar =>
      cases finished
      simp only [Place.step,ends]
      rfl
  | braces name => cases finished
  | name name =>
      cases finished
      simp only [Place.step,ends]
      rfl

end Steps

section Texts

variable {env : Environment} {whole : String} {place : Place} {cs : List Char} {pieces : List Piece}

theorem cutFrom_more {c : Char} {rest : List Char} (cut : cutFrom place (c :: rest) = some pieces) :
    ∃ others, cutFrom (place.step c).2 rest = some others ∧ pieces = (place.step c).1 ++ others := by
  obtain ⟨others,cuts,same⟩ := Option.map_eq_some_iff.mp cut
  exact ⟨others,cuts,same.symm⟩

theorem variablesFrom_pieces (cut : cutFrom place cs = some pieces) :
    variablesFrom place cs = pieces.filterMap Piece.name? := by
  induction cs generalizing place pieces with
  | nil => cases place <;> cases cut <;> rfl
  | cons c rest ih =>
      obtain ⟨others,cuts,rfl⟩ := cutFrom_more cut
      rw [variablesFrom_step,ih cuts,List.filterMap_append]

def Defined (env : Environment) (names : List String) : Prop :=
  ∀ name ∈ names, (env.get? name).isSome

theorem Defined.step {c : Char} {rest : List Char}
    (defined : Defined env (variablesFrom place (c :: rest))) :
    Defined env ((place.step c).1.filterMap Piece.name?) ∧
      Defined env (variablesFrom (place.step c).2 rest) := by
  rw [variablesFrom_step] at defined
  exact List.forall_mem_append.mp defined

theorem expandFrom_pieces (cut : cutFrom place cs = some pieces)
    (defined : Defined env (variablesFrom place cs)) :
    expandFrom env whole place cs = .ok (pieces.flatMap (Piece.text env)) := by
  induction cs generalizing place pieces with
  | nil =>
      cases place with
      | plain => cases cut; rfl
      | dollar => cases cut; rfl
      | braces name => cases cut
      | name name =>
          cases cut
          rw [expandFrom,value_defined (defined _ List.mem_cons_self),List.flatMap_singleton]
  | cons c rest ih =>
      obtain ⟨others,cuts,rfl⟩ := cutFrom_more cut
      rw [expandFrom_step rest defined.step.1,ih cuts defined.step.2,List.flatMap_append]
      rfl

theorem cutFrom_mark (cut : cutFrom place cs = some pieces) (rest : List Char) :
    cutFrom place (cs ++ '"' :: rest) =
      (cutFrom .plain rest).map fun others => pieces ++ .char '"' :: others := by
  induction cs generalizing place pieces with
  | nil =>
      rw [List.nil_append,cutFrom,step_mark cut]
      simp
  | cons c more ih =>
      obtain ⟨others,cuts,rfl⟩ := cutFrom_more cut
      rw [List.cons_append,cutFrom,ih cuts,Option.map_map]
      congr 1
      funext later
      exact (List.append_assoc ..).symm

theorem cutFrom_char {c : Char} (dollarless : c ≠ '$') (rest : List Char) :
    cutFrom .plain (c :: rest) = (cutFrom .plain rest).map (.char c :: ·) := by
  obtain ⟨text,after⟩ := outsideText_other dollarless
  rw [cutFrom,Place.step,text,after]
  rfl

theorem cutFrom_dollarless (dollarless : '$' ∉ cs) : cutFrom .plain cs = some (cs.map .char) := by
  induction cs with
  | nil => rfl
  | cons c rest ih =>
      have other : c ≠ '$' := fun is => dollarless (is ▸ List.mem_cons_self)
      rw [cutFrom_char other,ih fun later => dollarless (List.mem_cons_of_mem _ later)]
      rfl

theorem pieces_chars (cut : cutFrom place cs = some pieces) {c : Char} (listed : .char c ∈ pieces) :
    c ∈ cs ∨ c = '$' := by
  induction cs generalizing place pieces with
  | nil => cases place <;> cases cut <;> simp_all
  | cons d rest ih =>
      obtain ⟨others,cuts,rfl⟩ := cutFrom_more cut
      rcases List.mem_append.mp listed with here | later
      · rcases step_char here with rfl | dollar
        · exact .inl List.mem_cons_self
        · exact .inr dollar
      · exact (ih cuts later).imp_left (List.mem_cons_of_mem _)

-- The values can stand between the marks of a text as they are.
def PlainValues (env : Environment) (names : List String) : Prop :=
  ∀ name ∈ names, ∀ value, env.get? name = some value → ∀ c ∈ value.toList, Json.Plain c

theorem plain_pieces (cut : cutFrom place cs = some pieces) (plain : ∀ c ∈ cs, Json.Plain c) :
    (∀ c ∈ pieces.flatMap (Piece.text env), Json.Plain c) ↔
      PlainValues env (variablesFrom place cs) := by
  rw [variablesFrom_pieces cut]
  constructor
  · intro all name used value is c inside
    obtain ⟨piece,listed,named⟩ := List.mem_filterMap.mp used
    cases piece with
    | char c => cases named
    | reference name =>
        cases named
        refine all c (List.mem_flatMap.mpr ⟨_,listed,?_⟩)
        rw [Piece.text,is]
        exact inside
  · intro values c inside
    obtain ⟨piece,listed,inside⟩ := List.mem_flatMap.mp inside
    cases piece with
    | char d =>
        obtain rfl := List.mem_singleton.mp inside
        rcases pieces_chars cut listed with written | rfl
        · exact plain c written
        · exact ⟨by decide,by decide,by decide⟩
    | reference name =>
        have used : name ∈ pieces.filterMap Piece.name? := List.mem_filterMap.mpr ⟨_,listed,rfl⟩
        rw [Piece.text] at inside
        cases found : env.get? name with
        | none => rw [found] at inside; cases inside
        | some value =>
            rw [found] at inside
            exact values name used value found c inside

-- The text with its variables expanded. A text that cannot be expanded stays.
def expanded (env : Environment) (text : String) : String :=
  match env.expand text with
  | .ok value => value
  | .error _ => text

theorem expanded_ok {text value : String} (expands : env.expand text = .ok value) :
    env.expanded text = value := by
  rw [expanded,expands]

theorem expand_pieces {text : String} (cut : cutFrom .plain text.toList = some pieces)
    (defined : Defined env (variableNames text)) :
    env.expand text = .ok (String.ofList (pieces.flatMap (Piece.text env))) := by
  rw [expand,expandFrom_pieces cut defined]
  rfl

theorem expand_dollarless (env : Environment) {text : String} (dollarless : '$' ∉ text.toList) :
    env.expand text = .ok text ∧ variableNames text = [] := by
  have cut := cutFrom_dollarless dollarless
  have nameless : variableNames text = [] := by
    rw [variableNames,variablesFrom_pieces cut]
    exact List.filterMap_eq_nil_iff.mpr (by simp [Piece.name?])
  refine ⟨?_,nameless⟩
  rw [expand_pieces cut (by rw [nameless]; exact nofun)]
  simp [List.flatMap_map,Piece.text]

end Texts

section Values

variable {env : Environment}

mutual
theorem expandJson_texts : ∀ j : Json, (∀ s ∈ j.texts, env.expand s = .ok (env.expanded s)) →
    env.expandJson j = .ok (j.mapTexts env.expanded)
  | .null,_ => rfl
  | .bool _,_ => rfl
  | .int _,_ => rfl
  | .float _,_ => rfl
  | .str s,each => by
      rw [expandJson,each s List.mem_cons_self]
      rfl
  | .arr items,each => by
      rw [expandJson,expandItems_texts items each]
      rfl
  | .obj fields,each => by
      rw [expandJson,expandFields_texts fields each]
      rfl

theorem expandItems_texts : ∀ items : List Json,
    (∀ s ∈ Json.itemTexts items, env.expand s = .ok (env.expanded s)) →
    env.expandItems items = .ok (Json.mapItems id env.expanded items)
  | [],_ => rfl
  | j :: rest,each => by
      obtain ⟨first,others⟩ := List.forall_mem_append.mp each
      rw [expandItems,expandJson_texts j first,expandItems_texts rest others]
      rfl

theorem expandFields_texts : ∀ fields : List (String × Json),
    (∀ s ∈ Json.fieldTexts fields, env.expand s = .ok (env.expanded s)) →
    env.expandFields fields = .ok (Json.mapFields id env.expanded fields)
  | [],_ => rfl
  | (name,j) :: rest,each => by
      obtain ⟨first,others⟩ := List.forall_mem_append.mp each
      rw [expandFields,expandJson_texts j first,expandFields_texts rest others]
      rfl
end

mutual
theorem jsonVariables_texts : ∀ j : Json, jsonVariables j = j.texts.flatMap variableNames
  | .null => rfl
  | .bool _ => rfl
  | .int _ => rfl
  | .float _ => rfl
  | .str _ => (List.flatMap_singleton ..).symm
  | .arr items => itemVariables_texts items
  | .obj fields => fieldVariables_texts fields

theorem itemVariables_texts : ∀ items : List Json,
    itemVariables items = (Json.itemTexts items).flatMap variableNames
  | [] => rfl
  | j :: rest => by
      rw [itemVariables,Json.itemTexts,List.flatMap_append,jsonVariables_texts j,
        itemVariables_texts rest]

theorem fieldVariables_texts : ∀ fields : List (String × Json),
    fieldVariables fields = (Json.fieldTexts fields).flatMap variableNames
  | [] => rfl
  | (_,j) :: rest => by
      rw [fieldVariables,Json.fieldTexts,List.flatMap_append,jsonVariables_texts j,
        fieldVariables_texts rest]
end

end Values

end OlapQuery.Environment
