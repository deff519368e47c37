import OlapQuery.Json.Parser

-- The texts of JSON. A value is read from its own tokens and from no others, and changing the texts
-- of the tokens changes those of the value.

namespace OlapQuery.Json

section Texts

-- Changes the names of members and the texts everywhere else.
mutual
def mapStrings (name text : String → String) : Json → Json
  | .str s => .str (text s)
  | .arr items => .arr (mapItems name text items)
  | .obj fields => .obj (mapFields name text fields)
  | other => other

def mapItems (name text : String → String) : List Json → List Json
  | [] => []
  | j :: rest => mapStrings name text j :: mapItems name text rest

def mapFields (name text : String → String) : List (String × Json) → List (String × Json)
  | [] => []
  | (member,j) :: rest => (name member,mapStrings name text j) :: mapFields name text rest
end

-- Changes the texts, but not the names of members.
def mapTexts (text : String → String) (j : Json) : Json :=
  j.mapStrings id text

-- All texts but the names of members.
mutual
def texts : Json → List String
  | .str s => [s]
  | .arr items => itemTexts items
  | .obj fields => fieldTexts fields
  | _ => []

def itemTexts : List Json → List String
  | [] => []
  | j :: rest => texts j ++ itemTexts rest

def fieldTexts : List (String × Json) → List String
  | [] => []
  | (_,j) :: rest => texts j ++ fieldTexts rest
end

mutual
def memberNames : Json → List String
  | .arr items => itemNames items
  | .obj fields => fieldNames fields
  | _ => []

def itemNames : List Json → List String
  | [] => []
  | j :: rest => memberNames j ++ itemNames rest

def fieldNames : List (String × Json) → List String
  | [] => []
  | (name,j) :: rest => name :: (memberNames j ++ fieldNames rest)
end

variable {name name' text text' : String → String}

@[simp] theorem mapItems_map (items : List Json) :
    mapItems name text items = items.map (mapStrings name text) := by
  induction items with
  | nil => rfl
  | cons j rest ih => rw [mapItems,ih,List.map_cons]

@[simp] theorem mapFields_map (fields : List (String × Json)) :
    mapFields name text fields =
      fields.map fun member => (name member.1,member.2.mapStrings name text) := by
  induction fields with
  | nil => rfl
  | cons member rest ih => rw [mapFields,ih,List.map_cons]

mutual
theorem mapStrings_congr : ∀ j : Json, (∀ s ∈ j.memberNames, name s = name' s) →
    (∀ s ∈ j.texts, text s = text' s) → j.mapStrings name text = j.mapStrings name' text'
  | .null,_,_ => rfl
  | .bool _,_,_ => rfl
  | .int _,_,_ => rfl
  | .float _,_,_ => rfl
  | .str s,_,same => congrArg Json.str (same s List.mem_cons_self)
  | .arr items,named,same => congrArg Json.arr (mapItems_congr items named same)
  | .obj fields,named,same => congrArg Json.obj (mapFields_congr fields named same)

theorem mapItems_congr : ∀ items : List Json, (∀ s ∈ itemNames items, name s = name' s) →
    (∀ s ∈ itemTexts items, text s = text' s) →
    mapItems name text items = mapItems name' text' items
  | [],_,_ => rfl
  | j :: rest,named,same => by
      have first := mapStrings_congr j (fun s inside => named s (List.mem_append_left _ inside))
        fun s inside => same s (List.mem_append_left _ inside)
      have others := mapItems_congr rest (fun s inside => named s (List.mem_append_right _ inside))
        fun s inside => same s (List.mem_append_right _ inside)
      rw [mapItems,mapItems,first,others]

theorem mapFields_congr : ∀ fields : List (String × Json),
    (∀ s ∈ fieldNames fields, name s = name' s) → (∀ s ∈ fieldTexts fields, text s = text' s) →
    mapFields name text fields = mapFields name' text' fields
  | [],_,_ => rfl
  | (member,j) :: rest,named,same => by
      obtain ⟨here,deeper⟩ := List.forall_mem_cons.mp named
      have first := mapStrings_congr j (fun s inside => deeper s (List.mem_append_left _ inside))
        fun s inside => same s (List.mem_append_left _ inside)
      have others := mapFields_congr rest (fun s inside => deeper s (List.mem_append_right _ inside))
        fun s inside => same s (List.mem_append_right _ inside)
      rw [mapFields,mapFields,here,first,others]
end

end Texts

section Tokens

-- Its value is a text or no text, but not both.
def Token.Scalar : Token → Prop
  | .value (.str _) => False
  | .value (.arr _) => False
  | .value (.obj _) => False
  | _ => True

def Token.text? : Token → Option String
  | .text s => some s
  | _ => none

def Token.mapText (f : String → String) : Token → Token
  | .text s => .text (f s)
  | other => other

-- The tokens that a value is read from. Every item and member but the last has a comma after it.
mutual
def tokens : Json → List Token
  | .str s => [.text s]
  | .arr items => .openArr :: ((itemTokens items).dropLast ++ [.closeArr])
  | .obj fields => .openObj :: ((fieldTokens fields).dropLast ++ [.closeObj])
  | other => [.value other]

def itemTokens : List Json → List Token
  | [] => []
  | j :: rest => tokens j ++ .comma :: itemTokens rest

def fieldTokens : List (String × Json) → List Token
  | [] => []
  | (name,j) :: rest => .text name :: .colon :: (tokens j ++ .comma :: fieldTokens rest)
end

theorem itemTokens_append (first last : List Json) :
    itemTokens (first ++ last) = itemTokens first ++ itemTokens last := by
  induction first with
  | nil => rfl
  | cons j rest ih => simp [itemTokens,ih]

theorem fieldTokens_append (first last : List (String × Json)) :
    fieldTokens (first ++ last) = fieldTokens first ++ fieldTokens last := by
  induction first with
  | nil => rfl
  | cons member rest ih => simp [fieldTokens,ih]

mutual
theorem tokens_map {f : String → String} : ∀ j : Json,
    (j.mapStrings f f).tokens = j.tokens.map (Token.mapText f)
  | .null => rfl
  | .bool _ => rfl
  | .int _ => rfl
  | .float _ => rfl
  | .str _ => rfl
  | .arr items => by simp [mapStrings,-mapItems_map,tokens,itemTokens_map items,Token.mapText]
  | .obj fields => by simp [mapStrings,-mapFields_map,tokens,fieldTokens_map fields,Token.mapText]

theorem itemTokens_map {f : String → String} : ∀ items : List Json,
    itemTokens (mapItems f f items) = (itemTokens items).map (Token.mapText f)
  | [] => rfl
  | j :: rest => by
      simp [mapItems,-mapItems_map,itemTokens,tokens_map j,itemTokens_map rest,Token.mapText]

theorem fieldTokens_map {f : String → String} : ∀ fields : List (String × Json),
    fieldTokens (mapFields f f fields) = (fieldTokens fields).map (Token.mapText f)
  | [] => rfl
  | (name,j) :: rest => by
      simp [mapFields,-mapFields_map,fieldTokens,tokens_map j,fieldTokens_map rest,Token.mapText]
end

theorem itemTokens_concat (items : List Json) (j : Json) :
    itemTokens (items ++ [j]) = (itemTokens items ++ j.tokens) ++ [.comma] := by
  simp [itemTokens_append,itemTokens]

theorem fieldTokens_concat (fields : List (String × Json)) (name : String) (j : Json) :
    fieldTokens (fields ++ [(name,j)]) =
      (fieldTokens fields ++ .text name :: .colon :: j.tokens) ++ [.comma] := by
  simp [fieldTokens_append,fieldTokens]

theorem itemTokens_mem {t : Token} (other : t ≠ .comma) (items : List Json) :
    t ∈ (itemTokens items).dropLast ↔ t ∈ itemTokens items := by
  rcases List.eq_nil_or_concat items with rfl | ⟨init,j,rfl⟩
  · rfl
  · rw [List.concat_eq_append,itemTokens_concat,List.dropLast_concat,List.mem_append (t := [_])]
    simp [other]

theorem fieldTokens_mem {t : Token} (other : t ≠ .comma) (fields : List (String × Json)) :
    t ∈ (fieldTokens fields).dropLast ↔ t ∈ fieldTokens fields := by
  rcases List.eq_nil_or_concat fields with rfl | ⟨init,⟨name,j⟩,rfl⟩
  · rfl
  · rw [List.concat_eq_append,fieldTokens_concat,List.dropLast_concat,List.mem_append (t := [_])]
    simp [other]

mutual
-- The tokens hold the names and the texts, and no other strings.
theorem text_tokens (s : String) : ∀ j : Json,
    .text s ∈ j.tokens ↔ s ∈ j.memberNames ∨ s ∈ j.texts
  | .null => by simp [tokens,memberNames,texts]
  | .bool _ => by simp [tokens,memberNames,texts]
  | .int _ => by simp [tokens,memberNames,texts]
  | .float _ => by simp [tokens,memberNames,texts]
  | .str _ => by simp [tokens,memberNames,texts]
  | .arr items => by
      have inside := text_itemTokens s items
      simp [tokens,memberNames,texts,itemTokens_mem,inside]
  | .obj fields => by
      have inside := text_fieldTokens s fields
      simp [tokens,memberNames,texts,fieldTokens_mem,inside]

theorem text_itemTokens (s : String) : ∀ items : List Json,
    .text s ∈ itemTokens items ↔ s ∈ itemNames items ∨ s ∈ itemTexts items
  | [] => by simp [itemTokens,itemNames,itemTexts]
  | j :: rest => by
      have first := text_tokens s j
      have others := text_itemTokens s rest
      simp only [itemTokens,itemNames,itemTexts,List.mem_append,List.mem_cons,reduceCtorEq,false_or,
        first,others]
      exact or_or_or_comm

theorem text_fieldTokens (s : String) : ∀ fields : List (String × Json),
    .text s ∈ fieldTokens fields ↔ s ∈ fieldNames fields ∨ s ∈ fieldTexts fields
  | [] => by simp [fieldTokens,fieldNames,fieldTexts]
  | (name,j) :: rest => by
      have first := text_tokens s j
      have others := text_fieldTokens s rest
      simp only [fieldTokens,fieldNames,fieldTexts,List.mem_append,List.mem_cons,reduceCtorEq,
        Token.text.injEq,false_or,or_assoc (a := s = name),first,others]
      exact or_congr Iff.rfl or_or_or_comm
end

end Tokens

section Reading

def Frame.written : Frame → List Token
  | .items done => .openArr :: itemTokens done.reverse
  | .members done name => .openObj :: (fieldTokens done.reverse ++ [.text name,.colon])

def opened (stack : List Frame) : List Token :=
  stack.reverse.flatMap Frame.written

def Reading.written : Reading → List Token
  | .value stack => opened stack
  | .itemOrClose stack => opened stack ++ [.openArr]
  | .nameOrClose stack => opened stack ++ [.openObj]
  | .name past stack => opened stack ++ .openObj :: fieldTokens past.reverse
  | .colon past key stack => opened stack ++ .openObj :: (fieldTokens past.reverse ++ [.text key])
  | .moreItems past stack => opened stack ++ .openArr :: (itemTokens past.reverse).dropLast
  | .moreMembers past stack => opened stack ++ .openObj :: (fieldTokens past.reverse).dropLast
  | .done j => j.tokens

-- What another part may follow has a part.
def Reading.Begun : Reading → Prop
  | .moreItems past _ => past ≠ []
  | .moreMembers past _ => past ≠ []
  | _ => True

theorem opened_cons (frame : Frame) (stack : List Frame) :
    opened (frame :: stack) = opened stack ++ frame.written := by
  simp [opened]

theorem place_written (j : Json) (stack : List Frame) :
    (place j stack).Begun ∧ (place j stack).written = opened stack ++ j.tokens := by
  cases stack with
  | nil => exact ⟨trivial,rfl⟩
  | cons frame stack =>
      cases frame with
      | items done =>
          refine ⟨List.cons_ne_nil _ _,?_⟩
          simp [place,Reading.written,opened_cons,Frame.written,itemTokens_concat]
      | members done name =>
          refine ⟨List.cons_ne_nil _ _,?_⟩
          rw [place,Reading.written,opened_cons,Frame.written,List.reverse_cons,fieldTokens_concat,
            List.dropLast_concat]
          simp

theorem beginValue_written {stack : List Frame} {t : Token} {r : Reading} (scalar : t.Scalar)
    (read : beginValue stack t = some r) : r.Begun ∧ r.written = opened stack ++ [t] := by
  cases t with
  | openArr =>
      obtain ⟨-,is⟩ := Option.ite_none_right_eq_some.mp read
      cases is
      exact ⟨trivial,rfl⟩
  | openObj =>
      obtain ⟨-,is⟩ := Option.ite_none_right_eq_some.mp read
      cases is
      exact ⟨trivial,rfl⟩
  | text s =>
      cases read
      exact place_written (.str s) stack
  | value j =>
      cases read
      cases j with
      | str s => exact scalar.elim
      | arr items => exact scalar.elim
      | obj fields => exact scalar.elim
      | _ => exact place_written _ stack
  | _ => cases read

theorem itemTokens_more {items : List Json} (begun : items ≠ []) :
    (itemTokens items).dropLast ++ [.comma] = itemTokens items := by
  rcases List.eq_nil_or_concat items with rfl | ⟨init,j,rfl⟩
  · exact absurd rfl begun
  · rw [List.concat_eq_append,itemTokens_concat,List.dropLast_concat]

theorem fieldTokens_more {fields : List (String × Json)} (begun : fields ≠ []) :
    (fieldTokens fields).dropLast ++ [.comma] = fieldTokens fields := by
  rcases List.eq_nil_or_concat fields with rfl | ⟨init,⟨name,j⟩,rfl⟩
  · exact absurd rfl begun
  · rw [List.concat_eq_append,fieldTokens_concat,List.dropLast_concat]

theorem readToken_written {r r' : Reading} {t : Token} (begun : r.Begun) (scalar : t.Scalar)
    (read : readToken r t = some r') : r'.Begun ∧ r'.written = r.written ++ [t] := by
  unfold readToken at read
  split at read
  · exact beginValue_written scalar read
  · cases read
    refine ⟨(place_written _ _).1,?_⟩
    rw [(place_written _ _).2]
    simp [Reading.written,tokens,itemTokens]
  · obtain ⟨begins,reads⟩ := beginValue_written scalar read
    refine ⟨begins,?_⟩
    rw [reads,opened_cons,Reading.written,Frame.written]
    rfl
  · cases read
    refine ⟨(place_written _ _).1,?_⟩
    rw [(place_written _ _).2]
    simp [Reading.written,tokens,fieldTokens]
  · cases read
    refine ⟨trivial,?_⟩
    simp [Reading.written,fieldTokens]
  · cases read
    refine ⟨trivial,?_⟩
    simp [Reading.written]
  · cases read
    refine ⟨trivial,?_⟩
    simp [Reading.written,opened_cons,Frame.written]
  · rename_i past stack
    cases read
    refine ⟨trivial,?_⟩
    have more := itemTokens_more (List.reverse_ne_nil_iff.mpr begun)
    simp [Reading.written,opened_cons,Frame.written,more]
  · cases read
    refine ⟨(place_written _ _).1,?_⟩
    rw [(place_written _ _).2]
    simp [Reading.written,tokens]
  · cases read
    refine ⟨trivial,?_⟩
    have more := fieldTokens_more (List.reverse_ne_nil_iff.mpr begun)
    simp [Reading.written,more]
  · cases read
    refine ⟨(place_written _ _).1,?_⟩
    rw [(place_written _ _).2]
    simp [Reading.written,tokens]
  · cases read

theorem readTokens_written {r : Reading} {ts : List Token} {j : Json} (begun : r.Begun)
    (scalar : ∀ t ∈ ts, t.Scalar) (read : readTokens r ts = some j) : r.written ++ ts = j.tokens := by
  induction ts generalizing r with
  | nil =>
      unfold readTokens at read
      split at read
      · cases read
        exact List.append_nil _
      · cases read
  | cons t rest ih =>
      obtain ⟨first,others⟩ := List.forall_mem_cons.mp scalar
      unfold readTokens at read
      split at read
      · cases read
      · rename_i next step
        obtain ⟨begins,reads⟩ := readToken_written begun first step
        rw [← ih begins others read,reads,List.append_assoc]
        rfl

end Reading

section Mapped

variable {f : String → String}

def Frame.mapText (f : String → String) : Frame → Frame
  | .items done => .items (done.map (mapStrings f f))
  | .members done name =>
      .members (done.map fun member => (f member.1,member.2.mapStrings f f)) (f name)

def Reading.mapText (f : String → String) : Reading → Reading
  | .value stack => .value (stack.map (Frame.mapText f))
  | .itemOrClose stack => .itemOrClose (stack.map (Frame.mapText f))
  | .nameOrClose stack => .nameOrClose (stack.map (Frame.mapText f))
  | .name past stack =>
      .name (past.map fun member => (f member.1,member.2.mapStrings f f))
        (stack.map (Frame.mapText f))
  | .colon past key stack =>
      .colon (past.map fun member => (f member.1,member.2.mapStrings f f)) (f key)
        (stack.map (Frame.mapText f))
  | .moreItems past stack =>
      .moreItems (past.map (mapStrings f f)) (stack.map (Frame.mapText f))
  | .moreMembers past stack =>
      .moreMembers (past.map fun member => (f member.1,member.2.mapStrings f f))
        (stack.map (Frame.mapText f))
  | .done j => .done (j.mapStrings f f)

theorem place_map (j : Json) (stack : List Frame) :
    place (j.mapStrings f f) (stack.map (Frame.mapText f)) = (place j stack).mapText f := by
  cases stack with
  | nil => rfl
  | cons frame stack => cases frame <;> rfl

theorem beginValue_map (stack : List Frame) {t : Token} (scalar : t.Scalar) :
    beginValue (stack.map (Frame.mapText f)) (t.mapText f) =
      (beginValue stack t).map (Reading.mapText f) := by
  cases t with
  | openArr =>
      simp only [beginValue,Token.mapText,List.length_map]
      split <;> rfl
  | openObj =>
      simp only [beginValue,Token.mapText,List.length_map]
      split <;> rfl
  | text s => exact congrArg some (place_map (.str s) stack)
  | value j =>
      cases j with
      | str s => exact scalar.elim
      | arr items => exact scalar.elim
      | obj fields => exact scalar.elim
      | null => exact congrArg some (place_map .null stack)
      | bool b => exact congrArg some (place_map (.bool b) stack)
      | int n => exact congrArg some (place_map (.int n) stack)
      | float x => exact congrArg some (place_map (.float x) stack)
  | _ => rfl

theorem readToken_map (r : Reading) {t : Token} (scalar : t.Scalar) :
    readToken (r.mapText f) (t.mapText f) = (readToken r t).map (Reading.mapText f) := by
  cases r with
  | value stack => exact beginValue_map stack scalar
  | itemOrClose stack =>
      cases t with
      | closeArr => exact congrArg some (place_map (.arr []) stack)
      | _ => exact beginValue_map (.items [] :: stack) scalar
  | nameOrClose stack =>
      cases t with
      | closeObj => exact congrArg some (place_map (.obj []) stack)
      | _ => rfl
  | moreItems past stack =>
      have closed := place_map (f := f) (.arr past.reverse) stack
      rw [mapStrings,mapItems_map,List.map_reverse] at closed
      cases t with
      | closeArr => exact congrArg some closed
      | _ => rfl
  | moreMembers past stack =>
      have closed := place_map (f := f) (.obj past.reverse) stack
      rw [mapStrings,mapFields_map,List.map_reverse] at closed
      cases t with
      | closeObj => exact congrArg some closed
      | _ => rfl
  | _ => cases t <;> rfl

theorem readTokens_map (r : Reading) {ts : List Token} (scalar : ∀ t ∈ ts, t.Scalar) :
    readTokens (r.mapText f) (ts.map (Token.mapText f)) = (readTokens r ts).map (mapStrings f f) := by
  induction ts generalizing r with
  | nil => cases r <;> rfl
  | cons t rest ih =>
      obtain ⟨first,others⟩ := List.forall_mem_cons.mp scalar
      rw [List.map_cons,readTokens,readTokens,readToken_map r first]
      cases readToken r t with
      | none => rfl
      | some next => exact ih next others

end Mapped

end OlapQuery.Json
