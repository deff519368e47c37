import OlapQuery.Proofs.Fragments

-- Templates as frames. The frame of a template is its text with the slots, and rendering fills
-- it. A template is sound when it can be drawn from a settled frame.

namespace OlapQuery.Sql

-- The text of a template with its slots.
def slots : List Char → Frame
  | [] => []
  | '$' :: '$' :: rest => none :: slots rest
  | c :: rest => some c :: slots rest

theorem slots_other {c : Char} (other : c ≠ '$') (rest : List Char) :
    slots (c :: rest) = some c :: slots rest := by
  rw [slots]
  intro later is
  exact absurd is other

theorem render_text (content operand : String) (segments : List Segment) :
    Template.render ⟨.text content :: segments⟩ operand
      = content ++ Template.render ⟨segments⟩ operand := by
  simp [Template.render,Template.Segment.fill]

theorem render_operand (operand : String) (segments : List Segment) :
    Template.render ⟨.operand :: segments⟩ operand
      = operand ++ Template.render ⟨segments⟩ operand := by
  simp [Template.render,Template.Segment.fill]

theorem render_flush (operand : String) (pending : List Char) (segments : List Segment) :
    (Template.render ⟨Template.flush pending segments⟩ operand).toList
      = pending.reverse ++ (Template.render ⟨segments⟩ operand).toList := by
  unfold Template.flush
  split
  · rename_i empty
    rw [List.isEmpty_iff.mp empty]
    rfl
  · simp [render_text]

theorem scan_render {position depth : Nat} {quoted : Bool} {pending cs : List Char}
    {segments : List Segment} (operand : String)
    (read : Template.scan position depth quoted pending cs = .ok segments) :
    (Template.render ⟨segments⟩ operand).toList = pending.reverse ++ fill operand (slots cs) := by
  fun_induction Template.scan position depth quoted pending cs generalizing segments with
  | case1 position depth quoted pending ended =>
      cases read
      rw [render_flush]
      rfl
  | case2 => cases read
  | case3 position depth quoted pending rest ih =>
      cases inner : Template.scan (position + 2) depth quoted [] rest with
      | error fault => rw [inner] at read; cases read
      | ok later =>
          rw [inner] at read
          cases read
          rw [render_flush,render_operand,String.toList_append,ih inner,slots,fill_none]
          rfl
  | case4 | case7 => cases read
  | case5 | case6 | case8 | case9 =>
      rename_i ih
      rw [ih read,slots_other (by simp_all),fill_some,List.reverse_cons,List.append_assoc]
      rfl

def Template.Sound (t : Template) : Prop :=
  ∃ frame, settled false frame = true ∧
    ∀ operand, (t.render operand).toList = fill operand frame

theorem parse_render {source : String} {t : Template} (read : Template.parse source = .ok t)
    (operand : String) : (t.render operand).toList = fill operand (slots source.toList) := by
  unfold Template.parse at read
  split at read
  · cases read
  · cases read
  · rename_i segments scanned
    split at read
    · cases read
      simpa using scan_render operand scanned
    · cases read

theorem parse_sound {source : String} {t : Template} (read : Template.parse source = .ok t)
    (calm : settled false (slots source.toList) = true) : t.Sound :=
  ⟨slots source.toList,calm,parse_render read⟩

structure Tables.Sound (t : Tables) : Prop where
  casts : ∀ entry ∈ t.castEntries, entry.template.Sound
  parts : ∀ entry ∈ t.partEntries, entry.template.Sound
  buckets : ∀ entry ∈ t.buckets, Clean entry.2

end OlapQuery.Sql
