import OlapQuery.Proofs.SqlTokens

-- Text that is put around an operand. If it leaves no quote open, then alike operands stay
-- alike inside it, whatever quotes they hold.

namespace OlapQuery.Sql

-- Text with slots for an operand.
abbrev Frame := List (Option Char)

def fill (operand : String) (frame : Frame) : List Char :=
  frame.flatMap fun
    | some c => [c]
    | none => operand.toList

def frame (text : String) : Frame :=
  text.toList.map some

-- A character that no dialect quotes or escapes with.
def unmarked (c : Char) : Bool :=
  c != apostrophe && c != '"' && c != Char.ofNat 96 && c != '\\'

-- A character that stands for itself inside a string.
def unescaped (c : Char) : Bool :=
  c != apostrophe && c != '\\'

def starts : Frame → Bool
  | some c :: _ => unmarked c
  | _ => false

-- Whether a frame leaves no quote open and ends neither with a quote nor with its operand.
def settled (quoted : Bool) : Frame → Bool
  | [] => !quoted
  | none :: rest => !quoted && starts rest && settled false rest
  | some c :: rest =>
      if quoted then
        if c == apostrophe then starts rest && settled false rest
        else c != '\\' && settled true rest
      else if c == apostrophe then settled true rest
      else unmarked c && settled false rest

def Settled (text : String) : Prop :=
  settled false (frame text) = true

-- Settled text that may follow a quoted one.
def Joint (text : String) : Prop :=
  starts (frame text) = true ∧ Settled text

-- Text without quotes.
def Clean (text : String) : Prop :=
  text.toList.all unmarked = true

-- Text that stands for itself inside a string.
def Plain (text : String) : Prop :=
  text.toList.all unescaped = true

-- The constants are checked as lists of characters, which is much cheaper than as texts.
theorem Settled.of_chars {cs : List Char} (calm : settled false (cs.map some) = true) :
    Settled (String.ofList cs) := by
  rwa [Settled,frame,String.toList_ofList]

theorem Joint.of_chars {cs : List Char}
    (calm : (starts (cs.map some) && settled false (cs.map some)) = true) :
    Joint (String.ofList cs) := by
  rw [Bool.and_eq_true] at calm
  rwa [Joint,Settled,frame,String.toList_ofList]

theorem Clean.of_chars {cs : List Char} (free : cs.all unmarked = true) :
    Clean (String.ofList cs) := by
  rwa [Clean,String.toList_ofList]

theorem Clean.append {a b : String} (first : Clean a) (second : Clean b) : Clean (a ++ b) := by
  rw [Clean,String.toList_append,List.all_append,Bool.and_eq_true]
  exact ⟨first,second⟩

theorem Clean.plain {text : String} (clean : Clean text) : Plain text := by
  refine List.all_eq_true.mpr fun c listed => ?_
  have free := List.all_eq_true.mp clean c listed
  simp only [unmarked,Bool.and_eq_true,bne_iff_ne] at free
  simp [unescaped,free]

theorem settled_append {quoted : Bool} {frame rest : Frame} (calm : settled quoted frame = true) :
    settled quoted (frame ++ rest) = settled false rest := by
  have further {frame rest : Frame} (first : starts frame = true) :
      starts (frame ++ rest) = true := by
    cases frame with
    | nil => cases first
    | cons part frame => cases part <;> exact first
  fun_induction settled quoted frame with
  | case1 quoted => cases quoted <;> simp_all
  | case2 quoted frame ih =>
      simp only [Bool.and_eq_true] at calm
      simp [settled,calm.1.1,further calm.1.2,ih calm.2]
  | case3 c frame mark ih =>
      simp only [Bool.and_eq_true] at calm
      simp [settled,mark,further calm.1,ih calm.2]
  | case4 c frame mark ih =>
      simp only [Bool.and_eq_true] at calm
      simp [settled,mark,calm.1,ih calm.2]
  | case5 quoted c frame outside mark ih => simp [settled,outside,mark,ih calm]
  | case6 quoted c frame outside mark ih =>
      simp only [Bool.and_eq_true] at calm
      simp [settled,outside,mark,calm.1,ih calm.2]

theorem settled_inside {text : String} {rest : Frame} (plain : Plain text) :
    settled true (frame text ++ rest) = settled true rest := by
  have each : ∀ c ∈ text.toList, unescaped c = true := List.all_eq_true.mp plain
  unfold frame
  generalize text.toList = cs at each
  induction cs with
  | nil => rfl
  | cons c cs ih =>
      have here : c ≠ apostrophe ∧ c ≠ '\\' := by
        simpa [unescaped] using each c List.mem_cons_self
      have next := ih fun c listed => each c (List.mem_cons_of_mem _ listed)
      simpa [settled,here.1,bne_iff_ne.mpr here.2] using next

theorem frame_append (a b : String) : frame (a ++ b) = frame a ++ frame b := by
  simp [frame]

@[simp] theorem fill_none (operand : String) (rest : Frame) :
    fill operand (none :: rest) = operand.toList ++ fill operand rest := by
  simp [fill]

@[simp] theorem fill_some (operand : String) (c : Char) (rest : Frame) :
    fill operand (some c :: rest) = c :: fill operand rest := by
  simp [fill]

@[simp] theorem fill_frame (operand text : String) : fill operand (frame text) = text.toList := by
  unfold frame
  induction text.toList with
  | nil => rfl
  | cons c cs ih => rw [List.map_cons,fill_some,ih]

theorem Settled.append {a b : String} (first : Settled a) (second : Settled b) :
    Settled (a ++ b) := by
  rw [Settled,frame_append,settled_append first]
  exact second

theorem Joint.append {a b : String} (first : Joint a) (second : Settled b) : Joint (a ++ b) := by
  refine ⟨?_,first.2.append second⟩
  have start := first.1
  rw [frame_append]
  cases shape : frame a with
  | nil => rw [shape] at start; cases start
  | cons part rest =>
      rw [shape] at start
      cases part <;> exact start

theorem Clean.settled {text : String} (clean : Clean text) : Settled text := by
  have each : ∀ c ∈ text.toList, unmarked c = true := List.all_eq_true.mp clean
  unfold Settled frame
  generalize text.toList = cs at each
  induction cs with
  | nil => rfl
  | cons c cs ih =>
      have here := each c List.mem_cons_self
      have outside : c ≠ apostrophe := by
        simp only [unmarked,Bool.and_eq_true,bne_iff_ne] at here
        exact here.1.1.1
      have next := ih fun c listed => each c (List.mem_cons_of_mem _ listed)
      simp [Sql.settled,outside,here,next]

theorem Settled.quoting {opening closing : List Char} {text : String} (plain : Plain text)
    (opens : ∀ rest, Sql.settled false (opening.map some ++ rest) = Sql.settled true rest)
    (closes : Sql.settled true (closing.map some) = true) :
    Settled (String.ofList opening ++ text ++ String.ofList closing) := by
  rw [Settled,frame_append,frame_append,List.append_assoc]
  simp only [frame,String.toList_ofList]
  rw [opens,← frame,settled_inside plain,closes]

theorem Joint.quoting {opening closing : List Char} {text : String} (plain : Plain text)
    (first : Sql.starts (opening.map some) = true)
    (opens : ∀ rest, Sql.settled false (opening.map some ++ rest) = Sql.settled true rest)
    (closes : Sql.settled true (closing.map some) = true) :
    Joint (String.ofList opening ++ text ++ String.ofList closing) := by
  refine ⟨?_,.quoting plain opens closes⟩
  rw [String.append_assoc,frame_append,frame,String.toList_ofList]
  cases opening with
  | nil => cases first
  | cons c opening => exact first

section Alike

variable {d : Dialect} {pairs : List (String × String)} {a b e f text : String} {xs ys : List Char}

theorem unmarked_plain {c : Char} (free : unmarked c = true) : d.isMark c = false := by
  simp only [unmarked,Bool.and_eq_true,bne_iff_ne] at free
  unfold Dialect.isMark Dialect.identifierMark
  cases d.family <;> simp [free]

theorem body_plain {text : List Char} (plain : text.all unescaped = true) : d.body text = text := by
  induction text with
  | nil => simp [Dialect.body,backslashed,doubled]
  | cons c text ih =>
      rw [List.all_cons,Bool.and_eq_true] at plain
      have here : c ≠ apostrophe ∧ c ≠ '\\' := by
        simpa [unescaped] using plain.1
      have rest := ih plain.2
      cases escaped : d.escapes <;>
        simpa [Dialect.body,escaped,backslashed,doubled,here] using rest

theorem quoteString_plain (plain : Plain text) : d.quoteString text = "'" ++ text ++ "'" := by
  apply String.toList_injective
  rw [Dialect.quoteString_body,body_plain plain]
  simp [apostrophe]

-- Texts that are alike in front of alike texts, unless these start with a quote.
def Piece (d : Dialect) (pairs : List (String × String)) (a b : String) : Prop :=
  ∀ ⦃xs ys⦄, d.Fresh xs → Alike d pairs xs ys → Alike d pairs (a.toList ++ xs) (b.toList ++ ys)

-- Texts that are alike in front of any alike texts.
def Opening (d : Dialect) (pairs : List (String × String)) (a b : String) : Prop :=
  ∀ ⦃xs ys⦄, Alike d pairs xs ys → Alike d pairs (a.toList ++ xs) (b.toList ++ ys)

theorem Opening.piece (opening : Opening d pairs a b) : Piece d pairs a b :=
  fun _ _ _ rest => opening rest

theorem Piece.alike (piece : Piece d pairs a b) : Alike d pairs a.toList b.toList := by
  have free : d.Fresh [] := by
    intro c none
    cases none
  simpa using piece free .nil

theorem fresh_fill {frame : Frame} (first : starts frame = true) : d.Fresh (fill a frame ++ xs) := by
  intro c head
  cases frame with
  | nil => cases first
  | cons part frame =>
      cases part with
      | none => cases first
      | some other =>
          cases head
          exact unmarked_plain first

-- The frame is read through; inside a quote, `read` is what stands between its start and here.
theorem settled_alike {frame : Frame} (operand : Piece d pairs a b) (rest : Alike d pairs xs ys) :
    (settled false frame = true → Alike d pairs (fill a frame ++ xs) (fill b frame ++ ys)) ∧
      ∀ read : List Char, read.all unescaped = true → settled true frame = true →
        Alike d pairs (apostrophe :: (read ++ fill a frame) ++ xs)
          (apostrophe :: (read ++ fill b frame) ++ ys) := by
  induction frame with
  | nil => exact ⟨fun _ => rest,fun _ _ ends => nomatch ends⟩
  | cons part frame ih =>
      cases part with
      | none =>
          refine ⟨fun calm => ?_,fun _ _ inside => nomatch inside⟩
          simp only [settled,Bool.not_false,Bool.true_and,Bool.and_eq_true] at calm
          have joined := operand (fresh_fill calm.1) (ih.1 calm.2)
          simpa using joined
      | some c =>
          constructor
          · intro calm
            unfold settled at calm
            by_cases mark : c = apostrophe
            · subst mark
              have inside := ih.2 [] rfl (by simpa using calm)
              simpa using inside
            · simp only [Bool.false_eq_true,↓reduceIte,beq_iff_eq,mark,Bool.and_eq_true] at calm
              exact .char (unmarked_plain calm.1) (ih.1 calm.2)
          · intro read clean calm
            unfold settled at calm
            by_cases mark : c = apostrophe
            · subst mark
              simp only [↓reduceIte,beq_self_eq_true,Bool.and_eq_true] at calm
              have closed := Alike.string (.inl rfl) (fresh_fill calm.1) (ih.1 calm.2)
                (s := String.ofList read) (t := String.ofList read)
              rw [Dialect.quoteString_body,String.toList_ofList,body_plain clean] at closed
              simpa using closed
            · simp only [↓reduceIte,beq_iff_eq,mark,Bool.and_eq_true,bne_iff_ne] at calm
              have grown := ih.2 (read ++ [c]) (by simp [unescaped,clean,mark,calm.1]) calm.2
              simpa using grown

theorem Piece.empty : Piece d pairs "" "" :=
  fun _ _ _ rest => rest

theorem Settled.opening (calm : Settled text) : Opening d pairs text text := by
  intro xs ys rest
  have through := (settled_alike Piece.empty rest).1 calm
  simpa using through

theorem Piece.quoteString (known : a = b ∨ (a,b) ∈ pairs) :
    Piece d pairs (d.quoteString a) (d.quoteString b) :=
  fun _ _ fresh rest => .string known fresh rest

theorem Piece.quoteIdentifier (name : String) :
    Piece d pairs (d.quoteIdentifier name) (d.quoteIdentifier name) :=
  fun _ _ fresh rest => .identifier fresh rest

theorem Opening.append (first : Opening d pairs a b) (second : Piece d pairs e f) :
    Piece d pairs (a ++ e) (b ++ f) := by
  intro xs ys fresh rest
  rw [String.toList_append,String.toList_append,List.append_assoc,List.append_assoc]
  exact first (second fresh rest)

theorem Opening.followed (first : Opening d pairs a b) (calm : Settled text) :
    Opening d pairs (a ++ text) (b ++ text) := by
  intro xs ys rest
  rw [String.toList_append,String.toList_append,List.append_assoc,List.append_assoc]
  exact first (calm.opening rest)

theorem Piece.followed (first : Piece d pairs a b) (joint : Joint text) :
    Opening d pairs (a ++ text) (b ++ text) := by
  intro xs ys rest
  rw [String.toList_append,String.toList_append,List.append_assoc,List.append_assoc]
  have fresh := @fresh_fill d "" xs (frame text) joint.1
  exact first (by simpa using fresh) (joint.2.opening rest)

theorem Piece.quoting {opening closing : List Char} (first : Piece d pairs a b) (plain : Plain text)
    (start : starts (opening.map some) = true)
    (opens : ∀ rest, settled false (opening.map some ++ rest) = settled true rest)
    (closes : settled true (closing.map some) = true) :
    Opening d pairs (a ++ String.ofList opening ++ text ++ String.ofList closing)
      (b ++ String.ofList opening ++ text ++ String.ofList closing) := by
  have joined := first.followed (.quoting plain start opens closes)
  simpa only [← String.append_assoc] using joined

theorem Piece.after (second : Piece d pairs e f) (calm : Settled text) :
    Piece d pairs (text ++ e) (text ++ f) :=
  calm.opening.append second

theorem Piece.call (operand : Piece d pairs a b) {before after : String}
    (calm : Settled before) (joint : Joint after) :
    Opening d pairs (before ++ a ++ after) (before ++ b ++ after) :=
  (operand.after calm).followed joint

theorem Piece.pair (first : Piece d pairs a b) (second : Piece d pairs e f)
    {before between after : String} (calm : Settled before) (joint : Joint between)
    (last : Joint after) : Opening d pairs (before ++ a ++ between ++ e ++ after)
      (before ++ b ++ between ++ f ++ after) :=
  ((first.call calm joint).append second).followed last

end Alike

end OlapQuery.Sql
