import OlapQuery.Decimal.Layout
import OlapQuery.Table
import OlapQuery.Word

-- JSON values. Whole numbers in the 64-bit ranges are kept apart from other numbers, so that
-- `1` and `1.0` stay what they are. The members of an object are listed in the order in which
-- they are written; objects that were read are listed in name order.

namespace OlapQuery

inductive Json where
  | null
  | bool (value : Bool)
  | int (value : Int)
  | float (value : Float)
  | str (value : String)
  | arr (items : List Json)
  | obj (fields : List (String × Json))
  deriving Inhabited

abbrev Row := Table Json

namespace Json

-- Sameness of JSON values: a whole number is never the same as a float, and floats are
-- compared as numbers.
mutual
def same : Json → Json → Bool
  | .null,.null => true
  | .bool a,.bool b => a == b
  | .int a,.int b => a == b
  | .float a,.float b => a == b
  | .str a,.str b => a == b
  | .arr a,.arr b => sameItems a b
  | .obj a,.obj b => sameFields a b
  | _,_ => false

def sameItems : List Json → List Json → Bool
  | [],[] => true
  | a :: as,b :: bs => same a b && sameItems as bs
  | _,_ => false

def sameFields : List (String × Json) → List (String × Json) → Bool
  | [],[] => true
  | (k,a) :: as,(l,b) :: bs => k == l && same a b && sameFields as bs
  | _,_ => false
end

instance : BEq Json := ⟨same⟩

def get? (j : Json) (name : String) : Option Json :=
  match j with
  | .obj fields => List.lookup name fields
  | _ => none

def bool? : Json → Option Bool
  | .bool b => some b
  | _ => none

def str? : Json → Option String
  | .str s => some s
  | _ => none

def arr? : Json → Option (List Json)
  | .arr items => some items
  | _ => none

def obj? : Json → Option (List (String × Json))
  | .obj fields => some fields
  | _ => none

-- A value as it is kept: whole numbers must fit in 64 bits, and a float that is not finite
-- becomes null.
mutual
def kept? : Json → Option Json
  | .int n => if Word.minInt64 ≤ n && n ≤ Word.max64 then some (.int n) else none
  | .float x => some (if x.isFinite then .float x else .null)
  | .arr items => (keptItems? items).map .arr
  | .obj fields => (keptFields? fields).map .obj
  | other => some other

def keptItems? : List Json → Option (List Json)
  | [] => some []
  | j :: rest => do
      let first ← kept? j
      let others ← keptItems? rest
      some (first :: others)

def keptFields? : List (String × Json) → Option (List (String × Json))
  | [] => some []
  | (name,j) :: rest => do
      let first ← kept? j
      let others ← keptFields? rest
      some ((name,first) :: others)
end

def number? : Json → Option Float
  | .int n => some (Float.ofInt n)
  | .float x => some x
  | _ => none

def intBetween? (low high : Int) : Json → Option Int
  | .int n => if low ≤ n ∧ n ≤ high then some n else none
  | _ => none

def nat64? (j : Json) : Option Nat :=
  (j.intBetween? 0 Word.max64).map Int.toNat

def int64? (j : Json) : Option Int :=
  j.intBetween? Word.minInt64 Word.maxInt64

def int32? (j : Json) : Option Int :=
  j.intBetween? Word.minInt32 Word.maxInt32

def nat32? (j : Json) : Option Nat :=
  (j.intBetween? 0 Word.max32).map Int.toNat

-- A number as JSON: whole below 1e15 as a whole number; what is not finite is `null`.
def ofNumber (x : Float) : Json :=
  match Decimal.whole? x with
  | some n => .int n
  | none => if x.isNaN || x.isInf then .null else .float x

-- A float member always stays a float; what is not finite is `null`.
def ofFloat (x : Float) : Json :=
  if x.isNaN || x.isInf then .null else .float x

def ofOption (f : α → Json) : Option α → Json
  | none => .null
  | some a => f a

def ofTable (f : α → Json) (table : Table α) : Json :=
  .obj (table.map (fun entry => (entry.1,f entry.2)))

def ofStrings (items : List String) : Json :=
  .arr (items.map .str)

-- Members that are absent are left out.
def ofMembers (members : List (String × Option Json)) : Json :=
  .obj (members.filterMap (fun member => member.2.map (fun value => (member.1,value))))

end Json

end OlapQuery
