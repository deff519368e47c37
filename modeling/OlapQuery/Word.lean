-- Machine words, and the ends of a computation that does not come to its result.

namespace OlapQuery

namespace Word

def max32 : Nat := 4294967295
def max64 : Nat := 18446744073709551615
def max128 : Nat := 340282366920938463463374607431768211455
def minInt32 : Int := -2147483648
def maxInt32 : Int := 2147483647
def minInt64 : Int := -9223372036854775808
def maxInt64 : Int := 9223372036854775807
def minInt128 : Int := -170141183460469231731687303715884105728

end Word

-- The program breaks off: an operation left its word or the calendar. Nothing is answered then.
inductive Panic where
  | panic
  deriving DecidableEq, Repr

abbrev Checked (α : Type u) := Except Panic α

-- Why there is no result: something was refused, or the program broke off.
inductive Stop (ε : Type u) where
  | refused (reason : ε)
  | panicked
  deriving DecidableEq, Repr

def Stop.map (f : ε → δ) : Stop ε → Stop δ
  | .refused reason => .refused (f reason)
  | .panicked => .panicked

namespace Checked

def word32 (n : Nat) : Checked Nat :=
  if n ≤ Word.max32 then .ok n else .error .panic

def raise (checked : Checked α) : Except (Stop ε) α :=
  checked.mapError fun _ => .panicked

end Checked

end OlapQuery
