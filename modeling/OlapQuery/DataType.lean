-- The types of values and expressions.

namespace OlapQuery

inductive DataType where
  | string
  | number
  | time
  | boolean
  | stringSet
  | null
  | dataset
  deriving DecidableEq, Repr, Inhabited

namespace DataType

def all : List DataType :=
  [.string,.number,.time,.boolean,.stringSet,.null,.dataset]

def name : DataType → String
  | .string => "STRING"
  | .number => "NUMBER"
  | .time => "TIME"
  | .boolean => "BOOLEAN"
  | .stringSet => "SET/STRING"
  | .null => "NULL"
  | .dataset => "DATASET"

def parse? (text : String) : Option DataType :=
  all.find? (fun type => type.name == text)

def rank : DataType → Nat
  | .string => 0
  | .number => 1
  | .time => 2
  | .boolean => 3
  | .stringSet => 4
  | .null => 5
  | .dataset => 6

-- Whether a value of the type may stand where another is wanted: null may stand anywhere.
def conformsTo (type wanted : DataType) : Bool :=
  type == wanted || type == .null

end DataType

end OlapQuery
