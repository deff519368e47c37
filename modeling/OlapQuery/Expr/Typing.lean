import OlapQuery.Expr.Basic

-- The type of an expression, given the types of the names it refers to.

namespace OlapQuery

inductive TypeError where
  | mismatch (op expected : String) (actual : DataType)
  | unknownReference (name : String)
  deriving DecidableEq, Repr

def TypeError.message : TypeError → String
  | .mismatch op expected actual => op ++ " expected " ++ expected ++ " but got " ++ actual.name
  | .unknownReference name => "Unknown reference: $" ++ name

def expectType (op : String) (wanted : List DataType) (actual : DataType) :
    Except TypeError DataType :=
  if actual == .null || wanted.contains actual then .ok actual
  else .error (.mismatch op (String.intercalate " or " (wanted.map DataType.name)) actual)

namespace UnaryOp

def resultType (op : UnaryOp) (operand : DataType) : Except TypeError DataType :=
  let expect (wanted : DataType) (result : DataType) : Except TypeError DataType :=
    (expectType op.name [wanted] operand).map (fun _ => result)
  match op with
  | .limit _ => expect .dataset .dataset
  | .count => expect .dataset .number
  | .customAggregate _ => expect .dataset .number
  | .absolute => expect .number .number
  | .not => expectType op.name [.boolean] operand
  | .regexMatch _ => expect .string .boolean
  | .substr _ _ => expect .string .string
  | .extract _ => expect .string .string
  | .lookup _ => expect .string .string
  | .timeBucket _ _ => expect .time .time
  | .timeFloor _ _ => expect .time .time
  | .timeShift _ _ _ => expect .time .time
  | .timePart _ _ => expect .time .number
  | .numberBucket _ _ => expect .number .number
  | .cast type => .ok type

end UnaryOp

namespace BinaryOp

def ignoresExpression : BinaryOp → Bool
  | .apply _ => true
  | .sort _ => true
  | .countDistinct => true
  | .member => true
  | .overlap => true
  | _ => false

-- What the operand must be, before the expression is looked at.
def operandType (op : BinaryOp) (operand : DataType) : Except TypeError DataType :=
  match op with
  | .filter | .apply _ | .sort _ | .sum | .min | .max | .average | .countDistinct =>
      expectType op.name [.dataset] operand
  | .add | .subtract | .multiply | .divide | .power => expectType op.name [.number] operand
  | .is | .member | .overlap | .fallback => .ok operand
  | .greaterThan | .greaterThanOrEqual | .lessThan | .lessThanOrEqual =>
      expectType op.name [.number,.time,.string] operand
  | .contains _ => expectType op.name [.string,.stringSet] operand
  | .concat | .indexOf => expectType op.name [.string] operand

def resultOfOperand : BinaryOp → DataType
  | .apply _ => .dataset
  | .sort _ => .dataset
  | .countDistinct => .number
  | _ => .boolean

def comparable (left right : DataType) : Bool :=
  left == right || left == .null || right == .null || (left == .stringSet && right == .string)

def resultType (op : BinaryOp) (operand expression : DataType) : Except TypeError DataType :=
  let expect (wanted : DataType) (result : DataType) : Except TypeError DataType :=
    (expectType op.name [wanted] expression).map (fun _ => result)
  match op with
  | .filter => expect .boolean .dataset
  | .sum | .average => expect .number .number
  | .min | .max => expectType op.name [.number,.time] expression
  | .add | .subtract | .multiply | .divide | .power => expect .number .number
  | .is =>
      if comparable operand expression then .ok .boolean
      else .error (.mismatch op.name operand.name expression)
  | .greaterThan | .greaterThanOrEqual | .lessThan | .lessThanOrEqual => expect operand .boolean
  | .contains _ => expect .string .boolean
  | .concat => expect .string .string
  | .indexOf => expect .string .number
  | .fallback => expect operand operand
  | .apply _ | .sort _ | .countDistinct | .member | .overlap => .ok op.resultOfOperand

end BinaryOp

namespace Expr

-- Infers the type, the operand first. The keys of a split are not looked at.
mutual
def inferType (resolve : String → Option DataType) : Expr → Except TypeError DataType
  | .literal v => .ok v.type
  | .ref name =>
      match resolve name with
      | some type => .ok type
      | none => .error (.unknownReference name)
  | .ply => .ok .dataset
  | .unary op e => do op.resultType (← inferType resolve e)
  | .binary op e x => do
      let left ← op.operandType (← inferType resolve e)
      if op.ignoresExpression then .ok op.resultOfOperand
      else op.resultType left (← inferType resolve x)
  | .junction op es => do
      expectBooleans resolve op.name es
      .ok .boolean
  | .split e _ _ => do
      let _ ← expectType "split" [.dataset] (← inferType resolve e)
      .ok .dataset

def expectBooleans (resolve : String → Option DataType) (op : String) :
    List Expr → Except TypeError Unit
  | [] => .ok ()
  | e :: rest => do
      let _ ← expectType op [.boolean] (← inferType resolve e)
      expectBooleans resolve op rest
end

end Expr

end OlapQuery
