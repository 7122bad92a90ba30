import BlockScript.Program.Tree
import BlockScript.Script.Call

/-!
# Expressions

The meaning of an expression in each of its roles: `Expr.meaning` goes through the expression once,
and every construct says how its meaning comes from those of its parts.

As an argument, an arithmetic operator is a block and a call is the block that the call makes; other
constructs have no block and stand for zero. As a condition, comparisons, `and`, `or`, `not`, calls
and the two truth values have blocks. A construct without a block of its own, used as a statement,
passes on to its parts.
-/

namespace BlockScript

open Build

namespace Program

/-- The block of an arithmetic operator. Whole division has none of its own. -/
def BinaryOp.opcode? : BinaryOp → Option String
  | .add => some "operator_add"
  | .sub => some "operator_subtract"
  | .mul => some "operator_multiply"
  | .div => some "operator_divide"
  | .mod => some "operator_mod"
  | .floorDiv => some "operator_divide"
  | _ => none

/-- The block of a comparison, and whether its answer has to be negated. -/
def CompareOp.opcode? : CompareOp → Option (String × Bool)
  | .gt => some ("operator_gt", false)
  | .lt => some ("operator_lt", false)
  | .eq => some ("operator_equals", false)
  | .notEq => some ("operator_equals", true)
  | .ge => some ("operator_lt", true)
  | .le => some ("operator_gt", true)
  | _ => none

def BoolOp.opcode : BoolOp → String
  | .and => "operator_and"
  | .or => "operator_or"

end Program

namespace Meaning

/-- A construct that has neither value nor condition; as a statement it does what is given. -/
def silent (effect : Build Unit) : Meaning where
  operand := pure .zero
  condition := pure none
  effect := effect

def walk (parts : List Meaning) : Meaning := silent (parts.forM (·.effect))

def withOperands (opcode first second : String) (a b : Operand) : Build Id := do
  let id ← reporter opcode
  let inputs ← plugAll id [(first, a), (second, b)]
  setInputs id inputs
  pure id

def negation (condition : Option Id) : Build Id := do
  let id ← reporter "operator_not"
  plugCondition id "OPERAND" condition
  pure id

/-- A condition that always gives the same answer: one equals one, or one equals zero. -/
def constantCondition (b : Bool) : Build Id := do
  let id ← reporter "operator_equals"
  setInput id "OPERAND1" (.literal (.text "1"))
  setInput id "OPERAND2" (.literal (.text (if b then "1" else "0")))
  pure id

def const (v : Value) : Meaning where
  operand := pure (.value v)
  condition :=
    match v with
    | .bool b => do
      let id ← constantCondition b
      pure (some id)
    | _ => pure none
  effect := pure ()

def name (n : String) : Meaning where
  operand := pure (.name n)
  condition := pure none
  effect := pure ()

/-- A sign before a number changes the number; before anything else a minus gives zero. -/
def unary (op : Program.UnaryOp) (m : Meaning) : Meaning where
  operand :=
    match op with
    | .negate => do
      match ← m.operand with
      | .value v => pure (.value (v.negated?.getD (.int 0)))
      | _ => pure .zero
    | .plus => m.operand
    | _ => pure .zero
  condition :=
    match op with
    | .not => do
      let c ← m.condition
      let id ← negation c
      pure (some id)
    | _ => pure none
  effect := m.effect

/-- The block of an arithmetic operator, if there is one. -/
def arithmetic (op : Program.BinaryOp) (left right : Meaning) : Build (Option Id) :=
  match op.opcode? with
  | none => pure none
  | some opcode => do
    let a ← left.operand
    let b ← right.operand
    let id ← withOperands opcode "NUM1" "NUM2" a b
    pure (some id)

def binary (op : Program.BinaryOp) (left right : Meaning) : Meaning where
  operand := do
    let id ← arithmetic op left right
    pure (.block id)
  condition := pure none
  effect := do
    let _ ← arithmetic op left right

/-- The block of a comparison. The operands are evaluated even if there is no block. -/
def comparison (op : Program.CompareOp) (left right : Meaning) : Build (Option Id) := do
  let a ← left.operand
  let b ← right.operand
  match op.opcode? with
  | none => pure none
  | some (opcode, negated) =>
    let id ← withOperands opcode "OPERAND1" "OPERAND2" a b
    if negated then
      let n ← negation (some id)
      pure (some n)
    else pure (some id)

/-- Only the first operator of a chain is compared. -/
def compare (op : Program.CompareOp) (left right : Meaning) : Meaning where
  operand := pure .zero
  condition := comparison op left right
  effect := do
    let _ ← comparison op left right

/-- Conditions joined from the last to the first, so that `a and b and c` is `a and (b and c)`. -/
def joined (opcode : String) : List Meaning → Build (Option Id)
  | [] => pure none
  | [m] => m.condition
  | m :: rest => do
    let right ← joined opcode rest
    let left ← m.condition
    let id ← reporter opcode
    plugCondition id "OPERAND1" left
    plugCondition id "OPERAND2" right
    pure (some id)

def bool (op : Program.BoolOp) (operands : List Meaning) : Meaning where
  operand := pure .zero
  condition := joined op.opcode operands
  effect := do
    let _ ← joined op.opcode operands

/-- A call of something without a name makes nothing. -/
def called (function : Option String) (args : List Meaning) : Build (Option Id) :=
  match function with
  | some n => Build.call n args
  | none => pure none

def call (function : Option String) (args : List Meaning) : Meaning where
  operand := do
    match ← called function args with
    | some id => pure (.block (some id))
    | none => pure .zero
  condition := called function args
  effect := do
    let _ ← called function args

end Meaning

namespace Program

/-- The name by which a function is called; what it is an attribute of does not matter. -/
def Expr.functionName? : Expr → Option String
  | .name n => some n
  | .attribute _ n => some n
  | _ => none

mutual

def Expr.meaning : Expr → Meaning
  | .const v => .const v
  | .name n => .name n
  | .unary op e => .unary op e.meaning
  | .binary op left right => .binary op left.meaning right.meaning
  | .bool op operands => .bool op (meanings operands)
  | .compare left op right _ => .compare op left.meaning right.meaning
  | .call function args _ => .call function.functionName? (meanings args)
  | .attribute owner _ => .walk [owner.meaning]
  | .subscript owner index => .walk [owner.meaning, index.meaning]
  | .starred e => .walk [e.meaning]
  | .list items => .walk (meanings items)
  | .tuple items => .walk (meanings items)
  | .other parts => .walk (meanings parts)
termination_by structural e => e

def meanings : List Expr → List Meaning
  | [] => []
  | e :: rest => e.meaning :: meanings rest
termination_by structural es => es

end

end Program

end BlockScript
