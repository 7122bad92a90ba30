import BlockScript.Value

/-!
# Programs

A script is written as a Python program. The tree below keeps what a block can be made of: calls,
assignments, loops, branches, functions and classes. Constructs that have no block of their own are
not told apart; they are kept as `Expr.other` and `Stmt.other`, with everything they contain in the
order in which it is visited, because a call inside a `return` or a `with` still makes its block.
-/

namespace BlockScript

namespace Program

inductive UnaryOp where
  | negate
  | plus
  | invert
  | not
deriving DecidableEq

inductive BinaryOp where
  | add
  | sub
  | mul
  | matMul
  | div
  | mod
  | pow
  | shiftLeft
  | shiftRight
  | bitOr
  | bitXor
  | bitAnd
  | floorDiv
deriving DecidableEq

inductive BoolOp where
  | and
  | or
deriving DecidableEq

inductive CompareOp where
  | eq
  | notEq
  | lt
  | le
  | gt
  | ge
  | is
  | isNot
  | inside
  | notInside
deriving DecidableEq

/-- Expressions. A comparison has at least one operator, so its first pair stands apart from the
rest of the chain. -/
inductive Expr where
  | const (v : Value)
  | name (id : String)
  | unary (op : UnaryOp) (operand : Expr)
  | binary (op : BinaryOp) (left right : Expr)
  | bool (op : BoolOp) (operands : List Expr)
  | compare (left : Expr) (op : CompareOp) (right : Expr) (rest : List (CompareOp × Expr))
  | call (function : Expr) (args : List Expr) (keywords : List (Option String × Expr))
  | attribute (owner : Expr) (field : String)
  | subscript (owner index : Expr)
  | starred (e : Expr)
  | list (items : List Expr)
  | tuple (items : List Expr)
  /-- Any other expression: its parts in the order in which they are visited. -/
  | other (parts : List Expr)
deriving Inhabited

/-- Parameters of a function: the names of the plain parameters, and the expressions of its header
(type hints and defaults of all parameters) in the order in which they are visited. -/
structure Params where
  names : List String
  parts : List Expr
deriving Inhabited

mutual

/-- Statements. -/
inductive Stmt where
  | expr (e : Expr)
  | assign (targets : List Expr) (value : Expr)
  | augAssign (target : Expr) (op : BinaryOp) (value : Expr)
  | forLoop (target iter : Expr) (body orelse : List Stmt)
  | whileLoop (test : Expr) (body orelse : List Stmt)
  | conditional (test : Expr) (body orelse : List Stmt)
  /-- A function; `trailer` holds its decorators and the type hint of its result. -/
  | functionDef (name : String) (params : Params) (body : List Stmt) (trailer : List Expr)
  /-- A class. What it inherits from has no meaning for a sprite. -/
  | classDef (name : String) (decorators : List Expr) (body : List Stmt)
  /-- Any other statement: its parts in the order in which they are visited. -/
  | other (parts : List Part)

/-- A part of a statement. -/
inductive Part where
  | expr (e : Expr)
  | stmt (s : Stmt)

end

instance : Inhabited Stmt := ⟨.other []⟩

/-- A whole program. -/
abbrev Module := List Stmt

/-! ### What can be assigned to -/

mutual

/-- Names, attributes, items, and lists of such, possibly with a star. -/
def Expr.isTarget : Expr → Bool
  | .name _ => true
  | .attribute _ _ => true
  | .subscript _ _ => true
  | .starred e => e.isTarget
  | .list items => areTargets items
  | .tuple items => areTargets items
  | _ => false

def areTargets : List Expr → Bool
  | [] => true
  | e :: rest => e.isTarget && areTargets rest

end

/-- Targets that stand for one place only. -/
def Expr.isSingleTarget : Expr → Bool
  | .name _ | .attribute _ _ | .subscript _ _ => true
  | _ => false

mutual

/-- What can be deleted: as what can be assigned to, without stars. -/
def Expr.isDeletable : Expr → Bool
  | .name _ => true
  | .attribute _ _ => true
  | .subscript _ _ => true
  | .list items => areDeletable items
  | .tuple items => areDeletable items
  | _ => false

def areDeletable : List Expr → Bool
  | [] => true
  | e :: rest => e.isDeletable && areDeletable rest

end

end Program

end BlockScript
