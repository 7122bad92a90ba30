import BlockScript.Proofs.CoreLanguage
import BlockScript.Proofs.Frame

/-!
# How core scripts lie in a table of blocks

What it means that a table of blocks holds a term, a condition or a script. The relations follow the
structure of the core language and say nothing about how the blocks got there: an operation is a
block whose two inputs hold the operands, a condition is a block in turn, and a script is a chain of
blocks, one for each item and each the successor of the one before, whose bodies are chains again.
The chain of a script ends where the script ends.

Of a block the relations fix everything but its parent: its kind, its inputs, its fields, its
successor if it is a statement, and that it neither stands on its own nor belongs to another block
as a menu does.
-/

namespace BlockScript

/-- The table has the given block, perhaps with other links. -/
def Table.At (t : Table Block) (id : Id) (b : Block) : Prop :=
  ∃ b', t.find? id = some b' ∧ b.Like b'

namespace Core

variable (t : Table Block) (vs : List Variable)

/-- A block that covers the constant of an input. -/
def covering (id : Id) : Input := .reporter (some id) Build.coveredNumber

/-- The input holds the term. -/
def Term.Fills : Term → Input → Prop
  | text s, i => i = .literal (.text s)
  | number k, i => i = .literal (.number (toString k))
  | named x, i => ∃ id, i = covering id ∧ ∃ v ∈ vs, v.name = x ∧
      t.At id { opcode := "data_variable", fields := [("VARIABLE", .named x v.id)] }
  | operation op left right, i => ∃ id, i = covering id ∧ ∃ l r,
      t.At id { opcode := op.opcode, inputs := [("NUM1", l), ("NUM2", r)] } ∧
      left.Fills l ∧ right.Fills r

/-- The inputs of a command hold its arguments in turn, as long as there are both. -/
def Term.FillInTurn : List String → List Term → Table Input → Prop
  | name :: names, a :: args, inputs =>
    ∃ i rest, inputs = (name, i) :: rest ∧ a.Fills t vs i ∧ FillInTurn names args rest
  | _, _, inputs => inputs = []

/-- The block is the condition. -/
def Cond.Stands : Cond → Id → Prop
  | compare r left right, id => ∃ base l r',
      (if r.negated then
        t.At id { opcode := "operator_not", inputs := [("OPERAND", .block base)] }
      else id = base) ∧
      t.At base { opcode := r.opcode, inputs := [("OPERAND1", l), ("OPERAND2", r')] } ∧
      left.Fills t vs l ∧ right.Fills t vs r'
  | both op left right, id => ∃ l r,
      t.At id { opcode := op.opcode, inputs := [("OPERAND1", .block l), ("OPERAND2", .block r)] } ∧
      left.Stands l ∧ right.Stands r
  | not c, id => ∃ d,
      t.At id { opcode := "operator_not", inputs := [("OPERAND", .block d)] } ∧ c.Stands d

/-- The input for a body, if the body has a block. -/
def slot (input : String) : Option Id → Table Input
  | some id => [(input, .block id)]
  | none => []

def Item.isSkip : Item → Bool
  | skip => true
  | _ => false

mutual

/-- The block is the item. -/
def Item.Lies : Item → Id → Prop
  | call opcode inputs args, id => ∃ filled,
      t.At id { opcode, inputs := filled } ∧ Term.FillInTurn t vs inputs args filled
  | assign x e, id => ∃ v ∈ vs, v.name = x ∧ ∃ i,
      t.At id
        { opcode := "data_setvariableto"
          inputs := [("VALUE", i)]
          fields := [("VARIABLE", .named x v.id)] } ∧
      e.Fills t vs i
  | change x e, id => ∃ v ∈ vs, v.name = x ∧ ∃ i,
      t.At id
        { opcode := "data_changevariableby"
          inputs := [("VALUE", i)]
          fields := [("VARIABLE", .named x v.id)] } ∧
      e.Fills t vs i
  | choice c body orelse, id => ∃ d first second,
      t.At id
        { opcode := if orelse.isEmpty then "control_if" else "control_if_else"
          inputs := ("CONDITION", .block d) :: slot "SUBSTACK" first ++ slot "SUBSTACK2" second } ∧
      c.Stands t vs d ∧ Item.Chain body first ∧ Item.Chain orelse second
  | loop times body, id => ∃ i first,
      t.At id { opcode := "control_repeat", inputs := ("TIMES", i) :: slot "SUBSTACK" first } ∧
      times.Fills t vs i ∧ Item.Chain body first
  | skip, _ => True

/-- **A chain of blocks is the script**: from the first block on, each item has its block, the next
item is its successor, and there is no successor after the last one. -/
def Item.Chain : Script → Option Id → Prop
  | [], first => first = none
  | i :: rest, first =>
    if i.isSkip then Item.Chain rest first
    else ∃ id b, first = some id ∧ t.find? id = some b ∧ i.Lies id ∧ Item.Chain rest b.next

end

/-- The block starts the script of a method. -/
def Method.Starts (m : Method) (id : Id) : Prop :=
  ∃ b, t.find? id = some b ∧
    Block.Like { opcode := m.start.opcode, topLevel := true, position := some (0, 0) } b ∧
    Item.Chain t vs m.body b.next

/-! ### How many blocks there are -/

/-- The number of blocks of a term that is plugged in. -/
def Term.size : Term → Nat
  | text _ => 0
  | number _ => 0
  | named _ => 1
  | operation _ left right => left.size + right.size + 1

def Cond.size : Cond → Nat
  | compare r left right => left.size + right.size + 1 + (if r.negated then 1 else 0)
  | both _ left right => right.size + left.size + 1
  | not c => c.size + 1

/-- The number of blocks of the arguments that a command takes. -/
def Term.sizeInTurn : List String → List Term → Nat
  | _ :: names, a :: args => a.size + sizeInTurn names args
  | _, _ => 0

mutual

def Item.size : Item → Nat
  | call _ inputs args => Term.sizeInTurn inputs args + 1
  | assign _ e => e.size + 1
  | change _ e => e.size + 1
  | choice c body orelse => c.size + 1 + Item.sizes body + Item.sizes orelse
  | loop times body => times.size + 1 + Item.sizes body
  | skip => 0

def Item.sizes : Script → Nat
  | [] => 0
  | i :: rest => i.size + Item.sizes rest

end

def Method.size (m : Method) : Nat := Item.sizes m.body + 1

/-- **A table of blocks is the class**: the blocks that stand on their own start the scripts of the
methods, one each and in order, and there are no other blocks than those of the scripts. -/
structure Class.LaidOut (c : Class) (t : Table Block) (vs : List Variable) : Prop where
  nodup : t.keys.Nodup
  starts : List.Forall₂ (Method.Starts t vs) c.methods t.tops
  size : t.length = (c.methods.map Method.size).sum

/-- A target is the class: it has its name, its settings and its blocks, and nothing else. -/
structure Class.Realized (c : Class) (t : Target) : Prop where
  name : t.name = c.name
  laidOut : c.LaidOut t.blocks t.vars
  lists : t.lists = []
  broadcasts : t.broadcasts = []
  soundsUsed : t.soundsUsed = some []
  settings : t.settings = c.settings

end Core

end BlockScript
