import BlockScript.Workspace

/-!
# Operands

What an expression comes to when it is used as an argument: a constant, a variable, or a block that
was made for it. An operand becomes an input with `Build.plug`; a variable gets a block of its own
for every input that it fills.
-/

namespace BlockScript

/-- What fills an input. -/
inductive Operand where
  | value (v : Value)
  | name (n : String)
  /-- A block. An operator without a block leaves it empty. -/
  | block (id : Option Id)

namespace Operand

/-- The constant that stands for an expression without a meaning. -/
def zero : Operand := value (.int 0)

/-- The text of a constant text. -/
def string? : Operand → Option String
  | value (.str s) => some s
  | _ => none

/-- An operand as data: variables and blocks are marked pairs. -/
def toValue : Operand → Value
  | value v => v
  | name n => .tuple [.str "__VAR__", .str n]
  | block id => .tuple [.str "__BLOCK__", Id.optionValue id]

def ofValue : Value → Operand
  | .tuple [.str "__VAR__", .str n] => name n
  | .tuple [.str "__BLOCK__", .str id] => block (some id)
  | .tuple [.str "__BLOCK__", .null] => block none
  | v => value v

def text (o : Operand) : Except Fault String := o.toValue.text

end Operand

namespace Build

/-- The constant under a block that fills an input. -/
def coveredNumber : Literal := .number "0"

/-- The input that an operand fills. Its block, if it has one, hangs under the given block. -/
def plug (o : Operand) (parent : Option Id) : Build Input := do
  match o with
  | .name n =>
    let id ← variableReporter n
    match parent with
    | some p => setParent (some id) p
    | none => pure ()
    pure (.reporter (some id) coveredNumber)
  | .block id =>
    match parent with
    | some p => setParent id p
    | none => pure ()
    pure (.reporter id coveredNumber)
  | .value v =>
    let t ← lift v.text
    pure (.literal (if v.isNumber then .number t else .text t))

def plugAll (parent : Id) : List (String × Operand) → Build (Table Input)
  | [] => pure []
  | (name, o) :: rest => do
    let i ← plug o (some parent)
    let inputs ← plugAll parent rest
    pure ((name, i) :: inputs)

end Build

end BlockScript
