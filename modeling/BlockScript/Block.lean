import BlockScript.Json.Write

/-!
# Blocks

A script is a graph of blocks. Blocks are kept by identifier; a block names the block below it
(`next`), the block it hangs from (`parent`), and in its inputs the blocks that are plugged into it.
An input says how it is filled: by a constant, by a menu of its own, by a block in a slot without a
constant (a condition or the body of a loop), or by a block that covers a constant.

`Block.toValue` is the form of a block in a project file.
-/

namespace BlockScript

/-- The identifier of a block, a variable, a list or a message. -/
abbrev Id := String

/-- The `n`-th identifier: `n` in hexadecimal, twenty digits wide. -/
def Id.ofNat (n : Nat) : Id := Value.hex 20 n

/-- An identifier that may be absent, as data. -/
def Id.optionValue : Option Id → Value
  | some id => .str id
  | none => .null

/-- A constant in an input, or the name of something that is shown like a constant. -/
inductive Literal where
  | number (text : String)
  | color (text : String)
  | text (text : String)
  | messageName (name : String) (id : Id)
  | variableName (name : String) (id : Id)

namespace Literal

/-- A literal in a project file: the number of its kind and its text. -/
def toValue : Literal → Value
  | number t => .list [.int 4, .str t]
  | color t => .list [.int 9, .str t]
  | text t => .list [.int 10, .str t]
  | messageName name id => .list [.int 11, .str name, .str id]
  | variableName name id => .list [.int 12, .str name, .str id]

end Literal

/-- How an input of a block is filled. -/
inductive Input where
  /-- A constant. -/
  | literal (l : Literal)
  | menu (id : Id)
  | block (id : Id)
  | reporter (id : Option Id) (covered : Literal)
  | embedded (l : Literal) (covered : Literal)
  /-- Data that was given as it stands. -/
  | given (v : Value)

namespace Input

def toValue : Input → Value
  | literal l => .list [.int 1, l.toValue]
  | menu id => .list [.int 1, .str id]
  | block id => .list [.int 2, .str id]
  | reporter id covered => .list [.int 3, Id.optionValue id, covered.toValue]
  | embedded l covered => .list [.int 3, l.toValue, covered.toValue]
  | given v => v

end Input

/-- A choice made on the block itself. What is chosen from the project has an identifier. -/
structure Field where
  value : Value
  id : Option Id := none

namespace Field

def word (s : String) : Field := { value := .str s }

/-- A field that names a variable, a list or a message. -/
def named (name : String) (id : Id) : Field := { value := .str name, id := some id }

def toValue (f : Field) : Value := .list [f.value, Id.optionValue f.id]

end Field

/-- What a block of a custom procedure says about it. Only the prototype tells the names of the
arguments; their defaults are empty. -/
structure Mutation where
  proccode : String
  argumentIds : List Id
  argumentNames : Option (List String) := none

namespace Mutation

def listText (items : List String) : String :=
  "[" ++ String.intercalate ", " (items.map Json.stringText) ++ "]"

def toValue (m : Mutation) : Value :=
  .dict <|
    [("tagName", .str "mutation"), ("children", .list []), ("proccode", .str m.proccode),
      ("argumentids", .str (listText m.argumentIds))] ++
    (match m.argumentNames with
      | some names =>
        [("argumentnames", .str (listText names)),
          ("argumentdefaults", .str (listText (names.map fun _ => "")))]
      | none => []) ++
    [("warp", .str "false")]

end Mutation

/-- A block. A shadow is a menu or a parameter that belongs to another block. -/
structure Block where
  opcode : String
  next : Option Id := none
  parent : Option Id := none
  inputs : Table Input := []
  fields : Table Field := []
  shadow : Bool := false
  topLevel : Bool := false
  /-- Where the block stands in the editor. -/
  position : Option (Int × Int) := none
  mutation : Option Mutation := none

namespace Block

def setInput (b : Block) (name : String) (i : Input) : Block :=
  { b with inputs := b.inputs.set name i }

def setField (b : Block) (name : String) (f : Field) : Block :=
  { b with fields := b.fields.set name f }

def toValue (b : Block) : Value :=
  .dict <|
    [("opcode", .str b.opcode), ("next", Id.optionValue b.next),
      ("parent", Id.optionValue b.parent),
      ("inputs", .dict (b.inputs.map fun (k, i) => (k, i.toValue))),
      ("fields", .dict (b.fields.map fun (k, f) => (k, f.toValue))),
      ("shadow", .bool b.shadow), ("topLevel", .bool b.topLevel)] ++
    (match b.position with
      | some (x, y) => [("x", .int x), ("y", .int y)]
      | none => []) ++
    (match b.mutation with
      | some m => [("mutation", m.toValue)]
      | none => [])

end Block

end BlockScript
