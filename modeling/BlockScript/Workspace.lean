import BlockScript.Block
import BlockScript.Settings

/-!
# The workspace

Blocks are put together in a workspace: the blocks of the sprite at hand, the variables, lists,
messages and procedures that its scripts have named so far, and the block that the next statement
will hang from. `Build` is the type of steps that change a workspace. A step can fail, and what it
did up to then remains.

All change goes through a few steps: `fresh` issues an identifier, `put` and `update` store and
change a block, `create` makes a block and links it to the script, and the `…Named` steps find or
make what a name stands for. The rest of the compiler is written in terms of these.

Variables and procedures belong to the sprite at hand and come back when the code of a nested
sprite ends. Lists do not: a sprite opens a new scope for its lists, and that scope stays in use
until the next sprite opens another. A finished sprite therefore remembers which scope it used, and
its lists are read from that scope when everything is compiled.
-/

namespace BlockScript

/-- A variable with its first value. -/
structure Variable where
  name : String
  id : Id
  initial : Value

/-- A list with its first items. -/
structure ItemList where
  name : String
  id : Id
  items : Value

/-- A procedure of a sprite. Before it is compiled it is only announced, and has no blocks. -/
structure Procedure where
  proccode : String
  argumentIds : List Id
  argumentNames : List String
  definition : Option (Id × Id) := none

namespace Procedure

/-- The text of a procedure: its name and a mark for every argument. -/
def codeOf (name : String) (argumentNames : List String) : String :=
  argumentNames.foldl (fun code _ => code ++ " %s") name

end Procedure

/-- A sprite whose scripts are compiled; `scope` is the number of the scope of its lists. -/
structure Draft where
  name : String
  blocks : Table Block
  vars : List Variable
  scope : Nat
  broadcasts : Table Id
  soundsUsed : List String
  settings : Option SpriteSettings

/-- Everything known while scripts are compiled. -/
structure Workspace where
  issued : Nat := 0
  blocks : Table Block := []
  /-- The block that the next statement hangs from. -/
  previous : Option Id := none
  /-- The block that started the script at hand. -/
  hat : Option Id := none
  vars : List Variable := []
  /-- The scopes of lists; the last one is in use. -/
  scopes : List (List ItemList) := [[]]
  broadcasts : Table Id := []
  procedures : Table Procedure := []
  arguments : List String := []
  /-- The sounds that scripts play, each once. -/
  soundsUsed : List String := []
  drafts : List Draft := []

abbrev Build := ExceptT Fault (StateM Workspace)

namespace Workspace

def lists (w : Workspace) : List ItemList := w.scopes.getLast?.getD []

def addList (w : Workspace) (l : ItemList) : Workspace :=
  { w with scopes := w.scopes.dropLast ++ [w.lists ++ [l]] }

def scope (w : Workspace) : Nat := w.scopes.length - 1

end Workspace

namespace Build

/-- Carries out a step on a workspace: what it gives or why it failed, and the workspace after. -/
def run {α : Type} (b : Build α) (w : Workspace) : Except Fault α × Workspace :=
  StateT.run (ExceptT.run b) w

/-- A result that does not depend on the workspace. -/
def lift {α : Type} : Except Fault α → Build α
  | .ok a => pure a
  | .error e => throw e

/-! ### Identifiers and blocks -/

/-- Issues an identifier. -/
def fresh : Build Id := do
  let w ← get
  set { w with issued := w.issued + 1 }
  pure (Id.ofNat (w.issued + 1))

def put (id : Id) (b : Block) : Build Unit :=
  modify fun w => { w with blocks := w.blocks.set id b }

/-- Changes a block; it is a fault if there is none. -/
def update (id : Id) (f : Block → Block) : Build Unit := do
  let w ← get
  if w.blocks.has id then set { w with blocks := w.blocks.adjust id f }
  else throw (.missingKey (Value.quotedString id))

def updateRef (id : Option Id) (f : Block → Block) : Build Unit :=
  match id with
  | some id => update id f
  | none => throw (.missingKey "None")

/-- Hangs a block under another one. -/
def setParent (id : Option Id) (parent : Id) : Build Unit :=
  updateRef id fun b => { b with parent := some parent }

def setInput (id : Id) (name : String) (i : Input) : Build Unit :=
  update id fun b => b.setInput name i

def setInputs (id : Id) (inputs : Table Input) : Build Unit :=
  update id fun b => { b with inputs }

def setField (id : Id) (name : String) (f : Field) : Build Unit :=
  update id fun b => b.setField name f

def setPrevious (id : Option Id) : Build Unit := modify fun w => { w with previous := id }

/-- How a new block joins the others. -/
structure Placement where
  /-- The block stands on its own in the editor. -/
  topLevel : Bool := false
  /-- The block starts a script. -/
  isHat : Bool := false
  /-- The block is plugged into another one and takes no part in the script. -/
  isReporter : Bool := false

/-- A statement of the script at hand. -/
def Placement.stack : Placement := {}

/-- The start of a script. -/
def Placement.hat : Placement := { topLevel := true, isHat := true }

/-- A block with a value. -/
def Placement.reporter : Placement := { isReporter := true }

/-- Makes a block. Unless it has a value, it hangs from the previous block and becomes the previous
block itself. -/
def create (opcode : String) (place : Placement) (inputs : Table Input) : Build Id := do
  let id ← fresh
  let block : Block :=
    { opcode
      inputs
      topLevel := place.topLevel
      position := if place.topLevel then some (0, 0) else none }
  if place.isReporter then
    put id block
  else
    let previous := (← get).previous
    match previous with
    | some p => update p fun b => { b with next := some id }
    | none => pure ()
    put id { block with parent := previous }
    modify fun w =>
      { w with previous := some id, hat := if place.isHat then some id else w.hat }
  pure id

def statement (opcode : String) : Build Id := create opcode .stack []

/-- Makes a block with a value. -/
def reporter (opcode : String) : Build Id := create opcode .reporter []

def menu (opcode field : String) (value : Value) (parent : Option Id) : Build Id := do
  let id ← fresh
  put id { opcode, parent, fields := [(field, { value })], shadow := true }
  pure id

def endScript : Build Unit := modify fun w => { w with previous := none, hat := none }

/-! ### What names stand for -/

/-- The variable of a name, made with the given first value if there is none. -/
def variableNamed (name : String) (initial : Value) : Build Id := do
  match (← get).vars.find? (·.name == name) with
  | some v => pure v.id
  | none =>
    let id ← fresh
    modify fun w => { w with vars := w.vars ++ [{ name, id, initial }] }
    pure id

/-- The list of a name, made with the given first items if there is none. -/
def listNamed (name : String) (items : Value) : Build Id := do
  match (← get).lists.find? (·.name == name) with
  | some l => pure l.id
  | none =>
    let id ← fresh
    modify fun w => w.addList { name, id, items }
    pure id

def messageNamed (name : String) : Build Id := do
  match (← get).broadcasts.find? name with
  | some id => pure id
  | none =>
    let id ← fresh
    modify fun w => { w with broadcasts := w.broadcasts.set name id }
    pure id

def useSound (name : String) : Build Unit :=
  modify fun w =>
    { w with
      soundsUsed := if w.soundsUsed.contains name then w.soundsUsed else w.soundsUsed ++ [name] }

def variableReporter (name : String) : Build Id := do
  let variableId ← variableNamed name (.int 0)
  let id ← fresh
  put id { opcode := "data_variable", fields := [("VARIABLE", .named name variableId)] }
  pure id

def listReporter (name : String) : Build Id := do
  let listId ← listNamed name (.list [])
  let id ← fresh
  put id { opcode := "data_listcontents", fields := [("LIST", .named name listId)] }
  pure id

end Build

end BlockScript
