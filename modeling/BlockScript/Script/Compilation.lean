import BlockScript.Program.Statement
import BlockScript.Script.Statement

/-!
# Compilation

A program becomes a list of targets, one for each sprite, and the settings of the stage. Classes are
sprites; functions outside of classes whose name starts with `when_` belong to a sprite of their
own, which comes first. Other statements outside of classes are passed over.
-/

namespace BlockScript

/-- A sprite with its scripts. -/
structure Target where
  name : String
  blocks : Table Block
  vars : List Variable
  lists : List ItemList
  broadcasts : Table Id
  /-- The sounds that the scripts play; not known of the sprite that has no class. -/
  soundsUsed : Option (List String)
  settings : Option SpriteSettings

namespace Target

def textLe (a b : String) : Bool := a ≤ b

def variablesValue (vs : List Variable) : Value :=
  .dict (vs.map fun v => (v.id, .list [.str v.name, v.initial]))

def listsValue (ls : List ItemList) : Value :=
  .dict (ls.map fun l => (l.id, .list [.str l.name, l.items]))

def messagesValue (broadcasts : Table Id) : Value :=
  .dict (broadcasts.map fun (name, id) => (name, .str id))

def blocksValue (blocks : Table Block) : Value :=
  .dict (blocks.map fun (id, b) => (id, b.toValue))

/-- Texts in order, as data. -/
def sortedValue (texts : List String) : Value := .list ((texts.mergeSort textLe).map .str)

def toValue (t : Target) : Value :=
  .dict <|
    [("name", .str t.name), ("blocks", blocksValue t.blocks),
      ("variables", variablesValue t.vars), ("lists", listsValue t.lists),
      ("broadcasts", messagesValue t.broadcasts)] ++
    (match t.soundsUsed with
      | some sounds => [("sounds_used", sortedValue sounds)]
      | none => []) ++
    (match t.settings with
      | some s => [("sprite_config", s.toValue)]
      | none => [])

end Target

/-- What a program compiles to. -/
structure Compilation where
  targets : List Target
  stage : Option StageSettings

def Compilation.toValue (c : Compilation) : Value :=
  .dict [("targets", .list (c.targets.map (·.toValue))),
    ("stage_config", match c.stage with | some s => s.toValue | none => .null)]

namespace Workspace

def listsOf (w : Workspace) (scope : Nat) : List ItemList := w.scopes[scope]?.getD []

/-- A finished sprite with its lists. -/
def target (w : Workspace) (d : Draft) : Target where
  name := d.name
  blocks := d.blocks
  vars := d.vars
  lists := w.listsOf d.scope
  broadcasts := d.broadcasts
  soundsUsed := some d.soundsUsed
  settings := d.settings

/-- The sprite of the functions outside of classes. -/
def defaultTarget (w : Workspace) : Target where
  name := "Sprite1"
  blocks := w.blocks
  vars := w.vars
  lists := w.lists
  broadcasts := w.broadcasts
  soundsUsed := none
  settings := none

def targets (w : Workspace) : List Target :=
  (if w.blocks.isEmpty then [] else [w.defaultTarget]) ++ w.drafts.map w.target

end Workspace

namespace Program

/-- What a statement outside of classes and functions makes. -/
def Stmt.visitTop : Stmt → Build Unit
  | .classDef name decorators body => (Stmt.classDef name decorators body).visit
  | .functionDef name params body trailer =>
    if Text.startsWith name "when_" then (Stmt.functionDef name params body trailer).visit
    else pure ()
  | _ => pure ()

end Program

namespace Build

/-- Compiles a program in a workspace that is emptied first. Identifiers go on where they stopped.
-/
def compile (source : String) : Build Compilation := do
  modify fun w => { issued := w.issued }
  let program ← lift (Program.parse source)
  program.forM (·.visitTop)
  let w ← get
  pure { targets := w.targets, stage := Program.stageSettings? program }

end Build

end BlockScript
