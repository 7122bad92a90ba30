import BlockScript.Program.Tree
import BlockScript.Settings

/-!
# Settings written in a program

A sprite is described by a call `sprite(…)` that decorates its class, the stage by a call
`configure_stage(…)` among the statements of the program. The calls are not carried out; what they
say is read off their arguments. Only constants are read, and lists of `Costume(…)`, `Sound(…)` and
`Backdrop(…)` calls with constants as arguments. Anything else is passed over.
-/

namespace BlockScript

namespace Program

namespace Expr

def callOf? (function : String) : Expr → Option (List Expr × List (Option String × Expr))
  | .call (.name n) args keywords => if n = function then some (args, keywords) else none
  | _ => none

def constant? : Expr → Option Value
  | .const v => some v
  | _ => none

def constantAt (args : List Expr) (i : Nat) : Value := (args[i]?.bind constant?).getD .null

/-- Keyword arguments that are constants, in order. -/
def constantKeywords (keywords : List (Option String × Expr)) : List (String × Value) :=
  keywords.filterMap fun
    | (some k, .const v) => some (k, v)
    | _ => none

/-- What a call of `Costume` describes. -/
def costumeSpec? (e : Expr) : Option CostumeSpec := do
  let (args, keywords) ← e.callOf? "Costume"
  let spec : CostumeSpec := { name := constantAt args 0, filePath := constantAt args 1 }
  some <| (constantKeywords keywords).foldl (fun spec (k, v) =>
    if k = "svg_string" then { spec with svg := v }
    else if k = "rotation_center_x" then { spec with centerX := v }
    else if k = "rotation_center_y" then { spec with centerY := v }
    else spec) spec

/-- What a call of `Sound` describes. -/
def soundSpec? (e : Expr) : Option SoundSpec := do
  let (args, _) ← e.callOf? "Sound"
  some { name := constantAt args 0, filePath := constantAt args 1 }

/-- What a call of `Backdrop` describes. -/
def backdropSpec? (e : Expr) : Option BackdropSpec := do
  let (args, keywords) ← e.callOf? "Backdrop"
  let spec : BackdropSpec := { name := constantAt args 0, filePath := constantAt args 1 }
  some <| (constantKeywords keywords).foldl (fun spec (k, v) =>
    if k = "svg_string" then { spec with svg := v } else spec) spec

end Expr

/-- One keyword argument of `sprite`. -/
def applySpriteSetting (s : SpriteSettings) : Option String × Expr → SpriteSettings
  | (some "costumes", .list items) =>
    { s with costumes := s.costumes ++ items.filterMap Expr.costumeSpec? }
  | (some "sounds", .list items) =>
    { s with sounds := s.sounds ++ items.filterMap Expr.soundSpec? }
  | (some k, .const v) =>
    match k with
    | "x" => { s with x := v }
    | "y" => { s with y := v }
    | "size" => { s with size := v }
    | "direction" => { s with direction := v }
    | "rotation_style" => { s with rotationStyle := v }
    | "visible" => { s with visible := v }
    | "draggable" => { s with draggable := v }
    | _ => s
  | _ => s

/-- The settings of a sprite: those of the first decorator that is a call of `sprite`. -/
def spriteSettings? (decorators : List Expr) : Option SpriteSettings :=
  (decorators.findSome? (Expr.callOf? "sprite")).map fun (_, keywords) =>
    keywords.foldl applySpriteSetting {}

/-- One keyword argument of `configure_stage`. -/
def applyStageSetting (s : StageSettings) : Option String × Expr → StageSettings
  | (some "backdrops", .list items) =>
    { s with backdrops := s.backdrops ++ items.filterMap Expr.backdropSpec? }
  | (some "sounds", .list items) =>
    { s with sounds := s.sounds ++ items.filterMap Expr.soundSpec? }
  | (some k, .const v) =>
    match k with
    | "tempo" => { s with tempo := v }
    | "volume" => { s with volume := v }
    | _ => s
  | _ => s

/-- The call of `configure_stage` that a statement consists of. -/
def Stmt.stageCall? : Stmt → Option (List Expr × List (Option String × Expr))
  | .expr e => e.callOf? "configure_stage"
  | _ => none

/-- The settings of the stage: those of the first statement that is a call of `configure_stage`. -/
def stageSettings? (program : Module) : Option StageSettings :=
  (program.findSome? Stmt.stageCall?).map fun (_, keywords) =>
    keywords.foldl applyStageSetting {}

end Program

end BlockScript
