import BlockScript.Asset

/-!
# Projects

A project is a stage and some sprites. The scripts, variables, lists and messages of a sprite are
kept as data here, since they can also come from outside. `Project.toValue` is the description that
is stored in a project file.
-/

namespace BlockScript

/-- The stage. -/
structure Stage where
  backdrops : List Costume
  sounds : List Sound
  volume : Value
  tempo : Value

def Stage.toValue (s : Stage) : Value :=
  .dict [("isStage", .bool true), ("name", .str "Stage"), ("variables", .dict []),
    ("lists", .dict []), ("broadcasts", .dict []), ("blocks", .dict []), ("comments", .dict []),
    ("currentCostume", .int 0), ("costumes", .list (s.backdrops.map (·.toValue))),
    ("sounds", .list (s.sounds.map (·.toValue))), ("volume", s.volume), ("layerOrder", .int 0),
    ("tempo", s.tempo), ("videoTransparency", .int 50), ("videoState", .str "on"),
    ("textToSpeechLanguage", .null)]

/-- How a sprite stands on the stage. -/
structure Pose where
  x : Value
  y : Value := .int 0
  size : Value := .int 100
  direction : Value := .int 90
  rotationStyle : Value := .str "all around"
  visible : Value := .bool true
  draggable : Value := .bool false

/-- A sprite. -/
structure Sprite where
  name : Value
  vars : Value
  lists : Value
  broadcasts : Value
  blocks : Value
  costumes : List Costume
  sounds : List Sound
  /-- How many targets are drawn before it. -/
  layer : Nat
  pose : Pose

def Sprite.toValue (s : Sprite) : Value :=
  .dict [("isStage", .bool false), ("name", s.name), ("variables", s.vars), ("lists", s.lists),
    ("broadcasts", s.broadcasts), ("blocks", s.blocks), ("comments", .dict []),
    ("currentCostume", .int 0), ("costumes", .list (s.costumes.map (·.toValue))),
    ("sounds", .list (s.sounds.map (·.toValue))), ("volume", .int 100),
    ("layerOrder", .int s.layer),
    ("visible", s.pose.visible), ("x", s.pose.x), ("y", s.pose.y), ("size", s.pose.size),
    ("direction", s.pose.direction), ("draggable", s.pose.draggable),
    ("rotationStyle", s.pose.rotationStyle)]

/-- A stage with its sprites. -/
structure Project where
  stage : Stage
  sprites : List Sprite

def Project.toValue (p : Project) : Value :=
  .dict [("targets", .list (p.stage.toValue :: p.sprites.map (·.toValue))), ("monitors", .list []),
    ("extensions", .list []),
    ("meta", .dict [("semver", .str "3.0.0"), ("vm", .str "0.2.0"),
      ("agent", .str "Python-to-Scratch Transpiler")])]

end BlockScript
