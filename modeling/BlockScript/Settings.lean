import BlockScript.Value

/-!
# Settings of sprites and of the stage

What a program says about the looks and sounds of a sprite or of the stage, apart from its scripts.
Every setting is a constant of the program, of whatever type: it is checked only when the project is
put together. `toValue` is the form in which settings travel to that step.
-/

namespace BlockScript

/-- A costume: from a file, or drawn by a text in SVG. -/
structure CostumeSpec where
  name : Value := .null
  filePath : Value := .null
  svg : Value := .null
  centerX : Value := .null
  centerY : Value := .null

def CostumeSpec.toValue (c : CostumeSpec) : Value :=
  .dict [("name", c.name), ("file_path", c.filePath), ("svg_string", c.svg),
    ("rotation_center_x", c.centerX), ("rotation_center_y", c.centerY)]

/-- A sound from a file. -/
structure SoundSpec where
  name : Value := .null
  filePath : Value := .null

def SoundSpec.toValue (s : SoundSpec) : Value :=
  .dict [("name", s.name), ("file_path", s.filePath)]

/-- A backdrop of the stage. -/
structure BackdropSpec where
  name : Value := .null
  filePath : Value := .null
  svg : Value := .null

def BackdropSpec.toValue (b : BackdropSpec) : Value :=
  .dict [("name", b.name), ("file_path", b.filePath), ("svg_string", b.svg)]

/-- Settings of a sprite. -/
structure SpriteSettings where
  costumes : List CostumeSpec := []
  sounds : List SoundSpec := []
  x : Value := .int 0
  y : Value := .int 0
  size : Value := .int 100
  direction : Value := .int 90
  rotationStyle : Value := .str "all around"
  visible : Value := .bool true
  draggable : Value := .bool false

def SpriteSettings.toValue (s : SpriteSettings) : Value :=
  .dict [("costumes", .list (s.costumes.map (·.toValue))),
    ("sounds", .list (s.sounds.map (·.toValue))), ("x", s.x), ("y", s.y), ("size", s.size),
    ("direction", s.direction), ("rotation_style", s.rotationStyle), ("visible", s.visible),
    ("draggable", s.draggable)]

/-- Settings of the stage. -/
structure StageSettings where
  backdrops : List BackdropSpec := []
  sounds : List SoundSpec := []
  tempo : Value := .int 60
  volume : Value := .int 100

def StageSettings.toValue (s : StageSettings) : Value :=
  .dict [("backdrops", .list (s.backdrops.map (·.toValue))),
    ("sounds", .list (s.sounds.map (·.toValue))), ("tempo", s.tempo), ("volume", s.volume)]

end BlockScript
