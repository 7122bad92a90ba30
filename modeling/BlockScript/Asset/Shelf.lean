import BlockScript.Asset.Load

/-!
# A shelf of assets

A shelf collects the bytes of assets under their stored names while costumes, backdrops and sounds
are added to a project one by one.
-/

namespace BlockScript

/-- Assets, and the directory in which their paths are read. -/
structure Shelf where
  base : Value
  assets : Table Bytes := []

namespace Shelf

/-- A shelf that reads paths in a directory, or else in the working directory. -/
def new (base : Value) : Action Shelf := do
  if base.truthy then pure { base := base }
  else
    let here ← Action.workingDirectory
    pure { base := .str here }

def keep (s : Shelf) (name : String) (b : Bytes) : Shelf := { s with assets := s.assets.set name b }

/-- Adds a costume: a drawing if there is one, else a file, else a disc. -/
def addCostume (s : Shelf) (name path svg centerX centerY : Value) : Action (Costume × Shelf) := do
  let (c, b) ←
    if svg.truthy then Action.lift (Asset.costumeDrawing name svg centerX centerY)
    else if path.truthy then Asset.costumeFile name path centerX centerY s.base
    else Action.lift (Asset.discCostume name Asset.discColor (.int 100) (.int 100))
  pure (c, s.keep c.md5ext b)

/-- Adds a backdrop: a drawing if there is one, else a file. -/
def addBackdrop (s : Shelf) (name path svg : Value) : Action (Costume × Shelf) := do
  let (c, b) ←
    if svg.truthy then Action.lift (Asset.backdropDrawing name svg)
    else if path.truthy then Asset.backdropFile name path s.base
    else throw (.badValue "Must provide file_path or svg_string for backdrop")
  pure (c, s.keep c.md5ext b)

def addSound (s : Shelf) (name path : Value) : Action (Sound × Shelf) := do
  let (sound, b) ← Asset.soundFile name path s.base
  match sound.md5ext with
  | .str key => pure (sound, s.keep key b)
  | _ => pure (sound, s)

end Shelf

end BlockScript
