import BlockScript.Catalog.Cache
import BlockScript.Project
import BlockScript.Project.Embedded
import BlockScript.Script.Compilation

/-!
# Putting a project together

What a program compiles to has scripts but no pictures. Here each sprite and the stage get their
costumes, backdrops and sounds.

* What the program itself declares comes first. A file that cannot be loaded is reported and left
  out, and the others are not affected.
* A sprite without costumes of its own takes those of the published sprite of its name, and its
  sounds too if it has none.
* A sprite that still has no costume is a cat.
* A sound that a script plays is added from the catalog, unless the sprite has a sound of that name.

Where no resources are at hand, nothing is loaded: neither what is declared nor what is published.
-/

namespace BlockScript

/-- A project, and the bytes of the assets that its program declares. -/
structure Assembly where
  project : Project
  assets : Table Bytes

namespace Assembly

/-! ### Declared assets -/

/-- Loads one declared asset, or reports why not. -/
def loadOne {α : Type} (kind : AssetKind) (load : Value → Action (Option (α × Bytes)))
    (info : Value) : Action (Option (α × Bytes)) := do
  match ← Action.attempt (load info) with
  | .ok found => pure found
  | .error e =>
    let name ← Action.lift (info.get "name")
    let text ← Action.lift name.text
    Action.print ("  Warning: Could not load " ++ kind.word ++ " '" ++ text ++ "': " ++ e.message)
    pure none

/-- Loads what is declared under a key of some settings; nothing is declared if the key is missing
or its value is empty. -/
def loadListed {α : Type} (kind : AssetKind) (load : Value → Action (Option (α × Bytes)))
    (settings : Value) (key : String) : Action (List (α × Bytes)) := do
  let listed ← Action.lift (settings.get key)
  if listed.truthy then
    let infos ← Action.lift listed.iterate
    let found ← Action.each (loadOne kind load) infos
    pure (found.filterMap id)
  else pure []

/-- A declared backdrop: a drawing, or else a file. -/
def backdropOf (base info : Value) : Action (Option (Costume × Bytes)) := do
  let svg ← Action.lift (info.get "svg_string")
  if svg.truthy then
    let name ← Action.lift (info.key "name")
    let found ← Action.lift (Asset.backdropDrawing name svg)
    pure (some found)
  else
    let path ← Action.lift (info.get "file_path")
    if path.truthy then
      let name ← Action.lift (info.key "name")
      let found ← Asset.backdropFile name path base
      pure (some found)
    else pure none

/-- A declared costume: a drawing, or else a file. -/
def costumeOf (base info : Value) : Action (Option (Costume × Bytes)) := do
  let svg ← Action.lift (info.get "svg_string")
  if svg.truthy then
    let name ← Action.lift (info.key "name")
    let x ← Action.lift (info.get "rotation_center_x")
    let y ← Action.lift (info.get "rotation_center_y")
    let found ← Action.lift (Asset.costumeDrawing name svg x y)
    pure (some found)
  else
    let path ← Action.lift (info.get "file_path")
    if path.truthy then
      let name ← Action.lift (info.key "name")
      let x ← Action.lift (info.get "rotation_center_x")
      let y ← Action.lift (info.get "rotation_center_y")
      let found ← Asset.costumeFile name path x y base
      pure (some found)
    else pure none

def soundOf (base info : Value) : Action (Option (Sound × Bytes)) := do
  let path ← Action.lift (info.get "file_path")
  if path.truthy then
    let name ← Action.lift (info.key "name")
    let found ← Asset.soundFile name path base
    pure (some found)
  else pure none

def costumeAssets (found : List (Costume × Bytes)) : List (String × Bytes) :=
  found.map fun (c, b) => (c.md5ext, b)

def soundAssets (found : List (Sound × Bytes)) : List (String × Bytes) :=
  found.filterMap fun (s, b) =>
    match s.md5ext with
    | .str name => some (name, b)
    | _ => none

/-! ### The stage -/

/-- The stage without settings. -/
def plainStage : Stage := ⟨[Drawing.plainBackdrop], [], .int 100, .int 60⟩

/-- The stage with the given settings, and the assets it declares. -/
def stageOf (base settings : Value) : Action (Stage × List (String × Bytes)) := do
  let declared ← Action.lift (settings.get "backdrops")
  let backdrops ← loadListed .backdrop (backdropOf base) settings "backdrops"
  let sounds ← loadListed .sound (soundOf base) settings "sounds"
  let tempo ← Action.lift (settings.getD "tempo" (.int 60))
  let volume ← Action.lift (settings.getD "volume" (.int 100))
  let shown := if declared.truthy then backdrops.map (·.1) else [Drawing.plainBackdrop]
  pure (⟨shown, sounds.map (·.1), volume, tempo⟩, costumeAssets backdrops ++ soundAssets sounds)

/-! ### Sprites -/

def poseOf (settings : Value) (p : Pose) : Except Fault Pose := do
  let x ← settings.getD "x" p.x
  let y ← settings.getD "y" p.y
  let size ← settings.getD "size" p.size
  let direction ← settings.getD "direction" p.direction
  let rotationStyle ← settings.getD "rotation_style" p.rotationStyle
  let visible ← settings.getD "visible" p.visible
  let draggable ← settings.getD "draggable" p.draggable
  .ok ⟨x, y, size, direction, rotationStyle, visible, draggable⟩

/-- What the settings of a sprite declare: costumes, sounds and a pose. -/
def declaredOf (base settings : Value) (p : Pose) :
    Action (List (Costume × Bytes) × List (Sound × Bytes) × Pose) := do
  let costumes ← loadListed .costume (costumeOf base) settings "costumes"
  let sounds ← loadListed .sound (soundOf base) settings "sounds"
  let pose ← Action.lift (poseOf settings p)
  pure (costumes, sounds, pose)

/-- The costumes and sounds of the published sprite that a name means, if there are any. -/
def publishedFor (c : Catalog) (name : Value) (sounds : List Sound) :
    Except Fault (List Costume × List Sound) := do
  match ← Catalog.nameFor? c.sprites name true with
  | none => .ok ([], sounds)
  | some full =>
    if full.isEmpty then .ok ([], sounds)
    else
      let costumes ← c.costumes? (.str full)
      if sounds.isEmpty then
        let found ← c.sounds? (.str full)
        .ok (costumes.getD [], found.getD [])
      else .ok (costumes.getD [], sounds)

def loweredNames : List Sound → Except Fault (List String)
  | [] => .ok []
  | s :: rest => do
    let name ← s.name.asText "lower"
    let others ← loweredNames rest
    .ok (Text.lower name :: others)

/-- Adds the sounds with the given names from the catalog; a name that is taken is passed over. -/
def addUsed (c : Option Catalog) : List String → List Sound → List Value → Except Fault (List Sound)
  | _, sounds, [] => .ok sounds
  | taken, sounds, v :: rest => do
    let name ← v.asText "lower"
    let lowered := Text.lower name
    if taken.contains lowered then addUsed c taken sounds rest
    else
      let found ← match c with
        | some c => c.tune? v
        | none => .ok none
      match found with
      | some s => addUsed c (lowered :: taken) (sounds ++ [s]) rest
      | none => addUsed c taken sounds rest

/-- A sprite and the assets it declares. The `i`-th sprite stands a hundred steps to the right of
the one before it. -/
def spriteOf (r : Option Resources) (base : Value) (i : Nat) (target : Value) :
    Action (Sprite × List (String × Bytes)) := do
  let name ← Action.lift (target.getD "name" (.str ("Sprite" ++ toString (i + 1))))
  let settings ← Action.lift (target.get "sprite_config")
  let usual : Pose := { x := .int ((i : Int) * 100 - 100) }
  let (costumes, sounds, pose) ←
    if settings.truthy && r.isSome then declaredOf base settings usual
    else pure ([], [], usual)
  let own := costumes.map (·.1)
  let (shown, heard) ← match own, r with
    | [], some r => Action.lift (publishedFor r.catalog name (sounds.map (·.1)))
    | _, _ => pure (own, sounds.map (·.1))
  let shown := if shown.isEmpty then Drawing.catCostumes else shown
  let used ← Action.lift (target.getD "sounds_used" (.list []))
  let taken ← Action.lift (loweredNames heard)
  let usedNames ← Action.lift used.iterate
  let heard ← Action.lift (addUsed (r.map (·.catalog)) taken heard usedNames)
  let vars ← Action.lift (target.getD "variables" (.dict []))
  let lists ← Action.lift (target.getD "lists" (.dict []))
  let broadcasts ← Action.lift (target.getD "broadcasts" (.dict []))
  let blocks ← Action.lift (target.getD "blocks" (.dict []))
  pure ({ name := name, vars := vars, lists := lists, broadcasts := broadcasts,
          blocks := blocks, costumes := shown, sounds := heard, layer := i + 1, pose := pose },
    costumeAssets costumes ++ soundAssets sounds)

/-! ### Projects -/

/-- The targets and the settings of the stage in the result of a compilation. A list alone is a list
of targets. -/
def partsOf : Value → Value × Value
  | .null => (.list [], .null)
  | .dict entries =>
    match Table.find? entries "targets" with
    | some targets => (targets, (Table.find? entries "stage_config").getD .null)
    | none => (.dict entries, .null)
  | v => (v, .null)

def ofResult (r : Option Resources) (base result : Value) : Action Assembly := do
  let (targets, settings) := partsOf result
  let (stage, stageAssets) ←
    if settings.truthy && r.isSome then stageOf base settings else pure (plainStage, [])
  let items ← Action.lift targets.iterate
  let sprites ← Action.each (fun (target, i) => spriteOf r base i target) items.zipIdx
  pure ⟨⟨stage, sprites.map (·.1)⟩, Table.ofPairs (stageAssets ++ sprites.flatMap (·.2))⟩

/-- The project for a program. Identifiers start after the first `issued` ones, and the number of
those issued in the end is returned. -/
def ofSource (r : Option Resources) (base : Value) (issued : Nat) (source : String) :
    Action (Assembly × Nat) := do
  let (result, w) := (Build.compile source).run { issued := issued }
  let c ← Action.lift result
  let a ← ofResult r base c.toValue
  pure (a, w.issued)

def text (a : Assembly) (style : Json.Style) : Except Fault String :=
  Json.write style a.project.toValue

end Assembly

end BlockScript
