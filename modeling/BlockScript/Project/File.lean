import BlockScript.Archive
import BlockScript.Catalog.Cache
import BlockScript.Json.Encoding
import BlockScript.Json.Write
import BlockScript.Project.Embedded

/-!
# Project files

A project file is an archive. Its first entry is the description of the project, and then comes one
entry for each asset that a costume or a sound of the project names, in order of their names. The
bytes of an asset are looked for in several places, and the first that has them counts:

1. the assets that were loaded together with the project;
2. the entries of another project file;
3. the cache, or else the network, if resources are at hand;
4. the drawings that are always at hand.

An asset that is found nowhere is left out, and reported unless it is a recording.
-/

namespace BlockScript

namespace ProjectFile

def descriptionName : String := "project.json"

/-! ### What a project needs -/

/-- Adds a name that is needed; a name counts once, and nothing at all does not count. -/
def need (needed : List Value) (name : Value) : Except Fault (List Value) :=
  if !name.truthy then .ok needed
  else if !name.hashable then .error (.wrongType ("unhashable type: '" ++ name.typeName ++ "'"))
  else .ok (if needed.any (Value.same name) then needed else needed ++ [name])

/-- Adds the names in a list of costumes or sounds. -/
def needListed (needed : List Value) : List Value → Except Fault (List Value)
  | [] => .ok needed
  | v :: rest => do
    let name ← v.get "md5ext"
    let more ← need needed name
    needListed more rest

def needTargets (needed : List Value) : List Value → Except Fault (List Value)
  | [] => .ok needed
  | t :: rest => do
    let costumes ← t.getD "costumes" (.list [])
    let withCostumes ← needListed needed (← costumes.iterate)
    let sounds ← t.getD "sounds" (.list [])
    let withSounds ← needListed withCostumes (← sounds.iterate)
    needTargets withSounds rest

/-- The order of names. -/
def nameLe (v w : Value) : Bool :=
  match v, w with
  | .str s, .str t => s ≤ t
  | .str _, _ => false
  | _, _ => true

/-- The names of the assets that a project needs, each once and in order. -/
def neededAssets (project : Value) : Except Fault (List Value) := do
  let targets ← project.getD "targets" (.list [])
  let needed ← needTargets [] (← targets.iterate)
  .ok (needed.mergeSort nameLe)

/-! ### Where the bytes come from -/

/-- The id and the format in a stored name: what stands before and after its last dot. -/
def splitName (name : Value) : Except Fault (String × String × String) := do
  let s ← name.asText "rsplit"
  let backwards := s.toList.reverse
  let format := backwards.takeWhile (· != '.')
  if format.length = backwards.length then
    .error (.badValue "not enough values to unpack (expected 2, got 1)")
  else
    .ok (s, String.ofList (backwards.drop (format.length + 1)).reverse,
      String.ofList format.reverse)

/-- The entries of an archive apart from the description, up to the first damaged one. -/
def assetsOf (a : Archive) : Archive → Table Bytes → Table Bytes × Option Fault
  | [], found => (found, none)
  | e :: rest, found =>
    if e.name = descriptionName then assetsOf a rest found
    else match a.read e.name with
      | .ok b => assetsOf a rest (found.set e.name b)
      | .error fault => (found, some fault)

/-- The assets in another project file; a file that cannot be read is reported. -/
def sourceAssets (path : String) : Action (Table Bytes) := do
  match ← Action.attempt (do
    let b ← Action.read path
    Action.lift (Archive.ofBytes b)) with
  | .error e =>
    Action.print ("  Warning: Could not read source assets: " ++ e.message)
    pure []
  | .ok archive =>
    match assetsOf archive archive [] with
    | (found, none) => pure found
    | (found, some e) =>
      Action.print ("  Warning: Could not read source assets: " ++ e.message)
      pure found

def otherAssets (source : Option String) : Action (Table Bytes) :=
  match source with
  | some path => sourceAssets path
  | none => pure []

def fetched (r : Option Resources) (name : String) : Action (Option Bytes) :=
  match r with
  | some r => r.asset name true
  | none => pure none

/-- The entry for an asset, if its bytes are found. -/
def entryFor (r : Option Resources) (custom source : Table Bytes) (name : Value) :
    Action (Option (String × Bytes)) := do
  let (stored, assetId, format) ← Action.lift (splitName name)
  match custom.find? stored, source.find? stored with
  | some b, _ => pure (some (stored, b))
  | none, some b => pure (some (stored, b))
  | none, none =>
    match ← fetched r stored with
    | some (b :: rest) => pure (some (stored, b :: rest))
    | _ =>
      match Drawing.forAsset? assetId with
      | some svg => pure (some (stored, Bytes.ofText svg))
      | none =>
        if format ≠ "wav" then Action.print ("  Warning: Asset not found: " ++ stored)
        pure none

/-- The entries for some assets, up to the first fault. -/
def entriesFor (r : Option Resources) (custom source : Table Bytes) :
    List Value → Action (List (String × Bytes) × Option Fault)
  | [] => pure ([], none)
  | name :: rest => do
    match ← Action.attempt (entryFor r custom source name) with
    | .error e => pure ([], some e)
    | .ok none => entriesFor r custom source rest
    | .ok (some entry) =>
      let (entries, e) ← entriesFor r custom source rest
      pure (entry :: entries, e)

/-! ### Writing and reading -/

/-- Writes a project file. After a fault the file has the entries that were found before it. -/
def save (r : Option Resources) (description path : String) (source : Option String)
    (custom : Table Bytes) : Action Unit := do
  let project ← Action.lift (Json.read description)
  let needed ← Action.lift (neededAssets project)
  let others ← otherAssets source
  Action.write path []
  let (entries, fault?) ← entriesFor r custom others needed
  Action.write path
    (Archive.toBytes ((descriptionName, Bytes.ofText description) :: entries))
  match fault? with
  | some e => throw e
  | none => Action.print ("Saved: " ++ path)

/-- The description in a project file, in bytes. -/
def description (path : String) : Action Bytes := do
  let b ← Action.read path
  Action.lift (do
    let a ← Archive.ofBytes b
    a.read descriptionName)

/-- The description in a project file, which has to be in UTF-8. -/
def project (path : String) : Action Value := do
  let b ← description path
  Action.lift (do
    let s ← b.text
    Json.read s)

end ProjectFile

end BlockScript
