import BlockScript.Value.Access

/-!
# Giving sprites their assets back

A project that was printed as a program and compiled again has new scripts, but no longer the
costumes, sounds and places of its sprites. Merging takes those from the first project: for each
target from the one of the same name, else from the stage, else from the sprite at the same place
among the sprites. The place of a sprite is that of the first one equal to it, and those before it
have their assets already. The stage takes what it needs from the first stage in any case.
-/

namespace BlockScript

namespace Merge

def isStage (t : Value) : Except Fault Bool := do
  let v ← t.get "isStage"
  .ok v.truthy

/-- The first stage among some targets. -/
def stage? : List Value → Except Fault (Option Value)
  | [] => .ok none
  | t :: rest => do
    if ← isStage t then .ok (some t) else stage? rest

/-- The targets that are not stages. -/
def sprites : List Value → Except Fault (List Value)
  | [] => .ok []
  | t :: rest => do
    let stage ← isStage t
    let others ← sprites rest
    .ok (if stage then others else t :: others)

/-- Targets by name. Every target needs a name that can be a key. -/
def byName : List Value → Except Fault (List (Value × Value))
  | [] => .ok []
  | t :: rest => do
    let name ← t.key "name"
    if name.hashable then
      let others ← byName rest
      .ok ((name, t) :: others)
    else .error (.wrongType ("unhashable type: '" ++ name.typeName ++ "'"))

/-- The last target of a name. -/
def named? (table : List (Value × Value)) (name : Value) : Option Value :=
  (table.reverse.find? fun (k, _) => k.same name).map (·.2)

def put (t : Value) (key : String) (v : Value) : Value :=
  match t with
  | .dict entries => .dict (Table.set entries key v)
  | _ => t

/-- Copies keys from one object to another, with values for those that are absent. -/
def copy (source : Value) : List (String × Value) → Value → Except Fault Value
  | [], t => .ok t
  | (key, fallback) :: rest, t => do
    let v ← source.getD key fallback
    copy source rest (put t key v)

/-- What every target takes from its first form. -/
def assetKeys : List (String × Value) :=
  [("costumes", .list []), ("sounds", .list []), ("currentCostume", .int 0)]

def spriteKeys : List (String × Value) :=
  [("x", .int 0), ("y", .int 0), ("size", .int 100), ("direction", .int 90),
    ("visible", .bool true), ("rotationStyle", .str "all around"), ("draggable", .bool false)]

def stageKeys : List (String × Value) :=
  [("tempo", .int 60), ("videoTransparency", .int 50), ("videoState", .str "off"),
    ("textToSpeechLanguage", .null)]

def targetsOf (project : Value) : Except Fault (List Value) := do
  let v ← project.key "targets"
  v.iterate

/-- The first form of a target; `before` are the merged sprites before it. -/
def firstForm (first : Value) (table : List (Value × Value)) (before : List Value) (t : Value) :
    Except Fault (Option Value) := do
  let name ← t.getD "name" (.str "")
  match named? table name with
  | some o => .ok (some o)
  | none =>
    let targets ← targetsOf first
    if ← isStage t then stage? targets
    else
      let old ← sprites targets
      .ok old[before.findIdx (·.same t)]?

/-- A target with the assets of its first form. -/
def mergeTarget (first : Value) (table : List (Value × Value)) (before : List Value) (t : Value) :
    Except Fault Value := do
  match ← firstForm first table before t with
  | none => .ok t
  | some o =>
    let t' ← copy o assetKeys t
    if ← isStage t then .ok t' else copy o spriteKeys t'

/-- All targets with the assets of their first forms. -/
def mergeTargets (first : Value) (table : List (Value × Value)) :
    List Value → List Value → Except Fault (List Value)
  | _, [] => .ok []
  | before, t :: rest => do
    let stage ← isStage t
    let merged ← mergeTarget first table before t
    let others ← mergeTargets first table (if stage then before else before ++ [merged]) rest
    .ok (merged :: others)

/-- The first stage among some targets takes what it needs from another stage. -/
def mergeStage (o : Value) : List Value → Except Fault (List Value)
  | [] => .ok []
  | t :: rest => do
    if ← isStage t then
      let t' ← copy o (assetKeys ++ stageKeys) t
      .ok (t' :: rest)
    else
      let others ← mergeStage o rest
      .ok (t :: others)

/-- The second project with the assets of the first. -/
def merge (first project : Value) : Except Fault Value := do
  let listed ← first.getD "targets" (.list [])
  let table ← byName (← listed.iterate)
  let targets ← targetsOf project
  let merged ← mergeTargets first table [] targets
  let oldTargets ← targetsOf first
  let final ← match ← stage? oldTargets with
    | some o => mergeStage o merged
    | none => .ok merged
  let own ← project.getD "meta" (.dict [])
  let information ← first.getD "meta" own
  .ok (put (put project "targets" (.list final)) "meta" information)

end Merge

end BlockScript
