import BlockScript.Action
import BlockScript.Asset
import BlockScript.Json.Read
import BlockScript.Path
import BlockScript.Text.Case
import BlockScript.Value.Access

/-!
# The catalog

A catalog lists sprites and sounds that are published for everybody, by name and in a fixed order.
Names are looked up as they are, else without regard to case, else as a part of a name; of several
entries the first counts. The entries are data from outside, so that looking into them can fail.
-/

namespace BlockScript

/-- Published sprites and sounds by name. -/
structure Catalog where
  sprites : Table Value
  sounds : Table Value

namespace Catalog

/-! ### Reading lists -/

/-- The entries of a list by their names. All of them need one. -/
def byName : List Value → Except Fault (List (String × Value))
  | [] => .ok []
  | v :: rest => do
    let name ← v.key "name"
    let text ← name.asText "lower"
    let others ← byName rest
    .ok ((text, v) :: others)

def tableOf (text : String) : Except Fault (Table Value) := do
  let v ← Json.read text
  let items ← v.iterate
  let pairs ← byName items
  .ok (Table.ofPairs pairs)

/-- The table in a file. A file that is missing or cannot be used counts as an empty list. -/
def load (path : String) : Action (Table Value) := do
  match ← Action.attempt (do
    let text ← Action.readText path
    Action.lift (tableOf text)) with
  | .ok t => pure t
  | .error _ => pure []

def ofDirectory (directory : String) : Action Catalog := do
  let sprites ← load (Path.join directory "sprites_library.json")
  let sounds ← load (Path.join directory "sounds_library.json")
  pure { sprites := sprites, sounds := sounds }

/-! ### Names -/

def names (t : Table Value) : List String := t.keys.mergeSort fun a b => a ≤ b

def checkKey (v : Value) : Except Fault Unit :=
  if v.hashable then .ok ()
  else .error (.wrongType ("unhashable type: '" ++ v.typeName ++ "'"))

def sameName? (t : Table Value) : Value → Option (String × Value)
  | .str s => (t.find? s).map fun v => (s, v)
  | _ => none

/-- The first entry whose name is the given one in small letters. -/
def sameLower? (t : Table Value) (lowered : String) : Option (String × Value) :=
  List.find? (fun (k, _) => Text.lower k == lowered) t

/-- The first entry whose name contains the given one in small letters. -/
def partLower? (t : Table Value) (lowered : String) : Option (String × Value) :=
  List.find? (fun (k, _) => Text.contains (Text.lower k) lowered) t

/-- The entry with a name, without regard to case if necessary. -/
def entry? (t : Table Value) (name : Value) : Except Fault (Option Value) := do
  checkKey name
  match sameName? t name with
  | some (_, v) => .ok (some v)
  | none =>
    if t.isEmpty then .ok none
    else
      let s ← name.asText "lower"
      .ok ((sameLower? t (Text.lower s)).map (·.2))

def nameFor? (t : Table Value) (name : Value) (fuzzy : Bool) : Except Fault (Option String) := do
  checkKey name
  match sameName? t name with
  | some (k, _) => .ok (some k)
  | none =>
    if fuzzy then
      let s ← name.asText "lower"
      let lowered := Text.lower s
      match sameLower? t lowered with
      | some (k, _) => .ok (some k)
      | none => .ok ((partLower? t lowered).map (·.1))
    else .ok none

/-! ### Assets of entries -/

/-- The name under which an asset of an entry is stored: its id, a dot and its format. -/
def storedName (assetId format : Value) : Except Fault String := do
  let i ← assetId.text
  let f ← format.text
  .ok (i ++ "." ++ f)

def costumeOf (v : Value) : Except Fault Costume := do
  let assetId ← v.key "assetId"
  let format ← v.key "dataFormat"
  let stored ← storedName assetId format
  let name ← v.key "name"
  let x ← v.getD "rotationCenterX" (.int 0)
  let y ← v.getD "rotationCenterY" (.int 0)
  let resolution ← v.getD "bitmapResolution" (.int 1)
  .ok { source := .published, name := name, assetId := assetId, dataFormat := format,
        md5ext := stored, centerX := x, centerY := y, resolution := some resolution }

def soundOf (v : Value) : Except Fault Sound := do
  let assetId ← v.key "assetId"
  let format ← v.key "dataFormat"
  let stored ← storedName assetId format
  let name ← v.key "name"
  let rate ← v.getD "rate" (.int 44100)
  let count ← v.getD "sampleCount" (.int 0)
  .ok { source := .published, name := name, assetId := assetId, dataFormat := format,
        md5ext := .str stored, rate := rate, sampleCount := count }

def tuneOf (v : Value) : Except Fault Sound := do
  let assetId ← v.key "assetId"
  let given ← v.getD "dataFormat" (.str "")
  let format : Value := if given.truthy then given else .str "wav"
  let usual ← storedName assetId format
  let stored ← v.getD "md5ext" (.str usual)
  let name ← v.key "name"
  let rate ← v.getD "rate" (.int 44100)
  let count ← v.getD "sampleCount" (.int 0)
  .ok { source := .published, name := name, assetId := assetId, dataFormat := format,
        md5ext := stored, rate := rate, sampleCount := count }

/-- An entry that is there and not empty. -/
def filled? : Option Value → Option Value
  | some v => if v.truthy then some v else none
  | none => none

def listed (v : Value) (key : String) : Except Fault (List Value) := do
  let items ← v.getD key (.list [])
  items.iterate

def costumes? (c : Catalog) (sprite : Value) : Except Fault (Option (List Costume)) := do
  match filled? (← entry? c.sprites sprite) with
  | none => .ok none
  | some v =>
    let items ← listed v "costumes"
    let found ← items.mapM costumeOf
    .ok (some found)

def sounds? (c : Catalog) (sprite : Value) : Except Fault (Option (List Sound)) := do
  match filled? (← entry? c.sprites sprite) with
  | none => .ok none
  | some v =>
    let items ← listed v "sounds"
    let found ← items.mapM soundOf
    .ok (some found)

def tune? (c : Catalog) (sound : Value) : Except Fault (Option Sound) := do
  match filled? (← entry? c.sounds sound) with
  | none => .ok none
  | some v =>
    let found ← tuneOf v
    .ok (some found)

end Catalog

end BlockScript
