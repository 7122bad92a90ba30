import BlockScript.Action
import BlockScript.Asset
import BlockScript.Asset.Drawing
import BlockScript.Asset.Recording
import BlockScript.Digest
import BlockScript.Path
import BlockScript.Text.Case
import BlockScript.Value.Arithmetic

/-!
# Loading assets

Costumes, backdrops and sounds are read from files, or drawn by a text in SVG. The extension of a
file decides its format, the digest of its bytes is its name, and a costume turns around the middle
of the picture unless it is told otherwise. Names and centres can be anything.
-/

namespace BlockScript

namespace Asset

/-! ### Files -/

/-- The path of a file, for an operation that needs one. -/
def pathOf (v : Value) : Except Fault String :=
  match v with
  | .str s => .ok s
  | _ =>
    .error (.wrongType ("expected str, bytes or os.PathLike object, not " ++ v.typeName))

/-- A path that is not from the root is read in the base directory, if there is one. -/
def located (base path : Value) : Except Fault Value :=
  if base.truthy then do
    let p ← pathOf path
    if Path.startsAtRoot p then .ok path
    else
      let b ← pathOf base
      .ok (.str (Path.join b p))
  else .ok path

/-- The path of an asset file that exists. A number stands for an open file: the first three are
open, and none of them has a path. -/
def existing (kind : AssetKind) (path : Value) : Action String := do
  match path, path.integer? with
  | .str s, _ => if ← Action.present s then pure s else throw (.missingAsset kind s)
  | .bytes b, _ =>
    let found ← match Bytes.text? b with
      | some s => Action.present s
      | none => pure false
    if found then Action.lift (pathOf path) else throw (.missingAsset kind (Value.quotedBytes b))
  | _, some i =>
    if 0 ≤ i ∧ i < 3 then Action.lift (pathOf path)
    else if i.natAbs < Nat.pow 2 31 then
      let t ← Action.lift path.text
      throw (.missingAsset kind t)
    else throw (.overflow "Python int too large to convert to C int")
  | _, _ => throw (.wrongType ("stat: path should be string, bytes, os.PathLike or integer, not " ++
      path.typeName))

def extensionOf (path : String) : String := Text.lower (Path.ofText path).extension

def openFile (kind : AssetKind) (base path : Value) : Action (String × String × Bytes) := do
  let full ← Action.lift (located base path)
  let p ← existing kind full
  let b ← Action.read p
  pure (p, extensionOf p, b)

/-! ### Pictures -/

def pictureFormat? (extension : String) : Option (String × Nat) :=
  if extension = ".png" then some ("png", 2)
  else if extension = ".svg" ∨ extension = ".xml" then some ("svg", 1)
  else none

def pictureSize (path : String) : Action (Int × Int) := do
  let extension := extensionOf path
  if extension = ".png" then
    let b ← Action.read path
    pure (Drawing.pngSize b)
  else if extension = ".svg" then
    let s ← Action.readText path
    Action.lift (Drawing.size s)
  else pure (Drawing.defaultLength, Drawing.defaultLength)

def storedName (assetId format : String) : String := assetId ++ "." ++ format

def picture (name : Value) (format : String) (resolution : Nat) (contents : Bytes)
    (centerX centerY : Value) : Costume where
  source := .own
  name := name
  assetId := .str (digest contents)
  dataFormat := .str format
  md5ext := storedName (digest contents) format
  centerX := centerX
  centerY := centerY
  resolution := some (.int resolution)

def center (given : Value) (length : Int) : Value :=
  match given with
  | .null => .int (Int.fdiv length 2)
  | v => v

def costumeFile (name path centerX centerY base : Value) : Action (Costume × Bytes) := do
  let (p, extension, b) ← openFile .costume base path
  match pictureFormat? extension with
  | none => throw (.unsupportedAsset .costume extension)
  | some (format, resolution) =>
    let (width, height) ← pictureSize p
    pure (picture name format resolution b (center centerX width) (center centerY height), b)

def costumeDrawing (name svg centerX centerY : Value) : Except Fault (Costume × Bytes) := do
  let s ← svg.asText "encode"
  let (width, height) ← Drawing.size s
  let b := Bytes.ofText s
  .ok (picture name "svg" 1 b (center centerX width) (center centerY height), b)

/-- Backdrops turn around the middle of the stage. -/
def backdropPicture (name : Value) (format : String) (resolution : Nat) (contents : Bytes) :
    Costume :=
  picture name format resolution contents (.int 240) (.int 180)

def backdropFile (name path base : Value) : Action (Costume × Bytes) := do
  let (_, extension, b) ← openFile .backdrop base path
  match pictureFormat? extension with
  | none => throw (.unsupportedAsset .backdrop extension)
  | some (format, resolution) => pure (backdropPicture name format resolution b, b)

def backdropDrawing (name svg : Value) : Except Fault (Costume × Bytes) := do
  let s ← svg.asText "encode"
  let b := Bytes.ofText s
  .ok (backdropPicture name "svg" 1 b, b)

def discDrawing (name color width height : Value) : Except Fault String := do
  let w ← width.text
  let h ← height.text
  let x ← width.halfDown
  let y ← height.halfDown
  let least ← width.smaller height
  let half ← least.halfDown
  let radius ← half.plusInt (-5)
  let line ← y.plusInt 5
  let letters ← name.firsts 3
  let xText ← x.text
  let yText ← y.text
  let radiusText ← radius.text
  let colorText ← color.text
  let lineText ← line.text
  let lettersText ← letters.text
  .ok ("<svg xmlns=\"http://www.w3.org/2000/svg\" width=\"" ++ w ++ "\" height=\"" ++ h ++
    "\">\n" ++
    "  <circle cx=\"" ++ xText ++ "\" cy=\"" ++ yText ++ "\" r=\"" ++ radiusText ++ "\" \n" ++
    "          fill=\"" ++ colorText ++ "\" stroke=\"#3373CC\" stroke-width=\"3\"/>\n" ++
    "  <text x=\"" ++ xText ++ "\" y=\"" ++ lineText ++ "\" text-anchor=\"middle\" \n" ++
    "        font-family=\"Arial\" font-size=\"14\" fill=\"white\">" ++ lettersText ++
    "</text>\n" ++
    "</svg>")

def discColor : Value := .str "#4C97FF"

def discCostume (name color width height : Value) : Except Fault (Costume × Bytes) := do
  let svg ← discDrawing name color width height
  let x ← width.halfDown
  let y ← height.halfDown
  let b := Bytes.ofText svg
  .ok (picture name "svg" 1 b x y, b)

/-! ### Sounds -/

/-- The format of a sound, its rate and the number of its samples. -/
def soundFormat? (extension : String) (b : Bytes) : Option (String × Nat × Nat) :=
  if extension = ".wav" then some ("wav", Recording.info b)
  else if extension = ".mp3" then some ("mp3", Recording.defaultRate, b.length)
  else none

def soundFile (name path base : Value) : Action (Sound × Bytes) := do
  let (_, extension, b) ← openFile .sound base path
  match soundFormat? extension b with
  | none => throw (.unsupportedAsset .sound extension)
  | some (format, rate, count) =>
    let s : Sound := {
      source := .own
      name := name
      assetId := .str (digest b)
      dataFormat := .str format
      md5ext := .str (storedName (digest b) format)
      rate := .int rate
      sampleCount := .int count }
    pure (s, b)

end Asset

end BlockScript
