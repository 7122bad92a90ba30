import BlockScript.Value

/-!
# Costumes and sounds

A costume is a picture that a sprite or the stage can show; the costumes of the stage are its
backdrops. A sound is a recording that it can play. Both name the file that holds them by `md5ext`:
the digest of the file, a dot and the format. `toValue` is their form in a project, whose order of
keys depends on where the asset comes from.
-/

namespace BlockScript

/-- Where an asset comes from. -/
inductive Source where
  /-- It was read from a file, drawn by a program, or is part of this library. -/
  | own
  | published
deriving DecidableEq

/-- A costume or a backdrop. -/
structure Costume where
  source : Source
  name : Value
  assetId : Value
  dataFormat : Value
  md5ext : String
  centerX : Value
  centerY : Value
  /-- How many dots of the picture make up one step of the stage. -/
  resolution : Option Value

def Costume.toValue (c : Costume) : Value :=
  let resolution := match c.resolution with
    | some r => [("bitmapResolution", r)]
    | none => []
  let center := [("rotationCenterX", c.centerX), ("rotationCenterY", c.centerY)]
  match c.source with
  | .own =>
    .dict ([("name", c.name)] ++ resolution ++ [("dataFormat", c.dataFormat),
      ("assetId", c.assetId), ("md5ext", .str c.md5ext)] ++ center)
  | .published =>
    .dict ([("name", c.name), ("assetId", c.assetId), ("md5ext", .str c.md5ext),
      ("dataFormat", c.dataFormat)] ++ center ++ resolution)

/-- A sound. -/
structure Sound where
  source : Source
  name : Value
  assetId : Value
  dataFormat : Value
  md5ext : Value
  /-- Samples in a second. -/
  rate : Value
  sampleCount : Value

def Sound.toValue (s : Sound) : Value :=
  let middle := [("format", .str ""), ("rate", s.rate), ("sampleCount", s.sampleCount)]
  match s.source with
  | .own =>
    .dict ([("name", s.name), ("assetId", s.assetId), ("dataFormat", s.dataFormat)] ++ middle ++
      [("md5ext", s.md5ext)])
  | .published =>
    .dict ([("name", s.name), ("assetId", s.assetId), ("md5ext", s.md5ext),
      ("dataFormat", s.dataFormat)] ++ middle)

end BlockScript
