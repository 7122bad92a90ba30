import BlockScript.Value

/-!
# Records of published assets

The published sprites and sounds are listed in records. `toValue` gives them the form in which such
lists are exchanged. The lists that come with this library are written as texts: words are divided by
commas and costumes by slashes. Identifiers of assets are 32 hexadecimal digits, which are written as
20 digits to the base 85.
-/

namespace BlockScript

def Text.listed (s : String) : List String :=
  if s.isEmpty then [] else (Text.splitAtChar ',' s.toList).map String.ofList

/-- The most common tags. Capital letters stand for them in a list of tags. -/
def Text.commonTags : List String := listed (
  "alex eben meyer,alphabet,andrew rae,animals,background,cartoon,daria skrybchencko,effects," ++
    "electronic,fantasy,games,human,instrument,instruments,letters,loops,music,people,percussion," ++
    "robert hunter,space,sports,things,transportation,underwater,wacky")

/-- Reads a list of tags. -/
def Text.tags (s : String) : List String :=
  (listed s).map fun tag => match tag.toList with
    | [c] => commonTags[c.toNat - 65]?.getD tag
    | _ => tag

/-- A digit to the base 85: the place of a character after the blank. Letters from `v` on stand for
the characters that divide the words of a list. -/
def Text.digit85 : Char → Nat
  | 'v' => 1
  | 'w' => 2
  | 'x' => 11
  | 'y' => 14
  | 'z' => 28
  | '|' => 59
  | c => c.toNat - 33

def Text.assetId (digits : List Char) : String :=
  Value.hex 32 (digits.foldl (fun n c => 85 * n + digit85 c) 0)

/-- A costume of a published sprite. -/
structure CostumeRecord where
  name : String
  assetId : String
  isBitmap : Bool
  centerX : Value
  centerY : Value

namespace CostumeRecord

/-- A coordinate of the point around which a costume turns. -/
def coordinate (s : String) : Value :=
  match Numeral.int? s with
  | some n => .int n
  | none => ((Numeral.float? s).map Value.float).getD .null

/-- The name with the next letter at its end. -/
def nextName (name : String) : String :=
  match name.toList.reverse with
  | [] => ""
  | c :: rest => String.ofList (Char.ofNat (c.toNat + 1) :: rest).reverse

/-- A costume with the name, the identifier, which has `#` at its end for a bitmap, and the point
around which the costume turns. -/
def ofId (name id : String) (x y : Value) : CostumeRecord :=
  let digits := id.toList.filter (· != '#')
  ⟨name, Text.assetId digits, digits.length < id.length, x, y⟩

/-- The costumes of a sprite after the given one. A name may start with that of the sprite, for which
`^` stands, or `~` if it is in small letters. What is left out follows from the costume before: a
costume without a name has the next letter at its end, and one of which only the identifier is given
turns around the same point. -/
def ofEntries (sprite : String) (before : CostumeRecord) : List (List Char) → List CostumeRecord
  | [] => []
  | entry :: rest =>
    let words := (Text.splitAtChar ' ' entry).map String.ofList
    let name := match (" ".intercalate (words.take (words.length - 3))).toList with
      | [] => nextName before.name
      | '~' :: rest => sprite.toLower ++ String.ofList rest
      | '^' :: rest => sprite ++ String.ofList rest
      | name => String.ofList name
    let costume := match words.drop (words.length - 3) with
      | [id] => ofId name id before.centerX before.centerY
      | [id, x, y] => ofId name id (coordinate x) (coordinate y)
      | _ => before
    costume :: ofEntries sprite costume rest

/-- The costumes of a sprite. Those without a name are told apart by letters. -/
def all (sprite : String) : List (List Char) → List CostumeRecord :=
  ofEntries sprite ⟨sprite.toLower ++ "-`", "", false, .null, .null⟩

def toValue (c : CostumeRecord) : Value :=
  let format := if c.isBitmap then "png" else "svg"
  .dict [("assetId", .str c.assetId), ("name", .str c.name),
    ("bitmapResolution", .int (if c.isBitmap then 2 else 1)),
    ("md5ext", .str (c.assetId ++ "." ++ format)), ("dataFormat", .str format),
    ("rotationCenterX", c.centerX), ("rotationCenterY", c.centerY)]

end CostumeRecord

/-- A sound of a published sprite. -/
structure SoundRecord where
  name : String
  assetId : String
  isCompressed : Bool
  rate : Nat
  sampleCount : Nat

namespace SoundRecord

def plain (name assetId : String) (sampleCount : Nat) : SoundRecord :=
  ⟨name, assetId, false, 44100, sampleCount⟩

def packed (name assetId : String) (sampleCount : Nat) : SoundRecord :=
  ⟨name, assetId, true, 22050, sampleCount⟩

/-- A sound with its identifier and its number of samples, followed by `~` for a packed one or by
another rate. -/
def ofText (name text : String) : SoundRecord :=
  let id := Text.assetId (text.toList.takeWhile (· != ' '))
  let count := (text.toList.dropWhile (· != ' ')).drop 1
  match Text.splitAtChar '@' count with
  | [count, rate] => ⟨name, id, false, Numeral.decimalValue rate, Numeral.decimalValue count⟩
  | _ =>
    if count.contains '~' then packed name id (Numeral.decimalValue count.dropLast)
    else plain name id (Numeral.decimalValue count)

-- the sounds that most sprites come with
def pop : SoundRecord := plain "pop" "83a9787d4cb6f3b7632b4ddfebf74367" 1032

def meow : SoundRecord := plain "meow" "83c36d806dc92327b9e7049a565c6bff" 37376

def magicSpell : SoundRecord := packed "Magic Spell" "1cb60ecdb1075c8769cb346d5c2a22c7" 43689

def toValue (s : SoundRecord) : Value :=
  .dict [("assetId", .str s.assetId), ("name", .str s.name), ("dataFormat", .str "wav"),
    ("format", .str (if s.isCompressed then "adpcm" else "")), ("rate", .int s.rate),
    ("sampleCount", .int s.sampleCount), ("md5ext", .str (s.assetId ++ ".wav"))]

end SoundRecord

/-- A published sprite. -/
structure SpriteRecord where
  name : String
  tags : List String
  costumes : List CostumeRecord
  sounds : List SoundRecord

def SpriteRecord.toValue (s : SpriteRecord) : Value :=
  .dict [("name", .str s.name), ("tags", .list (s.tags.map .str)), ("isStage", .bool false),
    ("variables", .dict []), ("costumes", .list (s.costumes.map (·.toValue))),
    ("sounds", .list (s.sounds.map (·.toValue))), ("blocks", .dict [])]

/-- A published sound that belongs to no sprite. -/
structure TuneRecord where
  name : String
  tags : List String
  sound : SoundRecord

namespace TuneRecord

/-- A sound: the name, what is known of its samples, and the tags, with `*` for those of an
instrument. -/
def of (entry : String) : TuneRecord :=
  let name := String.ofList (entry.toList.takeWhile (· != '='))
  let words := (Text.splitAtChar ' ' ((entry.toList.dropWhile (· != '=')).drop 1)).map String.ofList
  let tags := " ".intercalate (words.drop 2)
  ⟨name, Text.tags (if tags == "*" then "Q,N,notes" else tags),
    .ofText name (" ".intercalate (words.take 2))⟩

def toValue (t : TuneRecord) : Value :=
  .dict [("name", .str t.name), ("tags", .list (t.tags.map .str)),
    ("assetId", .str t.sound.assetId),
    ("dataFormat", .str (if t.sound.isCompressed then "adpcm" else "")),
    ("md5ext", .str (t.sound.assetId ++ ".wav")), ("sampleCount", .int t.sound.sampleCount),
    ("rate", .int t.sound.rate)]

end TuneRecord

end BlockScript
