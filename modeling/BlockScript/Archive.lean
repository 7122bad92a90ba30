import BlockScript.Archive.Checksum
import BlockScript.Archive.Inflate
import BlockScript.Table

/-!
# Archives

A project is one file that packs several: its description and its assets. The file starts with the
entries, each with a header of its own, goes on with a directory of all entries, and ends with a
record that says where the directory is. `Archive.toBytes` stores the entries as they are;
`Archive.ofBytes` also reads compressed ones.
-/

namespace BlockScript

/-- One file of an archive. Its contents may be damaged without harm to the others. -/
structure Entry where
  name : String
  contents : Except Fault Bytes

/-- The files of an archive in order. Names may repeat. -/
abbrev Archive := List Entry

namespace Archive

/-- The contents of the last entry with a name. -/
def read (a : Archive) (name : String) : Except Fault Bytes :=
  match a.reverse.find? (·.name == name) with
  | some e => e.contents
  | none => .error (.missingEntry name)

/-! ### Writing -/

/-- The bytes of a name, and the mark that says whether they are more than ASCII. -/
def nameBytes (name : String) : Bytes × Nat :=
  let b := Bytes.ofText name
  (b, if b.all (· < 128) then 0 else 0x800)

/-- What both headers of an entry share: marks, no compression, no date, checksum, sizes. -/
def commonHeader (name : String) (contents : Bytes) : Bytes :=
  let (n, mark) := nameBytes name
  Bytes.ofNat 2 20 ++ Bytes.ofNat 2 mark ++ Bytes.ofNat 2 0 ++ Bytes.ofNat 2 0 ++
    Bytes.ofNat 2 33 ++
    Bytes.ofNat 4 (checksum contents).toNat ++ Bytes.ofNat 4 contents.length ++
    Bytes.ofNat 4 contents.length ++ Bytes.ofNat 2 n.length ++ Bytes.ofNat 2 0

/-- An entry with its header. -/
def localRecord (name : String) (contents : Bytes) : Bytes :=
  [0x50, 0x4b, 3, 4] ++ commonHeader name contents ++ (nameBytes name).1 ++ contents

def directoryRecord (offset : Nat) (name : String) (contents : Bytes) : Bytes :=
  [0x50, 0x4b, 1, 2] ++ Bytes.ofNat 2 20 ++ commonHeader name contents ++ Bytes.ofNat 2 0 ++
    Bytes.ofNat 2 0 ++ Bytes.ofNat 2 0 ++ Bytes.ofNat 4 0 ++ Bytes.ofNat 4 offset ++
    (nameBytes name).1

def directory : Nat → List (String × Bytes) → Bytes
  | _, [] => []
  | offset, (name, contents) :: rest =>
    directoryRecord offset name contents ++
      directory (offset + (localRecord name contents).length) rest

/-- The last record. -/
def endRecord (count size offset : Nat) : Bytes :=
  [0x50, 0x4b, 5, 6] ++ Bytes.ofNat 2 0 ++ Bytes.ofNat 2 0 ++ Bytes.ofNat 2 count ++
    Bytes.ofNat 2 count ++ Bytes.ofNat 4 size ++ Bytes.ofNat 4 offset ++ Bytes.ofNat 2 0

def toBytes (entries : List (String × Bytes)) : Bytes :=
  let records := entries.flatMap fun (name, contents) => localRecord name contents
  let d := directory 0 entries
  records ++ d ++ endRecord entries.length d.length records.length

/-! ### Reading -/

/-- Characters of names that are not marked as UTF-8, from 128 on. -/
def oldCharacters : Array Char :=
  ("ÇüéâäàåçêëèïîìÄÅÉæÆôöòûùÿÖÜ¢£¥₧ƒáíóúñÑªº¿⌐¬½¼¡«»░▒▓│┤╡╢╖╕╣║╗╝╜╛┐└┴┬├─┼╞╟╚╔╩╦╠═╬╧╨╤╥╙╘╒╓╫╪┘┌" ++
    "█▄▌▐▀αßΓπΣσµτΦΘΩδ∞φε∩≡±≥≤⌠⌡÷≈°∙·√ⁿ²■ ").toList.toArray

/-- The name of an entry, which ends at a zero character. -/
def nameOf (marked : Bool) (b : Bytes) : Except Fault String := do
  let s ←
    if marked then b.text
    else .ok (String.ofList (b.map fun x =>
      if x < 128 then Char.ofNat x.toNat else oldCharacters[x.toNat - 128]?.getD ' '))
  .ok (String.ofList (s.toList.takeWhile (· != '\x00')))

/-- The last position at which a list occurs in another. -/
def lastIndexOf? (part : Bytes) : Bytes → Option Nat
  | [] => if part.isEmpty then some 0 else none
  | b :: rest =>
    match lastIndexOf? part rest with
    | some i => some (i + 1)
    | none => if part.isPrefixOf (b :: rest) then some 0 else none

/-- Where the last record is. -/
def endIndex? (b : Bytes) : Option Nat :=
  let start := b.length - (22 + 65535)
  match lastIndexOf? [0x50, 0x4b, 5, 6] (b.drop start) with
  | some i => if start + i + 22 ≤ b.length then some (start + i) else none
  | none => none

def contentsAt (b : Bytes) (offset method size check : Nat) : Except Fault Bytes :=
  let r := b.drop offset
  if r.take 4 != [0x50, 0x4b, 3, 4] then .error .notArchive
  else
    let skipped := 30 + Bytes.little (Bytes.slice r 26 28) + Bytes.little (Bytes.slice r 28 30)
    let raw := (r.drop skipped).take size
    let contents? := match method with
      | 0 => some raw
      | 8 => Inflate.inflate? raw
      | _ => none
    match contents? with
    | some contents =>
      if (checksum contents).toNat = check then .ok contents else .error .notArchive
    | none => .error .notArchive

/-- The entries of a directory with `count` lines; `shift` is where the archive starts. -/
def entriesFrom (b : Bytes) (shift : Nat) : Nat → Bytes → Except Fault Archive
  | 0, _ => .ok []
  | count + 1, d =>
    if d.take 4 != [0x50, 0x4b, 1, 2] then .error .notArchive
    else do
      let number (first last : Nat) : Nat := Bytes.little (Bytes.slice d first last)
      let nameLength := number 28 30
      let name ← nameOf (number 8 10 / 0x800 % 2 == 1) ((d.drop 46).take nameLength)
      let contents :=
        contentsAt b (shift + number 42 46) (number 10 12) (number 20 24) (number 16 20)
      let rest ← entriesFrom b shift count
        (d.drop (46 + nameLength + number 30 32 + number 32 34))
      .ok (⟨name, contents⟩ :: rest)

def ofBytes (b : Bytes) : Except Fault Archive :=
  match endIndex? b with
  | none => .error .notArchive
  | some i =>
    let r := b.drop i
    let size := Bytes.little (Bytes.slice r 12 16)
    let offset := Bytes.little (Bytes.slice r 16 20)
    if i < size + offset then .error .notArchive
    else
      entriesFrom b (i - (size + offset)) (Bytes.little (Bytes.slice r 10 12)) (b.drop (i - size))

end Archive

end BlockScript
