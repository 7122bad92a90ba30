import BlockScript.Bytes
import BlockScript.Json.Read

/-!
# JSON in bytes

A document in bytes may be in UTF-8, in UTF-16 or in UTF-32, with a mark of its byte order in front
or without. A document starts with an ASCII character, so that the places of its first zero bytes
tell which form it has.
-/

namespace BlockScript

namespace Json

/-- The form of the bytes of a text: the number of bytes in a unit, and whether the highest comes
first. -/
structure Encoding where
  width : Nat
  bigFirst : Bool
deriving DecidableEq

/-- The form of a document, and the document without its mark. -/
def detect (b : Bytes) : Encoding × Bytes :=
  if [0x00, 0x00, 0xfe, 0xff].isPrefixOf b then (⟨4, true⟩, b.drop 4)
  else if [0xff, 0xfe, 0x00, 0x00].isPrefixOf b then (⟨4, false⟩, b.drop 4)
  else if [0xfe, 0xff].isPrefixOf b then (⟨2, true⟩, b.drop 2)
  else if [0xff, 0xfe].isPrefixOf b then (⟨2, false⟩, b.drop 2)
  else if [0xef, 0xbb, 0xbf].isPrefixOf b then (⟨1, false⟩, b.drop 3)
  else match b with
    | 0 :: x :: _ :: _ :: _ => (if x = 0 then ⟨4, true⟩ else ⟨2, true⟩, b)
    | _ :: 0 :: x :: y :: _ => (if x = 0 ∧ y = 0 then ⟨4, false⟩ else ⟨2, false⟩, b)
    | [0, _] => (⟨2, true⟩, b)
    | [_, 0] => (⟨2, false⟩, b)
    | _ => (⟨1, false⟩, b)

/-- The units of bytes; a rest that makes no unit is an error. -/
def units (e : Encoding) : Nat → Bytes → Except Fault (List Nat)
  | 0, _ => .ok []
  | n + 1, b =>
    if b.isEmpty then .ok []
    else if b.length < e.width then .error (.notText "bytes")
    else do
      let unit := b.take e.width
      let rest ← units e n (b.drop e.width)
      .ok ((if e.bigFirst then Bytes.big unit else Bytes.little unit) :: rest)

/-- The character with a number; half a pair alone is replaced. -/
def charOf (n : Nat) : Char := if 0xd800 ≤ n ∧ n < 0xe000 then '�' else Char.ofNat n

/-- The characters of units of sixteen bits; two of them may make up one. -/
def charsOf16 : List Nat → List Char
  | high :: low :: rest =>
    if 0xd800 ≤ high ∧ high < 0xdc00 ∧ 0xdc00 ≤ low ∧ low < 0xe000 then
      Char.ofNat (0x10000 + (high - 0xd800) * 0x400 + (low - 0xdc00)) :: charsOf16 rest
    else charOf high :: charsOf16 (low :: rest)
  | [unit] => [charOf unit]
  | [] => []

def charsOf32 : List Nat → Except Fault (List Char)
  | [] => .ok []
  | n :: rest =>
    if n < 0x110000 then do
      let cs ← charsOf32 rest
      .ok (charOf n :: cs)
    else .error (.notText "bytes")

def decode (b : Bytes) : Except Fault String := do
  let (e, rest) := detect b
  if e.width = 1 then rest.text
  else
    let us ← units e (rest.length + 1) rest
    if e.width = 2 then .ok (String.ofList (charsOf16 us))
    else
      let cs ← charsOf32 us
      .ok (String.ofList cs)

def readBytes (b : Bytes) : Except Fault Value := do
  let s ← decode b
  read s

end Json

end BlockScript
