import BlockScript.Bytes
import BlockScript.Value

/-!
# The size of a picture

A drawing in SVG says how large it is in the attribute `viewBox`, whose third and fourth number are
its width and height, or else in the attributes `width` and `height`. The attributes are looked for
anywhere in the text, the first occurrence counts, and what cannot be found is taken to be `100`.
A picture in PNG has its size at a fixed place after its signature.
-/

namespace BlockScript

namespace Drawing

/-- The size that is assumed when a picture does not tell its own. -/
def defaultLength : Int := 100

def afterEquals? (cs : List Char) : Option (List Char) :=
  match cs.dropWhile Text.isSpace with
  | '=' :: rest => some (rest.dropWhile Text.isSpace)
  | _ => none

def isQuote (c : Char) : Bool := c == '"' || c == '\''

/-- The characters of an attribute's value between quotes; there is at least one. -/
def quoted? : List Char → Option (List Char)
  | q :: rest =>
    let inside := rest.takeWhile (fun c => !isQuote c)
    if isQuote q && !inside.isEmpty && inside.length < rest.length then some inside else none
  | [] => none

/-- The digits at the beginning of an attribute's value, which may be quoted. -/
def digits? (cs : List Char) : Option (List Char) :=
  let inside := match cs with
    | c :: rest => if isQuote c then rest else cs
    | [] => []
  let digits := inside.takeWhile fun c => (Text.decimalValue? c).isSome
  if digits.isEmpty then none else some digits

/-- The value of the first occurrence of an attribute that has one of the right form. -/
def attribute? (name : List Char) (form : List Char → Option (List Char)) :
    List Char → Option (List Char)
  | [] => none
  | c :: rest =>
    let here :=
      if name.isPrefixOf (c :: rest) then
        (afterEquals? ((c :: rest).drop name.length)).bind form
      else none
    match here with
    | some found => some found
    | none => attribute? name form rest

def lengthOf (x : Binary64) : Except Fault (Option Int) :=
  if x.isNaN then .ok none
  else match x.trunc? with
    | some i => .ok (some i)
    | none => .error (.overflow "cannot convert float infinity to integer")

/-- The size in the `viewBox`, if it has one. -/
def boxSize (cs : List Char) : Except Fault (Option (Int × Int)) :=
  match attribute? "viewBox".toList quoted? cs with
  | none => .ok none
  | some inside =>
    match Text.words inside with
    | _ :: _ :: w :: h :: _ =>
      match Numeral.float? (String.ofList w), Numeral.float? (String.ofList h) with
      | some x, some y => do
        match ← lengthOf x with
        | none => .ok none
        | some i =>
          match ← lengthOf y with
          | none => .ok none
          | some j => .ok (some (i, j))
      | _, _ => .ok none
    | _ => .ok none

def attributeLength (name : String) (cs : List Char) : Except Fault Int :=
  match attribute? name.toList digits? cs with
  | none => .ok defaultLength
  | some ds =>
    match Numeral.int? (String.ofList ds) with
    | some i => .ok i
    | none => .error (.badValue "Exceeds the limit (4300 digits) for integer string conversion")

/-- The width and height of a drawing. -/
def size (svg : String) : Except Fault (Int × Int) := do
  let cs := svg.toList
  match ← boxSize cs with
  | some s => .ok s
  | none =>
    let width ← attributeLength "width" cs
    let height ← attributeLength "height" cs
    .ok (width, height)

/-- The first bytes of every picture in PNG. -/
def pngSignature : Bytes := [0x89, 0x50, 0x4e, 0x47, 0x0d, 0x0a, 0x1a, 0x0a]

def pngSize (b : Bytes) : Int × Int :=
  if b.take 8 == pngSignature then
    (Bytes.big (Bytes.slice b 16 20), Bytes.big (Bytes.slice b 20 24))
  else (defaultLength, defaultLength)

end Drawing

end BlockScript
