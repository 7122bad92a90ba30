import BlockScript.Text.CaseData
import BlockScript.Text.Class

/-!
# Small and capital letters

Full case mappings: a capital may be written with several letters, and the capital sigma becomes a
final sigma at the end of a word.
-/

namespace BlockScript

namespace Text

def lowerImages : List (Run × List Nat) := readImages CaseData.lower

/-- The run that a run is the image of. -/
def Run.origin? : Run × List Nat → Option (Run × List Nat)
  | (r, [t]) => some (⟨t, t + (r.last - r.first), r.step⟩, [r.first])
  | _ => none

def upperImages : List (Run × List Nat) :=
  readImages CaseData.upper ++ lowerImages.filterMap Run.origin?

/-- The small form of a character other than the capital sigma. -/
def lowerChar (c : Char) : List Char :=
  if isAscii c then [if isAsciiUpper c then Char.ofNat (c.toNat + 32) else c]
  else
    match image? lowerImages c.toNat with
    | some ns => ns.map Char.ofNat
    | none => [c]

def upperChar (c : Char) : List Char :=
  if isAscii c then [if isAsciiLower c then Char.ofNat (c.toNat - 32) else c]
  else
    match image? upperImages c.toNat with
    | some ns => ns.map Char.ofNat
    | none => [c]

/-- Whether the first character that is not skipped has case. -/
def casedNext (cs : List Char) : Bool :=
  match cs.dropWhile isCaseIgnorable with
  | [] => false
  | c :: _ => isCased c

/-- Lowers a text; `before` holds what stands before it, nearest first. -/
def lowerFrom (before : List Char) : List Char → List Char
  | [] => []
  | c :: rest =>
    let small :=
      if c = 'Σ' then [if casedNext before && !casedNext rest then 'ς' else 'σ'] else lowerChar c
    small ++ lowerFrom (c :: before) rest

/-- The text in small letters. -/
def lower (s : String) : String := String.ofList (lowerFrom [] s.toList)

/-- The text in capital letters. -/
def upper (s : String) : String := String.ofList (s.toList.flatMap upperChar)

end Text

end BlockScript
