/-!
# Reading tables of code points

Character properties and mappings are kept as text: runs in ascending order, each by its distance
from the one before, as `A-B`, or `A-B/2` in steps of two, and images `>B.C` or `+B` after a run. This
module reads that text once into lists.
-/

namespace BlockScript

namespace Text

/-- A run of code points `first, first + step, …, last`. -/
structure Run where
  first : Nat
  last : Nat
  step : Nat := 1
deriving DecidableEq

def Run.has (r : Run) (n : Nat) : Bool :=
  r.first ≤ n && n ≤ r.last && (n - r.first) % r.step == 0

def hexValue? (c : Char) : Option Nat :=
  if '0' ≤ c ∧ c ≤ '9' then some (c.toNat - '0'.toNat)
  else if 'a' ≤ c ∧ c ≤ 'f' then some (c.toNat - 'a'.toNat + 10)
  else if 'A' ≤ c ∧ c ≤ 'F' then some (c.toNat - 'A'.toNat + 10)
  else none

/-- The number that hexadecimal digits write; other characters count as nothing. -/
def readHex (cs : List Char) : Nat :=
  cs.foldl (fun n c => match hexValue? c with | some d => 16 * n + d | none => n) 0

def splitAtChar (sep : Char) : List Char → List (List Char)
  | [] => [[]]
  | c :: rest =>
    if c = sep then [] :: splitAtChar sep rest
    else
      match splitAtChar sep rest with
      | [] => [[c]]
      | w :: ws => (c :: w) :: ws

def tableWords (s : String) : List (List Char) :=
  ((splitAtChar '\n' s.toList).flatMap (splitAtChar ' ')).filter fun w => !w.isEmpty

/-- Reads a run after one that ends at `before`: the distance of its first member from there and,
unless it is a single code point, the distance of its last member from its first. -/
def runAfter (before : Nat) (w : List Char) : Run :=
  match splitAtChar '-' w with
  | [gap, span] =>
    match splitAtChar '/' span with
    | [span, step] => ⟨before + readHex gap, before + readHex gap + readHex span, readHex step⟩
    | _ => ⟨before + readHex gap, before + readHex gap + readHex span, 1⟩
  | _ => ⟨before + readHex w, before + readHex w, 1⟩

/-- Reads runs in ascending order. -/
def runsAfter : Nat → List (List Char) → List Run
  | _, [] => []
  | before, w :: ws => let run := runAfter before w; run :: runsAfter run.last ws

def readRuns (s : String) : List Run := runsAfter 0 (tableWords s)

/-- Reads runs, each with the code points that its first member maps to. -/
def imagesAfter : Nat → List (List Char) → List (Run × List Nat)
  | _, [] => []
  | before, w :: ws =>
    match splitAtChar '+' w, splitAtChar '>' w with
    | [a, b], _ =>
      let run := runAfter before a
      (run, [run.first + readHex b]) :: imagesAfter run.last ws
    | _, [a, b] =>
      let run := runAfter before a
      (run, (splitAtChar '.' b).map readHex) :: imagesAfter run.last ws
    | _, _ => imagesAfter before ws

/-- Reads a table of images. -/
def readImages (s : String) : List (Run × List Nat) := imagesAfter 0 (tableWords s)

/-- The image of a code point. Along a run the image moves with its argument. -/
def image? (table : List (Run × List Nat)) (n : Nat) : Option (List Nat) :=
  (table.find? fun p => p.1.has n).map fun p => p.2.modifyHead (· + (n - p.1.first))

end Text

end BlockScript
