import BlockScript.Text.NormalData
import BlockScript.Text.Ranges

/-!
# The normal form of a name

Two spellings of a name that a reader would call the same are the same name: names are compared in
the compatibility composed normal form. Characters are decomposed, combining marks are put in
order, and what composes is composed again. Hangul syllables are handled by arithmetic on their
code points.
-/

namespace BlockScript

namespace Text

/-- A code point, what it decomposes to in one step, and whether that composes again. -/
structure Decomposition where
  code : Nat
  image : List Nat
  composes : Bool

/-- Reads the end of an entry: the number of its code points, their distance, and how far the image
moves from one to the next. -/
def readExtent (w : List Char) : List Char × Nat × Nat × Nat :=
  match splitAtChar '+' w, splitAtChar '*' w, splitAtChar '/' w, splitAtChar '&' w with
  | [v, k], _, _, _ => (v, readHex k, 1, 1)
  | _, [v, k], _, _ => (v, readHex k, 1, 0)
  | _, _, [v, k], _ => (v, readHex k, 2, 2)
  | _, _, _, [v, _] => (v, 2, 1, 32)
  | _, _, _, _ => (w, 1, 1, 0)

def readImage (origin : Nat) (w : List Char) : List Nat :=
  (splitAtChar '.' w).flatMap fun part =>
    match splitAtChar ':' part with
    | base :: marks => (origin + readHex base) :: marks.map fun m => 0x300 + readHex m
    | [] => []

/-- Reads the images of the code points from the given one on. -/
def readEntries (first origin : Nat) (composes : Bool) (w : List Char) : List Decomposition :=
  if w.all fun c => c.toNat < 128 then
    let (v, count, step, move) := readExtent w
    let image := readImage origin v
    (List.range count).map fun i => ⟨first + step * i, image.modifyHead (· + move * i), composes⟩
  else w.mapIdx fun i c => ⟨first + i, [c.toNat], composes⟩

/-- Reads the table; the first entry is about the code point `next` if it names none, and counts from
`start` and `origin`. -/
def readDecompositions (next start origin : Nat) : List (List Char) → List Decomposition
  | [] => []
  | ('@' :: w) :: ws =>
    match splitAtChar '.' w with
    | [a, b] => readDecompositions next (readHex a) (readHex b) ws
    | _ => readDecompositions next start origin ws
  | w :: ws =>
    let composes := w.contains '='
    let entries := match splitAtChar (if composes then '=' else '>') w with
      | [[], v] => readEntries next origin composes v
      | [a, v] => readEntries (start + readHex a) origin composes v
      | _ => readEntries next origin composes w
    entries ++
      readDecompositions ((entries.getLast?.map (·.code + 1)).getD next) start origin ws

/-- Completes the words that go on from the start of the one before. -/
def completeWords (lead : List Char) : List (List Char) → List (List Char)
  | [] => []
  | w :: ws =>
    let isEnd (c : Char) : Bool := c == '.' || c == ':'
    let w := if w.head?.any isEnd then lead ++ w else w
    let image := if w.contains '=' then w.dropWhile (· != '=')
      else (splitAtChar '>' w).getLastD []
    w :: completeWords (image.takeWhile (!isEnd ·)) ws

def decompositions : List Decomposition :=
  readDecompositions 0 0 0 (completeWords [] (tableWords NormalData.decomposition))

/-- Reads the table of combining classes; the first entry is of the given class and counts from
`before`. -/
def readClasses (cls before : Nat) : List (List Char) → List (Run × Nat)
  | [] => []
  | ('=' :: digits) :: ws =>
    readClasses (digits.foldl (fun n c => 10 * n + (c.toNat - '0'.toNat)) 0) 0 ws
  | w :: ws => let run := runAfter before w; (run, cls) :: readClasses cls run.last ws

def combiningRuns : List (Run × Nat) := readClasses 0 0 (tableWords NormalData.combining)

/-- The pairs that compose. -/
def compositionPairs : List ((Nat × Nat) × Nat) :=
  (decompositions.filter (·.composes)).filterMap fun d =>
    match d.image with
    | [x, y] => some ((x, y), d.code)
    | _ => none

/-- The combining class; zero for a character that starts a cluster. -/
def combiningClass (n : Nat) : Nat :=
  if n < 128 then 0 else ((combiningRuns.find? fun p => p.1.has n).map Prod.snd).getD 0

/-- Decomposes a character in at most so many steps. -/
def decomposeWithin : Nat → Nat → List Nat
  | 0, n => [n]
  | steps + 1, n =>
    match decompositions.find? (·.code = n) with
    | some d => d.image.flatMap (decomposeWithin steps)
    | none => [n]

/-- The full decomposition of a character; none takes more than three steps. -/
def decompose (n : Nat) : List Nat :=
  if n < 128 then [n]
  else if 0xAC00 ≤ n ∧ n < 0xAC00 + 11172 then
    let s := n - 0xAC00
    let t := s % 28
    [0x1100 + s / 588, 0x1161 + s % 588 / 28] ++ (if t = 0 then [] else [0x11A7 + t])
  else decomposeWithin 3 n

/-- Puts a mark before the marks of a higher class at the end of what was read; the list is
reversed, nearest first. -/
def insertMark (n : Nat) : List Nat → List Nat
  | [] => [n]
  | m :: rest =>
    if combiningClass n < combiningClass m then m :: insertMark n rest else n :: m :: rest

def decomposed (ns : List Nat) : List Nat :=
  let step (acc : List Nat) (n : Nat) : List Nat :=
    if combiningClass n = 0 then n :: acc else insertMark n acc
  ((ns.flatMap decompose).foldl step []).reverse

def compose? (a b : Nat) : Option Nat :=
  if 0x1100 ≤ a ∧ a < 0x1113 ∧ 0x1161 ≤ b ∧ b < 0x1176 then
    some (0xAC00 + ((a - 0x1100) * 21 + (b - 0x1161)) * 28)
  else if 0xAC00 ≤ a ∧ a < 0xAC00 + 11172 ∧ (a - 0xAC00) % 28 = 0 ∧ 0x11A7 < b ∧ b < 0x11C3 then
    some (a + (b - 0x11A7))
  else (compositionPairs.find? fun p => p.1 == (a, b)).map Prod.snd

/-- Composes from left to right. `starter` is the last character of class zero, `marks` what follows
it, nearest first, and `done` what stands before it, nearest first. -/
def composeFrom (done : List Nat) (starter : Option Nat) (marks : List Nat) : List Nat → List Nat
  | [] => (marks ++ starter.toList ++ done).reverse
  | n :: rest =>
    let cls := combiningClass n
    -- A mark is cut off from the starter by a mark of the same class before it, and a character
    -- of class zero by any mark.
    let blocked :=
      match marks with
      | [] => false
      | m :: _ => combiningClass m ≥ cls
    match starter with
    | some s =>
      match (if blocked then none else compose? s n) with
      | some c => composeFrom done (some c) marks rest
      | none =>
        if cls = 0 then composeFrom (marks ++ s :: done) (some n) [] rest
        else composeFrom done (some s) (n :: marks) rest
    | none =>
      if cls = 0 then composeFrom (marks ++ done) (some n) [] rest
      else composeFrom done none (n :: marks) rest

/-- The normal form of a name. Text below U+0080 is its own normal form. -/
def normalForm (cs : List Char) : List Char :=
  if cs.all fun c => c.toNat < 128 then cs
  else (composeFrom [] none [] (decomposed (cs.map Char.toNat))).map Char.ofNat

end Text

end BlockScript
