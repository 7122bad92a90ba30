import BlockScript.Bytes

/-!
# Compressed entries

An entry of an archive may be stored compressed: a sequence of bits that says, block after block,
either which byte comes next or how far back to copy from. Symbols are written in prefix codes that
are given by the length of each symbol's code alone; codes of one length are consecutive and in the
order of their symbols.

`inflate?` is total: every step takes at least one bit, so the number of bits bounds the steps.
-/

namespace BlockScript

namespace Inflate

/-! ### Bits -/

/-- Bits to be read: the rest of a byte, then whole bytes. The lowest bit of a byte comes first. -/
structure Bits where
  held : Nat
  count : Nat
  rest : Bytes

def Bits.next? (s : Bits) : Option (Nat × Bits) :=
  if s.count = 0 then
    match s.rest with
    | [] => none
    | b :: rest => some (b.toNat % 2, ⟨b.toNat / 2, 7, rest⟩)
  else some (s.held % 2, ⟨s.held / 2, s.count - 1, s.rest⟩)

/-- A number of the given width, its lowest bit first. -/
def Bits.number? : Nat → Bits → Option (Nat × Bits)
  | 0, s => some (0, s)
  | width + 1, s => do
    let (low, s) ← s.next?
    let (high, s) ← Bits.number? width s
    some (low + 2 * high, s)

/-! ### Prefix codes -/

/-- A prefix code: how many codes of each length there are, and the symbols in order of their codes.
-/
structure Code where
  counts : List Nat
  symbols : Array Nat

/-- The code whose symbols have codes of the given lengths; zero means that a symbol has none. -/
def Code.ofLengths (lengths : List Nat) : Code where
  counts := (List.range 15).map fun i => lengths.countP (· == i + 1)
  symbols := ((List.range 15).flatMap fun i =>
    lengths.zipIdx.filterMap fun (l, symbol) => if l = i + 1 then some symbol else none).toArray

/-- Reads a symbol, length by length. `first` is the first code of the current length, `index` the
number of shorter codes. -/
def Code.symbol? (symbols : Array Nat) :
    (counts : List Nat) → (code first index : Nat) → Bits → Option (Nat × Bits)
  | [], _, _, _, _ => none
  | count :: counts, code, first, index, s => do
    let (bit, s) ← s.next?
    let code := code + bit
    if code < first + count then
      let symbol ← symbols[index + (code - first)]?
      some (symbol, s)
    else Code.symbol? symbols counts (2 * code) (2 * (first + count)) (index + count) s

def Code.read? (c : Code) (s : Bits) : Option (Nat × Bits) :=
  Code.symbol? c.symbols c.counts 0 0 0 s

/-! ### Blocks -/

/-- Least lengths of copies, and how many further bits each has. -/
def lengthTable : Array (Nat × Nat) := #[
  (3, 0), (4, 0), (5, 0), (6, 0), (7, 0), (8, 0), (9, 0), (10, 0), (11, 1), (13, 1), (15, 1),
  (17, 1), (19, 2), (23, 2), (27, 2), (31, 2), (35, 3), (43, 3), (51, 3), (59, 3), (67, 4),
  (83, 4), (99, 4), (115, 4), (131, 5), (163, 5), (195, 5), (227, 5), (258, 0)]

/-- Least distances of copies, and how many further bits each has. -/
def distanceTable : Array (Nat × Nat) := #[
  (1, 0), (2, 0), (3, 0), (4, 0), (5, 1), (7, 1), (9, 2), (13, 2), (17, 3), (25, 3), (33, 4),
  (49, 4), (65, 5), (97, 5), (129, 6), (193, 6), (257, 7), (385, 7), (513, 8), (769, 8),
  (1025, 9), (1537, 9), (2049, 10), (3073, 10), (4097, 11), (6145, 11), (8193, 12), (12289, 12),
  (16385, 13), (24577, 13)]

def ranged? (table : Array (Nat × Nat)) (i : Nat) (s : Bits) : Option (Nat × Bits) := do
  let (least, width) ← table[i]?
  let (more, s) ← s.number? width
  some (least + more, s)

/-- Copies bytes from a distance back, one at a time, since a copy may overlap itself. -/
def copyBack (distance : Nat) : Nat → Array UInt8 → Option (Array UInt8)
  | 0, out => some out
  | n + 1, out =>
    if distance ≤ out.size then do
      let b ← out[out.size - distance]?
      copyBack distance n (out.push b)
    else none

def symbols? (literals distances : Code) : Nat → Array UInt8 → Bits → Option (Array UInt8 × Bits)
  | 0, _, _ => none
  | fuel + 1, out, s => do
    let (symbol, s) ← literals.read? s
    if symbol < 256 then symbols? literals distances fuel (out.push (UInt8.ofNat symbol)) s
    else if symbol = 256 then some (out, s)
    else
      let (length, s) ← ranged? lengthTable (symbol - 257) s
      let (d, s) ← distances.read? s
      let (distance, s) ← ranged? distanceTable d s
      let out ← copyBack distance length out
      symbols? literals distances fuel out s

/-- The codes of a block that brings none. -/
def fixedLiterals : Code :=
  .ofLengths (List.replicate 144 8 ++ List.replicate 112 9 ++ List.replicate 24 7 ++
    List.replicate 8 8)

def fixedDistances : Code := .ofLengths (List.replicate 30 5)

def lengthOrder : List Nat := [16, 17, 18, 0, 8, 7, 9, 6, 10, 5, 11, 4, 12, 3, 13, 2, 14, 1, 15]

def numbers? (width : Nat) : Nat → Bits → Option (List Nat × Bits)
  | 0, s => some ([], s)
  | n + 1, s => do
    let (x, s) ← s.number? width
    let (xs, s) ← numbers? width n s
    some (x :: xs, s)

/-- The lengths of codes, of which runs are written short; `lengths` holds the ones read so far, the
latest first. -/
def lengths? (code : Code) (wanted : Nat) : Nat → List Nat → Bits → Option (List Nat × Bits)
  | 0, _, _ => none
  | fuel + 1, lengths, s =>
    if wanted ≤ lengths.length then
      if lengths.length = wanted then some (lengths.reverse, s) else none
    else do
      let (symbol, s) ← code.read? s
      if symbol < 16 then lengths? code wanted fuel (symbol :: lengths) s
      else if symbol = 16 then
        let last ← lengths.head?
        let (n, s) ← s.number? 2
        lengths? code wanted fuel (List.replicate (3 + n) last ++ lengths) s
      else if symbol = 17 then
        let (n, s) ← s.number? 3
        lengths? code wanted fuel (List.replicate (3 + n) 0 ++ lengths) s
      else
        let (n, s) ← s.number? 7
        lengths? code wanted fuel (List.replicate (11 + n) 0 ++ lengths) s

def codes? (s : Bits) : Option ((Code × Code) × Bits) := do
  let (literals, s) ← s.number? 5
  let (distances, s) ← s.number? 5
  let (given, s) ← s.number? 4
  let (short, s) ← numbers? 3 (given + 4) s
  let ordered := lengthOrder.zip short
  let code := Code.ofLengths ((List.range 19).map fun i => (ordered.lookup i).getD 0)
  let total := literals + 257 + distances + 1
  let (lengths, s) ← lengths? code total (total + 1) [] s
  some ((.ofLengths (lengths.take (literals + 257)), .ofLengths (lengths.drop (literals + 257))), s)

/-- Blocks up to the last one. -/
def blocks? : Nat → Array UInt8 → Bits → Option (Array UInt8)
  | 0, _, _ => none
  | fuel + 1, out, s => do
    let (isLast, s) ← s.next?
    let (kind, s) ← s.number? 2
    let (out, s) ← (match kind with
      | 0 =>
        let size := Bytes.little (s.rest.take 2)
        let rest := s.rest.drop 4
        if rest.length < size then none
        else some (out ++ (rest.take size).toArray, ⟨0, 0, rest.drop size⟩)
      | 1 => symbols? fixedLiterals fixedDistances (fuel + 1) out s
      | 2 => do
        let ((literals, distances), s) ← codes? s
        symbols? literals distances (fuel + 1) out s
      | _ => none : Option (Array UInt8 × Bits))
    if isLast = 1 then some out else blocks? fuel out s

def inflate? (b : Bytes) : Option Bytes :=
  (blocks? (8 * b.length + 1) #[] ⟨0, 0, b⟩).map (·.toList)

end Inflate

end BlockScript
