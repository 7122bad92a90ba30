import BlockScript.Bytes
import BlockScript.Value.Access

/-!
# Recordings

A recording in WAVE form is a sequence of chunks, each with a name of four bytes, a size and as many
bytes. The chunk `fmt ` holds the rate of the samples, the chunk `data` the samples themselves. The
number of samples is taken to be a quarter of the size of the data.
-/

namespace BlockScript

namespace Recording

def defaultRate : Nat := 48000

/-- The names of the form, of its kind and of the two chunks that matter. -/
def riffName : Bytes := [0x52, 0x49, 0x46, 0x46]

def waveName : Bytes := [0x57, 0x41, 0x56, 0x45]

def formatName : Bytes := [0x66, 0x6d, 0x74, 0x20]

def dataName : Bytes := [0x64, 0x61, 0x74, 0x61]

/-- A chunk: its name, its announced size, and the number where a format chunk has its rate. -/
structure Chunk where
  name : Bytes
  size : Nat
  rate : Nat

/-- The chunk at the front. The rate is read even where the chunk ends before it. -/
def chunkAt (b : Bytes) : Chunk where
  name := b.take 4
  size := Bytes.little (Bytes.slice b 4 8)
  rate := Bytes.little (Bytes.slice b 12 16)

/-- What is left behind a chunk is shorter. -/
theorem length_drop_lt {b : Bytes} (h : 8 < b.length) (size : Nat) :
    (b.drop (8 + size)).length < b.length := by
  rw [List.length_drop]
  exact Nat.sub_lt (Nat.lt_trans (by decide) h)
    (Nat.lt_of_lt_of_le (by decide) (Nat.le_add_right 8 _))

/-- The chunks of a recording. At its end the header of a chunk alone does not count. -/
def chunks (b : Bytes) : List Chunk :=
  if h : 8 < b.length then chunkAt b :: chunks (b.drop (8 + (chunkAt b).size)) else []
termination_by b.length
decreasing_by exact length_drop_lt h _

/-- The rate and the number of samples at the first data; the last rate before it counts. -/
def samples (rate : Nat) : List Chunk → Option (Nat × Nat)
  | [] => none
  | c :: rest =>
    if c.name = formatName then samples c.rate rest
    else if c.name = dataName then some (rate, c.size / 4)
    else samples rate rest

/-- The rate and the number of samples of a recording. What is not one is counted in bytes. -/
def info (b : Bytes) : Nat × Nat :=
  if b.take 4 = riffName ∧ Bytes.slice b 8 12 = waveName then
    (samples defaultRate (chunks (b.drop 12))).getD (defaultRate, b.length)
  else (defaultRate, b.length)

/-- The same for any value: one that is not made of bytes has a size at most. -/
def infoOf (v : Value) : Except Fault (Nat × Nat) :=
  match v with
  | .bytes b => .ok (info b)
  | _ => do
    let n ← v.size
    .ok (defaultRate, n)

end Recording

end BlockScript
