import BlockScript.Bytes

/-!
# The name of a file's contents

An asset is stored under a name that depends on its bytes alone: their MD5 digest in hexadecimal.
The digest works on blocks of sixteen words of 32 bits. Each block changes a state of four words in
64 steps, and every step mixes in one word of the block, one constant and one rotation.
-/

namespace BlockScript

namespace Digest

/-- The four words that are carried from block to block. -/
structure State where
  a : UInt32
  b : UInt32
  c : UInt32
  d : UInt32

/-- The state before the first block. -/
def State.start : State := ⟨0x67452301, 0xefcdab89, 0x98badcfe, 0x10325476⟩

/-- The constant of each step: the first 32 bits of the fractions of sines. -/
def constants : Array UInt32 := #[
  0xd76aa478, 0xe8c7b756, 0x242070db, 0xc1bdceee, 0xf57c0faf, 0x4787c62a, 0xa8304613, 0xfd469501,
  0x698098d8, 0x8b44f7af, 0xffff5bb1, 0x895cd7be, 0x6b901122, 0xfd987193, 0xa679438e, 0x49b40821,
  0xf61e2562, 0xc040b340, 0x265e5a51, 0xe9b6c7aa, 0xd62f105d, 0x02441453, 0xd8a1e681, 0xe7d3fbc8,
  0x21e1cde6, 0xc33707d6, 0xf4d50d87, 0x455a14ed, 0xa9e3e905, 0xfcefa3f8, 0x676f02d9, 0x8d2a4c8a,
  0xfffa3942, 0x8771f681, 0x6d9d6122, 0xfde5380c, 0xa4beea44, 0x4bdecfa9, 0xf6bb4b60, 0xbebfbc70,
  0x289b7ec6, 0xeaa127fa, 0xd4ef3085, 0x04881d05, 0xd9d4d039, 0xe6db99e5, 0x1fa27cf8, 0xc4ac5665,
  0xf4292244, 0x432aff97, 0xab9423a7, 0xfc93a039, 0x655b59c3, 0x8f0ccc92, 0xffeff47d, 0x85845dd1,
  0x6fa87e4f, 0xfe2ce6e0, 0xa3014314, 0x4e0811a1, 0xf7537e82, 0xbd3af235, 0x2ad7d2bb, 0xeb86d391]

/-- How far each step rotates: four distances for each of the four rounds. -/
def distances : Array UInt32 := #[7, 12, 17, 22, 5, 9, 14, 20, 4, 11, 16, 23, 6, 10, 15, 21]

def distance (i : Nat) : UInt32 := distances[i / 16 * 4 + i % 4]?.getD 0

def mix (s : State) (i : Nat) : UInt32 :=
  match i / 16 with
  | 0 => (s.b &&& s.c) ||| (~~~ s.b &&& s.d)
  | 1 => (s.d &&& s.b) ||| (~~~ s.d &&& s.c)
  | 2 => s.b ^^^ s.c ^^^ s.d
  | _ => s.c ^^^ (s.b ||| ~~~ s.d)

def wordIndex (i : Nat) : Nat :=
  match i / 16 with
  | 0 => i
  | 1 => (5 * i + 1) % 16
  | 2 => (3 * i + 5) % 16
  | _ => (7 * i) % 16

def rotate (x distance : UInt32) : UInt32 := (x <<< distance) ||| (x >>> (32 - distance))

def step (words : Array UInt32) (s : State) (i : Nat) : State :=
  let sum := s.a + mix s i + constants[i]?.getD 0 + words[wordIndex i]?.getD 0
  ⟨s.d, s.b + rotate sum (distance i), s.b, s.c⟩

def block (s : State) (words : Array UInt32) : State :=
  let t := (List.range 64).foldl (step words) s
  ⟨s.a + t.a, s.b + t.b, s.c + t.c, s.d + t.d⟩

/-- The words of a message, each with its lowest byte first. -/
def words : Bytes → List UInt32
  | a :: b :: c :: d :: rest => UInt32.ofNat (Bytes.little [a, b, c, d]) :: words rest
  | _ => []

/-- The message with its mark and its length, filled up to whole blocks. -/
def padded (b : Bytes) : Bytes :=
  let zeros := (119 - b.length % 64) % 64
  b ++ 0x80 :: List.replicate zeros 0 ++ Bytes.ofNat 8 (8 * b.length)

/-- The state after `n` blocks of a message. -/
def blocks : Nat → State → List UInt32 → State
  | 0, s, _ => s
  | n + 1, s, ws => blocks n (block s (ws.take 16).toArray) (ws.drop 16)

def bytes (b : Bytes) : Bytes :=
  let message := padded b
  let s := blocks (message.length / 64) .start (words message)
  [s.a, s.b, s.c, s.d].flatMap fun w => Bytes.ofNat 4 w.toNat

end Digest

def digest (b : Bytes) : String := Bytes.hex (Digest.bytes b)

def digestText (s : String) : String := digest (Bytes.ofText s)

end BlockScript
