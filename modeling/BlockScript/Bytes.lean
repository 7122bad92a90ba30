import BlockScript.Fault

/-!
# Bytes

Files, archives and downloads are sequences of bytes. Text is kept in them as UTF-8, and numbers
with the lowest byte first or with the highest byte first, depending on the format.
-/

namespace BlockScript

abbrev Bytes := List UInt8

namespace Bytes

/-! ### Text -/

def hexDigit (n : Nat) : Char := if n < 10 then Char.ofNat (48 + n) else Char.ofNat (87 + n)

def ofText (s : String) : Bytes := s.toUTF8.toList

def text? (b : Bytes) : Option String := String.fromUTF8? ⟨b.toArray⟩

/-- How many bytes follow the first byte of a character, and the range of the first of them. -/
def followers? (b : UInt8) : Option (Nat × UInt8 × UInt8) :=
  if b < 0x80 then some (0, 0, 0)
  else if b < 0xc2 then none
  else if b < 0xe0 then some (1, 0x80, 0xbf)
  else if b < 0xf0 then some (2, if b = 0xe0 then 0xa0 else 0x80, if b = 0xed then 0x9f else 0xbf)
  else if b < 0xf5 then some (3, if b = 0xf0 then 0x90 else 0x80, if b = 0xf4 then 0x8f else 0xbf)
  else none

/-- How many of the next bytes can belong to a character, out of the number it needs. -/
def fitting : Nat → UInt8 → UInt8 → Bytes → Nat
  | 0, _, _, _ => 0
  | _, _, _, [] => 0
  | n + 1, low, high, b :: rest =>
    if low ≤ b ∧ b ≤ high then fitting n 0x80 0xbf rest + 1 else 0

/-- The first bytes that are not part of a text: their position, how many they are, and why. -/
def flaw? : (fuel position : Nat) → Bytes → Option (Nat × Bytes × String)
  | 0, _, _ => none
  | _, _, [] => none
  | fuel + 1, position, b :: rest =>
    match followers? b with
    | none => some (position, [b], "invalid start byte")
    | some (needed, low, high) =>
      let n := fitting needed low high rest
      if n = needed then flaw? fuel (position + 1 + n) (rest.drop n)
      else if rest.length = n then some (position, b :: rest, "unexpected end of data")
      else some (position, b :: rest.take n, "invalid continuation byte")

def flawText : Nat × Bytes × String → String
  | (position, [b], reason) =>
    "byte 0x" ++ String.ofList [hexDigit (b.toNat / 16), hexDigit (b.toNat % 16)] ++
      " in position " ++ toString position ++ ": " ++ reason
  | (position, bytes, reason) =>
    "bytes in position " ++ toString position ++ "-" ++ toString (position + bytes.length - 1) ++
      ": " ++ reason

/-- The text whose UTF-8 form is given, or a complaint. -/
def text (b : Bytes) : Except Fault String :=
  match b.text? with
  | some s => .ok s
  | none => .error (.notText (((flaw? b.length 0 b).map flawText).getD "bytes"))

/-! ### Numbers -/

/-- The number whose lowest byte comes first. -/
def little : Bytes → Nat
  | [] => 0
  | b :: rest => b.toNat + 256 * little rest

/-- The number whose highest byte comes first. -/
def big (b : Bytes) : Nat := b.foldl (fun n byte => 256 * n + byte.toNat) 0

/-- The lowest `width` bytes of a number, the lowest first. -/
def ofNat : Nat → Nat → Bytes
  | 0, _ => []
  | width + 1, n => UInt8.ofNat (n % 256) :: ofNat width (n / 256)

/-- The bytes from one position up to another; what lies beyond the end is left out. -/
def slice (b : Bytes) (first last : Nat) : Bytes := (b.drop first).take (last - first)

@[simp] theorem length_ofNat (width n : Nat) : (ofNat width n).length = width := by
  induction width generalizing n with
  | zero => rfl
  | succ width ih => simp [ofNat, ih]

/-- A number that fits into the width is read back. -/
theorem little_ofNat (width n : Nat) (h : n < Nat.pow 256 width) :
    little (ofNat width n) = n := by
  induction width generalizing n with
  | zero => exact (Nat.lt_one_iff.mp h).symm
  | succ width ih =>
    have hn : n < 256 * Nat.pow 256 width := Nat.mul_comm _ 256 ▸ h
    have ht : little (ofNat width (n / 256)) = n / 256 := ih _ (Nat.div_lt_of_lt_mul hn)
    have hb : (UInt8.ofNat (n % 256)).toNat = n % 256 :=
      UInt8.toNat_ofNat_of_lt (Nat.mod_lt n (by decide))
    show (UInt8.ofNat (n % 256)).toNat + 256 * little (ofNat width (n / 256)) = n
    rw [hb, ht]
    exact Nat.mod_add_div n 256

/-! ### Hexadecimal -/

def hex (b : Bytes) : String :=
  String.ofList (b.flatMap fun x => [hexDigit (x.toNat / 16), hexDigit (x.toNat % 16)])

end Bytes

end BlockScript
