import BlockScript.Number.Binary64

/-!
# The shortest decimal of a binary number

Among the decimals that round to a given word the program writes one with the fewest digits, and of
those the one nearest to the exact value (`Binary64.shortest`). The search is by definition: for
one digit, two digits and so on up to seventeen, the two neighbours of the value on the decimal grid
are tested against the interval of reals that round to the word.

How the digits are laid out is a separate decision (`Binary64.text`): positional notation for
decimal points up to sixteen places to the right and three to the left of the first digit,
scientific notation otherwise, and always a sign that the number is not an integer.
-/

namespace BlockScript

namespace Binary64

/-- `digits * 10 ^ exponent`. -/
structure Decimal where
  digits : Nat
  exponent : Int
deriving DecidableEq

def leadingExponent (num den : Nat) : Int :=
  let guess : Int := (digitCount num : Int) - (digitCount den : Int)
  let reached :=
    if 0 ≤ guess then den * Nat.pow 10 guess.toNat ≤ num else den ≤ num * Nat.pow 10 (-guess).toNat
  if reached then guess else guess - 1

/-- The reals that round to a finite nonzero word, as `(low, value, high)` over one denominator,
with a flag that says whether the ends belong to the interval. Below a power of two the gap is half
as wide. -/
def roundingInterval (x : Binary64) : (Nat × Nat × Nat) × Nat × Bool :=
  let m := x.significand
  let below := if m = Nat.pow 2 52 ∧ x.exponentField > 1 then 1 else 2
  let q := x.power - 2
  let up := if 0 ≤ q then Nat.pow 2 q.toNat else 1
  let den := if 0 ≤ q then 1 else Nat.pow 2 (-q).toNat
  (((4 * m - below) * up, 4 * m * up, (4 * m + 2) * up), den, m % 2 == 0)

/-- The nearest point of the grid `10 ^ exponent` that rounds to the word, if there is one. -/
def gridPoint? (x : Binary64) (exponent : Int) : Option Nat :=
  let ((low, value, high), den, closed) := x.roundingInterval
  -- Everything is multiplied by `den * 10 ^ max 0 (-exponent)`, so that all points are integers.
  let up := if 0 ≤ exponent then 1 else Nat.pow 10 (-exponent).toNat
  let step := if 0 ≤ exponent then den * Nat.pow 10 exponent.toNat else den
  let (low, value, high) := (low * up, value * up, high * up)
  let inside (p : Nat) : Bool :=
    if closed then low ≤ p * step && p * step ≤ high else low < p * step && p * step < high
  let d := value / step
  let left := value - d * step
  let right := (d + 1) * step - value
  let first := if left < right || (left == right && d % 2 == 0) then d else d + 1
  let second := if first = d then d + 1 else d
  if inside first then some first else if inside second then some second else none

/-- Rounding `9.99…` up on the one-digit grid gives the point `10`, whose zero is dropped. -/
def Decimal.carried (d : Decimal) : Decimal :=
  if d.digits = 10 then ⟨1, d.exponent + 1⟩ else d

/-- Tries grids of `17 - fuel + 1`, … 17 digits. -/
def shortestFrom (x : Binary64) (leading : Int) : Nat → Decimal
  | 0 =>
    -- Seventeen digits always suffice; this line is the value on the finest grid.
    ⟨(x.gridPoint? (leading - 16)).getD 0, leading - 16⟩
  | fuel + 1 =>
    let exponent := leading - (16 - fuel : Nat)
    match x.gridPoint? exponent with
    | some p => Decimal.carried ⟨p, exponent⟩
    | none => shortestFrom x leading fuel

def shortest (x : Binary64) : Decimal :=
  let (n, d) := x.magnitude
  shortestFrom x (leadingExponent n d) 17

/-! ### Layout -/

/-- `n` copies of the digit zero. -/
def zeros (n : Nat) : String := String.ofList (List.replicate n '0')

def exponentText (e : Int) : String :=
  let digits := toString e.natAbs
  (if e < 0 then "-" else "+") ++ (if digits.length < 2 then "0" ++ digits else digits)

/-- Digits with the decimal point after the first `point` of them. -/
def layout (digits : String) (point : Int) : String :=
  let n : Int := digits.length
  if -4 < point ∧ point ≤ 16 then
    if point ≤ 0 then "0." ++ zeros (-point).toNat ++ digits
    else if n ≤ point then digits ++ zeros (point - n).toNat ++ ".0"
    else
      String.ofList (digits.toList.take point.toNat) ++ "." ++
        String.ofList (digits.toList.drop point.toNat)
  else
    let mantissa :=
      match digits.toList with
      | [] => ""
      | [c] => String.ofList [c]
      | c :: rest => String.ofList (c :: '.' :: rest)
    mantissa ++ "e" ++ exponentText (point - 1)

/-- The text of a number: `2.0`, `1e-07`, `1e+22`, `inf`, `nan`, `-0.0`. -/
def text (x : Binary64) : String :=
  if x.isNaN then "nan"
  else
    let body :=
      if x.isInfinite then "inf"
      else if x.isZero then "0.0"
      else
        let d := x.shortest
        let digits := toString d.digits
        layout digits (d.exponent + digits.length)
    if x.isNegative then "-" ++ body else body

end Binary64

end BlockScript
