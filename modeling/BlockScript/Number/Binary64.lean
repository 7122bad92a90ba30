/-!
# Binary floating point, exactly

A number with a fractional part is a binary64 word. The word is kept as it is (`Binary64.bits`) and
every operation is exact integer arithmetic on its fields: a finite word stands for
`± significand * 2 ^ power`, and `Binary64.nearest` rounds a quotient of natural numbers to the
nearest word, a tie going to the even significand. Nothing here depends on the arithmetic of the
machine that runs it.
-/

namespace BlockScript

/-- A binary64 word. -/
structure Binary64 where
  bits : UInt64
deriving DecidableEq

namespace Binary64

/-! ### The fields of a word -/

def fraction (x : Binary64) : Nat := x.bits.toNat % Nat.pow 2 52

def exponentField (x : Binary64) : Nat := x.bits.toNat / Nat.pow 2 52 % Nat.pow 2 11

def isNegative (x : Binary64) : Bool := x.bits.toNat / Nat.pow 2 63 == 1

/-- Neither an infinity nor a NaN. -/
def isFinite (x : Binary64) : Bool := x.exponentField != 2047

def isInfinite (x : Binary64) : Bool := x.exponentField == 2047 && x.fraction == 0

def isNaN (x : Binary64) : Bool := x.exponentField == 2047 && x.fraction != 0

def isZero (x : Binary64) : Bool := x.exponentField == 0 && x.fraction == 0

def significand (x : Binary64) : Nat :=
  if x.exponentField = 0 then x.fraction else Nat.pow 2 52 + x.fraction

/-- The power of two by which the significand of a finite word is multiplied. -/
def power (x : Binary64) : Int :=
  if x.exponentField = 0 then -1074 else (x.exponentField : Int) - 1075

/-- The absolute value of a finite word as a quotient. -/
def magnitude (x : Binary64) : Nat × Nat :=
  if 0 ≤ x.power then (x.significand * Nat.pow 2 x.power.toNat, 1)
  else (x.significand, Nat.pow 2 (-x.power).toNat)

/-! ### Making words -/

def ofFields (negative : Bool) (low : Nat) : Binary64 :=
  ⟨UInt64.ofNat ((if negative then Nat.pow 2 63 else 0) + low)⟩

def zero (negative : Bool) : Binary64 := ofFields negative 0

def infinity (negative : Bool) : Binary64 := ofFields negative (2047 * Nat.pow 2 52)

def nan : Binary64 := ofFields false (2047 * Nat.pow 2 52 + Nat.pow 2 51)

/-- The quotient rounded to the nearest integer, a tie going to the even one. -/
def roundHalfEven (num den : Nat) : Nat :=
  let quotient := num / den
  let twice := 2 * (num % den)
  if twice > den || (twice == den && quotient % 2 == 1) then quotient + 1 else quotient

def scale (num den : Nat) (e : Int) : Nat × Nat :=
  if 0 ≤ e then (num, den * Nat.pow 2 e.toNat) else (num * Nat.pow 2 (-e).toNat, den)

/-- The word nearest to `± num / den`. Beyond the range it is an infinity, below it a zero. -/
def nearest (negative : Bool) (num den : Nat) : Binary64 :=
  if num = 0 then zero negative
  else
    let guess : Int := (num.log2 : Int) - (den.log2 : Int) - 52
    let (n, d) := scale num den guess
    let e : Int := max (-1074) (if n / d < Nat.pow 2 52 then guess - 1 else guess)
    let (n, d) := scale num den e
    let q := roundHalfEven n d
    let (q, e) := if q = Nat.pow 2 53 then (Nat.pow 2 52, e + 1) else (q, e)
    if q < Nat.pow 2 52 then ofFields negative q
    else if e + 1075 ≥ 2047 then infinity negative
    else ofFields negative ((e + 1075).toNat * Nat.pow 2 52 + (q - Nat.pow 2 52))

def ofInt (i : Int) : Binary64 := nearest (decide (i < 0)) i.natAbs 1

/-- The number of decimal digits of a natural number; zero has one. -/
def digitCount (n : Nat) : Nat := (Nat.toDigits 10 n).length

/-- The word nearest to `± digits * 10 ^ exponent`. Exponents far outside the range are settled
without forming the power. -/
def ofDecimal (negative : Bool) (digits : Nat) (exponent : Int) : Binary64 :=
  if digits = 0 then zero negative
  else
    let top := exponent + digitCount digits
    if top > 400 then infinity negative
    else if top < -400 then zero negative
    else if 0 ≤ exponent then nearest negative (digits * Nat.pow 10 exponent.toNat) 1
    else nearest negative digits (Nat.pow 10 (-exponent).toNat)

/-! ### Arithmetic -/

def neg (x : Binary64) : Binary64 := ⟨x.bits ^^^ 0x8000000000000000⟩

/-- The value of a finite word as a signed quotient. -/
def toQuotient? (x : Binary64) : Option (Int × Nat) :=
  if x.isFinite then
    let (n, d) := x.magnitude
    some (if x.isNegative then -(n : Int) else (n : Int), d)
  else none

/-- The integer part, toward zero, of a finite word. -/
def trunc? (x : Binary64) : Option Int :=
  if x.isFinite then
    let (n, d) := x.magnitude
    some (if x.isNegative then -((n / d : Nat) : Int) else ((n / d : Nat) : Int))
  else none

/-- The nearest integer, a tie going to the even one, of a finite word. -/
def round? (x : Binary64) : Option Int :=
  if x.isFinite then
    let (n, d) := x.magnitude
    let r : Int := roundHalfEven n d
    some (if x.isNegative then -r else r)
  else none

/-- The word nearest to a signed quotient; a zero result takes the given sign. -/
def ofQuotient (num : Int) (den : Nat) (negativeZero : Bool) : Binary64 :=
  if num = 0 then zero negativeZero else nearest (decide (num < 0)) num.natAbs den

/-- Numeric equality: a NaN equals nothing and the two zeros are equal. -/
def equal (x y : Binary64) : Bool :=
  if x.isNaN || y.isNaN then false else x == y || (x.isZero && y.isZero)

/-- Numeric order, with `none` when a NaN takes part. Infinities compare as expected. -/
def lt (x y : Binary64) : Bool :=
  if x.isNaN || y.isNaN then false
  else if x.isInfinite then x.isNegative && !(y.isInfinite && y.isNegative)
  else if y.isInfinite then !y.isNegative
  else
    match x.toQuotient?, y.toQuotient? with
    | some (n, d), some (n', d') => decide (n * d' < n' * d)
    | _, _ => false

end Binary64

end BlockScript
