import BlockScript.Number.Binary64
import BlockScript.Text.Class

/-!
# Numerals

Reading integers and floating point numbers from text. Blanks around a numeral are skipped,
decimal digits of every script are accepted, and single underscores may separate digits. An integer
of more than `maxDigits` digits is refused.
-/

namespace BlockScript

namespace Numeral

/-- Longest decimal numeral that is converted to or from an integer. -/
def maxDigits : Nat := 4300

def decimalValue (cs : List Char) : Nat :=
  cs.foldl (fun n c => 10 * n + (c.toNat - '0'.toNat)) 0

def isBlank (c : Char) : Bool := c == ' ' || (9 ≤ c.toNat && c.toNat ≤ 13)

/-- Digits of other scripts become ASCII digits and their blanks spaces; anything else above
U+007E ends the numeral with a character that no numeral contains. -/
def toAscii : List Char → List Char
  | [] => []
  | c :: rest =>
    if c.toNat < 127 then c :: toAscii rest
    else if Text.isSpace c then ' ' :: toAscii rest
    else
      match Text.decimalValue? c with
      | some d => Char.ofNat ('0'.toNat + d) :: toAscii rest
      | none => ['?']

/-- The numeral proper: in ASCII and without blanks at its ends. -/
def body (s : String) : List Char :=
  let cs := s.toList
  Text.trimChars isBlank (if cs.all Text.isAscii then cs else toAscii cs)

/-- Drops the underscores of a digit sequence, each of which has to stand between two digits. -/
def dropUnderscores (previousIsDigit : Bool) : List Char → Option (List Char)
  | [] => some []
  | '_' :: rest =>
    match rest with
    | c :: _ =>
      if previousIsDigit && Text.isAsciiDigit c then dropUnderscores false rest else none
    | [] => none
  | c :: rest => (dropUnderscores (Text.isAsciiDigit c) rest).map (c :: ·)

def sign : List Char → Bool × List Char
  | '-' :: rest => (true, rest)
  | '+' :: rest => (false, rest)
  | cs => (false, cs)

def int? (s : String) : Option Int :=
  let (negative, cs) := sign (body s)
  match dropUnderscores false cs with
  | some ds =>
    if ds.isEmpty || !ds.all Text.isAsciiDigit || ds.length > maxDigits then none
    else
      let n : Int := decimalValue ds
      some (if negative then -n else n)
  | none => none

/-- Reads `digits [. digits] [e [sign] digits]`, where digits may be missing on one side of the
point, and gives the digits as one integer with its exponent. -/
def decimal? (cs : List Char) : Option (Nat × Int) :=
  let whole := cs.takeWhile Text.isAsciiDigit
  let rest := cs.dropWhile Text.isAsciiDigit
  let (fraction, rest) :=
    match rest with
    | '.' :: r => (r.takeWhile Text.isAsciiDigit, r.dropWhile Text.isAsciiDigit)
    | _ => ([], rest)
  if whole.isEmpty && fraction.isEmpty then none
  else
    let digits := decimalValue (whole ++ fraction)
    match rest with
    | [] => some (digits, -(fraction.length : Int))
    | c :: r =>
      if c = 'e' ∨ c = 'E' then
        let (negative, ds) := sign r
        if ds.isEmpty || !ds.all Text.isAsciiDigit then none
        else
          let e : Int := decimalValue ds
          some (digits, (if negative then -e else e) - fraction.length)
      else none

/-- The text in small ASCII letters. -/
def lowered (cs : List Char) : String :=
  String.ofList (cs.map fun c => if Text.isAsciiUpper c then Char.ofNat (c.toNat + 32) else c)

/-- Reads a floating point number, an infinity or a NaN. -/
def float? (s : String) : Option Binary64 :=
  match dropUnderscores false (body s) with
  | none => none
  | some cs =>
    let (negative, ds) := sign cs
    match lowered ds with
    | "inf" | "infinity" => some (Binary64.infinity negative)
    | "nan" => some (if negative then Binary64.nan.neg else Binary64.nan)
    | _ => (decimal? ds).map fun (digits, e) => Binary64.ofDecimal negative digits e

end Numeral

end BlockScript
