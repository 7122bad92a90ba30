import BlockScript.Value

/-!
# Reading JSON

A reader for JSON text that keeps the order of the keys of an object and the kind of a number: with
a fraction or an exponent it is a floating point number, otherwise an integer. `NaN`, `Infinity` and
`-Infinity` are accepted as numbers. If a key is repeated its first place and its last value
count.

No string, no container and no nesting is longer than the text, so the steps that read them take the
length of the whole text as the bound of their recursion. It is computed once, in `read`.
-/

namespace BlockScript

namespace Json

/-- A step of reading: a result and the rest of the text. -/
abbrev Reader (α : Type) := List Char → Except Fault (α × List Char)

def isBlank (c : Char) : Bool := c == ' ' || c == '\t' || c == '\n' || c == '\r'

def skipBlanks (cs : List Char) : List Char := cs.dropWhile isBlank

def hex4? : List Char → Option (Nat × List Char)
  | a :: b :: c :: d :: rest =>
    match Text.hexValue? a, Text.hexValue? b, Text.hexValue? c, Text.hexValue? d with
    | some a, some b, some c, some d => some (((a * 16 + b) * 16 + c) * 16 + d, rest)
    | _, _, _, _ => none
  | _ => none

/-- Joins a high and a low half to one character; half a pair alone is replaced. -/
def unit (n : Nat) (rest : List Char) : Char × List Char :=
  if 0xD800 ≤ n ∧ n < 0xDC00 then
    match rest with
    | '\\' :: 'u' :: more =>
      match hex4? more with
      | some (m, after) =>
        if 0xDC00 ≤ m ∧ m < 0xE000 then
          (Char.ofNat (0x10000 + (n - 0xD800) * 0x400 + (m - 0xDC00)), after)
        else ('�', rest)
      | none => ('�', rest)
    | _ => ('�', rest)
  else if 0xDC00 ≤ n ∧ n < 0xE000 then ('�', rest)
  else (Char.ofNat n, rest)

/-- One character or escape of a string, or `none` at the closing quote. -/
def stringUnit : List Char → Except Fault (Option Char × List Char)
  | [] => .error .malformedJson
  | '"' :: rest => .ok (none, rest)
  | '\\' :: rest =>
    match rest with
    | '"' :: r => .ok (some '"', r)
    | '\\' :: r => .ok (some '\\', r)
    | '/' :: r => .ok (some '/', r)
    | 'b' :: r => .ok (some (Char.ofNat 8), r)
    | 'f' :: r => .ok (some (Char.ofNat 12), r)
    | 'n' :: r => .ok (some '\n', r)
    | 'r' :: r => .ok (some '\r', r)
    | 't' :: r => .ok (some '\t', r)
    | 'u' :: r =>
      match hex4? r with
      | some (n, more) =>
        let (c, after) := unit n more
        .ok (some c, after)
      | none => .error .malformedJson
    | _ => .error .malformedJson
  | c :: rest => if c.toNat < 32 then .error .malformedJson else .ok (some c, rest)

def stringTail : Nat → List Char → Reader String
  | 0, _, _ => .error .malformedJson
  | fuel + 1, acc, cs => do
    match ← stringUnit cs with
    | (none, rest) => .ok (String.ofList acc.reverse, rest)
    | (some c, rest) => stringTail fuel (c :: acc) rest

def string (bound : Nat) : Reader String := stringTail bound []

/-- The digits of an integer part: a zero, or digits that do not start with one. -/
def integerPart? (cs : List Char) : Option (List Char × List Char) :=
  match cs with
  | '0' :: rest => some (['0'], rest)
  | _ =>
    let ds := cs.takeWhile Text.isAsciiDigit
    if ds.isEmpty then none else some (ds, cs.dropWhile Text.isAsciiDigit)

/-- The digits after a point, if there are any. -/
def fractionPart (cs : List Char) : List Char × List Char :=
  match cs with
  | '.' :: rest =>
    let ds := rest.takeWhile Text.isAsciiDigit
    if ds.isEmpty then ([], cs) else (ds, rest.dropWhile Text.isAsciiDigit)
  | _ => ([], cs)

def exponentPart (cs : List Char) : Option Int × List Char :=
  match cs with
  | c :: rest =>
    if c = 'e' ∨ c = 'E' then
      let (negative, ds) := Numeral.sign rest
      let digits := ds.takeWhile Text.isAsciiDigit
      if digits.isEmpty then (none, cs)
      else
        let e : Int := Numeral.decimalValue digits
        (some (if negative then -e else e), ds.dropWhile Text.isAsciiDigit)
    else (none, cs)
  | [] => (none, cs)

/-- A number, after an optional minus sign. -/
def number (negative : Bool) (cs : List Char) : Except Fault (Value × List Char) :=
  match integerPart? cs with
  | none => .error .malformedJson
  | some (whole, rest) =>
    let (fraction, rest) := fractionPart rest
    let (exponent, rest) := exponentPart rest
    if fraction.isEmpty && exponent.isNone then
      if whole.length > Numeral.maxDigits then
        .error (.badValue "Exceeds the limit (4300 digits) for integer string conversion")
      else
        let n : Int := Numeral.decimalValue whole
        .ok (.int (if negative then -n else n), rest)
    else
      let digits := Numeral.decimalValue (whole ++ fraction)
      .ok (.float (Binary64.ofDecimal negative digits (exponent.getD 0 - fraction.length)), rest)

def afterWord? (word : String) (cs : List Char) : Option (List Char) :=
  if word.toList.isPrefixOf cs then some (cs.drop word.length) else none

def scalar (bound : Nat) (cs : List Char) : Except Fault (Value × List Char) :=
  match cs with
  | '"' :: rest => do
    let (s, rest) ← string bound rest
    .ok (.str s, rest)
  | _ =>
    match afterWord? "null" cs with
    | some rest => .ok (.null, rest)
    | none =>
    match afterWord? "true" cs with
    | some rest => .ok (.bool true, rest)
    | none =>
    match afterWord? "false" cs with
    | some rest => .ok (.bool false, rest)
    | none =>
    match afterWord? "NaN" cs with
    | some rest => .ok (.float Binary64.nan, rest)
    | none =>
    match afterWord? "Infinity" cs with
    | some rest => .ok (.float (Binary64.infinity false), rest)
    | none =>
    match afterWord? "-Infinity" cs with
    | some rest => .ok (.float (Binary64.infinity true), rest)
    | none =>
    match cs with
    | '-' :: rest => number true rest
    | _ => number false cs

/-- Items of an array, after at least one. -/
def items (item : Reader Value) : Nat → List Value → Reader (List Value)
  | 0, _, _ => .error .malformedJson
  | fuel + 1, acc, cs => do
    let (v, rest) ← item (skipBlanks cs)
    match skipBlanks rest with
    | ',' :: more => items item fuel (v :: acc) more
    | ']' :: more => .ok ((v :: acc).reverse, more)
    | _ => .error .malformedJson

/-- Entries of an object, after at least one. -/
def entries (bound : Nat) (item : Reader Value) :
    Nat → List (String × Value) → Reader (List (String × Value))
  | 0, _, _ => .error .malformedJson
  | fuel + 1, acc, cs =>
    match skipBlanks cs with
    | '"' :: rest => do
      let (k, rest) ← string bound rest
      match skipBlanks rest with
      | ':' :: rest =>
        let (v, rest) ← item (skipBlanks rest)
        match skipBlanks rest with
        | ',' :: more => entries bound item fuel ((k, v) :: acc) more
        | '\x7d' :: more => .ok (((k, v) :: acc).reverse, more)
        | _ => .error .malformedJson
      | _ => .error .malformedJson
    | _ => .error .malformedJson

/-- A value nested at most `depth` deep. -/
def value (bound : Nat) : Nat → Reader Value
  | 0, _ => .error .malformedJson
  | depth + 1, cs =>
    match cs with
    | '[' :: rest =>
      match skipBlanks rest with
      | ']' :: more => .ok (.list [], more)
      | _ => do
        let (vs, more) ← items (value bound depth) bound [] rest
        .ok (.list vs, more)
    | '\x7b' :: rest =>
      match skipBlanks rest with
      | '\x7d' :: more => .ok (.dict [], more)
      | _ => do
        let (es, more) ← entries bound (value bound depth) bound [] rest
        .ok (.dict (Table.ofPairs es), more)
    | _ => scalar bound cs

def read (s : String) : Except Fault Value := do
  let cs := s.toList
  let bound := cs.length + 1
  let (v, rest) ← value bound bound (skipBlanks cs)
  if (skipBlanks rest).isEmpty then .ok v else .error .malformedJson

end Json

end BlockScript
