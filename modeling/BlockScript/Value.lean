import BlockScript.Fault
import BlockScript.Number.Numeral
import BlockScript.Number.Shortest
import BlockScript.Table

/-!
# Values

Constants of a source program, the contents of a project file and the settings of a sprite are all
data whose shape is not known in advance: a sprite may be given the text `"left"` as its size, and a
project file may hold anything at all. `Value` is that data. Numbers keep their kind (an integer, a
binary floating point number, an imaginary number), objects keep the order of their keys.

Two texts belong to a value. `Value.quoted` writes it as a constant of the source language would be
written, `Value.text` is the same except that a text stands for itself. Both refuse an integer with
more than `Numeral.maxDigits` digits.
-/

namespace BlockScript

/-- Data of arbitrary shape. -/
inductive Value where
  | null
  | bool (b : Bool)
  | int (i : Int)
  | float (x : Binary64)
  | imaginary (x : Binary64)
  | ellipsis
  | str (s : String)
  | bytes (b : List UInt8)
  | list (items : List Value)
  | tuple (items : List Value)
  | dict (entries : List (String × Value))
deriving Inhabited

namespace Value

def typeName : Value → String
  | null => "NoneType"
  | bool _ => "bool"
  | int _ => "int"
  | float _ => "float"
  | imaginary _ => "complex"
  | ellipsis => "ellipsis"
  | str _ => "str"
  | bytes _ => "bytes"
  | list _ => "list"
  | tuple _ => "tuple"
  | dict _ => "dict"

/-- Whether a value counts as true: neither absent, nor zero, nor empty. -/
def truthy : Value → Bool
  | null => false
  | bool b => b
  | int i => i != 0
  | float x => !x.isZero
  | imaginary x => !x.isZero
  | ellipsis => true
  | str s => !s.isEmpty
  | bytes b => !b.isEmpty
  | list items => !items.isEmpty
  | tuple items => !items.isEmpty
  | dict entries => !entries.isEmpty

def integer? : Value → Option Int
  | bool b => some (if b then 1 else 0)
  | int i => some i
  | _ => none

/-- Whether a value is a real number; truth values are. -/
def isNumber : Value → Bool
  | bool _ | int _ | float _ => true
  | _ => false

def string? : Value → Option String
  | str s => some s
  | _ => none

def negated? : Value → Option Value
  | bool b => some (int (if b then -1 else 0))
  | int i => some (int (-i))
  | float x => some (float x.neg)
  | _ => none

/-! ### Quoted text -/

def hex (width n : Nat) : String :=
  let digits := Nat.toDigits 16 n
  String.ofList (List.replicate (width - digits.length) '0' ++ digits)

/-- The quote to use: a single one unless only single ones occur inside. -/
def quoteFor (hasSingle hasDouble : Bool) : Char := if hasSingle && !hasDouble then '"' else '\''

def quotedChar (quote c : Char) : String :=
  if c = quote ∨ c = '\\' then String.ofList ['\\', c]
  else if c = '\n' then "\\n"
  else if c = '\r' then "\\r"
  else if c = '\t' then "\\t"
  else if Text.isPrintable c then String.singleton c
  else if c.toNat < 0x100 then "\\x" ++ hex 2 c.toNat
  else if c.toNat < 0x10000 then "\\u" ++ hex 4 c.toNat
  else "\\U" ++ hex 8 c.toNat

def quotedString (s : String) : String :=
  let cs := s.toList
  let quote := quoteFor (cs.contains '\'') (cs.contains '"')
  String.singleton quote ++ String.join (cs.map (quotedChar quote)) ++ String.singleton quote

def quotedByte (quote : Char) (b : UInt8) : String :=
  let n := b.toNat
  if n < 0x80 then
    let c := Char.ofNat n
    if c = quote ∨ c = '\\' then String.ofList ['\\', c]
    else if c = '\n' then "\\n"
    else if c = '\r' then "\\r"
    else if c = '\t' then "\\t"
    else if 32 ≤ n ∧ n < 127 then String.singleton c
    else "\\x" ++ hex 2 n
  else "\\x" ++ hex 2 n

def quotedBytes (bs : List UInt8) : String :=
  let quote := quoteFor (bs.contains 39) (bs.contains 34)
  "b" ++ String.singleton quote ++ String.join (bs.map (quotedByte quote)) ++
    String.singleton quote

def integerText (i : Int) : Except Fault String :=
  if (Binary64.digitCount i.natAbs) > Numeral.maxDigits then
    .error (.badValue "Exceeds the limit (4300 digits) for integer string conversion")
  else .ok (toString i)

/-- An imaginary number: the mark of a whole number is left out. -/
def imaginaryText (x : Binary64) : String :=
  let t := x.text.toList
  let t := if ['.', '0'].isSuffixOf t then t.take (t.length - 2) else t
  String.ofList t ++ "j"

mutual

def quoted : Value → Except Fault String
  | null => .ok "None"
  | bool b => .ok (if b then "True" else "False")
  | int i => integerText i
  | float x => .ok x.text
  | imaginary x => .ok (imaginaryText x)
  | ellipsis => .ok "Ellipsis"
  | str s => .ok (quotedString s)
  | bytes b => .ok (quotedBytes b)
  | list items => do
    let ts ← quotedAll items
    .ok ("[" ++ String.intercalate ", " ts ++ "]")
  | tuple items => do
    match ← quotedAll items with
    | [t] => .ok ("(" ++ t ++ ",)")
    | ts => .ok ("(" ++ String.intercalate ", " ts ++ ")")
  | dict entries => do
    let ts ← quotedEntries entries
    .ok ("\x7b" ++ String.intercalate ", " ts ++ "\x7d")

def quotedAll : List Value → Except Fault (List String)
  | [] => .ok []
  | v :: rest => do
    let t ← quoted v
    let ts ← quotedAll rest
    .ok (t :: ts)

def quotedEntries : List (String × Value) → Except Fault (List String)
  | [] => .ok []
  | (k, v) :: rest => do
    let t ← quoted v
    let ts ← quotedEntries rest
    .ok ((quotedString k ++ ": " ++ t) :: ts)

end

/-- The value as it is shown: a text stands for itself. -/
def text : Value → Except Fault String
  | str s => .ok s
  | v => quoted v

/-! ### Equality -/

def sameNumber (i : Int) (x : Binary64) : Bool :=
  match x.toQuotient? with
  | some (n, d) => n == i * d
  | none => false

mutual

/-- Equality of data: numbers of different kinds are compared by value, and the order of the keys of
an object does not matter. -/
def same : Value → Value → Bool
  | null, null => true
  | ellipsis, ellipsis => true
  | bool a, bool b => a == b
  | bool a, int j => (if a then 1 else 0) == j
  | int i, bool b => i == (if b then 1 else 0)
  | int i, int j => i == j
  | float x, float y => x.equal y
  | int i, float x => sameNumber i x
  | float x, int i => sameNumber i x
  | bool b, float x => sameNumber (if b then 1 else 0) x
  | float x, bool b => sameNumber (if b then 1 else 0) x
  | imaginary x, imaginary y => x.equal y
  | str s, str t => s == t
  | bytes a, bytes b => a == b
  | list xs, list ys => sameAll xs ys
  | tuple xs, tuple ys => sameAll xs ys
  | dict xs, dict ys => xs.length == ys.length && sameEntries xs ys
  | _, _ => false

def sameAll : List Value → List Value → Bool
  | [], [] => true
  | x :: xs, y :: ys => same x y && sameAll xs ys
  | _, _ => false

def sameEntries : List (String × Value) → List (String × Value) → Bool
  | [], _ => true
  | (k, v) :: rest, ys =>
    (match Table.find? ys k with
      | some w => same v w
      | none => false) && sameEntries rest ys

end

end Value

end BlockScript
