import BlockScript.Value

/-!
# Arithmetic on values

The default costume is drawn to a size that may be an integer or a floating point number. Its
coordinates need halves rounded down, the smaller of two numbers, and sums with small integers.
-/

namespace BlockScript

namespace Binary64

/-- Half of a number, rounded down. There is none for what is not finite. -/
def halfDown (x : Binary64) : Binary64 :=
  match x.toQuotient? with
  | some (n, d) =>
    let q := Int.fdiv n (2 * d)
    if q = 0 then zero x.isNegative else ofInt q
  | none => nan

def plusInt (x : Binary64) (k : Int) : Binary64 :=
  match x.toQuotient? with
  | some (n, d) => ofQuotient (n + k * d) d false
  | none => x

def ltInt (x : Binary64) (k : Int) : Bool :=
  match x.toQuotient? with
  | some (n, d) => n < k * d
  | none => x.isInfinite && x.isNegative

def intLt (k : Int) (x : Binary64) : Bool :=
  match x.toQuotient? with
  | some (n, d) => k * d < n
  | none => x.isInfinite && !x.isNegative

end Binary64

namespace Value

/-- Half of a number, rounded down. -/
def halfDown (v : Value) : Except Fault Value :=
  match v.integer?, v with
  | some i, _ => .ok (.int (Int.fdiv i 2))
  | none, float x => .ok (.float x.halfDown)
  | none, _ =>
    .error (.wrongType ("unsupported operand type(s) for //: '" ++ v.typeName ++ "' and 'int'"))

def plusInt (v : Value) (k : Int) : Except Fault Value :=
  match v.integer?, v with
  | some i, _ => .ok (.int (i + k))
  | none, float x => .ok (.float (x.plusInt k))
  | none, _ =>
    .error (.wrongType ("unsupported operand type(s) for +: '" ++ v.typeName ++ "' and 'int'"))

/-- Whether one number is smaller than another. -/
def isLess (v w : Value) : Except Fault Bool :=
  match v.integer?, w.integer?, v, w with
  | some i, some j, _, _ => .ok (i < j)
  | some i, none, _, float y => .ok (Binary64.intLt i y)
  | none, some j, float x, _ => .ok (x.ltInt j)
  | none, none, float x, float y => .ok (x.lt y)
  | _, _, _, _ =>
    .error (.wrongType ("'<' not supported between instances of '" ++ v.typeName ++ "' and '" ++
      w.typeName ++ "'"))

/-- The smaller of two numbers, the first if neither is smaller. -/
def smaller (v w : Value) : Except Fault Value := do
  if ← w.isLess v then .ok w else .ok v

/-- The first items of a sequence. -/
def firsts (v : Value) (n : Nat) : Except Fault Value :=
  match v with
  | str s => .ok (.str (String.ofList (s.toList.take n)))
  | bytes b => .ok (.bytes (b.take n))
  | list items => .ok (.list (items.take n))
  | tuple items => .ok (.tuple (items.take n))
  | dict _ => .error (.wrongType "unhashable type: 'slice'")
  | _ => .error (.wrongType ("'" ++ v.typeName ++ "' object is not subscriptable"))

end Value

end BlockScript
