import BlockScript.Value

/-!
# Writing JSON

Project files are JSON in plain ASCII: every other character is written as one or two escapes of
sixteen bits. The separators and the indentation are given by a `Style`. Bytes, imaginary numbers
and the ellipsis have no JSON form.
-/

namespace BlockScript

namespace Json

/-- How a document is laid out: on one line, or with every item on a line of its own. -/
inductive Style where
  | compact
  | indented (width : Nat)
deriving DecidableEq

def escape16 (n : Nat) : String := "\\u" ++ Value.hex 4 n

def escapeChar (c : Char) : String :=
  if c = '"' then "\\\""
  else if c = '\\' then "\\\\"
  else if c = '\n' then "\\n"
  else if c = '\r' then "\\r"
  else if c = '\t' then "\\t"
  else if c.toNat = 8 then "\\b"
  else if c.toNat = 12 then "\\f"
  else if 32 ≤ c.toNat ∧ c.toNat < 127 then String.singleton c
  else if c.toNat < 0x10000 then escape16 c.toNat
  else
    let n := c.toNat - 0x10000
    escape16 (0xD800 + n / 0x400) ++ escape16 (0xDC00 + n % 0x400)

def stringText (s : String) : String := "\"" ++ String.join (s.toList.map escapeChar) ++ "\""

/-- A floating point number; the infinities and NaN have names. -/
def floatText (x : Binary64) : String :=
  if x.isNaN then "NaN"
  else if x.isInfinite then if x.isNegative then "-Infinity" else "Infinity"
  else x.text

/-- The line break and the blanks before an item at the given depth. -/
def Style.lead : Style → Nat → String
  | compact, _ => ""
  | indented width, depth => "\n" ++ String.ofList (List.replicate (width * depth) ' ')

/-- What stands between two items. -/
def Style.separator : Style → Nat → String
  | compact, _ => ", "
  | indented width, depth => "," ++ (indented width).lead depth

def Style.bracket (style : Style) (depth : Nat) (opening closing : String) (items : List String) :
    String :=
  if items.isEmpty then opening ++ closing
  else
    opening ++ style.lead (depth + 1) ++ String.intercalate (style.separator (depth + 1)) items ++
      style.lead depth ++ closing

mutual

def writeAt (style : Style) (depth : Nat) : Value → Except Fault String
  | .null => .ok "null"
  | .bool b => .ok (if b then "true" else "false")
  | .int i => Value.integerText i
  | .float x => .ok (floatText x)
  | .str s => .ok (stringText s)
  | .list items => do
    let ts ← writeItems style (depth + 1) items
    .ok (style.bracket depth "[" "]" ts)
  | .tuple items => do
    let ts ← writeItems style (depth + 1) items
    .ok (style.bracket depth "[" "]" ts)
  | .dict entries => do
    let ts ← writeEntries style (depth + 1) entries
    .ok (style.bracket depth "\x7b" "\x7d" ts)
  | .imaginary _ => .error (.wrongType "Object of type complex is not JSON serializable")
  | .ellipsis => .error (.wrongType "Object of type ellipsis is not JSON serializable")
  | .bytes _ => .error (.wrongType "Object of type bytes is not JSON serializable")

def writeItems (style : Style) (depth : Nat) : List Value → Except Fault (List String)
  | [] => .ok []
  | v :: rest => do
    let t ← writeAt style depth v
    let ts ← writeItems style depth rest
    .ok (t :: ts)

def writeEntries (style : Style) (depth : Nat) :
    List (String × Value) → Except Fault (List String)
  | [] => .ok []
  | (k, v) :: rest => do
    let t ← writeAt style depth v
    let ts ← writeEntries style depth rest
    .ok ((stringText k ++ ": " ++ t) :: ts)

end

def write (style : Style) (v : Value) : Except Fault String := writeAt style 0 v

end Json

end BlockScript
