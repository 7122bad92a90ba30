import BlockScript.Value.Access

/-!
# Names and constants in a listing

A listing is a program text that is written for a project. Names of the project become identifiers,
values become constants. A text that reads as a number is written as that number.
-/

namespace BlockScript

namespace Listing

/-! ### Identifiers -/

/-- Characters that are neither letters nor digits become underscores. -/
def identifierChars (cs : List Char) : List Char :=
  cs.map fun c => if Text.isAlnum c then c else '_'

/-- Puts an underscore before a leading digit, and a name in the place of nothing. -/
def closeIdentifier (cs : List Char) : String :=
  match cs with
  | [] => "Sprite"
  | c :: _ => String.ofList (if Text.isDigit c then '_' :: cs else cs)

def identifier (name : String) : String := closeIdentifier (identifierChars name.toList)

/-- A piece of a name that is not a text: it is kept if it has letters and digits only. -/
def identifierPiece (v : Value) : Except Fault (List Char) := do
  let cs := (← v.asText "isalnum").toList
  .ok (if !cs.isEmpty && cs.all Text.isAlnum then cs else ['_'])

def identifierOf (v : Value) : Except Fault String := do
  match v with
  | .str s => .ok (identifier s)
  | _ =>
    let pieces ← v.iterate
    let chars ← pieces.mapM identifierPiece
    .ok (closeIdentifier chars.flatten)

/-! ### Constants -/

/-- A text between double quotes, exactly as it is. -/
def between (s : String) : String := "\"" ++ s ++ "\""

/-- The first value of a variable. -/
def valueText (v : Value) : Except Fault String :=
  match v with
  | .str s =>
    match Numeral.int? s with
    | some i => .ok (toString i)
    | none =>
      match Numeral.float? s with
      | some x => .ok x.text
      | none => .ok (between s)
  | v => v.quoted

def wholeNumber? (v : Value) : Option Int :=
  match v with
  | .str s => Numeral.int? s
  | .float x => x.trunc?
  | v => v.integer?

def realNumber? (v : Value) : Option Binary64 :=
  match v with
  | .str s => Numeral.float? s
  | .float x => some x
  | _ => none

/-- A number in an input; what is no number is written as it is shown. -/
def numberText (v : Value) : Except Fault String := do
  let shown ← v.text
  if Text.contains shown "." then
    match realNumber? v with
    | some x => .ok x.text
    | none => .ok shown
  else
    match wholeNumber? v with
    | some i =>
      match Value.integerText i with
      | .ok t => .ok t
      | .error _ => .ok shown
    | none => .ok shown

/-- A constant in an input: its kind and its value. -/
def literalText (v : Value) : Except Fault String := do
  if (← v.size) < 2 then .ok "0"
  else
    let kind ← v.nth 0
    let value ← v.nth 1
    let isKind (n : Int) : Bool := kind.same (.int n)
    if [4, 5, 6, 7, 8].any isKind then numberText value
    else
      let shown ← value.text
      if [9, 10, 11].any isKind then .ok (between shown)
      else if [12, 13].any isKind then .ok (identifier shown)
      else .ok shown

end Listing

end BlockScript
