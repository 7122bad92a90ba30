import BlockScript.Text.Edit
import BlockScript.Value

/-!
# Looking into data

A project file can hold anything where an object or a list is expected. The operations below look
into a value the way a script would, and say what is wrong if the value has the wrong shape: an
object is asked for a key, a list for an item, either for its size, and so on.
-/

namespace BlockScript

namespace Value

/-- The value under a key of an object, or the given one if the key is absent. -/
def getD (v : Value) (key : String) (fallback : Value) : Except Fault Value :=
  match v with
  | dict entries => .ok ((Table.find? entries key).getD fallback)
  | _ => .error (.noOperation v.typeName "get")

/-- The value under a key of an object, or nothing. -/
def get (v : Value) (key : String) : Except Fault Value := v.getD key .null

def entries (v : Value) : Except Fault (List (String × Value)) :=
  match v with
  | dict es => .ok es
  | _ => .error (.noOperation v.typeName "items")

/-- Whether a value can be a key: it contains neither lists nor objects. -/
def hashable : Value → Bool
  | list _ | dict _ => false
  | _ => true

/-- The value under any key of an object, or the given one. Only texts are keys. -/
def lookupD (v key fallback : Value) : Except Fault Value :=
  match v with
  | dict es =>
    if key.hashable then
      match key with
      | str k => .ok ((Table.find? es k).getD fallback)
      | _ => .ok fallback
    else .error (.wrongType ("unhashable type: '" ++ key.typeName ++ "'"))
  | _ => .error (.noOperation v.typeName "get")

def iterate (v : Value) : Except Fault (List Value) :=
  match v with
  | list items => .ok items
  | tuple items => .ok items
  | dict es => .ok (es.map fun (k, _) => str k)
  | str s => .ok (s.toList.map fun c => str (String.singleton c))
  | bytes bs => .ok (bs.map fun b => int b.toNat)
  | _ => .error (.wrongType ("'" ++ v.typeName ++ "' object is not iterable"))

def size (v : Value) : Except Fault Nat :=
  match v with
  | list items => .ok items.length
  | tuple items => .ok items.length
  | dict es => .ok es.length
  | str s => .ok s.length
  | bytes bs => .ok bs.length
  | _ => .error (.wrongType ("object of type '" ++ v.typeName ++ "' has no len()"))

/-- The item at a position. -/
def nth (v : Value) (i : Nat) : Except Fault Value :=
  let found : Option Value → Except Fault Value
    | some w => .ok w
    | none => .error (.badIndex (v.typeName ++ " index out of range"))
  match v with
  | list items => found items[i]?
  | tuple items => found items[i]?
  | str s => found (s.toList[i]?.map fun c => str (String.singleton c))
  | bytes bs => found (bs[i]?.map fun b => int b.toNat)
  | dict _ => .error (.missingKey (toString i))
  | _ => .error (.wrongType ("'" ++ v.typeName ++ "' object is not subscriptable"))

def wrongIndex (v key : Value) : Fault :=
  match v with
  | str _ => .wrongType ("string indices must be integers, not '" ++ key.typeName ++ "'")
  | bytes _ => .wrongType ("byte indices must be integers or slices, not " ++ key.typeName)
  | list _ | tuple _ =>
    .wrongType (v.typeName ++ " indices must be integers or slices, not " ++ key.typeName)
  | _ => .wrongType ("'" ++ v.typeName ++ "' object is not subscriptable")

/-- The value under a key that has to be present, or the item at a position. -/
def item (v key : Value) : Except Fault Value :=
  match v, key with
  | dict es, str k =>
    match Table.find? es k with
    | some w => .ok w
    | none => .error (.missingKey (quotedString k))
  | dict _, _ =>
    if key.hashable then do
      let t ← key.quoted
      .error (.missingKey t)
    else .error (.wrongType ("unhashable type: '" ++ key.typeName ++ "'"))
  | _, _ =>
    match key.integer? with
    | some i => v.nth i.toNat
    | none => .error (wrongIndex v key)

def key (v : Value) (k : String) : Except Fault Value := v.item (.str k)

/-- Whether a value is among the keys of an object, the items of a list or the parts of a text. -/
def contains (v key : Value) : Except Fault Bool :=
  match v with
  | dict es =>
    if key.hashable then
      match key with
      | str k => .ok (Table.has es k)
      | _ => .ok false
    else .error (.wrongType ("unhashable type: '" ++ key.typeName ++ "'"))
  | list items => .ok (items.any (same key))
  | tuple items => .ok (items.any (same key))
  | str s =>
    match key with
    | str k => .ok (Text.contains s k)
    | _ =>
      .error (.wrongType ("'in <string>' requires string as left operand, not " ++ key.typeName))
  | _ => .error (.wrongType ("argument of type '" ++ v.typeName ++ "' is not iterable"))

/-- The items of a list with at least two of them. -/
def pair? : Value → Option (Value × Value)
  | list (a :: b :: _) => some (a, b)
  | _ => none

def asText (v : Value) (operation : String) : Except Fault String :=
  match v with
  | str s => .ok s
  | _ => .error (.noOperation v.typeName operation)

end Value

end BlockScript
