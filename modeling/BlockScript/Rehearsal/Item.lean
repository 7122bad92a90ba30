import BlockScript.Value

/-!
# What a rehearsed program handles

A program that is run without a project handles data, and the things it declares: costumes, sounds,
backdrops and the settings of sprites.
-/

namespace BlockScript

/-- Data or something declared, alone or in lists and tables. -/
inductive Item where
  | plain (v : Value)
  | list (items : List Item)
  | record (entries : List (String × Item))
  /-- Something declared, with its attributes. -/
  | object (kind : String) (attributes : List (String × Item))

namespace Item

def truthy : Item → Bool
  | plain v => v.truthy
  | list items => !items.isEmpty
  | record entries => !entries.isEmpty
  | object _ _ => true

def isNothing : Item → Bool
  | plain .null => true
  | _ => false

def orEmpty (i : Item) : Item := if i.truthy then i else list []

mutual

/-- The item as data. What is declared shows its kind only. -/
def toValue : Item → Value
  | plain v => v
  | list items => .list (toValues items)
  | record entries => .dict (entryValues entries)
  | object kind _ => .str ("<" ++ kind ++ ">")

def toValues : List Item → List Value
  | [] => []
  | i :: rest => toValue i :: toValues rest

def entryValues : List (String × Item) → List (String × Value)
  | [] => []
  | (k, i) :: rest => (k, toValue i) :: entryValues rest

end

end Item

end BlockScript
