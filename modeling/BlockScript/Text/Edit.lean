/-!
# Editing text

Replacing, splitting and joining texts, on lists of characters.
-/

namespace BlockScript

namespace Text

/-- Replaces a pattern from left to right; `skip` characters belong to a place that was already
replaced. -/
def replaceFrom (old new : List Char) : Nat → List Char → List Char
  | _, [] => []
  | skip + 1, _ :: cs => replaceFrom old new skip cs
  | 0, c :: cs =>
    if old.isPrefixOf (c :: cs) then new ++ replaceFrom old new (old.length - 1) cs
    else c :: replaceFrom old new 0 cs

def replace (s old new : String) : String :=
  String.ofList (replaceFrom old.toList new.toList 0 s.toList)

def after? (start s : String) : Option String :=
  let p := start.toList
  let cs := s.toList
  if p.isPrefixOf cs then some (String.ofList (cs.drop p.length)) else none

def startsWith (s start : String) : Bool := start.toList.isPrefixOf s.toList

def endsWith (s ending : String) : Bool := ending.toList.isSuffixOf s.toList

/-- Whether a text occurs in another one. -/
def isInfix (p : List Char) : List Char → Bool
  | [] => p.isEmpty
  | c :: cs => p.isPrefixOf (c :: cs) || isInfix p cs

def contains (s part : String) : Bool := isInfix part.toList s.toList

end Text

end BlockScript
