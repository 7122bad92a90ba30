import BlockScript.Value

/-!
# Paths

A path is a text whose parts are divided by `/`. As a `Path` it is a list of parts: empty parts and
the part `.` say nothing and are dropped, while `..` is kept, because what it means depends on the
directory it is read in. The extension of a path is what follows the last dot of its last part, with
the dot, unless the dot is the first or the last character of the part.
-/

namespace BlockScript

/-- A path without parts that say nothing. -/
structure Path where
  isAbsolute : Bool
  parts : List String
deriving DecidableEq

namespace Path

/-! ### Texts of paths -/

def splitAt (separator : Char) : List Char → List (List Char)
  | [] => [[]]
  | c :: rest =>
    let pieces := splitAt separator rest
    if c = separator then [] :: pieces
    else match pieces with
      | piece :: others => (c :: piece) :: others
      | [] => [[c]]

/-- The pieces between the slashes of a text, empty ones included. -/
def pieces (s : String) : List String := (splitAt '/' s.toList).map String.ofList

def startsAtRoot (s : String) : Bool := s.toList.head? == some '/'

def ofText (s : String) : Path :=
  ⟨startsAtRoot s, (pieces s).filter fun p => p != "" && p != "."⟩

def text (p : Path) : String :=
  match p.isAbsolute, p.parts with
  | true, parts => "/" ++ String.intercalate "/" parts
  | false, [] => "."
  | false, parts => String.intercalate "/" parts

/-- A path read in a directory: a path from the root stays as it is. -/
def join (directory path : String) : String :=
  if startsAtRoot path then path
  else if directory.isEmpty || directory.toList.getLast? == some '/' then directory ++ path
  else directory ++ "/" ++ path

/-! ### Names and extensions -/

def name (p : Path) : String := p.parts.getLast?.getD ""

/-- A name before its extension, and the extension. -/
def splitName (name : String) : String × String :=
  let backwards := name.toList.reverse
  let extension := backwards.takeWhile (· != '.')
  let stem := (backwards.drop extension.length).drop 1
  if extension.isEmpty || stem.isEmpty then (name, "")
  else (String.ofList stem.reverse, String.ofList ('.' :: extension.reverse))

/-- The extension with its dot, or nothing. -/
def extension (p : Path) : String := (splitName p.name).2

def parent (p : Path) : Path := ⟨p.isAbsolute, p.parts.dropLast⟩

def withExtension (p : Path) (extension : String) : Except Fault Path :=
  if p.name.isEmpty then
    .error (.badValue ("PosixPath(" ++ Value.quotedString p.text ++ ") has an empty name"))
  else .ok ⟨p.isAbsolute, p.parts.dropLast ++ [(splitName p.name).1 ++ extension]⟩

/-! ### Resolution -/

/-- Goes from a directory along some parts; `..` goes one part back. -/
def walk : List String → List String → List String
  | here, [] => here
  | here, part :: rest =>
    if part = ".." then walk here.dropLast rest else walk (here ++ [part]) rest

def resolve (directory p : Path) : Path :=
  ⟨true, walk (if p.isAbsolute then [] else directory.parts) p.parts⟩

end Path

end BlockScript
