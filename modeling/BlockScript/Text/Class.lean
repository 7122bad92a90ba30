import BlockScript.Text.RangeData
import BlockScript.Text.Ranges

/-!
# Character classes

Which characters may stand in a name, count as digits, as white space, or are shown as themselves in
quoted text. Below U+0080 each class is decided by a rule; above, by the ranges of
`BlockScript.Text.RangeData`.
-/

namespace BlockScript

namespace Text

/-- Membership in a table of ranges. -/
def inRuns (runs : List Run) (c : Char) : Bool := runs.any (·.has c.toNat)

def casedLetterRuns : List Run := readRuns RangeData.casedLetter
def letterRuns : List Run := casedLetterRuns ++ readRuns RangeData.letter
def decimalZeros : List Nat := (readRuns RangeData.decimalZero).map Run.first
def decimalRuns : List Run := decimalZeros.map fun z => ⟨z, z + 9, 1⟩
def digitRuns : List Run := decimalRuns ++ readRuns RangeData.digit
def alnumRuns : List Run := letterRuns ++ digitRuns ++ readRuns RangeData.numeral
def idStartRuns : List Run := letterRuns ++ readRuns RangeData.idStart
def markRuns : List Run := readRuns RangeData.mark
def idContinueRuns : List Run :=
  idStartRuns ++ (decimalRuns ++ markRuns ++ readRuns RangeData.idContinue)
def spaceRuns : List Run := readRuns RangeData.space
def printableRuns : List Run := idContinueRuns ++ readRuns RangeData.printable
def casedRuns : List Run := casedLetterRuns ++ readRuns RangeData.cased
def caseIgnorableRuns : List Run := markRuns ++ readRuns RangeData.caseIgnorable

/-- Below U+0080. -/
def isAscii (c : Char) : Bool := c.toNat < 128

def isAsciiDigit (c : Char) : Bool := '0' ≤ c && c ≤ '9'

def isAsciiLower (c : Char) : Bool := 'a' ≤ c && c ≤ 'z'

def isAsciiUpper (c : Char) : Bool := 'A' ≤ c && c ≤ 'Z'

def isAsciiLetter (c : Char) : Bool := isAsciiLower c || isAsciiUpper c

/-- May start a name: a letter or an underscore. -/
def isIdStart (c : Char) : Bool :=
  if isAscii c then isAsciiLetter c || c == '_' else inRuns idStartRuns c

def isIdContinue (c : Char) : Bool :=
  if isAscii c then isAsciiLetter c || isAsciiDigit c || c == '_' else inRuns idContinueRuns c

/-- A letter or a numeral of any script. -/
def isAlnum (c : Char) : Bool :=
  if isAscii c then isAsciiLetter c || isAsciiDigit c else inRuns alnumRuns c

/-- A digit of any script, superscripts included. -/
def isDigit (c : Char) : Bool := if isAscii c then isAsciiDigit c else inRuns digitRuns c

def decimalValue? (c : Char) : Option Nat :=
  if isAscii c then if isAsciiDigit c then some (c.toNat - '0'.toNat) else none
  else
    (decimalZeros.find? fun z => z ≤ c.toNat && c.toNat < z + 10).map fun z => c.toNat - z

/-- White space: the six blanks of ASCII, the four separators U+001C to U+001F, and the blanks of
other blocks. -/
def isSpace (c : Char) : Bool :=
  if isAscii c then
    c == ' ' || (9 ≤ c.toNat && c.toNat ≤ 13) || (28 ≤ c.toNat && c.toNat ≤ 31)
  else inRuns spaceRuns c

/-- Shown as itself in quoted text. -/
def isPrintable (c : Char) : Bool :=
  if isAscii c then 32 ≤ c.toNat && c.toNat < 127 else inRuns printableRuns c

def isCased (c : Char) : Bool := if isAscii c then isAsciiLetter c else inRuns casedRuns c

/-- Skipped when the case context of a letter is looked at. -/
def isCaseIgnorable (c : Char) : Bool :=
  if isAscii c then ['\'', '.', ':', '^', '`'].contains c else inRuns caseIgnorableRuns c

/-! ### Words and trimming -/

/-- A nonempty text of digits only. -/
def isDigits (s : String) : Bool := !s.toList.isEmpty && s.toList.all isDigit

/-- Drops white space at both ends. -/
def trimChars (isBlank : Char → Bool) (cs : List Char) : List Char :=
  ((cs.dropWhile isBlank).reverse.dropWhile isBlank).reverse

/-- The words of a text, cut at white space. -/
def wordsAux : List Char → List Char → List (List Char)
  | [], current => if current.isEmpty then [] else [current.reverse]
  | c :: rest, current =>
    if isSpace c then
      if current.isEmpty then wordsAux rest [] else current.reverse :: wordsAux rest []
    else wordsAux rest (c :: current)

/-- The words of a text, cut at white space. -/
def words (cs : List Char) : List (List Char) := wordsAux cs []

end Text

end BlockScript
