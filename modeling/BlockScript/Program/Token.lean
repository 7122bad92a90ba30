import BlockScript.Program.Quoted
import BlockScript.Text.Normal
import BlockScript.Value

/-!
# Tokens

A source text is cut into tokens before it is parsed. The ends of lines and changes of indentation
are tokens of their own; inside brackets they do not count. Tabs reach to the next multiple of
eight, and indentation has to be consistent however wide a tab is taken to be, which is why two
columns are measured for every line.

The main function is `Token.scan?`: the tokens of a text, or `none` if some part of it is no token.
-/

namespace BlockScript

namespace Program

inductive Token where
  | name (id : String)
  | keyword (word : String)
  | number (v : Value)
  | quoted (q : Quoted)
  | op (symbol : String)
  | newline
  | indent
  | dedent
deriving Inhabited

namespace Token

/-! ### Tables -/

def keywords : List String :=
  ["False", "None", "True", "and", "as", "assert", "async", "await", "break", "class", "continue",
    "def", "del", "elif", "else", "except", "finally", "for", "from", "global", "if", "import",
    "in", "is", "lambda", "nonlocal", "not", "or", "pass", "raise", "return", "try", "while",
    "with", "yield"]

/-- Operators of three, two and one characters, the longest first. -/
def symbols : List String :=
  ["**=", "//=", ">>=", "<<=", "...", "**", "//", ">>", "<<", "==", "!=", "<=", ">=", "<>", "->",
    "+=", "-=", "*=", "/=", "%=", "&=", "|=", "^=", "@=", ":=", "(", ")", "[", "]", "\x7b", "\x7d",
    ":", ",", ";", "+", "-", "*", "/", "|", "&", "<", ">", "=", ".", "%", "~", "^", "@"]

def maxIndents : Nat := 99

/-- Reads carriage returns, alone or before a line feed, as line feeds. -/
def joinLines : List Char → List Char
  | [] => []
  | '\r' :: '\n' :: rest => '\n' :: joinLines rest
  | '\r' :: rest => '\n' :: joinLines rest
  | c :: rest => c :: joinLines rest

/-- The text with line feeds only, and one at its end. -/
def normalized (cs : List Char) : List Char :=
  let cs := joinLines cs
  if cs.getLast? = some '\n' then cs else cs ++ ['\n']

/-! ### Names -/

/-- A character that is part of a word: names are read up to the first other character, and only
then checked. -/
def isWordChar (c : Char) : Bool :=
  !Text.isAscii c || Text.isAsciiLetter c || Text.isAsciiDigit c || c == '_'

def ofWord? (w : List Char) : Option Token :=
  if w.all Text.isAscii then
    let s := String.ofList w
    some (if keywords.contains s then .keyword s else .name s)
  else
    match w with
    | c :: rest =>
      if Text.isIdStart c && rest.all Text.isIdContinue then
        some (.name (String.ofList (Text.normalForm w)))
      else none
    | [] => none

/-- The kinds of string literals that a word before a quote asks for: bytes, raw, formatted. -/
def literalKind? (w : List Char) : Option (Bool × Bool × Bool) :=
  match Numeral.lowered w with
  | "" | "u" => some (false, false, false)
  | "b" => some (true, false, false)
  | "r" => some (false, true, false)
  | "f" => some (false, false, true)
  | "br" | "rb" => some (true, true, false)
  | "fr" | "rf" => some (false, true, true)
  | _ => none

/-! ### Numbers -/

/-- A number may be followed directly by some keywords but by no other letter or digit. -/
def endsNumber (rest : List Char) : Bool :=
  ["and", "else", "for", "if", "in", "is", "or", "not"].any (·.toList.isPrefixOf rest) ||
    match rest with
    | c :: _ => !isWordChar c
    | [] => true

/-- Digits of the given kind with single underscores between them; the first character has been
seen to be a digit or an underscore before one. -/
def groupedDigits (isOne : Char → Bool) : List Char → List Char × List Char
  | [] => ([], [])
  | '_' :: c :: rest =>
    if isOne c then
      let (ds, more) := groupedDigits isOne rest
      (c :: ds, more)
    else ([], '_' :: c :: rest)
  | c :: rest =>
    if isOne c then
      let (ds, more) := groupedDigits isOne rest
      (c :: ds, more)
    else ([], c :: rest)

/-- An integer in another base, after its mark. -/
def based? (base : Nat) (isOne : Char → Bool) (cs : List Char) : Option (Value × List Char) :=
  let (ds, rest) := groupedDigits isOne cs
  if ds.isEmpty || !endsNumber rest then none
  else
    some (.int (ds.foldl (fun n c => base * n + (Text.hexValue? c).getD 0) 0 : Nat), rest)

def isHex (c : Char) : Bool := (Text.hexValue? c).isSome

def isBinary (c : Char) : Bool := c == '0' || c == '1'

/-- An exponent: its value and the rest. A letter that starts no exponent is left alone, unless a
sign follows it. -/
def exponent? (cs : List Char) : Option (Option Int × List Char) :=
  match cs with
  | e :: rest =>
    if e = 'e' ∨ e = 'E' then
      let hasSign := match rest with | '+' :: _ | '-' :: _ => true | _ => false
      let (negative, ds) := Numeral.sign rest
      match ds with
      | d :: _ =>
        if Text.isAsciiDigit d then
          let (digits, more) := groupedDigits Text.isAsciiDigit ds
          let n : Int := Numeral.decimalValue digits
          some (some (if negative then -n else n), more)
        else if hasSign then none
        else some (none, cs)
      | [] => if hasSign then none else some (none, cs)
    else some (none, cs)
  | [] => some (none, cs)

/-- A decimal number: digits, a fraction, an exponent, and the mark of an imaginary number. An
integer has no leading zeros unless it is zero. -/
def decimal? (cs : List Char) : Option (Value × List Char) := do
  let (whole, rest) := groupedDigits Text.isAsciiDigit cs
  let (hasPoint, fraction, rest) :=
    match rest with
    | '.' :: more =>
      match more with
      | d :: _ =>
        if Text.isAsciiDigit d then
          let (ds, r) := groupedDigits Text.isAsciiDigit more
          (true, ds, r)
        else (true, [], more)
      | [] => (true, [], more)
    | _ => (false, [], rest)
  let (exponent, rest) ← exponent? rest
  let digits := Numeral.decimalValue (whole ++ fraction)
  let x := Binary64.ofDecimal false digits (exponent.getD 0 - fraction.length)
  match rest with
  | 'j' :: more | 'J' :: more => if endsNumber more then some (.imaginary x, more) else none
  | _ =>
    if !endsNumber rest then none
    else if hasPoint || exponent.isSome then some (.float x, rest)
    else if whole.length > Numeral.maxDigits then none
    else if whole.head? = some '0' ∧ digits ≠ 0 then none
    else some (.int (digits : Nat), rest)

def number? (cs : List Char) : Option (Value × List Char) :=
  match cs with
  | '0' :: 'x' :: rest | '0' :: 'X' :: rest => based? 16 isHex rest
  | '0' :: 'o' :: rest | '0' :: 'O' :: rest => based? 8 Quoted.isOctal rest
  | '0' :: 'b' :: rest | '0' :: 'B' :: rest => based? 2 isBinary rest
  | _ => decimal? cs

/-! ### String literals -/

/-- The body of a literal up to its closing quote; a tripled quote lets lines through. -/
def literalBody? (quote : Char) (tripled : Bool) : List Char → Option (List Char × List Char)
  | [] => none
  | '\\' :: c :: rest =>
    (literalBody? quote tripled rest).map fun (body, more) => ('\\' :: c :: body, more)
  | c :: rest =>
    if c = quote then
      if tripled then
        match rest with
        | a :: b :: more =>
          if a = quote ∧ b = quote then some ([], more)
          else (literalBody? quote tripled rest).map fun (body, more) => (c :: body, more)
        | _ => none
      else some ([], rest)
    else if c = '\n' ∧ !tripled then none
    else if c = '\\' then none
    else (literalBody? quote tripled rest).map fun (body, more) => (c :: body, more)

def literal? (kind : Bool × Bool × Bool) (quote : Char) (rest : List Char) :
    Option (Token × List Char) :=
  let (isBytes, isRaw, isFormatted) := kind
  let body :=
    match rest with
    | a :: b :: more =>
      if a = quote ∧ b = quote then literalBody? quote true more
      else literalBody? quote false rest
    | _ => literalBody? quote false rest
  body.map fun (body, more) => (.quoted ⟨isBytes, isRaw, isFormatted, body⟩, more)

/-! ### Lines -/

/-- The column after the blanks at the start of a line, measured with tabs of eight and of one, and
the rest. A backslash at the end of such a line joins the next one, and the first such line decides
the column. -/
def leading? (column narrow joined : Nat) : List Char → Option (Nat × Nat × List Char)
  | ' ' :: rest => leading? (column + 1) (narrow + 1) joined rest
  | '\t' :: rest => leading? ((column / 8 + 1) * 8) (narrow + 1) joined rest
  | '\x0c' :: rest => leading? 0 0 joined rest
  | '\\' :: '\n' :: c :: rest =>
    leading? column narrow (if joined = 0 then column else joined) (c :: rest)
  | '\\' :: _ => none
  | cs => some (if joined = 0 then (column, narrow, cs) else (joined, joined, cs))

/-- Closes indentations down to a column, which has to be one of those that are open. -/
def closeTo? (column narrow : Nat) : List (Nat × Nat) → Option (Nat × List (Nat × Nat))
  | [] => if column = 0 ∧ narrow = 0 then some (0, []) else none
  | (c, n) :: rest =>
    if column < c then (closeTo? column narrow rest).map fun (k, stack) => (k + 1, stack)
    else if column = c ∧ narrow = n then some (0, (c, n) :: rest)
    else none

/-- The tokens that a line's indentation gives and the indentations then open, innermost first. -/
def indentation? (column narrow : Nat) (stack : List (Nat × Nat)) :
    Option (List Token × List (Nat × Nat)) :=
  let (c, n) := stack.head?.getD (0, 0)
  if column > c then
    if stack.length ≥ maxIndents ∨ narrow ≤ n then none
    else some ([.indent], (column, narrow) :: stack)
  else (closeTo? column narrow stack).map fun (k, stack) => (List.replicate k .dedent, stack)

def isInlineBlank (c : Char) : Bool := c == ' ' || c == '\t' || c == Char.ofNat 12

def brackets? (symbol : String) (opened : List String) : Option (List String) :=
  match symbol with
  | "(" | "[" | "\x7b" =>
    if opened.length ≥ Quoted.maxNesting then none else some (symbol :: opened)
  | ")" => if opened.head? = some "(" then some opened.tail else none
  | "]" => if opened.head? = some "[" then some opened.tail else none
  | "\x7d" => if opened.head? = some "\x7b" then some opened.tail else none
  | _ => some opened

/-- The longest operator at the start of a text. -/
def symbol? (cs : List Char) : Option (Token × List Char) :=
  (symbols.find? fun s => s.toList.isPrefixOf cs).map fun s => (.op s, cs.drop s.length)

/-- One token that starts at a character other than a blank, a line feed, a comment or a
backslash. -/
def token? (cs : List Char) : Option (Token × List Char) :=
  match cs with
  | [] => none
  | c :: rest =>
    if Text.isAsciiDigit c then (number? cs).map fun (v, more) => (.number v, more)
    else if isWordChar c then
      let w := cs.takeWhile isWordChar
      let more := cs.drop w.length
      match more with
      | q :: after =>
        if q = '"' ∨ q = '\'' then
          match literalKind? w with
          | some kind => literal? kind q after
          | none => (ofWord? w).map fun t => (t, more)
        else (ofWord? w).map fun t => (t, more)
      | [] => (ofWord? w).map fun t => (t, more)
    else if c = '"' ∨ c = '\'' then literal? (false, false, false) c rest
    else
      match c, rest with
      | '.', d :: _ =>
        if Text.isAsciiDigit d then (number? cs).map fun (v, more) => (.number v, more)
        else symbol? cs
      | _, _ => symbol? cs

/-- The tokens of a text. `fresh` says that a line starts here, `stack` holds the open indentations
and `opened` the open brackets, innermost first. -/
def scanFrom? : Nat → Bool → List (Nat × Nat) → List String → List Char → Option (List Token)
  | 0, _, _, _, _ => none
  | fuel + 1, true, stack, opened, cs =>
    match leading? 0 0 0 cs with
    | none => none
    | some (column, narrow, rest) =>
      match rest with
      | '\n' :: more => scanFrom? fuel true stack opened more
      | '#' :: more => scanFrom? fuel true stack opened ((more.dropWhile (· ≠ '\n')).drop 1)
      | _ => do
        let (tokens, stack) ← indentation? column narrow stack
        if rest.isEmpty then some tokens
        else
          let others ← scanFrom? fuel false stack opened rest
          some (tokens ++ others)
  | fuel + 1, false, stack, opened, cs =>
    match cs.dropWhile isInlineBlank with
    | [] => none
    | '#' :: more => scanFrom? fuel false stack opened (more.dropWhile (· ≠ '\n'))
    | '\n' :: more =>
      if opened.isEmpty then (scanFrom? fuel true stack opened more).map (.newline :: ·)
      else scanFrom? fuel false stack opened more
    | '\\' :: '\n' :: c :: more => scanFrom? fuel false stack opened (c :: more)
    | cs => do
      let (t, rest) ← token? cs
      let opened ←
        match t with
        | .op symbol => brackets? symbol opened
        | _ => some opened
      let others ← scanFrom? fuel false stack opened rest
      some (t :: others)

def scan? (cs : List Char) : Option (List Token) :=
  let cs := normalized cs
  scanFrom? (2 * cs.length + 2) true [] [] cs

end Token

end Program

end BlockScript
