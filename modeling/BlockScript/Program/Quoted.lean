import BlockScript.Text.Class

/-!
# String literals

The text between the quotes of a string literal, and what it denotes. A raw literal denotes its own
characters, another one is read with escapes; bytes hold ASCII and escapes only. A formatted literal
is cut into the source texts of its replacement fields (`Quoted.fields?`), the literal pieces
between them being checked only for malformed escapes.
-/

namespace BlockScript

namespace Program

/-- A string literal: its kind and the characters between its quotes. -/
structure Quoted where
  isBytes : Bool
  isRaw : Bool
  isFormatted : Bool
  body : List Char
deriving DecidableEq

namespace Quoted

/-! ### Escapes -/

/-- Reads exactly `n` hexadecimal digits. -/
def hexDigits? : Nat → Nat → List Char → Option (Nat × List Char)
  | 0, acc, cs => some (acc, cs)
  | n + 1, acc, c :: cs =>
    match Text.hexValue? c with
    | some d => hexDigits? n (16 * acc + d) cs
    | none => none
  | _ + 1, _, [] => none

def isOctal (c : Char) : Bool := '0' ≤ c && c ≤ '7'

/-- Reads up to `n` octal digits. -/
def octalDigits : Nat → Nat → List Char → Nat × List Char
  | 0, acc, cs => (acc, cs)
  | n + 1, acc, c :: cs =>
    if isOctal c then octalDigits n (8 * acc + (c.toNat - '0'.toNat)) cs else (acc, c :: cs)
  | _ + 1, acc, [] => (acc, [])

def simpleEscape? : Char → Option (List Nat)
  | '\n' => some []
  | '\\' => some [92]
  | '\'' => some [39]
  | '"' => some [34]
  | 'a' => some [7]
  | 'b' => some [8]
  | 'f' => some [12]
  | 'n' => some [10]
  | 'r' => some [13]
  | 't' => some [9]
  | 'v' => some [11]
  | _ => none

/-- What follows a backslash: the code points it denotes and the rest. An unknown escape denotes
itself with its backslash. Escapes by character name are not known. -/
def escape? (inBytes : Bool) : List Char → Option (List Nat × List Char)
  | [] => some ([92], [])
  | c :: rest =>
    match simpleEscape? c with
    | some ns => some (ns, rest)
    | none =>
      if isOctal c then
        let (n, more) := octalDigits 3 0 (c :: rest)
        some ([if inBytes then n % 256 else n], more)
      else if c = 'x' then (hexDigits? 2 0 rest).map fun (n, more) => ([n], more)
      else if inBytes then some ([92, c.toNat], rest)
      else if c = 'u' then (hexDigits? 4 0 rest).map fun (n, more) => ([n], more)
      else if c = 'U' then
        match hexDigits? 8 0 rest with
        | some (n, more) => if n < 0x110000 then some ([n], more) else none
        | none => none
      else if c = 'N' then none
      else some ([92, c.toNat], rest)

def codePoints? (inBytes : Bool) : Nat → List Char → Option (List Nat)
  | _, [] => some []
  | 0, _ :: _ => none
  | fuel + 1, c :: rest =>
    if c = '\\' then
      match escape? inBytes rest with
      | some (ns, more) => (codePoints? inBytes fuel more).map (ns ++ ·)
      | none => none
    else (codePoints? inBytes fuel rest).map (c.toNat :: ·)

/-- Characters for code points: two halves of a pair are joined, half a pair is replaced. -/
def toChars : List Nat → List Char
  | [] => []
  | [n] => [if 0xD800 ≤ n ∧ n < 0xE000 then '�' else Char.ofNat n]
  | n :: m :: rest =>
    if 0xD800 ≤ n ∧ n < 0xDC00 ∧ 0xDC00 ≤ m ∧ m < 0xE000 then
      Char.ofNat (0x10000 + (n - 0xD800) * 0x400 + (m - 0xDC00)) :: toChars rest
    else (if 0xD800 ≤ n ∧ n < 0xE000 then '�' else Char.ofNat n) :: toChars (m :: rest)

/-- The text that a literal piece denotes. -/
def decode? (raw : Bool) (cs : List Char) : Option (List Char) :=
  if raw then some cs else (codePoints? false cs.length cs).map toChars

def decodeBytes? (raw : Bool) (cs : List Char) : Option (List UInt8) :=
  if cs.all Text.isAscii then
    if raw then some (cs.map fun c => UInt8.ofNat c.toNat)
    else (codePoints? true cs.length cs).map (·.map UInt8.ofNat)
  else none

/-! ### Replacement fields -/

def maxNesting : Nat := 200

/-- Where the reading of a field's expression stands: inside a string literal with the given quote
(tripled or not), and below the given open brackets. -/
structure FieldState where
  quote : Option (Char × Bool)
  opened : List Char

def closes (opening closing : Char) : Bool :=
  (opening == '(' && closing == ')') || (opening == '[' && closing == ']') ||
    (opening == '\x7b' && closing == '\x7d')

/-- Reads the expression of a field up to the character that ends it, which is left in the rest. The
expression read so far is reversed. -/
def fieldExpr? : Nat → FieldState → List Char → List Char → Option (List Char × List Char)
  | 0, _, _, _ => none
  | _ + 1, _, _, [] => none
  | fuel + 1, st, acc, c :: rest =>
    if c = '\\' then none
    else
      match st.quote with
      | some (q, tripled) =>
        if c = q then
          if tripled then
            match rest with
            | a :: b :: more =>
              if a = q ∧ b = q then
                fieldExpr? fuel ⟨none, st.opened⟩ (b :: a :: c :: acc) more
              else fieldExpr? fuel st (c :: acc) rest
            | _ => fieldExpr? fuel st (c :: acc) rest
          else fieldExpr? fuel ⟨none, st.opened⟩ (c :: acc) rest
        else fieldExpr? fuel st (c :: acc) rest
      | none =>
        if c = '\'' ∨ c = '"' then
          match rest with
          | a :: b :: more =>
            if a = c ∧ b = c then
              fieldExpr? fuel ⟨some (c, true), st.opened⟩ (b :: a :: c :: acc) more
            else fieldExpr? fuel ⟨some (c, false), st.opened⟩ (c :: acc) rest
          | _ => fieldExpr? fuel ⟨some (c, false), st.opened⟩ (c :: acc) rest
        else if c = '(' ∨ c = '[' ∨ c = '\x7b' then
          if st.opened.length ≥ maxNesting then none
          else fieldExpr? fuel ⟨none, c :: st.opened⟩ (c :: acc) rest
        else if c = '#' then none
        else if st.opened.isEmpty &&
            (c == '!' || c == ':' || c == '\x7d' || c == '=' || c == '<' || c == '>') then
          match rest with
          | '=' :: more =>
            if c = '!' ∨ c = '=' ∨ c = '<' ∨ c = '>' then
              fieldExpr? fuel st ('=' :: c :: acc) more
            else some (acc.reverse, c :: rest)
          | _ =>
            if c = '<' ∨ c = '>' then fieldExpr? fuel st (c :: acc) rest
            else some (acc.reverse, c :: rest)
        else if c = ')' ∨ c = ']' ∨ c = '\x7d' then
          match st.opened with
          | o :: os => if closes o c then fieldExpr? fuel ⟨none, os⟩ (c :: acc) rest else none
          | [] => none
        else fieldExpr? fuel st (c :: acc) rest

/-- What may surround the expression of a field without belonging to it. -/
def isFieldBlank (c : Char) : Bool :=
  c == ' ' || c == '\t' || c == '\n' || c == Char.ofNat 12

def isEqualsBlank (c : Char) : Bool := c == ' ' || (9 ≤ c.toNat && c.toNat ≤ 13)

/-- Skips an equals sign and a conversion after the expression of a field. -/
def fieldOptions? (cs : List Char) : Option (List Char) :=
  let cs :=
    match cs with
    | '=' :: rest => rest.dropWhile isEqualsBlank
    | _ => cs
  match cs with
  | '!' :: k :: rest => if k = 's' ∨ k = 'r' ∨ k = 'a' then some rest else none
  | '!' :: [] => none
  | _ => some cs

mutual

/-- The source texts of the replacement fields of a formatted literal, those of a field's format
after that of the field itself. At level 0 the whole text is read; at level 1 and 2, which are
formats, reading stops before a closing brace. `piece` is the literal text before this point,
reversed. -/
def fieldsFrom? (raw : Bool) :
    Nat → Nat → List Char → List Char → Option (List (List Char) × List Char)
  | 0, _, _, _ => none
  | _ + 1, level, piece, [] =>
    if level = 0 ∧ (decode? raw piece.reverse).isSome then some ([], []) else none
  | fuel + 1, level, piece, c :: rest =>
    if c = '\\' ∧ !raw then
      match rest with
      | 'N' :: '\x7b' :: more =>
        let name := more.takeWhile (· ≠ '\x7d')
        fieldsFrom? raw fuel level ('\x7d' :: name.reverse ++ '\x7b' :: 'N' :: '\\' :: piece)
          (more.drop (name.length + 1))
      | d :: more =>
        if d = '\x7b' ∨ d = '\x7d' then fieldsFrom? raw fuel level (c :: piece) rest
        else fieldsFrom? raw fuel level (d :: c :: piece) more
      | [] => fieldsFrom? raw fuel level (c :: piece) rest
    else if c = '\x7b' ∨ c = '\x7d' then
      match level, rest with
      | 0, d :: more =>
        if d = c then fieldsFrom? raw fuel level (c :: piece) more
        else if c = '\x7d' then none
        else field? raw fuel level piece rest
      | 0, [] => none
      | _ + 1, _ =>
        if c = '\x7d' then
          if (decode? raw piece.reverse).isSome then some ([], c :: rest) else none
        else field? raw fuel level piece rest
    else fieldsFrom? raw fuel level (c :: piece) rest

/-- A field after its opening brace, and what follows it. -/
def field? (raw : Bool) : Nat → Nat → List Char → List Char →
    Option (List (List Char) × List Char)
  | 0, _, _, _ => none
  | fuel + 1, level, piece, rest => do
    if level ≥ 2 ∨ (decode? raw piece.reverse).isNone then none
    else
      let (source, rest) ← fieldExpr? (rest.length + 1) ⟨none, []⟩ [] rest
      if source.all isFieldBlank then none
      else
        let rest ← fieldOptions? rest
        let (inner, rest) ←
          match rest with
          | ':' :: more => fieldsFrom? raw fuel (level + 1) [] more
          | _ => some ([], rest)
        match rest with
        | '\x7d' :: more => do
          let (others, after) ← fieldsFrom? raw fuel level [] more
          some (source :: inner ++ others, after)
        | _ => none

end

/-- The source texts of the replacement fields of a formatted literal. -/
def fields? (q : Quoted) : Option (List (List Char)) :=
  (fieldsFrom? q.isRaw (2 * q.body.length + 2) 0 [] q.body).map Prod.fst

end Quoted

end Program

end BlockScript
