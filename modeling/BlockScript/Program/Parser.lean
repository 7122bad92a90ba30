import BlockScript.Program.Token

/-!
# Parsers over tokens

A parser reads some tokens from the front of a list and gives what it read, or refuses. There is no
backtracking unless a grammar asks for it with `either`, and no report on why an input is refused.
Repetition ends because every round reads a token: the rounds are bounded by the number of tokens.
-/

namespace BlockScript

namespace Program

abbrev Parser := StateT (List Token) Option

namespace Parser

variable {α : Type}

/-- Refuses the input. -/
def fail : Parser α := fun _ => none

/-- The next token, without reading it. -/
def peek : Parser (Option Token) := fun ts => some (ts.head?, ts)

/-- Whether the next token is the given operator. -/
def atOp (symbol : String) : Parser Bool := fun ts =>
  some (match ts with | .op s :: _ => s == symbol | _ => false, ts)

def atKeyword (word : String) : Parser Bool := fun ts =>
  some (match ts with | .keyword w :: _ => w == word | _ => false, ts)

/-- Whether the next token is the given name; `match` and `case` are such names. -/
def atName (id : String) : Parser Bool := fun ts =>
  some (match ts with | .name n :: _ => n == id | _ => false, ts)

/-- Reads the given operator. -/
def op (symbol : String) : Parser Unit := fun ts =>
  match ts with
  | .op s :: rest => if s = symbol then some ((), rest) else none
  | _ => none

def keyword (word : String) : Parser Unit := fun ts =>
  match ts with
  | .keyword w :: rest => if w = word then some ((), rest) else none
  | _ => none

/-- Whether an assignment inside an expression is next. -/
def atWalrus : Parser Bool := fun ts =>
  some (match ts with | .name _ :: .op ":=" :: _ => true | _ => false, ts)

def name : Parser String := fun ts =>
  match ts with
  | .name n :: rest => some (n, rest)
  | _ => none

def newline : Parser Unit := fun ts =>
  match ts with
  | .newline :: rest => some ((), rest)
  | _ => none

def indent : Parser Unit := fun ts =>
  match ts with
  | .indent :: rest => some ((), rest)
  | _ => none

def dedent : Parser Unit := fun ts =>
  match ts with
  | .dedent :: rest => some ((), rest)
  | _ => none

/-- Reads the operator if it is next, and says whether it did. -/
def skipOp (symbol : String) : Parser Bool := do
  if ← atOp symbol then
    op symbol
    pure true
  else pure false

/-- Reads the keyword if it is next, and says whether it did. -/
def skipKeyword (word : String) : Parser Bool := do
  if ← atKeyword word then
    keyword word
    pure true
  else pure false

/-- The first parser, or the second if it refuses. -/
def either (p q : Parser α) : Parser α := fun ts =>
  match p ts with
  | some r => some r
  | none => q ts

/-- The rounds of `repeated`, at most as many as there are tokens. -/
def repeatedAux (more : Parser Bool) (p : Parser α) : Nat → Parser (List α)
  | 0 => fail
  | fuel + 1 => do
    if ← more then
      let a ← p
      let as ← repeatedAux more p fuel
      pure (a :: as)
    else pure []

/-- Reads as long as the condition holds. -/
def repeated (more : Parser Bool) (p : Parser α) : Parser (List α) := fun ts =>
  repeatedAux more p (ts.length + 1) ts

/-- Items with commas between them and perhaps one at the end; `stop` says whether what follows a
comma ends the list. Tells whether a comma was read. -/
def commaTailAux (stop : Parser Bool) (item : Parser α) : Nat → Parser (List α × Bool)
  | 0 => fail
  | fuel + 1 => do
    if ← skipOp "," then
      if ← stop then pure ([], true)
      else
        let a ← item
        let (as, _) ← commaTailAux stop item fuel
        pure (a :: as, true)
    else pure ([], false)

def commaTail (stop : Parser Bool) (item : Parser α) : Parser (List α × Bool) := fun ts =>
  commaTailAux stop item (ts.length + 1) ts

/-- Items with commas between them, none at the end. -/
def separated (item : Parser α) : Parser (List α) := do
  let a ← item
  let as ← repeated (skipOp ",") item
  pure (a :: as)

/-- Whether the next token closes a bracket or ends a line or a header. -/
def atEnd : Parser Bool := fun ts =>
  some (match ts with
    | [] => true
    | .newline :: _ => true
    | .op s :: _ =>
      [")", "]", "\x7d", ":", ";", "=", "+=", "-=", "*=", "/=", "//=", "%=", "@=", "&=", "|=", "^=",
        ">>=", "<<=", "**="].contains s
    | .keyword w :: _ => w == "in"
    | _ => false, ts)

end Parser

end Program

end BlockScript
