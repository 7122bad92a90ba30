import BlockScript.Program.Grammar

/-!
# Statements

The statements of a program, on top of the expressions of `Grammar`, and the two functions that
make a program of a text: `Grammar.ofDepth`, which ties the knot of the grammar, and
`Program.parse?`.
-/

namespace BlockScript

namespace Program

open BlockScript.Program.Parser

namespace Grammar

def exprParts (es : List Expr) : List Part := es.map Part.expr

def stmtParts (ss : List Stmt) : List Part := ss.map Part.stmt

/-! ### Imports -/

def dottedName : Parser Unit := do
  let _ ← name
  let _ ← repeated (skipOp ".") name
  pure ()

/-- `as` and a name, if it is next. -/
def otherName : Parser Unit := do
  if ← skipKeyword "as" then
    let _ ← name
    pure ()

def importName : Parser Unit := do
  keyword "import"
  let _ ← separated (do
    dottedName
    otherName)
  pure ()

/-- What is imported from a module: everything, a list, or a list in brackets. -/
def importFromNames : Parser Unit := do
  let item : Parser Unit := do
    let _ ← name
    otherName
  if ← skipOp "*" then pure ()
  else if ← skipOp "(" then
    item
    let _ ← commaTail (atOp ")") item
    op ")"
  else
    let _ ← separated item
    pure ()

/-- Whether dots are next, one or three at a time. -/
def skipDots : Parser Bool := do
  if ← skipOp "." then pure true else skipOp "..."

def importFrom : Parser Unit := do
  keyword "from"
  let dots ← repeated skipDots (pure ())
  if dots.isEmpty || !(← atKeyword "import") then dottedName
  keyword "import"
  importFromNames

section Simple

variable (g : Grammar)

/-! ### Simple statements -/

/-- The operators that change a variable in place. -/
def augmentedOps : List (String × BinaryOp) :=
  [("+=", .add), ("-=", .sub), ("*=", .mul), ("@=", .matMul), ("/=", .div), ("%=", .mod),
    ("&=", .bitAnd), ("|=", .bitOr), ("^=", .bitXor), ("<<=", .shiftLeft), (">>=", .shiftRight),
    ("**=", .pow), ("//=", .floorDiv)]

/-- The rest of an assignment after its first `=`: more targets, then the value. -/
def assignTailAux : Nat → Parser (List Expr × Expr)
  | 0 => fail
  | fuel + 1 => do
    if ← atKeyword "yield" then
      let e ← g.yieldExpr
      pure ([], e)
    else
      let e ← g.starExpressions
      if ← skipOp "=" then
        if e.isTarget then
          let (targets, value) ← assignTailAux fuel
          pure (e :: targets, value)
        else fail
      else pure ([], e)

def assignTail : Parser (List Expr × Expr) := fun ts => assignTailAux g (ts.length + 1) ts

/-- An assignment in any of its forms, or an expression on its own. -/
def assignmentOrExpr : Parser Stmt := do
  let e ← g.starExpressions
  match ← peek with
  | some (.op "=") =>
    op "="
    if e.isTarget then
      let (targets, value) ← g.assignTail
      pure (.assign (e :: targets) value)
    else fail
  | some (.op ":") =>
    op ":"
    if e.isSingleTarget then
      let hint ← g.expression
      if ← skipOp "=" then
        let value ← g.rightSide
        pure (.other (exprParts [e, hint, value]))
      else pure (.other (exprParts [e, hint]))
    else fail
  | some (.op s) =>
    match augmentedOps.lookup s with
    | some o =>
      op s
      if e.isSingleTarget then
        let value ← g.rightSide
        pure (.augAssign e o value)
      else fail
    | none => pure (.expr e)
  | _ => pure (.expr e)

/-- An item of `del`. -/
def deleteItem : Parser Expr := g.targetOf Expr.isDeletable

def raiseStmt : Parser Stmt := do
  keyword "raise"
  if ← atEnd then pure (.other [])
  else
    let e ← g.expression
    if ← skipKeyword "from" then
      let cause ← g.expression
      pure (.other (exprParts [e, cause]))
    else pure (.other (exprParts [e]))

def assertStmt : Parser Stmt := do
  keyword "assert"
  let e ← g.expression
  if ← skipOp "," then
    let text ← g.expression
    pure (.other (exprParts [e, text]))
  else pure (.other (exprParts [e]))

/-- One statement of a line. -/
def simpleStmt : Parser Stmt := do
  match ← peek with
  | some (.keyword w) =>
    if w = "pass" ∨ w = "break" ∨ w = "continue" then
      keyword w
      pure (.other [])
    else if w = "global" ∨ w = "nonlocal" then
      keyword w
      let _ ← separated name
      pure (.other [])
    else if w = "import" then
      importName
      pure (.other [])
    else if w = "from" then
      importFrom
      pure (.other [])
    else if w = "return" then
      keyword w
      if ← atEnd then pure (.other [])
      else
        let e ← g.starExpressions
        pure (.other (exprParts [e]))
    else if w = "del" then
      keyword w
      let e ← g.deleteItem
      let (es, _) ← commaTail atEnd g.deleteItem
      pure (.other (exprParts (e :: es)))
    else if w = "raise" then g.raiseStmt
    else if w = "assert" then g.assertStmt
    else if w = "yield" then
      let e ← g.yieldExpr
      pure (.expr e)
    else g.assignmentOrExpr
  | _ => g.assignmentOrExpr

/-- The statements of a line after the first, up to its end. -/
def simpleTailAux : Nat → Parser (List Stmt)
  | 0 => fail
  | fuel + 1 => do
    if ← skipOp ";" then
      match ← peek with
      | some .newline =>
        newline
        pure []
      | _ =>
        let s ← g.simpleStmt
        let ss ← simpleTailAux fuel
        pure (s :: ss)
    else
      newline
      pure []

/-- A line of statements. -/
def simpleStmts : Parser (List Stmt) := do
  let s ← g.simpleStmt
  let ss ← (fun ts => simpleTailAux g (ts.length + 1) ts)
  pure (s :: ss)

end Simple

/-! ### Patterns -/

section Patterns

variable (g : Grammar)

/-- Whether a token that continues a name (an attribute, a call, a keyword) is next. -/
def atContinuation : Parser Bool := do
  if ← atOp "." then pure true
  else if ← atOp "(" then pure true
  else atOp "="

def captureName : Parser Unit := do
  let n ← name
  if n = "_" ∨ (← atContinuation) then fail else pure ()

/-- A number with an optional sign. Tells whether it is imaginary. -/
def signedNumber : Parser (Expr × Bool) := do
  let negative ← skipOp "-"
  match ← get with
  | .number v :: rest =>
    set rest
    let imaginary := match v with | .imaginary _ => true | _ => false
    pure (if negative then .unary .negate (.const v) else .const v, imaginary)
  | _ => fail

/-- A number, or a real number with an imaginary one added or subtracted. -/
def numberPattern : Parser Expr := do
  let (e, imaginary) ← signedNumber
  let sign? ← (do
    if ← skipOp "+" then pure (some BinaryOp.add)
    else if ← skipOp "-" then pure (some BinaryOp.sub)
    else pure none : Parser (Option BinaryOp))
  match sign? with
  | none => pure e
  | some o =>
    match imaginary, ← get with
    | false, .number (.imaginary x) :: rest =>
      set rest
      pure (.binary o e (.const (.imaginary x)))
    | _, _ => fail

/-- A constant in a pattern, if one is next. -/
def literalPattern? : Parser (Option Expr) := do
  match ← get with
  | .number _ :: _ =>
    let e ← numberPattern
    pure (some e)
  | .op "-" :: _ =>
    let e ← numberPattern
    pure (some e)
  | .quoted _ :: _ =>
    let e ← g.strings
    pure (some e)
  | .keyword "None" :: rest =>
    set rest
    pure (some (.const .null))
  | .keyword "True" :: rest =>
    set rest
    pure (some (.const (.bool true)))
  | .keyword "False" :: rest =>
    set rest
    pure (some (.const (.bool false)))
  | _ => pure none

/-- A name with attributes. -/
def dottedExpr : Parser Expr := do
  let n ← name
  let fields ← repeated (skipOp ".") name
  pure (fields.foldl Expr.attribute (.name n))

/-- Arguments of a class pattern up to the closing bracket: what the positional ones visit, then
what the keyword ones visit. -/
def classArgumentsAux : Nat → Bool → Parser (List Expr × List Expr)
  | 0, _ => fail
  | fuel + 1, named => do
    if ← skipOp ")" then pure ([], [])
    else
      let isKeyword ← (fun ts => some (match ts with
        | .name _ :: .op "=" :: _ => true
        | _ => false, ts) : Parser Bool)
      if isKeyword then
        let _ ← name
        op "="
      else if named then fail
      let here ← g.pattern
      let (positional, keywords) ← (do
        if ← skipOp "," then classArgumentsAux fuel isKeyword
        else
          op ")"
          pure ([], []) : Parser (List Expr × List Expr))
      pure (if isKeyword then (positional, here ++ keywords) else (here ++ positional, keywords))

/-- A pattern that starts with a name: what is bound, a constant with a dotted name, or a class. -/
def namePattern : Parser (List Expr) := do
  match ← get with
  | .name "_" :: rest =>
    set rest
    pure []
  | _ =>
    let e ← dottedExpr
    if ← skipOp "(" then
      let (positional, keywords) ← (fun ts => classArgumentsAux g (ts.length + 1) false ts)
      pure (e :: positional ++ keywords)
    else if ← atContinuation then fail
    else
      match e with
      | .name _ => pure []
      | _ => pure [e]

/-- A pattern in a sequence, possibly with a star. -/
def sequenceItem : Parser (List Expr × Bool) := do
  if ← skipOp "*" then
    match ← get with
    | .name "_" :: rest =>
      set rest
      pure ([], true)
    | _ =>
      captureName
      pure ([], true)
  else
    let p ← g.pattern
    pure (p, false)

/-- A sequence up to a closing bracket; between round brackets one pattern without a comma is only
grouped, and cannot have a star. -/
def sequencePattern (closing : String) : Parser (List Expr) := do
  if ← skipOp closing then pure []
  else
    let (first, starred) ← g.sequenceItem
    let (more, comma) ← commaTail (atOp closing) g.sequenceItem
    op closing
    if closing = ")" ∧ starred ∧ !comma then fail
    else pure (first ++ (more.map Prod.fst).flatten)

/-- Entries of a mapping pattern up to the closing brace: the keys, then what the patterns visit.
The rest of the mapping can only be bound last. -/
def mappingAux : Nat → Parser (List Expr × List Expr)
  | 0 => fail
  | fuel + 1 => do
    if ← skipOp "\x7d" then pure ([], [])
    else if ← skipOp "**" then
      captureName
      let _ ← skipOp ","
      op "\x7d"
      pure ([], [])
    else
      let key ← (do
        match ← g.literalPattern? with
        | some e => pure e
        | none =>
          let e ← dottedExpr
          match e with
          | .attribute _ _ => pure e
          | _ => fail : Parser Expr)
      op ":"
      let p ← g.pattern
      let (keys, patterns) ← (do
        if ← skipOp "," then mappingAux fuel
        else
          op "\x7d"
          pure ([], []) : Parser (List Expr × List Expr))
      pure (key :: keys, p ++ patterns)

def closedPattern : Parser (List Expr) := do
  match ← g.literalPattern? with
  | some (.const (.bool _)) => pure []
  | some (.const .null) => pure []
  | some e => pure [e]
  | none =>
    if ← skipOp "(" then g.sequencePattern ")"
    else if ← skipOp "[" then g.sequencePattern "]"
    else if ← skipOp "\x7b" then
      let (keys, patterns) ← (fun ts => mappingAux g (ts.length + 1) ts)
      pure (keys ++ patterns)
    else g.namePattern

/-- Alternatives, perhaps with a name for what was matched. -/
def patternStep : Parser (List Expr) := do
  let first ← g.closedPattern
  let more ← repeated (skipOp "|") g.closedPattern
  if ← skipKeyword "as" then captureName
  pure (first ++ more.flatten)

/-- The pattern of a case: a sequence needs no brackets. -/
def casePattern : Parser (List Expr) := do
  let (first, starred) ← g.sequenceItem
  let stop : Parser Bool := do
    if ← atOp ":" then pure true else atKeyword "if"
  let (more, comma) ← commaTail stop g.sequenceItem
  if starred ∧ !comma then fail
  else pure (first ++ (more.map Prod.fst).flatten)

end Patterns

/-! ### Compound statements -/

section Compound

variable (g : Grammar)

/-- A colon and the statements under it. -/
def body : Parser (List Stmt) := do
  op ":"
  g.block

/-- The statements of the part that the given word starts, if there is one. -/
def optionalBody (word : String) : Parser (List Stmt) := do
  if ← skipKeyword word then g.body else pure []

/-- After `if` or `elif`. -/
def conditionalRest : Parser Stmt := do
  let test ← g.named
  let body ← g.body
  let orelse ← g.elifTail
  pure (.conditional test body orelse)

/-- `elif` and what follows, or `else`, or nothing. -/
def elifTailStep : Parser (List Stmt) := do
  if ← skipKeyword "elif" then
    let s ← g.conditionalRest
    pure [s]
  else g.optionalBody "else"

def whileStmt : Parser Stmt := do
  keyword "while"
  let test ← g.named
  let body ← g.body
  let orelse ← g.optionalBody "else"
  pure (.whileLoop test body orelse)

/-- A loop over items; an asynchronous one is not a loop of blocks. -/
def forStmt (isAsync : Bool) : Parser Stmt := do
  keyword "for"
  let target ← g.starTargets
  keyword "in"
  let iter ← g.starExpressions
  let body ← g.body
  let orelse ← g.optionalBody "else"
  if isAsync then pure (.other (exprParts [target, iter] ++ stmtParts (body ++ orelse)))
  else pure (.forLoop target iter body orelse)

/-- What `with` opens, perhaps under a name. -/
def withItem : Parser (List Expr) := do
  let e ← g.expression
  if ← skipKeyword "as" then
    let target ← g.starTarget
    pure [e, target]
  else pure [e]

def bracketedItems : Parser (List Expr) := do
  op "("
  let first ← g.withItem
  let (more, _) ← commaTail (atOp ")") g.withItem
  op ")"
  if ← atOp ":" then pure (first ++ more.flatten) else fail

def withStmt : Parser Stmt := do
  keyword "with"
  let items ← either g.bracketedItems (do
    let items ← separated g.withItem
    pure items.flatten)
  let body ← g.body
  pure (.other (exprParts items ++ stmtParts body))

/-- One handler of `try`, of the given form. -/
def handler (starred : Bool) : Parser (List Part) := do
  keyword "except"
  if starred then op "*"
  let kind ← (do
    if !starred && (← atOp ":") then pure []
    else
      let e ← g.expression
      otherName
      pure [e] : Parser (List Expr))
  let body ← g.body
  pure (exprParts kind ++ stmtParts body)

def tryStmt : Parser Stmt := do
  keyword "try"
  let body ← g.body
  if ← atKeyword "except" then
    let starred ← (fun ts => some (match ts with
      | .keyword "except" :: .op "*" :: _ => true
      | _ => false, ts) : Parser Bool)
    let handlers ← repeated (atKeyword "except") (g.handler starred)
    let orelse ← g.optionalBody "else"
    let last ← g.optionalBody "finally"
    pure (.other (stmtParts body ++ handlers.flatten ++ stmtParts (orelse ++ last)))
  else
    keyword "finally"
    let last ← g.body
    pure (.other (stmtParts (body ++ last)))

/-- A function; an asynchronous one is not a script. -/
def functionStmt (isAsync : Bool) (decorators : List Expr) : Parser Stmt := do
  keyword "def"
  let n ← name
  op "("
  let params ← g.params true ")"
  op ")"
  let result ← (do
    if ← skipOp "->" then
      let e ← g.expression
      pure [e]
    else pure [] : Parser (List Expr))
  let body ← g.body
  if isAsync then
    pure (.other (exprParts params.parts ++ stmtParts body ++ exprParts (decorators ++ result)))
  else pure (.functionDef n params body (decorators ++ result))

def classStmt (decorators : List Expr) : Parser Stmt := do
  keyword "class"
  let n ← name
  if ← skipOp "(" then
    let _ ← g.arguments
  let body ← g.body
  pure (.classDef n decorators body)

def asyncStmt (decorators : List Expr) : Parser Stmt := do
  keyword "async"
  if ← atKeyword "def" then g.functionStmt true decorators
  else if !decorators.isEmpty then fail
  else if ← atKeyword "for" then g.forStmt true
  else g.withStmt

def decorator : Parser Expr := do
  op "@"
  let e ← g.named
  newline
  pure e

def decorated : Parser Stmt := do
  let decorators ← repeated (atOp "@") g.decorator
  if ← atKeyword "def" then g.functionStmt false decorators
  else if ← atKeyword "async" then g.asyncStmt decorators
  else g.classStmt decorators

/-- One case of `match`. -/
def caseStmt : Parser (List Part) := do
  if ← atName "case" then
    let _ ← name
    let p ← g.casePattern
    let guard ← (do
      if ← skipKeyword "if" then
        let e ← g.named
        pure [e]
      else pure [] : Parser (List Expr))
    let body ← g.body
    pure (exprParts (p ++ guard) ++ stmtParts body)
  else fail

/-- `match`, which is a keyword only where the rest of the statement follows. -/
def matchStmt : Parser Stmt := do
  if ← atName "match" then
    let _ ← name
    let e ← g.starOr g.named
    let (es, comma) ← commaTail (atOp ":") (g.starOr g.named)
    let subject ← (match e, comma with
      | _, true => pure (.tuple (e :: es))
      | .starred _, false => fail
      | _, false => pure e : Parser Expr)
    op ":"
    newline
    indent
    let first ← g.caseStmt
    let more ← repeated (atName "case") g.caseStmt
    dedent
    pure (.other (exprParts [subject] ++ first ++ more.flatten))
  else fail

/-- One or more statements: a compound statement or a line. -/
def statement : Parser (List Stmt) := do
  let single (p : Parser Stmt) : Parser (List Stmt) := do
    let s ← p
    pure [s]
  match ← peek with
  | some (.keyword "if") =>
    keyword "if"
    single g.conditionalRest
  | some (.keyword "while") => single g.whileStmt
  | some (.keyword "for") => single (g.forStmt false)
  | some (.keyword "with") => single g.withStmt
  | some (.keyword "try") => single g.tryStmt
  | some (.keyword "def") => single (g.functionStmt false [])
  | some (.keyword "class") => single (g.classStmt [])
  | some (.keyword "async") => single (g.asyncStmt [])
  | some (.op "@") => single g.decorated
  | some (.name "match") => either (single g.matchStmt) g.simpleStmts
  | _ => g.simpleStmts

def atStatement : Parser Bool := fun ts =>
  some (match ts with
    | [] => false
    | .dedent :: _ => false
    | _ => true, ts)

def statements : Parser (List Stmt) := do
  let ss ← repeated atStatement g.statement
  pure ss.flatten

/-- Statements on lines of their own, or on the line of the header. -/
def blockStep : Parser (List Stmt) := do
  match ← peek with
  | some .newline =>
    newline
    indent
    let ss ← g.statements
    dedent
    pure ss
  | _ => g.simpleStmts

end Compound

/-! ### The knot -/

/-- Refuses everything. -/
def none : Grammar where
  expression := fail
  factor := fail
  primary := fail
  pattern := fail
  block := fail
  elifTail := fail

def step (g : Grammar) : Grammar where
  expression := g.expressionStep
  factor := g.factorStep
  primary := g.primaryStep
  pattern := g.patternStep
  block := g.blockStep
  elifTail := g.elifTailStep

/-- The grammar of programs with so many levels of nesting. -/
def ofDepth : Nat → Grammar
  | 0 => none
  | n + 1 => step (ofDepth n)

end Grammar

/-- The statements of a source text, or `none` if it is not a program. An opened bracket takes two
levels, and no other construct more than that for a character. A null character can stand nowhere,
not even in a comment. -/
def parse? (source : String) : Option Module :=
  let cs := source.toList
  if cs.contains (Char.ofNat 0) then none
  else do
    let ts ← Token.scan? cs
    match (Grammar.ofDepth (2 * cs.length + 8)).statements ts with
    | some (ss, []) => some ss
    | _ => none

def parse (source : String) : Except Fault Module :=
  match parse? source with
  | some ss => .ok ss
  | none => .error .malformedSource

end Program

end BlockScript
