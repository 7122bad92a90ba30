import BlockScript.Program.Parser
import BlockScript.Program.Tree

/-!
# The grammar of programs

A recursive descent parser. The constructs that can contain themselves are collected in a record,
`Grammar`; `Grammar.step` builds the parsers of one level of nesting from those of the next, and
`Grammar.ofDepth` ties the knot a given number of times. Since every level of nesting costs at least
one character of the source, the length of the source is depth enough, and a program either parses
or it does not: nothing else is reported.

An expression is parsed first and only then seen to be the target of an assignment, which accepts
the same programs as a grammar with targets of its own.
-/

namespace BlockScript

namespace Program

open BlockScript.Program.Parser

/-- The parsers of everything that can contain itself. -/
structure Grammar where
  expression : Parser Expr
  factor : Parser Expr
  primary : Parser Expr
  pattern : Parser (List Expr)
  block : Parser (List Stmt)
  elifTail : Parser (List Stmt)

namespace Grammar

/-! ### Operators -/

def leftAssocAux (ops : List (String × BinaryOp)) (operand : Parser Expr) :
    Nat → Expr → Parser Expr
  | 0, _ => fail
  | fuel + 1, left => do
    match ← peek with
    | some (.op s) =>
      match ops.lookup s with
      | some o =>
        op s
        let right ← operand
        leftAssocAux ops operand fuel (.binary o left right)
      | none => pure left
    | _ => pure left

def leftAssoc (ops : List (String × BinaryOp)) (operand : Parser Expr) : Parser Expr := do
  let left ← operand
  fun ts => leftAssocAux ops operand (ts.length + 1) left ts

/-- The levels of binary operators, the tightest first. -/
def binaryLevels : List (List (String × BinaryOp)) :=
  [[("*", .mul), ("/", .div), ("//", .floorDiv), ("%", .mod), ("@", .matMul)],
    [("+", .add), ("-", .sub)], [("<<", .shiftLeft), (">>", .shiftRight)], [("&", .bitAnd)],
    [("^", .bitXor)], [("|", .bitOr)]]

/-- The comparison operator that is next, read. -/
def compareOp? : Parser (Option CompareOp) := fun ts =>
  some <|
    match ts with
    | .op "==" :: rest => (some .eq, rest)
    | .op "!=" :: rest => (some .notEq, rest)
    | .op "<=" :: rest => (some .le, rest)
    | .op "<" :: rest => (some .lt, rest)
    | .op ">=" :: rest => (some .ge, rest)
    | .op ">" :: rest => (some .gt, rest)
    | .keyword "in" :: rest => (some .inside, rest)
    | .keyword "not" :: .keyword "in" :: rest => (some .notInside, rest)
    | .keyword "is" :: .keyword "not" :: rest => (some .isNot, rest)
    | .keyword "is" :: rest => (some .is, rest)
    | _ => (none, ts)

def comparePairsAux (operand : Parser Expr) : Nat → Parser (List (CompareOp × Expr))
  | 0 => fail
  | fuel + 1 => do
    match ← compareOp? with
    | some o =>
      let e ← operand
      let rest ← comparePairsAux operand fuel
      pure ((o, e) :: rest)
    | none => pure []

def comparePairs (operand : Parser Expr) : Parser (List (CompareOp × Expr)) := fun ts =>
  comparePairsAux operand (ts.length + 1) ts

section Levels

variable (g : Grammar)

def named : Parser Expr := fun ts =>
  match ts with
  | .name n :: .op ":=" :: rest => (do
      let e ← g.expression
      pure (Expr.other [.name n, e]) : Parser Expr) rest
  | _ => g.expression ts

/-- The operators that bind tighter than a comparison. -/
def bitOr : Parser Expr := binaryLevels.foldl (fun p ops => leftAssoc ops p) g.factor

def comparison : Parser Expr := do
  let left ← g.bitOr
  match ← comparePairs g.bitOr with
  | (o, right) :: rest => pure (.compare left o right rest)
  | [] => pure left

/-- Any number of `not` before a comparison. -/
def inversion : Parser Expr := do
  let nots ← repeated (atKeyword "not") (keyword "not")
  let e ← g.comparison
  pure (nots.foldl (fun e _ => .unary .not e) e)

def conjunction : Parser Expr := do
  let e ← g.inversion
  match ← repeated (skipKeyword "and") g.inversion with
  | [] => pure e
  | es => pure (.bool .and (e :: es))

def disjunction : Parser Expr := do
  let e ← g.conjunction
  match ← repeated (skipKeyword "or") g.conjunction with
  | [] => pure e
  | es => pure (.bool .or (e :: es))

/-- `*e`, or what the second parser reads. -/
def starOr (p : Parser Expr) : Parser Expr := do
  if ← skipOp "*" then
    let e ← g.bitOr
    pure (.starred e)
  else p

/-- Expressions with commas between them: a tuple if there is a comma. -/
def starExpressions : Parser Expr := do
  let e ← g.starOr g.expression
  match ← commaTail atEnd (g.starOr g.expression) with
  | ([], false) => pure e
  | (es, _) => pure (.tuple (e :: es))

def yieldExpr : Parser Expr := do
  keyword "yield"
  if ← skipKeyword "from" then
    let e ← g.expression
    pure (.other [e])
  else if ← atEnd then pure (.other [])
  else
    let e ← g.starExpressions
    pure (.other [e])

def rightSide : Parser Expr := do
  if ← atKeyword "yield" then g.yieldExpr else g.starExpressions

/-! ### Targets -/

/-- An operand that can be assigned to. -/
def targetOf (ok : Expr → Bool) : Parser Expr := do
  let e ← g.primary
  if ok e then pure e else fail

/-- A target of a loop, possibly with a star. -/
def starTarget : Parser Expr := do
  if ← skipOp "*" then
    let e ← g.targetOf Expr.isTarget
    pure (.starred e)
  else g.targetOf Expr.isTarget

def starTargets : Parser Expr := do
  let e ← g.starTarget
  match ← commaTail atEnd g.starTarget with
  | ([], false) => pure e
  | (es, _) => pure (.tuple (e :: es))

/-! ### Comprehensions -/

def atClause : Parser Bool := fun ts =>
  some (match ts with
    | .keyword "for" :: _ => true
    | .keyword "async" :: .keyword "for" :: _ => true
    | _ => false, ts)

/-- One `for … in … if …`: the target, what is iterated, and the conditions. -/
def clause : Parser (List Expr) := do
  let _ ← skipKeyword "async"
  keyword "for"
  let target ← g.starTargets
  keyword "in"
  let iter ← g.disjunction
  let conditions ← repeated (skipKeyword "if") g.disjunction
  pure (target :: iter :: conditions)

/-- The clauses of a comprehension, at least one. -/
def clauses : Parser (List Expr) := do
  let first ← g.clause
  let more ← repeated atClause g.clause
  pure (first ++ more.flatten)

/-! ### Calls and items -/

/-- Arguments of a call: positional ones, and keyword ones with their names. -/
structure Arguments where
  positional : List Expr := []
  keywords : List (Option String × Expr) := []

/-- Reads arguments up to the closing bracket. The phase is 0 while positional arguments may come, 1
after a keyword argument, and 2 after `**`. -/
def argumentsAux : Nat → Nat → Arguments → Parser Arguments
  | 0, _, _ => fail
  | fuel + 1, phase, args => do
    if ← skipOp ")" then pure args
    else
      let (phase, args) ← (do
        if ← skipOp "**" then
          let e ← g.expression
          pure (2, { args with keywords := args.keywords ++ [(none, e)] })
        else if ← skipOp "*" then
          if phase ≥ 2 then fail
          else
            let e ← g.expression
            pure (phase, { args with positional := args.positional ++ [.starred e] })
        else
          match ← get with
          | .name n :: .op "=" :: rest =>
            set rest
            let e ← g.expression
            pure (max phase 1, { args with keywords := args.keywords ++ [(some n, e)] })
          | _ =>
            if phase ≥ 1 then fail
            else
              let e ← g.named
              pure (phase, { args with positional := args.positional ++ [e] }) :
        Parser (Nat × Arguments))
      if ← skipOp "," then argumentsAux fuel phase args
      else
        op ")"
        pure args

def arguments : Parser Arguments := fun ts => argumentsAux g (ts.length + 1) 0 {} ts

/-- The arguments of a call after its opening bracket. A generator needs no brackets of its own if
it is the only argument. -/
def callArguments : Parser Arguments := do
  let ts ← get
  let startsPlain := match ts with
    | .op s :: _ => s != ")" && s != "*" && s != "**"
    | .name _ :: .op "=" :: _ => false
    | _ => true
  if startsPlain then
    let e ← g.named
    if ← atClause then
      let parts ← g.clauses
      op ")"
      pure { positional := [.other (e :: parts)] }
    else if ← skipOp "," then
      fun ts => argumentsAux g (ts.length + 1) 0 { positional := [e] } ts
    else
      op ")"
      pure { positional := [e] }
  else g.arguments

def slicePart : Parser (List Expr) := do
  if (← atOp ":") || (← atOp "]") || (← atOp ",") then pure []
  else
    let e ← g.expression
    pure [e]

/-- One item of a subscript: a slice, an expression, or an expression with a star. -/
def sliceItem : Parser Expr := do
  if ← skipOp "*" then
    let e ← g.expression
    pure (.starred e)
  else
    let isNamed ← atWalrus
    let lower ← (do
      if ← atOp ":" then pure [] else
        let e ← g.named
        pure [e] : Parser (List Expr))
    if !isNamed && (← skipOp ":") then
      let upper ← g.slicePart
      let step ← (do if ← skipOp ":" then g.slicePart else pure [] : Parser (List Expr))
      pure (.other (lower ++ upper ++ step))
    else
      match lower with
      | [e] => pure e
      | _ => fail

/-- The subscript after an opening bracket. -/
def slices : Parser Expr := do
  let e ← g.sliceItem
  let (es, comma) ← commaTail (atOp "]") g.sliceItem
  op "]"
  match e, comma with
  | .starred _, _ => pure (.tuple (e :: es))
  | _, true => pure (.tuple (e :: es))
  | _, false => pure e

/-! ### Atoms -/

/-- The expression of a replacement field. It is read as if it stood between brackets. -/
def fieldSource (source : List Char) : Option Expr :=
  match Token.scan? ('(' :: source ++ [')']) with
  | some ts =>
    match g.expression ts with
    | some (e, [.newline]) => some e
    | _ => none
  | none => none

/-- What adjacent string literals denote together. -/
def joinQuoted? (qs : List Quoted) : Option Expr :=
  if qs.any (·.isBytes) then
    if qs.all (·.isBytes) then do
      let bs ← qs.mapM fun q => Quoted.decodeBytes? q.isRaw q.body
      some (.const (.bytes bs.flatten))
    else none
  else if qs.any (·.isFormatted) then do
    let parts ← qs.mapM fun q =>
      if q.isFormatted then do
        let sources ← q.fields?
        sources.mapM g.fieldSource
      else (Quoted.decode? q.isRaw q.body).map fun _ => []
    some (.other parts.flatten)
  else do
    let pieces ← qs.mapM fun q => Quoted.decode? q.isRaw q.body
    some (.const (.str (String.ofList pieces.flatten)))

def strings : Parser Expr := fun ts =>
  let qs := ts.takeWhile fun | .quoted _ => true | _ => false
  let literals := qs.filterMap fun | .quoted q => some q | _ => none
  (joinQuoted? g literals).map fun e => (e, ts.drop qs.length)

/-- After an opening round bracket. -/
def parenthesized : Parser Expr := do
  if ← skipOp ")" then pure (.tuple [])
  else if ← atKeyword "yield" then
    let e ← g.yieldExpr
    op ")"
    pure e
  else
    let e ← g.starOr g.named
    let isStarred := match e with | .starred _ => true | _ => false
    if ← atClause then
      if isStarred then fail
      else
        let parts ← g.clauses
        op ")"
        pure (.other (e :: parts))
    else
      let (es, comma) ← commaTail (atOp ")") (g.starOr g.named)
      op ")"
      if comma then pure (.tuple (e :: es))
      else if isStarred then fail
      else pure e

def bracketed : Parser Expr := do
  if ← skipOp "]" then pure (.list [])
  else
    let e ← g.starOr g.named
    if ← atClause then
      match e with
      | .starred _ => fail
      | _ =>
        let parts ← g.clauses
        op "]"
        pure (.other (e :: parts))
    else
      let (es, _) ← commaTail (atOp "]") (g.starOr g.named)
      op "]"
      pure (.list (e :: es))

/-- An entry of a dictionary: its key, if it has one, and its value. -/
def dictEntry : Parser (List Expr × Expr) := do
  if ← skipOp "**" then
    let e ← g.bitOr
    pure ([], e)
  else
    let k ← g.expression
    op ":"
    let v ← g.expression
    pure ([k], v)

/-- The entries of a dictionary after the first. Keys are visited before values. -/
def dictRest (first : List Expr × Expr) : Parser Expr := do
  let (rest, _) ← commaTail (atOp "\x7d") g.dictEntry
  op "\x7d"
  let entries := first :: rest
  pure (.other (entries.flatMap Prod.fst ++ entries.map Prod.snd))

/-- After an opening brace: a dictionary if its first item has a colon, else a set. -/
def braced : Parser Expr := do
  if ← skipOp "\x7d" then pure (.other [])
  else if ← atOp "**" then
    let first ← g.dictEntry
    g.dictRest first
  else
    let isSetItem := (← atWalrus) || (← atOp "*")
    let e ← g.starOr g.named
    if !isSetItem && (← skipOp ":") then
      let v ← g.expression
      if ← atClause then
        let parts ← g.clauses
        op "\x7d"
        pure (.other (e :: v :: parts))
      else g.dictRest ([e], v)
    else if ← atClause then
      match e with
      | .starred _ => fail
      | _ =>
        let parts ← g.clauses
        op "\x7d"
        pure (.other (e :: parts))
    else
      let (es, _) ← commaTail (atOp "\x7d") (g.starOr g.named)
      op "\x7d"
      pure (.other (e :: es))

/-- A name, a constant, or something in brackets. -/
def atom : Parser Expr := do
  match ← get with
  | .name n :: rest =>
    set rest
    pure (.name n)
  | .number v :: rest =>
    set rest
    pure (.const v)
  | .quoted _ :: _ => g.strings
  | .keyword "True" :: rest =>
    set rest
    pure (.const (.bool true))
  | .keyword "False" :: rest =>
    set rest
    pure (.const (.bool false))
  | .keyword "None" :: rest =>
    set rest
    pure (.const .null)
  | .op "..." :: rest =>
    set rest
    pure (.const .ellipsis)
  | .op "(" :: rest =>
    set rest
    g.parenthesized
  | .op "[" :: rest =>
    set rest
    g.bracketed
  | .op "\x7b" :: rest =>
    set rest
    g.braced
  | _ => fail

/-- What follows an atom directly: attributes, calls, subscripts. -/
def trailersAux : Nat → Expr → Parser Expr
  | 0, _ => fail
  | fuel + 1, e => do
    if ← skipOp "." then
      let n ← name
      trailersAux fuel (.attribute e n)
    else if ← skipOp "(" then
      let args ← g.callArguments
      trailersAux fuel (.call e args.positional args.keywords)
    else if ← skipOp "[" then
      let index ← g.slices
      trailersAux fuel (.subscript e index)
    else pure e

/-- An atom with what follows it. -/
def primaryStep : Parser Expr := do
  let e ← g.atom
  fun ts => trailersAux g (ts.length + 1) e ts

end Levels

/-! ### Parameters -/

/-- What can stand in a list of parameters. -/
inductive ParamItem where
  | plain (name : String) (hint : List Expr) (default : List Expr)
  | slash
  | star
  | rest (name : String) (hint : List Expr)
  | keywords (name : String) (hint : List Expr)

/-- Parameters sorted by kind. -/
structure ParamLists where
  positionalOnly : List (String × List Expr) := []
  plain : List (String × List Expr) := []
  defaults : List Expr := []
  rest : List Expr := []
  keywordOnly : List (List Expr) := []
  keywordDefaults : List Expr := []
  keywords : List Expr := []

/-- Checks the order of parameters and sorts them. After a star every parameter is given by name; a
bare star has to be followed by one. Without a star no parameter without a default follows one with
a default. -/
def sortParams (afterStar hasSlash : Bool) (acc : ParamLists) : List ParamItem → Option ParamLists
  | [] => some acc
  | .plain n hint default :: more =>
    if afterStar then
      sortParams afterStar hasSlash
        { acc with
          keywordOnly := acc.keywordOnly ++ [hint]
          keywordDefaults := acc.keywordDefaults ++ default } more
    else if default.isEmpty && !acc.defaults.isEmpty then none
    else
      sortParams afterStar hasSlash
        { acc with plain := acc.plain ++ [(n, hint)], defaults := acc.defaults ++ default } more
  | .slash :: more =>
    if afterStar || hasSlash || acc.plain.isEmpty then none
    else
      sortParams afterStar true { acc with positionalOnly := acc.plain, plain := [] } more
  | .star :: more =>
    match more with
    | .plain _ _ _ :: _ => if afterStar then none else sortParams true hasSlash acc more
    | _ => none
  | .rest _ hint :: more =>
    if afterStar then none else sortParams true hasSlash { acc with rest := hint } more
  | .keywords _ hint :: more => if more.isEmpty then some { acc with keywords := hint } else none

def paramsOf? (items : List ParamItem) : Option Params :=
  (sortParams false false {} items).map fun p =>
    { names := p.plain.map Prod.fst
      parts :=
        p.positionalOnly.flatMap Prod.snd ++ p.plain.flatMap Prod.snd ++ p.rest ++
          p.keywordOnly.flatten ++ p.keywordDefaults ++ p.keywords ++ p.defaults }

section Headers

variable (g : Grammar)

/-- A type hint after a colon, if hints are allowed here. -/
def hint (hinted star : Bool) : Parser (List Expr) := do
  if !hinted then pure []
  else if ← skipOp ":" then
    let e ← if star then g.starOr g.expression else g.expression
    pure [e]
  else pure []

def paramItem (hinted : Bool) : Parser ParamItem := do
  if ← skipOp "/" then pure .slash
  else if ← skipOp "**" then
    let n ← name
    let h ← g.hint hinted false
    pure (.keywords n h)
  else if ← skipOp "*" then
    if ← atOp "," then pure .star
    else
      let n ← name
      let h ← g.hint hinted true
      pure (.rest n h)
  else
    let n ← name
    let h ← g.hint hinted false
    if ← skipOp "=" then
      let d ← g.expression
      pure (.plain n h [d])
    else pure (.plain n h [])

/-- Parameters up to the given symbol, which is left. -/
def params (hinted : Bool) (closing : String) : Parser Params := do
  let items ← (do
    if ← atOp closing then pure [] else
      let first ← g.paramItem hinted
      let (more, _) ← commaTail (atOp closing) (g.paramItem hinted)
      pure (first :: more) : Parser (List ParamItem))
  match paramsOf? items with
  | some p => pure p
  | none => fail

/-- A function without a name. -/
def lambda : Parser Expr := do
  keyword "lambda"
  let p ← g.params false ":"
  op ":"
  let e ← g.expression
  pure (.other (p.parts ++ [e]))

/-- `a if c else b`, or a disjunction. -/
def expressionStep : Parser Expr := do
  if ← atKeyword "lambda" then g.lambda
  else
    let a ← g.disjunction
    if ← skipKeyword "if" then
      let c ← g.disjunction
      keyword "else"
      let b ← g.expression
      pure (.other [c, a, b])
    else pure a

/-- Signs before an operand, or an operand raised to a power. -/
def factorStep : Parser Expr := do
  if ← skipOp "-" then
    let e ← g.factor
    pure (.unary .negate e)
  else if ← skipOp "+" then
    let e ← g.factor
    pure (.unary .plus e)
  else if ← skipOp "~" then
    let e ← g.factor
    pure (.unary .invert e)
  else
    let e ← (do
      if ← skipKeyword "await" then
        let e ← g.primaryStep
        pure (.other [e])
      else g.primaryStep : Parser Expr)
    if ← skipOp "**" then
      let exponent ← g.factor
      pure (.binary .pow e exponent)
    else pure e

end Headers

end Grammar

end Program

end BlockScript
