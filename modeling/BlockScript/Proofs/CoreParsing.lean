import BlockScript.Proofs.CoreTokens
import BlockScript.Proofs.Parsing

/-!
# Reading listings back

A listing of core classes is parsed into a program that reads as these classes:
`Sheet.parse?_listing`. Plain data has a syntax tree (`Term.expr`, `Cond.expr`, `Item.stmt`), which is
what its tokens are parsed into, and from which it is read (`Term.ofExpr?_expr` and so on).

Parsers are given a depth. It is never reached: a bracket or a body takes two levels and has at
least two tokens, so that as many levels as tokens are enough.
-/

namespace BlockScript

open Program Program.Parser Program.Grammar Core.Item Core.Term List Program.Token

namespace Core

/-! ### Syntax trees of plain data -/

def Arith.binary : Arith → BinaryOp
  | add => .add
  | sub => .sub
  | mul => .mul
  | div => .div
  | mod => .mod

def Relation.compareOp : Relation → CompareOp
  | lt => .lt
  | gt => .gt
  | eq => .eq
  | ne => .notEq
  | le => .le
  | ge => .ge

def Term.expr : Term → Expr
  | text s => .const (.str s)
  | number i => if i < 0 then .unary .negate (.const (.int i.natAbs)) else .const (.int i)
  | named x => .name x
  | operation o left right => .binary o.binary left.expr right.expr

def Cond.expr : Cond → Expr
  | compare r left right => .compare left.expr r.compareOp right.expr []
  | both o left right => .bool o [left.expr, right.expr]
  | not c => .unary .not c.expr

mutual

def Item.stmt : Item → Stmt
  | call opcode _ args => .expr (.call (.name (functionName opcode)) (args.map Term.expr) [])
  | assign x t => .assign [.name x] t.expr
  | change x t => .augAssign (.name x) .add t.expr
  | choice c body orelse => .conditional c.expr (Item.stmts body) (Item.stmts orelse)
  | loop times body =>
    .forLoop (.name "i") (.call (.name "range") [times.expr] []) (Item.stmts body) []
  | skip => .other []

def Item.stmts : Script → List Stmt
  | [] => []
  | i :: rest => i.stmt :: Item.stmts rest

end

theorem Term.ofExpr?_expr (t : Term) : ofExpr? t.expr = some t := by
  induction t with
  | text s => rfl
  | number i =>
    rw [expr]
    split
    · next hi =>
      change some (number (-(i.natAbs : Int))) = _
      rw [show -(i.natAbs : Int) = i by omega]
    · rfl
  | named x => rfl
  | operation o left right ihl ihr =>
    rw [expr, ofExpr?, ihl, ihr]
    cases o <;> rfl

theorem Cond.ofExpr?_expr (c : Cond) : ofExpr? c.expr = some c := by
  induction c with
  | compare r left right =>
    rw [expr, ofExpr?, Term.ofExpr?_expr, Term.ofExpr?_expr]
    cases r <;> rfl
  | both o left right ihl ihr =>
    rw [expr, ofExpr?, ofExprs?, ihl, ofExprs?, ihr]
    rfl
  | not c ih =>
    rw [expr, ofExpr?, ih]
    rfl

mutual

/-- **Plain items are read off their syntax trees.** -/
theorem Item.ofStmt?_stmt : ∀ {i : Item}, i.isPlain → ofStmt? i.stmt = some i
  | call opcode inputs args, h => by
    obtain ⟨v, hv, t, rfl, rfl, rfl, hf, -⟩ := exists_verb h
    have hcommand : Command.ofName? v.function = some (.action v.opcode [v.input]) := by
      simp only [verbs, mem_cons, not_mem_nil, or_false] at hv
      rcases hv with rfl | rfl <;> rfl
    rw [stmt, ofStmt?, ofCall?, hf, hcommand]
    simp [ofExprs?, ofExpr?_expr]
  | assign x t, _ => by
    rw [stmt, ofStmt?, ofExpr?_expr]
    rfl
  | change x t, _ => by
    rw [stmt, ofStmt?, ofExpr?_expr]
    rfl
  | choice c body orelse, h => by
    simp only [isPlain, Bool.and_eq_true] at h
    rw [stmt, ofStmt?, Cond.ofExpr?_expr, ofStmts?_stmts h.1.2,
      ofStmts?_stmts h.2]
    rfl
  | loop times body, h => by
    rw [isPlain, Bool.and_eq_true] at h
    rw [stmt, ofStmt?, ofRange?, ofExpr?_expr, ofStmts?_stmts h.2]
    rfl
  | skip, _ => rfl

theorem Item.ofStmts?_stmts : ∀ {is : Script}, arePlain is →
    ofStmts? (stmts is) = some is
  | [], _ => rfl
  | i :: is, h => by
    rw [arePlain, Bool.and_eq_true] at h
    rw [stmts, ofStmts?, ofStmt?_stmt h.1, ofStmts?_stmts h.2]
    rfl

end

/-! ### What follows what -/

/-- The end of a line, some operators and some keywords. -/
def endsWith (ops words : List String) : Token → Bool
  | .newline => true
  | .op s => ops.contains s
  | .keyword w => words.contains w
  | _ => false

/-- What can follow an expression. -/
def endsExpr : Token → Bool := endsWith [")", ":", "=", "+="] []

/-- What can follow a condition in a condition. -/
def endsTest : Token → Bool := endsWith [")", ":", "=", "+="] ["and", "or"]

/-- What can follow a term in a condition. -/
def endsSum : Token → Bool := endsWith [")", ":", "=", "+=", "<", ">", "=="] ["and", "or"]

/-- What can follow a term in a term. -/
def endsTerm : Token → Bool :=
  endsWith [")", ":", "=", "+=", "<", ">", "==", "+", "-", "*", "/", "%"] ["and", "or"]

theorem endsWith_mono {ops ops' words words' : List String} (hops : ops ⊆ ops')
    (hwords : words ⊆ words') (t : Token) (h : endsWith ops words t) :
    endsWith ops' words' t := by
  cases t with
  | op s =>
    simp only [endsWith, contains_iff_mem] at h ⊢
    exact hops h
  | keyword w =>
    simp only [endsWith, contains_iff_mem] at h ⊢
    exact hwords h
  | newline => rfl
  | _ => cases h

section Follow

variable {rest : List Token}

theorem endsTest_of_expr (h : Heads endsExpr rest) : Heads endsTest rest :=
  h.mono (endsWith_mono (by simp) (by simp))

theorem endsSum_of_test (h : Heads endsTest rest) : Heads endsSum rest :=
  h.mono (endsWith_mono (by simp) (by simp))

theorem endsTerm_of_sum (h : Heads endsSum rest) : Heads endsTerm rest :=
  h.mono (endsWith_mono (by simp) (by simp))

theorem ends_endsSum : Ends endsSum binaryLevels := by
  have hall : ∀ ops ∈ binaryLevels, ∀ s ∈ [")", ":", "=", "+=", "<", ">", "=="],
      ops.lookup s = Option.none := by decide
  intro ops hops s hs
  exact hall ops hops s (contains_iff_mem.1 hs)

theorem plainEnd_endsTerm : PlainEnd endsTerm := by
  unfold PlainEnd
  decide

theorem compareOp?_of_heads (h : Heads endsTest rest) :
    compareOp? rest = some (Option.none, rest) := by
  obtain ⟨t, more, rfl, ht⟩ := h
  cases t with
  | op s =>
    have hs : s = ")" ∨ s = ":" ∨ s = "=" ∨ s = "+=" := by simpa [endsTest, endsWith] using ht
    rcases hs with rfl | rfl | rfl | rfl <;> rfl
  | keyword w =>
    have hw : w = "and" ∨ w = "or" := by simpa [endsTest, endsWith] using ht
    rcases hw with rfl | rfl <;> rfl
  | newline => rfl
  | _ => cases ht

end Follow

variable {n : Nat} {ts rest : List Token} {ss : List Stmt} {e : Expr}

/-- The tokens that a term starts with. -/
def beginsTerm : Token → Bool
  | .name _ | .number _ => true
  | .op s => s == "-" || s == "("
  | _ => false

theorem begins_of_beginsTerm (h : Heads beginsTerm ts) : Heads begins ts := by
  refine h.mono fun t ht => ?_
  cases t <;> first | exact ht | rfl | cases ht

/-! ### Terms -/

theorem expression_of_bitOr (hts : Heads beginsTerm ts)
    (he : (ofDepth n).bitOr ts = some (e, rest)) (hrest : Heads endsExpr rest) :
    (ofDepth (n + 1)).expression ts = some (e, rest) := by
  refine expressionStep_single (atKeyword_of_heads hts rfl) ?_ (skipKeyword_of_heads hrest rfl)
  refine disjunction_single ?_ (skipKeyword_of_heads hrest rfl)
  refine conjunction_single ?_ (skipKeyword_of_heads hrest rfl)
  refine inversion_single ?_ (atKeyword_of_heads hts rfl)
  exact comparison_single he (compareOp?_of_heads (endsTest_of_expr hrest))

variable {t : Term} {c : Cond}

theorem Term.heads_tokens (h : t.isPlain) (rest : List Token) :
    Heads beginsTerm (t.tokens ++ rest) := by
  cases t with
  | text s => cases h
  | number i =>
    rw [tokens, ofInt]
    split <;> exact heads_cons rfl _
  | named x => exact heads_cons rfl _
  | operation o left right => exact heads_cons rfl _

theorem Term.isNamed_tokens {t : Term} (h : t.isPlain) {s : String}
    (hs : (s == ":=" || s == "=") = false) (rest : List Token) :
    isNamed (t.tokens ++ .op s :: rest) = false := by
  cases t with
  | text s => cases h
  | number i =>
    rw [tokens, ofInt]
    split <;> rfl
  | named x => exact hs
  | operation o left right => rfl

theorem Term.expr_ne_starred (t : Term) (e : Expr) : t.expr ≠ .starred e := by
  cases t with
  | number i =>
    rw [expr]
    split <;> exact Expr.noConfusion
  | _ => exact Expr.noConfusion

/-- The levels of precedence, cut at the one of an operation. -/
theorem Arith.exists_levels (o : Arith) : ∃ tight ops loose,
    binaryLevels = tight ++ ops :: loose ∧ (∀ l ∈ tight, l.lookup o.symbol = Option.none) ∧
      ops.lookup o.symbol = some o.binary := by
  cases o
  · exact ⟨[_], _, _, rfl, by decide, rfl⟩
  · exact ⟨[_], _, _, rfl, by decide, rfl⟩
  · exact ⟨[], _, _, rfl, by decide, rfl⟩
  · exact ⟨[], _, _, rfl, by decide, rfl⟩
  · exact ⟨[], _, _, rfl, by decide, rfl⟩

/-- The numbers among the tokens. -/
def isNumberToken : Token → Bool
  | .number _ => true
  | _ => false

/-- The names among the tokens. -/
def isNameToken : Token → Bool
  | .name _ => true
  | _ => false

theorem factor_number (hn : 1 ≤ n) (v : Value) (hrest : Heads endsTerm rest) :
    (ofDepth n).factor (.number v :: rest) = some (.const v, rest) := by
  obtain ⟨m, rfl⟩ : ∃ m, n = m + 1 := ⟨n - 1, by omega⟩
  have hts : Heads isNumberToken (Token.number v :: rest) := heads_cons rfl _
  exact factorStep_primary hts (fun _ _ => rfl) rfl (primaryStep_atom rfl hrest plainEnd_endsTerm) hrest
    plainEnd_endsTerm

theorem factor_name (hn : 1 ≤ n) (x : String) (hrest : Heads endsTerm rest) :
    (ofDepth n).factor (.name x :: rest) = some (.name x, rest) := by
  obtain ⟨m, rfl⟩ : ∃ m, n = m + 1 := ⟨n - 1, by omega⟩
  have hts : Heads isNameToken (Token.name x :: rest) := heads_cons rfl _
  exact factorStep_primary hts (fun _ _ => rfl) rfl (primaryStep_atom rfl hrest plainEnd_endsTerm) hrest
    plainEnd_endsTerm

/-- Something in brackets. -/
theorem factor_paren (hts : Heads begins ts) (hnamed : isNamed ts = false)
    (he : (ofDepth n).expression ts = some (e, .op ")" :: rest) ) (hstar : ∀ x, e ≠ .starred x)
    (hrest : Heads endsTerm rest) :
    (ofDepth (n + 1)).factor (.op "(" :: ts) = some (e, rest) := by
  have hopen : Heads (isOp "(") (Token.op "(" :: ts) := heads_cons rfl _
  have hatom : (ofDepth n).atom (.op "(" :: ts) = some (e, rest) :=
    parenthesized_single hts hnamed he hstar
  exact factorStep_primary hopen (by decide) rfl
    (primaryStep_atom hatom hrest plainEnd_endsTerm) hrest plainEnd_endsTerm

/-- **A term is parsed where a factor stands.** -/
theorem Term.factor_tokens (h : t.isPlain) (hn : t.tokens.length ≤ n)
    (hrest : Heads endsTerm rest) : (ofDepth n).factor (t.tokens ++ rest) = some (t.expr, rest) := by
  induction t generalizing n rest with
  | text s => cases h
  | number i =>
    rw [tokens, ofInt] at hn ⊢
    rw [expr]
    by_cases hi : i < 0
    · rw [if_pos hi] at hn ⊢
      rw [if_pos hi]
      obtain ⟨m, rfl⟩ : ∃ m, n = m + 1 := ⟨n - 1, by simp at hn; omega⟩
      exact factorStep_negate (factor_number (by simpa using hn) _ hrest)
    · rw [if_neg hi] at hn ⊢
      rw [if_neg hi]
      exact factor_number hn _ hrest
  | named x => exact factor_name hn x hrest
  | operation o left right ihl ihr =>
    rw [isPlain, Bool.and_eq_true] at h
    have hlen : left.tokens.length + right.tokens.length + 3 ≤ n := by
      simp only [tokens, length_cons, length_append, length_nil] at hn
      omega
    obtain ⟨m, rfl⟩ : ∃ m, n = m + 1 + 1 := ⟨n - 2, by omega⟩
    obtain ⟨tight, ops, loose, hlevels, htight, hops⟩ := o.exists_levels
    have hsymbol : Heads endsTerm (.op o.symbol :: (right.tokens ++ .op ")" :: rest)) :=
      heads_cons (by cases o <;> decide) _
    have hclose : Heads endsExpr (.op ")" :: rest) := heads_cons rfl _
    have hsum := endsSum_of_test (endsTest_of_expr hclose)
    have hleft := ihl h.1 (show left.tokens.length ≤ m by omega) hsymbol
    have hright := ihr h.2 (show right.tokens.length ≤ m by omega) (endsTerm_of_sum hsum)
    have hbinary := bitOr_pair hlevels htight hops hleft hright hsum ends_endsSum
    have hnamed := isNamed_tokens h.1 (s := o.symbol) (by cases o <;> decide)
      (right.tokens ++ .op ")" :: rest)
    have hbegin := heads_tokens h.1 (.op o.symbol :: (right.tokens ++ .op ")" :: rest))
    have hparen := factor_paren (begins_of_beginsTerm hbegin) hnamed
      (expression_of_bitOr hbegin hbinary hclose) (fun x => Expr.noConfusion) hrest
    simpa [tokens, expr] using hparen

theorem Term.expression_tokens (h : t.isPlain) (hn : t.tokens.length < n)
    (hrest : Heads endsExpr rest) :
    (ofDepth n).expression (t.tokens ++ rest) = some (t.expr, rest) := by
  obtain ⟨m, rfl⟩ : ∃ m, n = m + 1 := ⟨n - 1, by omega⟩
  have hsum := endsSum_of_test (endsTest_of_expr hrest)
  have hfactor := factor_tokens h (Nat.le_of_lt_succ hn) (endsTerm_of_sum hsum)
  exact expression_of_bitOr (heads_tokens h rest) (bitOr_single hfactor hsum ends_endsSum) hrest

/-! ### Conditions -/

theorem Relation.symbol_cases {r : Relation} (h : r.negated = false) (ts : List Token) :
    Heads endsSum (.op r.symbol :: ts) ∧ (r.symbol == ":=" || r.symbol == "=") = false ∧
      compareOp? (.op r.symbol :: ts) = some (some r.compareOp, ts) := by
  cases r with
  | lt => exact ⟨heads_cons rfl _, by decide, rfl⟩
  | gt => exact ⟨heads_cons rfl _, by decide, rfl⟩
  | eq => exact ⟨heads_cons rfl _, by decide, rfl⟩
  | _ => cases h

theorem Cond.heads_tokens (h : c.isPlain) (rest : List Token) : Heads begins (c.tokens ++ rest) := by
  cases c with
  | compare r left right =>
    simp only [isPlain, Bool.and_eq_true] at h
    rw [tokens, append_assoc]
    exact begins_of_beginsTerm (Term.heads_tokens h.1.2 _)
  | both o left right => exact heads_cons rfl _
  | not c => exact heads_cons rfl _

theorem Cond.isNamed_tokens (h : c.isPlain) (rest : List Token) :
    isNamed (c.tokens ++ rest) = false := by
  cases c with
  | compare r left right =>
    simp only [isPlain, Bool.and_eq_true, Bool.not_eq_true'] at h
    rw [tokens, append_assoc]
    exact Term.isNamed_tokens h.1.2 (Relation.symbol_cases h.1.1 (right.tokens ++ rest)).2.1 _
  | both o left right => rfl
  | not c => rfl

theorem Cond.expr_ne_starred (c : Cond) (e : Expr) : c.expr ≠ .starred e := by
  cases c <;> exact Expr.noConfusion

/-- **A condition is parsed where a negation stands.** -/
theorem Cond.inversion_tokens (h : c.isPlain) (hn : c.tokens.length ≤ n)
    (hrest : Heads endsTest rest) :
    (ofDepth n).inversion (c.tokens ++ rest) = some (c.expr, rest) := by
  induction c generalizing n rest with
  | compare r left right =>
    simp only [isPlain, Bool.and_eq_true, Bool.not_eq_true'] at h
    obtain ⟨hsum, -, hop⟩ := Relation.symbol_cases h.1.1 (right.tokens ++ rest)
    simp only [tokens, length_append, length_cons] at hn
    have hleft := factor_tokens h.1.2 (show left.tokens.length ≤ n by omega)
      (endsTerm_of_sum hsum)
    have hsum' := endsSum_of_test hrest
    have hright := factor_tokens h.2 (show right.tokens.length ≤ n by omega)
      (endsTerm_of_sum hsum')
    have hpair := comparison_pair (bitOr_single hleft hsum ends_endsSum) hop
      (bitOr_single hright hsum' ends_endsSum) (Nat.succ_pos _) (compareOp?_of_heads hrest)
    rw [tokens, append_assoc]
    exact inversion_single hpair (atKeyword_of_heads (Term.heads_tokens h.1.2 _) rfl)
  | not c ih =>
    simp only [tokens, length_cons] at hn
    exact inversion_not (ih h (by omega) hrest)
  | both o left right ihl ihr =>
    rw [isPlain, Bool.and_eq_true] at h
    have hlen : left.tokens.length + right.tokens.length + 3 ≤ n := by
      simp only [tokens, length_cons, length_append, length_nil] at hn
      omega
    obtain ⟨m, rfl⟩ : ∃ m, n = m + 1 + 1 := ⟨n - 2, by omega⟩
    have hclose : Heads endsExpr (.op ")" :: rest) := heads_cons rfl _
    have hword : Heads endsTest (.keyword (joiner o) :: (right.tokens ++ .op ")" :: rest)) :=
      heads_cons (by cases o <;> decide) _
    have hleft := ihl h.1 (show left.tokens.length ≤ m by omega) hword
    have hright := ihr h.2 (show right.tokens.length ≤ m by omega) (endsTest_of_expr hclose)
    have hbegin := heads_tokens h.1 (.keyword (joiner o) :: (right.tokens ++ .op ")" :: rest))
    have hboth : (ofDepth m).disjunction
        (left.tokens ++ .keyword (joiner o) :: (right.tokens ++ .op ")" :: rest)) =
          some (.bool o [left.expr, right.expr], .op ")" :: rest) := by
      cases o with
      | and =>
        exact disjunction_single (conjunction_pair hleft hright (skipKeyword_of_heads hclose rfl))
          (skipKeyword_of_heads hclose rfl)
      | or =>
        exact disjunction_pair (conjunction_single hleft rfl)
          (conjunction_single hright (skipKeyword_of_heads hclose rfl))
          (skipKeyword_of_heads hclose rfl)
    have hexpr : (ofDepth (m + 1)).expression
        (left.tokens ++ .keyword (joiner o) :: (right.tokens ++ .op ")" :: rest)) =
          some (.bool o [left.expr, right.expr], .op ")" :: rest) :=
      expressionStep_single (atKeyword_of_heads hbegin rfl) hboth (skipKeyword_of_heads hclose rfl)
    have hsum := endsSum_of_test hrest
    have hparen := factor_paren hbegin (isNamed_tokens h.1 _) hexpr (fun x => Expr.noConfusion)
      (endsTerm_of_sum hsum)
    have hcompare := comparison_single (bitOr_single hparen hsum ends_endsSum)
      (compareOp?_of_heads hrest)
    have hinversion := inversion_single hcompare rfl
    simpa [tokens, expr] using hinversion

theorem Cond.expression_tokens (h : c.isPlain) (hn : c.tokens.length < n)
    (hrest : Heads endsExpr rest) :
    (ofDepth n).expression (c.tokens ++ rest) = some (c.expr, rest) := by
  obtain ⟨m, rfl⟩ : ∃ m, n = m + 1 := ⟨n - 1, by omega⟩
  have hinversion := inversion_tokens h (Nat.le_of_lt_succ hn) (endsTest_of_expr hrest)
  have hconjunction := conjunction_single hinversion (skipKeyword_of_heads hrest rfl)
  have hdisjunction := disjunction_single hconjunction (skipKeyword_of_heads hrest rfl)
  exact expressionStep_single (atKeyword_of_heads (heads_tokens h rest) rfl) hdisjunction
    (skipKeyword_of_heads hrest rfl)

/-! ### Items -/

theorem Term.starExpressions_tokens (h : t.isPlain) (hn : t.tokens.length < n)
    (hrest : Heads endsExpr rest) :
    (ofDepth n).starExpressions (t.tokens ++ rest) = some (t.expr, rest) :=
  starExpressions_single (skipOp_of_heads (heads_tokens h rest) rfl)
    (expression_tokens h hn hrest) hrest rfl

/-- A call with one argument, as an expression. -/
theorem starExpressions_call (h : t.isPlain) (hn : t.tokens.length + 2 < n) (f : String)
    (hrest : Heads endsExpr rest) :
    (ofDepth n).starExpressions (.name f :: .op "(" :: (t.tokens ++ .op ")" :: rest)) =
      some (.call (.name f) [t.expr] [], rest) := by
  obtain ⟨m, rfl⟩ : ∃ m, n = m + 1 + 1 := ⟨n - 2, by omega⟩
  have hsum := endsSum_of_test (endsTest_of_expr hrest)
  have hclose : Heads endsExpr (.op ")" :: rest) := heads_cons rfl _
  have harg := expression_tokens h (show t.tokens.length < m by omega) hclose
  have hcall := primaryStep_call (f := f) (begins_of_beginsTerm (Term.heads_tokens h _))
    (isNamed_tokens h (by decide) rest) harg (endsTerm_of_sum hsum) plainEnd_endsTerm
  have hname : Heads isNameToken
      (Token.name f :: .op "(" :: (t.tokens ++ .op ")" :: rest)) := heads_cons rfl _
  have hfactor : (ofDepth (m + 1)).factor (.name f :: .op "(" :: (t.tokens ++ .op ")" :: rest)) =
      some (.call (.name f) [t.expr] [], rest) :=
    factorStep_primary hname (fun _ _ => rfl) rfl hcall (endsTerm_of_sum hsum) plainEnd_endsTerm
  have hexpr := expression_of_bitOr (heads_cons rfl _) (bitOr_single hfactor hsum ends_endsSum) hrest
  exact starExpressions_single rfl hexpr hrest rfl

/-- What can follow an item: another one, or the end of the body. -/
def followsItem : Token → Bool
  | .name _ | .dedent => true
  | .keyword w => !(["else", "elif"].contains w)
  | _ => false

/-- What an item starts with. -/
def beginsItem : Token → Bool
  | .name _ => true
  | .keyword w => ["if", "for", "pass"].contains w
  | _ => false

theorem Item.heads_tokens (i : Item) : Heads beginsItem i.tokens := by
  cases i <;> exact heads_cons rfl _

theorem followsItem_of_begins (h : Heads beginsItem ts) : Heads followsItem ts := by
  refine h.mono fun t ht => ?_
  cases t with
  | keyword w =>
    have hw : w = "if" ∨ w = "for" ∨ w = "pass" := by simpa [beginsItem] using ht
    rcases hw with rfl | rfl | rfl <;> decide
  | name x => rfl
  | _ => cases ht

theorem beginsStatement_of_item (h : Heads beginsItem ts) : Heads beginsStatement ts := by
  refine h.mono fun t ht => ?_
  cases t <;> first | rfl | cases ht

theorem Item.heads_allTokens (is : Script) (h : Heads followsItem rest) :
    Heads followsItem (allTokens is ++ rest) := by
  cases is with
  | nil => exact h
  | cons i is =>
    rw [allTokens, append_assoc]
    exact followsItem_of_begins (i.heads_tokens.append _)

/-- An assignment to a variable, in one of its two forms, even if the variable is called `match`. -/
theorem statement_assign (hn : 2 ≤ n) {x s : String} (hs : s = "=" ∨ s = "+=") {stmt : Stmt}
    (h : (ofDepth n).assignmentOrExpr (.name x :: .op s :: ts) = some (stmt, .newline :: rest)) :
    (ofDepth n).statement (.name x :: .op s :: ts) = some ([stmt], rest) := by
  refine statement_name h ?_
  rintro rfl
  obtain ⟨m, rfl⟩ : ∃ m, n = m + 1 + 1 := ⟨n - 2, by omega⟩
  rcases hs with rfl | rfl <;> rfl

/-- The tokens of a body are parsed into its statements. -/
theorem body_bodyTokens (h : Reads (ofDepth n) (ts ++ .dedent :: rest) ss (.dedent :: rest)) :
    (ofDepth (n + 1)).body (bodyTokens ts ++ rest) = some (ss, rest) := by
  have hblock := body_block (g := ofDepth (n + 1)) (blockStep_lines (h.statements rfl))
  simpa [bodyTokens] using hblock

theorem statement_if (hc : c.isPlain) (hn : c.tokens.length < n) {ts us rest : List Token}
    {body orelse : List Stmt} (hbody : (ofDepth n).body (bodyTokens ts ++ us) = some (body, us))
    (htail : (ofDepth n).elifTail us = some (orelse, rest)) :
    (ofDepth n).statement (.keyword "if" :: (c.tokens ++ (bodyTokens ts ++ us))) =
      some ([.conditional c.expr body orelse], rest) := by
  have htest : (ofDepth n).named (c.tokens ++ (bodyTokens ts ++ us)) =
      some (c.expr, bodyTokens ts ++ us) := by
    rw [named_of_isNamed (Cond.isNamed_tokens hc _)]
    exact Cond.expression_tokens hc hn (heads_cons rfl _)
  have hrest : (ofDepth n).conditionalRest (c.tokens ++ (bodyTokens ts ++ us)) =
      some (.conditional c.expr body orelse, rest) :=
    (bind_some htest).trans ((bind_some hbody).trans (bind_some htail))
  refine (bind_some (a := some (.keyword "if")) rfl).trans ?_
  refine (bind_some (a := ()) rfl).trans ?_
  exact bind_some hrest

theorem statement_for (ht : t.isPlain) (hn : t.tokens.length + 2 < n) {body : List Stmt}
    (hbody : (ofDepth n).body (bodyTokens ts ++ rest) = some (body, rest))
    (hrest : Heads followsItem rest) :
    (ofDepth n).statement (.keyword "for" :: .name "i" :: .keyword "in" :: .name "range" ::
      .op "(" :: (t.tokens ++ .op ")" :: (bodyTokens ts ++ rest))) =
      some ([.forLoop (.name "i") (.call (.name "range") [t.expr] []) body []], rest) := by
  obtain ⟨m, rfl⟩ : ∃ m, n = m + 1 := ⟨n - 1, by omega⟩
  have htarget (us : List Token) : (ofDepth (m + 1)).starTargets (.name "i" :: .keyword "in" :: us) =
      some (.name "i", .keyword "in" :: us) := rfl
  have hcolon : Heads endsExpr (bodyTokens ts ++ rest) := heads_cons rfl _
  have hcall := starExpressions_call ht hn "range" hcolon
  have hend : (ofDepth (m + 1)).optionalBody "else" rest = some ([], rest) :=
    bind_some (skipKeyword_of_heads hrest rfl)
  refine (bind_some (a := some (.keyword "for")) rfl).trans ?_
  refine bind_some ?_
  refine (bind_some (a := ()) rfl).trans ?_
  refine (bind_some (htarget _)).trans ?_
  refine (bind_some (a := ()) rfl).trans ?_
  refine (bind_some hcall).trans ?_
  refine (bind_some hbody).trans ?_
  exact bind_some hend

/-- Nothing stands for the other branch. -/
theorem elifTail_none (h : Heads followsItem rest) :
    (ofDepth (n + 1)).elifTail rest = some ([], rest) :=
  (bind_some (skipKeyword_of_heads h rfl)).trans (bind_some (skipKeyword_of_heads h rfl))

theorem elifTail_else (h : (ofDepth n).body (bodyTokens ts ++ rest) = some (ss, rest)) :
    (ofDepth (n + 1)).elifTail (.keyword "else" :: (bodyTokens ts ++ rest)) = some (ss, rest) := by
  have hother : skipKeyword "elif" (.keyword "else" :: (bodyTokens ts ++ rest)) =
      some (false, .keyword "else" :: (bodyTokens ts ++ rest)) := rfl
  exact (bind_some hother).trans ((bind_some (skipKeyword_self _ _)).trans h)

theorem Verb.function_ne_match {v : Verb} (h : v ∈ verbs) : v.function ≠ "match" := by
  simp only [verbs, mem_cons, not_mem_nil, or_false] at h
  rcases h with rfl | rfl <;> decide

mutual

/-- **An item is parsed into its statement.** -/
theorem Item.statement_tokens {n : Nat} : ∀ {i : Item}, i.isPlain → i.tokens.length ≤ n →
    ∀ {rest : List Token}, Heads followsItem rest →
      (ofDepth n).statement (i.tokens ++ rest) = some ([i.stmt], rest)
  | call opcode inputs args, h, hn, rest, _ => by
    obtain ⟨v, hv, t, -, -, rfl, hf, ht⟩ := exists_verb h
    have hlen : t.tokens.length + 2 < n := by
      simp [tokens] at hn
      omega
    have hcall := starExpressions_call ht hlen v.function (heads_cons (t := .newline) rfl rest)
    have hstatement := statement_name (assignment_expr hcall) fun hm =>
      absurd hm (Verb.function_ne_match hv)
    simpa [tokens, stmt, hf] using hstatement
  | assign x t, h, hn, rest, _ => by
    rw [isPlain, Bool.and_eq_true] at h
    have hlen : t.tokens.length + 3 ≤ n := by
      simp [tokens] at hn
      omega
    have hx := starExpressions_tokens (t := .named x) h.1 (show 1 < n by omega)
      (heads_cons (t := .op "=") rfl (t.tokens ++ .newline :: rest))
    have ht := starExpressions_tokens h.2 (show t.tokens.length < n by omega)
      (heads_cons (t := .newline) rfl rest)
    have hassign := assignment_assign hx (begins_of_beginsTerm (Term.heads_tokens h.2 _)) ht
    have hstatement := statement_assign (by omega) (.inl rfl) hassign
    simpa [tokens, stmt] using hstatement
  | change x t, h, hn, rest, _ => by
    rw [isPlain, Bool.and_eq_true] at h
    have hlen : t.tokens.length + 3 ≤ n := by
      simp [tokens] at hn
      omega
    have hx := starExpressions_tokens (t := .named x) h.1 (show 1 < n by omega)
      (heads_cons (t := .op "+=") rfl (t.tokens ++ .newline :: rest))
    have ht := starExpressions_tokens h.2 (show t.tokens.length < n by omega)
      (heads_cons (t := .newline) rfl rest)
    have hchange := assignment_change hx (begins_of_beginsTerm (Term.heads_tokens h.2 _)) ht
    have hstatement := statement_assign (by omega) (.inr rfl) hchange
    simpa [tokens, stmt] using hstatement
  | skip, _, _, rest, _ => rfl
  | loop times body, h, hn, rest, hrest => by
    rw [isPlain, Bool.and_eq_true] at h
    have hlen : times.tokens.length + (allTokens body).length + 10 ≤ n := by
      simp [tokens, bodyTokens] at hn
      omega
    obtain ⟨m, rfl⟩ : ∃ m, n = m + 1 := ⟨n - 1, by omega⟩
    have hreads := reads_allTokens h.2 (show (allTokens body).length ≤ m by omega)
      (heads_cons (t := .dedent) rfl rest)
    have hbody := body_bodyTokens hreads
    have hfor := statement_for h.1 (by omega) hbody hrest
    simpa [tokens, stmt] using hfor
  | choice c body orelse, h, hn, rest, hrest => by
    simp only [isPlain, Bool.and_eq_true] at h
    have hlen : c.tokens.length + (allTokens body).length + 5 ≤ n := by
      simp only [tokens, bodyTokens, length_cons, length_append, length_nil] at hn
      omega
    obtain ⟨m, rfl⟩ : ∃ m, n = m + 1 + 1 := ⟨n - 2, by omega⟩
    have hreads (us : List Token) := reads_allTokens h.1.2
      (show (allTokens body).length ≤ m + 1 by omega) (heads_cons (t := .dedent) rfl us)
    have hbody (us : List Token) := body_bodyTokens (hreads us)
    cases orelse with
    | nil =>
      have hif := statement_if h.1.1 (by omega) (hbody rest) (elifTail_none hrest)
      simpa [tokens, stmt, stmts] using hif
    | cons o os =>
      have hlen' : (allTokens (o :: os)).length ≤ m := by
        simp only [tokens, bodyTokens, length_cons, length_append, length_nil,
          isEmpty_cons, Bool.false_eq_true, if_false] at hn
        omega
      have hreads' := reads_allTokens h.2 hlen' (heads_cons (t := .dedent) rfl rest)
      have htail := elifTail_else (body_bodyTokens hreads')
      have hif := statement_if h.1.1 (by omega) (hbody _) htail
      simpa [tokens, stmt] using hif

theorem Item.reads_allTokens {n : Nat} : ∀ {is : Script}, arePlain is →
    (allTokens is).length ≤ n → ∀ {rest : List Token}, Heads followsItem rest →
      Reads (ofDepth n) (allTokens is ++ rest) (stmts is) rest
  | [], _, _, rest, _ => reads_nil rest
  | i :: is, h, hn, rest, hrest => by
    rw [arePlain, Bool.and_eq_true] at h
    rw [allTokens, length_append] at hn
    have hi := statement_tokens h.1 (show i.tokens.length ≤ n by omega)
      (heads_allTokens is hrest)
    have his := reads_allTokens h.2 (show (allTokens is).length ≤ n by omega) hrest
    rw [allTokens, append_assoc, stmts]
    exact (reads_statement (beginsStatement_of_item i.heads_tokens) hi).append his

end

/-! ### Classes -/

def Method.stmt (m : Method) : Stmt :=
  .functionDef m.start.name ⟨["self"], []⟩ (Item.stmts m.body) []

/-- The statements of the body of a listed class. -/
def Sheet.members (s : Sheet) : List Stmt :=
  Item.stmts (s.vars.map declare) ++
    (if s.core.methods.isEmpty then [Item.skip.stmt] else s.core.methods.map Method.stmt)

def Sheet.stmt (s : Sheet) : Stmt := .classDef s.core.name [] s.members

theorem statement_function (name : String)
    (h : (ofDepth (n + 1)).body (bodyTokens ts ++ rest) = some (ss, rest)) :
    (ofDepth (n + 1)).statement (.keyword "def" :: .name name :: .op "(" :: .name "self" ::
      .op ")" :: (bodyTokens ts ++ rest)) =
      some ([.functionDef name ⟨["self"], []⟩ ss []], rest) := by
  have hparams (us : List Token) : (ofDepth (n + 1)).params true ")" (.name "self" :: .op ")" :: us) =
      some (⟨["self"], []⟩, .op ")" :: us) := rfl
  refine (bind_some (a := some (.keyword "def")) rfl).trans ?_
  refine bind_some ?_
  refine (bind_some (a := ()) rfl).trans ?_
  refine (bind_some (a := name) rfl).trans ?_
  refine (bind_some (a := ()) rfl).trans ?_
  refine (bind_some (hparams _)).trans ?_
  refine (bind_some (a := ()) rfl).trans ?_
  refine (bind_some (a := []) rfl).trans ?_
  exact bind_some h

theorem statement_class (name : String)
    (h : (ofDepth (n + 1)).body (bodyTokens ts ++ rest) = some (ss, rest)) :
    (ofDepth (n + 1)).statement (.keyword "class" :: .name name :: (bodyTokens ts ++ rest)) =
      some ([.classDef name [] ss], rest) := by
  refine (bind_some (a := some (.keyword "class")) rfl).trans ?_
  refine bind_some ?_
  refine (bind_some (a := ()) rfl).trans ?_
  refine (bind_some (a := name) rfl).trans ?_
  refine (bind_some (a := false) rfl).trans ?_
  exact bind_some h

theorem Method.statement_tokens {m : Method} (h : arePlain m.body) (hn : m.tokens.length ≤ n)
    (rest : List Token) : (ofDepth n).statement (m.tokens ++ rest) = some ([m.stmt], rest) := by
  have hlen : (allTokens m.body).length + 9 ≤ n := by
    simp only [tokens, bodyTokens, length_cons, length_append, length_nil] at hn
    omega
  obtain ⟨k, rfl⟩ : ∃ k, n = k + 1 := ⟨n - 1, by omega⟩
  have hreads := reads_allTokens h (show (allTokens m.body).length ≤ k by omega)
    (heads_cons (t := .dedent) rfl rest)
  exact statement_function m.start.name (body_bodyTokens hreads)

theorem length_tokens_le {α : Type} {f : α → List Token} {a : α} {as : List α} (h : a ∈ as) :
    (f a).length ≤ (as.flatMap f).length := by
  rw [flatMap_def]
  exact (sublist_flatten_of_mem (mem_map_of_mem h)).length_le

/-- **The body of a listed class is parsed into its members.** -/
theorem Sheet.reads_members {s : Sheet} (h : s.Legible) (hn : s.tokens.length ≤ n + 1)
    (rest : List Token) : Reads (ofDepth n) (allTokens (s.vars.map declare) ++
      (if s.core.methods.isEmpty then Item.tokens .skip else s.core.methods.flatMap Method.tokens) ++
        .dedent :: rest) s.members (.dedent :: rest) := by
  simp only [tokens, bodyTokens, length_cons, length_append, length_nil] at hn
  rw [members, append_assoc]
  cases hms : s.core.methods with
  | nil =>
    refine (reads_allTokens h.declared.1 (by omega) (heads_cons rfl _)).append ?_
    have hskip : arePlain [.skip] := rfl
    exact reads_allTokens hskip (show 2 ≤ n by omega) (heads_cons rfl _)
  | cons m ms =>
    have hmethods : ∀ m' ∈ m :: ms, Heads beginsStatement m'.tokens ∧
        ∀ us, (ofDepth n).statement (m'.tokens ++ us) = some ([m'.stmt], us) := by
      intro m' hm'
      have hlen := length_tokens_le (f := Method.tokens) hm'
      rw [hms, if_neg (by simp)] at hn
      rw [← hms] at hm'
      exact ⟨heads_cons rfl _, Method.statement_tokens (h.methods m' hm').arePlain (by omega)⟩
    rw [if_neg (by simp), if_neg (by simp)]
    refine (reads_allTokens h.declared.1 (by omega) (heads_cons rfl _)).append ?_
    exact reads_flatMap hmethods _

/-- **A listed class is parsed into its statement.** -/
theorem Sheet.statement_tokens {s : Sheet} (h : s.Legible) (hn : s.tokens.length ≤ n)
    (rest : List Token) : (ofDepth n).statement (s.tokens ++ rest) = some ([s.stmt], rest) := by
  obtain ⟨k, rfl⟩ : ∃ k, n = k + 1 := ⟨n - 1, by simp [tokens] at hn; omega⟩
  exact statement_class s.core.name (body_bodyTokens (reads_members h hn rest))

def headingStmts : List Stmt :=
  [.expr (.const (.str "\nScratch project converted to Python\n")), .other []]

theorem reads_heading (hn : 8 ≤ n) (rest : List Token) :
    Reads (ofDepth n) (headingTokens ++ rest) headingStmts rest := by
  obtain ⟨k, rfl⟩ : ∃ k, n = k + 8 := ⟨n - 8, by omega⟩
  have hquoted (us : List Token) : (ofDepth (k + 8)).statement
      ([.quoted headingQuoted, .newline] ++ us) =
        some ([.expr (.const (.str "\nScratch project converted to Python\n"))], us) := rfl
  have himport (us : List Token) : (ofDepth (k + 8)).statement
      ([.keyword "from", .name "scratch", .op ".", .name "dsl", .keyword "import", .op "*",
        .newline] ++ us) = some ([.other []], us) := rfl
  exact (reads_statement (heads_cons rfl _) (hquoted _)).append
    (reads_statement (heads_cons rfl _) (himport rest))

/-- The program that a listing is parsed into. -/
def Sheet.program (ss : List Sheet) : Module := headingStmts ++ ss.map Sheet.stmt

/-- A text is a program if its tokens are statements. -/
theorem parse?_of_scan? {text : String} (hsafe : ∀ c ∈ text.toList, isSafe c) {q : Prop}
    [Decidable q] (hscan : scan? text.toList = if q then some ts else Option.none)
    (hreads : q → Reads (ofDepth (2 * text.toList.length + 8)) ts ss []) :
    parse? text = if q then some ss else Option.none := by
  have hnul : text.toList.contains (Char.ofNat 0) = false := by
    rw [contains_eq_mem, decide_eq_false_iff_not]
    intro hmem
    exact absurd (hsafe _ hmem) (by decide)
  rw [parse?, hnul, hscan]
  by_cases hq : q
  · rw [if_pos hq, if_pos hq]
    simp [(hreads hq).statements rfl]
  · rw [if_neg hq, if_neg hq]
    rfl

/-- **A listing is a program**, unless it is nested too deeply. -/
theorem Sheet.parse?_listing {ss : List Sheet} (h : ∀ s ∈ ss, s.Legible) {text : String}
    (htext : text.toList = listing ss) :
    parse? text = if ss.all fits then some (program ss) else Option.none := by
  have hpages := legible_pages h
  rw [listing_eq] at htext
  have hscan := Page.scan?_listing hpages
  rw [← htext, all_map, flatMap_map] at hscan
  have hlines := Page.readsLines_listing hpages
  refine parse?_of_scan? (by rw [htext]; exact hlines.safe) hscan fun hfits => ?_
  have hlen := hlines.length_le (by rwa [all_map])
  rw [← htext, length_append, flatMap_map] at hlen
  have hsheets : ∀ s ∈ ss, Heads beginsStatement s.tokens ∧
      ∀ us, (ofDepth (2 * text.toList.length + 8)).statement (s.tokens ++ us) =
        some ([s.stmt], us) := by
    intro s hs
    have hs' := length_tokens_le (f := fun s : Sheet => s.page.tokens) hs
    exact ⟨heads_cons rfl _, statement_tokens (h s hs) (hs'.trans (by omega))⟩
  have hreads := (reads_heading (by omega) _).append (reads_flatMap hsheets [])
  rwa [append_nil] at hreads

/-! ### What the program reads as -/

theorem Start.ofName?_name (s : Start) : ofName? s.name = some s := by
  cases s <;> decide +kernel

theorem Method.ofMembers?_map_stmt {ms : List Method} (h : ∀ m ∈ ms, m.Legible) :
    ofMembers? (ms.map stmt) = some ms := by
  induction ms with
  | nil => rfl
  | cons m ms ih =>
    have hbody := ofStmts?_stmts (h m (.head _)).arePlain
    have hms := ih fun m hm => h m (.tail _ hm)
    rw [map_cons, stmt, ofMembers?, m.start.ofName?_name, hbody, hms]
    rfl

theorem Method.ofMembers?_declared (vs : List Variable) (members : List Stmt) :
    ofMembers? (stmts (vs.map declare) ++ members) = ofMembers? members := by
  induction vs with
  | nil => rfl
  | cons v vs ih => exact ih

/-- The program of a listing reads as the listed classes. -/
theorem Sheet.ofModule?_program {ss : List Sheet}
    (h : ∀ s ∈ ss, s.Legible ∧ s.core.settings = Option.none) :
    Class.ofModule? (program ss) = some (ss.map (·.core)) := by
  change Class.ofModule? (ss.map stmt) = _
  induction ss with
  | nil => rfl
  | cons s ss ih =>
    obtain ⟨hs, hsettings⟩ := h s (.head _)
    have hmembers : Method.ofMembers? s.members = some s.core.methods := by
      rw [members, Method.ofMembers?_declared]
      split
      · next hnil =>
        rw [List.isEmpty_iff.1 hnil]
        rfl
      · exact Method.ofMembers?_map_stmt hs.methods
    have hrest := ih fun s hs => h s (.tail _ hs)
    rw [map_cons, stmt, Class.ofModule?, hmembers, hrest, map_cons,
      show spriteSettings? [] = s.core.settings from hsettings.symm]
    rfl

theorem Sheet.stageSettings?_program (ss : List Sheet) :
    stageSettings? (program ss) = Option.none := by
  have hnone : (ss.map stmt).findSome? Stmt.stageCall? = Option.none := by
    rw [findSome?_map, findSome?_eq_none_iff]
    intro s _
    rfl
  change Option.map _ ((ss.map stmt).findSome? Stmt.stageCall?) = _
  rw [hnone]
  rfl

/-! ### Tidy classes can be read back -/

theorem Item.arePlain_filled {is : Script} (h : arePlain is) :
    arePlain (filled is) := by
  cases is with
  | nil => rfl
  | cons i is => exact h

theorem Item.areFull_filled {is : Script} (h : areFull is) :
    areFull (filled is) := by
  cases is with
  | nil => rfl
  | cons i is => exact h

mutual

theorem Item.isPlain_tidy : ∀ {i : Item}, i.isPlain → i.tidy.isPlain
  | call opcode inputs args, h => h
  | assign x t, h => h
  | change x t, h => h
  | skip, h => h
  | choice c body orelse, h => by
    simp only [isPlain, Bool.and_eq_true] at h
    have hbody := arePlain_filled (arePlain_tidies h.1.2)
    have horelse := arePlain_filled (arePlain_tidies h.2)
    rw [tidy, isPlain, h.1.1, hbody]
    split
    · rfl
    · exact horelse
  | loop times body, h => by
    rw [isPlain, Bool.and_eq_true] at h
    rw [tidy, isPlain, h.1, arePlain_filled (arePlain_tidies h.2)]
    rfl

theorem Item.arePlain_tidies : ∀ {is : Script}, arePlain is →
    arePlain (tidies is)
  | [], h => h
  | i :: is, h => by
    rw [arePlain, Bool.and_eq_true] at h
    have his := arePlain_tidies h.2
    rw [tidies]
    split
    · exact his
    · rw [arePlain, isPlain_tidy h.1, his]
      rfl

end

mutual

theorem Item.isFull_tidy : ∀ i : Item, i.tidy.isFull
  | call opcode inputs args => rfl
  | assign x t => rfl
  | change x t => rfl
  | skip => rfl
  | choice c body orelse => by
    have hbody := areFull_filled (areFull_tidies body)
    have horelse := areFull_filled (areFull_tidies orelse)
    rw [tidy, isFull, isEmpty_filled, hbody]
    split
    · rfl
    · exact horelse
  | loop times body => by
    rw [tidy, isFull, isEmpty_filled, areFull_filled (areFull_tidies body)]
    rfl

theorem Item.areFull_tidies : ∀ is : Script, areFull (tidies is)
  | [] => rfl
  | i :: is => by
    have his := areFull_tidies is
    rw [tidies]
    split
    · exact his
    · rw [areFull, isFull_tidy i, his]
      rfl

end

theorem Method.legible_tidy {m : Method} (h : arePlain m.body) : m.tidy.Legible where
  arePlain := arePlain_filled (arePlain_tidies h)
  areFull := areFull_filled (areFull_tidies m.body)
  ne_nil := by
    intro hnil
    have hfilled := isEmpty_filled (tidies m.body)
    rw [show filled (tidies m.body) = [] from hnil] at hfilled
    cases hfilled

/-- **What is listed of a class can be read back.** -/
theorem Lists.legible {c : Class} {t : Target} (h : Lists c t) :
    (Sheet.of c t).Legible ∧ (Sheet.of c t).core.settings = Option.none := by
  have hplain := h.isPlain
  simp only [Class.isPlain, Bool.and_eq_true, Option.isNone_iff_eq_none, all_eq_true] at hplain
  refine ⟨⟨hplain.1.1, ?_, h.listable.vars⟩, hplain.1.2⟩
  intro m hm
  obtain ⟨m', hm', rfl⟩ := mem_map.1 hm
  exact Method.legible_tidy (hplain.2 m' hm')

end Core

end BlockScript
