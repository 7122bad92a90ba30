import BlockScript.Program.Statement

/-!
# Parsing step by step

What the parsers of the grammar do where the next tokens are known. The levels of an expression are
passed through one after the other: each reads what the next tighter level reads, if the token after
that is none of its own operators (`leftAssoc_single`, `comparison_single`, …), or it reads an
operator and a second operand (`leftAssoc_pair`, `comparison_pair`, …).

Which tokens may follow is a matter of sets of tokens, given by their characteristic functions:
`Heads p ts` says that the first token of `ts` is in the set `p`.
-/

namespace BlockScript

open List

namespace Program

namespace Parser

variable {α β : Type} {ts us : List Token} {p : Token → Bool}

/-- The set with one operator. -/
def isOp (s : String) : Token → Bool
  | .op s' => s' == s
  | _ => false

/-- The first token is in the set. -/
def Heads (p : Token → Bool) (ts : List Token) : Prop := ∃ t more, ts = t :: more ∧ p t = true

theorem heads_cons {t : Token} (h : p t) (more : List Token) : Heads p (t :: more) := ⟨t, more, rfl, h⟩

theorem Heads.mono {q : Token → Bool} (h : Heads p ts) (hpq : ∀ t, p t → q t) : Heads q ts := by
  obtain ⟨t, more, rfl, ht⟩ := h
  exact ⟨t, more, rfl, hpq t ht⟩

theorem Heads.append (h : Heads p ts) (us : List Token) : Heads p (ts ++ us) := by
  obtain ⟨t, more, rfl, ht⟩ := h
  exact ⟨t, more ++ us, rfl, ht⟩

theorem bind_some {p : Parser α} {f : α → Parser β} {a : α} (h : p ts = some (a, us)) :
    (p >>= f) ts = f a us := by
  change (p ts).bind _ = _
  rw [h]
  rfl

theorem atOp_of_heads {s : String} (h : Heads p ts) (hs : p (.op s) = false) :
    atOp s ts = some (false, ts) := by
  obtain ⟨t, more, rfl, ht⟩ := h
  cases t with
  | op s' =>
    have hne : s' ≠ s := by
      rintro rfl
      exact Bool.false_ne_true (hs.symm.trans ht)
    simp [atOp, hne]
  | _ => rfl

theorem atKeyword_of_heads {w : String} (h : Heads p ts) (hw : p (.keyword w) = false) :
    atKeyword w ts = some (false, ts) := by
  obtain ⟨t, more, rfl, ht⟩ := h
  cases t with
  | keyword w' =>
    have hne : w' ≠ w := by
      rintro rfl
      exact Bool.false_ne_true (hw.symm.trans ht)
    simp [atKeyword, hne]
  | _ => rfl

theorem skipOp_of_heads {s : String} (h : Heads p ts) (hs : p (.op s) = false) :
    skipOp s ts = some (false, ts) :=
  bind_some (atOp_of_heads h hs)

theorem skipKeyword_of_heads {w : String} (h : Heads p ts) (hw : p (.keyword w) = false) :
    skipKeyword w ts = some (false, ts) :=
  bind_some (atKeyword_of_heads h hw)

theorem op_self (s : String) (more : List Token) : op s (.op s :: more) = some ((), more) := by
  simp [op]

theorem skipOp_self (s : String) (more : List Token) :
    skipOp s (.op s :: more) = some (true, more) := by
  have hat : atOp s (.op s :: more) = some (true, .op s :: more) := by simp [atOp]
  exact (bind_some hat).trans (bind_some (op_self s more))

theorem skipKeyword_self (w : String) (more : List Token) :
    skipKeyword w (.keyword w :: more) = some (true, more) := by
  have hat : atKeyword w (.keyword w :: more) = some (true, .keyword w :: more) := by
    simp [atKeyword]
  have hread : keyword w (.keyword w :: more) = some ((), more) := by simp [keyword]
  exact (bind_some hat).trans (bind_some hread)

/-! ### Repetition -/

variable {more : Parser Bool} {q : Parser α}

theorem repeatedAux_stop (n : Nat) (h : more ts = some (false, us)) :
    repeatedAux more q (n + 1) ts = some ([], us) :=
  bind_some h

theorem repeatedAux_go {n : Nat} {a : α} {as : List α} {vs ws : List Token}
    (hmore : more ts = some (true, us)) (hq : q us = some (a, vs))
    (hrest : repeatedAux more q n vs = some (as, ws)) :
    repeatedAux more q (n + 1) ts = some (a :: as, ws) :=
  (bind_some hmore).trans ((bind_some hq).trans (bind_some hrest))

theorem repeated_stop (h : more ts = some (false, us)) : repeated more q ts = some ([], us) :=
  repeatedAux_stop _ h

/-- No comma follows. -/
theorem commaTail_of_heads {stop : Parser Bool} (h : Heads p ts) (hs : p (.op ",") = false) :
    commaTail stop q ts = some (([], false), ts) :=
  bind_some (skipOp_of_heads h hs)

end Parser

open Parser

namespace Grammar

variable {g : Grammar} {ts us rest : List Token} {p : Token → Bool}

/-! ### Binary operators -/

variable {e a b : Expr} {q : Parser Expr} {ops : List (String × BinaryOp)}

theorem leftAssocAux_stop (n : Nat) (e : Expr) (h : Heads p ts)
    (hops : ∀ s, p (.op s) → ops.lookup s = Option.none) :
    leftAssocAux ops q (n + 1) e ts = some (e, ts) := by
  obtain ⟨t, more, rfl, ht⟩ := h
  refine (bind_some (a := some t) rfl).trans ?_
  cases t with
  | op s =>
    dsimp only
    rw [hops s ht]
    rfl
  | _ => rfl

theorem leftAssoc_single (hq : q ts = some (e, rest)) (h : Heads p rest)
    (hops : ∀ s, p (.op s) → ops.lookup s = Option.none) : leftAssoc ops q ts = some (e, rest) :=
  (bind_some hq).trans (leftAssocAux_stop _ e h hops)

theorem leftAssoc_pair {s : String} {o : BinaryOp} (ha : q ts = some (a, .op s :: us))
    (hs : ops.lookup s = some o) (hb : q us = some (b, rest)) (h : Heads p rest)
    (hops : ∀ s, p (.op s) → ops.lookup s = Option.none) :
    leftAssoc ops q ts = some (.binary o a b, rest) := by
  refine (bind_some ha).trans ?_
  refine (bind_some (a := some (.op s)) rfl).trans ?_
  dsimp only
  rw [hs]
  refine (bind_some (op_self s us)).trans ?_
  refine (bind_some hb).trans ?_
  obtain ⟨n, hn⟩ : ∃ n, (Token.op s :: us).length = n + 1 := ⟨_, rfl⟩
  rw [hn]
  exact leftAssocAux_stop n _ h hops

/-- No token of the set is an operator of the levels. -/
def Ends (p : Token → Bool) (levels : List (List (String × BinaryOp))) : Prop :=
  ∀ ops ∈ levels, ∀ s, p (.op s) = true → ops.lookup s = Option.none

theorem levels_single {levels : List (List (String × BinaryOp))} (hq : q ts = some (e, rest))
    (h : Heads p rest) (hends : Ends p levels) :
    levels.foldl (fun q ops => leftAssoc ops q) q ts = some (e, rest) := by
  induction levels generalizing q with
  | nil => exact hq
  | cons ops levels ih =>
    exact ih (leftAssoc_single hq h (hends ops (.head _)))
      fun ops hops => hends ops (.tail _ hops)

theorem bitOr_single (hq : g.factor ts = some (e, rest)) (h : Heads p rest)
    (hends : Ends p binaryLevels) : g.bitOr ts = some (e, rest) :=
  levels_single hq h hends

/-- Two operands with an operator between them. The tighter levels stop at the operator, its own
level reads it, and the looser levels stop at what follows. -/
theorem bitOr_pair {tight loose : List (List (String × BinaryOp))} {s : String} {o : BinaryOp}
    (hlevels : binaryLevels = tight ++ ops :: loose)
    (htight : ∀ l ∈ tight, l.lookup s = Option.none) (hs : ops.lookup s = some o)
    (ha : g.factor ts = some (a, .op s :: us)) (hb : g.factor us = some (b, rest))
    (h : Heads p rest) (hends : Ends p binaryLevels) : g.bitOr ts = some (.binary o a b, rest) := by
  rw [hlevels] at hends
  have hsame : Heads (isOp s) (Token.op s :: us) :=
    heads_cons (beq_self_eq_true s) us
  have hleft := levels_single ha hsame fun l hl s' hs' => by
    rw [beq_iff_eq.1 hs']
    exact htight l hl
  have hright := levels_single hb h fun l hl => hends l (mem_append_left _ hl)
  have hpair := leftAssoc_pair hleft hs hright h
    (hends ops (mem_append_right _ (.head _)))
  rw [bitOr, hlevels, foldl_append, foldl_cons]
  exact levels_single hpair h fun l hl =>
    hends l (mem_append_right _ (.tail _ hl))

/-! ### Comparisons and connectives -/

theorem comparePairsAux_stop (n : Nat) (h : compareOp? rest = some (Option.none, rest)) :
    comparePairsAux q (n + 1) rest = some ([], rest) :=
  bind_some h

theorem comparison_single (he : g.bitOr ts = some (e, rest))
    (h : compareOp? rest = some (Option.none, rest)) : g.comparison ts = some (e, rest) :=
  (bind_some he).trans (bind_some (p := comparePairs g.bitOr) (comparePairsAux_stop _ h))

theorem comparison_pair {o : CompareOp} {vs : List Token} (ha : g.bitOr ts = some (a, us))
    (ho : compareOp? us = some (some o, vs)) (hb : g.bitOr vs = some (b, rest))
    (hpos : 0 < us.length) (h : compareOp? rest = some (Option.none, rest)) :
    g.comparison ts = some (.compare a o b [], rest) := by
  obtain ⟨n, hn⟩ : ∃ n, us.length = n + 1 := ⟨us.length - 1, by omega⟩
  have hpairs : comparePairs g.bitOr us = some ([(o, b)], rest) := by
    rw [comparePairs, hn]
    exact (bind_some ho).trans ((bind_some hb).trans (bind_some (comparePairsAux_stop n h)))
  exact (bind_some ha).trans (bind_some hpairs)

theorem inversion_single (he : g.comparison ts = some (e, rest))
    (h : atKeyword "not" ts = some (false, ts)) : g.inversion ts = some (e, rest) :=
  (bind_some (repeated_stop h)).trans (bind_some he)

theorem foldl_not (nots : List Unit) (e : Expr) :
    nots.foldl (fun e _ => Expr.unary .not e) (.unary .not e) =
      .unary .not (nots.foldl (fun e _ => Expr.unary .not e) e) := by
  induction nots generalizing e with
  | nil => rfl
  | cons _ nots ih => exact ih _

/-- A negation in front of what is read as a negation or a comparison. -/
theorem inversion_not (he : g.inversion ts = some (e, rest)) :
    g.inversion (.keyword "not" :: ts) = some (.unary .not e, rest) := by
  obtain ⟨nots, us, hnots, hrest⟩ : ∃ nots us,
      repeated (atKeyword "not") (keyword "not") ts = some (nots, us) ∧
        (g.comparison >>= fun e => pure (nots.foldl (fun e _ => .unary .not e) e) : Parser Expr) us =
          some (e, rest) := by
    cases h : repeated (atKeyword "not") (keyword "not") ts with
    | none =>
      change (repeated (atKeyword "not") (keyword "not") ts).bind _ = _ at he
      rw [h] at he
      cases he
    | some r => exact ⟨r.1, r.2, rfl, (bind_some h).symm.trans he⟩
  have hat : atKeyword "not" (.keyword "not" :: ts) = some (true, .keyword "not" :: ts) := rfl
  have hagain : repeated (atKeyword "not") (keyword "not") (.keyword "not" :: ts) =
      some (() :: nots, us) := repeatedAux_go hat rfl hnots
  refine (bind_some hagain).trans ?_
  cases hc : g.comparison us with
  | none =>
    change (g.comparison us).bind _ = _ at hrest
    rw [hc] at hrest
    cases hrest
  | some r =>
    rw [bind_some hc] at hrest ⊢
    cases hrest
    exact congrArg (fun e => some (e, r.2)) (foldl_not nots r.1)

theorem conjunction_single (he : g.inversion ts = some (e, rest))
    (h : skipKeyword "and" rest = some (false, rest)) : g.conjunction ts = some (e, rest) :=
  (bind_some he).trans (bind_some (repeated_stop h))

theorem conjunction_pair (ha : g.inversion ts = some (a, .keyword "and" :: us))
    (hb : g.inversion us = some (b, rest)) (h : skipKeyword "and" rest = some (false, rest)) :
    g.conjunction ts = some (.bool .and [a, b], rest) := by
  have hmore : repeated (skipKeyword "and") g.inversion (.keyword "and" :: us) =
      some ([b], rest) :=
    repeatedAux_go (skipKeyword_self "and" us) hb (repeatedAux_stop us.length h)
  exact (bind_some ha).trans (bind_some hmore)

theorem disjunction_single (he : g.conjunction ts = some (e, rest))
    (h : skipKeyword "or" rest = some (false, rest)) : g.disjunction ts = some (e, rest) :=
  (bind_some he).trans (bind_some (repeated_stop h))

theorem disjunction_pair (ha : g.conjunction ts = some (a, .keyword "or" :: us))
    (hb : g.conjunction us = some (b, rest)) (h : skipKeyword "or" rest = some (false, rest)) :
    g.disjunction ts = some (.bool .or [a, b], rest) := by
  have hmore : repeated (skipKeyword "or") g.conjunction (.keyword "or" :: us) =
      some ([b], rest) :=
    repeatedAux_go (skipKeyword_self "or" us) hb (repeatedAux_stop us.length h)
  exact (bind_some ha).trans (bind_some hmore)

theorem expressionStep_single (hts : atKeyword "lambda" ts = some (false, ts))
    (he : g.disjunction ts = some (e, rest)) (h : skipKeyword "if" rest = some (false, rest)) :
    g.expressionStep ts = some (e, rest) :=
  (bind_some hts).trans ((bind_some he).trans (bind_some h))

theorem starExpressions_single (hts : skipOp "*" ts = some (false, ts))
    (he : g.expression ts = some (e, rest)) (h : Heads p rest) (hp : p (.op ",") = false) :
    g.starExpressions ts = some (e, rest) := by
  have hstar : g.starOr g.expression ts = some (e, rest) := (bind_some hts).trans he
  exact (bind_some hstar).trans (bind_some (commaTail_of_heads h hp))

/-! ### Operands -/

/-- The tokens that an expression can start with here. -/
def begins : Token → Bool
  | .name _ | .number _ | .quoted _ => true
  | .op s => s == "-" || s == "("
  | .keyword w => ["not", "True", "False", "None"].contains w
  | _ => false

/-- The tokens start like an assignment inside an expression or a keyword argument. -/
def isNamed : List Token → Bool
  | .name _ :: .op s :: _ => s == ":=" || s == "="
  | _ => false

/-- Nothing is called, selected or raised to a power. -/
def PlainEnd (p : Token → Bool) : Prop := ∀ s ∈ [".", "(", "[", "**"], p (.op s) = false

theorem named_of_isNamed (h : isNamed ts = false) : g.named ts = g.expression ts := by
  unfold named
  split
  · cases h
  · rfl

theorem trailersAux_stop (n : Nat) (e : Expr) (h : Heads p rest) (hp : PlainEnd p) :
    trailersAux g (n + 1) e rest = some (e, rest) := by
  refine (bind_some (skipOp_of_heads h (hp "." (by simp)))).trans ?_
  refine (bind_some (skipOp_of_heads h (hp "(" (by simp)))).trans ?_
  exact bind_some (skipOp_of_heads h (hp "[" (by simp)))

theorem primaryStep_atom (ha : g.atom ts = some (e, rest)) (h : Heads p rest) (hp : PlainEnd p) :
    g.primaryStep ts = some (e, rest) :=
  (bind_some ha).trans (trailersAux_stop _ e h hp)

theorem parenthesized_single (hts : Heads begins ts) (hnamed : isNamed ts = false)
    (he : g.expression ts = some (e, .op ")" :: rest) ) (hstar : ∀ x, e ≠ .starred x) :
    g.parenthesized ts = some (e, rest) := by
  have hitem : g.starOr g.named ts = some (e, .op ")" :: rest) := by
    refine (bind_some (skipOp_of_heads hts rfl)).trans ?_
    change g.named ts = _
    rw [named_of_isNamed hnamed, he]
  refine (bind_some (skipOp_of_heads hts rfl)).trans ?_
  refine (bind_some (atKeyword_of_heads hts rfl)).trans ?_
  refine (bind_some hitem).trans ?_
  cases e with
  | starred x => exact absurd rfl (hstar x)
  | _ => rfl

/-- A call with one argument. -/
theorem primaryStep_call {f : String} (hts : Heads begins ts) (hnamed : isNamed ts = false)
    (he : g.expression ts = some (e, .op ")" :: rest) ) (h : Heads p rest) (hp : PlainEnd p) :
    g.primaryStep (.name f :: .op "(" :: ts) = some (.call (.name f) [e] [], rest) := by
  have hargs : g.callArguments ts = some ({ positional := [e] }, rest) := by
    refine (bind_some (a := ts) rfl).trans ?_
    rw [if_pos]
    · refine (bind_some (named_of_isNamed hnamed ▸ he)).trans ?_
      rfl
    · split
      · next s more =>
        obtain ⟨t, more', heq, ht⟩ := hts
        obtain ⟨rfl, rfl⟩ := cons.inj heq
        rw [begins, Bool.or_eq_true, beq_iff_eq, beq_iff_eq] at ht
        rcases ht with rfl | rfl <;> decide
      · cases hnamed
      · rfl
  have hatom : g.atom (.name f :: .op "(" :: ts) = some (.name f, .op "(" :: ts) := rfl
  refine (bind_some hatom).trans ?_
  have hdot : skipOp "." (.op "(" :: ts) = some (false, .op "(" :: ts) := rfl
  refine (bind_some hdot).trans ?_
  refine (bind_some (skipOp_self "(" ts)).trans ?_
  refine (bind_some hargs).trans ?_
  exact trailersAux_stop _ _ h hp

theorem factorStep_primary {q : Token → Bool} (hts : Heads q ts)
    (hq : ∀ s ∈ ["-", "+", "~"], q (.op s) = false) (hawait : q (.keyword "await") = false)
    (he : g.primaryStep ts = some (e, rest)) (h : Heads p rest) (hp : PlainEnd p) :
    g.factorStep ts = some (e, rest) := by
  refine (bind_some (skipOp_of_heads hts (hq "-" (by simp)))).trans ?_
  refine (bind_some (skipOp_of_heads hts (hq "+" (by simp)))).trans ?_
  refine (bind_some (skipOp_of_heads hts (hq "~" (by simp)))).trans ?_
  have hplain : (do
      if ← skipKeyword "await" then
        let e ← g.primaryStep
        pure (.other [e])
      else g.primaryStep : Parser Expr) ts = some (e, rest) :=
    (bind_some (skipKeyword_of_heads hts hawait)).trans he
  exact (bind_some hplain).trans (bind_some (skipOp_of_heads h (hp "**" (by simp))))

theorem factorStep_negate (he : g.factor ts = some (e, rest)) :
    g.factorStep (.op "-" :: ts) = some (.unary .negate e, rest) :=
  (bind_some (skipOp_self "-" ts)).trans (bind_some he)

/-! ### Statements -/

variable {s : Stmt} {x : String} {ss : List Stmt}

theorem simpleStmts_single (hs : g.simpleStmt ts = some (s, .newline :: rest)) :
    g.simpleStmts ts = some ([s], rest) :=
  (bind_some hs).trans rfl

theorem assignment_assign
    (hx : g.starExpressions (.name x :: .op "=" :: ts) = some (.name x, .op "=" :: ts))
    (hts : Heads begins ts) (he : g.starExpressions ts = some (e, .newline :: rest)) :
    g.assignmentOrExpr (.name x :: .op "=" :: ts) =
      some (.assign [.name x] e, .newline :: rest) := by
  have htail : g.assignTail ts = some (([], e), .newline :: rest) := by
    refine (bind_some (atKeyword_of_heads hts rfl)).trans ?_
    exact (bind_some he).trans rfl
  refine (bind_some hx).trans ?_
  refine (bind_some (a := some (.op "=")) rfl).trans ?_
  exact (bind_some (op_self "=" ts)).trans (bind_some htail)

theorem assignment_change
    (hx : g.starExpressions (.name x :: .op "+=" :: ts) = some (.name x, .op "+=" :: ts))
    (hts : Heads begins ts) (he : g.starExpressions ts = some (e, .newline :: rest)) :
    g.assignmentOrExpr (.name x :: .op "+=" :: ts) =
      some (.augAssign (.name x) .add e, .newline :: rest) := by
  have hright : g.rightSide ts = some (e, .newline :: rest) :=
    (bind_some (atKeyword_of_heads hts rfl)).trans he
  refine (bind_some hx).trans ?_
  refine (bind_some (a := some (.op "+=")) rfl).trans ?_
  exact (bind_some (op_self "+=" ts)).trans (bind_some hright)

theorem assignment_expr (he : g.starExpressions ts = some (e, .newline :: rest)) :
    g.assignmentOrExpr ts = some (.expr e, .newline :: rest) :=
  (bind_some he).trans rfl

/-- What is no statement of its own kind is a simple one, also if it starts with `match`. -/
theorem statement_name (hs : g.assignmentOrExpr (.name x :: ts) = some (s, .newline :: rest))
    (hmatch : x = "match" → g.matchStmt (.name x :: ts) = Option.none) :
    g.statement (.name x :: ts) = some ([s], rest) := by
  have hsimple : g.simpleStmts (.name x :: ts) = some ([s], rest) := simpleStmts_single hs
  refine (bind_some (a := some (.name x)) rfl).trans ?_
  by_cases hx : x = "match"
  · subst hx
    have hrefused : (g.matchStmt >>= fun s => pure [s] : Parser (List Stmt))
        (.name "match" :: ts) = Option.none := by
      change (g.matchStmt (.name "match" :: ts)).bind _ = _
      rw [hmatch rfl]
      rfl
    change either (g.matchStmt >>= fun s => pure [s]) g.simpleStmts _ = _
    rw [either, hrefused]
    exact hsimple
  · simpa [hx] using hsimple

theorem body_block (h : g.block ts = some (ss, rest)) : g.body (.op ":" :: ts) = some (ss, rest) :=
  (bind_some (op_self ":" ts)).trans h

theorem blockStep_lines (h : g.statements ts = some (ss, .dedent :: rest)) :
    g.blockStep (.newline :: .indent :: ts) = some (ss, rest) := by
  refine (bind_some (a := some .newline) rfl).trans ?_
  refine (bind_some (a := ()) rfl).trans ?_
  refine (bind_some (a := ()) rfl).trans ?_
  exact (bind_some h).trans rfl

/-- The tokens start with statements, of which each takes a token or more and is read in a round of
its own, and then the rest follows. -/
def Reads (g : Grammar) (ts : List Token) (ss : List Stmt) (rest : List Token) : Prop :=
  ss.length + rest.length ≤ ts.length ∧
    ∀ k, repeatedAux atStatement g.statement (k + ss.length) ts =
      (repeatedAux atStatement g.statement k rest).map fun (more, us) => (ss.map ([·]) ++ more, us)

theorem reads_nil (ts : List Token) : Reads g ts [] ts := by
  refine ⟨by simp, fun k => ?_⟩
  change repeatedAux atStatement g.statement k ts = _
  rcases repeatedAux atStatement g.statement k ts with _ | ⟨more, us⟩ <;> rfl

/-- What a statement can start with. -/
def beginsStatement : Token → Bool
  | .dedent => false
  | _ => true

theorem reads_statement (h : Heads beginsStatement ts)
    (hs : g.statement (ts ++ rest) = some ([s], rest)) : Reads g (ts ++ rest) [s] rest := by
  obtain ⟨t, more, rfl, ht⟩ := h
  have hat : atStatement (t :: more ++ rest) = some (true, t :: more ++ rest) := by
    cases t <;> first | rfl | cases ht
  have hlen : 1 + rest.length ≤ (t :: more ++ rest).length := by
    rw [length_append, length_cons]
    omega
  refine ⟨hlen, fun k => ?_⟩
  refine (bind_some hat).trans ((bind_some hs).trans ?_)
  change (repeatedAux atStatement g.statement k rest).bind _ = _
  rcases repeatedAux atStatement g.statement k rest with _ | ⟨more, us⟩ <;> rfl

theorem Reads.append {ss ss' : List Stmt} (h : Reads g ts ss us) (h' : Reads g us ss' rest) :
    Reads g ts (ss ++ ss') rest := by
  have hlen := h.1
  have hlen' := h'.1
  refine ⟨by rw [length_append]; omega, fun k => ?_⟩
  rw [length_append, Nat.add_comm ss.length, ← Nat.add_assoc, h.2, h'.2, Option.map_map]
  congr 1
  funext ⟨more, us⟩
  simp

/-- Statements that are read one after the other. -/
theorem reads_flatMap {α : Type} {tokens : α → List Token} {stmt : α → Stmt} {as : List α}
    (h : ∀ a ∈ as, Heads beginsStatement (tokens a) ∧
      ∀ us, g.statement (tokens a ++ us) = some ([stmt a], us)) (rest : List Token) :
    Reads g (as.flatMap tokens ++ rest) (as.map stmt) rest := by
  induction as with
  | nil => exact reads_nil rest
  | cons a as ih =>
    obtain ⟨hlead, hstatement⟩ := h a (.head _)
    rw [flatMap_cons, append_assoc, map_cons]
    exact (reads_statement hlead (hstatement _)).append
      (ih fun a ha => h a (.tail _ ha))

/-- Statements up to the end of their block. -/
theorem Reads.statements (h : Reads g ts ss rest) (hat : atStatement rest = some (false, rest)) :
    g.statements ts = some (ss, rest) := by
  have hlen := h.1
  have hmap : (ss.map ([·])).flatten = ss := by rw [← flatMap_def, flatMap_singleton']
  have hall : repeated atStatement g.statement ts = some (ss.map ([·]), rest) := by
    rw [repeated, show ts.length + 1 = ts.length - ss.length + 1 + ss.length by omega, h.2,
      repeatedAux_stop _ hat, Option.map_some]
    simp
  refine (bind_some hall).trans ?_
  rw [hmap]
  rfl

end Grammar

end Program

end BlockScript
