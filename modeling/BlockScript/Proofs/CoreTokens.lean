import BlockScript.Proofs.ProjectListing

/-!
# The tokens of listings

What a listing of core classes is read as, token by token: `Page.scan?_listing`. The tokens of
plain data (`Term.tokens`, `Cond.tokens`, `Item.tokens`) say nothing about columns. An indentation
is a pair of tokens around a body.

A program cannot be nested without end: there are at most so many brackets in brackets, and so many
indentations. A listing has a bracket for each operation and one for each `and` and `or`, and each
body is on lines of its own, so its nesting may go beyond what is allowed, even if the program that
was listed does not. `Item.fits` says when this does not happen, and a listing is read exactly then.
-/

namespace BlockScript

open Program Program.Token Core.Item List

namespace Core

open Listing

/-! ### Tokens of plain data -/

def Term.tokens : Term → List Token
  | text _ => []
  | number i => ofInt i
  | named x => [.name x]
  | operation o left right =>
    .op "(" :: (left.tokens ++ .op o.symbol :: right.tokens ++ [.op ")"])

def Cond.tokens : Cond → List Token
  | compare r left right => left.tokens ++ .op r.symbol :: right.tokens
  | both o left right =>
    .op "(" :: (left.tokens ++ .keyword (joiner o) :: right.tokens ++ [.op ")"])
  | not c => .keyword "not" :: c.tokens

/-- The tokens of a body: a colon, and lines that are indented. -/
def bodyTokens (ts : List Token) : List Token :=
  .op ":" :: .newline :: .indent :: (ts ++ [.dedent])

mutual

def Item.tokens : Item → List Token
  | call opcode _ args =>
    .name (functionName opcode) :: .op "(" :: (args.flatMap Term.tokens ++ [.op ")", .newline])
  | assign x t => .name x :: .op "=" :: (t.tokens ++ [.newline])
  | change x t => .name x :: .op "+=" :: (t.tokens ++ [.newline])
  | choice c body orelse =>
    .keyword "if" :: (c.tokens ++ bodyTokens (Item.allTokens body) ++
      (if orelse.isEmpty then [] else .keyword "else" :: bodyTokens (Item.allTokens orelse)))
  | loop times body =>
    .keyword "for" :: .name "i" :: .keyword "in" :: .name "range" :: .op "(" ::
      (times.tokens ++ .op ")" :: bodyTokens (Item.allTokens body))
  | skip => [.keyword "pass", .newline]

def Item.allTokens : Script → List Token
  | [] => []
  | i :: rest => i.tokens ++ Item.allTokens rest

end

/-! ### Nesting -/

/-- How many brackets are open at a time in the text of a term. -/
def Term.brackets : Term → Nat
  | operation _ left right => max left.brackets right.brackets + 1
  | _ => 0

/-- How many brackets are open at a time in the text of a condition. -/
def Cond.brackets : Cond → Nat
  | compare _ left right => max left.brackets right.brackets
  | both _ left right => max left.brackets right.brackets + 1
  | not c => c.brackets

mutual

/-- Listed at a level of indentation, the item is not nested too deeply. -/
def Item.fits (j : Nat) : Item → Bool
  | call _ _ args => args.all fun t => t.brackets + 1 ≤ Quoted.maxNesting
  | assign _ t => t.brackets ≤ Quoted.maxNesting
  | change _ t => t.brackets ≤ Quoted.maxNesting
  | choice c body orelse =>
    c.brackets ≤ Quoted.maxNesting && j + 1 ≤ maxIndents && Item.allFit (j + 1) body &&
      Item.allFit (j + 1) orelse
  | loop times body =>
    times.brackets + 1 ≤ Quoted.maxNesting && j + 1 ≤ maxIndents && Item.allFit (j + 1) body
  | skip => true

def Item.allFit (j : Nat) : Script → Bool
  | [] => true
  | i :: rest => i.fits j && Item.allFit j rest

end

/-! ### Reading terms and conditions -/

theorem reads_name {x : String} (h : isPlainName x) : Reads x.toList [.name x] 0 := by
  rw [isPlainName, Bool.and_eq_true, Bool.not_eq_true'] at h
  have hread := reads_word h.1
  rwa [ofWord, h.2, if_neg Bool.false_ne_true] at hread

theorem Arith.symbol_mem (op : Arith) : op.symbol ∈ plainSymbols := by cases op <;> decide

theorem Relation.symbol_mem {r : Relation} (h : r.negated = false) : r.symbol ∈ plainSymbols := by
  cases r <;> first | decide | cases h

theorem reads_joiner (op : BoolOp) : Reads (joiner op).toList [.keyword (joiner op)] 0 := by
  cases op
  · exact reads_word (s := "and") (by decide)
  · exact reads_word (s := "or") (by decide)

/-- **A term is read back as its tokens.** -/
theorem Term.reads_shown : ∀ {t : Term}, t.isPlain → Reads t.shown.toList t.tokens t.brackets
  | number i, h => reads_int (of_decide_eq_true h)
  | named x, h => reads_name h
  | operation o left right, h => by
    rw [isPlain, Bool.and_eq_true] at h
    have hread := (Reads.between (reads_shown h.1) (reads_symbol o.symbol_mem)
      (reads_shown h.2)).bracketed
    simpa [shown, tokens, brackets] using hread

/-- **A condition is read back as its tokens.** -/
theorem Cond.reads_shown : ∀ {c : Cond}, c.isPlain → Reads c.shown.toList c.tokens c.brackets
  | compare r left right, h => by
    simp only [isPlain, Bool.and_eq_true, Bool.not_eq_true'] at h
    have hread := Reads.between (Term.reads_shown h.1.2) (reads_symbol (Relation.symbol_mem h.1.1))
      (Term.reads_shown h.2)
    simpa [shown, tokens, brackets] using hread
  | both o left right, h => by
    rw [isPlain, Bool.and_eq_true] at h
    have hread := (Reads.between (reads_shown h.1) (reads_joiner o)
      (reads_shown h.2)).bracketed
    simpa [shown, tokens, brackets] using hread
  | not c, h => by
    have hnot : Reads "not".toList [.keyword "not"] 0 := reads_word (by decide)
    have hread := hnot.spaced (reads_shown (c := c) h)
    simpa [shown, tokens, brackets] using hread

/-! ### Reading lines -/

theorem unlines_cons (l : String) (ls : List String) :
    unlines (l :: ls) = l.toList ++ '\n' :: unlines ls := by
  simp [unlines]

theorem toList_margin_append (j : Nat) (s : String) :
    (Listing.margin j ++ s).toList = Token.margin j ++ s.toList := by
  rw [String.toList_append, Listing.margin, String.toList_ofList, Int.toNat_natCast, Token.margin]

/-- The first line of an item, without the blanks before it. -/
def Item.header : Item → String
  | call opcode _ args =>
    functionName opcode ++ "(" ++ String.intercalate ", " (args.map Term.shown) ++ ")"
  | assign x t => x ++ " " ++ "=" ++ " " ++ t.shown
  | change x t => x ++ " " ++ "+=" ++ " " ++ t.shown
  | choice c _ _ => "if " ++ c.shown ++ ":"
  | loop times _ => "for i in range(" ++ times.shown ++ "):"
  | skip => "pass"

/-- The tokens of the first line of an item. -/
def Item.headerTokens : Item → List Token
  | call opcode _ args =>
    .name (functionName opcode) :: .op "(" :: (args.flatMap Term.tokens ++ [.op ")"])
  | assign x t => .name x :: .op "=" :: t.tokens
  | change x t => .name x :: .op "+=" :: t.tokens
  | choice c _ _ => .keyword "if" :: (c.tokens ++ [.op ":"])
  | loop times _ =>
    .keyword "for" :: .name "i" :: .keyword "in" :: .name "range" :: .op "(" ::
      (times.tokens ++ [.op ")", .op ":"])
  | skip => [.keyword "pass"]

/-- How many brackets are open at a time in the first line of an item. -/
def Item.headerBrackets : Item → Nat
  | call _ _ args => (args.map fun t => t.brackets + 1).sum
  | assign _ t => t.brackets
  | change _ t => t.brackets
  | choice c _ _ => c.brackets
  | loop times _ => times.brackets + 1
  | skip => 0

theorem Verb.isPlainName_function {v : Verb} (h : v ∈ verbs) : isPlainName v.function := by
  simp only [verbs, mem_cons, not_mem_nil, or_false] at h
  rcases h with rfl | rfl <;> decide

/-- A call with one argument. -/
theorem reads_call {f : String} (hf : isPlainName f) {t : Term} (ht : t.isPlain) :
    Reads (f.toList ++ '(' :: (t.shown.toList ++ [')']))
      (.name f :: .op "(" :: (t.tokens ++ [.op ")"])) (t.brackets + 1) := by
  have hread := (reads_name hf).append (Term.reads_shown ht).bracketed (stops_cons (by decide) _)
  rwa [Nat.zero_max] at hread

theorem Item.reads_header : ∀ {i : Item}, i.isPlain →
    Reads i.header.toList i.headerTokens i.headerBrackets
  | call opcode inputs args, h => by
    obtain ⟨v, hv, t, -, -, rfl, hf, ht⟩ := exists_verb h
    have hread := reads_call (Verb.isPlainName_function hv) ht
    simpa [header, headerTokens, headerBrackets, hf] using hread
  | assign x t, h => by
    rw [isPlain, Bool.and_eq_true] at h
    have hread := Reads.between (reads_name h.1) (reads_symbol (s := "=") (by decide))
      (Term.reads_shown h.2)
    simpa [header, headerTokens, headerBrackets] using hread
  | change x t, h => by
    rw [isPlain, Bool.and_eq_true] at h
    have hread := Reads.between (reads_name h.1) (reads_symbol (s := "+=") (by decide))
      (Term.reads_shown h.2)
    simpa [header, headerTokens, headerBrackets] using hread
  | choice c body orelse, h => by
    simp only [isPlain, Bool.and_eq_true] at h
    have hif : Reads "if".toList [.keyword "if"] 0 := reads_word (by decide)
    have hcolon : Reads ":".toList [.op ":"] 0 := reads_symbol (by decide)
    have hread := hif.spaced ((Cond.reads_shown h.1.1).append hcolon (stops_cons (by decide) _))
    simpa [header, headerTokens, headerBrackets] using hread
  | loop times body, h => by
    rw [isPlain, Bool.and_eq_true] at h
    have hfor : Reads "for".toList [.keyword "for"] 0 := reads_word (by decide)
    have hi : Reads "i".toList [.name "i"] 0 := reads_word (by decide)
    have hin : Reads "in".toList [.keyword "in"] 0 := reads_word (by decide)
    have hcolon : Reads ":".toList [.op ":"] 0 := reads_symbol (by decide)
    have hrange := (reads_call (f := "range") (by decide) h.1).append hcolon (stops_cons (by decide) _)
    have hread := hfor.spaced (Reads.between hi hin hrange)
    simpa [header, headerTokens, headerBrackets] using hread
  | skip, _ => reads_word (s := "pass") (by decide)

mutual

/-- Every body has an item. -/
def Item.isFull : Item → Bool
  | choice _ body orelse => !body.isEmpty && Item.areFull body && Item.areFull orelse
  | loop _ body => !body.isEmpty && Item.areFull body
  | _ => true

def Item.areFull : Script → Bool
  | [] => true
  | i :: rest => i.isFull && Item.areFull rest

end

/-- A line on its own. -/
theorem readsLines_single (j : Nat) {d : Nat} {s : String} {ts : List Token}
    (h : Reads s.toList ts d) :
    ReadsLines j (unlines [Listing.margin j ++ s]) (ts ++ [.newline]) (d ≤ Quoted.maxNesting) := by
  rw [unlines_cons, toList_margin_append]
  exact readsLines_line j h

theorem unlines_ne_nil {ls : List String} (h : ls ≠ []) : unlines ls ≠ [] := by
  cases ls with
  | nil => exact absurd rfl h
  | cons l ls => simp [unlines_cons]

/-- A line with others under it. -/
theorem readsLines_body {j d : Nat} {s : String} (ts : List Token) {us : List Token}
    {body : List String} {q : Prop} [Decidable q] (h : Reads s.toList (ts ++ [.op ":"]) d)
    (hbody : ReadsLines (j + 1) (unlines body) us q) (hne : body ≠ []) :
    ReadsLines j (unlines ((Listing.margin j ++ s) :: body)) (ts ++ bodyTokens us)
      (d ≤ Quoted.maxNesting ∧ j + 1 ≤ maxIndents ∧ q) := by
  rw [unlines_cons, toList_margin_append]
  have hread := readsLines_under h hbody (unlines_ne_nil hne)
  simpa [bodyTokens] using hread

theorem reads_else : Reads "else:".toList ([.keyword "else"] ++ [.op ":"]) 0 := by
  have helse : Reads "else".toList [.keyword "else"] 0 := reads_word (by decide)
  have hcolon : Reads ":".toList [.op ":"] 0 := reads_symbol (by decide)
  exact helse.append hcolon (stops_cons (by decide) _)

/-- An item of one line. -/
theorem Item.readsLines_simple {j : Nat} {i : Item} (h : i.isPlain)
    (hlines : i.lines j = [Listing.margin j ++ i.header])
    (htokens : i.tokens = i.headerTokens ++ [.newline])
    (hfits : i.headerBrackets ≤ Quoted.maxNesting ↔ i.fits j) :
    ReadsLines j (unlines (i.lines j)) i.tokens (i.fits j) := by
  rw [hlines, htokens]
  exact (readsLines_single j (reads_header h)).congr hfits

mutual

/-- **An item is read back as its tokens**, unless it is nested too deeply. -/
theorem Item.readsLines_lines (j : Nat) :
    ∀ {i : Item}, i.isPlain → i.isFull →
      ReadsLines j (unlines (i.lines j)) i.tokens (i.fits j)
  | call opcode inputs args, h, _ => by
    obtain ⟨v, -, t, -, -, rfl, -⟩ := exists_verb h
    refine readsLines_simple h ?_ ?_ ?_ <;>
      simp [lines, header, tokens, headerTokens, headerBrackets, fits]
  | assign x t, h, _ => by
    refine readsLines_simple h ?_ ?_ ?_ <;>
      simp [lines, header, tokens, headerTokens, headerBrackets, fits,
        String.append_assoc]
  | change x t, h, _ => by
    refine readsLines_simple h ?_ ?_ ?_ <;>
      simp [lines, header, tokens, headerTokens, headerBrackets, fits,
        String.append_assoc]
  | skip, h, _ => readsLines_simple h rfl rfl ⟨fun _ => rfl, fun _ => Nat.zero_le _⟩
  | loop times body, h, hfull => by
    have hread := reads_header h
    rw [isPlain, Bool.and_eq_true] at h
    rw [isFull, Bool.and_eq_true] at hfull
    have hne : body ≠ [] := by simpa using hfull.1
    have hlines := readsLines_body (.keyword "for" :: .name "i" :: .keyword "in" ::
      .name "range" :: .op "(" :: (times.tokens ++ [.op ")"]))
      (by simpa [headerTokens] using hread) (readsLines_allLines (j + 1) h.2 hfull.2)
      (allLines_ne_nil (j + 1) hne)
    have htokens : (loop times body).tokens = .keyword "for" :: .name "i" :: .keyword "in" ::
        .name "range" :: .op "(" :: (times.tokens ++ [.op ")"]) ++
          bodyTokens (allTokens body) := by
      simp [tokens]
    rw [htokens]
    refine hlines.congr ?_
    simp [headerBrackets, fits, and_assoc]
  | choice c body orelse, h, hfull => by
    have hread := reads_header h
    simp only [isPlain, Bool.and_eq_true] at h
    simp only [isFull, Bool.and_eq_true] at hfull
    have hne : body ≠ [] := by simpa using hfull.1.1
    have hif := readsLines_body (.keyword "if" :: c.tokens)
      (by simpa [headerTokens] using hread)
      (readsLines_allLines (j + 1) h.1.2 hfull.1.2) (allLines_ne_nil (j + 1) hne)
    cases orelse with
    | nil =>
      have htokens : (choice c body []).tokens =
          .keyword "if" :: c.tokens ++ bodyTokens (allTokens body) := by
        simp [tokens]
      have hlines : (choice c body []).lines j =
          (Listing.margin j ++ (choice c body []).header) :: allLines (j + 1) body := by
        simp [lines, header]
      rw [htokens, hlines]
      refine hif.congr ?_
      simp [headerBrackets, fits, allFit, and_assoc]
    | cons i is =>
      -- The alternative is a header of its own, at the level of the first one.
      have helse := readsLines_body [.keyword "else"] reads_else
        (readsLines_allLines (j + 1) h.2 hfull.2)
        (allLines_ne_nil (j + 1) (cons_ne_nil i is))
      have hboth := hif.append helse
      have htokens : (choice c body (i :: is)).tokens =
          .keyword "if" :: c.tokens ++ bodyTokens (allTokens body) ++
            ([.keyword "else"] ++ bodyTokens (allTokens (i :: is))) := by
        simp [tokens]
      have hlines : (choice c body (i :: is)).lines j =
          (Listing.margin j ++ (choice c body (i :: is)).header) :: allLines (j + 1) body ++
            (Listing.margin j ++ "else:") :: allLines (j + 1) (i :: is) := by
        simp [lines, header]
      rw [htokens, hlines, unlines_append]
      refine hboth.congr ?_
      simp only [headerBrackets, fits, Bool.and_eq_true, decide_eq_true_eq]
      constructor
      · rintro ⟨⟨hc, hmax, hbody⟩, -, -, horelse⟩
        exact ⟨⟨⟨hc, hmax⟩, hbody⟩, horelse⟩
      · rintro ⟨⟨⟨hc, hmax⟩, hbody⟩, horelse⟩
        exact ⟨⟨hc, hmax, hbody⟩, Nat.zero_le _, hmax, horelse⟩

theorem Item.readsLines_allLines (j : Nat) :
    ∀ {is : Script}, arePlain is → areFull is →
      ReadsLines j (unlines (allLines j is)) (allTokens is) (allFit j is)
  | [], _, _ => readsLines_nil j
  | i :: is, h, hfull => by
    rw [arePlain, Bool.and_eq_true] at h
    rw [areFull, Bool.and_eq_true] at hfull
    have hread := (readsLines_lines j h.1 hfull.1).append
      (readsLines_allLines j h.2 hfull.2)
    rw [allLines, unlines_append, allTokens]
    exact hread.congr (by rw [allFit, Bool.and_eq_true])

end

/-! ### The heading -/

/-- The text that every listing starts with, between its quotes. -/
def headingQuoted : Quoted :=
  ⟨false, false, false, "\nScratch project converted to Python\n".toList⟩

def headingTokens : List Token :=
  [.quoted headingQuoted, .newline, .keyword "from", .name "scratch", .op ".", .name "dsl",
    .keyword "import", .op "*", .newline]

theorem reads_quoted :
    Reads "\"\"\"\nScratch project converted to Python\n\"\"\"".toList [.quoted headingQuoted] 0 :=
  reads_token (by decide) (all_eq_true.1 (by decide)) (fun _ => rfl) fun _ _ => rfl

theorem reads_dotted :
    Reads "scratch.dsl".toList [.name "scratch", .op ".", .name "dsl"] 0 := by
  refine ⟨⟨_, _, rfl, by decide⟩, by decide, by decide, all_eq_true.1 (by decide), ?_⟩
  intro n stack opened rest hopened hrest
  have hscratch : token? (['s', 'c', 'r', 'a', 't', 'c', 'h'] ++ '.' :: ("dsl".toList ++ rest)) =
      some (.name "scratch", '.' :: ("dsl".toList ++ rest)) := rfl
  have hdot : token? ('.' :: ("dsl".toList ++ rest)) = some (.op ".", "dsl".toList ++ rest) := rfl
  have hdsl : Reads "dsl".toList [.name "dsl"] 0 := reads_word (by decide)
  have hread := hdsl.scan n stack opened rest hopened hrest
  have hstep := scanFrom?_token (n + 1 + 1) stack opened (by decide) hscratch
  have hstep' := scanFrom?_token (n + 1) stack opened (by decide) hdot
  change _ = Option.map _ (scanFrom? (n + 1 + 1) _ _ opened _) at hstep
  change _ = Option.map _ (scanFrom? (n + 1) _ _ opened _) at hstep'
  rw [hstep', show n + 1 = n + [name "dsl"].length from rfl, hread] at hstep
  refine hstep.trans ?_
  rw [if_pos (by omega), if_pos (by omega), Option.map_map, Option.map_map]
  rfl

theorem reads_import :
    Reads "from scratch.dsl import *".toList [.keyword "from", .name "scratch", .op ".",
      .name "dsl", .keyword "import", .op "*"] 0 := by
  have hfrom : Reads "from".toList [.keyword "from"] 0 := reads_word (by decide)
  have himport : Reads "import".toList [.keyword "import"] 0 := reads_word (by decide)
  have hstar : Reads "*".toList [.op "*"] 0 := reads_symbol (by decide)
  exact hfrom.spaced (reads_dotted.spaced (himport.spaced hstar))

theorem readsLines_heading :
    ReadsLines 0 (unlines heading.dropLast) headingTokens (true) := by
  have hboth := (readsLines_line 0 reads_quoted).append
    ((readsLines_line 0 reads_import).blank (cons_ne_nil _ _))
  exact hboth.congr ⟨fun _ => rfl, fun _ => ⟨Nat.zero_le _, Nat.zero_le _⟩⟩

/-! ### Classes -/

/-- The tokens of a method. -/
def Method.tokens (m : Method) : List Token :=
  .keyword "def" :: .name m.start.name :: .op "(" :: .name "self" :: .op ")" ::
    bodyTokens (Item.allTokens m.body)

/-- The item that is listed like the line of a variable. -/
def declare (v : Variable) : Item := .assign v.name (.number (initialInt v))

/-- The tokens of a listed class. -/
def Sheet.tokens (s : Sheet) : List Token :=
  .keyword "class" :: .name s.core.name :: bodyTokens (Item.allTokens (s.vars.map declare) ++
    (if s.core.methods.isEmpty then Item.tokens .skip else s.core.methods.flatMap Method.tokens))

/-- The methods of a listed class are not nested too deeply. -/
def Sheet.fits (s : Sheet) : Bool := s.core.methods.all fun m => Item.allFit 2 m.body

/-- A method that can be read back. -/
structure Method.Legible (m : Method) : Prop where
  arePlain : Item.arePlain m.body = true
  areFull : Item.areFull m.body = true
  ne_nil : m.body ≠ []

/-- A class that can be read back. -/
structure Sheet.Legible (s : Sheet) : Prop where
  name : isPlainName s.core.name = true
  methods : ∀ m ∈ s.core.methods, m.Legible
  vars : ∀ v ∈ s.vars, IsListed v

/-- The first line of a method, without the blanks before it. -/
def Method.header (m : Method) : String := "def " ++ m.start.name ++ "(self):"

theorem Method.lines_eq (m : Method) :
    m.lines = (Listing.margin (1 : Nat) ++ m.header) :: allLines 2 m.body := by
  rw [lines, header, show Listing.margin (1 : Nat) = "    " from rfl]
  simp only [← String.append_assoc]
  rfl

theorem Method.reads_header (m : Method) :
    Reads m.header.toList ([.keyword "def", .name m.start.name, .op "(", .name "self", .op ")"] ++
      [.op ":"]) 1 := by
  have hdef : Reads "def".toList [.keyword "def"] 0 := reads_word (by decide)
  have hname : Reads m.start.name.toList [.name m.start.name] 0 :=
    reads_name (by cases m.start <;> decide)
  have hself : Reads "self".toList [.name "self"] 0 := reads_name (by decide)
  have hcolon : Reads ":".toList [.op ":"] 0 := reads_symbol (by decide)
  have hrest := hname.append (hself.bracketed.append hcolon (stops_cons (by decide) _))
    (stops_cons (by decide) _)
  have hread := hdef.spaced hrest
  simpa [header] using hread

theorem Method.readsLines_lines {m : Method} (h : m.Legible) :
    ReadsLines 1 (unlines m.lines) m.tokens (allFit 2 m.body) := by
  rw [m.lines_eq]
  have hbody := readsLines_body (j := 1) _ m.reads_header
    (readsLines_allLines 2 h.arePlain h.areFull) (allLines_ne_nil 2 h.ne_nil)
  refine hbody.congr ?_
  simp [Quoted.maxNesting, maxIndents]

theorem Method.readsLines_flatMap {ms : List Method} (h : ∀ m ∈ ms, m.Legible) :
    ReadsLines 1 (unlines (ms.flatMap lines)) (ms.flatMap tokens)
      ((ms.all fun m => allFit 2 m.body)) := by
  induction ms with
  | nil => exact readsLines_nil 1
  | cons m ms ih =>
    have hboth := (readsLines_lines (h m (.head _))).append
      (ih fun m hm => h m (.tail _ hm))
    rw [flatMap_cons, flatMap_cons, unlines_append]
    exact hboth.congr (by rw [all_cons, Bool.and_eq_true])

theorem declaration_eq (v : Variable) :
    declaration v = Listing.margin (1 : Nat) ++ (declare v).header := by
  rw [declaration, declare, header, Term.shown, show Listing.margin (1 : Nat) = "    " from rfl]
  simp only [String.append_assoc]
  rfl

theorem map_declaration (vs : List Variable) :
    vs.map declaration = allLines 1 (vs.map declare) := by
  induction vs with
  | nil => rfl
  | cons v vs ih =>
    rw [map_cons, map_cons, allLines, ih, declaration_eq]
    simp [declare, lines, header, String.append_assoc]

variable {s : Sheet}

theorem Sheet.Legible.declared (h : s.Legible) :
    arePlain (s.vars.map declare) ∧ areFull (s.vars.map declare) ∧
      allFit 1 (s.vars.map declare) := by
  have hvars := h.vars
  generalize s.vars = vs at hvars
  induction vs with
  | nil => exact ⟨rfl, rfl, rfl⟩
  | cons v vs ih =>
    obtain ⟨hname, i, hi, hdigits⟩ := hvars v (.head _)
    obtain ⟨hplain, hfull, hfit⟩ := ih fun v hv => hvars v (.tail _ hv)
    have hterm : (Term.number (initialInt v)).isPlain := by
      rw [Term.isPlain, initialInt, hi]
      exact decide_eq_true hdigits
    rw [map_cons, arePlain, areFull, allFit, hplain, hfull, hfit, declare,
      isPlain, hname, hterm]
    exact ⟨rfl, rfl, rfl⟩

/-- The lines of a listed class under its first one. -/
def Sheet.memberLines (s : Sheet) : List String :=
  s.vars.map declaration ++ (if s.vars.isEmpty then [] else [""]) ++
    (if s.core.methods.isEmpty then ["    pass"] else s.core.methods.flatMap Method.lines)

/-- The methods of a listed class, or one line if there are none. -/
theorem Sheet.readsLines_methods (h : s.Legible) : ReadsLines 1
      (unlines (if s.core.methods.isEmpty then ["    pass"] else s.core.methods.flatMap Method.lines))
      (if s.core.methods.isEmpty then Item.tokens .skip else s.core.methods.flatMap Method.tokens)
      (s.fits) := by
  have hmethods := Method.readsLines_flatMap h.methods
  cases hms : s.core.methods with
  | nil =>
    have hpass : ReadsLines 1 (unlines ["    pass"]) (Item.tokens .skip) (true) :=
      Item.readsLines_lines (i := .skip) 1 rfl rfl
    rw [fits, hms]
    exact hpass
  | cons m ms =>
    rw [fits, hms]
    rw [hms] at hmethods
    exact hmethods

theorem Sheet.methodLines_ne_nil (s : Sheet) :
    (if s.core.methods.isEmpty then ["    pass"] else s.core.methods.flatMap Method.lines) ≠ [] := by
  cases s.core.methods with
  | nil => exact cons_ne_nil _ _
  | cons m ms => simp [m.lines_eq]

theorem Sheet.memberLines_ne_nil (s : Sheet) : s.memberLines ≠ [] :=
  append_ne_nil_of_right_ne_nil _ s.methodLines_ne_nil

theorem Sheet.readsLines_memberLines (h : s.Legible) :
    ReadsLines 1 (unlines s.memberLines) (allTokens (s.vars.map declare) ++
      (if s.core.methods.isEmpty then Item.tokens .skip else s.core.methods.flatMap Method.tokens))
      (s.fits) := by
  obtain ⟨hplain, hfull, hfit⟩ := h.declared
  have hvars := readsLines_allLines 1 hplain hfull
  have hmethods := readsLines_methods h
  rw [memberLines, unlines_append, unlines_append, map_declaration]
  cases hvs : s.vars with
  | nil => exact hmethods
  | cons v vs =>
    have hboth := hvars.append (hmethods.blank (unlines_ne_nil s.methodLines_ne_nil))
    rw [hvs] at hboth hfit
    rw [append_assoc]
    exact hboth.congr ⟨And.right, fun hfits => ⟨hfit, hfits⟩⟩

/-- The first line of a listed class. -/
def Sheet.header (s : Sheet) : String := "class " ++ s.core.name ++ ":"

theorem Sheet.lines_eq (s : Sheet) :
    s.lines = (Listing.margin (0 : Nat) ++ s.header) :: s.memberLines := by
  rw [lines, Class.lines, header, show Listing.margin (0 : Nat) = "" from rfl,
    String.empty_append, memberLines]

theorem Sheet.Legible.reads_header (h : s.Legible) :
    Reads s.header.toList ([.keyword "class", .name s.core.name] ++ [.op ":"]) 0 := by
  have hclass : Reads "class".toList [.keyword "class"] 0 := reads_word (by decide)
  have hcolon : Reads ":".toList [.op ":"] 0 := reads_symbol (by decide)
  have hrest := (reads_name h.name).append hcolon (stops_cons (by decide) _)
  have hread := hclass.spaced hrest
  simpa [header] using hread

theorem Sheet.readsLines_lines (h : s.Legible) :
    ReadsLines 0 (unlines s.lines) s.tokens (s.fits) := by
  rw [s.lines_eq]
  have hread := readsLines_body (j := 0) _ h.reads_header (readsLines_memberLines h)
    s.memberLines_ne_nil
  exact hread.congr ⟨fun hfits => hfits.2.2, fun hfits => ⟨Nat.zero_le _, by decide, hfits⟩⟩

/-! ### The whole listing -/

theorem getLast?_unlines {ls : List String} (h : ls ≠ []) :
    (unlines ls).getLast? = some '\n' := by
  rw [← toList_intercalate_newline h, getLast?_append]
  rfl

/-- What stands in a listing for a sprite: its lines, the tokens that they are read as, and whether
they keep within the limits of the language. -/
structure Page where
  lines : List String
  tokens : List Token
  fits : Bool

/-- The lines of the page are read as its tokens. -/
structure Page.Legible (p : Page) : Prop where
  ne_nil : p.lines ≠ []
  reads : ReadsLines 0 (unlines p.lines) p.tokens (p.fits = true)

namespace Page

variable {ps : List Page}

/-- The characters of a listing. -/
def listing (ps : List Page) : List Char :=
  unlines heading.dropLast ++ ps.flatMap fun p => '\n' :: unlines p.lines

theorem readsLines_flatMap (h : ∀ p ∈ ps, p.Legible) :
    ReadsLines 0 (ps.flatMap fun p => '\n' :: unlines p.lines) (ps.flatMap tokens)
      (ps.all fits) := by
  induction ps with
  | nil => exact readsLines_nil 0
  | cons p ps ih =>
    obtain ⟨hp, hps⟩ := forall_mem_cons.1 h
    have hboth := (hp.reads.blank (unlines_ne_nil hp.ne_nil)).append (ih hps)
    rw [flatMap_cons, flatMap_cons]
    exact hboth.congr (by rw [all_cons, Bool.and_eq_true])

theorem readsLines_listing (h : ∀ p ∈ ps, p.Legible) :
    ReadsLines 0 (listing ps) (headingTokens ++ ps.flatMap tokens) (ps.all fits) := by
  have hboth := readsLines_heading.append (readsLines_flatMap h)
  exact hboth.congr ⟨And.right, fun hfits => ⟨rfl, hfits⟩⟩

theorem getLast?_listing (h : ∀ p ∈ ps, p.Legible) : (listing ps).getLast? = some '\n' := by
  rcases eq_nil_or_concat ps with rfl | ⟨ps, p, rfl⟩
  · decide
  · rw [concat_eq_append] at h ⊢
    have hp := h p (mem_append_right _ (mem_singleton_self p))
    rw [listing, flatMap_append, ← append_assoc, getLast?_append,
      flatMap_singleton, getLast?_cons, getLast?_unlines hp.ne_nil]
    rfl

/-- **A listing is read as the tokens of its pages**, or refused if it is nested too deeply. -/
theorem scan?_listing (h : ∀ p ∈ ps, p.Legible) :
    scan? (listing ps) =
      if ps.all fits then some (headingTokens ++ ps.flatMap tokens) else none :=
  (readsLines_listing h).scan?_eq (getLast?_listing h)

end Page

/-- A class as a page. -/
def Sheet.page (s : Sheet) : Page := ⟨s.lines, s.tokens, s.fits⟩

theorem Sheet.Legible.page (h : s.Legible) : s.page.Legible where
  ne_nil := s.lines_ne_nil
  reads := readsLines_lines h

theorem Sheet.listing_eq (ss : List Sheet) : listing ss = Page.listing (ss.map page) := by
  rw [Page.listing, flatMap_map]
  rfl

theorem Sheet.legible_pages {ss : List Sheet} (h : ∀ s ∈ ss, s.Legible) :
    ∀ p ∈ ss.map page, p.Legible :=
  forall_mem_map.2 fun s hs => (h s hs).page

end Core

end BlockScript
