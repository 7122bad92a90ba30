import BlockScript.Program.Token
import BlockScript.Proofs.Decimal
import Mathlib.Tactic.IntervalCases

/-!
# Reading tokens off a printed text

A printed text is put together from pieces: words, numbers, operators, brackets around other pieces.
`Token.Reads` says that a piece is read as certain tokens wherever it stands: whatever was read
before it, whatever brackets are open, and whatever comes after it, as long as that cannot be taken
for a part of the piece. A piece also has a depth, the number of brackets that are open at a time
inside it, and the statement is an equation. So it tells as well that a piece is refused where its
brackets would be nested too deeply.

* `reads_word`, `reads_number`, `reads_symbol` are for single tokens;
* `Reads.append`, `Reads.spaced`, `Reads.bracketed` put pieces together;
* `readsLines_line`, `readsLines_under` and `ReadsLines.append` are for whole lines, with the
  indentation before them. The lines of a printed text are indented by four blanks for each level,
  so the open indentations are determined by their number (`levels`).
-/

namespace BlockScript

open Binary64 List Nat Numeral Program.Quoted Text

namespace Program

namespace Token

/-! ### Pieces of a line -/

/-- A character that no word, number or operator goes on with. -/
def isStop (c : Char) : Bool :=
  c == ' ' || c == '(' || c == ')' || c == ':' || c == ',' || c == '\n'

/-- The text starts with a character that ends what stood before it. -/
def Stops (cs : List Char) : Prop := ∃ c rest, cs = c :: rest ∧ isStop c = true

/-- A character that is not replaced or refused before a text is read. -/
def isSafe (c : Char) : Bool := c != '\r' && c != Char.ofNat 0

/-- A character with which a token starts. -/
def isStart (c : Char) : Bool := !isInlineBlank c && c != '\n' && c != '#' && c != '\\'

/-- The text starts with a token. -/
def Starts (cs : List Char) : Prop := ∃ c rest, cs = c :: rest ∧ isStart c = true

/-- The scanner reads the piece as the tokens, one in a step, wherever it stands. -/
def Scans (piece : List Char) (ts : List Token) (depth : Nat) : Prop :=
  ∀ n stack opened rest, opened.length ≤ Quoted.maxNesting → Stops rest →
    scanFrom? (n + ts.length) false stack opened (piece ++ rest) =
      if opened.length + depth ≤ Quoted.maxNesting then
        (scanFrom? n false stack opened rest).map (ts ++ ·)
      else none

/-- **The piece is read as the tokens**, wherever it stands, and has at most so many brackets open
at a time. A token has at least one character. -/
structure Reads (piece : List Char) (ts : List Token) (depth : Nat) : Prop where
  starts : Starts piece
  pos : 0 < ts.length
  length_le : ts.length ≤ piece.length
  safe : ∀ c ∈ piece, isSafe c = true
  scan : Scans piece ts depth

variable {c : Char} {cs ds text : List Char} {ts us : List Token} {d e j : Nat}

theorem stops_cons (h : isStop c) (rest : List Char) : Stops (c :: rest) :=
  ⟨c, rest, rfl, h⟩

theorem Stops.append (h : Stops cs) (rest : List Char) : Stops (cs ++ rest) := by
  obtain ⟨c, more, rfl, hc⟩ := h
  exact ⟨c, more ++ rest, rfl, hc⟩

theorem Starts.append (h : Starts cs) (rest : List Char) : Starts (cs ++ rest) := by
  obtain ⟨c, more, rfl, hc⟩ := h
  exact ⟨c, more ++ rest, rfl, hc⟩

theorem Scans.append (hc : Scans cs ts d) (hd : Scans ds us e) (hs : Stops ds) :
    Scans (cs ++ ds) (ts ++ us) (max d e) := by
  intro n stack opened rest hopened hrest
  have hfuel : n + (ts ++ us).length = n + us.length + ts.length := by
    rw [length_append]
    omega
  rw [append_assoc, hfuel, hc _ stack opened _ hopened (hs.append rest),
    hd n stack opened rest hopened hrest]
  by_cases hdepth : opened.length + max d e ≤ maxNesting
  · rw [if_pos hdepth, if_pos (by omega), if_pos (by omega), Option.map_map]
    congr 1
    funext more
    simp
  · rw [if_neg hdepth]
    by_cases hd' : opened.length + d ≤ maxNesting
    · rw [if_pos hd', if_neg (by omega), Option.map_none]
    · rw [if_neg hd']

theorem Reads.append (hc : Reads cs ts d) (hd : Reads ds us e) (hs : Stops ds) :
    Reads (cs ++ ds) (ts ++ us) (max d e) where
  starts := hc.starts.append ds
  pos := by rw [length_append]; exact Nat.add_pos_left hc.pos _
  length_le := by
    simp only [length_append]
    exact Nat.add_le_add hc.length_le hd.length_le
  safe := forall_mem_append.2 ⟨hc.safe, hd.safe⟩
  scan := hc.scan.append hd.scan hs

/-- Blanks between the tokens of a line do not count. -/
theorem scanFrom?_blank (n : Nat) (stack : List (Nat × Nat)) (opened : List String)
    (cs : List Char) :
    scanFrom? (n + 1) false stack opened (' ' :: cs) = scanFrom? (n + 1) false stack opened cs := by
  rw [scanFrom?, scanFrom?, dropWhile_cons_of_pos (by decide)]

/-- Two pieces with a blank between them. -/
theorem Reads.spaced (hc : Reads cs ts d) (hd : Reads ds us e) :
    Reads (cs ++ ' ' :: ds) (ts ++ us) (max d e) := by
  have hpos := hd.pos
  have hblank : Scans (' ' :: ds) us e := by
    intro n stack opened rest hopened hrest
    obtain ⟨k, hk⟩ : ∃ k, n + us.length = k + 1 := ⟨n + us.length - 1, by omega⟩
    rw [← hd.scan n stack opened rest hopened hrest, hk, cons_append, scanFrom?_blank]
  refine ⟨hc.starts.append _, ?_, ?_, ?_, hc.scan.append hblank (stops_cons (by decide) ds)⟩
  · rw [length_append]
    omega
  · have hlen := hc.length_le
    have hlen' := hd.length_le
    simp only [length_append, length_cons]
    omega
  · exact forall_mem_append.2 ⟨hc.safe, forall_mem_cons.2 ⟨by decide, hd.safe⟩⟩

variable {t : Token} {s : String} {n : Nat} {rest : List Char} {q : Prop}

/-- Two pieces with a symbol or a word between them. -/
theorem Reads.between {a b m : List Char} (ha : Reads a ts d) (hm : Reads m [t] 0)
    (hb : Reads b us e) : Reads (a ++ ' ' :: (m ++ ' ' :: b)) (ts ++ t :: us) (max d e) := by
  have hread := ha.spaced (hm.spaced hb)
  rwa [Nat.zero_max] at hread

/-- The open brackets after a token. -/
def openedAfter? (opened : List String) : Token → Option (List String)
  | .op symbol => brackets? symbol opened
  | _ => some opened

/-- A step of the scanner where a token starts. -/
theorem scanFrom?_start (n : Nat) (stack : List (Nat × Nat)) (opened : List String)
    (hstart : isStart c) (cs : List Char) : scanFrom? (n + 1) false stack opened (c :: cs) =
      (token? (c :: cs)).bind fun p => (openedAfter? opened p.1).bind fun opened =>
        (scanFrom? n false stack opened p.2).map (p.1 :: ·) := by
  simp only [isStart, Bool.and_eq_true, Bool.not_eq_true', bne_iff_ne] at hstart
  obtain ⟨⟨⟨hblank, hline⟩, hcomment⟩, hjoin⟩ := hstart
  rw [scanFrom?, dropWhile_cons_of_neg (by simp [hblank])]
  split
  · next heq => cases heq
  · next heq => exact absurd (cons.inj heq).1 hcomment
  · next heq => exact absurd (cons.inj heq).1 hline
  · next heq => exact absurd (cons.inj heq).1 hjoin
  · refine congrArg _ (funext fun p => ?_)
    obtain ⟨t, rest⟩ := p
    cases t <;> simp [openedAfter?, Option.map_eq_bind]

/-- A step of the scanner that reads one token. -/
theorem scanFrom?_token {cs rest : List Char} (n : Nat) (stack : List (Nat × Nat))
    (opened : List String) (hstart : isStart c) (h : token? (c :: cs) = some (t, rest)) :
    scanFrom? (n + 1) false stack opened (c :: cs) =
      (openedAfter? opened t).bind fun opened =>
        (scanFrom? n false stack opened rest).map (t :: ·) := by
  rw [scanFrom?_start n stack opened hstart, h]
  rfl

/-- A token that is no bracket is read on its own. -/
theorem reads_token {piece : List Char} (hstart : isStart c) (hsafe : ∀ a ∈ c :: piece, isSafe a)
    (hopen : ∀ opened, openedAfter? opened t = some opened)
    (h : ∀ rest, Stops rest → token? (c :: piece ++ rest) = some (t, rest)) :
    Reads (c :: piece) [t] 0 := by
  refine ⟨⟨c, piece, rfl, hstart⟩, Nat.one_pos, by simp, hsafe, ?_⟩
  intro n stack opened rest hopened hrest
  have hread := h rest hrest
  rw [cons_append] at hread ⊢
  rw [length_singleton, scanFrom?_token n stack opened hstart hread, hopen, if_pos (by omega)]
  rfl

theorem token?_open (rest : List Char) : token? ('(' :: rest) = some (.op "(", rest) := rfl

theorem token?_close (rest : List Char) : token? (')' :: rest) = some (.op ")", rest) := rfl

/-- Brackets around a piece are one more level of nesting. -/
theorem Reads.bracketed (h : Reads cs ts d) :
    Reads ('(' :: (cs ++ [')'])) (.op "(" :: (ts ++ [.op ")"])) (d + 1) := by
  obtain ⟨-, hpos, hlen, hsafe, h⟩ := h
  have hbrackets : ∀ c ∈ '(' :: (cs ++ [')']), isSafe c := by
    simp only [forall_mem_cons, forall_mem_append]
    exact ⟨by decide, hsafe, by decide, forall_mem_nil _⟩
  refine ⟨⟨_, _, rfl, by decide⟩, by simp, by simpa using hlen, hbrackets, ?_⟩
  intro n stack opened rest hopened hrest
  have hfuel : n + (op "(" :: (ts ++ [.op ")"])).length = n + 1 + ts.length + 1 := by
    simp only [length_cons, length_append, length_nil]
    omega
  rw [cons_append, hfuel, scanFrom?_token _ stack opened (by decide) (token?_open _),
    append_assoc, singleton_append]
  change (brackets? "(" opened).bind _ = _
  by_cases hdeep : opened.length ≥ maxNesting
  · rw [brackets?, if_pos hdeep, if_neg (by omega)]
    rfl
  · rw [brackets?, if_neg hdeep, Option.bind_some,
      h (n + 1) stack ("(" :: opened) (')' :: rest) (by rw [length_cons]; omega)
        (stops_cons (by decide) rest)]
    have hclose := scanFrom?_token n stack ("(" :: opened) (by decide) (token?_close rest)
    change _ = (some opened).bind _ at hclose
    rw [hclose, length_cons, Option.bind_some]
    by_cases hdepth : opened.length + (d + 1) ≤ maxNesting
    · rw [if_pos (by omega), if_pos hdepth, Option.map_map, Option.map_map]
      congr 1
      funext more
      simp
    · rw [if_neg (by omega), if_neg hdepth]
      rfl

/-! ### Words -/

/-- A letter, a digit or an underscore of ASCII. -/
def isWordAscii (c : Char) : Bool := Text.isAsciiLetter c || Text.isAsciiDigit c || c == '_'

/-- A word in ASCII: it does not start with a digit. -/
def isWord : List Char → Bool
  | [] => false
  | c :: cs => !Text.isAsciiDigit c && (c :: cs).all isWordAscii

/-- The token of a word in ASCII. -/
def ofWord (s : String) : Token := if keywords.contains s then .keyword s else .name s

theorem isAscii_of_isWordAscii (h : isWordAscii c) : isAscii c := by
  simp only [isWordAscii, isAsciiLetter, isAsciiLower, isAsciiUpper,
    isAsciiDigit, Bool.or_eq_true, Bool.and_eq_true, decide_eq_true_eq, beq_iff_eq] at h
  simp only [isAscii, decide_eq_true_eq]
  rcases h with ((⟨-, h⟩ | ⟨-, h⟩) | ⟨-, h⟩) | rfl
  · exact Nat.lt_of_le_of_lt (show c.toNat ≤ 122 from h) (by decide)
  · exact Nat.lt_of_le_of_lt (show c.toNat ≤ 90 from h) (by decide)
  · exact Nat.lt_of_le_of_lt (show c.toNat ≤ 57 from h) (by decide)
  · decide

theorem isWordChar_of_isWordAscii (h : isWordAscii c) : isWordChar c := by
  simp only [isWordAscii, Bool.or_eq_true] at h
  simp only [isWordChar, Bool.or_eq_true]
  tauto

theorem isStart_of_isWordAscii (h : isWordAscii c) : isStart c := by
  by_contra hstart
  simp only [isStart, isInlineBlank, Bool.and_eq_true, Bool.not_eq_true', bne_iff_ne, not_and_or,
    Bool.or_eq_false_iff, beq_eq_false_iff_ne, not_not, or_assoc] at hstart
  rcases hstart with rfl | rfl | rfl | rfl | rfl | rfl <;> exact absurd h (by decide)

theorem isSafe_of_isWordAscii (h : isWordAscii c) : isSafe c := by
  by_contra hsafe
  simp only [isSafe, Bool.and_eq_true, bne_iff_ne, not_and_or, not_not] at hsafe
  rcases hsafe with rfl | rfl <;> exact absurd h (by decide)

theorem isStop_cases (h : isStop c) : c = ' ' ∨ c = '(' ∨ c = ')' ∨ c = ':' ∨ c = ',' ∨ c = '\n' := by
  simpa [isStop, or_assoc] using h

theorem isWordChar_of_isStop (h : isStop c) : isWordChar c = false ∧ ¬(c = '"' ∨ c = '\'') := by
  rcases isStop_cases h with rfl | rfl | rfl | rfl | rfl | rfl <;> decide

/-- A piece of one class of characters ends where the class does. -/
theorem takeWhile_append_cons {p : Char → Bool} {w rest : List Char} (hw : ∀ a ∈ w, p a)
    (hc : p c = false) : (w ++ c :: rest).takeWhile p = w := by
  rw [takeWhile_append_of_pos hw, takeWhile_cons_of_neg (by simp [hc]), append_nil]

theorem ofWord?_of_all {w : List Char} (h : ∀ c ∈ w, isWordAscii c) :
    ofWord? w = some (ofWord (String.ofList w)) := by
  rw [ofWord?.eq_def, if_pos (all_eq_true.2 fun c hc => isAscii_of_isWordAscii (h c hc))]
  rfl

theorem reads_word (h : isWord s.toList) : Reads s.toList [ofWord s] 0 := by
  obtain ⟨c, cs, hs⟩ : ∃ c cs, s.toList = c :: cs := by
    cases hs : s.toList with
    | nil => simp [hs, isWord] at h
    | cons c cs => exact ⟨c, cs, rfl⟩
  rw [hs, isWord, Bool.and_eq_true, all_eq_true] at h
  obtain ⟨hdigit, hall⟩ := h
  rw [hs]
  have hc : isWordAscii c := hall c (.head _)
  have hof : ofWord s = ofWord (String.ofList (c :: cs)) := by rw [← hs, String.ofList_toList]
  rw [hof]
  refine reads_token (isStart_of_isWordAscii hc) (fun a ha => isSafe_of_isWordAscii (hall a ha))
    (fun opened => ?_) ?_
  · rw [ofWord]
    split <;> rfl
  · rintro _ ⟨a, rest, rfl, ha⟩
    obtain ⟨hword, hquote⟩ := isWordChar_of_isStop ha
    have htake : (c :: cs ++ a :: rest).takeWhile isWordChar = c :: cs :=
      takeWhile_append_cons (fun b hb => isWordChar_of_isWordAscii (hall b hb)) hword
    rw [cons_append] at htake ⊢
    rw [token?.eq_def]
    dsimp only
    rw [if_neg (by simpa using hdigit), if_pos (isWordChar_of_isWordAscii hc), htake]
    have hdrop : (c :: (cs ++ a :: rest)).drop (c :: cs).length = a :: rest := by
      rw [← cons_append, drop_left]
    simp only [hdrop, if_neg hquote, ofWord?_of_all hall, Option.map_some]

/-! ### Operators and numbers -/

/-- The operators in a printed text, other than brackets. -/
def plainSymbols : List String := ["+", "-", "*", "/", "%", "<", ">", "==", "=", "+=", ":"]

theorem plainSymbols_cases (h : s ∈ plainSymbols) :
    s = "+" ∨ s = "-" ∨ s = "*" ∨ s = "/" ∨ s = "%" ∨ s = "<" ∨ s = ">" ∨ s = "==" ∨ s = "=" ∨
      s = "+=" ∨ s = ":" := by
  simpa [plainSymbols] using h

theorem token?_symbol (h : s ∈ plainSymbols) (hc : isStop c) (rest : List Char) :
    token? (s.toList ++ c :: rest) = some (.op s, c :: rest) := by
  rcases plainSymbols_cases h with
    rfl | rfl | rfl | rfl | rfl | rfl | rfl | rfl | rfl | rfl | rfl <;>
    rcases isStop_cases hc with rfl | rfl | rfl | rfl | rfl | rfl <;> rfl

theorem reads_symbol (h : s ∈ plainSymbols) : Reads s.toList [.op s] 0 := by
  obtain ⟨c, cs, hs, hstart, hsafe, hopen⟩ : ∃ c cs, s.toList = c :: cs ∧ isStart c ∧
      (∀ a ∈ c :: cs, isSafe a) ∧ ∀ opened, openedAfter? opened (.op s) = some opened := by
    rcases plainSymbols_cases h with
      rfl | rfl | rfl | rfl | rfl | rfl | rfl | rfl | rfl | rfl | rfl <;>
      exact ⟨_, _, rfl, by decide, all_eq_true.1 (by decide), fun _ => rfl⟩
  rw [hs]
  refine reads_token hstart hsafe hopen ?_
  rintro _ ⟨c, rest, rfl, hc⟩
  rw [← hs]
  exact token?_symbol h hc rest

theorem groupedDigits_append {ds rest : List Char} (hds : ∀ d ∈ ds, isAsciiDigit d)
    (hc : isStop c) : groupedDigits isAsciiDigit (ds ++ c :: rest) = (ds, c :: rest) := by
  induction ds with
  | nil => rcases isStop_cases hc with rfl | rfl | rfl | rfl | rfl | rfl <;> rfl
  | cons d ds ih =>
    have hd := hds d (.head _)
    have hrest := ih fun a ha => hds a (.tail _ ha)
    rw [cons_append, groupedDigits.eq_def]
    split
    · next heq => cases heq
    · next heq =>
      rw [(cons.inj heq).1] at hd
      exact absurd hd (by decide)
    · next heq =>
      obtain ⟨rfl, rfl⟩ := cons.inj heq
      rw [if_pos hd, hrest]

/-- A number that is not marked with another base is decimal. -/
theorem number?_toDigits (hc : isStop c) (rest : List Char) :
    number? (toDigits 10 n ++ c :: rest) = decimal? (toDigits 10 n ++ c :: rest) := by
  have hsecond : ∀ a b more, toDigits 10 n ++ c :: rest = a :: b :: more →
      isAsciiDigit b ∨ isStop b := by
    intro a b more heq
    cases hds : toDigits 10 n with
    | nil => exact absurd hds toDigits_ne_nil
    | cons d ds =>
      rw [hds, cons_append] at heq
      cases ds with
      | nil =>
        cases heq
        exact .inr hc
      | cons d' ds =>
        cases heq
        exact .inl (isAsciiDigit_of_mem_toDigits (n := n) (by simp [hds]))
  rw [number?.eq_def]
  split
  all_goals first
    | rfl
    | next heq => exact absurd (hsecond _ _ _ heq) (by decide)

theorem exponent?_of_isStop (hc : isStop c) (rest : List Char) :
    exponent? (c :: rest) = some (none, c :: rest) := by
  rcases isStop_cases hc with rfl | rfl | rfl | rfl | rfl | rfl <;> rfl

theorem endsNumber_of_isStop (hc : isStop c) (rest : List Char) : endsNumber (c :: rest) := by
  rw [endsNumber, (isWordChar_of_isStop hc).1]
  exact Bool.or_true _

theorem decimal?_toDigits (h : digitCount n ≤ maxDigits) (hc : isStop c)
    (rest : List Char) : decimal? (toDigits 10 n ++ c :: rest) = some (.int n, c :: rest) := by
  have hlead : ¬((toDigits 10 n).head? = some '0' ∧ n ≠ 0) := fun hzero =>
    hzero.2 (eq_zero_of_head?_toDigits hzero.1)
  have hlength : ¬(toDigits 10 n).length > maxDigits := Nat.not_lt.2 h
  have hpoint : c ≠ '.' ∧ c ≠ 'j' ∧ c ≠ 'J' := by
    rcases isStop_cases hc with rfl | rfl | rfl | rfl | rfl | rfl <;> decide
  rw [decimal?, groupedDigits_append (fun d hd => isAsciiDigit_of_mem_toDigits hd) hc]
  dsimp only
  split
  · next heq => exact absurd (cons.inj heq).1 hpoint.1
  · simp only [exponent?_of_isStop hc, append_nil, decimalValue_toDigits]
    rw [Option.bind_eq_bind, Option.bind_some]
    split
    · next heq => exact absurd (cons.inj heq).1 hpoint.2.1
    · next heq => exact absurd (cons.inj heq).1 hpoint.2.2
    · rw [endsNumber_of_isStop hc, if_neg (by decide), if_neg (by simp), if_neg hlength,
        if_neg hlead]

theorem token?_number (h : digitCount n ≤ maxDigits) (hc : isStop c)
    (rest : List Char) :
    token? (toDigits 10 n ++ c :: rest) = some (.number (.int n), c :: rest) := by
  have hread : number? (toDigits 10 n ++ c :: rest) = some (.int n, c :: rest) :=
    (number?_toDigits hc rest).trans (decimal?_toDigits h hc rest)
  cases hds : toDigits 10 n with
  | nil => exact absurd hds toDigits_ne_nil
  | cons d ds =>
    have hd : isAsciiDigit d :=
      isAsciiDigit_of_mem_toDigits (n := n) (by simp [hds])
    rw [hds, cons_append] at hread
    rw [cons_append, token?.eq_def]
    dsimp only
    rw [if_pos hd, hread]
    rfl

theorem reads_number (h : digitCount n ≤ maxDigits) :
    Reads (toDigits 10 n) [.number (.int n)] 0 := by
  obtain ⟨d, ds, hds⟩ : ∃ d ds, toDigits 10 n = d :: ds :=
    exists_cons_of_ne_nil toDigits_ne_nil
  have hword : ∀ a ∈ d :: ds, isWordAscii a := by
    intro a ha
    rw [isWordAscii, isAsciiDigit_of_mem_toDigits (n := n) (by rwa [hds]), Bool.or_true,
      Bool.true_or]
  rw [hds]
  refine reads_token (isStart_of_isWordAscii (hword d (.head _)))
    (fun a ha => isSafe_of_isWordAscii (hword a ha)) (fun _ => rfl) ?_
  rintro _ ⟨c, rest, rfl, hc⟩
  rw [← hds]
  exact token?_number h hc rest

theorem exists_digitChar {d : Char} (h : isAsciiDigit d) : ∃ k < 10, d = k.digitChar := by
  simp only [isAsciiDigit, Bool.and_eq_true, decide_eq_true_eq] at h
  have hlow : 48 ≤ d.toNat := h.1
  have hhigh : d.toNat ≤ 57 := h.2
  refine ⟨d.toNat - 48, by omega, Char.toNat_inj.1 ?_⟩
  rw [toNat_digitChar_of_lt_ten (by omega)]
  omega

theorem token?_minus {d : Char} (hd : isAsciiDigit d) (rest : List Char) :
    token? ('-' :: d :: rest) = some (.op "-", d :: rest) := by
  obtain ⟨k, hk, rfl⟩ := exists_digitChar hd
  interval_cases k <;> rfl

/-- The tokens of a whole number: a minus is a token of its own. -/
def ofInt (i : Int) : List Token :=
  if i < 0 then [.op "-", .number (.int i.natAbs)] else [.number (.int i)]

theorem reads_negative (h : digitCount n ≤ maxDigits) :
    Reads ('-' :: toDigits 10 n) [.op "-", .number (.int n)] 0 := by
  obtain ⟨d, ds, hds⟩ : ∃ d ds, toDigits 10 n = d :: ds :=
    exists_cons_of_ne_nil toDigits_ne_nil
  have hd : isAsciiDigit d :=
    isAsciiDigit_of_mem_toDigits (n := n) (by simp [hds])
  obtain ⟨-, -, -, hsafe, hread⟩ := reads_number h
  refine ⟨⟨_, _, rfl, by decide⟩, Nat.two_pos, by simp [hds],
    forall_mem_cons.2 ⟨by decide, hsafe⟩, ?_⟩
  intro n' stack opened rest hopened hrest
  have hminus := token?_minus hd (ds ++ rest)
  rw [← cons_append, ← hds] at hminus
  change scanFrom? (n' + 1 + 1) false stack opened ('-' :: (toDigits 10 n ++ rest)) = _
  rw [scanFrom?_token _ stack opened (by decide) hminus]
  change (some opened).bind _ = _
  have hscan := hread n' stack opened rest hopened hrest
  rw [length_singleton] at hscan
  rw [Option.bind_some, hscan, if_pos (by omega), Option.map_map,
    if_pos (by omega)]
  rfl

theorem reads_int {i : Int} (h : digitCount i.natAbs ≤ maxDigits) :
    Reads (toString i).toList (ofInt i) 0 := by
  rw [toList_toString, ofInt]
  by_cases hi : i < 0
  · rw [if_pos hi, if_pos hi]
    exact reads_negative h
  · rw [if_neg hi, if_neg hi]
    have hread := reads_number h
    rwa [show ((i.natAbs : Nat) : Int) = i by omega] at hread

/-! ### Lines -/

/-- The blanks before a line at a level of indentation. -/
def margin (j : Nat) : List Char := List.replicate (4 * j) ' '

/-- The indentations that are open at a level, innermost first. -/
def levels : Nat → List (Nat × Nat)
  | 0 => []
  | j + 1 => (4 * (j + 1), 4 * (j + 1)) :: levels j

/-- The tokens for going from one level to another. -/
def turns (l j : Nat) : List Token := List.replicate (j - l) .indent ++ List.replicate (l - j) .dedent

theorem length_levels (l : Nat) : (levels l).length = l := by
  induction l with
  | zero => rfl
  | succ l ih => rw [levels, length_cons, ih]

theorem head?_levels (l : Nat) : (levels l).head?.getD (0, 0) = (4 * l, 4 * l) := by
  cases l <;> rfl

theorem closeTo?_levels {l j : Nat} (h : j ≤ l) :
    closeTo? (4 * j) (4 * j) (levels l) = some (l - j, levels j) := by
  induction l with
  | zero =>
    obtain rfl := le_zero.1 h
    rfl
  | succ l ih =>
    rw [levels, closeTo?]
    rcases Nat.lt_or_ge j (l + 1) with hj | hj
    · rw [if_pos (by omega), ih (by omega), Option.map_some, show l + 1 - j = l - j + 1 by omega]
    · obtain rfl : j = l + 1 := by omega
      rw [if_neg (by omega), if_pos ⟨rfl, rfl⟩, Nat.sub_self]
      rfl

theorem indentation?_levels {l j : Nat} (hj : j ≤ l + 1) (hl : l ≤ maxIndents) :
    indentation? (4 * j) (4 * j) (levels l) =
      if j ≤ maxIndents then some (turns l j, levels j) else none := by
  rw [indentation?, head?_levels, length_levels]
  dsimp only
  by_cases hup : j ≤ l
  · rw [if_neg (by omega), closeTo?_levels hup, Option.map_some, if_pos (by omega), turns,
      Nat.sub_eq_zero_of_le hup]
    rfl
  · obtain rfl : j = l + 1 := by omega
    rw [if_pos (by omega)]
    by_cases hdeep : l + 1 ≤ maxIndents
    · rw [if_neg (by omega), if_pos hdeep, turns, show l + 1 - l = 1 by omega,
        Nat.sub_eq_zero_of_le (le_succ l)]
      rfl
    · rw [if_pos (by omega), if_neg hdeep]

theorem leading?_blanks (k column narrow : Nat) (cs : List Char) :
    leading? column narrow 0 (replicate k ' ' ++ cs) =
      leading? (column + k) (narrow + k) 0 cs := by
  induction k generalizing column narrow with
  | zero => rfl
  | succ k ih =>
    rw [replicate_succ, cons_append, leading?, ih, Nat.add_assoc, Nat.add_assoc,
      Nat.add_comm 1 k]

theorem leading?_of_isStart (h : isStart c) (column narrow : Nat) (cs : List Char) :
    leading? column narrow 0 (c :: cs) = some (column, narrow, c :: cs) := by
  simp only [isStart, isInlineBlank, Bool.and_eq_true, Bool.not_eq_true', Bool.or_eq_false_iff,
    beq_eq_false_iff_ne, bne_iff_ne] at h
  obtain ⟨⟨⟨⟨⟨hblank, htab⟩, hfeed⟩, -⟩, -⟩, hjoin⟩ := h
  rw [leading?.eq_def]
  split
  · next heq => exact absurd (cons.inj heq).1 hblank
  · next heq => exact absurd (cons.inj heq).1 htab
  · next heq => exact absurd (cons.inj heq).1 hfeed
  · next heq => exact absurd (cons.inj heq).1 hjoin
  · next heq => exact absurd (cons.inj heq).1 hjoin
  · rfl

/-- The start of a line: its indentation opens or closes levels. -/
theorem scanFrom?_margin {l j : Nat} (hj : j ≤ l + 1) (hl : l ≤ maxIndents) (hs : Starts cs)
    (n : Nat) : scanFrom? (n + 1) true (levels l) [] (margin j ++ cs) =
      if j ≤ maxIndents then
        (scanFrom? n false (levels j) [] cs).map (turns l j ++ ·)
      else none := by
  obtain ⟨c, rest, rfl, hc⟩ := hs
  have hc' := hc
  simp only [isStart, Bool.and_eq_true, bne_iff_ne] at hc'
  rw [scanFrom?, margin, leading?_blanks, leading?_of_isStart hc, Nat.zero_add]
  dsimp only
  split
  · next heq => exact absurd (cons.inj heq).1 hc'.1.1.2
  · next heq => exact absurd (cons.inj heq).1 hc'.1.2
  · rw [indentation?_levels hj hl]
    split
    · simp [Option.map_eq_bind]
    · rfl

theorem scanFrom?_newline (n : Nat) (stack : List (Nat × Nat)) (rest : List Char) :
    scanFrom? (n + 1) false stack [] ('\n' :: rest) =
      (scanFrom? n true stack [] rest).map (.newline :: ·) := rfl

theorem scanFrom?_blank_line (n : Nat) (stack : List (Nat × Nat)) (rest : List Char) :
    scanFrom? (n + 1) true stack [] ('\n' :: rest) = scanFrom? n true stack [] rest := rfl

/-- What follows goes on at the level or outside of it: deeper levels are closed before it. -/
def Closes (j : Nat) (rest : List Char) : Prop :=
  ∀ n l, j ≤ l → l ≤ maxIndents →
    scanFrom? n true (levels l) [] rest =
      (scanFrom? n true (levels j) [] rest).map (List.replicate (l - j) .dedent ++ ·)

theorem closes_nil (j : Nat) : Closes j [] := by
  intro n l hl hmax
  cases n with
  | zero => rfl
  | succ n =>
    have hend : ∀ i, i ≤ maxIndents →
        scanFrom? (n + 1) true (levels i) [] [] = some (replicate i .dedent) := by
      intro i hi
      have hindent := indentation?_levels (Nat.zero_le (i + 1)) hi
      rw [if_pos (Nat.zero_le _)] at hindent
      rw [scanFrom?, leading?.eq_def]
      dsimp only
      rw [if_pos rfl]
      dsimp only
      rw [hindent, turns]
      simp
    rw [hend l hmax, hend j (by omega), Option.map_some, replicate_append_replicate]
    congr 2
    omega

theorem closes_blank_line (h : Closes j rest) : Closes j ('\n' :: rest) := by
  intro n l hl hmax
  cases n with
  | zero => rfl
  | succ n =>
    rw [scanFrom?_blank_line, scanFrom?_blank_line]
    exact h n l hl hmax

theorem closes_margin {i j : Nat} (hi : i ≤ j) (hs : Starts cs) : Closes j (margin i ++ cs) := by
  intro n l hl hmax
  cases n with
  | zero => rfl
  | succ n =>
    rw [scanFrom?_margin (by omega) hmax hs, scanFrom?_margin (by omega) (by omega) hs,
      if_pos (by omega), if_pos (by omega), Option.map_map]
    congr 1
    funext more
    simp only [turns, Function.comp_apply, Nat.sub_eq_zero_of_le hi,
      Nat.sub_eq_zero_of_le (Nat.le_trans hi hl), replicate_zero, nil_append]
    rw [← append_assoc, replicate_append_replicate, show l - j + (j - i) = l - i by omega]

theorem Closes.succ (h : Closes j rest) (hj : j < maxIndents) : Closes (j + 1) rest := by
  intro n l hl hmax
  rw [h n l (by omega) hmax, h n (j + 1) (by omega) hj, Option.map_map]
  congr 1
  funext more
  rw [Function.comp_apply, ← append_assoc, replicate_append_replicate,
    show l - (j + 1) + (j + 1 - j) = l - j by omega]

/-- The text goes on at the level, perhaps after blank lines. -/
inductive Leads (j : Nat) : List Char → Prop
  | line {cs : List Char} : Starts cs → Leads j (margin j ++ cs)
  | blank {cs : List Char} : Leads j cs → Leads j ('\n' :: cs)

/-- **The lines are read as the tokens** at a level of indentation, on a condition: that no line is
indented too far and no brackets are nested too deeply. -/
structure ReadsLines (j : Nat) (text : List Char) (ts : List Token) (fits : Prop) [Decidable fits] :
    Prop where
  leads : text ≠ [] → Leads j text
  length_le : fits → ts.length ≤ 2 * text.length
  safe : ∀ c ∈ text, isSafe c = true
  scan : ∃ k ≤ 2 * text.length, ∀ n rest, j ≤ maxIndents → Closes j rest →
    scanFrom? (n + k) true (levels j) [] (text ++ rest) =
      if fits then (scanFrom? n true (levels j) [] rest).map (ts ++ ·) else none

theorem Leads.append (h : Leads j cs) (rest : List Char) : Leads j (cs ++ rest) := by
  induction h with
  | line hs =>
    rw [append_assoc]
    exact .line (hs.append rest)
  | blank _ ih => exact .blank ih

theorem Leads.closes (h : Leads j cs) (rest : List Char) : Closes j (cs ++ rest) := by
  induction h with
  | line hs =>
    rw [append_assoc]
    exact closes_margin (Nat.le_refl j) (hs.append rest)
  | blank _ ih => exact closes_blank_line ih

/-- Text at the next level opens an indentation. -/
theorem Leads.scan_succ (h : Leads (j + 1) cs) (hj : j ≤ maxIndents) (rest : List Char) (n : Nat) :
    scanFrom? n true (levels j) [] (cs ++ rest) =
      if j + 1 ≤ maxIndents then
        (scanFrom? n true (levels (j + 1)) [] (cs ++ rest)).map (.indent :: ·)
      else none := by
  induction h generalizing n with
  | line hs =>
    rw [append_assoc]
    cases n with
    | zero => simp [scanFrom?]
    | succ n =>
      rw [scanFrom?_margin (by omega) hj (hs.append rest)]
      split
      · next hmax =>
        rw [scanFrom?_margin (by omega) hmax (hs.append rest), if_pos hmax, Option.map_map]
        congr 1
        funext more
        simp [turns]
      · rfl
  | blank _ ih =>
    cases n with
    | zero => simp [scanFrom?]
    | succ n => exact ih n

/-- What ends a line after the text also ends it before the text. -/
theorem ReadsLines.closes [Decidable q] (h : ReadsLines j text ts q) (hrest : Closes j rest) :
    Closes j (text ++ rest) := by
  by_cases hne : text = []
  · rwa [hne]
  · exact (h.leads hne).closes rest

/-- A line at the level of the line before it. -/
theorem scanFrom?_line (hj : j ≤ maxIndents) (h : Reads cs ts d) (n : Nat) (rest : List Char) :
    scanFrom? (n + (ts.length + 2)) true (levels j) [] (margin j ++ cs ++ '\n' :: rest) =
      if d ≤ maxNesting then
        (scanFrom? n true (levels j) [] rest).map (ts ++ .newline :: ·)
      else none := by
  rw [show n + (ts.length + 2) = n + 1 + ts.length + 1 by omega, append_assoc,
    scanFrom?_margin (by omega) hj (h.starts.append _), if_pos hj,
    h.scan (n + 1) (levels j) [] ('\n' :: rest) (Nat.zero_le _) (stops_cons (by decide) rest),
    scanFrom?_newline, length_nil, Nat.zero_add]
  split
  · rw [Option.map_map, Option.map_map]
    congr 1
    funext more
    simp [turns]
  · rfl

theorem safe_margin (j : Nat) : ∀ c ∈ margin j, isSafe c := by
  intro c hc
  rw [eq_of_mem_replicate hc]
  decide

theorem readsLines_line (j : Nat) (h : Reads cs ts d) :
    ReadsLines j (margin j ++ cs ++ ['\n']) (ts ++ [.newline]) (d ≤ maxNesting) := by
  have hlen := h.length_le
  have hpos := h.pos
  refine ⟨fun _ => ?_, fun _ => ?_, ?_, ts.length + 2, ?_, ?_⟩
  · rw [append_assoc]
    exact .line (h.starts.append _)
  · simp only [length_append, length_singleton]
    omega
  · simp only [forall_mem_append]
    exact ⟨⟨safe_margin j, h.safe⟩, all_eq_true.1 (by decide)⟩
  · simp only [length_append, length_singleton]
    omega
  · intro n rest hj _
    rw [append_assoc, singleton_append, scanFrom?_line hj h]
    simp

/-- A header with lines under it. -/
theorem readsLines_under {body : List Char} [Decidable q] (h : Reads cs ts d)
    (hbody : ReadsLines (j + 1) body us q) (hne : body ≠ []) :
    ReadsLines j (margin j ++ cs ++ '\n' :: body) (ts ++ .newline :: .indent :: us ++ [.dedent])
      (d ≤ maxNesting ∧ j + 1 ≤ maxIndents ∧ q) := by
  have hlen := h.length_le
  have hpos := h.pos
  obtain ⟨k, hk, hread⟩ := hbody.scan
  refine ⟨fun _ => ?_, fun hfits => ?_, ?_, k + (ts.length + 2), ?_, ?_⟩
  · rw [append_assoc]
    exact .line (h.starts.append _)
  · have hus := hbody.length_le hfits.2.2
    simp only [length_append, length_cons, length_nil]
    omega
  · simp only [forall_mem_append, forall_mem_cons]
    exact ⟨⟨safe_margin j, h.safe⟩, by decide, hbody.safe⟩
  · simp only [length_append, length_cons]
    omega
  · intro n rest hj hrest
    rw [append_assoc, cons_append, ← Nat.add_assoc, scanFrom?_line hj h,
      (hbody.leads hne).scan_succ hj]
    by_cases hmax : j + 1 ≤ maxIndents
    · rw [if_pos hmax, hread n rest hmax (hrest.succ hmax), hrest n (j + 1) (by omega) hmax]
      by_cases hd : d ≤ maxNesting
      · by_cases hq : q
        · rw [if_pos hd, if_pos hq, if_pos ⟨hd, hmax, hq⟩, Option.map_map, Option.map_map,
            Option.map_map]
          congr 1
          funext more
          simp
        · rw [if_pos hd, if_neg hq, if_neg fun h => hq h.2.2]
          rfl
      · rw [if_neg hd, if_neg fun h => hd h.1]
    · have hdeep : ¬(d ≤ maxNesting ∧ j + 1 ≤ maxIndents ∧ q) := fun hfits => hmax hfits.2.1
      rw [if_neg hmax, if_neg hdeep]
      split <;> rfl

theorem ReadsLines.append {a b : List Char} {p q : Prop} [Decidable p] [Decidable q]
    (ha : ReadsLines j a ts p) (hb : ReadsLines j b us q) :
    ReadsLines j (a ++ b) (ts ++ us) (p ∧ q) := by
  obtain ⟨k, hk, hread⟩ := ha.scan
  obtain ⟨k', hk', hread'⟩ := hb.scan
  refine ⟨fun hne => ?_, fun hfits => ?_, forall_mem_append.2 ⟨ha.safe, hb.safe⟩, k' + k,
    by rw [length_append]; omega, ?_⟩
  · cases a with
    | nil => exact hb.leads hne
    | cons c a => exact (ha.leads (cons_ne_nil c a)).append b
  · have hts := ha.length_le hfits.1
    have hus := hb.length_le hfits.2
    simp only [length_append]
    omega
  intro n rest hj hrest
  rw [append_assoc, ← Nat.add_assoc, hread (n + k') (b ++ rest) hj (hb.closes hrest),
    hread' n rest hj hrest]
  by_cases hp : p
  · by_cases hq : q
    · rw [if_pos hp, if_pos hq, if_pos ⟨hp, hq⟩, Option.map_map]
      congr 1
      funext more
      simp
    · rw [if_pos hp, if_neg hq, if_neg fun h => hq h.2]
      rfl
  · rw [if_neg hp, if_neg fun h => hp h.1]

theorem readsLines_nil (j : Nat) : ReadsLines j [] [] (true) :=
  ⟨fun h => absurd rfl h, fun _ => Nat.zero_le _, forall_mem_nil _, 0, Nat.zero_le _,
    fun n rest _ _ => by simp⟩

theorem ReadsLines.blank [Decidable q] (h : ReadsLines j text ts q) (hne : text ≠ []) :
    ReadsLines j ('\n' :: text) ts q := by
  obtain ⟨k, hk, hread⟩ := h.scan
  refine ⟨fun _ => .blank (h.leads hne), fun hq => ?_, forall_mem_cons.2 ⟨by decide, h.safe⟩,
    k + 1, ?_, fun n rest => hread n rest⟩
  · have hts := h.length_le hq
    rw [length_cons]
    omega
  · rw [length_cons]
    omega

theorem ReadsLines.congr {p q : Prop} [Decidable p] [Decidable q] (h : ReadsLines j text ts p)
    (hpq : p ↔ q) : ReadsLines j text ts q := by
  obtain ⟨hleads, hbound, hsafe, k, hk, hread⟩ := h
  refine ⟨hleads, fun hq => hbound (hpq.2 hq), hsafe, k, hk, ?_⟩
  intro n rest hj hrest
  rw [hread n rest hj hrest]
  exact if_congr hpq rfl rfl

/-! ### Whole texts -/

theorem joinLines_of_safe (h : ∀ c ∈ cs, isSafe c) : joinLines cs = cs := by
  induction cs with
  | nil => rfl
  | cons c cs ih =>
    have hc := h c (.head _)
    simp only [isSafe, Bool.and_eq_true, bne_iff_ne] at hc
    rw [joinLines.eq_def]
    split
    · next heq => cases heq
    · next heq => exact absurd (cons.inj heq).1 hc.1
    · next heq => exact absurd (cons.inj heq).1 hc.1
    · next heq =>
      obtain ⟨rfl, rfl⟩ := cons.inj heq
      rw [ih fun a ha => h a (.tail _ ha)]

theorem normalized_of_safe (h : ∀ c ∈ cs, isSafe c) (hlast : cs.getLast? = some '\n') :
    normalized cs = cs := by
  rw [normalized, joinLines_of_safe h, if_pos hlast]

/-- **A text of lines is read as its tokens**, or refused. -/
theorem ReadsLines.scan?_eq [Decidable q] (h : ReadsLines 0 text ts q)
    (hlast : text.getLast? = some '\n') : scan? text = if q then some ts else none := by
  obtain ⟨-, -, hsafe, k, hk, hread⟩ := h
  obtain ⟨n, hn⟩ : ∃ n, 2 * text.length + 2 = n + 1 + k := ⟨2 * text.length + 1 - k, by omega⟩
  have hscan := hread (n + 1) [] (Nat.zero_le _) (closes_nil 0)
  rw [append_nil] at hscan
  rw [scan?, normalized_of_safe hsafe hlast, hn]
  refine hscan.trans ?_
  split
  · change Option.map _ (some []) = _
    rw [Option.map_some, append_nil]
  · rfl

end Token

end Program

end BlockScript
