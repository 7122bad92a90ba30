import BlockScript.Listing.Script
import BlockScript.Proofs.Lexing

/-!
# Texts between quotes

A listing writes a text as a value by putting it between double quotes as it is
(`Listing.between`). `Token.Verbatim` says which texts survive that: those without a double quote,
a line feed, a carriage return or a null character, in which every backslash stands before a
character that makes no escape with it. `Listing.value_written` says that at every place where a text
is written as a value, what is written is one literal with that text as its value just if the text
is verbatim.

That nothing else survives is a matter of length. A literal is at least as long as its value, and
every escape is longer than what it denotes.
-/

namespace BlockScript

open List Nat Option

namespace Program

namespace Quoted

/-- A character that makes an escape with a backslash before it. -/
def isEscape (c : Char) : Bool :=
  (simpleEscape? c).isSome || isOctal c || ['x', 'u', 'U', 'N'].contains c

theorem length_of_hexDigits? {n acc m : Nat} {cs more : List Char}
    (h : hexDigits? n acc cs = some (m, more)) : more.length + n = cs.length := by
  induction n generalizing acc cs with
  | zero => cases h; rfl
  | succ n ih =>
    cases cs with
    | nil => cases h
    | cons c cs =>
      rw [hexDigits?] at h
      split at h
      · have := ih h
        simp only [length_cons]
        omega
      · cases h

theorem length_octalDigits_le (n acc : Nat) (cs : List Char) :
    (octalDigits n acc cs).2.length ≤ cs.length := by
  induction n generalizing acc cs with
  | zero => exact Nat.le_refl _
  | succ n ih =>
    cases cs with
    | nil => exact Nat.le_refl _
    | cons c cs =>
      rw [octalDigits]
      split
      · exact le_succ_of_le (ih ..)
      · exact Nat.le_refl _

variable {c : Char} {ns : List Nat}

theorem length_simpleEscape?_le (h : simpleEscape? c = some ns) : ns.length ≤ 1 := by
  rw [simpleEscape?.eq_def] at h
  split at h <;> cases h <;> decide

/-- What makes no escape stands for itself. -/
theorem escape?_of_isEscape (h : isEscape c = false) (cs : List Char) :
    escape? false (c :: cs) = some ([92, c.toNat], cs) := by
  simp only [isEscape, Bool.or_eq_false_iff, isSome_eq_false_iff,
    isNone_iff_eq_none] at h
  obtain ⟨⟨hsimple, hoctal⟩, hc⟩ := h
  simp only [contains_cons, Bool.or_eq_false_iff, beq_eq_false_iff_ne] at hc
  obtain ⟨hx, hu, hU, hN, -⟩ := hc
  simp [escape?, hsimple, hoctal, hx, hu, hU, hN]

/-- **An escape is longer than what it denotes.** -/
theorem length_le_of_escape? {cs more : List Char} (hc : isEscape c)
    (h : escape? false (c :: cs) = some (ns, more)) : ns.length + more.length ≤ cs.length + 1 := by
  rw [escape?] at h
  split at h
  · next hsimple =>
    cases h
    have := length_simpleEscape?_le hsimple
    omega
  · next hsimple =>
    split at h
    · next hoctal =>
      have hlen : (octalDigits 3 0 (c :: cs)).2.length ≤ cs.length := by
        rw [octalDigits.eq_def]
        simp only [if_pos hoctal]
        exact length_octalDigits_le ..
      rcases hdigits : octalDigits 3 0 (c :: cs) with ⟨m, rest⟩
      rw [hdigits] at h hlen
      cases h
      simpa [Nat.add_comm] using hlen
    · next hoctal =>
      simp only [Bool.false_eq_true, if_false] at h
      have hhex : ∀ {k n : Nat} {more : List Char}, hexDigits? k 0 cs = some (n, more) →
          [n].length + more.length ≤ cs.length + 1 := by
        intro k n more hd
        have := length_of_hexDigits? hd
        simp only [length_singleton]
        omega
      split_ifs at h with hx hu hU hN
      · obtain ⟨_, hd, heq⟩ := map_eq_some_iff.1 h
        cases heq
        exact hhex hd
      · obtain ⟨_, hd, heq⟩ := map_eq_some_iff.1 h
        cases heq
        exact hhex hd
      · split at h
        · next hd =>
          split at h <;> cases h
          exact hhex hd
        · cases h
      · simp [isEscape, hsimple, hoctal, hx, hu, hU, hN] at hc

theorem length_toChars_le (ns : List Nat) : (toChars ns).length ≤ ns.length := by
  fun_induction toChars ns <;> simp_all only [length_cons, length_nil] <;> omega

theorem toChars_map_toNat (cs : List Char) : toChars (cs.map Char.toNat) = cs := by
  have hvalid : ∀ c : Char, ¬(0xD800 ≤ c.toNat ∧ c.toNat < 0xE000) := by
    intro c
    have := c.valid
    simp only [UInt32.isValidChar, Nat.isValidChar] at this
    simp only [Char.toNat]
    omega
  induction cs with
  | nil => rfl
  | cons c cs ih =>
    have hc := hvalid c
    cases cs with
    | nil => simp [toChars, hc]
    | cons d cs =>
      rw [map_cons, map_cons] at *
      rw [toChars, if_neg (by omega), if_neg hc, Char.ofNat_toNat, ih]

theorem length_codePoints?_le {cs : List Char} {n : Nat} (h : codePoints? false n cs = some ns) :
    ns.length ≤ cs.length := by
  induction n generalizing cs ns with
  | zero =>
    cases cs with
    | nil => cases h; exact Nat.le_refl _
    | cons c cs => cases h
  | succ n ih =>
    cases cs with
    | nil => cases h; exact Nat.le_refl _
    | cons c cs =>
      rw [codePoints?] at h
      split at h
      · split at h
        · next ns' more hescape =>
          obtain ⟨ms, hms, rfl⟩ := map_eq_some_iff.1 h
          have hlen : ns'.length + more.length ≤ cs.length + 1 := by
            cases cs with
            | nil => cases hescape; exact Nat.le_refl _
            | cons d cs =>
              cases hd : isEscape d with
              | true => exact le_succ_of_le (length_le_of_escape? hd hescape)
              | false =>
                cases (escape?_of_isEscape hd cs).symm.trans hescape
                simp only [length_cons, length_nil]
                omega
          have := ih hms
          simp only [length_append, length_cons]
          omega
        · cases h
      · obtain ⟨ms, hms, rfl⟩ := map_eq_some_iff.1 h
        exact succ_le_succ (ih hms)

end Quoted

namespace Token

open Quoted

/-- **The texts that stand for themselves between double quotes**: a backslash in them does not
make an escape. -/
inductive Verbatim : List Char → Prop
  | nil : Verbatim []
  | cons {c : Char} {cs : List Char} : isSafe c = true → c ≠ '"' → c ≠ '\n' → c ≠ '\\' →
    Verbatim cs → Verbatim (c :: cs)
  | pair {c : Char} {cs : List Char} : isSafe c = true → isEscape c = false →
    Verbatim cs → Verbatim ('\\' :: c :: cs)

variable {cs : List Char}

theorem Verbatim.safe (h : Verbatim cs) : ∀ c ∈ cs, isSafe c := by
  induction h with
  | nil => exact forall_mem_nil _
  | cons hc _ _ _ _ ih => exact forall_mem_cons.2 ⟨hc, ih⟩
  | pair hc _ _ ih => exact forall_mem_cons.2 ⟨by decide, forall_mem_cons.2 ⟨hc, ih⟩⟩

theorem Verbatim.literalBody? (h : Verbatim cs) (rest : List Char) :
    literalBody? '"' false (cs ++ '"' :: rest) = some (cs, rest) := by
  induction h with
  | nil => rfl
  | cons _ hquote hline hescape _ ih =>
    rw [cons_append, literalBody?.eq_def]
    split
    · next heq => cases heq
    · next heq => exact absurd (cons.inj heq).1 hescape
    · next heq =>
      obtain ⟨rfl, rfl⟩ := cons.inj heq
      rw [if_neg hquote, if_neg fun hc => hline hc.1, if_neg hescape, ih]
      rfl
  | pair _ _ _ ih =>
    rw [cons_append, cons_append, Token.literalBody?, ih]
    rfl

theorem Verbatim.codePoints? (h : Verbatim cs) {n : Nat} (hn : cs.length ≤ n) :
    codePoints? false n cs = some (cs.map Char.toNat) := by
  induction h generalizing n with
  | nil => cases n <;> rfl
  | cons _ _ _ hescape _ ih =>
    obtain ⟨n, rfl⟩ := Nat.exists_eq_add_of_lt hn
    rw [Quoted.codePoints?, if_neg hescape, ih (by omega)]
    rfl
  | pair _ hc _ ih =>
    obtain ⟨n, rfl⟩ := Nat.exists_eq_add_of_lt hn
    rw [length_cons] at *
    rw [Quoted.codePoints?, if_pos rfl, escape?_of_isEscape hc]
    change (Quoted.codePoints? _ _ _).map _ = _
    rw [ih (by omega)]
    rfl

/-- **A literal is at least as long as its value**, and longer unless it stands for itself. -/
theorem value_cases {cs body more : List Char} (h : literalBody? '"' false cs = some (body, more))
    {n : Nat} {ns : List Nat} (hns : codePoints? false n body = some ns) :
    ns.length < body.length ∨ ns = body.map Char.toNat ∧
      ((∀ c ∈ body, isSafe c) → Verbatim body) := by
  fun_induction literalBody? '"' false cs generalizing body n ns with
  | case1 | case5 | case7 | case8 => cases h
  | case3 htripled | case4 htripled => cases htripled
  | case6 =>
    cases h
    cases n <;> cases hns <;> exact .inr ⟨rfl, fun _ => .nil⟩
  | case2 c rest ih =>
    obtain ⟨⟨body, more⟩, hbody, heq⟩ := map_eq_some_iff.1 h
    cases heq
    cases n with
    | zero => cases hns
    | succ n =>
      rw [codePoints?, if_pos rfl] at hns
      split at hns
      · next hescape =>
        obtain ⟨ms, hms, rfl⟩ := map_eq_some_iff.1 hns
        cases hc : isEscape c with
        | true =>
          left
          have := length_le_of_escape? hc hescape
          have := length_codePoints?_le hms
          simp only [length_append, length_cons]
          omega
        | false =>
          cases (escape?_of_isEscape hc body).symm.trans hescape
          rcases ih hbody hms with hlt | ⟨rfl, hsafe⟩
          · exact .inl (succ_lt_succ (succ_lt_succ hlt))
          · simp only [forall_mem_cons]
            exact .inr ⟨rfl, fun hall => .pair hall.2.1 hc (hsafe hall.2.2)⟩
      · cases hns
  | case9 c rest _ hquote hline hescape ih =>
    obtain ⟨⟨body, more⟩, hbody, heq⟩ := map_eq_some_iff.1 h
    cases heq
    cases n with
    | zero => cases hns
    | succ n =>
      rw [codePoints?, if_neg hescape] at hns
      obtain ⟨ms, hms, rfl⟩ := map_eq_some_iff.1 hns
      rcases ih hbody hms with hlt | ⟨rfl, hsafe⟩
      · exact .inl (succ_lt_succ hlt)
      · simp only [forall_mem_cons]
        exact .inr ⟨rfl, fun hall =>
          .cons hall.1 hquote (fun hc => hline ⟨hc, rfl⟩) hescape (hsafe hall.2)⟩

theorem eq_append_of_literalBody? {tripled : Bool} {cs body more : List Char}
    (h : literalBody? '"' tripled cs = some (body, more)) :
    cs = body ++ (replicate (if tripled then 3 else 1) '"' ++ more) := by
  fun_induction literalBody? '"' tripled cs generalizing body with
  | case1 | case5 | case7 | case8 => cases h
  | case3 htripled _ _ _ hquotes =>
    cases h
    obtain ⟨rfl, rfl⟩ := hquotes
    rw [if_pos htripled]
    rfl
  | case6 rest htripled =>
    cases h
    rw [if_neg htripled]
    rfl
  | case2 _ _ ih | case4 _ _ _ _ _ _ ih | case9 _ _ _ _ _ _ ih =>
    obtain ⟨⟨body, more⟩, hbody, heq⟩ := map_eq_some_iff.1 h
    cases heq
    rw [ih hbody]
    rfl

/-- A literal is plain, and the body of one with three quotes is shorter. -/
theorem exists_body_of_literal? {cs rest : List Char} {t : Token}
    (h : literal? (false, false, false) '"' cs = some (t, rest)) :
    ∃ body, t = .quoted ⟨false, false, false, body⟩ ∧
      (body.length + rest.length + 1 < cs.length ∨ literalBody? '"' false cs = some (body, rest)) := by
  rw [literal?.eq_def] at h
  obtain ⟨⟨body, more⟩, hbody, heq⟩ := map_eq_some_iff.1 h
  cases heq
  refine ⟨body, rfl, ?_⟩
  split at hbody
  · split at hbody
    · have hlen := congrArg length (eq_append_of_literalBody? hbody)
      left
      simp only [length_append, length_replicate, if_true, length_cons] at hlen ⊢
      omega
    · exact .inr hbody
  · exact .inr hbody

theorem Verbatim.literal? {cs rest : List Char} (h : Verbatim cs) (hrest : Stops rest) :
    literal? (false, false, false) '"' (cs ++ '"' :: rest) =
      some (.quoted ⟨false, false, false, cs⟩, rest) := by
  have hbody := congrArg (Option.map fun p => (quoted ⟨false, false, false, p.1⟩, p.2))
    (h.literalBody? rest)
  -- Two quotes at the start would be the first two of three; a stop after the second prevents it.
  have hone : ∀ a b more, cs ++ '"' :: rest = a :: b :: more → ¬(a = '"' ∧ b = '"') := by
    rintro a b more heq ⟨rfl, rfl⟩
    cases h with
    | nil =>
      obtain ⟨c, more', rfl, hc⟩ := hrest
      cases heq
      exact (isWordChar_of_isStop hc).2 (.inl rfl)
    | cons _ hquote => exact hquote (cons.inj heq).1
    | pair => cases heq
  rw [literal?.eq_def]
  dsimp only
  split
  · next heq => rwa [if_neg (hone _ _ _ heq)]
  · exact hbody

theorem joinLines_append (cs : List Char) :
    joinLines (cs ++ ['"']) = joinLines cs ++ ['"'] := by
  fun_induction joinLines cs with
  | case1 => rfl
  | case2 rest ih => rw [cons_append, cons_append, joinLines, ih]; rfl
  | case3 rest hrest ih =>
    rw [cons_append, joinLines, ih]
    · rfl
    · rintro more heq
      cases rest with
      | nil => cases heq
      | cons c rest => exact hrest rest (by rw [(cons.inj heq).1])
  | case4 c rest h h' ih =>
    rw [cons_append, joinLines, ih]
    · rfl
    · exact fun _ hc _ => h' hc
    · exact h'

theorem length_joinLines_le (cs : List Char) : (joinLines cs).length ≤ cs.length := by
  fun_induction joinLines cs <;> simp_all only [length_cons, length_nil] <;> omega

theorem ne_of_mem_joinLines : ∀ c ∈ joinLines cs, c ≠ '\r' := by
  fun_induction joinLines cs with
  | case1 => exact forall_mem_nil _
  | case4 c rest _ h ih => exact forall_mem_cons.2 ⟨h, ih⟩
  | case2 _ ih | case3 _ _ ih => exact forall_mem_cons.2 ⟨by decide, ih⟩

theorem token?_quote (rest : List Char) :
    token? ('"' :: rest) = literal? (false, false, false) '"' rest := rfl

/-- Between quotes, a text is read as a literal first. -/
theorem scan?_between (cs : List Char) : ∃ n, scan? ('"' :: (cs ++ ['"'])) =
    (literal? (false, false, false) '"' (joinLines cs ++ ['"', '\n'])).bind fun p =>
      (scanFrom? (n + 2) false [] [] p.2).map (p.1 :: ·) := by
  have hjoin : joinLines ('"' :: (cs ++ ['"'])) = '"' :: (joinLines cs ++ ['"']) := by
    rw [joinLines, joinLines_append]
    · exact fun _ hc => absurd hc (by decide)
    · decide
  have hlast : ('"' :: (joinLines cs ++ ['"'])).getLast? = some '"' := by
    rw [← cons_append, getLast?_concat]
  have hfuel : 2 * ('"' :: (joinLines cs ++ ['"']) ++ ['\n']).length + 2 =
      2 * (joinLines cs).length + 8 := by
    simp only [length_append, length_cons, length_nil]
    omega
  refine ⟨2 * (joinLines cs).length + 4, ?_⟩
  rw [scan?, normalized, hjoin, hlast, if_neg (by decide), hfuel, cons_append,
    append_assoc]
  -- The first line is not indented and starts with the quote.
  change (scanFrom? (_ + 1) false [] [] _).bind _ = _
  rw [scanFrom?_start _ _ _ (by decide), token?_quote, singleton_append]
  cases hliteral : literal? (false, false, false) '"' (joinLines cs ++ ['"', '\n']) with
  | none => rfl
  | some p =>
    obtain ⟨body, hp, -⟩ := exists_body_of_literal? hliteral
    obtain ⟨_, rest⟩ := p
    subst hp
    exact bind_fun_some _

/-- The text is one string literal, not of bytes and without fields, and has the value. -/
def IsLiteral (t s : List Char) : Prop :=
  Char.ofNat 0 ∉ t ∧ ∃ raw body,
    scan? t = some [.quoted ⟨false, raw, false, body⟩, .newline] ∧ decode? raw body = some s

/-- **What stands for itself between quotes**: just the verbatim texts. -/
theorem isLiteral_iff (cs : List Char) : IsLiteral ('"' :: (cs ++ ['"'])) cs ↔ Verbatim cs := by
  obtain ⟨n, hscan⟩ := scan?_between cs
  constructor
  · rintro ⟨hnull, raw, body, hread, hvalue⟩
    rw [hscan] at hread
    obtain ⟨⟨t, rest⟩, hliteral, hrest⟩ := bind_eq_some_iff.1 hread
    obtain ⟨us, hus, heq⟩ := map_eq_some_iff.1 hrest
    obtain ⟨rfl, rfl⟩ := cons.inj heq
    have hmore : 0 < rest.length := by
      cases rest with
      | nil => cases hus
      | cons => exact succ_pos _
    obtain ⟨_, heq, hbody⟩ := exists_body_of_literal? hliteral
    cases heq
    obtain ⟨ns, hns, hchars⟩ := map_eq_some_iff.1 hvalue
    have hle : cs.length ≤ ns.length := hchars ▸ length_toChars_le ns
    have hle' : ns.length ≤ body.length := length_codePoints?_le hns
    have hjoin := length_joinLines_le cs
    simp only [length_append, length_cons, length_nil] at hbody
    have hbody := hbody.resolve_left (by omega)
    have happend := eq_append_of_literalBody? hbody
    have hlen := congrArg length happend
    simp only [length_append, length_cons, length_nil, Bool.false_eq_true, if_false,
      length_replicate] at hlen
    obtain ⟨rfl, -⟩ := append_inj happend (by omega)
    obtain ⟨rfl, hverbatim⟩ := (value_cases hbody hns).resolve_left (by omega)
    rw [toChars_map_toNat] at hchars
    rw [hchars] at hverbatim
    refine hverbatim fun c hc => ?_
    have hline := ne_of_mem_joinLines c (hchars ▸ hc)
    have hzero : c ≠ Char.ofNat 0 := by
      rintro rfl
      exact hnull (mem_cons_of_mem _ (mem_append_left _ hc))
    simp [isSafe, hline, hzero]
  · intro h
    have hlist : literal? _ _ _ = _ := h.literal? (stops_cons (c := '\n') (by decide) [])
    rw [joinLines_of_safe h.safe, hlist] at hscan
    refine ⟨?_, false, cs, hscan.trans rfl, ?_⟩
    · intro hnull
      simp only [mem_cons, mem_append, not_mem_nil, or_false] at hnull
      rcases hnull with hnull | hnull | hnull
      · exact absurd hnull (by decide)
      · exact absurd (h.safe _ hnull) (by decide)
      · exact absurd hnull (by decide)
    · change (codePoints? false cs.length cs).map toChars = _
      rw [h.codePoints? (Nat.le_refl _), map_some, toChars_map_toNat]

end Token

end Program

namespace Listing

open Program.Token

theorem toList_between (s : String) : (between s).toList = '"' :: (s.toList ++ ['"']) := by
  rw [between, String.toList_append, String.toList_append]
  rfl

/-- A constant that is no number and no name. -/
theorem literalText_text {kind : Int} (hkind : kind ∈ [9, 10, 11]) {v : Value} {s : String}
    (hv : v.text = .ok s) (rest : List Value) :
    literalText (.list (.int kind :: v :: rest)) = .ok (between s) := by
  have hsize : ¬(Value.int kind :: v :: rest).length < 2 := by simp
  simp only [mem_cons, not_mem_nil, or_false] at hkind
  rcases hkind with rfl | rfl | rfl <;>
    simp [literalText, Value.size, Value.nth, Value.same, hv, bind, Except.bind]

/-- **A text that is written as a value** stands between quotes as it is: the constant of an input,
the first value of a variable, a field, the value of a menu. It is read back as that text just if it
is verbatim. -/
theorem value_written (s : String) :
    (∀ kind ∈ ([9, 10, 11] : List Int), ∀ v : Value, v.text = .ok s → ∀ rest,
      literalText (.list (.int kind :: v :: rest)) = .ok (between s)) ∧
    (Numeral.int? s = none → Numeral.float? s = none → valueText (.str s) = .ok (between s)) ∧
    (∀ plugged inputs fields name, fieldText fields (.str name) = .ok s →
      slotText plugged inputs fields (.word name) = .ok (some (between s)) ∧
      (s ≠ "" → slotText plugged inputs fields (.wordIfAny name) = .ok (some (between s)))) ∧
    (∀ plugged inputs fields names values t, firstField fields names = .ok t →
      (values.find? t).getD t = s →
      phraseText plugged inputs fields (.menu names values) = .ok (between s)) ∧
    (IsLiteral (between s).toList s.toList ↔ Verbatim s.toList) := by
  refine ⟨fun kind hkind v hv rest => literalText_text hkind hv rest, ?_, ?_, ?_, ?_⟩
  · intro hint hfloat
    simp [valueText, hint, hfloat]
  · intro plugged inputs fields name hs
    refine ⟨by rw [slotText, hs]; rfl, fun hne => ?_⟩
    rw [slotText, hs]
    change Except.ok (if s.isEmpty then none else some (between s)) = _
    rw [if_neg (by simpa using hne)]
  · rintro plugged inputs fields names values t ht rfl
    rw [phraseText, ht]
    rfl
  · rw [toList_between, isLiteral_iff]

/-- A backslash before a letter without a meaning stays as it is. -/
theorem value_written_cheer :
    literalText (.list [.int 10, .str "\\o/"]) = .ok (between "\\o/") ∧
      IsLiteral (between "\\o/").toList "\\o/".toList := by
  obtain ⟨hliteral, -, -, -, hread⟩ := value_written "\\o/"
  exact ⟨hliteral 10 (by decide) _ rfl [], hread.2 (.pair (by decide) (by decide)
    (.cons (by decide) (by decide) (by decide) (by decide) .nil))⟩

/-- A quote in a text ends the literal too early. -/
theorem value_lost_inches :
    literalText (.list [.int 10, .str "5\" pipe"]) = .ok (between "5\" pipe") ∧
      ¬IsLiteral (between "5\" pipe").toList "5\" pipe".toList := by
  refine ⟨literalText_text (by decide) rfl [], ?_⟩
  rw [toList_between, isLiteral_iff]
  intro h
  cases h with
  | cons _ _ _ _ h =>
    cases h with
    | cons _ hquote => exact hquote rfl

end Listing

end BlockScript
