import BlockScript.Listing.Project
import BlockScript.Program.Token
import BlockScript.Proofs.Run

/-!
# Names that a listing can use

A listing gives names to classes, variables and methods, and takes the names of parameters and of
called procedures from the project. A name is of use to a reader of the listing only if it is one
word and no keyword (`Text.isUsable`). Identifiers are made from letters and digits, but a numeral
need not be allowed in a name, and nothing keeps a name from being a keyword; the names of methods
start with a word of their own, and cannot be keywords.
-/

namespace BlockScript

open List Program.Token String

namespace Text

/-- The text can be used as a name: it starts and goes on as a name does and is no keyword. -/
def isUsable (s : String) : Bool :=
  match s.toList with
  | [] => false
  | c :: rest => isIdStart c && rest.all isIdContinue && !Program.Token.keywords.contains s

theorem isUsable_iff {s : String} {c : Char} {rest : List Char} (h : s.toList = c :: rest) :
    isUsable s = true ↔ isIdStart c ∧ (∀ d ∈ rest, isIdContinue d) ∧
      s ∉ keywords := by
  rw [isUsable, h]
  simp only [Bool.and_eq_true, all_eq_true, Bool.not_eq_true', contains_eq_mem,
    decide_eq_false_iff_not, and_assoc]

theorem isIdContinue_of_isIdStart {c : Char} (h : isIdStart c) : isIdContinue c := by
  rw [isIdStart] at h
  rw [isIdContinue]
  split at h
  · next ha =>
    rw [if_pos ha]
    simp only [Bool.or_eq_true] at h ⊢
    exact h.imp_left .inl
  · next ha =>
    rw [if_neg ha, inRuns, idContinueRuns, any_append, Bool.or_eq_true]
    exact .inl h

/-- No keyword has an underscore. -/
theorem not_mem_keywords {s : String} (h : '_' ∈ s.toList) : s ∉ keywords := by
  have hall : ∀ k ∈ keywords, '_' ∉ k.toList := by decide
  exact fun hs => hall s hs h

end Text

namespace Listing

open Text

/-! ### Identifiers -/

/-- What is put in the place of a character can go on in a name, unless the character stays and
cannot. -/
theorem isIdContinue_identifierChar (c : Char) :
    isIdContinue (if isAlnum c then c else '_') = true ↔
      (isAlnum c → isIdContinue c) := by
  split
  · next h => exact ⟨fun hc _ => hc, fun hc => hc h⟩
  · next h => exact ⟨fun _ hc => absurd hc h, fun _ => by decide⟩

theorem forall_identifierChars (cs : List Char) :
    (∀ d ∈ identifierChars cs, isIdContinue d) ↔
      ∀ c ∈ cs, isAlnum c → isIdContinue c := by
  simp only [identifierChars, forall_mem_map, isIdContinue_identifierChar]

/-- An identifier can be used if its name has no numerals that names cannot have, and if it is no
keyword. -/
theorem isUsable_identifier (s : String) : isUsable (identifier s) = true ↔
    (∀ c ∈ s.toList, isAlnum c → isIdContinue c) ∧
      (∀ c ∈ s.toList.head?, isAlnum c → isDigit c ∨ isIdStart c) ∧
        identifier s ∉ keywords := by
  cases hs : s.toList with
  | nil =>
    have hid : identifier s = "Sprite" := by rw [identifier, hs]; rfl
    rw [hid]
    refine ⟨fun _ => ⟨by simp, by simp, by decide⟩, fun _ => by decide⟩
  | cons c rest =>
    obtain ⟨m, hm⟩ : ∃ m, m = if isAlnum c then c else '_' := ⟨_, rfl⟩
    have hchars : identifierChars s.toList = m :: identifierChars rest := by
      rw [hs, identifierChars, map_cons, ← hm]
      rfl
    have hfirst := isIdContinue_identifierChar c
    rw [← hm] at hfirst
    rw [← forall_identifierChars, ← hs, hchars, hs, forall_mem_cons]
    have hhead : (∀ d ∈ (c :: rest).head?, isAlnum d → isDigit d ∨ isIdStart d) ↔
        isDigit m ∨ isIdStart m := by
      rw [head?_cons, hm]
      split
      · next h => simp [h]
      · next h => simp [h]; decide
    rw [hhead]
    by_cases hd : isDigit m
    · have hid : (identifier s).toList = '_' :: m :: identifierChars rest := by
        rw [identifier, hchars, closeIdentifier, if_pos hd, toList_ofList]
      rw [isUsable_iff hid, forall_mem_cons]
      exact ⟨fun h => ⟨h.2.1, .inl hd, h.2.2⟩, fun h => ⟨by decide, h.1, h.2.2⟩⟩
    · have hid : (identifier s).toList = m :: identifierChars rest := by
        rw [identifier, hchars, closeIdentifier, if_neg hd, toList_ofList]
      rw [isUsable_iff hid]
      constructor
      · exact fun h => ⟨⟨isIdContinue_of_isIdStart h.1, h.2.1⟩, .inr h.1, h.2.2⟩
      · exact fun h => ⟨h.2.1.resolve_left hd, h.1.2, h.2.2⟩

/-! ### Methods -/

/-- Every method has a name that starts with a word of its own. -/
theorem methodName_starts {blocks hat : Value} {name : String}
    (h : methodName blocks hat = .ok name) :
    name = "" ∨ (∃ rest, name = "when_" ++ rest) ∨ ∃ rest, name = "define_" ++ rest := by
  obtain ⟨opcode, -, h⟩ := exists_of_bind_eq_ok h
  obtain ⟨fields, -, h⟩ := exists_of_bind_eq_ok h
  split at h
  · cases h
    exact .inr (.inl ⟨"flag_clicked", by decide⟩)
  · obtain ⟨key, -, h⟩ := exists_of_bind_eq_ok h
    cases h
    exact .inr (.inl ⟨"key_" ++ keyText key, by rw [← String.append_assoc]; rfl⟩)
  · cases h
    exact .inr (.inl ⟨"clicked", by decide⟩)
  · obtain ⟨message, -, h⟩ := exists_of_bind_eq_ok h
    cases h
    exact .inr (.inl ⟨"broadcast_" ++ identifier message, by rw [← String.append_assoc]; rfl⟩)
  · cases h
    exact .inr (.inl ⟨"i_start_as_clone", by decide⟩)
  · obtain ⟨mutation?, -, h⟩ := exists_of_bind_eq_ok h
    split at h
    · cases h
      exact .inr (.inr ⟨"custom", by decide⟩)
    · obtain ⟨words, -, h⟩ := exists_of_bind_eq_ok h
      split at h
      · cases h
        exact .inr (.inr ⟨"custom", by decide⟩)
      · cases h
        exact .inr (.inr ⟨_, rfl⟩)
  · cases h
    exact .inl rfl

/-- A name that starts with such a word can be used if its characters can stand in a name. -/
theorem isUsable_append {first : String} {c : Char} {cs : List Char} (hcs : first.toList = c :: cs)
    (hstart : isIdStart c) (hmem : '_' ∈ first.toList) (rest : String) :
    isUsable (first ++ rest) = true ↔ ∀ d ∈ (first ++ rest).toList, isIdContinue d := by
  have hlist : (first ++ rest).toList = c :: (cs ++ rest.toList) := by
    rw [toList_append, hcs]
    rfl
  have hkey : first ++ rest ∉ keywords := by
    refine not_mem_keywords ?_
    rw [toList_append]
    exact mem_append_left _ hmem
  rw [isUsable_iff hlist, hlist, forall_mem_cons]
  exact ⟨fun h => ⟨isIdContinue_of_isIdStart hstart, h.2.1⟩, fun h => ⟨hstart, h.2, hkey⟩⟩

theorem isUsable_methodName {blocks hat : Value} {name : String}
    (h : methodName blocks hat = .ok name) (hname : name ≠ "") :
    isUsable name = true ↔ ∀ c ∈ name.toList, isIdContinue c := by
  rcases (methodName_starts h).resolve_left hname with ⟨rest, rfl⟩ | ⟨rest, rfl⟩
  · have hword : "when_".toList = 'w' :: "hen_".toList := by decide
    exact isUsable_append hword (by decide) (by decide) rest
  · have hword : "define_".toList = 'd' :: "efine_".toList := by decide
    exact isUsable_append hword (by decide) (by decide) rest

/-! ### All names -/

/-- For a name of ASCII characters it only matters whether it becomes a keyword. -/
theorem isUsable_identifier_of_isAscii {s : String} (h : ∀ c ∈ s.toList, isAscii c) :
    isUsable (identifier s) = true ↔ identifier s ∉ keywords := by
  have hchar : ∀ c ∈ s.toList, isAlnum c → isDigit c ∨ isIdStart c := by
    intro c hc halnum
    rw [isAlnum, if_pos (h c hc), Bool.or_eq_true] at halnum
    rw [isDigit, isIdStart, if_pos (h c hc), if_pos (h c hc), Bool.or_eq_true]
    exact halnum.symm.imp_right .inl
  have hgoes : ∀ c ∈ s.toList, isAlnum c → isIdContinue c := by
    intro c hc halnum
    rw [isAlnum, if_pos (h c hc)] at halnum
    rw [isIdContinue, if_pos (h c hc), halnum, Bool.true_or]
  rw [isUsable_identifier]
  exact ⟨fun hs => hs.2.2, fun hs => ⟨hgoes, fun c hc => hchar c (mem_of_mem_head? hc), hs⟩⟩

theorem textsFrom_str (n : Nat) (names : List String) :
    textsFrom n (names.map .str) = .ok names := by
  induction names generalizing n with
  | nil => rfl
  | cons name names ih =>
    rw [map_cons, textsFrom, ih]
    rfl

/-- **Which names of a listing can be used.** Classes and variables are named by identifiers: these
can be used if all letters and numerals of the name may stand where they do, and if they are no
keywords, which alone matters for names of ASCII characters. Methods can be used if the characters
of their names may stand in names. Parameters and called procedures are named by texts of the
project, as they are. -/
theorem names_usable_iff (s : String) (names : List String) :
    (isUsable (identifier s) = true ↔
      (∀ c ∈ s.toList, isAlnum c = true → isIdContinue c = true) ∧
        (∀ c ∈ s.toList.head?, isAlnum c = true → isDigit c = true ∨ isIdStart c = true) ∧
          identifier s ∉ Program.Token.keywords) ∧
    ((∀ c ∈ s.toList, isAscii c = true) →
      (isUsable (identifier s) = true ↔ identifier s ∉ Program.Token.keywords)) ∧
    (∀ blocks hat name, methodName blocks hat = .ok name → name ≠ "" →
      (isUsable name = true ↔ ∀ c ∈ name.toList, isIdContinue c = true)) ∧
    joinTexts (.list (names.map .str)) = .ok (String.intercalate ", " names) ∧
    ∀ plugged block inputs indent lines mutation name rest,
      block.getD "mutation" (.dict []) = .ok mutation →
      procedureWords mutation = .ok (name :: rest) →
      procedureCall plugged block inputs indent = .ok lines →
        ∃ args, lines = [margin indent ++ name ++ "(" ++ args ++ ")"] := by
  refine ⟨isUsable_identifier s, fun h => isUsable_identifier_of_isAscii h,
    fun _ _ _ h hname => isUsable_methodName h hname, ?_, ?_⟩
  · have hiterate : (Value.list (names.map .str)).iterate = .ok (names.map .str) := rfl
    rw [joinTexts, hiterate]
    dsimp only
    rw [textsFrom_str]
    rfl
  · intro plugged block inputs indent lines mutation name rest hmutation hwords h
    obtain ⟨mutation', hmutation', h⟩ := exists_of_bind_eq_ok h
    cases hmutation.symm.trans hmutation'
    obtain ⟨words, hwords', h⟩ := exists_of_bind_eq_ok h
    cases hwords.symm.trans hwords'
    obtain ⟨text, -, h⟩ := exists_of_bind_eq_ok h
    obtain ⟨ids, -, h⟩ := exists_of_bind_eq_ok h
    obtain ⟨args, -, h⟩ := exists_of_bind_eq_ok h
    cases h
    exact ⟨_, rfl⟩

/-- A name that starts with a digit and has a blank. -/
theorem names_usable_cat : (∀ c ∈ "2 cats".toList, isAscii c = true) ∧
    identifier "2 cats" = "_2_cats" ∧ isUsable (identifier "2 cats") = true := by
  have hascii : ∀ c ∈ "2 cats".toList, isAscii c = true := List.all_eq_true.1 (by decide)
  exact ⟨hascii, by decide, ((names_usable_iff _ []).2.1 hascii).2 (by decide)⟩

/-- A sprite with the name of a keyword gives a class that cannot be read, and so does a parameter
with a blank. -/
theorem names_unusable : identifier "class" = "class" ∧ isUsable (identifier "class") = false ∧
    joinTexts (.list [.str "my size"]) = .ok "my size" ∧ isUsable "my size" = false :=
  ⟨by decide, by decide, rfl, by decide⟩

end Listing

end BlockScript
