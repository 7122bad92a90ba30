import BlockScript.Value
import Mathlib.Data.List.Basic

/-!
# Whole numbers read back

The decimal digits of a number give the number again (`Numeral.int?_toString`), however it is read:
they are digits, they have no zero in front, and there are no blanks or underscores to drop.
-/

namespace BlockScript

open List Nat Text

namespace Numeral

theorem decimalValue_toDigits (n : Nat) : decimalValue (toDigits 10 n) = n := by
  rw [decimalValue, ← ofDigitChars_eq_foldl, ofDigitChars_ten_toDigits]

theorem isAsciiDigit_of_mem_toDigits {n : Nat} {c : Char} (h : c ∈ toDigits 10 n) :
    isAsciiDigit c := by
  have hdigit := isDigit_of_mem_toDigits (by decide) (by decide) h
  simp only [Char.isDigit, Bool.and_eq_true, decide_eq_true_eq] at hdigit
  simp only [isAsciiDigit, Bool.and_eq_true, decide_eq_true_eq]
  exact hdigit

/-- Only zero is written with a zero in front. -/
theorem eq_zero_of_head?_toDigits {n : Nat} (h : (toDigits 10 n).head? = some '0') : n = 0 := by
  induction n using Nat.strongRecOn with
  | _ n ih =>
    rw [toDigits_eq_if (by decide)] at h
    split at h
    · simpa using h
    · next hn =>
      rw [head?_append_of_ne_nil _ toDigits_ne_nil] at h
      have := ih (n / 10) (by omega) h
      omega

theorem toList_toString (i : Int) :
    (toString i).toList =
      if i < 0 then '-' :: toDigits 10 i.natAbs else toDigits 10 i.natAbs := by
  rw [Int.toString_eq_repr, Int.repr_eq_if]
  by_cases h : i < 0
  · rw [if_neg (by omega), if_pos h, String.toList_append, toList_repr,
      show (-i).toNat = i.natAbs by omega]
    rfl
  · rw [if_pos (by omega), if_neg h, toList_repr, show i.toNat = i.natAbs by omega]

/-- The characters of a number are digits and the minus. -/
theorem mem_toString {i : Int} {c : Char} (h : c ∈ (toString i).toList) :
    isAsciiDigit c ∨ c = '-' := by
  rw [toList_toString] at h
  split at h
  · rcases mem_cons.1 h with rfl | hc
    · exact .inr rfl
    · exact .inl (isAsciiDigit_of_mem_toDigits hc)
  · exact .inl (isAsciiDigit_of_mem_toDigits h)

theorem dropUnderscores_of_all {ds : List Char} (h : ∀ c ∈ ds, isAsciiDigit c)
    (previousIsDigit : Bool) : dropUnderscores previousIsDigit ds = some ds := by
  induction ds generalizing previousIsDigit with
  | nil => rfl
  | cons d ds ih =>
    have hd := h d (.head _)
    rw [dropUnderscores.eq_def]
    split
    · next heq => cases heq
    · next heq =>
      rw [(cons.inj heq).1] at hd
      exact absurd hd (by decide)
    · next heq =>
      obtain ⟨rfl, rfl⟩ := cons.inj heq
      rw [ih fun c hc => h c (.tail _ hc)]
      rfl

theorem trimChars_of_all {p : Char → Bool} {cs : List Char} (h : ∀ c ∈ cs, p c = false) :
    trimChars p cs = cs := by
  have hdrop : ∀ l : List Char, (∀ c ∈ l, p c = false) → l.dropWhile p = l := by
    intro l hl
    cases l with
    | nil => rfl
    | cons c l => rw [dropWhile_cons_of_neg (by simp [hl c (.head _)])]
  rw [trimChars, hdrop cs h, hdrop cs.reverse fun c hc => h c (mem_reverse.1 hc),
    reverse_reverse]

theorem body_toString (i : Int) : body (toString i) = (toString i).toList := by
  have hascii : ∀ c ∈ (toString i).toList, isAscii c ∧ isBlank c = false := by
    intro c hc
    rcases mem_toString hc with hd | rfl
    · simp only [isAsciiDigit, Bool.and_eq_true, decide_eq_true_eq] at hd
      have hlow : 48 ≤ c.toNat := hd.1
      have hhigh : c.toNat ≤ 57 := hd.2
      constructor
      · rw [isAscii, decide_eq_true_eq]
        omega
      · rw [isBlank, Bool.or_eq_false_iff, beq_eq_false_iff_ne, Bool.and_eq_false_iff,
          decide_eq_false_iff_not, decide_eq_false_iff_not]
        refine ⟨?_, by omega⟩
        rintro rfl
        exact absurd hlow (by decide)
    · decide
  rw [body, if_pos (all_eq_true.2 fun c hc => (hascii c hc).1),
    trimChars_of_all fun c hc => (hascii c hc).2]

/-- **A whole number reads back**, if it is not too long. -/
theorem int?_toString {i : Int} (h : Binary64.digitCount i.natAbs ≤ maxDigits) :
    int? (toString i) = some i := by
  have hdigits : ∀ c ∈ toDigits 10 i.natAbs, isAsciiDigit c := fun c hc =>
    isAsciiDigit_of_mem_toDigits hc
  have hsign : sign (toString i).toList = (decide (i < 0), toDigits 10 i.natAbs) := by
    rw [toList_toString]
    by_cases hi : i < 0
    · rw [if_pos hi, decide_eq_true hi]
      rfl
    · rw [if_neg hi, decide_eq_false hi, sign.eq_def]
      split
      · next heq => exact absurd (hdigits '-' (by simp [heq])) (by decide)
      · next heq => exact absurd (hdigits '+' (by simp [heq])) (by decide)
      · rfl
  have hlength : ¬(toDigits 10 i.natAbs).length > maxDigits := Nat.not_lt.2 h
  rw [int?, body_toString, hsign]
  dsimp only
  rw [dropUnderscores_of_all hdigits]
  dsimp only
  rw [if_neg (by simp [all_eq_true.2 hdigits, hlength]), decimalValue_toDigits]
  by_cases hi : i < 0
  · rw [decide_eq_true hi, if_pos rfl, show -((i.natAbs : Nat) : Int) = i by omega]
  · rw [decide_eq_false hi, if_neg (by decide), show ((i.natAbs : Nat) : Int) = i by omega]

end Numeral

end BlockScript
