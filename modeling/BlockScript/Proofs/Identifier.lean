import Mathlib.Logic.Function.Basic
import Mathlib.Tactic.IntervalCases
import BlockScript.Block

/-!
# Identifiers never repeat

`Id.ofNat` writes a number in hexadecimal with zeros before it. Reading the digits back
(`Text.readHex`) gives the number, because a zero in front changes nothing and a digit at the end
counts once. Two numbers with the same identifier are therefore equal (`Id.ofNat_injective`), and
no counter ever issues an identifier twice.
-/

namespace BlockScript

open List

namespace Text

theorem readHex_zeros_append (k : Nat) (cs : List Char) :
    readHex (replicate k '0' ++ cs) = readHex cs := by
  induction k with
  | zero => rfl
  | succ k ih => simpa [readHex, replicate_succ, hexValue?] using ih

theorem hexValue?_digitChar {d : Nat} (h : d < 16) : hexValue? d.digitChar = some d := by
  interval_cases d <;> decide

/-- Hexadecimal digits read back as the number they write. -/
theorem readHex_toDigits (n : Nat) : readHex (Nat.toDigits 16 n) = n := by
  induction n using Nat.strongRecOn with
  | _ n ih =>
    rw [Nat.toDigits_eq_if (by omega)]
    split
    · next h => simp [readHex, hexValue?_digitChar h]
    · next h =>
      have hd : n % 16 < 16 := Nat.mod_lt _ (by omega)
      have hq := ih (n / 16) (by omega)
      simp only [readHex] at hq
      simp only [readHex, foldl_append, hq, foldl_cons, hexValue?_digitChar hd,
        foldl_nil]
      omega

end Text

namespace Id

theorem readHex_ofNat (n : Nat) : Text.readHex (ofNat n).toList = n := by
  rw [ofNat, Value.hex, String.toList_ofList, Text.readHex_zeros_append, Text.readHex_toDigits]

/-- **Identifiers never repeat.** -/
theorem ofNat_injective : Function.Injective ofNat := by
  intro m n h
  rw [← readHex_ofNat m, h, readHex_ofNat n]

@[simp] theorem ofNat_inj {m n : Nat} : ofNat m = ofNat n ↔ m = n :=
  ofNat_injective.eq_iff

theorem le_length_ofNat (n : Nat) : 20 ≤ (ofNat n).length := by
  rw [ofNat, Value.hex, String.length_ofList, length_append, length_replicate]
  omega

theorem ofNat_ne_empty (n : Nat) : ofNat n ≠ "" := by
  intro h
  have hlen := le_length_ofNat n
  rw [h] at hlen
  exact absurd hlen (by decide)

end Id

end BlockScript
