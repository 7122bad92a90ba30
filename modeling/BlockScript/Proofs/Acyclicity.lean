import Mathlib.Data.Finset.Card
import BlockScript.Proofs.Scripts

/-!
# Sound scripts have no circles

In sound scripts every reference from block to block can be given a direction: there is a height,
not larger than the number of blocks, that falls along every reference
(`Scripts.Sound.exists_height`). Statements refer to later statements and to parts, and parts to
parts of a lower rank, so statements are placed above all parts, the first one highest.
-/

namespace BlockScript

open Finset List

/-- In a table without repeated keys, an earlier key has a smaller index. -/
theorem Table.Before.idxOf_lt {α : Type} {t : Table α} {a b : String} (h : t.Before a b)
    (ht : t.keys.Nodup) : t.keys.idxOf a < t.keys.idxOf b := by
  rw [Before] at h
  generalize t.keys = ks at h ht ⊢
  induction ks with
  | nil => cases h
  | cons k ks ih =>
    obtain ⟨hk, hnodup⟩ := nodup_cons.1 ht
    rcases sublist_cons_iff.1 h with hrest | ⟨rest, heq, hrest⟩
    · have hne : ∀ x ∈ [a, b], k ≠ x := fun x hx hc => hk (hc ▸ hrest.subset hx)
      rw [idxOf_cons_ne _ (hne a (by simp)), idxOf_cons_ne _ (hne b (by simp))]
      exact Nat.succ_lt_succ (ih hrest hnodup)
    · cases heq
      have hne : a ≠ b := fun hc => hk (hc ▸ singleton_sublist.1 hrest)
      rw [idxOf_cons_self, idxOf_cons_ne _ hne]
      exact Nat.succ_pos _

namespace Scripts

variable {s : Scripts} {id r : Id} {b : Block}

/-- The first block leads to the second: it is above it, or the second is in one of its inputs. -/
def Leads (s : Scripts) (id r : Id) : Prop :=
  ∃ b, s.blocks.find? id = some b ∧ (b.next = some r ∨ r ∈ b.plugged)

theorem Sound.mem_keys_of_leads (h : s.Sound) (hb : s.blocks.find? id = some b)
    (hr : b.next = some r ∨ r ∈ b.plugged) : r ∈ s.blocks.keys := by
  rcases hr with hnext | hplugged
  · exact ((h.block id b hb).next r hnext).2.1.mem_keys
  · exact h.mem_keys_of_plugged hb hplugged

/-- A block leads to a later statement, or to a part; if it is a part itself, then by an input. -/
theorem Sound.leads_cases (h : s.Sound) (hb : s.blocks.find? id = some b)
    (hr : b.next = some r ∨ r ∈ b.plugged) :
    (s.Statement id ∧ s.Statement r ∧ s.blocks.Before id r) ∨
      ((∃ shadow, s.Part shadow r) ∧ r ∈ b.plugged) := by
  have hsound := h.block id b hb
  rcases hr with hnext | hplugged
  · exact .inl (hsound.next r hnext)
  · obtain ⟨p, hp, htarget⟩ := Block.mem_plugged.1 hplugged
    have hfits := hsound.inputs p hp
    rw [Input.Fits] at hfits
    split at hfits
    · obtain ⟨r', hi, hid, hr', hbefore⟩ := hfits
      rw [hi] at htarget
      cases htarget
      exact .inl ⟨hid, hr', hbefore⟩
    · exact .inr ⟨hfits.part htarget, hplugged⟩

/-- Whether there is a statement under the identifier. -/
def isStatement (s : Scripts) (id : Id) : Bool := (s.blocks.find? id).any fun b => !b.isPart

theorem Statement.isStatement (h : s.Statement id) : s.isStatement id := by
  obtain ⟨b, hb, hpart⟩ := h
  rw [Scripts.isStatement, hb, Option.any_some, hpart]
  rfl

theorem Part.isStatement {shadow : Bool} (h : s.Part shadow id) : s.isStatement id = false := by
  obtain ⟨b, hb, hpart, -⟩ := h
  rw [Scripts.isStatement, hb, Option.any_some, hpart]
  rfl

/-- Parts are placed by their rank, statements above them in reverse order. -/
def place (s : Scripts) (rank : Id → Nat) (id : Id) : Nat :=
  if s.isStatement id then
    (s.blocks.keys.map rank).sum + (s.blocks.keys.length - s.blocks.keys.idxOf id)
  else rank id

theorem Sound.place_lt (h : s.Sound) {rank : Id → Nat} (hrank : s.Ranked rank)
    (hlead : s.Leads id r) : s.place rank r < s.place rank id := by
  obtain ⟨b, hb, hr⟩ := hlead
  have hid : s.blocks.keys.idxOf id < s.blocks.keys.length :=
    idxOf_lt_length_of_mem (Table.mem_keys_of_find? hb)
  rcases h.leads_cases hb hr with ⟨hid', hr', hbefore⟩ | ⟨⟨shadow, hpart⟩, hplugged⟩
  · have hlt := hbefore.idxOf_lt h.nodup
    rw [place, place, if_pos hid'.isStatement, if_pos hr'.isStatement]
    omega
  · rw [place, place, hpart.isStatement]
    cases hkind : b.isPart with
    | true =>
      have hpart' : s.Part b.shadow id := ⟨b, hb, hkind, rfl⟩
      rw [hpart'.isStatement]
      exact hrank id b hb hkind r hplugged
    | false =>
      have hstatement : s.Statement id := ⟨b, hb, hkind⟩
      have hle : rank r ≤ (s.blocks.keys.map rank).sum :=
        List.single_le_sum (fun _ _ => Nat.zero_le _) _ (List.mem_map_of_mem hpart.mem_keys)
      rw [if_pos hstatement.isStatement]
      simp only [Bool.false_eq_true, if_false]
      omega

/-- **A height falls along every reference.** -/
theorem Sound.exists_height (h : s.Sound) : ∃ height : Id → Nat,
    (∀ id r, s.Leads id r → height r < height id) ∧ ∀ id, height id ≤ s.blocks.length := by
  obtain ⟨rank, hrank⟩ := h.ranked
  -- the height of a block is the number of blocks that are placed below it
  refine ⟨fun id => (s.blocks.keys.toFinset.filter (s.place rank · < s.place rank id)).card,
    fun id r hlead => card_lt_card ?_, fun id => ?_⟩
  · have hlt := h.place_lt hrank hlead
    refine ssubset_iff_of_subset (fun k hk => ?_) |>.2 ⟨r, ?_, ?_⟩
    · rw [Finset.mem_filter] at hk ⊢
      exact ⟨hk.1, hk.2.trans hlt⟩
    · obtain ⟨b, hb, hr⟩ := hlead
      rw [Finset.mem_filter, mem_toFinset]
      exact ⟨h.mem_keys_of_leads hb hr, hlt⟩
    · rw [Finset.mem_filter]
      exact fun hc => Nat.lt_irrefl _ hc.2
  · calc (s.blocks.keys.toFinset.filter (s.place rank · < s.place rank id)).card
        ≤ s.blocks.keys.toFinset.card := card_filter_le _ _
      _ ≤ s.blocks.keys.length := toFinset_card_le _
      _ = s.blocks.length := length_map _

/-- There is no way from block to block without an end. -/
theorem Sound.not_exists_path (h : s.Sound) :
    ¬∃ path : Nat → Id, ∀ k, s.Leads (path k) (path (k + 1)) := by
  rintro ⟨path, hpath⟩
  obtain ⟨height, hfalls, -⟩ := h.exists_height
  have hsum : ∀ k, height (path k) + k ≤ height (path 0) := by
    intro k
    induction k with
    | zero => exact Nat.le_refl _
    | succ k ih =>
      have hlt := hfalls _ _ (hpath k)
      omega
  have hall := hsum (height (path 0) + 1)
  omega

end Scripts

end BlockScript
