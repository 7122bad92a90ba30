import Mathlib.Order.Interval.Set.Basic
import BlockScript.Proofs.Identifier
import BlockScript.Proofs.Run

/-!
# What a step leaves alone

Scripts are put together by changing one table of blocks again and again, so the first thing to know
about a step is what it does *not* do. The identifiers of blocks are numbered in the order in which
they were issued, and a step that builds something new touches what is older in two ways only: it may
hang an older block under a new one, and it may put a block below the one that the script ended
with. `Workspace.Frame` says so, with the number up to which blocks count as old, the block that may
get a successor, and the number of blocks that are added. Frames compose (`Frame.trans`), so the
frame of a long step is found from those of its parts.

Later steps never undo what an earlier one built, but they go on changing the table. What a step has
built is therefore stated of every later table: `Workspace.Later` is the relation of a workspace to
a table that keeps what was made since a given time.
-/

namespace BlockScript

open BlockScript.Id List Nat Option Set Table

/-! ### Tables -/

namespace Table

variable {α : Type} {t u : Table α} {k : String} {v : α}

theorem find?_append (t u : Table α) (k : String) :
    find? (t ++ u) k = (t.find? k).or (u.find? k) := by
  induction t with
  | nil => rfl
  | cons p rest ih =>
    obtain ⟨k', v⟩ := p
    by_cases h : k' = k
    · simp [find?, h]
    · simpa [find?, h] using ih

theorem find?_eq_none_iff : t.find? k = none ↔ k ∉ t.keys := by
  induction t with
  | nil => simp [keys]
  | cons p rest ih =>
    obtain ⟨k', v⟩ := p
    by_cases h : k' = k
    · simp [find?, keys, h]
    · have h' : ¬k = k' := fun hc => h hc.symm
      simpa [find?, keys, h, h'] using ih

theorem has_iff : t.has k = true ↔ ∃ v, t.find? k = some v := by
  rw [has, isSome_iff_exists]

theorem has_adjust (t : Table α) (k k' : String) (f : α → α) :
    (t.adjust k f).has k' = t.has k' := by
  rw [has, has, find?_adjust]
  split
  · rw [isSome_map]
  · rfl

@[simp] theorem length_adjust (t : Table α) (k : String) (f : α → α) :
    (t.adjust k f).length = t.length := by
  have h := congrArg length (keys_adjust t k f)
  simpa only [keys, length_map] using h

theorem mem_of_find? (h : t.find? k = some v) : (k, v) ∈ t := by
  induction t with
  | nil => cases h
  | cons p t ih =>
    obtain ⟨k', v'⟩ := p
    rw [find?] at h
    split at h
    · next hk =>
      cases h
      exact hk ▸ .head _
    · exact .tail _ (ih h)

theorem find?_of_mem (hnodup : t.keys.Nodup) (h : (k, v) ∈ t) : t.find? k = some v := by
  induction t with
  | nil => cases h
  | cons p rest ih =>
    obtain ⟨k', v'⟩ := p
    rw [keys, map_cons, nodup_cons] at hnodup
    rw [find?]
    rcases mem_cons.1 h with heq | hmem
    · cases heq
      rw [if_pos rfl]
    · have hne : k' ≠ k := by
        rintro rfl
        exact hnodup.1 (List.mem_map.2 ⟨_, hmem, rfl⟩)
      rw [if_neg hne]
      exact ih hnodup.2 hmem

theorem mem_keys_iff : k ∈ t.keys ↔ ∃ v, t.find? k = some v := by
  rw [← isSome_iff_exists, ← ne_none_iff_isSome, Ne, find?_eq_none_iff, not_not]

theorem mem_keys_of_find? (h : t.find? k = some v) : k ∈ t.keys := mem_keys_iff.2 ⟨v, h⟩

@[simp] theorem keys_append (t u : Table α) : keys (t ++ u) = t.keys ++ u.keys := map_append

theorem find?_append_of_find? (h : t.find? k = some v) :
    find? (t ++ u) k = some v := by
  rw [find?_append, h, some_or]

theorem find?_append_of_not_mem (h : k ∉ t.keys) :
    find? (t ++ u) k = u.find? k := by
  rw [find?_append, find?_eq_none_iff.2 h, none_or]

theorem find?_append_cases (h : find? (t ++ u) k = some v) :
    t.find? k = some v ∨ u.find? k = some v := by
  rw [find?_append] at h
  exact (or_eq_some_iff.1 h).imp_right And.right

theorem find?_singleton {k' : String} {a : α} (h : find? [(k', a)] k = some v) :
    k = k' ∧ v = a := by
  rw [find?] at h
  split at h
  · next hk => exact ⟨hk.symm, (some.inj h).symm⟩
  · cases h

theorem mem_of_mem_set {p : String × α} (h : p ∈ t.set k v) : p ∈ t ∨ p = (k, v) := by
  induction t with
  | nil => exact .inr (List.mem_singleton.1 h)
  | cons q rest ih =>
    obtain ⟨k', a⟩ := q
    rw [set] at h
    split at h
    · next hk =>
      rcases mem_cons.1 h with rfl | hrest
      · exact .inr (by rw [hk])
      · exact .inl (.tail _ hrest)
    · rcases mem_cons.1 h with rfl | hrest
      · exact .inl (.head _)
      · exact (ih hrest).imp_left (.tail _)

theorem adjust_of_find?_eq_none {f : α → α} (h : t.find? k = none) : t.adjust k f = t := by
  induction t with
  | nil => rfl
  | cons p rest ih =>
    obtain ⟨k', a⟩ := p
    by_cases hk : k' = k
    · simp [find?, hk] at h
    · simp only [find?, hk, if_false] at h
      simp [adjust, hk, ih h]

theorem adjust_append {f : α → α} (h : k ∈ t.keys) :
    adjust (t ++ u) k f = t.adjust k f ++ u := by
  induction t with
  | nil => cases h
  | cons p rest ih =>
    obtain ⟨k', a⟩ := p
    by_cases hk : k' = k
    · simp [adjust, hk]
    · have hrest : k ∈ keys rest := by
        rcases mem_cons.1 h with hc | hc
        · exact absurd hc.symm hk
        · exact hc
      simpa [adjust, hk] using ih hrest

/-- The first key was stored before the second. -/
def Before (t : Table α) (a b : String) : Prop := List.Sublist [a, b] t.keys

theorem Before.mono {a b : String} (h : t.Before a b) (hkeys : t.keys <+: u.keys) :
    u.Before a b :=
  h.trans hkeys.sublist

theorem before_of_new {a b : String} (ha : a ∈ t.keys) (hb : b ∈ u.keys)
    (hnew : b ∉ t.keys) (hkeys : t.keys <+: u.keys) : u.Before a b := by
  obtain ⟨ks, hks⟩ := hkeys
  rw [Before, ← hks]
  rw [← hks, mem_append] at hb
  exact (singleton_sublist.2 ha).append (singleton_sublist.2 (hb.resolve_left hnew))

end Table

/-! ### Blocks that differ in their links only -/

/-- The second block is the first, with other links to the blocks around it. -/
def Block.Like (b b' : Block) : Prop := b' = { b with next := b'.next, parent := b'.parent }

namespace Block

theorem Like.refl (b : Block) : b.Like b := rfl

theorem Like.trans {a b c : Block} (h : a.Like b) (h' : b.Like c) : a.Like c := by
  rw [Like] at *
  rw [h', h]

theorem like_setParent (b : Block) (p : Option Id) : b.Like { b with parent := p } := rfl

theorem like_setNext (b : Block) (n : Option Id) : b.Like { b with next := n } := rfl

variable {a b : Block}

theorem Like.setInputs (h : a.Like b) (inputs : Table Input) :
    Like { a with inputs } { b with inputs } := by
  rw [Like] at *
  rw [h]

theorem Like.setInput (h : a.Like b) (name : String) (i : Input) :
    (a.setInput name i).Like (b.setInput name i) := by
  rw [Like] at *
  rw [h]
  rfl

theorem Like.setFields (h : a.Like b) (fields : Table Field) :
    Like { a with fields } { b with fields } := by
  rw [Like] at *
  rw [h]

theorem Like.setOpcode (h : a.Like b) (opcode : String) :
    Like { a with opcode } { b with opcode } := by
  rw [Like] at *
  rw [h]

end Block

namespace Table

/-- The blocks with the given numbers are kept, and so are their successors, except that of
`last`. -/
def Kept (S : Set Nat) (last : Option Id) (t t' : Table Block) : Prop :=
  ∀ j ∈ S, ∀ b, t.find? (Id.ofNat j) = some b →
    ∃ b', t'.find? (Id.ofNat j) = some b' ∧ b.Like b' ∧
      (last ≠ some (Id.ofNat j) → b'.next = b.next)

variable {S : Set Nat} {last : Option Id} {t t' t'' : Table Block}

theorem Kept.refl (S : Set Nat) (last : Option Id) (t : Table Block) : Kept S last t t :=
  fun _ _ b h => ⟨b, h, Block.Like.refl b, fun _ => rfl⟩

theorem Kept.trans (h : Kept S last t t') (h' : Kept S last t' t'') : Kept S last t t'' := by
  intro j hj b hb
  obtain ⟨b', hb', hlike, hnext⟩ := h j hj b hb
  obtain ⟨b'', hb'', hlike', hnext'⟩ := h' j hj b' hb'
  exact ⟨b'', hb'', hlike.trans hlike', fun hl => (hnext' hl).trans (hnext hl)⟩

/-- Fewer blocks are kept, and more may get a successor. -/
theorem Kept.mono {S' : Set Nat} {last' : Option Id} (h : Kept S last t t') (hS : S' ⊆ S)
    (hlast : ∀ j ∈ S', last = some (ofNat j) → last' = some (ofNat j)) :
    Kept S' last' t t' := by
  intro j hj b hb
  obtain ⟨b', hb', hlike, hnext⟩ := h j (hS hj) b hb
  exact ⟨b', hb', hlike, fun hl => hnext fun hc => hl (hlast j hj hc)⟩

theorem Kept.append (S : Set Nat) (last : Option Id) (t u : Table Block) :
    Kept S last t (t ++ u) := by
  intro j _ b hb
  refine ⟨b, ?_, Block.Like.refl b, fun _ => rfl⟩
  rw [find?_append, hb, some_or]

theorem Kept.adjust {id : Id} {f : Block → Block}
    (h : ∀ j ∈ S, ofNat j = id →
      ∀ b : Block, b.Like (f b) ∧ (last ≠ some id → (f b).next = b.next)) :
    Kept S last t (t.adjust id f) := by
  intro j hj b hb
  rw [find?_adjust]
  by_cases hid : id = ofNat j
  · rw [if_pos hid, hb]
    obtain ⟨hlike, hnext⟩ := h j hj hid.symm b
    exact ⟨f b, rfl, hlike, fun hl => hnext (hid ▸ hl)⟩
  · rw [if_neg hid]
    exact ⟨b, hb, Block.Like.refl b, fun _ => rfl⟩

/-- The blocks that stand on their own, in order. -/
def tops (t : Table Block) : List Id := (t.filter (·.2.topLevel)).map Prod.fst

theorem tops_append (t u : Table Block) : tops (t ++ u) = tops t ++ tops u := by
  rw [tops, filter_append, map_append]
  rfl

theorem tops_adjust {f : Block → Block} (hf : ∀ b, (f b).topLevel = b.topLevel) (id : Id)
    (t : Table Block) : tops (t.adjust id f) = tops t := by
  induction t with
  | nil => rfl
  | cons p rest ih =>
    obtain ⟨k, b⟩ := p
    simp only [tops] at ih
    by_cases hk : k = id
    · by_cases hb : b.topLevel = true <;> simp [adjust, tops, hk, hf, hb]
    · by_cases hb : b.topLevel = true <;> simp [adjust, tops, hk, hb, ih]

end Table

namespace Workspace

/-! ### Numbered blocks -/

/-- The blocks were stored in the order of their numbers, and all numbers were issued. -/
def Tracked (w : Workspace) : Prop :=
  ∃ ns : List Nat, w.blocks.keys = ns.map Id.ofNat ∧ ns.Pairwise (· < ·) ∧
    ∀ n ∈ ns, 0 < n ∧ n ≤ w.issued

variable {w w' w'' : Workspace}

theorem Tracked.find?_eq_none (h : w.Tracked) {n : Nat} (hn : w.issued < n) :
    w.blocks.find? (ofNat n) = none := by
  obtain ⟨ns, hkeys, -, hns⟩ := h
  rw [find?_eq_none_iff, hkeys, List.mem_map]
  rintro ⟨m, hm, heq⟩
  have := (hns m hm).2
  rw [ofNat_inj] at heq
  omega

/-- The next identifier is not in use yet. -/
def Free (w : Workspace) : Prop := w.blocks.find? (Id.ofNat (w.issued + 1)) = none

theorem Tracked.free (h : w.Tracked) : w.Free := h.find?_eq_none (lt_succ_self _)

variable {b : Block} {j : Nat}

theorem Tracked.exists_number (h : w.Tracked) {id : Id} (hb : w.blocks.find? id = some b) :
    ∃ n, id = ofNat n ∧ 0 < n ∧ n ≤ w.issued := by
  obtain ⟨ns, hkeys, -, hns⟩ := h
  have hid : id ∈ w.blocks.keys := by
    by_contra hc
    rw [find?_eq_none_iff.2 hc] at hb
    cases hb
  rw [hkeys, List.mem_map] at hid
  obtain ⟨n, hn, rfl⟩ := hid
  exact ⟨n, rfl, hns n hn⟩

theorem Tracked.nodup (h : w.Tracked) : w.blocks.keys.Nodup := by
  obtain ⟨ns, hkeys, hns, -⟩ := h
  rw [hkeys]
  exact (hns.imp Nat.ne_of_lt).map _ fun _ _ hne hc => hne (ofNat_injective hc)

theorem Tracked.of_keys_eq (h : w.Tracked) (hkeys : w'.blocks.keys = w.blocks.keys)
    (hissued : w.issued ≤ w'.issued) : w'.Tracked := by
  obtain ⟨ns, hns, hsorted, hle⟩ := h
  exact ⟨ns, hkeys.trans hns, hsorted, fun n hn => ⟨(hle n hn).1, (hle n hn).2.trans hissued⟩⟩

/-! ### The elementary changes -/

/-- A new block at the end. -/
def push (w : Workspace) (b : Block) : Workspace :=
  { w with
    issued := w.issued + 1
    blocks := w.blocks ++ [(Id.ofNat (w.issued + 1), b)] }

/-- A change of one block. -/
def amend (w : Workspace) (id : Id) (f : Block → Block) : Workspace :=
  { w with blocks := w.blocks.adjust id f }

/-- A new variable. -/
def declare (w : Workspace) (x : String) (v : Value) : Workspace :=
  { w with
    issued := w.issued + 1
    vars := w.vars ++ [{ name := x, id := Id.ofNat (w.issued + 1), initial := v }] }

theorem find?_push (h : w.Free) (b : Block) :
    (w.push b).blocks.find? (ofNat (w.issued + 1)) = some b := by
  rw [push, Table.find?_append, h, none_or, Table.find?, if_pos rfl]

theorem find?_amend {id : Id} (h : w.blocks.find? id = some b) (f : Block → Block) :
    (w.amend id f).blocks.find? id = some (f b) := by
  rw [amend, find?_adjust, if_pos rfl, h]
  rfl

theorem find?_amend_of_ne {id k : Id} (h : id ≠ k) (f : Block → Block) :
    (w.amend id f).blocks.find? k = w.blocks.find? k := by
  rw [amend, find?_adjust, if_neg h]

theorem find?_amend_cases {id k : Id} {f : Block → Block} {c : Block}
    (h : (w.amend id f).blocks.find? k = some c) :
    ∃ a, w.blocks.find? k = some a ∧ (k ≠ id ∧ c = a ∨ k = id ∧ c = f a) := by
  rw [amend, find?_adjust] at h
  split at h
  · next hk =>
    obtain ⟨a, ha, rfl⟩ := map_eq_some_iff.1 h
    exact ⟨a, ha, .inr ⟨hk.symm, rfl⟩⟩
  · next hk => exact ⟨c, h, .inl ⟨Ne.symm hk, rfl⟩⟩

/-! ### Frames -/

/-- Blocks with numbers up to `base` are kept, apart from their parents and the successor of `last`;
`n` blocks are added, none of which stands on its own; and nothing else changes than the blocks, the
variables and the place where the script goes on. -/
structure Frame (base : Nat) (last : Option Id) (n : Nat) (w w' : Workspace) : Prop where
  issued : w.issued ≤ w'.issued
  tracked : w'.Tracked
  kept : Table.Kept (Set.Iic base) last w.blocks w'.blocks
  count : w'.blocks.length = w.blocks.length + n
  tops : w'.blocks.tops = w.blocks.tops
  vars : w.vars <+: w'.vars
  rest : w' = { w with
    issued := w'.issued
    blocks := w'.blocks
    vars := w'.vars
    previous := w'.previous }

variable {base n m : Nat} {last : Option Id}

theorem Frame.refl (h : w.Tracked) (base : Nat) (last : Option Id) : Frame base last 0 w w :=
  ⟨Nat.le_refl _, h, Table.Kept.refl _ _ _, rfl, rfl, prefix_refl _, rfl⟩

theorem Frame.trans (h : Frame base last n w w') (h' : Frame base last m w' w'') :
    Frame base last (n + m) w w'' where
  issued := h.issued.trans h'.issued
  tracked := h'.tracked
  kept := h.kept.trans h'.kept
  count := by rw [h'.count, h.count, Nat.add_assoc]
  tops := h'.tops.trans h.tops
  vars := h.vars.trans h'.vars
  rest := by rw [h'.rest, h.rest]

/-- A frame also holds with an earlier time, as long as the block that may get a successor is not
older. -/
theorem Frame.mono {base' : Nat} {last' : Option Id} (h : Frame base' last' n w w')
    (hbase : base ≤ base')
    (hlast : ∀ j, j ≤ base → last' = some (ofNat j) → last = some (ofNat j)) :
    Frame base last n w w' :=
  { h with kept := h.kept.mono (fun _ hj => Nat.le_trans hj hbase) hlast }

/-- An old block is still there afterwards. -/
theorem Frame.find? (h : Frame base last n w w') (hj : j ≤ base)
    (hb : w.blocks.find? (ofNat j) = some b) :
    ∃ b', w'.blocks.find? (ofNat j) = some b' ∧ b.Like b' ∧
      (last ≠ some (ofNat j) → b'.next = b.next) :=
  h.kept j hj b hb

/-- Where no block may get a successor, the time and the exception are free. -/
theorem Frame.of_none {base' : Nat} (h : Frame base' none n w w') (hbase : base ≤ base') :
    Frame base last n w w' :=
  h.mono hbase fun _ _ hc => by cases hc

theorem frame_setPrevious (h : w.Tracked) (p : Option Id) :
    Frame base last 0 w { w with previous := p } :=
  { Frame.refl h base last with
    tracked := h.of_keys_eq rfl (Nat.le_refl _)
    rest := rfl }

theorem frame_declare (h : w.Tracked) (x : String) (v : Value) :
    Frame base last 0 w (w.declare x v) where
  issued := le_succ _
  tracked := h.of_keys_eq rfl (le_succ _)
  kept := Table.Kept.refl _ _ _
  count := rfl
  tops := rfl
  vars := prefix_append _ _
  rest := rfl

theorem Tracked.push (h : w.Tracked) (b : Block) : (w.push b).Tracked := by
  obtain ⟨ns, hkeys, hsorted, hle⟩ := h
  refine ⟨ns ++ [w.issued + 1], ?_, ?_, ?_⟩
  · simp only [Table.keys] at hkeys
    simp [Workspace.push, Table.keys, hkeys]
  · refine pairwise_append.2 ⟨hsorted, List.pairwise_singleton _ _, ?_⟩
    intro n hn m hm
    rw [List.mem_singleton.1 hm]
    exact lt_succ_of_le (hle n hn).2
  · intro n hn
    rcases mem_append.1 hn with hn | hn
    · exact ⟨(hle n hn).1, (hle n hn).2.trans (le_succ _)⟩
    · rw [List.mem_singleton.1 hn]
      exact ⟨succ_pos _, Nat.le_refl _⟩

theorem frame_push (h : w.Tracked) (hb : b.topLevel = false) : Frame base last 1 w (w.push b) where
  issued := le_succ _
  tracked := h.push b
  kept := Table.Kept.append _ _ _ _
  count := by rw [push, length_append]; rfl
  tops := by
    rw [push, tops_append]
    simp [tops, hb]
  vars := prefix_refl _
  rest := rfl

/-- The frame of a change of one block, if that block is newer, or only its links change. -/
theorem frame_amend (h : w.Tracked) {id : Id} {f : Block → Block}
    (htop : ∀ b, (f b).topLevel = b.topLevel)
    (hf : ∀ j, j ≤ base → ofNat j = id →
      ∀ b : Block, b.Like (f b) ∧ (last ≠ some id → (f b).next = b.next)) :
    Frame base last 0 w (w.amend id f) where
  issued := Nat.le_refl _
  tracked := h.of_keys_eq (keys_adjust _ _ _) (Nat.le_refl _)
  kept := Table.Kept.adjust hf
  count := length_adjust _ _ _
  tops := tops_adjust htop _ _
  vars := prefix_refl _
  rest := rfl

/-- A change of a new block is no change of an old one. -/
theorem frame_amend_new (h : w.Tracked) (hj : base < j) {f : Block → Block}
    (htop : ∀ b, (f b).topLevel = b.topLevel) : Frame base last 0 w (w.amend (ofNat j) f) :=
  frame_amend h htop fun k hk heq => by
    rw [ofNat_inj] at heq
    omega

theorem frame_setParent (h : w.Tracked) (id : Id) (p : Option Id) :
    Frame base last 0 w (w.amend id fun b => { b with parent := p }) :=
  frame_amend h (fun _ => rfl) fun _ _ _ b => ⟨b.like_setParent p, fun _ => rfl⟩

theorem frame_setNext (h : w.Tracked) (id : Id) (n : Option Id) :
    Frame base (some id) 0 w (w.amend id fun b => { b with next := n }) :=
  frame_amend h (fun _ => rfl) fun _ _ _ b => ⟨b.like_setNext n, fun hc => absurd rfl hc⟩

/-! ### Later tables -/

/-- The blocks with the given numbers are the same, apart from their parents. -/
structure Keeps (S : Set Nat) (w w' : Workspace) : Prop where
  kept : Table.Kept S none w.blocks w'.blocks
  vars : w.vars <+: w'.vars

variable {S : Set Nat}

theorem Keeps.trans (h : Keeps S w w') (h' : Keeps S w' w'') : Keeps S w w'' :=
  ⟨h.kept.trans h'.kept, h.vars.trans h'.vars⟩

theorem Frame.keeps (h : Frame base none n w w') (hS : S ⊆ Iic base) : Keeps S w w' :=
  ⟨h.kept.mono hS fun _ _ hc => hc, h.vars⟩

/-- A block that got a successor does not matter to the others. -/
theorem Frame.keeps_of_not_mem (h : Frame base last n w w') (hS : S ⊆ Iic base)
    (hlast : ∀ j ∈ S, last ≠ some (ofNat j)) : Keeps S w w' :=
  ⟨h.kept.mono hS fun j hj hc => absurd hc (hlast j hj), h.vars⟩

/-- The table keeps the blocks of the workspace with the given numbers, except that `last` may have
got a successor; and the variables are still there. -/
structure Later (S : Set Nat) (last : Option Id) (w : Workspace) (t : Table Block)
    (vs : List Variable) : Prop where
  kept : Table.Kept S last w.blocks t
  vars : ∀ v ∈ w.vars, v ∈ vs

variable {t : Table Block} {vs : List Variable}

theorem Later.self (S : Set Nat) (w : Workspace) : Later S none w w.blocks w.vars :=
  ⟨Table.Kept.refl _ _ _, fun _ hv => hv⟩

/-- What is later than the end of a step is later than its start, as to old blocks. -/
theorem Later.of_frame (h : Later S last w' t vs) (hf : Frame base last n w w')
    (hS : S ⊆ Iic base) : Later S last w t vs where
  kept := (hf.kept.mono hS fun _ _ hc => hc).trans h.kept
  vars v hv := h.vars v (hf.vars.subset hv)

theorem Later.of_keeps (h : Later S none w' t vs) (hk : Keeps S w w') : Later S none w t vs where
  kept := hk.kept.trans h.kept
  vars v hv := h.vars v (hk.vars.subset hv)

theorem Later.of_last {k : Nat} (h : Later S (some (ofNat k)) w t vs) (hk : k ∉ S) :
    Later S none w t vs where
  kept := h.kept.mono (fun _ hj => hj) fun j hj hc => by
    rw [some_inj, ofNat_inj] at hc
    exact absurd (hc ▸ hj) hk
  vars := h.vars

theorem Later.weaken_last (h : Later S none w t vs) (last : Option Id) : Later S last w t vs where
  kept := h.kept.mono (fun _ hj => hj) fun _ _ hc => by cases hc
  vars := h.vars

theorem Later.mono {S' : Set Nat} (h : Later S last w t vs) (hS : S' ⊆ S) :
    Later S' last w t vs :=
  ⟨h.kept.mono hS fun _ _ hc => hc, h.vars⟩

theorem Later.find? (h : Later S last w t vs) (hj : j ∈ S)
    (hb : w.blocks.find? (ofNat j) = some b) : ∃ b', t.find? (ofNat j) = some b' ∧ b.Like b' ∧
      (last ≠ some (ofNat j) → b'.next = b.next) :=
  h.kept j hj b hb

/-- Something was built: it is made of blocks with numbers in `S`, it is found under `id`, and it is
there in every table that keeps these blocks. -/
structure Built (S : Set Nat) (w : Workspace) (P : Table Block → List Variable → Id → Prop)
    (id : Id) : Prop where
  mem : ∃ j ∈ S, id = Id.ofNat j
  has : w.blocks.has id = true
  holds : ∀ t vs, Later S none w t vs → P t vs id

variable {P : Table Block → List Variable → Id → Prop} {id : Id}

theorem Built.of_keeps (h : Built S w P id) (hk : Keeps S w w') : Built S w' P id where
  mem := h.mem
  has := by
    obtain ⟨j, hj, rfl⟩ := h.mem
    obtain ⟨b, hb⟩ := has_iff.1 h.has
    obtain ⟨b', hb', -, -⟩ := hk.kept j hj b hb
    exact has_iff.2 ⟨b', hb'⟩
  holds t vs ht := h.holds t vs (ht.of_keeps hk)

theorem Built.mono {S' : Set Nat} (h : Built S w P id) (hS : S ⊆ S') : Built S' w P id where
  mem := by
    obtain ⟨j, hj, hid⟩ := h.mem
    exact ⟨j, hS hj, hid⟩
  has := h.has
  holds t vs ht := h.holds t vs (ht.mono hS)

theorem Built.imp {Q : Table Block → List Variable → Id → Prop} (h : Built S w P id)
    (hPQ : ∀ t vs, P t vs id → Q t vs id) : Built S w Q id :=
  ⟨h.mem, h.has, fun t vs ht => hPQ t vs (h.holds t vs ht)⟩

/-! ### Blocks that are being completed -/

/-- The block with the given number, which has no successor. -/
def Holds (w : Workspace) (k : Nat) (a : Block) : Prop :=
  ∃ b, w.blocks.find? (Id.ofNat k) = some b ∧ a.Like b ∧ b.next = none

variable {k : Nat} {a : Block}

theorem Holds.has (h : w.Holds k a) : w.blocks.has (ofNat k) := by
  obtain ⟨b, hb, -⟩ := h
  exact has_iff.2 ⟨b, hb⟩

theorem Holds.of_frame (h : w.Holds k a) (hf : Frame base none n w w') (hk : k ≤ base) :
    w'.Holds k a := by
  obtain ⟨b, hb, hlike, hnext⟩ := h
  obtain ⟨b', hb', hlike', hnext'⟩ := hf.find? hk hb
  exact ⟨b', hb', hlike.trans hlike', (hnext' (by simp)).trans hnext⟩

theorem Holds.at_later (h : w.Holds k a) (ht : Later S last w t vs) (hk : k ∈ S) :
    ∃ b, t.find? (ofNat k) = some b ∧ a.Like b := by
  obtain ⟨b, hb, hlike, -⟩ := h
  obtain ⟨b', hb', hlike', -⟩ := ht.find? hk hb
  exact ⟨b', hb', hlike.trans hlike'⟩

/-- One block is changed in more than its links, and `n` blocks are added; older blocks may be hung
under new parents. -/
structure Completes (k : Nat) (f : Block → Block) (n : Nat) (w w' : Workspace) : Prop where
  tracked : w'.Tracked
  frame : ∀ base < k, Frame base none n w w'
  issued : w.issued ≤ w'.issued
  previous : w'.previous = w.previous
  vars : w.vars <+: w'.vars
  kept : Table.Kept (Set.Iic w.issued \ {k}) none w.blocks w'.blocks
  holds : ∀ a, w.Holds k a → w'.Holds k (f a)

theorem completes_amend (h : w.Tracked) (k : Nat) {f : Block → Block}
    (htop : ∀ b, (f b).topLevel = b.topLevel) (hnext : ∀ b, (f b).next = b.next)
    (hlike : ∀ a b : Block, a.Like b → (f a).Like (f b)) :
    Completes k f 0 w (w.amend (ofNat k) f) where
  tracked := h.of_keys_eq (keys_adjust _ _ _) (Nat.le_refl _)
  frame base hk := frame_amend_new h hk htop
  issued := Nat.le_refl _
  previous := rfl
  vars := prefix_refl _
  kept := Table.Kept.adjust fun j hj heq => absurd (ofNat_inj.1 heq) hj.2
  holds := by
    rintro a ⟨b, hb, hab, hn⟩
    exact ⟨f b, find?_amend hb f, hlike a b hab, (hnext b).trans hn⟩

variable {f g : Block → Block}

/-- A step that leaves all older blocks alone. -/
theorem Frame.completes (h : Frame w.issued none n w w') (hk : k ≤ w.issued)
    (hprev : w'.previous = w.previous) : Completes k (fun b => b) n w w' where
  tracked := h.tracked
  frame _ hb := h.of_none (Nat.le_of_lt (Nat.lt_of_lt_of_le hb hk))
  issued := h.issued
  previous := hprev
  vars := h.vars
  kept := h.kept.mono sdiff_subset fun _ _ hc => hc
  holds _ ha := ha.of_frame h hk

theorem Completes.trans (h : Completes k f n w w') (h' : Completes k g m w' w'') :
    Completes k (g ∘ f) (n + m) w w'' where
  tracked := h'.tracked
  frame base hb := (h.frame base hb).trans (h'.frame base hb)
  issued := h.issued.trans h'.issued
  previous := h'.previous.trans h.previous
  vars := h.vars.trans h'.vars
  kept := h.kept.trans (h'.kept.mono
    (sdiff_subset_sdiff_left (Iic_subset_Iic.2 h.issued)) fun _ _ hc => hc)
  holds a ha := h'.holds _ (h.holds a ha)

theorem Completes.keeps (h : Completes k f n w w') (hS : S ⊆ Iic w.issued) (hk : k ∉ S) :
    Keeps S w w' :=
  ⟨h.kept.mono (fun _ hj => ⟨hS hj, fun heq => hk (heq ▸ hj)⟩) fun _ _ hn => hn, h.vars⟩

end Workspace

end BlockScript
