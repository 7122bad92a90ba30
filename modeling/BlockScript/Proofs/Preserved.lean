import BlockScript.Proofs.Soundness

/-!
# Blocks that are preserved

Edits say of an old block that its inputs and fields stay; they do not say under which block it
hangs, since a value that is plugged in is hung only then. `Workspace.Preserves` is what can be said of
blocks that were there before a whole statement: nothing of them changes but, where the script
stands, the block below, and no other block comes to refer to them. `Workspace.Edited` joins it to
the edits, for a list of held blocks that may be shorter than that of the old ones: a block at hand
is old to the steps in between, but its operands are hung under it.
-/

namespace BlockScript

open Block BlockScript.Id Table

/-- The blocks that a block refers to: the one below it, and what is plugged in. -/
def Block.refs (b : Block) : List Id := b.next.toList ++ b.plugged

theorem Block.mem_refs {b : Block} {r : Id} : r ∈ b.refs ↔ b.next = some r ∨ r ∈ b.plugged := by
  rw [refs, List.mem_append, Option.mem_toList]

namespace Workspace

/-- The given blocks keep everything but the block below, which changes only where the script stands
and then to another one, and nobody comes to refer to them. A statement may hang below the place
where the script stands. -/
structure Preserves (held : List Id) (w w' : Workspace) : Prop where
  kept : ∀ id ∈ held, ∀ b, w.blocks.find? id = some b →
    ∃ n, w'.blocks.find? id = some { b with next := n } ∧
      (n = b.next ∨ w.previous = some id ∧ ∃ r, n = some r ∧ r ∉ held)
  refs : ∀ id b', w'.blocks.find? id = some b' → ∀ r ∈ b'.refs, r ∈ held →
    ∃ b, w.blocks.find? id = some b ∧ r ∈ b.refs
  parent : ∀ id b', w'.blocks.find? id = some b' → ∀ p ∈ held, b'.parent = some p →
    w.previous = some p ∨ ∃ b, w.blocks.find? id = some b ∧ b.parent = some p
  previous : ∀ p ∈ held, w'.previous = some p → w.previous = some p

variable {L : Licence} {held old : List Id} {w w' w'' : Workspace} {id : Id} {b : Block}

theorem Preserves.trans (h : Preserves held w w') (h' : Preserves held w' w'') :
    Preserves held w w'' where
  kept id hid b hb := by
    obtain ⟨n, hn, hcases⟩ := h.kept id hid b hb
    obtain ⟨n', hn', hcases'⟩ := h'.kept id hid _ hn
    refine ⟨n', hn', ?_⟩
    rcases hcases' with rfl | ⟨hprevious, hr⟩
    · exact hcases
    · exact .inr ⟨h.previous id hid hprevious, hr⟩
  refs id b hb r hr hheld := by
    obtain ⟨b', hb', hr'⟩ := h'.refs id b hb r hr hheld
    exact h.refs id b' hb' r hr' hheld
  parent id b hb p hp heq := by
    rcases h'.parent id b hb p hp heq with hprevious | ⟨b', hb', heq'⟩
    · exact .inl (h.previous p hp hprevious)
    · exact h.parent id b' hb' p hp heq'
  previous p hp heq := h.previous p hp (h'.previous p hp heq)

theorem preserves_of_blocks_eq (hblocks : w'.blocks = w.blocks)
    (hprevious : ∀ p ∈ held, w'.previous = some p → w.previous = some p) : Preserves held w w' where
  kept _ _ b hb := ⟨b.next, hblocks ▸ hb, .inl rfl⟩
  refs _ b hb _ hr _ := ⟨b, hblocks ▸ hb, hr⟩
  parent _ b hb _ _ heq := .inr ⟨b, hblocks ▸ hb, heq⟩
  previous := hprevious

theorem Preserves.refl (held : List Id) (w : Workspace) : Preserves held w w :=
  preserves_of_blocks_eq rfl fun _ _ h => h

/-- Blocks are added that refer to none of the given ones. -/
theorem preserves_append {u : Table Block} (hblocks : w'.blocks = w.blocks ++ u)
    (hrefs : ∀ id c, u.find? id = some c → ∀ r ∈ c.refs, r ∉ held)
    (hparent : ∀ id c, u.find? id = some c → ∀ p ∈ held, c.parent = some p → w.previous = some p)
    (hprevious : ∀ p ∈ held, w'.previous = some p → w.previous = some p) : Preserves held w w' where
  kept _ _ b hb := ⟨b.next, hblocks ▸ find?_append_of_find? hb, .inl rfl⟩
  refs id c hc r hr hheld := by
    rw [hblocks] at hc
    rcases find?_append_cases hc with hold | hnew
    · exact ⟨c, hold, hr⟩
    · exact absurd hheld (hrefs id c hnew r hr)
  parent id c hc p hp heq := by
    rw [hblocks] at hc
    rcases find?_append_cases hc with hold | hnew
    · exact .inr ⟨c, hold, heq⟩
    · exact .inl (hparent id c hnew p hp heq)
  previous := hprevious

/-- A block is changed, and comes to refer to none of the given ones. -/
theorem preserves_amend {f : Block → Block}
    (hkept : id ∈ held → ∀ b, w.blocks.find? id = some b → ∃ n, f b = { b with next := n } ∧
      (n = b.next ∨ w.previous = some id ∧ ∃ r, n = some r ∧ r ∉ held))
    (hrefs : ∀ b, w.blocks.find? id = some b → ∀ r ∈ (f b).refs, r ∈ b.refs ∨ r ∉ held)
    (hparent : ∀ b, w.blocks.find? id = some b → ∀ p ∈ held, (f b).parent = some p →
      b.parent = some p) : Preserves held w (w.amend id f) where
  kept k hk c hc := by
    by_cases hkid : id = k
    · subst hkid
      obtain ⟨n, hn, hcases⟩ := hkept hk c hc
      exact ⟨n, hn ▸ find?_amend hc f, hcases⟩
    · exact ⟨c.next, (find?_amend_of_ne hkid f).trans hc, .inl rfl⟩
  refs k c hc r hr hheld := by
    obtain ⟨a, ha, ⟨-, rfl⟩ | ⟨rfl, rfl⟩⟩ := find?_amend_cases hc
    · exact ⟨c, ha, hr⟩
    · rcases hrefs a ha r hr with hold | hnew
      · exact ⟨a, ha, hold⟩
      · exact absurd hheld hnew
  parent k c hc p hp heq := by
    obtain ⟨a, ha, ⟨-, rfl⟩ | ⟨rfl, rfl⟩⟩ := find?_amend_cases hc
    · exact .inr ⟨c, ha, heq⟩
    · exact .inr ⟨a, ha, hparent a ha p hp heq⟩
  previous _ _ heq := heq

theorem preserves_linked (hid : id ∉ held) : Preserves held w (w.linked id) := by
  cases hp : w.previous with
  | none =>
    rw [linked_of_none hp]
    exact Preserves.refl _ _
  | some p =>
    rw [linked_of_some hp]
    refine preserves_amend (fun _ b _ => ⟨some id, rfl, .inr ⟨hp, id, rfl, hid⟩⟩) (fun b _ r hr => ?_)
      fun b _ q _ hq => hq
    rcases mem_refs.1 hr with hnext | hplugged
    · cases hnext
      exact .inr hid
    · exact .inl (mem_refs.2 (.inr hplugged))

theorem previous_linked (w : Workspace) (id : Id) : (w.linked id).previous = w.previous := by
  rw [linked]
  split <;> rfl

theorem preserves_stacked (hheld : ∀ i ∈ held, Issued w.issued i) (hnext : b.next = none)
    (hb : ∀ r ∈ b.plugged, r ∉ held) : Preserves held w (w.stacked b) := by
  have hnew : ofNat (w.issued + 1) ∉ held := not_mem_old_of_lt hheld (Nat.lt_succ_self _)
  refine (preserves_linked hnew).trans (preserves_append (congrArg Scripts.blocks (scripts_stacked w b))
    (fun id c hc r hr => ?_) (fun id c hc p _ heq => ?_) fun p hp heq => ?_)
  · obtain ⟨-, rfl⟩ := find?_singleton hc
    rcases mem_refs.1 hr with hr | hr
    · cases hnext.symm.trans hr
    · exact hb r hr
  · obtain ⟨-, rfl⟩ := find?_singleton hc
    rw [previous_linked]
    exact heq
  · cases heq
    exact absurd hp hnew

theorem preserves_headed (hheld : ∀ i ∈ held, Issued w.issued i) (name : String) (p : Procedure)
    (y : Int) : Preserves held w (w.headed name p y) := by
  refine preserves_append rfl (fun id c hc r hr => ?_) (fun id c hc q hq heq => ?_) fun q hq heq => ?_
  · rcases mem_refs.1 hr with hr | hr
    · rcases headBlocks_cases hc with ⟨n, rfl⟩ | ⟨-, rfl⟩ | ⟨-, rfl⟩ <;> cases hr
    · obtain ⟨m, hm, rfl⟩ := lt_of_plugged_headBlocks hc hr
      exact not_mem_old_of_lt hheld hm
  · -- a parameter hangs under the prototype, which hangs under the definition
    rcases headBlocks_cases hc with ⟨n, rfl⟩ | ⟨-, rfl⟩ | ⟨-, rfl⟩
    · cases heq
      exact absurd hq (not_mem_old_of_lt hheld (by omega))
    · cases heq
      exact absurd hq (not_mem_old_of_lt hheld (by omega))
    · cases heq
  · cases heq
    exact absurd hq (not_mem_old_of_lt hheld (Nat.lt_succ_self _))

/-! ### Edits that spare blocks -/

/-- Edits to which the blocks of the second list are old, and which spare those of the first. -/
structure Edited (L : Licence) (held old : List Id) (w w' : Workspace) : Prop where
  edits : Edits L old w w'
  preserves : Preserves held w w'

namespace Edited

theorem refl (w : Workspace) : Edited L held old w w := ⟨.refl w, .refl held w⟩

theorem trans (h : Edited L held old w w') (h' : Edited L held old w' w'') :
    Edited L held old w w'' :=
  ⟨h.edits.trans h'.edits, h.preserves.trans h'.preserves⟩

theorem mono {L' : Licence} {old' : List Id} (h : Edited L held old' w w') (hL : L.Within L')
    (hsub : old ⊆ old') : Edited L' held old w w' :=
  ⟨h.edits.mono hL hsub, h.preserves⟩

/-- The blocks stay as they are, and so does the place where the script goes on. -/
theorem quiet (h : Edits L old w w') (hblocks : w'.blocks = w.blocks)
    (hprevious : w'.previous = w.previous) : Edited L held old w w' :=
  ⟨h, preserves_of_blocks_eq hblocks fun _ _ heq => hprevious.symm.trans heq⟩

theorem turn {p : Option Id} (hheld : held ⊆ old)
    (hp : ∀ q, p = some q → w.scripts.Statement q ∧ q ∉ old) :
    Edited L held old w { w with previous := p } :=
  ⟨.turn hp, preserves_of_blocks_eq rfl fun q hq heq => absurd (hheld hq) (hp q heq).2⟩

theorem push (hb : w.IsPart b) (hparent : ∀ p, b.parent = some p → p ∉ held) :
    Edited L held old w (w.push b) := by
  refine ⟨.push hb, preserves_append rfl (fun id c hc r hr => ?_) (fun id c hc p hp heq => ?_)
    fun _ _ h => h⟩
  · obtain ⟨-, rfl⟩ := find?_singleton hc
    rw [refs, hb.next, plugged, hb.inputs] at hr
    cases hr
  · obtain ⟨-, rfl⟩ := find?_singleton hc
    exact absurd hp (hparent p heq)

theorem hang {p : Id} (hp : p ∈ w.blocks.keys) (hid : id ∉ held) (hnew : p ∉ held) :
    Edited L held old w (w.amend id fun b => { b with parent := some p }) := by
  refine ⟨.hang id hp, preserves_amend (fun hmem => absurd hmem hid) (fun _ _ _ hr => .inl hr) ?_⟩
  intro b _ q hq heq
  cases heq
  exact absurd hq hnew

theorem amend {f : Block → Block} (hheld : held ⊆ old) (hb : w.blocks.find? id = some b)
    (hid : id ∉ old) (hloose : w.scripts.Loose id) (hf : w.Revises old id b (f b)) :
    Edited L held old w (w.amend id f) := by
  refine ⟨.amend hb hid hloose hf, preserves_amend (fun hmem => absurd (hheld hmem) hid)
    (fun c hc r hr => ?_) fun c hc p _ heq => ?_⟩
  · cases hb.symm.trans hc
    rw [mem_refs, hf.next] at hr
    rcases hr with hr | hr
    · exact .inl (mem_refs.2 (.inl hr))
    · rcases hf.plugged r hr with hplugged | hnew
      · exact .inl (mem_refs.2 (.inr hplugged))
      · exact .inr fun hmem => hnew (hheld hmem)
  · cases hb.symm.trans hc
    exact hf.parent.symm.trans heq

theorem stack (hheld : held ⊆ old) (hissued : ∀ i ∈ old, Issued w.issued i)
    (hb : w.IsStatement old b) (hopcode : b.opcode ∉ procedureOpcodes) :
    Edited L held old w (w.stacked b) :=
  ⟨.stack hb hopcode, preserves_stacked (fun i hi => hissued i (hheld hi)) hb.next
    fun r hr hmem => hb.not_mem_old r hr (hheld hmem)⟩

/-- The block of a call is completed once its arguments are there. -/
theorem call {w₁ : Workspace} {name : String} {n : Nat} {p : Procedure} {inputs : Table Input}
    (hheld : held ⊆ old) (hissued : ∀ i ∈ old, Issued w.issued i) (hcall : L.calls name n)
    (hp : w.procedures.find? name = some p)
    (hargs : Edited L held (ofNat (w.issued + 1) :: old) (w.stacked callBlock) w₁)
    (hkeys : inputs.keys = p.argumentIds.take n)
    (hinputs : ∀ i ∈ inputs, i.2.Ready w₁.scripts (ofNat (w.issued + 1) :: old)) :
    Edited L held old w (w₁.amend (ofNat (w.issued + 1)) fun b =>
      { b with
        inputs
        mutation := some { proccode := p.proccode, argumentIds := p.argumentIds } }) := by
  have hnew : ofNat (w.issued + 1) ∉ held := fun hmem =>
    not_mem_old_of_lt hissued (Nat.lt_succ_self _) (hheld hmem)
  have hstacked : Preserves held w (w.stacked callBlock) :=
    preserves_stacked (fun i hi => hissued i (hheld hi)) rfl fun r hr => by cases hr
  refine ⟨.call hcall hp hargs.edits hkeys hinputs, (hstacked.trans hargs.preserves).trans
    (preserves_amend (fun hmem => absurd hmem hnew) (fun c _ r hr => ?_) fun _ _ _ _ heq => heq)⟩
  rcases mem_refs.1 hr with hr | hr
  · exact .inl (mem_refs.2 (.inl hr))
  · obtain ⟨i, hi, htarget⟩ := mem_plugged.1 hr
    exact .inr fun hmem => (hinputs i hi).2 r htarget (.tail _ (hheld hmem))

end Edited

end Workspace

end BlockScript
