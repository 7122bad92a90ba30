import Mathlib.Algebra.Order.BigOperators.Group.List
import Mathlib.Data.List.Nodup
import BlockScript.Listing.Project
import BlockScript.Proofs.Frame
import BlockScript.Script.Compilation

/-!
# Sound scripts

The blocks of a sprite refer to one another and to what the sprite declares. `Scripts.Sound` says
that all of these references are in order: they lead somewhere, they lead to the right kind of
block, and following them one never comes back.

There are two kinds of blocks. A *part* is a shadow or a block with a value; it is plugged into
another block. All others are *statements*. Statements refer to statements that were stored later:
the one below them, and the first one of a body. The parts need another measure, because an operator
is stored after its operands and a call with a value before its arguments. All that is known is that
some rank falls from a part to the parts in it (`Scripts.Sound.ranked`).

Scripts grow while they are compiled. What was said of a block remains true of scripts that extend
the ones at hand (`Block.Sound.mono`), so only the blocks that a step touches have to be looked at
(`Scripts.Sound.append`, `Scripts.Sound.adjust`).
-/

namespace BlockScript

open Function List Table

/-- The blocks of a sprite with the variables and the messages that they may name. -/
structure Scripts where
  blocks : Table Block
  vars : List Variable
  broadcasts : Table Id

def Workspace.scripts (w : Workspace) : Scripts := ⟨w.blocks, w.vars, w.broadcasts⟩

def Draft.scripts (d : Draft) : Scripts := ⟨d.blocks, d.vars, d.broadcasts⟩

def Target.scripts (t : Target) : Scripts := ⟨t.blocks, t.vars, t.broadcasts⟩

/-- Whether a block is a shadow or has a value, and so belongs to the block it is plugged into. -/
def Block.isPart (b : Block) : Bool := b.shadow || Listing.reporters.has b.opcode

/-- The block that an input holds. -/
def Input.target? : Input → Option Id
  | .menu id => some id
  | .block id => some id
  | .reporter id _ => id
  | _ => none

/-- The blocks in the inputs of a block. -/
def Block.plugged (b : Block) : List Id := b.inputs.filterMap (·.2.target?)

theorem Block.mem_plugged {b : Block} {r : Id} :
    r ∈ b.plugged ↔ ∃ p ∈ b.inputs, p.2.target? = some r := mem_filterMap

/-- The inputs that hold the first statement of a body. -/
def bodyInputs : List String := ["SUBSTACK", "SUBSTACK2"]

namespace Scripts

variable {s s' s'' : Scripts} {id r : Id} {b : Block}

/-! ### References in order -/

/-- A block that is plugged into another one. -/
def Part (s : Scripts) (shadow : Bool) (id : Id) : Prop :=
  ∃ b, s.blocks.find? id = some b ∧ b.isPart = true ∧ b.shadow = shadow

/-- A block that stands in a script. -/
def Statement (s : Scripts) (id : Id) : Prop :=
  ∃ b, s.blocks.find? id = some b ∧ b.isPart = false

theorem Part.mem_keys {shadow : Bool} (h : s.Part shadow id) : id ∈ s.blocks.keys := by
  obtain ⟨b, hb, -⟩ := h
  exact mem_keys_of_find? hb

theorem Statement.mem_keys (h : s.Statement id) : id ∈ s.blocks.keys := by
  obtain ⟨b, hb, -⟩ := h
  exact mem_keys_of_find? hb

/-- A statement is no shadow. -/
theorem Statement.shadow (h : s.Statement id) (hb : s.blocks.find? id = some b) :
    b.shadow = false := by
  obtain ⟨b', hb', hpart⟩ := h
  cases hb.symm.trans hb'
  rw [Block.isPart, Bool.or_eq_false_iff] at hpart
  exact hpart.1

end Scripts

/-- What the literal names is declared. -/
def Literal.Resolves (s : Scripts) : Literal → Prop
  | .messageName m i => s.broadcasts.find? m = some i
  | .variableName n i => ∃ v ∈ s.vars, v.name = n ∧ v.id = i
  | _ => True

/-- What the field names is declared. -/
def Field.Resolves (s : Scripts) (name : String) (f : Field) : Prop :=
  (name = "VARIABLE" → ∃ v ∈ s.vars, f = .named v.name v.id) ∧
    (name = "BROADCAST_OPTION" → ∃ m i, s.broadcasts.find? m = some i ∧ f = .named m i)

/-- The input holds a constant, or a part that is a shadow just if the input is a menu. -/
def Input.Plugs (s : Scripts) : Input → Prop
  | .literal l => l.Resolves s
  | .menu id => s.Part true id
  | .block id => s.Part false id
  | .reporter id covered => covered.Resolves s ∧ ∀ r, id = some r → s.Part false r
  | .embedded l covered => l.Resolves s ∧ covered.Resolves s
  | .given _ => False

/-- The input suits its name and the block it belongs to: a body starts with a later statement, and
every other input holds a part. -/
def Input.Fits (s : Scripts) (id : Id) (name : String) (i : Input) : Prop :=
  if name ∈ bodyInputs then
    ∃ r, i = .block r ∧ s.Statement id ∧ s.Statement r ∧ s.blocks.Before id r
  else i.Plugs s

/-- All that a block refers to is in order. -/
structure Block.Sound (s : Scripts) (id : Id) (b : Block) : Prop where
  next : ∀ n, b.next = some n → s.Statement id ∧ s.Statement n ∧ s.blocks.Before id n
  parent : ∀ p, b.parent = some p → p ∈ s.blocks.keys
  inputs : ∀ p ∈ b.inputs, p.2.Fits s id p.1
  fields : ∀ p ∈ b.fields, p.2.Resolves s p.1
  top : b.topLevel = true → b.opcode ∈ Listing.hatOpcodes

/-- A rank that falls from each part to the parts that are plugged into it. -/
def Scripts.Ranked (s : Scripts) (rank : Id → Nat) : Prop :=
  ∀ id b, s.blocks.find? id = some b → b.isPart = true → ∀ r ∈ b.plugged, rank r < rank id

/-- The references of all blocks are in order, no block is below two others, the parts are not
plugged into one another in a circle, and names are declared once. -/
structure Scripts.Sound (s : Scripts) : Prop where
  nodup : s.blocks.keys.Nodup
  block : ∀ id b, s.blocks.find? id = some b → b.Sound s id
  single : ∀ a b c d n, s.blocks.find? a = some c → s.blocks.find? b = some d →
    c.next = some n → d.next = some n → a = b
  ranked : ∃ rank, s.Ranked rank
  varNames : (s.vars.map (·.name)).Nodup
  varIds : (s.vars.map (·.id)).Nodup
  messageNames : s.broadcasts.keys.Nodup
  messageIds : (s.broadcasts.map Prod.snd).Nodup

/-! ### Scripts that grow -/

/-- Blocks are only added at the end and keep their kind, and nothing declared is lost. -/
structure Scripts.Extends (s s' : Scripts) : Prop where
  keys : s.blocks.keys <+: s'.blocks.keys
  kind : ∀ id b, s.blocks.find? id = some b →
    ∃ b', s'.blocks.find? id = some b' ∧ b'.isPart = b.isPart ∧ b'.shadow = b.shadow
  vars : s.vars <+: s'.vars
  broadcasts : ∀ m i, s.broadcasts.find? m = some i → s'.broadcasts.find? m = some i

namespace Scripts

variable {s s' s'' : Scripts} {id : Id} {b : Block}

theorem Extends.refl (s : Scripts) : s.Extends s :=
  ⟨prefix_refl _, fun _ b hb => ⟨b, hb, rfl, rfl⟩, prefix_refl _, fun _ _ h => h⟩

theorem Extends.trans (h : s.Extends s') (h' : s'.Extends s'') : s.Extends s'' where
  keys := h.keys.trans h'.keys
  kind id b hb := by
    obtain ⟨b', hb', hpart, hshadow⟩ := h.kind id b hb
    obtain ⟨b'', hb'', hpart', hshadow'⟩ := h'.kind id b' hb'
    exact ⟨b'', hb'', hpart'.trans hpart, hshadow'.trans hshadow⟩
  vars := h.vars.trans h'.vars
  broadcasts m i hm := h'.broadcasts m i (h.broadcasts m i hm)

/-- More is declared. -/
theorem extends_of_blocks_eq (hblocks : s'.blocks = s.blocks) (hvars : s.vars <+: s'.vars)
    (hmessages : ∀ m i, s.broadcasts.find? m = some i → s'.broadcasts.find? m = some i) :
    s.Extends s' where
  keys := hblocks ▸ prefix_refl _
  kind _ b hb := ⟨b, hblocks ▸ hb, rfl, rfl⟩
  vars := hvars
  broadcasts := hmessages

/-- More blocks at the end. -/
theorem extends_append (s : Scripts) (u : Table Block) :
    s.Extends { s with blocks := s.blocks ++ u } where
  keys := by
    rw [Table.keys_append]
    exact prefix_append _ _
  kind _ b hb := ⟨b, find?_append_of_find? hb, rfl, rfl⟩
  vars := prefix_refl _
  broadcasts _ _ h := h

/-- A change of one block that does not change its kind. -/
theorem extends_adjust {f : Block → Block}
    (hf : ∀ b, s.blocks.find? id = some b → (f b).isPart = b.isPart ∧ (f b).shadow = b.shadow) :
    s.Extends { s with blocks := s.blocks.adjust id f } where
  keys := (keys_adjust ..).symm ▸ prefix_refl _
  kind k b hb := by
    rw [find?_adjust]
    split
    · next hk =>
      subst hk
      obtain ⟨hpart, hshadow⟩ := hf b hb
      exact ⟨f b, by rw [hb]; rfl, hpart, hshadow⟩
    · exact ⟨b, hb, rfl, rfl⟩
  vars := prefix_refl _
  broadcasts _ _ h := h

theorem Part.mono {shadow : Bool} (h : s.Part shadow id) (he : s.Extends s') :
    s'.Part shadow id := by
  obtain ⟨b, hb, hpart, hshadow⟩ := h
  obtain ⟨b', hb', hpart', hshadow'⟩ := he.kind id b hb
  exact ⟨b', hb', hpart'.trans hpart, hshadow'.trans hshadow⟩

theorem Statement.mono (h : s.Statement id) (he : s.Extends s') : s'.Statement id := by
  obtain ⟨b, hb, hpart⟩ := h
  obtain ⟨b', hb', hpart', -⟩ := he.kind id b hb
  exact ⟨b', hb', hpart'.trans hpart⟩

end Scripts

section Mono

variable {s s' : Scripts}

theorem Literal.Resolves.mono {l : Literal} (h : l.Resolves s) (he : s.Extends s') :
    l.Resolves s' := by
  cases l with
  | messageName m i => exact he.broadcasts m i h
  | variableName n i =>
    obtain ⟨v, hv, hname, hid⟩ := h
    exact ⟨v, he.vars.subset hv, hname, hid⟩
  | number | color | text => trivial

theorem Field.Resolves.mono {name : String} {f : Field} (h : f.Resolves s name)
    (he : s.Extends s') : f.Resolves s' name := by
  refine ⟨fun hname => ?_, fun hname => ?_⟩
  · obtain ⟨v, hv, hf⟩ := h.1 hname
    exact ⟨v, he.vars.subset hv, hf⟩
  · obtain ⟨m, i, hm, hf⟩ := h.2 hname
    exact ⟨m, i, he.broadcasts m i hm, hf⟩

theorem Input.Plugs.mono {i : Input} (h : i.Plugs s) (he : s.Extends s') : i.Plugs s' := by
  cases i with
  | literal l => exact Literal.Resolves.mono h he
  | menu id => exact Scripts.Part.mono h he
  | block id => exact Scripts.Part.mono h he
  | reporter id covered => exact ⟨h.1.mono he, fun r hr => (h.2 r hr).mono he⟩
  | embedded l covered => exact ⟨h.1.mono he, h.2.mono he⟩
  | given v => exact h

theorem Input.Fits.mono {id : Id} {name : String} {i : Input} (h : i.Fits s id name)
    (he : s.Extends s') : i.Fits s' id name := by
  rw [Fits] at *
  split
  · next hname =>
    rw [if_pos hname] at h
    obtain ⟨r, hi, hid, hr, hlater⟩ := h
    exact ⟨r, hi, hid.mono he, hr.mono he, hlater.mono he.keys⟩
  · next hname =>
    rw [if_neg hname] at h
    exact h.mono he

/-- **Growing scripts keep the references of a block in order.** -/
theorem Block.Sound.mono {id : Id} {b : Block} (h : b.Sound s id) (he : s.Extends s') :
    b.Sound s' id where
  next n hn := by
    obtain ⟨hid, hstatement, hlater⟩ := h.next n hn
    exact ⟨hid.mono he, hstatement.mono he, hlater.mono he.keys⟩
  parent p hp := he.keys.subset (h.parent p hp)
  inputs p hp := (h.inputs p hp).mono he
  fields p hp := (h.fields p hp).mono he
  top := h.top

end Mono

/-! ### What is plugged in -/

theorem Input.Plugs.part {s : Scripts} {r : Id} {i : Input} (h : i.Plugs s)
    (hr : i.target? = some r) : ∃ shadow, s.Part shadow r := by
  cases i with
  | menu id =>
    cases hr
    exact ⟨true, h⟩
  | block id =>
    cases hr
    exact ⟨false, h⟩
  | reporter id covered => exact ⟨false, h.2 r hr⟩
  | literal | embedded | given => cases hr

/-- A block in an input is there. -/
theorem Input.Fits.mem_keys {s : Scripts} {id r : Id} {name : String} {i : Input}
    (h : i.Fits s id name) (hr : i.target? = some r) : r ∈ s.blocks.keys := by
  rw [Fits] at h
  split at h
  · obtain ⟨r', rfl, -, hr', -⟩ := h
    cases hr
    exact hr'.mem_keys
  · obtain ⟨shadow, hpart⟩ := h.part hr
    exact hpart.mem_keys

namespace Scripts

variable {s s' : Scripts} {id r : Id} {b : Block}

theorem Sound.mem_keys_of_plugged (h : s.Sound) (hb : s.blocks.find? id = some b)
    (hr : r ∈ b.plugged) : r ∈ s.blocks.keys := by
  obtain ⟨p, hp, htarget⟩ := Block.mem_plugged.1 hr
  exact ((h.block id b hb).inputs p hp).mem_keys htarget

/-- The block is not plugged into any other. -/
def Loose (s : Scripts) (id : Id) : Prop :=
  ∀ a c, s.blocks.find? a = some c → id ∉ c.plugged

/-- What is not there is not plugged in. -/
theorem Sound.loose (h : s.Sound) (hid : id ∉ s.blocks.keys) : s.Loose id :=
  fun _ _ hc hplugged => hid (h.mem_keys_of_plugged hc hplugged)

theorem Loose.append (h : s.Loose id) {u : Table Block}
    (hu : ∀ a c, u.find? a = some c → id ∉ c.plugged) :
    Loose { s with blocks := s.blocks ++ u } id := by
  intro a c hc
  by_cases ha : a ∈ s.blocks.keys
  · obtain ⟨c', hc'⟩ := mem_keys_iff.1 ha
    cases (find?_append_of_find? hc').symm.trans hc
    exact h a c hc'
  · exact hu a c ((find?_append_of_not_mem ha).symm.trans hc)

theorem Loose.adjust (h : s.Loose r) {f : Block → Block}
    (hf : ∀ b, s.blocks.find? id = some b → r ∉ (f b).plugged) :
    Loose { s with blocks := s.blocks.adjust id f } r := by
  intro a c hc
  change (s.blocks.adjust id f).find? a = some c at hc
  rw [find?_adjust] at hc
  split at hc
  · next ha =>
    subst ha
    obtain ⟨b, hb, rfl⟩ := Option.map_eq_some_iff.1 hc
    exact hf b hb
  · exact h a c hc

/-! ### Changes that keep scripts sound -/

/-- **Adding blocks.** Each new block has to be in order, and the parts among them need a rank. -/
theorem Sound.append (h : s.Sound) {u : Table Block}
    (hkeys : (s.blocks.keys ++ u.keys).Nodup)
    (hblock : ∀ id b, u.find? id = some b →
      b.next = none ∧ b.Sound { s with blocks := s.blocks ++ u } id)
    (hrank : ∃ rank, Ranked { s with blocks := s.blocks ++ u } rank) :
    Sound { s with blocks := s.blocks ++ u } := by
  have hcases : ∀ a c, Table.find? (s.blocks ++ u) a = some c →
      s.blocks.find? a = some c ∨ u.find? a = some c := by
    intro a c hc
    rw [Table.find?_append] at hc
    exact (Option.or_eq_some_iff.1 hc).imp_right And.right
  have hold : ∀ a c n, Table.find? (s.blocks ++ u) a = some c → c.next = some n →
      s.blocks.find? a = some c := by
    intro a c n hc hn
    refine (hcases a c hc).resolve_right fun hu => ?_
    rw [(hblock a c hu).1] at hn
    cases hn
  exact
    { nodup := by
        rw [Table.keys_append]
        exact hkeys
      block := by
        intro a c hc
        rcases hcases a c hc with hs | hu
        · exact (h.block a c hs).mono (extends_append s u)
        · exact (hblock a c hu).2
      single := by
        intro a b c d n hc hd hcn hdn
        exact h.single a b c d n (hold a c n hc hcn) (hold b d n hd hdn) hcn hdn
      ranked := hrank
      varNames := h.varNames
      varIds := h.varIds
      messageNames := h.messageNames
      messageIds := h.messageIds }

/-- A rank for the parts after one more was added, or one was completed: it is placed above all that
is plugged into it. -/
theorem exists_rank (rank : Id → Nat) {L : List Id} (hid : id ∉ L) :
    ∃ rank' : Id → Nat, (∀ r, r ≠ id → rank' r = rank r) ∧ ∀ r ∈ L, rank' r < rank' id := by
  refine ⟨update rank id ((L.map rank).sum + 1), fun r hr => update_of_ne hr _ _,
    fun r hr => ?_⟩
  have hne : r ≠ id := fun hc => hid (hc ▸ hr)
  rw [update_self, update_of_ne hne]
  exact Nat.lt_succ_of_le (single_le_sum (fun _ _ => Nat.zero_le _) _ (mem_map_of_mem hr))

/-- One more block, into which only others are plugged. -/
theorem Sound.push (h : s.Sound) (hid : id ∉ s.blocks.keys) (hnext : b.next = none)
    (hb : b.Sound { s with blocks := s.blocks ++ [(id, b)] } id) (hplugged : id ∉ b.plugged) :
    Sound { s with blocks := s.blocks ++ [(id, b)] } := by
  refine h.append ?_ ?_ ?_
  · exact List.Nodup.append h.nodup (nodup_singleton id) (disjoint_singleton.2 hid)
  · intro a c hc
    obtain ⟨rfl, rfl⟩ := Table.find?_singleton hc
    exact ⟨hnext, hb⟩
  · obtain ⟨rank, hrank⟩ := h.ranked
    obtain ⟨rank', hsame, hless⟩ := exists_rank rank hplugged
    refine ⟨rank', fun a c hc hpart r hr => ?_⟩
    by_cases ha : a ∈ s.blocks.keys
    · obtain ⟨c', hc'⟩ := mem_keys_iff.1 ha
      cases (find?_append_of_find? hc').symm.trans hc
      have hr' := h.mem_keys_of_plugged hc' hr
      rw [hsame a fun hc => hid (hc ▸ ha), hsame r fun hc => hid (hc ▸ hr')]
      exact hrank a c hc' hpart r hr
    · obtain ⟨rfl, rfl⟩ := Table.find?_singleton ((find?_append_of_not_mem ha).symm.trans hc)
      exact hless r hr

/-- **Changing a block.** If it gets another successor, that is below no other block; if other
blocks are plugged into it, it is not plugged in anywhere itself. -/
theorem Sound.adjust (h : s.Sound) (hb : s.blocks.find? id = some b) {f : Block → Block}
    (hpart : (f b).isPart = b.isPart) (hshadow : (f b).shadow = b.shadow)
    (hsound : (f b).Sound s id)
    (hnext : (f b).next = b.next ∨
      ∀ n, (f b).next = some n → ∀ a c, s.blocks.find? a = some c → c.next ≠ some n)
    (hplugged : (f b).plugged = b.plugged ∨ s.Loose id ∧ id ∉ (f b).plugged) :
    Sound { s with blocks := s.blocks.adjust id f } := by
  have hext : s.Extends { s with blocks := s.blocks.adjust id f } := by
    refine extends_adjust fun b' hb' => ?_
    cases hb.symm.trans hb'
    exact ⟨hpart, hshadow⟩
  have hcases : ∀ a c, (s.blocks.adjust id f).find? a = some c →
      (a = id ∧ c = f b) ∨ (a ≠ id ∧ s.blocks.find? a = some c) := by
    intro a c hc
    rw [find?_adjust] at hc
    split at hc
    · next ha =>
      subst ha
      rw [hb] at hc
      exact .inl ⟨rfl, (Option.some.inj hc).symm⟩
    · next ha => exact .inr ⟨fun hc => ha hc.symm, hc⟩
  -- no other block has the successor of the changed one
  have hother : ∀ a c n, a ≠ id → s.blocks.find? a = some c → c.next = some n →
      (f b).next ≠ some n := by
    intro a c n ha hc hcn hfn
    rcases hnext with heq | hfresh
    · exact ha (h.single a id c b n hc hb hcn (heq ▸ hfn))
    · exact hfresh n hfn a c hc hcn
  exact
    { nodup := by
        change (s.blocks.adjust id f).keys.Nodup
        rw [keys_adjust]
        exact h.nodup
      block := by
        intro a c hc
        rcases hcases a c hc with ⟨rfl, rfl⟩ | ⟨-, hc'⟩
        · exact hsound.mono hext
        · exact (h.block a c hc').mono hext
      single := by
        intro a b' c d n hc hd hcn hdn
        rcases hcases a c hc with ⟨rfl, rfl⟩ | ⟨ha, hc'⟩
        · rcases hcases b' d hd with ⟨rfl, -⟩ | ⟨hb', hd'⟩
          · rfl
          · exact absurd hcn (hother b' d n hb' hd' hdn)
        · rcases hcases b' d hd with ⟨rfl, rfl⟩ | ⟨hb', hd'⟩
          · exact absurd hdn (hother a c n ha hc' hcn)
          · exact h.single a b' c d n hc' hd' hcn hdn
      ranked := by
        obtain ⟨rank, hrank⟩ := h.ranked
        rcases hplugged with heq | ⟨hloose, hself⟩
        · refine ⟨rank, fun a c hc hp r hr => ?_⟩
          rcases hcases a c hc with ⟨rfl, rfl⟩ | ⟨-, hc'⟩
          · exact hrank a b hb (hpart ▸ hp) r (heq ▸ hr)
          · exact hrank a c hc' hp r hr
        · obtain ⟨rank', hsame, hless⟩ := exists_rank rank hself
          refine ⟨rank', fun a c hc hp r hr => ?_⟩
          rcases hcases a c hc with ⟨rfl, rfl⟩ | ⟨ha, hc'⟩
          · exact hless r hr
          · have hr' : r ≠ id := fun hc => hloose a c hc' (hc ▸ hr)
            rw [hsame a ha, hsame r hr']
            exact hrank a c hc' hp r hr
      varNames := h.varNames
      varIds := h.varIds
      messageNames := h.messageNames
      messageIds := h.messageIds }

/-- **Declaring more.** The blocks stay as they are. -/
theorem Sound.declare (h : s.Sound) (hext : s.Extends s') (hblocks : s'.blocks = s.blocks)
    (hvarNames : (s'.vars.map (·.name)).Nodup) (hvarIds : (s'.vars.map (·.id)).Nodup)
    (hmessageNames : s'.broadcasts.keys.Nodup)
    (hmessageIds : (s'.broadcasts.map Prod.snd).Nodup) : s'.Sound where
  nodup := hblocks ▸ h.nodup
  block id b hb := (h.block id b (hblocks ▸ hb)).mono hext
  single := by
    rw [hblocks]
    exact h.single
  ranked := by
    obtain ⟨rank, hrank⟩ := h.ranked
    refine ⟨rank, fun id b hb => hrank id b (hblocks ▸ hb)⟩
  varNames := hvarNames
  varIds := hvarIds
  messageNames := hmessageNames
  messageIds := hmessageIds

theorem sound_empty : Sound ⟨[], [], []⟩ where
  nodup := nodup_nil
  block id b hb := by cases hb
  single a b c d n hc := by cases hc
  ranked := ⟨fun _ => 0, fun id b hb => by cases hb⟩
  varNames := nodup_nil
  varIds := nodup_nil
  messageNames := nodup_nil
  messageIds := nodup_nil

end Scripts

end BlockScript
