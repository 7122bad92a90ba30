import BlockScript.Proofs.Edits

/-!
# Edits keep scripts sound

`Workspace.Sound` adds to the soundness of the scripts at hand what the next edit relies on: every
identifier in use was issued, the script goes on below a statement, and the sprites that are
finished are sound as well and share their messages with the scripts at hand. Every edit keeps it
(`Workspace.Edits.sound`), so a workspace is sound after everything that compilation does.
-/

namespace BlockScript

open Block BlockScript.Id Input List Nat Scripts Table

/-! ### Identifiers -/

namespace Id

theorem Issued.mono {n m : Nat} {id : Id} (h : Issued n id) (hnm : n ≤ m) : Issued m id := by
  obtain ⟨k, hk, heq⟩ := h
  exact ⟨k, hk.trans hnm, heq⟩

theorem issued_ofNat {n k : Nat} (h : k ≤ n) : Issued n (ofNat k) := ⟨k, h, rfl⟩

theorem Issued.ne_ofNat {n k : Nat} {id : Id} (h : Issued n id) (hk : n < k) :
    id ≠ ofNat k := by
  rintro rfl
  obtain ⟨m, hm, heq⟩ := h
  rw [ofNat_inj] at heq
  omega

theorem issued_of_mem_range {n k m : Nat} {id : Id} (h : id ∈ range n k) (hm : n + k ≤ m) :
    Issued m id := by
  obtain ⟨j, -, hj, rfl⟩ := Workspace.lt_of_mem_range h
  exact issued_ofNat (hj.trans hm)

theorem nodup_range (n k : Nat) : (range n k).Nodup :=
  (nodup_range').map ofNat_injective

end Id

namespace Workspace

/-- The scripts at hand and those of all finished sprites are sound. -/
structure Sound (w : Workspace) : Prop where
  scripts : w.scripts.Sound
  previous : ∀ p, w.previous = some p → w.scripts.Statement p
  keys : ∀ id ∈ w.blocks.keys, Id.Issued w.issued id
  vars : ∀ v ∈ w.vars, Id.Issued w.issued v.id
  messages : ∀ p ∈ w.broadcasts, Id.Issued w.issued p.2
  arguments : ∀ n p, w.procedures.find? n = some p → ∀ i ∈ p.argumentIds, Id.Issued w.issued i
  drafts : ∀ d ∈ w.drafts, d.scripts.Sound ∧
    ∀ m i, d.broadcasts.find? m = some i → w.broadcasts.find? m = some i

variable {L : Licence} {old : List Id} {w w' : Workspace} {id : Id} {b : Block}

variable {n : Nat} {p : Procedure}

theorem Sound.not_mem_keys (h : w.Sound) (hn : w.issued < n) : ofNat n ∉ w.blocks.keys :=
  fun hmem => (h.keys _ hmem).ne_ofNat hn rfl

theorem Sound.free (h : w.Sound) : w.Free :=
  find?_eq_none_iff.2 (h.not_mem_keys (lt_succ_self _))

/-- The first identifiers stay issued. -/
theorem Sound.issue (h : w.Sound) (hn : w.issued ≤ n) : Sound { w with issued := n } where
  scripts := h.scripts
  previous := h.previous
  keys i hi := (h.keys i hi).mono hn
  vars v hv := (h.vars v hv).mono hn
  messages p hp := (h.messages p hp).mono hn
  arguments n p hp i hi := (h.arguments n p hp i hi).mono hn
  drafts := h.drafts

/-- A new variable. -/
theorem Sound.declare (h : w.Sound) {x : String} (v : Value) (hx : ∀ u ∈ w.vars, u.name ≠ x) :
    (w.declare x v).Sound := by
  have hissued := h.issue (le_succ w.issued)
  have hext : w.scripts.Extends (w.declare x v).scripts :=
    extends_of_blocks_eq rfl (prefix_append _ _) fun _ _ hm => hm
  refine { hissued with
    scripts := h.scripts.declare hext rfl ?_ ?_ h.scripts.messageNames h.scripts.messageIds
    previous := fun p hp => (h.previous p hp).mono hext
    vars := fun u hu => ?_ }
  · change (map _ (w.vars ++ [_])).Nodup
    rw [map_append]
    refine h.scripts.varNames.append (nodup_singleton _) (disjoint_singleton.2 ?_)
    intro hmem
    obtain ⟨u, hu, heq⟩ := mem_map.1 hmem
    exact hx u hu heq
  · change (map _ (w.vars ++ [_])).Nodup
    rw [map_append]
    refine h.scripts.varIds.append (nodup_singleton _) (disjoint_singleton.2 ?_)
    intro hmem
    obtain ⟨u, hu, heq⟩ := mem_map.1 hmem
    exact (h.vars u hu).ne_ofNat (lt_succ_self _) heq
  · rcases mem_append.1 hu with hu | hu
    · exact hissued.vars u hu
    · rw [mem_singleton.1 hu]
      exact issued_ofNat (Nat.le_refl _)

/-- A new message. -/
theorem Sound.addMessage (h : w.Sound) {m : String} (hm : w.broadcasts.find? m = none) :
    Sound { w with
      issued := w.issued + 1
      broadcasts := w.broadcasts.set m (ofNat (w.issued + 1)) } := by
  have hissued := h.issue (le_succ w.issued)
  rw [set_of_find?_eq_none _ _ hm]
  have hfind : ∀ m' i, w.broadcasts.find? m' = some i →
      Table.find? (w.broadcasts ++ [(m, ofNat (w.issued + 1))]) m' = some i :=
    fun _ _ hi => find?_append_of_find? hi
  have hext : w.scripts.Extends
      ⟨w.blocks, w.vars, w.broadcasts ++ [(m, ofNat (w.issued + 1))]⟩ :=
    extends_of_blocks_eq rfl (prefix_refl _) hfind
  refine { hissued with
    scripts := h.scripts.declare hext rfl h.scripts.varNames h.scripts.varIds ?_ ?_
    previous := fun p hp => (h.previous p hp).mono hext
    messages := fun p hp => ?_
    drafts := fun d hd => ⟨(h.drafts d hd).1, fun m' i hi => hfind m' i ((h.drafts d hd).2 m' i hi)⟩ }
  · change (Table.keys (w.broadcasts ++ _)).Nodup
    rw [Table.keys_append]
    exact h.scripts.messageNames.append (nodup_singleton _)
      (disjoint_singleton.2 (find?_eq_none_iff.1 hm))
  · change (map _ (w.broadcasts ++ [_])).Nodup
    rw [map_append]
    refine h.scripts.messageIds.append (nodup_singleton _) (disjoint_singleton.2 ?_)
    intro hmem
    obtain ⟨p, hp, heq⟩ := mem_map.1 hmem
    exact (h.messages p hp).ne_ofNat (lt_succ_self _) heq
  · rcases mem_append.1 hp with hp | hp
    · exact hissued.messages p hp
    · rw [mem_singleton.1 hp]
      exact issued_ofNat (Nat.le_refl _)

/-! ### New blocks -/

/-- A new block that is in order. -/
theorem Sound.pushed (h : w.Sound) (hnext : b.next = none)
    (hb : b.Sound (w.push b).scripts (ofNat (w.issued + 1)))
    (hplugged : ofNat (w.issued + 1) ∉ b.plugged) : (w.push b).Sound := by
  have hnew := h.not_mem_keys (lt_succ_self w.issued)
  refine { h.issue (le_succ w.issued) with
    scripts := h.scripts.push hnew hnext hb hplugged
    previous := fun p hp => (h.previous p hp).mono (extends_append _ _)
    keys := fun i hi => ?_ }
  change i ∈ Table.keys (w.blocks ++ _) at hi
  rw [Table.keys_append] at hi
  rcases mem_append.1 hi with hi | hi
  · exact (h.keys i hi).mono (le_succ _)
  · rw [mem_singleton.1 hi]
    exact issued_ofNat (Nat.le_refl _)

theorem Sound.push (h : w.Sound) (hb : w.IsPart b) : (w.push b).Sound := by
  have hext : w.scripts.Extends (w.push b).scripts := extends_append _ _
  refine h.pushed hb.next ?_ ?_
  · exact
      { next := fun n hn => by
          rw [hb.next] at hn
          cases hn
        parent := fun p hp => hext.keys.subset (hb.parent p hp)
        inputs := fun p hp => by
          rw [hb.inputs] at hp
          cases hp
        fields := fun p hp => (hb.fields p hp).1.mono hext
        top := fun htop => by
          rw [hb.top] at htop
          cases htop }
  · rw [plugged, hb.inputs]
    exact not_mem_nil

/-- A block is changed, and the scripts are still sound. -/
theorem Sound.of_adjust (h : w.Sound) {f : Block → Block} (hb : w.blocks.find? id = some b)
    (hpart : (f b).isPart = b.isPart) (hshadow : (f b).shadow = b.shadow)
    (hsound : (f b).Sound w.scripts id)
    (hnext : (f b).next = b.next ∨
      ∀ n, (f b).next = some n → ∀ a c, w.blocks.find? a = some c → c.next ≠ some n)
    (hplugged : (f b).plugged = b.plugged ∨ w.scripts.Loose id ∧ id ∉ (f b).plugged) :
    (w.amend id f).Sound := by
  have hext : w.scripts.Extends (w.amend id f).scripts := extends_adjust fun c hc => by
    cases hb.symm.trans hc
    exact ⟨hpart, hshadow⟩
  exact { h with
    scripts := h.scripts.adjust hb hpart hshadow hsound hnext hplugged
    previous := fun p hp => (h.previous p hp).mono hext
    keys := fun i hi => h.keys i ((keys_adjust w.blocks id f) ▸ hi) }

/-- The script goes on below a statement. -/
theorem Sound.turn (h : w.Sound) {p : Option Id} (hp : ∀ q, p = some q → w.scripts.Statement q) :
    Sound { w with previous := p } :=
  { h with previous := hp }

theorem IsStatement.sound (h : w.Sound) (hb : w.IsStatement old b) :
    ({ b with parent := w.previous } : Block).Sound
      (w.push { b with parent := w.previous }).scripts (ofNat (w.issued + 1)) := by
  have hext : w.scripts.Extends (w.push { b with parent := w.previous }).scripts :=
    extends_append _ _
  exact
    { next := fun n hn => by
        have hnone : b.next = some n := hn
        rw [hb.next] at hnone
        cases hnone
      parent := fun p hp => hext.keys.subset (h.previous p hp).mem_keys
      inputs := fun p hp => by
        obtain ⟨hname, hready⟩ := hb.inputs p hp
        rw [Fits, if_neg hname]
        exact hready.1.mono hext
      fields := fun p hp => by
        have hnil : p ∈ b.fields := hp
        rw [hb.fields] at hnil
        cases hnil
      top := hb.top }

/-- A new statement is not plugged into itself. -/
theorem IsStatement.not_mem_plugged (h : w.Sound) (hb : w.IsStatement old b) :
    ofNat (w.issued + 1) ∉ b.plugged := by
  intro hmem
  obtain ⟨p, hp, htarget⟩ := mem_plugged.1 hmem
  obtain ⟨hname, hready⟩ := hb.inputs p hp
  have hfits : p.2.Fits w.scripts "" p.1 := by
    rw [Fits, if_neg hname]
    exact hready.1
  exact h.not_mem_keys (lt_succ_self _) (hfits.mem_keys htarget)

theorem stacked_of_none (h : w.previous = none) (b : Block) :
    w.stacked b =
      { w.push { b with parent := w.previous } with
        previous := some (ofNat (w.issued + 1)) } := by
  rw [stacked, linked_of_none h]

theorem stacked_of_some {p : Id} (hp : w.previous = some p) (hmem : p ∈ w.blocks.keys) (b : Block) :
    w.stacked b =
      { (w.push { b with parent := w.previous }).amend p fun c =>
          { c with next := some (ofNat (w.issued + 1)) } with
        previous := some (ofNat (w.issued + 1)) } := by
  rw [stacked, linked_of_some hp, push, push, amend, amend]
  dsimp only
  rw [adjust_append hmem]

/-- **A new statement keeps everything sound.** It is below the block that the script ended with,
which was stored before it, and below no other. -/
theorem Sound.stacked (h : w.Sound) (hb : w.IsStatement old b) : (w.stacked b).Sound := by
  have hself : ofNat (w.issued + 1) ∉ b.plugged := hb.not_mem_plugged h
  have hpushed : (w.push { b with parent := w.previous }).Sound :=
    h.pushed hb.next (hb.sound h) hself
  have hfind := find?_push h.free { b with parent := w.previous }
  have hnew : (w.push { b with parent := w.previous }).scripts.Statement
      (ofNat (w.issued + 1)) := ⟨_, hfind, hb.kind⟩
  cases hp : w.previous with
  | none =>
    rw [stacked_of_none hp]
    refine hpushed.turn fun q hq => ?_
    cases hq
    exact hnew
  | some p =>
    have hstatement := h.previous p hp
    rw [stacked_of_some hp hstatement.mem_keys]
    have hext : w.scripts.Extends (w.push { b with parent := w.previous }).scripts :=
      extends_append _ _
    obtain ⟨c, hc, hpart⟩ := hstatement.mono hext
    have hlinked : ((w.push { b with parent := w.previous }).amend p fun c =>
        { c with next := some (ofNat (w.issued + 1)) }).Sound := by
      refine hpushed.of_adjust hc rfl rfl ?_ (.inr ?_) (.inl rfl)
      · refine { hpushed.scripts.block p c hc with next := fun n hn => ?_ }
        cases hn
        refine ⟨hstatement.mono hext, hnew, ?_⟩
        exact before_of_new hstatement.mem_keys hnew.mem_keys
          (h.not_mem_keys (lt_succ_self _)) hext.keys
      · -- the new block is the successor of no block yet
        intro n hn a d hd hdn
        cases hn
        by_cases ha : a ∈ w.blocks.keys
        · obtain ⟨d', hd'⟩ := mem_keys_iff.1 ha
          cases (find?_append_of_find? hd').symm.trans hd
          obtain ⟨-, hmem, -⟩ := (h.scripts.block a d hd').next _ hdn
          exact h.not_mem_keys (lt_succ_self _) hmem.mem_keys
        · obtain ⟨-, rfl⟩ :=
            Table.find?_singleton ((find?_append_of_not_mem ha).symm.trans hd)
          cases hb.next.symm.trans hdn
    refine hlinked.turn fun q hq => ?_
    cases hq
    exact hnew.mono (extends_adjust fun _ _ => ⟨rfl, rfl⟩)

theorem find?_stacked_new (h : w.Sound) (b : Block) :
    (w.stacked b).blocks.find? (ofNat (w.issued + 1)) =
      some { b with parent := w.previous } := by
  have hnew := h.not_mem_keys (lt_succ_self w.issued)
  have hfind := find?_push h.free { b with parent := w.previous }
  cases hp : w.previous with
  | none =>
    rw [stacked_of_none hp, ← hp]
    exact hfind
  | some p =>
    have hmem := (h.previous p hp).mem_keys
    have hne : p ≠ ofNat (w.issued + 1) := by
      rintro rfl
      exact hnew hmem
    rw [stacked_of_some hp hmem, ← hp]
    exact (find?_amend_of_ne hne _).trans hfind

/-! ### Completed blocks -/

theorem Revises.sound {b' : Block} (hf : w.Revises old id b b') (hb : b.Sound w.scripts id) :
    b'.Sound w.scripts id where
  next n hn := hb.next n (hf.next ▸ hn)
  parent p hp := hb.parent p (hf.parent ▸ hp)
  inputs p hp := (hf.inputs p hp).elim (hb.inputs p) And.left
  fields p hp := (hf.fields p hp).elim (hb.fields p) And.left
  top htop := by
    rw [hf.top] at htop
    rcases hf.opcode with heq | hfalse
    · exact heq ▸ hb.top htop
    · rw [hfalse] at htop
      cases htop

theorem Sound.amend (h : w.Sound) {f : Block → Block} (hb : w.blocks.find? id = some b)
    (hloose : w.scripts.Loose id) (hf : w.Revises old id b (f b)) : (w.amend id f).Sound := by
  refine h.of_adjust hb hf.kind hf.shadow (hf.sound (h.scripts.block id b hb)) (.inl hf.next)
    (.inr ⟨hloose, fun hself => ?_⟩)
  obtain ⟨p, hp, htarget⟩ := mem_plugged.1 hself
  rcases hf.inputs p hp with hold | ⟨-, hnew⟩
  · exact hloose id b hb (mem_plugged.2 ⟨p, hold, htarget⟩)
  · exact hnew id htarget (.head _)

theorem Sound.hang (h : w.Sound) (id : Id) {p : Id} (hp : p ∈ w.blocks.keys) :
    (w.amend id fun b => { b with parent := some p }).Sound := by
  cases hb : w.blocks.find? id with
  | none =>
    have hsame : w.amend id (fun b => { b with parent := some p }) = w := by
      rw [Workspace.amend, adjust_of_find?_eq_none hb]
    rw [hsame]
    exact h
  | some b =>
    refine h.of_adjust hb rfl rfl ?_ (.inl rfl) (.inl rfl)
    refine { h.scripts.block id b hb with parent := fun q hq => ?_ }
    cases hq
    exact hp

/-! ### Calls and definitions of procedures -/

/-- An argument is never taken for a body. -/
theorem not_mem_bodyInputs (h : Issued n id) : id ∉ bodyInputs := by
  obtain ⟨k, -, rfl⟩ := h
  have hlen := le_length_ofNat k
  have hshort : ∀ name ∈ bodyInputs, name.length < 20 := by decide
  exact fun hmem => absurd (hshort _ hmem) (by omega)

theorem loose_stacked {r : Id} (h : w.scripts.Loose r) (hb : r ∉ b.plugged) :
    (w.stacked b).scripts.Loose r := by
  rw [scripts_stacked]
  have hlinked := (grows_linked [r] w (ofNat (w.issued + 1))).loose r (.head _) h
  refine hlinked.append fun a c hc => ?_
  obtain ⟨-, rfl⟩ := Table.find?_singleton hc
  exact hb

/-- After the arguments of a call were made, its block is as it was, and not plugged in. -/
theorem Edits.callBlock_like (h : w.Sound) (hold : ∀ i ∈ old, Issued w.issued i)
    (hargs : Edits L (ofNat (w.issued + 1) :: old) (w.stacked callBlock) w') :
    (∃ c, w'.blocks.find? (ofNat (w.issued + 1)) = some c ∧
      ({ callBlock with parent := w.previous } : Block).Like c) ∧
      w'.scripts.Loose (ofNat (w.issued + 1)) := by
  have hgrows := hargs.grows (issued_cons_stacked hold callBlock)
  have hloose := h.scripts.loose (h.not_mem_keys (lt_succ_self w.issued))
  refine ⟨hgrows.like _ (.head _) _ (find?_stacked_new h callBlock), ?_⟩
  exact hgrows.loose _ (.head _) (loose_stacked hloose fun hc => by cases hc)

theorem isStatement_callBlock (w : Workspace) (old : List Id) : w.IsStatement old callBlock where
  kind := by decide
  next := rfl
  inputs _ hp := by cases hp
  fields := rfl
  top htop := by cases htop
  mutation := rfl

/-- **A call of a procedure keeps everything sound.** -/
theorem Sound.call (h : w.Sound) (hold : ∀ i ∈ old, Issued w.issued i) {name : String}
    {inputs : Table Input} (hp : w.procedures.find? name = some p)
    (hargs : Edits L (ofNat (w.issued + 1) :: old) (w.stacked callBlock) w') (hw' : w'.Sound)
    (hkeys : inputs.keys = p.argumentIds.take n)
    (hinputs : ∀ i ∈ inputs, i.2.Ready w'.scripts (ofNat (w.issued + 1) :: old))
    (m : Option Mutation) :
    (w'.amend (ofNat (w.issued + 1)) fun b => { b with inputs, mutation := m }).Sound := by
  obtain ⟨⟨c, hc, hlike⟩, hloose⟩ := hargs.callBlock_like h hold
  have hsound := hw'.scripts.block _ c hc
  refine hw'.of_adjust hc rfl rfl { hsound with inputs := fun i hi => ?_ } (.inl rfl)
    (.inr ⟨hloose, fun hself => ?_⟩)
  · have hmem : i.1 ∈ p.argumentIds := by
      have hkey : i.1 ∈ inputs.keys := mem_map_of_mem hi
      rw [hkeys] at hkey
      exact mem_of_mem_take hkey
    rw [Fits, if_neg (not_mem_bodyInputs (h.arguments name p hp _ hmem))]
    exact (hinputs i hi).1
  · obtain ⟨i, hi, htarget⟩ := mem_plugged.1 hself
    exact (hinputs i hi).2 _ htarget (.head _)

/-! ### The head of a procedure -/

theorem keys_headBlocks (n : Nat) (p : Procedure) (y : Int) :
    (headBlocks n p y).keys = Id.range (n + 2) (p.argumentNames.zip p.argumentIds).length ++
      [ofNat (n + 2), ofNat (n + 1)] := by
  rw [headBlocks, Table.keys_append, keys_parameters]
  rfl

theorem issued_of_mem_headBlocks {y : Int} {i : Id} (h : i ∈ (headBlocks n p y).keys) :
    ∃ m, n < m ∧ m ≤ n + 2 + (p.argumentNames.zip p.argumentIds).length ∧ i = ofNat m := by
  rw [keys_headBlocks] at h
  rcases mem_append.1 h with hrange | hlast
  · obtain ⟨m, hm, hle, rfl⟩ := lt_of_mem_range hrange
    exact ⟨m, by omega, hle, rfl⟩
  · rcases mem_cons.1 hlast with rfl | hlast
    · exact ⟨n + 2, by omega, by omega, rfl⟩
    · rw [mem_singleton.1 hlast]
      exact ⟨n + 1, by omega, by omega, rfl⟩

theorem nodup_keys_headBlocks (n : Nat) (p : Procedure) (y : Int) :
    (headBlocks n p y).keys.Nodup := by
  rw [keys_headBlocks]
  refine (Id.nodup_range _ _).append (by simp) fun i hi hlast => ?_
  obtain ⟨m, hm, -, rfl⟩ := lt_of_mem_range hi
  simp only [mem_cons, ofNat_inj, not_mem_nil, or_false] at hlast
  omega

theorem find?_parameter {y : Int} {r : Id}
    (hr : r ∈ Id.range (n + 2) (p.argumentNames.zip p.argumentIds).length) :
    ∃ name, (headBlocks n p y).find? r = some (parameterBlock (ofNat (n + 2)) name) := by
  rw [← keys_parameters (ofNat (n + 2))] at hr
  obtain ⟨c, hc⟩ := mem_keys_iff.1 hr
  obtain ⟨name, hname⟩ := mem_parameters (mem_of_find? hc)
  exact ⟨name, hname ▸ find?_append_of_find? hc⟩

theorem find?_prototype (n : Nat) (p : Procedure) (y : Int) :
    (headBlocks n p y).find? (ofNat (n + 2)) =
      some (prototypeBlock (ofNat (n + 1)) p
        (parameterInputs (n + 2) (p.argumentNames.zip p.argumentIds))) := by
  refine find?_of_mem (nodup_keys_headBlocks n p y) ?_
  exact mem_append_right _ (.head _)

theorem find?_definition (n : Nat) (p : Procedure) (y : Int) :
    (headBlocks n p y).find? (ofNat (n + 1)) =
      some (definitionBlock (ofNat (n + 2)) y) := by
  refine find?_of_mem (nodup_keys_headBlocks n p y) ?_
  exact mem_append_right _ (.tail _ (.head _))

theorem isPart_definitionBlock (prototype : Id) (y : Int) :
    (definitionBlock prototype y).isPart = false := by
  change (false || Listing.reporters.has "procedures_definition") = false
  decide

section Headed

variable {p : Procedure} {y : Int}

/-- None of the blocks at the head of a procedure is there before. -/
theorem Sound.not_mem_headBlocks (h : w.Sound) {i : Id} (hi : i ∈ w.blocks.keys) :
    i ∉ (headBlocks w.issued p y).keys := by
  intro hmem
  obtain ⟨m, hm, -, rfl⟩ := issued_of_mem_headBlocks hmem
  exact h.not_mem_keys hm hi

theorem Sound.find?_headed (h : w.Sound) {i : Id} {c : Block}
    (hc : (headBlocks w.issued p y).find? i = some c) :
    Table.find? (w.blocks ++ headBlocks w.issued p y) i = some c := by
  rw [find?_append_of_not_mem fun hi =>
    h.not_mem_headBlocks hi (mem_keys_of_find? hc)]
  exact hc

/-- The blocks at the head of a procedure are in order. -/
theorem Sound.headBlock (h : w.Sound) (hargs : ∀ i ∈ p.argumentIds, Issued w.issued i) {i : Id}
    {c : Block} (hc : (headBlocks w.issued p y).find? i = some c) :
    c.next = none ∧
      c.Sound { w.scripts with blocks := w.blocks ++ headBlocks w.issued p y } i := by
  have hdefinition := h.find?_headed (find?_definition w.issued p y)
  have hprototype := h.find?_headed (find?_prototype w.issued p y)
  rcases headBlocks_cases hc with ⟨name, rfl⟩ | ⟨rfl, rfl⟩ | ⟨rfl, rfl⟩
  · refine ⟨rfl, ?_⟩
    exact
      { next := fun n hn => by cases hn
        parent := fun q hq => by
          cases hq
          exact mem_keys_of_find? hprototype
        inputs := fun q hq => by cases hq
        fields := fun q hq => by
          cases mem_singleton.1 hq
          exact Field.resolves_of_not_mem (show "VALUE" ∉ namingFields by decide)
        top := fun htop => by cases htop }
  · refine ⟨rfl, ?_⟩
    exact
      { next := fun n hn => by cases hn
        parent := fun q hq => by
          cases hq
          exact mem_keys_of_find? hdefinition
        inputs := fun q hq => by
          obtain ⟨hname, r, hr, hq⟩ := mem_parameterInputs hq
          obtain ⟨name, hfind⟩ := find?_parameter (y := y) hr
          have hmem : q.1 ∈ p.argumentIds := by
            obtain ⟨pair, hpair, heq⟩ := mem_map.1 hname
            exact heq ▸ (of_mem_zip hpair).2
          rw [Fits, if_neg (not_mem_bodyInputs (hargs _ hmem)), hq]
          exact ⟨_, h.find?_headed hfind, rfl, rfl⟩
        fields := fun q hq => by cases hq
        top := fun htop => by cases htop }
  · refine ⟨rfl, ?_⟩
    exact
      { next := fun n hn => by cases hn
        parent := fun q hq => by cases hq
        inputs := fun q hq => by
          cases mem_singleton.1 hq
          rw [Fits, if_neg (show "custom_block" ∉ bodyInputs by decide)]
          exact ⟨_, hprototype, rfl, rfl⟩
        fields := fun q hq => by cases hq
        top := fun _ => show "procedures_definition" ∈ Listing.hatOpcodes by decide }

/-- A rank for the parameters, the prototype above them, and the parts that were there. -/
theorem Sound.ranked_headed (h : w.Sound) : ∃ rank,
    Ranked { w.scripts with blocks := w.blocks ++ headBlocks w.issued p y } rank := by
  obtain ⟨rank, hrank⟩ := h.scripts.ranked
  refine ⟨fun i => if i ∈ w.blocks.keys then rank i else
    if i = ofNat (w.issued + 2) then 1 else 0, fun i c hc hpart r hr => ?_⟩
  by_cases hi : i ∈ w.blocks.keys
  · obtain ⟨c', hc'⟩ := mem_keys_iff.1 hi
    cases (find?_append_of_find? hc').symm.trans hc
    have hmem : r ∈ w.blocks.keys := h.scripts.mem_keys_of_plugged hc' hr
    dsimp only
    rw [if_pos hi, if_pos hmem]
    exact hrank i c hc' hpart r hr
  · have hhead := (find?_append_of_not_mem hi).symm.trans hc
    obtain ⟨q, hq, htarget⟩ := mem_plugged.1 hr
    rcases headBlocks_cases hhead with ⟨name, rfl⟩ | ⟨rfl, rfl⟩ | ⟨rfl, rfl⟩
    · cases hq
    · obtain ⟨-, r', hr', hq⟩ := mem_parameterInputs hq
      rw [hq] at htarget
      cases htarget
      obtain ⟨m, hm, -, rfl⟩ := lt_of_mem_range hr'
      have hnew := h.not_mem_keys (show w.issued < m by omega)
      have hne : m ≠ w.issued + 2 := by omega
      simp [hi, hnew, hne]
    · rw [isPart_definitionBlock] at hpart
      cases hpart

/-- **The definition of a procedure keeps everything sound.** -/
theorem Sound.headed (h : w.Sound) {name : String} (hp : w.procedures.find? name = some p) :
    (w.headed name p y).Sound := by
  have hargs := h.arguments name p hp
  have hle : w.issued ≤ w.issued + 2 + (p.argumentNames.zip p.argumentIds).length := by omega
  have hdisjoint : List.Disjoint w.blocks.keys (headBlocks w.issued p y).keys :=
    fun i hi => h.not_mem_headBlocks hi
  have hscripts := h.scripts.append (u := headBlocks w.issued p y)
    (h.scripts.nodup.append (nodup_keys_headBlocks _ _ _) hdisjoint)
    (fun i c hc => h.headBlock hargs hc) h.ranked_headed
  refine { h.issue hle with
    scripts := hscripts
    previous := fun q hq => ?_
    keys := fun i hi => ?_
    arguments := fun n q hq i hi => ?_ }
  · cases hq
    exact ⟨_, h.find?_headed (find?_definition _ _ _), isPart_definitionBlock _ _⟩
  · change i ∈ Table.keys (w.blocks ++ _) at hi
    rw [Table.keys_append] at hi
    rcases mem_append.1 hi with hi | hi
    · exact (h.keys i hi).mono hle
    · obtain ⟨m, -, hm, rfl⟩ := issued_of_mem_headBlocks hi
      exact issued_ofNat hm
  · change (w.procedures.set name _).find? n = some q at hq
    rw [find?_set] at hq
    split at hq
    · cases hq
      exact (hargs i hi).mono hle
    · exact (h.arguments n q hq i hi).mono hle

end Headed

/-- A procedure is announced. -/
theorem Sound.announced (h : w.Sound) (name : String) (names : List String) :
    (w.announced name names).Sound := by
  refine { h.issue (Nat.le_add_right w.issued names.length) with
    arguments := fun n q hq i hi => ?_ }
  change (w.procedures.set name _).find? n = some q at hq
  rw [find?_set] at hq
  split at hq
  · cases hq
    exact issued_of_mem_range hi (Nat.le_refl _)
  · exact (h.arguments n q hq i hi).mono (Nat.le_add_right _ _)

/-! ### Sprites -/

theorem Sound.opened (h : w.Sound) : w.opened.Sound where
  scripts :=
    { nodup := nodup_nil
      block := fun id b hb => by cases hb
      single := fun a b c d n hc => by cases hc
      ranked := ⟨fun _ => 0, fun id b hb => by cases hb⟩
      varNames := nodup_nil
      varIds := nodup_nil
      messageNames := h.scripts.messageNames
      messageIds := h.scripts.messageIds }
  previous p hp := by cases hp
  keys id hid := by cases hid
  vars v hv := by cases hv
  messages := h.messages
  arguments n p hp := by cases hp
  drafts := h.drafts

/-- **A nested sprite keeps everything sound**, and is sound itself. -/
theorem Sound.closed (h : w.Sound) (h' : w'.Sound) (hgrows : Grows [] w.opened w')
    (name : String) (settings : Option SpriteSettings) :
    (w.closed w' (w'.draft name settings)).Sound := by
  have hext : w.scripts.Extends (w.closed w' (w'.draft name settings)).scripts :=
    extends_of_blocks_eq rfl (prefix_refl _) hgrows.scripts.broadcasts
  have hissued : w.issued ≤ w'.issued := hgrows.issued
  exact
    { scripts := h.scripts.declare hext rfl h.scripts.varNames h.scripts.varIds
        h'.scripts.messageNames h'.scripts.messageIds
      previous := fun p hp => (h.previous p hp).mono hext
      keys := fun id hid => (h.keys id hid).mono hissued
      vars := fun v hv => (h.vars v hv).mono hissued
      messages := h'.messages
      arguments := fun n p hp i hi => (h.arguments n p hp i hi).mono hissued
      drafts := fun d hd => by
        rcases mem_append.1 hd with hd | hd
        · exact h'.drafts d hd
        · rw [mem_singleton.1 hd]
          exact ⟨h'.scripts, fun _ _ hm => hm⟩ }

/-- **Edits keep a workspace sound.** -/
theorem Edits.sound (h : Edits L old w w') (hold : ∀ i ∈ old, Issued w.issued i)
    (hw : w.Sound) : w'.Sound := by
  induction h with
  | refl w => exact hw
  | trans h h' ih ih' =>
    have hissued := (h.grows hold).issued
    exact ih' (fun i hi => (hold i hi).mono hissued) (ih hold hw)
  | issue w n => exact hw.issue (Nat.le_add_right _ _)
  | note w hat arguments soundsUsed => exact { hw with }
  | turn hp => exact hw.turn fun q hq => (hp q hq).1
  | declare v hx => exact hw.declare v hx
  | addList items hname => exact { hw.issue (le_succ _) with }
  | addMessage hm => exact hw.addMessage hm
  | push hb => exact hw.push hb
  | stack hb hopcode => exact hw.stacked hb
  | hang id hp => exact hw.hang id hp
  | amend hb hid hloose hf => exact hw.amend hb hloose hf
  | call hcall hp hargs hkeys hinputs ih =>
    have hstacked := hw.stacked (isStatement_callBlock _ old)
    exact hw.call hold hp hargs (ih (issued_cons_stacked hold callBlock) hstacked) hkeys hinputs _
  | announce names hL hname => exact hw.announced _ names
  | define y hL hp hopen => exact hw.headed hp
  | sprite name settings hL h hdefined ih =>
    exact hw.closed (ih (fun _ hi => by cases hi) hw.opened)
      (h.grows fun _ hi => by cases hi) name settings

end Workspace

end BlockScript
