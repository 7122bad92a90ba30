import BlockScript.Proofs.Preserved

/-!
# Steps that perform edits

`Build.Performs` says of a step that whatever it does to a sound workspace, if it ends well, is a
sequence of edits, and that its result is as promised. This module proves it of the steps from which
the compiler is made, and of the ways in which steps are put together.

The pattern that all commands follow is: make a block, evaluate the arguments, complete the block.
`Workspace.Owns` is what remains true of the block in between: nobody else knows it, so it is as it
was made and is not plugged in anywhere. It survives every step to which the block is old
(`Workspace.Owns.reaches`), and it is what completing the block needs (`Build.performs_update`).
-/

namespace BlockScript

open Workspace Block Bool BlockScript.Field List Listing Table

theorem Block.Like.opcode {b c : Block} (h : b.Like c) : c.opcode = b.opcode := by rw [h]

theorem Block.Like.shadow {b c : Block} (h : b.Like c) : c.shadow = b.shadow := by rw [h]

/-- The block that an operand stands for is there, has a value, and is none of the given ones. -/
def Operand.Ready (s : Scripts) (avoid : List Id) : Operand → Prop
  | .block (some r) => s.Part false r ∧ r ∉ avoid
  | _ => True

theorem Operand.Ready.mono {s s' : Scripts} {avoid avoid' : List Id} {o : Operand}
    (h : o.Ready s avoid') (he : s.Extends s') (hsub : avoid ⊆ avoid') : o.Ready s' avoid := by
  cases o with
  | block id =>
    cases id with
    | none => trivial
    | some r => exact ⟨h.1.mono he, fun hc => h.2 (hsub hc)⟩
  | value | name => trivial

variable {avoid : List Id} {s : Scripts}

/-- An operand that was there before a block is not that block. -/
theorem Operand.Ready.cons {o : Operand} {id : Id} (h : o.Ready s avoid)
    (hid : id ∉ s.blocks.keys) : o.Ready s (id :: avoid) := by
  cases o with
  | block r =>
    cases r with
    | none => trivial
    | some r =>
      refine ⟨h.1, fun hmem => ?_⟩
      rcases mem_cons.1 hmem with rfl | hmem
      · exact hid h.1.mem_keys
      · exact h.2 hmem
  | value | name => trivial

theorem Operand.Ready.not_mem {avoid held : List Id} {r : Option Id}
    (h : (block r).Ready s avoid) (hheld : held ⊆ avoid) : ∀ i, r = some i → i ∉ held := by
  rintro i rfl hmem
  exact h.2 (hheld hmem)

/-- A block that covers a constant. -/
theorem Operand.Ready.reporter {r : Option Id} (h : (block r).Ready s avoid)
    (covered : Literal) (hcovered : covered.Resolves s) :
    (Input.reporter r covered).Ready s avoid := by
  refine ⟨⟨hcovered, fun r' hr => ?_⟩, fun r' hr => ?_⟩
  · subst hr
    exact h.1
  · cases hr
    exact h.2

theorem Input.ready_menu {r : Id} (h : s.Part true r) (hr : r ∉ avoid) :
    (menu r).Ready s avoid := by
  refine ⟨h, fun r' hr' => ?_⟩
  cases hr'
  exact hr

theorem Input.Ready.extend {s s' : Scripts} {i : Input} (h : i.Ready s avoid) (he : s.Extends s') :
    i.Ready s' avoid :=
  ⟨h.1.mono he, h.2⟩

theorem Licence.Within.refl (L : Licence) : L.Within L := ⟨fun _ _ h => h, id, id⟩

/-- A licence to do nothing but make blocks. -/
def Licence.plain : Licence := ⟨fun _ _ => False, False, False⟩

theorem Licence.plain_within (L : Licence) : plain.Within L :=
  ⟨fun _ _ h => h.elim, False.elim, False.elim⟩

namespace Workspace

variable {L : Licence} {old old' : List Id} {w w' : Workspace} {id : Id} {b : Block}

theorem Edits.mono_old (h : Edits L old' w w') (hsub : old ⊆ old') : Edits L old w w' :=
  h.mono (Licence.Within.refl L) hsub

variable {held : List Id}

theorem Edited.mono_old (h : Edited L held old' w w') (hsub : old ⊆ old') :
    Edited L held old w w' :=
  h.mono (Licence.Within.refl L) hsub

theorem Sound.issued_of_subset (h : w.Sound) (hold : old ⊆ w.blocks.keys) :
    ∀ i ∈ old, Id.Issued w.issued i :=
  fun i hi => h.keys i (hold hi)

/-! ### Lists -/

theorem lists_addList (w : Workspace) (l : ItemList) : (w.addList l).lists = w.lists ++ [l] := by
  rw [addList, lists]
  simp

/-- Only the blocks and the place where the script goes on change with a new statement. -/
theorem stacked_eq (w : Workspace) (b : Block) :
    w.stacked b =
      { w with
        issued := w.issued + 1
        blocks := (w.stacked b).blocks
        previous := some (Id.ofNat (w.issued + 1)) } := by
  cases hp : w.previous with
  | none =>
    rw [stacked, linked_of_none hp]
    rfl
  | some p =>
    rw [stacked, linked_of_some hp]
    rfl

theorem lists_stacked (w : Workspace) (b : Block) : (w.stacked b).lists = w.lists := by
  rw [stacked_eq]
  rfl

/-- Without classes inside, the lists in use stay in use. -/
theorem Edits.lists (h : Edits L old w w') (hL : ¬L.nests) : w.lists <+: w'.lists := by
  induction h with
  | refl | issue | note | turn | declare | addMessage | push | hang | amend | announce | define =>
    exact prefix_refl _
  | trans h h' ih ih' => exact (ih hL).trans (ih' hL)
  | addList items hname =>
    rw [lists_addList]
    exact prefix_append _ _
  | stack hb hopcode => exact (lists_stacked ..).symm ▸ prefix_refl _
  | call hcall hp hargs hkeys hinputs ih =>
    have hargs := ih hL
    rw [lists_stacked] at hargs
    exact hargs
  | sprite name settings hnests => exact absurd hnests hL

/-- A sound workspace and what became of it. -/
structure Reaches (L : Licence) (old : List Id) (w w' : Workspace) : Prop where
  before : w.Sound
  after : w'.Sound
  edits : Edits L old w w'
  grows : Grows old w w'

theorem Edits.reaches (h : Edits L old w w') (hw : w.Sound) (hold : old ⊆ w.blocks.keys) :
    Reaches L old w w' :=
  ⟨hw, h.sound (hw.issued_of_subset hold) hw, h, h.grows (hw.issued_of_subset hold)⟩

theorem Edited.reaches (h : Edited L held old w w') (hw : w.Sound) (hold : old ⊆ w.blocks.keys) :
    Reaches L old w w' :=
  h.edits.reaches hw hold

theorem Reaches.keys (h : Reaches L old w w') : w.blocks.keys <+: w'.blocks.keys :=
  h.grows.scripts.keys

theorem Reaches.mono (h : Reaches L old' w w') (hsub : old ⊆ old') : Reaches L old w w' :=
  { h with
    edits := h.edits.mono_old hsub
    grows := h.grows.mono hsub }

theorem Reaches.trans {w'' : Workspace} (h : Reaches L old w w') (h' : Reaches L old w' w'') :
    Reaches L old w w'' :=
  ⟨h.before, h'.after, h.edits.trans h'.edits, h.grows.trans h'.grows⟩

/-- Two steps to each of which all blocks are old. -/
theorem Reaches.andThen {w'' : Workspace} (h : Reaches L w.blocks.keys w w')
    (h' : Reaches L w'.blocks.keys w' w'') : Reaches L w.blocks.keys w w'' :=
  h.trans (h'.mono h.keys.subset)

/-! ### Blocks at hand -/

/-- The block has the given opcode, which names no procedure, and is no shadow; it is neither old
nor plugged in. -/
structure Owns (w : Workspace) (old : List Id) (opcode : String) (id : Id) : Prop where
  new : id ∉ old
  block : ∃ c, w.blocks.find? id = some c ∧ c.opcode = opcode ∧ c.shadow = false
  loose : w.scripts.Loose id
  free : opcode ∉ procedureOpcodes

variable {opcode : String}

theorem Owns.mem_keys (h : w.Owns old opcode id) : id ∈ w.blocks.keys := by
  obtain ⟨c, hc, -⟩ := h.block
  exact mem_keys_of_find? hc

theorem Owns.mono (h : w.Owns old' opcode id) (hsub : old ⊆ old') : w.Owns old opcode id :=
  { h with new := fun hc => h.new (hsub hc) }

/-- The block at hand and all old ones are there. -/
theorem Owns.cons_subset (h : w.Owns old opcode id) (hold : old ⊆ w.blocks.keys) :
    id :: old ⊆ w.blocks.keys :=
  List.cons_subset.2 ⟨h.mem_keys, hold⟩

/-- Operands may hang under the block at hand. -/
theorem Owns.hangs (h : w.Owns old opcode id) (hheld : held ⊆ old) :
    ∀ p, some id = some p → p ∈ w.blocks.keys ∧ p ∉ held := by
  rintro p ⟨⟩
  exact ⟨h.mem_keys, fun hc => h.new (hheld hc)⟩

/-- A step to which the block is old leaves it alone. -/
theorem Owns.reaches_of_mem (h : w.Owns old opcode id) (hr : Reaches L old' w w')
    (hid : id ∈ old') : w'.Owns old opcode id := by
  obtain ⟨c, hc, hopcode, hshadow⟩ := h.block
  obtain ⟨c', hc', hlike⟩ := hr.grows.like id hid c hc
  exact ⟨h.new, ⟨c', hc', hlike.opcode.trans hopcode, hlike.shadow.trans hshadow⟩,
    hr.grows.loose id hid h.loose, h.free⟩

theorem Owns.reaches (h : w.Owns old opcode id) (hr : Reaches L w.blocks.keys w w') :
    w'.Owns old opcode id := h.reaches_of_mem hr h.mem_keys

/-- A block at hand that has a value may be plugged in. -/
theorem Owns.ready (h : w.Owns old opcode id) (hvalue : reporters.has opcode) :
    (Operand.block (some id)).Ready w.scripts old := by
  obtain ⟨c, hc, hopcode, hshadow⟩ := h.block
  refine ⟨⟨c, hc, ?_, hshadow⟩, h.new⟩
  rw [isPart, hopcode, hvalue, Bool.or_true]

theorem Owns.statement (h : w.Owns old opcode id)
    (haction : reporters.has opcode = false) : w.scripts.Statement id := by
  obtain ⟨c, hc, hopcode, hshadow⟩ := h.block
  refine ⟨c, hc, ?_⟩
  rw [isPart, hopcode, hshadow, haction, Bool.or_false]

theorem owns_push (hw : w.Sound) (hb : b.inputs = []) (hshadow : b.shadow = false)
    (hfree : b.opcode ∉ procedureOpcodes) :
    (w.push b).Owns w.blocks.keys b.opcode (Id.ofNat (w.issued + 1)) := by
  have hnew := hw.not_mem_keys (Nat.lt_succ_self w.issued)
  refine ⟨hnew, ⟨b, find?_push hw.free b, rfl, hshadow⟩, ?_, hfree⟩
  refine (hw.scripts.loose hnew).append fun a c hc => ?_
  obtain ⟨-, rfl⟩ := Table.find?_singleton hc
  rw [plugged, hb]
  exact not_mem_nil

theorem owns_stacked (hw : w.Sound) (hb : w.IsStatement old b)
    (hfree : b.opcode ∉ procedureOpcodes) :
    (w.stacked b).Owns w.blocks.keys b.opcode (Id.ofNat (w.issued + 1)) := by
  have hnew := hw.not_mem_keys (Nat.lt_succ_self w.issued)
  have hshadow : b.shadow = false := (or_eq_false_iff.1 hb.kind).1
  exact ⟨hnew, ⟨_, find?_stacked_new hw b, rfl, hshadow⟩,
    loose_stacked (hw.scripts.loose hnew) (hb.not_mem_plugged hw), hfree⟩

/-- A completed block is plugged into another one no more than before. -/
theorem Owns.not_mem_plugged {c c' : Block} (h : w.Owns old opcode id)
    (hc : w.blocks.find? id = some c) (hf : w.Revises old id c c') : id ∉ c'.plugged := by
  intro hmem
  obtain ⟨p, hp, htarget⟩ := mem_plugged.1 hmem
  rcases hf.inputs p hp with hold | ⟨-, hnew⟩
  · exact h.loose id c hc (mem_plugged.2 ⟨p, hold, htarget⟩)
  · exact hnew id htarget (.head _)

end Workspace

namespace Build

/-- What the step does to a sound workspace is a sequence of edits, which preserve the blocks that
are held, and its result is good. -/
def Performs {α : Type} (m : Build α) (L : Licence) (held old : List Id) (w : Workspace)
    (good : α → Workspace → Prop) : Prop :=
  w.Sound → old ⊆ w.blocks.keys → held ⊆ old → ∀ a w', m.run w = (.ok a, w') →
    Edited L held old w w' ∧ good a w'

variable {α β : Type} {m : Build α} {f : α → Build β} {L : Licence} {held old old' : List Id}
  {w w' : Workspace} {good good' : α → Workspace → Prop} {post : β → Workspace → Prop} {id : Id}
  {b : Block} {opcode : String}

/-! ### Steps one after the other -/

theorem performs_pure {a : α} (h : good a w) : (pure a : Build α).Performs L held old w good := by
  intro _ _ _ a' w' hrun
  cases hrun
  exact ⟨.refl w, h⟩

theorem Performs.bind (hm : m.Performs L held old w good)
    (hf : ∀ a w', Reaches L old w w' → good a w' → (f a).Performs L held old w' post) :
    (m >>= f).Performs L held old w post := by
  intro hw hold hheld b w'' hrun
  obtain ⟨a, w', hrun₁, hrun₂⟩ := run_bind_eq_ok hrun
  obtain ⟨hedits, ha⟩ := hm hw hold hheld a w' hrun₁
  have h := hedits.reaches hw hold
  have hold' := List.Subset.trans hold h.keys.subset
  obtain ⟨hedits', hb⟩ := hf a w' h ha h.after hold' hheld b w'' hrun₂
  exact ⟨hedits.trans hedits', hb⟩

theorem Performs.imp (hm : m.Performs L held old w good)
    (h : ∀ a w', Reaches L old w w' → good a w' → good' a w') : m.Performs L held old w good' := by
  intro hw hold hheld a w' hrun
  obtain ⟨hedits, ha⟩ := hm hw hold hheld a w' hrun
  exact ⟨hedits, h a w' (hedits.reaches hw hold) ha⟩

/-- The blocks that are held are old. -/
theorem performs_of_held (h : held ⊆ old → m.Performs L held old w good) :
    m.Performs L held old w good :=
  fun hw hold hheld => h hheld hw hold hheld

/-- Fewer blocks may count as old. -/
theorem Performs.of_keys (hm : m.Performs L held w.blocks.keys w good) : m.Performs L held old w good := by
  intro hw hold hheld a w' hrun
  obtain ⟨hedits, ha⟩ := hm hw (.refl _) (List.Subset.trans hheld hold) a w' hrun
  exact ⟨hedits.mono_old hold, ha⟩

/-- To the first step more blocks are old. -/
theorem Performs.within (hm : m.Performs L held old' w good) (hold' : old' ⊆ w.blocks.keys)
    (hsub : old ⊆ old')
    (hf : ∀ a w', Reaches L old' w w' → good a w' → (f a).Performs L held old w' post) :
    (m >>= f).Performs L held old w post := by
  have hm' : m.Performs L held old w fun a w' => Reaches L old' w w' ∧ good a w' := by
    intro hw _ hheld a w' hrun
    obtain ⟨hedits, ha⟩ := hm hw hold' (List.Subset.trans hheld hsub) a w' hrun
    exact ⟨hedits.mono_old hsub, hedits.reaches hw hold', ha⟩
  exact hm'.bind fun a w' _ ⟨h, ha⟩ => hf a w' h ha

/-- To the first step all blocks are old. -/
theorem Performs.next (hm : m.Performs L held w.blocks.keys w good)
    (hf : ∀ a w', Reaches L w.blocks.keys w w' → good a w' → (f a).Performs L held old w' post) :
    (m >>= f).Performs L held old w post := by
  intro hw hold
  exact hm.within (.refl _) hold hf hw hold

theorem performs_get {f : Workspace → Build β} (hf : (f w).Performs L held old w post) :
    (get >>= f).Performs L held old w post := by
  intro hw hold hheld b w' hrun
  rw [run_bind_of_ok (run_get w)] at hrun
  exact hf hw hold hheld b w' hrun

/-- A result that does not depend on the workspace. -/
theorem performs_lift {r : Except Fault α}
    (hf : ∀ a, r = .ok a → (f a).Performs L held old w post) :
    (lift r >>= f).Performs L held old w post := by
  intro hw hold hheld b w' hrun
  obtain ⟨a, w₁, hrun₁, hrun₂⟩ := run_bind_eq_ok hrun
  obtain ⟨hr, rfl⟩ := run_lift_eq_ok hrun₁
  exact hf a hr hw hold hheld b w' hrun₂

/-- A step that only makes blocks keeps the lists in use. -/
theorem Performs.keep_lists (hm : m.Performs .plain held old w good) :
    m.Performs L held old w fun a w' => good a w' ∧ w.lists <+: w'.lists := by
  intro hw hold hheld a w' hrun
  obtain ⟨hedits, ha⟩ := hm hw hold hheld a w' hrun
  exact ⟨hedits.mono (Licence.plain_within L) (.refl _), ha, hedits.edits.lists id⟩

/-! ### Completing a block -/

/-- A block at hand is changed; it may get another opcode. -/
theorem performs_update {f : Block → Block} {opcode' : String} (h : w.Owns old opcode id)
    (hf : ∀ c, w.blocks.find? id = some c → c.opcode = opcode →
      w.Revises old id c (f c) ∧ (f c).opcode = opcode') :
    (update id f).Performs L held old w fun _ w' => w'.Owns old opcode' id := by
  intro hw hold hheld u w' hrun
  obtain ⟨-, rfl⟩ := run_update_eq_ok hrun
  obtain ⟨c, hc, hopcode, hshadow⟩ := h.block
  obtain ⟨hrevises, hopcode'⟩ := hf c hc hopcode
  refine ⟨.amend hheld hc h.new h.loose hrevises, h.new,
    ⟨f c, find?_amend hc f, hopcode', hrevises.shadow.trans hshadow⟩, ?_, ?_⟩
  · refine h.loose.adjust fun c' hc' => ?_
    cases hc.symm.trans hc'
    exact h.not_mem_plugged hc hrevises
  · exact hopcode' ▸ hrevises.free.2

/-- The inputs and fields of a block at hand are changed. -/
theorem performs_complete {f : Block → Block} (h : w.Owns old opcode id)
    (hf : ∀ c, f c = { c with inputs := (f c).inputs, fields := (f c).fields })
    (hinputs : ∀ c, ∀ p ∈ (f c).inputs, p ∈ c.inputs ∨
      p.2.Fits w.scripts id p.1 ∧ ∀ r, p.2.target? = some r → r ∉ id :: old)
    (hfields : ∀ c, ∀ p ∈ (f c).fields, p ∈ c.fields ∨
      p.2.Resolves w.scripts p.1 ∧ p.2.Listed w.lists p.1) :
    (update id f).Performs L held old w fun _ w' => w'.Owns old opcode id := by
  refine performs_update h fun c hc hopcode => ?_
  have heq := hf c
  have hsame : (f c).opcode = c.opcode := by rw [heq]
  refine ⟨?_, hsame.trans hopcode⟩
  exact
    { next := by rw [heq]
      parent := by rw [heq]
      shadow := by rw [heq]
      kind := by
        rw [heq]
        rfl
      top := by rw [heq]
      opcode := .inl hsame
      free := by
        rw [hsame, hopcode]
        exact ⟨h.free, h.free⟩
      inputs := hinputs c
      fields := hfields c
      mutation := by rw [heq] }

theorem performs_setInputs {inputs : Table Input} (h : w.Owns old opcode id)
    (hinputs : ∀ p ∈ inputs, p.1 ∉ bodyInputs ∧ p.2.Ready w.scripts (id :: old)) :
    (setInputs id inputs).Performs L held old w fun _ w' => w'.Owns old opcode id := by
  refine performs_complete h (fun _ => rfl) (fun c p hp => .inr ?_) fun c p hp => .inl hp
  obtain ⟨hname, hready⟩ := hinputs p hp
  rw [Input.Fits, if_neg hname]
  exact hready

variable {name : String}

/-- A single input is set. -/
theorem performs_setInput_of_fits {i : Input} (h : w.Owns old opcode id)
    (hi : i.Fits w.scripts id name) (hnew : ∀ r, i.target? = some r → r ∉ id :: old) :
    (setInput id name i).Performs L held old w fun _ w' => w'.Owns old opcode id := by
  refine performs_complete h (fun _ => rfl) (fun c p hp => ?_) fun c p hp => .inl hp
  rcases mem_of_mem_set hp with hold | rfl
  · exact .inl hold
  · exact .inr ⟨hi, hnew⟩

theorem performs_setInput {i : Input} (h : w.Owns old opcode id) (hname : name ∉ bodyInputs)
    (hi : i.Ready w.scripts (id :: old)) :
    (setInput id name i).Performs L held old w fun _ w' => w'.Owns old opcode id := by
  refine performs_setInput_of_fits h ?_ hi.2
  rw [Input.Fits, if_neg hname]
  exact hi.1

theorem performs_setFields {fields : Table Field} (h : w.Owns old opcode id)
    (hfields : ∀ p ∈ fields, p.2.Resolves w.scripts p.1 ∧ p.2.Listed w.lists p.1) :
    (update id fun b => { b with fields }).Performs L held old w fun _ w' => w'.Owns old opcode id :=
  performs_complete h (fun _ => rfl) (fun _ _ hp => .inl hp) fun _ p hp => .inr (hfields p hp)

theorem performs_setField {v : Field} (h : w.Owns old opcode id)
    (hv : v.Resolves w.scripts name ∧ v.Listed w.lists name) :
    (setField id name v).Performs L held old w fun _ w' => w'.Owns old opcode id := by
  refine performs_complete h (fun _ => rfl) (fun c p hp => .inl hp) fun c p hp => ?_
  rcases mem_of_mem_set hp with hold | rfl
  · exact .inl hold
  · exact .inr hv

/-- A field that names a variable that is declared. -/
theorem declared_field {v : Id} (hv : (Literal.variableName name v).Resolves w.scripts) :
    (named name v).Resolves w.scripts "VARIABLE" ∧
      (named name v).Listed w.lists "VARIABLE" := by
  obtain ⟨u, hu, rfl, rfl⟩ := hv
  exact ⟨⟨fun _ => ⟨u, hu, rfl⟩, fun hc => absurd hc (by decide)⟩, fun hc => absurd hc (by decide)⟩

/-- A field that names nothing. -/
theorem performs_setPlainField {v : Field} (h : w.Owns old opcode id)
    (hname : name ∉ namingFields) :
    (setField id name v).Performs L held old w fun _ w' => w'.Owns old opcode id :=
  performs_setField h ⟨resolves_of_not_mem hname, listed_of_not_mem hname⟩

/-! ### Making blocks -/

/-- The opcode of a block with a value. -/
def isValue (opcode : String) : Bool := Listing.reporters.has opcode

/-- The opcode of a statement that names no procedure. -/
def isAction (opcode : String) : Bool :=
  !Listing.reporters.has opcode && !procedureOpcodes.contains opcode

theorem not_mem_of_isValue (h : isValue opcode) :
    opcode ∉ procedureOpcodes := by
  have hnone : ∀ o ∈ procedureOpcodes, isValue o = false := by decide
  intro hmem
  rw [hnone opcode hmem] at h
  cases h

theorem not_mem_of_isAction (h : isAction opcode) :
    opcode ∉ procedureOpcodes := by
  rw [isAction, and_eq_true, not_eq_true', not_eq_true',
    contains_eq_mem, decide_eq_false_iff_not] at h
  exact h.2

theorem has_of_isAction (h : isAction opcode) :
    reporters.has opcode = false := by
  rw [isAction, and_eq_true, not_eq_true'] at h
  exact h.1

theorem performs_reporter (h : isValue opcode) :
    (reporter opcode).Performs L held w.blocks.keys w fun id w' =>
      w'.Owns w.blocks.keys opcode id := by
  intro hw _ _ id w' hrun
  rw [run_reporter hw.free] at hrun
  cases hrun
  have hpart : ({ opcode } : Block).isPart := h
  refine ⟨.push ?_ (fun p hp => by cases hp), owns_push hw rfl rfl (not_mem_of_isValue h)⟩
  exact
    { kind := hpart
      opcode := not_mem_of_isValue h
      next := rfl
      parent := fun p hp => by cases hp
      inputs := rfl
      fields := fun p hp => by cases hp
      top := rfl
      mutation := rfl }

/-- Making a statement, perhaps one that starts a script. -/
theorem performs_create {place : Placement} {inputs : Table Input} (h : isAction opcode)
    (hplace : place.isReporter = false)
    (htop : place.topLevel → opcode ∈ hatOpcodes)
    (hinputs : ∀ p ∈ inputs, p.1 ∉ bodyInputs ∧ p.2.Ready w.scripts old) :
    (create opcode place inputs).Performs L held old w fun id w' =>
      w'.Owns w.blocks.keys opcode id ∧ w'.previous = some id := by
  intro hw hold hheld id w' hrun
  have hprev : ∀ p, w.previous = some p → w.blocks.has p := fun p hp =>
    has_iff.2 (mem_keys_iff.1 (hw.previous p hp).mem_keys)
  rw [run_create hw.free hprev opcode hplace] at hrun
  cases hrun
  have hpart : reporters.has opcode = false := has_of_isAction h
  have hfree := not_mem_of_isAction h
  have hstatement : w.IsStatement old
      { opcode
        inputs
        topLevel := place.topLevel
        position := if place.topLevel then some (0, 0) else none } :=
    { kind := hpart
      next := rfl
      inputs := hinputs
      fields := rfl
      top := htop
      mutation := rfl }
  have howns := owns_stacked hw hstatement hfree
  refine ⟨(Edited.stack hheld (hw.issued_of_subset hold) hstatement hfree).trans
    (.quiet (.note _ _ _ _) rfl rfl), ⟨howns.new, howns.block, howns.loose, hfree⟩, ?_⟩
  rw [stacked_eq]

theorem performs_statement (h : isAction opcode) :
    (statement opcode).Performs L held w.blocks.keys w fun id w' =>
      w'.Owns w.blocks.keys opcode id ∧ w'.previous = some id :=
  performs_create h rfl (fun htop => by cases htop) fun p hp => by cases hp

/-- Making a block that is a part and names nothing else than it may. -/
theorem performs_put_fresh (hb : w.IsPart b) (hparent : ∀ p, b.parent = some p → p ∉ held) :
    (do
      let id ← fresh
      put id b
      pure id : Build Id).Performs L held w.blocks.keys w fun id w' =>
        w'.scripts.Part b.shadow id ∧ id ∉ w.blocks.keys := by
  intro hw _ _ id w' hrun
  rw [run_bind_of_ok (run_fresh w), run_bind_of_ok (run_put_fresh hw.free b)] at hrun
  cases hrun
  exact ⟨.push hb hparent, ⟨b, find?_push hw.free b, hb.kind, rfl⟩,
    hw.not_mem_keys (Nat.lt_succ_self _)⟩

theorem performs_menu {field : String} {value : Value} {parent : Option Id}
    (hopcode : opcode ∉ procedureOpcodes) (hfield : field ∉ namingFields)
    (hparent : ∀ p, parent = some p → p ∈ w.blocks.keys ∧ p ∉ held) :
    (menu opcode field value parent).Performs L held w.blocks.keys w fun id w' =>
      w'.scripts.Part true id ∧ id ∉ w.blocks.keys := by
  refine performs_put_fresh (b := { opcode, parent, fields := [(field, { value })], shadow := true })
    ?_ fun p hp => (hparent p hp).2
  exact
    { kind := rfl
      opcode := hopcode
      next := rfl
      parent := fun p hp => (hparent p hp).1
      inputs := rfl
      fields := fun p hp => by
        cases mem_singleton.1 hp
        exact ⟨resolves_of_not_mem hfield, listed_of_not_mem hfield⟩
      top := rfl
      mutation := rfl }

/-- A block hangs under another one. -/
theorem performs_setParent {r : Option Id} {p : Id} (hp : p ∈ w.blocks.keys) (hnew : p ∉ held)
    (hr : ∀ i, r = some i → i ∉ held) :
    (setParent r p).Performs L held old w fun _ w' =>
      w'.vars = w.vars ∧ w'.scopes = w.scopes ∧ w'.previous = w.previous := by
  intro _ _ _ u w' hrun
  cases r with
  | none => cases hrun
  | some r =>
    obtain ⟨-, rfl⟩ := run_update_eq_ok hrun
    exact ⟨.hang hp (hr r rfl) hnew, rfl, rfl, rfl⟩

/-! ### What names stand for -/

theorem performs_variableNamed {initial : Value} :
    (variableNamed name initial).Performs L held old w fun id w' =>
      (Literal.variableName name id).Resolves w'.scripts ∧ w'.scopes = w.scopes := by
  intro _ _ _ id w' hrun
  rw [variableNamed, run_bind_of_ok (run_get w)] at hrun
  cases hfind : w.vars.find? (·.name == name) with
  | some v =>
    rw [hfind] at hrun
    cases hrun
    have hname : v.name = name := by simpa using find?_some hfind
    exact ⟨.refl w, ⟨v, mem_of_find?_eq_some hfind, hname, rfl⟩, rfl⟩
  | none =>
    rw [hfind] at hrun
    cases hrun
    refine ⟨.quiet (.declare initial fun u hu hname => ?_) rfl rfl,
      ⟨_, mem_append_right _ (mem_singleton_self _), rfl, rfl⟩, rfl⟩
    exact absurd (find?_eq_none.1 hfind u hu) (by simp [hname])

theorem performs_listNamed {items : Value} :
    (listNamed name items).Performs L held old w fun id w' =>
      ∃ l ∈ w'.lists, l.name = name ∧ l.id = id := by
  intro _ _ _ id w' hrun
  rw [listNamed, run_bind_of_ok (run_get w)] at hrun
  cases hfind : w.lists.find? (·.name == name) with
  | some l =>
    rw [hfind] at hrun
    cases hrun
    have hname : l.name = name := by simpa using find?_some hfind
    exact ⟨.refl w, l, mem_of_find?_eq_some hfind, hname, rfl⟩
  | none =>
    rw [hfind] at hrun
    cases hrun
    refine ⟨.quiet (.addList items fun l hl hname => ?_) rfl rfl, ?_⟩
    · exact absurd (find?_eq_none.1 hfind l hl) (by simp [hname])
    · dsimp only
      rw [lists_addList]
      exact ⟨_, mem_append_right _ (mem_singleton_self _), rfl, rfl⟩

theorem performs_messageNamed :
    (messageNamed name).Performs L held old w fun id w' => w'.broadcasts.find? name = some id := by
  intro _ _ _ id w' hrun
  rw [messageNamed, run_bind_of_ok (run_get w)] at hrun
  cases hfind : w.broadcasts.find? name with
  | some i =>
    rw [hfind] at hrun
    cases hrun
    exact ⟨.refl w, hfind⟩
  | none =>
    rw [hfind] at hrun
    cases hrun
    exact ⟨.quiet (.addMessage hfind) rfl rfl, find?_set_self _ _ _⟩

theorem performs_useSound :
    (useSound name).Performs L held old w fun _ w' => w'.scripts = w.scripts := by
  intro _ _ _ u w' hrun
  cases hrun
  exact ⟨.quiet (.note w _ _ _) rfl rfl, rfl⟩

theorem performs_variableReporter :
    (variableReporter name).Performs L held w.blocks.keys w fun id w' =>
      w'.scripts.Part false id ∧ id ∉ w.blocks.keys := by
  refine performs_variableNamed.next fun variableId w₁ h₁ hv => ?_
  let b : Block := { opcode := "data_variable", fields := [("VARIABLE", .named name variableId)] }
  have hb : w₁.IsPart b :=
    { kind := by
        change (false || reporters.has "data_variable")
        decide
      opcode := by
        change "data_variable" ∉ procedureOpcodes
        decide
      next := rfl
      parent := fun p hp => by cases hp
      inputs := rfl
      fields := fun p hp => by
        cases mem_singleton.1 hp
        exact declared_field hv.1
      top := rfl
      mutation := rfl }
  refine (performs_put_fresh hb fun p hp => by cases hp).of_keys.imp fun id w₂ _ hid => ?_
  exact ⟨hid.1, fun hc => hid.2 (h₁.keys.subset hc)⟩

/-! ### Operands -/

/-- Plugging an operand in. -/
theorem performs_plug {o : Operand} {parent : Option Id} (ho : o.Ready w.scripts avoid)
    (havoid : avoid ⊆ w.blocks.keys) (hheld : held ⊆ avoid)
    (hparent : ∀ p, parent = some p → p ∈ w.blocks.keys ∧ p ∉ held) :
    (plug o parent).Performs L held w.blocks.keys w fun i w' => i.Ready w'.scripts avoid := by
  cases o with
  | name n =>
    refine performs_variableReporter.next fun id w₁ h₁ hid => ?_
    have hready : (Operand.block (some id)).Ready w₁.scripts avoid :=
      ⟨hid.1, fun hc => hid.2 (havoid hc)⟩
    cases parent with
    | none => exact performs_pure (hready.reporter coveredNumber trivial)
    | some p =>
      obtain ⟨hmem, hp⟩ := hparent p rfl
      refine (performs_setParent (h₁.keys.subset hmem) hp (hready.not_mem hheld)).bind
        fun _ w₂ h₂ _ => ?_
      exact performs_pure ((hready.reporter coveredNumber trivial).extend h₂.grows.scripts)
  | block id =>
    cases parent with
    | none => exact performs_pure (ho.reporter coveredNumber trivial)
    | some p =>
      obtain ⟨hmem, hp⟩ := hparent p rfl
      refine (performs_setParent hmem hp (ho.not_mem hheld)).bind fun _ w₁ h₁ _ => ?_
      exact performs_pure ((ho.reporter coveredNumber trivial).extend h₁.grows.scripts)
  | value v =>
    refine performs_lift fun t _ => performs_pure ⟨?_, fun r hr => by cases hr⟩
    split <;> trivial

/-- Plugging an operand into a block at hand. -/
theorem performs_plug_into {o : Operand} (ho : o.Ready w.scripts (id :: old))
    (h : w.Owns old opcode id) (hold : old ⊆ w.blocks.keys) (hheld : held ⊆ old) :
    (plug o (some id)).Performs L held w.blocks.keys w fun i w' =>
      i.Ready w'.scripts (id :: old) :=
  performs_plug ho (h.cons_subset hold) (List.Subset.trans hheld (subset_cons_self _ _))
    (h.hangs hheld)

/-- Plugging operands in one after the other. -/
theorem performs_plugAll {parent : Id} {os : List (String × Operand)}
    (hos : ∀ p ∈ os, p.2.Ready w.scripts avoid) (havoid : avoid ⊆ w.blocks.keys)
    (hheld : held ⊆ avoid) (hparent : ∀ p, some parent = some p → p ∈ w.blocks.keys ∧ p ∉ held) :
    (plugAll parent os).Performs L held w.blocks.keys w fun inputs w' =>
      inputs.keys = os.map Prod.fst ∧ ∀ p ∈ inputs, p.2.Ready w'.scripts avoid := by
  induction os generalizing w with
  | nil => exact performs_pure ⟨rfl, fun p hp => by cases hp⟩
  | cons q os ih =>
    obtain ⟨name, o⟩ := q
    have ho := hos _ (.head _)
    refine (performs_plug ho havoid hheld hparent).next fun i w₁ h₁ hi => ?_
    have hrest := ih
      (fun p hp => (hos p (.tail _ hp)).mono h₁.grows.scripts (.refl _))
      (List.Subset.trans havoid h₁.keys.subset)
      fun p hp => ⟨h₁.keys.subset (hparent p hp).1, (hparent p hp).2⟩
    refine hrest.next fun inputs w₂ h₂ hinputs => performs_pure ⟨?_, ?_⟩
    · rw [map_cons, ← hinputs.1]
      rfl
    · exact forall_mem_cons.2 ⟨hi.extend h₂.grows.scripts, hinputs.2⟩

end Build

end BlockScript
