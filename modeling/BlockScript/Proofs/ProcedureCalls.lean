import Mathlib.Data.List.Pairwise
import BlockScript.Proofs.Integrity

/-!
# Calls of procedures agree with their definitions

A call names a procedure by its text and by the identifiers of its arguments, and so does the
prototype in the definition of the procedure; the two have to agree. They are made at different
times. A procedure is announced under a *signature*, which calls use from then on, before or after
the prototype is made with the same signature. If a name is defined again it is announced again,
under new identifiers.

So the signatures of a workspace are those of its prototypes and of the procedures that are
announced and still open (`Workspace.signatures`). Defining a procedure moves its signature from one
group to the other. No edit loses a signature as soon as there are blocks
(`Workspace.Edits.registered`), every call has one of them (`Workspace.Edits.call_cases`), and at
the end of a sprite no procedure is open, so then they all belong to prototypes.
-/

namespace BlockScript

open Workspace Block BlockScript.Id List Option Procedure Table

/-! ### Signatures -/

/-- How a procedure is named: its text, and the identifiers of its arguments. -/
abbrev Procedure.Signature := String × List Id

def Mutation.signature (m : Mutation) : Procedure.Signature := (m.proccode, m.argumentIds)

def Procedure.signature (p : Procedure) : Procedure.Signature := (p.proccode, p.argumentIds)

/-- The signature of a procedure that is announced but not defined. -/
def Procedure.open? (p : Procedure) : Option Procedure.Signature :=
  if p.definition.isNone then some p.signature else none

/-- The signature of a prototype. -/
def Block.signature? (b : Block) : Option Procedure.Signature :=
  if b.opcode = "procedures_prototype" then b.mutation.map Mutation.signature else none

theorem Block.signature?_of_ne {b : Block} (h : b.opcode ≠ "procedures_prototype") :
    b.signature? = none := if_neg h

theorem Block.signature?_of_not_mem {b : Block} (h : b.opcode ∉ procedureOpcodes) :
    b.signature? = none :=
  b.signature?_of_ne fun hc => h (hc ▸ by decide)

theorem Block.Like.signature? {b c : Block} (h : b.Like c) : c.signature? = b.signature? := by
  rw [h]
  rfl

/-- The signatures of the prototypes. -/
def Table.prototypes (blocks : Table Block) : List Procedure.Signature :=
  blocks.filterMap fun q => q.2.signature?

namespace Table

variable {α β : Type}

/-- A change that the readings of the values do not show. -/
theorem filterMap_adjust {t : Table α} {k : String} {f : α → α} {g : α → Option β}
    (h : ∀ a, t.find? k = some a → g (f a) = g a) :
    (t.adjust k f).filterMap (fun q => g q.2) = t.filterMap fun q => g q.2 := by
  induction t with
  | nil => rfl
  | cons p t ih =>
    obtain ⟨k', a⟩ := p
    by_cases hk : k' = k
    · have ha := h a (if_pos hk)
      rw [adjust, if_pos hk, filterMap_cons, filterMap_cons, ha]
    · have ih := ih fun a ha => h a ((if_neg hk).trans ha)
      rw [adjust, if_neg hk, filterMap_cons, filterMap_cons, ih]

/-- Storing a value replaces the reading of the value that was there. -/
theorem exists_filterMap_set (t : Table α) (k : String) (a : α) (g : α → Option β) :
    ∃ l₁ l₂, t.filterMap (fun q => g q.2) = l₁ ++ ((t.find? k).bind g).toList ++ l₂ ∧
      (t.set k a).filterMap (fun q => g q.2) = l₁ ++ (g a).toList ++ l₂ := by
  induction t with
  | nil =>
    refine ⟨[], [], rfl, ?_⟩
    rw [set, filterMap_cons]
    cases g a <;> rfl
  | cons p t ih =>
    obtain ⟨k', a'⟩ := p
    by_cases hk : k' = k
    · refine ⟨[], t.filterMap fun q => g q.2, ?_, ?_⟩
      · rw [find?, if_pos hk, filterMap_cons]
        cases hg : g a' <;> simp [hg]
      · rw [set, if_pos hk, filterMap_cons]
        cases hg : g a <;> simp
    · obtain ⟨l₁, l₂, hold, hnew⟩ := ih
      refine ⟨(g a').toList ++ l₁, l₂, ?_, ?_⟩
      · rw [find?, if_neg hk, filterMap_cons, hold]
        cases g a' <;> simp
      · rw [set, if_neg hk, filterMap_cons, hnew]
        cases g a' <;> simp

theorem nodup_keys_set {t : Table α} (h : t.keys.Nodup) (k : String) (a : α) :
    (t.set k a).keys.Nodup := by
  by_cases hk : t.has k
  · rwa [keys_set_of_has t a hk]
  · have hfind : t.find? k = none := not_isSome_iff_eq_none.1 hk
    rw [set_of_find?_eq_none t a hfind, keys_append]
    refine h.append (nodup_singleton _) fun k' hk' heq => ?_
    rw [mem_singleton.1 heq] at hk'
    exact find?_eq_none_iff.1 hfind hk'

/-- A signature of a table without repeated keys belongs to a prototype in it. -/
theorem exists_of_mem_prototypes {blocks : Table Block} (hnodup : blocks.keys.Nodup)
    {g : Procedure.Signature} (h : g ∈ blocks.prototypes) :
    ∃ id b m, blocks.find? id = some b ∧ b.opcode = "procedures_prototype" ∧
      b.mutation = some m ∧ m.signature = g := by
  obtain ⟨⟨id, b⟩, hmem, hg⟩ := mem_filterMap.1 h
  rw [signature?] at hg
  split at hg
  · next hopcode =>
    obtain ⟨m, hm, hsignature⟩ := map_eq_some_iff.1 hg
    exact ⟨id, b, m, find?_of_mem hnodup hmem, hopcode, hm, hsignature⟩
  · cases hg

end Table

namespace Workspace

/-- All signatures that calls can have: of prototypes, and of procedures that are open. -/
def signatures (w : Workspace) : List Procedure.Signature :=
  w.blocks.prototypes ++ w.procedures.filterMap fun q => q.2.open?

/-- Procedures that are defined have their prototypes, and no two signatures share an
identifier. -/
structure Registered (w : Workspace) : Prop where
  nodup : w.procedures.keys.Nodup
  codes : ∀ name p, w.procedures.find? name = some p →
    p.proccode = Procedure.codeOf name p.argumentNames ∧
      p.argumentIds.length = p.argumentNames.length
  defined : ∀ name p, w.procedures.find? name = some p → p.definition.isSome = true →
    p.signature ∈ w.blocks.prototypes
  issued : ∀ g ∈ w.signatures, ∀ i ∈ g.2, Id.Issued w.issued i
  disjoint : w.signatures.Pairwise fun g h => g.2.Disjoint h.2

variable {L : Licence} {old : List Id} {w w' : Workspace} {id : Id} {b : Block} {name : String}
  {p : Procedure}

/-- The signature of every known procedure is one that calls can have. -/
theorem Registered.mem_signatures (h : w.Registered) (hp : w.procedures.find? name = some p) :
    p.signature ∈ w.signatures := by
  cases hopen : p.definition.isNone with
  | true =>
    refine mem_append_right _ (mem_filterMap.2 ⟨_, mem_of_find? hp, ?_⟩)
    rw [open?, hopen, if_pos rfl]
  | false =>
    refine mem_append_left _ (h.defined name p hp ?_)
    rwa [isNone_eq_false_iff] at hopen

/-- Nothing changes about procedures. -/
theorem Registered.of_prototypes_eq (h : w.Registered) (hissued : w.issued ≤ w'.issued)
    (hprototypes : w'.blocks.prototypes = w.blocks.prototypes)
    (hprocedures : w'.procedures = w.procedures) :
    w'.Registered ∧ w.signatures ⊆ w'.signatures := by
  have hsame : w'.signatures = w.signatures := by
    rw [signatures, signatures, hprototypes, hprocedures]
  refine ⟨⟨?_, ?_, ?_, ?_, ?_⟩, hsame ▸ .refl _⟩
  · rw [hprocedures]
    exact h.nodup
  · rw [hprocedures]
    exact h.codes
  · rw [hprocedures, hprototypes]
    exact h.defined
  · rw [hsame]
    exact fun g hg i hi => (h.issued g hg i hi).mono hissued
  · rw [hsame]
    exact h.disjoint

theorem prototypes_amend {f : Block → Block}
    (hf : ∀ b, w.blocks.find? id = some b → (f b).signature? = b.signature?) :
    (w.amend id f).blocks.prototypes = w.blocks.prototypes := filterMap_adjust hf

theorem prototypes_append (t u : Table Block) :
    prototypes (t ++ u) = t.prototypes ++ u.prototypes := filterMap_append

theorem prototypes_singleton {id : Id} {b : Block} (hb : b.signature? = none) :
    prototypes [(id, b)] = [] := by
  rw [prototypes, filterMap_cons, hb]
  rfl

theorem prototypes_push (hb : b.signature? = none) :
    (w.push b).blocks.prototypes = w.blocks.prototypes := by
  rw [push, prototypes_append, prototypes_singleton hb, append_nil]

theorem prototypes_linked (w : Workspace) (id : Id) :
    (w.linked id).blocks.prototypes = w.blocks.prototypes := by
  cases hp : w.previous with
  | none => rw [linked_of_none hp]
  | some p =>
    rw [linked_of_some hp]
    exact prototypes_amend fun b _ => (b.like_setNext _).signature?

theorem prototypes_stacked (w : Workspace) (hb : b.signature? = none) :
    (w.stacked b).blocks.prototypes = w.blocks.prototypes := by
  rw [stacked]
  exact (prototypes_push (b := { b with parent := w.previous }) hb).trans (prototypes_linked w _)

theorem Registered.stacked (h : w.Registered) (hb : b.signature? = none) :
    (w.stacked b).Registered ∧ w.signatures ⊆ (w.stacked b).signatures := by
  refine h.of_prototypes_eq ?_ (prototypes_stacked w hb) ?_
  · rw [issued_stacked]
    exact Nat.le_succ _
  · rw [stacked_eq]

theorem blocks_stacked_ne_nil (w : Workspace) (b : Block) : (w.stacked b).blocks ≠ [] := by
  intro hnil
  have hblocks := congrArg Scripts.blocks (scripts_stacked w b)
  exact append_ne_nil_of_right_ne_nil _ (cons_ne_nil _ _) (hblocks.symm.trans hnil)

/-- Where there are no blocks in the end there were none. -/
theorem Grows.blocks_eq_nil (h : Grows old w w') (hnil : w'.blocks = []) : w.blocks = [] := by
  have hkeys : w.blocks.keys <+: Table.keys ([] : Table Block) := hnil ▸ h.scripts.keys
  exact map_eq_nil_iff.1 (prefix_nil.1 hkeys)

/-! ### Announcing and defining -/

/-- A new signature is added, and takes the place of one that is open. -/
theorem exists_signatures_announced (w : Workspace) (name : String) (names : List String) :
    ∃ rest, rest.Sublist w.signatures ∧
      (w.announced name names).signatures.Perm
        ((codeOf name names, Id.range w.issued names.length) :: rest) ∧
      (w.Defined name → rest = w.signatures) := by
  obtain ⟨l₁, l₂, hold, hnew⟩ := exists_filterMap_set w.procedures name
    { proccode := codeOf name names
      argumentIds := Id.range w.issued names.length
      argumentNames := names } open?
  refine ⟨w.blocks.prototypes ++ (l₁ ++ l₂), ?_, ?_, fun hdefined => ?_⟩
  · rw [signatures, hold]
    exact (List.Sublist.refl _).append ((sublist_append_left _ _).append_right _)
  · rw [signatures, announced, hnew, append_assoc, ← append_assoc _ l₁,
      ← append_assoc _ l₁]
    exact perm_middle
  · have hnone : (w.procedures.find? name).bind open? = none := by
      cases hfind : w.procedures.find? name with
      | none => rfl
      | some p =>
        rw [bind_some, open?, isNone_eq_false_iff.2 (hdefined p hfind)]
        rfl
    rw [signatures, hold, hnone, toList_none, append_nil]

theorem disjoint_symm {g h : Procedure.Signature} (hd : g.2.Disjoint h.2) : h.2.Disjoint g.2 :=
  fun _ hi hi' => hd hi' hi

/-- **An announcement keeps the register in order**, and no signature that a block can have is
lost. -/
theorem Registered.announced (h : w.Registered) (names : List String)
    (hname : w.Defined name ∨ w.blocks = []) :
    (w.announced name names).Registered ∧
      (w.blocks ≠ [] → w.signatures ⊆ (w.announced name names).signatures) := by
  obtain ⟨rest, hsub, hperm, hall⟩ := w.exists_signatures_announced name names
  refine ⟨⟨nodup_keys_set h.nodup _ _, fun n p hp => ?_, fun n p hp hdefined => ?_,
    fun g hg i hi => ?_, ?_⟩, fun hblocks => ?_⟩
  · rw [Workspace.announced, find?_set] at hp
    split at hp
    · next heq =>
      cases hp
      exact ⟨heq ▸ rfl, by simp [Id.range]⟩
    · exact h.codes n p hp
  · rw [Workspace.announced, find?_set] at hp
    split at hp
    · cases hp
      cases hdefined
    · exact h.defined n p hp hdefined
  · rcases mem_cons.1 (hperm.mem_iff.1 hg) with rfl | hg
    · exact issued_of_mem_range hi (Nat.le_refl _)
    · exact (h.issued g (hsub.subset hg) i hi).mono (Nat.le_add_right _ _)
  · rw [hperm.pairwise_iff disjoint_symm]
    refine pairwise_cons.2 ⟨fun g hg i hnew hi => ?_, h.disjoint.sublist hsub⟩
    obtain ⟨k, hk, -, rfl⟩ := lt_of_mem_range hnew
    exact (h.issued g (hsub.subset hg) _ hi).ne_ofNat hk rfl
  · have hdefined := hname.resolve_right hblocks
    rw [← hall hdefined]
    exact fun g hg => hperm.mem_iff.2 (.tail _ hg)

theorem prototypes_parameters (prototype : Id) (n : Nat) (ps : List (String × Id)) :
    (parameters prototype n ps).prototypes = [] := by
  induction ps generalizing n with
  | nil => rfl
  | cons p ps ih =>
    have hnone : (parameterBlock prototype p.1).signature? = none :=
      signature?_of_ne (by change "argument_reporter_string_number" ≠ _; decide)
    rw [parameters, prototypes, filterMap_cons, hnone]
    exact ih (n + 1)

theorem prototypes_headBlocks (n : Nat) (p : Procedure) (y : Int) :
    (headBlocks n p y).prototypes = [p.signature] := by
  rw [headBlocks, prototypes_append, prototypes_parameters]
  rfl

/-- The signature of an open procedure becomes that of a prototype. -/
theorem signatures_headed_perm (hp : w.procedures.find? name = some p)
    (hopen : p.definition = none) (y : Int) :
    (w.headed name p y).signatures.Perm w.signatures := by
  obtain ⟨l₁, l₂, hold, hnew⟩ := exists_filterMap_set w.procedures name
    { p with definition := some (ofNat (w.issued + 1), ofNat (w.issued + 2)) } open?
  have hsome : (w.procedures.find? name).bind open? = some p.signature := by
    rw [hp, bind_some, open?, hopen]
    rfl
  rw [signatures, signatures, headed, hold, hnew, hsome, prototypes_append, prototypes_headBlocks,
    append_assoc]
  have hmiddle : (l₁ ++ p.signature :: l₂).Perm (p.signature :: (l₁ ++ l₂)) := perm_middle
  exact List.Perm.append_left _ (by simpa [open?] using hmiddle.symm)

/-- **A definition keeps the register in order.** -/
theorem Registered.headed (h : w.Registered) (hp : w.procedures.find? name = some p)
    (hopen : p.definition = none) (y : Int) :
    (w.headed name p y).Registered ∧ w.signatures ⊆ (w.headed name p y).signatures := by
  have hperm := w.signatures_headed_perm hp hopen y
  refine ⟨⟨nodup_keys_set h.nodup _ _, fun n q hq => ?_, fun n q hq hdefined => ?_,
    fun g hg i hi => ?_, ?_⟩, hperm.symm.subset⟩
  · rw [Workspace.headed, find?_set] at hq
    split at hq
    · next heq =>
      cases hq
      exact heq ▸ h.codes name p hp
    · exact h.codes n q hq
  · rw [Workspace.headed, prototypes_append, prototypes_headBlocks, mem_append]
    rw [Workspace.headed, find?_set] at hq
    split at hq
    · cases hq
      exact .inr (.head _)
    · exact .inl (h.defined n q hq hdefined)
  · have hle : w.issued ≤ (w.headed name p y).issued := by
      simp only [Workspace.headed]
      omega
    exact (h.issued g (hperm.mem_iff.1 hg) i hi).mono hle
  · rw [hperm.pairwise_iff disjoint_symm]
    exact h.disjoint

/-! ### All edits -/

/-- Completing a call makes no prototype. -/
theorem Edits.prototypes_call {w₁ : Workspace} (hw : w.Sound)
    (hold : ∀ i ∈ old, Issued w.issued i)
    (hargs : Edits L (ofNat (w.issued + 1) :: old) (w.stacked callBlock) w₁)
    (inputs : Table Input) (m : Mutation) :
    (w₁.amend (ofNat (w.issued + 1)) fun b =>
      { b with inputs, mutation := some m }).blocks.prototypes = w₁.blocks.prototypes := by
  obtain ⟨⟨c, hc, hlike⟩, -⟩ := hargs.callBlock_like hw hold
  have hkind : c.opcode ≠ "procedures_prototype" := by
    rw [hlike.opcode]
    change "procedures_call" ≠ _
    decide
  refine prototypes_amend fun b hb => ?_
  cases hc.symm.trans hb
  rw [signature?_of_ne hkind]
  exact signature?_of_ne hkind

/-- **Edits keep the register in order**, and no signature is lost once there are blocks. -/
theorem Edits.registered (h : Edits L old w w') (hw : w.Sound)
    (hold : ∀ i ∈ old, Issued w.issued i) (hr : w.Registered) :
    w'.Registered ∧ (w.blocks ≠ [] → w.signatures ⊆ w'.signatures) := by
  -- most edits do not concern procedures
  have hquiet : ∀ {v v' : Workspace}, v.Registered → v.issued ≤ v'.issued →
      v'.blocks.prototypes = v.blocks.prototypes → v'.procedures = v.procedures →
      v'.Registered ∧ (v.blocks ≠ [] → v.signatures ⊆ v'.signatures) :=
    fun hr hissued hblocks hprocedures =>
      (hr.of_prototypes_eq hissued hblocks hprocedures).imp_right fun h _ => h
  induction h with
  | refl w => exact ⟨hr, fun _ => .refl _⟩
  | trans h h' ih ih' =>
    have hgrows := h.grows hold
    obtain ⟨hr', hkept⟩ := ih hw hold hr
    obtain ⟨hr'', hkept'⟩ := ih' (h.sound hold hw) (fun i hi => (hold i hi).mono hgrows.issued) hr'
    refine ⟨hr'', fun hblocks => List.Subset.trans (hkept hblocks) (hkept' fun hnil => hblocks ?_)⟩
    exact hgrows.blocks_eq_nil hnil
  | issue w n => exact hquiet hr (Nat.le_add_right _ _) rfl rfl
  | note w hat arguments soundsUsed => exact hquiet hr (Nat.le_refl _) rfl rfl
  | turn hp => exact hquiet hr (Nat.le_refl _) rfl rfl
  | declare v hx => exact hquiet hr (Nat.le_succ _) rfl rfl
  | addList items hname => exact hquiet hr (Nat.le_succ _) rfl rfl
  | addMessage hm => exact hquiet hr (Nat.le_succ _) rfl rfl
  | push hb =>
    exact hquiet hr (Nat.le_succ _) (prototypes_push (signature?_of_not_mem hb.opcode)) rfl
  | stack hb hopcode =>
    exact (hr.stacked (signature?_of_not_mem hopcode)).imp_right fun h _ => h
  | hang id hp =>
    refine hquiet hr (Nat.le_refl _) (prototypes_amend fun b _ => ?_) rfl
    exact (b.like_setParent _).signature?
  | @amend _ _ w id b f hb hid hloose hf =>
    refine hquiet hr (Nat.le_refl _) (prototypes_amend fun c hc => ?_) rfl
    cases hb.symm.trans hc
    rw [signature?_of_not_mem hf.free.1, signature?_of_not_mem hf.free.2]
  | @call _ _ w w₁ name n p inputs hcall hp hargs hkeys hinputs ih =>
    obtain ⟨hstacked, hfirst⟩ := hr.stacked (b := callBlock) (by decide)
    obtain ⟨hr₁, hargs'⟩ := ih (hw.stacked (isStatement_callBlock w []))
      (issued_cons_stacked hold callBlock) hstacked
    have hlast := hargs.prototypes_call hw hold inputs
      { proccode := p.proccode, argumentIds := p.argumentIds }
    refine (hr₁.of_prototypes_eq ?_ hlast rfl).imp_right fun hlast _ => ?_
    · exact Nat.le_refl _
    · have hkept := hargs' (blocks_stacked_ne_nil w _)
      exact List.Subset.trans hfirst (List.Subset.trans hkept hlast)
  | announce names hL hname => exact hr.announced names hname
  | define y hL hp hopen => exact (hr.headed hp hopen y).imp_right fun h _ => h
  | sprite name settings hL h hdefined ih =>
    refine hquiet hr ?_ rfl rfl
    exact (h.grows fun _ hi => by cases hi).issued

/-! ### Calls -/

/-- The block is a call that is allowed: it has an input for every argument that the procedure has a
parameter for, in order. If procedures are registered in the first workspace, then the call has a
signature of the second. -/
def Completed (L : Licence) (w w' : Workspace) (b : Block) : Prop :=
  ∃ name n m, L.calls name n ∧ b.mutation = some m ∧ b.inputs.keys = m.argumentIds.take n ∧
    (w.Registered → m.signature ∈ w'.signatures ∧
      ∃ names, m.proccode = Procedure.codeOf name names ∧ m.argumentIds.length = names.length)

theorem Completed.like {c : Block} (h : Completed L w w' b) (hc : b.Like c) :
    Completed L w w' c := by
  obtain ⟨name, n, m, hcall, hm, hkeys, hsignature⟩ := h
  refine ⟨name, n, m, hcall, ?_, ?_, hsignature⟩
  · rw [hc]
    exact hm
  · rw [hc]
    exact hkeys

theorem Completed.mono {v v' : Workspace} (h : Completed L w w' b)
    (hr : v.Registered → w.Registered) (hsub : v.Registered → w'.signatures ⊆ v'.signatures) :
    Completed L v v' b := by
  obtain ⟨name, n, m, hcall, hm, hkeys, hsignature⟩ := h
  refine ⟨name, n, m, hcall, hm, hkeys, fun hv => ?_⟩
  exact (hsignature (hr hv)).imp_left fun hmem => hsub hv hmem

/-- **Every call was there before or is complete.** -/
theorem Edits.call_cases (h : Edits L old w w') (hw : w.Sound)
    (hold : ∀ i ∈ old, Issued w.issued i) :
    ∀ id b, w'.blocks.find? id = some b → b.opcode = "procedures_call" →
      (∃ a, w.blocks.find? id = some a ∧ a.Like b) ∨ Completed L w w' b := by
  have hfree : ∀ {c : Block}, c.opcode = "procedures_call" → c.opcode ∈ procedureOpcodes := by
    intro c hc
    rw [hc]
    decide
  induction h with
  | refl | issue | note | turn | declare | addList | addMessage | announce | sprite =>
    exact fun id b hb _ => .inl ⟨b, hb, Block.Like.refl b⟩
  | trans h h' ih ih' =>
    have hgrows := h.grows hold
    have hold' : ∀ i ∈ _, Issued _ i := fun i hi => (hold i hi).mono hgrows.issued
    intro id b hb hcall
    rcases ih' (h.sound hold hw) hold' id b hb hcall with ⟨a, ha, hlike⟩ | hcompleted
    · rcases ih hw hold id a ha (hlike.opcode.symm.trans hcall) with ⟨a', ha', hlike'⟩ | hcompleted
      · exact .inl ⟨a', ha', hlike'.trans hlike⟩
      · refine .inr ((hcompleted.like hlike).mono (fun hr => hr) fun hr => ?_)
        have hr' := (h.registered hw hold hr).1
        refine (h'.registered (h.sound hold hw) hold' hr').2 fun hnil => ?_
        rw [hnil] at ha
        cases ha
    · exact .inr (hcompleted.mono (fun hr => (h.registered hw hold hr).1)
        fun _ => .refl _)
  | push hb =>
    intro id c hc hcall
    rcases find?_append_cases hc with hc | hc
    · exact .inl ⟨c, hc, Block.Like.refl c⟩
    · obtain ⟨-, rfl⟩ := Table.find?_singleton hc
      exact absurd (hfree hcall) hb.opcode
  | stack hb hopcode =>
    intro id c hc hcall
    rcases find?_stacked_cases hc with hc | ⟨-, rfl⟩
    · exact .inl hc
    · exact absurd (hfree hcall) hopcode
  | hang id hp =>
    intro k c hc hcall
    obtain ⟨a, ha, ⟨-, rfl⟩ | ⟨-, rfl⟩⟩ := find?_amend_cases hc
    · exact .inl ⟨c, ha, Block.Like.refl c⟩
    · exact .inl ⟨a, ha, a.like_setParent _⟩
  | amend hb hid hloose hf =>
    intro k c hc hcall
    obtain ⟨a, ha, ⟨-, rfl⟩ | ⟨rfl, rfl⟩⟩ := find?_amend_cases hc
    · exact .inl ⟨c, ha, Block.Like.refl c⟩
    · cases hb.symm.trans ha
      exact absurd (hfree hcall) hf.free.2
  | @call _ _ w w₁ name n p inputs hlicence hp hargs hkeys hinputs ih =>
    have hstacked := hw.stacked (isStatement_callBlock w [])
    have hissued := issued_cons_stacked hold callBlock
    let m : Mutation := { proccode := p.proccode, argumentIds := p.argumentIds }
    have hsame : w₁.signatures ⊆ (w₁.amend (ofNat (w.issued + 1)) fun b =>
        { b with inputs, mutation := some m }).signatures := by
      rw [signatures, signatures, hargs.prototypes_call hw hold inputs m]
      exact .refl _
    intro k c hc hcall
    obtain ⟨a, ha, ⟨hne, rfl⟩ | ⟨rfl, rfl⟩⟩ := find?_amend_cases hc
    · rcases ih hstacked hissued k c ha hcall with ⟨a, ha, hlike⟩ | hcompleted
      · rcases find?_stacked_cases ha with ⟨a', ha', hlike'⟩ | ⟨heq, -⟩
        · exact .inl ⟨a', ha', hlike'.trans hlike⟩
        · exact absurd heq hne
      · exact .inr (hcompleted.mono (fun hr => (hr.stacked (by decide)).1) fun _ => hsame)
    · refine .inr ⟨name, n, m, hlicence, rfl, hkeys, fun hr => ⟨?_, _, hr.codes name p hp⟩⟩
      obtain ⟨hr', hfirst⟩ := hr.stacked (b := callBlock) (by decide)
      have hkept := (hargs.registered hstacked hissued hr').2 (blocks_stacked_ne_nil w _)
      exact hsame (hkept (hfirst (hr.mem_signatures hp)))
  | define y hL hp hopen =>
    intro id c hc hcall
    rcases find?_append_cases hc with hc | hc
    · exact .inl ⟨c, hc, Block.Like.refl c⟩
    · rcases headBlocks_cases hc with ⟨name, rfl⟩ | ⟨-, rfl⟩ | ⟨-, rfl⟩
      · exact absurd hcall (by change "argument_reporter_string_number" ≠ _; decide)
      · exact absurd hcall (by change "procedures_prototype" ≠ _; decide)
      · exact absurd hcall (by change "procedures_definition" ≠ _; decide)

end Workspace

/-! ### Sprites -/

/-- Calls agree with prototypes. -/
structure Table.CallsAgree (blocks : Table Block) (calls : String → Nat → Prop) : Prop where
  /-- A call is one of those given. It has a prototype, and inputs for as many of the arguments of
  the prototype as it has itself. -/
  call : ∀ id b, blocks.find? id = some b → b.opcode = "procedures_call" →
    ∃ name n m, calls name n ∧ b.mutation = some m ∧ b.inputs.keys = m.argumentIds.take n ∧
      (∃ names, m.proccode = Procedure.codeOf name names ∧ m.argumentIds.length = names.length) ∧
      ∃ id' b' m', blocks.find? id' = some b' ∧ b'.opcode = "procedures_prototype" ∧
        b'.mutation = some m' ∧ m'.proccode = m.proccode ∧ m'.argumentIds = m.argumentIds
  /-- Prototypes do not share the identifier of an argument. -/
  disjoint : ∀ a b c d m m', a ≠ b → blocks.find? a = some c → blocks.find? b = some d →
    c.opcode = "procedures_prototype" → d.opcode = "procedures_prototype" →
      c.mutation = some m → d.mutation = some m' → m.argumentIds.Disjoint m'.argumentIds

theorem Block.signature?_of_mutation {b : Block} {m : Mutation}
    (hb : b.opcode = "procedures_prototype") (hm : b.mutation = some m) :
    b.signature? = some m.signature := by
  rw [signature?, if_pos hb, hm]
  rfl

namespace Workspace

variable {L : Licence} {old : List Id} {w w' : Workspace}

theorem registered_of_empty (hblocks : w.blocks = []) (hprocedures : w.procedures = []) :
    w.Registered := by
  have hnone : w.signatures = [] := by
    rw [signatures, hblocks, hprocedures]
    rfl
  refine ⟨?_, ?_, ?_, ?_, ?_⟩
  · rw [hprocedures]
    exact nodup_nil
  · rw [hprocedures]
    exact fun _ _ hp => by cases hp
  · rw [hprocedures]
    exact fun _ _ hp => by cases hp
  · rw [hnone]
    exact fun _ hg => by cases hg
  · rw [hnone]
    exact List.Pairwise.nil

/-- When no procedure is open, all signatures belong to prototypes. -/
theorem Registered.signatures_eq (h : w.Registered) (hdefined : ∀ n, w.Defined n) :
    w.signatures = w.blocks.prototypes := by
  have hopen : w.procedures.filterMap (fun q => q.2.open?) = [] := by
    refine filterMap_eq_nil_iff.2 fun ⟨n, p⟩ hmem => ?_
    have hsome := hdefined n p (find?_of_mem h.nodup hmem)
    rw [open?, isNone_eq_false_iff.2 hsome]
    rfl
  rw [signatures, hopen, append_nil]

/-- **The calls of a sprite agree with its prototypes** when all of its procedures are defined. -/
theorem Edits.callsAgree (h : Edits L [] w w') (hw : w.Sound) (hblocks : w.blocks = [])
    (hprocedures : w.procedures = []) (hdefined : ∀ n, w'.Defined n) :
    w'.blocks.CallsAgree L.calls := by
  have hold : ∀ i ∈ [], Issued w.issued i := fun _ hi => by cases hi
  have hr := registered_of_empty hblocks hprocedures
  have hr' := (h.registered hw hold hr).1
  have hall := hr'.signatures_eq hdefined
  refine ⟨fun id b hb hcall => ?_, fun a b c d m m' hne hc hd hcp hdp hm hm' => ?_⟩
  · rcases h.call_cases hw hold id b hb hcall with ⟨a, ha, -⟩ | ⟨name, n, m, hn, hm, hkeys, hsig⟩
    · rw [hblocks] at ha
      cases ha
    · obtain ⟨hmem, hcode⟩ := hsig hr
      rw [hall] at hmem
      obtain ⟨id', b', m', hb', hopcode, hm', hsame⟩ :=
        exists_of_mem_prototypes (h.sound hold hw).scripts.nodup hmem
      exact ⟨name, n, m, hn, hm, hkeys, hcode, id', b', m', hb', hopcode, hm',
        congrArg Prod.fst hsame, congrArg Prod.snd hsame⟩
  · have hdisjoint := hr'.disjoint
    rw [hall, prototypes, pairwise_filterMap] at hdisjoint
    have hsymm : Std.Symm fun q q' : Id × Block => ∀ g, q.2.signature? = some g →
        ∀ g', q'.2.signature? = some g' → g.2.Disjoint g'.2 :=
      ⟨fun _ _ hqq' g hg g' hg' => disjoint_symm (hqq' g' hg' g hg)⟩
    have hpair := hdisjoint.forall (mem_of_find? hc) (mem_of_find? hd)
      fun heq => hne (congrArg Prod.fst heq)
    exact hpair _ (signature?_of_mutation hcp hm) _ (signature?_of_mutation hdp hm')

/-- Finished sprites are in order. -/
theorem Edits.drafts_callsAgree (h : Edits L old w w') (hw : w.Sound)
    (hold : ∀ i ∈ old, Issued w.issued i)
    (hdrafts : ∀ d ∈ w.drafts, d.blocks.CallsAgree L.calls) :
    ∀ d ∈ w'.drafts, d.blocks.CallsAgree L.calls := by
  induction h with
  | refl | issue | note | turn | declare | addList | addMessage | push | hang | amend | announce |
    define => exact hdrafts
  | trans h h' ih ih' =>
    exact ih' (h.sound hold hw) (fun i hi => (hold i hi).mono (h.grows hold).issued)
      (ih hw hold hdrafts)
  | stack hb hopcode =>
    rw [stacked_eq]
    exact hdrafts
  | @call _ _ w _ _ _ _ _ hcall hp hargs hkeys hinputs ih =>
    refine ih (hw.stacked (isStatement_callBlock w [])) (issued_cons_stacked hold callBlock) ?_
    rw [stacked_eq]
    exact hdrafts
  | sprite name settings hL h hdefined ih =>
    intro d hd
    rcases mem_append.1 hd with hd | hd
    · exact ih hw.opened (fun _ hi => by cases hi) hdrafts d hd
    · cases mem_singleton.1 hd
      exact h.callsAgree hw.opened rfl rfl hdefined

end Workspace

namespace Build

open Program

variable {source : String} {w w' : Workspace} {c : Compilation}

/-- **Calls of procedures agree with their definitions**, in every sprite of every program that
compiles: a call has a prototype of the same signature in the same sprite, and its inputs are named
by the first arguments of the signature, as many as the call has positional arguments. Each
statement makes calls with as many arguments as are written in it. -/
theorem callsAgree_of_compile (h : (compile source).run w = (.ok c, w')) :
    ∃ program, parse source = .ok program ∧
      (∀ t ∈ c.targets, t.blocks.CallsAgree fun name n => (name, n) ∈ callsOf program) ∧
      ∀ (s : Stmt) (v v' : Workspace), v.Sound → s.visit.run v = (.ok (), v') →
        ∀ id b, v'.blocks.find? id = some b → v.blocks.find? id = none →
          b.opcode = "procedures_call" → ∃ name n m, (name, n) ∈ s.calls ∧ b.mutation = some m ∧
            b.inputs.keys = m.argumentIds.take n := by
  obtain ⟨program, hparse, htargets, hreaches⟩ := exists_edits h
  refine ⟨program, hparse, fun t ht => ?_, fun s v v' hv hrun id b hb hnew hcall => ?_⟩
  · rcases mem_targets_cases (htargets ▸ ht) with rfl | ⟨d, hd, rfl⟩
    · refine hreaches.edits.callsAgree hreaches.before rfl rfl fun n p hp => ?_
      rw [hreaches.edits.procedures id] at hp
      cases hp
    · exact hreaches.edits.drafts_callsAgree hreaches.before (fun _ hi => by cases hi)
        (fun d hd => by cases hd) d hd
  · let L : Licence := ⟨fun name n => (name, n) ∈ s.calls, True, False⟩
    have hacts : s.visit.Acts L := Stmt.visit_acts (fun h => h) s (fun c hc => hc) fun _ => trivial
    obtain ⟨⟨hedits, -⟩, -⟩ := hacts v hv (.refl _) (List.nil_subset _) () v' hrun
    rcases hedits.call_cases hv hv.keys id b hb hcall with
      ⟨a, ha, -⟩ | ⟨name, n, m, hn, hm, hkeys, -⟩
    · cases hnew.symm.trans ha
    · exact ⟨name, n, m, hn, hm, hkeys⟩

/-- A procedure that is called before it is defined, defined twice, and defined once more by a class
inside of it. -/
def doubleSource : String :=
  "class Cat:\n" ++
  " def when_flag_clicked(self):\n" ++
  "  hop(1, 2, 3)\n" ++
  " def hop(self):\n" ++
  "  class Dog:\n" ++
  "   def hop(self, n):\n" ++
  "    hop()\n" ++
  "  hop()\n" ++
  " def hop(self, n, m):\n" ++
  "  hop(n())\n"

theorem callsAgree_doubleSource :
    ∃ c w', (compile doubleSource).run {} = (.ok c, w') ∧
      c.targets.map (fun t => (t.blocks.map (·.2)).filterMap fun b =>
        if b.opcode = "procedures_call" then some b.inputs.length else none) = [[0], [2, 0, 1]] ∧
      ∃ program, parse doubleSource = .ok program ∧
        ∀ t ∈ c.targets, t.blocks.CallsAgree fun name n => (name, n) ∈ callsOf program := by
  have hseen : ((compile doubleSource).run {}).1.toOption.map (·.targets.map fun t =>
      (t.blocks.map (·.2)).filterMap fun b =>
        if b.opcode = "procedures_call" then some b.inputs.length else none) =
      some [[0], [2, 0, 1]] := by
    decide +kernel
  obtain ⟨c, w', hrun, hseen⟩ := exists_of_run_map hseen
  obtain ⟨program, hparse, hagree, -⟩ := callsAgree_of_compile hrun
  exact ⟨c, w', hrun, hseen, program, hparse, hagree⟩

end Build

end BlockScript
