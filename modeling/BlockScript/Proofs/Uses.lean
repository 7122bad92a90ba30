import BlockScript.Proofs.Formulas
import BlockScript.Proofs.SpriteEdits

/-!
# Where expressions stand

A statement that uses an expression makes a block, and the tree of the expression fills one of its
inputs: the value that is assigned, the count of a loop, the condition of a loop or a branch, the
argument of a command. `Stmt.use?` says which block and which input, and `Stmt.visit_carries` that the
tree is there once the statement has been compiled.

A body that is compiled afterwards only adds the input of its first block (`Workspace.Spares`), so
what was plugged in before remains.
-/

namespace BlockScript

open Workspace Build Program Filling Command List Table

namespace Workspace

variable {w w' w'' v v' : Workspace} {id : Id} {opcode name : String} {f : Filling}

/-- The block has the opcode and the tree below its input, all of new blocks. -/
def Carries (w w' : Workspace) (id : Id) (opcode name : String) (f : Filling) : Prop :=
  ∃ b ids, w'.blocks.find? id = some b ∧ b.opcode = opcode ∧
    f.Fills w'.blocks w'.vars (b.inputs.find? name) ids ∧ (id :: ids).Nodup ∧
    ∀ k ∈ id :: ids, k ∉ w.blocks.keys

/-- Blocks keep all but their links; one block keeps at least its opcode and one of its inputs. -/
structure Spares (id : Id) (name : String) (w w' : Workspace) : Prop where
  like : ∀ k, id ≠ k → ∀ b, w.blocks.find? k = some b →
    ∃ b', w'.blocks.find? k = some b' ∧ b.Like b'
  block : ∀ b, w.blocks.find? id = some b → ∃ b', w'.blocks.find? id = some b' ∧
    b'.opcode = b.opcode ∧ b'.inputs.find? name = b.inputs.find? name
  vars : w.vars ⊆ w'.vars

theorem Spares.trans (h : Spares id name w w') (h' : Spares id name w' w'') :
    Spares id name w w'' where
  like k hk b hb := by
    obtain ⟨b', hb', hlike⟩ := h.like k hk b hb
    obtain ⟨b'', hb'', hlike'⟩ := h'.like k hk b' hb'
    exact ⟨b'', hb'', hlike.trans hlike'⟩
  block b hb := by
    obtain ⟨b', hb', hopcode, hinput⟩ := h.block b hb
    obtain ⟨b'', hb'', hopcode', hinput'⟩ := h'.block b' hb'
    exact ⟨b'', hb'', hopcode'.trans hopcode, hinput'.trans hinput⟩
  vars := List.Subset.trans h.vars h'.vars

theorem Grows.spares (h : Grows w.blocks.keys w w') (id : Id) (name : String) :
    Spares id name w w' where
  like k _ b hb := h.like k (mem_keys_of_find? hb) b hb
  block b hb := by
    obtain ⟨b', hb', hlike⟩ := h.like id (mem_keys_of_find? hb) b hb
    exact ⟨b', hb', hlike.opcode, by rw [hlike]⟩
  vars := h.scripts.vars.subset

theorem spares_setInput (w : Workspace) (id : Id) {name input : String} (hne : name ≠ input)
    (i : Input) : Spares id name w (w.amend id fun b => b.setInput input i) where
  like _ hk b hb := ⟨b, (find?_amend_of_ne hk _).trans hb, Block.Like.refl b⟩
  block _ hb := ⟨_, find?_amend hb _, rfl, find?_set_of_ne _ _ hne.symm⟩
  vars := .refl _

theorem Carries.spares (h : Carries w v id opcode name f) (hs : Spares id name v v') :
    Carries w v' id opcode name f := by
  obtain ⟨b, ids, hb, hopcode, hf, hids, hnew⟩ := h
  obtain ⟨b', hb', hopcode', hinput⟩ := hs.block b hb
  refine ⟨b', ids, hb', hopcode'.trans hopcode, ?_, hids, hnew⟩
  rw [hinput]
  refine hf.mono (fun k hk => hs.like k ?_) hs.vars
  rintro rfl
  exact (nodup_cons.1 hids).1 hk

/-- The block gets another opcode. -/
theorem Carries.recode (h : Carries w v id opcode name f) (opcode' : String) :
    Carries w (v.amend id fun b => { b with opcode := opcode' }) id opcode' name f := by
  obtain ⟨b, ids, hb, -, hf, hids, hnew⟩ := h
  refine ⟨_, ids, find?_amend hb _, rfl, hf.mono (fun k hk c hc => ?_) (.refl _), hids,
    hnew⟩
  have hne : id ≠ k := fun h => (nodup_cons.1 hids).1 (h ▸ hk)
  exact ⟨c, (find?_amend_of_ne hne _).trans hc, Block.Like.refl c⟩

theorem carries_of_at {a : Block} {i : Option Input} {ids : List Id} (hat : w'.blocks.At id a)
    (hopcode : a.opcode = opcode) (hname : a.inputs.find? name = i)
    (hf : f.Fills w'.blocks w'.vars i ids) (hids : ids.Nodup)
    (hnew : ∀ k ∈ ids, k ∉ w.blocks.keys) (hid : id ∉ w.blocks.keys) (hne : id ∉ ids) :
    Carries w w' id opcode name f := by
  obtain ⟨b, hb, hlike⟩ := hat
  have hinputs : b.inputs = a.inputs := by rw [hlike]
  refine ⟨b, ids, hb, hlike.opcode.trans hopcode, ?_, nodup_cons.2 ⟨hne, hids⟩,
    forall_mem_cons.2 ⟨hid, hnew⟩⟩
  rw [hinputs, hname]
  exact hf

end Workspace

namespace Build

variable {L : Licence} {held old : List Id} {w w' : Workspace} {id : Id} {opcode : String}
  {steps : List (Build Unit)} {e : Expr}

/-- More is known about what the step does. -/
theorem Performs.and {α : Type} {m : Build α} {good good' : α → Workspace → Prop}
    (hm : m.Performs L held old w good)
    (h : w.Sound → ∀ a w', m.run w = (.ok a, w') → good' a w') :
    m.Performs L held old w fun a w' => good a w' ∧ good' a w' :=
  fun hw hold hheld a w' hrun =>
    ⟨(hm hw hold hheld a w' hrun).1, (hm hw hold hheld a w' hrun).2, h hw a w' hrun⟩

/-- What is known of a new statement. -/
theorem run_create_at {inputs : Table Input} (hw : w.Sound)
    (hrun : (create opcode .stack inputs).run w = (.ok id, w')) :
    w'.blocks.At id { opcode, inputs } ∧ w'.previous = some id ∧ id ∉ w.blocks.keys ∧
      ∀ {f : Filling} {i ids}, f.Fills w.blocks w.vars i ids → f.Fills w'.blocks w'.vars i ids := by
  have hprev : ∀ p, w.previous = some p → w.blocks.has p := fun p hp =>
    has_iff.2 (mem_keys_iff.1 (hw.previous p hp).mem_keys)
  rw [run_create_stack hw.free hprev] at hrun
  cases hrun
  refine ⟨⟨_, find?_stacked_new hw _, Block.like_setParent _ _⟩, rfl,
    hw.not_mem_keys (Nat.lt_succ_self _), fun hf => hf.mono (fun k hk b hb => ?_) ?_⟩
  · obtain ⟨b', hb', hlike⟩ := (grows_linked w.blocks.keys w (Id.ofNat (w.issued + 1))).like k
      (mem_keys_of_find? hb) b hb
    refine ⟨b', ?_, hlike⟩
    have hblocks := congrArg Scripts.blocks (scripts_stacked w { opcode, inputs })
    exact (congrArg (Table.find? · k) hblocks).trans (find?_append_of_find? hb')
  · rw [stacked_eq]
    exact .refl _

/-- A body adds one input to the block at hand. -/
theorem plugBody_spares {name input : String} (hne : name ≠ input) (hid : id ∈ w.blocks.keys)
    (hsteps : ∀ s ∈ steps, s.Acts L) (hw : w.Sound)
    (hrun : (plugBody id input steps).run w = (.ok (), w')) : Spares id name w w' := by
  rw [plugBody] at hrun
  obtain ⟨first, w₂, hsub, hrun⟩ := run_bind_eq_ok hrun
  rw [substack, run_bind_of_ok (run_get w), run_bind_of_ok (run_setPrevious none w)] at hsub
  obtain ⟨first', w₁, hfrom, hsub⟩ := run_bind_eq_ok hsub
  cases hsub
  have hstart : Workspace.Sound { w with previous := none } := hw.turn fun q hq => by cases hq
  have hbody : (substackFrom id none steps).Performs L [] w.blocks.keys { w with previous := none }
      fun r w' => ∀ f, r = some f → w'.scripts.Statement f ∧ f ∉ [] :=
    performs_substackFrom hsteps hid not_mem_nil (nil_subset _) (nil_subset _)
      (fun _ => rfl) fun f hf => by cases hf
  obtain ⟨hedits, -⟩ := hbody hstart (.refl _) (nil_subset _) _ w₁ hfrom
  have hspares : Spares id name w { w₁ with previous := w.previous } := by
    have h := Grows.spares (w := { w with previous := none })
      (hedits.reaches hstart (.refl _)).grows id name
    exact ⟨h.like, h.block, h.vars⟩
  cases first with
  | none =>
    cases hrun
    exact hspares
  | some r =>
    obtain ⟨-, rfl⟩ := run_update_eq_ok hrun
    exact hspares.trans (spares_setInput _ id hne _)

variable {f : Filling} {ids : List Id} {w₀ : Workspace} {x : String}

/-- A condition is plugged into a block without inputs. -/
theorem plugCondition_carries {c : Option Id} (hw : w.Numbered) (hat : w.blocks.At id { opcode })
    (hf : f.Stands w.blocks w.vars c ids) (hids : ids.Nodup)
    (hnew : ∀ k ∈ ids, k ∉ w₀.blocks.keys) (hid : id ∉ w₀.blocks.keys) (hne : id ∉ ids)
    (hrun : (plugCondition id "CONDITION" c).run w = (.ok (), w')) :
    w₀.Carries w' id opcode "CONDITION" f ∧ w'.previous = w.previous := by
  have hempty : Expands { previous := w.previous } w :=
    ⟨hw, (fun _ _ hb => by cases hb), nil_prefix, rfl⟩
  obtain ⟨w'', hrun', hexp, hat', hstay⟩ :=
    run_plugCondition hempty (fun h => by cases h) hat hf hne "CONDITION"
  cases hrun.symm.trans hrun'
  refine ⟨carries_of_at hat' ?_ ?_ (hstay hne hf) hids hnew hid hne, hexp.previous⟩
  · cases c <;> rfl
  · cases c <;> rfl

/-- An operand is plugged into a block without inputs. -/
theorem setInputs_carries {i : Input} {name : String} (hat : w.blocks.At id { opcode })
    (hf : f.Fills w.blocks w.vars (some i) ids) (hids : ids.Nodup)
    (hnew : ∀ k ∈ ids, k ∉ w₀.blocks.keys) (hid : id ∉ w₀.blocks.keys) (hne : id ∉ ids) :
    w₀.Carries (w.amend id fun b => { b with inputs := [(name, i)] }) id opcode name f := by
  refine carries_of_at (hat.amend fun _ _ h => h.setInputs _) rfl (if_pos rfl)
    (hf.mono (fun k hk b hb => ⟨b, ?_, Block.Like.refl b⟩) (.refl _)) hids hnew hid hne
  have hk : id ≠ k := fun h => hne (h ▸ hk)
  exact (find?_amend_of_ne hk _).trans hb

/-! ### The block of each statement -/

/-- The statement made a block, the script goes on below it, and its input has the tree. -/
def Carried (w w' : Workspace) (opcode name : String) (f : Filling) : Prop :=
  ∃ id, w'.previous = some id ∧ w.Carries w' id opcode name f

theorem conditionLoop_carries (he : e.isFormula) (hm : e.meaning.Performs L)
    (hsteps : ∀ s ∈ steps, s.Acts L) :
    (conditionLoop e.meaning steps).Performs L held w.blocks.keys w fun _ w' =>
      Carried w w' "control_repeat_until" "CONDITION" e.test := by
  have hopcode : isAction "control_repeat_until" := by decide
  have hcondition : "CONDITION" ∉ bodyInputs := by decide
  have hbody : "SUBSTACK" ∈ bodyInputs := by decide
  refine ((performs_statement hopcode).and fun hw id w' => run_create_at hw).next
    fun id w₁ h₁ ⟨howns, hat₁, _⟩ => ?_
  have hp := howns.1.previous howns.2
  replace howns := howns.1
  refine ((hm.condition w₁).and fun hw c w' => (e.condition_meets he hw.keys).of_eq_ok).next
    fun c w₂ h₂ ⟨hc, hmade⟩ => ?_
  obtain ⟨he₂, ids, hids, hnodup, hnew⟩ := hmade
  have hready := hc.mono (Scripts.Extends.refl _) (howns.cons_subset h₁.keys.subset)
  replace hp := (h₂.mono h₁.keys.subset).previous hp
  refine ((performs_plugCondition (howns.reaches h₂) hcondition hready).and
    fun hw _ w' => plugCondition_carries hw.keys (hat₁.expands he₂) hids hnodup
      (fun k hk hmem => hnew k hk (h₁.keys.subset hmem)) howns.new
      fun hmem => hnew id hmem howns.mem_keys).bind fun _ w₃ h₃ ⟨howns, hcarries, _⟩ => ?_
  have hold := (h₁.keys.trans (h₂.keys.trans h₃.keys)).subset
  refine ((performs_plugBody hbody howns hopcode hold (h₃.previous hp) hsteps).and
    fun hw _ w' hrun => hcarries.spares
      (plugBody_spares (by decide) howns.mem_keys hsteps hw hrun)).bind
    fun _ w₄ h₄ ⟨howns, hcarries⟩ => ?_
  refine ((performs_goOn howns.1 hopcode).and fun _ _ w' hrun => ?_).imp fun _ _ _ h => h.2
  cases hrun
  exact ⟨id, rfl, hcarries⟩

theorem branch_carries {orelse : List (Build Unit)} (he : e.isFormula)
    (hm : e.meaning.Performs L) (hsteps : ∀ s ∈ steps, s.Acts L)
    (horelse : ∀ s ∈ orelse, s.Acts L) :
    (branch e.meaning steps orelse).Performs L held w.blocks.keys w fun _ w' =>
      Carried w w' (if orelse.isEmpty then "control_if" else "control_if_else") "CONDITION"
        e.test := by
  have hopcode : isAction "control_if" := by decide
  have hopcode' : isAction "control_if_else" := by decide
  have hcondition : "CONDITION" ∉ bodyInputs := by decide
  have hbody : "SUBSTACK" ∈ bodyInputs := by decide
  have hbody' : "SUBSTACK2" ∈ bodyInputs := by decide
  refine ((hm.condition w).and fun hw c w' => (e.condition_meets he hw.keys).of_eq_ok).next
    fun c w₁ h₁ ⟨hc, hmade⟩ => ?_
  obtain ⟨he₁, ids, hids, hnodup, hnew⟩ := hmade
  refine ((performs_statement hopcode).and fun hw id w' => run_create_at hw).next
    fun id w₂ h₂ ⟨howns, hat₂, _, _, hstay⟩ => ?_
  have hne : id ∉ ids := fun hmem => howns.1.new (hids.mem_keys id hmem)
  have hready := (hc.cons howns.1.new).mono h₂.grows.scripts (.refl _)
  have hp := (howns.1.mono h₁.keys.subset).previous howns.2
  replace howns := howns.1.mono h₁.keys.subset
  refine ((performs_plugCondition howns hcondition hready).and
    fun hw _ w' => plugCondition_carries hw.keys hat₂ (hstay hids) hnodup hnew howns.new hne).bind
    fun _ w₃ h₃ ⟨howns, hcarries, _⟩ => ?_
  have hold := (h₁.keys.trans (h₂.keys.trans h₃.keys)).subset
  refine ((performs_plugBody hbody howns hopcode hold (h₃.previous hp) hsteps).and
    fun hw _ w' hrun => hcarries.spares
      (plugBody_spares (by decide) howns.mem_keys hsteps hw hrun)).bind
    fun _ w₄ h₄ ⟨howns, hcarries⟩ => ?_
  split
  · refine ((performs_goOn howns.1 hopcode).and fun _ _ w' hrun => ?_).imp fun _ _ _ h => h.2
    cases hrun
    exact ⟨id, rfl, hcarries⟩
  · obtain ⟨howns, hp⟩ := howns
    refine ((performs_alternative howns h₄.after).and fun _ _ w' hrun =>
      (run_update_eq_ok hrun).2).bind fun _ w₅ h₅ ⟨howns, heq⟩ => ?_
    subst heq
    replace hcarries := hcarries.recode "control_if_else"
    have hold := List.Subset.trans hold (h₄.keys.trans h₅.keys).subset
    refine ((performs_plugBody hbody' howns hopcode' hold (h₅.previous hp) horelse).and
      fun hw _ w' hrun => hcarries.spares
        (plugBody_spares (by decide) howns.mem_keys horelse hw hrun)).bind
      fun _ w₆ h₆ ⟨howns, hcarries⟩ => ?_
    refine ((performs_goOn howns.1 hopcode').and fun _ _ w' hrun => ?_).imp fun _ _ _ h => h.2
    cases hrun
    exact ⟨id, rfl, hcarries⟩

theorem repeatLoop_carries (he : e.isFormula) (hm : e.meaning.Performs L)
    (hsteps : ∀ s ∈ steps, s.Acts L) :
    (repeatLoop e.meaning.operand steps).Performs L held w.blocks.keys w fun _ w' =>
      Carried w w' "control_repeat" "TIMES" e.filling := by
  have hopcode : isAction "control_repeat" := by decide
  have hbody : "SUBSTACK" ∈ bodyInputs := by decide
  have htimes : "TIMES" ∉ bodyInputs := by decide
  have hplug : (e.meaning.operand >>= fun o => plug o none).Performs L held w.blocks.keys w
      fun i w' => i.Ready w'.scripts w.blocks.keys :=
    performs_of_held fun hheld => (hm.operand w).next fun o w₁ h₁ ho =>
      (performs_plug ho h₁.keys.subset hheld fun p hp => by cases hp).of_keys
  rw [repeatLoop, ← bind_assoc]
  refine (hplug.and fun hw i w' => (Expr.plug_meets he hw.keys none).of_eq_ok).next
    fun i w₁ h₁ hmade => ?_
  obtain ⟨hi, -, ids, hids, hnodup, hnew⟩ := hmade
  have hinputs : ∀ p ∈ [("TIMES", i)], p.1 ∉ bodyInputs ∧ p.2.Ready w₁.scripts w.blocks.keys :=
    forall_mem_singleton.2 ⟨htimes, hi⟩
  refine ((performs_create hopcode rfl (fun hc => by cases hc) hinputs).and
    fun hw id w' => run_create_at hw).bind fun id w₂ h₂ hmade => ?_
  obtain ⟨howns, hat₂, -, hid, hstay⟩ := hmade
  have hcarries : w.Carries w₂ id "control_repeat" "TIMES" e.filling :=
    carries_of_at hat₂ rfl (if_pos rfl) (hstay hids) hnodup hnew
      (fun hmem => hid (h₁.keys.subset hmem)) fun hmem => hid (hids.mem_keys id hmem)
  have hp := (howns.1.mono h₁.keys.subset).previous howns.2
  refine ((performs_plugBody hbody (howns.1.mono h₁.keys.subset) hopcode
    (List.Subset.trans h₁.keys.subset h₂.keys.subset) hp hsteps).and
    fun hw _ w' hrun => hcarries.spares
      (plugBody_spares (by decide) howns.1.mem_keys hsteps hw hrun)).bind
    fun _ w₃ h₃ hcarried => ?_
  obtain ⟨howns, hcarries⟩ := hcarried
  refine ((performs_goOn howns.1 hopcode).and fun _ _ w' hrun => ?_).imp fun _ _ _ h => h.2
  cases hrun
  exact ⟨id, rfl, hcarries⟩

/-- The script goes on below a new block, which has the variable in its field and the tree in its
input. -/
def Stored (w w' : Workspace) (opcode x : String) (f : Filling) : Prop :=
  ∃ id v i ids, w'.previous = some id ∧ v ∈ w'.vars ∧ v.name = x ∧
    w'.blocks.find? id = some { opcode, parent := w.previous, inputs := [("VALUE", i)],
                                fields := [("VARIABLE", .named x v.id)] } ∧
    f.Fills w'.blocks w'.vars (some i) ids ∧ (id :: ids).Nodup ∧
    ∀ k ∈ id :: ids, k ∉ w.blocks.keys

theorem Stored.writable (h : Stored w w' opcode x f) : f.Writable := by
  obtain ⟨id, v, i, ids, _, _, _, _, hfills, _⟩ := h
  exact hfills.writable

/-- A value is stored once its operand is there. The tree that is plugged in may be another one. -/
theorem store_meets {bad : Prop} {initial : Value} {fill : Id → Build Input} (he : w₀.Expands w)
    (hw : w.Sound) (hids : ∀ k ∈ ids, k ∈ w.blocks.keys ∧ k ∉ w₀.blocks.keys)
    (hfill : ∀ id w', w'.Numbered → (∀ {g : Filling} {i ks}, g.Fills w.blocks w.vars i ks →
      g.Fills w'.blocks w'.vars i ks) → (fill id).Meets w' bad fun i w'' =>
        f.Plugged w' w'' i ids) : (do
      let variableId ← variableNamed x initial
      let id ← statement opcode
      let i ← fill id
      setInputs id [("VALUE", i)]
      update id fun b => { b with fields := [("VARIABLE", .named x variableId)] }
      : Build Unit).Meets w bad fun _ w' => Stored w₀ w' opcode x f := by
  obtain ⟨v, w₁, hvariable, he₁, hv, hname, hblocks⟩ := exists_run_variableNamed hw.keys x initial
  have hw₁ := ((performs_variableNamed (L := .plain) hw (nil_subset _) (nil_subset _) v.id
    w₁ hvariable).1.reaches hw (nil_subset _)).after
  have hprev : ∀ p, w₁.previous = some p → w₁.blocks.has p := fun p hp =>
    has_iff.2 (mem_keys_iff.1 (hw₁.previous p hp).mem_keys)
  have hstatement := run_create_stack hw₁.free hprev opcode []
  obtain ⟨-, -, hid, hstay⟩ := run_create_at hw₁ hstatement
  have hnumbered : (w₁.stacked { opcode }).Numbered := by
    rw [Numbered, keys_stacked, issued_stacked]
    exact forall_mem_append.2 ⟨fun k hk => (hw₁.keys k hk).mono (Nat.le_succ _),
      forall_mem_singleton.2 (Id.issued_ofNat (Nat.le_refl _))⟩
  have hnew : Id.ofNat (w₁.issued + 1) ∉ ids := fun hmem =>
    hid (he₁.keys (hids _ hmem).1)
  refine meets_run_bind hvariable ?_
  refine meets_run_bind hstatement ?_
  refine (hfill _ _ hnumbered fun hf => hstay (hf.expands he₁)).bind id ?_
  rintro i w₂ ⟨he₂, ⟨ids', hfills, hids', hnew'⟩, hsame⟩
  have hblock := hsame _ hnew _ (find?_stacked_new hw₁ { opcode })
  have hblock' := find?_amend hblock fun b => { b with inputs := [("VALUE", i)] }
  have hhas : ∀ {v : Workspace} {b}, v.blocks.find? (Id.ofNat (w₁.issued + 1)) = some b →
      v.blocks.has (Id.ofNat (w₁.issued + 1)) := fun h => has_iff.2 ⟨_, h⟩
  have hne : Id.ofNat (w₁.issued + 1) ∉ ids' := fun hmem => (hnew' _ hmem).elim hnew fun h =>
    h (mem_keys_of_find? (find?_stacked_new hw₁ { opcode }))
  have hkeys : w₀.blocks.keys ⊆ w₁.blocks.keys := List.Subset.trans he.keys he₁.keys
  refine meets_of_run ((run_bind_of_ok (run_setInputs (hhas hblock) _) _).trans
    (run_update_of_has (hhas hblock') _)) ⟨_, v, i, ids', he₂.previous.trans ?_, ?_, hname, ?_,
      hfills.mono (fun k hk b hb => ⟨b, ?_, Block.Like.refl b⟩) (.refl _),
      nodup_cons.2 ⟨hne, hids'⟩, forall_mem_cons.2 ⟨fun h => hid (hkeys h), ?_⟩⟩
  · rfl
  · refine he₂.vars.subset ?_
    rw [stacked_eq]
    exact hv
  · refine (find?_amend hblock' _).trans ?_
    rw [he₁.previous, he.previous]
  · have hk : Id.ofNat (w₁.issued + 1) ≠ k := fun h => hne (h ▸ hk)
    exact (find?_amend_of_ne hk _).trans ((find?_amend_of_ne hk _).trans hb)
  · intro k hk hmem
    refine (hnew' k hk).elim (fun h => (hids k h).2 hmem) fun h => h ?_
    rw [keys_stacked]
    exact mem_append_left _ (hkeys hmem)

theorem assign_carries (he : e.isFormula) (hm : e.meaning.Performs L) (hw : w.Sound)
    (hrun : (assign x e.meaning).run w = (.ok (), w')) :
    Carried w w' "data_setvariableto" "VALUE" e.filling := by
  obtain ⟨o, w₁, hoperand, hrun⟩ := run_bind_eq_ok hrun
  obtain ⟨he₁, ids, hready, hids, hnew⟩ := (e.operand_meets he hw.keys).of_eq_ok hoperand
  have hw₁ := ((hm.operand w hw (.refl _) (nil_subset _) o w₁ hoperand).1.reaches hw
    (.refl _)).after
  obtain ⟨id, v, i, ids', hprev, -, -, hb, hrest⟩ := (store_meets he₁ hw₁
    (fun k hk => ⟨hready.mem_keys k hk, hnew k hk⟩) fun id w' hw' hstay =>
      plug_meets hw' (hready.mono hstay) hids (some id)).of_eq_ok hrun
  exact ⟨id, hprev, _, ids', hb, rfl, hrest⟩

theorem action_carries {input : String} {rest : List Meaning} {r : Option Id}
    (he : e.isFormula) (hopcode : isAction opcode) (hw : w.Sound)
    (hrun : ((action opcode [input]).perform (e.meaning :: rest)).run w = (.ok r, w')) :
    Carried w w' opcode input e.filling := by
  obtain ⟨id, w₁, hstatement, hrun⟩ := run_bind_eq_ok hrun
  obtain ⟨hat₁, hprev₁, hid, -⟩ := run_create_at hw hstatement
  have h₁ := (performs_statement (L := .plain) hopcode hw (.refl _) (nil_subset _) id w₁
    hstatement).1.reaches hw (.refl _)
  obtain ⟨filled, w₂, hplug, hrun⟩ := run_bind_eq_ok hrun
  rw [plugInTurn, ← bind_assoc] at hplug
  obtain ⟨i, w₂', hplug, hpure⟩ := run_bind_eq_ok hplug
  cases hpure
  obtain ⟨he₂, ids, hids, hnodup, hnew⟩ :=
    (Expr.plug_meets he h₁.after.keys (some id)).of_eq_ok hplug
  have hat₂ := hat₁.expands he₂
  rw [run_bind_of_ok (run_setInputs hat₂.has _)] at hrun
  cases hrun
  refine ⟨id, he₂.previous.trans hprev₁, setInputs_carries hat₂ hids hnodup
    (fun k hk hmem => hnew k hk (h₁.keys.subset hmem)) hid fun hmem => hnew id hmem ?_⟩
  exact hat₁.mem_keys

theorem waitUntil_carries {rest : List Meaning} {r : Option Id} (he : e.isFormula)
    (hw : w.Sound)
    (hrun : (waitUntil.perform (e.meaning :: rest)).run w = (.ok r, w')) :
    Carried w w' "control_wait_until" "CONDITION" e.test := by
  obtain ⟨id, w₁, hstatement, hrun⟩ := run_bind_eq_ok hrun
  obtain ⟨hat₁, hprev₁, hid, -⟩ := run_create_at hw hstatement
  have h₁ := (performs_statement (L := .plain) (by decide) hw (.refl _) (nil_subset _) id
    w₁ hstatement).1.reaches hw (.refl _)
  obtain ⟨c, w₂, hcondition, hrun⟩ := run_bind_eq_ok hrun
  obtain ⟨he₂, ids, hids, hnodup, hnew⟩ := (e.condition_meets he h₁.after.keys).of_eq_ok hcondition
  obtain ⟨_, w₃, hplug, hrun⟩ := run_bind_eq_ok hrun
  cases hrun
  obtain ⟨hcarries, hprev⟩ := plugCondition_carries he₂.numbered (hat₁.expands he₂) hids hnodup
    (fun k hk hmem => hnew k hk (h₁.keys.subset hmem)) hid (fun hmem => hnew id hmem hat₁.mem_keys)
    hplug
  exact ⟨id, hprev.trans (he₂.previous.trans hprev₁), hcarries⟩

end Build

namespace Program

/-! ### The use of an expression -/

/-- A place for an expression: an input of the block that a statement makes. -/
structure Use where
  opcode : String
  input : String
  expr : Expr
  /-- Whether the place is for a condition. -/
  isTest : Bool

/-- What is found in the place. -/
def Use.filling (u : Use) : Filling := if u.isTest then u.expr.test else u.expr.filling

end Program

/-- What a command does with its first argument. -/
def Command.use? (arg : Expr) : Command → Option Use
  | .action opcode [input] => some ⟨opcode, input, arg, false⟩
  | .waitUntil => some ⟨"control_wait_until", "CONDITION", arg, true⟩
  | _ => none

namespace Program

/-- The count of a loop, if it has one. -/
def Expr.count? : Expr → Option Expr
  | .call (.name "range") (count :: _) _ => some count
  | _ => none

theorem Expr.times_of_count? {iter count : Expr} (h : iter.count? = some count) :
    iter.times = count.meaning.operand := by
  unfold count? at h
  split at h
  · cases h
    rfl
  · cases h

/-- The expression that a statement uses: the value that is assigned, the argument of a command with
one argument, a count, or a condition. -/
def Stmt.use? : Stmt → Option Use
  | .expr (.call function (arg :: _) _) => do
    let name ← function.functionName?
    let command ← Command.ofName? name
    command.use? arg
  | .assign (.name _ :: _) value => some ⟨"data_setvariableto", "VALUE", value, false⟩
  | .forLoop _ iter _ _ => iter.count?.map fun count => ⟨"control_repeat", "TIMES", count, false⟩
  | .whileLoop (.const (.bool true)) _ _ => none
  | .whileLoop test _ _ => some ⟨"control_repeat_until", "CONDITION", test, true⟩
  | .conditional test _ orelse =>
    some ⟨if orelse.isEmpty then "control_if" else "control_if_else", "CONDITION", test, true⟩
  | _ => none

variable {w w' : Workspace} {u : Use}

theorem Command.perform_carries {command : Command} {arg : Expr} {rest : List Meaning}
    {r : Option Id} (hcommand : command.isProper) (hu : command.use? arg = some u)
    (he : u.expr.isFormula) (hw : w.Sound)
    (hrun : (command.perform (arg.meaning :: rest)).run w = (.ok r, w')) :
    Carried w w' u.opcode u.input u.filling := by
  cases command with
  | action opcode inputs =>
    rw [isProper, Bool.and_eq_true] at hcommand
    cases inputs with
    | nil => cases hu
    | cons input inputs =>
      cases inputs with
      | nil =>
        cases hu
        exact action_carries he hcommand.1 hw hrun
      | cons _ _ => cases hu
  | waitUntil =>
    cases hu
    exact waitUntil_carries he hw hrun
  | _ => cases hu

/-- **What a statement uses is found in its block.** -/
theorem Stmt.visit_carries {s : Stmt} (hu : s.use? = some u) (he : u.expr.isFormula)
    (hw : w.Sound) (hrun : s.visit.run w = (.ok (), w')) :
    Carried w w' u.opcode u.input u.filling := by
  -- what the statements of a body may do does not matter here
  let L : Licence := ⟨fun _ _ => True, True, False⟩
  have hm : ∀ e : Expr, e.meaning.Performs L := fun e =>
    e.meaning_performs id fun _ _ => trivial
  have hsteps : ∀ ss : List Stmt, ∀ m ∈ visits ss, m.Acts L := fun ss =>
    visits_act id ss (fun _ _ => trivial) fun _ => trivial
  cases s with
  | expr e =>
    cases e with
    | call function args keywords =>
      cases args with
      | nil => cases hu
      | cons arg rest =>
        simp only [use?, Option.bind_eq_bind, Option.bind_eq_some_iff] at hu
        obtain ⟨name, hname, command, hcommand, hu⟩ := hu
        obtain ⟨r, w₁, hrun, hpure⟩ := run_bind_eq_ok hrun
        cases hpure
        rw [hname, Meaning.called, call, hcommand] at hrun
        exact Command.perform_carries (isProper_of_ofName? hcommand) hu he hw hrun
    | _ => cases hu
  | assign targets value =>
    cases targets with
    | nil => cases hu
    | cons target rest =>
      cases target with
      | name x =>
        cases hu
        exact assign_carries he (hm value) hw hrun
      | _ => cases hu
  | forLoop target iter body orelse =>
    obtain ⟨count, hcount, rfl⟩ := Option.map_eq_some_iff.1 hu
    rw [visit, Expr.times_of_count? hcount] at hrun
    exact (repeatLoop_carries he (hm _) (hsteps body) hw (.refl _) (nil_subset _) ()
      w' hrun).2
  | whileLoop test body orelse =>
    have hloop : (whileLoop test body orelse).visit =
        conditionLoop test.meaning (visits body) ∧
          u = ⟨"control_repeat_until", "CONDITION", test, true⟩ := by
      cases test with
      | const v =>
        cases v with
        | bool b =>
          cases b with
          | false => exact ⟨rfl, (Option.some.inj hu).symm⟩
          | true => cases hu
        | _ => exact ⟨rfl, (Option.some.inj hu).symm⟩
      | _ => exact ⟨rfl, (Option.some.inj hu).symm⟩
    obtain ⟨hvisit, rfl⟩ := hloop
    rw [hvisit] at hrun
    exact (conditionLoop_carries he (hm _) (hsteps body) hw (.refl _) (nil_subset _)
      () w' hrun).2
  | conditional test body orelse =>
    cases hu
    have h := (branch_carries he (hm _) (hsteps body) (hsteps orelse) hw (.refl _)
      (nil_subset _) () w' hrun).2
    have hempty : (visits orelse).isEmpty = orelse.isEmpty := by cases orelse <;> rfl
    rw [hempty] at h
    exact h
  | _ => cases hu

end Program

end BlockScript
