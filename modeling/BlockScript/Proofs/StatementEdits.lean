import BlockScript.Proofs.ExpressionEdits

/-!
# Statements perform edits

The commands behind each kind of statement perform edits. A statement with a body makes its block,
lets the body run as a script of its own, and plugs the first block of the body in
(`Build.performs_plugBody`). That block is recognized by the place where the script goes on after a
step: as the script started nowhere, this is a block that was made since
(`Build.performs_substackFrom`). Functions start a script below a block of their own
(`Build.script_acts`).
-/

namespace BlockScript

open Workspace Build Input Listing

/-- The script goes on below no old block. -/
theorem Workspace.Reaches.previous {L : Licence} {old : List Id} {w w' : Workspace}
    (h : Reaches L old w w') (hp : ∀ q, w.previous = some q → q ∉ old) :
    ∀ q, w'.previous = some q → q ∉ old := by
  rcases h.grows.previous with heq | hnew
  · rw [heq]
    exact hp
  · exact hnew

theorem Workspace.Owns.previous {old : List Id} {w : Workspace} {id : Id} {opcode : String}
    (h : w.Owns old opcode id) (hp : w.previous = some id) :
    ∀ q, w.previous = some q → q ∉ old := by
  rw [hp]
  rintro q ⟨⟩
  exact h.new

namespace Build

variable {L : Licence} {held old : List Id} {w : Workspace} {id : Id} {opcode : String}
  {steps : List (Build Unit)}

/-! ### Bodies -/

theorem sequence_acts (h : ∀ s ∈ steps, s.Acts L) : (sequence steps).Acts L := acts_forM h

theorem performs_setPrevious {p : Option Id}
    (hp : ∀ q, p = some q → w.scripts.Statement q ∧ q ∉ old) :
    (setPrevious p).Performs L held old w fun _ w' => w' = { w with previous := p } := by
  intro _ _ hheld u w' hrun
  cases hrun
  exact ⟨.turn hheld hp, rfl⟩

/-- The script goes on below the block at hand. -/
theorem performs_goOn (h : w.Owns old opcode id) (haction : isAction opcode) :
    (setPrevious (some id)).Performs L held old w fun _ _ => True := by
  refine (performs_setPrevious ?_).imp fun _ _ _ _ => trivial
  rintro q ⟨⟩
  exact ⟨h.statement (has_of_isAction haction), h.new⟩

/-- The first statement of a body was made in the body. -/
theorem performs_substackFrom {base : List Id} {parent : Id} {first : Option Id}
    (hsteps : ∀ s ∈ steps, s.Acts L) (hparent : parent ∈ w.blocks.keys) (hapart : parent ∉ held)
    (hbase : base ⊆ w.blocks.keys) (hheld : held ⊆ base) (hnone : first = none → w.previous = none)
    (hsome : ∀ f, first = some f → w.scripts.Statement f ∧ f ∉ base) :
    (substackFrom parent first steps).Performs L held w.blocks.keys w fun r w' =>
      ∀ f, r = some f → w'.scripts.Statement f ∧ f ∉ base := by
  induction steps generalizing w first with
  | nil => exact performs_pure hsome
  | cons step steps ih =>
    refine (hsteps step (.head _) w).next fun _ w₁ h₁ _ => performs_get ?_
    have hrest := fun s hs => hsteps s (.tail _ hs)
    have hparent₁ := h₁.keys.subset hparent
    have hbase₁ := List.Subset.trans hbase h₁.keys.subset
    cases first with
    | some f =>
      refine (ih hrest hparent₁ hbase₁ (fun hc => by cases hc) fun f' hf' => ?_).of_keys
      exact ⟨(hsome f' hf').1.mono h₁.grows.scripts, (hsome f' hf').2⟩
    | none =>
      cases hp : w₁.previous with
      | none => exact (ih hrest hparent₁ hbase₁ (fun _ => hp) fun f hf => by cases hf).of_keys
      | some id =>
        -- the script started nowhere, so this block is new
        have hnew : id ∉ base := by
          have hprevious := h₁.previous (fun q hq => by rw [hnone rfl] at hq; cases hq) id hp
          exact fun hc => hprevious (hbase hc)
        have hid : ∀ i, some id = some i → i ∉ held := by
          rintro i ⟨⟩
          exact fun hc => hnew (hheld hc)
        refine (performs_setParent hparent₁ hapart hid).next fun _ w₂ h₂ _ => ?_
        refine (ih hrest (h₂.keys.subset hparent₁) (List.Subset.trans hbase₁ h₂.keys.subset)
          (fun hc => by cases hc) fun f hf => ?_).of_keys
        cases hf
        exact ⟨(h₁.after.previous id hp).mono h₂.grows.scripts, hnew⟩

/-- A body runs as a script of its own. Then the script at hand goes on where it was. -/
theorem performs_substack (h : w.Owns old opcode id) (hold : old ⊆ w.blocks.keys)
    (hp : ∀ q, w.previous = some q → q ∉ old) (hsteps : ∀ s ∈ steps, s.Acts L) :
    (substack id steps).Performs L held old w fun r w' =>
      w'.Owns old opcode id ∧ w'.previous = w.previous ∧
        ∀ f, r = some f → w'.scripts.Statement f ∧ f ∉ w.blocks.keys := by
  refine performs_of_held fun hheld => performs_get ?_
  have hend : ∀ q, none = some q → w.scripts.Statement q ∧ q ∉ w.blocks.keys :=
    fun q hq => by cases hq
  refine (performs_setPrevious hend).next fun _ w₁ h₁ heq => ?_
  subst heq
  have hbody : (substackFrom id none steps).Performs L held w.blocks.keys { w with previous := none }
      fun r w' => ∀ f, r = some f → w'.scripts.Statement f ∧ f ∉ w.blocks.keys :=
    performs_substackFrom hsteps (h.reaches h₁).mem_keys (fun hmem => h.new (hheld hmem))
      (.refl _) (List.Subset.trans hheld hold) (fun _ => rfl) fun f hf => by cases hf
  refine hbody.next fun r w₂ h₂ hr => ?_
  have howns := (h.reaches h₁).reaches h₂
  have hsaved : ∀ q, w.previous = some q → w₂.scripts.Statement q ∧ q ∉ old :=
    fun q hq => ⟨(h₁.before.previous q hq).mono h₂.grows.scripts, hp q hq⟩
  refine (performs_setPrevious hsaved).bind fun _ w₃ _ heq => ?_
  subst heq
  exact performs_pure ⟨⟨howns.new, howns.block, howns.loose, howns.free⟩, rfl, hr⟩

/-- A body is plugged into the block at hand. -/
theorem performs_plugBody {input : String} (hinput : input ∈ bodyInputs)
    (h : w.Owns old opcode id) (haction : isAction opcode) (hold : old ⊆ w.blocks.keys)
    (hp : ∀ q, w.previous = some q → q ∉ old) (hsteps : ∀ s ∈ steps, s.Acts L) :
    (plugBody id input steps).Performs L held old w fun _ w' =>
      w'.Owns old opcode id ∧ ∀ q, w'.previous = some q → q ∉ old := by
  refine (performs_substack h hold hp hsteps).bind fun r w₁ h₁ hr => ?_
  obtain ⟨howns, hprevious, hfirst⟩ := hr
  cases r with
  | none => exact performs_pure ⟨howns, hprevious ▸ hp⟩
  | some f =>
    obtain ⟨hf, hnew⟩ := hfirst f rfl
    have hbefore := Table.before_of_new h.mem_keys hf.mem_keys hnew h₁.keys
    have hfits : (Input.block f).Fits w₁.scripts id input := by
      rw [Fits, if_pos hinput]
      exact ⟨f, rfl, howns.statement (has_of_isAction haction), hf, hbefore⟩
    have hout : ∀ r, (Input.block f).target? = some r → r ∉ id :: old := by
      rintro r ⟨⟩ hc
      exact hnew (h.cons_subset hold hc)
    refine (performs_setInput_of_fits howns hfits hout).imp fun _ w₂ h₂ howns => ⟨howns, ?_⟩
    exact h₂.previous (hprevious ▸ hp)

/-! ### Assignments -/

/-- The value and the variable of a block at hand are set. -/
theorem performs_finish {i : Input} {name : String} {v : Id} (h : w.Owns old opcode id)
    (hi : i.Ready w.scripts (id :: old)) (hv : (Literal.variableName name v).Resolves w.scripts) :
    (setInputs id [("VALUE", i)] >>= fun _ => update id fun b =>
      { b with fields := [("VARIABLE", .named name v)] }).Performs L held old w fun _ _ => True := by
  have hvalue : "VALUE" ∉ bodyInputs := by decide
  have hinputs : ∀ p ∈ [("VALUE", i)], p.1 ∉ bodyInputs ∧ p.2.Ready w.scripts (id :: old) :=
    List.forall_mem_singleton.2 ⟨hvalue, hi⟩
  refine (performs_setInputs h hinputs).bind fun _ w₁ h₁ howns => ?_
  refine (performs_setFields howns fun p hp => ?_).imp fun _ _ _ _ => trivial
  cases List.mem_singleton.1 hp
  exact declared_field (hv.mono h₁.grows.scripts)

theorem assign_acts {name : String} {m : Meaning} (hm : m.Performs L) : (assign name m).Acts L := by
  intro w held
  have hopcode : isAction "data_setvariableto" := by decide
  refine performs_of_held fun hheld => (hm.operand w).next fun o w₁ h₁ ho => ?_
  refine performs_variableNamed.next fun v w₂ h₂ hv => ?_
  refine (performs_statement hopcode).next fun id w₃ h₃ howns => ?_
  have hold := (h₁.andThen h₂).keys.subset
  have hready := ((ho.mono h₂.grows.scripts (.refl _)).cons howns.1.new).mono
    h₃.grows.scripts (.refl _)
  replace howns := howns.1.mono hold
  refine (performs_plug_into hready howns (List.Subset.trans hold h₃.keys.subset) hheld).next
    fun i w₄ h₄ hi => ?_
  exact performs_finish (howns.reaches h₄) hi (hv.1.mono (h₃.andThen h₄).grows.scripts)

/-- What is taken away from a variable is plugged in. A block is plugged into a difference first, so
it must not be old here. -/
theorem performs_plugNegated {o : Operand} (ho : o.Ready w.scripts old)
    (hold : old ⊆ w.blocks.keys) (hheld : held ⊆ old)
    (hid : ∀ p, some id = some p → p ∈ w.blocks.keys ∧ p ∉ held) :
    (plugNegated id o).Performs L held old w fun i w' => i.Ready w'.scripts old := by
  cases o with
  | value v => exact (performs_plug (o := .value _) trivial hold hheld hid).of_keys
  | name n => exact (performs_plug ho hold hheld hid).of_keys
  | block b =>
    have hvalue : isValue "operator_subtract" := by decide
    have hfirst : "NUM1" ∉ bodyInputs := by decide
    have hsecond : "NUM2" ∉ bodyInputs := by decide
    refine (performs_reporter hvalue).next fun d w₁ h₁ howns => ?_
    have hready := ((ho.cons howns.new).reporter coveredNumber trivial).extend h₁.grows.scripts
    have hzero : (literal (.number "0")).Ready w₁.scripts (d :: old) :=
      ⟨trivial, fun r hr => by cases hr⟩
    refine (performs_setInput (howns.mono hold) hfirst hzero).bind fun _ w₂ h₂ howns => ?_
    refine (performs_setInput howns hsecond (hready.extend h₂.grows.scripts)).bind
      fun _ w₃ _ howns => ?_
    obtain ⟨hmem, hnew⟩ := howns.hangs hheld d rfl
    refine (performs_setParent hmem hnew (ho.not_mem hheld)).bind fun _ w₄ h₄ _ =>
      performs_pure ?_
    exact ((howns.ready hvalue).reporter coveredNumber trivial).extend h₄.grows.scripts

theorem change_acts {name : String} {op : Program.BinaryOp} {m : Meaning} (hm : m.Performs L) :
    (change name op m).Acts L := by
  intro w held
  have hopcode : isAction "data_changevariableby" := by decide
  refine performs_of_held fun hheld => (hm.operand w).next fun o w₁ h₁ ho => ?_
  refine performs_variableNamed.next fun v w₂ h₂ hv => ?_
  have hold := (h₁.andThen h₂).keys.subset
  -- the block is made, and the operand is not the block
  have hmade : ∀ f : Id → Build Input, (∀ id w₃, w.blocks.keys ⊆ w₃.blocks.keys →
      w₃.Owns w.blocks.keys "data_changevariableby" id →
      o.Ready w₃.scripts (id :: w.blocks.keys) →
      (f id).Performs L held (id :: w.blocks.keys) w₃ fun i w' =>
        i.Ready w'.scripts (id :: w.blocks.keys)) →
      (do
        let id ← statement "data_changevariableby"
        let i ← f id
        setInputs id [("VALUE", i)]
        update id fun b => { b with fields := [("VARIABLE", .named name v)] }
        : Build Unit).Performs L held w.blocks.keys w₂ fun _ _ => True := by
    intro f hf
    refine (performs_statement hopcode).next fun id w₃ h₃ howns => ?_
    have hready := ((ho.mono h₂.grows.scripts (.refl _)).cons howns.1.new).mono
      h₃.grows.scripts (.refl _)
    replace howns := howns.1.mono hold
    have hold₃ := List.Subset.trans hold h₃.keys.subset
    have hcons := howns.cons_subset hold₃
    refine (hf id w₃ hold₃ howns hready).within hcons (List.subset_cons_self _ _)
      fun i w₄ h₄ hi => ?_
    exact performs_finish (howns.reaches_of_mem h₄ (.head _)) hi
      (hv.1.mono (h₃.grows.scripts.trans h₄.grows.scripts))
  cases op with
  | add =>
    exact hmade (fun id => plug o (some id)) fun id w₃ hold howns ho =>
      (performs_plug_into ho howns hold hheld).of_keys
  | sub =>
    exact hmade (fun id => plugNegated id o) fun id w₃ hold howns ho =>
      performs_plugNegated ho (howns.cons_subset hold)
        (List.Subset.trans hheld (List.subset_cons_self _ _)) (howns.hangs hheld)
  | mul | matMul | div | mod | pow | shiftLeft | shiftRight | bitOr | bitXor | bitAnd | floorDiv =>
    exact performs_pure trivial

/-! ### Loops and branches -/

theorem repeatLoop_acts {times : Build Operand}
    (htimes : ∀ w {held}, times.Performs L held w.blocks.keys w fun o w' =>
      o.Ready w'.scripts w.blocks.keys)
    (hsteps : ∀ s ∈ steps, s.Acts L) : (repeatLoop times steps).Acts L := by
  intro w held
  have hopcode : isAction "control_repeat" := by decide
  have hbody : "SUBSTACK" ∈ bodyInputs := by decide
  have htimesInput : "TIMES" ∉ bodyInputs := by decide
  refine performs_of_held fun hheld => (htimes w).next fun o w₁ h₁ ho => ?_
  have hnone : ∀ p, none = some p → p ∈ w₁.blocks.keys ∧ p ∉ held := fun p hp => by cases hp
  refine (performs_plug ho h₁.keys.subset hheld hnone).next fun i w₂ h₂ hi => ?_
  have hold := (h₁.andThen h₂).keys.subset
  have hinputs : ∀ p ∈ [("TIMES", i)], p.1 ∉ bodyInputs ∧ p.2.Ready w₂.scripts w.blocks.keys :=
    List.forall_mem_singleton.2 ⟨htimesInput, hi⟩
  refine (performs_create hopcode rfl (fun hc => by cases hc) hinputs).bind
    fun id w₃ h₃ howns => ?_
  have hp := (howns.1.mono hold).previous howns.2
  refine (performs_plugBody hbody (howns.1.mono hold) hopcode
    (List.Subset.trans hold h₃.keys.subset) hp hsteps).bind fun _ w₄ h₄ howns => ?_
  exact performs_goOn howns.1 hopcode

theorem foreverLoop_acts (hsteps : ∀ s ∈ steps, s.Acts L) : (foreverLoop steps).Acts L := by
  intro w held
  have hopcode : isAction "control_forever" := by decide
  have hbody : "SUBSTACK" ∈ bodyInputs := by decide
  refine (performs_statement hopcode).next fun id w₁ h₁ howns => ?_
  refine (performs_plugBody hbody howns.1 hopcode h₁.keys.subset (howns.1.previous howns.2)
    hsteps).bind fun _ w₂ h₂ _ => ?_
  exact (performs_setPrevious fun q hq => by cases hq).imp fun _ _ _ _ => trivial

theorem conditionLoop_acts {test : Meaning} (htest : test.Performs L)
    (hsteps : ∀ s ∈ steps, s.Acts L) : (conditionLoop test steps).Acts L := by
  intro w held
  have hopcode : isAction "control_repeat_until" := by decide
  have hcondition : "CONDITION" ∉ bodyInputs := by decide
  have hbody : "SUBSTACK" ∈ bodyInputs := by decide
  refine (performs_statement hopcode).next fun id w₁ h₁ howns => ?_
  have hp := howns.1.previous howns.2
  replace howns := howns.1
  refine (htest.condition w₁).next fun c w₂ h₂ hc => ?_
  have hready := hc.mono (Scripts.Extends.refl _) (howns.cons_subset h₁.keys.subset)
  replace hp := (h₂.mono h₁.keys.subset).previous hp
  refine (performs_plugCondition (howns.reaches h₂) hcondition hready).bind
    fun _ w₃ h₃ howns => ?_
  have hold := (h₁.keys.trans (h₂.keys.trans h₃.keys)).subset
  refine (performs_plugBody hbody howns hopcode hold (h₃.previous hp) hsteps).bind
    fun _ w₄ h₄ howns => ?_
  exact performs_goOn howns.1 hopcode

/-- A branch with an alternative changes its opcode; it starts no script. -/
theorem performs_alternative (h : w.Owns old "control_if" id) (hw : w.Sound) :
    (update id fun b => { b with opcode := "control_if_else" }).Performs L held old w
      fun _ w' => w'.Owns old "control_if_else" id := by
  refine performs_update h fun c hc hopcode => ⟨?_, rfl⟩
  have hif : "control_if" ∉ hatOpcodes := by decide
  have hfree : "control_if_else" ∉ procedureOpcodes := by decide
  have hkind : reporters.has "control_if" = reporters.has "control_if_else" := by
    decide
  have htop : c.topLevel = false := by
    rw [← Bool.not_eq_true]
    exact fun htop => hif (hopcode ▸ (hw.scripts.block id c hc).top htop)
  exact
    { next := rfl
      parent := rfl
      shadow := rfl
      kind := by rw [Block.isPart, Block.isPart, hopcode, hkind]
      top := rfl
      opcode := .inr htop
      free := by
        rw [hopcode]
        exact ⟨h.free, hfree⟩
      inputs := fun p hp => .inl hp
      fields := fun p hp => .inl hp
      mutation := rfl }

theorem branch_acts {test : Meaning} {orelse : List (Build Unit)} (htest : test.Performs L)
    (hsteps : ∀ s ∈ steps, s.Acts L) (horelse : ∀ s ∈ orelse, s.Acts L) :
    (branch test steps orelse).Acts L := by
  intro w held
  have hopcode : isAction "control_if" := by decide
  have hopcode' : isAction "control_if_else" := by decide
  have hcondition : "CONDITION" ∉ bodyInputs := by decide
  have hbody : "SUBSTACK" ∈ bodyInputs := by decide
  have hbody' : "SUBSTACK2" ∈ bodyInputs := by decide
  refine (htest.condition w).next fun c w₁ h₁ hc => ?_
  refine (performs_statement hopcode).next fun id w₂ h₂ howns => ?_
  have hready := (hc.cons howns.1.new).mono h₂.grows.scripts (.refl _)
  have hp := (howns.1.mono h₁.keys.subset).previous howns.2
  replace howns := howns.1.mono h₁.keys.subset
  refine (performs_plugCondition howns hcondition hready).bind fun _ w₃ h₃ howns => ?_
  have hold := (h₁.keys.trans (h₂.keys.trans h₃.keys)).subset
  refine (performs_plugBody hbody howns hopcode hold (h₃.previous hp) hsteps).bind
    fun _ w₄ h₄ howns => ?_
  split
  · exact performs_goOn howns.1 hopcode
  · obtain ⟨howns, hp⟩ := howns
    refine (performs_alternative howns h₄.after).bind fun _ w₅ h₅ howns => ?_
    have hold := List.Subset.trans hold (h₄.keys.trans h₅.keys).subset
    refine (performs_plugBody hbody' howns hopcode' hold (h₅.previous hp) horelse).bind
      fun _ w₆ h₆ howns => ?_
    exact performs_goOn howns.1 hopcode'

/-! ### Scripts -/

theorem performs_hat (h : isAction opcode) (htop : opcode ∈ hatOpcodes) :
    (create opcode .hat []).Performs L held w.blocks.keys w fun id w' =>
      w'.Owns w.blocks.keys opcode id :=
  (performs_create h rfl (fun _ => htop) fun p hp => by cases hp).imp fun _ _ _ h => h.1

/-- A start with one choice. -/
theorem performs_choosingHat {field word : String} (h : isAction opcode)
    (htop : opcode ∈ hatOpcodes) (hfield : field ∉ namingFields) :
    (do
      let id ← create opcode .hat []
      setField id field (.word word) : Build Unit).Acts L :=
  fun _ => (performs_hat h htop).bind fun _ _ _ howns =>
    (performs_setPlainField howns hfield).imp fun _ _ _ _ => trivial

theorem startScript_acts (hat : Hat) : (startScript hat).Acts L := by
  intro w held
  cases hat with
  | flag => exact (performs_hat (by decide) (by decide)).bind fun _ _ _ _ => performs_pure trivial
  | clone => exact (performs_hat (by decide) (by decide)).bind fun _ _ _ _ => performs_pure trivial
  | clicked =>
    exact (performs_hat (by decide) (by decide)).bind fun _ _ _ _ => performs_pure trivial
  | key name => exact performs_choosingHat (by decide) (by decide) (by decide) w
  | backdrop name => exact performs_choosingHat (by decide) (by decide) (by decide) w
  | message name =>
    refine performs_messageNamed.next fun messageId w₁ h₁ hmessage => ?_
    refine (performs_hat (by decide) (by decide)).next fun id w₂ h₂ howns => ?_
    replace howns := howns.mono h₁.keys.subset
    refine (performs_setField howns ⟨⟨fun hc => absurd hc (by decide), fun _ => ?_⟩,
      fun hc => absurd hc (by decide)⟩).imp fun _ _ _ _ => trivial
    exact ⟨name, messageId, h₂.grows.scripts.broadcasts _ _ hmessage, rfl⟩
  | exceeds what limit =>
    have hfield : "WHENGREATERTHANMENU" ∉ namingFields := by decide
    have hinput : "VALUE" ∉ bodyInputs := by decide
    refine (performs_hat (by decide) (by decide)).bind fun id w₁ h₁ howns => ?_
    refine (performs_setPlainField howns hfield).bind fun _ w₂ h₂ howns => ?_
    have hready : (literal (.number limit)).Ready w₂.scripts (id :: w.blocks.keys) :=
      ⟨trivial, fun r hr => by cases hr⟩
    exact (performs_setInput howns hinput hready).imp fun _ _ _ _ => trivial

theorem endScript_acts : endScript.Acts L := by
  intro w held _ _ hheld u w' hrun
  cases hrun
  have hend : ∀ q, none = some q → w.scripts.Statement q ∧ q ∉ w.blocks.keys :=
    fun q hq => by cases hq
  exact ⟨(Edited.turn hheld hend).trans (.quiet (.note _ none _ _) rfl rfl), trivial⟩

theorem script_acts {hat : Hat} (hsteps : ∀ s ∈ steps, s.Acts L) : (script hat steps).Acts L :=
  (startScript_acts hat).bind ((sequence_acts hsteps).bind endScript_acts)

end Build

end BlockScript
