import BlockScript.Proofs.Joints

/-!
# Calls and the script

A command with a value makes no statement of its own, and any other makes at most one, below which the
script goes on. So does a call of a procedure (`Build.passes_call`, `Build.proceeds_call`). For the
commands, it is what one sees of the compiler if one looks at the joints (`View.joints`): a block is at
hand if it has no bodies.
-/

namespace BlockScript

open Build List View

/-- In each of its roles, the meaning makes statements only if expressions may be loud. -/
structure Meaning.Passes (K : List String) (loud : Prop) (m : Meaning) : Prop where
  operand : Build.Passes K loud [] m.operand
  condition : Build.Passes K loud [] m.condition
  effect : Build.Passes K loud [] m.effect

namespace Build

variable {K : List String} {loud : Prop} {S : List Id} {args : List Meaning}

theorem passes_mapM_operand (hargs : ∀ m ∈ args, m.Passes K loud) :
    Passes K loud S (args.mapM fun m : Meaning => m.operand) := by
  induction args with
  | nil => exact passes_pure _
  | cons m args ih =>
    rw [forall_mem_cons] at hargs
    rw [mapM_cons]
    exact hargs.1.operand.weaken.bind fun _ => (ih hargs.2).bind fun _ => passes_pure _

theorem passes_plugCondition (id : Id) {input : String} (h : input ∉ bodyInputs) (c : Option Id) :
    Passes K loud S (plugCondition id input c) := by
  cases c with
  | none => exact passes_pure _
  | some i => exact (passes_setInput id h _).bind fun _ => passes_setParent _ id

end Build

/-! ### What one sees of the joints -/

namespace View

/-- Where the script stands after loud expressions. -/
def afterLoud (loud : Prop) (_ : Id) (c : Option Id) : Prop := loud ∧ c ≠ none

/-- Where the script stands after a statement. -/
def afterStatement (loud : Prop) (q : Id) (c : Option Id) : Prop := c ≠ none ∧ (¬loud → c = some q)

/-- **Statements are made only where they belong.** -/
def joints (K : List String) (loud : Prop) : View where
  Moment := Workspace
  Start _ := True
  Steps w m _ Q := Advances K True (afterLoud loud) w m fun a w' => ∃ a', Q w' a a'
  Makes sure w m _ Q := Advances K (sure = false) (afterStatement loud) w m fun a w' => ∃ a', Q w' a a'
  Hand w _ id id' := id' = id ∧ w.blocks.Bare id
  Given _ _ o o' := o' = o
  Fits _ _ i i' := i' = i
  Declared _ _ i i' := i' = i
  Listed _ _ i i' := i' = i
  Shown t t' := t' = t

variable {K : List String} {loud : Prop} {w w' : Workspace} {α : Type} {S : List Id}
  {m m' : Build α} {Q : Workspace → α → α → Prop}

theorem joints_spares (h : ∀ id, w.blocks.Bare id → w'.blocks.Bare id) :
    (joints K loud).Spares w w' :=
  ⟨⟨fun h => h, fun h => h, fun h => h⟩, fun hid => ⟨hid.1, h _ hid.2⟩⟩

theorem joints_made {opcode : String} {id : Id} (hid : w'.blocks.Bare id)
    (h : ∀ id, w.blocks.Bare id → w'.blocks.Bare id) : (joints K loud).Made w opcode w' id id :=
  ⟨(joints_spares h).toGrows, ⟨rfl, hid⟩, fun h => h, fun h => h⟩

/-- A step that passes does as it should. -/
theorem joints_steps (h : Passes K loud S m) (hS : ∀ id ∈ S, w.blocks.Bare id)
    (hQ : ∀ a w', (joints K loud).Spares w w' → ∃ a', Q w' a a') :
    (joints K loud).Steps w m m' Q :=
  (Goes.advances h hS).bare.imp fun a w' h => hQ a w' (joints_spares h.2.2)

/-- So does one to which the blocks do not matter. -/
theorem joints_passes (h : Passes K loud [] m)
    (hQ : ∀ a w', (joints K loud).Spares w w' → ∃ a', Q w' a a') :
    (joints K loud).Steps w m m' Q := joints_steps h (forall_mem_nil _) hQ

theorem joints_lawful (K : List String) (loud : Prop) : (joints K loud).Lawful where
  pure h := by
    intro hw a w' hrun
    cases hrun
    exact ⟨hw, .inl ⟨trivial, .refl _⟩, _, h⟩
  bind h hf := h.bind (fun a w' ⟨a', ha⟩ => hf w' a a' ha) (fun _ _ _ _ h _ => h.2)
    (fun _ _ => trivial) (fun _ _ _ h => h) (fun _ _ _ h => h) fun _ _ _ _ _ h => h
  maybe h := h.elim
    (fun h => h.mono (fun _ => rfl) fun _ _ h => ⟨h.2, fun hc => absurd h.1 hc⟩)
    fun h => h.mono (fun hc => by cases hc) fun _ _ h => h
  after h hf := h.bind (fun a w' ⟨a', ha⟩ => hf w' a a' ha) (fun _ _ _ _ h _ => h.2)
    (fun _ hi => hi) (fun _ _ _ h => ⟨h.2, fun hc => absurd h.1 hc⟩) (fun _ _ _ h => h)
    fun _ _ _ _ h h' => ⟨h'.1, fun hc => absurd h.1 hc⟩
  before h hf := h.bind (fun a w' ⟨a', ha⟩ => hf w' a a' ha) (fun _ _ _ _ h _ => h.1)
    (fun hi _ => hi) (fun _ _ _ h => h) (fun _ _ _ h => ⟨h.2, fun hc => absurd h.1 hc⟩)
    fun _ _ _ _ _ h' => ⟨h'.2, fun hc => absurd h'.1 hc⟩
  enter g h w := (h w trivial).bare.imp fun a w' ⟨⟨a', ha⟩, _, hbare⟩ =>
    ⟨a', joints_spares hbare, ha, fun _ => ha⟩
  given_value _ _ _ := rfl
  given_name _ _ _ := rfl
  given_none _ _ := rfl
  given_hand _ h := congrArg (fun i => Operand.block (some i)) h.1
  given_cases {_ _ o _} h := by
    cases h
    rcases o with _ | _ | _ | _ <;> simp
  fits_text _ _ _ := rfl
  fits_color _ _ _ _ h := congrArg (fun t => Input.literal (.color t)) h
  fits_block h := by
    cases h
    rfl
  fits_reporter h := by
    cases h
    rfl
  fits_embedded _ n _ _ h := congrArg (fun i => Input.embedded (.variableName n i) (.text "")) h
  shown_refl _ := rfl
  text _ := joints_passes (passes_lift _) fun t _ h => ⟨t, h, rfl⟩
  reporter w h := ((adds_reporter h).advances.mono id fun _ _ h => h.elim).bare.imp fun id _ h =>
    ⟨id, joints_made h.1 h.2.2⟩
  statement w h := ((stacks_statement h).advances.mono False.elim
    fun _ _ h => ⟨h ▸ Option.some_ne_none _, fun _ => h⟩).bare.imp fun id _ h =>
      ⟨id, joints_made h.1 h.2.2⟩
  menu _ _ _ _ := joints_passes (adds_menu _ _ _ _).passes fun i _ h => ⟨i, h, rfl⟩
  plug _ _ := joints_passes (passes_plug _ _) fun i _ h => ⟨i, ⟨h, fun h => h⟩, rfl⟩
  setParent _ _ := joints_passes (passes_setParent _ _) fun _ _ h => ⟨(), h⟩
  setInput hid hname _ := joints_passes (passes_setInput _ hname.1 _) fun _ _ h =>
    ⟨(), h.hand hid, h.toGrows⟩
  setInputs {_ _ id _ inputs _} hid h := by
    have hnames : ∀ p ∈ inputs, p.1 ∉ bodyInputs :=
      ((forall₂_and_left _ _).1 (h.imp fun _ _ hp => ⟨hp.2.1.1, hp⟩)).1
    refine joints_steps (passes_setInputs (.head []) hnames) (forall_mem_singleton.2 hid.2)
      fun _ _ h => ⟨(), h.hand hid, fun h => h⟩
  setField hid _ _ := joints_passes (passes_setField _ _ _) fun _ _ h => ⟨(), h.hand hid⟩
  setVariable _ _ := joints_passes (passes_setField _ _ _) fun _ _ _ => ⟨(), trivial⟩
  setList hid _ := joints_passes (passes_setField _ _ _) fun _ _ h => ⟨(), h.hand hid⟩
  variableNamed _ _ := joints_passes (passes_variableNamed _ _) fun i _ h => ⟨i, h, rfl⟩
  listNamed _ _ := joints_passes (passes_listNamed _ _) fun i _ h => ⟨i, h, rfl⟩
  messageNamed _ _ := joints_passes (passes_messageNamed _) fun i _ h => ⟨i, fun _ => rfl⟩
  useSound _ _ := joints_passes (passes_useSound _) fun _ _ h => ⟨(), h⟩

end View

/-- To pass is to do as one should, as far as joints are concerned. -/
theorem Meaning.passes_iff {K : List String} {loud : Prop} {m : Meaning} :
    m.Passes K loud ↔ (joints K loud).Means m where
  mp h :=
    { operand := fun _ _ => joints_passes h.operand fun o _ _ => ⟨o, rfl⟩
      condition := fun _ _ => joints_passes h.condition fun r _ _ => ⟨r, rfl⟩
      effect := fun _ _ => joints_passes h.effect fun _ _ _ => ⟨(), trivial⟩ }
  mpr h :=
    { operand := goes_of_advances fun w _ => (h.operand w trivial).imp fun _ _ _ => trivial
      condition := goes_of_advances fun w _ => (h.condition w trivial).imp fun _ _ _ => trivial
      effect := goes_of_advances fun w _ => (h.effect w trivial).imp fun _ _ _ => trivial }

/-! ### Calls -/

namespace Build

variable {K : List String} {loud : Prop} {S : List Id} {args : List Meaning}

theorem proceeds_callProcedure (p : Procedure) (hp : ∀ i ∈ p.argumentIds, i ∉ bodyInputs)
    (os : List Operand) : Proceeds K False loud S (callProcedure p os) := by
  have hnames : ∀ o ∈ p.argumentIds.zip os, o.1 ∉ bodyInputs := fun o ho =>
    hp o.1 (of_mem_zip ho).1
  have hstatement : Stacks K false (statement "procedures_call") :=
    stacks_create rfl rfl (forall_mem_nil _)
  refine hstatement.bind fun id => goes_fill (.head _) hnames ?_
  refine Passes.bind (passes_update fun _ _ _ _ => ?_) fun _ => passes_pure _
  rfl

theorem passes_argumentReporter (name : String) : Passes K loud S (argumentReporter name) :=
  (adds_put rfl).passes

/-- Whether a call by the given name, where the given procedures are known, makes a statement for
sure. -/
def isSureCall (K : List String) (name : String) : Bool :=
  match Command.ofName? name with
  | some c => c.isSure
  | none => K.contains name

/-- Whether a call by the given name, where the given procedures are known, makes no statement of its
own. -/
def isQuietCall (K : List String) (name : String) : Bool :=
  match Command.ofName? name with
  | some c => c.hasValue
  | none => !K.contains name

/-- A call whose name is neither that of a command nor that of a procedure. -/
theorem passes_argument (name : String) (w : Workspace) :
    Passes K loud S
      (if w.arguments.contains name then do
        let id ← argumentReporter name
        pure (some id)
      else pure none) := by
  split
  · exact (passes_argumentReporter name).bind fun _ => passes_pure _
  · exact passes_pure _

theorem passes_call {name : String} (h : isQuietCall K name)
    (hargs : ∀ m ∈ args, m.Passes K loud) : Passes K loud S (call name args) := by
  rw [isQuietCall] at h
  rw [call]
  cases hc : Command.ofName? name with
  | some c =>
    rw [hc] at h
    exact goes_of_advances fun w _ => (((joints_lawful K loud).perform_steps hc h
        fun m hm => Meaning.passes_iff.1 (hargs m hm))).imp fun _ _ _ => trivial
  | none =>
    rw [hc] at h
    intro w a w' hw hS hrun
    rw [run_bind_of_ok (run_get w)] at hrun
    have hnone : w.procedures.find? name = none := by
      cases hp : w.procedures.find? name with
      | none => rfl
      | some p =>
        have hmem := (hw.known name).1 (Table.has_iff.2 ⟨p, hp⟩)
        simp [hmem] at h
    rw [hnone] at hrun
    exact passes_argument name w w a w' hw hS hrun

theorem proceeds_call (name : String) (hargs : ∀ m ∈ args, m.Passes K loud) :
    Proceeds K (isSureCall K name = false) loud S (call name args) := by
  rw [isSureCall, call]
  cases hc : Command.ofName? name with
  | some c =>
    exact goes_of_advances fun w _ => (((joints_lawful K loud).perform_makes hc
        fun m hm => Meaning.passes_iff.1 (hargs m hm))).imp fun _ _ _ => trivial
  | none =>
    intro w a w' hw hS hrun
    rw [run_bind_of_ok (run_get w)] at hrun
    cases hp : w.procedures.find? name with
    | some p =>
      rw [hp] at hrun
      have hcall : Proceeds K False loud S
          (do
            let os ← args.mapM (·.operand)
            let _ ← callProcedure p os
            pure (none : Option Id)) :=
        (passes_mapM_operand hargs).bind_proceeds fun os =>
          (proceeds_callProcedure p (hw.arguments name p hp) os).bind fun _ => passes_pure _
      exact hcall.maybe w a w' hw hS hrun
    | none =>
      rw [hp] at hrun
      have hpass : Passes K loud S _ := passes_argument name w
      have hunknown : K.contains name = false := by
        rw [contains_eq_mem, decide_eq_false_iff_not, ← hw.known, Table.has, hp]
        exact Bool.false_ne_true
      exact Goes.mono hpass.proceeds (fun _ => hunknown) (fun _ _ h => h) w a w' hw hS hrun

end Build

end BlockScript
