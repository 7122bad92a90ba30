import BlockScript.Proofs.Lockstep
import BlockScript.Proofs.ViewedCalls

/-!
# Calls in step

A call of a command, of a procedure or of an argument is in step with itself (`Build.gives_call`) if
the meanings of its arguments are. It is what one sees of the compiler if one looks at two runs
(`View.inStep`): what corresponds is the same up to the identifiers. Commands name their inputs as the
vocabulary does, and these names are no identifiers.
-/

namespace BlockScript

open Build BlockScript.Id Operand

/-- In each of its roles, the meaning is in step with itself. -/
structure Meaning.Steady (P : Allowance) (k : Nat) (m : Meaning) : Prop where
  operand : InStep P k (fun o o' => o' = o.rename (Id.shift k)) m.operand m.operand
  condition : InStep P k (fun c c' => c' = c.map (Id.shift k)) m.condition m.condition
  effect : Build.Steady P k m.effect

namespace Build

variable {P : Allowance} {k : Nat}

/-- A step that may give a block is in step with itself. -/
abbrev Gives (P : Allowance) (k : Nat) (m : Build (Option Id)) : Prop :=
  InStep P k (fun c c' => c' = c.map (Id.shift k)) m m

theorem inStep_imp {α : Type} {R S : α → α → Prop} {m m' : Build α} (h : InStep P k R m m')
    (hS : ∀ a a', R a a' → S a a') : InStep P k S m m' := by
  have hbind := inStep_bind h fun a a' ha => inStep_pure (hS a a' ha)
  rwa [bind_pure, bind_pure] at hbind

theorem inStep_plugCondition (i : Id) {input : String} (hinput : input.length < 20)
    (c : Option Id) :
    InStep P k Eq (plugCondition i input c)
      (plugCondition (shift k i) input (c.map (shift k))) := by
  cases c with
  | none => exact inStep_pure rfl
  | some c => exact inStep_then (inStep_setInput i hinput rfl) (inStep_setParent (some c) i)

end Build

/-! ### What one sees of two runs -/

namespace View

/-- **Two runs are in step.** -/
def inStep (P : Allowance) (k : Nat) : View where
  Moment := Unit
  Start _ := True
  Steps _ m m' Q := InStep P k (Q ()) m m'
  Makes _ _ m m' Q := InStep P k (Q ()) m m'
  Hand _ _ i i' := i' = Id.shift k i
  Given _ _ o o' := o' = o.rename (Id.shift k)
  Fits _ _ i i' := i.Renamed (Id.shift k) i'
  Declared _ _ i i' := i' = Id.shift k i
  Listed _ _ i i' := i' = Id.shift k i
  Shown := Text.Renamed (Id.shift k)

variable {P : Allowance} {k : Nat}

/-- Block and operand are renamed alike. -/
theorem inStep_block {c c' : Option Id} :
    block c' = (block c).rename (shift k) ↔ c' = c.map (shift k) :=
  ⟨fun h => block.inj h, fun h => congrArg block h⟩

/-- There is only one moment. -/
theorem inStep_spares (v v' : (inStep P k).Moment) : (inStep P k).Spares v v' :=
  Spares.refl (V := inStep P k) v

theorem inStep_made {opcode : String} {m : Build Id}
    (h : InStep P k (fun i i' => i' = shift k i) m m) :
    (inStep P k).Steps () m m ((inStep P k).Made () opcode) :=
  inStep_imp h fun _ _ hi => ⟨(inStep_spares _ _).toGrows, hi, fun h => h, fun h => h⟩

theorem inStep_lawful (P : Allowance) (k : Nat) : (inStep P k).Lawful where
  pure := inStep_pure
  bind h hf := inStep_bind h (hf ())
  maybe h := h.elim id id
  after h hf := inStep_bind h (hf ())
  before h hf := inStep_bind h (hf ())
  enter g h _ := inStep_imp (h () trivial) fun _ _ ho => ⟨inStep_spares _ _, ho, fun _ => ho⟩
  given_value _ _ _ := rfl
  given_name _ _ _ := rfl
  given_none _ _ := rfl
  given_hand _ h := congrArg (fun i => block (some i)) h
  given_cases {_ _ o _} h := by
    cases h
    rcases o with _ | _ | _ | _ <;> simp [rename]
  fits_text _ _ _ := ⟨_, rfl, rfl⟩
  fits_color _ _ _ _ h := ⟨_, rfl, _, rfl, h⟩
  fits_block h := congrArg Input.block (Option.some.inj (inStep_block.1 h))
  fits_reporter h := congrArg (fun b => Input.reporter b (.text "")) (inStep_block.1 h)
  fits_embedded _ n _ _ h := congrArg (fun i => Input.embedded (.variableName n i) (.text "")) h
  shown_refl _ := .inl rfl
  text {_ _ o _} h := by
    cases h
    exact inStep_imp (inStep_lift_text o) fun _ _ ht => ⟨inStep_spares _ _, ht⟩
  reporter _ _ := inStep_made (inStep_reporter _)
  statement _ _ := inStep_made (inStep_statement _)
  menu {_ _ _ _ id _ _ _} hid _ _ ht := by
    cases hid
    exact inStep_imp (inStep_menu _ _ (.shown ht) (some id)) fun _ _ hi =>
      ⟨inStep_spares _ _, congrArg Input.menu hi⟩
  plug {_ _ id _ o _} hid ho := by
    cases hid
    cases ho
    exact inStep_imp (inStep_plug o (some id)) fun _ _ hi => ⟨⟨inStep_spares _ _, fun h => h⟩, hi⟩
  setParent {_ _ id _ b _} hid hb := by
    cases hid
    cases hb
    exact inStep_imp (inStep_setParent b id) fun _ _ _ => inStep_spares _ _
  setInput {_ _ _ id _ _ _} hid hname hi := by
    cases hid
    exact inStep_imp (inStep_setInput id hname.2 hi) fun _ _ _ => ⟨rfl, (inStep_spares _ _).toGrows⟩
  setInputs {_ _ id _ _ _} hid h := by
    cases hid
    refine inStep_imp (inStep_setInputs id (h.imp fun p p' hp => ⟨?_, hp.2.2⟩)) fun _ _ _ =>
      ⟨rfl, fun h => h⟩
    rw [hp.1, shift_of_length_lt k hp.2.1.2]
  setField {_ _ name id _ _ o _} hid _ ho := by
    cases hid
    cases ho
    exact inStep_imp (inStep_setField id name ⟨.operand o, rfl⟩) fun _ _ _ => rfl
  setVariable {_ _ name id _ v _} hid hv := by
    cases hid
    cases hv
    exact inStep_imp (inStep_setField id "VARIABLE" (Field.renamed_rename (.named name v)))
      fun _ _ _ => trivial
  setList {_ _ name id _ l _} hid hl := by
    cases hid
    cases hl
    exact inStep_imp (inStep_setField id "LIST" (Field.renamed_rename (.named name l)))
      fun _ _ _ => rfl
  variableNamed _ name := inStep_imp (inStep_variableNamed name (.inl rfl)) fun _ _ h => ⟨inStep_spares _ _, h⟩
  listNamed _ name := inStep_imp (inStep_listNamed name) fun _ _ h => ⟨inStep_spares _ _, h⟩
  messageNamed _ name := inStep_imp (inStep_messageNamed name) fun _ _ h _ =>
    ⟨_, rfl, congrArg (Literal.messageName name) h⟩
  useSound _ name := inStep_imp (steady_useSound name) fun _ _ _ => inStep_spares _ _

end View

/-- To be in step is to do as one should, as far as two runs are concerned. -/
theorem Meaning.steady_iff {P : Allowance} {k : Nat} {m : Meaning} :
    m.Steady P k ↔ (View.inStep P k).Means m where
  mp h :=
    { operand := fun _ _ => h.operand
      condition := fun _ _ => inStep_imp h.condition fun _ _ => View.inStep_block.2
      effect := fun _ _ => inStep_imp h.effect fun _ _ _ => trivial }
  mpr h :=
    { operand := h.operand () trivial
      condition := inStep_imp (h.condition () trivial) fun _ _ => View.inStep_block.1
      effect := inStep_imp (h.effect () trivial) fun _ _ _ => rfl }

/-! ### Calls -/

namespace Build

variable {P : Allowance} {k : Nat} {args : List Meaning}

theorem inStep_mapM_operand (hargs : ∀ m ∈ args, m.Steady P k) :
    InStep P k (fun os os' => os' = os.map (rename (shift k)))
      (args.mapM fun m : Meaning => m.operand) (args.mapM fun m : Meaning => m.operand) := by
  induction args with
  | nil => exact inStep_pure rfl
  | cons m args ih =>
    rw [List.forall_mem_cons] at hargs
    rw [List.mapM_cons]
    refine inStep_bind hargs.1.operand ?_
    rintro o _ rfl
    refine inStep_bind (ih hargs.2) ?_
    rintro os _ rfl
    exact inStep_pure rfl

theorem inStep_callProcedure (p : Procedure) (os : List Operand) :
    InStep P k (fun i i' => i' = shift k i) (callProcedure p os)
      (callProcedure (p.rename (shift k)) (os.map (rename (shift k)))) := by
  refine inStep_bind (inStep_statement "procedures_call") ?_
  rintro i _ rfl
  have hplug := inStep_plugAll (P := P) (k := k) i (p.argumentIds.zip os)
  rw [show renamedOperands k (p.argumentIds.zip os) =
    (p.argumentIds.map (shift k)).zip (os.map (rename (shift k))) from
      List.zip_map.symm] at hplug
  refine inStep_bind hplug fun inputs inputs' hinputs => ?_
  refine inStep_then (inStep_setInputs i hinputs) ?_
  exact inStep_then (inStep_update i fun _ _ hb => { hb with mutation := rfl }) (inStep_pure rfl)

theorem inStep_argumentReporter (name : String) :
    InStep P k (fun i i' => i' = shift k i) (argumentReporter name) (argumentReporter name) := by
  refine inStep_put_fresh ?_
  exact
    { opcode := rfl
      next := rfl
      parent := rfl
      inputs := .nil
      fields := .cons ⟨rfl, Field.renamed_rename (.word name)⟩ .nil
      shadow := rfl
      topLevel := rfl
      position := rfl
      mutation := rfl }

theorem gives_call (name : String) (hargs : ∀ m ∈ args, m.Steady P k) : Gives P k (call name args) := by
  rw [call]
  cases hcommand : Command.ofName? name with
  | some c =>
    have hmakes := (View.inStep_lawful P k).perform_makes (v := ()) hcommand
      fun m hm => Meaning.steady_iff.1 (hargs m hm)
    exact inStep_imp hmakes fun _ _ => View.inStep_block.1
  | none =>
    refine inStep_bind inStep_get fun w w' hw => ?_
    rw [hw.procedures, Table.find?_rename_id, hw.arguments]
    cases w.procedures.find? name with
    | some p =>
      refine inStep_bind (inStep_mapM_operand hargs) ?_
      rintro os _ rfl
      exact inStep_bind (inStep_callProcedure p os) fun _ _ _ => inStep_pure rfl
    | none =>
      dsimp only [Option.map_none]
      split
      · refine inStep_bind (inStep_argumentReporter name) ?_
        rintro i _ rfl
        exact inStep_pure rfl
      · exact inStep_pure rfl

end Build

end BlockScript
