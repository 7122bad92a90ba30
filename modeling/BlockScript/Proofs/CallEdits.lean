import BlockScript.Proofs.ViewedCalls

/-!
# Commands perform edits

A command makes a block, evaluates its arguments, and completes the block; this is a sequence of
edits if the meanings of the arguments perform edits (`Command.perform_reports`). It is what one sees
of the compiler if one looks at the edits (`View.edits`): a block is at hand if nobody else knows it,
and an operand is given if it is a part that may be plugged in.
-/

namespace BlockScript

open Workspace Build List

/-! ### Meanings -/

namespace Build

/-- The step performs edits, to which all blocks are old. -/
def Acts (m : Build Unit) (L : Licence) : Prop :=
  ∀ w {held}, m.Performs L held w.blocks.keys w fun _ _ => True

/-- The step performs edits, to which all blocks are old, and gives a new part if any. -/
def Reports (m : Build (Option Id)) (L : Licence) : Prop :=
  ∀ w {held}, m.Performs L held w.blocks.keys w fun r w' =>
    (Operand.block r).Ready w'.scripts w.blocks.keys

theorem acts_pure {L : Licence} : (pure () : Build Unit).Acts L := fun _ => performs_pure trivial

theorem Acts.bind {m m' : Build Unit} {L : Licence} (h : m.Acts L) (h' : m'.Acts L) :
    (m >>= fun _ => m').Acts L :=
  fun w => (h w).next fun _ w₁ _ _ => (h' w₁).of_keys

end Build

/-- In each of its roles, the meaning performs edits and gives a new part. -/
structure Meaning.Performs (m : Meaning) (L : Licence) : Prop where
  operand : ∀ w {held}, m.operand.Performs L held w.blocks.keys w fun o w' =>
    o.Ready w'.scripts w.blocks.keys
  condition : m.condition.Reports L
  effect : m.effect.Acts L

namespace Build

variable {L : Licence} {held old : List Id} {w w' : Workspace} {id : Id} {args : List Meaning}
  {opcode : String}

theorem performs_mapM_operand (hargs : ∀ m ∈ args, m.Performs L) :
    (args.mapM fun m : Meaning => m.operand).Performs L held w.blocks.keys w fun os w' =>
      os.length = args.length ∧ ∀ o ∈ os, o.Ready w'.scripts w.blocks.keys := by
  induction args generalizing w with
  | nil => exact performs_pure ⟨rfl, fun o ho => by cases ho⟩
  | cons m args ih =>
    rw [mapM_cons]
    refine ((hargs m (.head _)).operand w).next fun o w₁ h₁ ho => ?_
    have hrest := @ih w₁ fun m hm => hargs m (.tail _ hm)
    refine hrest.next fun os w₂ h₂ hos => performs_pure ⟨?_, ?_⟩
    · rw [length_cons, length_cons, hos.1]
    · refine forall_mem_cons.2 ⟨ho.mono h₂.grows.scripts (.refl _), fun o ho => ?_⟩
      exact (hos.2 o ho).mono (Scripts.Extends.refl _) h₁.keys.subset

/-- A condition, if there is one, is plugged into a block at hand. -/
theorem performs_plugCondition {input : String} {c : Option Id} (h : w.Owns old opcode id)
    (hinput : input ∉ bodyInputs) (hc : (Operand.block c).Ready w.scripts (id :: old)) :
    (plugCondition id input c).Performs L held old w fun _ w' => w'.Owns old opcode id := by
  cases c with
  | none => exact performs_pure h
  | some r =>
    have hready : (Input.block r).Ready w.scripts (id :: old) := by
      refine ⟨hc.1, fun r' hr' => ?_⟩
      cases hr'
      exact hc.2
    refine performs_of_held fun hheld => ?_
    refine (performs_setInput h hinput hready).bind fun _ w₁ h₁ howns => ?_
    obtain ⟨hmem, hnew⟩ := howns.hangs hheld id rfl
    have hr := hc.not_mem (List.Subset.trans hheld (subset_cons_self _ _))
    exact ((performs_setParent hmem hnew hr).imp fun _ w₂ h₂ _ => howns.reaches h₂).of_keys

/-- To the step all blocks are old; what it makes good may depend on that. -/
theorem Performs.more {α : Type} {m : Build α} {good good' : α → Workspace → Prop}
    (hm : m.Performs L held w.blocks.keys w good)
    (h : old ⊆ w.blocks.keys → ∀ a w', Reaches L w.blocks.keys w w' → good a w' → good' a w') :
    m.Performs L held old w good' := by
  intro hw hold
  have hnext : (m >>= pure).Performs L held old w good' :=
    hm.next fun a w' h' ha => performs_pure (h hold a w' h' ha)
  rw [bind_pure] at hnext
  exact hnext hw hold

end Build

/-! ### What one sees of edits -/

/-- A workspace, with the blocks that are held and those that are old. -/
structure Scene where
  held : List Id
  old : List Id
  w : Workspace

namespace View

/-- **The steps perform edits.** -/
def edits (L : Licence) : View where
  Moment := Scene
  Start s := s.old = s.w.blocks.keys
  Steps s m _ Q := m.Performs L s.held s.old s.w fun a w' => ∃ a', Q { s with w := w' } a a'
  Makes _ s m _ Q := m.Performs L s.held s.old s.w fun a w' => ∃ a', Q { s with w := w' } a a'
  Hand s opcode id id' := id' = id ∧ s.w.Owns s.old opcode id
  Given s id o o' := o' = o ∧ o.Ready s.w.scripts (id.toList ++ s.old)
  Fits s id i i' := i' = i ∧ i.Ready s.w.scripts (id :: s.old)
  Declared s name v v' := v' = v ∧ (Literal.variableName name v).Resolves s.w.scripts
  Listed s name i i' := i' = i ∧ ∃ l ∈ s.w.lists, l.name = name ∧ l.id = i
  Shown t t' := t' = t

variable {L : Licence} {s : Scene} {old : List Id} {w' : Workspace} {opcode : String}

theorem grows_of_reaches (h : Reaches L old s.w w') : (edits L).Grows s { s with w := w' } where
  given ho := ⟨ho.1, ho.2.mono h.grows.scripts (.refl _)⟩
  fits hi := ⟨hi.1, hi.2.extend h.grows.scripts⟩
  declared hv := ⟨hv.1, hv.2.mono h.grows.scripts⟩

theorem spares_of_reaches (h : Reaches L s.w.blocks.keys s.w w') :
    (edits L).Spares s { s with w := w' } :=
  ⟨grows_of_reaches h, fun hid => ⟨hid.1, hid.2.reaches h⟩⟩

theorem keeps_of_prefix (h : s.w.lists <+: w'.lists) : (edits L).Keeps s { s with w := w' } := by
  rintro name i i' ⟨hi, l, hl, hname⟩
  exact ⟨hi, l, h.subset hl, hname⟩

theorem edits_made {m : Build Id}
    (hm : m.Performs .plain s.held s.w.blocks.keys s.w fun id w' => w'.Owns s.w.blocks.keys opcode id) :
    (edits L).Steps s m m ((edits L).Made s opcode) := by
  refine hm.keep_lists.more fun hold id w' h ⟨howns, hlists⟩ => ?_
  exact ⟨id, grows_of_reaches h, ⟨rfl, howns.mono hold⟩, keeps_of_prefix hlists,
    fun ho => ⟨ho.1, (ho.2.cons howns.new).mono h.grows.scripts (.refl _)⟩⟩

theorem edits_lawful (L : Licence) : (edits L).Lawful where
  pure h := performs_pure ⟨_, h⟩
  bind h hf := h.bind fun a w' _ ⟨a', ha⟩ => hf _ a a' ha
  maybe h := h.elim id id
  after h hf := h.bind fun a w' _ ⟨a', ha⟩ => hf _ a a' ha
  before h hf := h.bind fun a w' _ ⟨a', ha⟩ => hf _ a a' ha
  enter g h s := by
    refine (h ⟨s.held, s.w.blocks.keys, s.w⟩ rfl).more fun hold a w' hr ⟨a', heq, ha⟩ => ⟨a', ?_⟩
    exact ⟨spares_of_reaches hr, ⟨heq, ha.mono (.refl _) hold⟩,
      fun hid => ⟨heq, ha.mono (.refl _) (hid.2.cons_subset hold)⟩⟩
  given_value _ _ _ := ⟨rfl, trivial⟩
  given_name _ _ _ := ⟨rfl, trivial⟩
  given_none _ _ := ⟨rfl, trivial⟩
  given_hand hvalue h := ⟨by rw [h.1], h.2.ready hvalue⟩
  given_cases {_ _ o _} h := by
    cases h.1
    rcases o with _ | _ | _ | _ <;> simp
  fits_text _ _ _ := ⟨rfl, trivial, fun r hr => by cases hr⟩
  fits_color _ _ _ _ h := ⟨by rw [h], trivial, fun r hr => by cases hr⟩
  fits_block h := by
    cases h.1
    refine ⟨rfl, h.2.1, fun r hr => ?_⟩
    cases hr
    exact h.2.2
  fits_reporter h := by
    cases h.1
    exact ⟨rfl, h.2.reporter (.text "") trivial⟩
  fits_embedded _ _ _ _ h := ⟨by rw [h.1], ⟨h.2, trivial⟩, fun r hr => by cases hr⟩
  shown_refl _ := rfl
  text _ := by
    intro _ _ _ t w' hrun
    obtain ⟨-, rfl⟩ := run_lift_eq_ok hrun
    exact ⟨.refl _, t, .refl _, rfl⟩
  reporter s h := edits_made (performs_reporter h)
  statement s h := edits_made ((performs_statement h).imp fun _ _ _ h => h.1)
  menu hid hmenu hfield _ := performs_of_held fun hheld =>
    (performs_menu hmenu hfield (hid.2.hangs hheld)).more fun hold i w' hr hi =>
      ⟨i, spares_of_reaches hr, rfl,
        Input.ready_menu hi.1 fun hc => hi.2 (hid.2.cons_subset hold hc)⟩
  plug hid ho := by
    intro hw hold hheld
    refine ((performs_plug_into (L := .plain) ho.2 hid.2 hold hheld).keep_lists.more
      fun _ i w' hr hi => ?_) hw hold hheld
    exact ⟨i, ⟨spares_of_reaches hr, keeps_of_prefix hi.2⟩, rfl, hi.1⟩
  setParent {s _ id _ b _} hid hb := performs_of_held fun hheld => by
    obtain ⟨hmem, hnew⟩ := hid.2.hangs hheld id rfl
    have hb' := hb.2.not_mem (List.Subset.trans hheld (subset_cons_self _ _))
    exact (performs_setParent hmem hnew hb').more fun _ _ w' hr _ => ⟨(), spares_of_reaches hr⟩
  setInput hid hname hi := (performs_setInput hid.2 hname.1 hi.2).imp fun _ w' hr h =>
    ⟨(), ⟨hid.1, h⟩, grows_of_reaches hr⟩
  setInputs {s _ id _ inputs _} hid h := by
    have hready : ∀ p ∈ inputs, p.1 ∉ bodyInputs ∧ p.2.Ready s.w.scripts (id :: s.old) :=
      ((forall₂_and_left _ _).1 (h.imp fun _ _ hp => ⟨⟨hp.2.1.1, hp.2.2.2⟩, hp⟩)).1
    exact (performs_setInputs (L := .plain) hid.2 hready).keep_lists.imp fun _ w' _ h =>
      ⟨(), ⟨hid.1, h.1⟩, keeps_of_prefix h.2⟩
  setField hid hname _ := (performs_setPlainField hid.2 hname).imp fun _ _ _ h => ⟨(), hid.1, h⟩
  setVariable hid hv := (performs_setField hid.2 (declared_field hv.2)).imp fun _ _ _ _ => ⟨(), trivial⟩
  setList hid hlist := by
    obtain ⟨-, l, hl, rfl, rfl⟩ := hlist
    refine (performs_setField hid.2 ⟨⟨fun hc => absurd hc (by decide), fun hc => absurd hc (by decide)⟩,
      fun _ => ⟨l, hl, rfl⟩⟩).imp fun _ _ _ h => ⟨(), hid.1, h⟩
  variableNamed s name := performs_variableNamed.more fun _ i _ hr hv =>
    ⟨i, spares_of_reaches hr, rfl, hv.1⟩
  listNamed s name := performs_listNamed.more fun _ i _ hr hl => ⟨i, spares_of_reaches hr, rfl, hl⟩
  messageNamed s name := performs_messageNamed.imp fun i _ _ h =>
    ⟨i, fun _ => ⟨rfl, h, fun r hr => by cases hr⟩⟩
  useSound s name := performs_useSound.more fun _ _ _ hr _ => ⟨(), spares_of_reaches hr⟩

end View

/-- To perform edits is to do as one should, as far as edits are concerned. -/
theorem Meaning.performs_iff {m : Meaning} {L : Licence} : m.Performs L ↔ (View.edits L).Means m where
  mp h :=
    { operand := fun ⟨_, _, w⟩ hs => by
        obtain rfl : _ = w.blocks.keys := hs
        exact (h.operand w).imp fun o _ _ ho => ⟨o, rfl, ho⟩
      condition := fun ⟨_, _, w⟩ hs => by
        obtain rfl : _ = w.blocks.keys := hs
        exact (h.condition w).imp fun r _ _ hr => ⟨r, rfl, hr⟩
      effect := fun ⟨_, _, w⟩ hs => by
        obtain rfl : _ = w.blocks.keys := hs
        exact (h.effect w).imp fun _ _ _ _ => ⟨(), trivial⟩ }
  mpr h :=
    { operand := fun w held => (h.operand ⟨held, w.blocks.keys, w⟩ rfl).imp fun _ _ _ ⟨_, ho⟩ => ho.2
      condition := fun w held =>
        (h.condition ⟨held, w.blocks.keys, w⟩ rfl).imp fun _ _ _ ⟨_, hr⟩ => hr.2
      effect := fun w held =>
        (h.effect ⟨held, w.blocks.keys, w⟩ rfl).imp fun _ _ _ _ => trivial }

/-- **A command performs edits.** -/
theorem Command.perform_reports {L : Licence} {name : String} {c : Command} {args : List Meaning}
    (hc : ofName? name = some c) (hargs : ∀ m ∈ args, m.Performs L) : (c.perform args).Reports L := by
  intro w held
  have hmakes := (View.edits_lawful L).perform_makes (v := ⟨held, w.blocks.keys, w⟩) hc
    fun m hm => Meaning.performs_iff.1 (hargs m hm)
  exact Performs.imp hmakes fun _ _ _ ⟨_, h⟩ => h.2

end BlockScript
