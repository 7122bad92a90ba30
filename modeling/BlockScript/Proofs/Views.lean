import BlockScript.Proofs.Performing

/-!
# Views of the compiler

What is proved about the steps of the compiler differs: that they are edits, that two runs are in
step, that statements are made only where they belong. The way through commands and expressions is
the same each time. A block is made, arguments are evaluated, and the block is completed; what has to
be known on the way is that the block is still at hand, and that the operands can be plugged into it.

A `View` is what such a proof is about, and `View.Lawful` is what it has to know about the steps from
which commands are made. From these laws the rest follows once and for all, for every command
(`View.Lawful.perform_steps`, `View.Lawful.perform_makes`) and for every expression
(`View.Lawful.meaning_means`). A view looks at two runs at once; one that is about a single run does
not look at the second.
-/

namespace BlockScript

open Build

/-- The name of an input that is neither a body nor an identifier. -/
def IsInput (name : String) : Prop := name ∉ bodyInputs ∧ name.length < 20

instance (name : String) : Decidable (IsInput name) :=
  inferInstanceAs (Decidable (name ∉ bodyInputs ∧ name.length < 20))

/-- **What can be said about steps of two runs**, and about what they give. -/
structure View where
  /-- What is known of the runs so far. -/
  Moment : Type
  /-- The moment is the beginning of an expression. -/
  Start : Moment → Prop
  /-- The steps do from a moment on as they should, and what holds of their results is as promised. -/
  Steps : {α : Type} → Moment → Build α → Build α → (Moment → α → α → Prop) → Prop
  /-- The same for steps that may make a statement of their own, or do so for sure. -/
  Makes : {α : Type} → Bool → Moment → Build α → Build α → (Moment → α → α → Prop) → Prop
  /-- The blocks, which have the given opcode, are not known to anyone else. -/
  Hand : Moment → String → Id → Id → Prop
  /-- The operands correspond, and are not the block at hand, if there is one. -/
  Given : Moment → Option Id → Operand → Operand → Prop
  /-- The inputs correspond, and can be inputs of the block at hand. -/
  Fits : Moment → Id → Input → Input → Prop
  /-- The variable of a name. -/
  Declared : Moment → String → Id → Id → Prop
  /-- The list of a name. -/
  Listed : Moment → String → Id → Id → Prop
  /-- The texts show operands that correspond. -/
  Shown : String → String → Prop

namespace View

section Results

variable (V : View)

/-- Operands and inputs that could be plugged in still can. -/
structure Grows (v v' : V.Moment) : Prop where
  given : ∀ {h o o'}, V.Given v h o o' → V.Given v' h o o'
  fits : ∀ {id i i'}, V.Fits v id i i' → V.Fits v' id i i'
  declared : ∀ {name i i'}, V.Declared v name i i' → V.Declared v' name i i'

/-- Blocks at hand are still at hand, too. -/
structure Spares (v v' : V.Moment) : Prop extends V.Grows v v' where
  hand : ∀ {opcode id id'}, V.Hand v opcode id id' → V.Hand v' opcode id id'

/-- Lists stay in use. -/
def Keeps (v v' : V.Moment) : Prop := ∀ {name i i'}, V.Listed v name i i' → V.Listed v' name i i'

/-- Blocks with the given opcode were made. -/
structure Made (v : V.Moment) (opcode : String) (v' : V.Moment) (id id' : Id) : Prop
    extends V.Grows v v' where
  hand : V.Hand v' opcode id id'
  keeps : V.Keeps v v'
  apart : ∀ {o o'}, V.Given v none o o' → V.Given v' (some id) o o'

/-- The operands correspond, and are none of the blocks that were at hand before. -/
structure Taken (v v' : V.Moment) (o o' : Operand) : Prop extends V.Spares v v' where
  ready : V.Given v' none o o'
  apart : ∀ {opcode id id'}, V.Hand v opcode id id' → V.Given v' (some id) o o'

/-- The inputs can be those of the block at hand. -/
def Filled (v : V.Moment) (id : Id) : Table Input → Table Input → Prop :=
  List.Forall₂ fun p p' => p'.1 = p.1 ∧ IsInput p.1 ∧ V.Fits v id p.2 p'.2

/-- The operands can be plugged into the block at hand. -/
def Ready (v : V.Moment) (id : Id) : List (String × Operand) → List (String × Operand) → Prop :=
  List.Forall₂ fun p p' => p'.1 = p.1 ∧ IsInput p.1 ∧ V.Given v (some id) p.2 p'.2

/-- The blocks that a call gives correspond. -/
def Answer (v : V.Moment) (r r' : Option Id) : Prop := V.Given v none (.block r) (.block r')

/-- The meaning does as it should in each of its roles. -/
structure Means (m : Meaning) : Prop where
  operand : ∀ u, V.Start u → V.Steps u m.operand m.operand fun u' o o' => V.Given u' none o o'
  condition : ∀ u, V.Start u → V.Steps u m.condition m.condition V.Answer
  effect : ∀ u, V.Start u → V.Steps u m.effect m.effect fun _ _ _ => True

end Results

/-- **What has to be known of the steps from which commands are made.** -/
structure Lawful (V : View) : Prop where
  pure {α : Type} {v} {a a' : α} {Q} : Q v a a' → V.Steps v (pure a) (pure a') Q
  bind {α β : Type} {v} {m m' : Build α} {f f' : α → Build β} {Q R} : V.Steps v m m' Q →
    (∀ v' a a', Q v' a a' → V.Steps v' (f a) (f' a') R) → V.Steps v (m >>= f) (m' >>= f') R
  maybe {α : Type} {v} {m m' : Build α} {Q} :
    V.Steps v m m' Q ∨ V.Makes true v m m' Q → V.Makes false v m m' Q
  after {α β : Type} {sure v} {m m' : Build α} {f f' : α → Build β} {Q R} : V.Steps v m m' Q →
    (∀ v' a a', Q v' a a' → V.Makes sure v' (f a) (f' a') R) →
      V.Makes sure v (m >>= f) (m' >>= f') R
  before {α β : Type} {sure v} {m m' : Build α} {f f' : α → Build β} {Q R} :
    V.Makes sure v m m' Q → (∀ v' a a', Q v' a a' → V.Steps v' (f a) (f' a') R) →
      V.Makes sure v (m >>= f) (m' >>= f') R
  /-- What can be begun can be done in between, too. -/
  enter {α : Type} {m : Build α} (g : α → Operand) :
    (∀ u, V.Start u → V.Steps u m m fun u' a a' => V.Given u' none (g a) (g a')) →
      ∀ v, V.Steps v m m fun v' a a' => V.Taken v v' (g a) (g a')
  given_value (v h x) : V.Given v h (.value x) (.value x)
  given_name (v h n) : V.Given v h (.name n) (.name n)
  given_none (v h) : V.Given v h (.block none) (.block none)
  given_hand {v opcode id id'} : isValue opcode → V.Hand v opcode id id' →
    V.Given v none (.block (some id)) (.block (some id'))
  given_cases {v h o o'} : V.Given v h o o' →
    (∃ x, o = .value x ∧ o' = .value x) ∨ (∃ n, o = .name n ∧ o' = .name n) ∨
      (o = .block none ∧ o' = .block none) ∨ ∃ i i', o = .block (some i) ∧ o' = .block (some i')
  fits_text (v id t) : V.Fits v id (.literal (.text t)) (.literal (.text t))
  fits_color (v id) {t t'} : V.Shown t t' → V.Fits v id (.literal (.color t)) (.literal (.color t'))
  fits_block {v id c c'} : V.Given v (some id) (.block (some c)) (.block (some c')) →
    V.Fits v id (.block c) (.block c')
  fits_reporter {v id b b'} : V.Given v (some id) (.block b) (.block b') →
    V.Fits v id (.reporter b (.text "")) (.reporter b' (.text ""))
  fits_embedded {v} (id) {n i i'} : V.Declared v n i i' →
    V.Fits v id (.embedded (.variableName n i) (.text "")) (.embedded (.variableName n i') (.text ""))
  shown_refl (t) : V.Shown t t
  text {v h o o'} : V.Given v h o o' →
    V.Steps v (lift o.text) (lift o'.text) fun v' t t' => V.Spares v v' ∧ V.Shown t t'
  reporter {opcode} (v) : isValue opcode →
    V.Steps v (Build.reporter opcode) (Build.reporter opcode) (V.Made v opcode)
  statement {opcode} (v) : isAction opcode →
    V.Makes true v (Build.statement opcode) (Build.statement opcode) (V.Made v opcode)
  menu {v opcode menu field id id' t t'} : V.Hand v opcode id id' → menu ∉ procedureOpcodes →
    field ∉ namingFields → V.Shown t t' →
      V.Steps v (Build.menu menu field (.str t) (some id)) (Build.menu menu field (.str t') (some id'))
        fun v' i i' => V.Spares v v' ∧ V.Fits v' id (.menu i) (.menu i')
  plug {v opcode id id' o o'} : V.Hand v opcode id id' → V.Given v (some id) o o' →
    V.Steps v (Build.plug o (some id)) (Build.plug o' (some id'))
      fun v' i i' => (V.Spares v v' ∧ V.Keeps v v') ∧ V.Fits v' id i i'
  setParent {v opcode id id' b b'} :
    V.Hand v opcode id id' → V.Given v (some id) (.block b) (.block b') →
      V.Steps v (Build.setParent b id) (Build.setParent b' id') fun v' _ _ => V.Spares v v'
  setInput {v opcode name id id' i i'} : V.Hand v opcode id id' → IsInput name → V.Fits v id i i' →
    V.Steps v (Build.setInput id name i) (Build.setInput id' name i')
      fun v' _ _ => V.Hand v' opcode id id' ∧ V.Grows v v'
  setInputs {v opcode id id' inputs inputs'} :
    V.Hand v opcode id id' → V.Filled v id inputs inputs' →
      V.Steps v (Build.setInputs id inputs) (Build.setInputs id' inputs')
        fun v' _ _ => V.Hand v' opcode id id' ∧ V.Keeps v v'
  setField {v opcode name id id' h o o'} :
    V.Hand v opcode id id' → name ∉ namingFields → V.Given v h o o' →
      V.Steps v (Build.setField id name { value := o.toValue })
        (Build.setField id' name { value := o'.toValue }) fun v' _ _ => V.Hand v' opcode id id'
  setVariable {v opcode name id id' i i'} : V.Hand v opcode id id' → V.Declared v name i i' →
    V.Steps v (Build.setField id "VARIABLE" (.named name i))
      (Build.setField id' "VARIABLE" (.named name i')) fun _ _ _ => True
  setList {v opcode name id id' i i'} : V.Hand v opcode id id' → V.Listed v name i i' →
    V.Steps v (Build.setField id "LIST" (.named name i)) (Build.setField id' "LIST" (.named name i'))
      fun v' _ _ => V.Hand v' opcode id id'
  variableNamed (v name) :
    V.Steps v (Build.variableNamed name (.int 0)) (Build.variableNamed name (.int 0))
      fun v' i i' => V.Spares v v' ∧ V.Declared v' name i i'
  listNamed (v name) : V.Steps v (Build.listNamed name (.list [])) (Build.listNamed name (.list []))
    fun v' i i' => V.Spares v v' ∧ V.Listed v' name i i'
  messageNamed (v name) : V.Steps v (Build.messageNamed name) (Build.messageNamed name)
    fun v' i i' => ∀ id,
      V.Fits v' id (.literal (.messageName name i)) (.literal (.messageName name i'))
  useSound (v name) :
    V.Steps v (Build.useSound name) (Build.useSound name) fun v' _ _ => V.Spares v v'

variable {V : View} {v v₁ v₂ : V.Moment} {opcode input : String} {id id' : Id} {args : List Meaning}

/-! ### How what is known goes on -/

theorem Spares.refl (v : V.Moment) : V.Spares v v := ⟨⟨fun h => h, fun h => h, fun h => h⟩, fun h => h⟩

theorem Grows.trans (h : V.Grows v v₁) (h' : V.Grows v₁ v₂) : V.Grows v v₂ :=
  ⟨fun hx => h'.given (h.given hx), fun hx => h'.fits (h.fits hx), fun hx => h'.declared (h.declared hx)⟩

theorem Spares.trans (h : V.Spares v v₁) (h' : V.Spares v₁ v₂) : V.Spares v v₂ :=
  ⟨h.toGrows.trans h'.toGrows, fun hx => h'.hand (h.hand hx)⟩

theorem Taken.later {o o' : Operand} (h : V.Taken v v₁ o o') (h' : V.Spares v₁ v₂) :
    V.Taken v v₂ o o' :=
  ⟨h.toSpares.trans h', h'.given h.ready, fun hx => h'.given (h.apart hx)⟩

theorem Taken.earlier {o o' : Operand} (h : V.Spares v v₁) (h' : V.Taken v₁ v₂ o o') :
    V.Taken v v₂ o o' :=
  ⟨h.trans h'.toSpares, h'.ready, fun hx => h'.apart (h.hand hx)⟩

theorem Ready.grows {os os' : List (String × Operand)} (h : V.Ready v id os os')
    (h' : V.Grows v v₁) : V.Ready v₁ id os os' :=
  h.imp fun _ _ hp => ⟨hp.1, hp.2.1, h'.given hp.2.2⟩

namespace Lawful

variable (hV : V.Lawful)

include hV

theorem imp {α : Type} {m m' : Build α} {Q R : V.Moment → α → α → Prop} (h : V.Steps v m m' Q)
    (hQ : ∀ v' a a', Q v' a a' → R v' a a') : V.Steps v m m' R := by
  have hbind := hV.bind h fun v' a a' ha => hV.pure (hQ v' a a' ha)
  rwa [bind_pure, bind_pure] at hbind

theorem string?_eq {h : Option Id} {o o' : Operand} (ho : V.Given v h o o') :
    o'.string? = o.string? := by
  rcases hV.given_cases ho with ⟨x, rfl, rfl⟩ | ⟨n, rfl, rfl⟩ | ⟨rfl, rfl⟩ | ⟨i, i', rfl, rfl⟩ <;> rfl

variable {m : Meaning} {os os' : List (String × Operand)}

theorem operand (hm : V.Means m) (v : V.Moment) :
    V.Steps v m.operand m.operand fun v' o o' => V.Taken v v' o o' := hV.enter _ hm.operand v

theorem condition (hm : V.Means m) (v : V.Moment) :
    V.Steps v m.condition m.condition fun v' c c' => V.Taken v v' (.block c) (.block c') :=
  hV.enter _ hm.condition v

/-! ### Arguments -/

theorem mapM_operand (hargs : ∀ m ∈ args, V.Means m) (v : V.Moment) :
    V.Steps v (args.mapM fun m : Meaning => m.operand) (args.mapM fun m : Meaning => m.operand)
      fun v' os os' => V.Spares v v' ∧ List.Forall₂ (V.Taken v v') os os' := by
  induction args generalizing v with
  | nil => exact hV.pure ⟨.refl v, .nil⟩
  | cons m args ih =>
    rw [List.forall_mem_cons] at hargs
    rw [List.mapM_cons]
    refine hV.bind (hV.operand hargs.1 v) fun v₁ o o' ho => ?_
    refine hV.bind (ih hargs.2 v₁) fun v₂ os os' ⟨h₂, hos⟩ => hV.pure ⟨ho.toSpares.trans h₂, ?_⟩
    exact .cons (ho.later h₂) (hos.imp fun _ _ h => .earlier ho.toSpares h)

theorem plugAll (hid : V.Hand v opcode id id') (hos : V.Ready v id os os') :
    V.Steps v (Build.plugAll id os) (Build.plugAll id' os') fun v' inputs inputs' =>
      (V.Spares v v' ∧ V.Keeps v v') ∧ V.Filled v' id inputs inputs' := by
  induction os generalizing v os' with
  | nil =>
    cases hos
    exact hV.pure ⟨⟨.refl v, fun h => h⟩, .nil⟩
  | cons p os ih =>
    obtain ⟨name, o⟩ := p
    rcases hos with _ | @⟨_, p', _, os', ⟨hname, hinput, ho⟩, hos⟩
    obtain ⟨name', o'⟩ := p'
    refine hV.bind (hV.plug hid ho) fun v₁ i i' ⟨⟨h₁, hlists₁⟩, hi⟩ => ?_
    refine hV.bind (ih (h₁.hand hid) (Ready.grows hos h₁.toGrows))
      fun v₂ inputs inputs' ⟨⟨h₂, hlists₂⟩, hinputs⟩ => hV.pure ⟨⟨h₁.trans h₂, ?_⟩, ?_⟩
    · exact fun h => hlists₂ (hlists₁ h)
    · exact .cons ⟨hname, hinput, h₂.fits hi⟩ hinputs

/-- Operands are plugged into a block at hand. -/
theorem fill {β : Type} {c c' : Build β} {Q : V.Moment → β → β → Prop}
    (hid : V.Hand v opcode id id') (hos : V.Ready v id os os')
    (hc : ∀ v', V.Hand v' opcode id id' → V.Keeps v v' → V.Steps v' c c' Q) :
    V.Steps v (do let inputs ← Build.plugAll id os; Build.setInputs id inputs; c)
      (do let inputs ← Build.plugAll id' os'; Build.setInputs id' inputs; c') Q := by
  refine hV.bind (hV.plugAll hid hos) fun v₁ inputs inputs' ⟨⟨h₁, hlists₁⟩, hinputs⟩ => ?_
  refine hV.bind (hV.setInputs (h₁.hand hid) hinputs) fun v₂ _ _ ⟨hid, hlists₂⟩ => ?_
  exact hc v₂ hid fun h => hlists₂ (hlists₁ h)

theorem plugInTurn {names : List String} (hid : V.Hand v opcode id id')
    (hnames : ∀ n ∈ names, IsInput n) (hargs : ∀ m ∈ args, V.Means m) :
    V.Steps v (Build.plugInTurn id names args) (Build.plugInTurn id' names args)
      fun v' inputs inputs' => V.Spares v v' ∧ V.Filled v' id inputs inputs' := by
  induction names generalizing v args with
  | nil => exact hV.pure ⟨.refl v, .nil⟩
  | cons name names ih =>
    cases args with
    | nil => exact hV.pure ⟨.refl v, .nil⟩
    | cons m args =>
      rw [List.forall_mem_cons] at hnames hargs
      refine hV.bind (hV.operand hargs.1 v) fun v₁ o o' ho => ?_
      refine hV.bind (hV.plug (ho.hand hid) (ho.apart hid)) fun v₂ i i' ⟨⟨h₂, _⟩, hi⟩ => ?_
      refine hV.bind (ih (h₂.hand (ho.hand hid)) hnames.2 hargs.2)
        fun v₃ inputs inputs' ⟨h₃, hinputs⟩ => hV.pure ⟨ho.toSpares.trans (h₂.trans h₃), ?_⟩
      exact .cons ⟨rfl, hnames.1, h₃.fits hi⟩ hinputs

/-- An argument is evaluated and plugged into a block at hand. -/
theorem argument {β : Type} {f f' : Input → Build β} {Q : V.Moment → β → β → Prop}
    (hm : V.Means m) (hid : V.Hand v opcode id id')
    (hf : ∀ v' i i', V.Spares v v' → V.Fits v' id i i' → V.Steps v' (f i) (f' i') Q) :
    V.Steps v (do let o ← m.operand; let i ← Build.plug o (some id); f i)
      (do let o ← m.operand; let i ← Build.plug o (some id'); f' i) Q := by
  refine hV.bind (hV.operand hm v) fun v₁ o o' ho => ?_
  refine hV.bind (hV.plug (ho.hand hid) (ho.apart hid)) fun v₂ i i' ⟨⟨h₂, _⟩, hi⟩ => ?_
  exact hf v₂ i i' (ho.toSpares.trans h₂) hi

theorem plugCondition {c c' : Option Id} (hid : V.Hand v opcode id id') (hinput : IsInput input)
    (hc : V.Given v (some id) (.block c) (.block c')) :
    V.Steps v (Build.plugCondition id input c) (Build.plugCondition id' input c')
      fun v' _ _ => V.Hand v' opcode id id' ∧ V.Grows v v' := by
  rcases hV.given_cases hc with ⟨_, h, _⟩ | ⟨_, h, _⟩ | ⟨h, h'⟩ | ⟨i, i', h, h'⟩
  · cases h
  · cases h
  · cases h
    cases h'
    exact hV.pure ⟨hid, (Spares.refl v).toGrows⟩
  · cases h
    cases h'
    refine hV.bind (hV.setInput hid hinput (hV.fits_block hc)) fun v₁ _ _ ⟨hid₁, h₁⟩ => ?_
    refine hV.imp (hV.setParent hid₁ (h₁.given hc)) fun v₂ _ _ h₂ => ?_
    exact ⟨h₂.hand hid₁, h₁.trans h₂.toGrows⟩

theorem setWord {name : String} (hid : V.Hand v opcode id id') (hname : name ∉ namingFields)
    (s : String) :
    V.Steps v (Build.setField id name (.word s)) (Build.setField id' name (.word s))
      fun v' _ _ => V.Hand v' opcode id id' :=
  hV.setField hid hname (hV.given_value v none (.str s))

theorem setChoice {choice : Option (String × String)} (hid : V.Hand v opcode id id')
    (h : choice.all (·.1 ∉ namingFields)) :
    V.Steps v (Build.setChoice id choice) (Build.setChoice id' choice)
      fun v' _ _ => V.Hand v' opcode id id' := by
  cases choice with
  | none => exact hV.pure hid
  | some p => exact hV.setWord hid (by simpa using h) p.2

theorem plugMenu {menu t t' : String} (hid : V.Hand v opcode id id') (hinput : IsInput input)
    (hfield : input ∉ namingFields) (hmenu : menu ∉ procedureOpcodes) (ht : V.Shown t t') :
    V.Steps v (Build.plugMenu id input menu t) (Build.plugMenu id' input menu t')
      fun v' _ _ => V.Hand v' opcode id id' := by
  refine hV.bind (hV.menu hid hmenu hfield ht) fun v₁ i i' ⟨h₁, hi⟩ => ?_
  exact hV.imp (hV.setInput (h₁.hand hid) hinput hi) fun _ _ _ h => h.1

theorem setColors (hid : V.Hand v opcode id id') (hos : V.Ready v id os os') :
    V.Steps v (Build.setColors id os) (Build.setColors id' os') fun v' _ _ => V.Hand v' opcode id id' := by
  induction os generalizing v os' with
  | nil =>
    cases hos
    exact hV.pure hid
  | cons p os ih =>
    obtain ⟨name, o⟩ := p
    rcases hos with _ | @⟨_, p', _, os', ⟨hname, hinput, ho⟩, hos⟩
    obtain ⟨name', o'⟩ := p'
    cases hname
    refine hV.bind (hV.text ho) fun v₁ t t' ⟨h₁, ht⟩ => ?_
    refine hV.bind (hV.setInput (h₁.hand hid) hinput (hV.fits_color v₁ id ht)) fun v₂ _ _ ⟨hid, h₂⟩ => ?_
    exact ih hid (Ready.grows hos (h₁.toGrows.trans h₂))

end Lawful

end View

end BlockScript
