import BlockScript.Proofs.Views

/-!
# Commands and expressions in a view

Every command of the vocabulary does as it should in every view (`View.Lawful.perform_steps` and
`View.Lawful.perform_makes`), and so does every expression (`View.Lawful.meaning_means`) if the calls
in it do. The blocks that a command makes have the opcodes and names that the vocabulary gives it.
That these are the right ones, statements for statements and values for values, is checked for the
whole vocabulary at once (`Command.isProper_of_ofName?`).
-/

namespace BlockScript

open Build Bool List Meaning Operand Program

/-! ### The vocabulary -/

namespace Command

/-- Whether the opcodes and names of a command suit its kind. -/
def isProper : Command → Bool
  | reporter opcode choice => isValue opcode && choice.all (·.1 ∉ namingFields)
  | action opcode inputs => isAction opcode && inputs.all (· ∉ bodyInputs)
  | adjustment opcode field input =>
    isAction opcode && field ∉ namingFields && input ∉ bodyInputs
  | target opcode input menu _ =>
    isAction opcode && input ∉ bodyInputs && input ∉ namingFields && menu ∉ procedureOpcodes
  | glide opcode time input menu =>
    isAction opcode && time ∉ bodyInputs && input ∉ bodyInputs && input ∉ namingFields &&
      menu ∉ procedureOpcodes
  | option opcode field => isAction opcode && field ∉ namingFields
  | broadcast opcode => isAction opcode
  | sensor opcode input menu _ _ =>
    isValue opcode && input ∉ bodyInputs && input ∉ namingFields && menu ∉ procedureOpcodes
  | colors opcode inputs => isValue opcode && inputs.all (· ∉ bodyInputs)
  | operation opcode choice inputs =>
    isValue opcode && choice.all (·.1 ∉ namingFields) && inputs.all (· ∉ bodyInputs)
  | list opcode isReporter _ _ inputs =>
    (if isReporter then isValue opcode else isAction opcode) && inputs.all (·.1 ∉ bodyInputs)
  | variableNamed opcode => isAction opcode
  | random => true
  | propertyOf => true
  | waitUntil => true

/-- **Every command of the vocabulary is proper.** -/
theorem isProper_of_ofName? {name : String} {c : Command} (h : ofName? name = some c) :
    c.isProper := by
  have hall : all.all (·.2.isProper) := by decide +kernel
  exact all_eq_true.1 hall _ (Table.mem_of_find? h)

/-- The inputs that a command names. -/
def inputNames : Command → List String
  | action _ inputs => inputs
  | adjustment _ _ input => [input]
  | target _ input _ _ => [input]
  | glide _ time input _ => [time, input]
  | sensor _ input _ _ _ => [input]
  | colors _ inputs => inputs
  | operation _ _ inputs => inputs
  | list _ _ _ _ inputs => inputs.map Prod.fst
  | _ => []

theorem isInput_of_ofName? {name : String} {c : Command} (h : ofName? name = some c) :
    ∀ n ∈ c.inputNames, IsInput n := by
  have hall : ∀ p ∈ all, ∀ n ∈ p.2.inputNames, IsInput n := by decide +kernel
  exact hall _ (Table.mem_of_find? h)

/-- The commands with a value. -/
def hasValue : Command → Bool
  | reporter _ _ | sensor _ _ _ _ _ | colors _ _ | random | operation _ _ _ | propertyOf => true
  | list _ isReporter _ _ _ => isReporter
  | _ => false

/-- The commands that make a statement whatever their arguments are. -/
def isSure : Command → Bool
  | action _ _ | adjustment _ _ _ | target _ _ _ _ | glide _ _ _ _ | option _ _ | waitUntil => true
  | _ => false

end Command

/-! ### The opcodes of operators -/

namespace Program

theorem BinaryOp.isValue_of_opcode? (op : BinaryOp) {opcode : String}
    (h : op.opcode? = some opcode) : isValue opcode := by
  cases op with
  | add | sub | mul | div | mod | floorDiv =>
    cases h
    decide
  | matMul | pow | shiftLeft | shiftRight | bitOr | bitXor | bitAnd => cases h

theorem CompareOp.isValue_of_opcode? (op : CompareOp) {q : String × Bool}
    (h : op.opcode? = some q) : isValue q.1 := by
  cases op with
  | eq | notEq | lt | le | gt | ge =>
    cases h
    decide
  | is | isNot | inside | notInside => cases h

theorem BoolOp.isValue_opcode (op : BoolOp) : isValue op.opcode := by cases op <;> decide

end Program

namespace Program

mutual

/-- The calls by name in an expression, each with the number of its positional arguments. -/
def Expr.calls : Expr → List (String × Nat)
  | .const _ => []
  | .name _ => []
  | .unary _ e => e.calls
  | .binary _ left right => left.calls ++ right.calls
  | .bool _ operands => callsIn operands
  | .compare left _ right _ => left.calls ++ right.calls
  | .call function args _ =>
    (function.functionName?.map fun name => (name, args.length)).toList ++ callsIn args
  | .attribute owner _ => owner.calls
  | .subscript owner index => owner.calls ++ index.calls
  | .starred e => e.calls
  | .list items => callsIn items
  | .tuple items => callsIn items
  | .other parts => callsIn parts

def callsIn : List Expr → List (String × Nat)
  | [] => []
  | e :: rest => e.calls ++ callsIn rest

end

theorem length_meanings (es : List Expr) : (meanings es).length = es.length := by
  induction es with
  | nil => rfl
  | cons e es ih => rw [meanings, length_cons, length_cons, ih]

end Program

namespace View

theorem rel_getElem? {α : Type} {R : α → α → Prop} {l l' : List α} (h : Forall₂ R l l') (n : Nat) :
    Option.Rel R l[n]? l'[n]? := by
  induction h generalizing n with
  | nil => exact .none
  | cons hx _ ih =>
    cases n with
    | zero => exact .some hx
    | succ n => exact ih n

/-- Operands for inputs that a command names. -/
theorem Taken.ready_zip {V : View} {v v₁ : V.Moment} {opcode : String} {id id' : Id}
    {names : List String} {os os' : List Operand} (hid : V.Hand v opcode id id')
    (hnames : ∀ n ∈ names, IsInput n) (hos : Forall₂ (V.Taken v v₁) os os') :
    V.Ready v₁ id (names.zip os) (names.zip os') := by
  induction names generalizing os os' with
  | nil => exact .nil
  | cons name names ih =>
    rw [forall_mem_cons] at hnames
    cases hos with
    | nil => exact .nil
    | cons ho hos => exact .cons ⟨rfl, hnames.1, ho.apart hid⟩ (ih hnames.2 hos)

namespace Lawful

open Command

variable {V : View} (hV : V.Lawful) {v : V.Moment} {opcode : String} {id id' : Id}
  {args : List Meaning}

include hV

/-! ### Commands -/

theorem answer (hvalue : isValue opcode) (hid : V.Hand v opcode id id') :
    V.Steps v (Pure.pure (some id)) (Pure.pure (some id')) V.Answer :=
  hV.pure (hV.given_hand hvalue hid)

theorem silence : V.Steps v (Pure.pure (none : Option Id)) (Pure.pure none) V.Answer :=
  hV.pure (hV.given_none v none)

/-- What is done depends on whether an argument is a constant text. -/
theorem text? {β : Type} {Q : V.Moment → β → β → Prop} {m : Meaning} (hm : V.Means m)
    {f f' : String → Build β} {g g' : Build β}
    (hf : ∀ v' s, V.Spares v v' → V.Steps v' (f s) (f' s) Q)
    (hg : ∀ v', V.Spares v v' → V.Steps v' g g' Q) :
    V.Steps v
      (do
        match (← m.operand).string? with
        | some s => f s
        | none => g)
      (do
        match (← m.operand).string? with
        | some s => f' s
        | none => g') Q := by
  refine hV.bind (hV.operand hm v) fun v₁ o o' ho => ?_
  rw [hV.string?_eq ho.ready]
  cases o.string? with
  | some s => exact hf v₁ s ho.toSpares
  | none => exact hg v₁ ho.toSpares

theorem performRandom (hargs : ∀ m ∈ args, V.Means m) :
    V.Steps v (Command.performRandom args) (Command.performRandom args) V.Answer := by
  have hvalue : isValue "operator_random" := by decide
  have hfrom : IsInput "FROM" := by decide
  have hto : IsInput "TO" := by decide
  refine hV.bind (hV.reporter v hvalue) fun v₁ id id' hmade => ?_
  have hid := hmade.hand
  match args, hargs with
  | [], _ => exact hV.answer hvalue hid
  | [limit], hargs =>
    refine hV.bind (hV.plug hid (hV.given_value v₁ _ (.int 1))) fun v₂ i i' ⟨⟨h₂, _⟩, hi⟩ => ?_
    refine hV.argument (hargs limit (.head _)) (h₂.hand hid) fun v₃ j j' h₃ hj => ?_
    refine hV.bind (hV.setInputs (h₃.hand (h₂.hand hid)) ?_) fun v₄ _ _ ⟨hid, _⟩ => hV.answer hvalue hid
    exact .cons ⟨rfl, hfrom, h₃.fits hi⟩ (.cons ⟨rfl, hto, hj⟩ .nil)
  | low :: high :: rest, hargs =>
    refine hV.bind (hV.operand (hargs low (.head _)) v₁) fun v₂ a a' ha => ?_
    refine hV.bind (hV.operand (hargs high (.tail _ (.head _))) v₂) fun v₃ b b' hb => ?_
    refine hV.fill (hb.hand (ha.hand hid)) ?_ fun v₄ hid _ => hV.answer hvalue hid
    exact .cons ⟨rfl, hfrom, hb.given (ha.apart hid)⟩ (.cons ⟨rfl, hto, hb.apart (ha.hand hid)⟩ .nil)

theorem performProperty (hargs : ∀ m ∈ args, V.Means m) :
    V.Steps v (Command.performProperty args) (Command.performProperty args) V.Answer := by
  have hvalue : isValue "sensing_of" := by decide
  refine hV.bind (hV.reporter v hvalue) fun v₁ id id' hmade => ?_
  match args, hargs with
  | [], _ | [_], _ => exact hV.answer hvalue hmade.hand
  | property :: owner :: rest, hargs =>
    refine hV.bind (hV.operand (hargs property (.head _)) v₁) fun v₂ p p' hp => ?_
    refine hV.bind (hV.operand (hargs owner (.tail _ (.head _))) v₂) fun v₃ o o' ho => ?_
    rw [hV.string?_eq hp.ready, hV.string?_eq ho.ready]
    have hmenu {v₄ : V.Moment} (hid : V.Hand v₄ "sensing_of" id id') (s : String) : V.Steps v₄
        (do
          let menuId ← Build.menu "sensing_of_object_menu" "OBJECT" (.str s) (some id)
          Build.setInput id "OBJECT" (.menu menuId)
          Pure.pure (some id))
        (do
          let menuId ← Build.menu "sensing_of_object_menu" "OBJECT" (.str s) (some id')
          Build.setInput id' "OBJECT" (.menu menuId)
          Pure.pure (some id')) V.Answer := by
      refine hV.bind (hV.menu hid (by decide) (by decide) (hV.shown_refl s)) fun v₅ i i' ⟨h₅, hi⟩ => ?_
      exact hV.bind (hV.setInput (h₅.hand hid) (by decide) hi) fun v₆ _ _ ⟨hid, _⟩ =>
        hV.answer hvalue hid
    have hid := ho.hand (hp.hand hmade.hand)
    cases p.string? with
    | none =>
      cases o.string? with
      | none => exact hV.answer hvalue hid
      | some s => exact hmenu hid s
    | some t =>
      refine hV.bind (hV.setWord hid (by decide) t) fun v₄ _ _ hid => ?_
      cases o.string? with
      | none => exact hV.answer hvalue hid
      | some s => exact hmenu hid s

theorem performTarget {input menu : String} (hopcode : isAction opcode) (hinput : IsInput input)
    (hfield : input ∉ namingFields) (hmenu : menu ∉ procedureOpcodes) (kind : TargetKind)
    (hargs : ∀ m ∈ args, V.Means m) :
    V.Makes true v (Command.performTarget opcode input menu kind args)
      (Command.performTarget opcode input menu kind args) fun _ _ _ => True := by
  refine hV.before (hV.statement v hopcode) fun v₁ id id' hmade => ?_
  cases args with
  | nil => exact hV.pure trivial
  | cons m rest =>
    refine hV.bind (hV.operand (hargs m (.head _)) v₁) fun v₂ o o' ho => ?_
    have hid := ho.hand hmade.hand
    have hblock {b b' : Option Id} (hb : V.Given v₂ (some id) (.block b) (.block b')) :
        V.Steps v₂ (do Build.setParent b id; Build.setInput id input (.reporter b (.text "")))
          (do Build.setParent b' id'; Build.setInput id' input (.reporter b' (.text "")))
          fun _ _ _ => True := by
      refine hV.bind (hV.setParent hid hb) fun v₃ _ _ h₃ => ?_
      exact hV.imp (hV.setInput (h₃.hand hid) hinput (hV.fits_reporter (h₃.given hb)))
        fun _ _ _ _ => trivial
    rcases hV.given_cases ho.ready with ⟨x, rfl, rfl⟩ | ⟨n, rfl, rfl⟩ | ⟨rfl, rfl⟩ | ⟨i, i', rfl, rfl⟩
    · have hplug {v₃ : V.Moment} (hid : V.Hand v₃ opcode id id') {t t' : String} (ht : V.Shown t t') :
          V.Steps v₃ (Build.plugMenu id input menu t) (Build.plugMenu id' input menu t')
            fun _ _ _ => True :=
        hV.imp (hV.plugMenu hid hinput hfield hmenu ht) fun _ _ _ _ => trivial
      dsimp only
      split
      · exact hplug hid (hV.shown_refl _)
      · exact hV.bind (hV.useSound v₂ _) fun v₃ _ _ h₃ => hplug (h₃.hand hid) (hV.shown_refl _)
      · exact hV.bind (hV.text ho.ready) fun v₃ t t' ⟨h₃, ht⟩ => hplug (h₃.hand hid) ht
    · refine hV.bind (hV.variableNamed v₂ n) fun v₃ i i' ⟨h₃, hi⟩ => ?_
      exact hV.imp (hV.setInput (h₃.hand hid) hinput (hV.fits_embedded id hi)) fun _ _ _ _ => trivial
    · exact hblock (ho.apart hmade.hand)
    · exact hblock (ho.apart hmade.hand)

theorem performGlide {time input menu : String} (hopcode : isAction opcode) (htime : IsInput time)
    (hinput : IsInput input) (hfield : input ∉ namingFields) (hmenu : menu ∉ procedureOpcodes)
    (hargs : ∀ m ∈ args, V.Means m) :
    V.Makes true v (Command.performGlide opcode time input menu args)
      (Command.performGlide opcode time input menu args) fun _ _ _ => True := by
  refine hV.before (hV.statement v hopcode) fun v₁ id id' hmade => ?_
  cases args with
  | nil => exact hV.pure trivial
  | cons secs rest =>
    rw [forall_mem_cons] at hargs
    refine hV.argument hargs.1 hmade.hand fun v₂ i i' h₂ hi => ?_
    refine hV.bind (hV.setInput (h₂.hand hmade.hand) htime hi) fun v₃ _ _ ⟨hid, _⟩ => ?_
    cases rest with
    | nil => exact hV.pure trivial
    | cons place rest =>
      refine hV.bind (hV.operand (hargs.2 place (.head _)) v₃) fun v₄ o o' ho => ?_
      have hplug {v₅ : V.Moment} (h : V.Spares v₄ v₅) {t t' : String} (ht : V.Shown t t') :
          V.Steps v₅ (Build.plugMenu id input menu t) (Build.plugMenu id' input menu t')
            fun _ _ _ => True :=
        hV.imp (hV.plugMenu (h.hand (ho.hand hid)) hinput hfield hmenu ht) fun _ _ _ _ => trivial
      rw [hV.string?_eq ho.ready]
      cases o.string? with
      | some s => exact hplug (.refl v₄) (hV.shown_refl _)
      | none => exact hV.bind (hV.text ho.ready) fun v₅ t t' ⟨h₅, ht⟩ => hplug h₅ ht

theorem performAdjustment {field input : String} (hopcode : isAction opcode)
    (hfield : field ∉ namingFields) (hinput : IsInput input) (hargs : ∀ m ∈ args, V.Means m) :
    V.Makes true v (Command.performAdjustment opcode field input args)
      (Command.performAdjustment opcode field input args) fun _ _ _ => True := by
  refine hV.before (hV.statement v hopcode) fun v₁ id id' hmade => ?_
  cases args with
  | nil => exact hV.pure trivial
  | cons choice rest =>
    rw [forall_mem_cons] at hargs
    refine hV.bind (hV.operand hargs.1 v₁) fun v₂ o o' ho => ?_
    have hset : V.Steps v₂
        (Build.setField id field
          { value := match o.string? with | some s => .str (Text.upper s) | none => o.toValue })
        (Build.setField id' field
          { value := match o'.string? with | some s => .str (Text.upper s) | none => o'.toValue })
        fun v' _ _ => V.Hand v' opcode id id' := by
      rw [hV.string?_eq ho.ready]
      cases o.string? with
      | some s => exact hV.setWord (ho.hand hmade.hand) hfield _
      | none => exact hV.setField (ho.hand hmade.hand) hfield ho.ready
    refine hV.bind hset fun v₃ _ _ hid => ?_
    cases rest with
    | nil => exact hV.pure trivial
    | cons amount rest =>
      refine hV.argument (hargs.2 amount (.head _)) hid fun v₄ i i' h₄ hi => ?_
      exact hV.imp (hV.setInputs (h₄.hand hid) (.cons ⟨rfl, hinput, hi⟩ .nil)) fun _ _ _ _ => trivial

section Lists

variable {arity listArg : Nat} {inputs : List (String × Nat)}

/-- A block on a list is completed. -/
theorem fillList {name : String} {l l' : Id} {os os' : List Operand} {r r' : Option Id} {v₁ v₂ : V.Moment}
    (hid : V.Made v₁ opcode v₂ id id') (hl : V.Listed v₁ name l l')
    (hinputs : ∀ p ∈ inputs, IsInput p.1) (hos : Forall₂ (fun o o' => V.Given v₁ none o o') os os')
    (hr : ∀ v', V.Hand v' opcode id id' → V.Answer v' r r') :
    V.Steps v₂
      (do
        let filled ← Build.plugAll id (inputs.map fun p => (p.1, os[p.2]?.getD .zero))
        Build.setInputs id filled
        Build.setField id "LIST" (.named name l)
        Pure.pure r)
      (do
        let filled ← Build.plugAll id' (inputs.map fun p => (p.1, os'[p.2]?.getD .zero))
        Build.setInputs id' filled
        Build.setField id' "LIST" (.named name l')
        Pure.pure r') V.Answer := by
  refine hV.fill hid.hand (forall₂_map_left_iff.2 (forall₂_map_right_iff.2 ?_))
    fun v₃ hid₃ hkeeps => hV.bind (hV.setList hid₃ (hkeeps (hid.keeps hl))) fun v₄ _ _ hid₄ =>
      hV.pure (hr v₄ hid₄)
  refine forall₂_same.2 fun p hp => ⟨rfl, hinputs p hp, hid.apart ?_⟩
  have hrel := rel_getElem? hos p.2
  generalize os[p.2]? = o, os'[p.2]? = o' at hrel ⊢
  cases hrel with
  | none => exact hV.given_value v₁ none _
  | some ho => exact ho

/-- The name of the list, if it is a constant. -/
theorem listName_eq {os os' : List Operand} (hos : Forall₂ (fun o o' => V.Given v none o o') os os')
    (n : Nat) : os'[n]?.bind string? = os[n]?.bind string? := by
  have hrel := rel_getElem? hos n
  generalize os[n]? = o, os'[n]? = o' at hrel ⊢
  cases hrel with
  | none => rfl
  | some ho => exact hV.string?_eq ho

theorem performList_reporter (hopcode : isValue opcode) (hinputs : ∀ p ∈ inputs, IsInput p.1)
    (hargs : ∀ m ∈ args, V.Means m) :
    V.Steps v (performList opcode true arity listArg inputs args)
      (performList opcode true arity listArg inputs args) V.Answer := by
  rw [performList]
  split
  · exact hV.silence
  · refine hV.bind (hV.mapM_operand (fun m hm => hargs m (mem_of_mem_take hm)) v)
      fun v₁ os os' ⟨_, hos⟩ => ?_
    replace hos := hos.imp fun _ _ h => h.ready
    rw [hV.listName_eq hos]
    cases os[listArg]?.bind string? with
    | none => exact hV.silence
    | some name =>
      refine hV.bind (hV.listNamed v₁ name) fun v₂ l l' ⟨h₂, hl⟩ => ?_
      refine hV.bind (hV.reporter v₂ hopcode) fun v₃ id id' hmade => ?_
      exact hV.fillList hmade hl hinputs (hos.imp fun _ _ h => h₂.given h)
        fun v' hid => hV.given_hand hopcode hid

theorem performList_statement (hopcode : isAction opcode) (hinputs : ∀ p ∈ inputs, IsInput p.1)
    (hargs : ∀ m ∈ args, V.Means m) :
    V.Makes false v (performList opcode false arity listArg inputs args)
      (performList opcode false arity listArg inputs args) V.Answer := by
  rw [performList]
  split
  · exact hV.maybe (.inl hV.silence)
  · refine hV.after (hV.mapM_operand (fun m hm => hargs m (mem_of_mem_take hm)) v)
      fun v₁ os os' ⟨_, hos⟩ => ?_
    replace hos := hos.imp fun _ _ h => h.ready
    rw [hV.listName_eq hos]
    cases os[listArg]?.bind string? with
    | none => exact hV.maybe (.inl hV.silence)
    | some name =>
      refine hV.after (hV.listNamed v₁ name) fun v₂ l l' ⟨h₂, hl⟩ => ?_
      refine hV.maybe (.inr (hV.before (hV.statement v₂ hopcode) fun v₃ id id' hmade => ?_))
      exact hV.fillList hmade hl hinputs (hos.imp fun _ _ h => h₂.given h)
        fun v' _ => hV.given_none v' none

end Lists

/-- **A command with a value does as it should**, and makes no statement. -/
theorem perform_steps {name : String} {c : Command} (hc : ofName? name = some c) (hvalue : c.hasValue)
    (hargs : ∀ m ∈ args, V.Means m) : V.Steps v (c.perform args) (c.perform args) V.Answer := by
  have hproper := isProper_of_ofName? hc
  have hnames := isInput_of_ofName? hc
  have htake (n : Nat) : ∀ m ∈ args.take n, V.Means m := fun m hm => hargs m (mem_of_mem_take hm)
  cases c with
  | reporter opcode choice =>
    rw [isProper, and_eq_true] at hproper
    refine hV.bind (hV.reporter v hproper.1) fun v₁ id id' hmade => ?_
    exact hV.bind (hV.setChoice hmade.hand hproper.2) fun _ _ _ hid => hV.answer hproper.1 hid
  | sensor opcode input menu names ignoreCase =>
    simp only [isProper, and_eq_true, decide_eq_true_eq] at hproper
    obtain ⟨⟨⟨hopcode, -⟩, hfield⟩, hmenu⟩ := hproper
    refine hV.bind (hV.reporter v hopcode) fun v₁ id id' hmade => ?_
    cases args with
    | nil => exact hV.answer hopcode hmade.hand
    | cons m rest =>
      refine hV.text? (hargs m (.head _)) (fun v₂ s h₂ => ?_)
        fun v₂ h₂ => hV.answer hopcode (h₂.hand hmade.hand)
      exact hV.bind (hV.plugMenu (h₂.hand hmade.hand) (hnames input (.head _)) hfield hmenu
        (hV.shown_refl _)) fun _ _ _ hid => hV.answer hopcode hid
  | colors opcode inputs =>
    rw [isProper, and_eq_true] at hproper
    refine hV.bind (hV.reporter v hproper.1) fun v₁ id id' hmade => ?_
    split
    · refine hV.bind (hV.mapM_operand (htake _) v₁) fun v₂ os os' ⟨h₂, hos⟩ => ?_
      exact hV.bind (hV.setColors (h₂.hand hmade.hand) (Taken.ready_zip hmade.hand hnames hos))
        fun _ _ _ hid => hV.answer hproper.1 hid
    · exact hV.answer hproper.1 hmade.hand
  | random => exact hV.performRandom hargs
  | operation opcode choice inputs =>
    rw [isProper, and_eq_true, and_eq_true] at hproper
    refine hV.bind (hV.reporter v hproper.1.1) fun v₁ id id' hmade => ?_
    refine hV.bind (hV.setChoice hmade.hand hproper.1.2) fun v₂ _ _ hid => ?_
    split
    · refine hV.bind (hV.mapM_operand (htake _) v₂) fun v₃ os os' ⟨h₃, hos⟩ => ?_
      exact hV.fill (h₃.hand hid) (Taken.ready_zip hid hnames hos)
        fun _ hid _ => hV.answer hproper.1.1 hid
    · exact hV.answer hproper.1.1 hid
  | list opcode isReporter arity listArg inputs =>
    cases isReporter with
    | false => cases hvalue
    | true =>
      rw [isProper, and_eq_true] at hproper
      exact hV.performList_reporter hproper.1 (fun p hp => hnames _ (mem_map_of_mem hp)) hargs
  | propertyOf => exact hV.performProperty hargs
  | action | adjustment | target | glide | option | broadcast | variableNamed | waitUntil =>
    cases hvalue

/-- **A command does as it should**, and makes at most one statement of its own. -/
theorem perform_makes {name : String} {c : Command} (hc : ofName? name = some c)
    (hargs : ∀ m ∈ args, V.Means m) :
    V.Makes c.isSure v (c.perform args) (c.perform args) V.Answer := by
  have hproper := isProper_of_ofName? hc
  have hnames := isInput_of_ofName? hc
  have hvalue (h : c.hasValue) : V.Makes false v (c.perform args) (c.perform args) V.Answer :=
    hV.maybe (.inl (hV.perform_steps hc h hargs))
  cases c with
  | action opcode inputs =>
    rw [isProper, and_eq_true] at hproper
    refine hV.before (hV.statement v hproper.1) fun v₁ id id' hmade => ?_
    refine hV.bind (hV.plugInTurn hmade.hand hnames hargs) fun v₂ filled filled' ⟨h₂, hfilled⟩ => ?_
    exact hV.bind (hV.setInputs (h₂.hand hmade.hand) hfilled) fun _ _ _ _ => hV.silence
  | adjustment opcode field input =>
    simp only [isProper, and_eq_true, decide_eq_true_eq] at hproper
    exact hV.before (hV.performAdjustment hproper.1.1 hproper.1.2 (hnames _ (.head _)) hargs)
      fun _ _ _ _ => hV.silence
  | target opcode input menu kind =>
    simp only [isProper, and_eq_true, decide_eq_true_eq] at hproper
    obtain ⟨⟨⟨hopcode, -⟩, hfield⟩, hmenu⟩ := hproper
    exact hV.before (hV.performTarget hopcode (hnames _ (.head _)) hfield hmenu kind hargs)
      fun _ _ _ _ => hV.silence
  | glide opcode time input menu =>
    simp only [isProper, and_eq_true, decide_eq_true_eq] at hproper
    obtain ⟨⟨⟨⟨hopcode, -⟩, -⟩, hfield⟩, hmenu⟩ := hproper
    obtain ⟨htime, hinput⟩ := forall_mem_cons.1 hnames
    exact hV.before (hV.performGlide hopcode htime (hinput _ (.head _)) hfield hmenu hargs)
      fun _ _ _ _ => hV.silence
  | option opcode field =>
    simp only [isProper, and_eq_true, decide_eq_true_eq] at hproper
    refine hV.before (hV.statement v hproper.1) fun v₁ id id' hmade => ?_
    cases args with
    | nil => exact hV.silence
    | cons m rest =>
      refine hV.text? (hargs m (.head _)) (fun v₂ s h₂ => ?_) fun v₂ _ => hV.silence
      exact hV.bind (hV.setWord (h₂.hand hmade.hand) hproper.2 s) fun _ _ _ _ => hV.silence
  | broadcast opcode =>
    cases args with
    | nil => exact hV.maybe (.inl hV.silence)
    | cons m rest =>
      refine hV.after (hV.operand (hargs m (.head _)) v) fun v₁ o o' ho => ?_
      rw [hV.string?_eq ho.ready]
      cases o.string? with
      | none => exact hV.maybe (.inl hV.silence)
      | some message =>
        refine hV.after (hV.messageNamed v₁ message) fun v₂ i i' hi => ?_
        refine hV.maybe (.inr (hV.before (hV.statement v₂ hproper) fun v₃ id id' hmade => ?_))
        exact hV.bind (hV.setInput hmade.hand (by decide) (hmade.fits (hi id))) fun _ _ _ _ => hV.silence
  | variableNamed opcode =>
    cases args with
    | nil => exact hV.maybe (.inl hV.silence)
    | cons m rest =>
      refine hV.after (hV.operand (hargs m (.head _)) v) fun v₁ o o' ho => ?_
      rw [hV.string?_eq ho.ready]
      cases o.string? with
      | none => exact hV.maybe (.inl hV.silence)
      | some x =>
        refine hV.after (hV.variableNamed v₁ x) fun v₂ i i' ⟨_, hi⟩ => ?_
        refine hV.maybe (.inr (hV.before (hV.statement v₂ hproper) fun v₃ id id' hmade => ?_))
        exact hV.bind (hV.setVariable hmade.hand (hmade.declared hi)) fun _ _ _ _ => hV.silence
  | waitUntil =>
    refine hV.before (hV.statement v rfl) fun v₁ id id' hmade => ?_
    cases args with
    | nil => exact hV.silence
    | cons m rest =>
      refine hV.bind (hV.condition (hargs m (.head _)) v₁) fun v₂ c c' hc => ?_
      exact hV.bind (hV.plugCondition (hc.hand hmade.hand) (by decide) (hc.apart hmade.hand))
        fun _ _ _ _ => hV.silence
  | list opcode isReporter arity listArg inputs =>
    cases isReporter with
    | true => exact hvalue rfl
    | false =>
      rw [isProper, and_eq_true] at hproper
      exact hV.performList_statement hproper.1 (fun p hp => hnames _ (mem_map_of_mem hp)) hargs
  | reporter | sensor | colors | random | operation | propertyOf => exact hvalue rfl

/-! ### Constructs -/

variable {m left right : Meaning} {ms : List Meaning}

theorem withOperands {first second : String} {a a' b b' : Operand} (hvalue : isValue opcode)
    (hfirst : IsInput first) (hsecond : IsInput second) (ha : V.Given v none a a')
    (hb : V.Given v none b b') :
    V.Steps v (Meaning.withOperands opcode first second a b)
      (Meaning.withOperands opcode first second a' b') fun v' i i' => V.Answer v' (some i) (some i') := by
  refine hV.bind (hV.reporter v hvalue) fun v₁ id id' hmade => ?_
  refine hV.fill hmade.hand ?_ fun v₂ hid _ => hV.pure (hV.given_hand hvalue hid)
  exact .cons ⟨rfl, hfirst, hmade.apart ha⟩ (.cons ⟨rfl, hsecond, hmade.apart hb⟩ .nil)

theorem negation {c c' : Option Id} (hc : V.Answer v c c') :
    V.Steps v (Meaning.negation c) (Meaning.negation c') fun v' i i' => V.Answer v' (some i) (some i') := by
  have hvalue : isValue "operator_not" := by decide
  refine hV.bind (hV.reporter v hvalue) fun v₁ id id' hmade => ?_
  exact hV.bind (hV.plugCondition hmade.hand (by decide) (hmade.apart hc))
    fun v₂ _ _ ⟨hid, _⟩ => hV.pure (hV.given_hand hvalue hid)

theorem means_silent {effect : Build Unit}
    (h : ∀ u, V.Start u → V.Steps u effect effect fun _ _ _ => True) :
    V.Means (silent effect) :=
  ⟨fun _ _ => hV.pure (hV.given_value _ _ _), fun _ _ => hV.silence, h⟩

/-- The block is made, and nothing is done with it. -/
theorem ignored {n n' : Build (Option Id)} (h : V.Steps v n n' V.Answer) :
    V.Steps v (do let _ ← n) (do let _ ← n') fun _ _ _ => True :=
  hV.bind h fun _ _ _ _ => hV.pure trivial

theorem means_walk (h : ∀ m ∈ ms, V.Means m) : V.Means (walk ms) := by
  refine hV.means_silent fun u hu => ?_
  clear hu
  induction ms generalizing u with
  | nil => exact hV.pure trivial
  | cons m ms ih =>
    rw [forall_mem_cons] at h
    have heffect := hV.enter (fun _ => .zero) (fun u hu => hV.imp (h.1.effect u hu)
      fun v' _ _ _ => hV.given_value v' none _) u
    exact hV.bind heffect fun v₁ _ _ _ => ih h.2 v₁

theorem constantCondition (b : Bool) :
    V.Steps v (Meaning.constantCondition b) (Meaning.constantCondition b)
      fun v' i i' => V.Answer v' (some i) (some i') := by
  have hvalue : isValue "operator_equals" := by decide
  refine hV.bind (hV.reporter v hvalue) fun v₁ id id' hmade => ?_
  refine hV.bind (hV.setInput hmade.hand (by decide) (hV.fits_text v₁ id _)) fun v₂ _ _ ⟨hid, _⟩ => ?_
  exact hV.bind (hV.setInput hid (by decide) (hV.fits_text v₂ id _))
    fun _ _ _ ⟨hid, _⟩ => hV.pure (hV.given_hand hvalue hid)

theorem means_const (x : Value) : V.Means (const x) := by
  refine ⟨fun _ _ => hV.pure (hV.given_value _ _ _), fun u _ => ?_, fun _ _ => hV.pure trivial⟩
  cases x with
  | bool b => exact hV.bind (hV.constantCondition b) fun _ _ _ h => hV.pure h
  | _ => exact hV.silence

theorem means_name (n : String) : V.Means (Meaning.name n) :=
  ⟨fun _ _ => hV.pure (hV.given_name _ _ _), fun _ _ => hV.silence, fun _ _ => hV.pure trivial⟩

theorem means_unary (op : UnaryOp) (h : V.Means m) : V.Means (unary op m) := by
  refine ⟨fun u hu => ?_, fun u hu => ?_, h.effect⟩
  · cases op with
    | negate =>
      refine hV.bind (h.operand u hu) fun v₁ o o' ho => ?_
      rcases hV.given_cases ho with ⟨x, rfl, rfl⟩ | ⟨n, rfl, rfl⟩ | ⟨rfl, rfl⟩ | ⟨i, i', rfl, rfl⟩ <;>
        exact hV.pure (hV.given_value _ _ _)
    | plus => exact h.operand u hu
    | invert | not => exact hV.pure (hV.given_value _ _ _)
  · cases op with
    | not =>
      refine hV.bind (h.condition u hu) fun v₁ c c' hc => ?_
      exact hV.bind (hV.negation hc) fun _ _ _ hid => hV.pure hid
    | negate | plus | invert => exact hV.silence

/-- Two operands one after the other. -/
theorem operands {β : Type} {f f' : Operand → Operand → Build β} {Q : V.Moment → β → β → Prop}
    (hleft : V.Means left) (hright : V.Means right)
    (hf : ∀ v' a a' b b', V.Given v' none a a' → V.Given v' none b b' →
      V.Steps v' (f a b) (f' a' b') Q) :
    V.Steps v (left.operand >>= fun a => right.operand >>= f a)
      (left.operand >>= fun a => right.operand >>= f' a) Q := by
  refine hV.bind (hV.operand hleft v) fun v₁ a a' ha => ?_
  refine hV.bind (hV.operand hright v₁) fun v₂ b b' hb => ?_
  exact hf v₂ a a' b b' (hb.given ha.ready) hb.ready

theorem arithmetic (op : BinaryOp) (hleft : V.Means left) (hright : V.Means right) :
    V.Steps v (Meaning.arithmetic op left right) (Meaning.arithmetic op left right) V.Answer := by
  rw [Meaning.arithmetic]
  cases hop : op.opcode? with
  | none => exact hV.silence
  | some opcode =>
    refine hV.operands hleft hright fun v₁ a a' b b' ha hb => ?_
    exact hV.bind (hV.withOperands (op.isValue_of_opcode? hop) (by decide) (by decide) ha hb)
      fun _ _ _ hid => hV.pure hid

theorem means_binary (op : BinaryOp) (hleft : V.Means left) (hright : V.Means right) :
    V.Means (binary op left right) :=
  ⟨fun _ _ => hV.bind (hV.arithmetic op hleft hright) fun _ _ _ h => hV.pure h, fun _ _ => hV.silence,
    fun _ _ => hV.ignored (hV.arithmetic op hleft hright)⟩

theorem comparison (op : CompareOp) (hleft : V.Means left) (hright : V.Means right) :
    V.Steps v (Meaning.comparison op left right) (Meaning.comparison op left right) V.Answer := by
  refine hV.operands hleft hright fun v₁ a a' b b' ha hb => ?_
  cases hop : op.opcode? with
  | none => exact hV.silence
  | some q =>
    refine hV.bind (hV.withOperands (op.isValue_of_opcode? hop) (by decide) (by decide) ha hb)
      fun v₂ i i' hi => ?_
    split
    · exact hV.bind (hV.negation hi) fun _ _ _ hid => hV.pure hid
    · exact hV.pure hi

theorem means_compare (op : CompareOp) (hleft : V.Means left) (hright : V.Means right) :
    V.Means (compare op left right) :=
  ⟨fun _ _ => hV.pure (hV.given_value _ _ _), fun _ _ => hV.comparison op hleft hright,
    fun _ _ => hV.ignored (hV.comparison op hleft hright)⟩

theorem joined (hvalue : isValue opcode) (h : ∀ m ∈ ms, V.Means m) {u : V.Moment} (hu : V.Start u) :
    V.Steps u (Meaning.joined opcode ms) (Meaning.joined opcode ms) V.Answer := by
  induction ms with
  | nil => exact hV.silence
  | cons m ms ih =>
    rw [forall_mem_cons] at h
    cases ms with
    | nil => exact h.1.condition u hu
    | cons n ms =>
      refine hV.bind (ih h.2) fun v₁ c c' hc => ?_
      refine hV.bind (hV.condition h.1 v₁) fun v₂ d d' hd => ?_
      refine hV.bind (hV.reporter v₂ hvalue) fun v₃ id id' hmade => ?_
      refine hV.bind (hV.plugCondition hmade.hand (by decide) (hmade.apart hd.ready))
        fun v₄ _ _ ⟨hid, h₄⟩ => ?_
      exact hV.bind (hV.plugCondition hid (by decide) (h₄.given (hmade.apart (hd.given hc))))
        fun _ _ _ ⟨hid, _⟩ => hV.answer hvalue hid

theorem means_bool (op : BoolOp) (h : ∀ m ∈ ms, V.Means m) : V.Means (Meaning.bool op ms) :=
  ⟨fun _ _ => hV.pure (hV.given_value _ _ _), fun _ hu => hV.joined op.isValue_opcode h hu,
    fun _ hu => hV.ignored (hV.joined op.isValue_opcode h hu)⟩

theorem means_call {function : Option String}
    (h : ∀ u, V.Start u →
      V.Steps u (called function ms) (called function ms) V.Answer) :
    V.Means (Meaning.call function ms) := by
  refine ⟨fun u hu => hV.bind (h u hu) fun v₁ r r' hr => ?_, h, fun u hu => hV.ignored (h u hu)⟩
  rcases hV.given_cases hr with ⟨_, h, _⟩ | ⟨_, h, _⟩ | ⟨h, h'⟩ | ⟨i, i', h, h'⟩ <;> cases h
  · cases h'
    exact hV.pure (hV.given_value _ _ _)
  · cases h'
    exact hV.pure hr

end Lawful

/-! ### Expressions -/

/-- The calls that are allowed, by name and number of arguments, do as they should. -/
def CallsMean (V : View) (allowed : String → Nat → Prop) : Prop :=
  ∀ name (args : List Meaning), allowed name args.length → (∀ m ∈ args, V.Means m) →
    ∀ u, V.Start u → V.Steps u (Build.call name args) (Build.call name args) V.Answer

section Expressions

variable {V : View} {allowed : String → Nat → Prop}

open Program

mutual

/-- **An expression does as it should** if the calls in it do. -/
theorem Lawful.meaning_means (hV : V.Lawful) (hcall : V.CallsMean allowed) :
    ∀ e : Expr, (∀ c ∈ e.calls, allowed c.1 c.2) → V.Means e.meaning
  | .const x, _ => hV.means_const x
  | .name n, _ => hV.means_name n
  | .unary op e, h => hV.means_unary op (hV.meaning_means hcall e h)
  | .binary op left right, h => by
    rw [Expr.calls, forall_mem_append] at h
    exact hV.means_binary op (hV.meaning_means hcall left h.1) (hV.meaning_means hcall right h.2)
  | .bool op operands, h => hV.means_bool op (hV.meanings_mean hcall operands h)
  | .compare left op right _, h => by
    rw [Expr.calls, forall_mem_append] at h
    exact hV.means_compare op (hV.meaning_means hcall left h.1) (hV.meaning_means hcall right h.2)
  | .call function args _, h => by
    rw [Expr.calls, forall_mem_append] at h
    have hargs := hV.meanings_mean hcall args h.2
    refine hV.means_call fun u hu => ?_
    cases hname : function.functionName? with
    | none => exact hV.silence
    | some name =>
      refine hcall name _ ?_ hargs u hu
      rw [length_meanings]
      exact h.1 (name, args.length) (by simp [hname])
  | .attribute owner _, h => hV.means_walk (forall_mem_singleton.2 (hV.meaning_means hcall owner h))
  | .subscript owner index, h => by
    rw [Expr.calls, forall_mem_append] at h
    exact hV.means_walk (forall_mem_cons.2
      ⟨hV.meaning_means hcall owner h.1, forall_mem_singleton.2 (hV.meaning_means hcall index h.2)⟩)
  | .starred e, h => hV.means_walk (forall_mem_singleton.2 (hV.meaning_means hcall e h))
  | .list items, h => hV.means_walk (hV.meanings_mean hcall items h)
  | .tuple items, h => hV.means_walk (hV.meanings_mean hcall items h)
  | .other parts, h => hV.means_walk (hV.meanings_mean hcall parts h)

theorem Lawful.meanings_mean (hV : V.Lawful) (hcall : V.CallsMean allowed) :
    ∀ es : List Expr, (∀ c ∈ callsIn es, allowed c.1 c.2) → ∀ m ∈ meanings es, V.Means m
  | [], _ => forall_mem_nil _
  | e :: es, h => by
    rw [callsIn, forall_mem_append] at h
    exact forall_mem_cons.2 ⟨hV.meaning_means hcall e h.1, hV.meanings_mean hcall es h.2⟩

end

end Expressions

end View

end BlockScript
