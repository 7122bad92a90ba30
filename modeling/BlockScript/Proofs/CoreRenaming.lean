import BlockScript.Proofs.CoreCompilation
import BlockScript.Proofs.ProjectListing
import BlockScript.Proofs.Renaming

/-!
# Core programs do not look at identifiers

The steps of a core program do the same in a workspace and in one where more identifiers were issued
before: they end with the same workspace up to a shift. `Build.Follows` says so of one step. It also
says that a workspace that can be listed remains one, and what can be said about the result of the
step. Both are needed together, because the first value of a variable is the result of a step.

There is one lemma for every step of the compiler that core programs use, and the result for whole
programs is `Class.follows_build`.
-/

namespace BlockScript

open Bool BlockScript.Id Input List Meaning Table Workspace

namespace Table

variable {α : Type} {p : String × α → Prop} {t : Table α}

theorem forall_mem_set (h : ∀ q ∈ t, p q) {key : String} {v : α} (hv : p (key, v)) :
    ∀ q ∈ t.set key v, p q := by
  induction t with
  | nil => simpa [set] using hv
  | cons q rest ih =>
    obtain ⟨k, u⟩ := q
    rw [forall_mem_cons] at h
    rw [set]
    split
    · next hk => exact forall_mem_cons.2 ⟨hk ▸ hv, h.2⟩
    · exact forall_mem_cons.2 ⟨h.1, ih h.2⟩

theorem forall_mem_adjust (h : ∀ q ∈ t, p q) {key : String} {f : α → α}
    (hf : ∀ k v, p (k, v) → p (k, f v)) : ∀ q ∈ t.adjust key f, p q := by
  induction t with
  | nil => exact h
  | cons q rest ih =>
    obtain ⟨k, u⟩ := q
    rw [forall_mem_cons] at h
    rw [adjust]
    split
    · exact forall_mem_cons.2 ⟨hf k u h.1, h.2⟩
    · exact forall_mem_cons.2 ⟨h.1, ih h.2⟩

end Table

open Program

/-- The scripts at hand and all finished sprites can be listed. -/
def Workspace.Listable (w : Workspace) : Prop :=
  Core.Listable w.blocks w.vars ∧ ∀ d ∈ w.drafts, Core.Listable d.blocks d.vars

namespace Build

variable {α β : Type}

/-- **One step follows another**: if the first ends well in a workspace that can be listed, then the
second ends in the same way in the shifted workspace, and what the first leaves can be listed. -/
def Follows (k : Nat) (f : α → α) (good : α → Prop) (m m' : Build α) : Prop :=
  ∀ w a w₁, w.Listable → m.run w = (.ok a, w₁) →
    m'.run (w.shift k) = (.ok (f a), w₁.shift k) ∧ w₁.Listable ∧ good a

/-- A step without a result that follows itself. -/
def Repeats (k : Nat) (m : Build Unit) : Prop := Follows k id (fun _ => True) m m

variable {k : Nat} {f : α → α} {g : β → β} {good : α → Prop} {fine : β → Prop} {m m' : Build α}

theorem follows_pure_of_eq {a b : α} (h : good a) (hb : f a = b) :
    Follows k f good (pure a) (pure b) := by
  intro w c w₁ hw hrun
  obtain ⟨rfl, rfl⟩ := run_pure_eq_ok hrun
  exact ⟨by rw [hb]; rfl, hw, h⟩

theorem follows_pure {a : α} (h : good a) : Follows k f good (pure a) (pure (f a)) :=
  follows_pure_of_eq h rfl

theorem follows_bind {c c' : α → Build β} (h : Follows k f good m m')
    (hc : ∀ a, good a → Follows k g fine (c a) (c' (f a))) :
    Follows k g fine (m >>= c) (m' >>= c') := by
  intro w b w₂ hw hrun
  obtain ⟨a, w₁, hm, hrest⟩ := run_bind_eq_ok hrun
  obtain ⟨hm', hw₁, ha⟩ := h w a w₁ hw hm
  obtain ⟨hrest', hw₂, hb⟩ := hc a ha w₁ b w₂ hw₁ hrest
  exact ⟨(run_bind_of_ok hm' c').trans hrest', hw₂, hb⟩

theorem follows_then {n n' : Build Unit} {c c' : Build β} (h : Follows k id (fun _ => True) n n')
    (hc : Follows k g fine c c') : Follows k g fine (do n; c) (do n'; c') :=
  follows_bind h fun _ _ => hc

theorem follows_get : Follows k (Workspace.shift k) Listable get get := by
  intro w a w₁ hw hrun
  cases hrun
  exact ⟨rfl, hw, hw⟩

theorem follows_set {v : Workspace} (h : v.Listable) :
    Follows k id (fun _ => True) (set v) (set (v.shift k)) := by
  intro w a w₁ hw hrun
  cases hrun
  exact ⟨rfl, h, trivial⟩

theorem follows_modify {c c' : Workspace → Workspace}
    (h : ∀ w, w.Listable → (c w).Listable ∧ c' (w.shift k) = (c w).shift k) :
    Follows k id (fun _ => True) (modify c) (modify c') := by
  intro w a w₁ hw hrun
  cases hrun
  obtain ⟨hlist, hshift⟩ := h w hw
  refine ⟨?_, hlist, trivial⟩
  rw [run_modify, hshift]

theorem follows_lift (r : Except Fault α) : Follows k id (fun _ => True) (lift r) (lift r) := by
  intro w a w₁ hw hrun
  obtain ⟨rfl, rfl⟩ := run_lift_eq_ok hrun
  exact ⟨rfl, hw, trivial⟩

theorem follows_fresh : Follows k (Id.shift k) (· ≠ "") fresh fresh := by
  intro w a w₁ hw hrun
  cases hrun
  refine ⟨?_, hw, ofNat_ne_empty _⟩
  rw [run_fresh, shift_ofNat]
  simp [Workspace.shift, Nat.add_right_comm]

theorem follows_put {i : Id} (hi : i ≠ "") {b : Block} (hb : b.opcode ≠ "procedures_definition") :
    Follows k id (fun _ => True) (put i b) (put (Id.shift k i) (b.rename (Id.shift k))) := by
  refine follows_modify fun w hw =>
    ⟨⟨⟨forall_mem_set hw.1.blocks ⟨hi, hb⟩, hw.1.vars⟩, hw.2⟩, ?_⟩
  simp [Workspace.shift, rename_set (shift_injective k)]

theorem follows_update {i : Id} {c c' : Block → Block}
    (h : ∀ b : Block, (c b).rename (Id.shift k) = c' (b.rename (Id.shift k)))
    (hop : ∀ b : Block, b.opcode ≠ "procedures_definition" →
      (c b).opcode ≠ "procedures_definition") :
    Follows k id (fun _ => True) (update i c) (update (Id.shift k i) c') := by
  intro w a w₁ hw hrun
  obtain ⟨hhas, rfl⟩ := run_update_eq_ok hrun
  have hhas' : (w.shift k).blocks.has (Id.shift k i) := by
    rw [← hhas]
    exact has_rename (shift_injective k) _ _ _
  refine ⟨?_, ⟨⟨?_, hw.1.vars⟩, hw.2⟩, trivial⟩
  · rw [run_update_of_has hhas']
    simp [Workspace.shift, rename_adjust (shift_injective k) _ h]
  · exact forall_mem_adjust hw.1.blocks fun _ b hb => ⟨hb.1, hop b hb.2⟩

theorem follows_setParent (i : Option Id) (p : Id) :
    Follows k id (fun _ => True) (setParent i p)
      (setParent (i.map (Id.shift k)) (Id.shift k p)) := by
  cases i with
  | none =>
    intro w a w₁ _ hrun
    cases hrun
  | some i => exact follows_update (fun _ => rfl) fun _ hb => hb

theorem follows_setInput (i : Id) (name : String) (input : Input) :
    Follows k id (fun _ => True) (setInput i name input)
      (setInput (Id.shift k i) name (input.rename (Id.shift k))) := by
  refine follows_update (fun b => ?_) fun _ hb => hb
  simp [Block.rename, Block.setInput, rename_set Function.injective_id]

theorem follows_setInputs (i : Id) (inputs : Table Input) :
    Follows k id (fun _ => True) (setInputs i inputs)
      (setInputs (Id.shift k i) (inputs.rename id (Input.rename (Id.shift k)))) :=
  follows_update (fun _ => rfl) fun _ hb => hb

theorem follows_setPrevious (p : Option Id) :
    Follows k id (fun _ => True) (setPrevious p) (setPrevious (p.map (Id.shift k))) :=
  follows_modify fun _ hw => ⟨hw, rfl⟩

theorem follows_create {opcode : String} (h : opcode ≠ "procedures_definition") (place : Placement)
    (inputs : Table Input) :
    Follows k (Id.shift k) (fun _ => True) (create opcode place inputs)
      (create opcode place (inputs.rename id (Input.rename (Id.shift k)))) := by
  rw [create, create]
  refine follows_bind follows_fresh fun i hi => ?_
  cases place.isReporter with
  | true =>
    exact follows_then (follows_put hi h) (follows_pure trivial)
  | false =>
    refine follows_bind follows_get fun w _ => ?_
    rw [show (w.shift k).previous = w.previous.map (Id.shift k) from rfl]
    generalize w.previous = previous
    let b : Block :=
      { opcode
        inputs
        parent := previous
        topLevel := place.topLevel
        position := if place.topLevel then some (0, 0) else none }
    have hmark : Follows k id (fun _ => True)
        (modify fun v =>
          { v with previous := some i, hat := if place.isHat then some i else v.hat })
        (modify fun v =>
          { v with
            previous := some (Id.shift k i)
            hat := if place.isHat then some (Id.shift k i) else v.hat }) := by
      refine follows_modify fun v hv => ⟨hv, ?_⟩
      cases place.isHat <;> rfl
    have hgive : Follows k (Id.shift k) (fun _ => True) (pure i) (pure (Id.shift k i)) :=
      follows_pure trivial
    have hjoin := follows_then (follows_put hi (b := b) h) (follows_then hmark hgive)
    cases previous with
    | none => exact hjoin
    | some p => exact follows_then (follows_update (fun _ => rfl) fun _ hb => hb) hjoin

theorem follows_variableNamed {x : String} {initial : Value} (h : ∀ i, Core.IsListed ⟨x, i, initial⟩) :
    Follows k (Id.shift k) (fun _ => True) (variableNamed x initial) (variableNamed x initial) := by
  rw [variableNamed]
  refine follows_bind follows_get fun w _ => ?_
  have hfind : (w.shift k).vars.find? (·.name == x) =
      (w.vars.find? (·.name == x)).map (Variable.rename (Id.shift k)) :=
    List.find?_map ..
  rw [hfind]
  cases w.vars.find? (·.name == x) with
  | some v => exact follows_pure trivial
  | none =>
    refine follows_bind follows_fresh fun i _ => follows_then ?_ (follows_pure trivial)
    refine follows_modify fun v hv => ⟨⟨⟨hv.1.blocks, ?_⟩, hv.2⟩, ?_⟩
    · exact forall_mem_append.2 ⟨hv.1.vars, forall_mem_singleton.2 (h i)⟩
    · simp [Workspace.shift, Variable.rename]

theorem follows_variableReporter {x : String} (h : Core.isPlainName x) :
    Follows k (Id.shift k) (fun _ => True) (variableReporter x) (variableReporter x) := by
  have hlisted (i : Id) : Core.IsListed ⟨x, i, .int 0⟩ := ⟨h, 0, rfl, by decide⟩
  rw [variableReporter]
  refine follows_bind (follows_variableNamed hlisted) fun v _ => ?_
  refine follows_bind follows_fresh fun i hi => ?_
  have hopcode : "data_variable" ≠ "procedures_definition" := by decide
  exact follows_then (follows_put hi hopcode) (follows_pure trivial)

end Build

/-! ### Operands -/

/-- An operand that a plain term can come to. -/
def Operand.IsPlain : Operand → Prop
  | value v => ∃ i : Int, v = .int i ∧ Binary64.digitCount i.natAbs ≤ Numeral.maxDigits
  | name x => Core.isPlainName x = true
  | block _ => True

namespace Build

variable {k : Nat}

theorem follows_plug {o : Operand} (h : o.IsPlain) (parent : Option Id) :
    Follows k (Input.rename (Id.shift k)) (fun _ => True) (plug o parent)
      (plug (o.rename (Id.shift k)) (parent.map (Id.shift k))) := by
  cases o with
  | value v =>
    refine follows_bind (follows_lift v.text) fun t _ => ?_
    refine follows_pure_of_eq trivial ?_
    cases v.isNumber <;> rfl
  | name x =>
    refine follows_bind (follows_variableReporter h) fun i _ => ?_
    cases parent with
    | none => exact follows_pure trivial
    | some p => exact follows_then (follows_setParent (some i) p) (follows_pure trivial)
  | block i =>
    cases parent with
    | none => exact follows_pure trivial
    | some p => exact follows_then (follows_setParent i p) (follows_pure trivial)

theorem follows_plugCondition (i : Id) (input : String) (c : Option Id) :
    Follows k id (fun _ => True) (plugCondition i input c)
      (plugCondition (Id.shift k i) input (c.map (Id.shift k))) := by
  cases c with
  | none => exact follows_pure trivial
  | some c => exact follows_then (follows_setInput i input (.block c)) (follows_setParent (some c) i)

theorem follows_plugAll {os : List (String × Operand)} (h : ∀ p ∈ os, p.2.IsPlain) (parent : Id) :
    Follows k (Table.rename id (Input.rename (Id.shift k))) (fun _ => True) (plugAll parent os)
      (plugAll (Id.shift k parent) (os.map fun p => (p.1, p.2.rename (Id.shift k)))) := by
  induction os with
  | nil => exact follows_pure trivial
  | cons p os ih =>
    rw [forall_mem_cons] at h
    refine follows_bind (follows_plug h.1 (some parent)) fun i _ => ?_
    exact follows_bind (ih h.2) fun rest _ => follows_pure trivial

theorem follows_withOperands {opcode : String} (h : opcode ≠ "procedures_definition")
    (first second : String) {a b : Operand} (ha : a.IsPlain) (hb : b.IsPlain) :
    Follows k (Id.shift k) (fun _ => True) (withOperands opcode first second a b)
      (withOperands opcode first second (a.rename (Id.shift k))
        (b.rename (Id.shift k))) := by
  refine follows_bind (follows_create h _ _) fun i _ => ?_
  have hplain : ∀ p ∈ [(first, a), (second, b)], p.2.IsPlain := by simp [ha, hb]
  refine follows_bind (follows_plugAll hplain i) fun inputs _ => ?_
  exact follows_then (follows_setInputs i inputs) (follows_pure trivial)

theorem follows_negation (c : Option Id) :
    Follows k (Id.shift k) (fun _ => True) (negation c)
      (negation (c.map (Id.shift k))) := by
  have hopcode : "operator_not" ≠ "procedures_definition" := by decide
  refine follows_bind (follows_create hopcode _ _) fun i _ => ?_
  exact follows_then (follows_plugCondition i _ c) (follows_pure trivial)

end Build

namespace Core

open Build

variable {k : Nat}

/-! ### Terms and conditions -/

theorem Arith.opcode_ne (o : Arith) : o.opcode ≠ "procedures_definition" := by
  cases o <;> decide

theorem Relation.opcode_ne (r : Relation) : r.opcode ≠ "procedures_definition" := by
  cases r <;> decide

theorem Term.follows_operand {t : Term} (h : t.isPlain) :
    Follows k (Operand.rename (Id.shift k)) Operand.IsPlain t.operand t.operand := by
  induction t with
  | text s => cases h
  | number i => exact follows_pure ⟨i, rfl, of_decide_eq_true h⟩
  | named x => exact follows_pure h
  | operation o left right ihl ihr =>
    rw [isPlain, and_eq_true] at h
    refine follows_bind (ihl h.1) fun a ha => follows_bind (ihr h.2) fun b hb => ?_
    refine follows_bind (follows_withOperands o.opcode_ne _ _ ha hb) fun i _ => ?_
    exact follows_pure trivial

theorem Cond.follows_block {c : Cond} (h : c.isPlain) :
    Follows k (Id.shift k) (fun _ => True) c.block c.block := by
  induction c with
  | compare r left right =>
    simp only [isPlain, and_eq_true] at h
    refine follows_bind (Term.follows_operand h.1.2) fun a ha => ?_
    refine follows_bind (Term.follows_operand h.2) fun b hb => ?_
    refine follows_bind (follows_withOperands r.opcode_ne _ _ ha hb) fun i _ => ?_
    cases r.negated with
    | true => exact follows_negation (some i)
    | false => exact follows_pure trivial
  | both o left right ihl ihr =>
    rw [isPlain, and_eq_true] at h
    have hopcode : o.opcode ≠ "procedures_definition" := by cases o <;> decide
    refine follows_bind (ihr h.2) fun r _ => follows_bind (ihl h.1) fun l _ => ?_
    refine follows_bind (follows_create hopcode _ _) fun i _ => ?_
    refine follows_then (follows_plugCondition i _ (some l)) ?_
    exact follows_then (follows_plugCondition i _ (some r)) (follows_pure trivial)
  | not c ih => exact follows_bind (ih h) fun i _ => follows_negation (some i)

/-! ### Items -/

theorem Term.follows_plugInTurn (i : Id) (inputs : List String) {args : List Term}
    (h : ∀ t ∈ args, t.isPlain) :
    Follows k (Table.rename id (Input.rename (Id.shift k))) (fun _ => True)
      (plugInTurn i inputs (args.map meaning))
      (plugInTurn (Id.shift k i) inputs (args.map meaning)) := by
  induction args generalizing inputs with
  | nil =>
    cases inputs <;> exact follows_pure trivial
  | cons t args ih =>
    rw [forall_mem_cons] at h
    cases inputs with
    | nil => exact follows_pure trivial
    | cons name names =>
      refine follows_bind (follows_operand h.1) fun o ho => ?_
      refine follows_bind (follows_plug ho (some i)) fun input _ => ?_
      exact follows_bind (ih names h.2) fun rest _ => follows_pure trivial

end Core

namespace Build

variable {k : Nat} {steps : List (Build Unit)}

theorem repeats_sequence (h : ∀ s ∈ steps, Repeats k s) : Repeats k (sequence steps) := by
  induction steps with
  | nil => exact follows_pure trivial
  | cons s steps ih =>
    rw [forall_mem_cons] at h
    exact follows_then h.1 (ih h.2)

theorem follows_substackFrom (h : ∀ s ∈ steps, Repeats k s) (parent : Id) (first : Option Id) :
    Follows k (Option.map (Id.shift k)) (fun _ => True) (substackFrom parent first steps)
      (substackFrom (Id.shift k parent) (first.map (Id.shift k)) steps) := by
  induction steps generalizing first with
  | nil => exact follows_pure trivial
  | cons s steps ih =>
    rw [forall_mem_cons] at h
    refine follows_then h.1 (follows_bind follows_get fun w _ => ?_)
    rw [show (w.shift k).previous = w.previous.map (Id.shift k) from rfl]
    rcases first with _ | first <;> rcases w.previous with _ | p
    · exact ih h.2 none
    · exact follows_then (follows_setParent (some p) parent) (ih h.2 (some p))
    · exact ih h.2 (some first)
    · exact ih h.2 (some first)

theorem follows_plugBody (h : ∀ s ∈ steps, Repeats k s) (i : Id) (input : String) :
    Follows k id (fun _ => True) (plugBody i input steps) (plugBody (Id.shift k i) input steps) := by
  have hsubstack : Follows k (Option.map (Id.shift k)) (fun _ => True) (substack i steps)
      (substack (Id.shift k i) steps) := by
    refine follows_bind follows_get fun w _ => ?_
    refine follows_then (follows_setPrevious none) ?_
    refine follows_bind (follows_substackFrom h i none) fun first _ => ?_
    exact follows_then (follows_setPrevious w.previous) (follows_pure trivial)
  refine follows_bind hsubstack fun first _ => ?_
  cases first with
  | none => exact follows_pure trivial
  | some first => exact follows_setInput i input (.block first)

end Build

namespace Core

open Build

variable {k : Nat}

/-- Both kinds of assignment. -/
theorem follows_store {opcode : String} (h : opcode ≠ "procedures_definition") {x : String}
    (hx : isPlainName x) {t : Term} (ht : t.isPlain) {initial : Operand → Value}
    (hinitial : ∀ o : Operand, o.IsPlain → initial (o.rename (Id.shift k)) = initial o ∧
      ∃ i : Int, initial o = .int i ∧ Binary64.digitCount i.natAbs ≤ Numeral.maxDigits) :
    Repeats k (store opcode initial x t.meaning) := by
  refine follows_bind (Term.follows_operand ht) fun o ho => ?_
  obtain ⟨hsame, hint⟩ := hinitial o ho
  rw [hsame]
  refine follows_bind (follows_variableNamed fun _ => ⟨hx, hint⟩) fun v _ => ?_
  refine follows_bind (follows_create h _ _) fun i _ => ?_
  refine follows_bind (follows_plug ho (some i)) fun input _ => ?_
  refine follows_then (follows_setInputs i [("VALUE", input)]) ?_
  exact follows_update (fun _ => rfl) fun _ hb => hb

theorem repeats_branch {c : Cond} (hc : c.isPlain) {body orelse : List (Build Unit)}
    (hbody : ∀ s ∈ body, Repeats k s) (horelse : ∀ s ∈ orelse, Repeats k s) :
    Repeats k (branch c.meaning body orelse) := by
  have hcondition : Follows k (Option.map (Id.shift k)) (fun _ => True) c.meaning.condition
      c.meaning.condition :=
    follows_bind (Cond.follows_block hc) fun i _ => follows_pure trivial
  have hopcode : "control_if" ≠ "procedures_definition" := by decide
  refine follows_bind hcondition fun condition _ => ?_
  refine follows_bind (follows_create hopcode _ _) fun i _ => ?_
  refine follows_then (follows_plugCondition i _ condition) ?_
  refine follows_then (follows_plugBody hbody i _) ?_
  cases orelse.isEmpty with
  | true => exact follows_setPrevious (some i)
  | false =>
    have hother : "control_if_else" ≠ "procedures_definition" := by decide
    refine follows_then (follows_update (fun _ => rfl) fun _ _ => hother) ?_
    exact follows_then (follows_plugBody horelse i _) (follows_setPrevious (some i))

theorem repeats_repeatLoop {t : Term} (ht : t.isPlain) {body : List (Build Unit)}
    (hbody : ∀ s ∈ body, Repeats k s) : Repeats k (repeatLoop t.operand body) := by
  have hopcode : "control_repeat" ≠ "procedures_definition" := by decide
  refine follows_bind (Term.follows_operand ht) fun o ho => ?_
  refine follows_bind (follows_plug ho none) fun input _ => ?_
  refine follows_bind (follows_create hopcode _ [("TIMES", input)]) fun i _ => ?_
  exact follows_then (follows_plugBody hbody i _) (follows_setPrevious (some i))

theorem repeats_call {opcode : String} {inputs : List String} {args : List Term}
    (h : (Item.call opcode inputs args).isPlain) :
    Repeats k (Item.call opcode inputs args).build := by
  obtain ⟨v, hv, t, rfl, rfl, rfl, -, ht⟩ := exists_verb h
  have hopcode : ∀ v ∈ verbs, v.opcode ≠ "procedures_definition" := by decide
  rw [Item.build]
  refine follows_bind (follows_create (hopcode v hv) _ _) fun i _ => ?_
  have hplug := Term.follows_plugInTurn (k := k) i [v.input] (forall_mem_singleton.2 ht)
  exact follows_bind hplug fun filled _ => follows_setInputs i filled

mutual

/-- **Core items do not look at identifiers.** -/
theorem Item.repeats_build : ∀ {i : Item}, i.isPlain → Repeats k i.build
  | call opcode inputs args, h => repeats_call h
  | assign x t, h => by
    rw [isPlain, and_eq_true] at h
    rw [build, assign_eq_store]
    refine follows_store (by decide) h.1 h.2 fun o ho => ?_
    cases o with
    | value v =>
      obtain ⟨i, rfl, hi⟩ := ho
      exact ⟨rfl, i, rfl, hi⟩
    | name x => exact ⟨rfl, 0, rfl, by decide⟩
    | block i => exact ⟨rfl, 0, rfl, by decide⟩
  | change x t, h => by
    rw [isPlain, and_eq_true] at h
    rw [build, change_add_eq_store]
    exact follows_store (by decide) h.1 h.2 fun _ _ => ⟨rfl, 0, rfl, by decide⟩
  | choice c body orelse, h => by
    simp only [isPlain, and_eq_true] at h
    rw [build]
    exact repeats_branch h.1.1 (repeats_builds h.1.2) (repeats_builds h.2)
  | loop times body, h => by
    rw [isPlain, and_eq_true] at h
    rw [build]
    exact repeats_repeatLoop h.1 (repeats_builds h.2)
  | skip, _ => follows_pure trivial

theorem Item.repeats_builds : ∀ {is : Script}, arePlain is →
    ∀ s ∈ builds is, Repeats k s
  | [], _ => forall_mem_nil _
  | i :: is, h => by
    rw [arePlain, and_eq_true] at h
    rw [builds]
    exact forall_mem_cons.2 ⟨repeats_build h.1, repeats_builds h.2⟩

end

/-! ### Classes -/

theorem Method.repeats_build {m : Method} (h : Item.arePlain m.body) :
    Repeats k m.build := by
  have hstart : Repeats k (startScript m.start.hat) := by
    cases m.start with
    | flag => exact follows_bind (follows_create (by decide) _ _) fun _ _ => follows_pure trivial
    | clicked => exact follows_bind (follows_create (by decide) _ _) fun _ _ => follows_pure trivial
  refine follows_then hstart (follows_then (repeats_sequence (Item.repeats_builds h)) ?_)
  exact follows_modify fun _ hw => ⟨hw, rfl⟩

theorem Class.repeats_build {c : Class} (h : c.isPlain) : Repeats k c.build := by
  simp only [isPlain, and_eq_true, all_eq_true] at h
  have hmethods : ∀ s ∈ c.methods.map Method.build, Repeats k s :=
    forall_mem_map.2 fun m hm => Method.repeats_build (h.2 m hm)
  refine follows_bind follows_get fun saved hsaved => ?_
  have hbare : Listable [] [] := ⟨forall_mem_nil _, forall_mem_nil _⟩
  let inner : Workspace :=
    { saved with
      blocks := []
      vars := []
      scopes := saved.scopes ++ [[]]
      procedures := []
      arguments := []
      soundsUsed := []
      previous := none
      hat := none }
  have hinner : inner.Listable := ⟨hbare, hsaved.2⟩
  have hset := follows_set (k := k) hinner
  have hshift : inner.shift k =
      { saved.shift k with
        blocks := []
        vars := []
        scopes := (saved.shift k).scopes ++ [[]]
        procedures := []
        arguments := []
        soundsUsed := []
        previous := none
        hat := none } := by
    simp [inner, Workspace.shift, Table.rename]
  rw [hshift] at hset
  refine follows_then hset (follows_then (follows_pure trivial) ?_)
  refine follows_then (repeats_sequence hmethods) (follows_modify fun w hw => ⟨⟨hsaved.1, ?_⟩, ?_⟩)
  · exact forall_mem_append.2 ⟨hw.2, forall_mem_singleton.2 hw.1⟩
  · simp [Workspace.shift, Draft.rename, scope]

theorem Class.repeats_forM {cs : List Class} (h : ∀ c ∈ cs, c.isPlain) :
    Repeats k (cs.forM (·.build)) := by
  induction cs with
  | nil => exact follows_pure trivial
  | cons c cs ih =>
    rw [forall_mem_cons] at h
    exact follows_then (repeats_build h.1) (ih h.2)

end Core

end BlockScript
