import Mathlib.Data.List.Forall2
import BlockScript.Proofs.Renaming
import BlockScript.Proofs.Run

/-!
# Two runs in step

Two runs of the compiler that have issued different numbers of identifiers before do the same, step
by step, up to identifiers. `Workspace.Renamed` relates the two workspaces at every moment, and
`Build.InStep` says of a step that it keeps this relation: both runs end well with results that
correspond, or both fail for the same reason. Whole programs are put together from such steps, so
that no step can look at what an identifier is. The relation follows the data too: lists are made
without items, and variables with zero or a value that an `Allowance` names for the sprite at hand.

`Table.rename` and its relatives are not enough here, because identifiers are not only where one
expects them:

* The inputs of a procedure are named by the identifiers of its arguments, so the names of inputs
  are renamed too. The names that the vocabulary gives are shorter than any identifier and stay.
* A block in the place of a colour, a place to glide to or an effect is written down as data, with
  its identifier in it (`Operand.text`, `Operand.toValue`). One cannot tell such a text from one that
  the program gave, and so a colour or a choice corresponds to another one in a relation
  (`Text.Renamed`, `Value.Renamed`), which has no function.
-/

namespace BlockScript

open Function BlockScript.Id Input List

/-! ### Tables -/

namespace Table

variable {α : Type} {ρ : Id → Id} {R : α → α → Prop} {t t' : Table α} {key : String}

/-- The second table has renamed keys, and values that correspond. -/
def Renamed (ρ : Id → Id) (R : α → α → Prop) (t t' : Table α) : Prop :=
  List.Forall₂ (fun p p' => p'.1 = ρ p.1 ∧ R p.2 p'.2) t t'

theorem Renamed.find? (hρ : Injective ρ) (h : Renamed ρ R t t') (key : String) :
    Option.Rel R (t.find? key) (t'.find? (ρ key)) := by
  induction h with
  | nil => exact .none
  | @cons p p' rest rest' hp hrest ih =>
    obtain ⟨k, v⟩ := p
    obtain ⟨k', v'⟩ := p'
    obtain ⟨rfl, hv⟩ := hp
    rw [Table.find?, Table.find?]
    by_cases hk : k = key
    · rw [if_pos hk, if_pos (congrArg ρ hk)]
      exact .some hv
    · rw [if_neg hk, if_neg (hρ.ne hk)]
      exact ih

theorem Renamed.has (hρ : Injective ρ) (h : Renamed ρ R t t') (key : String) :
    t'.has (ρ key) = t.has key := by
  have hfind := h.find? hρ key
  rw [Table.has, Table.has]
  generalize t.find? key = o, t'.find? (ρ key) = o' at hfind ⊢
  cases hfind <;> rfl

theorem Renamed.set (hρ : Injective ρ) (h : Renamed ρ R t t') {v v' : α} (hv : R v v') :
    Renamed ρ R (t.set key v) (t'.set (ρ key) v') := by
  induction h with
  | nil => exact .cons ⟨rfl, hv⟩ .nil
  | @cons p p' rest rest' hp hrest ih =>
    obtain ⟨k, u⟩ := p
    obtain ⟨k', u'⟩ := p'
    obtain ⟨rfl, hu⟩ := hp
    rw [Table.set, Table.set]
    by_cases hk : k = key
    · rw [if_pos hk, if_pos (congrArg ρ hk)]
      exact .cons ⟨rfl, hv⟩ hrest
    · rw [if_neg hk, if_neg (hρ.ne hk)]
      exact .cons ⟨rfl, hu⟩ ih

theorem Renamed.adjust (hρ : Injective ρ) (h : Renamed ρ R t t') {f f' : α → α}
    (hf : ∀ v v', R v v' → R (f v) (f' v')) :
    Renamed ρ R (t.adjust key f) (t'.adjust (ρ key) f') := by
  induction h with
  | nil => exact .nil
  | @cons p p' rest rest' hp hrest ih =>
    obtain ⟨k, u⟩ := p
    obtain ⟨k', u'⟩ := p'
    obtain ⟨rfl, hu⟩ := hp
    rw [Table.adjust, Table.adjust]
    by_cases hk : k = key
    · rw [if_pos hk, if_pos (congrArg ρ hk)]
      exact .cons ⟨rfl, hf u u' hu⟩ hrest
    · rw [if_neg hk, if_neg (hρ.ne hk)]
      exact .cons ⟨rfl, hu⟩ ih

theorem find?_rename_id (g : α → α) (t : Table α) (key : String) :
    (t.rename id g).find? key = (t.find? key).map g :=
  find?_rename injective_id g t key

theorem rename_id_set (g : α → α) (t : Table α) (key : String) (v : α) :
    (t.set key v).rename id g = (t.rename id g).set key (g v) :=
  rename_set injective_id g t key v

end Table

/-! ### Blocks and targets -/

section Renamed

variable (ρ : Id → Id)

/-- The texts are the same, or show blocks that correspond. -/
def Text.Renamed (t t' : String) : Prop :=
  t' = t ∨ ∃ id, (Operand.block id).text = .ok t ∧ ((Operand.block id).rename ρ).text = .ok t'

/-- The values are the same, are blocks that correspond, or are texts that show such blocks. -/
inductive Value.Renamed : Value → Value → Prop
  | same (v : Value) : Renamed v v
  | operand (o : Operand) : Renamed o.toValue (o.rename ρ).toValue
  | shown {t t' : String} (h : Text.Renamed ρ t t') : Renamed (.str t) (.str t')

/-- Only in a colour can there be a text that shows a block. -/
def Literal.Renamed : Literal → Literal → Prop
  | .color t, l' => ∃ t', l' = .color t' ∧ Text.Renamed ρ t t'
  | l, l' => l' = l.rename ρ

def Input.Renamed : Input → Input → Prop
  | .literal l, i' => ∃ l', i' = .literal l' ∧ l.Renamed ρ l'
  | i, i' => i' = i.rename ρ

structure Field.Renamed (f f' : Field) : Prop where
  value : f.value.Renamed ρ f'.value
  id : f'.id = f.id.map ρ

/-- The second block is the first with other identifiers: in its links, in its inputs and their
names, in its fields, and in what it says about a procedure. -/
structure Block.Renamed (b b' : Block) : Prop where
  opcode : b'.opcode = b.opcode
  next : b'.next = b.next.map ρ
  parent : b'.parent = b.parent.map ρ
  inputs : b.inputs.Renamed ρ (Input.Renamed ρ) b'.inputs
  fields : b.fields.Renamed id (Field.Renamed ρ) b'.fields
  shadow : b'.shadow = b.shadow
  topLevel : b'.topLevel = b.topLevel
  position : b'.position = b.position
  mutation : b'.mutation = b.mutation.map (Mutation.rename ρ)

structure Draft.Renamed (d d' : Draft) : Prop where
  name : d'.name = d.name
  blocks : d.blocks.Renamed ρ (Block.Renamed ρ) d'.blocks
  vars : d'.vars = d.vars.map (Variable.rename ρ)
  scope : d'.scope = d.scope
  broadcasts : d'.broadcasts = d.broadcasts.rename id ρ
  soundsUsed : d'.soundsUsed = d.soundsUsed
  settings : d'.settings = d.settings

/-- The second target is the first with other identifiers. -/
structure Target.Renamed (t t' : Target) : Prop where
  name : t'.name = t.name
  blocks : t.blocks.Renamed ρ (Block.Renamed ρ) t'.blocks
  vars : t'.vars = t.vars.map (Variable.rename ρ)
  lists : t'.lists = t.lists.map (ItemList.rename ρ)
  broadcasts : t'.broadcasts = t.broadcasts.rename id ρ
  soundsUsed : t'.soundsUsed = t.soundsUsed
  settings : t'.settings = t.settings

/-- **The second result is the first with other identifiers.** -/
structure Compilation.Renamed (c c' : Compilation) : Prop where
  targets : List.Forall₂ (Target.Renamed ρ) c.targets c'.targets
  stage : c'.stage = c.stage

/-- The faults are the same, or miss blocks that correspond. -/
def Fault.Renamed (e e' : Fault) : Prop :=
  e' = e ∨ ∃ id, e = .missingKey (Value.quotedString id) ∧
    e' = .missingKey (Value.quotedString (ρ id))

end Renamed

theorem Literal.renamed_rename {ρ : Id → Id} (l : Literal) : l.Renamed ρ (l.rename ρ) := by
  cases l with
  | color t => exact ⟨t, rfl, .inl rfl⟩
  | number | text | messageName | variableName => rfl

theorem Input.renamed_rename {ρ : Id → Id} (i : Input) : i.Renamed ρ (i.rename ρ) := by
  cases i with
  | literal l => exact ⟨_, rfl, l.renamed_rename⟩
  | menu | block | reporter | embedded | given => rfl

theorem Field.renamed_rename {ρ : Id → Id} (f : Field) : f.Renamed ρ (f.rename ρ) :=
  ⟨.same f.value, rfl⟩

/-- Two runs show an operand in the same way, or fail to show it for the same reason. -/
theorem Operand.text_rename (ρ : Id → Id) (o : Operand) :
    (∃ e, o.text = .error e ∧ (o.rename ρ).text = .error e) ∨
      ∃ t t', o.text = .ok t ∧ (o.rename ρ).text = .ok t' ∧ Text.Renamed ρ t t' := by
  have hsame (ho : o.rename ρ = o) :
      (∃ e, o.text = .error e ∧ (o.rename ρ).text = .error e) ∨
        ∃ t t', o.text = .ok t ∧ (o.rename ρ).text = .ok t' ∧ Text.Renamed ρ t t' := by
    rw [ho]
    rcases o.text with e | t
    · exact .inl ⟨e, rfl, rfl⟩
    · exact .inr ⟨t, t, rfl, rfl, .inl rfl⟩
  cases o with
  | value v => exact hsame rfl
  | name n => exact hsame rfl
  | block id =>
    cases id with
    | none => exact hsame rfl
    | some i => exact .inr ⟨_, _, rfl, rfl, .inr ⟨some i, rfl, rfl⟩⟩

/-- The names that the vocabulary uses are shorter than identifiers, and so they are none. -/
theorem Id.shift_of_length_lt (k : Nat) {s : String} (h : s.length < 20) : shift k s = s := by
  rw [shift, if_neg]
  intro heq
  have hlen := le_length_ofNat (Text.readHex s.toList)
  rw [heq] at hlen
  omega

/-! ### Workspaces -/

/-- The values that variables may start with besides zero, and the sprite that is being compiled, if
its code stands in a class. -/
structure Allowance where
  values : Option String → String → Value → Prop
  sprite : Option String

/-- A variable of a sprite starts with zero or with a value that is allowed there. -/
def Allowance.Allows (P : Allowance) (sprite : Option String) (v : Variable) : Prop :=
  v.initial = .int 0 ∨ P.values sprite v.name v.initial

/-- The second workspace is the first after more identifiers were issued. The data of both are the
same: lists start empty, and variables with what is allowed. -/
structure Workspace.Renamed (P : Allowance) (k : Nat) (w w' : Workspace) : Prop where
  issued : w'.issued = w.issued + k
  blocks : w.blocks.Renamed (Id.shift k) (Block.Renamed (Id.shift k)) w'.blocks
  previous : w'.previous = w.previous.map (Id.shift k)
  hat : w'.hat = w.hat.map (Id.shift k)
  vars : w'.vars = w.vars.map (Variable.rename (Id.shift k))
  scopes : w'.scopes = w.scopes.map (·.map (ItemList.rename (Id.shift k)))
  broadcasts : w'.broadcasts = w.broadcasts.rename id (Id.shift k)
  procedures : w'.procedures = w.procedures.rename id (Procedure.rename (Id.shift k))
  arguments : w'.arguments = w.arguments
  soundsUsed : w'.soundsUsed = w.soundsUsed
  drafts : List.Forall₂ (Draft.Renamed (Id.shift k)) w.drafts w'.drafts
  varsStart : ∀ v ∈ w.vars, P.Allows P.sprite v
  listsStart : ∀ ls ∈ w.scopes, ∀ l ∈ ls, l.items = .list []
  draftsStart : ∀ d ∈ w.drafts, ∀ v ∈ d.vars, P.Allows (some d.name) v

variable {P : Allowance}

theorem Workspace.Renamed.lists {k : Nat} {w w' : Workspace} (h : w.Renamed P k w') :
    w'.lists = w.lists.map (ItemList.rename (Id.shift k)) := by
  rw [Workspace.lists, Workspace.lists, h.scopes, getLast?_map]
  cases w.scopes.getLast? <;> rfl

/-- The lists at hand are those of a scope. -/
theorem Workspace.exists_mem_scopes {w : Workspace} {l : ItemList} (h : l ∈ w.lists) :
    ∃ ls ∈ w.scopes, l ∈ ls := by
  rw [lists] at h
  cases hlast : w.scopes.getLast? with
  | none =>
    rw [hlast] at h
    cases h
  | some ls =>
    rw [hlast] at h
    exact ⟨ls, mem_of_getLast? hlast, h⟩

theorem Workspace.Renamed.addList {k : Nat} {w w' : Workspace} (h : w.Renamed P k w')
    {l : ItemList} (hl : l.items = .list []) :
    (w.addList l).Renamed P k (w'.addList (l.rename (Id.shift k))) := by
  refine { h with scopes := ?_, listsStart := ?_ }
  · change w'.scopes.dropLast ++ [w'.lists ++ [_]] =
      map _ (w.scopes.dropLast ++ [w.lists ++ [l]])
    rw [h.lists, h.scopes, map_append, map_dropLast, map_singleton, map_append,
      map_singleton]
  · intro ls hls l' hl'
    rcases mem_append.1 hls with hls | hls
    · exact h.listsStart ls (dropLast_subset _ hls) l' hl'
    · rw [mem_singleton.1 hls] at hl'
      rcases mem_append.1 hl' with hl' | hl'
      · obtain ⟨ls', hls', hmem⟩ := exists_mem_scopes hl'
        exact h.listsStart ls' hls' l' hmem
      · rw [mem_singleton.1 hl', hl]

namespace Build

variable {k : Nat} {α β : Type}

/-- Both runs end well with results that correspond, or both fail for the same reason. -/
def Agree (P : Allowance) (k : Nat) (R : α → α → Prop) :
    Except Fault α × Workspace → Except Fault α × Workspace → Prop
  | (.ok a, w), (.ok a', w') => R a a' ∧ w.Renamed P k w'
  | (.error e, _), (.error e', _) => e.Renamed (Id.shift k) e'
  | _, _ => False

/-- **The steps are in step**: in workspaces that correspond they do the same. -/
def InStep (P : Allowance) (k : Nat) (R : α → α → Prop) (m m' : Build α) : Prop :=
  ∀ w w', w.Renamed P k w' → Agree P k R (m.run w) (m'.run w')

/-- A step without a result that is in step with itself. -/
def Steady (P : Allowance) (k : Nat) (m : Build Unit) : Prop := InStep P k Eq m m

variable {R : α → α → Prop} {S : β → β → Prop} {m m' : Build α} {f f' : α → Build β}

/-! ### Steps one after the other -/

theorem inStep_pure {a a' : α} (h : R a a') : InStep P k R (pure a) (pure a') :=
  fun _ _ hw => ⟨h, hw⟩

/-- After two runs that agree, two steps agree if they do on what the runs end with. -/
theorem Agree.bind {Q : Allowance} {w w' : Workspace} (h : Agree Q k R (m.run w) (m'.run w'))
    (hf : ∀ a a' v v', R a a' → v.Renamed Q k v' → Agree P k S ((f a).run v) ((f' a').run v')) :
    Agree P k S ((m >>= f).run w) ((m' >>= f').run w') := by
  rw [run_bind, run_bind]
  rcases hm : m.run w with ⟨e | a, v⟩ <;> rcases hm' : m'.run w' with ⟨e' | a', v'⟩ <;>
    rw [hm, hm'] at h
  · exact h
  · exact h.elim
  · exact h.elim
  · exact hf a a' v v' h.1 h.2

theorem inStep_bind (h : InStep P k R m m') (hf : ∀ a a', R a a' → InStep P k S (f a) (f' a')) :
    InStep P k S (m >>= f) (m' >>= f') :=
  fun w w' hw => (h w w' hw).bind fun a a' v v' ha hv => hf a a' ha v v' hv

theorem inStep_then {n n' : Build Unit} {c c' : Build β} (h : InStep P k Eq n n')
    (hc : InStep P k S c c') : InStep P k S (do n; c) (do n'; c') :=
  inStep_bind h fun _ _ _ => hc

/-- A result has what every run of its step gives it. -/
theorem inStep_and {Q : α → Prop} (h : InStep P k R m m')
    (hQ : ∀ w a w₁, m.run w = (.ok a, w₁) → Q a) : InStep P k (fun a a' => R a a' ∧ Q a) m m' := by
  intro w w' hw
  have hagree := h w w' hw
  rcases hm : m.run w with ⟨e | a, v⟩ <;> rcases hm' : m'.run w' with ⟨e' | a', v'⟩ <;>
    rw [hm, hm'] at hagree
  · exact hagree
  · exact hagree
  · exact hagree
  · exact ⟨⟨hagree.1, hQ w a v hm⟩, hagree.2⟩

theorem inStep_get : InStep P k (Workspace.Renamed P k) get get := fun _ _ hw => ⟨hw, hw⟩

theorem inStep_modify {g g' : Workspace → Workspace}
    (h : ∀ w w', w.Renamed P k w' → (g w).Renamed P k (g' w')) :
    InStep P k Eq (modify g) (modify g') :=
  fun w w' hw => ⟨rfl, h w w' hw⟩

theorem inStep_throw {e e' : Fault} (h : e.Renamed (shift k) e') :
    InStep P k R (throw e) (throw e') := fun _ _ _ => h

/-- A result that does not depend on the workspace. -/
theorem inStep_lift (r : Except Fault α) : InStep P k Eq (lift r) (lift r) := by
  cases r with
  | ok a => exact inStep_pure rfl
  | error e => exact inStep_throw (.inl rfl)

/-- What is shown of an operand. -/
theorem inStep_lift_text (o : Operand) :
    InStep P k (Text.Renamed (shift k)) (lift o.text) (lift (o.rename (shift k)).text) := by
  rcases o.text_rename (shift k) with ⟨e, he, he'⟩ | ⟨t, t', ht, ht', h⟩
  · rw [he, he']
    exact inStep_throw (.inl rfl)
  · rw [ht, ht']
    exact inStep_pure h

theorem steady_forM {γ : Type} {g : γ → Build Unit} {l : List γ} (h : ∀ x ∈ l, Steady P k (g x)) :
    Steady P k (l.forM g) := by
  induction l with
  | nil => exact inStep_pure rfl
  | cons x l ih =>
    rw [forall_mem_cons] at h
    exact inStep_then h.1 (ih h.2)

/-! ### Identifiers and blocks -/

theorem inStep_fresh : InStep P k (fun i i' => i' = shift k i) fresh fresh := by
  intro w w' hw
  refine ⟨?_, { hw with issued := ?_ }⟩
  · change ofNat (w'.issued + 1) = shift k (ofNat (w.issued + 1))
    rw [shift_ofNat, hw.issued, Nat.add_right_comm]
  · change w'.issued + 1 = w.issued + 1 + k
    rw [hw.issued, Nat.add_right_comm]

theorem inStep_put (i : Id) {b b' : Block} (h : b.Renamed (shift k) b') :
    InStep P k Eq (put i b) (put (shift k i) b') :=
  inStep_modify fun _ _ hw => { hw with blocks := hw.blocks.set (shift_injective k) h }

theorem inStep_update (i : Id) {g g' : Block → Block}
    (h : ∀ b b', b.Renamed (shift k) b' → (g b).Renamed (shift k) (g' b')) :
    InStep P k Eq (update i g) (update (shift k i) g') := by
  intro w w' hw
  rw [run_update, run_update, hw.blocks.has (shift_injective k)]
  split
  · exact ⟨rfl, { hw with blocks := hw.blocks.adjust (shift_injective k) h }⟩
  · exact .inr ⟨i, rfl, rfl⟩

theorem inStep_setParent (i : Option Id) (p : Id) :
    InStep P k Eq (setParent i p) (setParent (i.map (shift k)) (shift k p)) := by
  cases i with
  | none => exact inStep_throw (.inl rfl)
  | some i => exact inStep_update i fun _ _ hb => { hb with parent := rfl }

/-- An input of the vocabulary is set. -/
theorem inStep_setInput (i : Id) {name : String} (hname : name.length < 20) {x x' : Input}
    (h : x.Renamed (shift k) x') :
    InStep P k Eq (setInput i name x) (setInput (shift k i) name x') := by
  refine inStep_update i fun b b' hb => { hb with inputs := ?_ }
  have hset : Table.Renamed _ _ (b.inputs.set name x) (b'.inputs.set (shift k name) x') :=
    hb.inputs.set (shift_injective k) h
  rw [shift_of_length_lt k hname] at hset
  exact hset

theorem inStep_setInputs (i : Id) {inputs inputs' : Table Input}
    (h : inputs.Renamed (shift k) (Renamed (shift k)) inputs') :
    InStep P k Eq (setInputs i inputs) (setInputs (shift k i) inputs') :=
  inStep_update i fun _ _ hb => { hb with inputs := h }

theorem inStep_setField (i : Id) (name : String) {x x' : Field}
    (h : x.Renamed (shift k) x') :
    InStep P k Eq (setField i name x) (setField (shift k i) name x') :=
  inStep_update i fun _ _ hb =>
    { hb with fields := hb.fields.set injective_id h }

theorem inStep_setWord (i : Id) (name word : String) :
    InStep P k Eq (setField i name (.word word)) (setField (shift k i) name (.word word)) :=
  inStep_setField i name (Field.renamed_rename (.word word))

/-- The fields of a block are replaced by one that names something. -/
theorem inStep_setNamed (i : Id) (name x : String) (v : Id) :
    InStep P k Eq (update i fun b => { b with fields := [(name, .named x v)] })
      (update (shift k i) fun b => { b with fields := [(name, .named x (shift k v))] }) :=
  inStep_update i fun _ _ hb =>
    { hb with fields := .cons ⟨rfl, Field.renamed_rename (.named x v)⟩ .nil }

theorem inStep_setPrevious (p : Option Id) :
    InStep P k Eq (setPrevious p) (setPrevious (p.map (shift k))) :=
  inStep_modify fun _ _ hw => { hw with previous := rfl }

/-- A block is stored under a new identifier. -/
theorem inStep_put_fresh {b b' : Block} (h : b.Renamed (shift k) b') :
    InStep P k (fun i i' => i' = shift k i) (do let id ← fresh; put id b; pure id)
      (do let id ← fresh; put id b'; pure id) := by
  refine inStep_bind inStep_fresh ?_
  rintro i _ rfl
  exact inStep_then (inStep_put i h) (inStep_pure rfl)

theorem inStep_create (opcode : String) (place : Placement) {inputs inputs' : Table Input}
    (h : inputs.Renamed (shift k) (Renamed (shift k)) inputs') :
    InStep P k (fun i i' => i' = shift k i) (create opcode place inputs)
      (create opcode place inputs') := by
  rw [create, create]
  refine inStep_bind inStep_fresh ?_
  rintro i _ rfl
  have hgive : InStep P k (fun i i' => i' = shift k i) (pure i) (pure (shift k i)) :=
    inStep_pure rfl
  have hblock (parent : Option Id) : Block.Renamed (shift k)
      { opcode, inputs, parent, topLevel := place.topLevel
        position := if place.topLevel then some (0, 0) else none }
      { opcode, inputs := inputs', parent := parent.map (shift k), topLevel := place.topLevel
        position := if place.topLevel then some (0, 0) else none } :=
    { opcode := rfl
      next := rfl
      parent := rfl
      inputs := h
      fields := .nil
      shadow := rfl
      topLevel := rfl
      position := rfl
      mutation := rfl }
  cases place.isReporter with
  | true => exact inStep_then (inStep_put i (hblock none)) hgive
  | false =>
    refine inStep_bind inStep_get fun w w' hw => ?_
    rw [hw.previous]
    have hmark : InStep P k Eq
        (modify fun v =>
          { v with previous := some i, hat := if place.isHat then some i else v.hat })
        (modify fun v =>
          { v with
            previous := some (shift k i)
            hat := if place.isHat then some (shift k i) else v.hat }) := by
      refine inStep_modify fun v v' hv => { hv with previous := rfl, hat := ?_ }
      cases place.isHat with
      | true => rfl
      | false => exact hv.hat
    have hjoin := inStep_then (inStep_put i (hblock w.previous)) (inStep_then hmark hgive)
    cases hp : w.previous with
    | none =>
      rw [hp] at hjoin
      exact hjoin
    | some p =>
      rw [hp] at hjoin
      exact inStep_then (inStep_update p fun _ _ hb => { hb with next := rfl }) hjoin

theorem inStep_statement (opcode : String) :
    InStep P k (fun i i' => i' = shift k i) (statement opcode) (statement opcode) :=
  inStep_create opcode .stack .nil

theorem inStep_reporter (opcode : String) :
    InStep P k (fun i i' => i' = shift k i) (reporter opcode) (reporter opcode) :=
  inStep_create opcode .reporter .nil

theorem inStep_menu (opcode field : String) {value value' : Value}
    (h : value.Renamed (shift k) value') (parent : Option Id) :
    InStep P k (fun i i' => i' = shift k i) (menu opcode field value parent)
      (menu opcode field value' (parent.map (shift k))) := by
  refine inStep_put_fresh ?_
  exact
    { opcode := rfl
      next := rfl
      parent := rfl
      inputs := .nil
      fields := .cons ⟨rfl, h, rfl⟩ .nil
      shadow := rfl
      topLevel := rfl
      position := rfl
      mutation := rfl }

theorem steady_endScript : Steady P k endScript :=
  inStep_modify fun _ _ hw => { hw with previous := rfl, hat := rfl }

/-! ### What names stand for -/

theorem inStep_variableNamed (name : String) {initial : Value}
    (hinitial : initial = .int 0 ∨ P.values P.sprite name initial) :
    InStep P k (fun i i' => i' = shift k i) (variableNamed name initial)
      (variableNamed name initial) := by
  refine inStep_bind inStep_get fun w w' hw => ?_
  have hfind : w'.vars.find? (·.name == name) =
      (w.vars.find? (·.name == name)).map (Variable.rename (shift k)) := by
    rw [hw.vars]
    exact find?_map ..
  rw [hfind]
  cases w.vars.find? (·.name == name) with
  | some v => exact inStep_pure rfl
  | none =>
    refine inStep_bind inStep_fresh ?_
    rintro i _ rfl
    refine inStep_then (inStep_modify fun v v' hv => { hv with vars := ?_, varsStart := ?_ })
      (inStep_pure rfl)
    · change v'.vars ++ [_] = (v.vars ++ [_]).map _
      rw [hv.vars, map_append]
      rfl
    · exact forall_mem_append.2 ⟨hv.varsStart, forall_mem_singleton.2 hinitial⟩

theorem inStep_listNamed (name : String) :
    InStep P k (fun i i' => i' = shift k i) (listNamed name (.list []))
      (listNamed name (.list [])) := by
  refine inStep_bind inStep_get fun w w' hw => ?_
  have hfind : w'.lists.find? (·.name == name) =
      (w.lists.find? (·.name == name)).map (ItemList.rename (shift k)) := by
    rw [hw.lists]
    exact find?_map ..
  rw [hfind]
  cases w.lists.find? (·.name == name) with
  | some l => exact inStep_pure rfl
  | none =>
    refine inStep_bind inStep_fresh ?_
    rintro i _ rfl
    exact inStep_then (inStep_modify fun _ _ hv => hv.addList rfl) (inStep_pure rfl)

theorem inStep_messageNamed (name : String) :
    InStep P k (fun i i' => i' = shift k i) (messageNamed name) (messageNamed name) := by
  refine inStep_bind inStep_get fun w w' hw => ?_
  rw [hw.broadcasts, Table.find?_rename_id]
  cases w.broadcasts.find? name with
  | some i => exact inStep_pure rfl
  | none =>
    refine inStep_bind inStep_fresh ?_
    rintro i _ rfl
    refine inStep_then (inStep_modify fun v v' hv => { hv with broadcasts := ?_ }) (inStep_pure rfl)
    change v'.broadcasts.set name _ = _
    rw [hv.broadcasts, ← Table.rename_id_set]

theorem steady_useSound (name : String) : Steady P k (useSound name) := by
  refine inStep_modify fun w w' hw => { hw with soundsUsed := ?_ }
  change (if w'.soundsUsed.contains name then w'.soundsUsed else w'.soundsUsed ++ [name]) = _
  rw [hw.soundsUsed]

theorem inStep_variableReporter (name : String) :
    InStep P k (fun i i' => i' = shift k i) (variableReporter name) (variableReporter name) := by
  refine inStep_bind (inStep_variableNamed name (.inl rfl)) ?_
  rintro v _ rfl
  refine inStep_put_fresh ?_
  exact
    { opcode := rfl
      next := rfl
      parent := rfl
      inputs := .nil
      fields := .cons ⟨rfl, Field.renamed_rename (.named name v)⟩ .nil
      shadow := rfl
      topLevel := rfl
      position := rfl
      mutation := rfl }

/-! ### Operands -/

theorem inStep_plug (o : Operand) (parent : Option Id) :
    InStep P k (Renamed (shift k)) (plug o parent)
      (plug (o.rename (shift k)) (parent.map (shift k))) := by
  cases o with
  | value v =>
    refine inStep_bind (inStep_lift v.text) ?_
    rintro t _ rfl
    refine inStep_pure ?_
    cases v.isNumber <;> exact renamed_rename _
  | name n =>
    refine inStep_bind (inStep_variableReporter n) ?_
    rintro i _ rfl
    cases parent with
    | none => exact inStep_pure rfl
    | some p => exact inStep_then (inStep_setParent (some i) p) (inStep_pure rfl)
  | block i =>
    cases parent with
    | none => exact inStep_pure rfl
    | some p => exact inStep_then (inStep_setParent i p) (inStep_pure rfl)

/-- The operands of two runs, each for an input. -/
def renamedOperands (k : Nat) (os : List (String × Operand)) : List (String × Operand) :=
  os.map fun p => (Id.shift k p.1, p.2.rename (Id.shift k))

theorem inStep_plugAll (parent : Id) (os : List (String × Operand)) :
    InStep P k (Table.Renamed (shift k) (Renamed (shift k))) (plugAll parent os)
      (plugAll (shift k parent) (renamedOperands k os)) := by
  induction os with
  | nil => exact inStep_pure .nil
  | cons p os ih =>
    refine inStep_bind (inStep_plug p.2 (some parent)) fun i i' hi => ?_
    refine inStep_bind ih fun inputs inputs' hinputs => ?_
    exact inStep_pure (.cons ⟨rfl, hi⟩ hinputs)

end Build

end BlockScript
