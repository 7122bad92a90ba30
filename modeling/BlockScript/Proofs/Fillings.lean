import BlockScript.Proofs.Soundness

/-!
# What fills an input

An expression without calls becomes a tree of blocks: operators with constants, variables and other
operators in their inputs. `Filling` is this tree without identifiers, and `Filling.Fills` says that
a table of blocks has it below an input, with the identifiers in the order in which the tree is
read.

Each way to make a block that is plugged in makes a node of such a tree, out of new blocks each of
which is used once, and leaves everything else as it was (`Workspace.Expands`): an operator with two
operands (`Filling.withOperands_meets`), a negation (`Filling.negation_meets`), two conditions that
are joined (`Filling.join_meets`) and a condition with a fixed answer
(`Filling.constantCondition_meets`).
-/

namespace BlockScript

open Workspace Build Program BlockScript.Id List Meaning Table

/-! ### Workspaces to which parts are added -/

namespace Workspace

/-- The identifiers of all blocks were issued. -/
def Numbered (w : Workspace) : Prop := ∀ id ∈ w.blocks.keys, Id.Issued w.issued id

variable {w w' w'' : Workspace}

theorem Numbered.free (h : w.Numbered) : w.Free :=
  find?_eq_none_iff.2 fun hmem => (h _ hmem).ne_ofNat (Nat.lt_succ_self _) rfl

theorem Numbered.not_mem (h : w.Numbered) : ofNat (w.issued + 1) ∉ w.blocks.keys :=
  find?_eq_none_iff.1 h.free

theorem Numbered.push (h : w.Numbered) (b : Block) : (w.push b).Numbered := by
  intro id hid
  change id ∈ Table.keys (w.blocks ++ _) at hid
  rw [Table.keys_append] at hid
  rcases mem_append.1 hid with hold | hnew
  · exact (h id hold).mono (Nat.le_succ _)
  · rw [mem_singleton.1 hnew]
    exact issued_ofNat (Nat.le_refl _)

theorem Numbered.amend (h : w.Numbered) (id : Id) (f : Block → Block) : (w.amend id f).Numbered := by
  intro k hk
  rw [Workspace.amend, keys_adjust] at hk
  exact h k hk

/-- Blocks and variables are added; the blocks that were there keep everything but their links, and
the script goes on where it was. -/
structure Expands (w w' : Workspace) : Prop where
  numbered : w'.Numbered
  like : ∀ id b, w.blocks.find? id = some b → ∃ b', w'.blocks.find? id = some b' ∧ b.Like b'
  vars : w.vars <+: w'.vars
  previous : w'.previous = w.previous

theorem Expands.refl (h : w.Numbered) : w.Expands w :=
  ⟨h, fun _ b hb => ⟨b, hb, Block.Like.refl b⟩, prefix_refl _, rfl⟩

theorem Expands.trans (h : w.Expands w') (h' : w'.Expands w'') : w.Expands w'' where
  numbered := h'.numbered
  like id b hb := by
    obtain ⟨b', hb', hlike⟩ := h.like id b hb
    obtain ⟨b'', hb'', hlike'⟩ := h'.like id b' hb'
    exact ⟨b'', hb'', hlike.trans hlike'⟩
  vars := h.vars.trans h'.vars
  previous := h'.previous.trans h.previous

theorem Expands.keys (h : w.Expands w') : w.blocks.keys ⊆ w'.blocks.keys := by
  intro id hid
  obtain ⟨b, hb⟩ := mem_keys_iff.1 hid
  obtain ⟨b', hb', -⟩ := h.like id b hb
  exact mem_keys_of_find? hb'

theorem expands_push (h : w.Numbered) (b : Block) : w.Expands (w.push b) :=
  ⟨h.push b, fun _ c hc => ⟨c, find?_append_of_find? hc, Block.Like.refl c⟩,
    prefix_refl _, rfl⟩

theorem expands_hang (h : w.Numbered) (id : Id) (p : Option Id) :
    w.Expands (w.amend id fun b => { b with parent := p }) where
  numbered := h.amend id _
  like k b hb := by
    by_cases hk : id = k
    · subst hk
      exact ⟨_, find?_amend hb _, b.like_setParent p⟩
    · exact ⟨b, (find?_amend_of_ne hk _).trans hb, Block.Like.refl b⟩
  vars := prefix_refl _
  previous := rfl

theorem expands_declare (h : w.Numbered) (x : String) (v : Value) : w.Expands (w.declare x v) :=
  ⟨fun id hid => (h id hid).mono (Nat.le_succ _), fun _ b hb => ⟨b, hb, Block.Like.refl b⟩,
    prefix_append _ _, rfl⟩

/-- A change of a block that was added. -/
theorem Expands.amend (h : w.Expands w') {id : Id} (hid : id ∉ w.blocks.keys) (f : Block → Block) :
    w.Expands (w'.amend id f) where
  numbered := h.numbered.amend id f
  like k b hb := by
    obtain ⟨b', hb', hlike⟩ := h.like k b hb
    have hne : id ≠ k := by
      rintro rfl
      exact hid (mem_keys_of_find? hb)
    exact ⟨b', (find?_amend_of_ne hne f).trans hb', hlike⟩
  vars := h.vars
  previous := h.previous

end Workspace

namespace Table

variable {t : Table Block} {id : Id} {a : Block}

theorem At.mem_keys (h : t.At id a) : id ∈ t.keys := by
  obtain ⟨b, hb, -⟩ := h
  exact mem_keys_of_find? hb

theorem At.has (h : t.At id a) : t.has id := has_iff.2 (mem_keys_iff.1 h.mem_keys)

theorem At.expands {w w' : Workspace} (h : w.blocks.At id a) (he : w.Expands w') :
    w'.blocks.At id a := by
  obtain ⟨b, hb, hlike⟩ := h
  obtain ⟨b', hb', hlike'⟩ := he.like id b hb
  exact ⟨b', hb', hlike.trans hlike'⟩

theorem At.amend {w : Workspace} (h : w.blocks.At id a) {f : Block → Block}
    (hf : ∀ b c : Block, b.Like c → (f b).Like (f c)) : (w.amend id f).blocks.At id (f a) := by
  obtain ⟨b, hb, hlike⟩ := h
  exact ⟨f b, find?_amend hb f, hf a b hlike⟩

end Table

/-! ### Trees of blocks -/

/-- A kind of block that has up to two inputs and is plugged into another one. -/
structure Operator where
  opcode : String
  first : String
  second : String
  /-- Whether the block covers a constant, or stands in a slot without one. -/
  covers : Bool

namespace Operator

/-- An operator of arithmetic. -/
def arithmetic (opcode : String) : Operator := ⟨opcode, "NUM1", "NUM2", true⟩

/-- A comparison, or two conditions that are joined. -/
def condition (opcode : String) : Operator := ⟨opcode, "OPERAND1", "OPERAND2", false⟩

def negation : Operator := ⟨"operator_not", "OPERAND", "", false⟩

/-- The input in which a block of this kind is found. -/
def input (k : Operator) (id : Id) : Input := if k.covers then Core.covering id else .block id

end Operator

/-- What fills an input, with all that is plugged in below it. -/
inductive Filling where
  | empty
  | constant (v : Value)
  | read (x : String)
  | node (k : Operator) (left right : Filling)

namespace Filling

/-- An input of a block, if it is filled. -/
def entry (name : String) : Option Input → Table Input
  | some i => [(name, i)]
  | none => []

/-- The block of an operator that has the given inputs. -/
def block (k : Operator) (l r : Option Input) : Block :=
  { opcode := k.opcode, inputs := entry k.first l ++ entry k.second r }

/-- The input is filled in this way, by blocks with the given identifiers. -/
def Fills (t : Table Block) (vs : List Variable) : Filling → Option Input → List Id → Prop
  | empty, i, ids => i = none ∧ ids = []
  | constant v, i, ids => ids = [] ∧ ∃ text, v.text = .ok text ∧
      i = some (.literal (if v.isNumber then .number text else .text text))
  | read x, i, ids => ∃ id, i = some (Core.covering id) ∧ ids = [id] ∧ ∃ v ∈ vs, v.name = x ∧
      t.At id { opcode := "data_variable", fields := [("VARIABLE", .named x v.id)] }
  | node k left right, i, ids => ∃ id l r ls rs, i = some (k.input id) ∧ ids = id :: (ls ++ rs) ∧
      t.At id (block k l r) ∧ left.Fills t vs l ls ∧ right.Fills t vs r rs

/-- The operand stands for the tree: a constant or a variable as itself, all else by its block. -/
def Ready (t : Table Block) (vs : List Variable) (f : Filling) (ids : List Id) : Operand → Prop
  | .value v => f = constant v ∧ ids = []
  | .name x => f = read x ∧ ids = []
  | .block r => ∃ id, r = some id ∧ f.Fills t vs (some (Core.covering id)) ids

/-- Its constants can be written. -/
def Writable : Filling → Prop
  | empty => True
  | constant v => ∃ text, v.text = .ok text
  | read _ => True
  | node _ left right => left.Writable ∧ right.Writable

variable {t t' : Table Block} {vs vs' : List Variable} {f g : Filling} {i : Option Input}
  {ids : List Id}

theorem Fills.mem_keys (h : f.Fills t vs i ids) : ∀ id ∈ ids, id ∈ t.keys := by
  induction f generalizing i ids with
  | empty =>
    rw [h.2]
    exact fun id hid => by cases hid
  | constant v =>
    rw [h.1]
    exact fun id hid => by cases hid
  | read x =>
    obtain ⟨id, -, rfl, v, -, -, hat⟩ := h
    exact forall_mem_singleton.2 hat.mem_keys
  | node k left right ihl ihr =>
    obtain ⟨id, l, r, ls, rs, -, rfl, hat, hl, hr⟩ := h
    exact forall_mem_cons.2 ⟨hat.mem_keys, forall_mem_append.2 ⟨ihl hl, ihr hr⟩⟩

/-- What is there remains there, as long as its own blocks keep everything but their links. -/
theorem Fills.mono (h : f.Fills t vs i ids)
    (ht : ∀ id ∈ ids, ∀ b, t.find? id = some b → ∃ b', t'.find? id = some b' ∧ b.Like b')
    (hvs : vs ⊆ vs') : f.Fills t' vs' i ids := by
  have hat : ∀ id ∈ ids, ∀ a, t.At id a → t'.At id a := by
    rintro id hid a ⟨b, hb, hlike⟩
    obtain ⟨b', hb', hlike'⟩ := ht id hid b hb
    exact ⟨b', hb', hlike.trans hlike'⟩
  induction f generalizing i ids with
  | empty => exact h
  | constant v => exact h
  | read x =>
    obtain ⟨id, rfl, rfl, v, hv, hname, hid⟩ := h
    exact ⟨id, rfl, rfl, v, hvs hv, hname, hat id (mem_singleton_self _) _ hid⟩
  | node k left right ihl ihr =>
    obtain ⟨id, l, r, ls, rs, rfl, rfl, hid, hl, hr⟩ := h
    have hsub : ∀ k, k ∈ ls ++ rs → k ∈ id :: (ls ++ rs) := fun _ => .tail _
    refine ⟨id, l, r, ls, rs, rfl, rfl, hat id (.head _) _ hid, ihl hl ?_ ?_,
      ihr hr ?_ ?_⟩
    · exact fun k hk => ht k (hsub k (mem_append_left _ hk))
    · exact fun k hk => hat k (hsub k (mem_append_left _ hk))
    · exact fun k hk => ht k (hsub k (mem_append_right _ hk))
    · exact fun k hk => hat k (hsub k (mem_append_right _ hk))

/-- The block that an input names is the first of its tree. -/
theorem Fills.mem_of_target {i : Input} {id : Id} (h : f.Fills t vs (some i) ids)
    (hi : i.target? = some id) : id ∈ ids := by
  cases f with
  | empty => cases h.1
  | constant v =>
    obtain ⟨-, text, -, hc⟩ := h
    cases hc
    cases hi
  | read x =>
    obtain ⟨id', hc, rfl, -⟩ := h
    cases hc
    cases hi
    exact mem_singleton_self _
  | node k left right =>
    obtain ⟨id', l, r, ls, rs, hc, rfl, -⟩ := h
    rw [Operator.input] at hc
    split at hc
    all_goals
      cases hc
      cases hi
      exact .head _

theorem Fills.has_of_target {i : Input} {id : Id} (h : f.Fills t vs (some i) ids)
    (hi : i.target? = some id) : t.has id :=
  has_iff.2 (mem_keys_iff.1 (h.mem_keys id (h.mem_of_target hi)))

theorem Fills.writable (h : f.Fills t vs i ids) : f.Writable := by
  induction f generalizing i ids with
  | empty => trivial
  | constant v =>
    obtain ⟨-, text, htext, -⟩ := h
    exact ⟨text, htext⟩
  | read x => trivial
  | node k left right ihl ihr =>
    obtain ⟨id, l, r, ls, rs, -, -, -, hl, hr⟩ := h
    exact ⟨ihl hl, ihr hr⟩

variable {w w' : Workspace} {o : Operand}

theorem Fills.expands (h : f.Fills w.blocks w.vars i ids) (he : w.Expands w') :
    f.Fills w'.blocks w'.vars i ids :=
  h.mono (fun id _ => he.like id) he.vars.subset

theorem Ready.mono (h : f.Ready t vs ids o)
    (hf : ∀ {i}, f.Fills t vs i ids → f.Fills t' vs' i ids) : f.Ready t' vs' ids o := by
  cases o with
  | value v => exact h
  | name x => exact h
  | block r =>
    obtain ⟨id, rfl, hid⟩ := h
    exact ⟨id, rfl, hf hid⟩

theorem Ready.expands (h : f.Ready w.blocks w.vars ids o) (he : w.Expands w') :
    f.Ready w'.blocks w'.vars ids o := h.mono fun hf => hf.expands he

theorem Ready.mem_keys (h : f.Ready t vs ids o) : ∀ id ∈ ids, id ∈ t.keys := by
  cases o with
  | value v =>
    rw [h.2]
    exact fun id hid => by cases hid
  | name x =>
    rw [h.2]
    exact fun id hid => by cases hid
  | block r =>
    obtain ⟨id, -, hid⟩ := h
    exact hid.mem_keys

/-! ### Plugging in -/

/-- A variable is there, or it is declared. -/
theorem exists_run_variableNamed (hw : w.Numbered) (x : String) (initial : Value) :
    ∃ v w₁, (variableNamed x initial).run w = (.ok v.id, w₁) ∧ w.Expands w₁ ∧ v ∈ w₁.vars ∧
      v.name = x ∧ w₁.blocks = w.blocks := by
  rw [variableNamed, run_bind_of_ok (run_get w)]
  cases hfind : w.vars.find? (·.name == x) with
  | some v =>
    exact ⟨v, w, rfl, Expands.refl hw, mem_of_find?_eq_some hfind,
      by simpa using find?_some hfind, rfl⟩
  | none =>
    exact ⟨⟨x, ofNat (w.issued + 1), initial⟩, w.declare x initial, rfl,
      expands_declare hw _ _, mem_append_right _ (mem_singleton_self _), rfl, rfl⟩

/-- The tree is plugged in: some of its blocks were there, the others are new, and all else stays. -/
structure Plugged (w w' : Workspace) (f : Filling) (i : Input) (ids : List Id) : Prop where
  expands : w.Expands w'
  fills : ∃ ids', f.Fills w'.blocks w'.vars (some i) ids' ∧ ids'.Nodup ∧
    ∀ k ∈ ids', k ∈ ids ∨ k ∉ w.blocks.keys
  same : ∀ k ∉ ids, ∀ b, w.blocks.find? k = some b → w'.blocks.find? k = some b

theorem plug_meets (hw : w.Numbered) (h : f.Ready w.blocks w.vars ids o) (hids : ids.Nodup)
    (parent : Option Id) :
    (plug o parent).Meets w (¬f.Writable) fun i w' => f.Plugged w w' i ids := by
  cases o with
  | value v =>
    obtain ⟨rfl, rfl⟩ := h
    rw [plug, meets_bind]
    cases htext : v.text with
    | error e =>
      rintro ⟨text, hok⟩
      cases htext.symm.trans hok
    | ok text =>
      exact meets_of_run rfl ⟨Expands.refl hw, ⟨[], ⟨rfl, text, htext, rfl⟩, nodup_nil,
        fun k hk => by cases hk⟩, fun _ _ _ hb => hb⟩
  | name x =>
    obtain ⟨rfl, rfl⟩ := h
    obtain ⟨v, w₁, hrun, he₁, hv, hname, hblocks⟩ := exists_run_variableNamed hw x (.int 0)
    let b : Block := { opcode := "data_variable", fields := [("VARIABLE", .named x v.id)] }
    have hread : (variableReporter x).run w = (.ok (ofNat (w₁.issued + 1)), w₁.push b) := by
      rw [variableReporter, run_bind_of_ok hrun, run_bind_of_ok (run_fresh w₁)]
      exact run_bind_of_ok (run_put_fresh he₁.numbered.free b) _
    have he₂ := he₁.trans (expands_push he₁.numbered b)
    have hat : (w₁.push b).blocks.At (ofNat (w₁.issued + 1)) b :=
      ⟨b, find?_push he₁.numbered.free b, Block.Like.refl b⟩
    have hnot : ofNat (w₁.issued + 1) ∉ w.blocks.keys := hblocks ▸ he₁.numbered.not_mem
    have hnew : ∀ k ∈ [ofNat (w₁.issued + 1)], k ∈ [] ∨ k ∉ w.blocks.keys :=
      forall_mem_singleton.2 (.inr hnot)
    have hsame : ∀ k c, w.blocks.find? k = some c → (w₁.push b).blocks.find? k = some c :=
      fun k c hc => find?_append_of_find? (hblocks ▸ hc)
    cases parent with
    | none =>
      exact meets_of_run (run_bind_of_ok hread _)
        ⟨he₂, ⟨_, ⟨_, rfl, rfl, v, hv, hname, hat⟩, nodup_singleton _, hnew⟩,
          fun k _ => hsame k⟩
    | some p =>
      have he₃ := expands_hang he₂.numbered (ofNat (w₁.issued + 1)) (some p)
      refine meets_of_run ((run_bind_of_ok hread _).trans
        (run_bind_of_ok (run_setParent hat.has p) _))
        ⟨he₂.trans he₃, ⟨_, ⟨_, rfl, rfl, v, hv, hname, hat.expands he₃⟩, nodup_singleton _,
          hnew⟩, fun k _ c hc => (find?_amend_of_ne ?_ _).trans (hsame k c hc)⟩
      rintro rfl
      exact hnot (mem_keys_of_find? hc)
  | block r =>
    obtain ⟨id, rfl, hid⟩ := h
    cases parent with
    | none =>
      exact meets_of_run rfl ⟨Expands.refl hw, ⟨ids, hid, hids, fun k hk => .inl hk⟩,
        fun _ _ _ hb => hb⟩
    | some p =>
      have he := expands_hang hw id (some p)
      refine meets_of_run (run_bind_of_ok (run_setParent (hid.has_of_target rfl) p) _)
        ⟨he, ⟨ids, hid.expands he, hids, fun k hk => .inl hk⟩,
          fun k hk b hb => (find?_amend_of_ne ?_ _).trans hb⟩
      rintro rfl
      exact hk (hid.mem_of_target rfl)

/-- The blocks of a node are new, and each of them occurs once. -/
theorem nodup_node {keys₀ keys₁ keys₂ : List Id} {id : Id} {as bs ls rs : List Id}
    (hid₀ : id ∉ keys₀) (hid₁ : id ∈ keys₁) (h₀₁ : keys₀ ⊆ keys₁) (h₁₂ : keys₁ ⊆ keys₂)
    (has : ∀ k ∈ as, k ∈ keys₀) (hbs : ∀ k ∈ bs, k ∈ keys₀) (hnodup : (as ++ bs).Nodup)
    (hls : ∀ k ∈ ls, k ∈ as ∨ k ∉ keys₁) (hrs : ∀ k ∈ rs, k ∈ bs ∨ k ∉ keys₂)
    (hls₂ : ∀ k ∈ ls, k ∈ keys₂) (hl : ls.Nodup) (hr : rs.Nodup) :
    (id :: (ls ++ rs)).Nodup := by
  refine nodup_cons.2 ⟨fun hmem => ?_, hl.append hr fun k hkl hkr => ?_⟩
  · rcases mem_append.1 hmem with hmem | hmem
    · exact (hls id hmem).elim (fun h => hid₀ (has id h)) fun h => h hid₁
    · exact (hrs id hmem).elim (fun h => hid₀ (hbs id h)) fun h => h (h₁₂ hid₁)
  · rcases hrs k hkr with hb | hnew
    · rcases hls k hkl with ha | hnew
      · exact disjoint_of_nodup_append hnodup ha hb
      · exact hnew (h₀₁ (hbs k hb))
    · exact hnew (hls₂ k hkl)

/-- A block with two operands is a node. -/
theorem withOperands_meets {a b : Operand} {as bs : List Id} (hw : w.Numbered)
    (ha : f.Ready w.blocks w.vars as a) (hb : g.Ready w.blocks w.vars bs b)
    (hnodup : (as ++ bs).Nodup) (k : Operator) :
    (withOperands k.opcode k.first k.second a b).Meets w (¬(node k f g).Writable)
      fun id w' => w.Expands w' ∧ ∃ ids,
        (node k f g).Fills w'.blocks w'.vars (some (k.input id)) ids ∧ ids.Nodup ∧
        ∀ j ∈ ids, j ∈ as ++ bs ∨ j ∉ w.blocks.keys := by
  have he₁ := expands_push hw { opcode := k.opcode }
  have hat₁ : (w.push { opcode := k.opcode }).blocks.At (ofNat (w.issued + 1))
      { opcode := k.opcode } := ⟨_, find?_push hw.free _, Block.Like.refl _⟩
  rw [withOperands]
  refine meets_run_bind (run_reporter hw.free k.opcode) ?_
  simp only [plugAll, bind_assoc, pure_bind]
  refine (plug_meets he₁.numbered (ha.expands he₁) (nodup_append.1 hnodup).1 _).bind
    (fun h hc => h hc.1) ?_
  rintro l w₂ ⟨he₂, ⟨ls, hl, hls, hlnew⟩, -⟩
  have he₁₂ := he₁.trans he₂
  refine (plug_meets he₂.numbered (hb.expands he₁₂) (nodup_append.1 hnodup).2.1 _).bind
    (fun h hc => h hc.2) ?_
  rintro r w₃ ⟨he₃, ⟨rs, hr, hrs, hrnew⟩, -⟩
  have hat₃ := (hat₁.expands he₂).expands he₃
  have hids := nodup_node hw.not_mem hat₁.mem_keys he₁.keys he₂.keys ha.mem_keys hb.mem_keys
    hnodup hlnew hrnew hl.mem_keys hls hrs
  -- completing the block changes none of the others
  have hsame : ∀ ks : List Id, (∀ j ∈ ks, j ∈ ls ++ rs) → ∀ j ∈ ks, ∀ c, w₃.blocks.find? j = some c →
      ∃ c', (w₃.amend (ofNat (w.issued + 1)) fun b =>
        { b with inputs := [(k.first, l), (k.second, r)] }).blocks.find? j = some c' ∧
          c.Like c' := by
    intro ks hks j hj c hc
    have hne : ofNat (w.issued + 1) ≠ j := by
      rintro rfl
      exact (nodup_cons.1 hids).1 (hks _ hj)
    exact ⟨c, (find?_amend_of_ne hne _).trans hc, Block.Like.refl c⟩
  have hat : (w₃.amend (ofNat (w.issued + 1)) fun b =>
      { b with inputs := [(k.first, l), (k.second, r)] }).blocks.At (ofNat (w.issued + 1))
        (block k (some l) (some r)) := hat₃.amend fun _ _ h => h.setInputs _
  have hlw := (hl.expands he₃).mono (hsame ls fun _ => mem_append_left _) (.refl _)
  have hrw := hr.mono (hsame rs fun _ => mem_append_right _) (.refl _)
  refine meets_of_run (run_bind_of_ok (run_setInputs hat₃.has _) _)
    ⟨(he₁₂.trans he₃).amend hw.not_mem _, ofNat (w.issued + 1) :: (ls ++ rs),
      ⟨_, some l, some r, ls, rs, rfl, rfl, hat, hlw, hrw⟩, hids, ?_⟩
  refine forall_mem_cons.2 ⟨.inr hw.not_mem, forall_mem_append.2 ⟨fun j hj => ?_,
    fun j hj => ?_⟩⟩
  · exact (hlnew j hj).imp (mem_append_left _) fun h hc => h (he₁.keys hc)
  · exact (hrnew j hj).imp (mem_append_right _) fun h hc => h (he₁₂.keys hc)

/-! ### Conditions -/

/-- The condition is filled in this way: it has a block of its own, or nothing fills its slot. -/
abbrev Stands (t : Table Block) (vs : List Variable) (f : Filling) (c : Option Id)
    (ids : List Id) : Prop := f.Fills t vs (c.map .block) ids

/-- A block with one more slot filled, if there is something to fill it. -/
def holding (a : Block) (name : String) (c : Option Id) : Block :=
  c.elim a fun c => a.setInput name (.block c)

/-- A condition is plugged into a new block. Trees without this block remain. -/
theorem run_plugCondition {w₀ : Workspace} {id : Id} {a : Block} {c : Option Id}
    (he : w₀.Expands w) (hid : id ∉ w₀.blocks.keys) (hat : w.blocks.At id a)
    (hc : f.Stands w.blocks w.vars c ids) (hne : id ∉ ids) (name : String) :
    ∃ w', (plugCondition id name c).run w = (.ok (), w') ∧ w₀.Expands w' ∧
      w'.blocks.At id (holding a name c) ∧
      ∀ {g : Filling} {i ks}, id ∉ ks → g.Fills w.blocks w.vars i ks →
        g.Fills w'.blocks w'.vars i ks := by
  cases c with
  | none => exact ⟨w, rfl, he, hat, fun _ h => h⟩
  | some c =>
    have hcid : id ≠ c := fun h => hne (h ▸ hc.mem_of_target rfl)
    let w₁ := w.amend id fun b => b.setInput name (.block c)
    have he₁ : w₀.Expands w₁ := he.amend hid _
    have hhas : w₁.blocks.has c := by
      obtain ⟨b, hb⟩ := has_iff.1 (hc.has_of_target rfl)
      exact has_iff.2 ⟨b, (find?_amend_of_ne hcid _).trans hb⟩
    have he₂ := expands_hang he₁.numbered c (some id)
    refine ⟨_, (run_bind_of_ok (run_setInput hat.has name (.block c)) _).trans
      (run_setParent hhas id), he₁.trans he₂, ?_, fun hks hg => ?_⟩
    · exact (hat.amend fun _ _ h => h.setInput name (.block c)).expands he₂
    · refine hg.mono (fun k hk b hb => ?_) (.refl _)
      have hne : id ≠ k := fun h => hks (h ▸ hk)
      exact he₂.like k b ((find?_amend_of_ne hne _).trans hb)

theorem negation_meets {c : Option Id} (hw : w.Numbered) (hc : f.Stands w.blocks w.vars c ids)
    (hids : ids.Nodup) :
    (negation c).Meets w False fun id w' => w.Expands w' ∧
      (node .negation f empty).Stands w'.blocks w'.vars (some id) (id :: ids) ∧
      (id :: ids).Nodup ∧ id ∉ w.blocks.keys := by
  let a : Block := { opcode := "operator_not" }
  have he₁ := expands_push hw a
  have hat₁ : (w.push a).blocks.At (ofNat (w.issued + 1)) a :=
    ⟨a, find?_push hw.free a, Block.Like.refl a⟩
  have hne : ofNat (w.issued + 1) ∉ ids := fun h => hw.not_mem (hc.mem_keys _ h)
  obtain ⟨w₂, hrun, he₂, hat, hstay⟩ :=
    run_plugCondition he₁ hw.not_mem hat₁ (hc.expands he₁) hne "OPERAND"
  refine meets_of_run ((run_bind_of_ok (run_reporter hw.free _) _).trans (run_bind_of_ok hrun _))
    ⟨he₂, ⟨_, c.map .block, none, ids, [], rfl, ?_, ?_, hstay hne (hc.expands he₁), rfl, rfl⟩,
      nodup_cons.2 ⟨hne, hids⟩, hw.not_mem⟩
  · rw [append_nil]
  · cases c <;> exact hat

theorem join_meets {l r : Option Id} {ls rs : List Id} (hw : w.Numbered)
    (hl : f.Stands w.blocks w.vars l ls) (hr : g.Stands w.blocks w.vars r rs)
    (hids : (ls ++ rs).Nodup) (opcode : String) :
    (do
      let id ← reporter opcode
      plugCondition id "OPERAND1" l
      plugCondition id "OPERAND2" r
      pure (some id) : Build (Option Id)).Meets w False fun c w' => w.Expands w' ∧ ∃ id,
        (node (.condition opcode) f g).Stands w'.blocks w'.vars c (id :: (ls ++ rs)) ∧
        (id :: (ls ++ rs)).Nodup ∧ id ∉ w.blocks.keys := by
  let a : Block := { opcode }
  have he₁ := expands_push hw a
  have hat₁ : (w.push a).blocks.At (ofNat (w.issued + 1)) a :=
    ⟨a, find?_push hw.free a, Block.Like.refl a⟩
  have hnel : ofNat (w.issued + 1) ∉ ls := fun h => hw.not_mem (hl.mem_keys _ h)
  have hner : ofNat (w.issued + 1) ∉ rs := fun h => hw.not_mem (hr.mem_keys _ h)
  obtain ⟨w₂, hrun₂, he₂, hat₂, hstay₂⟩ :=
    run_plugCondition he₁ hw.not_mem hat₁ (hl.expands he₁) hnel "OPERAND1"
  have hl₂ := hstay₂ hnel (hl.expands he₁)
  have hr₂ := hstay₂ hner (hr.expands he₁)
  obtain ⟨w₃, hrun₃, he₃, hat₃, hstay₃⟩ :=
    run_plugCondition he₂ hw.not_mem hat₂ hr₂ hner "OPERAND2"
  have hmem : ofNat (w.issued + 1) ∉ ls ++ rs := fun h => (mem_append.1 h).elim hnel hner
  refine meets_of_run ((run_bind_of_ok (run_reporter hw.free _) _).trans
    ((run_bind_of_ok hrun₂ _).trans (run_bind_of_ok hrun₃ _))) ⟨he₃, ofNat (w.issued + 1),
      ⟨_, l.map .block, r.map .block, ls, rs, rfl, rfl, ?_, hstay₃ hnel hl₂, hstay₃ hner hr₂⟩,
      nodup_cons.2 ⟨hmem, hids⟩, hw.not_mem⟩
  cases l <;> cases r <;> exact hat₃

theorem constantCondition_meets (hw : w.Numbered) (b : Bool) :
    (constantCondition b).Meets w False fun id w' => w.Expands w' ∧
      (node (.condition "operator_equals") (constant (.str "1"))
        (constant (.str (if b then "1" else "0")))).Stands w'.blocks w'.vars (some id) [id] ∧
      id ∉ w.blocks.keys := by
  let a : Block := { opcode := "operator_equals" }
  let w₁ := w.push a
  have hat₁ : w₁.blocks.At (ofNat (w.issued + 1)) a :=
    ⟨a, find?_push hw.free a, Block.Like.refl a⟩
  have hat₂ := hat₁.amend fun _ _ h => h.setInput "OPERAND1" (.literal (.text "1"))
  have hat₃ := hat₂.amend fun _ _ h =>
    h.setInput "OPERAND2" (.literal (.text (if b then "1" else "0")))
  refine meets_of_run ((run_bind_of_ok (run_reporter hw.free _) _).trans
    ((run_bind_of_ok (run_setInput hat₁.has _ _) _).trans
      (run_bind_of_ok (run_setInput hat₂.has _ _) _)))
    ⟨((expands_push hw a).amend hw.not_mem _).amend hw.not_mem _,
      ⟨_, some (.literal (.text "1")), some (.literal (.text (if b then "1" else "0"))), [], [],
        rfl, rfl, hat₃, ⟨rfl, _, rfl, rfl⟩, ⟨rfl, _, rfl, rfl⟩⟩, hw.not_mem⟩

end Filling

end BlockScript
