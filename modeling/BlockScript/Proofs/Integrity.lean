import BlockScript.Proofs.SpriteEdits

/-!
# The references of compiled scripts

Compiling a program is a sequence of edits of an empty workspace (`Build.exists_edits`), so the
scripts of all of its sprites are sound (`Build.sound_of_mem_targets`). This module says what that
means for the sprites as they are written into a project file: where a block names another one, the
other one is there and is of the right kind (`Build.linked_of_compile`), and the names of variables
and messages agree with the tables that come with the sprite (`Build.declared_of_compile`).

The variables of a sprite are its own. The messages are shared: every sprite has those that were
known when it was finished, and they are never changed, so a message has the same identifier
everywhere.
-/

namespace BlockScript

open Workspace Build Program List Table Target

/-! ### Whole programs -/

/-- What a program may do: it calls the procedures it calls, and it contains classes. -/
def Program.licence (program : Module) : Licence where
  calls name n := (name, n) ∈ callsOf program
  nests := True
  defines := False

theorem Program.Stmt.calls_subset {program : Module} {s : Stmt} (hs : s ∈ program) :
    s.calls ⊆ callsOf program := by
  induction program with
  | nil => cases hs
  | cons s' program ih =>
    rw [callsOf]
    rcases mem_cons.1 hs with rfl | hs
    · exact subset_append_left _ _
    · exact List.Subset.trans (ih hs) (subset_append_right _ _)

theorem Program.Stmt.visitTop_acts {L : Licence} (hL : ¬L.defines) (s : Stmt)
    (hcalls : ∀ c ∈ s.calls, L.calls c.1 c.2) (hclass : s.hasClass → L.nests) :
    s.visitTop.Acts L := by
  cases s with
  | classDef name decorators body => exact visit_acts hL _ hcalls hclass
  | functionDef name params body trailer =>
    rw [visitTop]
    split
    · exact visit_acts hL _ hcalls hclass
    · exact acts_pure
  | expr | assign | augAssign | forLoop | whileLoop | conditional | other => exact acts_pure

theorem Workspace.sound_empty (n : Nat) : Sound { issued := n } where
  scripts := Scripts.sound_empty
  previous p hp := by cases hp
  keys id hid := by cases hid
  vars v hv := by cases hv
  messages p hp := by cases hp
  arguments n p hp := by cases hp
  drafts d hd := by cases hd

namespace Build

variable {source : String} {w w' : Workspace} {c : Compilation}

/-- What compilation does, in its own words. -/
theorem exists_visits (h : (compile source).run w = (.ok c, w')) :
    ∃ program, parse source = .ok program ∧
      (program.forM (·.visitTop)).run { issued := w.issued } = (.ok (), w') ∧
      c.targets = w'.targets := by
  rw [compile, run_bind_of_ok (run_modify _ w)] at h
  obtain ⟨program, w₁, hlift, h⟩ := run_bind_eq_ok h
  obtain ⟨hparse, rfl⟩ := run_lift_eq_ok hlift
  obtain ⟨_, w₂, hvisits, h⟩ := run_bind_eq_ok h
  rw [run_bind_of_ok (run_get w₂)] at h
  cases h
  exact ⟨program, hparse, hvisits, rfl⟩

/-- **Compiling is a sequence of edits of an empty workspace.** -/
theorem exists_edits (h : (compile source).run w = (.ok c, w')) :
    ∃ program, parse source = .ok program ∧ c.targets = w'.targets ∧
      Reaches (licence program) [] { issued := w.issued } w' := by
  obtain ⟨program, hparse, hvisits, htargets⟩ := exists_visits h
  have hacts : (program.forM (·.visitTop)).Acts (licence program) := acts_forM fun s hs =>
    Stmt.visitTop_acts id s (fun _ hc => Stmt.calls_subset hs hc) fun _ => trivial
  have hw := sound_empty w.issued
  obtain ⟨hedits, -⟩ := hacts _ hw (.refl _) (nil_subset _) () w' hvisits
  exact ⟨program, hparse, htargets, hedits.reaches hw fun _ hi => by cases hi⟩

/-- The sprites of a workspace: the one without a class, and the finished ones. -/
theorem mem_targets_cases {t : Target} (ht : t ∈ w.targets) :
    t = w.defaultTarget ∨ ∃ d ∈ w.drafts, t = w.target d := by
  rcases mem_append.1 ht with hdefault | hdraft
  · split at hdefault
    · cases hdefault
    · exact .inl (mem_singleton.1 hdefault)
  · obtain ⟨d, hd, rfl⟩ := mem_map.1 hdraft
    exact .inr ⟨d, hd, rfl⟩

/-- The scripts of every sprite are sound, and its messages are among those of the workspace. -/
theorem sound_of_mem_targets (hw : w.Sound) {t : Target} (ht : t ∈ w.targets) :
    t.scripts.Sound ∧ ∀ m i, t.broadcasts.find? m = some i → w.broadcasts.find? m = some i := by
  rcases mem_targets_cases ht with rfl | ⟨d, hd, rfl⟩
  · exact ⟨hw.scripts, fun _ _ h => h⟩
  · exact hw.drafts d hd

end Build

/-! ### Blocks that name blocks -/

theorem Literal.exists_toValue (l : Literal) : ∃ vs, l.toValue = .list vs := by
  cases l with
  | number | color | text | messageName | variableName => exact ⟨_, rfl⟩

/-- The block that an input names in a project file, and the kind of that block. -/
theorem Input.Plugs.shadow_of_toValue {s : Scripts} {r : Id} {i : Input} {tag : Int}
    {rest : List Value} (h : i.Plugs s) (hi : i.toValue = .list (.int tag :: .str r :: rest)) :
    ∃ b, s.blocks.find? r = some b ∧
      (tag = 1 ∧ b.shadow ∨ (tag = 2 ∨ tag = 3) ∧ b.shadow = false) := by
  cases i with
  | menu id =>
    cases hi
    obtain ⟨b, hb, -, hshadow⟩ := h
    exact ⟨b, hb, .inl ⟨rfl, hshadow⟩⟩
  | block id =>
    cases hi
    obtain ⟨b, hb, -, hshadow⟩ := h
    exact ⟨b, hb, .inr ⟨.inl rfl, hshadow⟩⟩
  | reporter id covered =>
    cases id with
    | none => cases hi
    | some r' =>
      cases hi
      obtain ⟨b, hb, -, hshadow⟩ := h.2 r rfl
      exact ⟨b, hb, .inr ⟨.inr rfl, hshadow⟩⟩
  | literal l =>
    obtain ⟨vs, hvs⟩ := l.exists_toValue
    rw [toValue, hvs] at hi
    cases hi
  | embedded l covered =>
    obtain ⟨vs, hvs⟩ := l.exists_toValue
    rw [toValue, hvs] at hi
    cases hi
  | given v => cases h

theorem Input.Fits.shadow_of_toValue {s : Scripts} {id r : Id} {name : String} {i : Input}
    {tag : Int} {rest : List Value} (h : i.Fits s id name)
    (hi : i.toValue = .list (.int tag :: .str r :: rest)) :
    ∃ b, s.blocks.find? r = some b ∧
      (tag = 1 ∧ b.shadow ∨ (tag = 2 ∨ tag = 3) ∧ b.shadow = false) := by
  rw [Fits] at h
  split at h
  · obtain ⟨r', rfl, -, hr, -⟩ := h
    cases hi
    obtain ⟨b, hb⟩ := mem_keys_iff.1 hr.mem_keys
    exact ⟨b, hb, .inr ⟨.inl rfl, hr.shadow hb⟩⟩
  · exact h.shadow_of_toValue hi

/-- Where a block names another one, the other one is there and is of the right kind. -/
structure Target.Linked (t : Target) : Prop where
  nodup : t.blocks.keys.Nodup
  next : ∀ id b, t.blocks.find? id = some b → ∀ n, b.next = some n → n ∈ t.blocks.keys
  parent : ∀ id b, t.blocks.find? id = some b → ∀ p, b.parent = some p → p ∈ t.blocks.keys
  /-- A block in an input is a shadow if the input is tagged with one, and no shadow if it is tagged
  with two or three. There are no other tags. -/
  inputs : ∀ id b, t.blocks.find? id = some b → ∀ name i, (name, i) ∈ b.inputs →
    ∀ tag r rest, i.toValue = .list (.int tag :: .str r :: rest) →
      ∃ b', t.blocks.find? r = some b' ∧
        (tag = 1 ∧ b'.shadow = true ∨ (tag = 2 ∨ tag = 3) ∧ b'.shadow = false)
  top : ∀ id b, t.blocks.find? id = some b → b.topLevel = true → b.opcode ∈ Listing.hatOpcodes

theorem Scripts.Sound.linked {t : Target} (h : t.scripts.Sound) : t.Linked where
  nodup := h.nodup
  next id b hb n hn := ((h.block id b hb).next n hn).2.1.mem_keys
  parent id b hb := (h.block id b hb).parent
  inputs id b hb name i hi _ _ _ hvalue :=
    ((h.block id b hb).inputs (name, i) hi).shadow_of_toValue hvalue
  top id b hb := (h.block id b hb).top

/-- A procedure that is called before it is defined, with a value that comes from a branch. -/
def hoppingSource : String :=
  "class Cat:\n" ++
  " def when_flag_clicked(self):\n" ++
  "  hop(x + 1, 2)\n" ++
  "  broadcast(\"go\")\n" ++
  " def hop(self, n):\n" ++
  "  if n() > 1:\n" ++
  "   x = 2\n" ++
  " def when_broadcast_go(self):\n" ++
  "  x += 1\n"

namespace Build

variable {source : String} {w w' : Workspace} {c : Compilation}

/-- **References between blocks lead to blocks of the right kind**, in every sprite of every program
that compiles. -/
theorem linked_of_compile (h : (compile source).run w = (.ok c, w')) :
    ∀ t ∈ c.targets, t.Linked := by
  obtain ⟨program, -, htargets, hreaches⟩ := exists_edits h
  intro t ht
  obtain ⟨hsound, -⟩ := sound_of_mem_targets hreaches.after (htargets ▸ ht)
  exact hsound.linked

theorem linked_hoppingSource :
    ∃ c w', (compile hoppingSource).run {} = (.ok c, w') ∧
      c.targets.map (·.blocks.length) = [14] ∧ ∀ t ∈ c.targets, t.Linked := by
  have hsize : ((compile hoppingSource).run {}).1.toOption.map (·.targets.map (·.blocks.length)) =
      some [14] := by
    decide +kernel
  obtain ⟨c, w', hrun, hsize⟩ := exists_of_run_map hsize
  exact ⟨c, w', hrun, hsize, linked_of_compile hrun⟩

end Build

/-! ### Blocks that name variables and messages -/

/-- The sprite has a block that names something: in the given field, or in an input as a constant
with the given tag. -/
def Target.Names (t : Target) (field : String) (tag : Int) (name id : String) : Prop :=
  ∃ k b, t.blocks.find? k = some b ∧
    ((∃ f, (field, f) ∈ b.fields ∧ f.toValue = .list [.str name, .str id]) ∨
      ∃ input i vs, (input, i) ∈ b.inputs ∧ i.toValue = .list vs ∧
        Value.list [.int tag, .str name, .str id] ∈ vs)

/-- A list that an input shows is a literal. -/
theorem Input.Fits.resolves_of_mem {s : Scripts} {id : Id} {name : String} {i : Input}
    {vs ws : List Value} (h : i.Fits s id name) (hi : i.toValue = .list vs)
    (hmem : Value.list ws ∈ vs) : ∃ l : Literal, l.Resolves s ∧ l.toValue = .list ws := by
  rw [Fits] at h
  split at h
  · obtain ⟨r, rfl, -⟩ := h
    cases hi
    simp at hmem
  · cases i with
    | literal l =>
      cases hi
      simp only [mem_cons, reduceCtorEq, not_mem_nil, or_false, false_or] at hmem
      exact ⟨l, h, hmem.symm⟩
    | menu r =>
      cases hi
      simp at hmem
    | block r =>
      cases hi
      simp at hmem
    | reporter r covered =>
      cases hi
      cases r <;> simp [Id.optionValue] at hmem <;> exact ⟨covered, h.1, hmem.symm⟩
    | embedded l covered =>
      cases hi
      simp only [mem_cons, reduceCtorEq, not_mem_nil, or_false, false_or] at hmem
      rcases hmem with hl | hcovered
      · exact ⟨l, h.1, hl.symm⟩
      · exact ⟨covered, h.2, hcovered.symm⟩
    | given v => cases h

/-- A variable that is named is declared under its identifier. -/
theorem Target.exists_of_names_variable {t : Target} (ht : t.scripts.Sound) {n i : String}
    (h : t.Names "VARIABLE" 12 n i) : ∃ v ∈ t.vars, v.name = n ∧ v.id = i := by
  obtain ⟨k, b, hb, ⟨f, hf, hvalue⟩ | ⟨input, i', vs, hi', hvalue, hmem⟩⟩ := h
  · obtain ⟨v, hv, rfl⟩ := ((ht.block k b hb).fields _ hf).1 rfl
    cases hvalue
    exact ⟨v, hv, rfl, rfl⟩
  · obtain ⟨l, hl, hlvalue⟩ := ((ht.block k b hb).inputs _ hi').resolves_of_mem hvalue hmem
    cases l with
    | variableName n' i' =>
      cases hlvalue
      exact hl
    | number | color | text | messageName => cases hlvalue

/-- A message that is named is in the table of messages. -/
theorem Target.find?_of_names_message {t : Target} (ht : t.scripts.Sound) {m i : String}
    (h : t.Names "BROADCAST_OPTION" 11 m i) : t.broadcasts.find? m = some i := by
  obtain ⟨k, b, hb, ⟨f, hf, hvalue⟩ | ⟨input, i', vs, hi', hvalue, hmem⟩⟩ := h
  · obtain ⟨m', i', hm', rfl⟩ := ((ht.block k b hb).fields _ hf).2 rfl
    cases hvalue
    exact hm'
  · obtain ⟨l, hl, hlvalue⟩ := ((ht.block k b hb).inputs _ hi').resolves_of_mem hvalue hmem
    cases l with
    | messageName m' i' =>
      cases hlvalue
      exact hl
    | number | color | text | variableName => cases hlvalue

/-- The table of the variables of a sprite, as it is written into a project file. -/
theorem Target.find?_variables {vs : List Variable} (h : (vs.map (·.id)).Nodup) {v : Variable}
    (hv : v ∈ vs) : ∃ pairs : Table Value, variablesValue vs = .dict pairs ∧
      pairs.find? v.id = some (.list [.str v.name, v.initial]) := by
  refine ⟨_, rfl, find?_of_mem ?_ (mem_map_of_mem hv)⟩
  rwa [Table.keys, map_map]

/-- What blocks name is declared. -/
structure Target.Declared (t : Target) : Prop where
  /-- A field for a variable or a message holds a name and an identifier. -/
  fields : ∀ id b f, t.blocks.find? id = some b →
    ("VARIABLE", f) ∈ b.fields ∨ ("BROADCAST_OPTION", f) ∈ b.fields →
      ∃ n i, f.toValue = .list [.str n, .str i]
  /-- A variable that is named is in the table of variables under its identifier. -/
  named : ∀ n i, t.Names "VARIABLE" 12 n i → ∃ pairs initial,
    variablesValue t.vars = .dict pairs ∧ Table.find? pairs i = some (.list [.str n, initial])
  /-- Two variables that are named have one name just if they have one identifier. -/
  distinct : ∀ n i n' i', t.Names "VARIABLE" 12 n i → t.Names "VARIABLE" 12 n' i' →
    (n = n' ↔ i = i')
  vars : ∀ u ∈ t.vars, ∀ v ∈ t.vars, u.name = v.name ↔ u.id = v.id
  /-- A message that is named is in the table of messages. -/
  messages : ∀ m i, t.Names "BROADCAST_OPTION" 11 m i → t.broadcasts.find? m = some i

theorem Scripts.Sound.declared {t : Target} (h : t.scripts.Sound) : t.Declared := by
  have hiff : ∀ u ∈ t.vars, ∀ v ∈ t.vars, u.name = v.name ↔ u.id = v.id := by
    intro u hu v hv
    refine ⟨fun hname => ?_, fun hid => ?_⟩
    · rw [inj_on_of_nodup_map h.varNames hu hv hname]
    · rw [inj_on_of_nodup_map h.varIds hu hv hid]
  refine ⟨fun id b f hb hf => ?_, fun n i hn => ?_, fun n i n' i' hn hn' => ?_, hiff,
    fun m i => find?_of_names_message h⟩
  · rcases hf with hf | hf
    · obtain ⟨v, -, rfl⟩ := ((h.block id b hb).fields _ hf).1 rfl
      exact ⟨_, _, rfl⟩
    · obtain ⟨m, i, -, rfl⟩ := ((h.block id b hb).fields _ hf).2 rfl
      exact ⟨_, _, rfl⟩
  · obtain ⟨v, hv, rfl, rfl⟩ := exists_of_names_variable h hn
    obtain ⟨pairs, hpairs, hfind⟩ := find?_variables h.varIds hv
    exact ⟨pairs, v.initial, hpairs, hfind⟩
  · obtain ⟨u, hu, rfl, rfl⟩ := exists_of_names_variable h hn
    obtain ⟨v, hv, rfl, rfl⟩ := exists_of_names_variable h hn'
    exact hiff u hu v hv

/-- The messages of two sprites are messages of one workspace, so they agree. -/
theorem Workspace.Sound.message_iff {w : Workspace} (hw : w.Sound) {t t' : Target}
    (ht : t ∈ w.targets) (ht' : t' ∈ w.targets) {m i m' i' : String}
    (hm : t.Names "BROADCAST_OPTION" 11 m i) (hm' : t'.Names "BROADCAST_OPTION" 11 m' i') :
    i = i' ↔ m = m' := by
  obtain ⟨hsound, hall⟩ := sound_of_mem_targets hw ht
  obtain ⟨hsound', hall'⟩ := sound_of_mem_targets hw ht'
  replace hm := hall m i (find?_of_names_message hsound hm)
  replace hm' := hall' m' i' (find?_of_names_message hsound' hm')
  refine ⟨fun hid => ?_, fun hname => ?_⟩
  · have heq := inj_on_of_nodup_map hw.scripts.messageIds (mem_of_find? hm)
      (mem_of_find? hm') hid
    exact congrArg Prod.fst heq
  · subst hname
    exact Option.some.inj (hm.symm.trans hm')

namespace Build

variable {source : String} {w w' : Workspace} {c : Compilation}

/-- **What blocks name is declared**, in every sprite of every program that compiles, and in the
whole program two messages that are named have one identifier just if they have one name. -/
theorem declared_of_compile (h : (compile source).run w = (.ok c, w')) :
    (∀ t ∈ c.targets, t.Declared) ∧
      ∀ t ∈ c.targets, ∀ t' ∈ c.targets, ∀ m i m' i',
        t.Names "BROADCAST_OPTION" 11 m i → t'.Names "BROADCAST_OPTION" 11 m' i' →
          (i = i' ↔ m = m') := by
  obtain ⟨program, -, htargets, hreaches⟩ := exists_edits h
  rw [htargets]
  refine ⟨fun t ht => ?_, fun t ht t' ht' m i m' i' => hreaches.after.message_iff ht ht'⟩
  exact (sound_of_mem_targets hreaches.after ht).1.declared

/-- Two classes that send the same message, between them a function that belongs to neither. -/
def callingSource : String :=
  "class Cat:\n" ++
  " def when_flag_clicked(self):\n" ++
  "  x = 1\n" ++
  "  broadcast(\"go\")\n" ++
  "def when_flag_clicked():\n" ++
  " x += y\n" ++
  "class Dog:\n" ++
  " def when_broadcast_go(self):\n" ++
  "  switch_costume(x)\n" ++
  "  broadcast(\"stop\")\n"

theorem declared_callingSource :
    ∃ c w', (compile callingSource).run {} = (.ok c, w') ∧
      c.targets.map (fun t => (t.vars.length, t.broadcasts.keys)) =
        [(2, ["go", "stop"]), (1, ["go"]), (1, ["go", "stop"])] ∧
      (∀ t ∈ c.targets, t.Declared) ∧
      ∀ t ∈ c.targets, ∀ t' ∈ c.targets, ∀ m i m' i',
        t.Names "BROADCAST_OPTION" 11 m i → t'.Names "BROADCAST_OPTION" 11 m' i' →
          (i = i' ↔ m = m') := by
  have hseen : ((compile callingSource).run {}).1.toOption.map
      (·.targets.map fun t => (t.vars.length, t.broadcasts.keys)) =
      some [(2, ["go", "stop"]), (1, ["go"]), (1, ["go", "stop"])] := by
    decide +kernel
  obtain ⟨c, w', hrun, hseen⟩ := exists_of_run_map hseen
  exact ⟨c, w', hrun, hseen, declared_of_compile hrun⟩

end Build

end BlockScript
