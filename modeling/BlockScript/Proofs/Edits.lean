import BlockScript.Proofs.CoreOperands
import BlockScript.Proofs.Scripts

/-!
# Edits

Everything that compilation does to a workspace is a sequence of few kinds of changes.
`Workspace.Edits` is the relation of a workspace to what can become of it by such changes; each
constructor is one kind, with the conditions under which it is made. What all scripts have in common
is proved by induction over this relation, and the compiler itself is looked at only once, when each
of its steps is shown to be such a sequence.

The relation carries a list of *old* blocks. Edits may hang an old block under another one and may
put a statement below it; its inputs and fields stay, and it is not plugged into anything. A step
that makes a block, lets other steps run, and then completes the block uses this: to these other
steps its block is old, so it finds the block as it left it.

It also carries what the code at hand may do: a `Licence` says which calls of procedures occur in
it, whether it may contain classes, and whether it may define procedures. A call of a procedure and
a class inside a function are single edits, which contain the edits of their parts.
-/

namespace BlockScript

open Block BlockScript.Id List Nat Scripts Table

/-- The `k` identifiers that are issued after the first `n`. -/
def Id.range (n k : Nat) : List Id := (List.range' (n + 1) k).map Id.ofNat

/-- The identifier is one of the first `n`. -/
def Id.Issued (n : Nat) (id : Id) : Prop := ∃ k, k ≤ n ∧ id = Id.ofNat k

/-- The opcodes of blocks that name a procedure. -/
def procedureOpcodes : List String := ["procedures_call", "procedures_prototype"]

/-- What the field names is in the given lists. -/
def Field.Listed (ls : List ItemList) (name : String) (f : Field) : Prop :=
  name = "LIST" → ∃ l ∈ ls, f = .named l.name l.id

/-- The fields that name a variable, a message or a list. -/
def namingFields : List String := ["VARIABLE", "BROADCAST_OPTION", "LIST"]

theorem Field.resolves_of_not_mem {s : Scripts} {name : String} {f : Field}
    (h : name ∉ namingFields) : f.Resolves s name := by
  refine ⟨fun hname => absurd ?_ h, fun hname => absurd ?_ h⟩
  · rw [hname]
    decide
  · rw [hname]
    decide

theorem Field.listed_of_not_mem {ls : List ItemList} {name : String} {f : Field}
    (h : name ∉ namingFields) : f.Listed ls name := by
  intro hname
  refine absurd ?_ h
  rw [hname]
  decide

/-- The input is not a body, and holds none of the given blocks. -/
def Input.Ready (s : Scripts) (avoid : List Id) (i : Input) : Prop :=
  i.Plugs s ∧ ∀ r, i.target? = some r → r ∉ avoid

/-- What the code at hand may do. -/
structure Licence where
  /-- A procedure is called by name with so many arguments. -/
  calls : String → Nat → Prop
  /-- There are classes inside of functions. -/
  nests : Prop
  /-- Procedures are announced and defined. -/
  defines : Prop

/-- The second licence allows what the first allows. -/
structure Licence.Within (L L' : Licence) : Prop where
  calls : ∀ name n, L.calls name n → L'.calls name n
  nests : L.nests → L'.nests
  defines : L.defines → L'.defines

theorem Input.Ready.mono {s : Scripts} {avoid avoid' : List Id} {i : Input}
    (h : i.Ready s avoid') (hsub : avoid ⊆ avoid') : i.Ready s avoid :=
  ⟨h.1, fun r hr hc => h.2 r hr (hsub hc)⟩

namespace Workspace

/-! ### The larger changes -/

/-- A procedure is announced. -/
def announced (w : Workspace) (name : String) (names : List String) : Workspace :=
  { w with
    issued := w.issued + names.length
    procedures := w.procedures.set name
      { proccode := Procedure.codeOf name names
        argumentIds := Id.range w.issued names.length
        argumentNames := names } }

/-- The block of a parameter of a procedure. -/
def parameterBlock (prototype : Id) (name : String) : Block where
  opcode := "argument_reporter_string_number"
  parent := some prototype
  fields := [("VALUE", .word name)]
  shadow := true

/-- The blocks of the parameters of a procedure, numbered from the given number on. -/
def parameters (prototype : Id) (n : Nat) : List (String × Id) → Table Block
  | [] => []
  | (name, _) :: rest =>
    (Id.ofNat (n + 1), parameterBlock prototype name) :: parameters prototype (n + 1) rest

/-- The inputs that hold the parameters. -/
def parameterInputs (n : Nat) : List (String × Id) → Table Input
  | [] => []
  | (_, argumentId) :: rest =>
    (argumentId, .menu (Id.ofNat (n + 1))) :: parameterInputs (n + 1) rest

/-- The prototype of a procedure. -/
def prototypeBlock (definition : Id) (p : Procedure) (inputs : Table Input) : Block where
  opcode := "procedures_prototype"
  parent := some definition
  inputs := inputs
  shadow := true
  mutation := some
    { proccode := p.proccode
      argumentIds := p.argumentIds
      argumentNames := some p.argumentNames }

/-- The block that starts the script of a procedure. -/
def definitionBlock (prototype : Id) (y : Int) : Block where
  opcode := "procedures_definition"
  inputs := [("custom_block", .menu prototype)]
  topLevel := true
  position := some (0, y)

/-- The blocks at the head of a procedure. The definition is numbered first and stored last. -/
def headBlocks (n : Nat) (p : Procedure) (y : Int) : Table Block :=
  parameters (Id.ofNat (n + 2)) (n + 2) (p.argumentNames.zip p.argumentIds) ++
    [(Id.ofNat (n + 2), prototypeBlock (Id.ofNat (n + 1)) p
        (parameterInputs (n + 2) (p.argumentNames.zip p.argumentIds))),
      (Id.ofNat (n + 1), definitionBlock (Id.ofNat (n + 2)) y)]

/-- A procedure is defined, and its script goes on below its head. -/
def headed (w : Workspace) (name : String) (p : Procedure) (y : Int) : Workspace :=
  { w with
    issued := w.issued + 2 + (p.argumentNames.zip p.argumentIds).length
    blocks := w.blocks ++ headBlocks w.issued p y
    procedures := w.procedures.set name
      { p with definition := some (Id.ofNat (w.issued + 1), Id.ofNat (w.issued + 2)) }
    hat := some (Id.ofNat (w.issued + 1))
    previous := some (Id.ofNat (w.issued + 1))
    arguments := p.argumentNames }

/-- The workspace in which a sprite starts. -/
def opened (w : Workspace) : Workspace :=
  { w with
    blocks := []
    vars := []
    scopes := w.scopes ++ [[]]
    procedures := []
    arguments := []
    soundsUsed := []
    previous := none
    hat := none }

/-- The sprite that a workspace holds. -/
def draft (w : Workspace) (name : String) (settings : Option SpriteSettings) : Draft where
  name := name
  blocks := w.blocks
  vars := w.vars
  scope := w.scope
  broadcasts := w.broadcasts
  soundsUsed := w.soundsUsed
  settings := settings

/-- The workspace after a sprite that ended in the second workspace. -/
def closed (w w₁ : Workspace) (d : Draft) : Workspace :=
  { w₁ with
    blocks := w.blocks
    vars := w.vars
    previous := w.previous
    hat := w.hat
    procedures := w.procedures
    drafts := w₁.drafts ++ [d] }

/-! ### Blocks that are made and completed -/

/-- What is chosen on a block is declared, or is in a list of the scope in use. -/
def Chooses (w : Workspace) (fields : Table Field) : Prop :=
  ∀ p ∈ fields, p.2.Resolves w.scripts p.1 ∧ p.2.Listed w.lists p.1

/-- A part into which nothing is plugged yet. -/
structure IsPart (w : Workspace) (b : Block) : Prop where
  kind : b.isPart = true
  opcode : b.opcode ∉ procedureOpcodes
  next : b.next = none
  parent : ∀ p, b.parent = some p → p ∈ w.blocks.keys
  inputs : b.inputs = []
  fields : w.Chooses b.fields
  top : b.topLevel = false
  mutation : b.mutation = none

/-- A new statement, with no more than the inputs that were there before it. -/
structure IsStatement (w : Workspace) (old : List Id) (b : Block) : Prop where
  kind : b.isPart = false
  next : b.next = none
  inputs : ∀ p ∈ b.inputs, p.1 ∉ bodyInputs ∧ p.2.Ready w.scripts old
  fields : b.fields = []
  top : b.topLevel = true → b.opcode ∈ Listing.hatOpcodes
  mutation : b.mutation = none

/-- The second block is the first with other inputs and fields, which are in order. -/
structure Revises (w : Workspace) (old : List Id) (id : Id) (b b' : Block) : Prop where
  next : b'.next = b.next
  parent : b'.parent = b.parent
  shadow : b'.shadow = b.shadow
  kind : b'.isPart = b.isPart
  top : b'.topLevel = b.topLevel
  opcode : b'.opcode = b.opcode ∨ b.topLevel = false
  free : b.opcode ∉ procedureOpcodes ∧ b'.opcode ∉ procedureOpcodes
  inputs : ∀ p ∈ b'.inputs, p ∈ b.inputs ∨
    p.2.Fits w.scripts id p.1 ∧ ∀ r, p.2.target? = some r → r ∉ id :: old
  fields : ∀ p ∈ b'.fields, p ∈ b.fields ∨ p.2.Resolves w.scripts p.1 ∧ p.2.Listed w.lists p.1
  mutation : b'.mutation = b.mutation

/-- The block of a call, before its arguments are plugged in. -/
def callBlock : Block := { opcode := "procedures_call" }

/-! ### Edits -/

/-- What can become of a workspace. -/
inductive Edits : Licence → List Id → Workspace → Workspace → Prop
  | refl {L old} (w : Workspace) : Edits L old w w
  | trans {L old w w' w''} (h : Edits L old w w') (h' : Edits L old w' w'') : Edits L old w w''
  /-- Identifiers are issued that are not used. -/
  | issue {L old} (w : Workspace) (n : Nat) : Edits L old w { w with issued := w.issued + n }
  /-- Notes are taken that no block shows. -/
  | note {L old} (w : Workspace) (hat : Option Id) (arguments soundsUsed : List String) :
    Edits L old w { w with hat, arguments, soundsUsed }
  /-- The script ends, or goes on below a block that is not old. -/
  | turn {L old} {w : Workspace} {p : Option Id}
      (hp : ∀ q, p = some q → w.scripts.Statement q ∧ q ∉ old) :
    Edits L old w { w with previous := p }
  | declare {L old} {w : Workspace} {x : String} (v : Value) (hx : ∀ u ∈ w.vars, u.name ≠ x) :
    Edits L old w (w.declare x v)
  | addList {L old} {w : Workspace} {name : String} (items : Value)
      (hname : ∀ l ∈ w.lists, l.name ≠ name) :
    Edits L old w
      (addList { w with issued := w.issued + 1 } ⟨name, Id.ofNat (w.issued + 1), items⟩)
  | addMessage {L old} {w : Workspace} {m : String} (hm : w.broadcasts.find? m = none) :
    Edits L old w
      { w with
        issued := w.issued + 1
        broadcasts := w.broadcasts.set m (Id.ofNat (w.issued + 1)) }
  | push {L old} {w : Workspace} {b : Block} (hb : w.IsPart b) : Edits L old w (w.push b)
  | stack {L old} {w : Workspace} {b : Block} (hb : w.IsStatement old b)
      (hopcode : b.opcode ∉ procedureOpcodes) : Edits L old w (w.stacked b)
  /-- A block hangs under another one. -/
  | hang {L old} {w : Workspace} (id : Id) {p : Id} (hp : p ∈ w.blocks.keys) :
    Edits L old w (w.amend id fun b => { b with parent := some p })
  /-- A block is completed that is neither old nor plugged in anywhere. -/
  | amend {L old} {w : Workspace} {id : Id} {b : Block} {f : Block → Block}
      (hb : w.blocks.find? id = some b) (hid : id ∉ old) (hloose : w.scripts.Loose id)
      (hf : w.Revises old id b (f b)) : Edits L old w (w.amend id f)
  /-- A procedure is called that is known at that moment. -/
  | call {L old} {w w₁ : Workspace} {name : String} {n : Nat} {p : Procedure}
      {inputs : Table Input} (hcall : L.calls name n) (hp : w.procedures.find? name = some p)
      (hargs : Edits L (Id.ofNat (w.issued + 1) :: old) (w.stacked callBlock) w₁)
      (hkeys : inputs.keys = p.argumentIds.take n)
      (hinputs : ∀ i ∈ inputs, i.2.Ready w₁.scripts (Id.ofNat (w.issued + 1) :: old)) :
    Edits L old w (w₁.amend (Id.ofNat (w.issued + 1)) fun b =>
      { b with
        inputs
        mutation := some { proccode := p.proccode, argumentIds := p.argumentIds } })
  /-- A procedure is announced, while no block can be a call of another one with its name. -/
  | announce {L old} {w : Workspace} {name : String} (names : List String) (hL : L.defines)
      (hname : (∀ p, w.procedures.find? name = some p → p.definition.isSome = true) ∨
        w.blocks = []) :
    Edits L old w (w.announced name names)
  | define {L old} {w : Workspace} {name : String} {p : Procedure} (y : Int) (hL : L.defines)
      (hp : w.procedures.find? name = some p) (hopen : p.definition = none) :
    Edits L old w (w.headed name p y)
  /-- A class inside a function. All of its procedures are defined in the end. -/
  | sprite {L old} {w w₁ : Workspace} (name : String) (settings : Option SpriteSettings)
      (hL : L.nests) (h : Edits { L with defines := True } [] w.opened w₁)
      (hdefined : ∀ n p, w₁.procedures.find? n = some p → p.definition.isSome = true) :
    Edits L old w (w.closed w₁ (w₁.draft name settings))

/-! ### What edits keep -/

/-- Identifiers are issued one after the other, scripts grow, and old blocks keep everything but
their links: they are not plugged in, and the script does not come back to them. -/
structure Grows (old : List Id) (w w' : Workspace) : Prop where
  issued : w.issued ≤ w'.issued
  scripts : w.scripts.Extends w'.scripts
  like : ∀ id ∈ old, ∀ b, w.blocks.find? id = some b →
    ∃ b', w'.blocks.find? id = some b' ∧ b.Like b'
  loose : ∀ id ∈ old, w.scripts.Loose id → w'.scripts.Loose id
  previous : w'.previous = w.previous ∨ ∀ p, w'.previous = some p → p ∉ old

variable {L : Licence} {old old' : List Id} {w w' w'' : Workspace} {id : Id} {b : Block}

theorem Grows.refl (old : List Id) (w : Workspace) : Grows old w w :=
  ⟨Nat.le_refl _, Scripts.Extends.refl _, fun _ _ b hb => ⟨b, hb, Block.Like.refl b⟩,
    fun _ _ h => h, .inl rfl⟩

theorem Grows.trans (h : Grows old w w') (h' : Grows old w' w'') : Grows old w w'' where
  issued := h.issued.trans h'.issued
  scripts := h.scripts.trans h'.scripts
  like id hid b hb := by
    obtain ⟨b', hb', hlike⟩ := h.like id hid b hb
    obtain ⟨b'', hb'', hlike'⟩ := h'.like id hid b' hb'
    exact ⟨b'', hb'', hlike.trans hlike'⟩
  loose id hid hl := h'.loose id hid (h.loose id hid hl)
  previous := by
    rcases h'.previous with heq | hnew
    · rw [heq]
      exact h.previous
    · exact .inr hnew

theorem Grows.mono (h : Grows old' w w') (hsub : old ⊆ old') : Grows old w w' :=
  { h with
    like := fun id hid => h.like id (hsub hid)
    loose := fun id hid => h.loose id (hsub hid)
    previous := h.previous.imp_right fun hp p hw hold => hp p hw (hsub hold) }

/-- The blocks stay as they are. -/
theorem grows_of_blocks_eq (hissued : w.issued ≤ w'.issued) (hblocks : w'.blocks = w.blocks)
    (hext : w.scripts.Extends w'.scripts)
    (hprevious : w'.previous = w.previous ∨ ∀ p, w'.previous = some p → p ∉ old) :
    Grows old w w' where
  issued := hissued
  scripts := hext
  like _ _ b hb := ⟨b, hblocks ▸ hb, Block.Like.refl b⟩
  loose _ _ h a c hc := h a c ((congrArg (Table.find? · a) hblocks).symm.trans hc)
  previous := hprevious

/-- Blocks are added, and none of the old ones is plugged into them. -/
theorem grows_append {u : Table Block} (hissued : w.issued ≤ w'.issued)
    (hscripts : w'.scripts = { w.scripts with blocks := w.blocks ++ u })
    (hu : ∀ id c, u.find? id = some c → ∀ r ∈ c.plugged, r ∉ old)
    (hprevious : w'.previous = w.previous ∨ ∀ p, w'.previous = some p → p ∉ old) :
    Grows old w w' where
  issued := hissued
  scripts := hscripts ▸ extends_append w.scripts u
  like id _ b hb := by
    have hblocks : w'.blocks = w.blocks ++ u := congrArg Scripts.blocks hscripts
    exact ⟨b, hblocks ▸ find?_append_of_find? hb, Block.Like.refl b⟩
  loose id hid h := by
    rw [hscripts]
    exact Scripts.Loose.append h fun a c hc hplugged => hu a c hc id hplugged hid
  previous := hprevious

/-- A block is changed: in its links only if it is old. -/
theorem grows_amend {f : Block → Block}
    (hf : ∀ b, w.blocks.find? id = some b →
      ((f b).isPart = b.isPart ∧ (f b).shadow = b.shadow) ∧ (id ∈ old → b.Like (f b)) ∧
        ∀ r ∈ (f b).plugged, r ∈ b.plugged ∨ r ∉ old) :
    Grows old w (w.amend id f) where
  issued := Nat.le_refl _
  scripts := extends_adjust fun b hb => (hf b hb).1
  like k hk c hc := by
    by_cases hkid : id = k
    · subst hkid
      exact ⟨f c, find?_amend hc f, (hf c hc).2.1 hk⟩
    · exact ⟨c, (find?_amend_of_ne hkid f).trans hc, Block.Like.refl c⟩
  loose k hk h := Scripts.Loose.adjust h fun c hc hplug => by
    rcases (hf c hc).2.2 k hplug with hold | hnew
    · exact h id c hc hold
    · exact hnew hk
  previous := .inl rfl

/-- Only the links of a block change. -/
theorem grows_relink {f : Block → Block} (hf : ∀ b : Block, b.Like (f b)) :
    Grows old w (w.amend id f) := by
  refine grows_amend fun b _ => ⟨?_, fun _ => hf b, fun r hr => .inl ?_⟩
  · rw [hf b]
    exact ⟨rfl, rfl⟩
  · rw [hf b] at hr
    exact hr

variable {n : Nat} {c : Block}

theorem not_mem_old_of_lt (hold : ∀ i ∈ old, Issued w.issued i) (hn : w.issued < n) :
    ofNat n ∉ old := by
  intro hmem
  obtain ⟨k, hk, heq⟩ := hold _ hmem
  rw [ofNat_inj] at heq
  omega

theorem scripts_stacked (w : Workspace) (b : Block) :
    (w.stacked b).scripts =
      { (w.linked (ofNat (w.issued + 1))).scripts with
        blocks := (w.linked (ofNat (w.issued + 1))).blocks ++
          [(ofNat (w.issued + 1), { b with parent := w.previous })] } := by
  rw [stacked, push, issued_linked]
  rfl

theorem find?_stacked_cases {k : Id} (h : (w.stacked b).blocks.find? k = some c) :
    (∃ a, w.blocks.find? k = some a ∧ a.Like c) ∨
      k = ofNat (w.issued + 1) ∧ c = { b with parent := w.previous } := by
  have hblocks := congrArg Scripts.blocks (scripts_stacked w b)
  replace h := (congrArg (Table.find? · k) hblocks).symm.trans h
  rcases find?_append_cases h with hold | hnew
  · refine .inl ?_
    cases hp : w.previous with
    | none =>
      rw [linked_of_none hp] at hold
      exact ⟨c, hold, Block.Like.refl c⟩
    | some p =>
      rw [linked_of_some hp] at hold
      obtain ⟨a, ha, ⟨-, rfl⟩ | ⟨-, rfl⟩⟩ := find?_amend_cases hold
      · exact ⟨c, ha, Block.Like.refl c⟩
      · exact ⟨a, ha, a.like_setNext _⟩
  · exact .inr (Table.find?_singleton hnew)

theorem grows_linked (old : List Id) (w : Workspace) (id : Id) : Grows old w (w.linked id) := by
  cases hp : w.previous with
  | none =>
    rw [linked_of_none hp]
    exact Grows.refl _ _
  | some p =>
    rw [linked_of_some hp]
    exact grows_relink fun b => b.like_setNext _

theorem grows_stacked (hold : ∀ i ∈ old, Issued w.issued i)
    (hb : ∀ r ∈ b.plugged, r ∉ old) : Grows old w (w.stacked b) := by
  refine (grows_linked old w (ofNat (w.issued + 1))).trans
    (grows_append ?_ (scripts_stacked w b) ?_ (.inr ?_))
  · rw [issued_linked, issued_stacked]
    exact le_succ _
  · intro id c hc
    obtain ⟨-, rfl⟩ := Table.find?_singleton hc
    exact hb
  · intro p hp
    cases hp
    exact not_mem_old_of_lt hold (lt_succ_self _)

/-! ### The head of a procedure -/

theorem range_succ (n k : Nat) : Id.range n (k + 1) = ofNat (n + 1) :: Id.range (n + 1) k := by
  rw [Id.range, range'_succ, map_cons]
  rfl

theorem keys_parameters (prototype : Id) (n : Nat) (ps : List (String × Id)) :
    (parameters prototype n ps).keys = Id.range n ps.length := by
  induction ps generalizing n with
  | nil => rfl
  | cons p ps ih => rw [length_cons, range_succ, ← ih]; rfl

theorem mem_parameters {prototype : Id} {ps : List (String × Id)} {p : Id × Block}
    (h : p ∈ parameters prototype n ps) : ∃ name, p.2 = parameterBlock prototype name := by
  induction ps generalizing n with
  | nil => cases h
  | cons q ps ih =>
    rcases mem_cons.1 h with rfl | hrest
    · exact ⟨q.1, rfl⟩
    · exact ih hrest

theorem mem_parameterInputs {ps : List (String × Id)} {p : String × Input}
    (h : p ∈ parameterInputs n ps) :
    p.1 ∈ ps.map Prod.snd ∧ ∃ r ∈ Id.range n ps.length, p.2 = .menu r := by
  induction ps generalizing n with
  | nil => cases h
  | cons q ps ih =>
    rw [length_cons, range_succ]
    rcases mem_cons.1 h with rfl | hrest
    · exact ⟨.head _, _, .head _, rfl⟩
    · obtain ⟨hname, r, hr, hp⟩ := ih hrest
      exact ⟨.tail _ hname, r, .tail _ hr, hp⟩

theorem lt_of_mem_range {n k : Nat} {r : Id} (h : r ∈ Id.range n k) :
    ∃ m, n < m ∧ m ≤ n + k ∧ r = ofNat m := by
  obtain ⟨m, hm, rfl⟩ := mem_map.1 h
  rw [mem_range'_1] at hm
  exact ⟨m, by omega, by omega, rfl⟩

/-- The block is a parameter, the prototype, or the definition. -/
theorem headBlocks_cases {p : Procedure} {y : Int} (h : (headBlocks n p y).find? id = some c) :
    (∃ name, c = parameterBlock (ofNat (n + 2)) name) ∨
      (id = ofNat (n + 2) ∧ c = prototypeBlock (ofNat (n + 1)) p
        (parameterInputs (n + 2) (p.argumentNames.zip p.argumentIds))) ∨
      (id = ofNat (n + 1) ∧ c = definitionBlock (ofNat (n + 2)) y) := by
  rcases mem_append.1 (mem_of_find? h) with hparam | hlast
  · exact .inl (mem_parameters hparam)
  · rcases mem_cons.1 hlast with heq | hlast
    · cases heq
      exact .inr (.inl ⟨rfl, rfl⟩)
    · cases mem_singleton.1 hlast
      exact .inr (.inr ⟨rfl, rfl⟩)

/-- What is plugged in at the head of a procedure is new. -/
theorem lt_of_plugged_headBlocks {p : Procedure} {y : Int} {id r : Id}
    (h : (headBlocks n p y).find? id = some c) (hr : r ∈ c.plugged) :
    ∃ m, n < m ∧ r = ofNat m := by
  obtain ⟨q, hq, htarget⟩ := mem_plugged.1 hr
  rcases headBlocks_cases h with ⟨name, rfl⟩ | ⟨-, rfl⟩ | ⟨-, rfl⟩
  · cases hq
  · obtain ⟨-, r', hr', hq⟩ := mem_parameterInputs hq
    rw [hq] at htarget
    cases htarget
    obtain ⟨m, hm, -, rfl⟩ := lt_of_mem_range hr'
    exact ⟨m, by omega, rfl⟩
  · cases mem_singleton.1 hq
    cases htarget
    exact ⟨n + 2, by omega, rfl⟩

theorem grows_headed (hold : ∀ i ∈ old, Issued w.issued i) (name : String) (p : Procedure)
    (y : Int) : Grows old w (w.headed name p y) := by
  refine grows_append (by simp only [headed]; omega) rfl ?_ (.inr ?_)
  · intro id c hc r hr
    obtain ⟨m, hm, rfl⟩ := lt_of_plugged_headBlocks hc hr
    exact not_mem_old_of_lt hold hm
  · intro p hp
    cases hp
    exact not_mem_old_of_lt hold (lt_succ_self _)

/-! ### Sequences of edits -/

theorem IsStatement.not_mem_old (hb : w.IsStatement old b) (r : Id) (hr : r ∈ b.plugged) :
    r ∉ old := by
  obtain ⟨p, hp, htarget⟩ := mem_plugged.1 hr
  exact (hb.inputs p hp).2.2 r htarget

theorem issued_cons_stacked (hold : ∀ i ∈ old, Issued w.issued i) (b : Block) :
    ∀ i ∈ ofNat (w.issued + 1) :: old, Issued (w.stacked b).issued i := by
  intro i hi
  rw [issued_stacked]
  rcases mem_cons.1 hi with rfl | hi
  · exact ⟨w.issued + 1, Nat.le_refl _, rfl⟩
  · obtain ⟨k, hk, heq⟩ := hold i hi
    exact ⟨k, le_succ_of_le hk, heq⟩

theorem Revises.plugged {b' : Block} (hf : w.Revises old id b b') (r : Id) (hr : r ∈ b'.plugged) :
    r ∈ b.plugged ∨ r ∉ old := by
  obtain ⟨p, hp, hr⟩ := mem_plugged.1 hr
  rcases hf.inputs p hp with hold | ⟨-, hnew⟩
  · exact .inl (mem_plugged.2 ⟨p, hold, hr⟩)
  · exact .inr fun hc => hnew r hr (.tail _ hc)

theorem IsStatement.mono (hb : w.IsStatement old' b) (hsub : old ⊆ old') : w.IsStatement old b :=
  { hb with inputs := fun p hp => ⟨(hb.inputs p hp).1, (hb.inputs p hp).2.mono hsub⟩ }

theorem Revises.mono {b' : Block} (hf : w.Revises old' id b b') (hsub : old ⊆ old') :
    w.Revises old id b b' :=
  { hf with
    inputs := fun p hp => (hf.inputs p hp).imp_right fun ⟨hfits, hnew⟩ =>
      ⟨hfits, fun r hr hc => hnew r hr (cons_subset_cons id hsub hc)⟩ }

/-- **Edits let scripts grow and leave old blocks alone.** -/
theorem Edits.grows (h : Edits L old w w') (hold : ∀ i ∈ old, Issued w.issued i) :
    Grows old w w' := by
  induction h with
  | refl w => exact Grows.refl _ _
  | trans h h' ih ih' =>
    have hfirst := ih hold
    refine hfirst.trans (ih' fun i hi => ?_)
    obtain ⟨k, hk, heq⟩ := hold i hi
    exact ⟨k, hk.trans hfirst.issued, heq⟩
  | issue w n =>
    exact grows_of_blocks_eq (Nat.le_add_right _ _) rfl (Scripts.Extends.refl _) (.inl rfl)
  | note w hat arguments soundsUsed =>
    exact grows_of_blocks_eq (Nat.le_refl _) rfl (Scripts.Extends.refl _) (.inl rfl)
  | turn hp =>
    exact grows_of_blocks_eq (Nat.le_refl _) rfl (Scripts.Extends.refl _)
      (.inr fun q hq => (hp q hq).2)
  | declare v hx =>
    refine grows_of_blocks_eq (le_succ _) rfl ?_ (.inl rfl)
    exact extends_of_blocks_eq rfl (prefix_append _ _) fun _ _ h => h
  | addList items hname =>
    exact grows_of_blocks_eq (le_succ _) rfl (Scripts.Extends.refl _) (.inl rfl)
  | @addMessage _ _ w m hm =>
    refine grows_of_blocks_eq (le_succ _) rfl ?_ (.inl rfl)
    refine extends_of_blocks_eq rfl (prefix_refl _) fun m' i hi => ?_
    have hne : m ≠ m' := by
      rintro rfl
      cases hm.symm.trans hi
    exact (find?_set_of_ne _ _ hne).trans hi
  | push hb =>
    refine grows_append (le_succ _) rfl ?_ (.inl rfl)
    intro id c hc r hr
    obtain ⟨-, rfl⟩ := Table.find?_singleton hc
    rw [plugged, hb.inputs] at hr
    cases hr
  | stack hb hopcode => exact grows_stacked hold hb.not_mem_old
  | hang id hp => exact grows_relink fun b => b.like_setParent _
  | amend hb hid hloose hf =>
    refine grows_amend fun c hc => ?_
    cases hb.symm.trans hc
    exact ⟨⟨hf.kind, hf.shadow⟩, fun hmem => absurd hmem hid, hf.plugged⟩
  | @call _ old w w₁ _ _ _ inputs _ _ _ _ hinputs ih =>
    have hnew : ofNat (w.issued + 1) ∉ old := not_mem_old_of_lt hold (lt_succ_self _)
    have hstacked : Grows old w (w.stacked callBlock) := grows_stacked hold fun _ hr => by cases hr
    have hargs := ih (issued_cons_stacked hold callBlock)
    refine (hstacked.trans (hargs.mono (subset_cons_self _ _))).trans (grows_amend ?_)
    refine fun c _ => ⟨⟨rfl, rfl⟩, fun hmem => absurd hmem hnew, fun r hr => .inr fun hmem => ?_⟩
    obtain ⟨i, hi, htarget⟩ := mem_plugged.1 hr
    exact (hinputs i hi).2 r htarget (.tail _ hmem)
  | announce names hL hname =>
    exact grows_of_blocks_eq (Nat.le_add_right _ _) rfl (Scripts.Extends.refl _) (.inl rfl)
  | define y hL hp hopen => exact grows_headed hold _ _ _
  | sprite name settings hL h hdefined ih =>
    have hinner := ih fun _ hi => by cases hi
    refine grows_of_blocks_eq hinner.issued rfl ?_ (.inl rfl)
    exact extends_of_blocks_eq rfl (prefix_refl _) hinner.scripts.broadcasts

theorem Edits.mono {L' : Licence} (h : Edits L old' w w') (hL : L.Within L')
    (hsub : old ⊆ old') : Edits L' old w w' := by
  induction h generalizing old L' with
  | refl w => exact .refl w
  | trans h h' ih ih' => exact (ih hL hsub).trans (ih' hL hsub)
  | issue w n => exact .issue w n
  | note w hat arguments soundsUsed => exact .note w hat arguments soundsUsed
  | turn hp => exact .turn fun q hq => ⟨(hp q hq).1, fun hc => (hp q hq).2 (hsub hc)⟩
  | declare v hx => exact .declare v hx
  | addList items hname => exact .addList items hname
  | addMessage hm => exact .addMessage hm
  | push hb => exact .push hb
  | stack hb hopcode => exact .stack (hb.mono hsub) hopcode
  | hang id hp => exact .hang id hp
  | amend hb hid hloose hf => exact .amend hb (fun hc => hid (hsub hc)) hloose (hf.mono hsub)
  | @call _ _ w _ _ _ _ _ hcall hp _ hkeys hinputs ih =>
    have hcons := cons_subset_cons (ofNat (w.issued + 1)) hsub
    exact .call (hL.calls _ _ hcall) hp (ih hL hcons) hkeys fun i hi => (hinputs i hi).mono hcons
  | announce names hdefines hname => exact .announce names (hL.defines hdefines) hname
  | define y hdefines hp hopen => exact .define y (hL.defines hdefines) hp hopen
  | sprite name settings hnests h hdefined ih =>
    refine .sprite name settings (hL.nests hnests) ?_ hdefined
    exact ih ⟨hL.calls, hL.nests, fun _ => trivial⟩ (List.Subset.refl [])

end Workspace

end BlockScript
