import BlockScript.Proofs.Evaluation
import BlockScript.Proofs.Uses

/-!
# The variables that a statement mentions

A variable in an expression is read by a block `data_variable`. An expression is understood in one of
two ways, as a value or as a condition, and each of them passes over what it does not understand: a
variable as a condition, a condition as a value, a sign before anything but a constant, all of a
comparison but its first two operands. `Expr.keeps` and `Expr.keepsAsTest` say when nothing is passed
over, and `Stmt.mentions_iff` that they say it exactly: below the block of a statement each variable
of its expression has a reader of its own if and only if the expression is kept.
-/

namespace BlockScript

open Workspace Build Program Filling List

/-! ### The blocks below an input -/

/-- A block is plugged into the input, or into one below it. -/
inductive Table.Below (t : Table Block) : Option Input → Id → Prop
  | here {i : Input} {id : Id} (hi : i.target? = some id) : t.Below (some i) id
  | there {i : Input} {id k : Id} {b : Block} {p : String × Input} (hi : i.target? = some id)
      (hb : t.find? id = some b) (hp : p ∈ b.inputs) (hk : t.Below (some p.2) k) :
    t.Below (some i) k

/-- The block reads a variable. -/
def Table.Reads (t : Table Block) (vs : List Variable) (k : Id) (x : String) : Prop :=
  ∃ b, t.find? k = some b ∧ b.opcode = "data_variable" ∧
    ∃ v ∈ vs, v.name = x ∧ b.fields = [("VARIABLE", .named x v.id)]

namespace Filling

/-- The variables that are read, in order. -/
def reads : Filling → List String
  | read x => [x]
  | node _ left right => left.reads ++ right.reads
  | _ => []

/-- The opcodes of its operators. -/
def opcodes : Filling → List String
  | node k left right => k.opcode :: (left.opcodes ++ right.opcodes)
  | _ => []

variable {t : Table Block} {vs : List Variable} {f : Filling} {i : Option Input} {ids : List Id}
  {k : Id}

theorem mem_entry {name : String} {i : Option Input} {p : String × Input} :
    p ∈ entry name i ↔ i = some p.2 ∧ p.1 = name := by
  cases i with
  | none => simp [entry]
  | some i => simp [entry, Prod.ext_iff, eq_comm, and_comm]

theorem target?_input (k : Operator) (id : Id) : (k.input id).target? = some id := by
  rw [Operator.input]
  split <;> rfl

/-- The blocks below an input are those of its tree. -/
theorem Fills.below_iff (h : f.Fills t vs i ids) : t.Below i k ↔ k ∈ ids := by
  induction f generalizing i ids with
  | empty =>
    obtain ⟨rfl, rfl⟩ := h
    exact ⟨(fun h => by cases h), (fun h => by cases h)⟩
  | constant v =>
    obtain ⟨rfl, text, -, rfl⟩ := h
    refine ⟨fun h => ?_, fun h => by cases h⟩
    cases h with
    | here hi => cases hi
    | there hi => cases hi
  | read x =>
    obtain ⟨id, rfl, rfl, v, -, -, b, hb, hlike⟩ := h
    rw [mem_singleton]
    refine ⟨fun h => ?_, fun h => .here (h ▸ rfl)⟩
    cases h with
    | here hi =>
      cases hi
      rfl
    | there hi hb' hp =>
      cases hi
      cases hb.symm.trans hb'
      rw [hlike] at hp
      cases hp
  | node o left right ihl ihr =>
    obtain ⟨id, l, r, ls, rs, rfl, rfl, ⟨b, hb, hlike⟩, hl, hr⟩ := h
    have hinputs : ∀ p, p ∈ b.inputs ↔
        (l = some p.2 ∧ p.1 = o.first) ∨ (r = some p.2 ∧ p.1 = o.second) := by
      intro p
      rw [hlike]
      exact mem_append.trans (or_congr mem_entry mem_entry)
    rw [mem_cons, mem_append, ← ihl hl, ← ihr hr]
    constructor
    · intro h
      cases h with
      | here hi => exact .inl (Option.some_inj.1 (hi.symm.trans (target?_input o id)))
      | there hi hb' hp hk =>
        cases hi.symm.trans (target?_input o id)
        cases hb.symm.trans hb'
        rcases (hinputs _).1 hp with ⟨rfl, -⟩ | ⟨rfl, -⟩
        · exact .inr (.inl hk)
        · exact .inr (.inr hk)
    · -- an input without a block has nothing below it
      have hsome : ∀ {j : Option Input}, t.Below j k → ∃ i, j = some i := fun h => by
        cases h <;> exact ⟨_, rfl⟩
      rintro (rfl | hk | hk)
      · exact .here (target?_input o _)
      · obtain ⟨j, rfl⟩ := hsome hk
        exact .there (p := (o.first, j)) (target?_input o id) hb ((hinputs _).2 (.inl ⟨rfl, rfl⟩)) hk
      · obtain ⟨j, rfl⟩ := hsome hk
        exact .there (p := (o.second, j)) (target?_input o id) hb
          ((hinputs _).2 (.inr ⟨rfl, rfl⟩)) hk

/-- A block of the tree reads a variable or is one of the operators. -/
theorem Fills.opcode_mem (h : f.Fills t vs i ids) (hk : k ∈ ids) {b : Block}
    (hb : t.find? k = some b) : b.opcode = "data_variable" ∨ b.opcode ∈ f.opcodes := by
  induction f generalizing i ids with
  | empty =>
    obtain ⟨-, rfl⟩ := h
    cases hk
  | constant v =>
    obtain ⟨rfl, -⟩ := h
    cases hk
  | read x =>
    obtain ⟨id, -, rfl, v, -, -, b', hb', hlike⟩ := h
    cases mem_singleton.1 hk
    cases hb.symm.trans hb'
    exact .inl hlike.opcode
  | node o left right ihl ihr =>
    obtain ⟨id, l, r, ls, rs, -, rfl, ⟨b', hb', hlike⟩, hl, hr⟩ := h
    rw [opcodes, mem_cons, mem_append]
    rcases mem_cons.1 hk with rfl | hk
    · cases hb.symm.trans hb'
      exact .inr (.inl hlike.opcode)
    · rcases mem_append.1 hk with hk | hk
      · exact (ihl hl hk).imp_right fun h => .inr (.inl h)
      · exact (ihr hr hk).imp_right fun h => .inr (.inr h)

/-- Each variable that is read has a block of its own, and no other block reads a variable. -/
theorem Fills.exists_readers (h : f.Fills t vs i ids) (hf : "data_variable" ∉ f.opcodes) :
    ∃ ks, ks.Sublist ids ∧ Forall₂ (t.Reads vs) ks f.reads ∧
      ∀ k ∈ ids, ∀ x, t.Reads vs k x → k ∈ ks := by
  induction f generalizing i ids with
  | empty =>
    obtain ⟨-, rfl⟩ := h
    exact ⟨[], List.Sublist.refl _, .nil, fun k hk => by cases hk⟩
  | constant v =>
    obtain ⟨rfl, -⟩ := h
    exact ⟨[], List.Sublist.refl _, .nil, fun k hk => by cases hk⟩
  | read x =>
    obtain ⟨id, -, rfl, v, hv, hname, b, hb, hlike⟩ := h
    refine ⟨[id], List.Sublist.refl _, .cons ⟨b, hb, hlike.opcode, v, hv, hname, ?_⟩ .nil,
      fun k hk _ _ => hk⟩
    rw [hlike]
  | node o left right ihl ihr =>
    obtain ⟨id, l, r, ls, rs, -, rfl, ⟨b, hb, hlike⟩, hl, hr⟩ := h
    rw [opcodes, mem_cons, mem_append, not_or, not_or] at hf
    obtain ⟨ks, hks, hreads, hall⟩ := ihl hl hf.2.1
    obtain ⟨ks', hks', hreads', hall'⟩ := ihr hr hf.2.2
    refine ⟨ks ++ ks', (hks.append hks').cons _, rel_append hreads hreads', ?_⟩
    intro k hk x hx
    rcases mem_cons.1 hk with rfl | hk
    · obtain ⟨b', hb', hopcode, -⟩ := hx
      cases hb.symm.trans hb'
      exact absurd (hopcode.symm.trans hlike.opcode) hf.1
    · rcases mem_append.1 hk with hk | hk
      · exact mem_append_left _ (hall k hk x hx)
      · exact mem_append_right _ (hall' k hk x hx)

end Filling

/-! ### What is kept of an expression -/

/-- Some of the names are kept, all of them exactly under the condition. -/
def KeptIf (p : Prop) (kept names : List String) : Prop := kept.Sublist names ∧ (p ↔ kept = names)

namespace KeptIf

variable {p q : Prop} {kept kept' names names' : List String}

theorem nil (names : List String) : KeptIf (names.isEmpty) [] names :=
  ⟨nil_sublist _, by rw [List.isEmpty_iff, eq_comm]⟩

theorem append (h : KeptIf p kept names) (h' : KeptIf q kept' names') :
    KeptIf (p ∧ q) (kept ++ kept') (names ++ names') := by
  refine ⟨h.1.append h'.1, ?_⟩
  rw [h.2, h'.2]
  refine ⟨fun ⟨hl, hr⟩ => by rw [hl, hr], fun heq => ?_⟩
  have hlength := congrArg length heq
  rw [length_append, length_append] at hlength
  have hle := h.1.length_le
  have hle' := h'.1.length_le
  exact ⟨h.1.eq_of_length (by omega), h'.1.eq_of_length (by omega)⟩

end KeptIf

namespace Program

mutual

/-- The variables of a formula, in order. -/
def Expr.names : Expr → List String
  | .name x => [x]
  | .unary _ e => e.names
  | .binary _ left right => left.names ++ right.names
  | .bool _ operands => namesOf operands
  | .compare left _ right rest => left.names ++ right.names ++ namesOfRest rest
  | _ => []

def namesOf : List Expr → List String
  | [] => []
  | e :: rest => e.names ++ namesOf rest

def namesOfRest : List (CompareOp × Expr) → List String
  | [] => []
  | p :: rest => namesOfPair p ++ namesOfRest rest

def namesOfPair : CompareOp × Expr → List String
  | (_, e) => e.names

end

/-- No variable is passed over if the formula is understood as a value. -/
def Expr.keeps : Expr → Bool
  | .name _ => true
  | .unary .plus e => e.keeps
  | .binary _ left right => left.keeps && right.keeps
  | e => e.names.isEmpty

mutual

/-- No variable is passed over if the formula is understood as a condition. -/
def Expr.keepsAsTest : Expr → Bool
  | .unary .not e => e.keepsAsTest
  | .bool _ operands => keepAsTests operands
  | .compare left op right rest =>
    if op.opcode?.isSome then left.keeps && right.keeps && (namesOfRest rest).isEmpty
    else (left.names ++ right.names ++ namesOfRest rest).isEmpty
  | e => e.names.isEmpty

def keepAsTests : List Expr → Bool
  | [] => true
  | e :: rest => e.keepsAsTest && keepAsTests rest

end

theorem Expr.keptIf_keeps : ∀ e : Expr, e.isFormula →
    KeptIf (e.keeps) e.filling.reads e.names
  | .const v, _ => .nil []
  | .name x, _ => ⟨List.Sublist.refl _, by simp [keeps, filling, reads, names]⟩
  | .unary .plus e, h => by
    rw [isFormula, Bool.and_eq_true] at h
    exact e.keptIf_keeps h.2
  | .unary .negate e, _ => by
    have hreads : e.filling.negated.reads = [] := by cases e.filling <;> rfl
    rw [filling, hreads]
    exact .nil _
  | .unary .not e, _ => .nil _
  | .binary op left right, h => by
    rw [isFormula, Bool.and_eq_true, Bool.and_eq_true] at h
    obtain ⟨opcode, hop⟩ := Option.isSome_iff_exists.1 h.1.1
    rw [keeps, Bool.and_eq_true, filling, hop]
    exact (left.keptIf_keeps h.1.2).append (right.keptIf_keeps h.2)
  | .bool _ _, _ => .nil _
  | .compare .., _ => .nil _

mutual

theorem Expr.keptIf_keepsAsTest : ∀ e : Expr, e.isFormula →
    KeptIf (e.keepsAsTest) e.test.reads e.names
  | .const v, _ => by cases v <;> exact .nil []
  | .name x, _ => .nil _
  | .unary .not e, h => by
    rw [Expr.isFormula, Bool.and_eq_true] at h
    change KeptIf (e.keepsAsTest) (e.test.reads ++ []) e.names
    rw [append_nil]
    exact e.keptIf_keepsAsTest h.2
  | .unary .plus e, _ => .nil _
  | .unary .negate e, _ => .nil _
  | .binary .., _ => .nil _
  | .bool op operands, h => keptIf_keepAsTests op.opcode operands h
  | .compare left op right rest, h => by
    rw [Expr.isFormula, Bool.and_eq_true, Bool.and_eq_true] at h
    rw [Expr.test, comparisonTest, Expr.keepsAsTest]
    cases hop : op.opcode? with
    | none => exact .nil _
    | some k =>
      have hreads : ∀ l r : Filling, ((some k).elim empty fun k =>
          if k.2 then .node .negation (.node (.condition k.1) l r) .empty
          else .node (.condition k.1) l r).reads = l.reads ++ r.reads := by
        intro l r
        obtain ⟨opcode, _ | _⟩ := k <;> simp [reads]
      have hkept := (left.keptIf_keeps h.1.1).append (right.keptIf_keeps h.1.2)
      have hall := hkept.append (.nil (namesOfRest rest))
      rw [append_nil, ← hreads, ← Bool.and_eq_true, ← Bool.and_eq_true] at hall
      exact hall

theorem keptIf_keepAsTests (opcode : String) : ∀ es : List Expr, areFormulas es →
    KeptIf (keepAsTests es) (joined opcode (tests es)).reads (namesOf es)
  | [], _ => .nil []
  | [e], h => by
    rw [areFormulas, Bool.and_eq_true] at h
    have hkept := e.keptIf_keepsAsTest h.1
    rw [keepAsTests, keepAsTests, Bool.and_true, namesOf, namesOf, append_nil]
    exact hkept
  | e :: e' :: rest, h => by
    rw [areFormulas, Bool.and_eq_true] at h
    rw [keepAsTests, Bool.and_eq_true]
    exact (e.keptIf_keepsAsTest h.1).append (keptIf_keepAsTests opcode (e' :: rest) h.2)

end

/-- The operators of formulas. -/
def operators : List String :=
  ["operator_add", "operator_subtract", "operator_multiply", "operator_divide", "operator_mod",
    "operator_gt", "operator_lt", "operator_equals", "operator_and", "operator_or", "operator_not"]

theorem Expr.opcodes_filling : ∀ e : Expr, e.filling.opcodes ⊆ operators
  | .unary .negate e => by
    have hopcodes : e.filling.negated.opcodes = [] := by cases e.filling <;> rfl
    rw [filling, hopcodes]
    exact nil_subset _
  | .unary .plus e => e.opcodes_filling
  | .binary op left right => by
    have hsub := append_subset.2 ⟨left.opcodes_filling, right.opcodes_filling⟩
    rw [filling]
    cases op with
    | add | sub | mul | div | mod | floorDiv => exact cons_subset.2 ⟨by decide, hsub⟩
    | _ => exact nil_subset _
  | .const _ | .name _ | .unary .not _ | .unary .invert _ | .bool .. | .compare .. | .call ..
  | .attribute .. | .subscript .. | .starred _ | .list _ | .tuple _ | .other _ =>
    nil_subset _

theorem opcodes_comparisonTest (op : CompareOp) {l r : Filling}
    (hsub : l.opcodes ++ r.opcodes ⊆ operators) : (comparisonTest op l r).opcodes ⊆ operators := by
  cases op with
  | gt | lt | eq => exact cons_subset.2 ⟨by decide, hsub⟩
  | notEq | ge | le =>
    refine cons_subset.2 ⟨by decide, append_subset.2 ⟨?_, nil_subset _⟩⟩
    exact cons_subset.2 ⟨by decide, hsub⟩
  | _ => exact nil_subset _

mutual

theorem Expr.opcodes_test : ∀ e : Expr, e.test.opcodes ⊆ operators
  | .const v => by
    cases v with
    | bool b => exact cons_subset.2 ⟨by decide, nil_subset _⟩
    | _ => exact nil_subset _
  | .unary .not e =>
    cons_subset.2 ⟨by decide, append_subset.2 ⟨e.opcodes_test, nil_subset _⟩⟩
  | .bool op operands => opcodes_joined_tests (by cases op <;> decide) operands
  | .compare left op right _ =>
    opcodes_comparisonTest op (append_subset.2 ⟨left.opcodes_filling, right.opcodes_filling⟩)
  | .name _ | .unary .plus _ | .unary .negate _ | .unary .invert _ | .binary .. | .call ..
  | .attribute .. | .subscript .. | .starred _ | .list _ | .tuple _ | .other _ =>
    nil_subset _

theorem opcodes_joined_tests {opcode : String} (hopcode : opcode ∈ operators) :
    ∀ es : List Expr, (joined opcode (tests es)).opcodes ⊆ operators
  | [] => nil_subset _
  | [e] => e.opcodes_test
  | e :: e' :: rest => cons_subset.2 ⟨hopcode, append_subset.2
      ⟨e.opcodes_test, opcodes_joined_tests hopcode (e' :: rest)⟩⟩

end

/-! ### The readers below a statement -/

/-- No variable is passed over where the expression is used. -/
def Use.keeps (u : Use) : Bool := if u.isTest then u.expr.keepsAsTest else u.expr.keeps

variable {u : Use} {w w' : Workspace}

theorem Use.opcodes_filling (u : Use) : u.filling.opcodes ⊆ operators := by
  rw [filling]
  split
  · exact u.expr.opcodes_test
  · exact u.expr.opcodes_filling

theorem Use.keptIf_keeps (he : u.expr.isFormula) :
    KeptIf (u.keeps) u.filling.reads u.expr.names := by
  rw [keeps, filling]
  split
  · exact u.expr.keptIf_keepsAsTest he
  · exact u.expr.keptIf_keeps he

/-- What is below the block of a statement: the readers of the variables that are kept, one for each
of them, and operators. -/
theorem Stmt.exists_readers (hw : w.Sound) {s : Stmt} (hu : s.use? = some u)
    (he : u.expr.isFormula) (hrun : s.visit.run w = (.ok (), w')) :
    ∃ id b ks, w'.previous = some id ∧ id ∉ w.blocks.keys ∧ w'.blocks.find? id = some b ∧
      b.opcode = u.opcode ∧ ks.Nodup ∧ Forall₂ (w'.blocks.Reads w'.vars) ks u.filling.reads ∧
      (∀ k ∈ ks, w'.blocks.Below (b.inputs.find? u.input) k) ∧
      ∀ k, w'.blocks.Below (b.inputs.find? u.input) k →
        (∀ x, w'.blocks.Reads w'.vars k x → k ∈ ks) ∧
        ∀ c, w'.blocks.find? k = some c → c.opcode = "data_variable" ∨ c.opcode ∈ operators := by
  obtain ⟨id, hid, b, ids, hb, hopcode, hfills, hnodup, hnew⟩ := visit_carries hu he hw hrun
  obtain ⟨ks, hsub, hreads, hall⟩ :=
    hfills.exists_readers fun h => absurd (u.opcodes_filling h) (by decide)
  refine ⟨id, b, ks, hid, hnew id (.head _), hb, hopcode,
    hsub.nodup (nodup_cons.1 hnodup).2, hreads,
    fun k hk => hfills.below_iff.2 (hsub.subset hk), fun k hk => ?_⟩
  replace hk := hfills.below_iff.1 hk
  exact ⟨hall k hk, fun c hc => (hfills.opcode_mem hk hc).imp_right fun h => u.opcodes_filling h⟩

/-- **The variables of an expression have readers of their own exactly if it is kept.** -/
theorem Stmt.mentions_iff (hw : w.Reachable) {s : Stmt} (hu : s.use? = some u)
    (he : u.expr.isFormula = true) (hrun : s.visit.run w = (.ok (), w')) :
    ∃ id b, w'.previous = some id ∧ id ∉ w.blocks.keys ∧ w'.blocks.find? id = some b ∧
      b.opcode = u.opcode ∧
      ((∃ ks : List Id, ks.Nodup ∧
        (∀ k ∈ ks, w'.blocks.Below (b.inputs.find? u.input) k) ∧
        List.Forall₂ (w'.blocks.Reads w'.vars) ks u.expr.names) ↔ u.keeps = true) := by
  obtain ⟨id, b, ks, hid, hnew, hb, hopcode, hnodup, hreads, hbelow, hall⟩ :=
    Stmt.exists_readers hw.sound hu he hrun
  obtain ⟨hkept, hiff⟩ := Use.keptIf_keeps he
  refine ⟨id, b, hid, hnew, hb, hopcode, ?_, fun h => ⟨ks, hnodup, hbelow, ?_⟩⟩
  · -- there are no readers but these, so that a name without one is missed in their number
    rintro ⟨ks', hnodup', hbelow', hreads'⟩
    have hincl : ks' ⊆ ks := by
      intro k hk
      obtain ⟨hlength, hget⟩ := List.forall₂_iff_get.1 hreads'
      obtain ⟨n, hn⟩ := List.get_of_mem hk
      have hx := hget n n.2 (hlength ▸ n.2)
      rw [Fin.eta, hn] at hx
      exact (hall k (hbelow' k hk)).1 _ hx
    refine hiff.2 (hkept.eq_of_length (Nat.le_antisymm hkept.length_le ?_))
    rw [← hreads'.length_eq, ← hreads.length_eq]
    exact (List.subperm_of_subset hnodup' hincl).length_le
  · rw [← hiff.1 h]
    exact hreads

/-- `if ready: move(1)`. -/
def readyBranch : Stmt :=
  .conditional (.name "ready") [.expr (.call (.name "move") [.const (.int 1)] [])] []

/-- Nothing below the branch reads `ready`. -/
theorem mentions_iff_readyBranch : ∃ w' id b, readyBranch.visit.run { issued := 0 } = (.ok (), w') ∧
    w'.previous = some id ∧ w'.blocks.find? id = some b ∧ b.opcode = "control_if" ∧
    ¬∃ k, w'.blocks.Below (b.inputs.find? "CONDITION") k ∧ w'.blocks.Reads w'.vars k "ready" := by
  have hok : (readyBranch.visit.run { issued := 0 }).1.isOk = true := by decide +kernel
  obtain ⟨_, w', hrun⟩ := Build.exists_of_isOk hok
  obtain ⟨id, b, hid, -, hb, hopcode, hiff⟩ := Stmt.mentions_iff (.start 0) rfl rfl hrun
  refine ⟨w', id, b, hrun, hid, hb, hopcode, fun ⟨k, hk, hx⟩ => ?_⟩
  exact absurd (hiff.1 ⟨[k], List.nodup_singleton k, List.forall_mem_singleton.2 hk,
    .cons hx .nil⟩) (by decide)

/-! ### Parameters -/

/-- **Parameters are not bound.** A name that is read is a variable of the sprite, which is there
from then on, also if the procedure at hand has a parameter of this name. -/
theorem Stmt.parameters_unbound (hw : w.Reachable) {s : Stmt} (hu : s.use? = some u)
    (he : u.expr.isFormula = true) (hrun : s.visit.run w = (.ok (), w')) :
    ∃ id b ks, w'.previous = some id ∧ w'.blocks.find? id = some b ∧ b.opcode = u.opcode ∧
      ks.Nodup ∧ (∀ k ∈ ks, w'.blocks.Below (b.inputs.find? u.input) k) ∧
      List.Forall₂ (w'.blocks.Reads w'.vars) ks u.filling.reads ∧
      (∀ k, w'.blocks.Below (b.inputs.find? u.input) k → ∀ c, w'.blocks.find? k = some c →
        c.opcode ≠ "argument_reporter_string_number") ∧
      ∀ p ∈ w.arguments, p ∈ u.filling.reads → ∀ w₂, w'.GoesOn w₂ → ∃ v ∈ w₂.vars, v.name = p := by
  obtain ⟨id, b, ks, hid, -, hb, hopcode, hnodup, hreads, hbelow, hall⟩ :=
    Stmt.exists_readers hw.sound hu he hrun
  refine ⟨id, b, ks, hid, hb, hopcode, hnodup, hbelow, hreads, fun k hk c hc hargument => ?_,
    fun p _ hp w₂ hlater => ?_⟩
  · rcases (hall k hk).2 c hc with hvariable | hoperator
    · exact absurd (hvariable.symm.trans hargument) (by decide)
    · rw [hargument] at hoperator
      exact absurd hoperator (by decide)
  · obtain ⟨hlength, hget⟩ := List.forall₂_iff_get.1 hreads
    obtain ⟨n, rfl⟩ := List.get_of_mem hp
    obtain ⟨-, -, -, v, hv, hname, -⟩ := hget n (lt_of_lt_of_eq n.2 hlength.symm) n.2
    have hw' := ((goesOn_visit hrun).grows hw.sound).1
    exact ⟨v, (hlater.grows hw').2.scripts.vars.subset hv, hname⟩

/-- `change_y(height)`. -/
def jumping : Stmt := .expr (.call (.name "change_y") [.name "height"] [])

/-- In a procedure with the parameter `height`, the jump makes a variable of that name. -/
theorem parameters_unbound_jumping : ∃ w' : Workspace,
    jumping.visit.run { issued := 0, arguments := ["height"] } = (.ok (), w') ∧
      ∃ v ∈ w'.vars, v.name = "height" := by
  have hw : Workspace.Reachable { issued := 0, arguments := ["height"] } :=
    .edits (L := .plain) (.start 0) (List.nil_subset _) (.note _ none ["height"] [])
  have hok : (jumping.visit.run { issued := 0, arguments := ["height"] }).1.isOk = true := by
    decide +kernel
  obtain ⟨_, w', hrun⟩ := Build.exists_of_isOk hok
  obtain ⟨-, -, -, -, -, -, -, -, -, -, hvar⟩ := Stmt.parameters_unbound hw rfl rfl hrun
  exact ⟨w', hrun, hvar "height" (List.mem_singleton_self _) (by decide) w' ⟨[], rfl⟩⟩

end Program

end BlockScript
