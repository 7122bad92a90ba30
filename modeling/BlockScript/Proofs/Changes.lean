import BlockScript.Proofs.Evaluation
import BlockScript.Proofs.Uses

/-!
# Variables that are changed

Of the augmented assignments only `x += e` and `x -= e` have a block, which changes `x` by an amount.
`Workspace.execute` carries out blocks that store a value, on a store that gives each variable a
rational number, and `Workspace.emitted` lists the blocks that a statement puts below the script.

The main result, `Program.Stmt.augAssign_executes`, says which augmented assignments mean what they
say. A sum does. A difference does unless a single variable is taken away: the variable is plugged in
as it is, so it is added. Products, quotients and remainders leave all variables as they are.
-/

namespace BlockScript

open Workspace Build Program List Table

/-! ### Carrying out blocks -/

/-- The blocks from one place of a script, which does not count, down to another. -/
def Table.upTo (t : Table Block) (start : Option Id) : Nat → Option Id → List Id
  | n + 1, some id =>
    if start = some id then [] else t.upTo start n ((t.find? id).bind Block.parent) ++ [id]
  | _, _ => []

theorem Table.upTo_self (t : Table Block) (p : Option Id) (n : Nat) : t.upTo p n p = [] := by
  cases n with
  | zero => rfl
  | succ n =>
    cases p with
    | none => rfl
    | some p => exact if_pos rfl

namespace Workspace

/-- The blocks by which a script is longer. -/
def emitted (w w' : Workspace) : List Id :=
  w'.blocks.upTo w.previous w'.blocks.length w'.previous

/-- Carries out a block that stores a value. -/
def execute? (w : Workspace) (ρ : String → ℚ) (id : Id) : Option (String → ℚ) := do
  let b ← w.blocks.find? id
  let field ← b.fields.find? "VARIABLE"
  let v ← w.vars.find? fun v => some v.id = field.id
  let q ← (b.inputs.find? "VALUE").bind (w.number ρ)
  match b.opcode with
  | "data_setvariableto" => some (Function.update ρ v.name q)
  | "data_changevariableby" => some (Function.update ρ v.name (ρ v.name + q))
  | _ => none

/-- Carries out blocks one after the other. -/
def execute (w : Workspace) (ids : List Id) (ρ : String → ℚ) : Option (String → ℚ) :=
  ids.foldlM w.execute? ρ

variable {w w₁ w₂ : Workspace} {x : String} {f : Filling} {ρ : String → ℚ} {q : ℚ}

theorem emitted_of_parent {id : Id} {b : Block} (hid : w₁.previous = some id)
    (hb : w₁.blocks.find? id = some b) (hparent : b.parent = w.previous)
    (hne : w.previous ≠ some id) : w.emitted w₁ = [id] := by
  obtain ⟨n, hn⟩ : ∃ n, w₁.blocks.length = n + 1 := by
    refine Nat.exists_eq_succ_of_ne_zero fun h => ?_
    rw [length_eq_zero_iff.1 h] at hb
    cases hb
  rw [emitted, hid, hn, upTo, if_neg hne, hb, Option.bind_some, hparent, upTo_self]
  rfl

/-- A block that changes a variable adds what is found in its input. -/
theorem execute_stored (h : Stored w w₁ "data_changevariableby" x f) (hw : w.Sound) (hw₁ : w₁.Sound)
    (hlater : w₁.GoesOn w₂) (hf : Counts w₂.blocks w₂.vars ρ f q) :
    w₂.execute (w.emitted w₁) ρ = some (Function.update ρ x (ρ x + q)) := by
  obtain ⟨id, v, i, ids, hid, hv, rfl, hb, hfills, hids, hnew⟩ := h
  have hne : w.previous ≠ some id := fun hp =>
    hnew id (.head _) (hw.previous id hp).mem_keys
  rw [emitted_of_parent hid hb rfl hne]
  obtain ⟨hw₂, hgrows⟩ := hlater.grows hw₁
  obtain ⟨b', hb', hlike⟩ := hgrows.like id (mem_keys_of_find? hb) _ hb
  have hfills₂ := hlater.fills hw₁ hfills
  obtain ⟨j, hj, hnumber⟩ :=
    hf _ _ _ hfills₂ (length_le_of_fills hfills₂ (nodup_cons.1 hids).2)
  cases hj
  have hvariable : w₂.vars.find? (fun u => some u.id = some v.id) = some v :=
    find?_id hw₂.scripts.varIds (hgrows.scripts.vars.subset hv)
  have hfields : b'.fields = [("VARIABLE", .named v.name v.id)] := by rw [hlike]
  have hinputs : b'.inputs = [("VALUE", i)] := by rw [hlike]
  have hopcode : b'.opcode = "data_changevariableby" := hlike.opcode
  rw [execute, foldlM_cons, execute?, hb']
  simp only [Option.bind_eq_bind, Option.bind_some, hfields, hinputs, hopcode]
  change ((w₂.vars.find? fun u => some u.id = some v.id).bind fun u =>
    (w₂.number ρ i).bind fun q => some (Function.update ρ u.name (ρ u.name + q))).bind _ = _
  rw [hvariable, number, hnumber]
  rfl

end Workspace

/-! ### What is taken away -/

namespace Filling

/-- What fills the input when something is taken away: a variable stays as it is. -/
def taken : Filling → Filling
  | constant v => constant (v.negated?.getD v)
  | read x => read x
  | f => node (.arithmetic "operator_subtract") (constant (.int 0)) f

variable {w : Workspace} {f : Filling} {o : Operand} {ids : List Id}

theorem plugNegated_meets (hw : w.Numbered) (h : f.Ready w.blocks w.vars ids o) (hids : ids.Nodup)
    (hread : ∀ x, f = read x → o = .name x) (id : Id) :
    (plugNegated id o).Meets w (¬f.taken.Writable) fun i w' => f.taken.Plugged w w' i ids := by
  cases o with
  | value v =>
    obtain ⟨rfl, rfl⟩ := h
    exact plug_meets (o := .value _) hw ⟨rfl, rfl⟩ nodup_nil (some id)
  | name x =>
    obtain ⟨rfl, rfl⟩ := h
    exact plug_meets (o := .name x) hw ⟨rfl, rfl⟩ nodup_nil (some id)
  | block r =>
    obtain ⟨b, rfl, hb⟩ := h
    have htaken : f.taken = node (.arithmetic "operator_subtract") (constant (.int 0)) f := by
      cases f with
      | constant v =>
        obtain ⟨-, text, -, hc⟩ := hb
        cases hc
      | read x => cases hread x rfl
      | _ => rfl
    have hbmem : b ∈ ids := hb.mem_of_target rfl
    let a : Block := { opcode := "operator_subtract" }
    have hat₁ : (w.push a).blocks.At (Id.ofNat (w.issued + 1)) a :=
      ⟨a, find?_push hw.free a, Block.Like.refl a⟩
    have hat₂ := hat₁.amend fun _ _ h => h.setInput "NUM1" (.literal (.number "0"))
    have hat₃ := hat₂.amend fun _ _ h => h.setInput "NUM2" (Core.covering b)
    have he₃ := ((expands_push hw a).amend hw.not_mem fun c =>
      c.setInput "NUM1" (.literal (.number "0"))).amend hw.not_mem fun c =>
        c.setInput "NUM2" (Core.covering b)
    have he₄ := expands_hang he₃.numbered b (some (Id.ofNat (w.issued + 1)))
    have hne : Id.ofNat (w.issued + 1) ∉ ids := fun hmem => hw.not_mem (hb.mem_keys _ hmem)
    rw [htaken]
    refine meets_of_run ((run_bind_of_ok (run_reporter hw.free _) _).trans
      ((run_bind_of_ok (run_setInput hat₁.has _ _) _).trans
        ((run_bind_of_ok (run_setInput hat₂.has _ _) _).trans
          (run_bind_of_ok (run_setParent ((hb.expands he₃).has_of_target rfl) _) _))))
      ⟨he₃.trans he₄, ⟨Id.ofNat (w.issued + 1) :: ids, ⟨_, some (.literal (.number "0")),
        some (Core.covering b), [], ids, rfl, rfl, hat₃.expands he₄, ⟨rfl, "0", rfl, rfl⟩,
        (hb.expands he₃).expands he₄⟩, nodup_cons.2 ⟨hne, hids⟩,
        forall_mem_cons.2 ⟨.inr hw.not_mem, fun k hk => .inl hk⟩⟩, fun k hk c hc => ?_⟩
    have hbk : b ≠ k := fun h => hk (h ▸ hbmem)
    have hnk : Id.ofNat (w.issued + 1) ≠ k := fun h =>
      hw.not_mem (h ▸ mem_keys_of_find? hc)
    exact (find?_amend_of_ne hbk _).trans ((find?_amend_of_ne hnk _).trans
      ((find?_amend_of_ne hnk _).trans (find?_append_of_find? hc)))

end Filling

namespace Program

open Filling

variable {t : Table Block} {vs : List Variable} {ρ : String → ℚ} {e : Expr} {w : Workspace}

/-- Arithmetic is a variable, a number or a block. -/
theorem Expr.isArithmetic_cases (ρ : String → ℚ) : ∀ {e : Expr}, e.isArithmetic →
    (∃ y, e = .name y) ∨ (∃ j : Int, e.filling = .constant (.int j) ∧ e.number ρ = j) ∨
      ∃ k f g, e.filling = .node k f g
  | .const (.int j), _ => .inr (.inl ⟨j, rfl, rfl⟩)
  | .name y, _ => .inl ⟨y, rfl⟩
  | .unary op e, h => by
    obtain ⟨j, hj, hnumber, -⟩ := filling_of_isSigned ρ (e := .unary op e) h
    exact .inr (.inl ⟨j, hj, hnumber⟩)
  | .binary op left right, h => by
    rw [isArithmetic, Bool.and_eq_true, Bool.and_eq_true] at h
    obtain ⟨opcode, F, hop, -⟩ := BinaryOp.exists_arithmeticOf h.1.1
    rw [filling, hop]
    exact .inr (.inr ⟨_, _, _, rfl⟩)

/-- What is taken away counts with the other sign, unless it is a variable. -/
theorem Expr.taken_counts (hvs : (vs.map (·.id)).Nodup) (he : e.isArithmetic)
    (hdef : e.IsDefined ρ) (hname : ∀ y, e ≠ .name y) :
    Counts t vs ρ e.filling.taken (-e.number ρ) := by
  rcases isArithmetic_cases ρ he with ⟨y, hy⟩ | ⟨j, hj, hnumber⟩ | ⟨k, f, g, hf⟩
  · exact absurd hy (hname y)
  · rw [hj, hnumber, ← Int.cast_neg]
    exact counts_int (-j)
  · have hcounts := counts (t := t) hvs he hdef
    have hzero : some ((0 : Int) - e.number ρ : ℚ) = some (-e.number ρ) := by
      rw [Int.cast_zero, zero_sub]
    rw [hf] at hcounts ⊢
    exact counts_node rfl hzero (counts_int 0) hcounts

theorem Expr.taken_writable (he : e.isArithmetic) :
    e.filling.taken.Writable ↔ e.IsShort := by
  obtain ⟨hformula, hshort⟩ := isArithmetic_short he
  have hwritable : e.filling.taken.Writable ↔ e.filling.Writable := by
    rcases isArithmetic_cases (fun _ => 0) he with ⟨y, rfl⟩ | ⟨j, hj, -⟩ | ⟨k, f, g, hf⟩
    · exact Iff.rfl
    · have htaken : (constant (.int j)).taken = .constant (.int (-j)) := rfl
      rw [hj, htaken, Writable, Writable, Value.text_int, Value.text_int,
        Int.natAbs_neg]
    · rw [hf]
      exact ⟨And.right, fun h => ⟨⟨_, rfl⟩, h⟩⟩
  exact hwritable.trans ⟨hshort, Expr.IsShort.writable hformula⟩

/-- What fills the input of the block, if there is one. -/
def BinaryOp.amount? (f : Filling) : BinaryOp → Option Filling
  | .add => some f
  | .sub => some f.taken
  | _ => none

/-- Changing a variable makes the block of a sum or a difference. -/
theorem change_meets (hw : w.Sound) (he : e.isArithmetic) (x : String) (op : BinaryOp) :
    (change x op e.meaning).Meets w (¬e.IsShort) fun _ w' =>
      (op.amount? e.filling).elim (w'.previous = w.previous)
        (Stored w w' "data_changevariableby" x) := by
  obtain ⟨hformula, hshort⟩ := Expr.isArithmetic_short he
  have hperforms := e.meaning_performs (L := ⟨fun _ _ => True, True, False⟩) id fun _ _ => trivial
  have hafter : ∀ o w', e.meaning.operand.run w = (.ok o, w') →
      w'.Sound ∧ ∀ y, e = .name y → o = .name y := by
    intro o w' hrun
    obtain ⟨hedits, -⟩ :=
      hperforms.operand w hw (.refl _) (nil_subset _) o w' hrun
    refine ⟨(hedits.reaches hw (.refl _)).after, ?_⟩
    rintro y rfl
    cases hrun
    rfl
  have hoperand := (e.operand_meets hformula hw.keys).and hafter
  cases op with
  | add =>
    refine hoperand.bind id ?_
    rintro o w₁ ⟨⟨he₁, ids, hready, hids, hnew⟩, hw₁, -⟩
    exact (store_meets he₁ hw₁ (fun k hk => ⟨hready.mem_keys k hk, hnew k hk⟩)
      fun id w' hw' hstay => plug_meets hw' (hready.mono hstay) hids (some id)).mono
        (fun h hs => h (Expr.IsShort.writable hformula hs)) fun _ _ h => h
  | sub =>
    refine hoperand.bind id ?_
    rintro o w₁ ⟨⟨he₁, ids, hready, hids, hnew⟩, hw₁, hname⟩
    have hread : ∀ x, e.filling = .read x → o = .name x := by
      intro x hx
      rcases Expr.isArithmetic_cases (fun _ => 0) he with ⟨y, rfl⟩ | ⟨j, hj, -⟩ | ⟨k, f, g, hf⟩
      · cases hx
        exact hname x rfl
      · cases hj.symm.trans hx
      · cases hf.symm.trans hx
    exact (store_meets he₁ hw₁ (fun k hk => ⟨hready.mem_keys k hk, hnew k hk⟩)
      fun id w' hw' hstay => plugNegated_meets hw' (hready.mono hstay) hids hread id).mono
        (fun h hs => h ((Expr.taken_writable he).2 hs)) fun _ _ h => h
  | mul | matMul | div | mod | pow | shiftLeft | shiftRight | bitOr | bitXor | bitAnd | floorDiv =>
    refine hoperand.bind id ?_
    rintro o w₁ ⟨⟨he₁, -⟩, -⟩
    obtain ⟨v, w₂, hvariable, he₂, -⟩ := exists_run_variableNamed he₁.numbered x (.int 0)
    exact meets_of_run (run_bind_of_ok hvariable _) (he₂.previous.trans he₁.previous)

/-- **What augmented assignments do.** In a workspace in the course of a compilation, an augmented
assignment of arithmetic can be compiled unless a number is too long to be written. What it emits,
carried out at any later time, changes no other variable. A sum means what it says, and so does a
difference, but if a single variable is taken away, it is added instead. The other operators emit
nothing at all, so the variable keeps its value. -/
theorem Stmt.augAssign_executes (hw : w.Reachable) (x : String) (op : BinaryOp) (e : Expr)
    (he : e.isArithmetic = true) :
    (e.IsShort → ∃ w₁, (Stmt.augAssign (.name x) op e).visit.run w = (.ok (), w₁)) ∧
    ∀ w₁ w₂ ρ, (Stmt.augAssign (.name x) op e).visit.run w = (.ok (), w₁) → w₁.GoesOn w₂ →
      e.IsDefined ρ →
      (op = .add ∨ op = .sub ∧ (∀ y, e ≠ .name y) → e.IsShort ∧
        w₂.execute (w.emitted w₁) ρ = some (Function.update ρ x (op.apply (ρ x) (e.number ρ)))) ∧
      (∀ y, op = .sub → e = .name y →
        w₂.execute (w.emitted w₁) ρ = some (Function.update ρ x (ρ x + ρ y))) ∧
      (op ≠ .add → op ≠ .sub → w.emitted w₁ = []) := by
  have hmeets := change_meets hw.sound he x op
  refine ⟨fun hshort => ?_, fun w₁ w₂ ρ hrun hlater hdef => ⟨?_, ?_, fun hadd hsub => ?_⟩⟩
  · obtain ⟨_, w₁, hrun, -⟩ := hmeets.exists_run (not_not.2 hshort)
    exact ⟨w₁, hrun⟩
  all_goals
    have hmade := hmeets.of_eq_ok hrun
    obtain ⟨hw₁, -⟩ := (goesOn_visit hrun).grows hw.sound
    have hvs : (w₂.vars.map (·.id)).Nodup := (hlater.grows hw₁).1.scripts.varIds
  · rintro (rfl | ⟨rfl, hname⟩)
    · exact ⟨(Expr.isArithmetic_short he).2 hmade.writable,
        execute_stored hmade hw.sound hw₁ hlater (Expr.counts hvs he hdef)⟩
    · refine ⟨(Expr.taken_writable he).1 hmade.writable, ?_⟩
      rw [BinaryOp.apply, sub_eq_add_neg]
      exact execute_stored hmade hw.sound hw₁ hlater (Expr.taken_counts hvs he hdef hname)
  · rintro y rfl rfl
    exact execute_stored hmade hw.sound hw₁ hlater (counts_read hvs y)
  · have hnone : op.amount? e.filling = none := by
      cases op with
      | add => exact absurd rfl hadd
      | sub => exact absurd rfl hsub
      | _ => rfl
    rw [hnone] at hmade
    rw [emitted, hmade]
    exact Table.upTo_self _ _ _

/-- `x -= 2 * y` takes six from one, and `x -= y` adds three to it. -/
theorem augAssign_executes_doubled :
    (∃ w₁, (Stmt.augAssign (.name "x") .sub (.binary .mul (.const (.int 2)) (.name "y"))).visit.run
        { issued := 0 } = (.ok (), w₁) ∧
      (w₁.execute (emitted { issued := 0 } w₁) fun x => if x = "x" then 1 else 3).map (· "x") =
        some (-5)) ∧
    ∃ w₁, (Stmt.augAssign (.name "x") .sub (.name "y")).visit.run { issued := 0 } = (.ok (), w₁) ∧
      (w₁.execute (emitted { issued := 0 } w₁) fun x => if x = "x" then 1 else 3).map (· "x") =
        some 4 := by
  have hshort : (Expr.binary .mul (.const (.int 2)) (.name "y")).IsShort := by
    simp only [Expr.IsShort, Value.isShort_int]
    decide +kernel
  constructor
  · have h := Stmt.augAssign_executes (.start 0) "x" .sub
      (.binary .mul (.const (.int 2)) (.name "y")) rfl
    obtain ⟨w₁, hrun⟩ := h.1 hshort
    have hdef : (Expr.binary .mul (.const (.int 2)) (.name "y")).IsDefined
        fun x => if x = "x" then 1 else 3 := by
      simp [Expr.IsDefined]
    obtain ⟨-, hexecute⟩ := (h.2 w₁ w₁ _ hrun ⟨[], rfl⟩ hdef).1 (.inr ⟨rfl, fun y hy => by cases hy⟩)
    refine ⟨w₁, hrun, ?_⟩
    rw [hexecute]
    simp [BinaryOp.apply, Expr.number]
    norm_num
  · have h := Stmt.augAssign_executes (.start 0) "x" .sub (.name "y") rfl
    obtain ⟨w₁, hrun⟩ := h.1 trivial
    refine ⟨w₁, hrun, ?_⟩
    rw [(h.2 w₁ w₁ _ hrun ⟨[], rfl⟩ trivial).2.1 "y" rfl rfl]
    simp
    norm_num

end Program

end BlockScript
