import BlockScript.Proofs.Evaluation
import BlockScript.Proofs.Uses

/-!
# Loops with a condition

A block `control_repeat_until` repeats its body until its condition holds. `while` goes on as long
as its condition holds, so a loop is compiled faithfully if the block has the negated condition. It
has the condition itself (`Stmt.loop_until`): the compiled loop makes as many turns as the loop with
the negated condition, and never as many as the loop it was made from.
-/

namespace BlockScript

open Workspace Build

/-- The loop makes so many turns before its test fails. -/
inductive Repeats {σ : Type} (test : σ → Prop) (turn : σ → σ) : σ → Nat → Prop
  | stop {s : σ} (h : ¬test s) : Repeats test turn s 0
  | again {s : σ} {n : Nat} (h : test s) (hn : Repeats test turn (turn s) n) :
    Repeats test turn s (n + 1)

namespace Repeats

variable {σ : Type} {test test' : σ → Prop} {turn : σ → σ} {s : σ} {n : Nat}

/-- Only the states that the loop can come to matter. -/
theorem of_iff (h : Repeats test turn s n)
    (heq : ∀ k, test (turn^[k] s) ↔ test' (turn^[k] s)) : Repeats test' turn s n := by
  induction h with
  | stop h => exact .stop fun hc => h ((heq 0).2 hc)
  | again h hn ih => exact .again ((heq 0).1 h) (ih fun k => heq (k + 1))

/-- Two loops with opposite tests part at the first turn. -/
theorem not_of_opposite (h : Repeats test turn s n) (hs : test s ↔ ¬test' s) :
    ¬Repeats test' turn s n := by
  intro h'
  cases h with
  | stop h =>
    cases h' with
    | stop h' => exact h (hs.2 h')
  | again h hn =>
    cases h' with
    | again h' hn' => exact hs.1 h h'

end Repeats

namespace Program

variable {w w' : Workspace}

mutual

/-- A condition has a block, whatever the values of its variables. -/
theorem Expr.test_eq_node : ∀ {e : Expr}, e.isCondition →
    ∃ k l r, e.test = .node k l r ∧ k.covers = false
  | .const (.bool _), _ => ⟨_, _, _, rfl, rfl⟩
  | .unary .not _, _ => ⟨_, _, _, rfl, rfl⟩
  | .bool op operands, h => by
    rw [Expr.isCondition, Bool.and_eq_true] at h
    exact joined_eq_node op.opcode (by simpa using h.1) h.2
  | .compare left op right rest, h => by
    rw [Expr.isCondition, Bool.and_eq_true, Bool.and_eq_true, Bool.and_eq_true] at h
    cases op with
    | eq | notEq | lt | le | gt | ge => exact ⟨_, _, _, rfl, rfl⟩
    | _ => cases h.1.1.1

theorem joined_eq_node (opcode : String) : ∀ {es : List Expr}, es ≠ [] →
    areConditions es → ∃ k l r, Filling.joined opcode (tests es) = .node k l r ∧
      k.covers = false
  | [_], _, h => by
    rw [areConditions, Bool.and_eq_true] at h
    exact Expr.test_eq_node h.1
  | _ :: _ :: _, _, _ => ⟨_, _, _, rfl, rfl⟩

end

theorem Expr.exists_block_of_fills {e : Expr} (he : e.isCondition) {t : Table Block}
    {vs : List Variable} {i : Option Input} {ids : List Id} (h : e.test.Fills t vs i ids) :
    ∃ id, i = some (.block id) := by
  obtain ⟨k, l, r, hnode, hcovers⟩ := test_eq_node he
  rw [hnode] at h
  obtain ⟨id, -, -, -, -, hi, -⟩ := h
  rw [Operator.input, hcovers] at hi
  exact ⟨id, hi⟩

/-- **A loop is repeated until its own condition holds.** -/
theorem Stmt.loop_until (hw : w.Reachable) {c : Expr} (hc : c.isCondition = true)
    (htrue : c ≠ .const (.bool true)) {body orelse : List Stmt}
    (hrun : (Stmt.whileLoop c body orelse).visit.run w = (.ok (), w')) :
    ∃ id b cond, w'.previous = some id ∧ w'.blocks.find? id = some b ∧
      b.opcode = "control_repeat_until" ∧ b.inputs.find? "CONDITION" = some (.block cond) ∧
      ∀ w₂, w'.GoesOn w₂ →
        (∀ ρ, c.IsDefined ρ → w₂.truth ρ cond = some (c.truth ρ)) ∧
        ∀ turn ρ n, (∀ k, c.IsDefined (turn^[k] ρ)) →
          (Repeats (w₂.truth · cond = some false) turn ρ n ↔
            Repeats ((Expr.unary .not c).truth · = true) turn ρ n) ∧
          ¬(Repeats (w₂.truth · cond = some false) turn ρ n ∧
            Repeats (c.truth · = true) turn ρ n) := by
  have hw' := ((goesOn_visit hrun).grows hw.sound).1
  have huse : (Stmt.whileLoop c body orelse).use? =
      some ⟨"control_repeat_until", "CONDITION", c, true⟩ := by
    cases c with
    | const v =>
      cases v with
      | bool b =>
        cases b with
        | false => rfl
        | true => exact absurd rfl htrue
      | _ => cases hc
    | _ => rfl
  obtain ⟨id, hid, b, ids, hb, hopcode, hf, hids, -⟩ :=
    Stmt.visit_carries huse (Expr.isCondition_short hc).1 hw.sound hrun
  replace hids := (List.nodup_cons.1 hids).2
  obtain ⟨cond, hcond⟩ := Expr.exists_block_of_fills hc hf
  rw [hcond] at hf
  refine ⟨id, b, cond, hid, hb, hopcode, hcond, fun w₂ hlater => ?_⟩
  have hvalue : ∀ ρ, c.IsDefined ρ → w₂.truth ρ cond = some (c.truth ρ) := by
    intro ρ hdef
    have hf₂ := hlater.fills hw' hf
    obtain ⟨cond', heq, htruth⟩ := Expr.decides (hlater.grows hw').1.scripts.varIds hc hdef _ _ _
      hf₂ (length_le_of_fills hf₂ hids)
    cases heq
    exact htruth
  refine ⟨hvalue, fun turn ρ n hdef => ⟨?_, ?_⟩⟩
  · have hiff : ∀ k, w₂.truth (turn^[k] ρ) cond = some false ↔
        (Expr.unary .not c).truth (turn^[k] ρ) = true := by
      intro k
      rw [hvalue _ (hdef k), Option.some_inj, Expr.truth, Bool.not_eq_true']
    exact ⟨fun h => h.of_iff hiff, fun h => h.of_iff fun k => (hiff k).symm⟩
  · rintro ⟨huntil, hwhile⟩
    refine huntil.not_of_opposite ?_ hwhile
    rw [hvalue ρ (hdef 0), Option.some_inj, Bool.not_eq_true]

/-- `x < 3`. -/
def belowThree : Expr := .compare (.name "x") .lt (.const (.int 3)) []

/-- `while x < 3: move(1)`. -/
def movingLoop : Stmt :=
  .whileLoop belowThree [.expr (.call (.name "move") [.const (.int 1)] [])] []

/-- If `x` is zero and each turn adds one to it, the loop makes three turns and the compiled one
makes none. -/
theorem loop_until_movingLoop : ∃ w' cond, movingLoop.visit.run { issued := 0 } = (.ok (), w') ∧
    Repeats (belowThree.truth · = true) (fun ρ x => ρ x + 1) (fun _ => 0) 3 ∧
    Repeats (w'.truth · cond = some false) (fun ρ x => ρ x + 1) (fun _ => 0) 0 := by
  have hok : (movingLoop.visit.run { issued := 0 }).1.isOk = true := by decide +kernel
  obtain ⟨_, w', hrun⟩ := Build.exists_of_isOk hok
  obtain ⟨-, -, cond, -, -, -, -, hlater⟩ :=
    Stmt.loop_until (.start 0) (c := belowThree) rfl (fun h => by cases h) hrun
  have hdef : ∀ ρ, belowThree.IsDefined ρ := fun ρ => ⟨trivial, trivial⟩
  obtain ⟨-, hturns⟩ := hlater w' ⟨[], rfl⟩
  refine ⟨w', cond, hrun, ?_, (hturns _ _ 0 fun _ => hdef _).1.2 (.stop ?_)⟩
  · refine .again ?_ (.again ?_ (.again ?_ (.stop ?_))) <;>
      norm_num [belowThree, Expr.truth, CompareOp.holds, Expr.number]
  · norm_num [belowThree, Expr.truth, CompareOp.holds, Expr.number]

end Program

end BlockScript
