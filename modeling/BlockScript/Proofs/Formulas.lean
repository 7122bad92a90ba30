import BlockScript.Proofs.ExpressionEdits
import BlockScript.Proofs.Fillings

/-!
# Expressions without calls

A formula is an expression of constants, variables, signs, arithmetic, comparisons and the words
`and`, `or` and `not`. What it becomes depends on its role. As an operand it becomes the tree
`Expr.filling`, as a condition the tree `Expr.test`; both leave out whatever has no block in that
role: a minus before anything but a number, a comparison used as a number, a variable used as a
condition.

The main results are `Expr.operand_meets` and `Expr.condition_meets`: going through a formula makes
its tree, of new blocks each of which is used once, and leaves everything else as it was. It cannot
fail, except that a number may be too long to be written (`Expr.IsShort`).
-/

namespace BlockScript

open Workspace Build List Meaning

/-- A value that can be written, with either sign. -/
def Value.IsShort (v : Value) : Prop :=
  (∃ s, v.text = .ok s) ∧ ∃ s, (v.negated?.getD (.int 0)).text = .ok s

/-- A whole number can be written if it has few enough digits. -/
theorem Value.text_int {j : Int} : (∃ s, (int j).text = .ok s) ↔
    Binary64.digitCount j.natAbs ≤ Numeral.maxDigits := by
  have htext : (int j).text = integerText j := rfl
  rw [htext, integerText]
  split
  · next hlong =>
    refine iff_of_false ?_ (Nat.not_le.2 hlong)
    rintro ⟨_, h⟩
    cases h
  · next hshort => exact ⟨fun _ => Nat.not_lt.1 hshort, fun _ => ⟨_, rfl⟩⟩

theorem Value.isShort_int {j : Int} : (int j).IsShort ↔
    Binary64.digitCount j.natAbs ≤ Numeral.maxDigits := by
  have hneg : (int j).negated?.getD (.int 0) = .int (-j) := rfl
  rw [IsShort, hneg, text_int, text_int, Int.natAbs_neg, and_self]

theorem Value.IsShort.negated {v : Value} (h : v.IsShort) :
    (v.negated?.getD (.int 0)).IsShort := by
  refine ⟨h.2, ?_⟩
  cases v with
  | int i =>
    refine text_int.2 ?_
    rw [neg_neg]
    exact isShort_int.1 h
  | bool b => cases b <;> exact ⟨_, rfl⟩
  | float x => exact ⟨_, rfl⟩
  | _ => exact ⟨_, rfl⟩

namespace Filling

/-- The tree for an expression with a minus before it. -/
def negated : Filling → Filling
  | constant v => constant (v.negated?.getD (.int 0))
  | _ => constant (.int 0)

/-- The tree for conditions that are joined from the last to the first. -/
def joined (opcode : String) : List Filling → Filling
  | [] => empty
  | [f] => f
  | f :: rest => node (.condition opcode) f (joined opcode rest)

/-- A step made the tree: its blocks are new, and each of them is used once. -/
structure Made (w w' : Workspace) (f : Filling) (i : Option Input) : Prop where
  expands : w.Expands w'
  fills : ∃ ids, f.Fills w'.blocks w'.vars i ids ∧ ids.Nodup ∧ ∀ id ∈ ids, id ∉ w.blocks.keys

/-- A step made the tree but for its plug, which is missing if it is a constant or a variable. -/
structure Evaluated (w w' : Workspace) (f : Filling) (o : Operand) : Prop where
  expands : w.Expands w'
  ready : ∃ ids, f.Ready w'.blocks w'.vars ids o ∧ ids.Nodup ∧ ∀ id ∈ ids, id ∉ w.blocks.keys

variable {w w' w'' : Workspace} {f g : Filling} {i : Option Input} {o : Operand}

theorem made_empty (hw : w.Numbered) : empty.Made w w none :=
  ⟨Expands.refl hw, [], ⟨rfl, rfl⟩, nodup_nil, fun id hid => by cases hid⟩

theorem evaluated_constant (hw : w.Numbered) (v : Value) :
    (constant v).Evaluated w w (.value v) :=
  ⟨Expands.refl hw, [], ⟨rfl, rfl⟩, nodup_nil, fun id hid => by cases hid⟩

/-- A minus leaves only the sign of a number: what was made for anything else is dropped. -/
theorem negate_meets {m : Meaning} {bad : Prop}
    (hm : m.operand.Meets w bad fun o w' => f.Evaluated w w' o) :
    (unary .negate m).operand.Meets w bad fun o w' => f.negated.Evaluated w w' o := by
  change (m.operand >>= _).Meets w _ _
  refine hm.bind id ?_
  rintro o w' ⟨he, ids, hready, -⟩
  have hconstant : ∀ v, (constant v).Evaluated w w' (.value v) := fun v =>
    ⟨he, [], ⟨rfl, rfl⟩, nodup_nil, fun id hid => by cases hid⟩
  cases o with
  | value v =>
    rw [hready.1]
    exact meets_of_run rfl (hconstant _)
  | name x =>
    rw [hready.1]
    exact meets_of_run rfl (hconstant _)
  | block r =>
    obtain ⟨id, -, hfills⟩ := hready
    have hf : f.negated = constant (.int 0) := by
      cases f with
      | constant v =>
        obtain ⟨-, text, -, hc⟩ := hfills
        cases hc
      | _ => rfl
    rw [hf]
    exact meets_of_run rfl (hconstant _)

/-- Two operands are made one after the other, and a block is made that holds them. -/
theorem operands_meets {l r : Build Operand} {badl badr : Prop} (hw : w.Numbered) (k : Operator)
    (hl : ∀ {w : Workspace}, w.Numbered → l.Meets w badl fun o w' => f.Evaluated w w' o)
    (hr : ∀ {w : Workspace}, w.Numbered → r.Meets w badr fun o w' => g.Evaluated w w' o) :
    (do
      let a ← l
      let b ← r
      withOperands k.opcode k.first k.second a b : Build Id).Meets w
      (badl ∨ badr ∨ ¬(node k f g).Writable)
      fun id w' => (node k f g).Made w w' (some (k.input id)) := by
  refine (hl hw).bind Or.inl ?_
  rintro a w₁ ⟨he₁, as, ha, has, hanew⟩
  refine (hr he₁.numbered).bind (Or.inr ∘ Or.inl) ?_
  rintro b w₂ ⟨he₂, bs, hb, hbs, hbnew⟩
  have hnodup : (as ++ bs).Nodup :=
    has.append hbs fun k hka hkb => hbnew k hkb (ha.mem_keys k hka)
  refine (withOperands_meets he₂.numbered (ha.expands he₂) hb hnodup k).mono (Or.inr ∘ Or.inr) ?_
  rintro id w₃ ⟨he₃, ids, hids, hnodup', hnew⟩
  have he₁₂ := he₁.trans he₂
  refine ⟨he₁₂.trans he₃, ids, hids, hnodup', fun j hj hmem => ?_⟩
  rcases hnew j hj with hold | hfresh
  · exact (mem_append.1 hold).elim (fun h => hanew j h hmem) fun h =>
      hbnew j h (he₁.keys hmem)
  · exact hfresh (he₁₂.keys hmem)

/-- A condition that was made is negated. -/
theorem Made.negation_meets {c : Option Id} (h : f.Made w w' (c.map .block)) :
    (negation c).Meets w' False fun id w'' =>
      (node .negation f empty).Made w w'' (some (.block id)) := by
  obtain ⟨he, ids, hids, hnodup, hnew⟩ := h
  refine (Filling.negation_meets he.numbered hids hnodup).mono id ?_
  rintro d w'' ⟨he', hstands, hnodup', hd⟩
  exact ⟨he.trans he', d :: ids, hstands, hnodup',
    forall_mem_cons.2 ⟨fun hmem => hd (he.keys hmem), hnew⟩⟩

/-- Two conditions that were made, the second one first, are joined. -/
theorem Made.join_meets {l r : Option Id} (hr : g.Made w w' (r.map .block))
    (hl : f.Made w' w'' (l.map .block)) (opcode : String) :
    (do
      let id ← reporter opcode
      plugCondition id "OPERAND1" l
      plugCondition id "OPERAND2" r
      pure (some id) : Build (Option Id)).Meets w'' False fun c v =>
        (node (.condition opcode) f g).Made w v (c.map .block) := by
  obtain ⟨her, rs, hrs, hrnodup, hrnew⟩ := hr
  obtain ⟨hel, ls, hls, hlnodup, hlnew⟩ := hl
  have hnodup : (ls ++ rs).Nodup :=
    hlnodup.append hrnodup fun k hkl hkr => hlnew k hkl (hrs.mem_keys k hkr)
  refine (Filling.join_meets hel.numbered hls (hrs.expands hel) hnodup opcode).mono id ?_
  rintro c v ⟨he, d, hstands, hnodup', hd⟩
  refine ⟨(her.trans hel).trans he, d :: (ls ++ rs), hstands, hnodup', forall_mem_cons.2
    ⟨fun hmem => hd (hel.keys (her.keys hmem)), forall_mem_append.2 ⟨?_, hrnew⟩⟩⟩
  exact fun k hk hmem => hlnew k hk (her.keys hmem)

end Filling

namespace Program

open Filling

/-! ### The trees of an expression -/

/-- What an expression becomes as an operand. -/
def Expr.filling : Expr → Filling
  | .const v => .constant v
  | .name x => .read x
  | .unary .negate e => e.filling.negated
  | .unary .plus e => e.filling
  | .binary op left right =>
    op.opcode?.elim .empty fun opcode => .node (.arithmetic opcode) left.filling right.filling
  | _ => .constant (.int 0)

/-- What a single comparison becomes. -/
def comparisonTest (op : CompareOp) (left right : Filling) : Filling :=
  op.opcode?.elim .empty fun k =>
    if k.2 then .node .negation (.node (.condition k.1) left right) .empty
    else .node (.condition k.1) left right

mutual

/-- What an expression becomes as a condition. -/
def Expr.test : Expr → Filling
  | .const (.bool b) => .node (.condition "operator_equals") (.constant (.str "1"))
      (.constant (.str (if b then "1" else "0")))
  | .unary .not e => .node .negation e.test .empty
  | .bool op operands => .joined op.opcode (tests operands)
  | .compare left op right _ => comparisonTest op left.filling right.filling
  | _ => .empty

def tests : List Expr → List Filling
  | [] => []
  | e :: rest => e.test :: tests rest

end

mutual

/-- Constants, variables, signs, arithmetic, comparisons, `and`, `or` and `not`. -/
def Expr.isFormula : Expr → Bool
  | .const _ => true
  | .name _ => true
  | .unary op e => op ≠ .invert && e.isFormula
  | .binary op left right => op.opcode?.isSome && left.isFormula && right.isFormula
  | .bool _ operands => areFormulas operands
  | .compare left _ right rest => left.isFormula && right.isFormula && restAreFormulas rest
  | _ => false

def areFormulas : List Expr → Bool
  | [] => true
  | e :: rest => e.isFormula && areFormulas rest

def restAreFormulas : List (CompareOp × Expr) → Bool
  | [] => true
  | p :: rest => pairIsFormula p && restAreFormulas rest

def pairIsFormula : CompareOp × Expr → Bool
  | (_, e) => e.isFormula

end

mutual

/-- No number that is looked at is too long to be written. -/
def Expr.IsShort : Expr → Prop
  | .const v => v.IsShort
  | .unary _ e => e.IsShort
  | .binary _ left right => left.IsShort ∧ right.IsShort
  | .bool _ operands => AreShort operands
  | .compare left _ right _ => left.IsShort ∧ right.IsShort
  | _ => True

def AreShort : List Expr → Prop
  | [] => True
  | e :: rest => e.IsShort ∧ AreShort rest

end

/-! ### Operands -/

/-- A tree without long numbers can be written, and so can a constant with its sign changed. -/
theorem Expr.filling_cases : ∀ e : Expr, e.isFormula → e.IsShort →
    (∃ v, e.filling = .constant v ∧ v.IsShort) ∨ e.filling.Writable ∧ ∀ v, e.filling ≠ .constant v
  | .const v, _, h => .inl ⟨v, rfl, h⟩
  | .name x, _, _ => .inr ⟨trivial, fun v hv => by cases hv⟩
  | .unary .negate e, he, h => by
    rw [isFormula, Bool.and_eq_true] at he
    have hzero : Value.IsShort (.int 0) := ⟨⟨_, rfl⟩, _, rfl⟩
    rw [filling]
    rcases e.filling_cases he.2 h with ⟨v, hv, hshort⟩ | ⟨-, hne⟩
    · rw [hv]
      exact .inl ⟨_, rfl, hshort.negated⟩
    · cases hf : e.filling with
      | constant v => exact absurd hf (hne v)
      | _ => exact .inl ⟨_, rfl, hzero⟩
  | .unary .plus e, he, h => by
    rw [isFormula, Bool.and_eq_true] at he
    exact e.filling_cases he.2 h
  | .unary .not e, _, _ => .inl ⟨_, rfl, ⟨_, rfl⟩, _, rfl⟩
  | .unary .invert e, he, _ => by cases he
  | .binary op left right, he, h => by
    rw [isFormula, Bool.and_eq_true, Bool.and_eq_true] at he
    obtain ⟨opcode, hop⟩ := Option.isSome_iff_exists.1 he.1.1
    have hwritable : ∀ e : Expr, ((∃ v, e.filling = .constant v ∧ v.IsShort) ∨
        e.filling.Writable ∧ ∀ v, e.filling ≠ .constant v) → e.filling.Writable := by
      rintro e (⟨v, hv, hshort⟩ | ⟨hw, -⟩)
      · rw [hv]
        exact hshort.1
      · exact hw
    rw [filling, hop]
    exact .inr ⟨⟨hwritable left (left.filling_cases he.1.2 h.1),
      hwritable right (right.filling_cases he.2 h.2)⟩, fun v hv => by cases hv⟩
  | .bool _ _, _, _ => .inl ⟨_, rfl, ⟨_, rfl⟩, _, rfl⟩
  | .compare _ _ _ _, _, _ => .inl ⟨_, rfl, ⟨_, rfl⟩, _, rfl⟩
  | .call _ _ _, he, _ => by cases he
  | .attribute _ _, he, _ => by cases he
  | .subscript _ _, he, _ => by cases he
  | .starred _, he, _ => by cases he
  | .list _, he, _ => by cases he
  | .tuple _, he, _ => by cases he
  | .other _, he, _ => by cases he

theorem Expr.IsShort.writable {e : Expr} (he : e.isFormula) (h : e.IsShort) :
    e.filling.Writable := by
  rcases e.filling_cases he h with ⟨v, hv, hshort⟩ | ⟨hw, -⟩
  · rw [hv]
    exact hshort.1
  · exact hw

/-- **A formula as an operand makes its tree.** -/
theorem Expr.operand_meets : ∀ e : Expr, e.isFormula → ∀ {w : Workspace}, w.Numbered →
    e.meaning.operand.Meets w (¬e.IsShort) fun o w' => e.filling.Evaluated w w' o
  | .const v, _, w, hw => meets_of_run rfl (evaluated_constant hw v)
  | .name x, _, w, hw => meets_of_run rfl
      ⟨Expands.refl hw, [], ⟨rfl, rfl⟩, nodup_nil, fun id hid => by cases hid⟩
  | .unary .negate e, he, w, hw => by
    rw [isFormula, Bool.and_eq_true] at he
    exact negate_meets (e.operand_meets he.2 hw)
  | .unary .plus e, he, w, hw => by
    rw [isFormula, Bool.and_eq_true] at he
    exact e.operand_meets he.2 hw
  | .unary .not e, _, w, hw => meets_of_run rfl (evaluated_constant hw _)
  | .unary .invert e, he, _, _ => by cases he
  | .binary op left right, he, w, hw => by
    rw [isFormula, Bool.and_eq_true, Bool.and_eq_true] at he
    obtain ⟨opcode, hop⟩ := Option.isSome_iff_exists.1 he.1.1
    have hrun : (binary op left right).meaning.operand = (do
        let a ← left.meaning.operand
        let b ← right.meaning.operand
        withOperands opcode "NUM1" "NUM2" a b) >>= fun id => pure (.block (some id)) := by
      change arithmetic op left.meaning right.meaning >>= _ = _
      rw [arithmetic, hop]
      simp only [bind_assoc, pure_bind]
    rw [hrun, meets_bind, filling, hop]
    refine (operands_meets hw (.arithmetic opcode) (left.operand_meets he.1.2)
      (right.operand_meets he.2)).mono ?_ ?_
    · rintro (h | h | h) hshort
      · exact h hshort.1
      · exact h hshort.2
      · exact h ⟨Expr.IsShort.writable he.1.2 hshort.1, Expr.IsShort.writable he.2 hshort.2⟩
    · rintro id w' ⟨hexp, ids, hids, hrest⟩
      exact meets_of_run rfl ⟨hexp, ids, ⟨id, rfl, hids⟩, hrest⟩
  | .bool _ _, _, w, hw => meets_of_run rfl (evaluated_constant hw _)
  | .compare _ _ _ _, _, w, hw => meets_of_run rfl (evaluated_constant hw _)
  | .call _ _ _, he, _, _ => by cases he
  | .attribute _ _, he, _, _ => by cases he
  | .subscript _ _, he, _, _ => by cases he
  | .starred _, he, _, _ => by cases he
  | .list _, he, _, _ => by cases he
  | .tuple _, he, _, _ => by cases he
  | .other _, he, _, _ => by cases he

/-- The input that a formula is plugged into is filled by its tree. -/
theorem Expr.plug_meets {e : Expr} (he : e.isFormula) {w : Workspace} (hw : w.Numbered)
    (parent : Option Id) :
    (e.meaning.operand >>= fun o => plug o parent).Meets w (¬e.IsShort)
      fun i w' => e.filling.Made w w' (some i) := by
  refine (e.operand_meets he hw).bind id ?_
  rintro o w₁ ⟨he₁, ids, hready, hids, hnew⟩
  refine (Filling.plug_meets he₁.numbered hready hids parent).mono
    (fun h hshort => h (Expr.IsShort.writable he hshort)) ?_
  rintro i w₂ ⟨he₂, ⟨ids', hfills, hids', hnew'⟩, -⟩
  refine ⟨he₁.trans he₂, ids', hfills, hids', fun k hk hmem => ?_⟩
  exact (hnew' k hk).elim (fun h => hnew k h hmem) fun h => h (he₁.keys hmem)

/-! ### Conditions -/

theorem comparison_meets {left right : Expr} (hleft : left.isFormula)
    (hright : right.isFormula) (op : CompareOp) {w : Workspace} (hw : w.Numbered) :
    (comparison op left.meaning right.meaning).Meets w (¬(left.IsShort ∧ right.IsShort))
      fun c w' => (comparisonTest op left.filling right.filling).Made w w' (c.map .block) := by
  rw [comparisonTest]
  cases hop : op.opcode? with
  | none =>
    rw [comparison]
    refine (left.operand_meets hleft hw).bind (fun h hs => h hs.1) ?_
    rintro a w₁ ⟨he₁, -⟩
    refine (right.operand_meets hright he₁.numbered).bind (fun h hs => h hs.2) ?_
    rintro b w₂ ⟨he₂, -⟩
    rw [hop]
    exact meets_of_run rfl ⟨he₁.trans he₂, [], ⟨rfl, rfl⟩, nodup_nil, fun _ h => by cases h⟩
  | some k =>
    obtain ⟨opcode, negated⟩ := k
    have hrun : comparison op left.meaning right.meaning = (do
        let a ← left.meaning.operand
        let b ← right.meaning.operand
        withOperands opcode "OPERAND1" "OPERAND2" a b) >>= fun id =>
          if negated then negation (some id) >>= fun n => pure (some n)
          else pure (some id) := by
      rw [comparison, hop]
      simp only [bind_assoc]
    rw [hrun, meets_bind]
    refine (operands_meets hw (.condition opcode) (left.operand_meets hleft)
      (right.operand_meets hright)).mono ?_ ?_
    · rintro (h | h | h) hshort
      · exact h hshort.1
      · exact h hshort.2
      · exact h ⟨Expr.IsShort.writable hleft hshort.1, Expr.IsShort.writable hright hshort.2⟩
    · intro id w' hmade
      cases negated with
      | false => exact meets_of_run rfl hmade
      | true =>
        change (negation (some id) >>= _).Meets w' _ _
        rw [meets_bind]
        exact (Made.negation_meets hmade).mono False.elim fun n w'' h => meets_of_run rfl h

mutual

/-- **A formula as a condition makes its tree.** -/
theorem Expr.condition_meets : ∀ e : Expr, e.isFormula → ∀ {w : Workspace}, w.Numbered →
    e.meaning.condition.Meets w (¬e.IsShort) fun c w' => e.test.Made w w' (c.map .block)
  | .const v, _, w, hw => by
    cases v with
    | bool b =>
      change (constantCondition b >>= _).Meets w _ _
      refine (constantCondition_meets hw b).bind False.elim ?_
      rintro id w' ⟨hexp, hstands, hnew⟩
      exact meets_of_run rfl ⟨hexp, [id], hstands, nodup_singleton id,
        forall_mem_singleton.2 hnew⟩
    | _ => exact meets_of_run rfl (made_empty hw)
  | .name x, _, w, hw => meets_of_run rfl (made_empty hw)
  | .unary .not e, he, w, hw => by
    rw [Expr.isFormula, Bool.and_eq_true] at he
    change (e.meaning.condition >>= _).Meets w _ _
    refine (e.condition_meets he.2 hw).bind id ?_
    intro c w₁ hc
    rw [meets_bind]
    exact hc.negation_meets.mono False.elim fun id w₂ h => meets_of_run rfl h
  | .unary .negate e, _, w, hw => meets_of_run rfl (made_empty hw)
  | .unary .plus e, _, w, hw => meets_of_run rfl (made_empty hw)
  | .unary .invert e, he, _, _ => by cases he
  | .binary _ _ _, _, w, hw => meets_of_run rfl (made_empty hw)
  | .bool op operands, he, w, hw => joined_meets op.opcode operands he hw
  | .compare left op right rest, he, w, hw => by
    rw [Expr.isFormula, Bool.and_eq_true, Bool.and_eq_true] at he
    exact comparison_meets he.1.1 he.1.2 op hw
  | .call _ _ _, he, _, _ => by cases he
  | .attribute _ _, he, _, _ => by cases he
  | .subscript _ _, he, _, _ => by cases he
  | .starred _, he, _, _ => by cases he
  | .list _, he, _, _ => by cases he
  | .tuple _, he, _, _ => by cases he
  | .other _, he, _, _ => by cases he

/-- Conditions that are joined make their trees one after the other, the last one first. -/
theorem joined_meets (opcode : String) : ∀ es : List Expr, areFormulas es →
    ∀ {w : Workspace}, w.Numbered → (Meaning.joined opcode (meanings es)).Meets w (¬AreShort es)
      fun c w' => (joined opcode (tests es)).Made w w' (c.map .block)
  | [], _, w, hw => meets_of_run rfl (made_empty hw)
  | [e], he, w, hw => by
    rw [areFormulas, Bool.and_eq_true] at he
    exact (e.condition_meets he.1 hw).mono (fun h hs => h hs.1) fun c w' h => h
  | e :: e' :: es, he, w, hw => by
    rw [areFormulas, Bool.and_eq_true] at he
    change (Meaning.joined opcode (meanings (e' :: es)) >>= _).Meets w _ _
    refine (joined_meets opcode (e' :: es) he.2 hw).bind (fun h hs => h hs.2) ?_
    intro r w₁ hr
    refine (e.condition_meets he.1 hr.expands.numbered).bind (fun h hs => h hs.1) ?_
    intro l w₂ hl
    exact (hr.join_meets hl opcode).mono False.elim fun c w' h => h

end

end Program

end BlockScript
