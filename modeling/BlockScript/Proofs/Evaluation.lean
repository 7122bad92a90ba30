import Mathlib.Data.Rat.Floor
import BlockScript.Proofs.Decimal
import BlockScript.Proofs.Formulas
import BlockScript.Proofs.Integrity

/-!
# The value of an expression

Arithmetic and conditions have a value in the source and, once they are blocks, a value in the
table of blocks. `Expr.number` and `Expr.truth` are the first, under a store that gives each variable
a rational number; `Table.number` and `Table.truth` are the second, with the usual meaning of the
operator blocks. A block is read by its identifier, so the second pair follows references, and the
length of the table bounds how far.

The main result, `Expr.value_kept`, says that the two agree for every expression, in every workspace
that a compilation can reach, and that they still agree when more statements have been compiled.
The one thing that can go wrong is a number too long to be written in decimal digits.
-/

namespace BlockScript

open Workspace Build

/-! ### The meaning of operator blocks -/

/-- The number that a constant stands for. -/
def Literal.number? : Literal → Option ℚ
  | .number s => (Numeral.int? s).map fun i => (i : ℚ)
  | .text s => (Numeral.int? s).map fun i => (i : ℚ)
  | _ => none

/-- What an arithmetic block computes. Nothing is divided by zero. -/
def arithmeticOf? : String → Option (ℚ → ℚ → Option ℚ)
  | "operator_add" => some fun a b => some (a + b)
  | "operator_subtract" => some fun a b => some (a - b)
  | "operator_multiply" => some fun a b => some (a * b)
  | "operator_divide" => some fun a b => if b = 0 then none else some (a / b)
  | "operator_mod" => some fun a b => if b = 0 then none else some (a - b * ⌊a / b⌋)
  | _ => none

/-- What a block decides that compares two numbers. -/
def comparisonOf? : String → Option (ℚ → ℚ → Bool)
  | "operator_lt" => some fun a b => a < b
  | "operator_gt" => some fun a b => b < a
  | "operator_equals" => some fun a b => a = b
  | _ => none

/-- What a block decides that joins two conditions. -/
def connectiveOf? : String → Option (Bool → Bool → Bool)
  | "operator_and" => some and
  | "operator_or" => some or
  | _ => none

namespace Table

variable (t : Table Block) (vs : List Variable) (ρ : String → ℚ)

/-- The number in an input, if at most `n` blocks lie one below the other. -/
def numberWithin : Nat → Input → Option ℚ
  | _, .literal l => l.number?
  | n + 1, .reporter (some id) _ => do
    let b ← t.find? id
    if b.opcode = "data_variable" then
      let field ← b.fields.find? "VARIABLE"
      let v ← vs.find? fun v => some v.id = field.id
      return ρ v.name
    else
      let f ← arithmeticOf? b.opcode
      f (← (b.inputs.find? "NUM1").bind (numberWithin n))
        (← (b.inputs.find? "NUM2").bind (numberWithin n))
  | _, _ => none

/-- The truth value of a condition, likewise. An empty slot counts as false. -/
def truthWithin : Nat → Id → Option Bool
  | 0, _ => none
  | n + 1, id => do
    let b ← t.find? id
    let number name := (b.inputs.find? name).bind (t.numberWithin vs ρ n)
    let slot name :=
      match b.inputs.find? name with
      | some (.block c) => truthWithin n c
      | _ => some false
    match comparisonOf? b.opcode, connectiveOf? b.opcode with
    | some f, _ => return f (← number "OPERAND1") (← number "OPERAND2")
    | none, some f => return f (← slot "OPERAND1") (← slot "OPERAND2")
    | none, none => if b.opcode = "operator_not" then return !(← slot "OPERAND") else none

end Table

namespace Workspace

/-- The number in an input. -/
def number (w : Workspace) (ρ : String → ℚ) (i : Input) : Option ℚ :=
  w.blocks.numberWithin w.vars ρ w.blocks.length i

/-- The truth value of a condition. -/
def truth (w : Workspace) (ρ : String → ℚ) (id : Id) : Option Bool :=
  w.blocks.truthWithin w.vars ρ w.blocks.length id

end Workspace

/-! ### The meaning of expressions -/

namespace Program

/-- The arithmetic operators on rational numbers; the remainder has the sign of the divisor. -/
def BinaryOp.apply : BinaryOp → ℚ → ℚ → ℚ
  | .add, a, b => a + b
  | .sub, a, b => a - b
  | .mul, a, b => a * b
  | .div, a, b => a / b
  | .mod, a, b => a - b * ⌊a / b⌋
  | _, _, _ => 0

def CompareOp.holds : CompareOp → ℚ → ℚ → Bool
  | .lt, a, b => a < b
  | .gt, a, b => a > b
  | .eq, a, b => a = b
  | .notEq, a, b => a ≠ b
  | .le, a, b => a ≤ b
  | .ge, a, b => a ≥ b
  | _, _, _ => false

/-- The operators of arithmetic. -/
def BinaryOp.isArithmetic (op : BinaryOp) : Bool := op ∈ [.add, .sub, .mul, .div, .mod]

/-- A whole number, possibly with signs before it. -/
def Expr.isSigned : Expr → Bool
  | .const (.int _) => true
  | .unary op e => (op = .negate ∨ op = .plus) && e.isSigned
  | _ => false

/-- Arithmetic over whole numbers and variables. -/
def Expr.isArithmetic : Expr → Bool
  | .const (.int _) => true
  | .name _ => true
  | .unary op e => (op = .negate ∨ op = .plus) && e.isSigned
  | .binary op left right => op.isArithmetic && left.isArithmetic && right.isArithmetic
  | _ => false

mutual

/-- Single comparisons of arithmetic, truth values, `and`, `or` and `not`. -/
def Expr.isCondition : Expr → Bool
  | .const (.bool _) => true
  | .unary .not e => e.isCondition
  | .bool _ operands => !operands.isEmpty && areConditions operands
  | .compare left op right rest =>
    op.opcode?.isSome && rest.isEmpty && left.isArithmetic && right.isArithmetic
  | _ => false

def areConditions : List Expr → Bool
  | [] => true
  | e :: rest => e.isCondition && areConditions rest

end

/-- The value of arithmetic. -/
def Expr.number (ρ : String → ℚ) : Expr → ℚ
  | .const (.int i) => i
  | .name x => ρ x
  | .unary .negate e => -e.number ρ
  | .unary .plus e => e.number ρ
  | .binary op left right => op.apply (left.number ρ) (right.number ρ)
  | _ => 0

mutual

/-- The value of a condition. -/
def Expr.truth (ρ : String → ℚ) : Expr → Bool
  | .const (.bool b) => b
  | .unary .not e => !e.truth ρ
  | .bool .and operands => allTrue ρ operands
  | .bool .or operands => anyTrue ρ operands
  | .compare left op right _ => op.holds (left.number ρ) (right.number ρ)
  | _ => false

def allTrue (ρ : String → ℚ) : List Expr → Bool
  | [] => true
  | e :: rest => e.truth ρ && allTrue ρ rest

def anyTrue (ρ : String → ℚ) : List Expr → Bool
  | [] => false
  | e :: rest => e.truth ρ || anyTrue ρ rest

end

mutual

/-- No divisor is zero. -/
def Expr.IsDefined (ρ : String → ℚ) : Expr → Prop
  | .unary _ e => e.IsDefined ρ
  | .binary op left right => left.IsDefined ρ ∧ right.IsDefined ρ ∧
      (op = .div ∨ op = .mod → right.number ρ ≠ 0)
  | .bool _ operands => AreDefined ρ operands
  | .compare left _ right _ => left.IsDefined ρ ∧ right.IsDefined ρ
  | _ => True

def AreDefined (ρ : String → ℚ) : List Expr → Prop
  | [] => True
  | e :: rest => e.IsDefined ρ ∧ AreDefined ρ rest

end

/-! ### Trees with a value -/

variable {t : Table Block} {vs : List Variable} {ρ : String → ℚ} {f g : Filling}

/-- An input filled in this way holds the number. -/
def Counts (t : Table Block) (vs : List Variable) (ρ : String → ℚ) (f : Filling) (q : ℚ) : Prop :=
  ∀ n i ids, f.Fills t vs i ids → ids.length ≤ n →
    ∃ j, i = some j ∧ t.numberWithin vs ρ n j = some q

/-- A slot filled in this way holds a condition with the truth value. -/
def Decides (t : Table Block) (vs : List Variable) (ρ : String → ℚ) (f : Filling) (a : Bool) :
    Prop :=
  ∀ n i ids, f.Fills t vs i ids → ids.length ≤ n →
    ∃ id, i = some (.block id) ∧ t.truthWithin vs ρ n id = some a

theorem counts_constant {v : Value} {q : ℚ} (hv : ∀ s, v.text = .ok s →
      Literal.number? (if v.isNumber then .number s else .text s) = some q) :
    Counts t vs ρ (.constant v) q := by
  rintro n i ids ⟨-, s, hs, rfl⟩ -
  refine ⟨_, rfl, ?_⟩
  rw [← hv s hs]
  cases n <;> rfl

/-- A number that can be written is read back as itself. -/
theorem counts_int (j : Int) : Counts t vs ρ (.constant (.int j)) j := by
  refine counts_constant fun s hs => ?_
  have htext : (Value.int j).text = Value.integerText j := rfl
  rw [htext, Value.integerText] at hs
  split at hs
  · cases hs
  · next hshort =>
    cases hs
    have hread : (Literal.number (toString j)).number? = some (j : ℚ) := by
      rw [Literal.number?, Numeral.int?_toString (Nat.not_lt.1 hshort)]
      rfl
    exact hread

/-- No other variable has the same identifier. -/
theorem find?_id (hvs : (vs.map (·.id)).Nodup) {v : Variable} (hv : v ∈ vs) :
    vs.find? (fun u => some u.id = some v.id) = some v := by
  cases hu : vs.find? (fun u => some u.id = some v.id) with
  | none => exact absurd (List.find?_eq_none.1 hu v hv) (by simp)
  | some u =>
    have hid : u.id = v.id := by simpa using List.find?_some hu
    rw [List.inj_on_of_nodup_map hvs (List.mem_of_find?_eq_some hu) hv hid]

theorem counts_read (hvs : (vs.map (·.id)).Nodup) (x : String) :
    Counts t vs ρ (.read x) (ρ x) := by
  rintro n i ids ⟨id, rfl, rfl, v, hv, rfl, b, hb, hlike⟩ hn
  obtain ⟨m, rfl⟩ : ∃ m, n = m + 1 := ⟨n - 1, (Nat.sub_add_cancel hn).symm⟩
  have hfields : b.fields = [("VARIABLE", .named v.name v.id)] := by rw [hlike]
  refine ⟨_, rfl, ?_⟩
  rw [Core.covering, Table.numberWithin, hb]
  simp only [Option.bind_eq_bind, Option.bind_some, hlike.opcode, hfields, if_true]
  change (vs.find? (fun u => some u.id = some v.id)).bind _ = _
  rw [find?_id hvs hv]
  rfl

/-- An arithmetic block computes from the values of its operands. -/
theorem counts_node {opcode : String} {F : ℚ → ℚ → Option ℚ} {a c q : ℚ}
    (hop : arithmeticOf? opcode = some F) (hF : F a c = some q) (hf : Counts t vs ρ f a)
    (hg : Counts t vs ρ g c) : Counts t vs ρ (.node (.arithmetic opcode) f g) q := by
  rintro n i ids ⟨id, l, r, ls, rs, rfl, rfl, ⟨b, hb, hlike⟩, hl, hr⟩ hn
  obtain ⟨m, rfl⟩ : ∃ m, n = m + 1 := ⟨n - 1, by simp at hn; omega⟩
  rw [List.length_cons, List.length_append] at hn
  obtain ⟨x, rfl, hx⟩ := hf m _ _ hl (by omega)
  obtain ⟨y, rfl, hy⟩ := hg m _ _ hr (by omega)
  have hinputs : b.inputs = [("NUM1", x), ("NUM2", y)] := by rw [hlike]; rfl
  have hopcode : b.opcode = opcode := hlike.opcode
  have hnot : opcode ≠ "data_variable" := by
    rintro rfl
    cases hop
  refine ⟨_, rfl, ?_⟩
  change t.numberWithin vs ρ (m + 1) (.reporter (some id) coveredNumber) = some q
  rw [Table.numberWithin, hb]
  simp only [Option.bind_eq_bind, Option.bind_some, hopcode, hnot, if_false, hop, hinputs]
  change (t.numberWithin vs ρ m x).bind (fun p => (t.numberWithin vs ρ m y).bind (F p)) = _
  rw [hx, hy]
  exact hF

/-- A block that compares two numbers decides from their values. -/
theorem decides_comparison (opcode : String) {F : ℚ → ℚ → Bool} {a c : ℚ}
    (hop : comparisonOf? opcode = some F) (hf : Counts t vs ρ f a) (hg : Counts t vs ρ g c) :
    Decides t vs ρ (.node (.condition opcode) f g) (F a c) := by
  rintro n i ids ⟨id, l, r, ls, rs, hi, rfl, ⟨b, hb, hlike⟩, hl, hr⟩ hn
  obtain ⟨m, rfl⟩ : ∃ m, n = m + 1 := ⟨n - 1, by simp at hn; omega⟩
  rw [List.length_cons, List.length_append] at hn
  obtain ⟨x, rfl, hx⟩ := hf m _ _ hl (by omega)
  obtain ⟨y, rfl, hy⟩ := hg m _ _ hr (by omega)
  have hinputs : b.inputs = [("OPERAND1", x), ("OPERAND2", y)] := by rw [hlike]; rfl
  have hopcode : b.opcode = opcode := hlike.opcode
  refine ⟨id, hi, ?_⟩
  rw [Table.truthWithin, hb]
  simp only [Option.bind_eq_bind, Option.bind_some, hopcode, hop, hinputs]
  change (t.numberWithin vs ρ m x).bind (fun p => (t.numberWithin vs ρ m y).bind _) = _
  rw [hx, hy]
  rfl

/-- A block that joins two conditions decides from their values. -/
theorem decides_connective {opcode : String} {F : Bool → Bool → Bool} {a c : Bool}
    (hop : connectiveOf? opcode = some F) (hnone : comparisonOf? opcode = none)
    (hf : Decides t vs ρ f a) (hg : Decides t vs ρ g c) :
    Decides t vs ρ (.node (.condition opcode) f g) (F a c) := by
  rintro n i ids ⟨id, l, r, ls, rs, hi, rfl, ⟨b, hb, hlike⟩, hl, hr⟩ hn
  obtain ⟨m, rfl⟩ : ∃ m, n = m + 1 := ⟨n - 1, by simp at hn; omega⟩
  rw [List.length_cons, List.length_append] at hn
  obtain ⟨x, rfl, hx⟩ := hf m _ _ hl (by omega)
  obtain ⟨y, rfl, hy⟩ := hg m _ _ hr (by omega)
  have hinputs : b.inputs = [("OPERAND1", .block x), ("OPERAND2", .block y)] := by rw [hlike]; rfl
  have hopcode : b.opcode = opcode := hlike.opcode
  refine ⟨id, hi, ?_⟩
  rw [Table.truthWithin, hb]
  simp only [Option.bind_eq_bind, Option.bind_some, hopcode, hop, hnone, hinputs]
  change (t.truthWithin vs ρ m x).bind (fun p => (t.truthWithin vs ρ m y).bind _) = _
  rw [hx, hy]
  rfl

theorem decides_negation {a : Bool} (hf : Decides t vs ρ f a) :
    Decides t vs ρ (.node .negation f .empty) !a := by
  rintro n i ids ⟨id, l, r, ls, rs, hi, rfl, ⟨b, hb, hlike⟩, hl, rfl, rfl⟩ hn
  obtain ⟨m, rfl⟩ : ∃ m, n = m + 1 := ⟨n - 1, by simp at hn; omega⟩
  rw [List.append_nil, List.length_cons] at hn
  obtain ⟨x, rfl, hx⟩ := hf m _ _ hl (by omega)
  have hinputs : b.inputs = [("OPERAND", .block x)] := by rw [hlike]; rfl
  have hopcode : b.opcode = "operator_not" := hlike.opcode
  refine ⟨id, hi, ?_⟩
  rw [Table.truthWithin, hb]
  simp only [Option.bind_eq_bind, Option.bind_some, hopcode, hinputs]
  change (t.truthWithin vs ρ m x).bind _ = _
  rw [hx]
  rfl

/-! ### Expressions -/

theorem Expr.filling_of_isSigned (ρ : String → ℚ) : ∀ {e : Expr}, e.isSigned →
    ∃ j : Int, e.filling = .constant (.int j) ∧ e.number ρ = j ∧ e.isFormula ∧
      (e.IsShort ↔ (Value.int j).IsShort)
  | .const (.int j), _ => ⟨j, rfl, rfl, rfl, Iff.rfl⟩
  | .unary .negate e, h => by
    obtain ⟨j, hfilling, hnumber, hformula, hshort⟩ := filling_of_isSigned ρ (e := e) h
    refine ⟨-j, ?_, ?_, hformula, ?_⟩
    · rw [filling, hfilling]
      rfl
    · rw [number, hnumber]
      exact (Int.cast_neg j).symm
    · rw [Value.isShort_int, Int.natAbs_neg, ← Value.isShort_int]
      exact hshort
  | .unary .plus e, h => filling_of_isSigned ρ (e := e) h

/-- An arithmetic operator and its block compute the same, unless they divide by zero. -/
theorem BinaryOp.exists_arithmeticOf {op : BinaryOp} (h : op.isArithmetic) :
    ∃ opcode F, op.opcode? = some opcode ∧ arithmeticOf? opcode = some F ∧
      ∀ a b, (op = .div ∨ op = .mod → b ≠ 0) → F a b = some (op.apply a b) := by
  cases op with
  | add => exact ⟨_, _, rfl, rfl, fun a b _ => rfl⟩
  | sub => exact ⟨_, _, rfl, rfl, fun a b _ => rfl⟩
  | mul => exact ⟨_, _, rfl, rfl, fun a b _ => rfl⟩
  | div => exact ⟨_, _, rfl, rfl, fun a b hb => if_neg (hb (.inl rfl))⟩
  | mod => exact ⟨_, _, rfl, rfl, fun a b hb => if_neg (hb (.inr rfl))⟩
  | _ => cases h

/-- The blocks of arithmetic have its value. -/
theorem Expr.counts (hvs : (vs.map (·.id)).Nodup) : ∀ {e : Expr}, e.isArithmetic →
    e.IsDefined ρ → Counts t vs ρ e.filling (e.number ρ)
  | .const (.int j), _, _ => counts_int j
  | .name x, _, _ => counts_read hvs x
  | .unary op e, h, _ => by
    obtain ⟨j, hj, hnumber, -⟩ := filling_of_isSigned ρ (e := .unary op e) h
    rw [hj, hnumber]
    exact counts_int j
  | .binary op left right, h, hdef => by
    rw [isArithmetic, Bool.and_eq_true, Bool.and_eq_true] at h
    obtain ⟨opcode, F, hop, hF, happly⟩ := BinaryOp.exists_arithmeticOf h.1.1
    rw [filling, hop]
    exact counts_node hF (happly _ _ hdef.2.2) (counts hvs h.1.2 hdef.1) (counts hvs h.2 hdef.2.1)

/-- Where there is no block for a comparison, the opposite one is negated. -/
theorem comparisonTest_decides {op : CompareOp} (hop : op.opcode?.isSome) {a c : ℚ}
    (hf : Counts t vs ρ f a) (hg : Counts t vs ρ g c) :
    Decides t vs ρ (comparisonTest op f g) (op.holds a c) := by
  cases op with
  | lt => exact decides_comparison "operator_lt" rfl hf hg
  | gt => exact decides_comparison "operator_gt" rfl hf hg
  | eq => exact decides_comparison "operator_equals" rfl hf hg
  | notEq =>
    have h := decides_negation (decides_comparison "operator_equals" rfl hf hg)
    rw [← decide_not] at h
    exact h
  | ge =>
    have h := decides_negation (decides_comparison "operator_lt" rfl hf hg)
    rw [← decide_not, decide_eq_decide.2 not_lt] at h
    exact h
  | le =>
    have h := decides_negation (decides_comparison "operator_gt" rfl hf hg)
    rw [← decide_not, decide_eq_decide.2 not_lt] at h
    exact h
  | _ => cases hop

theorem constantTest_decides (b : Bool) : Decides t vs ρ (Expr.const (.bool b)).test b := by
  have hone : Counts t vs ρ (.constant (.str "1")) 1 := counts_constant fun s hs => by
    cases hs
    decide +kernel
  have hzero : Counts t vs ρ (.constant (.str "0")) 0 := counts_constant fun s hs => by
    cases hs
    decide +kernel
  cases b with
  | true =>
    have h := decides_comparison "operator_equals" rfl hone hone
    rw [decide_eq_true rfl] at h
    exact h
  | false =>
    have h := decides_comparison "operator_equals" rfl hone hzero
    rw [decide_eq_false one_ne_zero] at h
    exact h

mutual

/-- The blocks of a condition have its truth value. -/
theorem Expr.decides (hvs : (vs.map (·.id)).Nodup) : ∀ {e : Expr}, e.isCondition →
    e.IsDefined ρ → Decides t vs ρ e.test (e.truth ρ)
  | .const (.bool b), _, _ => constantTest_decides b
  | .unary .not e, h, hdef => decides_negation (Expr.decides hvs (e := e) h hdef)
  | .bool op operands, h, hdef => by
    rw [Expr.isCondition, Bool.and_eq_true] at h
    exact joined_decides hvs op (by simpa using h.1) h.2 hdef
  | .compare left op right rest, h, hdef => by
    rw [Expr.isCondition, Bool.and_eq_true, Bool.and_eq_true, Bool.and_eq_true] at h
    exact comparisonTest_decides h.1.1.1 (Expr.counts hvs h.1.2 hdef.1)
      (Expr.counts hvs h.2 hdef.2)

/-- Joining from the last to the first makes no difference. -/
theorem joined_decides (hvs : (vs.map (·.id)).Nodup) (op : BoolOp) : ∀ {es : List Expr}, es ≠ [] →
    areConditions es → AreDefined ρ es →
    Decides t vs ρ (.joined op.opcode (tests es)) ((Expr.bool op es).truth ρ)
  | [e], _, h, hdef => by
    rw [areConditions, Bool.and_eq_true] at h
    have he := Expr.decides hvs h.1 hdef.1
    cases op with
    | and =>
      rw [Expr.truth, allTrue, allTrue, Bool.and_true]
      exact he
    | or =>
      rw [Expr.truth, anyTrue, anyTrue, Bool.or_false]
      exact he
  | e :: e' :: es, _, h, hdef => by
    rw [areConditions, Bool.and_eq_true] at h
    have he := Expr.decides hvs h.1 hdef.1
    have hes := joined_decides hvs op (List.cons_ne_nil e' es) h.2 hdef.2
    cases op with
    | and => exact decides_connective rfl rfl he hes
    | or => exact decides_connective rfl rfl he hes

end

/-! ### Numbers that are too long -/

/-- Arithmetic is a formula, and it can be written just if its numbers can. -/
theorem Expr.isArithmetic_short : ∀ {e : Expr}, e.isArithmetic →
    e.isFormula ∧ (e.filling.Writable → e.IsShort)
  | .const (.int j), _ => ⟨rfl, fun h => Value.isShort_int.2 (Value.text_int.1 h)⟩
  | .name x, _ => ⟨rfl, fun _ => trivial⟩
  | .unary op e, h => by
    obtain ⟨j, hj, -, hformula, hshort⟩ := filling_of_isSigned (fun _ => 0) (e := .unary op e) h
    refine ⟨hformula, fun hw => hshort.2 ?_⟩
    rw [hj] at hw
    exact Value.isShort_int.2 (Value.text_int.1 hw)
  | .binary op left right, h => by
    rw [isArithmetic, Bool.and_eq_true, Bool.and_eq_true] at h
    obtain ⟨opcode, F, hop, -⟩ := BinaryOp.exists_arithmeticOf h.1.1
    obtain ⟨hleft, hl⟩ := isArithmetic_short h.1.2
    obtain ⟨hright, hr⟩ := isArithmetic_short h.2
    rw [isFormula, filling, hop, hleft, hright]
    exact ⟨rfl, fun hw => ⟨hl hw.1, hr hw.2⟩⟩

theorem writable_of_comparisonTest {op : CompareOp} (hop : op.opcode?.isSome)
    (h : (comparisonTest op f g).Writable) : f.Writable ∧ g.Writable := by
  cases op with
  | lt | gt | eq => exact h
  | notEq | ge | le => exact h.1
  | _ => cases hop

mutual

theorem Expr.isCondition_short : ∀ {e : Expr}, e.isCondition →
    e.isFormula ∧ (e.test.Writable → e.IsShort)
  | .const (.bool b), _ => ⟨rfl, fun _ => by cases b <;> exact ⟨⟨_, rfl⟩, _, rfl⟩⟩
  | .unary .not e, h => by
    obtain ⟨hformula, hshort⟩ := Expr.isCondition_short (e := e) h
    exact ⟨hformula, fun hw => hshort hw.1⟩
  | .bool op operands, h => by
    rw [Expr.isCondition, Bool.and_eq_true] at h
    exact areConditions_short op.opcode h.2
  | .compare left op right rest, h => by
    rw [Expr.isCondition, Bool.and_eq_true, Bool.and_eq_true, Bool.and_eq_true] at h
    obtain ⟨hleft, hl⟩ := Expr.isArithmetic_short h.1.2
    obtain ⟨hright, hr⟩ := Expr.isArithmetic_short h.2
    rw [List.isEmpty_iff.1 h.1.1.2, Expr.isFormula, hleft, hright]
    exact ⟨rfl, fun hw => (writable_of_comparisonTest h.1.1.1 hw).imp hl hr⟩

theorem areConditions_short (opcode : String) : ∀ {es : List Expr}, areConditions es →
    areFormulas es ∧ ((Filling.joined opcode (tests es)).Writable → AreShort es)
  | [], _ => ⟨rfl, fun _ => trivial⟩
  | [e], h => by
    rw [areConditions, Bool.and_eq_true] at h
    obtain ⟨hformula, hshort⟩ := Expr.isCondition_short h.1
    rw [areFormulas, hformula]
    exact ⟨rfl, fun hw => ⟨hshort hw, trivial⟩⟩
  | e :: e' :: es, h => by
    rw [areConditions, Bool.and_eq_true] at h
    obtain ⟨hformula, hshort⟩ := Expr.isCondition_short h.1
    obtain ⟨hformulas, hshorts⟩ := areConditions_short opcode h.2
    rw [areFormulas, hformula]
    exact ⟨hformulas, fun hw => ⟨hshort hw.1, hshorts hw.2⟩⟩

end

end Program

/-! ### Workspaces in the course of a compilation -/

namespace Workspace

/-- What edits make of an empty workspace, also while the arguments of a call or the members of a
class are compiled. -/
inductive Reachable : Workspace → Prop
  | start (n : Nat) : Reachable { issued := n }
  | edits {L : Licence} {old : List Id} {w w' : Workspace} (h : Reachable w)
      (hold : old ⊆ w.blocks.keys) (he : Edits L old w w') : Reachable w'
  | call {w : Workspace} (h : Reachable w) : Reachable (w.stacked callBlock)
  | member {w : Workspace} (h : Reachable w) : Reachable w.opened

variable {w w' : Workspace}

theorem Reachable.sound (h : w.Reachable) : w.Sound := by
  induction h with
  | start n => exact sound_empty n
  | edits h hold he ih => exact (he.reaches ih hold).after
  | call h ih => exact ih.stacked (isStatement_callBlock _ [])
  | member h ih => exact ih.opened

/-- More statements were compiled. -/
def GoesOn (w w' : Workspace) : Prop :=
  ∃ ss : List Program.Stmt, (Build.sequence (Program.visits ss)).run w = (.ok (), w')

theorem goesOn_visit {s : Program.Stmt} (hrun : s.visit.run w = (.ok (), w')) : w.GoesOn w' :=
  ⟨[s], run_bind_of_ok hrun _⟩

/-- No statement touches a block that was there before, and none takes a variable back. -/
theorem GoesOn.grows (h : w.GoesOn w') (hw : w.Sound) : w'.Sound ∧ Grows w.blocks.keys w w' := by
  obtain ⟨ss, hrun⟩ := h
  have hacts := sequence_acts (Program.visits_act (L := Program.licence ss) id ss
    (fun _ hc => hc) fun _ => trivial)
  obtain ⟨hedits, -⟩ := hacts w hw (.refl _) (List.nil_subset _) () w' hrun
  have hreaches := hedits.reaches hw (.refl _)
  exact ⟨hreaches.after, hreaches.grows⟩

theorem GoesOn.fills (h : w.GoesOn w') (hw : w.Sound) {f : Filling} {i : Option Input}
    {ids : List Id} (hf : f.Fills w.blocks w.vars i ids) : f.Fills w'.blocks w'.vars i ids := by
  obtain ⟨-, hgrows⟩ := h.grows hw
  exact hf.mono (fun id hid => hgrows.like id (hf.mem_keys id hid)) hgrows.scripts.vars.subset

end Workspace

namespace Program

variable {w w₁ w₂ : Workspace} {f : Filling} {i : Option Input}

/-- The blocks of a tree are fewer than those of its table. -/
theorem length_le_of_fills {ids : List Id} (hf : f.Fills w.blocks w.vars i ids)
    (hids : ids.Nodup) : ids.length ≤ w.blocks.length :=
  (List.subperm_of_subset hids hf.mem_keys).length_le.trans (List.length_map _).le

/-- A step that makes a tree fails just if its numbers are too long. -/
theorem exists_run_iff {α : Type} {m : Build α} {out : α → Option Input} {short : Prop}
    (hm : m.Meets w (¬short) fun a w' => f.Made w w' (out a)) (hf : f.Writable → short) :
    (∃ a w₁, m.run w = (.ok a, w₁)) ↔ short := by
  constructor
  · rintro ⟨a, w₁, hrun⟩
    obtain ⟨-, ids, hids, -⟩ := hm.of_eq_ok hrun
    exact hf hids.writable
  · intro hshort
    obtain ⟨a, w₁, hrun, -⟩ := hm.exists_run (not_not.2 hshort)
    exact ⟨a, w₁, hrun⟩

/-- **Expressions keep their meaning.** -/
theorem Expr.value_kept (hw : w.Reachable) (e : Expr) (ρ : String → ℚ) (hdef : e.IsDefined ρ) :
    (e.isArithmetic = true → ∀ parent, (∀ p, parent = some p → p ∈ w.blocks.keys) →
      ((∃ i w₁, (e.meaning.operand >>= fun o => plug o parent).run w = (.ok i, w₁)) ↔ e.IsShort) ∧
      ∀ i w₁ w₂, (e.meaning.operand >>= fun o => plug o parent).run w = (.ok i, w₁) →
        w₁.GoesOn w₂ → w₂.number ρ i = some (e.number ρ)) ∧
    (e.isCondition = true →
      ((∃ c w₁, e.meaning.condition.run w = (.ok c, w₁)) ↔ e.IsShort) ∧
      ∀ c w₁, e.meaning.condition.run w = (.ok c, w₁) → ∃ id, c = some id ∧
        ∀ w₂, w₁.GoesOn w₂ → w₂.truth ρ id = some (e.truth ρ)) := by
  have hperforms := e.meaning_performs (L := ⟨fun n k => (n, k) ∈ e.calls, True, False⟩) id
    fun _ hc => hc
  have hnumbered : w.Numbered := hw.sound.keys
  refine ⟨fun he parent hparent => ?_, fun he => ?_⟩
  · obtain ⟨hformula, hshort⟩ := Expr.isArithmetic_short he
    have hmeets := Expr.plug_meets hformula hnumbered parent
    refine ⟨exists_run_iff hmeets hshort, fun i w₁ w₂ hrun hlater => ?_⟩
    obtain ⟨-, ids, hids, hnodup, -⟩ := hmeets.of_eq_ok hrun
    obtain ⟨o, v, hoperand, hplug⟩ := run_bind_eq_ok hrun
    obtain ⟨hedits, hready⟩ := hperforms.operand w hw.sound (.refl _)
      (List.nil_subset _) o v hoperand
    have hv := hedits.reaches hw.sound (.refl _)
    obtain ⟨hedits', -⟩ := performs_plug (L := .plain) hready hv.keys.subset (List.nil_subset _)
      (fun p hp => ⟨hv.keys.subset (hparent p hp), List.not_mem_nil⟩) hv.after
      (.refl _) (List.nil_subset _) i w₁ hplug
    have hw₁ := (hedits'.reaches hv.after (.refl _)).after
    have hfills := hlater.fills hw₁ hids
    obtain ⟨j, hj, hnumber⟩ := Expr.counts (hlater.grows hw₁).1.scripts.varIds he hdef _ _ _ hfills
      (length_le_of_fills hfills hnodup)
    cases hj
    exact hnumber
  · obtain ⟨hformula, hshort⟩ := Expr.isCondition_short he
    have hmeets := e.condition_meets hformula hnumbered
    refine ⟨exists_run_iff hmeets hshort, fun c w₁ hrun => ?_⟩
    obtain ⟨-, ids, hids, hnodup, -⟩ := hmeets.of_eq_ok hrun
    obtain ⟨hedits, -⟩ := hperforms.condition w hw.sound (.refl _)
      (List.nil_subset _) c w₁ hrun
    have hw₁ := (hedits.reaches hw.sound (.refl _)).after
    -- the table just after the step is one of the later ones
    have hvalue : ∀ w₂, w₁.GoesOn w₂ →
        ∃ id, c = some id ∧ w₂.truth ρ id = some (e.truth ρ) := by
      intro w₂ hlater
      have hfills := hlater.fills hw₁ hids
      obtain ⟨id, hid, htruth⟩ := Expr.decides (hlater.grows hw₁).1.scripts.varIds he hdef _ _ _
        hfills (length_le_of_fills hfills hnodup)
      cases c with
      | none => cases hid
      | some c =>
        cases hid
        exact ⟨_, rfl, htruth⟩
    obtain ⟨id, rfl, -⟩ := hvalue w₁ ⟨[], rfl⟩
    refine ⟨id, rfl, fun w₂ hlater => ?_⟩
    obtain ⟨id', hid, htruth⟩ := hvalue w₂ hlater
    cases hid
    exact htruth

/-- `not x % 3 <= 2 * -1 and x != y`. -/
def remainderTest : Expr :=
  .bool .and
    [.unary .not (.compare (.binary .mod (.name "x") (.const (.int 3))) .le
      (.binary .mul (.const (.int 2)) (.unary .negate (.const (.int 1)))) []),
     .compare (.name "x") .notEq (.name "y") []]

/-- The remainder of minus a half by three is two and a half. -/
theorem value_kept_remainderTest : ∃ id w₁,
    remainderTest.meaning.condition.run { issued := 0 } = (.ok (some id), w₁) ∧
      w₁.truth (fun x => if x = "x" then -1 / 2 else 1) id = some true := by
  have hdef : remainderTest.IsDefined fun x => if x = "x" then -1 / 2 else 1 := by
    simp [remainderTest, Expr.IsDefined, AreDefined, Expr.number]
  have hshort : remainderTest.IsShort := by
    simp only [remainderTest, Expr.IsShort, AreShort, Value.isShort_int]
    decide +kernel
  have h := (Expr.value_kept (.start 0) remainderTest _ hdef).2 rfl
  obtain ⟨c, w₁, hrun⟩ := h.1.2 hshort
  obtain ⟨id, rfl, htruth⟩ := h.2 c w₁ hrun
  refine ⟨id, w₁, hrun, (htruth w₁ ⟨[], rfl⟩).trans ?_⟩
  decide +kernel

theorem not_isShort_of_le {j : Int} (hj : 10 ^ Numeral.maxDigits ≤ j.natAbs) :
    ¬(Value.int j).IsShort := by
  rw [Value.isShort_int, Binary64.digitCount,
    Nat.length_toDigits_le_iff (by decide) (by decide)]
  exact Nat.not_lt.2 hj

/-- There is no input for a constant that is too long to be written. -/
theorem exists_constant_without_input : ∃ e : Expr, e.isArithmetic = true ∧
    (∀ ρ, e.IsDefined ρ) ∧
    ¬∃ i w₁, (e.meaning.operand >>= fun o => plug o none).run { issued := 0 } = (.ok i, w₁) := by
  obtain ⟨j, hj⟩ : ∃ j : Int, 10 ^ Numeral.maxDigits ≤ j.natAbs := ⟨_, (Int.natAbs_natCast _).ge⟩
  refine ⟨.const (.int j), rfl, fun ρ => trivial, ?_⟩
  have hw : Workspace.Numbered { issued := 0 } := (sound_empty 0).keys
  rw [exists_run_iff (Expr.plug_meets rfl hw none) (Expr.isArithmetic_short rfl).2]
  exact not_isShort_of_le hj

end Program

end BlockScript
