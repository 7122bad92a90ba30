import BlockScript.Proofs.SteadyCalls

/-!
# The values that variables start with

A variable is made where a script uses it first. If that is an assignment of a constant, it starts
with the constant, and else with zero. The constants that an expression can stand for
(`Program.Expr.signedValue?`) and the assignments in the code of a program (`Program.assignments`) are
read off its tree, and the operand of an expression is a value only if it is such a constant
(`Program.Expr.value_of_operand`).
-/

namespace BlockScript

open Build

namespace Program

/-- The constant that an expression stands for: signs before a number count, and a minus before
anything else gives zero. -/
def Expr.signedValue? : Expr → Option Value
  | .const v => some v
  | .unary .negate e => e.signedValue?.map fun v => v.negated?.getD (.int 0)
  | .unary .plus e => e.signedValue?
  | _ => none

/-- The operand of an expression is a value only if the expression stands for it. -/
theorem Expr.value_of_operand : ∀ (e : Expr) {w w' : Workspace} {v : Value},
    e.meaning.operand.run w = (.ok (.value v), w') → v = .int 0 ∨ e.signedValue? = some v
  | .const _, _, _, _, h => by
    cases h
    exact .inr rfl
  | .name _, _, _, _, h => nomatch h
  | .unary .negate e, _, _, _, h => by
    obtain ⟨o, w₁, he, h⟩ := run_bind_eq_ok h
    cases o with
    | value u =>
      cases h
      rcases e.value_of_operand he with rfl | hu
      · exact .inl rfl
      · exact .inr (by rw [signedValue?, hu]; rfl)
    | name | block =>
      cases h
      exact .inl rfl
  | .unary .plus e, _, _, _, h => by
    rw [signedValue?]
    exact e.value_of_operand h
  | .unary .not _, _, _, _, h | .unary .invert _, _, _, _, h => by
    cases h
    exact .inl rfl
  | .binary _ _ _, _, _, _, h => by
    obtain ⟨_, _, _, h⟩ := run_bind_eq_ok h
    cases h
  | .call _ _ _, _, _, _, h => by
    obtain ⟨c, _, _, h⟩ := run_bind_eq_ok h
    cases c with
    | none =>
      cases h
      exact .inl rfl
    | some i => cases h
  | .bool _ _, _, _, _, h | .compare _ _ _ _, _, _, _, h | .attribute _ _, _, _, _, h
  | .subscript _ _, _, _, _, h | .starred _, _, _, _, h | .list _, _, _, _, h
  | .tuple _, _, _, _, h | .other _, _, _, _, h => by
    cases h
    exact .inl rfl

/-- So is what a variable starts with that is assigned the operand. -/
theorem Expr.initialOf_operand (e : Expr) {w w' : Workspace} {o : Operand}
    (h : e.meaning.operand.run w = (.ok o, w')) :
    initialOf o = .int 0 ∨ e.signedValue? = some (initialOf o) := by
  cases o with
  | name | block => exact .inl rfl
  | value v =>
    have hv : initialOf (.value v) = .int 0 ∨ initialOf (.value v) = v := by
      unfold initialOf
      split
      · exact .inr (by simp_all)
      · split
        · exact .inr (by simp_all)
        · exact .inl rfl
      · exact .inl rfl
    rcases hv with hv | hv
    · exact .inl hv
    · rw [hv]
      exact e.value_of_operand h

/-- The assignment of a value to a name, and the class it stands in, if it stands in one. -/
structure Assignment where
  sprite : Option String
  name : String
  value : Expr

mutual

/-- The assignments in the code of a statement. Of a class, only the functions are code. -/
def Stmt.assignments : Stmt → Option String → List Assignment
  | .expr _, _ => []
  | .assign targets value, sprite =>
    match targets with
    | .name name :: _ => [{ sprite, name, value }]
    | _ => []
  | .augAssign _ _ _, _ => []
  | .forLoop _ _ body _, sprite => assignmentsIn body sprite
  | .whileLoop _ body _, sprite => assignmentsIn body sprite
  | .conditional _ body orelse, sprite => assignmentsIn body sprite ++ assignmentsIn orelse sprite
  | .functionDef _ _ body _, sprite => assignmentsIn body sprite
  | .classDef name _ members, _ => memberAssignments members (some name)
  | .other parts, sprite => partAssignments parts sprite

def assignmentsIn : List Stmt → Option String → List Assignment
  | [], _ => []
  | s :: rest, sprite => s.assignments sprite ++ assignmentsIn rest sprite

def memberAssignments : List Stmt → Option String → List Assignment
  | [], _ => []
  | s :: rest, sprite => s.memberAssignments sprite ++ memberAssignments rest sprite

def Stmt.memberAssignments : Stmt → Option String → List Assignment
  | .functionDef _ _ body _, sprite => assignmentsIn body sprite
  | _, _ => []

def Part.assignments : Part → Option String → List Assignment
  | .expr _, _ => []
  | .stmt s, sprite => s.assignments sprite

def partAssignments : List Part → Option String → List Assignment
  | [], _ => []
  | p :: rest, sprite => p.assignments sprite ++ partAssignments rest sprite

end

/-- The assignments of a statement outside of all classes. Only classes and functions are code
there. -/
def Stmt.topAssignments : Stmt → List Assignment
  | .classDef name _ members => Program.memberAssignments members (some name)
  | .functionDef _ _ body _ => assignmentsIn body none
  | _ => []

/-- The assignments in the code of a program. -/
def assignments (program : Module) : List Assignment := program.flatMap Stmt.topAssignments

/-- Every constant that is assigned may be what its variable starts with. -/
def Admits (P : Allowance) (assignments : List Assignment) : Prop :=
  ∀ a ∈ assignments, ∀ v, a.value.signedValue? = some v → P.values a.sprite a.name v

theorem admits_append {P : Allowance} {as bs : List Assignment} :
    Admits P (as ++ bs) ↔ Admits P as ∧ Admits P bs := List.forall_mem_append

end Program

end BlockScript
