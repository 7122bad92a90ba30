import BlockScript.Proofs.History
import BlockScript.Proofs.Integrity

/-!
# Declarations in classes have no effect

The listing of a project declares the variables and lists of a sprite in its class, with the values
they start with. The compiler passes these declarations over, since of the members of a class only
the functions are compiled: programs that differ in nothing else compile to the same targets
(`Program.Stmt.visitTop_undeclared`). Data come into being at their first use in a script. So lists
always start empty, and a variable starts with zero or with a constant that a script of its own
class assigns to it (`Build.compile_data`).
-/

namespace BlockScript

open Build Program Program.Stmt

/-! ### Members of classes -/

namespace Program

def Stmt.isFunction : Stmt → Bool
  | .functionDef _ _ _ _ => true
  | _ => false

/-- The statement without what it declares: of the members of a class, only the functions stay. -/
def Stmt.undeclared : Stmt → Stmt
  | .classDef name decorators members => .classDef name decorators (members.filter Stmt.isFunction)
  | s => s

theorem announceAll_functions (members : List Stmt) :
    announceAll (members.filter isFunction) = announceAll members := by
  induction members with
  | nil => rfl
  | cons s rest ih =>
    cases s with
    | functionDef name params body trailer =>
      rw [List.filter_cons_of_pos rfl, announceAll, announceAll, ih]
    | expr | assign | augAssign | forLoop | whileLoop | conditional | classDef | other => exact ih

theorem sequence_functions (members : List Stmt) :
    Build.sequence (methods (members.filter isFunction)) =
      Build.sequence (methods members) := by
  induction members with
  | nil => rfl
  | cons s rest ih =>
    have hskip : Build.sequence (pure () :: methods rest) = Build.sequence (methods rest) :=
      pure_bind ..
    cases s with
    | functionDef name params body trailer =>
      change Build.sequence (_ :: methods (rest.filter isFunction)) =
        Build.sequence (_ :: methods rest)
      exact congrArg (fun m => do method name params (visits body); m) ih
    | expr | assign | augAssign | forLoop | whileLoop | conditional | classDef | other =>
      exact ih.trans hskip.symm

/-- What a statement declares has no effect. -/
theorem Stmt.visitTop_undeclared (s : Stmt) : s.undeclared.visitTop = s.visitTop := by
  cases s with
  | classDef name decorators members =>
    change sprite _ _ (members.filter isFunction) (methods (members.filter _)) =
      sprite _ _ members (methods members)
    rw [sprite, sprite, announceAll_functions, sequence_functions]
  | expr | assign | augAssign | forLoop | whileLoop | conditional | functionDef | other => rfl

theorem Stmt.stageCall?_undeclared (s : Stmt) : s.undeclared.stageCall? = s.stageCall? := by
  cases s <;> rfl

end Program

/-! ### Programs -/

namespace Build

/-- The compilation of a program that is read already. -/
def compileModule (program : Program.Module) : Build Compilation := do
  modify fun w => { issued := w.issued }
  program.forM (·.visitTop)
  let w ← get
  pure { targets := w.targets, stage := Program.stageSettings? program }

theorem compile_of_parse {source : String} {p : Program.Module}
    (h : parse source = .ok p) : compile source = compileModule p := by
  rw [compile, h]
  rfl

/-- What is compiled is the program without its declarations. -/
theorem compileModule_undeclared (p : Program.Module) :
    compileModule (p.map undeclared) = compileModule p := by
  have hvisits : (p.map undeclared).forM (·.visitTop) = p.forM (·.visitTop) := by
    induction p with
    | nil => rfl
    | cons s p ih => rw [List.map_cons, forM_cons, forM_cons, s.visitTop_undeclared, ih]
  have hstage : stageSettings? (p.map undeclared) =
      stageSettings? p := by
    rw [stageSettings?, stageSettings?, List.findSome?_map]
    congr 2
    funext s
    exact s.stageCall?_undeclared
  rw [compileModule, compileModule, hvisits, hstage]

/-- The values that the scripts of a class assign are what its variables may start with. -/
def allowance (p : Program.Module) : Allowance where
  values class? x v := ∃ a ∈ Program.assignments p,
    a.sprite = class? ∧ a.name = x ∧ a.value.signedValue? = some v
  sprite := none

/-- **Data come from the scripts alone.** In every target of a program that compiles, lists start
empty, and a variable starts with zero or with a constant that a script of its class assigns to it.
Programs that differ only in what their classes declare compile to the same result. -/
theorem compile_data {source : String} {p : Program.Module} {w v : Workspace} {c : Compilation}
    (hparse : Program.parse source = .ok p) (hrun : (compile source).run w = (.ok c, v)) :
    (∀ t ∈ c.targets,
      (∀ l ∈ t.lists, l.items = .list []) ∧
      ∀ x ∈ t.vars, x.initial = .int 0 ∨
        ∃ a ∈ Program.assignments p,
          a.sprite = t.class? ∧ a.name = x.name ∧ a.value.signedValue? = some x.initial) ∧
    ∀ source' p', Program.parse source' = .ok p' →
      p'.map Program.Stmt.undeclared = p.map Program.Stmt.undeclared →
      (compile source').run w = (.ok c, v) := by
  refine ⟨fun t ht => ?_, fun source' p' hparse' hsame => ?_⟩
  · have hagree := agree_compile (P := allowance p) 0 (rfl : w.issued = w.issued) rfl fun q hq => by
      rw [Except.ok.inj (hparse.symm.trans hq)]
      exact fun a ha v hv => ⟨a, ha, rfl, rfl, hv⟩
    rw [hrun] at hagree
    have hstarts := hagree.1.2 t ht
    exact ⟨hstarts.lists, hstarts.vars⟩
  · rw [← hrun, compile_of_parse hparse, compile_of_parse hparse', ← compileModule_undeclared p',
      hsame, compileModule_undeclared]

/-- A sprite whose class declares a number and a list, and whose script uses other data. -/
def declaringSource : String :=
  "class Cat:\n" ++
  " score = 5\n" ++
  " items = [\"a\"]\n" ++
  " def when_flag_clicked(self):\n" ++
  "  size = -3\n" ++
  "  add_to_list(1, \"log\")\n"

theorem compile_data_declaringSource :
    ∃ p c v, Program.parse declaringSource = .ok p ∧
      (compile declaringSource).run {} = (.ok c, v) ∧
      c.targets.map (fun t => (t.vars.map fun x => (x.name, x.initial.text.toOption),
        t.lists.map (·.name))) = [([("size", some "-3")], ["log"])] ∧
      (∀ t ∈ c.targets,
        (∀ l ∈ t.lists, l.items = .list []) ∧
        ∀ x ∈ t.vars, x.initial = .int 0 ∨
          ∃ a ∈ Program.assignments p,
            a.sprite = t.class? ∧ a.name = x.name ∧ a.value.signedValue? = some x.initial) ∧
      ∀ source' p', Program.parse source' = .ok p' →
        p'.map Program.Stmt.undeclared = p.map Program.Stmt.undeclared →
        (compile source').run {} = (.ok c, v) := by
  have hseen : ((compile declaringSource).run {}).1.toOption.map
      (·.targets.map fun t => (t.vars.map fun x => (x.name, x.initial.text.toOption),
        t.lists.map (·.name))) = some [([("size", some "-3")], ["log"])] := by
    decide +kernel
  obtain ⟨c, v, hrun, hseen⟩ := exists_of_run_map hseen
  obtain ⟨p, hparse, -⟩ := exists_visits hrun
  exact ⟨p, c, v, hparse, hrun, hseen, compile_data hparse hrun⟩

/-- A project with a sprite that has a number and a list, and no scripts. -/
def dataProject : Value :=
  .dict
    [("targets", .list
      [.dict
        [("isStage", .bool true), ("name", .str "Stage"), ("variables", .dict []),
          ("lists", .dict []), ("blocks", .dict [])],
      .dict
        [("isStage", .bool false), ("name", .str "Cat"),
          ("variables", .dict [("v1", .list [.str "score", .int 5])]),
          ("lists", .dict [("l1", .list [.str "items", .list [.str "a"]])]),
          ("blocks", .dict [])]])]

/-- The data of a project are lost on the way to its listing and back. -/
theorem data_lost_dataProject :
    ∃ text c v, Listing.ofProject dataProject = .ok text ∧ (compile text).run {} = (.ok c, v) ∧
      c.targets.map (fun t => (t.name, t.vars.map (·.name), t.lists.map (·.name))) =
        [("Cat", [], [])] := by
  have hseen : ((Listing.ofProject dataProject).toOption.bind fun text =>
      ((compile text).run {}).1.toOption.map
        (·.targets.map fun t => (t.name, t.vars.map (·.name), t.lists.map (·.name)))) =
      some [("Cat", [], [])] := by
    decide +kernel
  rcases htext : Listing.ofProject dataProject with e | text <;> rw [htext] at hseen
  · cases hseen
  · obtain ⟨c, v, hrun, hdata⟩ := exists_of_run_map hseen
    exact ⟨text, c, v, rfl, hrun, hdata⟩

end Build

end BlockScript
