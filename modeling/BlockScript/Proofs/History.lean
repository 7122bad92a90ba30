import BlockScript.Proofs.FirstValues

/-!
# Compilation does not depend on what was compiled before

A workspace is emptied before a program is compiled in it, but identifiers go on where they stopped.
So what a program compiles to could depend on the programs before it only through the identifiers.
It does not: the meaning of every expression (`Program.Expr.meaning_steady`) and the effect of every
statement (`Program.Stmt.visit_steady`) are in step with themselves, from the calls up to whole
programs (`Build.agree_compile`). The result after any history is the one without a history with
other identifiers (`Build.compile_after_history`).
-/

namespace BlockScript

open Build BlockScript.Id List Program

/-! ### Expressions -/

namespace Program

variable {P : Allowance} {k : Nat}

theorem callsMean_inStep : (View.inStep P k).CallsMean fun _ _ => True := fun name _ _ hargs _ _ =>
  inStep_imp (gives_call name fun m hm => Meaning.steady_iff.2 (hargs m hm))
    fun _ _ => View.inStep_block.2

/-- **The meaning of an expression is in step with itself.** -/
theorem Expr.meaning_steady (e : Expr) : e.meaning.Steady P k :=
  Meaning.steady_iff.2 ((View.inStep_lawful P k).meaning_means callsMean_inStep e fun _ _ => trivial)

theorem meanings_steady (es : List Expr) : ∀ m ∈ meanings es, m.Steady P k := fun m hm =>
  Meaning.steady_iff.2
    ((View.inStep_lawful P k).meanings_mean callsMean_inStep es (fun _ _ => trivial) m hm)

theorem Expr.times_inStep (e : Expr) :
    InStep P k (fun o o' => o' = o.rename (shift k)) e.times e.times := by
  unfold times
  split
  · exact (meaning_steady _).operand
  · exact inStep_pure rfl

end Program

/-! ### Statements -/

namespace Build

variable {P : Allowance} {k : Nat} {steps body orelse : List (Build Unit)}

theorem steady_sequence (h : ∀ s ∈ steps, Steady P k s) : Steady P k (sequence steps) := steady_forM h

theorem inStep_substackFrom (parent : Id) (first : Option Id) (h : ∀ s ∈ steps, Steady P k s) :
    InStep P k (fun c c' => c' = c.map (shift k)) (substackFrom parent first steps)
      (substackFrom (shift k parent) (first.map (shift k)) steps) := by
  induction steps generalizing first with
  | nil => exact inStep_pure rfl
  | cons s steps ih =>
    rw [forall_mem_cons] at h
    refine inStep_then h.1 (inStep_bind inStep_get fun w w' hw => ?_)
    rw [hw.previous]
    cases first with
    | some i => exact ih (some i) h.2
    | none =>
      cases w.previous with
      | none => exact ih none h.2
      | some i => exact inStep_then (inStep_setParent (some i) parent) (ih (some i) h.2)

theorem inStep_plugBody (i : Id) {input : String} (hinput : input.length < 20)
    (h : ∀ s ∈ steps, Steady P k s) :
    InStep P k Eq (plugBody i input steps) (plugBody (shift k i) input steps) := by
  have hsubstack : InStep P k (fun c c' => c' = c.map (shift k)) (substack i steps)
      (substack (shift k i) steps) := by
    refine inStep_bind inStep_get fun w w' hw => ?_
    rw [hw.previous]
    refine inStep_then (inStep_setPrevious none) ?_
    refine inStep_bind (inStep_substackFrom i none h) ?_
    rintro c _ rfl
    exact inStep_then (inStep_setPrevious w.previous) (inStep_pure rfl)
  refine inStep_bind hsubstack ?_
  rintro c _ rfl
  cases c with
  | none => exact inStep_pure rfl
  | some c => exact inStep_setInput i hinput rfl

theorem initialOf_rename (o : Operand) : initialOf (o.rename (shift k)) = initialOf o := by
  cases o <;> rfl

/-- The input and the variable of a block that sets or changes a variable. -/
theorem inStep_store (i : Id) (x : String) (v : Id) {a a' : Input}
    (h : a.Renamed (shift k) a') :
    InStep P k Eq
      (do
        setInputs i [("VALUE", a)]
        update i fun b => { b with fields := [("VARIABLE", .named x v)] })
      (do
        setInputs (shift k i) [("VALUE", a')]
        update (shift k i) fun b =>
          { b with fields := [("VARIABLE", .named x (shift k v))] }) := by
  have hvalue : "VALUE".length < 20 := by decide
  refine inStep_then (inStep_setInputs i ?_) (inStep_setNamed i "VARIABLE" x v)
  exact .cons ⟨(shift_of_length_lt k hvalue).symm, h⟩ .nil

theorem steady_assign (x : String) {m : Meaning} (h : m.Steady P k)
    (hstart : ∀ w o w₁, m.operand.run w = (.ok o, w₁) →
      initialOf o = .int 0 ∨ P.values P.sprite x (initialOf o)) : Steady P k (assign x m) := by
  refine inStep_bind (inStep_and h.operand hstart) ?_
  rintro o _ ⟨rfl, ho⟩
  rw [initialOf_rename]
  refine inStep_bind (inStep_variableNamed x ho) ?_
  rintro v _ rfl
  refine inStep_bind (inStep_statement "data_setvariableto") ?_
  rintro i _ rfl
  exact inStep_bind (inStep_plug o (some i)) fun _ _ ha => inStep_store i x v ha

theorem inStep_plugNegated (i : Id) (o : Operand) :
    InStep P k (Input.Renamed (shift k)) (plugNegated i o)
      (plugNegated (shift k i) (o.rename (shift k))) := by
  cases o with
  | block b =>
    refine inStep_bind (inStep_reporter "operator_subtract") ?_
    rintro j _ rfl
    refine inStep_then (inStep_setInput j (by decide) (Input.renamed_rename _)) ?_
    refine inStep_then (inStep_setInput j (by decide) rfl) ?_
    exact inStep_then (inStep_setParent b j) (inStep_pure rfl)
  | value v => exact inStep_plug (.value (v.negated?.getD v)) (some i)
  | name n => exact inStep_plug (.name n) (some i)

theorem steady_change (x : String) (op : BinaryOp) {m : Meaning} (h : m.Steady P k) :
    Steady P k (change x op m) := by
  refine inStep_bind h.operand ?_
  rintro o _ rfl
  refine inStep_bind (inStep_variableNamed x (.inl rfl)) ?_
  rintro v _ rfl
  cases op with
  | add =>
    refine inStep_bind (inStep_statement "data_changevariableby") ?_
    rintro i _ rfl
    exact inStep_bind (inStep_plug o (some i)) fun _ _ ha => inStep_store i x v ha
  | sub =>
    refine inStep_bind (inStep_statement "data_changevariableby") ?_
    rintro i _ rfl
    exact inStep_bind (inStep_plugNegated i o) fun _ _ ha => inStep_store i x v ha
  | _ => exact inStep_pure rfl

theorem steady_repeatLoop {times : Build Operand}
    (ht : InStep P k (fun o o' => o' = o.rename (shift k)) times times)
    (h : ∀ s ∈ body, Steady P k s) : Steady P k (repeatLoop times body) := by
  have htimes : "TIMES".length < 20 := by decide
  refine inStep_bind ht ?_
  rintro o _ rfl
  refine inStep_bind (inStep_plug o none) fun a a' ha => ?_
  refine inStep_bind (inStep_create "control_repeat" .stack
    (.cons ⟨(shift_of_length_lt k htimes).symm, ha⟩ .nil)) ?_
  rintro i _ rfl
  exact inStep_then (inStep_plugBody i (by decide) h) (inStep_setPrevious (some i))

theorem steady_foreverLoop (h : ∀ s ∈ body, Steady P k s) : Steady P k (foreverLoop body) := by
  refine inStep_bind (inStep_statement "control_forever") ?_
  rintro i _ rfl
  exact inStep_then (inStep_plugBody i (by decide) h) (inStep_setPrevious none)

theorem steady_conditionLoop {test : Meaning} (ht : test.Steady P k) (h : ∀ s ∈ body, Steady P k s) :
    Steady P k (conditionLoop test body) := by
  refine inStep_bind (inStep_statement "control_repeat_until") ?_
  rintro i _ rfl
  refine inStep_bind ht.condition ?_
  rintro c _ rfl
  refine inStep_then (inStep_plugCondition i (by decide) c) ?_
  exact inStep_then (inStep_plugBody i (by decide) h) (inStep_setPrevious (some i))

theorem steady_branch {test : Meaning} (ht : test.Steady P k) (h : ∀ s ∈ body, Steady P k s)
    (h' : ∀ s ∈ orelse, Steady P k s) : Steady P k (branch test body orelse) := by
  refine inStep_bind ht.condition ?_
  rintro c _ rfl
  refine inStep_bind (inStep_statement "control_if") ?_
  rintro i _ rfl
  refine inStep_then (inStep_plugCondition i (by decide) c) ?_
  refine inStep_then (inStep_plugBody i (by decide) h) ?_
  split
  · exact inStep_setPrevious (some i)
  · refine inStep_then (inStep_update i fun _ _ hb => { hb with opcode := rfl }) ?_
    exact inStep_then (inStep_plugBody i (by decide) h') (inStep_setPrevious (some i))

/-! ### Procedures and scripts -/

theorem inStep_freshFor (names : List String) :
    InStep P k (fun ids ids' => ids' = ids.map (shift k)) (freshFor names) (freshFor names) := by
  induction names with
  | nil => exact inStep_pure rfl
  | cons name names ih =>
    refine inStep_bind inStep_fresh ?_
    rintro i _ rfl
    refine inStep_bind ih ?_
    rintro ids _ rfl
    exact inStep_pure rfl

theorem steady_announce (method : String) (params : Params) :
    Steady P k (announce method params) := by
  refine inStep_bind (inStep_freshFor (argumentNames params)) ?_
  rintro ids _ rfl
  refine inStep_modify fun w w' hw => { hw with procedures := ?_ }
  dsimp only
  rw [hw.procedures, Table.rename_id_set]
  rfl

theorem inStep_procedureHeader (method : String) (params : Params) :
    InStep P k (fun (p : Procedure) p' => p' = p.rename (shift k)) (procedureHeader method params)
      (procedureHeader method params) := by
  have hmake : InStep P k (fun (p : Procedure) p' => p' = p.rename (shift k))
      (do
        let ids ← freshFor (argumentNames params)
        pure
          { proccode := Procedure.codeOf (procedureName method) (argumentNames params)
            argumentIds := ids
            argumentNames := argumentNames params })
      (do
        let ids ← freshFor (argumentNames params)
        pure
          { proccode := Procedure.codeOf (procedureName method) (argumentNames params)
            argumentIds := ids
            argumentNames := argumentNames params }) := by
    refine inStep_bind (inStep_freshFor (argumentNames params)) ?_
    rintro ids _ rfl
    exact inStep_pure rfl
  refine inStep_bind inStep_get fun w w' hw => ?_
  rw [hw.procedures, Table.find?_rename_id]
  cases w.procedures.find? (procedureName method) with
  | none => exact hmake
  | some p =>
    have hdefinition : (p.rename (shift k)).definition.isNone = p.definition.isNone :=
      Option.isNone_map ..
    dsimp only [Option.map_some]
    rw [hdefinition]
    split
    · exact inStep_pure rfl
    · exact hmake

theorem inStep_prototypeInputs (prototype : Id) (pairs : List (String × Id)) :
    InStep P k (Table.Renamed (shift k) (Input.Renamed (shift k)))
      (prototypeInputs prototype pairs)
      (prototypeInputs (shift k prototype) (pairs.map fun p => (p.1, shift k p.2))) := by
  induction pairs with
  | nil => exact inStep_pure .nil
  | cons p pairs ih =>
    refine inStep_bind inStep_fresh ?_
    rintro i _ rfl
    refine inStep_then (inStep_put i ?_) ?_
    · exact
        { opcode := rfl
          next := rfl
          parent := rfl
          inputs := .nil
          fields := .cons ⟨rfl, Field.renamed_rename (.word p.1)⟩ .nil
          shadow := rfl
          topLevel := rfl
          position := rfl
          mutation := rfl }
    · exact inStep_bind ih fun inputs inputs' h => inStep_pure (.cons ⟨rfl, rfl⟩ h)

theorem steady_define (method : String) (params : Params) (h : ∀ s ∈ body, Steady P k s) :
    Steady P k (define method params body) := by
  have hcustom : "custom_block".length < 20 := by decide
  refine inStep_bind (inStep_procedureHeader method params) ?_
  rintro p _ rfl
  refine inStep_bind inStep_fresh ?_
  rintro d _ rfl
  refine inStep_bind inStep_fresh ?_
  rintro q _ rfl
  have hinputs := inStep_prototypeInputs (P := P) (k := k) q (p.argumentNames.zip p.argumentIds)
  rw [show (p.argumentNames.zip p.argumentIds).map (fun p => (p.1, shift k p.2)) =
    p.argumentNames.zip (p.argumentIds.map (shift k)) from (zip_map_right ..).symm] at hinputs
  refine inStep_bind hinputs fun inputs inputs' hinputs => ?_
  refine inStep_then (inStep_put q ?_) ?_
  · exact
      { opcode := rfl
        next := rfl
        parent := rfl
        inputs := hinputs
        fields := .nil
        shadow := rfl
        topLevel := rfl
        position := rfl
        mutation := rfl }
  refine inStep_bind inStep_get fun w w' hw => ?_
  have hcount : w'.procedures.length = w.procedures.length := by
    rw [hw.procedures]
    exact length_map ..
  rw [hcount]
  refine inStep_then (inStep_put d ?_) ?_
  · exact
      { opcode := rfl
        next := rfl
        parent := rfl
        inputs := .cons ⟨(shift_of_length_lt k hcustom).symm, rfl⟩ .nil
        fields := .nil
        shadow := rfl
        topLevel := rfl
        position := rfl
        mutation := rfl }
  refine inStep_then (inStep_modify fun v v' hv =>
    { hv with procedures := ?_, hat := rfl, previous := rfl, arguments := rfl }) ?_
  · dsimp only
    rw [hv.procedures, Table.rename_id_set]
    rfl
  refine inStep_then (steady_sequence h) ?_
  exact inStep_then (inStep_modify fun _ _ hv => { hv with arguments := rfl }) steady_endScript

theorem steady_startScript (hat : Hat) : Steady P k (startScript hat) := by
  have hcreate (opcode : String) := inStep_create (P := P) (k := k) opcode .hat .nil
  cases hat with
  | flag => exact inStep_bind (hcreate _) fun _ _ _ => inStep_pure rfl
  | clone => exact inStep_bind (hcreate _) fun _ _ _ => inStep_pure rfl
  | clicked => exact inStep_bind (hcreate _) fun _ _ _ => inStep_pure rfl
  | key name =>
    refine inStep_bind (hcreate _) ?_
    rintro i _ rfl
    exact inStep_setWord i _ name
  | backdrop name =>
    refine inStep_bind (hcreate _) ?_
    rintro i _ rfl
    exact inStep_setWord i _ name
  | message name =>
    refine inStep_bind (inStep_messageNamed name) ?_
    rintro n _ rfl
    refine inStep_bind (hcreate _) ?_
    rintro i _ rfl
    exact inStep_setField i _ (Field.renamed_rename (.named name n))
  | exceeds what limit =>
    refine inStep_bind (hcreate _) ?_
    rintro i _ rfl
    refine inStep_then (inStep_setWord i _ what) ?_
    exact inStep_setInput i (by decide) (Input.renamed_rename (.literal (.number limit)))

theorem steady_script (hat : Hat) (h : ∀ s ∈ body, Steady P k s) : Steady P k (script hat body) :=
  inStep_then (steady_startScript hat) (inStep_then (steady_sequence h) steady_endScript)

theorem steady_method (name : String) (params : Params) (h : ∀ s ∈ body, Steady P k s) :
    Steady P k (method name params body) := by
  rw [method]
  split
  · exact steady_script _ h
  · split
    · exact steady_define name params h
    · exact inStep_pure rfl

theorem steady_announceAll (members : List Stmt) : Steady P k (announceAll members) := by
  induction members with
  | nil => exact inStep_pure rfl
  | cons s rest ih =>
    cases s with
    | functionDef name params body trailer =>
      rw [announceAll]
      split
      · exact inStep_then (steady_announce name params) ih
      · exact ih
    | expr | assign | augAssign | forLoop | whileLoop | conditional | classDef | other => exact ih

theorem renamed_opened {w w' : Workspace} (h : w.Renamed P k w') (name : String) :
    w.opened.Renamed { P with sprite := some name } k w'.opened :=
  { h with
    blocks := .nil
    vars := rfl
    scopes := by
      change w'.scopes ++ [[]] = map _ (w.scopes ++ [[]])
      rw [h.scopes, map_append]
      rfl
    procedures := rfl
    arguments := rfl
    soundsUsed := rfl
    previous := rfl
    hat := rfl
    varsStart := forall_mem_nil _
    listsStart := forall_mem_append.2
      ⟨h.listsStart, forall_mem_singleton.2 (forall_mem_nil _)⟩ }

/-- After a sprite, the workspace at hand is the one before it, and what the variables of the sprite
start with is allowed for its class. -/
theorem renamed_closed {w w' v v' : Workspace} {name : String} (h : w.Renamed P k w')
    (hv : v.Renamed { P with sprite := some name } k v') (settings : Option SpriteSettings) :
    (w.closed v (v.draft name settings)).Renamed P k (w'.closed v' (v'.draft name settings)) := by
  have hscope : v'.scope = v.scope := by
    rw [Workspace.scope, Workspace.scope, hv.scopes, length_map]
  have hdraft : (v.draft name settings).Renamed (shift k) (v'.draft name settings) :=
    { name := rfl
      blocks := hv.blocks
      vars := hv.vars
      scope := hscope
      broadcasts := hv.broadcasts
      soundsUsed := hv.soundsUsed
      settings := rfl }
  exact
    { hv with
      blocks := h.blocks
      vars := h.vars
      previous := h.previous
      hat := h.hat
      procedures := h.procedures
      drafts := rel_append hv.drafts (.cons hdraft .nil)
      varsStart := h.varsStart
      draftsStart := forall_mem_append.2
        ⟨hv.draftsStart, forall_mem_singleton.2 hv.varsStart⟩ }

theorem steady_sprite (name : String) (settings : Option SpriteSettings)
    (members : List Stmt) {methods : List (Build Unit)}
    (h : ∀ s ∈ methods, Steady { P with sprite := some name } k s) :
    Steady P k (sprite name settings members methods) := by
  intro w w' hw
  refine Agree.bind (inStep_get w w' hw) fun saved saved' _ _ hsaved _ => ?_
  refine Agree.bind (Q := { P with sprite := some name }) (R := Eq)
    ⟨rfl, renamed_opened hsaved name⟩ fun _ _ v v' _ hv => ?_
  refine Agree.bind (steady_announceAll members v v' hv) fun _ _ v v' _ hv => ?_
  refine Agree.bind (steady_sequence h v v' hv) fun _ _ v v' _ hv => ?_
  exact ⟨rfl, renamed_closed hsaved hv settings⟩

end Build

namespace Program

variable {P : Allowance} {k : Nat}

mutual

/-- **The effect of a statement is in step with itself.** -/
theorem Stmt.visit_steady : ∀ (s : Stmt) (P : Allowance), Admits P (s.assignments P.sprite) →
    Steady P k s.visit
  | .expr e, _, _ => e.meaning_steady.effect
  | .assign targets value, _, h => by
    rw [Stmt.visit.eq_def]
    rw [Stmt.assignments.eq_def] at h
    dsimp only at h ⊢
    split
    · next n _ =>
      refine steady_assign n value.meaning_steady fun w o w₁ ho => ?_
      exact (value.initialOf_operand ho).imp_right (h ⟨_, n, value⟩ (mem_singleton_self _) _)
    · exact inStep_pure rfl
  | .augAssign target op value, _, _ => by
    rw [Stmt.visit.eq_def]
    dsimp only
    split
    · exact steady_change _ op value.meaning_steady
    · exact inStep_pure rfl
  | .forLoop _ iter body _, P, h => steady_repeatLoop iter.times_inStep (visits_steady body P h)
  | .whileLoop test body _, P, h => by
    rw [Stmt.visit.eq_def]
    dsimp only
    split
    · exact steady_foreverLoop (visits_steady body P h)
    · exact steady_conditionLoop test.meaning_steady (visits_steady body P h)
  | .conditional test body orelse, P, h =>
    steady_branch test.meaning_steady (visits_steady body P (admits_append.1 h).1)
      (visits_steady orelse P (admits_append.1 h).2)
  | .functionDef name params body trailer, P, h => by
    rw [Stmt.visit]
    split
    · exact steady_script .flag (visits_steady body P h)
    · have heffects (es : List Expr) : Steady P k ((meanings es).forM (·.effect)) :=
        steady_forM fun m hm => (meanings_steady es m hm).effect
      exact inStep_then (heffects _)
        (inStep_then (steady_sequence (visits_steady body P h)) (heffects trailer))
  | .classDef name decorators body, P, h =>
    steady_sprite name (spriteSettings? decorators) body
      (methods_steady body { P with sprite := some name } h)
  | .other parts, P, h => steady_sequence (visitParts_steady parts P h)

theorem visits_steady : ∀ (ss : List Stmt) (P : Allowance), Admits P (assignmentsIn ss P.sprite) →
    ∀ s ∈ visits ss, Steady P k s
  | [], _, _ => forall_mem_nil _
  | s :: ss, P, h => forall_mem_cons.2
      ⟨s.visit_steady P (admits_append.1 h).1, visits_steady ss P (admits_append.1 h).2⟩

theorem Stmt.visitMember_steady : ∀ (s : Stmt) (P : Allowance),
    Admits P (s.memberAssignments P.sprite) → Steady P k s.visitMember
  | .functionDef name params body _, P, h => steady_method name params (visits_steady body P h)
  | .expr _, _, _ | .assign _ _, _, _ | .augAssign _ _ _, _, _ | .forLoop _ _ _ _, _, _
  | .whileLoop _ _ _, _, _ | .conditional _ _ _, _, _ | .classDef _ _ _, _, _ | .other _, _, _ =>
    inStep_pure rfl

theorem methods_steady : ∀ (ss : List Stmt) (P : Allowance),
    Admits P (memberAssignments ss P.sprite) → ∀ s ∈ methods ss, Steady P k s
  | [], _, _ => forall_mem_nil _
  | s :: ss, P, h => forall_mem_cons.2
      ⟨s.visitMember_steady P (admits_append.1 h).1, methods_steady ss P (admits_append.1 h).2⟩

theorem Part.visit_steady : ∀ (p : Part) (P : Allowance), Admits P (p.assignments P.sprite) →
    Steady P k p.visit
  | .expr e, _, _ => e.meaning_steady.effect
  | .stmt s, P, h => s.visit_steady P h

theorem visitParts_steady : ∀ (ps : List Part) (P : Allowance),
    Admits P (partAssignments ps P.sprite) → ∀ s ∈ visitParts ps, Steady P k s
  | [], _, _ => forall_mem_nil _
  | p :: ps, P, h => forall_mem_cons.2
      ⟨p.visit_steady P (admits_append.1 h).1, visitParts_steady ps P (admits_append.1 h).2⟩

end

theorem Stmt.visitTop_steady (s : Stmt) (hsprite : P.sprite = none)
    (h : Admits P s.topAssignments) : Steady P k s.visitTop := by
  cases s with
  | classDef name decorators body => exact visit_steady _ P h
  | functionDef name params body trailer =>
    rw [visitTop]
    split
    · refine visit_steady _ P ?_
      rwa [hsprite]
    · exact inStep_pure rfl
  | expr | assign | augAssign | forLoop | whileLoop | conditional | other => exact inStep_pure rfl

end Program

/-! ### Programs -/

theorem Workspace.Renamed.targets {P : Allowance} {k : Nat} {w w' : Workspace} (h : w.Renamed P k w') :
    Forall₂ (Target.Renamed (Id.shift k)) w.targets w'.targets := by
  have hempty : w'.blocks.isEmpty = w.blocks.isEmpty := by
    have hblocks := h.blocks
    generalize w.blocks = t, w'.blocks = t' at hblocks
    cases hblocks <;> rfl
  have hdefault : w.defaultTarget.Renamed (Id.shift k) w'.defaultTarget :=
    { name := rfl
      blocks := h.blocks
      vars := h.vars
      lists := h.lists
      broadcasts := h.broadcasts
      soundsUsed := rfl
      settings := rfl }
  have hdrafts : Forall₂ (Target.Renamed (Id.shift k)) (w.drafts.map w.target)
      (w'.drafts.map w'.target) := by
    refine forall₂_map_left_iff.2 (forall₂_map_right_iff.2 (h.drafts.imp fun d d' hd => ?_))
    exact
      { name := hd.name
        blocks := hd.blocks
        vars := hd.vars
        lists := by
          change w'.listsOf d'.scope = (w.listsOf d.scope).map _
          rw [listsOf, listsOf, h.scopes, hd.scope, getElem?_map]
          cases w.scopes[d.scope]? <;> rfl
        broadcasts := hd.broadcasts
        soundsUsed := congrArg some hd.soundsUsed
        settings := hd.settings }
  rw [Workspace.targets, Workspace.targets, hempty]
  split
  · exact hdrafts
  · exact .cons hdefault hdrafts

/-- The class of a target. The target of the code outside of all classes does not know its
sounds. -/
def Target.class? (t : Target) : Option String := t.soundsUsed.map fun _ => t.name

/-- The target's lists start empty, and its variables with what is allowed for its class. -/
structure Target.Starts (P : Allowance) (t : Target) : Prop where
  lists : ∀ l ∈ t.lists, l.items = .list []
  vars : ∀ v ∈ t.vars, P.Allows t.class? v

theorem Workspace.Renamed.starts {P : Allowance} {k : Nat} {w w' : Workspace}
    (h : w.Renamed P k w') (hsprite : P.sprite = none) : ∀ t ∈ w.targets, t.Starts P := by
  have hdefault : w.defaultTarget.Starts P := by
    refine ⟨fun l hl => ?_, fun v hv => ?_⟩
    · obtain ⟨ls, hls, hmem⟩ := exists_mem_scopes hl
      exact h.listsStart ls hls l hmem
    · have hallows := h.varsStart v hv
      rwa [hsprite] at hallows
  have hdrafts : ∀ t ∈ w.drafts.map w.target, t.Starts P := by
    rw [forall_mem_map]
    refine fun d hd => ⟨fun l hl => ?_, h.draftsStart d hd⟩
    change l ∈ w.listsOf d.scope at hl
    rw [listsOf] at hl
    cases hscope : w.scopes[d.scope]? with
    | none =>
      rw [hscope] at hl
      cases hl
    | some ls =>
      rw [hscope] at hl
      exact h.listsStart ls (mem_of_getElem? hscope) l hl
  rw [Workspace.targets]
  split
  · exact hdrafts
  · exact forall_mem_cons.2 ⟨hdefault, hdrafts⟩

namespace Build

variable {P : Allowance}

/-- Two runs of the compiler are in step, however many identifiers one of them has issued more, and
the data of the result start as the code says. -/
theorem agree_compile {source : String} (k : Nat) {w w' : Workspace}
    (hissued : w'.issued = w.issued + k) (hsprite : P.sprite = none)
    (hsource : ∀ p, parse source = .ok p → Admits P (assignments p)) :
    Agree P k (fun c c' => c.Renamed (shift k) c' ∧ ∀ t ∈ c.targets, t.Starts P)
      ((compile source).run w) ((compile source).run w') := by
  have hempty : Workspace.Renamed P k { issued := w.issued } { issued := w'.issued } :=
    { issued := hissued
      blocks := .nil
      previous := rfl
      hat := rfl
      vars := rfl
      scopes := rfl
      broadcasts := rfl
      procedures := rfl
      arguments := rfl
      soundsUsed := rfl
      drafts := .nil
      varsStart := forall_mem_nil _
      listsStart := forall_mem_singleton.2 (forall_mem_nil _)
      draftsStart := forall_mem_nil _ }
  have hrest : InStep P k
      (fun (c : Compilation) c' => c.Renamed (shift k) c' ∧ ∀ t ∈ c.targets, t.Starts P)
      (do
        let program ← lift (parse source)
        program.forM (·.visitTop)
        let v ← get
        pure { targets := v.targets, stage := stageSettings? program })
      (do
        let program ← lift (parse source)
        program.forM (·.visitTop)
        let v ← get
        pure { targets := v.targets, stage := stageSettings? program }) := by
    have hparse := inStep_and (P := P) (k := k) (inStep_lift (parse source))
      fun w p w₁ h => (run_lift_eq_ok h).1
    refine inStep_bind hparse ?_
    rintro program _ ⟨rfl, hprogram⟩
    refine inStep_then (steady_forM fun s hs => s.visitTop_steady hsprite fun a ha => ?_) ?_
    · exact hsource program hprogram a (mem_flatMap.2 ⟨s, hs, ha⟩)
    exact inStep_bind inStep_get fun v v' hv => inStep_pure ⟨⟨hv.targets, rfl⟩, hv.starts hsprite⟩
  exact hrest _ _ hempty

/-- The workspace after some programs were compiled in it, one after the other, whether or not they
compiled. -/
def after (history : List String) : Workspace :=
  history.foldl (fun w source => ((compile source).run w).2) {}

/-- **Compilation does not depend on what was compiled before.** After any history, the result is the
one without a history with other identifiers: one number is added to all of them, which keeps
different ones apart. A program that fails without a history fails after it for the same reason. -/
theorem compile_after_history (history : List String) (source : String) :
    Function.Injective (Id.shift (after history).issued) ∧
      match ((compile source).run {}).1, ((compile source).run (after history)).1 with
      | .ok c, .ok c' => c.Renamed (Id.shift (after history).issued) c'
      | .error e, .error e' => e.Renamed (Id.shift (after history).issued) e'
      | _, _ => False := by
  refine ⟨Id.shift_injective _, ?_⟩
  have hissued : (after history).issued = ({} : Workspace).issued + (after history).issued :=
    (Nat.zero_add _).symm
  have h := agree_compile (P := ⟨fun _ _ _ => True, none⟩) (after history).issued hissued rfl
    fun p (_ : Program.parse source = .ok p) _ _ _ _ => trivial
  generalize (compile source).run {} = r, (compile source).run (after history) = r' at h ⊢
  rcases r with ⟨e | c, v⟩ <;> rcases r' with ⟨e' | c', v'⟩
  · exact h
  · exact h
  · exact h
  · exact h.1.1

end Build

end BlockScript
