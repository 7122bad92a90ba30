import BlockScript.Proofs.Evaluation
import BlockScript.Proofs.Uses

/-!
# Variables in inputs

A variable in an input is a block of its own, and hangs under the block that it is plugged into
(`Build.plug_name_parent`). The count of a loop is made before the loop and is plugged in without
its block, so a variable that a loop counts with hangs under nothing
(`Program.Stmt.forLoop_count_parent`).
-/

namespace BlockScript

open Workspace Build

namespace Build

variable {L : Licence} {held : List Id} {w w' : Workspace} {steps : List (Build Unit)} {x : String}

/-- A variable that is plugged in hangs under the given block, or under nothing if there is none. -/
theorem plug_name_parent {parent : Option Id} {i : Input}
    (hrun : (plug (.name x) parent).run w = (.ok i, w')) :
    ∃ r c, i = .reporter (some r) coveredNumber ∧ w'.blocks.find? r = some c ∧
      c.opcode = "data_variable" ∧ c.parent = parent := by
  obtain ⟨r, w₁, hread, hrun⟩ := run_bind_eq_ok hrun
  have hmade : ∃ c, w₁.blocks.find? r = some c ∧ c.opcode = "data_variable" ∧ c.parent = none := by
    obtain ⟨v, w₂, -, hread⟩ := run_bind_eq_ok hread
    cases hread
    exact ⟨_, Table.find?_set_self _ _ _, rfl, rfl⟩
  obtain ⟨c, hc, hopcode, hnone⟩ := hmade
  cases parent with
  | none =>
    cases hrun
    exact ⟨r, c, rfl, hc, hopcode, hnone⟩
  | some p =>
    obtain ⟨_, w₂, hhang, hrun⟩ := run_bind_eq_ok hrun
    cases hrun
    obtain ⟨-, rfl⟩ := run_update_eq_ok hhang
    exact ⟨r, _, rfl, find?_amend hc _, hopcode, rfl⟩

/-- A new statement changes other blocks only where it is linked to them. -/
theorem find?_create {opcode : String} {inputs : Table Input} {id r : Id} {c : Block}
    (hw : w.Sound) (hrun : (create opcode .stack inputs).run w = (.ok id, w'))
    (hc : w.blocks.find? r = some c) : ∃ n, w'.blocks.find? r = some { c with next := n } := by
  have hprev : ∀ p, w.previous = some p → w.blocks.has p := fun p hp =>
    Table.has_iff.2 (Table.mem_keys_iff.1 (hw.previous p hp).mem_keys)
  rw [run_create_stack hw.free hprev] at hrun
  cases hrun
  have hmem := Table.mem_keys_of_find? hc
  obtain ⟨n, hn, -⟩ := (preserves_linked (hw.not_mem_keys (Nat.lt_succ_self _))).kept r hmem c hc
  have hblocks := congrArg Scripts.blocks (scripts_stacked w { opcode, inputs })
  exact ⟨n, (congrArg (Table.find? · r) hblocks).trans (Table.find?_append_of_find? hn)⟩

/-- The count of a loop is plugged in before there is a loop that it could hang under. -/
theorem repeatLoop_count_parent (hw : w.Sound) (hsteps : ∀ s ∈ steps, s.Acts L)
    (hrun : (repeatLoop (pure (.name x)) steps).run w = (.ok (), w')) :
    ∃ id b r c, w'.previous = some id ∧ w'.blocks.find? id = some b ∧
      b.opcode = "control_repeat" ∧
      b.inputs.find? "TIMES" = some (.reporter (some r) coveredNumber) ∧
      w'.blocks.find? r = some c ∧ c.opcode = "data_variable" ∧ c.parent = none := by
  have hopcode : isAction "control_repeat" := by decide
  have hbody : "SUBSTACK" ∈ bodyInputs := by decide
  have htimes : "TIMES" ∉ bodyInputs := by decide
  rw [repeatLoop, run_bind_of_ok (run_pure _ w)] at hrun
  obtain ⟨i, w₁, hplug, hrun⟩ := run_bind_eq_ok hrun
  obtain ⟨r, c, rfl, hc, hvariable, hloose⟩ := plug_name_parent hplug
  obtain ⟨h₁, hready⟩ := performs_plug (L := L) (o := .name x) trivial (.refl _)
    (List.nil_subset _) (fun p hp => by cases hp) hw (.refl _) (List.nil_subset _) _ w₁ hplug
  have hw₁ := (h₁.reaches hw (.refl _)).after
  obtain ⟨id, w₂, hcreate, hrun⟩ := run_bind_eq_ok hrun
  have hinputs : ∀ p ∈ [("TIMES", Input.reporter (some r) coveredNumber)],
      p.1 ∉ bodyInputs ∧ p.2.Ready w₁.scripts w.blocks.keys :=
    List.forall_mem_singleton.2 ⟨htimes, hready⟩
  obtain ⟨h₂, howns, hp⟩ := performs_create (L := L) hopcode rfl
    (fun hc => by cases hc) hinputs hw₁ (h₁.reaches hw (.refl _)).keys.subset
    (List.nil_subset _) id w₂ hcreate
  have hw₂ := (h₂.reaches hw₁ (h₁.reaches hw (.refl _)).keys.subset).after
  obtain ⟨n, hc₂⟩ := find?_create hw₁ hcreate hc
  obtain ⟨⟨b, hb, hlike⟩, -⟩ := run_create_at hw₁ hcreate
  obtain ⟨_, w₃, hplugBody, hrun⟩ := run_bind_eq_ok hrun
  cases hrun
  obtain ⟨b', hb', hopcode', hinput⟩ :=
    (plugBody_spares (show "TIMES" ≠ "SUBSTACK" by decide) howns.mem_keys hsteps hw₂
      hplugBody).block b hb
  have hkeys := (h₂.reaches hw₁ (h₁.reaches hw (.refl _)).keys.subset).keys.subset
  obtain ⟨h₃, -⟩ := performs_plugBody hbody howns hopcode hkeys (howns.previous hp) hsteps
    hw₂ hkeys (List.Subset.refl w₁.blocks.keys) _ w₃ hplugBody
  obtain ⟨m, hc₃, -⟩ := h₃.preserves.kept r (Table.mem_keys_of_find? hc) _ hc₂
  exact ⟨id, b', r, _, rfl, hb', hopcode'.trans hlike.opcode, by rw [hinput, hlike]; rfl, hc₃,
    hvariable, hloose⟩

end Build

namespace Program

/-- **A loop does not hold its count.** Whatever a loop over `range` of a variable does in its body,
it ends with a block that refers to the variable's block, which hangs under nothing. -/
theorem Stmt.forLoop_count_parent {w w' : Workspace} (hw : w.Reachable) {target : Expr} {x : String}
    {body orelse : List Stmt}
    (hrun : (Stmt.forLoop target (.call (.name "range") [.name x] []) body orelse).visit.run w =
      (.ok (), w')) :
    ∃ id b r c, w'.previous = some id ∧ w'.blocks.find? id = some b ∧
      b.opcode = "control_repeat" ∧
      b.inputs.find? "TIMES" = some (.reporter (some r) coveredNumber) ∧
      w'.blocks.find? r = some c ∧ c.opcode = "data_variable" ∧ c.parent = none := by
  -- what the statements of the body may do does not matter here
  let L : Licence := ⟨fun _ _ => True, True, False⟩
  exact repeatLoop_count_parent (L := L) hw.sound
    (visits_act id body (fun _ _ => trivial) fun _ => trivial) hrun

/-- `for i in range(x): move(1)`. -/
def countedMoves : Stmt :=
  .forLoop (.name "i") (.call (.name "range") [.name "x"] [])
    [.expr (.call (.name "move") [.const (.int 1)] [])] []

theorem forLoop_count_parent_countedMoves : ∃ w' : Workspace,
    countedMoves.visit.run { issued := 0 } = (.ok (), w') ∧
      ∃ id b r c, w'.blocks.find? id = some b ∧ b.inputs.find? "TIMES" =
        some (.reporter (some r) coveredNumber) ∧ w'.blocks.find? r = some c ∧
        c.parent ≠ some id := by
  have hok : (countedMoves.visit.run { issued := 0 }).1.isOk = true := by decide +kernel
  obtain ⟨_, w', hrun⟩ := exists_of_isOk hok
  obtain ⟨id, b, r, c, -, hb, -, hinput, hc, -, hparent⟩ :=
    Stmt.forLoop_count_parent (.start 0) hrun
  exact ⟨w', hrun, id, b, r, c, hb, hinput, hc, by rw [hparent]; rintro ⟨⟩⟩

end Program

end BlockScript
