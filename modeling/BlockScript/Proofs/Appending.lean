import BlockScript.Proofs.Evaluation

/-!
# Statements only add blocks

The blocks that are there before a statement are held while it is compiled, so what every statement
does to them is known from the edits that it performs (`Program.Stmt.visit_acts`). They keep
everything but, where the script stands, the block below (`Program.Stmt.visit_only_adds`). No script
is open before a member of a class, so members do not touch each other's blocks at all.
-/

namespace BlockScript

open Workspace Build

/-- Sprites that are finished stay as they are. -/
theorem Workspace.Edits.drafts {L : Licence} {old : List Id} {w w' : Workspace}
    (h : Edits L old w w') : w.drafts <+: w'.drafts := by
  induction h with
  | refl | issue | note | turn | declare | addList | addMessage | push | hang | amend | announce
  | define => exact List.prefix_refl _
  | trans h h' ih ih' => exact ih.trans ih'
  | @stack _ _ w b hb hopcode =>
    exact congrArg Workspace.drafts (stacked_eq w b) ▸ List.prefix_refl w.drafts
  | call hcall hp hargs hkeys hinputs ih =>
    rw [stacked_eq] at ih
    exact ih
  | sprite name settings hnests h hdefined ih => exact ih.trans (List.prefix_append _ _)

namespace Program

variable {w w' : Workspace}

/-- A method ends its script. -/
theorem previous_visitMember {m : Stmt} (hw : w.Sound) (hp : w.previous = none)
    (hrun : m.visitMember.run w = (.ok (), w')) : w'.previous = none := by
  have hends : ∀ {α : Type} {n : Build α} {v : Workspace},
      (n >>= fun _ => endScript).run v = (.ok (), w') → w'.previous = none := by
    intro α n v hrun
    obtain ⟨_, _, -, hend⟩ := run_bind_eq_ok hrun
    cases hend
    rfl
  unfold Stmt.visitMember method at hrun
  split at hrun
  · next name params body trailer =>
    split at hrun
    · obtain ⟨_, _, -, hrun⟩ := run_bind_eq_ok hrun
      exact hends hrun
    · split at hrun
      · obtain ⟨p, v, y, -, heq⟩ := run_define hw.keys name params (visits body)
        obtain ⟨_, _, -, hrun⟩ := run_bind_eq_ok (heq.symm.trans hrun)
        exact hends hrun
      · cases hrun
        exact hp
  · cases hrun
    exact hp

theorem previous_announceAll {members : List Stmt}
    (hrun : (announceAll members).run w = (.ok (), w')) : w'.previous = w.previous := by
  induction members generalizing w with
  | nil =>
    cases hrun
    rfl
  | cons s members ih =>
    unfold announceAll at hrun
    split at hrun
    · next heq => cases heq
    · next heq =>
      cases heq
      split at hrun
      · rw [run_bind_of_ok (run_announce _ _ w)] at hrun
        exact ih (w := w.announced _ _) hrun
      · exact ih hrun
    · next heq =>
      cases heq
      exact ih hrun

/-- A member of a class preserves all blocks. -/
theorem visitMember_preserves (hw : w.Sound) {m : Stmt}
    (hrun : m.visitMember.run w = (.ok (), w')) : w'.Sound ∧ Preserves w.blocks.keys w w' := by
  have hdefines := Stmt.visitMember_defines (L := licence [m]) id m
    (fun c hc => List.mem_append_left _ hc) fun _ => trivial
  obtain ⟨hedits, -⟩ :=
    hdefines w hw (.refl _) (.refl _) _ w' hrun
  exact ⟨(hedits.reaches hw (.refl _)).after, hedits.preserves⟩

/-- Before each member of a class the workspace is sound, and no script is open. -/
theorem sound_members (hw : w.Sound) (hp : w.previous = none) {before : List Stmt}
    (hrun : (Build.sequence (methods before)).run w = (.ok (), w')) :
    w'.Sound ∧ w'.previous = none := by
  induction before generalizing w with
  | nil =>
    cases hrun
    exact ⟨hw, hp⟩
  | cons s before ih =>
    obtain ⟨_, v, hs, hrun⟩ := run_bind_eq_ok hrun
    exact ih (visitMember_preserves hw hs).1 (previous_visitMember hw hp hs) hrun

theorem Stmt.visit_edited (hw : w.Sound) {s : Stmt} (hrun : s.visit.run w = (.ok (), w')) :
    Edited (licence [s]) w.blocks.keys w.blocks.keys w w' := by
  have hacts := visit_acts (L := licence [s]) id s
    (fun c hc => List.mem_append_left _ hc) fun _ => trivial
  exact (hacts w hw (.refl _) (.refl _) () w' hrun).1

/-- **A statement only adds blocks.** Whatever statement is compiled in a workspace in the course of
a compilation, each block that was there is still there, and is what it was; only the block where the
script stood may have another one below it, which is new. Finished sprites stay as well. While a class
is compiled no script is open between two members, so a member leaves the blocks of those before it as
they are, and what it adds does not refer to them. -/
theorem Stmt.visit_only_adds {w : Workspace} (hw : w.Reachable) :
    (∀ (s : Stmt) (w' : Workspace), s.visit.run w = (.ok (), w') →
      w.drafts <+: w'.drafts ∧
      ∀ id b, w.blocks.find? id = some b → ∃ n, w'.blocks.find? id = some { b with next := n } ∧
        (n = b.next ∨ w.previous = some id ∧
          ∃ r ∈ w'.blocks.keys, r ∉ w.blocks.keys ∧ n = some r)) ∧
      ∀ (members before : List Stmt) (m : Stmt) (w₁ w₂ : Workspace),
        (do announceAll members; Build.sequence (methods before) : Build Unit).run w.opened =
          (.ok (), w₁) → m.visitMember.run w₁ = (.ok (), w₂) →
        (∀ id b, w₁.blocks.find? id = some b → w₂.blocks.find? id = some b) ∧
          ∀ id b, w₂.blocks.find? id = some b → id ∉ w₁.blocks.keys →
            ∀ r ∈ b.refs ++ b.parent.toList, r ∉ w₁.blocks.keys := by
  refine ⟨fun s w' hrun => ?_, fun members before m w₁ w₂ hbefore hrun => ?_⟩
  · have hedits := Stmt.visit_edited hw.sound hrun
    have hsound := (hedits.reaches hw.sound (.refl _)).after
    refine ⟨hedits.edits.drafts, fun id b hb => ?_⟩
    obtain ⟨n, hn, rfl | ⟨hp, r, rfl, hr⟩⟩ :=
      hedits.preserves.kept id (Table.mem_keys_of_find? hb) b hb
    · exact ⟨_, hn, .inl rfl⟩
    · obtain ⟨-, hstatement, -⟩ := (hsound.scripts.block id _ hn).next r rfl
      exact ⟨_, hn, .inr ⟨hp, r, hstatement.mem_keys, hr, rfl⟩⟩
  · obtain ⟨_, v, hannounce, hbefore⟩ := run_bind_eq_ok hbefore
    obtain ⟨hannounced, -⟩ := announceAll_edits (L := .plain) rfl hannounce
    have hv := (hannounced.reaches hw.sound.opened (List.nil_subset _)).after
    obtain ⟨h₁, hp₁⟩ := sound_members hv (previous_announceAll hannounce) hbefore
    obtain ⟨-, h⟩ := visitMember_preserves h₁ hrun
    have hclosed : ∀ id, w₁.previous ≠ some id := fun id hp => by
      rw [hp₁] at hp
      cases hp
    refine ⟨fun id b hb => ?_, fun id b hb hid r hr hmem => ?_⟩
    · obtain ⟨n, hn, rfl | ⟨hp, -⟩⟩ := h.kept id (Table.mem_keys_of_find? hb) b hb
      · exact hn
      · exact absurd hp (hclosed id)
    · rcases List.mem_append.1 hr with hr | hr
      · obtain ⟨a, ha, -⟩ := h.refs id b hb r hr hmem
        exact hid (Table.mem_keys_of_find? ha)
      · rcases h.parent id b hb r hmem (Option.mem_toList.1 hr) with hp | ⟨a, ha, -⟩
        · exact hclosed r hp
        · exact hid (Table.mem_keys_of_find? ha)

/-- `x = 1`. -/
def startsCount : Stmt := .assign [.name "x"] (.const (.int 1))

/-- `when_flag_clicked`, in which `x` is set. -/
def startsScript : Stmt := .functionDef "when_flag_clicked" ⟨["self"], []⟩ [startsCount] []

/-- A second assignment in a row leaves the block of the first as it was, but for the block below.
Of two scripts of a class, the second leaves the blocks of the first alone. -/
theorem visit_only_adds_startsCount :
    (∃ w w' : Workspace, startsCount.visit.run { issued := 0 } = (.ok (), w) ∧ w.blocks ≠ [] ∧
      startsCount.visit.run w = (.ok (), w') ∧
      ∀ id b, w.blocks.find? id = some b → ∃ n, w'.blocks.find? id = some { b with next := n }) ∧
    ∃ w₁ w₂ : Workspace,
      (do announceAll []; Build.sequence (methods [startsScript]) : Build Unit).run
        (Workspace.opened { issued := 0 }) = (.ok (), w₁) ∧ w₁.blocks ≠ [] ∧
      startsScript.visitMember.run w₁ = (.ok (), w₂) ∧
      ∀ id b, w₁.blocks.find? id = some b → w₂.blocks.find? id = some b := by
  -- both steps of each run end well, and the first one makes blocks
  have hruns : ∀ (m m' : Build Unit) (v : Workspace),
      ((do m; m' : Build Unit).run v).1.toBool = true → (m.run v).2.blocks.isEmpty = false →
      ∃ w w', m.run v = (.ok (), w) ∧ w.blocks ≠ [] ∧ m'.run w = (.ok (), w') := by
    intro m m' v hok hblocks
    generalize hrun : (do m; m' : Build Unit).run v = x at hok
    obtain ⟨_ | _, w'⟩ := x
    · cases hok
    · obtain ⟨_, w, hfirst, hsecond⟩ := run_bind_eq_ok hrun
      refine ⟨w, w', hfirst, fun hempty => ?_, hsecond⟩
      rw [hfirst, hempty] at hblocks
      cases hblocks
  constructor
  · obtain ⟨w, w', hfirst, hblocks, hsecond⟩ := hruns startsCount.visit startsCount.visit
      { issued := 0 } (by decide +kernel) (by decide +kernel)
    have hedits := (Stmt.visit_edited (Reachable.start 0).sound hfirst).edits
    have hw : w.Reachable := (Reachable.start 0).edits (.refl _) hedits
    refine ⟨w, w', hfirst, hblocks, hsecond, fun id b hb => ?_⟩
    obtain ⟨n, hn, -⟩ := ((Stmt.visit_only_adds hw).1 _ _ hsecond).2 id b hb
    exact ⟨n, hn⟩
  · obtain ⟨w₁, w₂, hfirst, hblocks, hsecond⟩ := hruns
      (do announceAll []; Build.sequence (methods [startsScript])) startsScript.visitMember
      (Workspace.opened { issued := 0 }) (by decide +kernel) (by decide +kernel)
    have hadds := (Stmt.visit_only_adds (.start 0)).2 [] [startsScript] startsScript w₁ w₂
    exact ⟨w₁, w₂, hfirst, hblocks, hsecond, (hadds hfirst hsecond).1⟩

end Program

end BlockScript
