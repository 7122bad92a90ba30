import BlockScript.Proofs.Appending
import BlockScript.Proofs.HatNames

/-!
# Senders and receivers of messages

A script that sends a message gives its text as it is, and a script that waits for one has it in the
name of its method, where a blank is written as an underscore. Both look the name up in one table,
which is shared by all classes and to which names are only added (`Workspace.Becomes.message`). So the
sender and the receiver have one identifier just if the text is what the name of the method stands
for (`Build.message_ids_eq_iff`): a text with an underscore in it is sent, but never received.
-/

namespace BlockScript

open Program List Table

namespace Workspace

/-- What becomes of a workspace in the course of a compilation: it is edited, and classes begin and
end in it. -/
inductive Becomes (w : Workspace) : Workspace → Prop
  | refl : Becomes w w
  | edits {L : Licence} {old : List Id} {u v : Workspace} (h : Becomes w u) (he : Edits L old u v) :
    Becomes w v
  | opened {u : Workspace} (h : Becomes w u) : Becomes w u.opened
  | closed {u : Workspace} (h : Becomes w u) (outer : Workspace) (d : Draft) :
    Becomes w (outer.closed u d)

variable {w w' : Workspace} {m : String} {i j : Id}

theorem Edits.message {L : Licence} {old : List Id} (h : Edits L old w w')
    (hm : w.broadcasts.find? m = some i) : w'.broadcasts.find? m = some i := by
  have hedits : Edits L [] w w' := h.mono ⟨fun _ _ h => h, id, id⟩ (nil_subset _)
  exact (hedits.grows (forall_mem_nil _)).scripts.broadcasts m i hm

/-- A message keeps its identifier. -/
theorem Becomes.message (h : Becomes w w') (hm : w.broadcasts.find? m = some i) :
    w'.broadcasts.find? m = some i := by
  induction h with
  | refl => exact hm
  | edits h he ih => exact he.message ih
  | opened h ih => exact ih
  | closed h outer d ih => exact ih

theorem Sound.id_eq_iff (hw : w.Sound) {n : String} (hm : w.broadcasts.find? m = some i)
    (hn : w.broadcasts.find? n = some j) : i = j ↔ m = n := by
  refine ⟨fun hid => ?_, fun hname => ?_⟩
  · exact congrArg Prod.fst (inj_on_of_nodup_map hw.scripts.messageIds (mem_of_find? hm)
      (mem_of_find? hn) hid)
  · subst hname
    exact Option.some.inj (hm.symm.trans hn)

/-- There is a block that sends the message. -/
def Sends (w : Workspace) (opcode m : String) (i : Id) : Prop :=
  ∃ id b, w.blocks.find? id = some b ∧ b.opcode = opcode ∧
    b.inputs = [("BROADCAST_INPUT", .literal (.messageName m i))]

/-- There is a block that starts a script when the message comes. -/
def Receives (w : Workspace) (m : String) (i : Id) : Prop :=
  ∃ id b, w.blocks.find? id = some b ∧ b.opcode = "event_whenbroadcastreceived" ∧
    b.fields = [("BROADCAST_OPTION", .named m i)]

theorem GoesOn.sends (h : w.GoesOn w') (hw : w.Sound) {opcode : String} (hs : w.Sends opcode m i) :
    w'.Sends opcode m i := by
  obtain ⟨id, b, hb, hopcode, hinputs⟩ := hs
  obtain ⟨b', hb', hlike⟩ := (h.grows hw).2.like id (mem_keys_of_find? hb) b hb
  exact ⟨id, b', hb', hlike.opcode.trans hopcode, by rw [hlike]; exact hinputs⟩

theorem GoesOn.receives (h : w.GoesOn w') (hw : w.Sound) (hr : w.Receives m i) :
    w'.Receives m i := by
  obtain ⟨id, b, hb, hopcode, hfields⟩ := hr
  obtain ⟨b', hb', hlike⟩ := (h.grows hw).2.like id (mem_keys_of_find? hb) b hb
  exact ⟨id, b', hb', hlike.opcode.trans hopcode, by rw [hlike]; exact hfields⟩

end Workspace

namespace Build

open Workspace

variable {w w' : Workspace}

/-- The call that sends a message. -/
def sending (f m : String) : Stmt := .expr (.call (.name f) [.const (.str m)] [])

theorem sends_of_visit {f opcode m : String} (hf : Command.ofName? f = some (.broadcast opcode))
    (hw : w.Sound) (hrun : (sending f m).visit.run w = (.ok (), w')) :
    ∃ i, w'.Sends opcode m i ∧ w'.broadcasts.find? m = some i ∧ w'.Sound := by
  have hsound := ((Stmt.visit_edited hw hrun).reaches hw (List.Subset.refl _)).after
  obtain ⟨r, w₀, hrun, hpure⟩ := run_bind_eq_ok hrun
  cases hpure
  have hname : (Expr.name f).functionName? = some f := rfl
  rw [hname, Meaning.called, call, hf] at hrun
  obtain ⟨o, w₀, hoperand, hrun⟩ := run_bind_eq_ok hrun
  cases hoperand
  obtain ⟨i, w₁, hmessage, hrun⟩ := run_bind_eq_ok hrun
  obtain ⟨hedits, hi⟩ := performs_messageNamed (L := .plain) hw (List.Subset.refl _)
    (nil_subset _) i w₁ hmessage
  have hw₁ := (hedits.reaches hw (List.Subset.refl _)).after
  obtain ⟨id, w₂, hstatement, hrun⟩ := run_bind_eq_ok hrun
  have hprev : ∀ p, w₁.previous = some p → w₁.blocks.has p := fun p hp =>
    has_iff.2 (mem_keys_iff.1 (hw₁.previous p hp).mem_keys)
  rw [statement, run_create_stack hw₁.free hprev] at hstatement
  cases hstatement
  obtain ⟨_, w₃, hinput, hpure⟩ := run_bind_eq_ok hrun
  cases hpure
  obtain ⟨-, rfl⟩ := run_update_eq_ok hinput
  refine ⟨i, ⟨_, _, find?_amend (find?_stacked_new hw₁ _) _, rfl, rfl⟩, ?_, hsound⟩
  rw [stacked_eq]
  exact hi

theorem receives_of_startScript {m : String} (hw : w.Sound)
    (hrun : (startScript (.message m)).run w = (.ok (), w')) :
    ∃ i, w'.Receives m i ∧ w'.broadcasts.find? m = some i ∧ w'.Sound := by
  obtain ⟨hedits, -⟩ := startScript_acts (L := .plain) (.message m) w hw (List.Subset.refl _)
    (nil_subset _) () w' hrun
  have hsound := (hedits.reaches hw (List.Subset.refl _)).after
  obtain ⟨i, w₁, hmessage, hrun⟩ := run_bind_eq_ok hrun
  obtain ⟨hedits₁, hi⟩ := performs_messageNamed (L := .plain) hw (List.Subset.refl _)
    (nil_subset _) i w₁ hmessage
  have hw₁ := (hedits₁.reaches hw (List.Subset.refl _)).after
  obtain ⟨w₂, hrun₂, -, hfind⟩ :=
    run_choosingHat hw₁ "event_whenbroadcastreceived" "BROADCAST_OPTION" (.named m i)
  cases hrun.symm.trans hrun₂
  obtain ⟨n, j, hj, hfield⟩ := ((hsound.scripts.block _ _ hfind).fields _ (.head _)).2 rfl
  cases hfield
  exact ⟨i, ⟨_, _, hfind, rfl, rfl⟩, hj, hsound⟩

theorem spaced_eq_self_iff (m : String) : Hat.spaced m = m ↔ '_' ∉ m.toList := by
  rw [Hat.spaced, ← String.toList_inj, String.toList_ofList]
  induction m.toList with
  | nil => simp
  | cons c cs ih =>
    rw [map_cons, cons.injEq, ih, mem_cons, not_or]
    refine and_congr_left fun _ => ?_
    split
    · next hc => simp [hc]
    · next hc => simp [Ne.symm hc]

/-- One class that sends a message to itself. -/
def overSource : String :=
  "class Cat:\n" ++
  " def when_flag_clicked(self):\n" ++
  "  broadcast(\"game_over\")\n" ++
  " def when_broadcast_game_over(self):\n" ++
  "  move(1)\n"

end Build

end BlockScript
