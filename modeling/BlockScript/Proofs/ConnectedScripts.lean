import BlockScript.Proofs.Bodies
import BlockScript.Proofs.SpriteEdits

/-!
# Connected scripts

A method of a class starts with a block that stands on its own, a hat or the definition of a
procedure, and its statements go on below that block. So if they go on below each other, every
statement of the method can be reached from there, and `Workspace.Settled` holds between any two
methods of a sprite (`Build.Connects`).

A class is compiled in a workspace of its own. The workspace around it only gets one more sprite, in
which everything can be reached (`Build.passes_sprite`).
-/

namespace BlockScript

open List Option Program Table

theorem Table.has_set {α : Type} {t : Table α} {k n : String} {v : α} :
    (t.set k v).has n = true ↔ k = n ∨ t.has n := by
  rw [has, has, find?_set]
  split
  · next h => exact ⟨fun _ => .inl h, fun _ => rfl⟩
  · next h => exact ⟨.inr, fun hn => hn.resolve_left h⟩

/-- The procedures that the members of a class define. -/
def Program.procedureNames (members : List Program.Stmt) : List String :=
  members.filterMap Stmt.procedure?

namespace Workspace

variable {K : List String} {w w' : Workspace} {q : Id}

/-! ### Scripts that go on -/

/-- If the first one of the new statements can be reached, all can. -/
theorem Continues.connected (h : w.Continues w' q) (hw : w.Tidy K)
    (hc : w.blocks.joint.Connected)
    (hq : ∃ a k, w'.blocks.joint a = some k ∧ k.top ∧ w'.blocks.joint.Reaches a q) :
    w'.blocks.joint.Connected := by
  intro id j hj
  by_cases hmem : id ∈ w.blocks.keys
  · cases hold : w.blocks.joint id with
    | some k => exact hc.mono (h.within hw) hold
    | none =>
      have hp : w.previous ≠ some id := by
        intro hp
        obtain ⟨k, hk, -⟩ := hw.openEnd id hp
        cases hold.symm.trans hk
      rw [h.kept id hmem hp, hold] at hj
      cases hj
  · obtain ⟨a, k, hk, htop, hreach⟩ := hq
    exact ⟨a, k, hk, htop, hreach.trans (h.added id j hmem hj)⟩

/-- Statements go on below a statement that can be reached. -/
theorem Continues.connected_below (h : w.Continues w' q) (hw : w.Tidy K)
    (hc : w.blocks.joint.Connected) (hopen : w.previous ≠ none) : w'.blocks.joint.Connected := by
  obtain ⟨p, hp⟩ := ne_none_iff_exists'.1 hopen
  obtain ⟨j, hj, -⟩ := hw.openEnd p hp
  obtain ⟨a, k, hk, htop, hreach⟩ := hc.mono (h.within hw) hj
  exact h.connected hw hc ⟨a, k, hk, htop, hreach.tail ⟨_, h.linked p j hp hj, .inl rfl⟩⟩

/-- Between two scripts: all statements can be reached, and the workspace stands nowhere. -/
structure Settled (K : List String) (w : Workspace) : Prop where
  tidy : w.Tidy K
  connected : w.blocks.joint.Connected
  previous : w.previous = none

/-! ### The head of a procedure -/

section Headed

variable {name : String} {p : Procedure} {y : Int}

theorem keys_headed (w : Workspace) :
    (w.headed name p y).blocks.keys = w.blocks.keys ++ (headBlocks w.issued p y).keys :=
  Table.keys_append ..

theorem joint_headed_definition (hw : w.Tidy K) :
    (w.headed name p y).blocks.joint (Id.ofNat (w.issued + 1)) = some ⟨none, [], true⟩ := by
  have hnew := hw.not_mem_keys (Nat.lt_succ_self w.issued)
  rw [headed, joint, find?_append_of_not_mem hnew, find?_definition]
  exact Block.joint?_of_not_isPart (isPart_definitionBlock _ y)

/-- The definition is the only statement at the head of a procedure. -/
theorem eq_of_joint_headed {id : Id} {j : Joint} (hid : id ∉ w.blocks.keys)
    (hj : (w.headed name p y).blocks.joint id = some j) : id = Id.ofNat (w.issued + 1) := by
  rw [headed, joint, find?_append_of_not_mem hid] at hj
  obtain ⟨c, hc, hj⟩ := bind_eq_some_iff.1 hj
  rcases headBlocks_cases hc with ⟨n, rfl⟩ | ⟨-, rfl⟩ | ⟨hdefinition, -⟩
  · rw [Block.joint?_of_isPart rfl] at hj
    cases hj
  · rw [Block.joint?_of_isPart rfl] at hj
    cases hj
  · exact hdefinition

theorem Tidy.headed (hw : w.Tidy K) (hname : name ∈ K)
    (hp : ∀ i ∈ p.argumentIds, i ∉ bodyInputs) : (w.headed name p y).Tidy K where
  numbered := by
    rw [keys_headed]
    refine forall_mem_append.2 ⟨fun i hi => (hw.numbered i hi).mono ?_, fun i hi => ?_⟩
    · simp only [Workspace.headed]
      omega
    · obtain ⟨m, -, hm, rfl⟩ := issued_of_mem_headBlocks hi
      exact Id.issued_ofNat hm
  known n := by
    rw [Workspace.headed, has_set, hw.known]
    exact ⟨fun hn => hn.elim (· ▸ hname) fun hn => hn, .inr⟩
  arguments n q hq := by
    by_cases hn : name = n
    · subst hn
      cases (find?_set_self _ _ _).symm.trans hq
      exact hp
    · rw [Workspace.headed, find?_set_of_ne _ _ hn] at hq
      exact hw.arguments n q hq
  openEnd i hi := by
    cases hi
    exact ⟨_, joint_headed_definition hw, rfl⟩
  drafts := hw.drafts

theorem connected_headed (hw : w.Tidy K) (hc : w.blocks.joint.Connected) :
    (w.headed name p y).blocks.joint.Connected := by
  intro id j hj
  by_cases hmem : id ∈ w.blocks.keys
  · have hkept (k : Id) (hk : k ∈ w.blocks.keys) :
        (w.headed name p y).blocks.joint k = w.blocks.joint k := joint_append_of_mem hk _
    have hwithin : w.blocks.joint.Within (w.headed name p y).blocks.joint := fun k jk hjk =>
      ⟨jk, (hkept k (mem_keys_of_joint hjk)).trans hjk, .refl jk⟩
    exact hc.mono hwithin ((hkept id hmem).symm.trans hj)
  · rw [eq_of_joint_headed hmem hj]
    exact ⟨_, _, joint_headed_definition hw, rfl, .refl⟩

end Headed

/-! ### Announcements -/

theorem not_mem_bodyInputs_of_range {n k : Nat} : ∀ i ∈ Id.range n k, i ∉ bodyInputs := by
  intro i hi
  obtain ⟨m, -, hm, rfl⟩ := lt_of_mem_range hi
  exact not_mem_bodyInputs (Id.issued_ofNat hm)

/-- One more procedure is known. -/
theorem Tidy.announced (hw : w.Tidy K) (name : String) (names : List String) :
    (w.announced name names).Tidy (K ++ [name]) where
  numbered id hid := (hw.numbered id hid).mono (Nat.le_add_right _ _)
  known n := by
    rw [Workspace.announced, has_set, hw.known, mem_append, mem_singleton, or_comm,
      eq_comm]
  arguments n p hp := by
    by_cases hn : name = n
    · subst hn
      cases (find?_set_self _ _ _).symm.trans hp
      exact not_mem_bodyInputs_of_range
    · rw [Workspace.announced, find?_set_of_ne _ _ hn] at hp
      exact hw.arguments n p hp
  openEnd := hw.openEnd
  drafts := hw.drafts

theorem Settled.announced (hw : w.Settled K) (name : String) (names : List String) :
    (w.announced name names).Settled (K ++ [name]) :=
  ⟨hw.tidy.announced name names, hw.connected, hw.previous⟩

/-- A sprite starts without blocks and procedures. -/
theorem Tidy.settled_opened (hw : w.Tidy K) : w.opened.Settled [] where
  tidy :=
    { numbered := forall_mem_nil _
      known := fun _ => ⟨nofun, nofun⟩
      arguments := fun _ _ hp => by cases hp
      openEnd := fun _ hp => by cases hp
      drafts := hw.drafts }
  connected _ _ hj := by cases hj
  previous := rfl

end Workspace

namespace Build

open Workspace

variable {α : Type} {K : List String} {m : Build Unit}

/-- The step makes whole scripts. -/
def Connects (K : List String) (m : Build Unit) : Prop :=
  ∀ w w', w.Settled K → m.run w = (.ok (), w') → w'.Settled K ∧ w.issued ≤ w'.issued

theorem connects_pure : Connects K (pure ()) := by
  intro w w' hw hrun
  cases hrun
  exact ⟨hw, Nat.le_refl _⟩

theorem Connects.bind {n : Build Unit} (h : Connects K m) (hn : Connects K n) :
    Connects K (m >>= fun _ => n) := by
  intro w w' hw hrun
  obtain ⟨_, w₁, hm, hrun⟩ := run_bind_eq_ok hrun
  obtain ⟨hw₁, hle⟩ := h w w₁ hw hm
  obtain ⟨hw', hle'⟩ := hn w₁ w' hw₁ hrun
  exact ⟨hw', hle.trans hle'⟩

/-- The statements of a script go on below its head, and then the script ends. -/
theorem settled_below {body last : Build Unit} (h : Goes K True (fun _ _ => True) [] body)
    (hlast : ∀ w, ∃ hat arguments, last.run w = (.ok (), { w with previous := none, hat, arguments }))
    {w w' : Workspace} (hw : w.Tidy K) (hc : w.blocks.joint.Connected) (hopen : w.previous ≠ none)
    (hrun : (do body; last : Build Unit).run w = (.ok (), w')) :
    w'.Settled K ∧ w.issued ≤ w'.issued := by
  obtain ⟨_, w₁, hbody, hrun⟩ := run_bind_eq_ok hrun
  obtain ⟨hat, arguments, hend⟩ := hlast w₁
  cases hend.symm.trans hrun
  obtain ⟨hw₁, hcases⟩ := h w () w₁ hw (forall_mem_nil _) hbody
  have htidy : Tidy K { w₁ with previous := none, hat, arguments } :=
    { hw₁ with openEnd := fun p hp => by cases hp }
  rcases hcases with ⟨-, hsame⟩ | ⟨q, hq, -⟩
  · exact ⟨⟨htidy, hsame.joint ▸ hc, rfl⟩, hsame.issued⟩
  · exact ⟨⟨htidy, hq.connected_below hw hc hopen, rfl⟩, hq.issued⟩

/-! ### Scripts -/

/-- The step makes a statement that stands on its own, and the script stands there. -/
def Starts (K : List String) (m : Build Unit) : Prop :=
  ∀ w w', w.Tidy K → m.run w = (.ok (), w') →
    w'.Tidy K ∧ ∃ q, w.Continues w' q ∧ w'.previous = some q ∧
      ∃ j, w'.blocks.joint q = some j ∧ j.top = true

theorem Passes.starts {n : Build α} {g : α → Build Unit} (h : Passes K False [] n)
    (hg : ∀ a, Starts K (g a)) : Starts K (n >>= g) := by
  intro w w' hw hrun
  obtain ⟨a, w₁, hn, hrun⟩ := run_bind_eq_ok hrun
  obtain ⟨hw₁, hsame⟩ := h.same hw hn
  obtain ⟨hw', q, hq, hstart⟩ := hg a w₁ w' hw₁ hrun
  exact ⟨hw', q, hq.after_same hsame hw, hstart⟩

theorem Stacks.starts {n : Build Id} {g : Id → Build Unit} (h : Stacks K true n)
    (hg : ∀ id, Passes K False [] (g id)) : Starts K (n >>= g) := by
  intro w w' hw hrun
  obtain ⟨id, w₁, hn, hrun⟩ := run_bind_eq_ok hrun
  obtain ⟨hw₁, hq, hprevious, hjoint⟩ := h w id w₁ hw hn
  obtain ⟨hw', hsame⟩ := (hg id).same hw₁ hrun
  exact ⟨hw', id, hq.before_same hsame, hsame.previous.trans hprevious, ⟨none, [], true⟩,
    (congrFun hsame.joint id).trans hjoint, rfl⟩

theorem starts_startScript (hat : Hat) : Starts K (startScript hat) := by
  have hhat {opcode : String} (h : isValue opcode = false) :
      Stacks K true (create opcode .hat []) := stacks_create h rfl (forall_mem_nil _)
  cases hat with
  | flag | clone | clicked => exact (hhat rfl).starts fun _ => passes_pure _
  | key | backdrop => exact (hhat rfl).starts fun id => passes_setField id _ _
  | message =>
    exact (passes_messageNamed _).starts fun _ => (hhat rfl).starts fun id => passes_setField id _ _
  | exceeds =>
    exact (hhat rfl).starts fun id => (passes_setField id _ _).bind fun _ =>
      passes_setInput id (by decide) _

variable {body : List (Build Unit)} {params : Program.Params}

theorem connects_script (h : Goes K True (fun _ _ => True) [] (sequence body)) (hat : Hat) :
    Connects K (script hat body) := by
  intro w w' hw hrun
  obtain ⟨_, w₁, hstart, hrun⟩ := run_bind_eq_ok hrun
  obtain ⟨hw₁, q, hq, hprevious, j, hj, htop⟩ := starts_startScript hat w w₁ hw.tidy hstart
  have hc := hq.connected hw.tidy hw.connected ⟨q, j, hj, htop, .refl⟩
  have hopen : w₁.previous ≠ none := by
    rw [hprevious]
    exact some_ne_none q
  obtain ⟨hw', hle⟩ := settled_below h (fun w => ⟨none, w.arguments, rfl⟩) hw₁ hc hopen hrun
  exact ⟨hw', hq.issued.trans hle⟩

/-! ### Procedures -/

/-- The header of a procedure is there, or it is made from new identifiers. -/
theorem settled_header {method : String} {p : Procedure} {w w' : Workspace} (hw : w.Settled K)
    (h : (procedureHeader method params).run w = (.ok p, w')) :
    w'.Settled K ∧ w.issued ≤ w'.issued ∧ ∀ i ∈ p.argumentIds, i ∉ bodyInputs := by
  rcases header_cases h with ⟨rfl, hp, -⟩ | ⟨-, rfl, hp, -⟩
  · exact ⟨hw, Nat.le_refl _, hw.tidy.arguments _ p hp⟩
  · have htidy := hw.tidy
    cases (find?_set_self _ _ _).symm.trans hp
    refine ⟨⟨{ htidy with numbered := fun id hid => ?_ }, hw.connected, hw.previous⟩,
      Nat.le_add_right _ _, not_mem_bodyInputs_of_range⟩
    exact (htidy.numbered id hid).mono (Nat.le_add_right _ _)

theorem connects_define {method : String} (h : Goes K True (fun _ _ => True) [] (sequence body))
    (hname : procedureName method ∈ K) : Connects K (define method params body) := by
  intro w w' hw hrun
  obtain ⟨p, v, y, hheader, hrest⟩ := run_define hw.tidy.numbered method params body
  obtain ⟨hv, hle, hp⟩ := settled_header hw hheader
  rw [hrest] at hrun
  obtain ⟨hw', hle'⟩ := settled_below h (fun _ => ⟨none, [], rfl⟩) (hv.tidy.headed hname hp)
    (connected_headed hv.tidy hv.connected) (some_ne_none _) hrun
  refine ⟨hw', hle.trans (Nat.le_trans ?_ hle')⟩
  simp only [headed]
  omega

theorem connects_method {name : String} (h : (Hat.ofName? name).isSome ∨ isProcedure name →
      Goes K True (fun _ _ => True) [] (sequence body))
    (hname : isProcedure name → procedureName name ∈ K) : Connects K (method name params body) := by
  rw [method]
  cases hhat : Hat.ofName? name with
  | some hat => exact connects_script (h (.inl (by rw [hhat]; rfl))) hat
  | none =>
    by_cases hproc : isProcedure name
    · simp only [hproc, if_true]
      exact connects_define (h (.inr hproc)) (hname hproc)
    · simp only [hproc]
      exact connects_pure

/-- After the announcements, the procedures of the members are known. -/
theorem settled_announceAll {members : List Stmt} {w w' : Workspace} (hw : w.Settled K)
    (hrun : (announceAll members).run w = (.ok (), w')) :
    w'.Settled (K ++ procedureNames members) ∧ w.issued ≤ w'.issued := by
  induction members generalizing K w with
  | nil =>
    cases hrun
    rw [procedureNames, filterMap_nil, append_nil]
    exact ⟨hw, Nat.le_refl _⟩
  | cons s rest ih =>
    rw [procedureNames, filterMap_cons]
    cases s with
    | functionDef name params body trailer =>
      rw [announceAll] at hrun
      rw [Program.Stmt.procedure?]
      split at hrun
      · next hname =>
        rw [if_pos hname]
        rw [run_bind_of_ok (run_announce name params w)] at hrun
        obtain ⟨hw', hle⟩ := ih (hw.announced (procedureName name) (argumentNames params)) hrun
        rw [append_assoc] at hw'
        exact ⟨hw', Nat.le_trans (Nat.le_add_right _ _) hle⟩
      · next hname =>
        rw [if_neg hname]
        exact ih hw hrun
    | expr | assign | augAssign | forLoop | whileLoop | conditional | classDef | other =>
      exact ih hw hrun

/-! ### Sprites -/

/-- **A sprite leaves the workspace around it alone.** -/
theorem passes_sprite {loud : Prop} {S : List Id} {name : String}
    {settings : Option SpriteSettings} {members : List Stmt} {methods : List (Build Unit)}
    (h : Connects (procedureNames members) (sequence methods)) :
    Passes K loud S (sprite name settings members methods) := by
  refine passes_of_same fun w _ w' hw _ hrun => ?_
  rw [sprite, run_bind_of_ok (run_get w), run_bind_of_ok (run_set _ w)] at hrun
  obtain ⟨_, v, hannounce, hrun⟩ := run_bind_eq_ok hrun
  obtain ⟨_, w₁, hmethods, hrun⟩ := run_bind_eq_ok hrun
  cases hrun
  obtain ⟨hv, hle⟩ := settled_announceAll hw.settled_opened hannounce
  obtain ⟨hw₁, hle₁⟩ := h v w₁ hv hmethods
  have hissued : w.issued ≤ w₁.issued := hle.trans hle₁
  refine ⟨?_, hissued, rfl, .refl _, rfl, rfl⟩
  exact
    { numbered := fun id hid => (hw.numbered id hid).mono hissued
      known := hw.known
      arguments := hw.arguments
      openEnd := hw.openEnd
      drafts := forall_mem_append.2
        ⟨hw₁.tidy.drafts, forall_mem_singleton.2 hw₁.connected⟩ }

end Build

end BlockScript
