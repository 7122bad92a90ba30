import Mathlib.Logic.Relation
import BlockScript.Proofs.CallEdits

/-!
# How statements are joined

Of all that blocks say, only a little decides which statements a script can be followed to: the
statement below each statement, and the first one of each body. `Table.joint` is this view of the
blocks of a sprite. Most steps of the compiler do not change it at all (`Workspace.Same`). The others
let the script go on below the block where it stands: they add statements, all of which can be
reached from the first one, and put that one below the block (`Workspace.Continues`).

`Build.Goes` says this of a step. It tells when the step may make no statement, and where the script
stands if it makes some. Steps one after the other go on below each other, as long as the script
stands somewhere in between (`Build.Goes.bind`).
-/

namespace BlockScript

open Block BlockScript.Id List Nat Option Table

/-! ### Joints -/

/-- How a statement is joined to others. -/
structure Joint where
  next : Option Id
  bodies : Table Input
  top : Bool

/-- The joint of a block, if it is a statement. -/
def Block.joint? (b : Block) : Option Joint :=
  if b.isPart then none
  else some ⟨b.next, b.inputs.filter (bodyInputs.contains ·.1), b.topLevel⟩

/-- The second joint leads to whatever the first one leads to. -/
structure Joint.Within (j j' : Joint) : Prop where
  next : ∀ n, j.next = some n → j'.next = some n
  bodies : j.bodies ⊆ j'.bodies
  top : j'.top = j.top

theorem Joint.Within.refl (j : Joint) : j.Within j := ⟨fun _ h => h, .refl _, rfl⟩

abbrev Joints := Id → Option Joint

namespace Joints

variable {J J' : Joints} {a b : Id}

/-- The second statement is below the first, or starts one of its bodies. -/
def Leads (J : Joints) (a b : Id) : Prop :=
  ∃ j, J a = some j ∧ (j.next = some b ∨ ∃ name, (name, Input.block b) ∈ j.bodies)

def Reaches (J : Joints) : Id → Id → Prop := Relation.ReflTransGen J.Leads

/-- Every statement can be reached from a block that stands on its own. -/
def Connected (J : Joints) : Prop :=
  ∀ id j, J id = some j → ∃ a k, J a = some k ∧ k.top = true ∧ J.Reaches a id

/-- No link is lost. -/
def Within (J J' : Joints) : Prop := ∀ id j, J id = some j → ∃ j', J' id = some j' ∧ j.Within j'

theorem Leads.mono (h : J.Within J') (hab : J.Leads a b) : J'.Leads a b := by
  obtain ⟨j, hj, hnext | ⟨name, hbody⟩⟩ := hab
  · obtain ⟨j', hj', hwithin⟩ := h a j hj
    exact ⟨j', hj', .inl (hwithin.next b hnext)⟩
  · obtain ⟨j', hj', hwithin⟩ := h a j hj
    exact ⟨j', hj', .inr ⟨name, hwithin.bodies hbody⟩⟩

theorem Reaches.mono (h : J.Within J') (hab : J.Reaches a b) : J'.Reaches a b :=
  Relation.ReflTransGen.mono (fun _ _ (hlead : J.Leads _ _) => hlead.mono h) a b hab

/-- Statements that are reached stay so. -/
theorem Connected.mono (hJ : J.Connected) (h : J.Within J') {id : Id} {j : Joint}
    (hj : J id = some j) : ∃ a k, J' a = some k ∧ k.top ∧ J'.Reaches a id := by
  obtain ⟨a, k, hk, htop, hreach⟩ := hJ id j hj
  obtain ⟨k', hk', hwithin⟩ := h a k hk
  exact ⟨a, k', hk', hwithin.top.trans htop, hreach.mono h⟩

end Joints

namespace Table

variable {t : Table Block} {id : Id} {f : Block → Block}

def joint (t : Table Block) : Joints := fun id => (t.find? id).bind Block.joint?

theorem joint_eq_none (h : id ∉ t.keys) : t.joint id = none := by
  rw [joint, find?_eq_none_iff.2 h]
  rfl

theorem mem_keys_of_joint {j : Joint} (h : t.joint id = some j) : id ∈ t.keys := by
  by_contra hid
  rw [joint_eq_none hid] at h
  cases h

theorem joint_adjust_of_same (h : ∀ b, t.find? id = some b → (f b).joint? = b.joint?) :
    (t.adjust id f).joint = t.joint := by
  funext k
  rw [joint, joint, find?_adjust]
  split
  · next hk =>
    subst hk
    cases hb : t.find? id with
    | none => rfl
    | some b => exact h b hb
  · rfl

theorem joint_adjust_of_ne {k : Id} (h : id ≠ k) : (t.adjust id f).joint k = t.joint k := by
  rw [joint, joint, find?_adjust, if_neg h]

theorem joint_append_of_mem {k : Id} (h : k ∈ t.keys) (u : Table Block) :
    (t ++ u).joint k = t.joint k := by
  obtain ⟨b, hb⟩ := mem_keys_iff.1 h
  rw [joint, joint, find?_append, hb, some_or]

/-- The block is there, and has no bodies. -/
structure Bare (t : Table Block) (id : Id) : Prop where
  mem : id ∈ t.keys
  bodies : ∀ j, t.joint id = some j → j.bodies = []

theorem bare_of_joint {next : Option Id} {top : Bool} (h : t.joint id = some ⟨next, [], top⟩) :
    t.Bare id := by
  refine ⟨mem_keys_of_joint h, fun j hj => ?_⟩
  cases h.symm.trans hj
  rfl

/-- Inputs that are no bodies do not show in the joint. -/
theorem filter_set {inputs : Table Input} {name : String} (h : name ∉ bodyInputs) (i : Input) :
    (inputs.set name i).filter (bodyInputs.contains ·.1) =
      inputs.filter (bodyInputs.contains ·.1) := by
  have hname : bodyInputs.contains name = false := by
    rw [contains_eq_mem, decide_eq_false h]
  induction inputs with
  | nil =>
    rw [set, filter_cons, if_neg (by rw [hname]; exact Bool.false_ne_true)]
  | cons p inputs ih =>
    obtain ⟨k, v⟩ := p
    rw [set]
    split
    · next hk =>
      subst hk
      simp only [filter_cons, hname, Bool.false_eq_true, if_false]
    · rw [filter_cons, filter_cons, ih]

theorem filter_eq_nil {inputs : Table Input} (h : ∀ p ∈ inputs, p.1 ∉ bodyInputs) :
    inputs.filter (bodyInputs.contains ·.1) = [] := by
  rw [filter_eq_nil_iff]
  intro p hp
  rw [contains_eq_mem, decide_eq_false (h p hp)]
  exact Bool.false_ne_true

end Table

namespace Block

variable {b : Block}

theorem joint?_of_isPart (h : b.isPart) : b.joint? = none := by rw [joint?, if_pos h]

theorem joint?_of_not_isPart (h : b.isPart = false) :
    b.joint? = some ⟨b.next, b.inputs.filter (bodyInputs.contains ·.1), b.topLevel⟩ := by
  rw [joint?, h]
  rfl

theorem joint?_setInput {name : String} (h : name ∉ bodyInputs) (i : Input) :
    (b.setInput name i).joint? = b.joint? := by
  have hpart : (b.setInput name i).isPart = b.isPart := rfl
  have hinputs : (b.setInput name i).inputs = b.inputs.set name i := rfl
  rw [joint?, joint?, hpart, hinputs, filter_set h]
  rfl

end Block

/-! ### Workspaces -/

namespace Workspace

/-- The blocks are numbered, the given procedures are known, the script stands at a
statement with nothing below it, and the finished sprites are in order. -/
structure Tidy (K : List String) (w : Workspace) : Prop where
  numbered : ∀ id ∈ w.blocks.keys, Id.Issued w.issued id
  known : ∀ n, w.procedures.has n = true ↔ n ∈ K
  arguments : ∀ n p, w.procedures.find? n = some p → ∀ i ∈ p.argumentIds, i ∉ bodyInputs
  openEnd : ∀ p, w.previous = some p → ∃ j, w.blocks.joint p = some j ∧ j.next = none
  drafts : ∀ d ∈ w.drafts, d.blocks.joint.Connected

/-- Statements are joined as before. -/
structure Same (w w' : Workspace) : Prop where
  issued : w.issued ≤ w'.issued
  joint : w'.blocks.joint = w.blocks.joint
  keys : w.blocks.keys ⊆ w'.blocks.keys
  previous : w'.previous = w.previous
  procedures : w'.procedures = w.procedures

/-- The script goes on with the given statement, from which all new ones can be reached. -/
structure Continues (w w' : Workspace) (q : Id) : Prop where
  issued : w.issued ≤ w'.issued
  fresh : q ∉ w.blocks.keys
  keys : w.blocks.keys ⊆ w'.blocks.keys
  kept : ∀ id ∈ w.blocks.keys, w.previous ≠ some id → w'.blocks.joint id = w.blocks.joint id
  linked : ∀ p j, w.previous = some p → w.blocks.joint p = some j →
    w'.blocks.joint p = some { j with next := some q }
  added : ∀ id j, id ∉ w.blocks.keys → w'.blocks.joint id = some j → w'.blocks.joint.Reaches q id
  last : ∀ c, w'.previous = some c → c ∉ w.blocks.keys
  procedures : w'.procedures = w.procedures

variable {K : List String} {w w₁ w₂ : Workspace} {q q' id : Id}

theorem Tidy.mem_keys (h : w.Tidy K) {p : Id} (hp : w.previous = some p) : p ∈ w.blocks.keys := by
  obtain ⟨j, hj, -⟩ := h.openEnd p hp
  exact mem_keys_of_joint hj

theorem Tidy.not_mem_keys (h : w.Tidy K) {n : Nat} (hn : w.issued < n) :
    ofNat n ∉ w.blocks.keys := fun hmem => (h.numbered _ hmem).ne_ofNat hn rfl

theorem Tidy.free (h : w.Tidy K) : w.Free :=
  find?_eq_none_iff.2 (h.not_mem_keys (lt_succ_self _))

theorem Same.refl (w : Workspace) : w.Same w :=
  ⟨Nat.le_refl _, rfl, .refl _, rfl, rfl⟩

theorem Same.trans (h : w.Same w₁) (h' : w₁.Same w₂) : w.Same w₂ :=
  ⟨h.issued.trans h'.issued, h'.joint.trans h.joint, List.Subset.trans h.keys h'.keys,
    h'.previous.trans h.previous, h'.procedures.trans h.procedures⟩

/-- A workspace that is like a tidy one is tidy. -/
theorem Same.tidy (h : w.Same w₁) (hw : w.Tidy K)
    (hnumbered : ∀ id ∈ w₁.blocks.keys, Issued w₁.issued id) (hdrafts : w₁.drafts = w.drafts) :
    w₁.Tidy K where
  numbered := hnumbered
  known n := by
    rw [h.procedures]
    exact hw.known n
  arguments n p hp := hw.arguments n p (h.procedures ▸ hp)
  openEnd p hp := by
    rw [h.joint]
    exact hw.openEnd p (h.previous ▸ hp)
  drafts d hd := hw.drafts d (hdrafts ▸ hd)

theorem Same.bare (h : w.Same w₁) (hid : w.blocks.Bare id) : w₁.blocks.Bare id :=
  ⟨h.keys hid.mem, fun j hj => hid.bodies j (h.joint ▸ hj)⟩

theorem Continues.bare (h : w.Continues w₁ q) (hw : w.Tidy K) (hid : w.blocks.Bare id) :
    w₁.blocks.Bare id := by
  refine ⟨h.keys hid.mem, fun j hj => ?_⟩
  by_cases hp : w.previous = some id
  · obtain ⟨k, hk, -⟩ := hw.openEnd id hp
    rw [h.linked id k hp hk] at hj
    cases hj
    exact hid.bodies k hk
  · rw [h.kept id hid.mem hp] at hj
    exact hid.bodies j hj

/-- No link is lost. -/
theorem Continues.within (h : w.Continues w₁ q) (hw : w.Tidy K) :
    w.blocks.joint.Within w₁.blocks.joint := by
  intro id j hj
  by_cases hp : w.previous = some id
  · obtain ⟨k, hk, hnext⟩ := hw.openEnd id hp
    cases hj.symm.trans hk
    refine ⟨_, h.linked id j hp hj, fun n hn => ?_, .refl _, rfl⟩
    rw [hnext] at hn
    cases hn
  · exact ⟨j, (h.kept id (mem_keys_of_joint hj) hp).trans hj, .refl j⟩

/-- Nothing happens, and then the script goes on. -/
theorem Continues.after_same (h : w.Same w₁) (h' : w₁.Continues w₂ q) (hw : w.Tidy K) :
    w.Continues w₂ q where
  issued := h.issued.trans h'.issued
  fresh hq := h'.fresh (h.keys hq)
  keys := List.Subset.trans h.keys h'.keys
  kept id hid hp := by
    rw [h'.kept id (h.keys hid) (by rwa [h.previous]), h.joint]
  linked p j hp hj := h'.linked p j (h.previous.trans hp) (by rwa [h.joint])
  added id j hid hj := by
    by_cases hmem : id ∈ w₁.blocks.keys
    · have hp : w₁.previous ≠ some id := fun hp => hid (hw.mem_keys (h.previous ▸ hp))
      rw [h'.kept id hmem hp, h.joint, joint_eq_none hid] at hj
      cases hj
    · exact h'.added id j hmem hj
  last c hc hmem := h'.last c hc (h.keys hmem)
  procedures := h'.procedures.trans h.procedures

/-- The script goes on, and then nothing happens. -/
theorem Continues.before_same (h : w.Continues w₁ q) (h' : w₁.Same w₂) : w.Continues w₂ q where
  issued := h.issued.trans h'.issued
  fresh := h.fresh
  keys := List.Subset.trans h.keys h'.keys
  kept id hid hp := by rw [h'.joint, h.kept id hid hp]
  linked p j hp hj := by rw [h'.joint, h.linked p j hp hj]
  added id j hid hj := by
    rw [h'.joint] at hj ⊢
    exact h.added id j hid hj
  last c hc := h.last c (h'.previous ▸ hc)
  procedures := h'.procedures.trans h.procedures

/-- The script goes on twice, and stands somewhere in between. -/
theorem Continues.trans (h : w.Continues w₁ q) (h' : w₁.Continues w₂ q') (hw₁ : w₁.Tidy K)
    (hopen : w₁.previous ≠ none) : w.Continues w₂ q := by
  obtain ⟨c, hc⟩ := ne_none_iff_exists'.1 hopen
  obtain ⟨k, hk, hnext⟩ := hw₁.openEnd c hc
  have hnew := h.last c hc
  have hold : ∀ id ∈ w.blocks.keys, w₁.previous ≠ some id := by
    intro id hid hp
    cases hc.symm.trans hp
    exact hnew hid
  have hlead : w₂.blocks.joint.Leads c q' := ⟨_, h'.linked c k hc hk, .inl rfl⟩
  have hreach : w₂.blocks.joint.Reaches q q' :=
    ((h.added c k hnew hk).mono (h'.within hw₁)).tail hlead
  exact
    { issued := h.issued.trans h'.issued
      fresh := h.fresh
      keys := List.Subset.trans h.keys h'.keys
      kept := fun id hid hp => by
        rw [h'.kept id (h.keys hid) (hold id hid), h.kept id hid hp]
      linked := fun p j hp hj => by
        have hmem := mem_keys_of_joint hj
        rw [h'.kept p (h.keys hmem) (hold p hmem), h.linked p j hp hj]
      added := fun id j hid hj => by
        by_cases hmem : id ∈ w₁.blocks.keys
        · cases hj₁ : w₁.blocks.joint id with
          | some j₁ => exact (h.added id j₁ hid hj₁).mono (h'.within hw₁)
          | none =>
            have hp : w₁.previous ≠ some id := by
              intro hp
              cases hc.symm.trans hp
              cases hj₁.symm.trans hk
            rw [h'.kept id hmem hp, hj₁] at hj
            cases hj
        · exact hreach.trans (h'.added id j hmem hj)
      last := fun c' hc' hmem => h'.last c' hc' (h.keys hmem)
      procedures := h'.procedures.trans h.procedures }

/-! ### New blocks -/

variable {b : Block}

theorem joint_push (h : w.Free) (b : Block) (k : Id) :
    (w.push b).blocks.joint k =
      if k = ofNat (w.issued + 1) then b.joint? else w.blocks.joint k := by
  split
  · next hk => rw [joint, hk, find?_push h, bind_some]
  · next hk =>
    have hrest : Table.find? [(ofNat (w.issued + 1), b)] k = none := by
      rw [Table.find?, if_neg (Ne.symm hk), Table.find?_nil]
    rw [joint, push, Table.find?_append, hrest, or_none, joint]

theorem numbered_push (hw : w.Tidy K) (b : Block) :
    ∀ id ∈ (w.push b).blocks.keys, Issued (w.issued + 1) id := by
  rw [keys_push]
  refine forall_mem_append.2 ⟨fun i hi => (hw.numbered i hi).mono (le_succ _), ?_⟩
  exact forall_mem_singleton.2 (issued_ofNat (Nat.le_refl _))

/-- A new part changes nothing. -/
theorem same_push (hw : w.Tidy K) (hb : b.isPart) : w.Same (w.push b) := by
  refine ⟨le_succ _, funext fun k => ?_, ?_, rfl, rfl⟩
  · rw [joint_push hw.free]
    split
    · next hk =>
      rw [joint?_of_isPart hb, hk, joint_eq_none (hw.not_mem_keys (lt_succ_self _))]
    · rfl
  · rw [keys_push]
    exact subset_append_left ..

/-- The script goes on with a new statement. -/
theorem joint_linked_of_ne {k : Id} (h : w.previous ≠ some k) (id : Id) :
    (w.linked id).blocks.joint k = w.blocks.joint k := by
  cases hp : w.previous with
  | none => rw [linked_of_none hp]
  | some p =>
    rw [linked_of_some hp]
    exact joint_adjust_of_ne fun hc => h (hp.trans (congrArg some hc))

theorem joint_linked {p : Id} {j : Joint} (hp : w.previous = some p)
    (hj : w.blocks.joint p = some j) (id : Id) :
    (w.linked id).blocks.joint p = some { j with next := some id } := by
  obtain ⟨a, ha, hjoint⟩ := bind_eq_some_iff.1 hj
  cases hkind : a.isPart with
  | true =>
    rw [joint?_of_isPart hkind] at hjoint
    cases hjoint
  | false =>
    rw [joint?_of_not_isPart hkind] at hjoint
    cases hjoint
    rw [linked_of_some hp, joint, find?_amend ha, bind_some]
    exact joint?_of_not_isPart hkind

theorem joint_stacked (hw : w.Tidy K) (b : Block) (k : Id) :
    (w.stacked b).blocks.joint k =
      if k = ofNat (w.issued + 1) then b.joint?
      else (w.linked (ofNat (w.issued + 1))).blocks.joint k := by
  have hfree : (w.linked (ofNat (w.issued + 1))).Free := by
    rw [Free, issued_linked, find?_eq_none_iff, keys_linked]
    exact hw.not_mem_keys (lt_succ_self _)
  have hjoint := joint_push hfree { b with parent := w.previous } k
  rw [issued_linked] at hjoint
  exact hjoint

/-- The script goes on with a new statement. -/
theorem continues_stacked (hw : w.Tidy K) (b : Block) :
    w.Continues (w.stacked b) (ofNat (w.issued + 1)) := by
  have hnew := hw.not_mem_keys (lt_succ_self w.issued)
  have hne : ∀ id ∈ w.blocks.keys, id ≠ ofNat (w.issued + 1) := fun id hid hc => hnew (hc ▸ hid)
  exact
    { issued := by
        rw [issued_stacked]
        exact le_succ _
      fresh := hnew
      keys := by
        rw [keys_stacked]
        exact subset_append_left ..
      kept := fun id hid hp => by rw [joint_stacked hw, if_neg (hne id hid), joint_linked_of_ne hp]
      linked := fun p j hp hj => by
        rw [joint_stacked hw, if_neg (hne p (hw.mem_keys hp)), joint_linked hp hj]
      added := fun id j hid hj => by
        have hmem := mem_keys_of_joint hj
        rw [keys_stacked] at hmem
        rcases mem_append.1 hmem with hold | hlast
        · exact absurd hold hid
        · rw [mem_singleton.1 hlast]
          exact .refl
      last := fun c hc => by
        rw [stacked_eq] at hc
        cases hc
        exact hnew
      procedures := by rw [stacked_eq] }

theorem Tidy.stacked (hw : w.Tidy K) (hb : b.isPart = false) (hnext : b.next = none) :
    (w.stacked b).Tidy K where
  numbered := by
    rw [keys_stacked, issued_stacked]
    refine forall_mem_append.2 ⟨fun i hi => (hw.numbered i hi).mono (le_succ _), ?_⟩
    exact forall_mem_singleton.2 (issued_ofNat (Nat.le_refl _))
  known n := by
    rw [(continues_stacked hw b).procedures]
    exact hw.known n
  arguments n p hp := hw.arguments n p ((continues_stacked hw b).procedures ▸ hp)
  openEnd p hp := by
    rw [stacked_eq] at hp
    cases hp
    exact ⟨_, (joint_stacked hw b _).trans ((if_pos rfl).trans (joint?_of_not_isPart hb)), hnext⟩
  drafts d hd := by
    rw [stacked_eq] at hd
    exact hw.drafts d hd

end Workspace

/-! ### Steps -/

namespace Build

open Workspace

variable {α β : Type} {K : List String} {idle idle' idle'' : Prop}
  {good good' good'' : Id → Option Id → Prop} {S : List Id} {m : Build α} {f : α → Build β}

/-- **The script goes on.** Started in a tidy workspace in which the given blocks have no bodies, the
step keeps it tidy. It makes no statement, which has to be allowed, or the script goes on with new
ones and then stands where it should. -/
def Goes (K : List String) (idle : Prop) (good : Id → Option Id → Prop) (S : List Id)
    (m : Build α) : Prop :=
  ∀ w a w', w.Tidy K → (∀ id ∈ S, w.blocks.Bare id) → m.run w = (.ok a, w') →
    w'.Tidy K ∧ (idle ∧ w.Same w' ∨ ∃ q, w.Continues w' q ∧ good q w'.previous)

/-- Less is asked of the workspace. -/
theorem Goes.weaken (h : Goes K idle good [] m) : Goes K idle good S m :=
  fun w a w' hw _ hrun => h w a w' hw (forall_mem_nil _) hrun

/-- The same of a step that is started in the given workspace, and of what it gives. -/
def Advances (K : List String) (idle : Prop) (good : Id → Option Id → Prop) (w : Workspace)
    (m : Build α) (post : α → Workspace → Prop) : Prop :=
  w.Tidy K → ∀ a w', m.run w = (.ok a, w') →
    w'.Tidy K ∧ (idle ∧ w.Same w' ∨ ∃ q, w.Continues w' q ∧ good q w'.previous) ∧ post a w'

section Advances

variable {w : Workspace} {post : α → Workspace → Prop} {post' : β → Workspace → Prop}

theorem Advances.imp {post' : α → Workspace → Prop} (h : Advances K idle good w m post)
    (hpost : ∀ a w', post a w' → post' a w') : Advances K idle good w m post' := by
  intro hw a w' hrun
  obtain ⟨hw', hcases, ha⟩ := h hw a w' hrun
  exact ⟨hw', hcases, hpost a w' ha⟩

theorem Advances.mono (h : Advances K idle good w m post) (hidle : idle → idle')
    (hgood : ∀ q c, good q c → good' q c) : Advances K idle' good' w m post := by
  intro hw a w' hrun
  obtain ⟨hw', hcases, ha⟩ := h hw a w' hrun
  refine ⟨hw', hcases.imp (fun h => ⟨hidle h.1, h.2⟩) ?_, ha⟩
  rintro ⟨q, hq, hgoodq⟩
  exact ⟨q, hq, hgood q _ hgoodq⟩

/-- Two steps one after the other. The second one may use what the first one gave. -/
theorem Advances.bind (h : Advances K idle good w m post)
    (hf : ∀ a w', post a w' → Advances K idle' good' w' (f a) post')
    (hopen : ∀ q c q' c', good q c → good' q' c' → c ≠ none) (hidle : idle → idle' → idle'')
    (hfirst : idle' → ∀ q c, good q c → good'' q c) (hsecond : idle → ∀ q c, good' q c → good'' q c)
    (hboth : ∀ q c q' c', good q c → good' q' c' → good'' q c') :
    Advances K idle'' good'' w (m >>= f) post' := by
  intro hw b w₂ hrun
  obtain ⟨a, w₁, hm, hrun⟩ := run_bind_eq_ok hrun
  obtain ⟨hw₁, hcases, ha⟩ := h hw a w₁ hm
  obtain ⟨hw₂, hcases', hb⟩ := hf a w₁ ha hw₁ b w₂ hrun
  refine ⟨hw₂, ?_, hb⟩
  rcases hcases with ⟨hi, hsame⟩ | ⟨q, hq, hgood⟩ <;>
    rcases hcases' with ⟨hi', hsame'⟩ | ⟨q', hq', hgood'⟩
  · exact .inl ⟨hidle hi hi', hsame.trans hsame'⟩
  · exact .inr ⟨q', hq'.after_same hsame hw, hsecond hi _ _ hgood'⟩
  · refine .inr ⟨q, hq.before_same hsame', hfirst hi' _ _ ?_⟩
    rwa [hsame'.previous]
  · exact .inr ⟨q, hq.trans hq' hw₁ (hopen _ _ _ _ hgood hgood'), hboth _ _ _ _ hgood hgood'⟩

/-- Blocks without bodies get none. -/
theorem Advances.bare (h : Advances K idle good w m post) :
    Advances K idle good w m fun a w' =>
      post a w' ∧ m.run w = (.ok a, w') ∧ ∀ id, w.blocks.Bare id → w'.blocks.Bare id := by
  intro hw a w' hrun
  obtain ⟨hw', hcases, ha⟩ := h hw a w' hrun
  refine ⟨hw', hcases, ha, hrun, fun id hid => ?_⟩
  rcases hcases with ⟨-, hsame⟩ | ⟨q, hq, -⟩
  · exact hsame.bare hid
  · exact hq.bare hw hid

theorem Goes.advances (h : Goes K idle good S m) (hS : ∀ id ∈ S, w.blocks.Bare id) :
    Advances K idle good w m fun _ _ => True := by
  intro hw a w' hrun
  obtain ⟨hw', hcases⟩ := h w a w' hw hS hrun
  exact ⟨hw', hcases, trivial⟩

theorem goes_of_advances
    (h : ∀ w, (∀ id ∈ S, w.blocks.Bare id) → Advances K idle good w m fun _ _ => True) :
    Goes K idle good S m := by
  intro w a w' hw hS hrun
  obtain ⟨hw', hcases, -⟩ := h w hS hw a w' hrun
  exact ⟨hw', hcases⟩

end Advances

theorem Goes.mono (h : Goes K idle good S m) (hidle : idle → idle')
    (hgood : ∀ q c, good q c → good' q c) : Goes K idle' good' S m :=
  goes_of_advances fun _ hS => (h.advances hS).mono hidle hgood

theorem Goes.bind (h : Goes K idle good S m)
    (hf : ∀ w a w', m.run w = (.ok a, w') → Goes K idle' good' S (f a))
    (hopen : ∀ q c q' c', good q c → good' q' c' → c ≠ none) (hidle : idle → idle' → idle'')
    (hfirst : idle' → ∀ q c, good q c → good'' q c) (hsecond : idle → ∀ q c, good' q c → good'' q c)
    (hboth : ∀ q c q' c', good q c → good' q' c' → good'' q c') :
    Goes K idle'' good'' S (m >>= f) :=
  goes_of_advances fun w hS => (h.advances hS).bare.bind
    (fun a w' ⟨_, hrun, hbare⟩ => (hf w a w' hrun).advances fun id hid => hbare id (hS id hid))
    hopen hidle hfirst hsecond hboth

/-- The step makes statements only if the expressions at hand are *loud*, that is, contain calls that
make statements. -/
def Passes (K : List String) (loud : Prop) : List Id → Build α → Prop :=
  Goes K True fun _ c => loud ∧ c ≠ none

/-- The step makes one statement, at which the script then stands, unless loud expressions make
more. -/
def Proceeds (K : List String) (idle loud : Prop) : List Id → Build α → Prop :=
  Goes K idle fun q c => c ≠ none ∧ (¬loud → c = some q)

variable {loud : Prop}

/-- The second step may use how the first one came to what it gave. -/
theorem Passes.bind_run (h : Passes K loud S m)
    (hf : ∀ w a w', m.run w = (.ok a, w') → Passes K loud S (f a)) : Passes K loud S (m >>= f) :=
  Goes.bind h hf (fun _ _ _ _ h _ => h.2) (fun _ _ => trivial) (fun _ _ _ h => h) (fun _ _ _ h => h)
    fun _ _ _ _ _ h => h

theorem Passes.bind (h : Passes K loud S m) (hf : ∀ a, Passes K loud S (f a)) :
    Passes K loud S (m >>= f) := h.bind_run fun _ a _ _ => hf a

theorem Passes.weaken (h : Passes K loud [] m) : Passes K loud S m := Goes.weaken h

/-- What makes no statement for sure can come first. -/
theorem Passes.next (h : Passes K False S m)
    (hf : ∀ w a w', m.run w = (.ok a, w') → Goes K idle good S (f a)) :
    Goes K idle good S (m >>= f) :=
  Goes.bind h hf (fun _ _ _ _ h _ => h.1.elim) (fun _ hi => hi) (fun _ _ _ h => h.1.elim)
    (fun _ _ _ h => h) fun _ _ _ _ h => h.1.elim

theorem Passes.proceeds (h : Passes K loud S m) : Proceeds K True loud S m :=
  Goes.mono h id fun _ _ h => ⟨h.2, fun hc => absurd h.1 hc⟩

theorem Passes.bind_proceeds (h : Passes K loud S m) (hf : ∀ a, Proceeds K idle loud S (f a)) :
    Proceeds K idle loud S (m >>= f) :=
  Goes.bind h (fun _ a _ _ => hf a) (fun _ _ _ _ h _ => h.2) (fun _ hi => hi)
    (fun _ _ _ h => ⟨h.2, fun hc => absurd h.1 hc⟩) (fun _ _ _ h => h)
    fun _ _ _ _ h h' => ⟨h'.1, fun hc => absurd h.1 hc⟩

theorem Proceeds.bind (h : Proceeds K idle loud S m) (hf : ∀ a, Passes K loud S (f a)) :
    Proceeds K idle loud S (m >>= f) :=
  Goes.bind h (fun _ a _ _ => hf a) (fun _ _ _ _ h _ => h.1) (fun hi _ => hi) (fun _ _ _ h => h)
    (fun _ _ _ h => ⟨h.2, fun hc => absurd h.1 hc⟩)
    fun _ _ _ _ _ h' => ⟨h'.2, fun hc => absurd h'.1 hc⟩

/-- A statement that is made for sure may be made. -/
theorem Proceeds.maybe (h : Proceeds K False loud S m) : Proceeds K idle loud S m :=
  Goes.mono h False.elim fun _ _ h => h

/-! ### The steps that change a workspace -/

/-- A step that changes nothing of what is looked at. -/
theorem passes_of_same
    (h : ∀ w a w', w.Tidy K → (∀ id ∈ S, w.blocks.Bare id) → m.run w = (.ok a, w') →
      w'.Tidy K ∧ w.Same w') : Passes K loud S m :=
  fun w a w' hw hS hrun => ⟨(h w a w' hw hS hrun).1, .inl ⟨trivial, (h w a w' hw hS hrun).2⟩⟩

theorem passes_pure (a : α) : Passes K loud S (pure a) :=
  passes_of_same fun w _ _ hw _ hrun => by
    cases hrun
    exact ⟨hw, .refl w⟩

theorem passes_lift (r : Except Fault α) : Passes K loud S (lift r) :=
  passes_of_same fun w _ _ hw _ hrun => by
    obtain ⟨-, hw'⟩ := run_lift_eq_ok hrun
    rw [hw']
    exact ⟨hw, .refl w⟩

theorem passes_get : Passes K loud S get :=
  passes_of_same fun w _ _ hw _ hrun => by
    cases hrun
    exact ⟨hw, .refl w⟩

/-- Notes are taken that do not concern the blocks. -/
theorem passes_modify {g : Workspace → Workspace} (hblocks : ∀ w, (g w).blocks = w.blocks)
    (hissued : ∀ w, (g w).issued = w.issued) (hprevious : ∀ w, (g w).previous = w.previous)
    (hprocedures : ∀ w, (g w).procedures = w.procedures) (hdrafts : ∀ w, (g w).drafts = w.drafts) :
    Passes K loud S (modify g) :=
  passes_of_same fun w _ _ hw _ hrun => by
    cases hrun
    have hsame : w.Same (g w) :=
      ⟨Nat.le_of_eq (hissued w).symm, by rw [hblocks], by rw [hblocks]; exact .refl _,
        hprevious w, hprocedures w⟩
    refine ⟨hsame.tidy hw ?_ (hdrafts w), hsame⟩
    rw [hblocks, hissued]
    exact hw.numbered

theorem passes_fresh : Passes K loud S fresh :=
  passes_of_same fun w _ _ hw _ hrun => by
    cases hrun
    exact ⟨{ hw with numbered := fun id hid => (hw.numbered id hid).mono (le_succ _) },
      le_succ _, rfl, .refl _, rfl, rfl⟩

variable {id : Id} {inputs : Table Input} {n : Build Id} {opcode : String}

/-- A change that leaves the joint of its block as it is. -/
theorem same_update {w w' : Workspace} {g : Block → Block} (hw : w.Tidy K)
    (h : ∀ b, w.blocks.find? id = some b → (g b).joint? = b.joint?)
    (hrun : (update id g).run w = (.ok (), w')) : w'.Tidy K ∧ w.Same w' := by
  obtain ⟨-, rfl⟩ := run_update_eq_ok hrun
  have hkeys := keys_adjust w.blocks id g
  have hsame : w.Same { w with blocks := w.blocks.adjust id g } :=
    ⟨Nat.le_refl _, joint_adjust_of_same h, by rw [hkeys]; exact .refl _, rfl, rfl⟩
  refine ⟨hsame.tidy hw ?_ rfl, hsame⟩
  rw [hkeys]
  exact hw.numbered

theorem passes_update {g : Block → Block}
    (h : ∀ w : Workspace, (∀ id ∈ S, w.blocks.Bare id) → ∀ b, w.blocks.find? id = some b →
      (g b).joint? = b.joint?) : Passes K loud S (update id g) :=
  passes_of_same fun w _ _ hw hS hrun => same_update hw (h w hS) hrun

theorem passes_setParent (c : Option Id) (p : Id) : Passes K loud S (setParent c p) := by
  cases c with
  | none => exact fun w a w' _ _ hrun => by cases hrun
  | some i => exact passes_update fun _ _ _ _ => rfl

theorem passes_setInput (id : Id) {name : String} (h : name ∉ bodyInputs) (i : Input) :
    Passes K loud S (setInput id name i) :=
  passes_update fun _ _ _ _ => joint?_setInput h i

theorem passes_setField (id : Id) (name : String) (x : Field) :
    Passes K loud S (setField id name x) := passes_update fun _ _ _ _ => rfl

/-- All inputs of a block are set that has no bodies, and gets none. -/
theorem passes_setInputs (hid : id ∈ S) (h : ∀ p ∈ inputs, p.1 ∉ bodyInputs) :
    Passes K loud S (setInputs id inputs) := by
  refine passes_update fun w hS b hb => ?_
  have hpart : ({ b with inputs } : Block).isPart = b.isPart := rfl
  cases hkind : b.isPart with
  | true => rw [joint?_of_isPart hkind, joint?_of_isPart (hpart.trans hkind)]
  | false =>
    have hjoint : w.blocks.joint id = b.joint? := by rw [joint, hb]; rfl
    have hbare := (hS id hid).bodies _ (hjoint.trans (joint?_of_not_isPart hkind))
    rw [joint?_of_not_isPart hkind, joint?_of_not_isPart (hpart.trans hkind),
      filter_eq_nil h, show b.inputs.filter _ = [] from hbare]

/-! ### Making blocks -/

/-- The step makes a part, and no statement. -/
def Adds (K : List String) (m : Build Id) : Prop :=
  ∀ w id w', w.Tidy K → m.run w = (.ok id, w') → w'.Tidy K ∧ w.Same w' ∧ w'.blocks.Bare id

/-- The step makes one statement without bodies, and the script stands there. -/
def Stacks (K : List String) (top : Bool) (m : Build Id) : Prop :=
  ∀ w id w', w.Tidy K → m.run w = (.ok id, w') →
    w'.Tidy K ∧ w.Continues w' id ∧ w'.previous = some id ∧
      w'.blocks.joint id = some ⟨none, [], top⟩

theorem Adds.passes (h : Adds K n) : Passes K loud S n :=
  passes_of_same fun w id w' hw _ hrun => ⟨(h w id w' hw hrun).1, (h w id w' hw hrun).2.1⟩

theorem Adds.advances {w : Workspace} (h : Adds K n) :
    Advances K True (fun _ _ => False) w n fun id w' => w'.blocks.Bare id := by
  intro hw id w' hrun
  obtain ⟨hw', hsame, hbare⟩ := h w id w' hw hrun
  exact ⟨hw', .inl ⟨trivial, hsame⟩, hbare⟩

theorem Stacks.advances {top : Bool} {w : Workspace} (h : Stacks K top n) :
    Advances K False (fun q c => c = some q) w n fun id w' => w'.blocks.Bare id := by
  intro hw id w' hrun
  obtain ⟨hw', hq, hprevious, hjoint⟩ := h w id w' hw hrun
  exact ⟨hw', .inr ⟨id, hq, hprevious⟩, bare_of_joint hjoint⟩

/-- What is done with a new statement may set its inputs. -/
theorem Stacks.bind {top : Bool} {g : Id → Build β} (h : Stacks K top n)
    (hg : ∀ id, Passes K loud (id :: S) (g id)) : Proceeds K False loud S (n >>= g) :=
  goes_of_advances fun _ hS => h.advances.bare.bind
    (fun id _ ⟨hid, _, hbare⟩ => Goes.advances (hg id)
      (forall_mem_cons.2 ⟨hid, fun i hi => hbare i (hS i hi)⟩))
    (fun _ _ _ _ h _ => h ▸ some_ne_none _) (fun hi _ => hi)
    (fun _ _ _ h => ⟨h ▸ some_ne_none _, fun _ => h⟩) (fun hi => hi.elim)
    fun _ _ _ _ _ h => ⟨h.2, fun hc => absurd h.1 hc⟩

theorem adds_put {b : Block} (h : b.isPart) :
    Adds K (do let id ← fresh; put id b; pure id) := by
  intro w id w' hw hrun
  rw [run_bind_of_ok (run_fresh w), run_bind_of_ok (run_put_fresh hw.free b)] at hrun
  cases hrun
  have hsame := same_push hw h
  refine ⟨hsame.tidy hw (numbered_push hw b) rfl, hsame, ?_, fun j hj => ?_⟩
  · rw [keys_push]
    exact mem_append_right _ (mem_singleton_self _)
  · rw [joint_push hw.free, if_pos rfl, joint?_of_isPart h] at hj
    cases hj

theorem adds_reporter (h : isValue opcode) : Adds K (reporter opcode) :=
  adds_put (b := { opcode }) h

theorem adds_menu (opcode field : String) (value : Value) (parent : Option Id) :
    Adds K (menu opcode field value parent) := adds_put rfl

/-- Making a statement. -/
theorem stacks_create {place : Placement} (h : isValue opcode = false)
    (hplace : place.isReporter = false) (hinputs : ∀ p ∈ inputs, p.1 ∉ bodyInputs) :
    Stacks K place.topLevel (create opcode place inputs) := by
  intro w id w' hw hrun
  have hhas : ∀ p, w.previous = some p → w.blocks.has p := fun p hp =>
    has_iff.2 (mem_keys_iff.1 (hw.mem_keys hp))
  rw [run_create hw.free hhas opcode hplace] at hrun
  cases hrun
  generalize hb : ({ opcode, inputs, topLevel := place.topLevel, position := _ } : Block) = b
  have hpart : b.isPart = false := by
    rw [← hb, isPart, Bool.false_or, ← isValue, h]
  have hjoint : b.joint? = some ⟨none, [], place.topLevel⟩ := by
    rw [joint?_of_not_isPart hpart, ← hb]
    dsimp only
    rw [filter_eq_nil hinputs]
  have hgoes := continues_stacked hw b
  have htidy := hw.stacked hpart (by rw [← hb])
  refine ⟨{ htidy with numbered := htidy.numbered }, { hgoes with fresh := hgoes.fresh }, rfl, ?_⟩
  exact (joint_stacked hw b _).trans ((if_pos rfl).trans hjoint)

theorem stacks_statement (h : isAction opcode) : Stacks K false (statement opcode) :=
  stacks_create (has_of_isAction h) rfl (forall_mem_nil _)

/-! ### What names stand for -/

theorem passes_variableNamed (name : String) (initial : Value) :
    Passes K loud S (variableNamed name initial) := by
  refine passes_get.bind fun w => ?_
  split
  · exact passes_pure _
  · refine passes_fresh.bind fun _ => Passes.bind ?_ fun _ => passes_pure _
    exact passes_modify (fun _ => rfl) (fun _ => rfl) (fun _ => rfl) (fun _ => rfl) fun _ => rfl

theorem passes_listNamed (name : String) (items : Value) :
    Passes K loud S (listNamed name items) := by
  refine passes_get.bind fun w => ?_
  split
  · exact passes_pure _
  · refine passes_fresh.bind fun _ => Passes.bind ?_ fun _ => passes_pure _
    exact passes_modify (fun _ => rfl) (fun _ => rfl) (fun _ => rfl) (fun _ => rfl) fun _ => rfl

theorem passes_messageNamed (name : String) : Passes K loud S (messageNamed name) := by
  refine passes_get.bind fun w => ?_
  split
  · exact passes_pure _
  · refine passes_fresh.bind fun _ => Passes.bind ?_ fun _ => passes_pure _
    exact passes_modify (fun _ => rfl) (fun _ => rfl) (fun _ => rfl) (fun _ => rfl) fun _ => rfl

theorem passes_useSound (name : String) : Passes K loud S (useSound name) :=
  passes_modify (fun _ => rfl) (fun _ => rfl) (fun _ => rfl) (fun _ => rfl) fun _ => rfl

theorem adds_variableReporter (name : String) : Adds K (variableReporter name) := by
  intro w id w' hw hrun
  obtain ⟨v, w₁, hname, hrun⟩ := run_bind_eq_ok hrun
  obtain ⟨hw₁, ⟨-, hsame⟩ | ⟨q, -, hloud, -⟩⟩ := @passes_variableNamed K [] False name (.int 0)
    w v w₁ hw (forall_mem_nil _) hname
  · obtain ⟨hw', hsame', hbare⟩ := adds_put
      (b := { opcode := "data_variable", fields := [("VARIABLE", .named name v)] }) rfl w₁ id w' hw₁
      hrun
    exact ⟨hw', hsame.trans hsame', hbare⟩
  · exact hloud.elim

/-! ### Operands -/

theorem passes_plug (o : Operand) (parent : Option Id) : Passes K loud S (plug o parent) := by
  cases o with
  | value v => exact (passes_lift _).bind fun _ => passes_pure _
  | name n =>
    refine (adds_variableReporter n).passes.bind fun i => ?_
    cases parent with
    | none => exact passes_pure _
    | some p => exact (passes_setParent _ p).bind fun _ => passes_pure _
  | block i =>
    cases parent with
    | none => exact passes_pure _
    | some p => exact (passes_setParent _ p).bind fun _ => passes_pure _

theorem passes_plugAll (parent : Id) (os : List (String × Operand)) :
    Passes K loud S (plugAll parent os) := by
  induction os with
  | nil => exact passes_pure _
  | cons p os ih => exact (passes_plug _ _).bind fun _ => ih.bind fun _ => passes_pure _

theorem keys_of_plugAll {parent : Id} {os : List (String × Operand)} {w w' : Workspace}
    (h : (plugAll parent os).run w = (.ok inputs, w')) : inputs.keys = Table.keys os := by
  induction os generalizing w w' inputs with
  | nil =>
    cases h
    rfl
  | cons p os ih =>
    obtain ⟨i, w₁, -, h⟩ := run_bind_eq_ok h
    obtain ⟨rest, w₂, hrest, h⟩ := run_bind_eq_ok h
    cases h
    exact congrArg (p.1 :: ·) (ih hrest)

/-- The operands of a new block are plugged in. -/
theorem goes_fill {c : Build β} {os : List (String × Operand)} (hid : id ∈ S)
    (hos : ∀ p ∈ os, p.1 ∉ bodyInputs) (hc : Goes K idle good S c) :
    Goes K idle good S (do let inputs ← plugAll id os; setInputs id inputs; c) := by
  refine (passes_plugAll id os).next fun w inputs w' hrun => ?_
  have hnames : ∀ p ∈ inputs, p.1 ∉ bodyInputs := by
    intro p hp
    have hmem : p.1 ∈ inputs.keys := List.mem_map_of_mem hp
    rw [keys_of_plugAll hrun] at hmem
    obtain ⟨o, ho, heq⟩ := List.mem_map.1 hmem
    exact heq ▸ hos o ho
  exact (passes_setInputs hid hnames).next fun _ _ _ _ => hc

end Build

end BlockScript
