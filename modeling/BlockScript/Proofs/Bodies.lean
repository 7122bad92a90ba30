import BlockScript.Proofs.QuietExpressions

/-!
# Bodies

A loop or a branch makes a statement and then carries out its bodies, each as a script of its own.
The first block of a body is found by looking where the script stands after each step, until it
stands somewhere. If all that comes before is one statement, this is the first one, and everything in
the body can be reached from it (`Build.Hangs`). Then everything can be reached from the loop or
branch to which the body belongs (`Workspace.Hosts`), and the script can go on below it.
-/

namespace BlockScript

open List Table

/-! ### Blocks that get bodies -/

theorem Table.filter_set_body {inputs : Table Input} {name : String} (h : name ∈ bodyInputs)
    (i : Input) :
    (inputs.set name i).filter (bodyInputs.contains ·.1) =
      set (inputs.filter (bodyInputs.contains ·.1)) name i := by
  have hname : bodyInputs.contains name := by
    rw [contains_eq_mem, decide_eq_true h]
  induction inputs with
  | nil => rw [set, filter_cons, if_pos hname, filter_nil, set]
  | cons p inputs ih =>
    obtain ⟨k, v⟩ := p
    rw [set]
    split
    · next hk =>
      subst hk
      rw [filter_cons, if_pos hname, filter_cons, if_pos hname, set, if_pos rfl]
    · next hk =>
      rw [filter_cons, filter_cons, ih]
      split
      · rw [set, if_neg hk]
      · rfl

theorem Block.joint?_setBody {b : Block} {j : Joint} {name : String} (hname : name ∈ bodyInputs)
    (hj : b.joint? = some j) (hnew : ∀ p ∈ j.bodies, p.1 ≠ name) (i : Input) :
    (b.setInput name i).joint? = some { j with bodies := j.bodies ++ [(name, i)] } := by
  cases hpart : b.isPart with
  | true =>
    rw [joint?_of_isPart hpart] at hj
    cases hj
  | false =>
    rw [joint?_of_not_isPart hpart] at hj
    cases hj
    have hfind : Table.find? (b.inputs.filter (bodyInputs.contains ·.1)) name = none := by
      rw [find?_eq_none_iff]
      intro hmem
      obtain ⟨p, hp, heq⟩ := mem_map.1 hmem
      exact hnew p hp heq
    have hpart' : (b.setInput name i).isPart = false := hpart
    have hinputs : (b.setInput name i).inputs = b.inputs.set name i := rfl
    rw [joint?_of_not_isPart hpart', hinputs, filter_set_body hname,
      set_of_find?_eq_none _ _ hfind]
    rfl

/-- A statement stays one if it gets another opcode of a statement. -/
theorem Block.joint?_setOpcode {b : Block} {opcode : String}
    (hopcode : Listing.reporters.has opcode = false) (hb : b.joint?.isSome) :
    ({ b with opcode } : Block).joint? = b.joint? := by
  cases hpart : b.isPart with
  | true =>
    rw [joint?_of_isPart hpart] at hb
    cases hb
  | false =>
    have hshadow : b.shadow = false := by
      rw [isPart, Bool.or_eq_false_iff] at hpart
      exact hpart.1
    have hpart' : ({ b with opcode } : Block).isPart = false := by
      rw [isPart, hshadow, hopcode]
      rfl
    rw [joint?_of_not_isPart hpart, joint?_of_not_isPart hpart']

namespace Workspace

/-- The block gets bodies, from which all new statements can be reached. -/
structure Hosts (w w' : Workspace) (id : Id) : Prop where
  issued : w.issued ≤ w'.issued
  keys : w.blocks.keys ⊆ w'.blocks.keys
  kept : ∀ k ∈ w.blocks.keys, k ≠ id → w'.blocks.joint k = w.blocks.joint k
  host : ∀ j, w.blocks.joint id = some j →
    ∃ bodies, w'.blocks.joint id = some { j with bodies } ∧ j.bodies ⊆ bodies
  added : ∀ k j, k ∉ w.blocks.keys → w'.blocks.joint k = some j → w'.blocks.joint.Reaches id k
  previous : w'.previous = w.previous
  procedures : w'.procedures = w.procedures

variable {K : List String} {w w₁ w₂ : Workspace} {id : Id} {j : Joint}

theorem Same.hosts (h : w.Same w₁) (id : Id) : w.Hosts w₁ id where
  issued := h.issued
  keys := h.keys
  kept k _ _ := by rw [h.joint]
  host j hj := ⟨j.bodies, by rw [h.joint, hj], .refl _⟩
  added k j hk hj := by
    rw [h.joint, joint_eq_none hk] at hj
    cases hj
  previous := h.previous
  procedures := h.procedures

theorem Hosts.within (h : w.Hosts w₁ id) : w.blocks.joint.Within w₁.blocks.joint := by
  intro k j hj
  by_cases hk : k = id
  · subst hk
    obtain ⟨bodies, hbodies, hsub⟩ := h.host j hj
    exact ⟨_, hbodies, fun _ hn => hn, hsub, rfl⟩
  · exact ⟨j, (h.kept k (mem_keys_of_joint hj) hk).trans hj, .refl j⟩

theorem Hosts.trans (h : w.Hosts w₁ id) (h' : w₁.Hosts w₂ id) (hj : w.blocks.joint id = some j) :
    w.Hosts w₂ id where
  issued := h.issued.trans h'.issued
  keys := List.Subset.trans h.keys h'.keys
  kept k hk hne := by rw [h'.kept k (h.keys hk) hne, h.kept k hk hne]
  host j hj := by
    obtain ⟨bodies, hbodies, hsub⟩ := h.host j hj
    obtain ⟨bodies', hbodies', hsub'⟩ := h'.host _ hbodies
    exact ⟨bodies', hbodies', List.Subset.trans hsub hsub'⟩
  added k j' hk hj' := by
    by_cases hmem : k ∈ w₁.blocks.keys
    · have hne : k ≠ id := fun hc => hk (hc ▸ mem_keys_of_joint hj)
      rw [h'.kept k hmem hne] at hj'
      exact (h.added k j' hk hj').mono h'.within
    · exact h'.added k j' hmem hj'
  previous := h'.previous.trans h.previous
  procedures := h'.procedures.trans h.procedures

/-- A statement that got bodies is the only one below which the script may go on. -/
theorem Continues.hosts (h : w.Continues w₁ id) (h' : w₁.Hosts w₂ id) {p : Option Id}
    (hp : ∀ c, p = some c → c = id) :
    w.Continues { w₂ with previous := p } id where
  issued := h.issued.trans h'.issued
  fresh := h.fresh
  keys := List.Subset.trans h.keys h'.keys
  kept k hk hne := by
    have hid : k ≠ id := fun hc => h.fresh (hc ▸ hk)
    exact (h'.kept k (h.keys hk) hid).trans (h.kept k hk hne)
  linked c k hc hk := by
    have hmem := mem_keys_of_joint hk
    have hid : c ≠ id := fun hc => h.fresh (hc ▸ hmem)
    exact (h'.kept c (h.keys hmem) hid).trans (h.linked c k hc hk)
  added k jk hk hjk := by
    by_cases hmem : k ∈ w₁.blocks.keys
    · by_cases hid : k = id
      · rw [hid]
        exact .refl
      · have hjk₁ : w₁.blocks.joint k = some jk := (h'.kept k hmem hid).symm.trans hjk
        exact (h.added k jk hk hjk₁).mono h'.within
    · exact h'.added k jk hmem hjk
  last c hc := by
    rw [hp c hc]
    exact h.fresh
  procedures := h'.procedures.trans h.procedures

/-- Standing at the block that got bodies, or nowhere, the workspace is tidy. -/
theorem Hosts.tidy (h : w₁.Hosts w₂ id) (hw₂ : w₂.Tidy K) (hj : w₁.blocks.joint id = some j)
    (hnext : j.next = none) {p : Option Id} (hp : ∀ c, p = some c → c = id) :
    Tidy K { w₂ with previous := p } :=
  { hw₂ with
    openEnd := fun c hc => by
      obtain ⟨bodies, hbodies, -⟩ := h.host j hj
      rw [hp c hc]
      exact ⟨_, hbodies, hnext⟩ }

end Workspace

namespace Build

open Workspace

variable {K : List String} {idle loud : Prop} {steps body orelse : List (Build Unit)}

/-! ### The first block of a body -/

/-- What the steps make, starting nowhere, can be reached from the first block that is found. -/
def Hangs (K : List String) (steps : List (Build Unit)) : Prop :=
  ∀ parent w c w', w.Tidy K → w.previous = none →
    (substackFrom parent none steps).run w = (.ok c, w') →
    w'.Tidy K ∧ (c = none ∧ w.Same w' ∨ ∃ q, c = some q ∧ w.Continues w' q)

/-- Once the first block is found, nothing but the steps is carried out. -/
theorem run_substackFrom (parent q : Id) (steps : List (Build Unit)) (w : Workspace) :
    (substackFrom parent (some q) steps).run w = (do sequence steps; pure (some q)).run w := by
  induction steps generalizing w with
  | nil => rfl
  | cons s steps ih =>
    rw [substackFrom, run_bind]
    change _ = (do (do s; sequence steps); pure (some q)).run w
    rw [bind_assoc, run_bind]
    rcases s.run w with ⟨e | u, w₁⟩
    · rfl
    · exact ih w₁

theorem hangs_nil : Hangs K [] := by
  intro parent w c w' hw _ hrun
  cases hrun
  exact ⟨hw, .inl ⟨rfl, .refl w⟩⟩

/-- The first step makes at most one statement, and if it makes none, the others hang. -/
theorem hangs_cons {s : Build Unit} (hs : Proceeds K idle False [] s) (hidle : idle → Hangs K steps)
    (hsteps : Goes K True (fun _ _ => True) [] (sequence steps)) : Hangs K (s :: steps) := by
  intro parent w c w' hw hprevious hrun
  obtain ⟨_, w₁, hrun₁, hrun⟩ := run_bind_eq_ok hrun
  obtain ⟨hw₁, ⟨hi, hsame⟩ | ⟨q, hq, hopen, hcursor⟩⟩ := hs w () w₁ hw (forall_mem_nil _) hrun₁
  · have hprevious₁ : w₁.previous = none := hsame.previous.trans hprevious
    rw [run_bind_of_ok (run_get w₁), hprevious₁] at hrun
    obtain ⟨hw', ⟨hc, hsame'⟩ | ⟨q, hc, hq⟩⟩ := hidle hi parent w₁ c w' hw₁ hprevious₁ hrun
    · exact ⟨hw', .inl ⟨hc, hsame.trans hsame'⟩⟩
    · exact ⟨hw', .inr ⟨q, hc, hq.after_same hsame hw⟩⟩
  · have hprevious₁ : w₁.previous = some q := hcursor not_false
    rw [run_bind_of_ok (run_get w₁), hprevious₁] at hrun
    obtain ⟨_, w₂, hparent, hrun⟩ := run_bind_eq_ok hrun
    have hpass : Passes K False [] (setParent (some q) parent) := passes_setParent _ _
    obtain ⟨hw₂, ⟨-, hsame₂⟩ | ⟨_, -, hfalse, -⟩⟩ :=
      hpass w₁ () w₂ hw₁ (forall_mem_nil _) hparent
    · rw [run_substackFrom] at hrun
      obtain ⟨_, w₃, hrest, hrun⟩ := run_bind_eq_ok hrun
      cases hrun
      have hq₂ := hq.before_same hsame₂
      obtain ⟨hw₃, ⟨-, hsame₃⟩ | ⟨q', hq', -⟩⟩ := hsteps w₂ () w' hw₂ (forall_mem_nil _) hrest
      · exact ⟨hw₃, .inr ⟨q, rfl, hq₂.before_same hsame₃⟩⟩
      · refine ⟨hw₃, .inr ⟨q, rfl, hq₂.trans hq' hw₂ ?_⟩⟩
        rw [hsame₂.previous, hprevious₁]
        exact Option.some_ne_none _
    · exact hfalse.elim

/-- A block gets a body, and keeps those that it has. -/
theorem hosts_plugBody (h : Hangs K steps) {w w' : Workspace} {id : Id} {j : Joint} {name : String}
    (hname : name ∈ bodyInputs) (hw : w.Tidy K) (hj : w.blocks.joint id = some j)
    (hnew : ∀ p ∈ j.bodies, p.1 ≠ name) (hrun : (plugBody id name steps).run w = (.ok (), w')) :
    w'.Tidy K ∧ w.Hosts w' id ∧
      ∀ j', w'.blocks.joint id = some j' → ∀ p ∈ j'.bodies, p ∈ j.bodies ∨ p.1 = name := by
  obtain ⟨c, w₂, hsub, hrun⟩ := run_bind_eq_ok hrun
  rw [substack, run_bind_of_ok (run_get w), run_bind_of_ok (run_setPrevious none w)] at hsub
  obtain ⟨c', w₁, hfrom, hsub⟩ := run_bind_eq_ok hsub
  rw [run_bind_of_ok (run_setPrevious w.previous w₁)] at hsub
  cases hsub
  have hw₀ : Tidy K { w with previous := none } := { hw with openEnd := fun p hp => by cases hp }
  obtain ⟨hw₁, ⟨rfl, hsame⟩ | ⟨q, rfl, hq⟩⟩ := h id _ _ _ hw₀ rfl hfrom
  · cases hrun
    have hsame' : w.Same { w₁ with previous := w.previous } :=
      { hsame with previous := rfl }
    refine ⟨{ hw₁ with openEnd := fun p hp => ?_ }, hsame'.hosts id, fun j' hj' p hp => .inl ?_⟩
    · rw [hsame'.joint]
      exact hw.openEnd p hp
    · rw [hsame'.joint, hj] at hj'
      cases hj'
      exact hp
  · have hid : w₁.blocks.joint id = some j :=
      (hq.kept id (mem_keys_of_joint hj) fun h => by cases h).trans hj
    obtain ⟨b, hb, hjoint⟩ := Option.bind_eq_some_iff.1 hid
    obtain ⟨-, rfl⟩ := run_update_eq_ok hrun
    have hhost : (w₁.blocks.adjust id fun b => b.setInput name (.block q)).joint id =
        some { j with bodies := j.bodies ++ [(name, .block q)] } := by
      rw [joint, find?_adjust, if_pos rfl, hb]
      exact Block.joint?_setBody hname hjoint hnew _
    have hother (k : Id) (hk : k ≠ id) :
        (w₁.blocks.adjust id fun b => b.setInput name (.block q)).joint k = w₁.blocks.joint k :=
      joint_adjust_of_ne (Ne.symm hk)
    have hkeys : (w₁.blocks.adjust id fun b => b.setInput name (.block q)).keys = w₁.blocks.keys :=
      keys_adjust ..
    have hkept : ∀ k ∈ w.blocks.keys, k ≠ id →
        (w₁.blocks.adjust id fun b => b.setInput name (.block q)).joint k = w.blocks.joint k :=
      fun k hk hne => (hother k hne).trans (hq.kept k hk fun h => by cases h)
    have hwithin : w₁.blocks.joint.Within
        (w₁.blocks.adjust id fun b => b.setInput name (.block q)).joint := by
      intro k jk hjk
      by_cases hk : k = id
      · subst hk
        cases hid.symm.trans hjk
        exact ⟨_, hhost, fun _ hn => hn, subset_append_left .., rfl⟩
      · exact ⟨jk, (hother k hk).trans hjk, .refl jk⟩
    refine ⟨?_, ?_, fun j' hj' p hp => ?_⟩
    · refine { hw₁ with numbered := fun k hk => hw₁.numbered k (hkeys ▸ hk), openEnd := fun p hp => ?_ }
      obtain ⟨jp, hjp, hnext⟩ := hw.openEnd p hp
      by_cases hpid : p = id
      · subst hpid
        cases hj.symm.trans hjp
        exact ⟨_, hhost, hnext⟩
      · exact ⟨jp, (hkept p (mem_keys_of_joint hjp) hpid).trans hjp, hnext⟩
    · exact
        { issued := hq.issued
          keys := fun k hk => hkeys.symm ▸ hq.keys hk
          kept := hkept
          host := fun jh hjh => by
            cases hj.symm.trans hjh
            exact ⟨_, hhost, subset_append_left ..⟩
          added := fun k jk hk hjk => by
            have hne : k ≠ id := fun hc => hk (hc ▸ mem_keys_of_joint hj)
            have hreach := (hq.added k jk hk ((hother k hne).symm.trans hjk)).mono hwithin
            refine .head ⟨_, hhost, .inr ⟨name, ?_⟩⟩ hreach
            exact mem_append_right _ (mem_singleton_self _)
          previous := rfl
          procedures := hq.procedures }
    · cases hhost.symm.trans hj'
      rcases mem_append.1 hp with hold | hlast
      · exact .inl hold
      · exact .inr (congrArg Prod.fst (mem_singleton.1 hlast))

/-! ### Loops and branches -/

/-- A step that cannot make a statement. -/
theorem Passes.same {α : Type} {m : Build α} {w w' : Workspace} {a : α} (h : Passes K False [] m)
    (hw : w.Tidy K) (hrun : m.run w = (.ok a, w')) : w'.Tidy K ∧ w.Same w' := by
  obtain ⟨hw', ⟨-, hsame⟩ | ⟨_, -, hfalse, -⟩⟩ := h w a w' hw (forall_mem_nil _) hrun
  · exact ⟨hw', hsame⟩
  · exact hfalse.elim

/-- A new statement gets its inputs and bodies, and then the script stands there, or nowhere. -/
theorem Stacks.host {n : Build Id} {g : Id → Build Unit} {p : Id → Option Id} (h : Stacks K false n)
    (hp : ∀ id c, p id = some c → c = id)
    (hg : ∀ id w w', w.Tidy K → w.blocks.joint id = some ⟨none, [], false⟩ →
      (g id).run w = (.ok (), w') →
      ∃ w₂, w₂.Tidy K ∧ w.Hosts w₂ id ∧ w' = { w₂ with previous := p id }) :
    Goes K False (fun q c => c = p q) [] (n >>= g) := by
  intro w _ w' hw _ hrun
  obtain ⟨id, w₁, hn, hrun⟩ := run_bind_eq_ok hrun
  obtain ⟨hw₁, hq, -, hjoint⟩ := h w id w₁ hw hn
  obtain ⟨w₂, hw₂, hhosts, rfl⟩ := hg id w₁ w' hw₁ hjoint hrun
  exact ⟨hhosts.tidy hw₂ hjoint rfl (hp id), .inr ⟨id, hq.hosts hhosts (hp id), rfl⟩⟩

/-- The script stands at the new statement. -/
theorem proceeds_of_goes {m : Build Unit} (h : Goes K False (fun q c => c = some q) [] m) :
    Proceeds K False loud [] m := by
  refine Goes.mono h id ?_
  rintro q _ rfl
  exact ⟨Option.some_ne_none _, fun _ => rfl⟩

theorem proceeds_repeatLoop {times : Build Operand} (ht : Passes K loud [] times)
    (h : Hangs K body) : Proceeds K False loud [] (repeatLoop times body) := by
  have htimes : "TIMES" ∉ bodyInputs := by decide
  refine ht.bind_proceeds fun o => (passes_plug o none).bind_proceeds fun i => ?_
  refine proceeds_of_goes (Stacks.host (stacks_create rfl rfl (forall_mem_singleton.2 htimes))
    (fun _ _ h => (Option.some.inj h).symm) fun id w w' hw hj hrun => ?_)
  obtain ⟨_, w₂, hbody, hrun⟩ := run_bind_eq_ok hrun
  cases hrun
  obtain ⟨hw₂, hhosts, -⟩ := hosts_plugBody h (by decide) hw hj (forall_mem_nil _) hbody
  exact ⟨w₂, hw₂, hhosts, rfl⟩

/-- Nothing can follow a loop without an end. -/
theorem goes_foreverLoop (h : Hangs K body) :
    Goes K False (fun _ c => c = none) [] (foreverLoop body) := by
  refine Stacks.host (stacks_statement rfl) (fun _ _ h => by cases h) fun id w w' hw hj hrun => ?_
  obtain ⟨_, w₂, hbody, hrun⟩ := run_bind_eq_ok hrun
  cases hrun
  obtain ⟨hw₂, hhosts, -⟩ := hosts_plugBody h (by decide) hw hj (forall_mem_nil _) hbody
  exact ⟨w₂, hw₂, hhosts, rfl⟩

/-- The condition of a loop is evaluated below the loop, and must not make a statement there. -/
theorem proceeds_conditionLoop {test : Meaning} (ht : test.Passes K False) (h : Hangs K body) :
    Proceeds K False loud [] (conditionLoop test body) := by
  have hcondition : "CONDITION" ∉ bodyInputs := by decide
  refine proceeds_of_goes (Stacks.host (stacks_statement rfl)
    (fun _ _ h => (Option.some.inj h).symm) fun id w w' hw hj hrun => ?_)
  obtain ⟨c, w₁, htest, hrun⟩ := run_bind_eq_ok hrun
  obtain ⟨hw₁, hsame₁⟩ := ht.condition.same hw htest
  obtain ⟨_, w₂, hplug, hrun⟩ := run_bind_eq_ok hrun
  obtain ⟨hw₂, hsame₂⟩ := (passes_plugCondition id hcondition c).same hw₁ hplug
  obtain ⟨_, w₃, hbody, hrun⟩ := run_bind_eq_ok hrun
  cases hrun
  have hsame := hsame₁.trans hsame₂
  obtain ⟨hw₃, hhosts, -⟩ := hosts_plugBody h (by decide) hw₂ (hsame.joint ▸ hj)
    (forall_mem_nil _) hbody
  exact ⟨w₃, hw₃, (hsame.hosts id).trans hhosts hj, rfl⟩

theorem proceeds_branch {test : Meaning} (ht : test.Passes K loud) (h : Hangs K body)
    (h' : Hangs K orelse) : Proceeds K False loud [] (branch test body orelse) := by
  have hcondition : "CONDITION" ∉ bodyInputs := by decide
  refine ht.condition.bind_proceeds fun c => ?_
  refine proceeds_of_goes (Stacks.host (stacks_statement rfl)
    (fun _ _ h => (Option.some.inj h).symm) fun id w w' hw hj hrun => ?_)
  obtain ⟨_, w₁, hplug, hrun⟩ := run_bind_eq_ok hrun
  obtain ⟨hw₁, hsame₁⟩ := (passes_plugCondition id hcondition c).same hw hplug
  obtain ⟨_, w₂, hbody, hrun⟩ := run_bind_eq_ok hrun
  have hj₁ : w₁.blocks.joint id = some ⟨none, [], false⟩ := hsame₁.joint ▸ hj
  obtain ⟨hw₂, hhosts₂, hnames⟩ := hosts_plugBody h (by decide) hw₁ hj₁ (forall_mem_nil _) hbody
  have hhosts := (hsame₁.hosts id).trans hhosts₂ hj
  split at hrun
  · cases hrun
    exact ⟨w₂, hw₂, hhosts, rfl⟩
  · obtain ⟨_, w₃, hopcode, hrun⟩ := run_bind_eq_ok hrun
    obtain ⟨_, w₄, hbody', hrun⟩ := run_bind_eq_ok hrun
    cases hrun
    obtain ⟨bodies, hj₂, -⟩ := hhosts₂.host _ hj₁
    have hkind : ∀ b, w₂.blocks.find? id = some b →
        ({ b with opcode := "control_if_else" } : Block).joint? = b.joint? := by
      intro b hb
      have hjoint : b.joint? = some { next := none, bodies, top := false } := by
        rw [← hj₂, joint, hb, Option.bind_some]
      exact Block.joint?_setOpcode rfl (by rw [hjoint]; rfl)
    obtain ⟨hw₃, hsame₃⟩ := same_update hw₂ hkind hopcode
    have hj₃ := (congrFun hsame₃.joint id).trans hj₂
    have hnew : ∀ p ∈ bodies, p.1 ≠ "SUBSTACK2" := by
      intro p hp
      rcases hnames _ hj₂ p hp with hold | hname
      · cases hold
      · rw [hname]
        decide
    obtain ⟨hw₄, hhosts₄, -⟩ := hosts_plugBody h' (by decide) hw₃ hj₃ hnew hbody'
    exact ⟨w₄, hw₄, hhosts.trans ((hsame₃.hosts id).trans hhosts₄ hj₂) hj, rfl⟩

end Build

end BlockScript
