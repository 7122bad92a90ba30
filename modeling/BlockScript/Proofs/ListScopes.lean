import Mathlib.Order.Monotone.Basic
import BlockScript.Proofs.Integrity

/-!
# The lists of a sprite

A sprite opens a scope for its lists. Within a sprite whose code contains no class, all lists are
made in that scope, so that the blocks which name a list name one of the sprite
(`Workspace.Edits.namesLists`), and later sprites leave the scope alone
(`Program.exists_bounds`). So the lists of sprites are kept apart: of each list one can tell by its
identifier which sprite made it (`Build.listsResolve_of_compile`).

This takes a program in which no sprite is compiled in the middle of another one
(`Program.isSeparate`). A scope is not closed at the end of its sprite, so what is compiled after it
goes on using it, and no longer finds its own lists (`Build.not_listsResolve_straySource`).
-/

namespace BlockScript

open Workspace Bool List Nat Program.Stmt Table

/-! ### Ranges of identifiers -/

namespace Id

/-- The identifier is one of the first `hi`, but not of the first `lo`. -/
def Between (lo hi : Nat) (id : Id) : Prop := ∃ k, lo < k ∧ k ≤ hi ∧ id = Id.ofNat k

variable {lo hi lo' hi' : Nat} {id : Id}

theorem Between.mono (h : Between lo hi id) (hlo : lo' ≤ lo) (hhi : hi ≤ hi') :
    Between lo' hi' id := by
  obtain ⟨k, hk, hk', rfl⟩ := h
  exact ⟨k, by omega, by omega, rfl⟩

/-- Ranges that follow one another have no identifier in common. -/
theorem Between.ne {id' : Id} (h : Between lo hi id) (h' : Between lo' hi' id') (hle : hi ≤ lo') :
    id ≠ id' := by
  obtain ⟨k, -, hk, rfl⟩ := h
  obtain ⟨k', hk', -, rfl⟩ := h'
  intro heq
  rw [ofNat_inj] at heq
  omega

end Id

/-! ### Blocks that name lists -/

/-- The blocks name lists among those given, and the blocks and the lists have identifiers of the
given range. -/
structure Table.NamesLists (blocks : Table Block) (ls : List ItemList) (lo hi : Nat) : Prop where
  fields : ∀ id b, blocks.find? id = some b → ∀ p ∈ b.fields, p.2.Listed ls p.1
  nodup : (ls.map (·.id)).Nodup
  lists : ∀ l ∈ ls, Id.Between lo hi l.id
  keys : ∀ id ∈ blocks.keys, Id.Between lo hi id

theorem namesLists_nil (lo hi : Nat) : Table.NamesLists [] [] lo hi where
  fields _ _ hb := by cases hb
  nodup := nodup_nil
  lists _ hl := by cases hl
  keys _ hid := by cases hid

theorem Field.Listed.mono {ls ls' : List ItemList} {name : String} {f : Field}
    (h : f.Listed ls name) (hls : ls ⊆ ls') : f.Listed ls' name := by
  intro hname
  obtain ⟨l, hl, hf⟩ := h hname
  exact ⟨l, hls hl, hf⟩

theorem Block.Like.fields {b c : Block} (h : b.Like c) : c.fields = b.fields := by rw [h]

namespace Workspace

variable {L : Licence} {old : List Id} {w w' : Workspace} {start : Nat} {b : Block}

/-- Since the given moment, all lists were made in the scope in use, and all blocks that name lists
name these. -/
def NamesLists (w : Workspace) (start : Nat) : Prop :=
  start ≤ w.issued ∧ w.blocks.NamesLists w.lists start w.issued

/-- Blocks are added or changed, but no lists. -/
theorem NamesLists.step (h : w.NamesLists start) (hissued : w.issued ≤ w'.issued)
    (hlists : w'.lists = w.lists)
    (hblocks : ∀ id b, w'.blocks.find? id = some b →
      (id ∈ w.blocks.keys ∨ Id.Between w.issued w'.issued id) ∧
        ∀ p ∈ b.fields, p.2.Listed w.lists p.1) : w'.NamesLists start := by
  obtain ⟨hstart, hnames⟩ := h
  refine ⟨hstart.trans hissued, ⟨?_, ?_, ?_, fun id hid => ?_⟩⟩
  · rw [hlists]
    exact fun id b hb => (hblocks id b hb).2
  · rw [hlists]
    exact hnames.nodup
  · rw [hlists]
    exact fun l hl => (hnames.lists l hl).mono (Nat.le_refl _) hissued
  · obtain ⟨b, hb⟩ := mem_keys_iff.1 hid
    rcases (hblocks id b hb).1 with hold | hnew
    · exact (hnames.keys id hold).mono (Nat.le_refl _) hissued
    · exact hnew.mono hstart (Nat.le_refl _)

theorem NamesLists.of_blocks_eq (h : w.NamesLists start) (hissued : w.issued ≤ w'.issued)
    (hlists : w'.lists = w.lists) (hblocks : w'.blocks = w.blocks) : w'.NamesLists start :=
  h.step hissued hlists fun id b hb =>
    ⟨.inl (mem_keys_of_find? (hblocks ▸ hb)), h.2.fields id b (hblocks ▸ hb)⟩

theorem NamesLists.stacked (h : w.NamesLists start) (hb : b.fields = []) :
    (w.stacked b).NamesLists start := by
  have hissued := issued_stacked w b
  refine h.step (by omega) (lists_stacked w b) fun id c hc => ?_
  rcases find?_stacked_cases hc with ⟨a, ha, hlike⟩ | ⟨rfl, rfl⟩
  · refine ⟨.inl (mem_keys_of_find? ha), ?_⟩
    rw [hlike.fields]
    exact h.2.fields id a ha
  · refine ⟨.inr ⟨w.issued + 1, by omega, by omega, rfl⟩, ?_⟩
    rw [hb]
    exact fun p hp => by cases hp

theorem NamesLists.amend (h : w.NamesLists start) {id : Id} {f : Block → Block}
    (hf : ∀ b, w.blocks.find? id = some b → ∀ p ∈ (f b).fields, p ∈ b.fields ∨
      p.2.Listed w.lists p.1) : (w.amend id f).NamesLists start := by
  refine h.step (Nat.le_refl _) rfl fun k c hc => ?_
  obtain ⟨a, ha, ⟨-, rfl⟩ | ⟨rfl, rfl⟩⟩ := find?_amend_cases hc
  · exact ⟨.inl (mem_keys_of_find? ha), h.2.fields k c ha⟩
  · refine ⟨.inl (mem_keys_of_find? ha), fun p hp => ?_⟩
    exact (hf a ha p hp).elim (h.2.fields k a ha p) id

theorem NamesLists.addList (h : w.NamesLists start) (name : String) (items : Value) :
    (addList { w with issued := w.issued + 1 }
      ⟨name, Id.ofNat (w.issued + 1), items⟩).NamesLists start := by
  obtain ⟨hstart, hnames⟩ := h
  have hold : ∀ l ∈ w.lists, l.id ≠ Id.ofNat (w.issued + 1) := fun l hl =>
    (hnames.lists l hl).ne ⟨w.issued + 1, lt_succ_self _, Nat.le_refl _, rfl⟩ (Nat.le_refl _)
  refine ⟨le_succ_of_le hstart, ⟨?_, ?_, ?_, fun id hid => ?_⟩⟩
  · rw [lists_addList]
    exact fun id b hb p hp => (hnames.fields id b hb p hp).mono (subset_append_left _ _)
  · rw [lists_addList, map_append]
    refine hnames.nodup.append (nodup_singleton _) fun id hid heq => ?_
    obtain ⟨l, hl, rfl⟩ := mem_map.1 hid
    exact hold l hl (mem_singleton.1 heq)
  · rw [lists_addList]
    intro l hl
    rcases mem_append.1 hl with hl | hl
    · exact (hnames.lists l hl).mono (Nat.le_refl _) (le_succ _)
    · cases mem_singleton.1 hl
      exact ⟨w.issued + 1, lt_succ_of_le hstart, Nat.le_refl _, rfl⟩
  · exact (hnames.keys id hid).mono (Nat.le_refl _) (le_succ _)

theorem NamesLists.headed (h : w.NamesLists start) (name : String) (p : Procedure) (y : Int) :
    (w.headed name p y).NamesLists start := by
  have hvalue : "VALUE" ∉ namingFields := by decide
  refine h.step (by simp only [Workspace.headed]; omega) rfl fun id c hc => ?_
  rcases find?_append_cases hc with hold | hnew
  · exact ⟨.inl (mem_keys_of_find? hold), h.2.fields id c hold⟩
  · obtain ⟨m, hm, hm', rfl⟩ := issued_of_mem_headBlocks (mem_keys_of_find? hnew)
    refine ⟨.inr ⟨m, hm, hm', rfl⟩, fun q hq => ?_⟩
    rcases headBlocks_cases hnew with ⟨name, rfl⟩ | ⟨-, rfl⟩ | ⟨-, rfl⟩
    · cases mem_singleton.1 hq
      exact Field.listed_of_not_mem hvalue
    · cases hq
    · cases hq

/-- **Without classes inside, the blocks of a sprite name its own lists.** -/
theorem Edits.namesLists (h : Edits L old w w') (hL : ¬L.nests) (hw : w.NamesLists start) :
    w'.NamesLists start := by
  induction h with
  | refl w => exact hw
  | trans h h' ih ih' => exact ih' hL (ih hL hw)
  | issue w n => exact hw.of_blocks_eq (Nat.le_add_right _ _) rfl rfl
  | note w hat arguments soundsUsed => exact hw.of_blocks_eq (Nat.le_refl _) rfl rfl
  | turn hp => exact hw.of_blocks_eq (Nat.le_refl _) rfl rfl
  | declare v hx => exact hw.of_blocks_eq (le_succ _) rfl rfl
  | addList items hname => exact hw.addList _ items
  | addMessage hm => exact hw.of_blocks_eq (le_succ _) rfl rfl
  | @push _ _ w b hb =>
    refine hw.step (le_succ _) rfl fun id c hc => ?_
    rcases find?_append_cases hc with hold | hnew
    · exact ⟨.inl (mem_keys_of_find? hold), hw.2.fields id c hold⟩
    · obtain ⟨rfl, rfl⟩ := Table.find?_singleton hnew
      exact ⟨.inr ⟨w.issued + 1, lt_succ_self _, Nat.le_refl _, rfl⟩,
        fun p hp => (hb.fields p hp).2⟩
  | stack hb hopcode => exact hw.stacked hb.fields
  | hang id hp => exact hw.amend fun b _ p hp => .inl hp
  | amend hb hid hloose hf =>
    refine hw.amend fun c hc p hp => ?_
    cases hb.symm.trans hc
    exact (hf.fields p hp).imp_right And.right
  | call hcall hp hargs hkeys hinputs ih =>
    exact (ih hL (hw.stacked rfl)).amend fun b _ p hp => .inl hp
  | announce names hdefines hname => exact hw.of_blocks_eq (Nat.le_add_right _ _) rfl rfl
  | define y hdefines hp hopen => exact hw.headed _ _ y
  | sprite name settings hnests => exact absurd hnests hL

/-! ### Scopes -/

theorem scopes_eq (hs : w.scopes ≠ []) : w.scopes = w.scopes.dropLast ++ [w.lists] := by
  rw [lists, getLast?_eq_some_getLast hs]
  exact (dropLast_append_getLast hs).symm

/-- Without classes inside, only the scope in use changes, and no sprite is finished. -/
theorem Edits.scopes (h : Edits L old w w') (hL : ¬L.nests) (hs : w.scopes ≠ []) :
    w'.scopes = w.scopes.dropLast ++ [w'.lists] ∧ w'.drafts = w.drafts := by
  induction h with
  | refl | issue | note | turn | declare | addMessage | push | hang | amend | announce | define =>
    exact ⟨scopes_eq hs, rfl⟩
  | trans h h' ih ih' =>
    obtain ⟨hscopes, hdrafts⟩ := ih hL hs
    obtain ⟨hscopes', hdrafts'⟩ := ih' hL (by rw [hscopes]; simp)
    rw [hscopes, dropLast_concat] at hscopes'
    exact ⟨hscopes', hdrafts'.trans hdrafts⟩
  | addList items hname =>
    rw [lists_addList]
    exact ⟨rfl, rfl⟩
  | stack hb hopcode =>
    rw [lists_stacked, stacked_eq]
    exact ⟨scopes_eq hs, rfl⟩
  | @call _ _ w _ _ _ _ _ hcall hp hargs hkeys hinputs ih =>
    rw [stacked_eq] at ih
    exact ih hL hs
  | sprite name settings hnests => exact absurd hnests hL

end Workspace

/-! ### Programs that keep sprites apart -/

namespace Program

open Build

/-- A class outside of functions. -/
def Stmt.isClass : Stmt → Bool
  | .classDef _ _ _ => true
  | _ => false

/-- A function outside of classes that makes a script. -/
def Stmt.isScript : Stmt → Bool
  | .functionDef name _ _ _ => Text.startsWith name "when_"
  | _ => false

/-- Whether a class is compiled in the middle of what the statement makes. -/
def Stmt.isNested : Stmt → Bool
  | .classDef _ _ body => body.any (·.hasInnerClass)
  | .functionDef name _ body _ => Text.startsWith name "when_" && haveClass body
  | _ => false

/-- No class is compiled in the middle of a sprite: there are no classes inside of functions, and
there are not both classes and scripts outside of them. -/
def isSeparate (program : Module) : Bool :=
  !program.any (·.isNested) && !(program.any (·.isClass) && program.any (·.isScript))

/-- A licence to do all that code can do which contains no class. -/
def plainLicence : Licence := ⟨fun _ _ => True, False, False⟩

variable {w w' : Workspace}

/-- What is known after a class that contains no other. -/
structure Finished (w w' : Workspace) (d : Draft) (ls : List ItemList) : Prop where
  sound : w'.Sound
  issued : w.issued ≤ w'.issued
  blocks : w'.blocks = w.blocks
  scopes : w'.scopes = w.scopes ++ [ls]
  drafts : w'.drafts = w.drafts ++ [d]
  scope : d.scope = w.scopes.length
  names : d.blocks.NamesLists ls w.issued w'.issued

/-- A class has a scope of its own. -/
theorem Stmt.exists_finished {name : String} {decorators : List Expr} {body : List Stmt}
    (hw : w.Sound) (hbody : ∀ s ∈ body, s.hasInnerClass = false)
    (hrun : (classDef name decorators body).visit.run w = (.ok (), w')) :
    ∃ d ls, Finished w w' d ls := by
  have hnests : ¬plainLicence.defining.nests := fun h => h
  have hmembers : ∀ s ∈ body, s.visitMember.Defines plainLicence s.procedure? :=
    members_define (fun h => h) body (fun _ _ => trivial) fun s hs h => by
      rw [hbody s hs] at h
      cases h
  rw [visit, methods_eq_map] at hrun
  obtain ⟨w₁, hedits, -, rfl⟩ := exists_closed hw hmembers hrun
  have hnone : ∀ i ∈ [], Id.Issued w.opened.issued i := fun _ hi => by cases hi
  have hstart : w.opened.NamesLists w.issued := by
    have hlists : w.opened.lists = [] := by simp [opened, lists]
    refine ⟨Nat.le_refl _, ?_⟩
    rw [hlists]
    exact namesLists_nil _ _
  have hopened : w.opened.scopes ≠ [] := by simp [opened]
  obtain ⟨hscopes, hdrafts⟩ := hedits.scopes hnests hopened
  have hgrows := hedits.grows hnone
  have hdrop : w.opened.scopes.dropLast = w.scopes := by simp [opened]
  rw [hdrop] at hscopes
  refine ⟨w₁.draft name (spriteSettings? decorators), w₁.lists, ?_, ?_, ?_, ?_, ?_, ?_, ?_⟩
  · exact hw.closed (hedits.sound hnone hw.opened) hgrows name _
  · exact hgrows.issued
  · rfl
  · exact hscopes
  · rw [closed, hdrafts]
    rfl
  · rw [draft, scope, hscopes]
    simp
  · exact (hedits.namesLists hnests hstart).2

/-- A bound in front of others. -/
def consBound (n : Nat) (bounds : Nat → Nat) : Nat → Nat
  | 0 => n
  | i + 1 => bounds i

theorem monotone_consBound {n : Nat} {bounds : Nat → Nat} (h : n ≤ bounds 0)
    (hmono : Monotone bounds) : Monotone (consBound n bounds) := by
  refine monotone_nat_of_le_succ fun i => ?_
  cases i with
  | zero => exact h
  | succ i => exact hmono (le_succ i)

theorem listsOf_of_extended {scope : Nat} (h : w.scopes <+: w'.scopes)
    (hscope : scope < w.scopes.length) : w'.listsOf scope = w.listsOf scope := by
  obtain ⟨rest, hrest⟩ := h
  rw [listsOf, listsOf, ← hrest, getElem?_append_left hscope]

/-- **Classes are compiled one after the other**, and each makes its lists in its own time. -/
theorem exists_bounds {program : Module} (hnested : ∀ s ∈ program, s.isNested = false)
    (hscript : ∀ s ∈ program, s.isScript = false) (hw : w.Sound)
    (hrun : (program.forM (·.visitTop)).run w = (.ok (), w')) :
    ∃ (ds : List Draft) (bounds : Nat → Nat), w'.drafts = w.drafts ++ ds ∧ w'.blocks = w.blocks ∧
      w.scopes <+: w'.scopes ∧ bounds 0 = w.issued ∧ Monotone bounds ∧
      ∀ i d, ds[i]? = some d →
        Table.NamesLists d.blocks (w'.listsOf d.scope) (bounds i) (bounds (i + 1)) := by
  induction program generalizing w with
  | nil =>
    cases hrun
    exact ⟨[], fun _ => w'.issued, (append_nil _).symm, rfl, prefix_refl _, rfl,
      monotone_const, fun i d hd => by simp at hd⟩
  | cons s rest ih =>
    obtain ⟨_, v, hfirst, hrest⟩ := run_bind_eq_ok hrun
    replace hfirst : s.visitTop.run w = (.ok _, v) := hfirst
    obtain ⟨hnested, hnestedRest⟩ := forall_mem_cons.1 hnested
    obtain ⟨hscript, hscriptRest⟩ := forall_mem_cons.1 hscript
    cases s with
    | classDef name decorators body =>
      rw [isNested, any_eq_false] at hnested
      have hbody : ∀ s ∈ body, s.hasInnerClass = false := fun s hs =>
        eq_false_iff.2 (hnested s hs)
      obtain ⟨d, ls, hd⟩ := exists_finished hw hbody hfirst
      obtain ⟨ds, bounds, hdrafts, hblocks, hscopes, hzero, hmono, hnames⟩ :=
        ih hnestedRest hscriptRest hd.sound hrest
      have hfresh : w.scopes.length < v.scopes.length := by
        rw [hd.scopes]
        simp
      refine ⟨d :: ds, consBound w.issued bounds, ?_, hblocks.trans hd.blocks, ?_, rfl,
        monotone_consBound (hzero ▸ hd.issued) hmono, fun i d' hd' => ?_⟩
      · rw [hdrafts, hd.drafts, append_assoc]
        rfl
      · refine List.IsPrefix.trans ?_ hscopes
        rw [hd.scopes]
        exact prefix_append _ _
      · cases i with
        | zero =>
          cases hd'
          have hls : v.listsOf d.scope = ls := by
            rw [listsOf, hd.scope, hd.scopes]
            simp
          rw [listsOf_of_extended hscopes (hd.scope ▸ hfresh), hls]
          have hnames := hd.names
          rw [← hzero] at hnames
          exact hnames
        | succ i => exact hnames i d' hd'
    | functionDef name params body trailer =>
      rw [isScript] at hscript
      rw [visitTop, hscript] at hfirst
      cases hfirst
      exact ih hnestedRest hscriptRest hw hrest
    | expr | assign | augAssign | forLoop | whileLoop | conditional | other =>
      cases hfirst
      exact ih hnestedRest hscriptRest hw hrest

/-- Scripts outside of classes belong to one sprite. -/
theorem namesLists_of_scripts {program : Module} (hnested : ∀ s ∈ program, s.isNested = false)
    (hclass : ∀ s ∈ program, s.isClass = false) (hw : w.Sound) (hlists : w.scopes = [[]])
    (hblocks : w.blocks = []) (hrun : (program.forM (·.visitTop)).run w = (.ok (), w')) :
    w'.NamesLists w.issued ∧ w'.drafts = w.drafts := by
  have hacts : (program.forM (·.visitTop)).Acts plainLicence := by
    refine acts_forM fun s hs => ?_
    have hnested := hnested s hs
    have hclass := hclass s hs
    cases s with
    | classDef => cases hclass
    | functionDef name params body trailer =>
      rw [visitTop]
      split
      · next hname =>
        rw [isNested, hname, Bool.true_and] at hnested
        refine visit_acts (fun h => h) _ (fun _ _ => trivial) fun h => ?_
        cases hnested.symm.trans h
      · exact acts_pure
    | expr | assign | augAssign | forLoop | whileLoop | conditional | other => exact acts_pure
  have hnests : ¬plainLicence.nests := fun h => h
  obtain ⟨⟨hedits, -⟩, -⟩ := hacts w hw (.refl _) (nil_subset _) () w' hrun
  have hstart : w.NamesLists w.issued := by
    have hlists : w.lists = [] := by
      rw [lists, hlists]
      rfl
    refine ⟨Nat.le_refl _, ?_⟩
    rw [hlists, hblocks]
    exact namesLists_nil _ _
  exact ⟨hedits.namesLists hnests hstart, (hedits.scopes hnests (by simp [hlists])).2⟩

/-- The sprites of a program that keeps them apart make their lists one after the other. -/
theorem exists_bounds_targets {program : Module} {n : Nat} (hseparate : isSeparate program)
    (hrun : (program.forM (·.visitTop)).run { issued := n } = (.ok (), w')) :
    ∃ bounds : Nat → Nat, Monotone bounds ∧ ∀ i t, w'.targets[i]? = some t →
      Table.NamesLists t.blocks t.lists (bounds i) (bounds (i + 1)) := by
  rw [isSeparate, and_eq_true, not_eq_true', not_eq_true', and_eq_false_iff,
    any_eq_false] at hseparate
  obtain ⟨hnested, hkinds⟩ := hseparate
  replace hnested : ∀ s ∈ program, s.isNested = false := fun s hs =>
    eq_false_iff.2 (hnested s hs)
  have hempty := sound_empty n
  rcases hkinds with hclass | hscript
  · rw [any_eq_false] at hclass
    obtain ⟨hnames, hdrafts⟩ := namesLists_of_scripts hnested
      (fun s hs => eq_false_iff.2 (hclass s hs)) hempty rfl rfl hrun
    refine ⟨consBound n fun _ => w'.issued, monotone_consBound hnames.1 monotone_const, ?_⟩
    intro i t ht
    rw [targets, hdrafts, map_nil, append_nil] at ht
    split at ht
    · simp at ht
    · cases i with
      | zero =>
        cases ht
        exact hnames.2
      | succ i => simp at ht
  · rw [any_eq_false] at hscript
    obtain ⟨ds, bounds, hdrafts, hblocks, -, -, hmono, hnames⟩ := exists_bounds hnested
      (fun s hs => eq_false_iff.2 (hscript s hs)) hempty hrun
    refine ⟨bounds, hmono, fun i t ht => ?_⟩
    rw [targets, hblocks, hdrafts] at ht
    obtain ⟨d, hd, rfl⟩ := Option.map_eq_some_iff.1 (getElem?_map.symm.trans ht)
    exact hnames i d hd

end Program

/-! ### The lists of compiled sprites -/

/-- A block that names a list names one of the sprite. -/
def Target.ListsResolve (t : Target) : Prop :=
  ∀ id b f, t.blocks.find? id = some b → ("LIST", f) ∈ b.fields →
    ∃ n i items pairs, f.toValue = .list [.str n, .str i] ∧ listsValue t.lists = .dict pairs ∧
      Table.find? pairs i = some (.list [.str n, items])

theorem Table.NamesLists.listsResolve {t : Target} {lo hi : Nat}
    (h : t.blocks.NamesLists t.lists lo hi) : t.ListsResolve := by
  intro id b f hb hf
  obtain ⟨l, hl, rfl⟩ := h.fields id b hb _ hf rfl
  refine ⟨l.name, l.id, l.items, _, rfl, rfl, find?_of_mem ?_ (mem_map_of_mem hl)⟩
  rw [Table.keys, map_map]
  exact h.nodup

namespace Build

open Program

variable {source : String} {program : Module} {w w' : Workspace} {c : Compilation}

/-- **Lists are kept apart** in programs that do not compile a class in the middle of another
sprite: a block that names a list names one of its own sprite, the sprites make their blocks and
their lists one sprite after the other, and so no two of them have a list in common. -/
theorem listsResolve_of_compile (h : (compile source).run w = (.ok c, w'))
    (hparse : parse source = .ok program) (hseparate : isSeparate program = true) :
    (∀ t ∈ c.targets, t.ListsResolve) ∧
      (∃ bounds : Nat → Nat, Monotone bounds ∧ ∀ (i : Nat) (t : Target), c.targets[i]? = some t →
        (∀ id ∈ t.blocks.keys, Id.Between (bounds i) (bounds (i + 1)) id) ∧
          ∀ l ∈ t.lists, Id.Between (bounds i) (bounds (i + 1)) l.id) ∧
      ∀ (i j : Nat) (t t' : Target), i ≠ j → c.targets[i]? = some t → c.targets[j]? = some t' →
        ∀ l ∈ t.lists, ∀ l' ∈ t'.lists, l.id ≠ l'.id := by
  obtain ⟨program', hparse', hrun, htargets⟩ := exists_visits h
  cases hparse.symm.trans hparse'
  obtain ⟨bounds, hmono, hnames⟩ := exists_bounds_targets hseparate hrun
  rw [htargets]
  refine ⟨fun t ht => ?_, ⟨bounds, hmono, fun i t ht => ⟨(hnames i t ht).keys, ?_⟩⟩, ?_⟩
  · obtain ⟨i, hi⟩ := List.mem_iff_getElem?.1 ht
    exact (hnames i t hi).listsResolve
  · exact (hnames i t ht).lists
  · intro i j t t' hij ht ht' l hl l' hl'
    have hl := (hnames i t ht).lists l hl
    have hl' := (hnames j t' ht').lists l' hl'
    rcases Nat.lt_or_gt_of_ne hij with hlt | hgt
    · exact hl.ne hl' (hmono hlt)
    · exact (hl'.ne hl (hmono hgt)).symm

/-- Two classes that have lists of one name. -/
def twinSource : String :=
  "class Cat:\n" ++
  " def when_flag_clicked(self):\n" ++
  "  add_to_list(1, \"a\")\n" ++
  "  add_to_list(1, \"b\")\n" ++
  "class Dog:\n" ++
  " def when_flag_clicked(self):\n" ++
  "  add_to_list(2, \"a\")\n"

theorem listsResolve_twinSource :
    ∃ program c w', parse twinSource = .ok program ∧ isSeparate program = true ∧
      (compile twinSource).run {} = (.ok c, w') ∧
      c.targets.map (fun t => t.lists.map (·.name)) = [["a", "b"], ["a"]] ∧
      (∀ t ∈ c.targets, t.ListsResolve) ∧
      ∀ (i j : Nat) (t t' : Target), i ≠ j → c.targets[i]? = some t → c.targets[j]? = some t' →
        ∀ l ∈ t.lists, ∀ l' ∈ t'.lists, l.id ≠ l'.id := by
  have hprogram : (parse twinSource).toOption.map isSeparate = some true := by decide +kernel
  have hseen : ((compile twinSource).run {}).1.toOption.map
      (·.targets.map fun t => t.lists.map (·.name)) = some [["a", "b"], ["a"]] := by
    decide +kernel
  obtain ⟨c, w', hrun, hseen⟩ := exists_of_run_map hseen
  obtain ⟨program, hparse, -⟩ := exists_visits hrun
  rw [hparse] at hprogram
  have hseparate := Option.some.inj hprogram
  obtain ⟨hresolve, -, hapart⟩ := listsResolve_of_compile hrun hparse hseparate
  exact ⟨program, c, w', hparse, hseparate, hrun, hseen, hresolve, hapart⟩

/-- A script with a list, followed by a class without any. -/
def straySource : String :=
  "def when_flag_clicked():\n" ++
  " add_to_list(1, \"scores\")\n" ++
  "class Cat:\n" ++
  " pass\n"

/-- The list of a script is lost when a class follows. -/
theorem not_listsResolve_straySource :
    ∃ c w', (compile straySource).run {} = (.ok c, w') ∧ ∃ t ∈ c.targets, ¬t.ListsResolve := by
  have hseen : ((compile straySource).run {}).1.toOption.map (·.targets.any fun t =>
      t.lists.isEmpty && (t.blocks.find? (Id.ofNat 3)).any (·.fields.has "LIST")) = some true := by
    decide +kernel
  obtain ⟨c, w', hrun, hseen⟩ := exists_of_run_map hseen
  obtain ⟨t, ht, hstray⟩ := List.any_eq_true.1 hseen
  rw [Bool.and_eq_true, List.isEmpty_iff, Option.any_eq_true] at hstray
  obtain ⟨hlists, b, hb, hfield⟩ := hstray
  obtain ⟨f, hf⟩ := Table.has_iff.1 hfield
  refine ⟨c, w', hrun, t, ht, fun hresolve => ?_⟩
  obtain ⟨n, i, items, pairs, -, hpairs, hfind⟩ :=
    hresolve (Id.ofNat 3) b f hb (Table.mem_of_find? hf)
  rw [hlists] at hpairs
  cases hpairs
  cases hfind

end Build

end BlockScript
