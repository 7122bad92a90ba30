import BlockScript.Proofs.CoreAssembly
import BlockScript.Proofs.CoreParsing
import BlockScript.Proofs.CoreRenaming

/-!
# From a program to a project and back

A plain program is compiled, made into a project, listed, and compiled again. Its targets are then the
same up to identifiers (`Class.alike_of_listing`), if the listing is a program at all: a listing puts
every body on lines of its own and every operation in brackets, and there are limits to both. Towers
of branches show that a plain program can have a listing that goes beyond them.
-/

namespace BlockScript

open Program Build Bool Core.Item Core.Sheet List Program.Token Target

namespace Core

/-! ### Leaving out what does nothing -/

/-- Two bodies do the same from a workspace on, with or without a first block. -/
def SameBody (steps steps' : List (Build Unit)) : Prop :=
  Build.sequence steps = Build.sequence steps' ∧ ∀ parent first w,
      (first = none → w.previous = none) →
    (substackFrom parent first steps).run w = (substackFrom parent first steps').run w

variable {steps steps' : List (Build Unit)}

theorem SameBody.plugBody (h : SameBody steps steps') (id : Id) (input : String) :
    plugBody id input steps = plugBody id input steps' := by
  have hsubstack : substack id steps = substack id steps' := by
    funext w
    change (substack id steps).run w = (substack id steps').run w
    rw [substack, substack, run_bind_of_ok (run_get w), run_bind_of_ok (run_get w),
      run_bind_of_ok (run_setPrevious none w), run_bind_of_ok (run_setPrevious none w),
      run_bind, run_bind, h.2 id none _ fun _ => rfl]
  rw [Build.plugBody, hsubstack]
  rfl

theorem sameBody_nil : SameBody [] [] := ⟨rfl, fun _ _ _ _ => rfl⟩

theorem substackFrom_pure (parent : Id) {first : Option Id} {w : Workspace}
    (h : first = none → w.previous = none) (steps : List (Build Unit)) :
    (substackFrom parent first (pure () :: steps)).run w = (substackFrom parent first steps).run w := by
  rw [substackFrom, pure_bind, run_bind_of_ok (run_get w)]
  cases first with
  | none => rw [h rfl]
  | some p => rfl

theorem SameBody.skip (h : SameBody steps steps') : SameBody (pure () :: steps) steps' :=
  ⟨h.1, fun parent first w hw => (substackFrom_pure parent hw steps).trans (h.2 parent first w hw)⟩

theorem SameBody.cons (h : SameBody steps steps') (s : Build Unit) :
    SameBody (s :: steps) (s :: steps') := by
  refine ⟨?_, fun parent first w hw => ?_⟩
  · rw [sequence_cons, sequence_cons, h.1]
  · rw [substackFrom, substackFrom, run_bind, run_bind]
    rcases s.run w with ⟨_ | _, w₁⟩
    · rfl
    · change (get >>= _ : Build (Option Id)).run w₁ = (get >>= _ : Build (Option Id)).run w₁
      rw [run_bind_of_ok (run_get w₁), run_bind_of_ok (run_get w₁)]
      cases first with
      | some p => exact h.2 parent (some p) w₁ fun hp => absurd hp (Option.some_ne_none p)
      | none =>
        cases hprev : w₁.previous with
        | none => exact h.2 parent none w₁ fun _ => hprev
        | some p =>
          change (setParent (some p) parent >>= _ : Build (Option Id)).run w₁ =
            (setParent (some p) parent >>= _ : Build (Option Id)).run w₁
          rw [run_bind, run_bind]
          rcases (setParent (some p) parent).run w₁ with ⟨_ | _, w₂⟩
          · rfl
          · exact h.2 parent (some p) w₂ fun hp => absurd hp (Option.some_ne_none p)

theorem SameBody.symm (h : SameBody steps steps') : SameBody steps' steps :=
  ⟨h.1.symm, fun parent first w hw => (h.2 parent first w hw).symm⟩

theorem branch_of_sameBody {body body' orelse orelse' : List (Build Unit)} (h : SameBody body body')
    (h' : SameBody orelse orelse') (hempty : orelse.isEmpty = orelse'.isEmpty) (test : Meaning) :
    branch test body orelse = branch test body' orelse' := by
  rw [branch, branch, hempty]
  simp only [h.plugBody, h'.plugBody]

theorem sameBody_filled {is : Script} (h : SameBody (builds is) steps) :
    SameBody (builds (filled is)) steps := by
  cases is with
  | nil => exact h.skip
  | cons i is => exact h

mutual

theorem Item.build_tidy : ∀ i : Item, i.tidy.build = i.build
  | call opcode inputs args => rfl
  | assign x t => rfl
  | change x t => rfl
  | skip => rfl
  | choice c body orelse => by
    have hbody := sameBody_filled (sameBody_tidies body)
    rw [tidy, build, build]
    cases orelse with
    | nil => exact branch_of_sameBody hbody sameBody_nil rfl _
    | cons o os =>
      have horelse := sameBody_filled (sameBody_tidies (o :: os))
      refine branch_of_sameBody hbody horelse ?_ _
      cases tidies (o :: os) <;> rfl
  | loop times body => by
    have hbody := sameBody_filled (sameBody_tidies body)
    rw [tidy, build, build, repeatLoop, repeatLoop]
    simp only [hbody.plugBody]

theorem Item.sameBody_tidies : ∀ is : Script,
    SameBody (builds (tidies is)) (builds is)
  | [] => sameBody_nil
  | i :: is => by
    have his := sameBody_tidies is
    rw [tidies]
    split
    · next hskip =>
      cases i with
      | skip => exact his.symm.skip.symm
      | _ => cases hskip
    · rw [builds, builds, build_tidy i]
      exact his.cons _

end

/-- **Tidying a class does not change what it compiles to.** -/
theorem Class.build_tidy (c : Class) : c.tidy.build = c.build := by
  have hmethod (m : Method) : m.tidy.build = m.build := by
    have hbody :
        Build.sequence (builds m.tidy.body) = Build.sequence (builds m.body) :=
      (sameBody_filled (sameBody_tidies m.body)).1
    rw [Method.build, Method.build, script, script, hbody]
    rfl
  have hmethods : c.tidy.methods.map Method.build = c.methods.map Method.build := by
    rw [tidy, map_map]
    exact map_congr_left fun m _ => hmethod m
  rw [build, build, hmethods]
  rfl

theorem Class.forM_build_tidy (cs : List Class) :
    (cs.map tidy).forM (·.build) = cs.forM (·.build) := by
  induction cs with
  | nil => rfl
  | cons c cs ih => rw [map_cons, forM_cons, forM_cons, c.build_tidy, ih]

/-! ### Plain programs compile -/

theorem Term.printable_of_isPlain {t : Term} (h : t.isPlain) : t.Printable := by
  induction t with
  | text s => trivial
  | number i =>
    rw [isPlain, decide_eq_true_eq] at h
    exact h
  | named x => trivial
  | operation o left right ihl ihr =>
    rw [isPlain, and_eq_true] at h
    exact ⟨ihl h.1, ihr h.2⟩

theorem Cond.printable_of_isPlain {c : Cond} (h : c.isPlain) : c.Printable := by
  induction c with
  | compare r left right =>
    simp only [isPlain, and_eq_true] at h
    exact ⟨Term.printable_of_isPlain h.1.2, Term.printable_of_isPlain h.2⟩
  | both o left right ihl ihr =>
    rw [isPlain, and_eq_true] at h
    exact ⟨ihl h.1, ihr h.2⟩
  | not c ih => exact ih h

mutual

theorem Item.printable_of_isPlain : ∀ {i : Item}, i.isPlain → i.Printable
  | call opcode inputs args, h => by
    obtain ⟨v, -, t, rfl, rfl, rfl, -, ht⟩ := exists_verb h
    exact forall_mem_singleton.2 (Term.printable_of_isPlain ht)
  | assign x t, h => by
    rw [isPlain, and_eq_true] at h
    exact Term.printable_of_isPlain h.2
  | change x t, h => by
    rw [isPlain, and_eq_true] at h
    exact Term.printable_of_isPlain h.2
  | choice c body orelse, h => by
    simp only [isPlain, and_eq_true] at h
    exact ⟨Cond.printable_of_isPlain h.1.1, allPrintable_of_arePlain h.1.2,
      allPrintable_of_arePlain h.2⟩
  | loop times body, h => by
    rw [isPlain, and_eq_true] at h
    exact ⟨Term.printable_of_isPlain h.1, allPrintable_of_arePlain h.2⟩
  | skip, _ => trivial

theorem Item.allPrintable_of_arePlain : ∀ {is : Script}, arePlain is →
    AllPrintable is
  | [], _ => trivial
  | i :: is, h => by
    rw [arePlain, and_eq_true] at h
    exact ⟨printable_of_isPlain h.1, allPrintable_of_arePlain h.2⟩

end

theorem Class.printable_of_isPlain {c : Class} (h : c.isPlain) : c.Printable := by
  simp only [isPlain, and_eq_true, all_eq_true] at h
  exact fun m hm => allPrintable_of_arePlain (h.2 m hm)

end Core

theorem Workspace.targets_shift (k : Nat) (w : Workspace) :
    (w.shift k).targets = w.targets.map (rename (Id.shift k)) := by
  have hlists : (w.shift k).lists = w.lists.map (ItemList.rename (Id.shift k)) := by
    rw [lists, lists, shift, getLast?_map]
    cases w.scopes.getLast? <;> rfl
  have htarget (d : Draft) : (w.shift k).target (d.rename (Id.shift k)) =
      (w.target d).rename (Id.shift k) := by
    have hscope : (w.shift k).listsOf d.scope =
        (w.listsOf d.scope).map (ItemList.rename (Id.shift k)) := by
      rw [listsOf, listsOf, shift, getElem?_map]
      cases w.scopes[d.scope]? <;> rfl
    rw [target, target, rename, ← hscope]
    rfl
  have hempty : (w.shift k).blocks.isEmpty = w.blocks.isEmpty := isEmpty_map
  have hdefault : (w.shift k).defaultTarget = w.defaultTarget.rename (Id.shift k) := by
    rw [defaultTarget, defaultTarget, rename, ← hlists]
    rfl
  have hdrafts : (w.shift k).drafts.map (w.shift k).target =
      (w.drafts.map w.target).map (rename (Id.shift k)) := by
    rw [shift, map_map, map_map]
    exact map_congr_left fun d _ => htarget d
  rw [targets, targets, map_append, hdrafts, hempty, hdefault]
  split <;> rfl

namespace Core

variable {cs : List Class} {ts : List Target}

/-- **All programs that do what some plain classes do compile alike**: there is one workspace that
they end with, up to a shift. -/
theorem Class.exists_compile (h : ∀ c ∈ cs, c.isPlain) :
    ∃ w₀ : Workspace, ∀ (source : String) (program : Module), parse source = .ok program →
      program.forM (·.visitTop) = cs.forM (·.build) → ∀ w,
        (compile source).run w =
          (.ok ⟨(w₀.shift w.issued).targets, stageSettings? program⟩, w₀.shift w.issued) ∧
        Forall₂ Lists cs (w₀.shift w.issued).targets := by
  have hbare (n : Nat) : Bare { issued := n } := ⟨rfl, rfl, by simp⟩
  have hlistable (n : Nat) : Workspace.Listable { issued := n } :=
    ⟨⟨forall_mem_nil _, forall_mem_nil _⟩, forall_mem_nil _⟩
  obtain ⟨_, w₀, hrun₀, -⟩ := (forM_meets cs (hbare 0)).exists_run
    fun hbad => hbad fun c hc => printable_of_isPlain (h c hc)
  refine ⟨w₀, fun source program hparse hsteps w => ?_⟩
  have hrun : (cs.forM (·.build)).run { issued := w.issued } = (.ok (), w₀.shift w.issued) := by
    have hshift := (repeats_forM (k := w.issued) h _ _ _ (hlistable 0) hrun₀).1
    rwa [show Workspace.shift w.issued { issued := 0 } = { issued := w.issued } by
      simp [Workspace.shift, Table.rename]] at hshift
  refine ⟨?_, ?_⟩
  · rw [compile, run_bind_of_ok (run_modify _ w), hparse, run_bind_of_ok (run_lift_ok _ _), hsteps,
      run_bind_of_ok hrun]
    rfl
  · obtain ⟨hbare₁, ds, hds, hdrafts⟩ := (forM_meets cs (hbare w.issued)).of_eq_ok hrun
    have hlist := (repeats_forM (k := 0) h _ _ _ (hlistable w.issued) hrun).2.1.2
    rw [hbare₁.targets_eq]
    rw [hdrafts] at hlist ⊢
    have hplain := (forall₂_and_left _ _).2 ⟨h, hds⟩
    have hboth := ((forall₂_and_left _ _).2 ⟨hlist, hplain.flip⟩).flip
    refine forall₂_map_right_iff.2 (hboth.imp fun c d hd => ?_)
    exact ⟨hd.2.1, hd.2.2.realized hbare₁, hd.1⟩

/-! ### There and back -/

/-- The classes of a program, if they are plain and the stage has no settings. -/
def Class.ofPlain? (source : String) : Option (List Class) := do
  let program ← parse? source
  let cs ← ofModule? program
  if (stageSettings? program).isNone && cs.all isPlain then some cs else none

theorem Class.exists_program_of_ofPlain? {source : String} (h : ofPlain? source = some cs) :
    ∃ program, parse source = .ok program ∧ ofModule? program = some cs ∧
      stageSettings? program = none ∧ ∀ c ∈ cs, c.isPlain := by
  obtain ⟨program, hparse, h⟩ := Option.bind_eq_some_iff.1 h
  obtain ⟨cs', hcs, h⟩ := Option.bind_eq_some_iff.1 h
  split at h
  · next hplain =>
    cases h
    rw [and_eq_true, Option.isNone_iff_eq_none, all_eq_true] at hplain
    exact ⟨program, by rw [parse, hparse], hcs, hplain⟩
  · cases h

/-- The listing of the class keeps within the limits of the language: it has less than a hundred
levels of indentation, and at most two hundred brackets are open at a time. -/
def Class.fits (c : Class) : Bool := c.tidy.methods.all fun m => Item.allFit 2 m.body

theorem all_fits_zipWith (h : Forall₂ Lists cs ts) :
    (zipWith of cs ts).all Sheet.fits = cs.all Class.fits ∧
      (zipWith of cs ts).map (·.core) = cs.map Class.tidy := by
  induction h with
  | nil => exact ⟨rfl, rfl⟩
  | cons _ _ ih =>
    rw [zipWith_cons_cons, all_cons, all_cons, map_cons, map_cons, ih.1, ih.2]
    exact ⟨rfl, rfl⟩

theorem legible_zipWith (h : Forall₂ Lists cs ts) :
    ∀ s ∈ zipWith of cs ts, s.Legible ∧ s.core.settings = none := by
  induction h with
  | nil => exact forall_mem_nil _
  | cons hc _ ih => exact forall_mem_cons.2 ⟨hc.legible, ih⟩

theorem Lists.silent (h : Forall₂ Lists cs ts) :
    ∀ t ∈ ts, t.soundsUsed = some [] ∧ t.settings = none := by
  induction h with
  | nil => exact forall_mem_nil _
  | cons hc _ ih =>
    refine forall_mem_cons.2 ⟨⟨hc.realized.soundsUsed, ?_⟩, ih⟩
    rw [hc.realized.settings]
    exact hc.legible.2

/-- What is listed of plain classes is a program, unless it is nested too deeply. -/
theorem parse?_of_lists (h : Forall₂ Lists cs ts) {text : String}
    (htext : text.toList = listing (zipWith of cs ts)) : parse? text =
      if cs.all Class.fits then some (program (zipWith of cs ts)) else none := by
  rw [← (all_fits_zipWith h).1]
  exact parse?_listing (fun s hs => (legible_zipWith h s hs).1) htext

/-- The project of plain classes is put together without a question to the outside, and listed. -/
theorem Class.exists_listing {c : Compilation} (h : Forall₂ Lists cs c.targets)
    (hstage : c.stage = none) {r : Option Resources}
    (hr : ∀ x ∈ r, Catalog.Recorded x.catalog.sprites) (base : Value) :
    ∃ a text, Assembly.ofResult r base c.toValue = .done (.ok a) ∧
      Listing.ofProject a.project.toValue = .ok text ∧
      text.toList = listing (zipWith of cs c.targets) := by
  obtain ⟨a, hassembly, hpresents⟩ := Assembly.ofResult_of_silent hr base hstage (Lists.silent h)
  obtain ⟨text, hlisting, htext⟩ := ofProject_of_realized h hpresents
  exact ⟨a, text, hassembly, hlisting, htext⟩

theorem compile_of_parse?_eq_none {text : String} (h : parse? text = none) (w : Workspace) :
    (compile text).run w = (.error .malformedSource, { issued := w.issued }) := by
  rw [compile, run_bind_of_ok (run_modify _ w), parse, h]
  rfl

/-- **Plain programs survive the way to a project and back.** A program of plain classes compiles, its
project is put together without a question to the outside, and the project is listed. If the listing
keeps within the limits of the language, it compiles from any workspace, and its targets are those of
the program up to identifiers; otherwise it is not a program. -/
theorem Class.alike_of_listing (source : String) (cs : List Class) (h : ofPlain? source = some cs)
    (r : Option Resources) (hr : ∀ x ∈ r, Catalog.Recorded x.catalog.sprites) (base : Value)
    (w : Workspace) :
    ∃ c w₁ a text, (compile source).run w = (.ok c, w₁) ∧
      Assembly.ofResult r base c.toValue = .done (.ok a) ∧
      Listing.ofProject a.project.toValue = .ok text ∧
      ∀ w₂, if cs.all fits then
          ∃ c' w₃, (compile text).run w₂ = (.ok c', w₃) ∧ Target.Alike c.targets c'.targets ∧
            c'.stage = c.stage
        else ∃ w₃, (compile text).run w₂ = (.error .malformedSource, w₃) := by
  obtain ⟨program, hparse, hcore, hstage, hplain⟩ := exists_program_of_ofPlain? h
  obtain ⟨w₀, hcompile⟩ := exists_compile hplain
  obtain ⟨hrun, hlists⟩ := hcompile source program hparse (forM_visitTop_of_ofModule? hcore) w
  obtain ⟨a, text, hassembly, hlisting, htext⟩ := exists_listing (c :=
    ⟨(w₀.shift w.issued).targets, stageSettings? program⟩) hlists hstage hr base
  refine ⟨_, _, a, text, hrun, hassembly, hlisting, fun w₂ => ?_⟩
  have hreparse := parse?_of_lists hlists htext
  split
  · next hall =>
    rw [if_pos hall] at hreparse
    have hsteps : (Sheet.program (List.zipWith Sheet.of cs (w₀.shift w.issued).targets)).forM
        (·.visitTop) = cs.forM (·.build) := by
      rw [forM_visitTop_of_ofModule? (Sheet.ofModule?_program (legible_zipWith hlists)),
        (all_fits_zipWith hlists).2, forM_build_tidy]
    obtain ⟨hrerun, -⟩ := hcompile text _ (by rw [parse, hreparse]) hsteps w₂
    refine ⟨_, _, hrerun, ?_, ?_⟩
    · rw [Workspace.targets_shift, Workspace.targets_shift]
      exact Target.alike_shift _ _ _
    · rw [Sheet.stageSettings?_program, hstage]
  · next hall =>
    rw [if_neg hall] at hreparse
    exact ⟨_, compile_of_parse?_eq_none hreparse w₂⟩

/-- A branch with an alternative in a loop, and a condition of several parts. -/
def plainSource : String :=
  "class Cat:\n" ++
  " def when_clicked(self):\n" ++
  "  for i in range((x + 2)):\n" ++
  "   if x < 3 and not y == 1: y += -4\n" ++
  "   else: pass\n"

theorem Class.alike_plainSource :
    ∃ cs, ofPlain? plainSource = some cs ∧ cs.all fits = true ∧
      ∃ c w₁ a text, (compile plainSource).run {} = (.ok c, w₁) ∧
        Assembly.ofResult (some ⟨Catalog.published, "cache"⟩) .null c.toValue = .done (.ok a) ∧
        Listing.ofProject a.project.toValue = .ok text ∧
        ∃ c' w₃, (compile text).run w₁ = (.ok c', w₃) ∧ Target.Alike c.targets c'.targets ∧
          c'.stage = c.stage := by
  have hread : (ofPlain? plainSource).map (·.all fits) = some true := by decide +kernel
  obtain ⟨cs, hcs, hfits⟩ := Option.map_eq_some_iff.1 hread
  have hrecorded : ∀ x ∈ some (⟨Catalog.published, "cache"⟩ : Resources),
      Catalog.Recorded x.catalog.sprites := by
    rintro x ⟨⟩
    exact Catalog.recorded_published
  obtain ⟨c, w₁, a, text, hrun, hassembly, hlisting, hback⟩ :=
    alike_of_listing plainSource cs hcs _ hrecorded .null {}
  refine ⟨cs, hcs, hfits, c, w₁, a, text, hrun, hassembly, hlisting, ?_⟩
  have hagain := hback w₁
  rwa [if_pos hfits] at hagain

/-! ### Towers of branches

A body can stand on the line of its branch. Such a branch takes no indentation, but its listing does,
so a program can be as deep as the language allows and its listing deeper. -/

/-- The condition of every branch of a tower. -/
def towerTest : Cond := .compare .lt (.named "x") (.number 1)

/-- What the innermost branch of a tower does. -/
def towerCore : Item := .call "motion_movesteps" ["STEPS"] [.number 1]

/-- Branches in each other. -/
def tower : Nat → Item
  | 0 => .choice towerTest [towerCore] []
  | k + 1 => .choice towerTest [tower k] []

/-- The lines of a tower; only the innermost branch has its body on its line. -/
def towerLines (j : Nat) : Nat → List String
  | 0 => [Listing.margin j ++ "if x < 1: move(1)"]
  | k + 1 => (Listing.margin j ++ "if x < 1:") :: towerLines (j + 1) k

def towerTokens : Nat → List Token
  | 0 => .keyword "if" :: (towerTest.tokens ++ .op ":" :: towerCore.tokens)
  | k + 1 => .keyword "if" :: (towerTest.tokens ++ bodyTokens (towerTokens k))

theorem isPlain_tower (k : Nat) : (tower k).isPlain := by
  have htest : towerTest.isPlain := by decide
  have hcore : towerCore.isPlain := by decide
  induction k with
  | zero => simp [tower, isPlain, arePlain, htest, hcore]
  | succ k ih => simp [tower, isPlain, arePlain, htest, ih]

theorem towerLines_ne_nil (j k : Nat) : towerLines j k ≠ [] := by
  cases k <;> exact cons_ne_nil _ _

theorem reads_towerHeader :
    Reads "if x < 1:".toList (.keyword "if" :: towerTest.tokens ++ [.op ":"]) 0 :=
  reads_header (isPlain_tower 0)

/-- A tower is as deep as its lines are indented. -/
theorem readsLines_tower {j : Nat} (k : Nat) (h : j + k ≤ maxIndents) :
    ReadsLines j (Listing.unlines (towerLines j k)) (towerTokens k) True := by
  induction k generalizing j with
  | zero =>
    have hcore : Reads "move(1)".toList towerCore.headerTokens 1 :=
      reads_header (i := towerCore) (by decide +kernel)
    have hline : Reads "if x < 1: move(1)".toList
        (.keyword "if" :: towerTest.tokens ++ [.op ":"] ++ towerCore.headerTokens) 1 :=
      reads_towerHeader.spaced hcore
    exact (readsLines_single j hline).congr (iff_of_true (by decide) trivial)
  | succ k ih =>
    have hread := readsLines_body (.keyword "if" :: towerTest.tokens) reads_towerHeader
      (ih (show j + 1 + k ≤ _ by omega)) (towerLines_ne_nil (j + 1) k)
    exact hread.congr (iff_of_true ⟨Nat.zero_le _, by omega, trivial⟩ trivial)

open Parser Grammar in
/-- A tower is parsed into its branches. -/
theorem statement_tower {n : Nat} (k : Nat) (hn : (towerTokens k).length ≤ n) {rest : List Token}
    (hrest : Heads followsItem rest) :
    (ofDepth n).statement (towerTokens k ++ rest) = some ([(tower k).stmt], rest) := by
  have htest : towerTest.isPlain := by decide
  induction k generalizing n rest with
  | zero =>
    obtain ⟨m, rfl⟩ : ∃ m, n = m + 10 := ⟨n - 10, Nat.eq_add_of_sub_eq hn rfl⟩
    have hcore : (ofDepth (m + 10)).simpleStmts (towerCore.tokens ++ rest) =
        some ([towerCore.stmt], rest) :=
      simpleStmts_single (assignment_expr (starExpressions_call (t := .number 1) (by decide)
        (show 3 < m + 10 by omega) "move" (heads_cons (t := .newline) rfl rest)))
    have hbody : (ofDepth (m + 10)).body (.op ":" :: (towerCore.tokens ++ rest)) =
        some ([towerCore.stmt], rest) := body_block hcore
    have hif : (ofDepth (m + 10)).named (towerTest.tokens ++ .op ":" :: (towerCore.tokens ++ rest)) =
        some (towerTest.expr, .op ":" :: (towerCore.tokens ++ rest)) := by
      rw [named_of_isNamed (Cond.isNamed_tokens htest _)]
      exact Cond.expression_tokens htest (show 3 < m + 10 by omega) (heads_cons rfl _)
    refine (bind_some (a := some (.keyword "if")) rfl).trans ?_
    refine (bind_some (a := ()) rfl).trans ?_
    exact bind_some ((bind_some hif).trans ((bind_some hbody).trans
      (bind_some (elifTail_none hrest))))
  | succ k ih =>
    have hlen : towerTest.tokens.length + (towerTokens k).length + 5 ≤ n := by
      simp only [towerTokens, bodyTokens, length_cons, length_append, length_nil] at hn
      omega
    obtain ⟨m, rfl⟩ : ∃ m, n = m + 1 + 1 := ⟨n - 2, by omega⟩
    have hinner := ih (n := m + 1) (by omega) (heads_cons (t := .dedent) rfl rest)
    have hstart : Heads beginsStatement (towerTokens k) := by
      cases k <;> exact heads_cons rfl _
    have hif := statement_if htest (by omega) (body_bodyTokens (reads_statement hstart hinner))
      (elifTail_none hrest)
    simpa [towerTokens, tower, Item.stmt, stmts] using hif

/-- A class with a tower as its one script. -/
def towerClass (k : Nat) : Class := ⟨"A", none, [⟨.flag, [tower k]⟩]⟩

/-- A tower as a program. -/
def towerSource (k : Nat) : String :=
  String.ofList (Listing.unlines ("class A:" ::
    (Listing.margin 1 ++ "def when_flag_clicked(self):") :: towerLines 2 k))

theorem areFull_tower (k : Nat) : (tower k).isFull := by
  induction k with
  | zero => rfl
  | succ k ih => simp [tower, isFull, areFull, ih]

theorem legible_tower (k : Nat) : (Sheet.mk (towerClass k) []).Legible where
  name := show isPlainName "A" = true by decide
  methods := by
    intro m hm
    rw [mem_singleton.1 hm]
    exact ⟨by simp [arePlain, isPlain_tower], by simp [areFull, areFull_tower], by simp⟩
  vars := forall_mem_nil _

open Parser Grammar in
/-- **A tower is a program** as long as the lines of its source are not indented too far. -/
theorem ofPlain?_towerSource {k : Nat} (h : 2 + k ≤ maxIndents) :
    Class.ofPlain? (towerSource k) = some [towerClass k] := by
  let sheet : Sheet := ⟨towerClass k, []⟩
  let text := Listing.unlines ("class A:" ::
    (Listing.margin 1 ++ "def when_flag_clicked(self):") :: towerLines 2 k)
  let method : Method := ⟨.flag, []⟩
  let scriptTokens : List Token := .keyword "def" :: .name "when_flag_clicked" :: .op "(" ::
    .name "self" :: .op ")" :: bodyTokens (towerTokens k)
  let tokens : List Token := .keyword "class" :: .name "A" :: bodyTokens scriptTokens
  have hmethod := readsLines_body (j := 1) _ method.reads_header (readsLines_tower k h)
    (towerLines_ne_nil 2 k)
  have hclass := readsLines_body (j := 0) _ (legible_tower k).reads_header hmethod
    (cons_ne_nil _ _)
  have hlines : ReadsLines 0 text tokens True := by
    exact hclass.congr (iff_of_true (by decide) trivial)
  have hsafe := hlines.safe
  have htext : (towerSource k).toList = text := String.toList_ofList
  have hscan := hlines.scan?_eq (getLast?_unlines (cons_ne_nil _ _))
  rw [← htext] at hsafe hscan
  have hlen := hlines.length_le trivial
  have hparse : parse? (towerSource k) = some [sheet.stmt] := by
    refine parse?_of_scan? hsafe hscan fun _ => ?_
    rw [htext]
    obtain ⟨n, hn⟩ : ∃ n, 2 * text.length + 8 = n + 3 := ⟨2 * text.length + 5, rfl⟩
    have htokens : tokens.length = (towerTokens k).length + 15 := by
      simp [tokens, scriptTokens, bodyTokens]
    rw [hn]
    have hstart : Heads beginsStatement (towerTokens k) := by cases k <;> exact heads_cons rfl _
    have htower (rest : List Token) := reads_statement hstart
      (statement_tower (n := n + 1) k (by omega) (heads_cons (t := .dedent) rfl rest))
    have hscript : Reads (ofDepth (n + 2)) (scriptTokens ++ [.dedent]) _ [.dedent] :=
      reads_statement (heads_cons rfl _)
        (statement_function "when_flag_clicked" (body_bodyTokens (htower [.dedent])))
    have hread : Reads (ofDepth (n + 3)) (tokens ++ []) _ [] :=
      reads_statement (heads_cons rfl _) (statement_class "A" (body_bodyTokens hscript))
    rwa [append_nil] at hread
  have hmodule : Class.ofModule? [sheet.stmt] = some [towerClass k] :=
    @ofModule?_program [sheet] (forall_mem_singleton.2 ⟨legible_tower k, rfl⟩)
  have hstage : stageSettings? [sheet.stmt] = Option.none := stageSettings?_program [sheet]
  have hname : isPlainName "A" := by decide
  have hplain : (towerClass k).isPlain := by
    simp [towerClass, Class.isPlain, arePlain, isPlain_tower, hname]
  simp [Class.ofPlain?, hparse, hmodule, hstage, hplain]

/-- **Not every listing is a program.** A tower of 98 branches is a plain program, but its listing has
one indentation more than the language allows. -/
theorem compile_listing_tower :
    Class.ofPlain? (towerSource 97) = some [towerClass 97] ∧
    ∃ c w₁ a text, (compile (towerSource 97)).run {} = (.ok c, w₁) ∧
      Assembly.ofResult none .null c.toValue = .done (.ok a) ∧
      Listing.ofProject a.project.toValue = .ok text ∧
      ∀ w₂, ∃ w₃, (compile text).run w₂ = (.error .malformedSource, w₃) := by
  have hplain := ofPlain?_towerSource (k := 97) (by decide)
  obtain ⟨program, hparse, hcore, hstage, hcs⟩ := Class.exists_program_of_ofPlain? hplain
  obtain ⟨w₀, hcompile⟩ := Class.exists_compile hcs
  obtain ⟨hrun, hlists⟩ := hcompile _ program hparse (Class.forM_visitTop_of_ofModule? hcore) {}
  obtain ⟨a, text, hassembly, hlisting, htext⟩ := Class.exists_listing (r := none) (c :=
    ⟨_, stageSettings? program⟩) hlists hstage (by simp) .null
  refine ⟨hplain, _, _, a, text, hrun, hassembly, hlisting, fun w₂ =>
    ⟨_, compile_of_parse?_eq_none ?_ w₂⟩⟩
  rw [parse?_of_lists hlists htext, if_neg (by decide +kernel)]

end Core

end BlockScript
