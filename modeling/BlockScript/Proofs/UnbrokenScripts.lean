import BlockScript.Proofs.Acyclicity
import BlockScript.Proofs.ConnectedScripts
import BlockScript.Proofs.Integrity

/-!
# Unbroken scripts

Which statements of a script can be followed to can be told from the program. The *outline* of a
statement says whether it adds a block to its script, how many blocks it may add, and whether
anything can follow (`Program.Stmt.outline`). A program is *tidy* if nothing follows where nothing
can follow, if the first block of each body comes alone, and if no condition of a loop makes
statements (`Program.Stmt.isTidy`). Then every statement of every class can be reached from a block
that stands on its own (`Build.reachable_of_compile`).

The condition on bodies is needed. The first block of a body is found by looking where the script
stands after a statement. After a loop without an end it stands nowhere, so such a loop at the start
of a body is not found, and its blocks are lost (`Build.unreachable_loopingSource`).
-/

namespace BlockScript

open Block Bool Build List Nat Option Relation.ReflTransGen

/-! ### Outlines -/

/-- What can be told of the statements that some code adds to its script. -/
structure Outline where
  /-- There is one for sure. -/
  sure : Bool
  /-- How many there are at most; from two on, there may be any number. -/
  most : Nat
  /-- Nothing can follow. -/
  cap : Bool

namespace Outline

def nothing : Outline := ⟨false, 0, false⟩

/-- One statement, and those that its expressions make if they are not quiet. -/
def one (quiet : Bool) : Outline := ⟨true, if quiet then 1 else 2, false⟩

/-- The statements that expressions make if they are not quiet. -/
def hidden (quiet : Bool) : Outline := ⟨false, if quiet then 0 else 2, false⟩

/-- The code of the first outline and then that of the second. -/
instance : Append Outline := ⟨fun a b => ⟨a.sure || b.sure, a.most + b.most, a.cap || b.cap⟩⟩

theorem sure_append (a b : Outline) : (a ++ b).sure = (a.sure || b.sure) := rfl

theorem most_append (a b : Outline) : (a ++ b).most = a.most + b.most := rfl

theorem cap_append (a b : Outline) : (a ++ b).cap = (a.cap || b.cap) := rfl

/-- The second may come after the first. -/
def joins (a b : Outline) : Bool := !a.cap || b.most == 0

theorem joins_of_cap {a b : Outline} (h : a.cap = false) : a.joins b := by
  rw [joins, h]
  rfl

/-- At most one statement, below which the script goes on. -/
def isSingle (o : Outline) : Bool := o.most ≤ 1 && !o.cap

end Outline

namespace Build

open Outline

variable {α β : Type} {K : List String} {a b : Outline} {m : Build α} {f : α → Build β}

/-- The code does what its outline says. -/
def Outlined (K : List String) (o : Outline) (m : Build α) : Prop :=
  Goes K (o.sure = false)
    (fun q c => o.most ≠ 0 ∧ (o.cap = false → c ≠ none ∧ (o.most ≤ 1 → c = some q))) [] m

theorem Outlined.goes (h : Outlined K a m) : Goes K True (fun _ _ => True) [] m :=
  Goes.mono h (fun _ => trivial) fun _ _ _ => trivial

theorem Outlined.bind (h : Outlined K a m) (hf : ∀ x, Outlined K b (f x)) (hjoins : a.joins b) :
    Outlined K (a ++ b) (m >>= f) := by
  refine Goes.bind h (fun _ x _ _ => hf x) ?_ ?_ ?_ ?_ ?_
  · rintro q c q' c' ⟨-, hfirst⟩ ⟨hsecond, -⟩
    rw [joins, or_eq_true, not_eq_true', beq_iff_eq] at hjoins
    exact (hfirst (hjoins.resolve_right hsecond)).1
  · intro ha hb
    rw [sure_append, ha, hb]
    rfl
  all_goals simp only [most_append, cap_append, or_eq_false_iff]
  · rintro - q c ⟨hmost, hcap⟩
    exact ⟨by omega, fun h => ⟨(hcap h.1).1, fun hle => (hcap h.1).2 (by omega)⟩⟩
  · rintro - q c ⟨hmost, hcap⟩
    exact ⟨by omega, fun h => ⟨(hcap h.2).1, fun hle => (hcap h.2).2 (by omega)⟩⟩
  · rintro q c q' c' ⟨hmost, -⟩ ⟨hmost', hcap'⟩
    exact ⟨by omega, fun h => ⟨(hcap' h.2).1, fun hle => by omega⟩⟩

/-- What makes statements only with loud expressions. -/
theorem Passes.outlined {quiet : Bool} (h : Passes K (quiet = false) [] m) :
    Outlined K (.hidden quiet) m := by
  refine Goes.mono h (fun _ => rfl) ?_
  rintro q c ⟨rfl, hopen⟩
  exact ⟨succ_ne_zero 1, fun _ => ⟨hopen, fun hle => absurd hle (by decide)⟩⟩

/-- What makes no statement at all. -/
theorem Passes.outlined_nothing (h : Passes K False [] m) : Outlined K .nothing m :=
  Goes.mono h (fun _ => rfl) fun _ _ hc => hc.1.elim

/-- What makes a statement, and more with loud expressions. -/
theorem Proceeds.outlined {quiet : Bool} (h : Proceeds K False (quiet = false) [] m) :
    Outlined K (.one quiet) m := by
  refine Goes.mono h False.elim ?_
  rintro q c ⟨hopen, hcursor⟩
  cases quiet with
  | true => exact ⟨succ_ne_zero 0, fun _ => ⟨hopen, fun _ => hcursor (by decide)⟩⟩
  | false => exact ⟨succ_ne_zero 1, fun _ => ⟨hopen, fun hle => absurd hle (by decide)⟩⟩

/-- What ends the script. -/
theorem Goes.outlined_cap {good : Id → Option Id → Prop} {o : Outline}
    (h : Goes K False good [] m) (hmost : o.most ≠ 0) (hcap : o.cap) : Outlined K o m :=
  mono h False.elim fun _ _ _ => ⟨hmost, fun hc => by rw [hcap] at hc; cases hc⟩

/-- A script inside of other code starts below it, and nothing can follow. -/
theorem goes_script {body : List (Build Unit)}
    (h : Goes K True (fun _ _ => True) [] (sequence body)) (hat : Hat) :
    Goes K False (fun _ _ => True) [] (script hat body) := by
  intro w _ w' hw _ hrun
  obtain ⟨_, w₁, hstart, hrun⟩ := run_bind_eq_ok hrun
  obtain ⟨_, w₂, hbody, hrun⟩ := run_bind_eq_ok hrun
  cases hrun
  obtain ⟨hw₁, q, hq, hprevious, -⟩ := starts_startScript hat w w₁ hw hstart
  obtain ⟨hw₂, hcases⟩ := h w₁ () w₂ hw₁ (forall_mem_nil _) hbody
  have hq₂ : w.Continues w₂ q := by
    rcases hcases with ⟨-, hsame⟩ | ⟨q', hq', -⟩
    · exact hq.before_same hsame
    · refine hq.trans hq' hw₁ ?_
      rw [hprevious]
      exact some_ne_none q
  exact ⟨{ hw₂ with openEnd := fun p hp => by cases hp },
    .inr ⟨q, { hq₂ with last := fun c hc => by cases hc }, trivial⟩⟩

/-! ### Assignments -/

variable {loud : Prop} {value : Meaning}

theorem passes_finish {id : Id} {S : List Id} (hid : id ∈ S) (i : Input) (fields : Table Field) :
    Passes K loud S (do
      setInputs id [("VALUE", i)]
      update id fun b => { b with fields }) := by
  have hvalue : "VALUE" ∉ bodyInputs := by decide
  exact (passes_setInputs hid (forall_mem_singleton.2 hvalue)).bind fun _ =>
    passes_update fun _ _ _ _ => rfl

theorem proceeds_assign (name : String) (h : value.Passes K loud) :
    Proceeds K False loud [] (assign name value) :=
  h.operand.bind_proceeds fun o => (passes_variableNamed name _).bind_proceeds fun _ =>
    (stacks_statement rfl).bind fun _ => (passes_plug o _).bind fun i =>
      passes_finish (.head _) i _

theorem passes_plugNegated (id : Id) (o : Operand) {S : List Id} :
    Passes K loud S (plugNegated id o) := by
  cases o with
  | value v =>
    rw [plugNegated]
    exact passes_plug _ _
  | name n =>
    change Passes K loud S (plug (.name n) (some id))
    exact passes_plug _ _
  | block c =>
    exact (adds_reporter rfl).passes.bind fun d => (passes_setInput d (by decide) _).bind fun _ =>
      (passes_setInput d (by decide) _).bind fun _ => (passes_setParent c d).bind fun _ =>
        passes_pure _

/-- Only sums and differences have a block. -/
def hasChange (op : Program.BinaryOp) : Bool := op == .add || op == .sub

theorem proceeds_change (name : String) {op : Program.BinaryOp} (hop : hasChange op)
    (h : value.Passes K loud) : Proceeds K False loud [] (change name op value) := by
  refine h.operand.bind_proceeds fun o => (passes_variableNamed name _).bind_proceeds fun _ => ?_
  cases op with
  | add =>
    exact (stacks_statement rfl).bind fun _ => (passes_plug o _).bind fun i =>
      passes_finish (.head _) i _
  | sub =>
    exact (stacks_statement rfl).bind fun id => (passes_plugNegated id o).bind fun i =>
      passes_finish (.head _) i _
  | _ => cases hop

theorem passes_change (name : String) {op : Program.BinaryOp} (hop : hasChange op = false)
    (h : value.Passes K loud) : Passes K loud [] (change name op value) := by
  refine h.operand.bind fun o => (passes_variableNamed name _).bind fun _ => ?_
  cases op with
  | add | sub => cases hop
  | _ => exact passes_pure _

end Build

/-! ### Tidy programs -/

namespace Program

open Build Outline

/-- The condition of a loop without an end. -/
def Expr.isTrue : Expr → Bool
  | .const (.bool true) => true
  | _ => false

theorem Expr.isTrue_eq_false {e : Expr} (h : e ≠ .const (.bool true)) : e.isTrue = false := by
  unfold isTrue
  split
  · exact absurd rfl h
  · rfl

/-- The outline of an expression that is a statement of its own. -/
def Expr.outline (K : List String) (e : Expr) : Outline :=
  if e.isQuiet K then .nothing else ⟨e.isSure K, if e.isPlain K then 1 else 2, false⟩

def outlineOfExprs (K : List String) : List Expr → Outline
  | [] => .nothing
  | e :: es => e.outline K ++ outlineOfExprs K es

theorem Expr.cap_outline (K : List String) (e : Expr) : (e.outline K).cap = false := by
  rw [outline]
  split <;> rfl

theorem cap_outlineOfExprs (K : List String) (es : List Expr) :
    (outlineOfExprs K es).cap = false := by
  induction es with
  | nil => rfl
  | cons e es ih => rw [outlineOfExprs, cap_append, e.cap_outline, ih, Bool.or_false]

mutual

/-- What a statement adds to the script of the code around it. -/
def Stmt.outline (K : List String) : Stmt → Outline
  | .expr e => e.outline K
  | .assign targets value =>
    match targets with
    | .name _ :: _ => .one (value.isQuiet K)
    | _ => .nothing
  | .augAssign target op value =>
    match target with
    | .name _ => if hasChange op then .one (value.isQuiet K) else .hidden (value.isQuiet K)
    | _ => .nothing
  | .forLoop _ iter _ _ => .one (iter.hasQuietCount K)
  | .whileLoop test _ _ => ⟨true, 1, test.isTrue⟩
  | .conditional test _ _ => .one (test.isQuiet K)
  | .functionDef name params body trailer =>
    if Hat.isNumbered "when_flag_clicked" name then ⟨true, 2, true⟩
    else outlineOfExprs K params.parts ++ (outlineOf K body ++ outlineOfExprs K trailer)
  | .classDef _ _ _ => .nothing
  | .other parts => outlineOfParts K parts

def outlineOf (K : List String) : List Stmt → Outline
  | [] => .nothing
  | s :: ss => s.outline K ++ outlineOf K ss

def Part.outline (K : List String) : Part → Outline
  | .expr e => e.outline K
  | .stmt s => s.outline K

def outlineOfParts (K : List String) : List Part → Outline
  | [] => .nothing
  | p :: ps => p.outline K ++ outlineOfParts K ps

end

/-- The first block of a body comes alone: statements that may add none come one at a time, too,
until one adds a block for sure. -/
def startsAlone (K : List String) : List Stmt → Bool
  | [] => true
  | s :: ss => (s.outline K).isSingle && ((s.outline K).sure || startsAlone K ss)

/-- Whether a method is compiled: it is a script or a procedure. -/
def isCompiled (name : String) : Bool := (Hat.ofName? name).isSome || isProcedure name

mutual

/-- Whether no statement in a statement gets lost, where the given procedures are known. -/
def Stmt.isTidy : Stmt → List String → Bool
  | .expr _, _ => true
  | .assign _ _, _ => true
  | .augAssign _ _ _, _ => true
  | .forLoop _ _ body _, K => areTidy body K && startsAlone K body
  | .whileLoop test body _, K =>
    (test.isTrue || test.isQuiet K) && (areTidy body K && startsAlone K body)
  | .conditional _ body orelse, K =>
    (areTidy body K && startsAlone K body) && (areTidy orelse K && startsAlone K orelse)
  | .functionDef name _ body trailer, K =>
    areTidy body K && (Hat.isNumbered "when_flag_clicked" name ||
      (outlineOf K body).joins (outlineOfExprs K trailer))
  | .classDef _ _ body, _ => haveTidyBodies body (procedureNames body)
  | .other parts, K => arePartsTidy parts K

/-- Statements one after the other: nothing comes where nothing can follow. -/
def areTidy : List Stmt → List String → Bool
  | [], _ => true
  | s :: ss, K => s.isTidy K && (areTidy ss K && (s.outline K).joins (outlineOf K ss))

/-- A member of a class: only the methods that are compiled count. -/
def Stmt.hasTidyBody : Stmt → List String → Bool
  | .functionDef name _ body _, K => !isCompiled name || areTidy body K
  | _, _ => true

def haveTidyBodies : List Stmt → List String → Bool
  | [], _ => true
  | s :: ss, K => s.hasTidyBody K && haveTidyBodies ss K

def Part.isTidy : Part → List String → Bool
  | .expr _, _ => true
  | .stmt s, K => s.isTidy K

def arePartsTidy : List Part → List String → Bool
  | [], _ => true
  | p :: ps, K => p.isTidy K && (arePartsTidy ps K && (p.outline K).joins (outlineOfParts K ps))

end

/-! ### What statements make -/

variable {K : List String}

theorem Expr.effect_outlined (e : Expr) : Outlined K (e.outline K) e.meaning.effect := by
  rw [outline]
  split
  · next hquiet => exact (e.meaning_passes (.inr hquiet)).effect.outlined_nothing
  · have hloud : e.isPlain K = false ∨ e.isPlain K := (eq_false_or_eq_true _).symm
    refine Goes.mono (e.effect_proceeds hloud) id ?_
    rintro q c ⟨hopen, hcursor⟩
    cases hplain : e.isPlain K with
    | true =>
      exact ⟨succ_ne_zero 0, fun _ => ⟨hopen, fun _ => hcursor (by rw [hplain]; decide)⟩⟩
    | false =>
      have hmany : ¬2 ≤ 1 := by decide
      exact ⟨succ_ne_zero 1, fun _ => ⟨hopen, fun hle => absurd hle hmany⟩⟩

theorem effects_outlined (es : List Expr) :
    Outlined K (outlineOfExprs K es) ((meanings es).forM (·.effect)) := by
  induction es with
  | nil => exact (passes_pure _).outlined_nothing
  | cons e es ih =>
    rw [meanings, forM_cons]
    exact e.effect_outlined.bind (fun _ => ih) (joins_of_cap (e.cap_outline K))

mutual

/-- **Tidy statements do what their outline says.** -/
theorem Stmt.visit_outlined : ∀ (s : Stmt) (K : List String), s.isTidy K →
    Outlined K (s.outline K) s.visit
  | .expr e, K, _ => e.effect_outlined
  | .assign targets value, K, _ => by
    rw [Stmt.outline.eq_def]
    dsimp only
    split
    · rw [Stmt.visit.eq_def]
      exact (proceeds_assign _ (value.meaning_passes (eq_false_or_eq_true _).symm)).outlined
    · next hne =>
      rw [Stmt.visit.eq_def]
      dsimp only
      split
      · exact (hne _ _ rfl).elim
      · exact (passes_pure _).outlined_nothing
  | .augAssign target op value, K, _ => by
    have hvalue : value.meaning.Passes K (value.isQuiet K = false) :=
      value.meaning_passes (Bool.eq_false_or_eq_true _).symm
    rw [Stmt.outline.eq_def]
    dsimp only
    split
    · rw [Stmt.visit.eq_def]
      split
      · next hop => exact (proceeds_change _ hop hvalue).outlined
      · next hop => exact (passes_change _ (eq_false_iff.2 hop) hvalue).outlined
    · next hne =>
      rw [Stmt.visit.eq_def]
      dsimp only
      split
      · exact (hne _ rfl).elim
      · exact (passes_pure _).outlined_nothing
  | .forLoop target iter body orelse, K, h => by
    have htimes : Passes K (iter.hasQuietCount K = false) [] iter.times :=
      iter.times_passes (Bool.eq_false_or_eq_true _).symm
    exact (proceeds_repeatLoop htimes (visits_hang body K h)).outlined
  | .whileLoop test body orelse, K, h => by
    rw [Stmt.isTidy, Bool.and_eq_true] at h
    have hbody := visits_hang body K h.2
    rw [Stmt.visit.eq_def, Stmt.outline]
    dsimp only
    split
    · exact (goes_foreverLoop hbody).outlined_cap (succ_ne_zero 0) rfl
    · next hne =>
      rw [Expr.isTrue_eq_false hne] at h ⊢
      have hloop : Proceeds K False (true = false) [] (conditionLoop test.meaning (visits body)) :=
        proceeds_conditionLoop (test.meaning_passes (.inr h.1)) hbody
      exact hloop.outlined
  | .conditional test body orelse, K, h => by
    rw [Stmt.isTidy, Bool.and_eq_true] at h
    exact (proceeds_branch (test.meaning_passes (Bool.eq_false_or_eq_true _).symm)
      (visits_hang body K h.1) (visits_hang orelse K h.2)).outlined
  | .functionDef name params body trailer, K, h => by
    rw [Stmt.isTidy, Bool.and_eq_true] at h
    have hbody := visits_outlined body K h.1
    rw [Stmt.visit, Stmt.outline]
    split
    · exact (goes_script hbody.goes _).outlined_cap (succ_ne_zero 1) rfl
    · next hname =>
      rw [eq_false_iff.2 hname, Bool.false_or] at h
      exact (effects_outlined params.parts).bind (fun _ => hbody.bind (fun _ =>
        effects_outlined trailer) h.2) (joins_of_cap (cap_outlineOfExprs K params.parts))
  | .classDef name decorators body, K, h =>
    (passes_sprite (methods_connect body _ h fun s hs _ hn =>
      mem_filterMap.2 ⟨s, hs, hn⟩)).outlined_nothing
  | .other parts, K, h => visitParts_outlined parts K h

theorem visits_outlined : ∀ (ss : List Stmt) (K : List String), areTidy ss K →
    Outlined K (outlineOf K ss) (Build.sequence (visits ss))
  | [], K, _ => (passes_pure _).outlined_nothing
  | s :: ss, K, h => by
    rw [areTidy, and_eq_true, and_eq_true] at h
    exact (s.visit_outlined K h.1).bind (fun _ => visits_outlined ss K h.2.1) h.2.2

/-- The first block of a tidy body that starts alone is found. -/
theorem visits_hang : ∀ (ss : List Stmt) (K : List String),
    (areTidy ss K && startsAlone K ss) → Hangs K (visits ss)
  | [], K, _ => hangs_nil
  | s :: ss, K, h => by
    rw [areTidy, startsAlone] at h
    simp only [and_eq_true, or_eq_true] at h
    obtain ⟨⟨hs, hss, -⟩, hsingle, hrest⟩ := h
    rw [isSingle, and_eq_true, decide_eq_true_iff, not_eq_true'] at hsingle
    have hfirst : Proceeds K ((s.outline K).sure = false) False [] s.visit :=
      Goes.mono (s.visit_outlined K hs) id fun q c hc =>
        ⟨(hc.2 hsingle.2).1, fun _ => (hc.2 hsingle.2).2 hsingle.1⟩
    refine hangs_cons hfirst (fun hidle => ?_) (visits_outlined ss K hss).goes
    rw [hidle] at hrest
    exact visits_hang ss K (and_eq_true_iff.2 ⟨hss, hrest.resolve_left Bool.false_ne_true⟩)

theorem methods_connect : ∀ (ss : List Stmt) (K : List String), haveTidyBodies ss K →
    (∀ s ∈ ss, ∀ n, s.procedure? = some n → n ∈ K) → Connects K (Build.sequence (methods ss))
  | [], K, _, _ => connects_pure
  | s :: ss, K, h, hnames => by
    rw [haveTidyBodies, and_eq_true] at h
    rw [forall_mem_cons] at hnames
    exact (s.visitMember_connects K h.1 hnames.1).bind (methods_connect ss K h.2 hnames.2)

theorem Stmt.visitMember_connects : ∀ (s : Stmt) (K : List String), s.hasTidyBody K →
    (∀ n, s.procedure? = some n → n ∈ K) → Connects K s.visitMember
  | .functionDef name params body trailer, K, h, hname => by
    refine connects_method (fun hcompiled => ?_) fun hproc => hname _ (if_pos hproc)
    rw [Stmt.hasTidyBody, isCompiled, Bool.or_eq_true_iff.2 hcompiled, Bool.not_true,
      Bool.false_or] at h
    exact (visits_outlined body K h).goes
  | .expr _, _, _, _ => connects_pure
  | .assign _ _, _, _, _ => connects_pure
  | .augAssign _ _ _, _, _, _ => connects_pure
  | .forLoop _ _ _ _, _, _, _ => connects_pure
  | .whileLoop _ _ _, _, _, _ => connects_pure
  | .conditional _ _ _, _, _, _ => connects_pure
  | .classDef _ _ _, _, _, _ => connects_pure
  | .other _, _, _, _ => connects_pure

theorem Part.visit_outlined : ∀ (p : Part) (K : List String), p.isTidy K →
    Outlined K (p.outline K) p.visit
  | .expr e, _, _ => e.effect_outlined
  | .stmt s, K, h => s.visit_outlined K h

theorem visitParts_outlined : ∀ (ps : List Part) (K : List String), arePartsTidy ps K →
    Outlined K (outlineOfParts K ps) (Build.sequence (visitParts ps))
  | [], K, _ => (passes_pure _).outlined_nothing
  | p :: ps, K, h => by
    rw [arePartsTidy, and_eq_true, and_eq_true] at h
    exact (p.visit_outlined K h.1).bind (fun _ => visitParts_outlined ps K h.2.1) h.2.2

end

end Program

/-! ### Compiled sprites -/

namespace Scripts

/-- The block can be followed to from one that stands on its own. -/
def Reached (s : Scripts) (id : Id) : Prop :=
  ∃ a b, s.blocks.find? a = some b ∧ b.topLevel = true ∧ Relation.ReflTransGen s.Leads a id

variable {s : Scripts} {id : Id}

theorem leads_of_joint {a b : Id} (h : s.blocks.joint.Leads a b) : s.Leads a b := by
  obtain ⟨j, hj, hlead⟩ := h
  obtain ⟨c, hc, hjoint⟩ := bind_eq_some_iff.1 hj
  cases hpart : c.isPart with
  | true =>
    rw [joint?_of_isPart hpart] at hjoint
    cases hjoint
  | false =>
    rw [joint?_of_not_isPart hpart] at hjoint
    cases hjoint
    rcases hlead with hnext | ⟨name, hbody⟩
    · exact ⟨c, hc, .inl hnext⟩
    · exact ⟨c, hc, .inr (mem_plugged.2 ⟨_, (mem_filter.1 hbody).1, rfl⟩)⟩

theorem reached_of_connected (h : s.blocks.joint.Connected) (hid : s.Statement id) :
    s.Reached id := by
  obtain ⟨b, hb, hpart⟩ := hid
  have hj : s.blocks.joint id = b.joint? := by rw [Table.joint, hb, bind_some]
  obtain ⟨a, k, hk, htop, hreach⟩ := h id _ (hj.trans (joint?_of_not_isPart hpart))
  obtain ⟨c, hc, hjoint⟩ := bind_eq_some_iff.1 hk
  have hreach' : Relation.ReflTransGen s.Leads a id :=
    mono (fun _ _ (hlead : s.blocks.joint.Leads _ _) => leads_of_joint hlead)
      a id hreach
  refine ⟨a, c, hc, ?_, hreach'⟩
  cases hpart : c.isPart with
  | true =>
    rw [joint?_of_isPart hpart] at hjoint
    cases hjoint
  | false =>
    rw [joint?_of_not_isPart hpart] at hjoint
    cases hjoint
    exact htop

/-- A block that no other one leads to has to stand on its own. -/
theorem not_reached (hid : ∀ b, s.blocks.find? id = some b → b.topLevel = false)
    (h : ∀ a, ¬s.Leads a id) : ¬s.Reached id := by
  rintro ⟨a, b, hb, htop, hreach⟩
  rcases cases_tail hreach with rfl | ⟨c, -, hlead⟩
  · rw [hid b hb] at htop
    cases htop
  · exact h c hlead

end Scripts

/-- Every statement of the sprite can be reached from a block that stands on its own. -/
def Target.Unbroken (t : Target) : Prop := ∀ id, t.scripts.Statement id → t.scripts.Reached id

namespace Program

/-- Whether no statement gets lost in what a statement outside of classes and functions makes. -/
def Stmt.isTidyTop : Stmt → Bool
  | .classDef name decorators body => (Stmt.classDef name decorators body).isTidy []
  | .functionDef name params body trailer =>
    !Text.startsWith name "when_" || (Stmt.functionDef name params body trailer).isTidy []
  | _ => true

/-- Whether no statement of a program gets lost. -/
def isTidy (program : Module) : Bool := program.all Stmt.isTidyTop

theorem Stmt.visitTop_goes (s : Stmt) (h : s.isTidyTop) :
    Goes [] True (fun _ _ => True) [] s.visitTop := by
  cases s with
  | classDef name decorators body => exact (visit_outlined _ [] h).goes
  | functionDef name params body trailer =>
    rw [visitTop]
    split
    · next hname =>
      rw [isTidyTop, hname, Bool.not_true, Bool.false_or] at h
      exact (visit_outlined _ [] h).goes
    · exact (passes_pure _).outlined_nothing.goes
  | expr | assign | augAssign | forLoop | whileLoop | conditional | other =>
    exact (passes_pure _).outlined_nothing.goes

/-- The sprites of a tidy program are connected. -/
theorem tidy_of_visits {program : Module} (h : isTidy program) {w w' : Workspace}
    (hw : w.Tidy []) (hrun : (program.forM (·.visitTop)).run w = (.ok (), w')) : w'.Tidy [] := by
  induction program generalizing w with
  | nil =>
    cases hrun
    exact hw
  | cons s program ih =>
    rw [isTidy, all_cons, and_eq_true] at h
    rw [Build.forM_cons] at hrun
    obtain ⟨_, w₁, hs, hrun⟩ := run_bind_eq_ok hrun
    exact ih h.2 (s.visitTop_goes h.1 w () w₁ hw (forall_mem_nil _) hs).1 hrun

end Program

namespace Build

open Program

variable {source : String} {program : Module} {w w' : Workspace} {c : Compilation}

theorem tidy_empty (n : Nat) : Workspace.Tidy [] { issued := n } where
  numbered id hid := by cases hid
  known n := ⟨nofun, nofun⟩
  arguments n p hp := by cases hp
  openEnd p hp := by cases hp
  drafts d hd := by cases hd

/-- **No statement of a tidy program is lost**: in the sprites of its classes, every statement can be
reached from a block that stands on its own. -/
theorem reachable_of_compile (h : (compile source).run w = (.ok c, w'))
    (hparse : parse source = .ok program) (htidy : isTidy program = true) :
    ∀ t ∈ c.targets, t.soundsUsed.isSome = true → t.Unbroken := by
  obtain ⟨program', hparse', hrun, htargets⟩ := exists_visits h
  cases hparse.symm.trans hparse'
  have hw' := tidy_of_visits htidy (tidy_empty _) hrun
  rw [htargets]
  intro t ht hclass id hid
  rcases List.mem_append.1 ht with hdefault | hdraft
  · split at hdefault
    · cases hdefault
    · cases List.mem_singleton.1 hdefault
      cases hclass
  · obtain ⟨d, hd, rfl⟩ := List.mem_map.1 hdraft
    exact Scripts.reached_of_connected (hw'.drafts d hd) hid

/-- A class with a procedure, with loops and branches inside of each other. -/
def hikingSource : String :=
  "class Cat:\n" ++
  " def hike(self, n):\n" ++
  "  for i in range(n):\n" ++
  "   pass\n" ++
  "   if x > n:\n" ++
  "    move(n)\n" ++
  "   else:\n" ++
  "    x = n\n" ++
  " def when_flag_clicked(self):\n" ++
  "  while x < 9:\n" ++
  "   hike(x)\n" ++
  "   while True:\n" ++
  "    hike(1)\n"

theorem reachable_hikingSource :
    ∃ program c w', parse hikingSource = .ok program ∧ isTidy program = true ∧
      (compile hikingSource).run {} = (.ok c, w') ∧
      c.targets.map (fun t => t.blocks.countP (!·.2.isPart)) = [10] ∧
      ∀ t ∈ c.targets, t.soundsUsed.isSome = true ∧ t.Unbroken := by
  have hseen : ((parse hikingSource).toOption.map isTidy,
      ((compile hikingSource).run {}).1.toOption.map fun c =>
        (c.targets.map fun t => t.blocks.countP (!·.2.isPart), c.targets.all (·.soundsUsed.isSome))) =
      (some true, some ([10], true)) := by
    decide +kernel
  obtain ⟨hprogram, hseen⟩ := Prod.mk.inj hseen
  obtain ⟨c, w', hrun, hseen⟩ := exists_of_run_map hseen
  obtain ⟨hcount, hclasses⟩ := Prod.mk.inj hseen
  obtain ⟨program, hparse, -⟩ := exists_visits hrun
  rw [hparse] at hprogram
  have htidy := Option.some.inj hprogram
  refine ⟨program, c, w', hparse, htidy, hrun, hcount, fun t ht => ?_⟩
  have hclass := List.all_eq_true.1 hclasses t ht
  exact ⟨hclass, reachable_of_compile hrun hparse htidy t ht hclass⟩

/-- A branch with a loop without an end. -/
def loopingSource : String :=
  "class Cat:\n" ++
  "    def when_flag_clicked(self):\n" ++
  "        if x < 1:\n" ++
  "            while True:\n" ++
  "                move(1)\n"

/-- The loop is lost. -/
theorem unreachable_loopingSource :
    ∃ c w', (compile loopingSource).run {} = (.ok c, w') ∧
      ∃ t ∈ c.targets, t.soundsUsed.isSome = true ∧ ¬t.Unbroken := by
  have hseen : ((compile loopingSource).run {}).1.toOption.map (·.targets.any fun t =>
      t.soundsUsed.isSome &&
        ((t.blocks.find? (Id.ofNat 6)).any (fun b => !b.isPart && !b.topLevel) &&
        t.blocks.all fun p => p.2.next != some (Id.ofNat 6) && !p.2.plugged.contains (Id.ofNat 6))) =
      some true := by
    decide +kernel
  obtain ⟨c, w', hrun, hseen⟩ := exists_of_run_map hseen
  obtain ⟨t, ht, hlost⟩ := List.any_eq_true.1 hseen
  rw [Bool.and_eq_true, Bool.and_eq_true, Option.any_eq_true, List.all_eq_true] at hlost
  obtain ⟨hclass, ⟨b, hb, hkind⟩, hleads⟩ := hlost
  rw [Bool.and_eq_true, Bool.not_eq_true', Bool.not_eq_true'] at hkind
  refine ⟨c, w', hrun, t, ht, hclass, fun hunbroken => ?_⟩
  refine Scripts.not_reached (fun b' hb' => ?_) (fun a hlead => ?_)
    (hunbroken (Id.ofNat 6) ⟨b, hb, hkind.1⟩)
  · cases hb.symm.trans hb'
    exact hkind.2
  · obtain ⟨d, hd, hnext⟩ := hlead
    have hd := hleads _ (Table.mem_of_find? hd)
    rw [Bool.and_eq_true, bne_iff_ne, Bool.not_eq_true', List.contains_eq_mem,
      decide_eq_false_iff_not] at hd
    exact hnext.elim hd.1 hd.2

end Build

end BlockScript
