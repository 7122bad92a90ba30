import BlockScript.Proofs.CoreLayout

/-!
# Core terms and conditions are compiled as they are written

Evaluating a term makes the blocks of its operations; a variable gets its block only when it is
plugged in. `Term.Evaluates` says that an operand stands for the term it was evaluated from, in every
later table, and `Term.evaluates` proves it by induction on the term. `Cond.block_meets` is the same
for conditions. Nothing can go wrong on the way, except that a number may be too long to be written.
-/

namespace BlockScript

open Program BlockScript.Id Meaning Nat Set Table

namespace Workspace

/-- The script goes on with the given block. -/
def linked (w : Workspace) (id : Id) : Workspace :=
  match w.previous with
  | some p => w.amend p fun b => { b with next := some id }
  | none => w

/-- A new statement: the script goes on below it. -/
def stacked (w : Workspace) (b : Block) : Workspace :=
  { (w.linked (Id.ofNat (w.issued + 1))).push { b with parent := w.previous } with
    previous := some (Id.ofNat (w.issued + 1)) }

variable {w : Workspace}

theorem linked_of_none (h : w.previous = none) (id : Id) : w.linked id = w := by
  rw [linked, h]

theorem linked_of_some {p : Id} (h : w.previous = some p) (id : Id) :
    w.linked id = w.amend p fun b => { b with next := some id } := by
  rw [linked, h]

theorem issued_linked (w : Workspace) (id : Id) : (w.linked id).issued = w.issued := by
  rw [linked]
  split <;> rfl

theorem keys_push (w : Workspace) (b : Block) :
    (w.push b).blocks.keys = w.blocks.keys ++ [ofNat (w.issued + 1)] := keys_append ..

theorem keys_linked (w : Workspace) (id : Id) : (w.linked id).blocks.keys = w.blocks.keys := by
  rw [linked]
  split
  · exact keys_adjust ..
  · rfl

theorem keys_stacked (w : Workspace) (b : Block) :
    (w.stacked b).blocks.keys = w.blocks.keys ++ [ofNat (w.issued + 1)] := by
  have hkeys := keys_push (w.linked (ofNat (w.issued + 1))) { b with parent := w.previous }
  rw [keys_linked, issued_linked] at hkeys
  exact hkeys

theorem frame_linked (h : w.Tracked) (base : Nat) (id : Id) :
    Frame base w.previous 0 w (w.linked id) := by
  cases hp : w.previous with
  | none =>
    rw [linked_of_none hp]
    exact Frame.refl h _ _
  | some p =>
    rw [linked_of_some hp]
    exact frame_setNext h p _

theorem frame_stacked (h : w.Tracked) (base : Nat) {b : Block} (hb : b.topLevel = false) :
    Frame base w.previous 1 w (w.stacked b) := by
  have hlinked := frame_linked h base (ofNat (w.issued + 1))
  have hpushed := hlinked.trans (frame_push hlinked.tracked (b := { b with parent := w.previous }) hb)
  exact hpushed.trans (frame_setPrevious hpushed.tracked _)

theorem find?_stacked (h : w.Tracked) (b : Block) :
    (w.stacked b).blocks.find? (ofNat (w.issued + 1)) = some { b with parent := w.previous } := by
  have hlinked := frame_linked h 0 (ofNat (w.issued + 1))
  have hfind := find?_push hlinked.tracked.free { b with parent := w.previous }
  rw [issued_linked] at hfind
  exact hfind

theorem find?_stacked_previous {p : Id} {a : Block} (hp : w.previous = some p)
    (ha : w.blocks.find? p = some a) (b : Block) :
    (w.stacked b).blocks.find? p = some { a with next := some (ofNat (w.issued + 1)) } := by
  rw [stacked, linked_of_some hp, push]
  dsimp only
  rw [find?_append, find?_amend ha, Option.some_or]

/-- The script goes on below a block that has no successor yet. -/
def Open (w : Workspace) : Prop :=
  ∀ p, w.previous = some p → ∃ b, w.blocks.find? p = some b ∧ b.next = none

theorem Open.has (h : w.Open) {p : Id} (hp : w.previous = some p) : w.blocks.has p := by
  obtain ⟨b, hb, -⟩ := h p hp
  exact has_iff.2 ⟨b, hb⟩

theorem Open.of_frame {w' : Workspace} {n : Nat} (h : w.Open) (hw : w.Tracked)
    (hf : Frame w.issued none n w w') (hprev : w'.previous = w.previous) : w'.Open := by
  intro p hp
  obtain ⟨b, hb, hnext⟩ := h p (hprev ▸ hp)
  obtain ⟨j, rfl, -, hj⟩ := hw.exists_number hb
  obtain ⟨b', hb', -, hnext'⟩ := hf.find? hj hb
  exact ⟨b', hb', (hnext' (by simp)).trans hnext⟩

theorem issued_stacked (w : Workspace) (b : Block) : (w.stacked b).issued = w.issued + 1 := by
  rw [stacked, push, issued_linked]

/-- A script ends with an old block, so what was made since then does not notice that the script
goes on. -/
theorem keeps_stacked {w₁ : Workspace} (hw : w.Tracked) (hopen : w.Open) {n : Nat}
    (hframe : Frame w.issued none n w w₁) (hprev : w₁.previous = w.previous) {b : Block}
    (hb : b.topLevel = false) : Keeps (Ioc w.issued w₁.issued) w₁ (w₁.stacked b) := by
  refine (frame_stacked hframe.tracked w₁.issued hb).keeps_of_not_mem (fun j hj => hj.2) ?_
  intro j hj hc
  obtain ⟨a, ha, -⟩ := hopen (ofNat j) (hprev ▸ hc)
  obtain ⟨j', heq, -, hj'⟩ := hw.exists_number ha
  rw [ofNat_inj] at heq
  exact Nat.not_le_of_lt hj.1 (heq ▸ hj')

end Workspace

namespace Build

variable {w : Workspace}

open Workspace

/-! ### Making blocks -/

theorem run_put_fresh (h : w.Free) (b : Block) :
    (put (ofNat (w.issued + 1)) b).run { w with issued := w.issued + 1 } =
      (.ok (), w.push b) := by
  rw [run_put]
  dsimp only
  rw [set_of_find?_eq_none w.blocks b h]
  rfl

theorem run_reporter (h : w.Free) (opcode : String) :
    (reporter opcode).run w = (.ok (ofNat (w.issued + 1)), w.push { opcode }) := by
  change (do put (ofNat (w.issued + 1)) { opcode }; pure (ofNat (w.issued + 1))).run
    { w with issued := w.issued + 1 } = _
  rw [run_bind_of_ok (run_put_fresh h _)]
  rfl

/-- Linking a block to the script and going on below it. -/
theorem run_link (h : w.Free) (hp : ∀ p, w.previous = some p → w.blocks.has p) (b : Block)
    (hat : Option Id → Option Id) :
    ((do
      match w.previous with
      | some p => update p fun b => { b with next := some (ofNat (w.issued + 1)) }
      | none => pure ()
      put (ofNat (w.issued + 1)) { b with parent := w.previous }
      modify fun v => { v with previous := some (ofNat (w.issued + 1)), hat := hat v.hat }
      pure (ofNat (w.issued + 1))) : Build Id).run { w with issued := w.issued + 1 } =
      (.ok (ofNat (w.issued + 1)), { w.stacked b with hat := hat w.hat }) := by
  split
  · next p hprev =>
    have hhas : ({ w with issued := w.issued + 1 } : Workspace).blocks.has p := hp p hprev
    have hfree : (w.amend p fun b => { b with next := some (ofNat (w.issued + 1)) }).Free := by
      rw [Free, find?_eq_none_iff, amend, keys_adjust, ← find?_eq_none_iff]
      exact h
    rw [run_bind_of_ok (run_update_of_has hhas _)]
    refine (run_bind_of_ok (run_put_fresh hfree _) _).trans ?_
    rw [stacked, linked_of_some hprev]
    rfl
  · next hprev =>
    refine (run_bind_of_ok (run_put_fresh h _) _).trans ?_
    rw [stacked, linked_of_none hprev]
    rfl

/-- Making a statement, or the block that starts a script. -/
theorem run_create (h : w.Free) (hp : ∀ p, w.previous = some p → w.blocks.has p)
    (opcode : String) {place : Placement} (hplace : place.isReporter = false)
    (inputs : Table Input) :
    (create opcode place inputs).run w =
      (.ok (ofNat (w.issued + 1)),
        { w.stacked
            { opcode
              inputs
              topLevel := place.topLevel
              position := if place.topLevel then some (0, 0) else none } with
          hat := if place.isHat then some (ofNat (w.issued + 1)) else w.hat }) := by
  obtain ⟨topLevel, isHat, isReporter⟩ := place
  cases hplace
  exact run_link h hp
    { opcode, inputs, topLevel, position := if topLevel then some (0, 0) else none }
    fun hat => if isHat then some (ofNat (w.issued + 1)) else hat

theorem run_create_stack (h : w.Free) (hp : ∀ p, w.previous = some p → w.blocks.has p)
    (opcode : String) (inputs : Table Input) :
    (create opcode .stack inputs).run w =
      (.ok (ofNat (w.issued + 1)), w.stacked { opcode, inputs }) := by
  rw [run_create h hp opcode rfl]
  cases hprev : w.previous with
  | none =>
    simp only [stacked, linked_of_none hprev]
    rfl
  | some p =>
    simp only [stacked, linked_of_some hprev]
    rfl

theorem run_setParent {id : Id} (h : w.blocks.has id) (p : Id) :
    (setParent (some id) p).run w =
      (.ok (), w.amend id fun b => { b with parent := some p }) :=
  run_update_of_has h _

theorem run_setInput {id : Id} (h : w.blocks.has id) (name : String) (i : Input) :
    (setInput id name i).run w = (.ok (), w.amend id fun b => b.setInput name i) :=
  run_update_of_has h _

theorem run_setInputs {id : Id} (h : w.blocks.has id) (inputs : Table Input) :
    (setInputs id inputs).run w = (.ok (), w.amend id fun b => { b with inputs }) :=
  run_update_of_has h _

/-- The variable of a name is there afterwards, and no block has changed. -/
theorem run_variableNamed (h : w.Tracked) (base : Nat) (last : Option Id) (x : String)
    (initial : Value) :
    ∃ id w', (variableNamed x initial).run w = (.ok id, w') ∧ Frame base last 0 w w' ∧
      w'.blocks = w.blocks ∧ w'.previous = w.previous ∧ ∃ v ∈ w'.vars, v.name = x ∧ v.id = id := by
  rw [variableNamed, run_bind_of_ok (run_get w)]
  cases hfind : w.vars.find? (·.name == x) with
  | some v =>
    refine ⟨v.id, w, rfl, Frame.refl h _ _, rfl, rfl, v, List.mem_of_find?_eq_some hfind, ?_, rfl⟩
    simpa using List.find?_some hfind
  | none =>
    refine ⟨_, w.declare x initial, rfl, frame_declare h _ _, rfl, rfl, _,
      List.mem_append_right _ (List.mem_singleton_self _), rfl, rfl⟩

/-- A block that reads a variable is the newest block. -/
theorem run_variableReporter (h : w.Tracked) (base : Nat) (last : Option Id) (x : String) :
    ∃ w', (variableReporter x).run w = (.ok (ofNat w'.issued), w') ∧ Frame base last 1 w w' ∧
      w.issued < w'.issued ∧ w'.previous = w.previous ∧ ∃ v ∈ w'.vars, v.name = x ∧
        w'.blocks.find? (ofNat w'.issued) =
          some { opcode := "data_variable", fields := [("VARIABLE", .named x v.id)] } := by
  obtain ⟨id, w₁, hrun, hframe, -, hprev, v, hv, hname, rfl⟩ :=
    run_variableNamed h base last x (.int 0)
  let b : Block := { opcode := "data_variable", fields := [("VARIABLE", .named x v.id)] }
  refine ⟨w₁.push b, ?_, hframe.trans (frame_push hframe.tracked rfl),
    lt_succ_of_le hframe.issued, hprev, v, hv, hname, find?_push hframe.tracked.free b⟩
  rw [variableReporter, run_bind_of_ok hrun, run_bind_of_ok (run_fresh w₁)]
  exact run_bind_of_ok (run_put_fresh hframe.tracked.free b) _

end Build

namespace Core

open Workspace Build

variable {w w' : Workspace} {S : Set Nat}

/-! ### Terms -/

/-- How an operand stands for a term: a constant or a variable as itself, an operation by its
block. -/
def Term.Ready (S : Set Nat) (w : Workspace) (t : Term) (o : Operand) : Prop :=
  match t with
  | text s => o = .value (.str s)
  | number i => o = .value (.int i)
  | named x => o = .name x
  | operation _ _ _ => ∃ id, o = .block (some id) ∧
      Built S w (fun T vs id => t.Fills T vs (covering id)) id

/-- The blocks that are made when a term is evaluated. -/
def Term.made : Term → Nat
  | t@(operation _ _ _) => t.size
  | _ => 0

/-- The blocks that are made when its operand is plugged in. -/
def Term.plugged : Term → Nat
  | named _ => 1
  | _ => 0

theorem Term.made_add_plugged (t : Term) : t.made + t.plugged = t.size := by
  cases t <;> rfl

variable {o : Operand} {t : Term}

theorem Term.Ready.of_keeps (h : t.Ready S w o) (hk : Keeps S w w') : t.Ready S w' o := by
  cases t with
  | operation op left right =>
    obtain ⟨id, rfl, hid⟩ := h
    exact ⟨id, rfl, hid.of_keeps hk⟩
  | _ => exact h

theorem Term.Ready.mono {S' : Set Nat} (h : t.Ready S w o) (hS : S ⊆ S') : t.Ready S' w o := by
  cases t with
  | operation op left right =>
    obtain ⟨id, rfl, hid⟩ := h
    exact ⟨id, rfl, hid.mono hS⟩
  | _ => exact h

/-- The input that an operand is plugged into holds the term. -/
theorem Term.plug_meets (hw : w.Tracked) (hS : S ⊆ Iic w.issued) (h : t.Ready S w o)
    (parent : Option Id) : (plug o parent).Meets w (¬t.Printable) fun i w' =>
      Frame w.issued none t.plugged w w' ∧ w'.previous = w.previous ∧
        ∀ T vs, Later (S ∪ Ioc w.issued w'.issued) none w' T vs → t.Fills T vs i := by
  cases t with
  | text s =>
    cases h
    exact meets_of_run rfl ⟨Frame.refl hw _ _, rfl, fun _ _ _ => rfl⟩
  | number k =>
    cases h
    have htext : (Value.int k).text = Value.integerText k := rfl
    rw [plug, meets_bind, htext, Value.integerText]
    split
    · next hlong => exact fun hp => absurd hp (Nat.not_le.2 hlong)
    · exact meets_of_run rfl ⟨Frame.refl hw _ _, rfl, fun _ _ _ => rfl⟩
  | named x =>
    cases h
    obtain ⟨w₁, hrun, hframe, hlt, hprev, v, hv, hname, hfind⟩ :=
      run_variableReporter hw w.issued none x
    have hfills : ∀ T vs, Later (S ∪ Ioc w.issued w₁.issued) none w₁ T vs →
        (named x).Fills T vs (covering (ofNat w₁.issued)) := by
      intro T vs hT
      obtain ⟨b, hb, hlike, -⟩ := hT.find? (Or.inr ⟨hlt, Nat.le_refl _⟩) hfind
      exact ⟨_, rfl, v, hT.vars v hv, hname, b, hb, hlike⟩
    cases parent with
    | none => exact meets_of_run (run_bind_of_ok hrun _) ⟨hframe, hprev, hfills⟩
    | some p =>
      have hparent : Frame w₁.issued none 0 w₁ _ :=
        frame_setParent hframe.tracked (ofNat w₁.issued) (some p)
      refine meets_of_run ((run_bind_of_ok hrun _).trans (run_bind_of_ok
        (run_setParent (has_iff.2 ⟨_, hfind⟩) p) _))
        ⟨hframe.trans (hparent.of_none hframe.issued), hprev, fun T vs hT => hfills T vs ?_⟩
      refine hT.of_keeps (hparent.keeps (union_subset (fun j hj => ?_) fun j hj => hj.2))
      exact (hS hj).trans hframe.issued
  | operation op left right =>
    obtain ⟨id, rfl, hid⟩ := h
    cases parent with
    | none =>
      exact meets_of_run rfl ⟨Frame.refl hw _ _, rfl,
        fun T vs hT => hid.holds T vs (hT.mono subset_union_left)⟩
    | some p =>
      have hparent : Frame w.issued none 0 w _ := frame_setParent hw id (some p)
      refine meets_of_run (run_bind_of_ok (run_setParent hid.has p) _)
        ⟨hparent, rfl, fun T vs hT => hid.holds T vs ?_⟩
      exact (hT.mono subset_union_left).of_keeps (hparent.keeps hS)

/-- A block with two operands. -/
def Term.OperandsAt (opcode first second : String) (left right : Term) (T : Table Block)
    (vs : List Variable) (id : Id) : Prop :=
  ∃ l r, T.At id { opcode, inputs := [(first, l), (second, r)] } ∧
    left.Fills T vs l ∧ right.Fills T vs r

/-- A block with two operands holds their terms. -/
theorem Term.withOperands_meets {left right : Term} {a b : Operand} (hw : w.Tracked)
    (hS : S ⊆ Iic w.issued) (ha : left.Ready S w a) (hb : right.Ready S w b)
    (opcode first second : String) :
    (withOperands opcode first second a b).Meets w (¬(left.Printable ∧ right.Printable))
      fun id w' =>
        Frame w.issued none (left.plugged + right.plugged + 1) w w' ∧ w'.previous = w.previous ∧
        Built (S ∪ Ioc w.issued w'.issued) w'
          (OperandsAt opcode first second left right) id := by
  have hframe₁ : Frame w.issued none 1 w (w.push { opcode }) := frame_push hw rfl
  have hfind₁ := find?_push hw.free { opcode }
  have hS₁ : S ⊆ Iic (w.push { opcode }).issued := fun j hj => (hS hj).trans hframe₁.issued
  rw [withOperands]
  refine meets_run_bind (run_reporter hw.free opcode) ?_
  simp only [plugAll, bind_assoc, pure_bind]
  refine (plug_meets hframe₁.tracked hS₁ (ha.of_keeps (hframe₁.keeps hS)) _).bind (fun h hc => h hc.1) ?_
  rintro l w₂ ⟨hframe₂, hprev₂, hl⟩
  have hframe₁₂ := hframe₁.trans (hframe₂.of_none hframe₁.issued)
  have hS₂ : S ⊆ Iic w₂.issued := fun j hj => (hS hj).trans hframe₁₂.issued
  refine (plug_meets hframe₂.tracked hS₂ (hb.of_keeps (hframe₁₂.keeps hS)) _).bind (fun h hc => h hc.2) ?_
  rintro r w₃ ⟨hframe₃, hprev₃, hr⟩
  obtain ⟨b₂, hfind₂, hlike₂, -⟩ := hframe₂.find? (Nat.le_refl _) hfind₁
  obtain ⟨b₃, hfind₃, hlike₃, -⟩ := hframe₃.find? hframe₂.issued hfind₂
  have hcomp : Completes (w.issued + 1) (fun b => { b with inputs := [(first, l), (second, r)] }) 0
      w₃ _ :=
    completes_amend hframe₃.tracked _ (fun _ => rfl) (fun _ => rfl) fun _ _ h => h.setInputs _
  have hframe := (hframe₁₂.trans (hframe₃.of_none hframe₁₂.issued)).trans
    (hcomp.frame w.issued (lt_succ_self _))
  -- What the operands are made of is older than the new block, or was made after it.
  have hnot : w.issued + 1 ∉ S ∪ Ioc (w.issued + 1) w₃.issued := by
    rintro (h | h)
    · exact not_succ_le_self _ (hS h)
    · exact Nat.lt_irrefl _ h.1
  have hkeeps := hcomp.keeps
    (union_subset (fun j hj => (hS₂ hj).trans hframe₃.issued) fun j hj => hj.2) hnot
  have hsub := union_subset_union_right S
    (Ioc_subset_Ioc_left (b := w₃.issued) (le_succ w.issued))
  have hmem : w.issued + 1 ∈ Ioc w.issued w₃.issued :=
    ⟨lt_succ_self _, hframe₂.issued.trans hframe₃.issued⟩
  refine meets_of_run (run_bind_of_ok (run_setInputs (has_iff.2 ⟨b₃, hfind₃⟩) _) _)
    ⟨?_, hprev₃.trans hprev₂, ⟨_, Or.inr hmem, rfl⟩,
      has_iff.2 ⟨_, find?_amend hfind₃ _⟩, fun T vs hT => ⟨l, r, ?_, ?_, ?_⟩⟩
  · rw [Nat.add_comm _ 1, ← Nat.add_assoc]
    exact hframe
  · obtain ⟨b', hb', hlike, -⟩ := hT.find? (Or.inr hmem) (find?_amend hfind₃ _)
    exact ⟨b', hb', ((hlike₂.trans hlike₃).setInputs _).trans hlike⟩
  · refine hl T vs ((((hT.mono hsub).of_keeps hkeeps).mono (union_subset_union_right S
      (Ioc_subset_Ioc_right hframe₃.issued))).of_keeps (hframe₃.keeps ?_))
    exact union_subset hS₂ fun j hj => hj.2
  · exact hr T vs (((hT.mono hsub).of_keeps hkeeps).mono (union_subset_union_right S
      (Ioc_subset_Ioc_left hframe₂.issued)))

/-- What the operand of a term has to be. -/
def Term.Evaluates (t : Term) : Prop :=
  ∀ {w : Workspace}, w.Tracked → t.operand.Meets w (¬t.Printable) fun o w' =>
    Frame w.issued none t.made w w' ∧ w'.previous = w.previous ∧
      t.Ready (Set.Ioc w.issued w'.issued) w' o

/-- Two terms are evaluated one after the other, and a block is made that holds them. -/
theorem Term.operands_meets {left right : Term} (hleft : left.Evaluates) (hright : right.Evaluates)
    (hw : w.Tracked) (opcode first second : String) :
    (do
      let a ← left.operand
      let b ← right.operand
      withOperands opcode first second a b : Build Id).Meets w
      (¬(left.Printable ∧ right.Printable)) fun id w' =>
        Frame w.issued none (left.size + right.size + 1) w w' ∧ w'.previous = w.previous ∧
        Built (Ioc w.issued w'.issued) w' (OperandsAt opcode first second left right) id := by
  refine (hleft hw).bind (fun h hc => h hc.1) ?_
  rintro a w₁ ⟨hframe₁, hprev₁, ha⟩
  refine (hright hframe₁.tracked).bind (fun h hc => h hc.2) ?_
  rintro b w₂ ⟨hframe₂, hprev₂, hb⟩
  have hframe₁₂ := hframe₁.trans (hframe₂.of_none hframe₁.issued)
  have ha₂ := (ha.of_keeps (hframe₂.keeps fun j hj => hj.2)).mono
    (Ioc_subset_Ioc_right hframe₂.issued)
  have hb₂ := hb.mono (Ioc_subset_Ioc_left hframe₁.issued)
  refine (withOperands_meets hframe₂.tracked (fun j hj => hj.2) ha₂ hb₂ opcode first
    second).mono id ?_
  rintro id w₃ ⟨hframe₃, hprev₃, hbuilt⟩
  rw [Ioc_union_Ioc_eq_Ioc hframe₁₂.issued hframe₃.issued] at hbuilt
  have hcount : left.made + right.made + (left.plugged + right.plugged + 1) =
      left.size + right.size + 1 := by
    have hl := left.made_add_plugged
    have hr := right.made_add_plugged
    omega
  rw [← hcount]
  exact ⟨hframe₁₂.trans (hframe₃.of_none hframe₁₂.issued), (hprev₃.trans hprev₂).trans hprev₁,
    hbuilt⟩

/-- **The operand of a term stands for it.** -/
theorem Term.evaluates (t : Term) : t.Evaluates := by
  induction t with
  | operation op left right ihl ihr =>
    intro w hw
    have hsplit : (operation op left right).operand = (do
        let id ← (do
          let a ← left.operand
          let b ← right.operand
          withOperands op.opcode "NUM1" "NUM2" a b : Build Id)
        pure (.block (some id))) := by
      simp only [operand, bind_assoc]
    rw [hsplit]
    refine (operands_meets ihl ihr hw op.opcode "NUM1" "NUM2").bind id ?_
    rintro id w₁ ⟨hframe, hprev, hbuilt⟩
    refine meets_pure.2 ⟨hframe, hprev, id, rfl, hbuilt.imp ?_⟩
    rintro T vs ⟨l, r, hat, hl, hr⟩
    exact ⟨id, rfl, l, r, hat, hl, hr⟩
  | _ =>
    intro w hw
    exact meets_of_run rfl ⟨Frame.refl hw _ _, rfl, rfl⟩

/-! ### Conditions -/

theorem run_plugCondition {k : Nat} {c : Id} (hw : w.Tracked) (hk' : k ≤ w.issued)
    (hk : w.blocks.has (ofNat k)) (hc : w.blocks.has c) (input : String) :
    ∃ w', (plugCondition (ofNat k) input (some c)).run w = (.ok (), w') ∧
      Completes k (·.setInput input (.block c)) 0 w w' := by
  have hset : Completes k (·.setInput input (.block c)) 0 w _ :=
    completes_amend hw k (fun _ => rfl) (fun _ => rfl) fun _ _ h => h.setInput _ _
  refine ⟨_, (run_bind_of_ok (run_setInput hk input (.block c)) _).trans
    (run_setParent ((has_adjust _ _ _ _).trans hc) _), ?_⟩
  exact hset.trans ((frame_setParent hset.tracked c _).completes hk' rfl)

/-- The negation of what is found under another block. -/
def NegationAt (P : Table Block → List Variable → Id → Prop) (T : Table Block)
    (vs : List Variable) (id : Id) : Prop :=
  ∃ d, T.At id { opcode := "operator_not", inputs := [("OPERAND", .block d)] } ∧ P T vs d

theorem negation_meets {P : Table Block → List Variable → Id → Prop} {c : Id} (hw : w.Tracked)
    (hS : S ⊆ Iic w.issued) (hc : Built S w P c) :
    (negation (some c)).Meets w False fun id w' =>
      Frame w.issued none 1 w w' ∧ w'.previous = w.previous ∧
        Built (S ∪ Ioc w.issued w'.issued) w' (NegationAt P) id := by
  let b : Block := { opcode := "operator_not" }
  have hframe₁ : Frame w.issued none 1 w (w.push b) := frame_push hw rfl
  have hhold₁ : (w.push b).Holds (w.issued + 1) b := ⟨b, find?_push hw.free b, Block.Like.refl b, rfl⟩
  have hc₁ := hc.of_keeps (hframe₁.keeps hS)
  have hS₁ : S ⊆ Iic (w.push b).issued := fun j hj => (hS hj).trans hframe₁.issued
  have hnot : w.issued + 1 ∉ S := fun h => not_succ_le_self _ (hS h)
  obtain ⟨w₂, hrun₂, hcomp⟩ :=
    run_plugCondition hframe₁.tracked (Nat.le_refl _) hhold₁.has hc₁.has "OPERAND"
  have hhold₂ := hcomp.holds b hhold₁
  have hmem : w.issued + 1 ∈ Ioc w.issued w₂.issued :=
    ⟨lt_succ_self _, hcomp.issued⟩
  refine meets_of_run ((run_bind_of_ok (run_reporter hw.free _) _).trans (run_bind_of_ok hrun₂ _))
    ⟨hframe₁.trans (hcomp.frame _ (lt_succ_self _)), hcomp.previous,
      ⟨_, Or.inr hmem, rfl⟩, hhold₂.has, fun T vs hT => ⟨c, ?_, ?_⟩⟩
  · exact hhold₂.at_later hT (Or.inr hmem)
  · exact (hc₁.of_keeps (hcomp.keeps hS₁ hnot)).holds T vs (hT.mono subset_union_left)

/-- The block of two conditions joined holds both. -/
theorem joined_meets {P Q : Table Block → List Variable → Id → Prop} {l r : Id} (hw : w.Tracked)
    (hS : S ⊆ Iic w.issued) (hl : Built S w P l) (hr : Built S w Q r) (opcode : String) :
    (do
      let id ← reporter opcode
      plugCondition id "OPERAND1" (some l)
      plugCondition id "OPERAND2" (some r)
      pure id : Build Id).Meets w False fun id w' =>
      Frame w.issued none 1 w w' ∧ w'.previous = w.previous ∧
        Built (S ∪ Ioc w.issued w'.issued) w' (fun T vs id => ∃ l r,
          T.At id { opcode, inputs := [("OPERAND1", .block l), ("OPERAND2", .block r)] } ∧
          P T vs l ∧ Q T vs r) id := by
  let b : Block := { opcode }
  have hframe₁ : Frame w.issued none 1 w (w.push b) := frame_push hw rfl
  have hhold₁ : (w.push b).Holds (w.issued + 1) b := ⟨b, find?_push hw.free b, Block.Like.refl b, rfl⟩
  have hnot : w.issued + 1 ∉ S := fun h => not_succ_le_self _ (hS h)
  obtain ⟨w₂, hrun₂, hcomp₂⟩ :=
    run_plugCondition hframe₁.tracked (Nat.le_refl _) hhold₁.has (hl.of_keeps (hframe₁.keeps hS)).has "OPERAND1"
  have hhold₂ := hcomp₂.holds b hhold₁
  have hS₁ : S ⊆ Iic (w.push b).issued := fun j hj => (hS hj).trans hframe₁.issued
  have hS₂ : S ⊆ Iic w₂.issued := fun j hj => (hS₁ hj).trans hcomp₂.issued
  have hl₂ := hl.of_keeps ((hframe₁.keeps hS).trans (hcomp₂.keeps hS₁ hnot))
  have hr₂ := hr.of_keeps ((hframe₁.keeps hS).trans (hcomp₂.keeps hS₁ hnot))
  have hframe₂ := hframe₁.trans (hcomp₂.frame _ (lt_succ_self _))
  obtain ⟨w₃, hrun₃, hcomp₃⟩ := run_plugCondition hframe₂.tracked hcomp₂.issued hhold₂.has
    hr₂.has "OPERAND2"
  have hhold₃ := hcomp₃.holds _ hhold₂
  have hmem : w.issued + 1 ∈ Ioc w.issued w₃.issued :=
    ⟨lt_succ_self _, hcomp₂.issued.trans hcomp₃.issued⟩
  refine meets_of_run ((run_bind_of_ok (run_reporter hw.free _) _).trans
    ((run_bind_of_ok hrun₂ _).trans (run_bind_of_ok hrun₃ _)))
    ⟨hframe₂.trans (hcomp₃.frame _ (lt_succ_self _)), hcomp₃.previous.trans hcomp₂.previous,
      ⟨_, Or.inr hmem, rfl⟩, hhold₃.has, fun T vs hT => ⟨l, r, ?_, ?_, ?_⟩⟩
  · exact hhold₃.at_later hT (Or.inr hmem)
  · exact (hl₂.of_keeps (hcomp₃.keeps hS₂ hnot)).holds T vs (hT.mono subset_union_left)
  · exact (hr₂.of_keeps (hcomp₃.keeps hS₂ hnot)).holds T vs (hT.mono subset_union_left)

/-- **The block of a condition stands for it.** -/
theorem Cond.block_meets (c : Cond) (hw : w.Tracked) :
    c.block.Meets w (¬c.Printable) fun id w' =>
      Frame w.issued none c.size w w' ∧ w'.previous = w.previous ∧
        Built (Ioc w.issued w'.issued) w' c.Stands id := by
  induction c generalizing w with
  | compare r left right =>
    have hsplit : (compare r left right).block = (do
        let id ← (do
          let a ← left.operand
          let b ← right.operand
          withOperands r.opcode "OPERAND1" "OPERAND2" a b : Build Id)
        if r.negated then negation (some id) else pure id) := by
      simp only [block, bind_assoc]
    rw [hsplit, meets_bind]
    refine (Term.operands_meets left.evaluates right.evaluates hw r.opcode "OPERAND1"
      "OPERAND2").mono id ?_
    rintro base w₁ ⟨hframe₁, hprev₁, hbase⟩
    cases hneg : r.negated with
    | false =>
      refine meets_pure.2 ⟨?_, hprev₁, hbase.imp ?_⟩
      · rw [size, hneg]
        exact hframe₁
      · rintro T vs ⟨l, r', hat, hl, hr⟩
        refine ⟨base, l, r', ?_, hat, hl, hr⟩
        rw [hneg]
        rfl
    | true =>
      refine (negation_meets hframe₁.tracked (fun j hj => hj.2) hbase).mono False.elim ?_
      rintro id w₂ ⟨hframe₂, hprev₂, hbuilt⟩
      rw [Ioc_union_Ioc_eq_Ioc hframe₁.issued hframe₂.issued] at hbuilt
      refine ⟨?_, hprev₂.trans hprev₁, hbuilt.imp ?_⟩
      · rw [size, hneg]
        exact hframe₁.trans (hframe₂.of_none hframe₁.issued)
      · rintro T vs ⟨d, hnot, l, r', hat, hl, hr⟩
        refine ⟨d, l, r', ?_, hat, hl, hr⟩
        rw [hneg]
        exact hnot
  | both op left right ihl ihr =>
    rw [block]
    refine (ihr hw).bind (fun h hc => h hc.2) ?_
    rintro r w₁ ⟨hframe₁, hprev₁, hr⟩
    refine (ihl hframe₁.tracked).bind (fun h hc => h hc.1) ?_
    rintro l w₂ ⟨hframe₂, hprev₂, hl⟩
    have hframe₁₂ := hframe₁.trans (hframe₂.of_none hframe₁.issued)
    have hr₂ := (hr.of_keeps (hframe₂.keeps fun j hj => hj.2)).mono
      (Ioc_subset_Ioc_right hframe₂.issued)
    have hl₂ := hl.mono (Ioc_subset_Ioc_left hframe₁.issued)
    refine (joined_meets hframe₂.tracked (fun j hj => hj.2) hl₂ hr₂ op.opcode).mono False.elim ?_
    rintro id w₃ ⟨hframe₃, hprev₃, hbuilt⟩
    rw [Ioc_union_Ioc_eq_Ioc hframe₁₂.issued hframe₃.issued] at hbuilt
    exact ⟨hframe₁₂.trans (hframe₃.of_none hframe₁₂.issued), (hprev₃.trans hprev₂).trans hprev₁,
      hbuilt⟩
  | not c ih =>
    rw [block]
    refine (ih hw).bind id ?_
    rintro d w₁ ⟨hframe₁, hprev₁, hd⟩
    refine (negation_meets hframe₁.tracked (fun j hj => hj.2) hd).mono False.elim ?_
    rintro id w₂ ⟨hframe₂, hprev₂, hbuilt⟩
    rw [Ioc_union_Ioc_eq_Ioc hframe₁.issued hframe₂.issued] at hbuilt
    exact ⟨hframe₁.trans (hframe₂.of_none hframe₁.issued), hprev₂.trans hprev₁, hbuilt⟩

end Core

end BlockScript
