import Mathlib.Data.List.Forall2
import BlockScript.Proofs.CoreOperands

/-!
# Core programs are compiled as they are written

The blocks of a core program are those of its scripts, chained as they are written: its targets are
its classes (`Class.Realized`). The proof goes up the levels of a program. An item puts one block below
the block where the script stands (`Item.Placed`), and whatever is made for its operands and bodies
is found under that block. A sequence of items is a chain (`sequence_meets`), a body is a chain of
its own that leaves the place in the outer script as it was (`substack_meets`), and from these the
items with bodies are placed in turn. Methods and classes put such chains side by side.
-/

namespace BlockScript

open Program BlockScript.Id List Nat Set Table

namespace Build

/-- Stores a value in a variable, by a block of the given kind. -/
def store (opcode : String) (initial : Operand → Value) (name : String) (value : Meaning) :
    Build Unit := do
  let o ← value.operand
  let variableId ← variableNamed name (initial o)
  let id ← statement opcode
  let i ← plug o (some id)
  setInputs id [("VALUE", i)]
  update id fun b => { b with fields := [("VARIABLE", .named name variableId)] }

theorem assign_eq_store (name : String) (value : Meaning) :
    assign name value = store "data_setvariableto" initialOf name value := rfl

theorem change_add_eq_store (name : String) (value : Meaning) :
    change name .add value = store "data_changevariableby" (fun _ => .int 0) name value := rfl

theorem run_setPrevious_self {w : Workspace} {p : Option Id} (h : w.previous = p) :
    (setPrevious p).run w = (.ok (), w) := by
  subst h
  rfl

/-- Once the first block of a body is known, the rest is a sequence. -/
theorem substackFrom_some (parent first : Id) (steps : List (Build Unit)) :
    substackFrom parent (some first) steps = (do sequence steps; pure (some first)) := by
  induction steps with
  | nil => rfl
  | cons step rest ih =>
    rw [substackFrom, sequence_cons, bind_assoc, ← ih]
    rfl

end Build

namespace Core

open Workspace Build

variable {w w' w₁ : Workspace}

/-! ### One item -/

/-- An item has got the block with number `k`: the block is the successor of the last one of the
script, the script goes on below it, and it is the item in every later table. -/
structure Item.Placed (i : Item) (k : Nat) (w w' : Workspace) : Prop where
  frame : Frame w.issued w.previous i.size w w'
  mem : k ∈ Set.Ioc w.issued w'.issued
  previous : w'.previous = some (Id.ofNat k)
  last : ∃ b, w'.blocks.find? (Id.ofNat k) = some b ∧ b.next = none
  link : ∀ p, w.previous = some p → ∃ b, w'.blocks.find? p = some b ∧ b.next = some (Id.ofNat k)
  lies : ∀ T vs, Later (Set.Ioc w.issued w'.issued) (some (Id.ofNat k)) w' T vs →
    i.Lies T vs (Id.ofNat k)

/-- Whenever a script can go on, the item can be placed. -/
def Item.Compiles (i : Item) : Prop :=
  ∀ {w : Workspace}, w.Tracked → w.Open → i.isSkip = false →
    i.build.Meets w (¬i.Printable) fun _ w' => ∃ k, i.Placed k w w'

variable {i : Item} {is : Script} {k : Nat}

/-- Most items are placed alike: something is evaluated, then the block is put below the last one,
then it is completed. -/
theorem Item.placed_of {n m : Nat} {b : Block} {f : Block → Block} (hw : w.Tracked)
    (hopen : w.Open) (heval : Frame w.issued none n w w₁) (hprev : w₁.previous = w.previous)
    (htop : b.topLevel = false) (hnext : b.next = none)
    (hcomp : Completes (w₁.issued + 1) f m (w₁.stacked b) w') (hsize : n + 1 + m = i.size)
    (hlies : ∀ T vs, T.At (ofNat (w₁.issued + 1)) (f b) →
      Later (Ioc w.issued w'.issued \ {w₁.issued + 1}) none w' T vs →
      i.Lies T vs (ofNat (w₁.issued + 1))) : i.Placed (w₁.issued + 1) w w' := by
  have hstack : Frame w₁.issued w₁.previous 1 w₁ (w₁.stacked b) :=
    frame_stacked heval.tracked w₁.issued htop
  have hhold : w'.Holds (w₁.issued + 1) (f b) :=
    hcomp.holds b ⟨_, find?_stacked heval.tracked b, b.like_setParent _, hnext⟩
  have hmem : w₁.issued + 1 ∈ Ioc w.issued w'.issued :=
    ⟨lt_succ_of_le heval.issued, issued_stacked w₁ b ▸ hcomp.issued⟩
  refine ⟨?_, hmem, hcomp.previous, ?_, ?_, ?_⟩
  · rw [← hsize, ← hprev]
    refine ((heval.of_none (Nat.le_refl _)).trans ?_).trans
      ((hcomp.frame w₁.issued (lt_succ_self _)).of_none heval.issued)
    exact hstack.mono heval.issued fun _ _ hc => hc
  · obtain ⟨b', hb', -, hn⟩ := hhold
    exact ⟨b', hb', hn⟩
  · intro p hp
    obtain ⟨a, ha, -⟩ := hopen p hp
    obtain ⟨j, rfl, -, hj⟩ := hw.exists_number ha
    obtain ⟨a₁, ha₁, -, -⟩ := heval.find? hj ha
    have ha₂ := find?_stacked_previous (hprev.trans hp) ha₁ b
    have hj₁ : j ≤ w₁.issued := hj.trans heval.issued
    have hj₂ : j ∈ Iic (w₁.stacked b).issued \ {w₁.issued + 1} :=
      ⟨issued_stacked w₁ b ▸ hj₁.trans (le_succ _),
        fun heq => not_succ_le_self _ (heq ▸ hj₁)⟩
    obtain ⟨a₃, ha₃, -, hn⟩ := hcomp.kept j hj₂ _ ha₂
    exact ⟨a₃, ha₃, hn (by simp)⟩
  · intro T vs hT
    exact hlies T vs (hhold.at_later hT hmem)
      ((hT.mono sdiff_subset).of_last fun h => h.2 rfl)

/-- What was evaluated before the block of an item was made is still there when the item is
complete. -/
theorem Item.later_evaluated {n m : Nat} {b : Block} {f : Block → Block} {T : Table Block}
    {vs : List Variable} (hw : w.Tracked) (hopen : w.Open) (heval : Frame w.issued none n w w₁)
    (hprev : w₁.previous = w.previous) (htop : b.topLevel = false)
    (hcomp : Completes (w₁.issued + 1) f m (w₁.stacked b) w')
    (hT : Later (Ioc w.issued w'.issued \ {w₁.issued + 1}) none w' T vs) :
    Later (Ioc w.issued w₁.issued) none w₁ T vs := by
  have hissued := hcomp.issued
  rw [issued_stacked] at hissued
  refine (hT.mono fun j hj => ?_).of_keeps
    ((keeps_stacked hw hopen heval hprev htop).trans (hcomp.keeps (fun j hj => ?_) fun h => ?_))
  · exact ⟨⟨hj.1, by have := hj.2; omega⟩, Nat.ne_of_lt (lt_succ_of_le hj.2)⟩
  · rw [mem_Iic, issued_stacked]
    exact hj.2.trans (le_succ _)
  · exact not_succ_le_self _ h.2

/-- So is what was made for its bodies. -/
theorem Item.later_body {k lo hi : Nat} {T : Table Block} {vs : List Variable}
    (hk : w.issued < k) (hlo : k ≤ lo) (hhi : hi ≤ w'.issued)
    (hT : Later (Ioc w.issued w'.issued \ {k}) none w' T vs) :
    Later (Ioc lo hi) none w' T vs := by
  refine hT.mono fun j hj => ⟨⟨?_, hj.2.trans hhi⟩, ?_⟩
  · exact hk.trans_le (hlo.trans hj.1.le)
  · exact Nat.ne_of_gt (Nat.lt_of_le_of_lt hlo hj.1)

/-- A term is evaluated and plugged in. -/
theorem Term.plugged_meets (t : Term) (hw : w.Tracked) (parent : Option Id) :
    (do
      let o ← t.operand
      plug o parent : Build Input).Meets w (¬t.Printable) fun i w' =>
      Frame w.issued none t.size w w' ∧ w'.previous = w.previous ∧
        ∀ T vs, Later (Ioc w.issued w'.issued) none w' T vs → t.Fills T vs i := by
  refine (t.evaluates hw).bind id ?_
  rintro o w₁ ⟨hframe₁, hprev₁, ho⟩
  refine (plug_meets hframe₁.tracked (fun j hj => hj.2) ho parent).mono id ?_
  rintro i w₂ ⟨hframe₂, hprev₂, hi⟩
  rw [Ioc_union_Ioc_eq_Ioc hframe₁.issued hframe₂.issued] at hi
  refine ⟨?_, hprev₂.trans hprev₁, hi⟩
  rw [← t.made_add_plugged]
  exact hframe₁.trans (hframe₂.of_none hframe₁.issued)

/-- The arguments of a command fill its inputs. -/
theorem Term.plugInTurn_meets (id : Id) (names : List String) (args : List Term)
    (hw : w.Tracked) :
    (plugInTurn id names (args.map meaning)).Meets w (¬∀ t ∈ args, t.Printable) fun filled w' =>
      Frame w.issued none (sizeInTurn names args) w w' ∧ w'.previous = w.previous ∧
        ∀ T vs, Later (Ioc w.issued w'.issued) none w' T vs →
          FillInTurn T vs names args filled := by
  induction names generalizing args w with
  | nil => exact meets_of_run rfl ⟨Frame.refl hw _ _, rfl, fun _ _ _ => rfl⟩
  | cons name names ih =>
    cases args with
    | nil => exact meets_of_run rfl ⟨Frame.refl hw _ _, rfl, fun _ _ _ => rfl⟩
    | cons a args =>
      have hsplit : plugInTurn id (name :: names) ((a :: args).map meaning) = (do
          let i ← (do
            let o ← a.operand
            plug o (some id) : Build Input)
          let inputs ← plugInTurn id names (args.map meaning)
          pure ((name, i) :: inputs)) := by
        simp only [map_cons, plugInTurn, bind_assoc]
        rfl
      rw [hsplit]
      refine (a.plugged_meets hw (some id)).bind
        (fun h hc => h (hc a (.head _))) ?_
      rintro i w₁ ⟨hframe₁, hprev₁, hi⟩
      refine (ih args hframe₁.tracked).bind
        (fun h hc => h fun t ht => hc t (.tail _ ht)) ?_
      rintro filled w₂ ⟨hframe₂, hprev₂, hfilled⟩
      refine meets_pure.2 ⟨hframe₁.trans (hframe₂.of_none hframe₁.issued),
        hprev₂.trans hprev₁, fun T vs hT => ⟨i, filled, rfl, ?_, ?_⟩⟩
      · exact hi T vs ((hT.mono (Ioc_subset_Ioc_right hframe₂.issued)).of_keeps
          (hframe₂.keeps fun j hj => hj.2))
      · exact hfilled T vs (hT.mono (Ioc_subset_Ioc_left hframe₁.issued))

theorem Item.compiles_call (opcode : String) (inputs : List String) (args : List Term) :
    (call opcode inputs args).Compiles := by
  intro w hw hopen _
  have hstack : Frame w.issued w.previous 1 w (w.stacked { opcode }) :=
    frame_stacked hw _ rfl
  have hissued : (w.stacked { opcode }).issued = w.issued + 1 := issued_stacked w _
  rw [build]
  refine meets_run_bind (run_create_stack hw.free (fun _ => hopen.has) opcode []) ?_
  refine (Term.plugInTurn_meets _ inputs args hstack.tracked).bind id ?_
  rintro filled w₂ ⟨hframe₂, hprev₂, hfilled⟩
  have hcomp₂ := hframe₂.completes (Nat.le_of_eq hissued.symm) hprev₂
  have hhold₂ := hcomp₂.holds { opcode }
    ⟨_, find?_stacked hw { opcode }, Block.like_setParent _ _, rfl⟩
  have hcomp₃ : Completes (w.issued + 1) (fun b => { b with inputs := filled }) 0 w₂ _ :=
    completes_amend hframe₂.tracked _ (fun _ => rfl) (fun _ => rfl) fun _ _ h => h.setInputs _
  refine meets_of_run (run_setInputs hhold₂.has filled) ⟨_, placed_of hw hopen
    (Frame.refl hw _ _) rfl rfl rfl (hcomp₂.trans hcomp₃) ?_ ?_⟩
  · rw [size]
    omega
  · intro T vs hat hT
    refine ⟨filled, hat, hfilled T vs ?_⟩
    rw [hissued]
    refine (hT.mono fun j hj => ⟨⟨lt_of_succ_lt hj.1, hj.2⟩, Nat.ne_of_gt hj.1⟩).of_keeps ?_
    exact hcomp₃.keeps (fun j hj => hj.2) fun h => Nat.lt_irrefl _ h.1

/-- The block stores the term in the variable. -/
def Item.StoreAt (opcode x : String) (t : Term) (T : Table Block) (vs : List Variable)
    (id : Id) : Prop :=
  ∃ v ∈ vs, v.name = x ∧ ∃ i,
    T.At id { opcode, inputs := [("VALUE", i)], fields := [("VARIABLE", .named x v.id)] } ∧
    t.Fills T vs i

theorem Item.store_meets {opcode x : String} {t : Term} (initial : Operand → Value)
    (hsize : i.size = t.size + 1) (hlies : ∀ T vs id, StoreAt opcode x t T vs id → i.Lies T vs id)
    (hw : w.Tracked) (hopen : w.Open) :
    (store opcode initial x t.meaning).Meets w (¬t.Printable) fun _ w' => ∃ k, i.Placed k w w' := by
  have hop : t.meaning.operand = t.operand := rfl
  rw [store, hop]
  refine (t.evaluates hw).bind id ?_
  rintro o w₁ ⟨hframe₁, hprev₁, ho⟩
  obtain ⟨vid, w₂, hrun₂, hframe₂, -, hprev₂, v, hv, hname, rfl⟩ :=
    run_variableNamed hframe₁.tracked w₁.issued none x (initial o)
  refine meets_run_bind hrun₂ ?_
  have hframe₁₂ := hframe₁.trans (hframe₂.of_none hframe₁.issued)
  have hprev₁₂ := hprev₂.trans hprev₁
  have hopen₂ := hopen.of_frame hw hframe₁₂ hprev₁₂
  have hstack : Frame w₂.issued w₂.previous 1 w₂ (w₂.stacked { opcode }) :=
    frame_stacked hframe₂.tracked _ rfl
  have hissued : (w₂.stacked { opcode }).issued = w₂.issued + 1 := issued_stacked w₂ _
  have hkeeps := keeps_stacked hw hopen hframe₁₂ hprev₁₂ (b := { opcode }) rfl
  have ho₃ := ((ho.of_keeps (hframe₂.keeps fun j hj => hj.2)).mono
    (Ioc_subset_Ioc_right hframe₂.issued)).of_keeps hkeeps
  refine meets_run_bind (run_create_stack hframe₂.tracked.free (fun _ => hopen₂.has) opcode []) ?_
  refine (Term.plug_meets hstack.tracked (fun j hj => hj.2.trans hstack.issued) ho₃ _).bind
    id ?_
  rintro i' w₄ ⟨hframe₄, hprev₄, hfills⟩
  have hcomp₄ := hframe₄.completes (Nat.le_of_eq hissued.symm) hprev₄
  have hhold₄ := hcomp₄.holds { opcode }
    ⟨_, find?_stacked hframe₂.tracked { opcode }, Block.like_setParent _ _, rfl⟩
  have hcomp₅ : Completes (w₂.issued + 1) (fun b => { b with inputs := [("VALUE", i')] }) 0 w₄ _ :=
    completes_amend hframe₄.tracked _ (fun _ => rfl) (fun _ => rfl) fun _ _ h => h.setInputs _
  have hcomp₆ : Completes (w₂.issued + 1)
      (fun b => { b with fields := [("VARIABLE", .named x v.id)] }) 0 _ _ :=
    completes_amend hcomp₅.tracked _ (fun _ => rfl) (fun _ => rfl) fun _ _ h => h.setFields _
  refine meets_of_run ((run_bind_of_ok (run_setInputs hhold₄.has _) _).trans
    (run_update_of_has (hcomp₅.holds _ hhold₄).has _)) ⟨_, placed_of hw hopen hframe₁₂ hprev₁₂ rfl
      rfl ((hcomp₄.trans hcomp₅).trans hcomp₆) ?_ ?_⟩
  · rw [hsize, ← t.made_add_plugged]
    omega
  · intro T vs hat hT
    have hsub : Ioc w.issued w₂.issued ∪ Ioc (w₂.stacked { opcode }).issued w₄.issued ⊆
        Ioc w.issued w₄.issued \ {w₂.issued + 1} := by
      have hlo := hframe₁₂.issued
      have hhi := hframe₄.issued
      rw [hissued] at hhi ⊢
      rintro j (⟨h, h'⟩ | ⟨h, h'⟩) <;>
        exact ⟨⟨by omega, by omega⟩, by rw [mem_singleton_iff]; omega⟩
    refine hlies T vs _ ⟨v, hT.vars v ?_, hname, i', hat, hfills T vs ((hT.mono hsub).of_keeps ?_)⟩
    · exact (((hcomp₄.trans hcomp₅).trans hcomp₆).vars.subset (hstack.vars.subset hv))
    · exact (hcomp₅.trans hcomp₆).keeps (fun j hj => (hsub hj).1.2) fun h => (hsub h).2 rfl

theorem Item.compiles_assign (x : String) (t : Term) : (assign x t).Compiles := by
  intro w hw hopen _
  rw [build, assign_eq_store]
  exact store_meets initialOf (by rw [size]) (fun _ _ _ h => h) hw hopen

theorem Item.compiles_change (x : String) (t : Term) : (change x t).Compiles := by
  intro w hw hopen _
  rw [build, change_add_eq_store]
  exact store_meets _ (by rw [size]) (fun _ _ _ h => h) hw hopen

/-! ### Sequences and bodies -/

/-- What a script does to a workspace in which it can go on: the block that the script stood at gets
the chain of the script as its successor. -/
structure Item.Chained (is : Script) (first : Option Id) (w w' : Workspace) : Prop where
  frame : Frame w.issued w.previous (sizes is) w w'
  isOpen : w'.Open
  link : ∀ p, w.previous = some p → ∃ b, w'.blocks.find? p = some b ∧ b.next = first
  chain : ∀ T vs, Later (Set.Ioc w.issued w'.issued) none w' T vs → Chain T vs is first

theorem Item.chained_nil (hw : w.Tracked) (hopen : w.Open) : Chained [] none w w where
  frame := Frame.refl hw _ _
  isOpen := hopen
  link := hopen
  chain _ _ _ := rfl

theorem Item.Chained.skip {first : Option Id} (hi : i.isSkip) (h : Chained is first w w') :
    Chained (i :: is) first w w' where
  frame := by
    have hsize : i.size = 0 := by
      cases i <;> first | rfl | cases hi
    rw [sizes, hsize, Nat.zero_add]
    exact h.frame
  isOpen := h.isOpen
  link := h.link
  chain T vs hT := by
    rw [Chain, if_pos hi]
    exact h.chain T vs hT

theorem Item.Placed.isOpen (h : i.Placed k w w') : w'.Open := by
  intro p hp
  rw [h.previous, Option.some_inj] at hp
  exact hp ▸ h.last

/-- An item and a chain below it are a chain. -/
theorem Item.Placed.cons {first : Option Id} (hw : w.Tracked) (hopen : w.Open)
    (hi : i.isSkip = false) (h : i.Placed k w w₁) (h' : Chained is first w₁ w') :
    Chained (i :: is) (some (ofNat k)) w w' := by
  have hframe := h'.frame
  rw [h.previous] at hframe
  refine ⟨?_, h'.isOpen, ?_, ?_⟩
  · rw [sizes]
    refine h.frame.trans (hframe.mono h.frame.issued fun j hj hc => ?_)
    rw [Option.some_inj, ofNat_inj] at hc
    exact absurd hj (Nat.not_le_of_lt (hc ▸ h.mem.1))
  · intro p hp
    obtain ⟨a, ha, -⟩ := hopen p hp
    obtain ⟨j, rfl, -, hj⟩ := hw.exists_number ha
    obtain ⟨b, hb, hnext⟩ := h.link _ hp
    obtain ⟨b', hb', -, hnext'⟩ := hframe.find? (hj.trans h.frame.issued) hb
    refine ⟨b', hb', (hnext' fun hc => ?_).trans hnext⟩
    rw [Option.some_inj, ofNat_inj] at hc
    exact Nat.not_le_of_lt h.mem.1 (hc ▸ hj)
  · intro T vs hT
    obtain ⟨b, hb, hnext⟩ := h'.link _ h.previous
    obtain ⟨b', hb', -, hnext'⟩ := hT.find? ⟨h.mem.1, h.mem.2.trans hframe.issued⟩ hb
    rw [Chain, if_neg (by rw [hi]; exact Bool.false_ne_true)]
    refine ⟨_, b', rfl, hb', h.lies T vs ?_, ?_⟩
    · exact ((hT.mono (Ioc_subset_Ioc_right hframe.issued)).weaken_last _).of_frame hframe
        fun j hj => hj.2
    · rw [hnext' (by simp), hnext]
      exact h'.chain T vs (hT.mono (Ioc_subset_Ioc_left h.frame.issued))

/-- **A sequence of items is compiled to a chain of blocks.** -/
theorem Item.sequence_meets (his : ∀ i ∈ is, i.Compiles) (hw : w.Tracked) (hopen : w.Open) :
    (Build.sequence (builds is)).Meets w (¬AllPrintable is) fun _ w' =>
      ∃ first, Chained is first w w' := by
  induction is generalizing w with
  | nil => exact meets_of_run rfl ⟨none, chained_nil hw hopen⟩
  | cons i is ih =>
    have his' : ∀ j ∈ is, j.Compiles := fun j hj => his j (.tail _ hj)
    rw [builds, sequence_cons, meets_bind]
    cases hi : i.isSkip with
    | true =>
      have hstep : i.build = pure () := by
        cases i <;> first | rfl | cases hi
      rw [hstep]
      refine meets_pure.2 ((ih his' hw hopen).mono (fun h hc => h hc.2) ?_)
      rintro _ w' ⟨first, h⟩
      exact ⟨first, h.skip hi⟩
    | false =>
      refine (his i (.head _) hw hopen hi).mono (fun h hc => h hc.1) ?_
      rintro _ w₁ ⟨k, hplaced⟩
      refine (ih his' hplaced.frame.tracked hplaced.isOpen).mono (fun h hc => h hc.2) ?_
      rintro _ w₂ ⟨first, hchain⟩
      exact ⟨_, hplaced.cons hw hopen hi hchain⟩

/-- The block of an item may be hung under another one. -/
theorem Item.Placed.setParent (h : i.Placed k w w₁) (hw : w.Tracked) (hopen : w.Open) (p : Id) :
    i.Placed k w (w₁.amend (ofNat k) fun b => { b with parent := some p }) := by
  have hparent : Frame w₁.issued none 0 w₁ _ :=
    frame_setParent h.frame.tracked (ofNat k) (some p)
  refine ⟨h.frame.trans (hparent.of_none h.frame.issued), h.mem, h.previous, ?_, ?_, ?_⟩
  · obtain ⟨b, hb, hnext⟩ := h.last
    exact ⟨_, find?_amend hb _, hnext⟩
  · intro q hq
    obtain ⟨a, ha, -⟩ := hopen q hq
    obtain ⟨j, rfl, -, hj⟩ := hw.exists_number ha
    obtain ⟨b, hb, hnext⟩ := h.link _ hq
    obtain ⟨b', hb', -, hnext'⟩ := hparent.find? (hj.trans h.frame.issued) hb
    exact ⟨b', hb', (hnext' (by simp)).trans hnext⟩
  · intro T vs hT
    have hframe : Frame w₁.issued (some (ofNat k)) 0 w₁ _ := hparent.of_none (Nat.le_refl _)
    exact h.lies T vs (hT.of_frame hframe fun j hj => hj.2)

theorem Item.substackFrom_meets (his : ∀ i ∈ is, i.Compiles) (hw : w.Tracked)
    (hprev : w.previous = none) (parent : Id) :
    (substackFrom parent none (builds is)).Meets w (¬AllPrintable is) fun first w' =>
      Chained is first w w' := by
  have hopen : w.Open := by
    intro p hp
    rw [hprev] at hp
    cases hp
  induction is with
  | nil => exact meets_of_run rfl (chained_nil hw hopen)
  | cons i is ih =>
    have his' : ∀ j ∈ is, j.Compiles := fun j hj => his j (.tail _ hj)
    rw [builds, substackFrom, meets_bind]
    cases hi : i.isSkip with
    | true =>
      have hstep : i.build = pure () := by
        cases i <;> first | rfl | cases hi
      rw [hstep, meets_pure]
      refine meets_run_bind (run_get w) ?_
      rw [hprev]
      exact (ih his').mono (fun h hc => h hc.2) fun first w' h => h.skip hi
    | false =>
      refine (his i (.head _) hw hopen hi).mono (fun h hc => h hc.1) ?_
      rintro _ w₁ ⟨k, hplaced⟩
      obtain ⟨b, hb, -⟩ := hplaced.last
      have hplaced' := hplaced.setParent hw hopen parent
      refine meets_run_bind (run_get w₁) ?_
      rw [hplaced.previous]
      dsimp only
      refine meets_run_bind (run_setParent (has_iff.2 ⟨b, hb⟩) parent) ?_
      rw [substackFrom_some]
      refine (sequence_meets his' hplaced'.frame.tracked hplaced'.isOpen).bind
        (fun h hc => h hc.2) ?_
      rintro _ w₂ ⟨first, hchain⟩
      exact meets_pure.2 (hplaced'.cons hw hopen hi hchain)

/-- **A body is compiled to a chain of its own**, and the outer script stays where it was. -/
theorem Item.substack_meets (his : ∀ i ∈ is, i.Compiles) (hw : w.Tracked) (parent : Id) :
    (substack parent (builds is)).Meets w (¬AllPrintable is) fun first w' =>
      Frame w.issued none (sizes is) w w' ∧ w'.previous = w.previous ∧
        ∀ T vs, Later (Ioc w.issued w'.issued) none w' T vs → Chain T vs is first := by
  have hframe₀ : Frame w.issued none 0 w { w with previous := none } := frame_setPrevious hw _
  rw [substack]
  refine meets_run_bind (run_get w) ?_
  refine meets_run_bind (run_setPrevious none w) ?_
  refine (substackFrom_meets his hframe₀.tracked rfl parent).bind id ?_
  intro first w₁ hchain
  have hframe₂ : Frame w₁.issued none 0 w₁ { w₁ with previous := w.previous } :=
    frame_setPrevious hchain.frame.tracked _
  have hframe := (hframe₀.trans hchain.frame).trans (hframe₂.of_none hchain.frame.issued)
  rw [Nat.zero_add, Nat.add_zero] at hframe
  refine meets_of_run (run_bind_of_ok (run_setPrevious w.previous w₁) _) ⟨hframe, rfl, ?_⟩
  exact fun T vs hT => hchain.chain T vs (hT.of_keeps (hframe₂.keeps fun j hj => hj.2))

/-- Plugs the first block of a body, if there is one, into an input. -/
def attach (input : String) : Option Id → Block → Block
  | some id, b => b.setInput input (.block id)
  | none, b => b

theorem Item.plugBody_meets (his : ∀ i ∈ is, i.Compiles) (hw : w.Tracked) (hk : k ≤ w.issued)
    (hhas : w.blocks.has (ofNat k)) (input : String) :
    (plugBody (ofNat k) input (builds is)).Meets w (¬AllPrintable is) fun _ w' =>
      ∃ first, Completes k (attach input first) (sizes is) w w' ∧
        ∀ T vs, Later (Ioc w.issued w'.issued) none w' T vs → Chain T vs is first := by
  rw [plugBody]
  refine (substack_meets his hw (ofNat k)).bind id ?_
  rintro first w₁ ⟨hframe, hprev, hchain⟩
  have hcomp := hframe.completes hk hprev
  cases first with
  | none => exact meets_of_run rfl ⟨none, hcomp, hchain⟩
  | some id =>
    have hhas₁ : w₁.blocks.has (ofNat k) := by
      obtain ⟨b, hb⟩ := has_iff.1 hhas
      obtain ⟨b', hb', -, -⟩ := hframe.find? hk hb
      exact has_iff.2 ⟨b', hb'⟩
    have hset : Completes k (·.setInput input (.block id)) 0 w₁ _ :=
      completes_amend hframe.tracked k (fun _ => rfl) (fun _ => rfl) fun _ _ h => h.setInput _ _
    refine meets_of_run (run_setInput hhas₁ input (.block id))
      ⟨some id, hcomp.trans hset, fun T vs hT => hchain T vs (hT.of_keeps ?_)⟩
    exact hset.keeps (fun j hj => hj.2) fun h => Nat.not_le_of_lt h.1 hk

/-! ### Items with bodies -/

theorem Item.compiles_loop {t : Term} {body : Script} (hbody : ∀ i ∈ body, i.Compiles) :
    (loop t body).Compiles := by
  intro w hw hopen _
  have hsplit : (loop t body).build = (do
      let i ← (do
        let o ← t.operand
        plug o none : Build Input)
      let id ← create "control_repeat" .stack [("TIMES", i)]
      plugBody id "SUBSTACK" (builds body)
      setPrevious (some id)) := by
    simp only [build, repeatLoop, bind_assoc]
  rw [hsplit]
  refine (t.plugged_meets hw none).bind (fun h hc => h hc.1) ?_
  rintro i w₁ ⟨hframe₁, hprev₁, hfills⟩
  let b : Block := { opcode := "control_repeat", inputs := [("TIMES", i)] }
  have hstack : Frame w₁.issued w₁.previous 1 w₁ (w₁.stacked b) :=
    frame_stacked hframe₁.tracked _ rfl
  have hfind := find?_stacked hframe₁.tracked b
  refine meets_run_bind (run_create_stack hframe₁.tracked.free
    (fun _ => (hopen.of_frame hw hframe₁ hprev₁).has) "control_repeat" [("TIMES", i)]) ?_
  rw [meets_bind]
  refine (plugBody_meets hbody hstack.tracked (Nat.le_of_eq (issued_stacked w₁ b).symm)
    (has_iff.2 ⟨_, hfind⟩) "SUBSTACK").mono (fun h hc => h hc.2) ?_
  rintro _ w₂ ⟨first, hcomp, hchain⟩
  refine meets_of_run (run_setPrevious_self hcomp.previous) ⟨_, placed_of hw hopen hframe₁ hprev₁
    rfl rfl hcomp ?_ ?_⟩
  · rw [size]
  · intro T vs hat hT
    refine ⟨i, first, ?_, ?_, ?_⟩
    · cases first <;> exact hat
    · exact hfills T vs (later_evaluated hw hopen hframe₁ hprev₁ rfl hcomp hT)
    · rw [issued_stacked] at hchain
      exact hchain T vs (later_body (lt_succ_of_le hframe₁.issued) (Nat.le_refl _)
        (Nat.le_refl _) hT)

/-- The first part of a branch: its condition and its body. -/
theorem Item.branchBody_meets {c : Cond} {body : Script} (hbody : ∀ i ∈ body, i.Compiles)
    (hw : w.Tracked) (hopen : w.Open) :
    (do
      let d ← c.block
      let id ← statement "control_if"
      plugCondition id "CONDITION" (some d)
      plugBody id "SUBSTACK" (builds body)
      pure id : Build Id).Meets w (¬(c.Printable ∧ AllPrintable body)) fun id w' =>
      ∃ w₁ d first, id = ofNat (w₁.issued + 1) ∧ Frame w.issued none c.size w w₁ ∧
        w₁.previous = w.previous ∧
        Completes (w₁.issued + 1) (attach "SUBSTACK" first ∘ (·.setInput "CONDITION" (.block d)))
          (sizes body) (w₁.stacked { opcode := "control_if" }) w' ∧
        (∀ T vs, Later (Ioc w.issued w₁.issued) none w₁ T vs → c.Stands T vs d) ∧
        ∀ T vs, Later (Ioc (w₁.issued + 1) w'.issued) none w' T vs → Chain T vs body first := by
  refine (c.block_meets hw).bind (fun h hc => h hc.1) ?_
  rintro d w₁ ⟨hframe₁, hprev₁, hd⟩
  let b : Block := { opcode := "control_if" }
  have hstack : Frame w₁.issued w₁.previous 1 w₁ (w₁.stacked b) :=
    frame_stacked hframe₁.tracked _ rfl
  have hissued := issued_stacked w₁ b
  have hhold : (w₁.stacked b).Holds (w₁.issued + 1) b :=
    ⟨_, find?_stacked hframe₁.tracked b, Block.like_setParent _ _, rfl⟩
  have hd₂ := hd.of_keeps (keeps_stacked hw hopen hframe₁ hprev₁ (b := b) rfl)
  refine meets_run_bind (run_create_stack hframe₁.tracked.free
    (fun _ => (hopen.of_frame hw hframe₁ hprev₁).has) "control_if" []) ?_
  obtain ⟨w₃, hrun₃, hcomp₃⟩ := run_plugCondition hstack.tracked (Nat.le_of_eq hissued.symm)
    hhold.has hd₂.has "CONDITION"
  refine meets_run_bind hrun₃ ?_
  have hk : w₁.issued + 1 ≤ w₃.issued := hissued ▸ hcomp₃.issued
  refine (plugBody_meets hbody hcomp₃.tracked hk (hcomp₃.holds b hhold).has "SUBSTACK").bind
    (fun h hc => h hc.2) ?_
  rintro _ w₄ ⟨first, hcomp₄, hchain⟩
  have hcomp := hcomp₃.trans hcomp₄
  rw [Nat.zero_add] at hcomp
  refine meets_pure.2 ⟨w₁, d, first, rfl, hframe₁, hprev₁, hcomp, hd.holds, fun T vs hT => ?_⟩
  exact hchain T vs (hT.mono (Ioc_subset_Ioc_left hk))

theorem Item.compiles_choice {c : Cond} {body orelse : Script} (hbody : ∀ i ∈ body, i.Compiles)
    (horelse : ∀ i ∈ orelse, i.Compiles) : (choice c body orelse).Compiles := by
  intro w hw hopen _
  have hsplit : (choice c body orelse).build = (do
      let id ← (do
        let d ← c.block
        let id ← statement "control_if"
        plugCondition id "CONDITION" (some d)
        plugBody id "SUBSTACK" (builds body)
        pure id : Build Id)
      if (builds orelse).isEmpty then pure ()
      else
        update id fun b => { b with opcode := "control_if_else" }
        plugBody id "SUBSTACK2" (builds orelse)
      setPrevious (some id)) := by
    simp only [build, branch, Cond.meaning, bind_assoc, pure_bind]
  rw [hsplit]
  refine (branchBody_meets hbody hw hopen).bind (fun h hc => h ⟨hc.1, hc.2.1⟩) ?_
  rintro id w₂ ⟨w₁, d, first, rfl, hframe₁, hprev₁, hcomp, hstands, hchain⟩
  cases orelse with
  | nil =>
    refine meets_of_run (run_setPrevious_self hcomp.previous) ⟨_, placed_of hw hopen hframe₁ hprev₁
      rfl rfl hcomp ?_ ?_⟩
    · rw [size, sizes]
      rfl
    · intro T vs hat hT
      refine ⟨d, first, none, ?_, ?_, ?_, rfl⟩
      · cases first <;> exact hat
      · exact hstands T vs (later_evaluated hw hopen hframe₁ hprev₁ rfl hcomp hT)
      · exact hchain T vs (later_body (lt_succ_of_le hframe₁.issued) (Nat.le_refl _)
          (Nat.le_refl _) hT)
  | cons i is =>
    let b : Block := { opcode := "control_if" }
    have hhold : (w₁.stacked b).Holds (w₁.issued + 1) b :=
      ⟨_, find?_stacked hframe₁.tracked b, Block.like_setParent _ _, rfl⟩
    have hk : w₁.issued + 1 ≤ w₂.issued := issued_stacked w₁ b ▸ hcomp.issued
    have hcomp₃ : Completes (w₁.issued + 1) (fun b => { b with opcode := "control_if_else" }) 0
        w₂ _ :=
      completes_amend hcomp.tracked _ (fun _ => rfl) (fun _ => rfl) fun _ _ h => h.setOpcode _
    have hhold₃ := hcomp₃.holds _ (hcomp.holds b hhold)
    rw [builds, isEmpty_cons, if_neg Bool.false_ne_true]
    dsimp only
    refine meets_run_bind (run_update_of_has (hcomp.holds b hhold).has _) ?_
    rw [meets_bind, ← builds]
    refine (plugBody_meets horelse hcomp₃.tracked hk hhold₃.has "SUBSTACK2").mono
      (fun h hc => h hc.2.2) ?_
    rintro _ w₄ ⟨second, hcomp₄, hchain₄⟩
    have hrest := hcomp₃.trans hcomp₄
    have hall := hcomp.trans hrest
    refine meets_of_run (run_setPrevious_self hall.previous) ⟨_, placed_of hw hopen hframe₁ hprev₁
      rfl rfl hall ?_ ?_⟩
    · rw [size]
      omega
    · intro T vs hat hT
      have hlt : w.issued < w₁.issued + 1 := lt_succ_of_le hframe₁.issued
      refine ⟨d, first, second, ?_, ?_, ?_, ?_⟩
      · cases first <;> cases second <;> exact hat
      · exact hstands T vs (later_evaluated hw hopen hframe₁ hprev₁ rfl hall hT)
      · refine hchain T vs ((later_body hlt (Nat.le_refl _) hrest.issued hT).of_keeps ?_)
        exact hrest.keeps (fun j hj => hj.2) fun h => Nat.lt_irrefl _ h.1
      · exact hchain₄ T vs (later_body hlt hk (Nat.le_refl _) hT)

mutual

/-- **Every item can be placed.** -/
theorem Item.compiles : ∀ i : Item, i.Compiles
  | call opcode inputs args => compiles_call opcode inputs args
  | assign x t => compiles_assign x t
  | change x t => compiles_change x t
  | choice _ body orelse => compiles_choice (allCompile body) (allCompile orelse)
  | loop _ body => compiles_loop (allCompile body)
  | skip => fun _ _ h => by cases h

theorem Item.allCompile : ∀ is : Script, ∀ i ∈ is, i.Compiles
  | [] => fun _ h => by cases h
  | j :: is => fun i h => by
    rcases mem_cons.1 h with heq | h
    · rw [heq]
      exact compiles j
    · exact allCompile is i h

end

/-! ### Methods -/

/-- The workspace after the block that starts a script. -/
def started (w : Workspace) (b : Block) : Workspace :=
  { w.push b with
    previous := some (Id.ofNat (w.issued + 1))
    hat := some (Id.ofNat (w.issued + 1)) }

/-- The block that starts a script. -/
def Start.block (s : Start) : Block :=
  { opcode := s.opcode, topLevel := true, position := some (0, 0) }

theorem run_create_hat (hw : w.Tracked) (hprev : w.previous = none) (opcode : String) :
    (create opcode .hat []).run w = (.ok (ofNat (w.issued + 1)),
      started w { opcode, topLevel := true, position := some (0, 0) }) := by
  rw [run_create hw.free (fun p hp => by cases hprev.symm.trans hp) opcode rfl, stacked,
    linked_of_none hprev, hprev]
  rfl

theorem Start.run_startScript (s : Start) (hw : w.Tracked) (hprev : w.previous = none) :
    (startScript s.hat).run w = (.ok (), started w s.block) := by
  cases s <;> exact run_bind_of_ok (run_create_hat hw hprev _) _

/-- What some methods do to a workspace between scripts: their scripts stand on their own, one after
the other. -/
structure Method.Added (ms : List Method) (ids : List Id) (w w' : Workspace) : Prop where
  issued : w.issued ≤ w'.issued
  tracked : w'.Tracked
  kept : Table.Kept (Set.Iic w.issued) none w.blocks w'.blocks
  count : w'.blocks.length = w.blocks.length + (ms.map size).sum
  tops : w'.blocks.tops = w.blocks.tops ++ ids
  vars : w.vars <+: w'.vars
  rest : w' = { w with issued := w'.issued, blocks := w'.blocks, vars := w'.vars }
  starts : ∀ T vs, Later (Set.Ioc w.issued w'.issued) none w' T vs →
    List.Forall₂ (Starts T vs) ms ids

/-- Its numbers are not too long to be written. -/
def Method.Printable (m : Method) : Prop := Item.AllPrintable m.body

theorem Method.build_meets (m : Method) (hw : w.Tracked) (hprev : w.previous = none)
    (hhat : w.hat = none) :
    m.build.Meets w (¬m.Printable) fun _ w' => Added [m] [ofNat (w.issued + 1)] w w' := by
  have htracked : (started w m.start.block).Tracked :=
    (hw.push _).of_keys_eq rfl (Nat.le_refl _)
  have hfind : (started w m.start.block).blocks.find? (ofNat (w.issued + 1)) =
      some m.start.block := find?_push hw.free _
  have hopen : (started w m.start.block).Open := by
    intro p hp
    rw [started, Option.some_inj] at hp
    exact ⟨_, hp ▸ hfind, rfl⟩
  rw [build, script]
  refine meets_run_bind (m.start.run_startScript hw hprev) ?_
  refine (Item.sequence_meets (Item.allCompile m.body) htracked hopen).bind id ?_
  rintro _ w₂ ⟨first, h⟩
  have hlast : (started w m.start.block).previous = some (ofNat (w.issued + 1)) := rfl
  refine meets_of_run rfl ⟨?_, ?_, ?_, ?_, ?_, ?_, ?_, ?_⟩
  · exact (le_succ _).trans h.frame.issued
  · exact h.frame.tracked.of_keys_eq rfl (Nat.le_refl _)
  · refine (Table.Kept.append _ _ _ _).trans
      (h.frame.kept.mono (Iic_subset_Iic.2 (le_succ _)) fun j hj hc => ?_)
    rw [hlast, Option.some_inj, ofNat_inj] at hc
    exact absurd (hc ▸ hj) (not_succ_le_self _)
  · have hcount := h.frame.count
    simp only [started, push, length_append, length_singleton] at hcount
    simp only [hcount, map_singleton, sum_singleton, size]
    omega
  · have htops := h.frame.tops
    rw [started, push, tops_append] at htops
    exact htops
  · exact h.frame.vars
  · have hrest := h.frame.rest
    dsimp only
    rw [hrest]
    simp only [started, push, hprev, hhat]
  · intro T vs hT
    obtain ⟨b, hb, hlike, -⟩ := h.frame.find? (Nat.le_refl _) hfind
    obtain ⟨b', hb', hnext⟩ := h.link _ hlast
    obtain rfl : b' = b := Option.some_inj.1 (hb'.symm.trans hb)
    obtain ⟨a, ha, hlike', hnext'⟩ := hT.find? ⟨lt_succ_self _, h.frame.issued⟩ hb
    refine .cons ⟨a, ha, hlike.trans hlike', ?_⟩ .nil
    rw [hnext' (by simp), hnext]
    exact h.chain T vs ⟨hT.kept.mono (Ioc_subset_Ioc_left (le_succ _)) fun _ _ hc => hc,
      hT.vars⟩

theorem Method.sequence_meets (ms : List Method) (hw : w.Tracked) (hprev : w.previous = none)
    (hhat : w.hat = none) :
    (Build.sequence (ms.map build)).Meets w (¬∀ m ∈ ms, m.Printable) fun _ w' =>
      ∃ ids, Added ms ids w w' := by
  induction ms generalizing w with
  | nil =>
    exact meets_of_run rfl ⟨[], Nat.le_refl _, hw, Table.Kept.refl _ _ _, rfl,
      (append_nil _).symm, prefix_refl _, rfl, fun _ _ _ => .nil⟩
  | cons m ms ih =>
    rw [map_cons, sequence_cons]
    refine (m.build_meets hw hprev hhat).bind (fun h hc => h (hc m (.head _))) ?_
    intro _ w₁ h₁
    have hprev₁ : w₁.previous = none := by rw [h₁.rest]; exact hprev
    have hhat₁ : w₁.hat = none := by rw [h₁.rest]; exact hhat
    refine (ih h₁.tracked hprev₁ hhat₁).mono
      (fun h hc => h fun m' hm' => hc m' (.tail _ hm')) ?_
    rintro _ w₂ ⟨ids, h₂⟩
    refine ⟨ofNat (w.issued + 1) :: ids, h₁.issued.trans h₂.issued, h₂.tracked, ?_, ?_, ?_,
      h₁.vars.trans h₂.vars, ?_, ?_⟩
    · exact h₁.kept.trans (h₂.kept.mono (Iic_subset_Iic.2 h₁.issued) fun _ _ hc => hc)
    · rw [h₂.count, h₁.count]
      simp [Nat.add_assoc]
    · rw [h₂.tops, h₁.tops, append_assoc]
      rfl
    · rw [h₂.rest, h₁.rest]
    · intro T vs hT
      have hkeeps : Keeps (Ioc w.issued w₁.issued) w₁ w₂ :=
        ⟨h₂.kept.mono (fun j hj => hj.2) fun _ _ hc => hc, h₂.vars⟩
      have hhead := h₁.starts T vs
        ((hT.mono (Ioc_subset_Ioc_right h₂.issued)).of_keeps hkeeps)
      have htail := h₂.starts T vs (hT.mono (Ioc_subset_Ioc_left h₁.issued))
      cases hhead with
      | cons hm _ => exact .cons hm htail

/-! ### Classes -/

/-- Its numbers are not too long to be written. -/
def Class.Printable (c : Class) : Prop := ∀ m ∈ c.methods, m.Printable

/-- A finished sprite is the class. -/
structure Class.Drafted (c : Class) (d : Draft) : Prop where
  name : d.name = c.name
  laidOut : c.LaidOut d.blocks d.vars
  broadcasts : d.broadcasts = []
  soundsUsed : d.soundsUsed = []
  settings : d.settings = c.settings

/-- A workspace outside of classes: there are no blocks, no messages and no lists. -/
structure Bare (w : Workspace) : Prop where
  blocks : w.blocks = []
  broadcasts : w.broadcasts = []
  scopes : ∀ s ∈ w.scopes, s = []

theorem Bare.targets_eq (hw : Bare w) : w.targets = w.drafts.map w.target := by
  rw [targets, hw.blocks]
  rfl

theorem Class.build_meets (c : Class) (hw : Bare w) :
    c.build.Meets w (¬c.Printable) fun _ w' =>
      Bare w' ∧ ∃ d, c.Drafted d ∧ w'.drafts = w.drafts ++ [d] := by
  let inner : Workspace :=
    { w with
      blocks := []
      vars := []
      scopes := w.scopes ++ [[]]
      procedures := []
      arguments := []
      soundsUsed := []
      previous := none
      hat := none }
  have htracked : inner.Tracked := ⟨[], rfl, .nil, by simp⟩
  rw [build, sprite]
  refine meets_run_bind (run_get w) ?_
  refine meets_run_bind (run_set inner w) ?_
  rw [announceAll, meets_bind, meets_pure]
  refine (Method.sequence_meets c.methods htracked rfl rfl).bind id ?_
  rintro _ w₁ ⟨ids, h⟩
  have hbroadcasts : w₁.broadcasts = [] := by
    rw [h.rest]
    exact hw.broadcasts
  have hsounds : w₁.soundsUsed = [] := by rw [h.rest]
  have hscopes : w₁.scopes = w.scopes ++ [[]] := by rw [h.rest]
  have hdrafts : w₁.drafts = w.drafts := by rw [h.rest]
  have htops : w₁.blocks.tops = ids := h.tops
  let d : Draft :=
    { name := c.name
      blocks := w₁.blocks
      vars := w₁.vars
      scope := w₁.scope
      broadcasts := w₁.broadcasts
      soundsUsed := w₁.soundsUsed
      settings := c.settings }
  refine meets_of_run (run_modify _ w₁)
    ⟨⟨hw.blocks, hbroadcasts, ?_⟩, d, ⟨rfl, ⟨h.tracked.nodup, ?_, ?_⟩, hbroadcasts, hsounds, rfl⟩,
      ?_⟩
  · intro s hs
    rw [hscopes, mem_append, List.mem_singleton] at hs
    rcases hs with hs | hs
    · exact hw.scopes s hs
    · exact hs
  · rw [htops]
    exact h.starts _ _ (Later.self _ _)
  · exact h.count.trans (Nat.zero_add _)
  · rw [hdrafts]

theorem Class.forM_meets (cs : List Class) (hw : Bare w) :
    (cs.forM (·.build)).Meets w (¬∀ c ∈ cs, c.Printable) fun _ w' =>
      Bare w' ∧ ∃ ds, Forall₂ Drafted cs ds ∧ w'.drafts = w.drafts ++ ds := by
  induction cs generalizing w with
  | nil => exact meets_of_run rfl ⟨hw, [], .nil, (append_nil _).symm⟩
  | cons c cs ih =>
    rw [forM_cons]
    refine (c.build_meets hw).bind (fun h hc => h (hc c (.head _))) ?_
    rintro _ w₁ ⟨hw₁, d, hd, hdrafts₁⟩
    refine (ih hw₁).mono (fun h hc => h fun c' hc' => hc c' (.tail _ hc')) ?_
    rintro _ w₂ ⟨hw₂, ds, hds, hdrafts₂⟩
    refine ⟨hw₂, d :: ds, .cons hd hds, ?_⟩
    rw [hdrafts₂, hdrafts₁, append_assoc]
    rfl

theorem Class.Drafted.realized {c : Class} {d : Draft} (h : c.Drafted d) (hw : Bare w) :
    c.Realized (w.target d) where
  name := h.name
  laidOut := h.laidOut
  lists := by
    change w.scopes[d.scope]?.getD [] = []
    cases hs : w.scopes[d.scope]? with
    | none => rfl
    | some s => exact hw.scopes s (mem_of_getElem? hs)
  broadcasts := h.broadcasts
  soundsUsed := congrArg some h.soundsUsed
  settings := h.settings

theorem Class.compile_meets {source : String} {cs : List Class} (h : ofSource? source = some cs)
    (w : Workspace) :
    (compile source).Meets w (¬∀ c ∈ cs, c.Printable) fun r _ =>
      Forall₂ Realized cs r.targets := by
  obtain ⟨program, hparse, hcore⟩ := exists_program_of_ofSource? h
  have hbare : Bare { issued := w.issued } := ⟨rfl, rfl, by simp⟩
  rw [compile]
  refine meets_run_bind (run_modify _ w) ?_
  rw [hparse]
  refine meets_run_bind (run_lift_ok program _) ?_
  rw [forM_visitTop_of_ofModule? hcore]
  refine (forM_meets cs hbare).bind id ?_
  rintro _ w₁ ⟨hw₁, ds, hds, hdrafts⟩
  refine meets_of_run rfl ?_
  change Forall₂ Realized cs w₁.targets
  rw [hw₁.targets_eq, hdrafts]
  exact forall₂_map_right_iff.2 (hds.imp fun _ _ hd => hd.realized hw₁)

/-- **Core programs are compiled as they are written.** A program that reads as core classes compiles
unless one of its numbers is too long to be written; and its targets are then those classes, in
order: each script is a chain of blocks, one block for each statement, that starts at a block of its
own and ends where the script ends, the bodies of loops and branches are such chains again, and
terms and conditions are the blocks that their inputs name. -/
theorem Class.realized_of_compile (source : String) (cs : List Class)
    (h : ofSource? source = some cs) (w : Workspace) :
    ((∀ c ∈ cs, c.Printable) → ∃ r w', (compile source).run w = (.ok r, w')) ∧
      ∀ r w', (compile source).run w = (.ok r, w') → List.Forall₂ Realized cs r.targets := by
  have hmeets := compile_meets h w
  refine ⟨fun hprint => ?_, fun r w' hrun => hmeets.of_eq_ok hrun⟩
  obtain ⟨r, w', hrun, -⟩ := hmeets.exists_run fun hbad => hbad hprint
  exact ⟨r, w', hrun⟩

/-- A loop in a branch, under a condition of several parts. -/
def nestedSource : String :=
  "class Cat:\n" ++
  " def when_flag_clicked(self):\n" ++
  "  if x < y + 1 and not x >= 2:\n" ++
  "   for i in range(x * 2): move(-3)\n" ++
  "  x += 1\n"

theorem Class.realized_nestedSource :
    ∃ cs, ofSource? nestedSource = some cs ∧ cs.map (·.methods.map (·.size)) = [[16]] ∧
      ∃ r w', (compile nestedSource).run {} = (.ok r, w') ∧ List.Forall₂ Realized cs r.targets := by
  have hread : (ofSource? nestedSource).map (·.map (·.methods.map (·.size))) = some [[16]] := by
    decide +kernel
  obtain ⟨cs, hcs, hsize⟩ := Option.map_eq_some_iff.1 hread
  have hrun : ((compile nestedSource).run {}).1.isOk = true := by decide +kernel
  obtain ⟨r, w', hrun⟩ := exists_of_isOk hrun
  exact ⟨cs, hcs, hsize, r, w', hrun, (realized_of_compile nestedSource cs hcs {}).2 r w' hrun⟩

end Core

end BlockScript
