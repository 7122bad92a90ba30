import BlockScript.Proofs.CallEdits

/-!
# Expressions perform edits

The meaning of an expression performs edits in each of its roles (`Program.Expr.meaning_performs`),
since the calls in it do.

A call of a procedure is the one place where a block names a procedure. It becomes the single edit
`Workspace.Edits.call`: the block is made, the arguments are plugged in, and then the block is
completed with what the table of procedures says at that moment. Evaluating the arguments does not
change that table (`Workspace.Edits.procedures`).
-/

namespace BlockScript

open Workspace Build

/-- Two changes under one key are one. -/
theorem Table.adjust_adjust {α : Type} (t : Table α) (k : String) (f g : α → α) :
    (t.adjust k f).adjust k g = t.adjust k fun a => g (f a) := by
  induction t with
  | nil => rfl
  | cons p t ih =>
    obtain ⟨k', v⟩ := p
    by_cases hk : k' = k
    · simp [adjust, hk]
    · simp [adjust, hk, ih]

/-- As many names as there are operands are used. -/
theorem map_fst_zip_eq_take {α β : Type} (l : List α) (m : List β) :
    (l.zip m).map Prod.fst = l.take m.length := by
  induction l generalizing m with
  | nil => simp
  | cons a l ih =>
    cases m with
    | nil => rfl
    | cons b m => simp [ih]

/-! ### Calls of procedures -/

/-- Unless procedures are defined, their table stays as it is. -/
theorem Workspace.Edits.procedures {L : Licence} {old : List Id} {w w' : Workspace}
    (h : Edits L old w w') (hL : ¬L.defines) : w'.procedures = w.procedures := by
  induction h with
  | refl | issue | note | turn | declare | addList | addMessage | push | hang | amend => rfl
  | trans h h' ih ih' => exact (ih' hL).trans (ih hL)
  | stack hb hopcode => rw [stacked_eq]
  | call hcall hp hargs hkeys hinputs ih =>
    have hargs := ih hL
    rw [stacked_eq] at hargs
    exact hargs
  | announce names hdefines hname => exact absurd hdefines hL
  | define y hdefines hp hopen => exact absurd hdefines hL
  | sprite name settings hnests h hdefined => rfl

namespace Build

variable {L : Licence} {held old : List Id} {w : Workspace} {args : List Meaning}

theorem performs_callProcedure {name : String} {p : Procedure} {os : List Operand}
    (hcall : L.calls name os.length) (hp : w.procedures.find? name = some p)
    (hos : ∀ o ∈ os, o.Ready w.scripts old) :
    (callProcedure p os).Performs L held old w fun _ _ => True := by
  intro hw hold hheld id w' hrun
  have hprev : ∀ q, w.previous = some q → w.blocks.has q := fun q hq =>
    Table.has_iff.2 (Table.mem_keys_iff.1 (hw.previous q hq).mem_keys)
  rw [callProcedure, statement, run_bind_of_ok (run_create_stack hw.free hprev _ [])] at hrun
  obtain ⟨inputs, w₁, hplug, hrun⟩ := run_bind_eq_ok hrun
  obtain ⟨_, w₂, hset, hrun⟩ := run_bind_eq_ok hrun
  obtain ⟨-, rfl⟩ := run_update_eq_ok hset
  obtain ⟨_, w₃, hset, hrun⟩ := run_bind_eq_ok hrun
  obtain ⟨-, rfl⟩ := run_update_eq_ok hset
  cases hrun
  have hstacked := hw.stacked (isStatement_callBlock w old)
  have hgrows := grows_stacked (b := callBlock) (hw.issued_of_subset hold) fun r hr => by cases hr
  have hcons : Id.ofNat (w.issued + 1) :: old ⊆ (w.stacked callBlock).blocks.keys :=
    List.cons_subset.2 ⟨Table.mem_keys_of_find? (find?_stacked_new hw callBlock),
      List.Subset.trans hold hgrows.scripts.keys.subset⟩
  have hready : ∀ q ∈ p.argumentIds.zip os,
      q.2.Ready (w.stacked callBlock).scripts (Id.ofNat (w.issued + 1) :: old) := by
    intro q hq
    have hnew := hw.not_mem_keys (Nat.lt_succ_self w.issued)
    exact ((hos q.2 (List.of_mem_zip hq).2).cons hnew).mono hgrows.scripts (.refl _)
  have hissued := hw.issued_of_subset hold
  have hhangs : ∀ q, some (Id.ofNat (w.issued + 1)) = some q →
      q ∈ (w.stacked callBlock).blocks.keys ∧ q ∉ held := by
    rintro q ⟨⟩
    exact ⟨hcons (.head _), fun hmem =>
      not_mem_old_of_lt hissued (Nat.lt_succ_self _) (hheld hmem)⟩
  have hheld' := List.Subset.trans hheld (List.subset_cons_self (Id.ofNat (w.issued + 1)) old)
  obtain ⟨hedits, hkeys, hinputs⟩ := performs_plugAll hready hcons hheld' hhangs hstacked
    (.refl _) (List.Subset.trans hheld' hcons) inputs w₁ hplug
  rw [Table.adjust_adjust]
  refine ⟨.call hheld hissued hcall hp (hedits.mono_old hcons) ?_ hinputs, trivial⟩
  rw [hkeys, map_fst_zip_eq_take]

theorem performs_argumentReporter {name : String} :
    (argumentReporter name).Performs L held w.blocks.keys w fun id w' =>
      (Operand.block (some id)).Ready w'.scripts w.blocks.keys := by
  let b : Block :=
    { opcode := "argument_reporter_string_number", fields := [("VALUE", .word name)] }
  have hfield : "VALUE" ∉ namingFields := by decide
  have hb : w.IsPart b :=
    { kind := by
        change (false || Listing.reporters.has "argument_reporter_string_number")
        decide
      opcode := by
        change "argument_reporter_string_number" ∉ procedureOpcodes
        decide
      next := rfl
      parent := fun p hp => by cases hp
      inputs := rfl
      fields := fun p hp => by
        cases List.mem_singleton.1 hp
        exact ⟨Field.resolves_of_not_mem hfield, Field.listed_of_not_mem hfield⟩
      top := rfl
      mutation := rfl }
  exact (performs_put_fresh hb fun p hp => by cases hp).imp fun _ _ _ h => h

/-- **A call by name performs edits.** -/
theorem call_reports {name : String} (hL : ¬L.defines) (hcall : L.calls name args.length)
    (hargs : ∀ m ∈ args, m.Performs L) : (call name args).Reports L := by
  intro w held
  rw [call]
  cases hc : Command.ofName? name with
  | some c => exact Command.perform_reports hc hargs w
  | none =>
    refine performs_get ?_
    cases hp : w.procedures.find? name with
    | some p =>
      refine (performs_mapM_operand hargs).next fun os w₁ h₁ hos => ?_
      refine (performs_callProcedure (hos.1 ▸ hcall) ?_ hos.2).bind
        fun _ _ _ _ => performs_pure trivial
      rw [h₁.edits.procedures hL, hp]
    | none =>
      dsimp only
      split
      · exact performs_argumentReporter.bind fun _ _ _ h => performs_pure h
      · exact performs_pure trivial

end Build

namespace Build

/-- Steps one after the other. -/
theorem acts_forM {α : Type} {L : Licence} {f : α → Build Unit} {xs : List α}
    (h : ∀ x ∈ xs, (f x).Acts L) : (xs.forM f).Acts L := by
  induction xs with
  | nil => exact acts_pure
  | cons x xs ih =>
    exact (h x (.head _)).bind (ih fun y hy => h y (.tail _ hy))

end Build

/-! ### Expressions -/

namespace Program

variable {L : Licence}

theorem callsMean_edits (hL : ¬L.defines) : (View.edits L).CallsMean L.calls := by
  intro name args hcall hargs ⟨held, _, w⟩ hs
  obtain rfl : _ = w.blocks.keys := hs
  have hreports := call_reports hL hcall fun m hm => Meaning.performs_iff.2 (hargs m hm)
  exact (hreports w).imp fun r _ _ hr => ⟨r, rfl, hr⟩

/-- **The meaning of an expression performs edits.** -/
theorem Expr.meaning_performs (hL : ¬L.defines) (e : Expr) (h : ∀ c ∈ e.calls, L.calls c.1 c.2) :
    e.meaning.Performs L :=
  Meaning.performs_iff.2 ((View.edits_lawful L).meaning_means (callsMean_edits hL) e h)

theorem meanings_perform (hL : ¬L.defines) (es : List Expr)
    (h : ∀ c ∈ callsIn es, L.calls c.1 c.2) : ∀ m ∈ meanings es, m.Performs L := fun m hm =>
  Meaning.performs_iff.2 ((View.edits_lawful L).meanings_mean (callsMean_edits hL) es h m hm)

end Program

end BlockScript
