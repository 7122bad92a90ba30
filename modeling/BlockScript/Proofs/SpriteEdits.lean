import BlockScript.Proofs.StatementEdits

/-!
# Sprites perform edits

A procedure is announced before the methods of its class are compiled, and defined when its method
is. The head of a procedure takes several steps; together they are the one edit
`Workspace.Edits.define` (`Build.run_define`). If the header has to be made anew, because the name
was defined before or never announced, this is the same as announcing and then defining it
(`Workspace.headed_announced`).

A class compiles in a workspace of its own, and its edits become part of a single edit of the
workspace around it (`Build.exists_closed`).
-/

namespace BlockScript

open Workspace Build BlockScript.Id Program Table

theorem Table.set_set {α : Type} (t : Table α) (k : String) (a b : α) :
    (t.set k a).set k b = t.set k b := by
  induction t with
  | nil => simp [set]
  | cons p t ih =>
    obtain ⟨k', v⟩ := p
    by_cases hk : k' = k
    · simp [set, hk]
    · simp [set, hk, ih]

/-- A licence to define procedures as well. -/
abbrev Licence.defining (L : Licence) : Licence := { L with defines := True }

theorem Licence.within_defining (L : Licence) : L.Within L.defining :=
  ⟨fun _ _ h => h, id, fun _ => trivial⟩

/-- The procedure that a member of a class defines. -/
def Program.Stmt.procedure? : Program.Stmt → Option String
  | .functionDef name _ _ _ => if isProcedure name then some (procedureName name) else none
  | _ => none

/-! ### Announcements and headers -/

namespace Workspace

/-- Procedures of the name, if there are any, are defined. -/
def Defined (w : Workspace) (name : String) : Prop :=
  ∀ p, w.procedures.find? name = some p → p.definition.isSome = true

/-- A header that is made anew might as well have been announced. -/
theorem headed_announced (w : Workspace) (name : String) (names : List String) (p : Procedure)
    (y : Int) :
    ({ w with issued := w.issued + names.length } : Workspace).headed name p y =
      (w.announced name names).headed name p y := by
  simp only [headed, announced, set_set]

end Workspace

namespace Build

variable {L : Licence} {held : List Id} {w w' : Workspace} {name : String} {names : List String}

theorem run_freshFor (names : List String) (w : Workspace) :
    (freshFor names).run w =
      (.ok (range w.issued names.length), { w with issued := w.issued + names.length }) := by
  induction names generalizing w with
  | nil => rfl
  | cons n names ih =>
    rw [freshFor, run_bind_of_ok (run_fresh w), run_bind_of_ok (ih _), run_pure, List.length_cons,
      range_succ, Nat.add_assoc, Nat.add_comm 1]

theorem run_announce (method : String) (params : Params) (w : Workspace) :
    (announce method params).run w =
      (.ok (), w.announced (procedureName method) (argumentNames params)) := by
  rw [announce, run_bind_of_ok (run_freshFor _ w)]
  rfl

/-- The header of a procedure is the announced one, or it is made because there is none or it is
used up. -/
theorem header_cases {method : String} {params : Params} {p : Procedure}
    (h : (procedureHeader method params).run w = (.ok p, w')) :
    (w' = w ∧ w.procedures.find? (procedureName method) = some p ∧ p.definition = none) ∨
      (w.Defined (procedureName method) ∧
        w' = { w with issued := w.issued + (argumentNames params).length } ∧
        (w.announced (procedureName method) (argumentNames params)).procedures.find?
          (procedureName method) = some p ∧ p.definition = none) := by
  rw [procedureHeader, run_bind_of_ok (run_get w)] at h
  have hset := find?_set_self w.procedures (procedureName method)
  cases hfind : w.procedures.find? (procedureName method) with
  | none =>
    simp only [hfind] at h
    rw [run_bind_of_ok (run_freshFor _ w)] at h
    cases h
    exact .inr ⟨fun q hq => (by cases hfind.symm.trans hq), rfl, hset _, rfl⟩
  | some q =>
    simp only [hfind] at h
    split at h
    · next hopen =>
      cases h
      exact .inl ⟨rfl, rfl, Option.isNone_iff_eq_none.1 hopen⟩
    · next hdefined =>
      rw [run_bind_of_ok (run_freshFor _ w)] at h
      cases h
      refine .inr ⟨fun q' hq' => ?_, rfl, hset _, rfl⟩
      cases hfind.symm.trans hq'
      rwa [Bool.not_eq_true, Option.isNone_eq_false_iff] at hdefined

/-- The parameters of a prototype. -/
theorem run_prototypeInputs (prototype : Id) (ps : List (String × Id))
    (hkeys : ∀ id ∈ w.blocks.keys, Issued w.issued id) :
    (prototypeInputs prototype ps).run w =
      (.ok (parameterInputs w.issued ps),
        { w with
          issued := w.issued + ps.length
          blocks := w.blocks ++ parameters prototype w.issued ps }) := by
  induction ps generalizing w with
  | nil => simp [prototypeInputs, parameterInputs, parameters]
  | cons q ps ih =>
    obtain ⟨name, argumentId⟩ := q
    have hfree : w.Free := find?_eq_none_iff.2 fun hmem =>
      (hkeys _ hmem).ne_ofNat (Nat.lt_succ_self _) rfl
    have hpushed : ∀ id ∈ (w.push (parameterBlock prototype name)).blocks.keys,
        Issued (w.issued + 1) id := by
      intro id hid
      rw [push, keys_append, List.mem_append] at hid
      rcases hid with hid | hid
      · exact (hkeys id hid).mono (Nat.le_succ _)
      · rw [List.mem_singleton.1 hid]
        exact issued_ofNat (Nat.le_refl _)
    rw [prototypeInputs, run_bind_of_ok (run_fresh w)]
    refine (run_bind_of_ok (run_put_fresh hfree (parameterBlock prototype name)) _).trans
      ((run_bind_of_ok (ih hpushed) _).trans ?_)
    simp only [run_pure, push, parameters, parameterInputs, List.length_cons, List.append_assoc,
      List.singleton_append, Nat.add_assoc, Nat.add_comm 1]

/-- The identifier of a block that is not there puts the block at the end. -/
theorem set_of_not_mem {blocks : Table Block} {id : Id} (h : id ∉ blocks.keys) (b : Block) :
    blocks.set id b = blocks ++ [(id, b)] :=
  set_of_find?_eq_none _ _ (find?_eq_none_iff.2 h)

/-- The header of a procedure can always be made. -/
theorem exists_header (method : String) (params : Params) (w : Workspace) :
    ∃ p v, (procedureHeader method params).run w = (.ok p, v) := by
  rw [procedureHeader, run_bind_of_ok (run_get w)]
  split
  · split
    · exact ⟨_, _, rfl⟩
    · exact ⟨_, _, run_bind_of_ok (run_freshFor _ w) _⟩
  · exact ⟨_, _, run_bind_of_ok (run_freshFor _ w) _⟩

/-- The steps that make the head of a procedure. -/
theorem run_define (hw : ∀ id ∈ w.blocks.keys, Issued w.issued id) (method : String)
    (params : Params) (body : List (Build Unit)) :
    ∃ p v y, (procedureHeader method params).run w = (.ok p, v) ∧
      (define method params body).run w =
        (do
          sequence body
          modify fun w => { w with arguments := [] }
          endScript : Build Unit).run (v.headed (procedureName method) p y) := by
  obtain ⟨p, v, hheader⟩ := exists_header method params w
  have hkeys : ∀ id ∈ v.blocks.keys, Issued v.issued id := by
    rcases header_cases hheader with ⟨rfl, -⟩ | ⟨-, rfl, -⟩
    · exact hw
    · exact fun id hid => (hw id hid).mono (Nat.le_add_right _ _)
  refine ⟨p, v, Int.ofNat v.procedures.length * 200, hheader, ?_⟩
  -- the parameters are numbered last, so the two other blocks are not among them
  have hnew : ∀ n, v.issued < n → n ≤ v.issued + 2 → ofNat n ∉
      (v.blocks ++ parameters (ofNat (v.issued + 2)) (v.issued + 2)
        (p.argumentNames.zip p.argumentIds)).keys := by
    intro n hn hle hmem
    rw [keys_append, keys_parameters, List.mem_append] at hmem
    rcases hmem with hold | hparam
    · exact (hkeys _ hold).ne_ofNat hn rfl
    · obtain ⟨m, hm, -, heq⟩ := lt_of_mem_range hparam
      rw [ofNat_inj] at heq
      omega
  rw [define, run_bind_of_ok hheader, run_bind_of_ok (run_fresh v), run_bind_of_ok (run_fresh _),
    run_bind_of_ok (run_prototypeInputs _ _ fun id hid => ?_)]
  · rw [run_bind_of_ok (run_put _ _ _), set_of_not_mem (hnew (v.issued + 2) (by omega) (by omega)),
      run_bind_of_ok (run_get _), run_bind_of_ok (run_put _ _ _), set_of_not_mem ?_,
      run_bind_of_ok (run_modify _ _)]
    · simp only [List.append_assoc, List.singleton_append]
      rfl
    · rw [keys_append, List.mem_append, not_or]
      refine ⟨hnew (v.issued + 1) (by omega) (by omega), fun hmem => ?_⟩
      have heq := ofNat_inj.1 (List.mem_singleton.1 hmem)
      omega
  · exact (hkeys id hid).mono (Nat.le_add_right _ 2)

/-! ### Methods -/

/-- A step of code that defines no procedures, as part of code that does. -/
theorem Acts.defining {m : Build Unit} (h : m.Acts L) (hL : ¬L.defines) (w : Workspace) :
    m.Performs L.defining held w.blocks.keys w fun _ w' => w'.procedures = w.procedures := by
  intro hw hold hheld u w' hrun
  obtain ⟨hedits, -⟩ := h w hw hold hheld u w' hrun
  exact ⟨hedits.mono L.within_defining (.refl _), hedits.edits.procedures hL⟩

/-- What is defined stays defined, and the given procedure is defined if there is one. -/
def Defines (m : Build Unit) (L : Licence) (name? : Option String) : Prop :=
  ∀ w {held}, m.Performs L.defining held w.blocks.keys w fun _ w' =>
    (∀ n, w.Defined n → w'.Defined n) ∧ ∀ n, name? = some n → w'.Defined n

theorem Acts.defines {m : Build Unit} (h : m.Acts L) (hL : ¬L.defines) : m.Defines L none := by
  refine fun w => (h.defining hL w).imp fun _ w' _ hsame =>
    ⟨fun n hn => ?_, fun n hn => by cases hn⟩
  rw [Defined, hsame]
  exact hn

/-- Before its head is made, a procedure is announced. -/
theorem exists_announced (held : List Id) {method : String} {params : Params} {p : Procedure}
    (h : (procedureHeader method params).run w = (.ok p, w')) (y : Int) :
    ∃ v, Edited L.defining held w.blocks.keys w v ∧
      v.procedures.find? (procedureName method) = some p ∧ p.definition = none ∧
      w'.headed (procedureName method) p y = v.headed (procedureName method) p y ∧
      ∀ n, procedureName method ≠ n → v.procedures.find? n = w.procedures.find? n := by
  rcases header_cases h with ⟨rfl, hfind, hopen⟩ | ⟨hdefined, rfl, hfind, hopen⟩
  · exact ⟨w', .refl _, hfind, hopen, rfl, fun _ _ => rfl⟩
  · exact ⟨_, .quiet (.announce _ trivial (.inl hdefined)) rfl rfl, hfind, hopen, headed_announced _ _ _ _ _,
      fun n hn => find?_set_of_ne _ _ hn⟩

/-- The script below the head of a procedure. -/
theorem definedScript_acts {body : List (Build Unit)} (hbody : ∀ s ∈ body, s.Acts L) :
    (do
      sequence body
      modify fun w => { w with arguments := [] }
      endScript : Build Unit).Acts L := by
  have hforget : (modify fun w => { w with arguments := [] } : Build Unit).Acts L := by
    intro w _ _ _ _ u w' hrun
    cases hrun
    exact ⟨.quiet (.note w _ [] _) rfl rfl, trivial⟩
  exact (sequence_acts hbody).bind (hforget.bind endScript_acts)

theorem define_defines {method : String} {params : Params} {body : List (Build Unit)}
    (hL : ¬L.defines) (hbody : ∀ s ∈ body, s.Acts L) :
    (define method params body).Defines L (some (procedureName method)) := by
  intro w held hw hold hheld u w' hrun
  obtain ⟨p, v, y, hheader, hrest⟩ := run_define hw.keys method params body
  rw [hrest] at hrun
  obtain ⟨v', hannounced, hp, hopen, heq, hsame⟩ := exists_announced (L := L) held hheader y
  have hv' := hannounced.reaches hw hold
  have hissued := hv'.after.issued_of_subset
    (List.Subset.trans (List.Subset.trans hheld hold) hv'.keys.subset)
  have hhead : Edited L.defining held w.blocks.keys w (v'.headed (procedureName method) p y) :=
    hannounced.trans ⟨.define y trivial hp hopen, preserves_headed hissued _ p y⟩
  have hreaches := hhead.reaches hw hold
  rw [heq] at hrun
  obtain ⟨hedits, hprocedures⟩ := (definedScript_acts hbody).defining hL _ hreaches.after
    (.refl _) (List.Subset.trans (List.Subset.trans hheld hold) hreaches.keys.subset) u w'
    hrun
  refine ⟨hhead.trans (hedits.mono_old hreaches.keys.subset),
    fun n hn q hq => ?_, fun n hn q hq => ?_⟩
  · rw [hprocedures] at hq
    by_cases hname : procedureName method = n
    · subst hname
      cases (find?_set_self _ _ _).symm.trans hq
      rfl
    · rw [headed, find?_set_of_ne _ _ hname, hsame n hname] at hq
      exact hn q hq
  · cases hn
    rw [hprocedures] at hq
    cases (find?_set_self _ _ _).symm.trans hq
    rfl

theorem method_defines {name : String} {params : Params} {body : List (Build Unit)}
    (hL : ¬L.defines) (hbody : ∀ s ∈ body, s.Acts L) :
    (method name params body).Defines L
      (if isProcedure name then some (procedureName name) else none) := by
  rw [method]
  cases hhat : Hat.ofName? name with
  | some hat =>
    rw [Hat.isProcedure_eq_false_of_ofName? hhat]
    exact (script_acts hbody).defines hL
  | none =>
    by_cases hname : isProcedure name
    · simp only [hname, if_true]
      exact define_defines hL hbody
    · simp only [hname]
      exact acts_pure.defines hL

/-- The procedures of a class are announced while there are no blocks. -/
theorem announceAll_edits {members : List Stmt} (hw : w.blocks = [])
    (hrun : (announceAll members).run w = (.ok (), w')) :
    Edits L.defining [] w w' ∧
      ∀ n, (∀ s ∈ members, s.procedure? ≠ some n) → w.Defined n → w'.Defined n := by
  induction members generalizing w with
  | nil =>
    cases hrun
    exact ⟨.refl _, fun n _ hn => hn⟩
  | cons s rest ih =>
    -- a member that is no procedure is passed over
    have hpassed : (announceAll rest).run w = (.ok (), w') → Edits L.defining [] w w' ∧
        ∀ n, (∀ t ∈ s :: rest, t.procedure? ≠ some n) → w.Defined n → w'.Defined n := by
      intro hrun
      obtain ⟨hedits, hdefined⟩ := ih hw hrun
      exact ⟨hedits, fun n hn => hdefined n (List.forall_mem_cons.1 hn).2⟩
    cases s with
    | functionDef name params body trailer =>
      by_cases hname : isProcedure name
      · rw [announceAll, if_pos hname, run_bind_of_ok (run_announce name params w)] at hrun
        obtain ⟨hedits, hdefined⟩ := ih (by exact hw) hrun
        refine ⟨(Edits.announce _ trivial (.inr hw)).trans hedits, fun n hn hdef => ?_⟩
        obtain ⟨hhead, hrest⟩ := List.forall_mem_cons.1 hn
        have hne : procedureName name ≠ n := by
          rintro rfl
          exact hhead (if_pos hname)
        refine hdefined n hrest fun p hp => hdef p ?_
        rw [announced, find?_set_of_ne _ _ hne] at hp
        exact hp
      · rw [announceAll, if_neg hname] at hrun
        exact hpassed hrun
    | expr | assign | augAssign | forLoop | whileLoop | conditional | classDef | other =>
      exact hpassed hrun

/-! ### Sprites -/

/-- The methods of a class, one after the other. -/
theorem sequence_defines {members : List Stmt} {f : Stmt → Build Unit}
    (h : ∀ s ∈ members, (f s).Defines L s.procedure?) (w : Workspace) :
    (sequence (members.map f)).Performs L.defining held w.blocks.keys w fun _ w' =>
      (∀ n, w.Defined n → w'.Defined n) ∧
        ∀ s ∈ members, ∀ n, s.procedure? = some n → w'.Defined n := by
  induction members generalizing w with
  | nil => exact performs_pure ⟨fun n hn => hn, fun s hs => by cases hs⟩
  | cons s members ih =>
    refine (h s (.head _) w).next fun _ w₁ h₁ hfirst => ?_
    have hrest := ih (fun s hs => h s (.tail _ hs)) w₁
    refine hrest.of_keys.imp fun _ w₂ h₂ hrest => ⟨fun n hn => hrest.1 n (hfirst.1 n hn), ?_⟩
    exact List.forall_mem_cons.2 ⟨fun n hn => hrest.1 n (hfirst.2 n hn), hrest.2⟩

/-- **A class is compiled in a workspace of its own**, in which all procedures are defined in the
end. -/
theorem exists_closed {name : String} {settings : Option SpriteSettings}
    {members : List Stmt} {f : Stmt → Build Unit} (hw : w.Sound)
    (h : ∀ s ∈ members, (f s).Defines L s.procedure?)
    (hrun : (sprite name settings members (members.map f)).run w = (.ok (), w')) :
    ∃ w₁, Edits L.defining [] w.opened w₁ ∧ (∀ n, w₁.Defined n) ∧
      w' = w.closed w₁ (w₁.draft name settings) := by
  rw [sprite, run_bind_of_ok (run_get w), run_bind_of_ok (run_set _ w)] at hrun
  obtain ⟨_, v, hannounce, hrun⟩ := run_bind_eq_ok hrun
  obtain ⟨_, w₁, hmethods, hrun⟩ := run_bind_eq_ok hrun
  cases hrun
  obtain ⟨hannounced, hothers⟩ := announceAll_edits (L := L) rfl hannounce
  have hreaches := hannounced.reaches hw.opened fun _ hi => by cases hi
  obtain ⟨hedits, hkept, hdefined⟩ :=
    sequence_defines h v hreaches.after (.refl _) (List.nil_subset _) _ w₁ hmethods
  refine ⟨w₁, hannounced.trans (hedits.edits.mono_old (List.nil_subset _)), fun n => ?_, rfl⟩
  by_cases hn : ∃ s ∈ members, s.procedure? = some n
  · obtain ⟨s, hs, hname⟩ := hn
    exact hdefined s hs n hname
  · refine hkept n (hothers n (fun s hs hname => hn ⟨s, hs, hname⟩) fun p hp => ?_)
    cases hp

end Build

/-! ### Statements -/

namespace Program

mutual

/-- The calls by name in a statement, each with the number of its positional arguments. -/
def Stmt.calls : Stmt → List (String × Nat)
  | .expr e => e.calls
  | .assign _ value => value.calls
  | .augAssign _ _ value => value.calls
  | .forLoop _ iter body _ => iter.calls ++ callsOf body
  | .whileLoop test body _ => test.calls ++ callsOf body
  | .conditional test body orelse => test.calls ++ (callsOf body ++ callsOf orelse)
  | .functionDef _ params body trailer =>
    callsIn params.parts ++ (callsOf body ++ callsIn trailer)
  | .classDef _ _ body => callsOf body
  | .other parts => callsOfParts parts

def callsOf : List Stmt → List (String × Nat)
  | [] => []
  | s :: rest => s.calls ++ callsOf rest

def Part.calls : Part → List (String × Nat)
  | .expr e => e.calls
  | .stmt s => s.calls

def callsOfParts : List Part → List (String × Nat)
  | [] => []
  | p :: rest => p.calls ++ callsOfParts rest

end

mutual

/-- Whether there is a class in a statement. -/
def Stmt.hasClass : Stmt → Bool
  | .expr _ => false
  | .assign _ _ => false
  | .augAssign _ _ _ => false
  | .forLoop _ _ body _ => haveClass body
  | .whileLoop _ body _ => haveClass body
  | .conditional _ body orelse => haveClass body || haveClass orelse
  | .functionDef _ _ body _ => haveClass body
  | .classDef _ _ _ => true
  | .other parts => partsHaveClass parts

def haveClass : List Stmt → Bool
  | [] => false
  | s :: rest => s.hasClass || haveClass rest

def Part.hasClass : Part → Bool
  | .expr _ => false
  | .stmt s => s.hasClass

def partsHaveClass : List Part → Bool
  | [] => false
  | p :: rest => p.hasClass || partsHaveClass rest

end

/-- Whether there is a class in a method of a class. -/
def Stmt.hasInnerClass : Stmt → Bool
  | .functionDef _ _ body _ => haveClass body
  | _ => false

theorem methods_eq_map (ss : List Stmt) : methods ss = ss.map Stmt.visitMember := by
  induction ss with
  | nil => rfl
  | cons s ss ih => rw [methods, List.map_cons, ih]

/-- The count of a loop. -/
theorem Expr.times_performs {L : Licence} (hL : ¬L.defines) (e : Expr)
    (h : ∀ c ∈ e.calls, L.calls c.1 c.2) (w : Workspace) {held : List Id} :
    e.times.Performs L held w.blocks.keys w fun o w' => o.Ready w'.scripts w.blocks.keys := by
  rw [times.eq_def]
  split
  · next count rest keywords =>
    rw [calls, List.forall_mem_append, callsIn, List.forall_mem_append] at h
    exact (meaning_performs hL count h.2.1).operand w
  · exact performs_pure trivial

mutual

/-- **Every statement performs edits**, which contain no class unless the statement does. -/
theorem Stmt.visit_acts {L : Licence} (hL : ¬L.defines) : ∀ s : Stmt,
    (∀ c ∈ s.calls, L.calls c.1 c.2) → (s.hasClass → L.nests) → s.visit.Acts L
  | .expr e, hcalls, _ => (Expr.meaning_performs hL e hcalls).effect
  | .assign targets value, hcalls, _ => by
    rw [Stmt.visit.eq_def]
    dsimp only
    split
    · exact assign_acts (Expr.meaning_performs hL value hcalls)
    · exact acts_pure
  | .augAssign target op value, hcalls, _ => by
    rw [Stmt.visit.eq_def]
    dsimp only
    split
    · exact change_acts (Expr.meaning_performs hL value hcalls)
    · exact acts_pure
  | .forLoop target iter body orelse, hcalls, hclass => by
    rw [Stmt.calls, List.forall_mem_append] at hcalls
    exact repeatLoop_acts (Expr.times_performs hL iter hcalls.1)
      (visits_act hL body hcalls.2 hclass)
  | .whileLoop test body orelse, hcalls, hclass => by
    rw [Stmt.calls, List.forall_mem_append] at hcalls
    have hbody := visits_act hL body hcalls.2 hclass
    rw [Stmt.visit.eq_def]
    dsimp only
    split
    · exact foreverLoop_acts hbody
    · exact conditionLoop_acts (Expr.meaning_performs hL test hcalls.1) hbody
  | .conditional test body orelse, hcalls, hclass => by
    rw [Stmt.calls, List.forall_mem_append, List.forall_mem_append] at hcalls
    rw [Stmt.hasClass, Bool.or_eq_true] at hclass
    exact branch_acts (Expr.meaning_performs hL test hcalls.1)
      (visits_act hL body hcalls.2.1 fun h => hclass (.inl h))
      (visits_act hL orelse hcalls.2.2 fun h => hclass (.inr h))
  | .functionDef name params body trailer, hcalls, hclass => by
    rw [Stmt.calls, List.forall_mem_append, List.forall_mem_append] at hcalls
    have hbody := visits_act hL body hcalls.2.1 hclass
    have hparams := meanings_perform hL params.parts hcalls.1
    have htrailer := meanings_perform hL trailer hcalls.2.2
    rw [Stmt.visit]
    split
    · exact script_acts hbody
    · exact (acts_forM fun m hm => (hparams m hm).effect).bind
        ((sequence_acts hbody).bind (acts_forM fun m hm => (htrailer m hm).effect))
  | .classDef name decorators body, hcalls, hclass => by
    intro w held hw hold hheld u w' hrun
    rw [Stmt.visit, methods_eq_map] at hrun
    have hmembers := members_define hL body hcalls fun _ _ _ => hclass rfl
    obtain ⟨w₁, hedits, hdefined, rfl⟩ := exists_closed hw hmembers hrun
    exact ⟨.quiet (.sprite name _ (hclass rfl) hedits hdefined) rfl rfl, trivial⟩
  | .other parts, hcalls, hclass => sequence_acts (visitParts_act hL parts hcalls hclass)

theorem visits_act {L : Licence} (hL : ¬L.defines) : ∀ ss : List Stmt,
    (∀ c ∈ callsOf ss, L.calls c.1 c.2) → (haveClass ss → L.nests) →
    ∀ m ∈ visits ss, m.Acts L
  | [], _, _ => fun m hm => by cases hm
  | s :: ss, hcalls, hclass => by
    rw [callsOf, List.forall_mem_append] at hcalls
    rw [haveClass, Bool.or_eq_true] at hclass
    exact List.forall_mem_cons.2 ⟨Stmt.visit_acts hL s hcalls.1 fun h => hclass (.inl h),
      visits_act hL ss hcalls.2 fun h => hclass (.inr h)⟩

/-- The members of a class define its procedures. -/
theorem members_define {L : Licence} (hL : ¬L.defines) : ∀ ss : List Stmt,
    (∀ c ∈ callsOf ss, L.calls c.1 c.2) → (∀ s ∈ ss, s.hasInnerClass → L.nests) →
    ∀ s ∈ ss, s.visitMember.Defines L s.procedure?
  | [], _, _ => fun s hs => by cases hs
  | s :: ss, hcalls, hclass => by
    rw [callsOf, List.forall_mem_append] at hcalls
    rw [List.forall_mem_cons] at hclass
    exact List.forall_mem_cons.2 ⟨Stmt.visitMember_defines hL s hcalls.1 hclass.1,
      members_define hL ss hcalls.2 hclass.2⟩

theorem Stmt.visitMember_defines {L : Licence} (hL : ¬L.defines) : ∀ s : Stmt,
    (∀ c ∈ s.calls, L.calls c.1 c.2) → (s.hasInnerClass → L.nests) →
    s.visitMember.Defines L s.procedure?
  | .functionDef name params body trailer, hcalls, hclass => by
    rw [Stmt.calls, List.forall_mem_append, List.forall_mem_append] at hcalls
    exact method_defines hL (visits_act hL body hcalls.2.1 hclass)
  | .expr _, _, _ => acts_pure.defines hL
  | .assign _ _, _, _ => acts_pure.defines hL
  | .augAssign _ _ _, _, _ => acts_pure.defines hL
  | .forLoop _ _ _ _, _, _ => acts_pure.defines hL
  | .whileLoop _ _ _, _, _ => acts_pure.defines hL
  | .conditional _ _ _, _, _ => acts_pure.defines hL
  | .classDef _ _ _, _, _ => acts_pure.defines hL
  | .other _, _, _ => acts_pure.defines hL

theorem Part.visit_acts {L : Licence} (hL : ¬L.defines) : ∀ p : Part,
    (∀ c ∈ p.calls, L.calls c.1 c.2) → (p.hasClass → L.nests) → p.visit.Acts L
  | .expr e, hcalls, _ => (Expr.meaning_performs hL e hcalls).effect
  | .stmt s, hcalls, hclass => Stmt.visit_acts hL s hcalls hclass

theorem visitParts_act {L : Licence} (hL : ¬L.defines) : ∀ ps : List Part,
    (∀ c ∈ callsOfParts ps, L.calls c.1 c.2) → (partsHaveClass ps → L.nests) →
    ∀ m ∈ visitParts ps, m.Acts L
  | [], _, _ => fun m hm => by cases hm
  | p :: ps, hcalls, hclass => by
    rw [callsOfParts, List.forall_mem_append] at hcalls
    rw [partsHaveClass, Bool.or_eq_true] at hclass
    exact List.forall_mem_cons.2 ⟨Part.visit_acts hL p hcalls.1 fun h => hclass (.inl h),
      visitParts_act hL ps hcalls.2 fun h => hclass (.inr h)⟩

end

end Program

end BlockScript
