import BlockScript.Proofs.Acyclicity
import BlockScript.Proofs.ProjectListing

/-!
# Listings come to an end

A listing follows references from block to block. It fails with `Fault.endless` when it has followed
more references than there are blocks, and for no other reason. This module shows that it never does
so on the blocks of sound scripts (`Listing.chain_ends`), and on projects with such blocks
(`Listing.ofProject_ends`).

Most of the code of a listing only reads data, and what it reads can be of the wrong kind. That is a
fault too, but another one. For each of these steps there is a lemma that says so.
-/

namespace BlockScript

open Listing Except Listing.Print Target Value

/-- The computation does not run on without an end. -/
def Ends {α : Type} (r : Except Fault α) : Prop := r ≠ .error .endless

section

variable {α β : Type}

theorem ends_ok (a : α) : Ends (.ok a) := by
  rintro ⟨⟩

theorem ends_error {e : Fault} (h : e ≠ .endless) : Ends (.error e : Except Fault α) := by
  rintro ⟨⟩
  exact h rfl

variable {f : α → Except Fault β} {r : Except Fault α}

theorem Ends.bind (hr : Ends r) (hf : ∀ a, r = .ok a → Ends (f a)) : Ends (r >>= f) := by
  cases r with
  | ok a => exact hf a rfl
  | error e => exact ends_error fun hc => hr (congrArg _ hc)

theorem ends_mapM {l : List α} (h : ∀ a ∈ l, Ends (f a)) : Ends (l.mapM f) := by
  induction l with
  | nil => exact ends_ok _
  | cons a l ih =>
    rw [List.mapM_cons]
    refine (h a (.head _)).bind fun b _ => ?_
    exact (ih fun a ha => h a (.tail _ ha)).bind fun bs _ => ends_ok _

end

/-! ### Reading data -/

namespace Value

theorem getD_ends (v : Value) (key : String) (fallback : Value) : Ends (v.getD key fallback) := by
  unfold getD
  split <;> simp [Ends]

theorem get_ends (v : Value) (key : String) : Ends (v.get key) := v.getD_ends key .null

theorem entries_ends (v : Value) : Ends v.entries := by
  unfold entries
  split <;> simp [Ends]

theorem lookupD_ends (v key fallback : Value) : Ends (v.lookupD key fallback) := by
  unfold lookupD
  repeat' split
  all_goals simp [Ends]

theorem iterate_ends (v : Value) : Ends v.iterate := by
  unfold iterate
  split <;> simp [Ends]

theorem size_ends (v : Value) : Ends v.size := by
  unfold size
  split <;> simp [Ends]

theorem nth_ends (v : Value) (i : Nat) : Ends (v.nth i) := by
  unfold nth
  dsimp only
  repeat' split
  all_goals simp [Ends]

theorem asText_ends (v : Value) (operation : String) : Ends (v.asText operation) := by
  unfold asText
  split <;> simp [Ends]

theorem integerText_ends (i : Int) : Ends (integerText i) := by
  unfold integerText
  split <;> simp [Ends]

mutual

theorem quoted_ends : ∀ v : Value, Ends v.quoted
  | null => ends_ok _
  | bool _ => ends_ok _
  | int i => integerText_ends i
  | float _ => ends_ok _
  | imaginary _ => ends_ok _
  | ellipsis => ends_ok _
  | str _ => ends_ok _
  | bytes _ => ends_ok _
  | list items => (quotedAll_ends items).bind fun _ _ => ends_ok _
  | tuple items => by
    refine (quotedAll_ends items).bind fun ts _ => ?_
    split <;> exact ends_ok _
  | dict entries => (quotedEntries_ends entries).bind fun _ _ => ends_ok _

theorem quotedAll_ends : ∀ vs : List Value, Ends (quotedAll vs)
  | [] => ends_ok _
  | v :: rest => (quoted_ends v).bind fun _ _ => (quotedAll_ends rest).bind fun _ _ => ends_ok _

theorem quotedEntries_ends : ∀ es : List (String × Value), Ends (quotedEntries es)
  | [] => ends_ok _
  | (_, v) :: rest =>
    (quoted_ends v).bind fun _ _ => (quotedEntries_ends rest).bind fun _ _ => ends_ok _

end

theorem text_ends (v : Value) : Ends v.text := by
  unfold text
  split
  · exact ends_ok _
  · exact quoted_ends _

theorem contains_ends (v key : Value) : Ends (v.contains key) := by
  unfold contains
  repeat' split
  all_goals simp [Ends]

theorem wrongIndex_ne (v key : Value) : wrongIndex v key ≠ .endless := by
  unfold wrongIndex
  split <;> simp

theorem item_ends (v key : Value) : Ends (v.item key) := by
  unfold item
  split
  · split <;> simp [Ends]
  · split
    · exact (quoted_ends key).bind fun _ _ => ends_error (by simp)
    · exact ends_error (by simp)
  · split
    · exact nth_ends v _
    · exact ends_error (wrongIndex_ne v key)

end Value

namespace Listing

theorem identifierOf_ends (v : Value) : Ends (identifierOf v) := by
  unfold identifierOf
  split
  · exact ends_ok _
  · refine (iterate_ends v).bind fun pieces _ => ?_
    exact (ends_mapM fun p _ => (asText_ends p _).bind fun _ _ => ends_ok _).bind
      fun _ _ => ends_ok _

theorem valueText_ends (v : Value) : Ends (valueText v) := by
  unfold valueText
  split
  · repeat' split
    all_goals exact ends_ok _
  · exact quoted_ends _

theorem numberText_ends (v : Value) : Ends (numberText v) := by
  refine (text_ends v).bind fun shown _ => ?_
  repeat' split
  all_goals exact ends_ok _

theorem literalText_ends (v : Value) : Ends (literalText v) := by
  refine (size_ends v).bind fun n _ => ?_
  split
  · exact ends_ok _
  · refine (nth_ends v 0).bind fun kind _ => (nth_ends v 1).bind fun value _ => ?_
    dsimp only
    split
    · exact numberText_ends value
    · refine (text_ends value).bind fun shown _ => ?_
      repeat' split
      all_goals exact ends_ok _

theorem fieldText_ends (fields name : Value) : Ends (fieldText fields name) := by
  refine (contains_ends fields name).bind fun present _ => ?_
  split
  · refine (item_ends fields name).bind fun data _ => ?_
    split
    · exact text_ends _
    · exact ends_ok _
  · exact ends_ok _

theorem inputContent?_ends (inputs name : Value) : Ends (inputContent? inputs name) := by
  refine (contains_ends inputs name).bind fun present _ => ?_
  split
  · exact (item_ends inputs name).bind fun _ _ => ends_ok _
  · exact ends_ok _

theorem procedureWords_ends (mutation : Value) : Ends (procedureWords mutation) :=
  (getD_ends _ _ _).bind fun _ _ => (asText_ends _ _).bind fun _ _ => ends_ok _

/-! ### Expressions -/

/-- The block is in an input. -/
def Holds (inputs : Value) (r : String) : Prop :=
  ∃ name, inputContent? inputs name = .ok (some (.str r))

section

variable {plugged : Plugged} {inputs fields : Value} (h : ∀ r, Holds inputs r → Ends (plugged r))

include h

theorem inputText_ends (name : Value) : Ends (inputText plugged inputs name) := by
  refine (inputContent?_ends _ _).bind fun content hcontent => ?_
  split
  · exact ends_ok _
  · exact h _ ⟨name, hcontent⟩
  · exact literalText_ends _
  · exact text_ends _

theorem conditionText_ends (name : Value) : Ends (conditionText plugged inputs name) := by
  refine (inputContent?_ends _ _).bind fun content hcontent => ?_
  split
  · exact h _ ⟨_, hcontent⟩
  · exact ends_ok _

theorem slotText_ends (slot : Slot) : Ends (slotText plugged inputs fields slot) := by
  cases slot with
  | input name => exact (inputText_ends h _).bind fun _ _ => ends_ok _
  | inputOr name other =>
    refine (contains_ends _ _).bind fun _ _ => ?_
    exact (inputText_ends h _).bind fun _ _ => ends_ok _
  | condition name => exact (conditionText_ends h _).bind fun _ _ => ends_ok _
  | word | lowered | wordIfAny => exact (fieldText_ends _ _).bind fun _ _ => ends_ok _

theorem callText_ends (function : String) (slots : List Slot) :
    Ends (callText plugged inputs fields function slots) :=
  (ends_mapM fun slot _ => slotText_ends h slot).bind fun _ _ => ends_ok _

omit h in
theorem firstField_ends (names : List String) : Ends (firstField fields names) := by
  induction names with
  | nil => exact ends_ok _
  | cons name rest ih =>
    cases rest with
    | nil => exact fieldText_ends _ _
    | cons name' rest =>
      refine (fieldText_ends _ _).bind fun t _ => ?_
      split
      · exact ih
      · exact ends_ok _

theorem phraseText_ends (p : Phrase) : Ends (phraseText plugged inputs fields p) := by
  cases p with
  | operator left symbol right bracketed =>
    exact (inputText_ends h _).bind fun _ _ => (inputText_ends h _).bind fun _ _ => ends_ok _
  | negation input => exact (inputText_ends h _).bind fun _ _ => ends_ok _
  | call function slots => exact callText_ends h function slots
  | name field => exact (fieldText_ends _ _).bind fun _ _ => ends_ok _
  | namedCall field names input =>
    exact (fieldText_ends _ _).bind fun _ _ => (inputText_ends h _).bind fun _ _ => ends_ok _
  | choice field names other => exact (fieldText_ends _ _).bind fun _ _ => ends_ok _
  | menu names values => exact (firstField_ends names).bind fun _ _ => ends_ok _

end

/-- A block of data leads to another one: by an input, or by what is below it. -/
def BlockLeads (block : Value) (r : String) : Prop :=
  (∃ inputs, block.getD "inputs" (.dict []) = .ok inputs ∧ Holds inputs r) ∨
    block.get "next" = .ok (.str r)

theorem reporterOf_ends {plugged : Plugged} {block : Value}
    (h : ∀ r, BlockLeads block r → Ends (plugged r)) : Ends (reporterOf plugged block) := by
  unfold reporterOf
  split
  · refine (getD_ends _ _ _).bind fun opcode _ => ?_
    refine (getD_ends _ _ _).bind fun inputs hinputs => ?_
    refine (getD_ends _ _ _).bind fun fields _ => ?_
    split
    · exact phraseText_ends (fun r hr => h r (.inl ⟨inputs, hinputs, hr⟩)) _
    · exact (text_ends _).bind fun _ _ => ends_ok _
  · exact ends_ok _

/-! ### Lines -/

theorem holds_of_bodyId? {inputs name : Value} {id : String}
    (h : bodyId? inputs name = .ok (some id)) : Holds inputs id := by
  obtain ⟨content, hcontent, h⟩ := exists_of_bind_eq_ok h
  refine ⟨name, ?_⟩
  rw [hcontent]
  split at h
  · cases h
    rfl
  · cases h

section

variable {plugged : Plugged} {chained : Chained} {block inputs : Value} {indent : Int}

theorem withBody_ends {input header : String}
    (h : ∀ r j, Holds inputs r → Ends (chained (.str r) j)) :
    Ends (withBody chained inputs input header indent) := by
  have hbody : Ends (bodyId? inputs (.str input)) := by
    refine (inputContent?_ends _ _).bind fun content _ => ?_
    split <;> exact ends_ok _
  refine hbody.bind fun found hfound => ?_
  split
  · next id =>
    split
    · exact ends_ok _
    · exact (h id _ (holds_of_bodyId? hfound)).bind fun _ _ => ends_ok _
  · exact ends_ok _

theorem procedureArguments_ends (h : ∀ r, Holds inputs r → Ends (plugged r)) (ids : List Value) :
    Ends (procedureArguments plugged inputs ids) := by
  induction ids with
  | nil => exact ends_ok _
  | cons id rest ih =>
    refine (contains_ends _ _).bind fun _ _ => ?_
    split
    · exact (inputText_ends h id).bind fun _ _ => ih.bind fun _ _ => ends_ok _
    · exact ih

theorem procedureCall_ends (h : ∀ r, Holds inputs r → Ends (plugged r)) :
    Ends (procedureCall plugged block inputs indent) := by
  refine (getD_ends _ _ _).bind fun mutation _ => ?_
  refine (procedureWords_ends mutation).bind fun words _ => ?_
  split
  · exact ends_ok _
  · refine (getD_ends _ _ _).bind fun t _ => (iterate_ends _).bind fun ids _ => ?_
    exact (procedureArguments_ends h ids).bind fun _ _ => ends_ok _

theorem blockLines_ends (hplugged : ∀ r, BlockLeads block r → Ends (plugged r))
    (hchained : ∀ r j, BlockLeads block r → Ends (chained (.str r) j)) :
    Ends (blockLines plugged chained block indent) := by
  refine (getD_ends _ _ _).bind fun opcode _ => ?_
  refine (getD_ends _ _ _).bind fun inputs hinputs => ?_
  refine (getD_ends _ _ _).bind fun fields _ => ?_
  have hplug : ∀ r, Holds inputs r → Ends (plugged r) := fun r hr =>
    hplugged r (.inl ⟨inputs, hinputs, hr⟩)
  have hbody : ∀ input header, Ends (withBody chained inputs input header indent) := fun _ _ =>
    withBody_ends fun r j hr => hchained r j (.inl ⟨inputs, hinputs, hr⟩)
  have hassignment : ∀ symbol : String, Ends (do
      let name ← fieldText fields (.str "VARIABLE")
      let value ← inputText plugged inputs (.str "VALUE")
      .ok [margin indent ++ identifier name ++ " " ++ symbol ++ " " ++ value] :
        Except Fault (List String)) := fun symbol =>
    (fieldText_ends _ _).bind fun _ _ => (inputText_ends hplug _).bind fun _ _ => ends_ok _
  dsimp only
  split
  · exact hbody _ _
  · exact (inputText_ends hplug _).bind fun _ _ => hbody _ _
  · exact (conditionText_ends hplug _).bind fun _ _ => hbody _ _
  · exact (conditionText_ends hplug _).bind fun _ _ => hbody _ _
  · refine (conditionText_ends hplug _).bind fun _ _ => ?_
    exact (hbody _ _).bind fun _ _ => (hbody _ _).bind fun _ _ => ends_ok _
  · exact hassignment _
  · exact hassignment _
  · exact procedureCall_ends hplug
  · split
    · exact (callText_ends hplug _ _).bind fun _ _ => ends_ok _
    · exact ends_ok _
  · split
    · exact (text_ends _).bind fun _ _ => ends_ok _
    · exact ends_error (by simp)

end

/-! ### References -/

/-- A height falls along every reference. -/
structure Grounded (blocks : Value) (height : Value → Nat) : Prop where
  falls : ∀ id block r, blockOf blocks id = .ok block → BlockLeads block r →
    height (.str r) < height id
  next : ∀ id block v, blockOf blocks id = .ok block → block.get "next" = .ok v →
    v.truthy = true → ∃ r, v = .str r
  bounded : ∀ id, height id < bound blocks

section

variable {blocks : Value} {height : Value → Nat} (h : Grounded blocks height)

include h

/-- An expression ends before the bound. -/
theorem Grounded.reporterWithin_ends (fuel : Nat) : ∀ id : String,
    height (.str id) < fuel → Ends (reporterWithin blocks fuel id) := by
  induction fuel with
  | zero => exact fun id hid => absurd hid (Nat.not_lt_zero _)
  | succ fuel ih =>
    intro id hid
    refine (lookupD_ends _ _ _).bind fun block hblock => reporterOf_ends fun r hr => ?_
    have hlt := h.falls _ block r hblock hr
    exact ih r (by omega)

theorem Grounded.reporter_ends (id : String) : Ends (reporter blocks id) :=
  h.reporterWithin_ends _ id (h.bounded _)

/-- A script ends before the bound. -/
theorem Grounded.chainWithin_ends (fuel : Nat) : ∀ (id : Value) (indent : Int),
    height id < fuel → Ends (chainWithin blocks fuel id indent) := by
  induction fuel with
  | zero => exact fun id indent hid => absurd hid (Nat.not_lt_zero _)
  | succ fuel ih =>
    intro id indent hid
    -- what the block leads to is lower
    have hlower : ∀ block r j, blockOf blocks id = .ok block → BlockLeads block r →
        Ends (chainWithin blocks fuel (.str r) j) := by
      intro block r j hblock hr
      have hlt := h.falls id block r hblock hr
      exact ih _ _ (by omega)
    rw [chainWithin]
    split
    · exact ends_ok _
    · refine (lookupD_ends _ _ _).bind fun block hblock => ?_
      split
      · refine (blockLines_ends (fun r _ => h.reporter_ends r)
          fun r j hr => hlower _ r j hblock hr).bind fun _ _ => ?_
        refine (getD_ends _ _ _).bind fun v hv => ?_
        split
        · next htruthy =>
          obtain ⟨r, rfl⟩ := h.next id _ v hblock hv htruthy
          exact (hlower _ r indent hblock (.inr hv)).bind fun _ _ => ends_ok _
        · exact ends_ok _
      · exact ends_ok _

end

/-! ### The blocks of sound scripts -/

section

variable {s : Scripts}

theorem target?_of_content? {id r : Id} {name : String} {i : Input}
    (h : i.Fits s id name) (hi : i.content? = some (.str r)) : i.target? = some r := by
  rw [Input.Fits] at h
  split at h
  · obtain ⟨r', rfl, -⟩ := h
    cases hi
    rfl
  · cases i with
    | menu id =>
      cases hi
      rfl
    | block id =>
      cases hi
      rfl
    | reporter id covered =>
      cases id with
      | none => cases hi
      | some r' =>
        cases hi
        rfl
    | literal l => cases l <;> cases hi
    | embedded l covered => cases l <;> cases hi
    | given v => cases h

/-- A block that is looked up is one of the table, or there is nothing in it. -/
theorem blockOf_cases {t : Table Block} {id block : Value}
    (h : blockOf (blocksValue t) id = .ok block) :
    (∃ k b, id = .str k ∧ t.find? k = some b ∧ block = b.toValue) ∨ block = .dict [] := by
  cases id with
  | str k =>
    cases hfind : t.find? k with
    | some b =>
      rw [blockOf_blocksValue hfind] at h
      cases h
      exact .inl ⟨k, b, rfl, hfind, rfl⟩
    | none =>
      have hmap := Table.find?_map Block.toValue t k
      rw [hfind] at hmap
      simp only [blockOf, blocksValue, lookupD, hashable, if_true, hmap] at h
      cases h
      exact .inr rfl
  | null | bool | int | float | imaginary | ellipsis | bytes | tuple =>
    cases h
    exact .inr rfl
  | list | dict => cases h

/-- What a block leads to as data, it leads to. -/
theorem leads_of_blockLeads (hs : s.Sound) {k r : Id} {b : Block}
    (hb : s.blocks.find? k = some b) (h : BlockLeads b.toValue r) : s.Leads k r := by
  refine ⟨b, hb, ?_⟩
  rcases h with ⟨inputs, hinputs, name, hcontent⟩ | hnext
  · right
    have hvalue : inputs = b.inputsValue := ok.inj hinputs.symm
    subst hvalue
    cases name with
    | str n =>
      rw [inputContent?_inputsValue] at hcontent
      obtain ⟨i, hi, hcontent⟩ := Option.bind_eq_some_iff.1 (ok.inj hcontent)
      have hmem := Table.mem_of_find? hi
      exact Block.mem_plugged.2
        ⟨_, hmem, target?_of_content? ((hs.block k b hb).inputs _ hmem) hcontent⟩
    | null | bool | int | float | imaginary | ellipsis | bytes | tuple | list | dict =>
      cases hcontent
  · left
    have hvalue : Id.optionValue b.next = .str r := ok.inj hnext
    cases hb' : b.next with
    | none =>
      rw [hb'] at hvalue
      cases hvalue
    | some n =>
      rw [hb'] at hvalue
      cases hvalue
      rfl

theorem not_blockLeads_empty (r : String) : ¬BlockLeads (.dict []) r := by
  rintro (⟨inputs, hinputs, name, hcontent⟩ | hnext)
  · cases hinputs
    cases name with
    | str | null | bool | int | float | imaginary | ellipsis | bytes | tuple | list | dict =>
      cases hcontent
  · cases hnext

/-- Heights of blocks bound how far a listing of sound scripts goes. -/
theorem exists_grounded (hs : s.Sound) :
    ∃ height : Value → Nat, Grounded (blocksValue s.blocks) height := by
  obtain ⟨height, hfalls, hbound⟩ := hs.exists_height
  refine ⟨fun v => (v.string?.map height).getD 0, ?_⟩
  exact
    { falls := fun id block r hblock hr => by
        rcases blockOf_cases hblock with ⟨k, b, rfl, hb, rfl⟩ | rfl
        · exact hfalls k r (leads_of_blockLeads hs hb hr)
        · exact absurd hr (not_blockLeads_empty r)
      next := fun id block v hblock hv htruthy => by
        rcases blockOf_cases hblock with ⟨k, b, -, -, rfl⟩ | rfl
        · have hvalue : v = Id.optionValue b.next := ok.inj hv.symm
          cases hb : b.next with
          | none =>
            rw [hvalue, hb] at htruthy
            cases htruthy
          | some n => exact ⟨n, by rw [hvalue, hb]; rfl⟩
        · cases hv
          cases htruthy
      bounded := fun id => by
        rw [show bound (blocksValue s.blocks) = s.blocks.length + 1 from
          congrArg (· + 1) (List.length_map _)]
        cases id.string? with
        | none => exact Nat.succ_pos _
        | some k => exact Nat.lt_succ_of_le (hbound k) }

/-- **A block of sound scripts is listed without an end to it.** -/
theorem reporter_ends (hs : s.Sound) (id : String) :
    Ends (reporter (blocksValue s.blocks) id) := by
  obtain ⟨height, h⟩ := exists_grounded hs
  exact h.reporter_ends id

/-- **A script of sound scripts is listed without an end to it.** -/
theorem chain_ends (hs : s.Sound) (id : Value) (indent : Int) :
    Ends (chain (blocksValue s.blocks) id indent) := by
  obtain ⟨height, h⟩ := exists_grounded hs
  exact h.chainWithin_ends _ id indent (h.bounded id)

end

/-! ### Projects -/

/-- The step does not run on without an end, whatever was noted before. -/
def Print.Ends {α : Type} (p : Print α) : Prop := ∀ s, BlockScript.Ends (p.run s).1

namespace Print

variable {α β : Type}

theorem ends_pure (a : α) : Ends (pure a) := fun _ => ends_ok a

theorem ends_lift {r : Except Fault α} (h : BlockScript.Ends r) : Ends (lift r) := by
  intro s
  cases r with
  | ok a => exact ends_ok a
  | error e => exact h

theorem ends_lift_bind {r : Except Fault α} {f : α → Print β} (hr : BlockScript.Ends r)
    (hf : ∀ a, r = .ok a → Ends (f a)) : Ends (lift r >>= f) := by
  cases r with
  | ok a => exact hf a rfl
  | error e => exact fun _ => ends_error fun hc => hr (congrArg _ hc)

theorem ends_modify (f : Printer → Printer) : Ends (modify f) := fun _ => ends_ok ()

theorem Ends.bind {p : Print α} {f : α → Print β} (hp : Ends p) (hf : ∀ a, Ends (f a)) :
    Ends (p >>= f) := by
  intro s
  rw [run_bind]
  have hs := hp s
  rcases hrun : p.run s with ⟨e | a, s'⟩
  · rw [hrun] at hs
    exact ends_error fun hc => hs (congrArg _ hc)
  · exact hf a s'

theorem ends_forM {l : List α} {f : α → Print Unit} (h : ∀ a ∈ l, Ends (f a)) :
    Ends (l.forM f) := by
  induction l with
  | nil => exact ends_pure ()
  | cons a l ih =>
    exact (h a (.head _)).bind fun _ => ih fun b hb => h b (.tail _ hb)

end Print

theorem prototypeMutation?_ends (blocks definition : Value) :
    Ends (prototypeMutation? blocks definition) := by
  refine (getD_ends _ _ _).bind fun inputs _ => (getD_ends _ _ _).bind fun data _ => ?_
  refine (size_ends _).bind fun n _ => ?_
  split
  · exact ends_ok _
  · refine (nth_ends _ _).bind fun id _ => (lookupD_ends _ _ _).bind fun _ _ => ?_
    exact (getD_ends _ _ _).bind fun _ _ => ends_ok _

theorem noteProcedure_ends (blocks : Value) (id : String) (block : Value) :
    (noteProcedure blocks id block).Ends := by
  refine (ends_lift (get_ends _ _)).bind fun opcode => ?_
  split
  · refine (ends_lift (prototypeMutation?_ends _ _)).bind fun mutation => ?_
    split
    · exact ends_pure _
    · refine (ends_lift (procedureWords_ends _)).bind fun words => ?_
      split
      · exact ends_pure _
      · refine (ends_lift (getD_ends _ _ _)).bind fun code => ?_
        exact (ends_lift (getD_ends _ _ _)).bind fun names => ends_modify _
  · exact ends_pure _

theorem isHat_ends (block : Value) : Ends (isHat block) := by
  unfold isHat
  split
  · refine (get_ends _ _).bind fun top _ => ?_
    split
    · refine (get_ends _ _).bind fun opcode _ => ?_
      split
      · exact ends_ok _
      · split
        · exact ends_ok _
        · exact ends_error (by simp)
    · exact ends_ok _
  · exact ends_ok _

theorem hats_ends (blocks : Value) : Ends (hats blocks) := by
  refine (entries_ends _).bind fun es _ => ?_
  exact (ends_mapM fun p _ => (isHat_ends p.2).bind fun _ _ => ends_ok _).bind fun _ _ => ends_ok _

theorem methodName_ends (blocks hat : Value) : Ends (methodName blocks hat) := by
  refine (getD_ends _ _ _).bind fun opcode _ => ?_
  refine (getD_ends _ _ _).bind fun fields _ => ?_
  split
  · exact ends_ok _
  · exact (fieldText_ends _ _).bind fun _ _ => ends_ok _
  · exact ends_ok _
  · exact (fieldText_ends _ _).bind fun _ _ => ends_ok _
  · exact ends_ok _
  · refine (prototypeMutation?_ends _ _).bind fun mutation _ => ?_
    split
    · exact ends_ok _
    · refine (procedureWords_ends _).bind fun words _ => ?_
      split <;> exact ends_ok _
  · exact ends_ok _

theorem methodParams_ends (blocks hat : Value) : Ends (methodParams blocks hat) := by
  refine (getD_ends _ _ _).bind fun opcode _ => ?_
  split
  · refine (prototypeMutation?_ends _ _).bind fun mutation _ => ?_
    split
    · exact ends_ok _
    · exact (getD_ends _ _ _).bind fun _ _ => ends_ok _
  · exact ends_ok _

theorem textsFrom_ends (n : Nat) (vs : List Value) : Ends (textsFrom n vs) := by
  induction vs generalizing n with
  | nil => exact ends_ok _
  | cons v vs ih =>
    cases v with
    | str t => exact (ih _).bind fun _ _ => ends_ok _
    | null | bool | int | float | imaginary | ellipsis | bytes | tuple | list | dict =>
      exact ends_error (by simp)

theorem joinTexts_ends (v : Value) : Ends (joinTexts v) := by
  unfold joinTexts
  split
  · exact (textsFrom_ends _ _).bind fun _ _ => ends_ok _
  · exact ends_error (by simp)

variable {show? : Value → Except Fault String}

theorem declarations_ends {pad : String} (h : ∀ v, Ends (show? v)) (v : Value) :
    Ends (declarations pad show? v) := by
  refine (entries_ends _).bind fun es _ => ?_
  refine (ends_mapM fun p _ => ?_).bind fun _ _ => ends_ok _
  obtain ⟨_, data⟩ := p
  dsimp only
  split
  · exact (identifierOf_ends _).bind fun _ _ => (h _).bind fun _ _ => ends_ok _
  · exact ends_ok _

theorem declarationsIfAny_ends {pad : String} (h : ∀ v, Ends (show? v)) (v : Value) :
    Ends (declarationsIfAny pad show? v) := by
  unfold declarationsIfAny
  split
  · exact declarations_ends h v
  · exact ends_ok _

theorem isStage_ends (target : Value) : Ends (isStage target) :=
  (get_ends _ _).bind fun _ _ => ends_ok _

theorem stage?_ends (ts : List Value) : Ends (stage? ts) := by
  induction ts with
  | nil => exact ends_ok _
  | cons t ts ih =>
    refine (isStage_ends t).bind fun _ _ => ?_
    split
    · exact ends_ok _
    · exact ih

theorem globals_ends {heading : String} (h : ∀ v, Ends (show? v)) (v : Value) :
    Ends (globals heading show? v) := by
  unfold globals
  split
  · exact (declarations_ends h v).bind fun _ _ => ends_ok _
  · exact ends_ok _

/-- Every script that starts with a block is listed to its end. -/
def ChainsEnd (blocks : Value) : Prop := ∀ id indent, Ends (chain blocks id indent)

theorem script_ends {blocks : Value} (h : ChainsEnd blocks) (hatId : Value) :
    (script blocks hatId).Ends := by
  refine (ends_lift (lookupD_ends _ _ _)).bind fun hat => ?_
  refine (ends_lift (methodName_ends _ _)).bind fun name => ?_
  split
  · exact ends_pure _
  · refine (ends_lift (methodParams_ends _ _)).bind fun params => ?_
    refine (ends_modify _).bind fun _ => ?_
    refine (ends_lift ?_).bind fun header => ?_
    · split
      · exact (joinTexts_ends _).bind fun _ _ => ends_ok _
      · exact ends_ok _
    · refine (ends_lift (get_ends _ _)).bind fun next => ?_
      refine (ends_lift ?_).bind fun body => ends_pure _
      split
      · exact h _ _
      · exact ends_ok _

theorem scripts_ends {blocks : Value} (h : ChainsEnd blocks) (ids : List String) :
    (scripts blocks ids).Ends := by
  induction ids with
  | nil => exact ends_pure _
  | cons id ids ih => exact (script_ends h _).bind fun _ => ih.bind fun _ => ends_pure _

/-- The scripts of a target are listed to their ends. -/
def TargetEnds (target : Value) : Prop :=
  ∀ blocks, target.getD "blocks" (.dict []) = .ok blocks → ChainsEnd blocks

theorem sprite_ends {target : Value} (h : TargetEnds target) : (sprite target).Ends := by
  refine (ends_lift (getD_ends _ _ _)).bind fun name => ?_
  refine (ends_lift (identifierOf_ends _)).bind fun className => ?_
  refine ends_lift_bind (getD_ends _ _ _) fun blocks hblocks => ?_
  refine (ends_lift (getD_ends _ _ _)).bind fun vars => ?_
  refine (ends_lift (getD_ends _ _ _)).bind fun lists => ?_
  refine (ends_modify _).bind fun _ => ?_
  refine (ends_lift (entries_ends _)).bind fun es => ?_
  refine (ends_forM fun p _ => noteProcedure_ends _ _ _).bind fun _ => ?_
  refine (ends_lift (declarationsIfAny_ends valueText_ends _)).bind fun vs => ?_
  refine (ends_lift (declarationsIfAny_ends text_ends _)).bind fun ls => ?_
  refine (ends_lift (hats_ends _)).bind fun ids => ?_
  by_cases hids : ids.isEmpty
  · simp only [hids, if_true]
    exact (ends_pure _).bind fun _ => ends_pure _
  · simp only [hids]
    exact (scripts_ends (h blocks hblocks) ids).bind fun _ => ends_pure _

theorem sprites_ends {ts : List Value} (h : ∀ t ∈ ts, TargetEnds t) : (sprites ts).Ends := by
  induction ts with
  | nil => exact ends_pure _
  | cons t ts ih =>
    have hrest := ih fun t ht => h t (.tail _ ht)
    refine (ends_lift (isStage_ends t)).bind fun _ => ?_
    split
    · exact hrest
    · exact (sprite_ends (h t (.head _))).bind fun _ =>
        hrest.bind fun _ => ends_pure _

theorem project_ends {p : Value} (h : ∀ targets ts, p.getD "targets" (.list []) = .ok targets →
    targets.iterate = .ok ts → ∀ t ∈ ts, TargetEnds t) : (project p).Ends := by
  refine ends_lift_bind (getD_ends _ _ _) fun targets htargets => ?_
  refine ends_lift_bind (iterate_ends _) fun ts hts => ?_
  refine (ends_lift ?_).bind fun global => ?_
  · refine (stage?_ends ts).bind fun stage _ => ?_
    split
    · exact ends_ok _
    · refine (getD_ends _ _ _).bind fun _ _ => (getD_ends _ _ _).bind fun _ _ => ?_
      refine (globals_ends valueText_ends _).bind fun _ _ => ?_
      exact (globals_ends text_ends _).bind fun _ _ => ends_ok _
  · exact (sprites_ends (h targets ts htargets hts)).bind fun _ => ends_pure _

/-- **A project is listed to its end** if the blocks of each of its sprites are those of sound
scripts. -/
theorem ofProject_ends {p : Project}
    (h : ∀ sprite ∈ p.sprites, ∃ s : Scripts, s.Sound ∧
      sprite.blocks = blocksValue s.blocks) : Ends (ofProject p.toValue) := by
  refine project_ends (fun targets ts htargets hts t ht blocks hblocks => ?_) {}
  cases htargets
  cases hts
  rcases List.mem_cons.1 ht with rfl | ht
  · -- the stage has no blocks
    cases hblocks
    exact chain_ends Scripts.sound_empty
  · obtain ⟨sprite, hsprite, rfl⟩ := List.mem_map.1 ht
    obtain ⟨s, hs, heq⟩ := h sprite hsprite
    have hvalue : blocks = sprite.blocks := ok.inj hblocks.symm
    rw [hvalue, heq]
    exact chain_ends hs

end Listing

end BlockScript
