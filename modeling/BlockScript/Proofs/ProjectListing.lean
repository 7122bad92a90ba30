import BlockScript.Project
import BlockScript.Proofs.CoreListing
import Mathlib.Algebra.Order.BigOperators.Group.List
import Mathlib.Data.List.Forall2

/-!
# Listings of core projects

A project whose sprites are core classes is listed as these classes: `ofProject_of_realized`. The
listing starts with a fixed heading; then comes each class, with a line for each of its variables
and with its methods.

Writing a listing keeps notes on procedures. There are none here, and nothing else that is written
depends on the notes, so only the results of the steps matter (`Print.Gives`).
-/

namespace BlockScript

open Core.Item Except List Listing.Print String Target Value

namespace Listing

namespace Print

variable {α β : Type}

/-- The step gives the value, whatever was noted before. -/
def Gives (p : Print α) (a : α) : Prop := ∀ s, (p.run s).1 = .ok a

theorem gives_pure (a : α) : Gives (pure a) a := fun _ => rfl

theorem gives_lift {r : Except Fault α} {a : α} (h : r = .ok a) : Gives (lift r) a := by
  subst h
  exact gives_pure a

theorem gives_modify (f : Printer → Printer) : Gives (modify f) () := fun _ => rfl

theorem run_bind (p : Print α) (f : α → Print β) (s : Printer) :
    (p >>= f).run s =
      match p.run s with
      | (.ok a, s') => (f a).run s'
      | (.error e, s') => (.error e, s') := by
  change StateT.run (ExceptT.run (p >>= f)) s = _
  rw [ExceptT.run_bind]
  rw [StateT.run_bind]
  change _ = match StateT.run (ExceptT.run p) s with
      | (.ok a, s') => (f a).run s'
      | (.error e, s') => (.error e, s')
  rcases StateT.run (ExceptT.run p) s with ⟨_ | _, _⟩ <;> rfl

theorem gives_bind {p : Print α} {a : α} {f : α → Print β} {b : β} (hp : Gives p a)
    (hf : Gives (f a) b) : Gives (p >>= f) b := by
  intro s
  have hs := hp s
  rw [run_bind]
  rcases hrun : p.run s with ⟨r, s'⟩
  rw [hrun] at hs
  obtain rfl : r = .ok a := hs
  exact hf s'

theorem gives_ite_bind {c : Prop} [Decidable c] {p q : Print α} {a : α} {f : α → Print β} {b : β}
    (h : Gives (if c then p else q) a) (hf : Gives (f a) b) :
    Gives (if c then p >>= f else q >>= f) b := by
  rw [← apply_ite (· >>= f)]
  exact gives_bind h hf

theorem gives_forM {l : List α} {f : α → Print Unit} (h : ∀ a ∈ l, Gives (f a) ()) :
    Gives (l.forM f) () := by
  induction l with
  | nil => exact gives_pure ()
  | cons a l ih =>
    exact gives_bind (h a (.head _)) (ih fun b hb => h b (.tail _ hb))

end Print

end Listing

namespace Listing

/-! ### Texts and lines -/

/-- The characters of a text with the given lines, each with its end. -/
def unlines (ls : List String) : List Char := ls.flatMap fun l => l.toList ++ ['\n']

theorem unlines_append (ls ms : List String) : unlines (ls ++ ms) = unlines ls ++ unlines ms :=
  flatMap_append

theorem toList_intercalate_newline {ls : List String} (h : ls ≠ []) :
    (String.intercalate "\n" ls).toList ++ ['\n'] = unlines ls := by
  induction ls with
  | nil => exact absurd rfl h
  | cons l ls ih =>
    cases ls with
    | nil => simp [unlines]
    | cons m ls =>
      have hrest := ih (cons_ne_nil _ _)
      rw [String.intercalate_cons_of_ne_nil (cons_ne_nil _ _), toList_append,
        toList_append, List.append_assoc, hrest, unlines, unlines, flatMap_cons]
      rfl

/-- Texts that are put together from lines can be put together again. -/
theorem unlines_map_intercalate {lss : List (List String)} (h : ∀ ls ∈ lss, ls ≠ []) :
    unlines (lss.map (String.intercalate "\n")) = unlines lss.flatten := by
  induction lss with
  | nil => rfl
  | cons ls lss ih =>
    rw [flatten_cons, unlines_append, ← ih fun l hl => h l (.tail _ hl),
      ← toList_intercalate_newline (h ls (.head _)), map_cons, unlines,
      flatMap_cons]
    rfl

theorem intercalate_congr {ls ms : List String} (hl : ls ≠ []) (hm : ms ≠ [])
    (h : unlines ls = unlines ms) : String.intercalate "\n" ls = String.intercalate "\n" ms := by
  rw [← toList_intercalate_newline hl, ← toList_intercalate_newline hm] at h
  exact toList_inj.1 (append_cancel_right h)

end Listing

namespace Core

open Listing

/-! ### The lines of classes -/

/-- The name of the method for an event. -/
def Start.name : Start → String
  | flag => "when_flag_clicked"
  | clicked => "when_clicked"

/-- The lines of a method. -/
def Method.lines (m : Method) : List String :=
  ("    def " ++ m.start.name ++ "(self):") :: Item.allLines 2 m.body

/-- The first value of a variable, if it is a whole number. -/
def initialInt (v : Variable) : Int :=
  match v.initial with
  | .int i => i
  | _ => 0

/-- The line of a variable. -/
def declaration (v : Variable) : String := "    " ++ v.name ++ " = " ++ toString (initialInt v)

/-- The lines of a class with the given variables. -/
def Class.lines (c : Class) (vs : List Variable) : List String :=
  ("class " ++ c.name ++ ":") :: (vs.map declaration ++ (if vs.isEmpty then [] else [""]) ++
    (if c.methods.isEmpty then ["    pass"] else c.methods.flatMap Method.lines))

/-- A variable that can be listed: it has a plain name, and a whole number to begin with. -/
def IsListed (v : Variable) : Prop :=
  isPlainName v.name = true ∧
    ∃ i : Int, v.initial = .int i ∧ Binary64.digitCount i.natAbs ≤ Numeral.maxDigits

/-- What can be listed: the identifiers are not empty, there are no procedures, and the variables
can be listed. -/
structure Listable (t : Table Block) (vs : List Variable) : Prop where
  blocks : ∀ p ∈ t, p.1 ≠ "" ∧ p.2.opcode ≠ "procedures_definition"
  vars : ∀ v ∈ vs, IsListed v

variable {t : Table Block} {vs : List Variable}

theorem Listable.keys (h : Listable t vs) : "" ∉ t.keys := by
  intro hmem
  obtain ⟨p, hp, hkey⟩ := mem_map.1 hmem
  exact (h.blocks p hp).1 hkey

/-- A sprite with the scripts and variables of a target. -/
structure Presents (s : Sprite) (t : Target) : Prop where
  name : s.name = .str t.name
  blocks : s.blocks = Target.blocksValue t.blocks
  vars : s.vars = Target.variablesValue t.vars
  lists : s.lists = Target.listsValue t.lists

/-! ### Methods -/

theorem chain_blocksValue (t : Table Block) :
    chain (blocksValue t) = chainWithin (blocksValue t) (t.length + 1) := by
  have hbound : bound (blocksValue t) = t.length + 1 := by
    change (t.map fun p => (p.1, p.2.toValue)).length + 1 = _
    rw [List.length_map]
  rw [chain, hbound]

theorem Item.lines_ne_nil (j : Nat) (i : Item) : i.lines j ≠ [] := by
  cases i <;> simp [lines]

theorem Item.allLines_ne_nil (j : Nat) {is : Script} (h : is ≠ []) : allLines j is ≠ [] := by
  cases is with
  | nil => exact absurd rfl h
  | cons i is => simp [allLines, lines_ne_nil]

/-- The script under a hat, or one line if there is none. -/
theorem Item.Listed.body {body : Script} {first : Option Id}
    (h : Listed t (t.length + 1) 2 body first) :
    ∃ lines, (if (Id.optionValue first).truthy = true then
        chain (blocksValue t) (Id.optionValue first) 2 else .ok []) = .ok lines ∧
      (if lines.isEmpty then ["        pass"] else lines) =
        allLines 2 (filled (tidies body)) := by
  cases first with
  | none =>
    refine ⟨[], rfl, ?_⟩
    rw [show tidies body = [] from h]
    rfl
  | some id =>
    obtain ⟨hid, hne, hchain⟩ := h
    refine ⟨allLines 2 (tidies body), ?_, ?_⟩
    · change (if (!id.isEmpty) = true then chain _ (.str id) 2 else _) = _
      rw [if_pos (by simpa using hid), chain_blocksValue]
      exact hchain
    · rw [filled_of_ne_nil hne, if_neg (by simpa using allLines_ne_nil 2 hne)]

variable {b : Block} {c : Class} {texts : List (List String)}

theorem Method.methodName_start (m : Method) (blocks : Value) (hb : b.opcode = m.start.opcode) :
    methodName blocks b.toValue = .ok m.start.name := by
  obtain ⟨opcode⟩ := b
  cases hb
  cases m.start <;> rfl

theorem Method.methodParams_start (m : Method) (blocks : Value) (hb : b.opcode = m.start.opcode) :
    methodParams blocks b.toValue = .ok (.list []) := by
  obtain ⟨opcode⟩ := b
  cases hb
  cases m.start <;> rfl

/-- **A script is listed as a method.** -/
theorem Method.script_gives {m : Method} (hm : arePlain m.body) (hkeys : "" ∉ t.keys)
    (hsize : sizes m.body ≤ t.length) {id : Id} (h : m.Starts t vs id) :
    Gives (script (blocksValue t) (.str id))
      (String.intercalate "\n" m.tidy.lines) := by
  obtain ⟨b, hb, hlike, hchain⟩ := h
  have hopcode : b.opcode = m.start.opcode := by
    rw [hlike]
  have hlisted := listed_of_chain hkeys hm hchain (Nat.le_succ_of_le hsize) hsize 2
  obtain ⟨lines, hlines, hbody⟩ := hlisted.body
  have hname : ¬m.start.name.isEmpty := by cases m.start <;> decide
  refine gives_bind (gives_lift (blockOf_blocksValue hb)) ?_
  refine gives_bind (gives_lift (m.methodName_start _ hopcode)) ?_
  rw [if_neg hname]
  refine gives_bind (gives_lift (m.methodParams_start _ hopcode)) ?_
  refine gives_bind (gives_modify _) ?_
  refine gives_bind (gives_lift rfl) ?_
  refine gives_bind (gives_lift (r := b.toValue.get "next") rfl) ?_
  refine gives_bind (gives_lift hlines) ?_
  dsimp only
  rw [hbody]
  exact gives_pure _

/-! ### Sprites -/

theorem isHat_toValue (b : Block) :
    isHat b.toValue = .ok (b.topLevel && hatOpcodes.contains b.opcode) := by
  obtain ⟨opcode, next, parent, inputs, fields, shadow, topLevel⟩ := b
  cases topLevel <;> rfl

theorem mapM_of_ok {α β : Type} {l : List α} {f : α → Except Fault β} {g : α → β}
    (h : ∀ a ∈ l, f a = .ok (g a)) : l.mapM f = .ok (l.map g) := by
  induction l with
  | nil => rfl
  | cons a l ih =>
    rw [mapM_cons, h a (.head _),
      ih fun b hb => h b (.tail _ hb)]
    rfl

theorem exists_of_forall₂ {α β : Type} {R : α → β → Prop} {l : List α} {l' : List β}
    (h : Forall₂ R l l') {b : β} (hb : b ∈ l') : ∃ a ∈ l, R a b := by
  induction h with
  | nil => cases hb
  | cons hab _ ih =>
    rcases mem_cons.1 hb with rfl | hb
    · exact ⟨_, .head _, hab⟩
    · obtain ⟨a, ha, hab⟩ := ih hb
      exact ⟨a, .tail _ ha, hab⟩

theorem Start.isHat (s : Start) : hatOpcodes.contains s.opcode := by
  cases s <;> decide

/-- The blocks that start scripts. -/
theorem hats_blocksValue (t : Table Block) : hats (blocksValue t) =
    .ok ((t.filter fun p => p.2.topLevel && hatOpcodes.contains p.2.opcode).map Prod.fst) := by
  have hids : (t.map fun p => (p.1, p.2.toValue)).mapM (fun p => do
      let hat ← isHat p.2
      .ok (if hat then some p.1 else none)) =
      (.ok (t.map fun p =>
          if p.2.topLevel && hatOpcodes.contains p.2.opcode then some p.1 else none) :
        Except Fault (List (Option String))) := by
    rw [mapM_map]
    refine mapM_of_ok fun p _ => ?_
    simp only [Function.comp_apply, isHat_toValue, bind, Except.bind]
  refine (congrArg (fun ids => Except.bind ids fun ids => .ok (ids.filterMap id)) hids).trans ?_
  refine congrArg ok ?_
  rw [filterMap_map, ← filterMap_eq_map, ← filterMap_eq_filter,
    filterMap_filterMap]
  congr 1
  funext p
  change (if _ then _ else _) = (Option.guard _ p).bind _
  rw [Option.guard]
  cases p.2.topLevel && hatOpcodes.contains p.2.opcode <;> rfl

/-- The blocks that stand on their own are all hats. -/
theorem Class.LaidOut.hats_eq (h : c.LaidOut t vs) : hats (blocksValue t) = .ok t.tops := by
  have hhat : ∀ p ∈ t, (p.2.topLevel && hatOpcodes.contains p.2.opcode) = p.2.topLevel := by
    rintro ⟨id, b⟩ hmem
    cases htop : b.topLevel with
    | false => rfl
    | true =>
      have hid : id ∈ t.tops := mem_map.2 ⟨_, mem_filter.2 ⟨hmem, htop⟩, rfl⟩
      obtain ⟨m, -, b', hb', hlike, -⟩ := exists_of_forall₂ h.starts hid
      obtain rfl := Option.some.inj ((Table.find?_of_mem h.nodup hmem).symm.trans hb')
      have hopcode : b.opcode = m.start.opcode := by rw [hlike]
      rw [Bool.true_and, hopcode, Start.isHat]
  rw [hats_blocksValue, Table.tops, filter_congr hhat]

theorem declarationsIfAny_variables (h : ∀ v ∈ vs, isPlainName v.name ∧
      ∃ i : Int, v.initial = .int i ∧ Binary64.digitCount i.natAbs ≤ Numeral.maxDigits) :
    declarationsIfAny "    " valueText (variablesValue vs) = .ok (vs.map declaration) := by
  have hlines :
      declarations "    " valueText (variablesValue vs) = .ok (vs.map declaration) := by
    unfold declarations variablesValue entries
    dsimp only [bind, Except.bind]
    rw [mapM_map, mapM_of_ok (g := fun v => some (declaration v))]
    · dsimp only
      rw [filterMap_map]
      exact congrArg ok (filterMap_eq_map ▸ rfl)
    · intro v hv
      obtain ⟨hname, i, hi, hdigits⟩ := h v hv
      have hvalue : valueText (.int i) = .ok (toString i) := by
        change integerText i = _
        rw [integerText, if_neg (by omega)]
      simp only [Function.comp_apply, pair?, identifierOf, identifier_of_isPlainName hname, hi,
        hvalue, bind, Except.bind, declaration, initialInt]
  cases vs with
  | nil => rfl
  | cons v vs => exact hlines

theorem Method.intercalate_lines_ne_empty (m : Method) :
    ¬(String.intercalate "\n" m.lines).isEmpty := by
  intro h
  have htext := toList_intercalate_newline (show m.lines ≠ [] from cons_ne_nil _ _)
  rw [String.isEmpty_iff.1 h] at htext
  have hlength := congrArg List.length htext
  simp [lines, unlines] at hlength

theorem scripts_gives {ms : List Method} (hms : ∀ m ∈ ms, arePlain m.body)
    (hkeys : "" ∉ t.keys) (hsize : ∀ m ∈ ms, sizes m.body ≤ t.length) {ids : List Id}
    (h : Forall₂ (Method.Starts t vs) ms ids) :
    Gives (scripts (blocksValue t) ids)
      (ms.map fun m => String.intercalate "\n" m.tidy.lines) := by
  induction h with
  | nil => exact gives_pure _
  | @cons m id ms ids hm hrest ih =>
    have hne : ¬(String.intercalate "\n" m.tidy.lines).isEmpty :=
      m.tidy.intercalate_lines_ne_empty
    refine gives_bind (Method.script_gives (hms m (.head _)) hkeys
      (hsize m (.head _)) hm) ?_
    refine gives_bind (ih (fun m hm => hms m (.tail _ hm))
      fun m hm => hsize m (.tail _ hm)) ?_
    rw [if_neg hne]
    exact gives_pure _

theorem noteProcedure_gives (blocks : Value) (id : String)
    (hb : b.opcode ≠ "procedures_definition") :
    Gives (noteProcedure blocks id b.toValue) () := by
  refine gives_bind (gives_lift (r := b.toValue.get "opcode") rfl) ?_
  split
  · next h => exact absurd (str.inj h) hb
  · exact gives_pure _

/-- The methods of a class, or one line if there are none. -/
theorem Class.methods_gives (hmethods : ∀ m ∈ c.methods, arePlain m.body)
    (hkeys : "" ∉ t.keys) (h : c.LaidOut t vs) : Gives
      (if t.tops.isEmpty then pure ["    pass"] else scripts (blocksValue t) t.tops)
      (if c.methods.isEmpty then ["    pass"]
      else c.methods.map fun m => String.intercalate "\n" m.tidy.lines) := by
  have hlength := h.starts.length_eq
  have hsize : ∀ m ∈ c.methods, sizes m.body ≤ t.length := by
    intro m hm
    have hle := le_sum_of_mem (mem_map_of_mem (f := Method.size) hm)
    rw [← h.size, Method.size] at hle
    omega
  have hscripts := scripts_gives hmethods hkeys hsize h.starts
  cases hms : c.methods with
  | nil =>
    rw [hms, length_nil] at hlength
    rw [List.length_eq_zero_iff.1 hlength.symm]
    exact gives_pure _
  | cons m ms =>
    obtain ⟨id, ids, hids⟩ : ∃ id ids, t.tops = id :: ids := by
      refine exists_cons_of_length_pos ?_
      rw [← hlength, hms]
      exact Nat.succ_pos _
    rw [hids, hms] at hscripts
    rw [hids]
    exact hscripts

theorem Class.unlines_texts (c : Class) (vs : List Variable) :
    unlines (("class " ++ c.name ++ ":") :: vs.map declaration ++ [] ++
      (if (variablesValue vs).truthy || (dict []).truthy then [""] else []) ++
      (if c.methods.isEmpty then ["    pass"]
      else c.methods.map fun m => String.intercalate "\n" m.tidy.lines)) =
    unlines (c.tidy.lines vs) := by
  have hgap : (if (variablesValue vs).truthy || (dict []).truthy then [""] else []) =
      if vs.isEmpty then [] else [""] := by
    cases vs <;> rfl
  have hmethods : unlines (c.methods.map fun m => String.intercalate "\n" m.tidy.lines) =
      unlines (c.tidy.methods.flatMap Method.lines) := by
    have hne : ∀ ls ∈ c.tidy.methods.map Method.lines, ls ≠ [] := by
      intro ls hls
      obtain ⟨m, -, rfl⟩ := mem_map.1 hls
      exact cons_ne_nil _ _
    rw [flatMap, ← unlines_map_intercalate hne, tidy, List.map_map, List.map_map]
    rfl
  have hempty : c.tidy.methods.isEmpty = c.methods.isEmpty := by
    rw [tidy, isEmpty_map]
  rw [lines, hempty, hgap, append_nil, ← cons_append, ← cons_append,
    unlines_append, unlines_append _ (if c.methods.isEmpty then _ else _)]
  refine congrArg _ ?_
  split
  · rfl
  · exact hmethods

/-- **A sprite with the blocks of a class is listed as the class.** -/
theorem Class.sprite_gives (hc : c.isPlain) {t : Target} (h : c.Realized t)
    (ht : Listable t.blocks t.vars) {s : Sprite} (hs : Presents s t) :
    Gives (sprite s.toValue) (String.intercalate "\n" (c.tidy.lines t.vars)) := by
  simp only [isPlain, Bool.and_eq_true, all_eq_true] at hc
  obtain ⟨⟨hname, -⟩, hmethods⟩ := hc
  have hclass : identifierOf s.name = .ok c.name := by
    rw [hs.name, h.name]
    exact congrArg ok (identifier_of_isPlainName hname)
  have hblocks : s.toValue.getD "blocks" (.dict []) = .ok (blocksValue t.blocks) :=
    congrArg ok hs.blocks
  have hvars : s.toValue.getD "variables" (.dict []) = .ok (variablesValue t.vars) :=
    congrArg ok hs.vars
  have hlists : s.toValue.getD "lists" (.dict []) = .ok (.dict []) := by
    rw [← show listsValue t.lists = .dict [] by rw [h.lists]; rfl]
    exact congrArg ok hs.lists
  refine gives_bind (gives_lift (r := s.toValue.getD "name" (.str "Sprite")) rfl) ?_
  refine gives_bind (gives_lift hclass) ?_
  refine gives_bind (gives_lift hblocks) ?_
  refine gives_bind (gives_lift hvars) ?_
  refine gives_bind (gives_lift hlists) ?_
  refine gives_bind (gives_modify _) ?_
  refine gives_bind (gives_lift (r := (blocksValue t.blocks).entries) rfl) ?_
  refine gives_bind (gives_forM ?_) ?_
  · intro p hp
    obtain ⟨q, hq, rfl⟩ := mem_map.1 hp
    exact noteProcedure_gives _ _ (ht.blocks q hq).2
  refine gives_bind (gives_lift (declarationsIfAny_variables ht.vars)) ?_
  refine gives_bind (gives_lift (a := []) rfl) ?_
  refine gives_bind (gives_lift h.laidOut.hats_eq) ?_
  refine gives_ite_bind (methods_gives hmethods ht.keys h.laidOut) ?_
  dsimp only
  rw [intercalate_congr (by simp) (by simp [lines]) (c.unlines_texts t.vars)]
  exact gives_pure _

/-! ### Projects -/

/-- A class as it is listed, and the variables that stand at its top. -/
structure Sheet where
  core : Class
  vars : List Variable

/-- The sheet for a class and the target it compiles to. -/
def Sheet.of (c : Class) (t : Target) : Sheet := ⟨c.tidy, t.vars⟩

def Sheet.lines (s : Sheet) : List String := s.core.lines s.vars

/-- The characters of a listing. -/
def Sheet.listing (ss : List Sheet) : List Char :=
  unlines heading.dropLast ++ ss.flatMap fun s => '\n' :: unlines s.lines

/-- A target that belongs to a class and can be listed. -/
structure Lists (c : Class) (t : Target) : Prop where
  isPlain : c.isPlain = true
  realized : c.Realized t
  listable : Listable t.blocks t.vars

theorem Sheet.lines_ne_nil (s : Sheet) : s.lines ≠ [] := cons_ne_nil _ _

/-- The sprite is listed with the given lines. -/
def GivesLines (s : Sprite) (ls : List String) : Prop :=
  ls ≠ [] ∧ Print.Gives (Listing.sprite s.toValue) (String.intercalate "\n" ls)

theorem sprites_gives {ss : List Sprite} (h : Forall₂ GivesLines ss texts) :
    Gives (sprites (ss.map (·.toValue)))
      (texts.flatMap fun ls => [String.intercalate "\n" ls, ""]) := by
  induction h with
  | nil => exact gives_pure _
  | cons hs _ ih =>
    refine gives_bind (gives_lift (a := false) rfl) ?_
    rw [if_neg Bool.false_ne_true]
    refine gives_bind hs.2 ?_
    refine gives_bind ih ?_
    exact gives_pure _

/-- A blank line after each text is a blank line before each text. -/
theorem unlines_heading_texts (h : ∀ ls ∈ texts, ls ≠ []) :
    unlines (heading ++ texts.flatMap fun ls => [String.intercalate "\n" ls, ""]) =
      unlines heading.dropLast ++ (texts.flatMap fun ls => '\n' :: unlines ls) ++ ['\n'] := by
  have htexts : '\n' :: unlines (texts.flatMap fun ls => [String.intercalate "\n" ls, ""]) =
      (texts.flatMap fun ls => '\n' :: unlines ls) ++ ['\n'] := by
    induction texts with
    | nil => rfl
    | cons ls texts ih =>
      rw [flatMap_cons, flatMap_cons, unlines_append, List.append_assoc,
        ← ih fun ls hls => h ls (.tail _ hls),
        ← toList_intercalate_newline (h ls (.head _))]
      simp [unlines]
  rw [unlines_append, show heading = heading.dropLast ++ [""] from rfl, unlines_append,
    List.append_assoc, List.append_assoc, ← htexts]
  rfl

/-- A project without data of its own is listed as the texts of its sprites. -/
theorem ofProject_of_lines {p : Project} (h : Forall₂ GivesLines p.sprites texts) :
    ∃ text, ofProject p.toValue = .ok text ∧
      text.toList = unlines heading.dropLast ++ texts.flatMap fun ls => '\n' :: unlines ls := by
  -- The printer's own state never shows in the text, so the steps are followed by their results.
  let lines := texts.flatMap fun ls => [String.intercalate "\n" ls, ""]
  have hgives : Gives (project p.toValue)
      (String.intercalate "\n" (heading ++ [] ++ lines)) := by
    refine gives_bind (gives_lift (r := p.toValue.getD "targets" (.list [])) rfl) ?_
    refine gives_bind
      (gives_lift (a := p.stage.toValue :: p.sprites.map (·.toValue)) rfl) ?_
    refine gives_bind (gives_lift (a := []) rfl) ?_
    refine gives_bind (gives_bind (gives_lift (a := true) rfl) ?_)
      (gives_pure _)
    exact sprites_gives h
  refine ⟨_, hgives {}, ?_⟩
  have hne : heading ++ lines ≠ [] := append_ne_nil_of_left_ne_nil (cons_ne_nil _ _) lines
  have htext := toList_intercalate_newline hne
  rw [unlines_heading_texts] at htext
  · rw [append_nil]
    exact append_cancel_right htext
  · intro ls hls
    obtain ⟨s, -, hs⟩ := exists_of_forall₂ h hls
    exact hs.1

theorem Lists.givesLines {cs : List Class} {ts : List Target} (h : Forall₂ Lists cs ts)
    {ss : List Sprite} (hs : Forall₂ Presents ss ts) :
    Forall₂ GivesLines ss ((zipWith Sheet.of cs ts).map Sheet.lines) := by
  induction h generalizing ss with
  | nil =>
    cases hs
    exact .nil
  | cons hc _ ih =>
    obtain _ | ⟨hsprite, hss⟩ := hs
    have hgives := Class.sprite_gives hc.isPlain hc.realized hc.listable hsprite
    exact .cons ⟨Sheet.lines_ne_nil _, hgives⟩ (ih hss)

/-- **A project whose sprites are core classes is listed as these classes.** -/
theorem ofProject_of_realized {cs : List Class} {ts : List Target} (h : Forall₂ Lists cs ts)
    {p : Project} (hp : Forall₂ Presents p.sprites ts) :
    ∃ text, ofProject p.toValue = .ok text ∧
      text.toList = Sheet.listing (zipWith Sheet.of cs ts) := by
  obtain ⟨text, hlisting, htext⟩ := ofProject_of_lines (Lists.givesLines h hp)
  rw [flatMap_map] at htext
  exact ⟨text, hlisting, htext⟩

end Core

end BlockScript
