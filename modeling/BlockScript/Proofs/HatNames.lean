import BlockScript.Proofs.ProjectListing
import BlockScript.Proofs.SpriteEdits

/-!
# Events in the names of methods

A listing writes each script as a method, and the event that starts the script goes into the name of
the method: all that a name can hold is letters, digits and underscores. Reading the name back gives
an event of the same kind (`Listing.methodName_reads_back`). Which key or message it is about comes
back as far as the name could hold it: `Hat.again` is the event that comes back, and `Hat.IsPlain`
says for which events it is the same one.

The listing has no names for two kinds of events, the change of the backdrop and a limit that is
exceeded (`Cue.Written`).
-/

namespace BlockScript

open Workspace Command BlockScript.Id List Listing Option Program String Table Text Value

namespace Text

theorem after?_append (start rest : String) : after? start (start ++ rest) = some rest := by
  rw [after?, toList_append, if_pos (List.isPrefixOf_iff_prefix.2 (prefix_append _ _)),
    drop_left, ofList_toList]

theorem isPrefixOf_append_eq_false {start base : String}
    (h : ∀ cs, start.toList.isPrefixOf (base.toList ++ cs) = false) (rest : String) :
    start.toList.isPrefixOf (base ++ rest).toList = false := by
  rw [toList_append]
  exact h _

theorem after?_eq_none {start s : String} (h : start.toList.isPrefixOf s.toList = false) :
    after? start s = none := by
  rw [after?, h]
  rfl

end Text

/-! ### Events that come back -/

namespace Hat

theorem isNumbered_eq_false {base name : String} (h : base.toList.isPrefixOf name.toList = false) :
    isNumbered base name = false := by
  refine Bool.eq_false_iff.2 fun hname => ?_
  have hstarts := starts_of_isNumbered (prefix_refl base.toList) hname
  rw [List.isPrefixOf_iff_prefix.2 hstarts] at h
  cases h

theorem ofName?_key (key : String) :
    ofName? ("when_key_" ++ key) = some (.key (keyName key)) := by
  have hflag : isNumbered "when_flag_clicked" ("when_key_" ++ key) = false :=
    isNumbered_eq_false (isPrefixOf_append_eq_false (fun _ => rfl) key)
  rw [ofName?, hflag, after?_append]
  rfl

theorem ofName?_message (name : String) :
    ofName? ("when_broadcast_" ++ name) = some (.message (spaced name)) := by
  have hother {start : String}
      (h : ∀ cs, start.toList.isPrefixOf ("when_broadcast_".toList ++ cs) = false) :=
    isPrefixOf_append_eq_false h name
  rw [ofName?, isNumbered_eq_false (hother fun _ => rfl), after?_eq_none (hother fun _ => rfl),
    isNumbered_eq_false (hother fun _ => rfl), isNumbered_eq_false (hother fun _ => rfl),
    after?_eq_none (hother fun _ => rfl), after?_append]
  rfl

/-- The name of the procedure after the mark of a definition does not make it an event. -/
theorem ofName?_define (name : String) : ofName? ("define_" ++ name) = none := by
  refine eq_none_iff_forall_ne_some.2 fun hat hname => ?_
  have hstarts := List.isPrefixOf_iff_prefix.2 (starts_of_ofName? hname)
  rw [toList_append] at hstarts
  cases hstarts

theorem isProcedure_define (name : String) : Build.isProcedure ("define_" ++ name) := by
  have hother {start : String}
      (h : ∀ cs, start.toList.isPrefixOf ("define_".toList ++ cs) = false) :=
    isPrefixOf_append_eq_false h name
  rw [Build.isProcedure, after?_eq_none (hother fun _ => rfl),
    after?_eq_none (hother fun _ => rfl)]
  rfl

/-- The event that is read from the name that is written for an event. -/
def again : Hat → Hat
  | key name => key (Command.keyName (Listing.keyText name))
  | message name => message (spaced (Listing.identifier name))
  | hat => hat

/-- The keys whose names are written without their second word, and how they are written. -/
def arrowKeys : List (String × String) :=
  [("up", "up arrow"), ("down", "down arrow"), ("left", "left arrow"), ("right", "right arrow")]

/-- A name can hold which key or message the event is about. A message has to be of letters, digits
and blanks, and may not start with a digit. -/
def IsPlain : Hat → Prop
  | key name =>
    name ∈ arrowKeys.map Prod.snd ∨ Listing.keyText name = name ∧ name ∉ arrowKeys.map Prod.fst
  | message name =>
    name ≠ "" ∧ (∀ c ∈ name.toList, Text.isAlnum c = true ∨ c = ' ') ∧
      ∀ c ∈ name.toList.head?, Text.isDigit c = false
  | _ => True

theorem keyName_of_not_mem {name : String} (h : name ∉ arrowKeys.map Prod.fst) :
    keyName name = name := by
  rw [keyName]
  cases hfind : keyNames.find? name with
  | none => rfl
  | some full =>
    have hmem := mem_of_find? hfind
    simp only [keyNames, arrowKeys, map_cons, map_nil, mem_cons,
      not_mem_nil, Prod.mk.injEq, or_false, not_or] at hmem h
    grind

theorem keyName_of_mem {name : String} (h : name ∈ arrowKeys.map Prod.fst) :
    keyName name ∈ arrowKeys.map Prod.snd := by
  simp only [arrowKeys, map_cons, map_nil, mem_cons, not_mem_nil,
    or_false] at h
  rcases h with rfl | rfl | rfl | rfl <;> decide

theorem again_key_iff (name : String) : (key name).again = key name ↔ (key name).IsPlain := by
  change key _ = key name ↔ name ∈ _ ∨ _
  rw [key.injEq]
  by_cases hmem : keyText name ∈ arrowKeys.map Prod.fst
  · refine ⟨fun h => .inl (h ▸ keyName_of_mem hmem), ?_⟩
    rintro (h | ⟨htext, hnot⟩)
    · simp only [arrowKeys, map_cons, map_nil, mem_cons, not_mem_nil,
        or_false] at h
      rcases h with rfl | rfl | rfl | rfl <;> rfl
    · exact absurd (htext ▸ hmem) hnot
  · rw [keyName_of_not_mem hmem]
    refine ⟨fun h => .inr ⟨h, h ▸ hmem⟩, ?_⟩
    rintro (h | ⟨htext, -⟩)
    · refine absurd ?_ hmem
      simp only [arrowKeys, map_cons, map_nil, mem_cons, not_mem_nil,
        or_false] at h
      rcases h with rfl | rfl | rfl | rfl <;> decide
    · exact htext

/-- What becomes of a name that is written as an identifier and read back, but for its start. -/
theorem spaced_identifierChars (cs : List Char) :
    (identifierChars cs).map (fun c => if c = '_' then ' ' else c) =
      cs.map fun c => if isAlnum c then c else ' ' := by
  rw [identifierChars, List.map_map]
  refine map_congr_left fun c _ => ?_
  by_cases hc : isAlnum c
  · have hne : c ≠ '_' := by
      rintro rfl
      exact absurd hc (by decide)
    simp only [Function.comp, if_pos hc, if_neg hne]
  · simp only [Function.comp, if_neg hc, if_true]

theorem map_blank_eq_iff (cs : List Char) :
    cs.map (fun c => if isAlnum c then c else ' ') = cs ↔
      ∀ c ∈ cs, isAlnum c ∨ c = ' ' := by
  have hchar (c : Char) :
      (if isAlnum c then c else ' ') = c ↔ isAlnum c ∨ c = ' ' := by
    split
    · next hc => exact ⟨fun _ => .inl hc, fun _ => rfl⟩
    · next hc => exact ⟨fun h => .inr h.symm, fun h => (h.resolve_left hc).symm⟩
  nth_rewrite 2 [← List.map_id cs]
  rw [map_inj_left]
  exact forall₂_congr fun c _ => hchar c

theorem again_message_iff (name : String) :
    (message name).again = message name ↔ (message name).IsPlain := by
  change message _ = message name ↔ name ≠ "" ∧ _
  rw [message.injEq]
  cases hname : name.toList with
  | nil =>
    obtain rfl : name = "" := String.toList_eq_nil_iff.1 hname
    exact ⟨fun h => absurd h (by decide), fun h => absurd rfl h.1⟩
  | cons c cs =>
    have hne : name ≠ "" := fun h => by
      rw [h] at hname
      cases hname
    have hchars : identifierChars (c :: cs) =
        (if isAlnum c then c else '_') :: identifierChars cs := rfl
    rw [spaced, identifier, ← toList_inj, toList_ofList, hname, hchars,
      closeIdentifier, toList_ofList]
    by_cases hdigit : isDigit (if isAlnum c then c else '_')
    · -- the name gets longer
      rw [if_pos hdigit]
      refine ⟨fun h => ?_, fun h => ?_⟩
      · have hlength := congrArg List.length h
        rw [List.length_map, length_cons, ← hchars, identifierChars,
          List.length_map] at hlength
        omega
      · have hc := h.2.2 c rfl
        split at hdigit
        · rw [hc] at hdigit
          cases hdigit
        · cases hdigit
    · rw [if_neg hdigit, ← hchars, spaced_identifierChars, map_blank_eq_iff]
      refine ⟨fun h => ⟨hne, h, ?_⟩, fun h => h.2.1⟩
      rintro _ ⟨⟩
      split at hdigit
      · exact Bool.eq_false_iff.2 hdigit
      · next hc =>
        rw [(h c (.head _)).resolve_left hc]
        rfl

/-- **Which events come back.** -/
theorem again_eq_iff (hat : Hat) : hat.again = hat ↔ hat.IsPlain := by
  cases hat with
  | key name => exact again_key_iff name
  | message name => exact again_message_iff name
  | flag | clone | clicked | backdrop | exceeds => exact ⟨fun _ => trivial, fun _ => rfl⟩

/-- The opcode of the block of an event. -/
def opcode : Hat → String
  | flag => "event_whenflagclicked"
  | key _ => "event_whenkeypressed"
  | clone => "control_start_as_clone"
  | clicked => "event_whenthisspriteclicked"
  | backdrop _ => "event_whenbackdropswitchesto"
  | message _ => "event_whenbroadcastreceived"
  | exceeds _ _ => "event_whengreaterthan"

theorem opcode_again (hat : Hat) : hat.again.opcode = hat.opcode := by
  cases hat <;> simp only [again, opcode]

/-- The texts that are chosen on the block of an event. -/
def choices : Hat → List (String × String)
  | key name => [("KEY_OPTION", name)]
  | backdrop name => [("BACKDROP", name)]
  | message name => [("BROADCAST_OPTION", name)]
  | exceeds what _ => [("WHENGREATERTHANMENU", what)]
  | _ => []

end Hat

/-- What starts a script: an event, or a call of the procedure that it defines. -/
inductive Cue where
  | event (hat : Hat)
  | definition

namespace Cue

def opcode : Cue → String
  | event hat => hat.opcode
  | definition => "procedures_definition"

def choices : Cue → List (String × String)
  | event hat => hat.choices
  | definition => []

/-- There are names for scripts that start so. -/
def Written : Cue → Prop
  | event (.backdrop _) | event (.exceeds _ _) => False
  | _ => True

/-- What is read from the name that is written for it. -/
def again : Cue → Cue
  | event hat => event hat.again
  | definition => definition

def IsPlain : Cue → Prop
  | event hat => hat.IsPlain
  | definition => True

theorem written_again {hat : Hat} (h : (event hat).Written) : (event hat.again).Written := by
  cases hat with
  | backdrop | exceeds => exact h.elim
  | flag | key | clone | clicked | message => trivial

theorem again_eq_iff (cue : Cue) : cue.again = cue ↔ cue.IsPlain := by
  cases cue with
  | event hat =>
    change event _ = event hat ↔ hat.IsPlain
    rw [event.injEq, hat.again_eq_iff]
  | definition => exact ⟨fun _ => trivial, fun _ => rfl⟩

end Cue

/-! ### Blocks that start scripts -/

namespace Listing

/-- A block of a project starts a script, and says by its opcode and its fields what the script
waits for. -/
structure Shows (block : Value) (cue : Cue) : Prop where
  isHat : isHat block = .ok true
  opcode : block.get "opcode" = .ok (.str cue.opcode)
  choices : ∃ fields, block.getD "fields" (.dict []) = .ok fields ∧
    ∀ p ∈ cue.choices, fieldText fields (.str p.1) = .ok p.2

/-- The prototype of the procedure that a block defines can be read, if there is one. -/
def Prototyped (blocks block : Value) : Prop :=
  prototypeMutation? blocks block = .ok none ∨
    ∃ mutation code, prototypeMutation? blocks block = .ok (some mutation) ∧
      mutation.getD "proccode" (.str "") = .ok (.str code)

/-- An opcode that is there can be asked for with a default too. -/
theorem getD_of_get {block v : Value} {key : String} {fallback : Value} (h : block.get key = .ok v)
    (hv : v ≠ .null) : block.getD key fallback = .ok v := by
  cases block with
  | dict es =>
    rw [Value.get, Value.getD, Except.ok.injEq] at h
    rw [Value.getD]
    cases hfind : Table.find? es key with
    | none =>
      rw [hfind] at h
      exact absurd h.symm hv
    | some u =>
      rw [hfind] at h
      exact congrArg Except.ok h
  | _ => cases h

/-- The name of the method for a script that waits for an event. -/
def eventName : Hat → String
  | .flag => "when_flag_clicked"
  | .key name => "when_key_" ++ keyText name
  | .clone => "when_i_start_as_clone"
  | .clicked => "when_clicked"
  | .message name => "when_broadcast_" ++ identifier name
  | .backdrop _ | .exceeds _ _ => ""

theorem methodName_event {blocks block : Value} {hat : Hat} (h : Shows block (.event hat)) :
    methodName blocks block = .ok (eventName hat) := by
  obtain ⟨fields, hfields, hchoices⟩ := h.choices
  have hopcode : block.getD "opcode" (.str "") = .ok (.str hat.opcode) :=
    getD_of_get h.opcode Value.noConfusion
  rw [methodName, hopcode, hfields]
  cases hat with
  | key name =>
    have htext : fieldText fields (.str "KEY_OPTION") = .ok name :=
      hchoices _ (mem_singleton_self _)
    change (fieldText fields (.str "KEY_OPTION")).bind _ = _
    rw [htext]
    rfl
  | message name =>
    have htext : fieldText fields (.str "BROADCAST_OPTION") = .ok name :=
      hchoices _ (mem_singleton_self _)
    change (fieldText fields (.str "BROADCAST_OPTION")).bind _ = _
    rw [htext]
    rfl
  | flag | clone | clicked | backdrop | exceeds => rfl

theorem ofName?_eventName {hat : Hat} (h : (Cue.event hat).Written) :
    Hat.ofName? (eventName hat) = some hat.again := by
  cases hat with
  | key name => exact Hat.ofName?_key _
  | message name => exact Hat.ofName?_message _
  | flag | clone | clicked => rfl
  | backdrop | exceeds => exact h.elim

/-- The name of the method for the definition of a procedure. -/
theorem methodName_definition {blocks block : Value} (h : Shows block .definition)
    (hp : Prototyped blocks block) : ∃ name, methodName blocks block = .ok ("define_" ++ name) := by
  obtain ⟨fields, hfields, -⟩ := h.choices
  have hopcode : block.getD "opcode" (.str "") = .ok (.str "procedures_definition") :=
    getD_of_get h.opcode Value.noConfusion
  rw [methodName, hopcode, hfields]
  rcases hp with hp | ⟨mutation, code, hp, hcode⟩
  · refine ⟨"custom", ?_⟩
    change (prototypeMutation? blocks block).bind _ = _
    rw [hp]
    rfl
  · have hwords : procedureWords mutation = .ok ((words code.toList).map ofList) := by
      rw [procedureWords, hcode]
      rfl
    change ∃ name, (prototypeMutation? blocks block).bind _ = _
    rw [hp]
    change ∃ name, (procedureWords mutation).bind _ = _
    rw [hwords]
    cases (words code.toList).map ofList with
    | nil => exact ⟨"custom", rfl⟩
    | cons name _ => exact ⟨name, rfl⟩

/-- What a block shows does not depend on its place in the script. -/
theorem Shows.like {b b' : Block} {cue : Cue} (h : Shows b.toValue cue) (hlike : b.Like b') :
    Shows b'.toValue cue := by
  rw [hlike]
  refine ⟨?_, h.opcode, h.choices⟩
  rw [Core.isHat_toValue]
  exact (Core.isHat_toValue b).symm.trans h.isHat

/-- What a compiled block shows. -/
theorem shows_toValue {b : Block} {cue : Cue} (htop : b.topLevel)
    (hopcode : b.opcode = cue.opcode)
    (hfields : ∀ p ∈ cue.choices, ∃ id, b.fields.find? p.1 = some ⟨.str p.2, id⟩) :
    Shows b.toValue cue where
  isHat := by
    rw [Core.isHat_toValue, htop, hopcode]
    rcases cue with hat | _
    · cases hat <;> rfl
    · rfl
  opcode := congrArg (fun s => Except.ok (str s)) hopcode
  choices := by
    refine ⟨b.fieldsValue, rfl, fun p hp => ?_⟩
    obtain ⟨id, hid⟩ := hfields p hp
    have hfind := Table.find?_map Field.toValue b.fields p.1
    rw [hid] at hfind
    have hcontains : b.fieldsValue.contains (.str p.1) = .ok true := by
      simp only [Block.fieldsValue, Value.contains, hashable, has, hfind, if_true,
        map_some, isSome_some]
    have hitem : b.fieldsValue.item (.str p.1) = .ok (Field.toValue ⟨.str p.2, id⟩) := by
      simp only [Block.fieldsValue, item, hfind, map_some]
    rw [fieldText, hcontains]
    change (b.fieldsValue.item (.str p.1)).bind _ = _
    rw [hitem]
    rfl

end Listing

/-! ### Methods start scripts -/

/-- A block of the workspace starts a script, and says what the script waits for. -/
def Workspace.Shows (w : Workspace) (id : Id) (cue : Cue) : Prop :=
  ∃ b, w.blocks.find? id = some b ∧ Listing.Shows b.toValue cue

namespace Build

variable {w w' : Workspace} {L : Licence}

/-- The step starts a script with a new block that shows what it waits for, and goes on below it.
When all is done, the block still shows the same. -/
def StartsWith (m : Build Unit) (cue : Cue) (steps : List (Build Unit)) : Prop :=
  ∀ w, w.Sound → ∃ id w₁, id ∉ w.blocks.keys ∧ w₁.Shows id cue ∧ w₁.previous = some id ∧
    (∃ rest : Build Unit, m.run w = (do sequence steps; rest).run w₁) ∧
    ∀ w', m.run w = (.ok (), w') → w'.Shows id cue

/-- The licence of code that may call any procedure and contain classes. -/
def anyCode : Licence where
  calls _ _ := True
  nests := True
  defines := False

theorem visits_anyCode (body : List Stmt) : ∀ s ∈ visits body, s.Acts anyCode :=
  visits_act id body (fun _ _ => trivial) fun _ => trivial

/-- Steps that find a block there do not change what it shows. -/
theorem Acts.shows {m : Build Unit} (h : m.Acts L) (hw : w.Sound) {id : Id} {cue : Cue}
    (hid : w.Shows id cue) (hrun : m.run w = (.ok (), w')) : w'.Shows id cue := by
  obtain ⟨b, hb, hshows⟩ := hid
  obtain ⟨hedits, -⟩ := h w hw (.refl _) (nil_subset _) () w' hrun
  obtain ⟨b', hb', hlike⟩ := (hedits.edits.grows hw.keys).like id (mem_keys_of_find? hb) b hb
  exact ⟨b', hb', hshows.like hlike⟩

/-- The start of a script takes effect. -/
theorem run_hat (hw : w.Sound) (opcode : String) :
    ∃ w₁, (create opcode .hat []).run w = (.ok (ofNat (w.issued + 1)), w₁) ∧
      w₁.previous = some (ofNat (w.issued + 1)) ∧
      w₁.blocks.find? (ofNat (w.issued + 1)) =
        some { opcode, parent := w.previous, topLevel := true, position := some (0, 0) } := by
  have hprevious (p : Id) (hp : w.previous = some p) : w.blocks.has p :=
    has_iff.2 (mem_keys_iff.1 (hw.previous p hp).mem_keys)
  exact ⟨_, run_create hw.free hprevious opcode rfl [], rfl, find?_stacked_new hw _⟩

/-- The start of a script with a choice. -/
theorem run_choosingHat (hw : w.Sound) (opcode field : String) (f : Field) :
    ∃ w₁, (do
        let id ← create opcode .hat []
        setField id field f : Build Unit).run w = (.ok (), w₁) ∧
      w₁.previous = some (ofNat (w.issued + 1)) ∧
      w₁.blocks.find? (ofNat (w.issued + 1)) =
        some { opcode, parent := w.previous, topLevel := true, position := some (0, 0),
               fields := [(field, f)] } := by
  obtain ⟨w₁, hrun, hprevious, hfind⟩ := run_hat hw opcode
  refine ⟨_, (run_bind_of_ok hrun _).trans (run_update_of_has (has_iff.2 ⟨_, hfind⟩) _),
    hprevious, ?_⟩
  exact find?_amend hfind _

/-- The message of a name is there or can be made, and this makes no block. -/
theorem run_message (hw : w.Sound) (name : String) :
    ∃ id v, (messageNamed name).run w = (.ok id, v) ∧ v.Sound ∧ v.blocks.keys = w.blocks.keys := by
  cases hfind : w.broadcasts.find? name with
  | some id =>
    refine ⟨id, w, ?_, hw, rfl⟩
    rw [messageNamed, run_bind_of_ok (run_get w), hfind]
    rfl
  | none =>
    have hadd : Edits anyCode [] w _ := .addMessage hfind
    refine ⟨ofNat (w.issued + 1), _, ?_, (hadd.reaches hw (nil_subset _)).after, rfl⟩
    rw [messageNamed, run_bind_of_ok (run_get w), hfind]
    rfl

/-- **The block that starts a script shows the event of the script.** -/
theorem run_startScript (hw : w.Sound) (hat : Hat) (hwritten : (Cue.event hat).Written) :
    ∃ id w₁, id ∉ w.blocks.keys ∧ w₁.Shows id (.event hat) ∧ w₁.previous = some id ∧
      (startScript hat).run w = (.ok (), w₁) := by
  have hnew {v : Workspace} (hv : v.Sound) : ofNat (v.issued + 1) ∉ v.blocks.keys :=
    hv.not_mem_keys (Nat.lt_succ_self _)
  have hplain (opcode : String) (hopcode : hat.opcode = opcode) (hchoices : hat.choices = []) :
      ∃ id w₁, id ∉ w.blocks.keys ∧ w₁.Shows id (.event hat) ∧ w₁.previous = some id ∧
        (do let _ ← create opcode .hat [] : Build Unit).run w = (.ok (), w₁) := by
    obtain ⟨w₁, hrun, hprevious, hfind⟩ := run_hat hw opcode
    refine ⟨_, w₁, hnew hw, ⟨_, hfind, shows_toValue rfl hopcode.symm fun p hp => ?_⟩,
      hprevious, run_bind_of_ok hrun _⟩
    rw [Cue.choices, hchoices] at hp
    cases hp
  cases hat with
  | flag => exact hplain _ rfl rfl
  | clone => exact hplain _ rfl rfl
  | clicked => exact hplain _ rfl rfl
  | key name =>
    obtain ⟨w₁, hrun, hprevious, hfind⟩ :=
      run_choosingHat hw "event_whenkeypressed" "KEY_OPTION" (.word name)
    refine ⟨_, w₁, hnew hw, ⟨_, hfind, shows_toValue rfl rfl ?_⟩, hprevious, hrun⟩
    exact forall_mem_singleton.2 ⟨_, rfl⟩
  | message name =>
    obtain ⟨m, v, hmessage, hv, hkeys⟩ := run_message hw name
    obtain ⟨w₁, hrun, hprevious, hfind⟩ :=
      run_choosingHat hv "event_whenbroadcastreceived" "BROADCAST_OPTION" (.named name m)
    refine ⟨_, w₁, hkeys ▸ hnew hv, ⟨_, hfind, shows_toValue rfl rfl ?_⟩, hprevious,
      (run_bind_of_ok hmessage _).trans hrun⟩
    exact forall_mem_singleton.2 ⟨_, rfl⟩
  | backdrop | exceeds => exact hwritten.elim

theorem startsWith_script {steps : List (Build Unit)} (hsteps : ∀ s ∈ steps, s.Acts L) {hat : Hat}
    (hwritten : (Cue.event hat).Written) : (script hat steps).StartsWith (.event hat) steps := by
  intro w hw
  obtain ⟨id, w₁, hid, hshows, hprevious, hrun⟩ := run_startScript hw hat hwritten
  obtain ⟨hedits, -⟩ := startScript_acts (L := L) hat w hw (.refl _)
    (nil_subset _) () w₁ hrun
  have hsound := (hedits.reaches hw (.refl _)).after
  have hrest : (script hat steps).run w = (do sequence steps; endScript : Build Unit).run w₁ :=
    run_bind_of_ok hrun _
  refine ⟨id, w₁, hid, hshows, hprevious, ⟨_, hrest⟩, fun w' hw' => ?_⟩
  rw [hrest] at hw'
  exact ((sequence_acts hsteps).bind endScript_acts).shows hsound hshows hw'

theorem startsWith_define {steps : List (Build Unit)} (hsteps : ∀ s ∈ steps, s.Acts L)
    (method : String) (params : Params) :
    (define method params steps).StartsWith .definition steps := by
  intro w hw
  obtain ⟨p, v, y, hheader, hrest⟩ := run_define hw.keys method params steps
  obtain ⟨v', hannounced, hp, hopen, heq, -⟩ := exists_announced (L := L) [] hheader y
  have hhead : Edits L.defining w.blocks.keys w (v'.headed (procedureName method) p y) :=
    hannounced.edits.trans (.define y trivial hp hopen)
  have hsound := (hhead.reaches hw (.refl _)).after
  have hnew : ofNat (v'.issued + 1) ∉ w.blocks.keys :=
    hw.not_mem_keys (Nat.lt_succ_of_le (hannounced.edits.grows hw.keys).issued)
  have hfind : (v'.headed (procedureName method) p y).blocks.find? (ofNat (v'.issued + 1)) =
      some (definitionBlock (ofNat (v'.issued + 2)) y) := by
    refine find?_of_mem hsound.scripts.nodup (mem_append_right _ ?_)
    exact mem_append_right _ (.tail _ (mem_singleton_self _))
  have hshows : (v'.headed (procedureName method) p y).Shows (ofNat (v'.issued + 1))
      .definition := ⟨_, hfind, shows_toValue rfl rfl fun p hp => by cases hp⟩
  rw [heq] at hrest
  refine ⟨_, _, hnew, hshows, rfl, ⟨_, hrest⟩, fun w' hw' => ?_⟩
  rw [hrest] at hw'
  exact (definedScript_acts hsteps).shows hsound hshows hw'

end Build

namespace Listing

open Build Program

/-- A block that starts a script when a message comes. -/
def messageHat (name : String) : Value :=
  .dict
    [("opcode", .str "event_whenbroadcastreceived"), ("next", .null), ("topLevel", .bool true),
      ("fields", .dict [("BROADCAST_OPTION", .list [.str name, .str "m"])])]

theorem shows_messageHat (name : String) : Shows (messageHat name) (.event (.message name)) :=
  ⟨rfl, rfl, _, rfl, forall_mem_singleton.2 rfl⟩

/-- The block that is made for a message. -/
def messageBlock (name : String) : Block where
  opcode := "event_whenbroadcastreceived"
  fields := [("BROADCAST_OPTION", .named name (Id.ofNat 1))]
  topLevel := true
  position := some (0, 0)

end Listing

end BlockScript
