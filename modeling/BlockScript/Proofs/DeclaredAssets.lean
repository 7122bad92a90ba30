import BlockScript.Host
import BlockScript.Proofs.StoredNames

/-!
# The assets that a project declares

The settings of the stage and of sprites declare assets: drawings and files. Each one is loaded by
itself, and one that cannot be loaded is reported and left out. Loading looks at files and prints,
and does nothing else, so what it gives can be told from the computer as it was in the beginning
(`Action.Finds`): the items that can be loaded, each by itself (`Assembly.loaded`).

All of them are in the project, and the table of assets has the bytes of exactly these
(`Assembly.ofResult_collects`). A sprite always has a costume, since there are cats for it. The stage
has no such help: if backdrops are declared and none of them can be loaded, it has no backdrop at all
(`Assembly.ofResult_draws`).
-/

namespace BlockScript

open Asset Host List

/-! ### Actions that only look -/

namespace Host

/-- The computer with its files and directories only. -/
def disk (h : Host) : Host := { here := h.here, files := h.files, directories := h.directories }

theorem follow_disk (h : Host) (dir pieces : List String) :
    h.disk.follow dir pieces = h.follow dir pieces := by
  induction pieces generalizing dir with
  | nil => rfl
  | cons piece rest ih =>
    simp only [follow, ih]
    rfl

theorem place_disk (h : Host) (path : String) : h.disk.place path = h.place path := by
  simp only [place, follow_disk]
  rfl

/-- The computer with an empty screen. -/
def unseen (h : Host) : Host := { h with printed := [] }

theorem place_unseen (h : Host) (path : String) : h.unseen.place path = h.place path := by
  rw [← place_disk, ← place_disk h]
  rfl

end Host

namespace Action

variable {α β : Type} {a : Action α} {P : Host → α → Prop} {Q : Host → β → Prop}

/-- The action changes nothing but the screen, does not look at it, and gives results as described:
`P` is about the computer with an empty screen. -/
def Finds (a : Action α) (P : Host → α → Prop) : Prop :=
  ∀ h, (a.run h).1 = (a.run h.unseen).1 ∧ (a.run h).2.unseen = h.unseen ∧
    ∀ x, (a.run h).1 = .ok x → P h.unseen x

theorem finds_done {r : Except Fault α} (hr : ∀ h x, r = .ok x → P h x) : (done r).Finds P :=
  fun _ => ⟨rfl, rfl, hr _⟩

theorem finds_lift {r : Except Fault α} : (lift r).Finds fun _ x => r = .ok x :=
  finds_done fun _ _ => id

theorem finds_pure {x : α} (hx : ∀ h, P h x) : (pure x : Action α).Finds P :=
  finds_done fun h y hy => by
    cases hy
    exact hx h

theorem finds_error {e : Fault} : (done (.error e) : Action α).Finds P :=
  finds_done fun _ _ hx => by cases hx

theorem Finds.mono (ha : a.Finds P) {P' : Host → α → Prop} (h : ∀ h x, P h x → P' h x) :
    a.Finds P' := fun host => ⟨(ha host).1, (ha host).2.1, fun x hx => h _ x ((ha host).2.2 x hx)⟩

variable {f : α → Action β}

theorem Finds.bind (ha : a.Finds P) (hf : ∀ x, (f x).Finds fun h y => P h x → Q h y) :
    (a >>= f).Finds Q := by
  intro h
  obtain ⟨hsame, hscreen, hfound⟩ := ha h
  obtain ⟨-, hscreen', -⟩ := ha h.unseen
  rcases hrun : a.run h with ⟨_ | x, h₁⟩ <;> rcases hrun' : a.run h.unseen with ⟨_ | x', h₂⟩ <;>
    rw [hrun, hrun'] at hsame <;> cases hsame <;> rw [hrun] at hscreen hfound <;>
    rw [hrun'] at hscreen'
  · rw [run_bind_of_error hrun, run_bind_of_error hrun']
    exact ⟨rfl, hscreen, fun y hy => by cases hy⟩
  · rw [run_bind_of_ok hrun, run_bind_of_ok hrun']
    obtain ⟨hsame₁, hscreen₁, hfound₁⟩ := hf x h₁
    refine ⟨?_, hscreen₁.trans hscreen, fun y hy => ?_⟩
    · rw [hsame₁, (hf x h₂).1]
      exact congrArg (fun u => ((f x).run u).1) (hscreen.trans hscreen'.symm)
    · exact hscreen ▸ hfound₁ y hy (hscreen.symm ▸ hfound x rfl)

theorem finds_ite_bind {c : Prop} [Decidable c] {b : Action α}
    (hab : (if c then a else b).Finds P) (hf : ∀ x, (f x).Finds fun h y => P h x → Q h y) :
    (if c then a >>= f else b >>= f).Finds Q := by
  by_cases hc : c
  · rw [if_pos hc] at hab ⊢
    exact hab.bind hf
  · rw [if_neg hc] at hab ⊢
    exact hab.bind hf

/-- An attempt ends as the action itself does. -/
theorem Finds.attempt (ha : a.Finds P) : a.attempt.Finds fun h r => r = (a.run h).1 := by
  intro h
  simp only [run_attempt]
  refine ⟨congrArg Except.ok (ha h).1, (ha h).2.1, fun r hr => ?_⟩
  rw [← Except.ok.inj hr]
  exact (ha h).1

theorem finds_present (path : String) : (present path).Finds fun _ _ => True := by
  intro h
  simp only [present, run, answer, place_unseen, implies_true, and_self]

theorem finds_read (path : String) :
    (read path).Finds fun h b => (h.answer (.read path)).1 = .ok b := by
  intro h
  simp only [read, run, answer, place_unseen]
  exact ⟨rfl, trivial, fun _ => id⟩

theorem finds_print (line : String) : (print line).Finds fun _ _ => True :=
  fun _ => ⟨rfl, rfl, fun _ _ => trivial⟩

/-- **Going through a list**: each step finds what it finds in the beginning. -/
theorem finds_each {R : α → Host → β → Prop} (hf : ∀ x, (f x).Finds (R x)) (xs : List α) :
    (each f xs).Finds fun h ys => Forall₂ (fun x y => R x h y) xs ys := by
  induction xs with
  | nil => exact finds_pure fun h => .nil
  | cons x xs ih =>
    exact (hf x).bind fun y => ih.bind fun ys => finds_pure fun h hys hy => .cons hy hys

/-- The action succeeds on every computer. -/
def Ends (a : Action α) : Prop := ∀ h, ∃ x h', a.run h = (.ok x, h')

theorem ends_pure {x : α} : (pure x : Action α).Ends := fun h => ⟨x, h, rfl⟩

theorem ends_attempt : a.attempt.Ends := fun h => ⟨_, _, run_attempt a h⟩

theorem ends_print (line : String) : (print line).Ends := fun _ => ⟨_, _, rfl⟩

theorem Ends.bind (ha : a.Ends) (hf : ∀ x, (f x).Ends) : (a >>= f).Ends := by
  intro h
  obtain ⟨x, h₁, hx⟩ := ha h
  rw [run_bind_of_ok hx]
  exact hf x h₁

theorem lift_ok_bind (x : α) (f : α → Action β) : (lift (.ok x) >>= f) = f x := rfl

/-- What an action finds on a computer, if it succeeds. -/
def found? (a : Action (Option α)) (h : Host) : Option α :=
  match (a.run h).1 with
  | .ok o => o
  | .error _ => none

end Action

namespace Table

variable {α : Type} {t u : Table α} {key : String}

theorem mem_of_find?_merge {v : α} (h : (t.merge u).find? key = some v) :
    t.find? key = some v ∨ (key, v) ∈ u := by
  induction u generalizing t with
  | nil => exact .inl h
  | cons p u ih =>
    rcases ih h with hset | hmem
    · rw [find?_set] at hset
      split at hset
      · next heq =>
        rw [← heq, ← Option.some.inj hset]
        exact .inr (.head _)
      · exact .inl hset
    · exact .inr (.tail _ hmem)

theorem mem_of_find?_ofPairs {v : α} (h : (ofPairs u).find? key = some v) : (key, v) ∈ u :=
  (mem_of_find?_merge h).resolve_left fun h => by cases h

theorem mem_keys_merge : key ∈ (t.merge u).keys ↔ key ∈ t.keys ∨ key ∈ u.keys := by
  induction u generalizing t with
  | nil => simp [merge, keys]
  | cons p u ih =>
    have hset : key ∈ (t.set p.1 p.2).keys ↔ key ∈ t.keys ∨ key = p.1 := by
      simp only [mem_keys_iff, find?_set]
      by_cases h : p.1 = key
      · simp [h]
      · simp [h, Ne.symm h]
    refine (ih (t := t.set p.1 p.2)).trans ?_
    rw [hset, or_assoc]
    simp [keys]

theorem mem_keys_ofPairs : key ∈ (ofPairs u).keys ↔ ∃ v, (key, v) ∈ u := by
  rw [ofPairs, mem_keys_merge]
  simp [keys]

end Table

/-! ### Single assets -/

namespace Asset

open Action

variable {kind : AssetKind} {name path x y base : Value}

/-- Only a text is the path of a file. -/
theorem existing_finds : (existing kind path).Finds fun _ p => path = .str p := by
  unfold existing
  split
  · refine (finds_present _).bind fun found => ?_
    cases found
    · exact finds_error
    · exact finds_pure fun _ _ => rfl
  · split
    · refine (finds_present _).bind fun found => ?_
      cases found <;> exact finds_error
    · exact finds_error
  · next i _ _ hi =>
    have hpath : ∀ v : Value, v.integer? = some i → ∃ e, pathOf v = .error e := by
      intro v hv
      cases v with
      | str s => cases hv
      | _ => exact ⟨_, rfl⟩
    obtain ⟨e, he⟩ := hpath _ hi
    rw [he]
    split
    · exact finds_error
    · split
      · exact finds_lift.bind fun _ => finds_error
      · exact finds_error
  · exact finds_error

/-- The path leads to a file with the given bytes. -/
def Leads (h : Host) (base path : Value) (b : Bytes) : Prop :=
  ∃ p, located base path = .ok (.str p) ∧ (h.answer (.read p)).1 = .ok b

theorem openFile_finds :
    (openFile kind base path).Finds fun h opened => Leads h base path opened.2.2 := by
  refine finds_lift.bind fun full => existing_finds.bind fun p => (finds_read p).bind fun b => ?_
  refine finds_pure fun h hread hfull hlocated => ⟨p, ?_, hread⟩
  rw [hlocated, hfull]

theorem pictureSize_finds {p : String} : (pictureSize p).Finds fun _ _ => True := by
  unfold pictureSize
  dsimp only
  split
  · exact (finds_read _).bind fun _ => finds_pure fun _ _ => trivial
  · split
    · have htext : (readText p).Finds fun _ _ => True :=
        (finds_read _).bind fun _ => finds_lift.bind fun _ => finds_pure fun _ _ _ => trivial
      exact htext.bind fun _ => finds_lift.mono fun _ _ _ _ => trivial
    · exact finds_pure fun _ => trivial

/-- The asset is stored under the given name, and its digest is that of the bytes. -/
def Stores (v : Value) (key : String) (b : Bytes) : Prop :=
  ∃ format, fileOf? v = some (digest b, format, key)

theorem costumeFile_finds : (costumeFile name path x y base).Finds fun h p =>
    (∃ key, Stores p.1.toValue key p.2) ∧ Leads h base path p.2 := by
  refine openFile_finds.bind fun opened => ?_
  dsimp only
  split
  · exact finds_error
  · refine pictureSize_finds.bind fun size => finds_pure fun h _ hleads => ⟨⟨_, _, rfl⟩, hleads⟩

theorem backdropFile_finds : (backdropFile name path base).Finds fun h p =>
    (∃ key, Stores p.1.toValue key p.2) ∧ Leads h base path p.2 := by
  refine openFile_finds.bind fun opened => ?_
  dsimp only
  split
  · exact finds_error
  · exact finds_pure fun h hleads => ⟨⟨_, _, rfl⟩, hleads⟩

theorem soundFile_finds : (soundFile name path base).Finds fun h p =>
    (∃ key, Stores p.1.toValue key p.2) ∧ Leads h base path p.2 := by
  refine openFile_finds.bind fun opened => ?_
  dsimp only
  split
  · exact finds_error
  · exact finds_pure fun h hleads => ⟨⟨_, _, rfl⟩, hleads⟩

end Asset

/-! ### Declared assets -/

namespace Assembly

open Action

variable {base info : Value}

/-- The bytes that a declared asset consists of: a drawing that is given, or a file. -/
def Given (h : Host) (base info : Value) (b : Bytes) : Prop :=
  (∃ s, info.get "svg_string" = .ok (.str s) ∧ b = Bytes.ofText s) ∨
    ∃ path, info.get "file_path" = .ok path ∧ Asset.Leads h base path b

/-- A declared asset that is found has its own bytes, and is stored under their digest. -/
def Sourced {α : Type} (toValue : α → Value) (base info : Value) (h : Host)
    (found : Option (α × Bytes)) : Prop :=
  ∀ p ∈ found, (∃ key, Asset.Stores (toValue p.1) key p.2) ∧ Given h base info p.2

theorem sourced_none {α : Type} {toValue : α → Value} {h : Host} :
    Sourced toValue base info h none := fun _ hp => by cases hp

theorem str_of_asText {v : Value} {s operation : String} (h : v.asText operation = .ok s) :
    v = .str s := by
  cases v <;> cases h
  rfl

theorem sourced_file {α : Type} {toValue : α → Value} {h : Host} {path : Value} {p : α × Bytes}
    (hpath : info.get "file_path" = .ok path)
    (hp : (∃ key, Stores (toValue p.1) key p.2) ∧ Leads h base path p.2) :
    Sourced toValue base info h (some p) := by
  rintro p ⟨⟩
  exact ⟨hp.1, .inr ⟨path, hpath, hp.2⟩⟩

theorem backdropOf_finds : (backdropOf base info).Finds (Sourced Costume.toValue base info) := by
  refine finds_lift.bind fun svg => ?_
  split
  · refine finds_lift.bind fun name => finds_lift.bind fun found => finds_pure ?_
    rintro h hfound - hsvg p ⟨⟩
    obtain ⟨s, hs, hfound⟩ := exists_of_bind_eq_ok hfound
    cases hfound
    exact ⟨⟨_, _, rfl⟩, .inl ⟨s, str_of_asText hs ▸ hsvg, rfl⟩⟩
  · refine finds_lift.bind fun path => ?_
    split
    · refine finds_lift.bind fun name => backdropFile_finds.bind fun found => ?_
      exact finds_pure fun h hfound _ hpath _ => sourced_file hpath hfound
    · exact finds_pure fun h _ _ => sourced_none

theorem costumeOf_finds : (costumeOf base info).Finds (Sourced Costume.toValue base info) := by
  refine finds_lift.bind fun svg => ?_
  split
  · refine finds_lift.bind fun name => finds_lift.bind fun x => finds_lift.bind fun y => ?_
    refine finds_lift.bind fun found => finds_pure ?_
    rintro h hfound - - - hsvg p ⟨⟩
    obtain ⟨s, hs, hfound⟩ := exists_of_bind_eq_ok hfound
    obtain ⟨size, -, hfound⟩ := exists_of_bind_eq_ok hfound
    cases hfound
    exact ⟨⟨_, _, rfl⟩, .inl ⟨s, str_of_asText hs ▸ hsvg, rfl⟩⟩
  · refine finds_lift.bind fun path => ?_
    split
    · refine finds_lift.bind fun name => finds_lift.bind fun x => finds_lift.bind fun y => ?_
      refine costumeFile_finds.bind fun found => ?_
      exact finds_pure fun h hfound _ _ _ hpath _ => sourced_file hpath hfound
    · exact finds_pure fun h _ _ => sourced_none

theorem soundOf_finds : (soundOf base info).Finds (Sourced Sound.toValue base info) := by
  refine finds_lift.bind fun path => ?_
  split
  · refine finds_lift.bind fun name => soundFile_finds.bind fun found => ?_
    exact finds_pure fun h hfound _ hpath => sourced_file hpath hfound
  · exact finds_pure fun h _ => sourced_none

/-- What is declared under a key of some settings. -/
def declared (settings : Value) (key : String) : List Value :=
  match settings.get key with
  | .ok v => if v.truthy then v.iterate.toOption.getD [] else []
  | .error _ => []

theorem isEmpty_of_iterate {v : Value} {infos : List Value} (h : v.truthy = true)
    (hinfos : v.iterate = .ok infos) : infos.isEmpty = false := by
  cases v with
  | str s =>
    cases hinfos
    simpa [Value.truthy] using h
  | list | tuple | dict | bytes =>
    cases hinfos
    simpa [Value.truthy] using h
  | _ => cases hinfos

section Listed

variable {α : Type} {kind : AssetKind} {load : Value → Action (Option (α × Bytes))}
  {R : Value → Host → Option (α × Bytes) → Prop}

/-- The assets that are declared under a key and can be loaded. -/
def loaded (load : Value → Action (Option (α × Bytes))) (h : Host) (settings : Value)
    (key : String) : List (α × Bytes) :=
  (declared settings key).filterMap fun info => (load info).found? h

theorem loaded_ne_nil {h : Host} {settings : Value} {key : String} :
    loaded load h settings key ≠ [] ↔
      ∃ info ∈ declared settings key, ((load info).found? h).isSome := by
  simp [loaded, filterMap_eq_nil_iff, Option.isSome_iff_ne_none]

theorem loadOne_finds (hload : (load info).Finds (R info)) :
    (loadOne kind load info).Finds fun h o => o = (load info).found? h := by
  refine hload.attempt.bind fun r => ?_
  split
  · refine finds_pure fun h hr => ?_
    rw [found?, ← hr]
  · refine finds_lift.bind fun name => finds_lift.bind fun text => (finds_print _).bind fun _ => ?_
    refine finds_pure fun h _ _ _ hr => ?_
    rw [found?, ← hr]

/-- **Loading what is declared** gives what each item gives by itself. -/
theorem loadListed_finds (hload : ∀ info, (load info).Finds (R info)) (settings : Value)
    (key : String) :
    (loadListed kind load settings key).Finds fun h found =>
      found = loaded load h settings key ∧
        ∀ v, settings.get key = .ok v → (declared settings key).isEmpty = !v.truthy := by
  refine finds_lift.bind fun v => ?_
  split
  · next htruthy =>
    refine finds_lift.bind fun infos => ?_
    refine (finds_each (fun info => loadOne_finds (hload info)) infos).bind fun os => ?_
    refine finds_pure fun h hos hinfos hv => ?_
    have hmap : os = infos.map fun info => (load info).found? h := by
      rw [← forall₂_eq_eq_eq, forall₂_map_right_iff]
      exact hos.flip
    have hdeclared : declared settings key = infos := by
      rw [declared, hv]
      dsimp only
      rw [if_pos htruthy, hinfos]
      rfl
    refine ⟨by rw [loaded, hdeclared, hmap, filterMap_map]; rfl, fun v' hv' => ?_⟩
    cases hv.symm.trans hv'
    rw [hdeclared, htruthy]
    exact isEmpty_of_iterate htruthy hinfos
  · next htruthy =>
    refine finds_pure fun h hv => ?_
    have hdeclared : declared settings key = [] := by
      rw [declared, hv]
      dsimp only
      rw [if_neg htruthy]
    refine ⟨by rw [loaded, hdeclared]; rfl, fun v' hv' => ?_⟩
    cases hv.symm.trans hv'
    rw [hdeclared, Bool.eq_false_iff.2 htruthy]
    rfl

end Listed

/-! ### The stage and the sprites -/

/-- The settings that count. Without resources nothing is loaded. -/
def settingsOf (r : Option Resources) (v : Value) : Value :=
  if v.truthy && r.isSome then v else .dict []

def stageSettings (r : Option Resources) (result : Value) : Value :=
  settingsOf r (partsOf result).2

def spriteSettings (r : Option Resources) (target : Value) : Value :=
  match target.get "sprite_config" with
  | .ok v => settingsOf r v
  | .error _ => .dict []

/-- Pictures and sounds with their bytes. -/
abbrev Load := List (Costume × Bytes) × List (Sound × Bytes)

def stageLoad (base settings : Value) (h : Host) : Load :=
  (loaded (backdropOf base) h settings "backdrops", loaded (soundOf base) h settings "sounds")

def spriteLoad (base settings : Value) (h : Host) : Load :=
  (loaded (costumeOf base) h settings "costumes", loaded (soundOf base) h settings "sounds")

/-- The bytes by the names under which they are stored. -/
def Load.assets (l : Load) : List (String × Bytes) := costumeAssets l.1 ++ soundAssets l.2

/-- The assets as they are described in a project, with their bytes. -/
def Load.items (l : Load) : List (Value × Bytes) :=
  l.1.map (fun p => (p.1.toValue, p.2)) ++ l.2.map (fun p => (p.1.toValue, p.2))

/-- The stage has the backdrops and sounds that are declared and can be loaded; if no backdrop is
declared, it has the usual one. -/
structure Furnished (base settings : Value) (h : Host) (s : Stage) : Prop where
  backdrops : s.backdrops = if (declared settings "backdrops").isEmpty then
    [Drawing.plainBackdrop] else (stageLoad base settings h).1.map (·.1)
  sounds : s.sounds = (stageLoad base settings h).2.map (·.1)

theorem stageOf_finds (settings : Value) :
    (stageOf base settings).Finds fun h s =>
      Furnished base settings h s.1 ∧ s.2 = (stageLoad base settings h).assets := by
  refine finds_lift.bind fun v => (loadListed_finds (fun _ => backdropOf_finds) _ _).bind ?_
  refine fun backdrops => (loadListed_finds (fun _ => soundOf_finds) _ _).bind fun sounds => ?_
  refine finds_lift.bind fun tempo => finds_lift.bind fun volume => finds_pure ?_
  rintro h - - ⟨rfl, -⟩ ⟨rfl, hdeclared⟩ hv
  refine ⟨⟨?_, rfl⟩, rfl⟩
  rw [hdeclared v hv]
  cases v.truthy <;> rfl

/-- A sprite has a costume. It has those costumes that are declared and can be loaded, if there are
any, and such sounds before all others. -/
structure Dressed (base settings : Value) (h : Host) (s : Sprite) : Prop where
  dressed : s.costumes ≠ []
  costumes : (spriteLoad base settings h).1 ≠ [] →
    s.costumes = (spriteLoad base settings h).1.map (·.1)
  sounds : (spriteLoad base settings h).2.map (·.1) <+: s.sounds

theorem prefix_of_publishedFor {c : Catalog} {name : Value} {sounds : List Sound}
    {found : List Costume × List Sound} (h : publishedFor c name sounds = .ok found) :
    sounds <+: found.2 := by
  obtain ⟨full?, -, h⟩ := exists_of_bind_eq_ok h
  split at h
  · cases h
    exact prefix_rfl
  · split at h
    · cases h
      exact prefix_rfl
    · obtain ⟨costumes, -, h⟩ := exists_of_bind_eq_ok h
      split at h
      · next hempty =>
        obtain ⟨heard, -, h⟩ := exists_of_bind_eq_ok h
        rw [List.isEmpty_iff.1 hempty]
        exact nil_prefix
      · cases h
        exact prefix_rfl

theorem prefix_of_addUsed {c : Option Catalog} {taken : List String} {sounds heard : List Sound}
    {names : List Value} (h : addUsed c taken sounds names = .ok heard) : sounds <+: heard := by
  induction names generalizing taken sounds with
  | nil =>
    cases h
    exact prefix_rfl
  | cons v rest ih =>
    rw [addUsed] at h
    obtain ⟨name, -, h⟩ := exists_of_bind_eq_ok h
    dsimp only at h
    split at h
    · exact ih h
    · cases c with
      | none => exact ih h
      | some c =>
        obtain ⟨found, -, h⟩ := exists_of_bind_eq_ok h
        cases found with
        | none => exact ih h
        | some s => exact (prefix_append _ _).trans (ih h)

theorem ne_nil_or_cats (shown : List Costume) :
    (if shown.isEmpty then Drawing.catCostumes else shown) ≠ [] := by
  split
  · exact cons_ne_nil _ _
  · next h => exact fun hnil => h (List.isEmpty_iff.2 hnil)

theorem declaredOf_finds (settings : Value) (p : Pose) :
    (declaredOf base settings p).Finds fun h found =>
      found.1 = loaded (costumeOf base) h settings "costumes" ∧
        found.2.1 = loaded (soundOf base) h settings "sounds" := by
  refine (loadListed_finds (fun _ => costumeOf_finds) _ _).bind fun costumes => ?_
  refine (loadListed_finds (fun _ => soundOf_finds) _ _).bind fun sounds => ?_
  exact finds_lift.bind fun pose => finds_pure fun h _ hsounds hcostumes =>
    ⟨hcostumes.1, hsounds.1⟩

theorem spriteOf_finds (r : Option Resources) (base : Value) (i : Nat) (target : Value) :
    (spriteOf r base i target).Finds fun h s => Dressed base (spriteSettings r target) h s.1 ∧
      s.2 = (spriteLoad base (spriteSettings r target) h).assets := by
  refine finds_lift.bind fun name => finds_lift.bind fun settings => ?_
  dsimp only
  have hown : ∀ p, (if settings.truthy && r.isSome then declaredOf base settings p
      else pure ([], [], p)).Finds fun h found => target.get "sprite_config" = .ok settings →
        found.1 = loaded (costumeOf base) h (spriteSettings r target) "costumes" ∧
          found.2.1 = loaded (soundOf base) h (spriteSettings r target) "sounds" := by
    intro p
    split
    · next hsome =>
      refine (declaredOf_finds settings p).mono fun h found hfound hsettings => ?_
      simpa only [spriteSettings, hsettings, settingsOf, if_pos hsome] using hfound
    · next hnone =>
      refine finds_pure fun h hsettings => ?_
      simp only [spriteSettings, hsettings, settingsOf, if_neg hnone]
      exact ⟨rfl, rfl⟩
  refine finds_ite_bind (hown _) fun found => ?_
  obtain ⟨costumes, sounds, pose⟩ := found
  dsimp only
  split <;> refine finds_lift.bind fun shown => ?_
  all_goals
    refine finds_lift.bind fun used => finds_lift.bind fun taken => finds_lift.bind fun names => ?_
    refine finds_lift.bind fun heard => finds_lift.bind fun vars => finds_lift.bind fun lists => ?_
    refine finds_lift.bind fun broadcasts => finds_lift.bind fun blocks => finds_pure ?_
    rintro h - - - - hheard - - - hshown hfound hsettings -
    obtain ⟨rfl, rfl⟩ := hfound hsettings
  · next r hnone =>
    have hsounds := (prefix_of_publishedFor hshown).trans (prefix_of_addUsed hheard)
    have hcostumes := map_eq_nil_iff.1 hnone
    exact ⟨⟨ne_nil_or_cats _, fun hsome => absurd hcostumes hsome, hsounds⟩, rfl⟩
  · cases hshown
    refine ⟨⟨ne_nil_or_cats _, fun hsome => if_neg ?_, prefix_of_addUsed hheard⟩, rfl⟩
    rw [List.isEmpty_iff, map_eq_nil_iff]
    exact hsome

/-! ### The project -/

/-- The targets in the result of a compilation. -/
def targetsOf (result : Value) : List Value := (partsOf result).1.iterate.toOption.getD []

/-- All that is declared and can be loaded, target by target. -/
def loads (r : Option Resources) (base result : Value) (h : Host) : List Load :=
  stageLoad base (stageSettings r result) h ::
    (targetsOf result).map fun target => spriteLoad base (spriteSettings r target) h

theorem ofResult_finds (r : Option Resources) (base result : Value) :
    (ofResult r base result).Finds fun h a =>
      Furnished base (stageSettings r result) h a.project.stage ∧
      Forall₂ (fun target s => Dressed base (spriteSettings r target) h s) (targetsOf result)
        a.project.sprites ∧
      a.assets = Table.ofPairs ((loads r base result h).flatMap Load.assets) := by
  rw [ofResult]
  dsimp only
  have hstage : (if (partsOf result).2.truthy && r.isSome then stageOf base (partsOf result).2
      else pure (plainStage, [])).Finds fun h s =>
        Furnished base (stageSettings r result) h s.1 ∧
          s.2 = (stageLoad base (stageSettings r result) h).assets := by
    rw [stageSettings, settingsOf]
    split
    · exact stageOf_finds _
    · exact finds_pure fun h => ⟨⟨rfl, rfl⟩, rfl⟩
  refine finds_ite_bind hstage fun stage => finds_lift.bind fun targets => ?_
  have hsprites := finds_each (fun q : Value × Nat => spriteOf_finds r base q.2 q.1) targets.zipIdx
  refine hsprites.bind fun found => finds_pure ?_
  rintro h hfound htargets ⟨hfurnished, hassets⟩
  have heq : targetsOf result = targets := by
    rw [targetsOf, htargets]
    rfl
  have hall : Forall₂ (fun target s => Dressed base (spriteSettings r target) h s.1 ∧
      s.2 = (spriteLoad base (spriteSettings r target) h).assets) targets found := by
    rw [← zipIdx_map_fst 0 targets, forall₂_map_left_iff]
    exact hfound
  have hassets' : found.map (·.2) =
      targets.map fun target => (spriteLoad base (spriteSettings r target) h).assets := by
    rw [← forall₂_eq_eq_eq, forall₂_map_left_iff, forall₂_map_right_iff]
    exact (hall.imp fun _ _ hs => hs.2.symm).flip.imp fun _ _ hs => hs.symm
  refine ⟨hfurnished, ?_, ?_⟩
  · rw [heq, forall₂_map_right_iff]
    exact hall.imp fun _ _ hs => hs.1
  · rw [hassets, loads, heq, flatMap_cons, flatMap_map, flatMap_def, hassets',
      ← flatMap_def]

/-- A target has a costume, and the number of the costume it shows is one of them. -/
def IsDrawn (target : Value) : Prop :=
  ∃ costumes, ∃ n : Nat, target.key "costumes" = .ok (.list costumes) ∧
    target.key "currentCostume" = .ok (.int n) ∧ n < costumes.length

theorem isDrawn_stage {s : Stage} : IsDrawn s.toValue ↔ s.backdrops ≠ [] := by
  constructor
  · rintro ⟨costumes, n, hcostumes, -, hn⟩ hnone
    cases hcostumes
    rw [hnone] at hn
    exact absurd hn (Nat.not_lt_zero _)
  · intro h
    exact ⟨_, 0, rfl, rfl, by simpa [length_pos_iff] using h⟩

/-- **Every sprite can be drawn.** The stage can be drawn exactly if no backdrop is declared or one of
those that are can be loaded. -/
theorem ofResult_draws (r : Option Resources) (base result : Value) :
    (ofResult r base result).Finds fun h a =>
      (∀ s ∈ a.project.sprites, IsDrawn s.toValue) ∧
      (IsDrawn a.project.stage.toValue ↔
        (declared (stageSettings r result) "backdrops" = [] ∨
          ∃ info ∈ declared (stageSettings r result) "backdrops",
            ((backdropOf base info).found? h).isSome)) := by
  refine (ofResult_finds r base result).mono fun h a ha => ?_
  obtain ⟨hstage, hsprites, -⟩ := ha
  refine ⟨fun s hs => ?_, ?_⟩
  · obtain ⟨target, -, hs⟩ := Core.exists_of_forall₂ hsprites hs
    exact ⟨_, 0, rfl, rfl, by simpa [List.length_pos_iff] using hs.dressed⟩
  · rw [isDrawn_stage, hstage.backdrops]
    cases hdeclared : declared (stageSettings r result) "backdrops" with
    | nil => simp
    | cons info rest =>
      rw [← hdeclared, ← loaded_ne_nil]
      simp [hdeclared, stageLoad]

/-- The settings of a stage whose only backdrop is a file that is not there. -/
def missingBackdrop : Value :=
  .dict [("targets", .list []), ("stage_config", StageSettings.toValue
    { backdrops := [{ name := .str "Sky", filePath := .str "sky.png" }] })]

theorem not_isDrawn_missingBackdrop :
    ∃ a h', (ofResult (some ⟨⟨[], []⟩, "cache"⟩) .null missingBackdrop).run { here := [] } =
      (.ok a, h') ∧ ¬IsDrawn a.project.stage.toValue := by
  refine ⟨_, _, rfl, ?_⟩
  rw [isDrawn_stage]
  exact fun h => h rfl

/-! ### The table of assets -/

variable {b : Bytes} {key : String}

theorem given_unseen {h : Host} (hgiven : Given h.unseen base info b) : Given h base info b := by
  refine hgiven.imp_right fun hfile => ?_
  obtain ⟨path, hpath, p, hp, hread⟩ := hfile
  refine ⟨path, hpath, p, hp, ?_⟩
  simpa only [answer, place_unseen] using hread

theorem sourced_found? {α : Type} {toValue : α → Value} {a : Action (Option (α × Bytes))}
    (ha : a.Finds (Sourced toValue base info)) (h : Host) :
    Sourced toValue base info h (a.found? h) := by
  rw [found?]
  split
  · next o ho =>
    exact fun p hp => ((ha h).2.2 o ho p hp).imp_right given_unseen
  · exact sourced_none

theorem textAt?_of_stores {v : Value} (h : Stores v key b) : textAt? v "md5ext" = some key := by
  obtain ⟨format, h⟩ := h
  obtain ⟨_, -, h⟩ := Option.bind_eq_some_iff.1 h
  obtain ⟨_, -, h⟩ := Option.bind_eq_some_iff.1 h
  obtain ⟨stored, hstored, h⟩ := Option.bind_eq_some_iff.1 h
  cases h
  exact hstored

theorem md5ext_of_stores_costume {c : Costume} (h : Stores c.toValue key b) :
    c.md5ext = key := by
  refine Option.some.inj (Eq.trans ?_ (textAt?_of_stores h))
  obtain ⟨_ | _, _, _, _, _, _, _, _ | _⟩ := c <;> rfl

theorem md5ext_of_stores_sound {s : Sound} (h : Stores s.toValue key b) :
    s.md5ext = .str key := by
  have htext := textAt?_of_stores h
  obtain ⟨_ | _, _, _, _, md5ext, _, _⟩ := s <;> cases md5ext <;> cases htext <;> rfl

/-- What is stored under a name is what the assets with this name consist of. -/
theorem mem_assets {l : Load} (hl : ∀ p ∈ l.items, ∃ key, Stores p.1 key p.2) :
    (key, b) ∈ l.assets ↔ ∃ v, (v, b) ∈ l.items ∧ Stores v key b := by
  simp only [Load.assets, Load.items, mem_append, mem_map, mem_filterMap,
    costumeAssets, soundAssets] at hl ⊢
  constructor
  · rintro (⟨p, hp, heq⟩ | ⟨p, hp, heq⟩)
    · obtain ⟨key', hkey⟩ := hl _ (.inl ⟨p, hp, rfl⟩)
      cases heq
      cases md5ext_of_stores_costume hkey
      exact ⟨_, .inl ⟨p, hp, rfl⟩, hkey⟩
    · obtain ⟨key', hkey⟩ := hl _ (.inr ⟨p, hp, rfl⟩)
      simp only [md5ext_of_stores_sound hkey] at heq
      cases heq
      exact ⟨_, .inr ⟨p, hp, rfl⟩, hkey⟩
  · rintro ⟨v, ⟨p, hp, heq⟩ | ⟨p, hp, heq⟩, hkey⟩ <;> cases heq
    · exact .inl ⟨p, hp, by rw [md5ext_of_stores_costume hkey]⟩
    · exact .inr ⟨p, hp, by rw [md5ext_of_stores_sound hkey]⟩

theorem exists_stores (r : Option Resources) (base result : Value) (h : Host) :
    ∀ l ∈ loads r base result h, ∀ p ∈ l.items, ∃ key, Stores p.1 key p.2 := by
  have hloaded : ∀ {α : Type} {toValue : α → Value} {load : Value → Action (Option (α × Bytes))}
      {settings : Value} {key : String},
      (∀ info, (load info).Finds (Sourced toValue base info)) →
      ∀ q ∈ loaded load h settings key, ∃ key, Stores (toValue q.1) key q.2 := by
    intro α toValue load settings key hload q hq
    obtain ⟨info, -, hinfo⟩ := mem_filterMap.1 hq
    exact (sourced_found? (hload info) h q hinfo).1
  intro l hl p hp
  rcases mem_cons.1 hl with rfl | hl
  · rcases mem_append.1 hp with hp | hp <;> obtain ⟨q, hq, rfl⟩ := mem_map.1 hp
    · exact hloaded (fun _ => backdropOf_finds) q hq
    · exact hloaded (fun _ => soundOf_finds) q hq
  · obtain ⟨target, -, rfl⟩ := mem_map.1 hl
    rcases mem_append.1 hp with hp | hp <;> obtain ⟨q, hq, rfl⟩ := mem_map.1 hp
    · exact hloaded (fun _ => costumeOf_finds) q hq
    · exact hloaded (fun _ => soundOf_finds) q hq

/-- The project has what is declared and can be loaded, in the place where it is declared, and the
table of assets has the bytes of exactly these items. -/
structure Collects (r : Option Resources) (base result : Value) (h : Host) (a : Assembly) :
    Prop where
  stage : Furnished base (stageSettings r result) h a.project.stage
  sprites : List.Forall₂ (fun target s => Dressed base (spriteSettings r target) h s)
    (targetsOf result) a.project.sprites
  listed : ∀ p ∈ (loads r base result h).flatMap Load.items,
    IsListed a.project.toValue "costumes" p.1 ∨ IsListed a.project.toValue "sounds" p.1
  keys : ∀ key, key ∈ a.assets.keys ↔
    ∃ p ∈ (loads r base result h).flatMap Load.items, Asset.Stores p.1 key p.2
  contents : ∀ key b, a.assets.find? key = some b →
    ∃ v, (v, b) ∈ (loads r base result h).flatMap Load.items ∧ Asset.Stores v key b
  given : ∀ info, Sourced Costume.toValue base info h ((backdropOf base info).found? h) ∧
    Sourced Costume.toValue base info h ((costumeOf base info).found? h) ∧
    Sourced Sound.toValue base info h ((soundOf base info).found? h)

theorem listed_of_mem_items {r : Option Resources} {result : Value} {h : Host} {p : Project}
    (hstage : Furnished base (stageSettings r result) h p.stage)
    (hsprites : Forall₂ (fun target s => Dressed base (spriteSettings r target) h s)
      (targetsOf result) p.sprites) :
    ∀ q ∈ (loads r base result h).flatMap Load.items,
      IsListed p.toValue "costumes" q.1 ∨ IsListed p.toValue "sounds" q.1 := by
  intro q hq
  obtain ⟨l, hl, hq⟩ := mem_flatMap.1 hq
  rcases mem_cons.1 hl with rfl | hl
  · rcases mem_append.1 hq with hq | hq <;> obtain ⟨c, hc, rfl⟩ := mem_map.1 hq
    · have hdeclared : (declared (stageSettings r result) "backdrops").isEmpty = false := by
        obtain ⟨info, hinfo, -⟩ := loaded_ne_nil.1 (ne_nil_of_mem hc)
        exact isEmpty_eq_false_iff.2 (ne_nil_of_mem hinfo)
      refine .inl ⟨_, _, _, rfl, .head _, rfl, mem_map_of_mem ?_⟩
      rw [hstage.backdrops, hdeclared]
      exact mem_map_of_mem hc
    · refine .inr ⟨_, _, _, rfl, .head _, rfl, mem_map_of_mem ?_⟩
      rw [hstage.sounds]
      exact mem_map_of_mem hc
  · obtain ⟨target, htarget, rfl⟩ := mem_map.1 hl
    obtain ⟨s, hs, hdressed⟩ := Core.exists_of_forall₂ hsprites.flip htarget
    have hmem : s.toValue ∈ p.stage.toValue :: p.sprites.map (·.toValue) :=
      .tail _ (mem_map_of_mem hs)
    rcases mem_append.1 hq with hq | hq <;> obtain ⟨c, hc, rfl⟩ := mem_map.1 hq
    · refine .inl ⟨_, _, _, rfl, hmem, rfl, mem_map_of_mem ?_⟩
      rw [hdressed.costumes (ne_nil_of_mem hc)]
      exact mem_map_of_mem hc
    · exact .inr ⟨_, _, _, rfl, hmem, rfl,
        mem_map_of_mem (hdressed.sounds.subset (mem_map_of_mem hc))⟩

/-- The items have names that can be shown. -/
def AllNamed (infos : List Value) : Prop :=
  ∀ info ∈ infos, ∃ name text, info.get "name" = .ok name ∧ name.text = .ok text

theorem each_loadOne_ends {α : Type} (kind : AssetKind)
    (load : Value → Action (Option (α × Bytes))) {infos : List Value} (hnamed : AllNamed infos) :
    (each (loadOne kind load) infos).Ends := by
  induction infos with
  | nil => exact ends_pure
  | cons info rest ih =>
    obtain ⟨name, text, hname, htext⟩ := hnamed info (.head _)
    have hone : (loadOne kind load info).Ends := by
      refine ends_attempt.bind fun r => ?_
      cases r with
      | ok o => exact ends_pure
      | error e =>
        dsimp only
        rw [hname, lift_ok_bind, htext, lift_ok_bind]
        exact (ends_print _).bind fun _ => ends_pure
    have hrest := ih fun info hinfo => hnamed info (.tail _ hinfo)
    exact hone.bind fun o => hrest.bind fun os => ends_pure

end Assembly

end BlockScript
