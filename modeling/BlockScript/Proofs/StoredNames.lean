import BlockScript.Proofs.CompiledListing

/-!
# The names under which assets are stored

An asset says three things about its file: its digest, its format, and the name under which the file
is stored, which is the digest, a dot and an extension. A project is stored by that name and shown
by the other two, so the extension should be the format (`IsFiled`).

It is for every asset that a program declares, for the cats and the white backdrop that stand in for
missing ones, and for everything that belongs to a published sprite. Published sounds that belong to
no sprite are different: those whose samples are stored as differences give that as their format,
while their files are recordings like all others (`IsSqueezed`). Nothing else happens, whatever the
program is and whatever files there are (`Assembly.filed_of_ofSource`).
-/

namespace BlockScript

open Asset List Option

/-- The text under a key of an object. -/
def textAt? (v : Value) (key : String) : Option String :=
  match v.key key with
  | .ok (.str s) => some s
  | _ => none

/-- What the description of an asset says about its file: the digest, the format, and the name under
which it is stored. -/
def fileOf? (v : Value) : Option (String × String × String) := do
  let assetId ← textAt? v "assetId"
  let format ← textAt? v "dataFormat"
  let stored ← textAt? v "md5ext"
  some (assetId, format, stored)

/-- The file of the asset is stored under its digest and its format. -/
def IsFiled (v : Value) : Prop :=
  ∃ assetId format, fileOf? v = some (assetId, format, assetId ++ "." ++ format)

/-- The asset is one of some published sounds, with samples that are stored as differences. Its
format is not the extension of its file. -/
def IsSqueezed (tunes : List TuneRecord) (v : Value) : Prop :=
  ∃ t ∈ tunes, t.sound.isCompressed = true ∧ textAt? v "name" = some t.name ∧
    fileOf? v = some (t.sound.assetId, "adpcm", t.sound.assetId ++ "." ++ "wav")

theorem not_isFiled_of_fileOf? {v : Value} {assetId format stored : String}
    (h : fileOf? v = some (assetId, format, stored)) (hne : stored ≠ assetId ++ "." ++ format) :
    ¬IsFiled v := by
  rintro ⟨assetId', format', h'⟩
  cases h.symm.trans h'
  exact hne rfl

theorem IsSqueezed.not_isFiled {tunes : List TuneRecord} {v : Value} (h : IsSqueezed tunes v) :
    ¬IsFiled v := by
  obtain ⟨t, -, -, -, hfile⟩ := h
  refine not_isFiled_of_fileOf? hfile fun heq => ?_
  exact absurd ((String.append_right_inj _).1 heq) (by decide)

theorem forall₂_of_mapM {α β : Type} {f : α → Except Fault β} {l : List α} {bs : List β}
    (h : l.mapM f = .ok bs) : Forall₂ (fun a b => f a = .ok b) l bs := by
  induction l generalizing bs with
  | nil =>
    cases h
    exact .nil
  | cons a l ih =>
    rw [mapM_cons] at h
    obtain ⟨b, hb, h⟩ := exists_of_bind_eq_ok h
    obtain ⟨bs', hbs, h⟩ := exists_of_bind_eq_ok h
    cases h
    exact .cons hb (ih hbs)

/-- What holds of all results of the steps holds of the list of results. -/
theorem forall_of_mapM {α β : Type} {P : β → Prop} {f : α → Except Fault β} {l : List α}
    {bs : List β} (h : ∀ a ∈ l, ∀ b, f a = .ok b → P b) (hrun : l.mapM f = .ok bs) :
    ∀ b ∈ bs, P b := by
  intro b hb
  obtain ⟨a, ha, hab⟩ := Core.exists_of_forall₂ (forall₂_of_mapM hrun) hb
  exact h a ha b hab

/-! ### Assets of this library's own making -/

theorem isFiled_picture (name : Value) (format : String) (resolution : Nat) (contents : Bytes)
    (x y : Value) : IsFiled (picture name format resolution contents x y).toValue :=
  ⟨digest contents, format, rfl⟩

theorem isFiled_catCostumes : ∀ c ∈ Drawing.catCostumes, IsFiled c.toValue := by
  intro c hc
  rcases mem_cons.1 hc with rfl | hc
  · exact isFiled_picture ..
  · cases mem_singleton.1 hc
    exact isFiled_picture ..

theorem isFiled_plainBackdrop : IsFiled Drawing.plainBackdrop.toValue :=
  ⟨digest (Bytes.ofText Drawing.whiteBackdrop), "svg", rfl⟩

namespace Asset

open Action

variable (name path x y base svg : Value)

theorem costumeFile_filed :
    (costumeFile name path x y base).Ensures fun p => IsFiled p.1.toValue := by
  refine ensures_bind fun opened _ => ?_
  dsimp only
  split
  · intro y hy
    cases hy
  · exact ensures_bind fun size _ => ensures_pure (isFiled_picture ..)

theorem backdropFile_filed :
    (backdropFile name path base).Ensures fun p => IsFiled p.1.toValue := by
  refine ensures_bind fun opened _ => ?_
  dsimp only
  split
  · intro y hy
    cases hy
  · exact ensures_pure (isFiled_picture ..)

theorem soundFile_filed : (soundFile name path base).Ensures fun p => IsFiled p.1.toValue := by
  refine ensures_bind fun opened _ => ?_
  dsimp only
  split
  · intro y hy
    cases hy
  · exact ensures_pure ⟨_, _, rfl⟩

variable {name x y svg}

theorem costumeDrawing_filed {p : Costume × Bytes} (h : costumeDrawing name svg x y = .ok p) :
    IsFiled p.1.toValue := by
  obtain ⟨s, -, h⟩ := exists_of_bind_eq_ok h
  obtain ⟨size, -, h⟩ := exists_of_bind_eq_ok h
  cases h
  exact isFiled_picture ..

theorem backdropDrawing_filed {p : Costume × Bytes} (h : backdropDrawing name svg = .ok p) :
    IsFiled p.1.toValue := by
  obtain ⟨s, -, h⟩ := exists_of_bind_eq_ok h
  cases h
  exact isFiled_picture ..

end Asset

/-! ### Published assets -/

namespace Catalog

variable {sprites : List SpriteRecord} {tunes : List TuneRecord}

/-- The catalog of some records. -/
def ofRecords (sprites : List SpriteRecord) (tunes : List TuneRecord) : Catalog where
  sprites := sprites.map fun s => (s.name, s.toValue)
  sounds := tunes.map fun t => (t.name, t.toValue)

theorem isFiled_costumeOf (r : CostumeRecord) {c : Costume} (h : costumeOf r.toValue = .ok c) :
    IsFiled c.toValue := by
  cases h
  exact ⟨_, _, rfl⟩

variable {s : Sound} {name : Value}

theorem isFiled_soundOf (r : SoundRecord) (h : soundOf r.toValue = .ok s) : IsFiled s.toValue := by
  cases h
  exact ⟨_, _, rfl⟩

theorem tuneOf_toValue (t : TuneRecord) :
    tuneOf t.toValue = .ok {
      source := .published
      name := .str t.name
      assetId := .str t.sound.assetId
      dataFormat := .str (if t.sound.isCompressed then "adpcm" else "wav")
      md5ext := .str (t.sound.assetId ++ "." ++ "wav")
      rate := .int t.sound.rate
      sampleCount := .int t.sound.sampleCount } := by
  rw [String.append_assoc, show "." ++ "wav" = ".wav" by decide]
  obtain ⟨name, tags, ⟨sname, assetId, isCompressed, rate, count⟩⟩ := t
  cases isCompressed <;> rfl

/-- **A published sound** is filed, or its samples are stored as differences. -/
theorem filed_tuneOf {t : TuneRecord} (ht : t ∈ tunes) (h : tuneOf t.toValue = .ok s) :
    IsFiled s.toValue ∨ IsSqueezed tunes s.toValue := by
  rw [tuneOf_toValue] at h
  cases h
  cases hsqueezed : t.sound.isCompressed with
  | false => exact .inl ⟨_, _, rfl⟩
  | true => exact .inr ⟨t, ht, hsqueezed, rfl, rfl⟩

/-- What is found in a table is one of its entries. -/
theorem mem_of_entry? {t : Table Value} {name v : Value} (h : entry? t name = .ok (some v)) :
    ∃ k, (k, v) ∈ t := by
  obtain ⟨_, -, h⟩ := exists_of_bind_eq_ok h
  cases hsame : sameName? t name with
  | some p =>
    rw [hsame] at h
    cases h
    cases name with
    | str s =>
      obtain ⟨w, hw, rfl⟩ := map_eq_some_iff.1 hsame
      exact ⟨s, Table.mem_of_find? hw⟩
    | _ => cases hsame
  | none =>
    rw [hsame] at h
    dsimp only at h
    split at h
    · cases h
    · obtain ⟨s, -, h⟩ := exists_of_bind_eq_ok h
      obtain ⟨p, hp, rfl⟩ := map_eq_some_iff.1 (Except.ok.inj h)
      exact ⟨p.1, mem_of_find?_eq_some hp⟩

theorem eq_some_of_filled? {o : Option Value} {v : Value} (h : filled? o = some v) :
    o = some v := by
  cases o with
  | none => cases h
  | some w =>
    rw [filled?] at h
    split at h
    · exact h
    · cases h

theorem exists_sprite_of_entry? {name v : Value} {o : Option Value}
    (h : entry? (ofRecords sprites tunes).sprites name = .ok o) (hv : filled? o = some v) :
    ∃ r ∈ sprites, v = r.toValue := by
  cases eq_some_of_filled? hv
  obtain ⟨k, hk⟩ := mem_of_entry? h
  obtain ⟨r, hr, hpair⟩ := List.mem_map.1 hk
  exact ⟨r, hr, (congrArg Prod.snd hpair).symm⟩

theorem isFiled_costumes? {cs : List Costume}
    (h : (ofRecords sprites tunes).costumes? name = .ok (some cs)) : ∀ c ∈ cs, IsFiled c.toValue := by
  obtain ⟨o, ho, h⟩ := exists_of_bind_eq_ok h
  split at h
  · cases h
  · next v hv =>
    obtain ⟨r, -, rfl⟩ := exists_sprite_of_entry? ho hv
    obtain ⟨items, hitems, h⟩ := exists_of_bind_eq_ok h
    obtain ⟨found, hfound, h⟩ := exists_of_bind_eq_ok h
    cases h
    cases hitems
    refine forall_of_mapM (fun a ha c hc => ?_) hfound
    obtain ⟨record, -, rfl⟩ := List.mem_map.1 ha
    exact isFiled_costumeOf record hc

theorem isFiled_sounds? {ss : List Sound}
    (h : (ofRecords sprites tunes).sounds? name = .ok (some ss)) : ∀ s ∈ ss, IsFiled s.toValue := by
  obtain ⟨o, ho, h⟩ := exists_of_bind_eq_ok h
  split at h
  · cases h
  · next v hv =>
    obtain ⟨r, -, rfl⟩ := exists_sprite_of_entry? ho hv
    obtain ⟨items, hitems, h⟩ := exists_of_bind_eq_ok h
    obtain ⟨found, hfound, h⟩ := exists_of_bind_eq_ok h
    cases h
    cases hitems
    refine forall_of_mapM (fun a ha s hs => ?_) hfound
    obtain ⟨record, -, rfl⟩ := List.mem_map.1 ha
    exact isFiled_soundOf record hs

theorem filed_tune? (h : (ofRecords sprites tunes).tune? name = .ok (some s)) :
    IsFiled s.toValue ∨ IsSqueezed tunes s.toValue := by
  obtain ⟨o, ho, h⟩ := exists_of_bind_eq_ok h
  split at h
  · cases h
  · next v hv =>
    cases eq_some_of_filled? hv
    obtain ⟨k, hk⟩ := mem_of_entry? ho
    obtain ⟨t, ht, hpair⟩ := List.mem_map.1 hk
    obtain ⟨found, hfound, h⟩ := exists_of_bind_eq_ok h
    cases h
    exact filed_tuneOf ht ((congrArg (tuneOf ·.2) hpair).trans hfound)

end Catalog

/-! ### Projects -/

theorem Action.ensures_ite_bind {α β : Type} {c : Prop} [Decidable c] {a b : Action α}
    {f : α → Action β} {P : β → Prop}
    (h : ∀ x, (if c then a else b).CanEnd (.ok x) → (f x).Ensures P) :
    (if c then a >>= f else b >>= f).Ensures P := by
  by_cases hc : c
  · rw [if_pos hc] at h ⊢
    exact ensures_bind h
  · rw [if_neg hc] at h ⊢
    exact ensures_bind h

namespace Assembly

open Action

variable {sprites : List SpriteRecord} {tunes : List TuneRecord}

theorem filed_of_publishedFor {name : Value} {sounds : List Sound}
    {found : List Costume × List Sound}
    (h : publishedFor (.ofRecords sprites tunes) name sounds = .ok found)
    (hsounds : ∀ s ∈ sounds, IsFiled s.toValue) :
    (∀ c ∈ found.1, IsFiled c.toValue) ∧ ∀ s ∈ found.2, IsFiled s.toValue := by
  have hnone : ∀ c ∈ ([] : List Costume), IsFiled c.toValue := fun c hc => by cases hc
  obtain ⟨full?, -, h⟩ := exists_of_bind_eq_ok h
  split at h
  · cases h
    exact ⟨hnone, hsounds⟩
  · next full =>
    split at h
    · cases h
      exact ⟨hnone, hsounds⟩
    · obtain ⟨costumes, hcostumes, h⟩ := exists_of_bind_eq_ok h
      have hshown : ∀ c ∈ costumes.getD [], IsFiled c.toValue := by
        cases costumes with
        | none => exact hnone
        | some cs => exact Catalog.isFiled_costumes? hcostumes
      split at h
      · obtain ⟨heard, hheard, h⟩ := exists_of_bind_eq_ok h
        cases h
        refine ⟨hshown, ?_⟩
        cases heard with
        | none => exact fun s hs => by cases hs
        | some ss => exact Catalog.isFiled_sounds? hheard
      · cases h
        exact ⟨hshown, hsounds⟩

/-- **Adding the sounds that scripts play**: each one comes from the catalog. -/
theorem filed_of_addUsed {c : Option Catalog} (hc : ∀ c' ∈ c, c' = .ofRecords sprites tunes)
    {taken : List String} {sounds heard : List Sound} {names : List Value}
    (h : addUsed c taken sounds names = .ok heard)
    (hsounds : ∀ s ∈ sounds, IsFiled s.toValue ∨ IsSqueezed tunes s.toValue) :
    ∀ s ∈ heard, IsFiled s.toValue ∨ IsSqueezed tunes s.toValue := by
  induction names generalizing taken sounds with
  | nil =>
    cases h
    exact hsounds
  | cons v rest ih =>
    rw [addUsed] at h
    obtain ⟨name, -, h⟩ := exists_of_bind_eq_ok h
    dsimp only at h
    split at h
    · exact ih h hsounds
    · cases c with
      | none => exact ih h hsounds
      | some c' =>
        cases hc c' rfl
        obtain ⟨found, hfound, h⟩ := exists_of_bind_eq_ok h
        cases found with
        | none => exact ih h hsounds
        | some s =>
          refine ih h fun s' hs' => ?_
          rcases mem_append.1 hs' with hs' | hs'
          · exact hsounds s' hs'
          · cases mem_singleton.1 hs'
            exact Catalog.filed_tune? hfound

section Declared

variable {α : Type} {kind : AssetKind} {load : Value → Action (Option (α × Bytes))} {P : α → Prop}

theorem loadOne_ensures {info : Value} (h : (load info).Ensures fun found => ∀ p ∈ found, P p.1) :
    (loadOne kind load info).Ensures fun found => ∀ p ∈ found, P p.1 := by
  refine ensures_bind fun r hr => ?_
  obtain ⟨r', hr', hend⟩ := canEnd_andThen hr
  cases hend
  cases r with
  | ok found => exact ensures_pure (h found hr')
  | error e =>
    refine ensures_bind fun name _ => ensures_bind fun text _ => ensures_bind fun _ _ => ?_
    exact ensures_pure fun p hp => by cases hp

theorem loadListed_ensures (h : ∀ info, (load info).Ensures fun found => ∀ p ∈ found, P p.1)
    (settings : Value) (key : String) :
    (loadListed kind load settings key).Ensures fun found => ∀ x ∈ found.map (·.1), P x := by
  refine ensures_bind fun listed _ => ?_
  split
  · refine ensures_bind fun infos _ => ensures_bind fun found hfound => ensures_pure ?_
    intro x hx
    obtain ⟨p, hp, rfl⟩ := List.mem_map.1 hx
    obtain ⟨o, ho, hop⟩ := mem_filterMap.1 hp
    obtain ⟨info, -, hend⟩ := canEnd_each hfound o ho
    exact loadOne_ensures (h info) o hend p hop
  · exact ensures_pure fun x hx => by cases hx

end Declared

theorem backdropOf_filed (base info : Value) :
    (backdropOf base info).Ensures fun found => ∀ p ∈ found, IsFiled p.1.toValue := by
  refine ensures_bind fun svg _ => ?_
  split
  · refine ensures_bind fun name _ => ensures_bind fun found hfound => ensures_pure ?_
    rintro p ⟨⟩
    exact backdropDrawing_filed (eq_of_canEnd_lift hfound).symm
  · refine ensures_bind fun path _ => ?_
    split
    · refine ensures_bind fun name _ => ensures_bind fun found hfound => ensures_pure ?_
      rintro p ⟨⟩
      exact backdropFile_filed _ _ _ _ hfound
    · exact ensures_pure fun p hp => by cases hp

theorem costumeOf_filed (base info : Value) :
    (costumeOf base info).Ensures fun found => ∀ p ∈ found, IsFiled p.1.toValue := by
  refine ensures_bind fun svg _ => ?_
  split
  · refine ensures_bind fun name _ => ensures_bind fun x _ => ensures_bind fun y _ => ?_
    refine ensures_bind fun found hfound => ensures_pure ?_
    rintro p ⟨⟩
    exact costumeDrawing_filed (eq_of_canEnd_lift hfound).symm
  · refine ensures_bind fun path _ => ?_
    split
    · refine ensures_bind fun name _ => ensures_bind fun x _ => ensures_bind fun y _ => ?_
      refine ensures_bind fun found hfound => ensures_pure ?_
      rintro p ⟨⟩
      exact costumeFile_filed _ _ _ _ _ _ hfound
    · exact ensures_pure fun p hp => by cases hp

theorem soundOf_filed (base info : Value) :
    (soundOf base info).Ensures fun found => ∀ p ∈ found, IsFiled p.1.toValue := by
  refine ensures_bind fun path _ => ?_
  split
  · refine ensures_bind fun name _ => ensures_bind fun found hfound => ensures_pure ?_
    rintro p ⟨⟩
    exact soundFile_filed _ _ _ _ hfound
  · exact ensures_pure fun p hp => by cases hp

/-- Everything on the stage is filed. -/
theorem stageOf_filed (base settings : Value) :
    (stageOf base settings).Ensures fun s =>
      (∀ c ∈ s.1.backdrops, IsFiled c.toValue) ∧ ∀ x ∈ s.1.sounds, IsFiled x.toValue := by
  refine ensures_bind fun declared _ => ensures_bind fun backdrops hbackdrops => ?_
  refine ensures_bind fun sounds hsounds => ensures_bind fun tempo _ => ?_
  refine ensures_bind fun volume _ => ensures_pure ⟨?_, ?_⟩
  · dsimp only
    split
    · exact loadListed_ensures (backdropOf_filed base) _ _ _ hbackdrops
    · intro c hc
      cases mem_singleton.1 hc
      exact isFiled_plainBackdrop
  · exact loadListed_ensures (soundOf_filed base) _ _ _ hsounds

theorem declaredOf_filed (base settings : Value) (p : Pose) :
    (declaredOf base settings p).Ensures fun found =>
      (∀ c ∈ found.1.map (·.1), IsFiled c.toValue) ∧
        ∀ s ∈ found.2.1.map (·.1), IsFiled s.toValue := by
  refine ensures_bind fun costumes hcostumes => ensures_bind fun sounds hsounds => ?_
  refine ensures_bind fun pose _ => ensures_pure ⟨?_, ?_⟩
  · exact loadListed_ensures (costumeOf_filed base) _ _ _ hcostumes
  · exact loadListed_ensures (soundOf_filed base) _ _ _ hsounds

/-- The costumes and the sounds are filed. -/
def AllFiled (found : List Costume × List Sound) : Prop :=
  (∀ c ∈ found.1, IsFiled c.toValue) ∧ ∀ s ∈ found.2, IsFiled s.toValue

/-- **The assets of a sprite** are filed, unless they are published sounds whose samples are stored
as differences. -/
theorem spriteOf_filed {r : Option Resources}
    (hr : ∀ r' ∈ r, r'.catalog = .ofRecords sprites tunes) (base : Value) (i : Nat)
    (target : Value) :
    (spriteOf r base i target).Ensures fun s =>
      (∀ c ∈ s.1.costumes, IsFiled c.toValue) ∧
        ∀ x ∈ s.1.sounds, IsFiled x.toValue ∨ IsSqueezed tunes x.toValue := by
  refine ensures_bind fun name _ => ensures_bind fun settings _ => ?_
  dsimp only
  refine ensures_ite_bind fun declared hdeclared => ?_
  obtain ⟨costumes, sounds, pose⟩ := declared
  have hown : AllFiled (costumes.map (·.1), sounds.map (·.1)) := by
    split at hdeclared
    · exact declaredOf_filed _ _ _ _ hdeclared
    · cases hdeclared
      exact ⟨fun c hc => (by cases hc), fun s hs => by cases hs⟩
  have hcatalog : ∀ c ∈ r.map (·.catalog), c = .ofRecords sprites tunes := by
    intro c hc
    obtain ⟨r', hr', rfl⟩ := map_eq_some_iff.1 hc
    exact hr r' hr'
  have hpublished : ∀ r' ∈ r, ∀ found, (lift (publishedFor r'.catalog name
      (sounds.map (·.1)))).CanEnd (.ok found) → AllFiled found := by
    intro r' hr' found hend
    have hfound := (eq_of_canEnd_lift hend).symm
    rw [hr r' hr'] at hfound
    exact filed_of_publishedFor hfound hown.2
  dsimp only
  split <;> refine ensures_bind fun found hfound => ?_
  case' h_1 => have hfiled := hpublished _ rfl found hfound
  case' h_2 =>
    have hfiled : AllFiled found := by
      cases hfound
      exact hown
  -- However they were found, only a sound that is played can be different.
  all_goals
    refine ensures_bind fun used _ => ensures_bind fun taken _ => ensures_bind fun names _ => ?_
    refine ensures_bind fun played hplayed => ensures_bind fun vars _ => ?_
    refine ensures_bind fun lists _ => ensures_bind fun broadcasts _ => ?_
    refine ensures_bind fun blocks _ => ensures_pure ⟨?_, ?_⟩
    · dsimp only
      split
      · exact isFiled_catCostumes
      · exact hfiled.1
    · exact filed_of_addUsed hcatalog (eq_of_canEnd_lift hplayed).symm
        fun s hs => .inl (hfiled.2 s hs)

/-- **The assets of a project**, for every result of a compilation. -/
theorem ofResult_filed {r : Option Resources}
    (hr : ∀ r' ∈ r, r'.catalog = .ofRecords sprites tunes) (base result : Value) :
    (ofResult r base result).Ensures fun a =>
      AllFiled (a.project.stage.backdrops, a.project.stage.sounds) ∧
      ∀ s ∈ a.project.sprites, (∀ c ∈ s.costumes, IsFiled c.toValue) ∧
        ∀ x ∈ s.sounds, IsFiled x.toValue ∨ IsSqueezed tunes x.toValue := by
  rw [ofResult]
  dsimp only
  refine ensures_ite_bind fun stage hstage => ensures_bind fun items hitems => ?_
  refine ensures_bind fun found hfound => ensures_pure ⟨?_, ?_⟩
  · split at hstage
    · exact stageOf_filed _ _ _ hstage
    · cases hstage
      refine ⟨fun c hc => ?_, fun x hx => by cases hx⟩
      cases mem_singleton.1 hc
      exact isFiled_plainBackdrop
  · intro s hs
    obtain ⟨p, hp, rfl⟩ := List.mem_map.1 hs
    obtain ⟨item, -, hend⟩ := canEnd_each hfound p hp
    exact spriteOf_filed hr _ _ _ _ hend

end Assembly

/-! ### Descriptions of projects -/

/-- An asset that is listed under a key of some target in the description of a project. -/
def IsListed (project : Value) (key : String) (v : Value) : Prop :=
  ∃ targets t vs, project.key "targets" = .ok (.list targets) ∧ t ∈ targets ∧
    t.key key = .ok (.list vs) ∧ v ∈ vs

theorem Project.isListed_cases {p : Project} {key : String} {v : Value}
    (h : IsListed p.toValue key v) :
    (∃ vs, p.stage.toValue.key key = .ok (.list vs) ∧ v ∈ vs) ∨
      ∃ s ∈ p.sprites, ∃ vs, s.toValue.key key = .ok (.list vs) ∧ v ∈ vs := by
  obtain ⟨targets, t, vs, htargets, ht, hvs, hv⟩ := h
  cases htargets
  rcases mem_cons.1 ht with rfl | ht
  · exact .inl ⟨vs, hvs, hv⟩
  · obtain ⟨s, hs, rfl⟩ := List.mem_map.1 ht
    exact .inr ⟨s, hs, vs, hvs, hv⟩

/-- The published catalog with a directory for its files, if there is one. -/
def Resources.publishedIn (cache : Option String) : Option Resources :=
  cache.map fun directory => ⟨.published, directory⟩

/-- **Assets are stored under their digest and format**, except for exactly the published sounds
whose samples are stored as differences. This holds for every program, whatever files there are. -/
theorem Assembly.filed_of_ofSource (cache : Option String) (base : Value) (issued : Nat)
    (source : String) :
    (ofSource (Resources.publishedIn cache) base issued source).Ensures fun a =>
      (∀ v, IsListed a.1.project.toValue "costumes" v → IsFiled v) ∧
      ∀ v, IsListed a.1.project.toValue "sounds" v →
        (¬IsFiled v ↔ IsSqueezed Catalog.publishedSounds v) := by
  have hcatalog : ∀ r ∈ Resources.publishedIn cache,
      r.catalog = .ofRecords Catalog.publishedSprites Catalog.publishedSounds := by
    intro r hr
    obtain ⟨directory, -, rfl⟩ := Option.map_eq_some_iff.1 hr
    rfl
  refine Action.ensures_bind fun c _ => Action.ensures_bind fun a ha => Action.ensures_pure ?_
  obtain ⟨hstage, hsprites⟩ := ofResult_filed hcatalog _ _ a ha
  refine ⟨fun v hv => ?_, fun v hv => ?_⟩
  all_goals
    obtain ⟨vs, hvs, hv⟩ | ⟨s, hs, vs, hvs, hv⟩ := Project.isListed_cases hv
    all_goals
      cases hvs
      obtain ⟨x, hx, rfl⟩ := List.mem_map.1 hv
  · exact hstage.1 x hx
  · exact (hsprites s hs).1 x hx
  · refine ⟨fun h => absurd (hstage.2 x hx) h, IsSqueezed.not_isFiled⟩
  · exact ⟨((hsprites s hs).2 x hx).resolve_left, IsSqueezed.not_isFiled⟩

/-- The result of an action that asks for nothing. -/
def Action.result? {α : Type} : Action α → Option α
  | .done (.ok x) => some x
  | _ => none

theorem Action.eq_done_of_result? {α : Type} {a : Action α} {x : α} (h : a.result? = some x) :
    a = .done (.ok x) := by
  cases a with
  | done r =>
    cases r with
    | ok y => exact congrArg (fun y => done (.ok y)) (some.inj h)
    | error e => cases h
  | ask request next => cases h

/-- A program that plays a published sound. -/
def tromboneSource : String :=
  "class Abby:\n" ++
  " def when_flag_clicked(self):\n" ++
  "  play_sound(\"A Trombone\")\n"

/-- A published sound is listed with a format that is not the extension of its file. -/
theorem not_isFiled_tromboneSource :
    ∃ a v, Assembly.ofSource (Resources.publishedIn (some "cache")) .null 0 tromboneSource =
        .done (.ok a) ∧
      IsListed a.1.project.toValue "sounds" v ∧ ¬IsFiled v ∧
      fileOf? v = some ("863ccc8ba66e6dabbce2a1261c22be0f", "adpcm",
        "863ccc8ba66e6dabbce2a1261c22be0f.wav") := by
  have hseen : (Assembly.ofSource (Resources.publishedIn (some "cache")) .null 0
      tromboneSource).result?.map (·.1.project.sprites.any fun s => s.sounds.any fun x =>
        fileOf? x.toValue == some ("863ccc8ba66e6dabbce2a1261c22be0f", "adpcm",
          "863ccc8ba66e6dabbce2a1261c22be0f.wav")) = some true := by
    decide +kernel
  obtain ⟨a, ha, hany⟩ := Option.map_eq_some_iff.1 hseen
  obtain ⟨s, hs, hany⟩ := List.any_eq_true.1 hany
  obtain ⟨x, hx, hany⟩ := List.any_eq_true.1 hany
  have hfile := beq_iff_eq.1 hany
  refine ⟨a, x.toValue, Action.eq_done_of_result? ha, ?_, ?_, hfile⟩
  · exact ⟨_, s.toValue, _, rfl, .tail _ (List.mem_map_of_mem hs), rfl,
      List.mem_map_of_mem hx⟩
  · exact not_isFiled_of_fileOf? hfile (by decide)

end BlockScript
