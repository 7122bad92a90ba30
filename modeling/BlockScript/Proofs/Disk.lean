import BlockScript.Proofs.DeclaredAssets

/-!
# Files that are added

What a path leads to when files and directories are added. The way to a file stays open
(`Host.place_grows`), so a file that is not replaced is found again at the same path.
-/

namespace BlockScript

/-- The file that a place is, or can become. -/
def Place.file? : Place → Option String
  | file full _ => some full
  | vacant full => some full
  | _ => none

def Place.isPresent : Place → Bool
  | file _ _ => true
  | directory => true
  | _ => false

namespace Host

variable {h h' h'' : Host} {path full : String} {b : Bytes}

/-- What stands at a path from the root, if there is a way there. -/
def look (h : Host) (full : String) : Place :=
  match h.files.find? full with
  | some contents => .file full contents
  | none => if h.hasDirectory full then .directory else .vacant full

def store (h : Host) (full : String) (c : Bytes) : Host := { h with files := h.files.set full c }

def addDirectory (h : Host) (full : String) : Host :=
  { h with directories := h.directories ++ [full] }

/-- What is a directory remains one. -/
structure Grows (h h' : Host) : Prop where
  here : h'.here = h.here
  directory : ∀ p, h.hasDirectory p → h'.hasDirectory p
  absent : ∀ p, h.hasDirectory p → h.files.find? p = none → h'.files.find? p = none

/-- Files and directories are only added. -/
structure Keeps (h h' : Host) : Prop extends Grows h h' where
  files : ∀ p b, h.files.find? p = some b → h'.files.find? p = some b

theorem keeps_of_disk (hh : h'.disk = h.disk) : h.Keeps h' := by
  obtain ⟨hhere, hfiles, -⟩ := Host.mk.inj hh
  have hdir (p : String) : h'.disk.hasDirectory p = h.disk.hasDirectory p := by rw [hh]
  exact ⟨⟨hhere, fun p hp => (hdir p).trans hp, fun _ _ hn => hfiles ▸ hn⟩,
    fun _ _ hb => hfiles ▸ hb⟩

theorem Keeps.trans (h₁ : h.Keeps h') (h₂ : h'.Keeps h'') : h.Keeps h'' where
  here := h₂.here.trans h₁.here
  directory p hp := h₂.directory p (h₁.directory p hp)
  absent p hp hn := h₂.absent p (h₁.directory p hp) (h₁.absent p hp hn)
  files p b hb := h₂.files p b (h₁.files p b hb)

/-- The end of a path can change, but not the way there. -/
theorem follow_grows (hgrows : h.Grows h') (dir ps : List String) :
    (h.follow dir ps = .directory → h'.follow dir ps = .directory) ∧
      ∀ full, (h.follow dir ps).file? = some full → h'.follow dir ps = h'.look full := by
  induction ps generalizing dir with
  | nil => exact ⟨fun _ => rfl, fun _ hp => (by cases hp)⟩
  | cons piece rest ih =>
    rw [Host.follow, Host.follow]
    split
    · exact ih dir
    split
    · exact ih _
    dsimp only
    cases hfile : h.files.find? (pathText (dir ++ [piece])) with
    | some contents =>
      refine ⟨fun hp => ?_, fun full hfull => ?_⟩ <;> cases rest
      · cases hp
      · cases hp
      · cases hfull
        rfl
      · cases hfull
    | none =>
      by_cases hdir : h.hasDirectory (pathText (dir ++ [piece]))
      · rw [if_pos hdir, hgrows.absent _ hdir hfile, if_pos (hgrows.directory _ hdir)]
        exact ih _
      rw [if_neg hdir]
      refine ⟨fun hp => ?_, fun full hfull => ?_⟩ <;> cases rest
      · cases hp
      · cases hp
      · cases hfull
        rfl
      · cases hfull

theorem place_grows (hgrows : h.Grows h') (path : String) :
    (h.place path = .directory → h'.place path = .directory) ∧
      ∀ full, (h.place path).file? = some full → h'.place path = h'.look full := by
  unfold Host.place
  split
  · exact ⟨fun hp => (by cases hp), fun _ hp => (by cases hp)⟩
  · rw [hgrows.here]
    exact follow_grows hgrows _ _

theorem place_eq_look (hfull : (h.place path).file? = some full) : h.place path = h.look full :=
  (place_grows (keeps_of_disk rfl).toGrows path).2 full hfull

theorem find?_of_place (hp : h.place path = .file full b) : h.files.find? full = some b := by
  have hlook := place_eq_look (h := h) (by rw [hp]; rfl)
  rw [hp, look] at hlook
  cases hfile : h.files.find? full with
  | some c =>
    rw [hfile] at hlook
    cases hlook
    rfl
  | none =>
    rw [hfile] at hlook
    dsimp only at hlook
    split at hlook <;> cases hlook

theorem find?_of_vacant (hp : h.place path = .vacant full) : h.files.find? full = none := by
  have hlook := place_eq_look (h := h) (by rw [hp]; rfl)
  rw [hp, look] at hlook
  cases hfile : h.files.find? full with
  | some c =>
    rw [hfile] at hlook
    cases hlook
  | none => rfl

theorem Keeps.place_file (hkeeps : h.Keeps h') (hp : h.place path = .file full b) :
    h'.place path = .file full b := by
  rw [(place_grows hkeeps.toGrows path).2 full (by rw [hp]; rfl), look,
    hkeeps.files _ _ (find?_of_place hp)]

theorem Keeps.isPresent (hkeeps : h.Keeps h') (hp : (h.place path).isPresent) :
    (h'.place path).isPresent := by
  cases hplace : h.place path with
  | file full b => rw [hkeeps.place_file hplace]; rfl
  | directory => rw [(place_grows hkeeps.toGrows path).1 hplace]; rfl
  | vacant | nowhere | blocked =>
    rw [hplace] at hp
    cases hp

theorem hasDirectory_mono (hhere : h'.here = h.here) (hdirs : h.directories ⊆ h'.directories)
    (hkeys : h.files.keys ⊆ h'.files.keys) (p : String) (hp : h.hasDirectory p) :
    h'.hasDirectory p := by
  rw [hasDirectory, Bool.or_eq_true, List.contains_iff_mem, List.any_eq_true] at hp ⊢
  rw [hhere]
  rcases hp with hp | ⟨k, hk, hstart⟩
  · exact .inl (hdirs hp)
  · exact .inr ⟨k, List.cons_subset_cons _ hkeys hk, hstart⟩

/-- A file is created or replaced. -/
theorem grows_store (hfull : (h.place path).file? = some full) (c : Bytes) :
    h.Grows (h.store full c) where
  here := rfl
  directory := by
    refine hasDirectory_mono rfl (.refl _) fun k hk => ?_
    obtain ⟨v, hv⟩ := Table.mem_keys_iff.1 hk
    rw [store, Table.mem_keys_iff, Table.find?_set]
    split
    · exact ⟨c, rfl⟩
    · exact ⟨v, hv⟩
  absent p hp hn := by
    rwa [store, Table.find?_set_of_ne]
    -- no directory has the name of the file
    rintro rfl
    rw [place_eq_look hfull, look, hn, if_pos hp] at hfull
    cases hfull

theorem place_store (hfull : (h.place path).file? = some full) (c : Bytes) :
    (h.store full c).place path = .file full c := by
  rw [(place_grows (grows_store hfull c) path).2 full hfull, look, store, Table.find?_set_self]

theorem keeps_store (hvacant : h.place path = .vacant full) (c : Bytes) :
    h.Keeps (h.store full c) where
  toGrows := grows_store (by rw [hvacant]; rfl) c
  files p b hb := by
    rwa [store, Table.find?_set_of_ne]
    rintro rfl
    rw [find?_of_vacant hvacant] at hb
    cases hb

theorem keeps_addDirectory (hvacant : h.place path = .vacant full) :
    h.Keeps (h.addDirectory full) ∧ (h.addDirectory full).place path = .directory := by
  have hkeeps : h.Keeps (h.addDirectory full) :=
    { here := rfl
      directory := hasDirectory_mono rfl (List.subset_append_left _ _) (.refl _)
      absent := fun _ _ hn => hn
      files := fun _ _ hb => hb }
  refine ⟨hkeeps, ?_⟩
  rw [(place_grows hkeeps.toGrows path).2 full (by rw [hvacant]; rfl), look,
    show (h.addDirectory full).files = h.files from rfl, find?_of_vacant hvacant]
  refine if_pos ?_
  rw [hasDirectory, Bool.or_eq_true, List.contains_iff_mem]
  exact .inl (List.mem_append_right _ (List.mem_singleton_self _))

/-! ### Answers -/

theorem run_present (path : String) (h : Host) :
    (Action.present path).run h = (.ok (h.place path).isPresent, h) := by
  simp only [Action.present, Action.run, answer]
  cases h.place path <;> rfl

theorem run_read (hp : h.place path = .file full b) : (Action.read path).run h = (.ok b, h) := by
  simp only [Action.read, Action.run, answer, hp]

theorem run_write (hfull : (h.place path).file? = some full) (c : Bytes) :
    (Action.write path c).run h = (.ok (), h.store full c) := by
  rw [Action.write, Action.run, answer]
  cases hplace : h.place path with
  | file | vacant =>
    rw [hplace] at hfull
    cases hfull
    rfl
  | directory | nowhere | blocked =>
    rw [hplace] at hfull
    cases hfull

theorem run_write_fails (hnone : (h.place path).file? = none) (c : Bytes) :
    (Action.write path c).run h = (.error (fault path (h.place path)), h) := by
  rw [Action.write, Action.run, answer]
  cases hplace : h.place path with
  | file | vacant =>
    rw [hplace] at hnone
    cases hnone
  | directory | nowhere | blocked => rfl

end Host

end BlockScript
