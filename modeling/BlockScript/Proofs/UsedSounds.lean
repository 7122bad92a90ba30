import BlockScript.Host
import BlockScript.Proofs.StoredNames

/-!
# The sounds that scripts play

A sound that a script plays is added to its sprite from the catalog, unless the sprite has a sound of
that name. Names are compared without regard to case, and the names of the sounds that were added
count as well, so that a sound is added once even if scripts play it under several spellings.

If each entry of the catalog has the name under which it is kept, and no two names are the same up to
case, then the sounds that are added are those whose names are played and not taken
(`Assembly.exists_addUsed`). The order in which the names are gone through decides on their order and
on nothing else (`Assembly.spriteOf_plays`).
-/

namespace BlockScript

open List Text Value

namespace Catalog

/-- The entries of a table of sounds can be read and have the names under which they are kept. No two
of the names are the same up to case. -/
structure Keyed (t : Table Value) : Prop where
  reads : ∀ p ∈ t, ∃ s, tuneOf p.2 = .ok s ∧ s.name = .str p.1
  apart : (t.map fun p => Text.lower p.1).Nodup

/-- The sounds with some names, up to case, except for names that are taken. -/
def wanted (t : Table Value) (names taken : List String) : List Sound :=
  (t.filter fun p => Text.lower p.1 ∈ names.map Text.lower ∧ Text.lower p.1 ∉ taken).filterMap
    fun p => (tuneOf p.2).toOption

/-- The sounds have names that are different without regard to case. -/
def Apart (a b : Sound) : Prop :=
  ∃ m n, a.name = .str m ∧ b.name = .str n ∧ Text.lower m ≠ Text.lower n

variable {t : Table Value} {p : String × Value} {name : String} {names taken : List String}

theorem truthy_of_tuneOf {v : Value} {s : Sound} (h : tuneOf v = .ok s) : v.truthy = true := by
  obtain ⟨assetId, hkey, -⟩ := exists_of_bind_eq_ok h
  cases v with
  | dict entries =>
    cases entries with
    | nil => cases hkey
    | cons p rest => rfl
  | _ => cases hkey

namespace Keyed

theorem sameLower?_eq (ht : Keyed t) (hp : p ∈ t) :
    sameLower? t (lower p.1) = some p := by
  cases hfound : sameLower? t (lower p.1) with
  | none => exact absurd (beq_self_eq_true _) (find?_eq_none.1 hfound p hp)
  | some q =>
    have hq := mem_of_find?_eq_some hfound
    have hlower : lower q.1 = lower p.1 := by simpa using find?_some hfound
    rw [inj_on_of_nodup_map ht.apart hq hp hlower]

/-- A sound is looked up by its name in small letters. -/
theorem tune?_str {c : Catalog} (hc : Keyed c.sounds) (name : String) :
    c.tune? (.str name) =
      .ok ((sameLower? c.sounds (lower name)).bind fun p => (tuneOf p.2).toOption) := by
  have hentry : entry? c.sounds (.str name) =
      .ok ((sameLower? c.sounds (lower name)).map (·.2)) := by
    cases hfind : c.sounds.find? name with
    | some v =>
      rw [hc.sameLower?_eq (Table.mem_of_find? hfind)]
      simp [ entry?, checkKey, hashable, sameName?, hfind, bind, Except.bind]
    | none =>
      cases hsounds : c.sounds with
      | nil => rfl
      | cons p rest =>
        rw [hsounds] at hfind
        simp [ entry?, checkKey, hashable, sameName?, hfind, bind, Except.bind, asText]
  cases hsame : sameLower? c.sounds (lower name) with
  | none =>
    rw [tune?, hentry, hsame]
    rfl
  | some p =>
    obtain ⟨s, hs, -⟩ := hc.reads p (mem_of_find?_eq_some hsame)
    rw [tune?, hentry, hsame]
    simp [bind, Except.bind, filled?, truthy_of_tuneOf hs, hs, Except.toOption]

/-- A name that is taken, or that no sound has, adds nothing. -/
theorem wanted_cons_of_not (h : ∀ p ∈ t, lower p.1 = lower name → lower name ∈ taken) :
    wanted t (name :: names) taken = wanted t names taken := by
  refine congrArg (filterMap _) (filter_congr fun p hp => ?_)
  simp only [map_cons, mem_cons, decide_eq_decide]
  refine and_congr_left fun htaken => or_iff_right fun hname => htaken ?_
  rw [hname]
  exact h p hp hname

/-- A name that is not taken adds its sound, and is taken from then on. -/
theorem wanted_cons_perm (ht : Keyed t) (hp : p ∈ t)
    (hname : lower p.1 = lower name) (hfree : lower name ∉ taken) {s : Sound}
    (hs : tuneOf p.2 = .ok s) :
    (s :: wanted t names (lower name :: taken)).Perm (wanted t (name :: names) taken) := by
  have hentries : (p :: t.filter fun q => lower q.1 ∈ names.map lower ∧
      lower q.1 ∉ lower name :: taken).Perm
      (t.filter fun q => lower q.1 ∈ (name :: names).map lower ∧
        lower q.1 ∉ taken) := by
    have hnodup := ht.apart.of_map
    refine (perm_ext_iff_of_nodup (nodup_cons.2 ⟨?_, hnodup.filter _⟩)
      (hnodup.filter _)).2 fun q => ?_
    · simp [hname]
    · simp only [map_cons, mem_cons, mem_filter, decide_eq_true_eq, not_or]
      constructor
      · rintro (rfl | ⟨hq, hplayed, -, hq'⟩)
        · exact ⟨hp, .inl hname, hname ▸ hfree⟩
        · exact ⟨hq, .inr hplayed, hq'⟩
      · rintro ⟨hq, hplayed, hq'⟩
        by_cases hlower : lower q.1 = lower name
        · exact .inl (inj_on_of_nodup_map ht.apart hq hp (hlower.trans hname.symm))
        · exact .inr ⟨hq, hplayed.resolve_left hlower, hlower, hq'⟩
  have hsounds := hentries.filterMap fun q => (tuneOf q.2).toOption
  rwa [filterMap_cons_some (by rw [hs]; rfl)] at hsounds

theorem pairwise_wanted (ht : Keyed t) (names taken : List String) :
    (wanted t names taken).Pairwise Apart := by
  have hlower : t.Pairwise fun p q => lower p.1 ≠ lower q.1 := pairwise_map.1 ht.apart
  refine pairwise_filterMap.2 ((hlower.imp_of_mem ?_).filter _)
  intro p q hp hq hne a ha b hb
  obtain ⟨a', ha', hname⟩ := ht.reads p hp
  obtain ⟨b', hb', hname'⟩ := ht.reads q hq
  rw [ha'] at ha
  rw [hb'] at hb
  cases ha
  cases hb
  exact ⟨_, _, hname, hname', hne⟩

end Keyed

end Catalog

namespace Assembly

open Catalog

/-- **The sounds that are added** are those that are played and whose names are not taken. -/
theorem exists_addUsed {c : Catalog} (hc : Keyed c.sounds) (taken : List String)
    (sounds : List Sound) (names : List String) :
    ∃ added, addUsed (some c) taken sounds (names.map .str) = .ok (sounds ++ added) ∧
      added.Perm (wanted c.sounds names taken) := by
  induction names generalizing taken sounds with
  | nil => exact ⟨[], by simp [addUsed], by simp [wanted]⟩
  | cons name names ih =>
    have htune := hc.tune?_str name
    rw [map_cons, addUsed]
    simp only [asText, bind, Except.bind, htune]
    split
    · next htaken =>
      rw [Keyed.wanted_cons_of_not fun p hp hname => by simpa using htaken]
      exact ih taken sounds
    · next htaken =>
      cases hsame : sameLower? c.sounds (lower name) with
      | none =>
        rw [Keyed.wanted_cons_of_not fun p hp hname => ?_]
        · exact ih taken sounds
        · rw [← hname, hc.sameLower?_eq hp] at hsame
          cases hsame
      | some p =>
        have hp := mem_of_find?_eq_some hsame
        have hname : lower p.1 = lower name := by simpa using find?_some hsame
        obtain ⟨s, hs, -⟩ := hc.reads p hp
        obtain ⟨added, hadded, hperm⟩ := ih (lower name :: taken) (sounds ++ [s])
        refine ⟨s :: added, ?_, (hperm.cons s).trans (hc.wanted_cons_perm hp hname ?_ hs)⟩
        · simpa [hs, Except.toOption] using hadded
        · simpa using htaken

/-! ### Sprites -/

/-- The sprite that is made if some sounds are played is the one that is made if none is, with the
sounds that are wanted in addition. -/
def Plays (c : Catalog) (a : List String → Action (Sprite × List (String × Bytes))) : Prop :=
  ∀ h s assets h', (a []).run h = (.ok (s, assets), h') →
    ∃ taken, loweredNames s.sounds = .ok taken ∧ ∀ names, ∃ added,
      (a names).run h = (.ok ({ s with sounds := s.sounds ++ added }, assets), h') ∧
        added.Perm (wanted c.sounds names taken)

section Plays

variable {c : Catalog} {a b : List String → Action (Sprite × List (String × Bytes))}

theorem plays_bind {α : Type} {first : Action α}
    {f : α → List String → Action (Sprite × List (String × Bytes))} (hf : ∀ x, Plays c (f x)) :
    Plays c fun names => first >>= fun x => f x names := by
  intro h s assets h' hrun
  rcases hfirst : first.run h with ⟨_ | x, h₁⟩
  · rw [Action.run_bind_of_error hfirst] at hrun
    cases hrun
  · rw [Action.run_bind_of_ok hfirst] at hrun
    simpa only [Action.run_bind_of_ok hfirst] using hf x h₁ s assets h' hrun

theorem plays_ite {p : Prop} [Decidable p] (ha : Plays c a) (hb : Plays c b) :
    Plays c fun names => if p then a names else b names := by
  by_cases hp : p
  · simpa only [if_pos hp] using ha
  · simpa only [if_neg hp] using hb

/-- The last step: the sounds are added to those that are there. -/
theorem plays_add (hc : Keyed c.sounds) (s : Sprite) (assets : List (String × Bytes)) :
    Plays c fun names => (do
      let taken ← Action.lift (loweredNames s.sounds)
      let played ← Action.lift (addUsed (some c) taken s.sounds (names.map .str))
      pure ({ s with sounds := played }, assets) : Action (Sprite × List (String × Bytes))) := by
  intro h s' assets' h' hrun
  cases htaken : loweredNames s.sounds with
  | error e =>
    rw [htaken] at hrun
    cases hrun
  | ok taken =>
    rw [htaken] at hrun
    cases hrun
    refine ⟨taken, htaken, fun names => ?_⟩
    obtain ⟨added, hadded, hperm⟩ := exists_addUsed hc taken s.sounds names
    refine ⟨added, ?_, hperm⟩
    change (Action.lift (addUsed (some c) taken s.sounds (names.map .str)) >>= _).run h = _
    rw [hadded]
    rfl

end Plays

/-- The description of a target whose scripts play some sounds. -/
def playing (entries : Table Value) (names : List String) : Value :=
  .dict (entries.set "sounds_used" (.list (names.map .str)))

theorem plays_spriteOf {r : Resources} (hr : Keyed r.catalog.sounds) (base : Value) (i : Nat)
    (entries : Table Value) :
    Plays r.catalog fun names => spriteOf (some r) base i (playing entries names) := by
  have hlift {α β : Type} (x : α) (f : α → Action β) : (Action.lift (.ok x) >>= f) = f x := rfl
  simp only [spriteOf, playing, Value.get, Value.getD, Value.iterate, Table.find?_set,
    String.reduceEq, if_false, if_true, Option.getD_some, hlift]
  refine plays_ite (plays_bind fun found => ?_) (plays_bind fun found => ?_)
  all_goals
    cases found.1.map (·.1) with
    | nil => exact plays_bind fun shown => plays_add hr { sounds := shown.2, .. } _
    | cons costume rest => exact plays_bind fun shown => plays_add hr { sounds := shown.2, .. } _

/-- **A sound that is played is added once.** The sprite has the sounds that it has anyway, and after
them those of the catalog that are played under some spelling and whose names are not taken, each of
them once. In whatever order the names are gone through, these are the same. -/
theorem spriteOf_plays {r : Resources} (hr : Keyed r.catalog.sounds) (base : Value) (i : Nat)
    (entries : Table Value) {h h' : Host} {s : Sprite} {assets : List (String × Bytes)}
    (hrun : (spriteOf (some r) base i (playing entries [])).run h = (.ok (s, assets), h')) :
    ∃ (taken : List String) (added : List String → List Sound), loweredNames s.sounds = .ok taken ∧
      (∀ names, (spriteOf (some r) base i (playing entries names)).run h =
          (.ok ({ s with sounds := s.sounds ++ added names }, assets), h') ∧
        (added names).Perm (wanted r.catalog.sounds names taken) ∧
        (added names).Pairwise Apart) ∧
      ∀ names names', names.Perm names' → (added names).Perm (added names') := by
  obtain ⟨taken, htaken, hplayed⟩ := plays_spriteOf hr base i entries h s assets h' hrun
  choose added hadded hperm using hplayed
  have happart : ∀ a b, Apart a b → Apart b a := by
    rintro a b ⟨m, n, hm, hn, hne⟩
    exact ⟨n, m, hn, hm, hne.symm⟩
  refine ⟨taken, added, htaken, fun names => ⟨hadded names, hperm names, ?_⟩, ?_⟩
  · exact ((hperm names).pairwise_iff (happart _ _)).2 (hr.pairwise_wanted names taken)
  · intro names names' hnames
    have hsame : wanted r.catalog.sounds names taken = wanted r.catalog.sounds names' taken := by
      simp only [wanted, (hnames.map Text.lower).mem_iff]
    exact (hperm names).trans (hsame ▸ (hperm names').symm)

/-- A catalog with two sounds and no sprites. -/
def bellsAndBirds : Resources where
  cache := "cache"
  catalog :=
    { sprites := []
      sounds := [("Bell", .dict [("name", .str "Bell"), ("assetId", .str "b1")]),
        ("Bird", .dict [("name", .str "Bird"), ("assetId", .str "b2")])] }

theorem spriteOf_plays_bell :
    ∃ s assets h' added, (spriteOf (some bellsAndBirds) .null 0 (playing [] [])).run { here := [] } =
        (.ok (s, assets), h') ∧
      (spriteOf (some bellsAndBirds) .null 0 (playing [] ["BELL", "bell"])).run { here := [] } =
        (.ok ({ s with sounds := s.sounds ++ added }, assets), h') ∧
      added.map (·.name) = [.str "Bell"] := by
  have hkeyed : Keyed bellsAndBirds.catalog.sounds :=
    { reads := List.forall_mem_cons.2 ⟨⟨_, rfl, rfl⟩, List.forall_mem_singleton.2 ⟨_, rfl, rfl⟩⟩
      apart := by decide +kernel }
  obtain ⟨taken, added, htaken, hadded, -⟩ :=
    spriteOf_plays (h := { here := [] }) hkeyed .null 0 [] rfl
  cases htaken
  obtain ⟨hrun, hperm, -⟩ := hadded ["BELL", "bell"]
  have hname : (wanted bellsAndBirds.catalog.sounds ["BELL", "bell"] []).map (·.name) =
      [.str "Bell"] := rfl
  exact ⟨_, _, _, _, rfl, hrun, List.perm_singleton.1 ((hperm.map _).trans (.of_eq hname))⟩

end Assembly

end BlockScript
