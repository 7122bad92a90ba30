import Mathlib.Data.List.Forall2
import Mathlib.Data.List.Nodup
import BlockScript.Listing.Name
import BlockScript.Project.Merge
import BlockScript.Proofs.Frame

/-!
# Every sprite gets its own assets back

A project that was listed and compiled again has its sprites in the same order, but under the
identifiers of their names. Merging looks for the first form of a sprite by name, and else by its
place among the sprites. Both ways can lead astray: the identifier of one sprite may be the name of
another one, and the place of a sprite is that of the first one equal to it, in a list whose members
change while it is searched.

Neither happens if the identifiers are distinct and none of them is the name of the stage
(`merge_takesBack`). A sprite that has the identifier for its name is the sprite itself, because
taking identifiers twice changes nothing (`Listing.identifier_identifier`). Sprites that were merged
before keep their names, so none of them is equal to a later one.
-/

namespace BlockScript

open List Listing Option Prod Table Value

/-! ### Identifiers -/

namespace Listing

theorem identifierChars_identifierChars (cs : List Char) :
    identifierChars (identifierChars cs) = identifierChars cs := by
  simp only [identifierChars, List.map_map]
  refine map_congr_left fun c _ => ?_
  by_cases hc : Text.isAlnum c
  · simp [hc]
  · simp [hc, show Text.isAlnum '_' = false by decide]

theorem identifier_closeIdentifier {cs : List Char} (h : identifierChars cs = cs) :
    identifier (closeIdentifier cs) = closeIdentifier cs := by
  unfold identifier
  cases cs with
  | nil => decide
  | cons c cs =>
    rw [closeIdentifier]
    by_cases hc : Text.isDigit c
    · have hunderscore : identifierChars ('_' :: c :: cs) = '_' :: c :: cs := by
        rw [identifierChars, map_cons, ← identifierChars, h]
        rfl
      rw [if_pos hc, String.toList_ofList, hunderscore]
      rfl
    · rw [if_neg hc, String.toList_ofList, h, closeIdentifier, if_neg hc]

/-- **The identifier of an identifier is itself.** -/
theorem identifier_identifier (name : String) : identifier (identifier name) = identifier name :=
  identifier_closeIdentifier (identifierChars_identifierChars name.toList)

end Listing

theorem Value.key_eq_ok {v w : Value} {k : String} (h : v.key k = .ok w) :
    ∃ es, v = .dict es ∧ Table.find? es k = some w := by
  cases v with
  | dict es =>
    rw [key, item] at h
    cases hfind : Table.find? es k with
    | none =>
      rw [hfind] at h
      cases h
    | some w' =>
      rw [hfind] at h
      exact ⟨es, rfl, hfind.trans (congrArg some (Except.ok.inj h))⟩
  | _ => cases h

namespace Merge

variable {old new merged t o : Table Value} {keys : List (String × Value)}

/-! ### Copying -/

/-- One object takes what is under some keys of another one. What is absent there has a fallback,
and under all other keys nothing changes. -/
structure TakesBack (keys : List (String × Value)) (old new merged : Table Value) : Prop where
  taken : ∀ p ∈ keys, merged.find? p.1 = some ((old.find? p.1).getD p.2)
  kept : ∀ key ∉ keys.map Prod.fst, merged.find? key = new.find? key

/-- The object that `copy` makes. -/
def filled (old : Table Value) (keys : List (String × Value)) (t : Table Value) : Table Value :=
  keys.foldl (fun t p => t.set p.1 ((old.find? p.1).getD p.2)) t

theorem copy_dict (old : Table Value) (keys : List (String × Value)) (t : Table Value) :
    copy (.dict old) keys (.dict t) = .ok (.dict (filled old keys t)) := by
  induction keys generalizing t with
  | nil => rfl
  | cons p keys ih => exact ih (t.set p.1 _)

theorem find?_filled_of_not_mem {key : String} (h : key ∉ keys.map fst) :
    (filled old keys t).find? key = t.find? key := by
  induction keys generalizing t with
  | nil => rfl
  | cons p keys ih =>
    rw [map_cons, mem_cons, not_or] at h
    exact (ih h.2).trans (find?_set_of_ne t _ (Ne.symm h.1))

theorem takesBack_filled (h : (keys.map fst).Nodup) (old new : Table Value) :
    TakesBack keys old new (filled old keys new) where
  taken p hp := by
    induction keys generalizing new with
    | nil => cases hp
    | cons q keys ih =>
      obtain ⟨hq, hkeys⟩ := nodup_cons.1 h
      rcases mem_cons.1 hp with rfl | hp
      · exact (find?_filled_of_not_mem hq).trans (find?_set_self ..)
      · exact ih hkeys (new.set q.1 _) hp
  kept _ hkey := find?_filled_of_not_mem hkey

/-- What is copied first does not matter if it is copied again. -/
theorem TakesBack.of_takesBack {keys' : List (String × Value)} {mid : Table Value}
    (h : TakesBack keys old mid merged) (h' : TakesBack keys' o new mid)
    (hkeys : keys'.map fst ⊆ keys.map fst) : TakesBack keys old new merged where
  taken := h.taken
  kept key hkey := (h.kept key hkey).trans (h'.kept key fun hk => hkey (hkeys hk))

/-! ### Rosters -/

/-- Whether an object is marked as a stage. -/
def marked (es : Table Value) : Bool := ((es.find? "isStage").getD .null).truthy

theorem isStage_dict (es : Table Value) : isStage (.dict es) = .ok (marked es) := rfl

/-- The targets of a project: one stage, and sprites before and after it. -/
structure Roster where
  before : List (Table Value)
  stage : Table Value
  after : List (Table Value)
  marked_stage : marked stage = true
  not_marked : ∀ s ∈ before ++ after, marked s = false

namespace Roster

/-- The sprites of a roster, in order. -/
def sprites (r : Roster) : List (Table Value) := r.before ++ r.after

/-- All objects of a roster, in order. -/
def objects (r : Roster) : List (Table Value) := r.before ++ r.stage :: r.after

/-- The targets of a roster. -/
def targets (r : Roster) : List Value := r.objects.map .dict

theorem targets_eq (r : Roster) :
    r.targets = r.before.map .dict ++ .dict r.stage :: r.after.map .dict := by
  rw [targets, objects, map_append, map_cons]

end Roster

/-- The object has a text for its name. -/
def HasName (es : Table Value) (name : String) : Prop := es.find? "name" = some (.str name)

theorem sprites_of_not_marked {ss : List (Table Value)} (h : ∀ s ∈ ss, marked s = false)
    {ts more : List Value} (hts : sprites ts = .ok more) :
    sprites (ss.map .dict ++ ts) = .ok (ss.map .dict ++ more) := by
  induction ss with
  | nil => exact hts
  | cons s ss ih =>
    rw [map_cons, cons_append, sprites, isStage_dict, h s (.head _),
      ih fun s hs => h s (.tail _ hs)]
    rfl

theorem stage?_of_not_marked {ss : List (Table Value)} (h : ∀ s ∈ ss, marked s = false)
    (ts : List Value) : stage? (ss.map .dict ++ ts) = stage? ts := by
  induction ss with
  | nil => rfl
  | cons s ss ih =>
    rw [map_cons, cons_append, stage?, isStage_dict, h s (.head _)]
    exact ih fun s hs => h s (.tail _ hs)

theorem Roster.sprites_targets (r : Roster) :
    Merge.sprites r.targets = .ok (r.sprites.map .dict) := by
  have hafter : Merge.sprites (r.after.map .dict ++ []) = .ok (r.after.map .dict ++ []) :=
    sprites_of_not_marked (fun s hs => r.not_marked s (mem_append_right _ hs)) rfl
  rw [append_nil] at hafter
  have hrest : Merge.sprites (.dict r.stage :: r.after.map .dict) = .ok (r.after.map .dict) := by
    rw [Merge.sprites, isStage_dict, r.marked_stage, hafter]
    rfl
  rw [r.targets_eq, sprites_of_not_marked
    (fun s hs => r.not_marked s (mem_append_left _ hs)) hrest, sprites, map_append]

theorem Roster.stage?_targets (r : Roster) : stage? r.targets = .ok (some (.dict r.stage)) := by
  have hrest : stage? (.dict r.stage :: r.after.map .dict) = .ok (some (.dict r.stage)) := by
    rw [stage?, isStage_dict, r.marked_stage]
    rfl
  rw [r.targets_eq, stage?_of_not_marked
    (fun s hs => r.not_marked s (mem_append_left _ hs)), hrest]

/-! ### Looking for the first form -/

/-- The table of targets by name. -/
def listed (ts : List (Table Value)) : List (Value × Value) :=
  ts.map fun t => ((Table.find? t "name").getD .null, .dict t)

theorem byName_dict {ts : List (Table Value)} (h : ∀ t ∈ ts, ∃ name, HasName t name) :
    byName (ts.map .dict) = .ok (listed ts) := by
  induction ts with
  | nil => rfl
  | cons t ts ih =>
    obtain ⟨name, hname⟩ := h t (.head _)
    have hkey : (dict t).key "name" = .ok (.str name) := by
      rw [key, item, hname]
    have hlisted : listed (t :: ts) = (.str name, .dict t) :: listed ts := by
      rw [listed, map_cons, hname]
      rfl
    rw [map_cons, byName, hkey, ih fun t ht => h t (.tail _ ht), hlisted]
    rfl

/-- What is found under a name has that name. -/
theorem hasName_of_named? {ts : List (Table Value)} (h : ∀ t ∈ ts, ∃ name, HasName t name)
    {name : String} {v : Value} (hfound : named? (listed ts) (.str name) = some v) :
    ∃ t ∈ ts, v = .dict t ∧ HasName t name := by
  obtain ⟨p, hp, rfl⟩ := map_eq_some_iff.1 hfound
  have hmem := mem_reverse.1 (mem_of_find?_eq_some hp)
  obtain ⟨t, ht, rfl⟩ := List.mem_map.1 hmem
  obtain ⟨name', hname'⟩ := h t ht
  have hsame := find?_some hp
  change ((Table.find? t "name").getD .null).same (.str name) = true at hsame
  rw [show Table.find? t "name" = _ from hname', getD_some, same, beq_iff_eq] at hsame
  exact ⟨t, ht, rfl, hsame ▸ hname'⟩

/-- Objects with different names are not equal. -/
theorem not_same_of_hasName {s : Table Value} {a b : String} (hs : HasName s a) (ht : HasName t b)
    (hne : a ≠ b) : (dict s).same (.dict t) = false := by
  have hentries : ∀ u : Table Value, u.find? "name" = some (.str a) →
      sameEntries u t = false := by
    intro u hu
    induction u with
    | nil => cases hu
    | cons p u ih =>
      obtain ⟨k, v⟩ := p
      rw [sameEntries, Bool.and_eq_false_iff]
      rw [Table.find?] at hu
      split at hu
      · next hk =>
        cases hu
        subst hk
        left
        rw [show t.find? "name" = _ from ht]
        simpa [same] using hne
      · exact .inr (ih hu)
  rw [same, hentries s hs, Bool.and_false]

section FirstForm

variable {first : Value} {r : Roster} {names : List String} {stageName : String}

/-- A roster whose sprites have the given names. Their identifiers are distinct, and the name of the
stage is none of them. -/
structure Roster.Named (r : Roster) (names : List String) (stageName : String) : Prop where
  sprites : List.Forall₂ HasName r.sprites names
  stage : HasName r.stage stageName
  distinct : (names.map Listing.identifier).Nodup
  other : stageName ∉ names.map Listing.identifier

theorem Roster.mem_objects : t ∈ r.objects ↔ t = r.stage ∨ t ∈ r.sprites := by
  simp only [objects, sprites, mem_append, mem_cons]
  tauto

theorem Roster.Named.exists_name (h : r.Named names stageName) :
    ∀ t ∈ r.objects, ∃ name, HasName t name := by
  intro t ht
  rcases mem_objects.1 ht with rfl | ht
  · exact ⟨_, h.stage⟩
  · obtain ⟨i, hi, rfl⟩ := getElem_of_mem ht
    exact ⟨_, h.sprites.get hi (h.sprites.length_eq ▸ hi)⟩

/-- **A hit by name is the right sprite.** -/
theorem Roster.Named.eq_of_hasName (h : r.Named names stageName) {xs ys : List (Table Value)}
    {ns ms : List String} {n : String} (hsprites : r.sprites = xs ++ o :: ys)
    (hnames : names = ns ++ n :: ms) (hlength : xs.length = ns.length) (ht : t ∈ r.objects)
    (hname : HasName t (identifier n)) : t = o := by
  have hn : n ∈ names := hnames ▸ mem_append_right _ (.head _)
  rcases mem_objects.1 ht with rfl | ht
  · cases h.stage.symm.trans hname
    exact absurd (List.mem_map_of_mem hn) h.other
  · obtain ⟨i, hi, rfl⟩ := getElem_of_mem ht
    have hi' : i < names.length := h.sprites.length_eq ▸ hi
    have hgot : names[i] = identifier n := by
      have := (h.sprites.get hi hi').symm.trans hname
      simpa using this
    -- Both the sprite found and the one looked for have the same identifier, hence the same place.
    have hplace : i = ns.length := by
      have hlt : ns.length < names.length := by simp [hnames]
      have hi'' : i < (names.map identifier).length := by simpa using hi'
      have hlt' : ns.length < (names.map identifier).length := by simpa using hlt
      have hlast : names[ns.length] = n := by simp [hnames]
      have heq : (names.map identifier)[i] = (names.map identifier)[ns.length] := by
        rw [getElem_map, getElem_map, hgot, hlast, identifier_identifier]
      exact h.distinct.getElem_inj_iff.1 heq
    subst hplace
    simp [hsprites, ← hlength]

/-- **The first form of a sprite** is the sprite at its place, however it is found. -/
theorem Roster.Named.firstForm_eq (h : r.Named names stageName)
    (hfirst : first.key "targets" = .ok (.list r.targets)) {xs ys : List (Table Value)}
    {ns ms : List String} {n : String} (hsprites : r.sprites = xs ++ o :: ys)
    (hnames : names = ns ++ n :: ms) (hlength : xs.length = ns.length)
    {before : List (Table Value)}
    (hbefore : Forall₂ HasName before (ns.map identifier))
    (ht : HasName t (identifier n)) (hstage : marked t = false) :
    firstForm first (listed r.objects) (before.map .dict) (.dict t) = .ok (some (.dict o)) := by
  have hget : (dict t).getD "name" (.str "") = .ok (.str (identifier n)) := by
    rw [Value.getD, ht]
    rfl
  rw [firstForm, hget]
  dsimp only [bind, Except.bind]
  cases hfound : named? (listed r.objects) (.str (identifier n)) with
  | some v =>
    obtain ⟨t', ht', rfl, hname⟩ := hasName_of_named? h.exists_name hfound
    rw [h.eq_of_hasName hsprites hnames hlength ht' hname]
  | none =>
    have htargets : targetsOf first = .ok r.targets := by
      rw [targetsOf, hfirst]
      rfl
    -- The sprites before this one have other names, so the first one equal to it is itself.
    have hindex : (before.map dict).findIdx (·.same (.dict t)) = xs.length := by
      have hnodup := h.distinct
      rw [hnames, map_append, map_cons] at hnodup
      have hnone : ∀ v ∈ before.map dict, ¬v.same (.dict t) := by
        intro v hv
        obtain ⟨s, hs, rfl⟩ := List.mem_map.1 hv
        obtain ⟨i, hi, rfl⟩ := getElem_of_mem hs
        have hi' : i < (ns.map identifier).length := hbefore.length_eq ▸ hi
        have hne : (ns.map identifier)[i] ≠ identifier n := fun heq =>
          (nodup_append.1 hnodup).2.2 _ (getElem_mem hi') _ (.head _) heq
        exact Bool.not_eq_true _ ▸ not_same_of_hasName (hbefore.get hi hi') ht hne
      rw [findIdx_eq_length_of_false (by simpa using hnone), length_map,
        hbefore.length_eq, length_map, hlength]
    rw [htargets, isStage_dict, hstage]
    dsimp only
    rw [if_neg Bool.false_ne_true, r.sprites_targets]
    dsimp only
    rw [hindex, hsprites]
    simp

/-! ### Merging all targets -/

/-- Everything a sprite takes from its first form. -/
def spriteAssets : List (String × Value) := assetKeys ++ spriteKeys

/-- Everything the stage takes from its first form. -/
def stageAssets : List (String × Value) := assetKeys ++ stageKeys

theorem marked_filled (h : "isStage" ∉ keys.map fst) :
    marked (filled o keys t) = marked t := by
  rw [marked, find?_filled_of_not_mem h, marked]

theorem HasName.filled {name : String} (h : HasName t name) (hkeys : "name" ∉ keys.map fst) :
    HasName (filled o keys t) name :=
  (find?_filled_of_not_mem hkeys).trans h

variable {table : List (Value × Value)} {os ts : List (Table Value)}

theorem mergeTarget_sprite {before : List Value}
    (hform : firstForm first table before (.dict t) = .ok (some (.dict o)))
    (hstage : marked t = false) :
    mergeTarget first table before (.dict t) = .ok (.dict (filled o spriteAssets t)) := by
  rw [mergeTarget, hform]
  dsimp only [bind, Except.bind]
  rw [copy_dict, isStage_dict, hstage]
  dsimp only
  rw [if_neg Bool.false_ne_true, copy_dict, spriteAssets, filled, filled, filled,
    foldl_append]

theorem mergeTarget_stage {before : List Value}
    (hform : firstForm first table before (.dict t) = .ok (some (.dict o))) (hstage : marked t) :
    mergeTarget first table before (.dict t) = .ok (.dict (filled o assetKeys t)) := by
  rw [mergeTarget, hform]
  dsimp only [bind, Except.bind]
  rw [copy_dict, isStage_dict, hstage]
  rfl

/-- Some sprite or the stage is the first form of a stage. -/
theorem exists_firstForm_stage
    (hfirst : first.key "targets" = .ok (.list r.targets)) (hstage : marked t)
    (before : List Value) :
    ∃ o, firstForm first (listed r.objects) before (.dict t) = .ok (some (.dict o)) := by
  have htargets : targetsOf first = .ok r.targets := by
    rw [targetsOf, hfirst]
    rfl
  rw [firstForm, show (dict t).getD "name" (.str "") = .ok _ from rfl]
  dsimp only [bind, Except.bind]
  cases hfound : named? (listed r.objects) ((Table.find? t "name").getD (.str "")) with
  | some v =>
    obtain ⟨p, hp, rfl⟩ := map_eq_some_iff.1 hfound
    obtain ⟨o, -, rfl⟩ := List.mem_map.1 (mem_reverse.1 (mem_of_find?_eq_some hp))
    exact ⟨o, rfl⟩
  | none =>
    refine ⟨r.stage, ?_⟩
    rw [htargets, isStage_dict, hstage]
    exact r.stage?_targets

/-- The sprites with the assets of those at the same places. -/
def mergedSprites (os ts : List (Table Value)) : List (Table Value) :=
  List.zipWith (fun o t => filled o spriteAssets t) os ts

/-- **The run over sprites**: each one takes the assets of the sprite at its place. -/
theorem Roster.Named.mergeTargets_sprites (h : r.Named names stageName)
    (hfirst : first.key "targets" = .ok (.list r.targets)) {ms : List String}
    (hts : Forall₂ HasName ts (ms.map identifier))
    (hmarked : ∀ t ∈ ts, marked t = false) {xs os ys before : List (Table Value)}
    {ns ls : List String} (hsprites : r.sprites = xs ++ (os ++ ys))
    (hnames : names = ns ++ (ms ++ ls)) (hxs : xs.length = ns.length)
    (hos : os.length = ms.length)
    (hbefore : Forall₂ HasName before (ns.map identifier)) {rest others : List Value}
    (hrest : mergeTargets first (listed r.objects) ((before ++ mergedSprites os ts).map .dict)
      rest = .ok others) :
    mergeTargets first (listed r.objects) (before.map .dict) (ts.map .dict ++ rest) =
      .ok ((mergedSprites os ts).map .dict ++ others) := by
  induction ts generalizing ms xs os before ns with
  | nil =>
    rw [mergedSprites, zipWith_nil_right] at hrest ⊢
    rw [append_nil] at hrest
    exact hrest
  | cons t ts ih =>
    -- The first sprite has its first form at the same place, and keeps its name for the others.
    cases ms with
    | nil => cases hts
    | cons m ms =>
      cases os with
      | nil => cases hos
      | cons o os =>
        obtain ⟨ht, hts⟩ := forall₂_cons.1 hts
        have hstage := hmarked t (.head _)
        have hform := h.firstForm_eq hfirst hsprites hnames hxs hbefore ht hstage
        have hkept : HasName (filled o spriteAssets t) (identifier m) :=
          ht.filled (by decide)
        have hbefore' : Forall₂ HasName (before ++ [filled o spriteAssets t])
            ((ns ++ [m]).map identifier) := by
          rw [map_append]
          exact rel_append hbefore (.cons hkept .nil)
        have hsprites' : r.sprites = (xs ++ [o]) ++ (os ++ ys) := by simpa using hsprites
        have hnames' : names = (ns ++ [m]) ++ (ms ++ ls) := by simpa using hnames
        have hmerged : mergedSprites (o :: os) (t :: ts) =
            filled o spriteAssets t :: mergedSprites os ts := rfl
        have hothers := ih hts (fun t ht => hmarked t (.tail _ ht)) hsprites' hnames'
          (by simpa using hxs) (Nat.succ.inj hos) hbefore'
          (by simpa [hmerged] using hrest)
        rw [map_append, map_singleton] at hothers
        rw [map_cons, cons_append, mergeTargets, isStage_dict, hstage,
          mergeTarget_sprite hform hstage, hmerged]
        dsimp only [bind, Except.bind]
        rw [if_neg Bool.false_ne_true, hothers]
        rfl

/-- The stage step: something is copied to the stage, and the sprites before it stay. -/
theorem mergeTargets_stage
    (hfirst : first.key "targets" = .ok (.list r.targets)) (hstage : marked t)
    {before rest others : List Value}
    (hrest : mergeTargets first (listed r.objects) before rest = .ok others) :
    ∃ o, mergeTargets first (listed r.objects) before (.dict t :: rest) =
      .ok (.dict (filled o assetKeys t) :: others) := by
  obtain ⟨o, hform⟩ := exists_firstForm_stage hfirst hstage before
  refine ⟨o, ?_⟩
  rw [mergeTargets, isStage_dict, hstage, mergeTarget_stage hform hstage]
  dsimp only [bind, Except.bind]
  rw [if_pos rfl, hrest]

theorem mergeStage_of_not_marked {ss : List (Table Value)} (h : ∀ s ∈ ss, marked s = false)
    (hstage : marked t) (rest : List Value) :
    mergeStage (.dict o) (ss.map .dict ++ .dict t :: rest) =
      .ok (ss.map .dict ++ .dict (filled o stageAssets t) :: rest) := by
  induction ss with
  | nil =>
    rw [map_nil, nil_append, mergeStage, isStage_dict, hstage]
    dsimp only [bind, Except.bind]
    rw [if_pos rfl, copy_dict]
    rfl
  | cons s ss ih =>
    rw [map_cons, cons_append, mergeStage, isStage_dict, h s (.head _),
      ih fun s hs => h s (.tail _ hs)]
    rfl

theorem not_marked_of_mem_mergedSprites (h : ∀ t ∈ ts, marked t = false) :
    ∀ m ∈ mergedSprites os ts, marked m = false := by
  induction ts generalizing os with
  | nil => simp [mergedSprites]
  | cons t ts ih =>
    cases os with
    | nil => simp [mergedSprites]
    | cons o os =>
      intro m hm
      rcases mem_cons.1 hm with rfl | hm
      · rw [marked_filled (by decide)]
        exact h t (.head _)
      · exact ih (fun t ht => h t (.tail _ ht)) m hm

theorem takesBack_mergedSprites (h : os.length = ts.length) :
    Forall₂ (fun p m => TakesBack spriteAssets p.1 p.2 m) (os.zip ts)
      (mergedSprites os ts) := by
  induction os generalizing ts with
  | nil => exact .nil
  | cons o os ih =>
    cases ts with
    | nil => cases h
    | cons t ts => exact .cons (takesBack_filled (by decide) o t) (ih (Nat.succ.inj h))

theorem hasName_mergedSprites (hlength : os.length = ts.length) {ns : List String}
    (h : Forall₂ HasName ts ns) : Forall₂ HasName (mergedSprites os ts) ns := by
  induction h generalizing os with
  | nil =>
    rw [mergedSprites, zipWith_nil_right]
    exact .nil
  | cons ht _ ih =>
    cases os with
    | nil => cases hlength
    | cons o os => exact .cons (ht.filled (by decide)) (ih (Nat.succ.inj hlength))

/-- **Merging the targets of two rosters**, of which the second has its stage where `os` ends among
the sprites of the first. -/
theorem Roster.Named.exists_mergeTargets {old new : Roster} (h : old.Named names stageName)
    (hfirst : first.key "targets" = .ok (.list old.targets)) {os os' : List (Table Value)}
    {ns ns' : List String} (hsprites : old.sprites = os ++ os') (hnames : names = ns ++ ns')
    (hos : os.length = ns.length) (hos' : os'.length = ns'.length)
    (hbefore : Forall₂ HasName new.before (ns.map identifier))
    (hafter : Forall₂ HasName new.after (ns'.map identifier)) :
    ∃ o, mergeTargets first (listed old.objects) [] new.targets =
      .ok ((mergedSprites os new.before).map .dict ++ .dict (filled o assetKeys new.stage) ::
        (mergedSprites os' new.after).map .dict) := by
  have hmarked := new.not_marked
  have hlength : os.length = new.before.length := by
    rw [hos, hbefore.length_eq, length_map]
  have hend : mergeTargets first (listed old.objects)
      ((mergedSprites os new.before ++ mergedSprites os' new.after).map .dict) [] = .ok [] := rfl
  have hrunAfter := h.mergeTargets_sprites hfirst hafter
    (fun t ht => hmarked t (mem_append_right _ ht))
    (hsprites.trans (congrArg (os ++ ·) (append_nil os').symm))
    (hnames.trans (congrArg (ns ++ ·) (append_nil ns').symm)) hos hos'
    (hasName_mergedSprites hlength hbefore) hend
  obtain ⟨o, hrunStage⟩ := mergeTargets_stage hfirst new.marked_stage hrunAfter
  refine ⟨o, ?_⟩
  have hrun := h.mergeTargets_sprites hfirst hbefore
    (fun t ht => hmarked t (mem_append_left _ ht))
    (show old.sprites = [] ++ (os ++ os') from hsprites)
    (show names = [] ++ (ns ++ ns') from hnames)
    rfl hos .nil hrunStage
  rw [new.targets_eq]
  simpa only [append_nil, map_nil] using hrun

/-- The roster of merged targets. `o` is what the new stage has taken assets from at first. -/
def mergedRoster (os os' : List (Table Value)) (stage o : Table Value) (new : Roster) : Roster where
  before := mergedSprites os new.before
  stage := filled stage stageAssets (filled o assetKeys new.stage)
  after := mergedSprites os' new.after
  marked_stage := by
    rw [marked_filled (by decide), marked_filled (by decide), new.marked_stage]
  not_marked m hm := by
    rcases List.mem_append.1 hm with hm | hm
    · exact not_marked_of_mem_mergedSprites
        (fun t ht => new.not_marked t (List.mem_append_left _ ht)) m hm
    · exact not_marked_of_mem_mergedSprites
        (fun t ht => new.not_marked t (List.mem_append_right _ ht)) m hm

theorem mergeStage_merged (os os' : List (Table Value)) (stage o : Table Value) (new : Roster) :
    mergeStage (.dict stage) ((mergedSprites os new.before).map .dict ++
        .dict (filled o assetKeys new.stage) :: (mergedSprites os' new.after).map .dict) =
      .ok (mergedRoster os os' stage o new).targets := by
  have hbefore : ∀ m ∈ mergedSprites os new.before, marked m = false :=
    not_marked_of_mem_mergedSprites fun t ht => new.not_marked t (mem_append_left _ ht)
  have hstage : marked (filled o assetKeys new.stage) :=
    (marked_filled (by decide)).trans new.marked_stage
  rw [mergeStage_of_not_marked hbefore hstage, Roster.targets_eq]
  rfl

/-- Merging goes through if all its steps do. -/
theorem exists_merge {project stage : Value} {old new mid final : List Value}
    (hfirst : first.key "targets" = .ok (.list old))
    (hproject : project.key "targets" = .ok (.list new)) (htable : byName old = .ok table)
    (hmid : mergeTargets first table [] new = .ok mid) (hstage : stage? old = .ok (some stage))
    (hfinal : mergeStage stage mid = .ok final) :
    ∃ merged, merge first project = .ok merged ∧ merged.key "targets" = .ok (.list final) := by
  have hold : targetsOf first = .ok old := by
    rw [targetsOf, hfirst]
    rfl
  have hnew : targetsOf project = .ok new := by
    rw [targetsOf, hproject]
    rfl
  obtain ⟨es, rfl, hes⟩ := key_eq_ok hfirst
  obtain ⟨ps, rfl, hps⟩ := key_eq_ok hproject
  let information := (Table.find? es "meta").getD ((Table.find? ps "meta").getD (.dict []))
  refine ⟨.dict (Table.set (Table.set ps "targets" (.list final)) "meta" information), ?_, ?_⟩
  · rw [merge, Value.getD, hes]
    dsimp only [bind, Except.bind, Value.iterate, getD_some]
    rw [htable, hnew]
    dsimp only
    rw [hmid, hold]
    dsimp only
    rw [hstage]
    dsimp only
    rw [hfinal]
    rfl
  · rw [key, item, find?_set_of_ne _ _ (by decide), find?_set_self]

/-- What a target says about itself: its name, and what its scripts are and work on. -/
def ownKeys : List String := ["name", "blocks", "variables", "lists"]

theorem not_mem_spriteAssets {key : String} (h : key ∈ ownKeys) :
    key ∉ spriteAssets.map fst := by
  revert key
  decide

theorem not_mem_stageAssets {key : String} (h : key ∈ ownKeys) :
    key ∉ stageAssets.map fst := by
  revert key
  decide

theorem own_mergedSprites (h : os.length = ts.length) :
    Forall₂ (fun t m => ∀ key ∈ ownKeys, m.find? key = t.find? key) ts
      (mergedSprites os ts) := by
  induction os generalizing ts with
  | nil =>
    cases ts with
    | nil => exact .nil
    | cons t ts => cases h
  | cons o os ih =>
    cases ts with
    | nil => cases h
    | cons t ts =>
      exact .cons (fun _ hkey => find?_filled_of_not_mem (not_mem_spriteAssets hkey))
        (ih (Nat.succ.inj h))

/-- **Merging gives every sprite its own assets back.** The sprites of a second project are, in
order, those of a first one under the identifiers of their names. If the identifiers are distinct
and none is the name of the first stage, then each sprite takes all its assets from the sprite at
its place and the stage takes all of its own from the first stage, and every target keeps its name,
scripts, variables and lists. -/
theorem merge_takesBack {first project : Value} {old new : Roster} {names : List String}
    {stageName : String} (hfirst : first.key "targets" = .ok (.list old.targets))
    (hproject : project.key "targets" = .ok (.list new.targets))
    (hold : old.Named names stageName)
    (hnew : List.Forall₂ HasName new.sprites (names.map Listing.identifier)) :
    ∃ (merged : Value) (r : Roster), merge first project = .ok merged ∧
      merged.key "targets" = .ok (.list r.targets) ∧
      r.before.length = new.before.length ∧
      List.Forall₂ (fun p m => TakesBack spriteAssets p.1 p.2 m) (old.sprites.zip new.sprites)
        r.sprites ∧
      TakesBack stageAssets old.stage new.stage r.stage ∧
      List.Forall₂ (fun t m => ∀ key ∈ ownKeys, m.find? key = t.find? key) new.objects
        r.objects := by
  -- The first sprites and their names are split where the new stage stands.
  have hlengths := hold.sprites.length_eq
  have hnewLength : new.sprites.length = names.length := by
    rw [hnew.length_eq, List.length_map]
  rw [Roster.sprites, List.length_append] at hnewLength
  have hbefore : List.Forall₂ HasName new.before
      ((names.take new.before.length).map Listing.identifier) := by
    have htaken := List.forall₂_take new.before.length hnew
    rwa [Roster.sprites, List.take_left, ← List.map_take] at htaken
  have hafter : List.Forall₂ HasName new.after
      ((names.drop new.before.length).map Listing.identifier) := by
    have hdropped := List.forall₂_drop new.before.length hnew
    rwa [Roster.sprites, List.drop_left, ← List.map_drop] at hdropped
  obtain ⟨os, os', hsprites, hos, hos'⟩ : ∃ os os', old.sprites = os ++ os' ∧
      os.length = new.before.length ∧ os'.length = new.after.length :=
    ⟨_, _, (List.take_append_drop new.before.length _).symm, by rw [List.length_take]; omega,
      by rw [List.length_drop]; omega⟩
  obtain ⟨o, hmerged⟩ := hold.exists_mergeTargets hfirst hsprites
    (List.take_append_drop new.before.length _).symm
    (by rw [hos, List.length_take]; omega) (by rw [hos', List.length_drop]; omega) hbefore hafter
  obtain ⟨merged, hmerge, htargets⟩ := exists_merge hfirst hproject (byName_dict hold.exists_name)
    hmerged old.stage?_targets (mergeStage_merged os os' old.stage o new)
  have hstage : TakesBack stageAssets old.stage new.stage
      (mergedRoster os os' old.stage o new).stage :=
    (takesBack_filled (by decide) _ _).of_takesBack (takesBack_filled (by decide) _ _) (by decide)
  refine ⟨merged, mergedRoster os os' old.stage o new, hmerge, htargets, ?_, ?_, hstage, ?_⟩
  · exact List.length_zipWith.trans (by rw [hos, Nat.min_self])
  · rw [hsprites, Roster.sprites, Roster.sprites, List.zip_append hos]
    exact List.rel_append (takesBack_mergedSprites hos) (takesBack_mergedSprites hos')
  · refine List.rel_append (own_mergedSprites hos) (.cons (fun key hkey => ?_)
      (own_mergedSprites hos'))
    exact hstage.kept key (not_mem_stageAssets hkey)

end FirstForm

/-- A project with two sprites, whose stage stands between them. -/
def catAndDog : Roster where
  before := [[("isStage", .bool false), ("name", .str "Cat 2"), ("x", .int 7)]]
  stage := [("isStage", .bool true), ("name", .str "Stage"), ("tempo", .int 90)]
  after := [[("isStage", .bool false), ("name", .str "Dog"), ("costumes", .list [.str "dog"])]]
  marked_stage := rfl
  not_marked := by decide

/-- The same project with the stage in front, after it was listed and compiled again. -/
def catAndDogAgain : Roster where
  before := []
  stage := [("isStage", .bool true), ("name", .str "Stage"), ("blocks", .dict [])]
  after := [[("isStage", .bool false), ("name", .str "Cat_2"), ("blocks", .dict [])],
    [("isStage", .bool false), ("name", .str "Dog"), ("blocks", .dict [])]]
  marked_stage := rfl
  not_marked := by decide

/-- A project of which only the targets matter. -/
def Roster.project (r : Roster) : Value := .dict [("targets", .list r.targets)]

theorem merge_catAndDog :
    catAndDog.Named ["Cat 2", "Dog"] "Stage" ∧
    List.Forall₂ HasName catAndDogAgain.sprites (["Cat 2", "Dog"].map Listing.identifier) ∧
    ∃ (merged : Value) (r : Roster), merge catAndDog.project catAndDogAgain.project = .ok merged ∧
      merged.key "targets" = .ok (.list r.targets) ∧ r.before.length = 0 ∧
      List.Forall₂ (fun p m => TakesBack spriteAssets p.1 p.2 m)
        (catAndDog.sprites.zip catAndDogAgain.sprites) r.sprites ∧
      TakesBack stageAssets catAndDog.stage catAndDogAgain.stage r.stage ∧
      List.Forall₂ (fun t m => ∀ key ∈ ownKeys, m.find? key = t.find? key) catAndDogAgain.objects
        r.objects := by
  have hold : catAndDog.Named ["Cat 2", "Dog"] "Stage" :=
    ⟨.cons rfl (.cons rfl .nil), rfl, by decide +kernel, by decide +kernel⟩
  have hnew : List.Forall₂ HasName catAndDogAgain.sprites
      (["Cat 2", "Dog"].map Listing.identifier) := by
    rw [show ["Cat 2", "Dog"].map Listing.identifier = ["Cat_2", "Dog"] by decide +kernel]
    exact .cons rfl (.cons rfl .nil)
  exact ⟨hold, hnew, merge_takesBack rfl rfl hold hnew⟩

end Merge

end BlockScript
