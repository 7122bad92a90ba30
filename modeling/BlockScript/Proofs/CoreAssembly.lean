import BlockScript.Catalog.Published
import BlockScript.Project.Assembly
import BlockScript.Proofs.ProjectListing

/-!
# Projects of core programs

Core programs declare no pictures and play no sounds, so that putting their projects together asks
for nothing and cannot fail: `ofResult_of_silent`. What a sprite shows is looked up in the catalog
of everything published. Its records are well formed, whichever of them a name means.
-/

namespace BlockScript

open List Option Target

namespace Catalog

/-! ### Published records -/

theorem exists_mapM_of_forall {α β : Type} {P : β → Prop} {l : List α} {f : α → Except Fault β}
    (h : ∀ a ∈ l, ∃ b, f a = .ok b ∧ P b) : ∃ bs, l.mapM f = .ok bs ∧ ∀ b ∈ bs, P b := by
  induction l with
  | nil => exact ⟨[], rfl, fun b hb => absurd hb (not_mem_nil)⟩
  | cons a l ih =>
    obtain ⟨b, hb, hP⟩ := h a (.head _)
    obtain ⟨bs, hbs, hPs⟩ := ih fun a ha => h a (.tail _ ha)
    refine ⟨b :: bs, ?_, forall_mem_cons.2 ⟨hP, hPs⟩⟩
    rw [mapM_cons, hb, hbs]
    rfl

/-- The values of a table of sprites are records. -/
def Recorded (t : Table Value) : Prop := ∀ p ∈ t, ∃ s : SpriteRecord, p.2 = s.toValue

theorem recorded_published : Recorded published.sprites := by
  intro p hp
  obtain ⟨s, -, rfl⟩ := List.mem_map.1 hp
  exact ⟨s, rfl⟩

/-- What is found under a name is a record. -/
theorem Recorded.entry? {t : Table Value} (ht : Recorded t) (name : String) :
    ∃ found, Catalog.entry? t (.str name) = .ok found ∧
      ∀ v ∈ found, ∃ s : SpriteRecord, v = s.toValue := by
  simp only [Catalog.entry?, checkKey, Value.hashable, bind, Except.bind, if_true, Value.asText]
  split
  · next k v h =>
    refine ⟨_, rfl, ?_⟩
    rintro _ ⟨⟩
    obtain ⟨w, hw, heq⟩ := map_eq_some_iff.1 h
    cases heq
    exact ht _ (Table.mem_of_find? hw)
  · split
    · exact ⟨none, rfl, fun v hv => absurd hv (not_mem_none v)⟩
    · refine ⟨_, rfl, ?_⟩
      intro v hv
      obtain ⟨p, hp, rfl⟩ := map_eq_some_iff.1 (mem_def.1 hv)
      exact ht _ (mem_of_find?_eq_some hp)

/-- What is listed in the entry with a name can be read, if this is so for every record. -/
theorem Recorded.listed {t : Table Value} (ht : Recorded t) {α : Type} (key : String)
    (f : Value → Except Fault α) (P : α → Prop)
    (h : ∀ s : SpriteRecord, ∃ items, Catalog.listed s.toValue key = .ok items ∧
      ∀ v ∈ items, ∃ x, f v = .ok x ∧ P x) (name : String) :
    ∃ found, (do
      match filled? (← Catalog.entry? t (.str name)) with
      | none => .ok none
      | some v =>
        let items ← Catalog.listed v key
        let found ← items.mapM f
        .ok (some found) : Except Fault (Option (List α))) = .ok found ∧
      ∀ xs ∈ found, ∀ x ∈ xs, P x := by
  obtain ⟨entry, hentry, hrecord⟩ := ht.entry? name
  rw [hentry]
  cases hfilled : filled? entry with
  | none =>
    refine ⟨none, ?_, fun xs hxs => absurd hxs (not_mem_none xs)⟩
    simp only [bind, Except.bind, hfilled]
  | some v =>
    have hv : entry = some v := by
      cases entry with
      | none => cases hfilled
      | some w =>
        rw [filled?] at hfilled
        split at hfilled
        · exact hfilled
        · cases hfilled
    obtain ⟨s, rfl⟩ := hrecord v hv
    obtain ⟨items, hitems, hread⟩ := h s
    obtain ⟨xs, hxs, hP⟩ := exists_mapM_of_forall hread
    refine ⟨some xs, ?_, ?_⟩
    · simp only [bind, Except.bind, hfilled, hitems, hxs]
    · rintro _ ⟨⟩
      exact hP

theorem Recorded.costumes? {c : Catalog} (hc : Recorded c.sprites) (name : String) :
    ∃ found, c.costumes? (.str name) = .ok found := by
  have hrecord (s : SpriteRecord) : ∃ items, Catalog.listed s.toValue "costumes" = .ok items ∧
      ∀ v ∈ items, ∃ x, costumeOf v = .ok x ∧ True := by
    refine ⟨s.costumes.map (·.toValue), rfl, ?_⟩
    intro v hv
    obtain ⟨c, -, rfl⟩ := List.mem_map.1 hv
    exact ⟨_, rfl, trivial⟩
  obtain ⟨found, hfound, -⟩ := hc.listed "costumes" costumeOf (fun _ => True) hrecord name
  exact ⟨found, hfound⟩

theorem Recorded.sounds? {c : Catalog} (hc : Recorded c.sprites) (name : String) :
    ∃ found, c.sounds? (.str name) = .ok found ∧
      ∀ xs ∈ found, ∀ x ∈ xs, ∃ n, x.name = .str n := by
  have hrecord (s : SpriteRecord) : ∃ items, Catalog.listed s.toValue "sounds" = .ok items ∧
      ∀ v ∈ items, ∃ x, soundOf v = .ok x ∧ ∃ n, x.name = .str n := by
    refine ⟨s.sounds.map (·.toValue), rfl, ?_⟩
    intro v hv
    obtain ⟨c, -, rfl⟩ := List.mem_map.1 hv
    exact ⟨_, rfl, _, rfl⟩
  exact hc.listed "sounds" soundOf (fun x => ∃ n, x.name = .str n) hrecord name

end Catalog

namespace Assembly

open Catalog

/-- Everything published for a name can be taken. -/
theorem publishedFor_recorded {c : Catalog} (hc : Recorded c.sprites) (name : String) :
    ∃ costumes sounds, publishedFor c (.str name) [] = .ok (costumes, sounds) ∧
      ∀ s ∈ sounds, ∃ n, s.name = .str n := by
  have hname : ∃ full, nameFor? c.sprites (.str name) true = .ok full := by
    simp only [nameFor?, checkKey, Value.hashable, bind, Except.bind, if_true, Value.asText]
    split
    · exact ⟨_, rfl⟩
    · split <;> exact ⟨_, rfl⟩
  obtain ⟨full, hfull⟩ := hname
  cases full with
  | none =>
    refine ⟨[], [], ?_, fun s hs => absurd hs not_mem_nil⟩
    simp only [publishedFor, hfull, bind, Except.bind]
  | some full =>
    by_cases hempty : full.isEmpty
    · refine ⟨[], [], ?_, fun s hs => absurd hs not_mem_nil⟩
      simp only [publishedFor, hfull, bind, Except.bind, if_pos hempty]
    · obtain ⟨costumes, hcostumes⟩ := hc.costumes? full
      obtain ⟨sounds, hsounds, hnames⟩ := hc.sounds? full
      refine ⟨costumes.getD [], sounds.getD [], ?_, ?_⟩
      · simp only [publishedFor, hfull, bind, Except.bind, if_neg hempty, hcostumes, hsounds,
          isEmpty_nil, if_true]
      · intro s hs
        cases sounds with
        | none => exact absurd hs not_mem_nil
        | some xs => exact hnames xs rfl s hs

theorem exists_loweredNames {sounds : List Sound} (h : ∀ s ∈ sounds, ∃ n, s.name = .str n) :
    ∃ names, loweredNames sounds = .ok names := by
  induction sounds with
  | nil => exact ⟨[], rfl⟩
  | cons s sounds ih =>
    obtain ⟨n, hn⟩ := h s (.head _)
    obtain ⟨names, hnames⟩ := ih fun s hs => h s (.tail _ hs)
    refine ⟨Text.lower n :: names, ?_⟩
    rw [loweredNames, hn, hnames]
    rfl

/-- A target without sounds and settings, as data. -/
theorem toValue_of_silent {t : Target} (hsounds : t.soundsUsed = some [])
    (hsettings : t.settings = none) :
    t.toValue = .dict [("name", .str t.name), ("blocks", blocksValue t.blocks),
      ("variables", variablesValue t.vars), ("lists", listsValue t.lists),
      ("broadcasts", messagesValue t.broadcasts), ("sounds_used", .list [])] := by
  have hsorted : sortedValue [] = .list [] := by
    rw [sortedValue, mergeSort_nil]
    rfl
  rw [toValue, hsounds, hsettings]
  dsimp only
  rw [hsorted]
  rfl

theorem lift_bind {α β : Type} {r : Except Fault α} {a : α} (f : α → Action β) (h : r = .ok a) :
    (Action.lift r >>= f) = f a := by
  subst h
  rfl

variable {r : Option Resources}

/-- **A target without pictures and sounds becomes a sprite with its scripts.** Nothing is asked
for. -/
theorem spriteOf_target (hr : ∀ x ∈ r, Recorded x.catalog.sprites) (base : Value) (i : Nat)
    {t : Target} (hsounds : t.soundsUsed = some []) (hsettings : t.settings = none) :
    ∃ s, spriteOf r base i t.toValue = .done (.ok (s, [])) ∧ Core.Presents s t := by
  rw [toValue_of_silent hsounds hsettings]
  cases r with
  | none => exact ⟨_, rfl, rfl, rfl, rfl, rfl⟩
  | some x =>
    obtain ⟨costumes, sounds, hpublished, hnames⟩ := publishedFor_recorded (hr x rfl) t.name
    obtain ⟨taken, hlowered⟩ := exists_loweredNames hnames
    refine ⟨_, (lift_bind _ hpublished).trans ((lift_bind _ hlowered).trans rfl), ?_⟩
    exact ⟨rfl, rfl, rfl, rfl⟩

theorem each_spriteOf (hr : ∀ x ∈ r, Recorded x.catalog.sprites) (base : Value) {ts : List Target}
    (hts : ∀ t ∈ ts, t.soundsUsed = some [] ∧ t.settings = none) (n : Nat) :
    ∃ found, Action.each (fun (target, i) => spriteOf r base i target)
        ((ts.map (·.toValue)).zipIdx n) = .done (.ok found) ∧
      Forall₂ Core.Presents (found.map (·.1)) ts := by
  induction ts generalizing n with
  | nil => exact ⟨[], rfl, .nil⟩
  | cons t ts ih =>
    obtain ⟨hsounds, hsettings⟩ := hts t (.head _)
    obtain ⟨s, hs, hpresents⟩ := spriteOf_target hr base n hsounds hsettings
    obtain ⟨found, hfound, hrest⟩ := ih (fun t ht => hts t (.tail _ ht)) (n + 1)
    refine ⟨(s, []) :: found, ?_, .cons hpresents hrest⟩
    rw [map_cons, zipIdx_cons, Action.each, hfound]
    change (spriteOf r base n t.toValue >>= _) = _
    rw [hs]
    rfl

/-- **The project of a program without pictures and sounds has its scripts.** Nothing is asked
for. -/
theorem ofResult_of_silent (hr : ∀ x ∈ r, Recorded x.catalog.sprites) (base : Value)
    {c : Compilation} (hstage : c.stage = none)
    (hts : ∀ t ∈ c.targets, t.soundsUsed = some [] ∧ t.settings = none) :
    ∃ a, ofResult r base c.toValue = .done (.ok a) ∧
      Forall₂ Core.Presents a.project.sprites c.targets := by
  obtain ⟨found, hfound, hpresents⟩ := each_spriteOf hr base hts 0
  refine ⟨⟨⟨plainStage, found.map (·.1)⟩, Table.ofPairs ([] ++ found.flatMap (·.2))⟩, ?_, hpresents⟩
  have hsteps : ofResult r base c.toValue =
      (Action.each (fun (target, i) => spriteOf r base i target)
        (c.targets.map (·.toValue)).zipIdx >>= fun sprites =>
          pure ⟨⟨plainStage, sprites.map (·.1)⟩,
            Table.ofPairs ([] ++ sprites.flatMap (·.2))⟩) := by
    rw [Compilation.toValue, hstage]
    rfl
  rw [hsteps, hfound]
  rfl

end Assembly

end BlockScript
