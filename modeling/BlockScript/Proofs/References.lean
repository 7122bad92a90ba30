import BlockScript.Proofs.MergedAssets
import BlockScript.Proofs.StoredNames

/-!
# Sprites that are referred to by name

A menu refers to a sprite by its name. A project that is listed, compiled and merged with its first
form (`Returns`) keeps the names in its menus, which are texts of the program, while its sprites come
back as classes of the program. The listing heads the class of each sprite with the identifier of its
name (`exists_classes`), and merging could give the sprites their names back, but it takes only assets
over (`said_merge`). So if the classes that are read are the ones that were written, a reference to a
sprite is kept exactly if its name is its own identifier (`reference_kept_iff`).
-/

namespace BlockScript

open Except List Listing Option Prod Table Value

namespace Merge

variable {first project merged source t m : Value} {keys : List (String × Value)}

/-! ### What merging leaves alone -/

/-- What a target says about itself: its kind, its name, its scripts and its data. -/
def said (t : Value) : List (Except Fault Value) := ("isStage" :: ownKeys).map t.get

theorem get_put_of_ne {key key' : String} (h : key ≠ key') (v : Value) :
    (put t key v).get key' = t.get key' := by
  cases t with
  | dict es =>
    change ok ((Table.find? (Table.set es key v) key').getD .null) = _
    rw [find?_set_of_ne _ _ h]
    rfl
  | _ => rfl

theorem get_copy {key : String} (h : key ∉ keys.map fst) (hrun : copy source keys t = .ok m) :
    m.get key = t.get key := by
  induction keys generalizing t with
  | nil =>
    cases hrun
    rfl
  | cons p keys ih =>
    rw [map_cons, mem_cons, not_or] at h
    obtain ⟨v, -, hrun⟩ := exists_of_bind_eq_ok hrun
    exact (ih h.2 hrun).trans (get_put_of_ne (Ne.symm h.1) v)

theorem said_copy (hkeys : ∀ key ∈ "isStage" :: ownKeys, key ∉ keys.map fst)
    (hrun : copy source keys t = .ok m) : said m = said t :=
  map_congr_left fun key hkey => get_copy (hkeys key hkey) hrun

theorem said_mergeTarget {table : List (Value × Value)} {before : List Value}
    (hrun : mergeTarget first table before t = .ok m) : said m = said t := by
  obtain ⟨o, -, hrun⟩ := exists_of_bind_eq_ok hrun
  cases o with
  | none =>
    cases hrun
    rfl
  | some o =>
    obtain ⟨t', hcopy, hrun⟩ := exists_of_bind_eq_ok hrun
    obtain ⟨stage, -, hrun⟩ := exists_of_bind_eq_ok hrun
    have hassets : said t' = said t := said_copy (by decide) hcopy
    cases stage with
    | true =>
      cases hrun
      exact hassets
    | false => exact (said_copy (by decide) hrun).trans hassets

theorem said_mergeTargets {table : List (Value × Value)} {before ts ms : List Value}
    (hrun : mergeTargets first table before ts = .ok ms) : ms.map said = ts.map said := by
  induction ts generalizing before ms with
  | nil =>
    cases hrun
    rfl
  | cons t ts ih =>
    obtain ⟨stage, -, hrun⟩ := exists_of_bind_eq_ok hrun
    obtain ⟨m, hm, hrun⟩ := exists_of_bind_eq_ok hrun
    obtain ⟨ms, hms, hrun⟩ := exists_of_bind_eq_ok hrun
    cases hrun
    rw [map_cons, map_cons, said_mergeTarget hm, ih hms]

theorem said_mergeStage {ts ms : List Value} (hrun : mergeStage source ts = .ok ms) :
    ms.map said = ts.map said := by
  induction ts generalizing ms with
  | nil =>
    cases hrun
    rfl
  | cons t ts ih =>
    obtain ⟨stage, -, hrun⟩ := exists_of_bind_eq_ok hrun
    cases stage with
    | true =>
      obtain ⟨m, hm, hrun⟩ := exists_of_bind_eq_ok hrun
      cases hrun
      rw [map_cons, map_cons, said_copy (by decide) hm]
    | false =>
      obtain ⟨ms, hms, hrun⟩ := exists_of_bind_eq_ok hrun
      cases hrun
      rw [map_cons, map_cons, ih hms]

/-- Merging leaves the names, the scripts and the data of all targets alone. -/
theorem said_merge (hrun : merge first project = .ok merged) : ∃ ts ms,
    targetsOf project = .ok ts ∧ targetsOf merged = .ok ms ∧ ms.map said = ts.map said := by
  obtain ⟨listed, -, hrun⟩ := exists_of_bind_eq_ok hrun
  obtain ⟨items, -, hrun⟩ := exists_of_bind_eq_ok hrun
  obtain ⟨table, -, hrun⟩ := exists_of_bind_eq_ok hrun
  obtain ⟨ts, hts, hrun⟩ := exists_of_bind_eq_ok hrun
  obtain ⟨mid, hmid, hrun⟩ := exists_of_bind_eq_ok hrun
  obtain ⟨old, -, hrun⟩ := exists_of_bind_eq_ok hrun
  obtain ⟨stage, -, hrun⟩ := exists_of_bind_eq_ok hrun
  obtain ⟨ms, hms, hrun⟩ : ∃ ms, ms.map said = mid.map said ∧
      (project.getD "meta" (.dict []) >>= fun own => first.getD "meta" own >>= fun information =>
        .ok (put (put project "targets" (.list ms)) "meta" information)) = .ok merged := by
    cases stage with
    | none => exact ⟨mid, rfl, hrun⟩
    | some o =>
      obtain ⟨ms, hms, hrun⟩ := exists_of_bind_eq_ok hrun
      exact ⟨ms, said_mergeStage hms, hrun⟩
  obtain ⟨own, -, hrun⟩ := exists_of_bind_eq_ok hrun
  obtain ⟨information, -, hrun⟩ := exists_of_bind_eq_ok hrun
  cases hrun
  refine ⟨ts, ms, hts, ?_, hms.trans (said_mergeTargets hmid)⟩
  obtain ⟨v, hv, -⟩ := exists_of_bind_eq_ok hts
  obtain ⟨es, rfl, -⟩ := key_eq_ok hv
  rw [targetsOf, put, put, key, item, find?_set_of_ne _ _ (by decide),
    find?_set_self]
  rfl

/-! ### What the listing says -/

/-- The name of the class for a sprite. -/
def className (t : Value) : Except Fault String := do
  let name ← t.getD "name" (.str "Sprite")
  Listing.identifierOf name

/-- The names of the classes for the sprites of a project. -/
def classNames (p : Value) : Except Fault (List String) := do
  let listed ← p.getD "targets" (.list [])
  let ts ← listed.iterate
  let ss ← sprites ts
  ss.mapM className

/-- The text of a class, with a blank line after it. -/
def classText (name : String) (members : List String) : List String :=
  [String.intercalate "\n" (("class " ++ name ++ ":") :: members), ""]

variable {s : Printer} {x text : String}

theorem run_bind_eq_ok {α β : Type} {p : Print α} {f : α → Print β} {b : β}
    (h : ((p >>= f).run s).1 = .ok b) :
    ∃ a s', p.run s = (.ok a, s') ∧ ((f a).run s').1 = .ok b := by
  rw [Listing.Print.run_bind] at h
  rcases hp : p.run s with ⟨e | a, s'⟩
  · rw [hp] at h
    cases h
  · rw [hp] at h
    exact ⟨a, s', rfl, h⟩

theorem run_lift_bind_eq_ok {α β : Type} {x : Except Fault α} {f : α → Print β} {b : β}
    (h : ((Listing.Print.lift x >>= f).run s).1 = .ok b) :
    ∃ a, x = .ok a ∧ ((f a).run s).1 = .ok b := by
  cases x with
  | ok a => exact ⟨a, rfl, h⟩
  | error e => cases h

theorem exists_members (h : ((sprite t).run s).1 = .ok text) :
    ∃ name members, className t = .ok name ∧ classText name members = [text, ""] := by
  obtain ⟨v, hv, h⟩ := run_lift_bind_eq_ok h
  obtain ⟨name, hname, h⟩ := run_lift_bind_eq_ok h
  obtain ⟨blocks, -, h⟩ := run_lift_bind_eq_ok h
  obtain ⟨vars, -, h⟩ := run_lift_bind_eq_ok h
  obtain ⟨lists, -, h⟩ := run_lift_bind_eq_ok h
  obtain ⟨-, s, -, h⟩ := run_bind_eq_ok h
  obtain ⟨es, -, h⟩ := run_lift_bind_eq_ok h
  obtain ⟨-, s, -, h⟩ := run_bind_eq_ok h
  obtain ⟨vs, -, h⟩ := run_lift_bind_eq_ok h
  obtain ⟨ls, -, h⟩ := run_lift_bind_eq_ok h
  obtain ⟨hats, -, h⟩ := run_lift_bind_eq_ok h
  have hclass : className t = .ok name := by
    rw [className, hv]
    exact hname
  dsimp only at h
  split at h
  all_goals
    obtain ⟨methods, s, -, h⟩ := run_bind_eq_ok h
    cases h
    exact ⟨name, _, hclass, rfl⟩

theorem exists_texts {ts : List Value} {lines : List String}
    (h : ((Listing.sprites ts).run s).1 = .ok lines) :
    ∃ ss names bodies, sprites ts = .ok ss ∧ ss.mapM className = .ok names ∧
      bodies.length = names.length ∧ lines = (zipWith classText names bodies).flatten := by
  induction ts generalizing s lines with
  | nil =>
    cases h
    exact ⟨[], [], [], rfl, rfl, rfl, rfl⟩
  | cons t ts ih =>
    obtain ⟨stage, hstage, h⟩ := run_lift_bind_eq_ok h
    have hsprites : ∀ ss, sprites ts = .ok ss →
        sprites (t :: ts) = .ok (if stage then ss else t :: ss) := by
      intro ss hss
      rw [sprites, show isStage t = .ok stage from hstage, hss]
      rfl
    cases stage with
    | true =>
      obtain ⟨ss, names, bodies, hss, htexts⟩ := ih h
      exact ⟨ss, names, bodies, hsprites ss hss, htexts⟩
    | false =>
      obtain ⟨text, s, htext, h⟩ := run_bind_eq_ok h
      obtain ⟨more, s, hmore, h⟩ := run_bind_eq_ok h
      cases h
      obtain ⟨name, members, hname, hmembers⟩ := exists_members (congrArg fst htext)
      obtain ⟨ss, names, bodies, hss, hnames, hlength, rfl⟩ := ih (congrArg fst hmore)
      refine ⟨t :: ss, name :: names, members :: bodies, hsprites ss hss, ?_,
        congrArg (· + 1) hlength, ?_⟩
      · rw [mapM_cons, hname, hnames]
        rfl
      · rw [zipWith_cons_cons, flatten_cons, hmembers]
        rfl

/-- **The listing has a class for each sprite**, headed by the identifier of its name. -/
theorem exists_classes (h : ofProject first = .ok text) :
    ∃ names bodies lines, classNames first = .ok names ∧ bodies.length = names.length ∧
      text = String.intercalate "\n"
        (heading ++ lines ++ (zipWith classText names bodies).flatten) := by
  obtain ⟨listed, hlisted, h⟩ := run_lift_bind_eq_ok h
  obtain ⟨ts, hts, h⟩ := run_lift_bind_eq_ok h
  obtain ⟨lines, -, h⟩ := run_lift_bind_eq_ok h
  obtain ⟨texts, s, htexts, h⟩ := run_bind_eq_ok h
  cases h
  obtain ⟨ss, names, bodies, hss, hnames, hlength, rfl⟩ := exists_texts (congrArg fst htexts)
  refine ⟨names, bodies, lines, ?_, hlength, rfl⟩
  rw [classNames, hlisted]
  change (listed.iterate >>= fun ts => sprites ts >>= fun ss => ss.mapM className) = _
  rw [hts]
  change (sprites ts >>= fun ss => ss.mapM className) = _
  rw [hss]
  exact hnames

theorem identifierChars_of_identifierPiece {v : Value} {cs : List Char}
    (h : identifierPiece v = .ok cs) : identifierChars cs = cs := by
  obtain ⟨text, -, h⟩ := exists_of_bind_eq_ok h
  cases h
  split
  · next hall =>
    rw [Bool.and_eq_true, List.all_eq_true] at hall
    refine (map_congr_left fun c hc => ?_).trans (List.map_id _)
    exact if_pos (hall.2 c hc)
  · decide

/-- A name of a class is its own identifier, whatever the sprite is called. -/
theorem identifier_of_className {name : String} (h : className t = .ok name) :
    identifier name = name := by
  obtain ⟨v, -, h⟩ := exists_of_bind_eq_ok h
  have hpieces : (v.iterate >>= fun pieces => pieces.mapM identifierPiece >>= fun css =>
      .ok (closeIdentifier css.flatten)) = .ok name → identifier name = name := by
    intro h
    obtain ⟨pieces, -, h⟩ := exists_of_bind_eq_ok h
    obtain ⟨css, hcss, h⟩ := exists_of_bind_eq_ok h
    cases h
    have hall := forall_of_mapM (fun _ _ _ => identifierChars_of_identifierPiece) hcss
    refine identifier_closeIdentifier ?_
    rw [identifierChars, map_flatten]
    exact congrArg flatten ((map_congr_left hall).trans (List.map_id css))
  cases v with
  | str s =>
    cases h
    exact identifier_identifier s
  | _ => exact hpieces h

/-! ### References -/

/-- A sprite of the project has the name. -/
def HasSprite (p : Value) (name : String) : Prop :=
  ∃ ts, targetsOf p = .ok ts ∧ ∃ t ∈ ts, isStage t = .ok false ∧ t.get "name" = .ok (.str name)

theorem mem_sprites {ts ss : List Value} (h : sprites ts = .ok ss) (ht : t ∈ ts)
    (hstage : isStage t = .ok false) : t ∈ ss := by
  induction ts generalizing ss with
  | nil => cases ht
  | cons t' ts ih =>
    obtain ⟨stage, hstage', h⟩ := exists_of_bind_eq_ok h
    obtain ⟨ss', hss', h⟩ := exists_of_bind_eq_ok h
    cases h
    rcases mem_cons.1 ht with rfl | ht
    · cases hstage.symm.trans hstage'
      exact .head _
    · split
      · exact ih hss' ht
      · exact .tail _ (ih hss' ht)

theorem className_of_get (h : t.get "name" = .ok (.str x)) :
    className t = .ok (identifier x) := by
  cases t with
  | dict es =>
    have hfind : (Table.find? es "name").getD .null = .str x := ok.inj h
    cases hes : Table.find? es "name" with
    | none =>
      rw [hes] at hfind
      cases hfind
    | some v =>
      rw [hes] at hfind
      have hname : (dict es).getD "name" (.str "Sprite") = .ok (.str x) := by
        change ok ((Table.find? es "name").getD _) = _
        rw [hes]
        exact congrArg ok hfind
      rw [className, hname]
      rfl
  | _ => cases h

/-- The class for a sprite with a name is one of those for its project. -/
theorem HasSprite.identifier_mem (h : HasSprite first x) {names : List String}
    (hnames : classNames first = .ok names) : identifier x ∈ names := by
  obtain ⟨ts, hts, t, ht, hstage, hname⟩ := h
  obtain ⟨v, hv, hitems⟩ := exists_of_bind_eq_ok hts
  obtain ⟨es, rfl, hfind⟩ := key_eq_ok hv
  obtain ⟨listed, hlisted, hrun⟩ := exists_of_bind_eq_ok hnames
  obtain ⟨ts', hts', hrun⟩ := exists_of_bind_eq_ok hrun
  obtain ⟨ss, hss, hmap⟩ := exists_of_bind_eq_ok hrun
  change ok ((Table.find? es "targets").getD _) = .ok listed at hlisted
  rw [hfind] at hlisted
  rw [← ok.inj hlisted] at hts'
  have hsame : ts = ts' := ok.inj (hitems.symm.trans hts')
  obtain ⟨n, hn, htn⟩ := Core.exists_of_forall₂ (forall₂_of_mapM hmap).flip
    (mem_sprites hss (hsame ▸ ht) hstage)
  rwa [ok.inj ((className_of_get hname).symm.trans htn)]

theorem identifier_of_mem_classNames {names : List String} (h : classNames first = .ok names) :
    ∀ n ∈ names, identifier n = n := by
  obtain ⟨listed, -, h⟩ := exists_of_bind_eq_ok h
  obtain ⟨ts, -, h⟩ := exists_of_bind_eq_ok h
  obtain ⟨ss, -, h⟩ := exists_of_bind_eq_ok h
  exact forall_of_mapM (fun _ _ _ => identifier_of_className) h

/-- A target of a project has the name and the scripts of a target of a program. -/
def Bears (m : Value) (t : Target) : Prop :=
  isStage m = .ok false ∧ m.get "name" = .ok (.str t.name) ∧
    m.get "blocks" = .ok (Target.blocksValue t.blocks)

theorem bears_of_said {s : Sprite} {t : Target} (hs : Core.Presents s t)
    (hm : said m = said s.toValue) : Bears m t := by
  have hget := map_inj_left.1 hm
  refine ⟨?_, (hget "name" (by decide)).trans (congrArg ok hs.name),
    (hget "blocks" (by decide)).trans (congrArg ok hs.blocks)⟩
  rw [isStage, hget "isStage" (by decide)]
  rfl

theorem bears_of_map_said {ss : List Sprite} {ts : List Target} (h : Forall₂ Core.Presents ss ts)
    {ms : List Value} (hms : ms.map said = (ss.map (·.toValue)).map said) :
    Forall₂ Bears ms ts := by
  induction h generalizing ms with
  | nil =>
    rw [map_eq_nil_iff.1 hms]
    exact .nil
  | cons hs _ ih =>
    obtain ⟨m, ms, rfl, hm, hms⟩ := map_eq_cons_iff.1 hms
    exact .cons (bears_of_said hs hm) (ih hms)

/-- The way of a project through a program and back: it is listed, the listing is compiled, the
project for it is put together, and merged with the first one. -/
structure Returns (first : Value) (text : String) (c : Compilation) (merged : Value) : Prop where
  listed : Listing.ofProject first = .ok text
  compiled : ∃ w w', (Build.compile text).run w = (.ok c, w')
  merges : ∃ r base a, (Assembly.ofResult r base c.toValue).CanEnd (.ok a) ∧
    merge first a.project.toValue = .ok merged

variable {c : Compilation}

/-- The targets that come back are a stage and the targets of the program. -/
theorem Returns.exists_targets (h : Returns first text c merged) : ∃ stage ms,
    targetsOf merged = .ok (stage :: ms) ∧ isStage stage = .ok true ∧
      Forall₂ Bears ms c.targets := by
  obtain ⟨r, base, a, hend, hmerge⟩ := h.merges
  have hpresents := Assembly.presents_of_ofResult r base c a hend
  obtain ⟨ts, ms, hts, hms, hsaid⟩ := said_merge hmerge
  cases hts
  obtain ⟨stage, ms, rfl, hstage, hms'⟩ := map_eq_cons_iff.1 hsaid
  refine ⟨stage, ms, hms, ?_, ?_⟩
  · rw [isStage, map_inj_left.1 hstage "isStage" (by decide)]
    rfl
  · exact bears_of_map_said hpresents hms'

theorem hasSprite_iff {stage : Value} {ms : List Value} {ts : List Target}
    (htargets : targetsOf merged = .ok (stage :: ms)) (hstage : isStage stage = .ok true)
    (hms : Forall₂ Bears ms ts) : HasSprite merged x ↔ ∃ t ∈ ts, t.name = x := by
  constructor
  · rintro ⟨ms', hms', m, hm, hfalse, hname⟩
    cases htargets.symm.trans hms'
    rcases mem_cons.1 hm with rfl | hm
    · cases hstage.symm.trans hfalse
    · obtain ⟨t, ht, -, hbears, -⟩ := Core.exists_of_forall₂ hms.flip hm
      cases hbears.symm.trans hname
      exact ⟨t, ht, rfl⟩
  · rintro ⟨t, ht, rfl⟩
    obtain ⟨m, hm, hfalse, hname, -⟩ := Core.exists_of_forall₂ hms ht
    exact ⟨_, htargets, m, .tail _ hm, hfalse, hname⟩

/-- **What becomes of references to sprites.** The sprites that come back have the names and the
scripts of the classes that were read, so the menus in the scripts refer to sprites by the names of
classes. If these are the classes that were written, one for the identifier of each name, then a name
of a first sprite is the name of a sprite again exactly if it is its own identifier. -/
theorem reference_kept_iff (h : Returns first text c merged) :
    (∃ stage ms, targetsOf merged = .ok (stage :: ms) ∧ List.Forall₂ Bears ms c.targets) ∧
    (∀ x, HasSprite merged x ↔ ∃ t ∈ c.targets, t.name = x) ∧
    ∃ names bodies lines, classNames first = .ok names ∧ bodies.length = names.length ∧
      text = String.intercalate "\n"
        (Listing.heading ++ lines ++ (List.zipWith classText names bodies).flatten) ∧
      (c.targets.map (·.name) = names →
        ∀ x, HasSprite first x → (HasSprite merged x ↔ Listing.identifier x = x)) := by
  obtain ⟨stage, ms, htargets, hstage, hms⟩ := h.exists_targets
  obtain ⟨names, bodies, lines, hnames, hlength, htext⟩ := exists_classes h.listed
  have hiff := fun x => hasSprite_iff htargets hstage hms (x := x)
  refine ⟨⟨stage, ms, htargets, hms⟩, hiff, names, bodies, lines, hnames, hlength, htext, ?_⟩
  rintro rfl x hx
  rw [hiff x, ← List.mem_map]
  constructor
  · exact identifier_of_mem_classNames hnames x
  · intro heq
    rw [← heq]
    exact hx.identifier_mem hnames

/-- A project with a dog that waits until it touches the sprite `My Cat`. -/
def waitingProject : Value :=
  .dict
    [("targets", .list
      [.dict [("isStage", .bool true), ("name", .str "Stage")],
      .dict [("isStage", .bool false), ("name", .str "My Cat")],
      .dict
        [("isStage", .bool false), ("name", .str "Dog"),
          ("blocks", .dict
            [("a", .dict [("opcode", .str "event_whenflagclicked"), ("topLevel", .bool true),
              ("next", .str "b")]),
            ("b", .dict [("opcode", .str "control_wait_until"),
              ("inputs", .dict [("CONDITION", .list [.int 2, .str "c"])])]),
            ("c", .dict [("opcode", .str "sensing_touchingobject"),
              ("inputs", .dict [("TOUCHINGOBJECTMENU", .list [.int 1, .str "d"])])]),
            ("d", .dict [("opcode", .str "sensing_touchingobjectmenu"),
              ("fields", .dict [("TOUCHINGOBJECTMENU", .list [.str "My Cat", .null])])])])]])]

/-- What comes back of a project if nothing is published, with the program in between. -/
def returned? (first : Value) : Option (String × Compilation × Value) := do
  let text ← (Listing.ofProject first).toOption
  let c ← ((Build.compile text).run {}).1.toOption
  let a ← (Assembly.ofResult none .null c.toValue).result?
  let merged ← (merge first a.project.toValue).toOption
  some (text, c, merged)

theorem returns_of_returned? (h : returned? first = some (text, c, merged)) :
    Returns first text c merged := by
  have hok : ∀ {α : Type} {x : Except Fault α} {y : α}, x.toOption = some y → x = .ok y := by
    rintro α (e | y') y h
    · cases h
    · exact congrArg ok (some.inj h)
  obtain ⟨text', htext, h⟩ := bind_eq_some_iff.1 h
  obtain ⟨c', hc, h⟩ := bind_eq_some_iff.1 h
  obtain ⟨a, ha, h⟩ := bind_eq_some_iff.1 h
  obtain ⟨merged', hmerged, h⟩ := bind_eq_some_iff.1 h
  cases h
  refine ⟨hok htext, ⟨_, _, Prod.ext (hok hc) rfl⟩, none, .null, a, ?_, hok hmerged⟩
  rw [Action.eq_done_of_result? ha]
  exact .done _

/-- The names in the menus of a target for what it can touch. -/
def menuNames (t : Target) : List String :=
  t.blocks.filterMap fun p => (p.2.fields.find? "TOUCHINGOBJECTMENU").bind fun f => f.value.string?

/-- The dog comes back with its menu, and the cat under another name. -/
theorem exists_returns_waitingProject : ∃ text c merged, Returns waitingProject text c merged ∧
    c.targets.map (·.name) = ["My_Cat", "Dog"] ∧ c.targets.map menuNames = [[], ["My Cat"]] := by
  have hseen : (returned? waitingProject).map (fun x =>
      (x.2.1.targets.map (·.name), x.2.1.targets.map menuNames)) =
      some (["My_Cat", "Dog"], [[], ["My Cat"]]) := by
    decide +kernel
  obtain ⟨⟨text, c, merged⟩, hreturned, hseen⟩ := map_eq_some_iff.1 hseen
  obtain ⟨hnames, hmenus⟩ := mk.inj hseen
  exact ⟨text, c, merged, returns_of_returned? hreturned, hnames, hmenus⟩

theorem hasSprite_waitingProject : HasSprite waitingProject "My Cat" :=
  ⟨_, rfl, _, .tail _ (.head _), rfl, rfl⟩

/-- Nothing that comes back is called `My Cat`. -/
theorem reference_kept_iff_waitingProject : ∃ text c merged, Returns waitingProject text c merged ∧
    HasSprite waitingProject "My Cat" ∧ ¬HasSprite merged "My Cat" := by
  obtain ⟨text, c, merged, hreturns, hnames, -⟩ := exists_returns_waitingProject
  obtain ⟨-, -, names, -, -, hclasses, -, -, hkept⟩ := reference_kept_iff hreturns
  have hwritten : classNames waitingProject = .ok ["My_Cat", "Dog"] := by decide +kernel
  cases hclasses.symm.trans hwritten
  refine ⟨text, c, merged, hreturns, hasSprite_waitingProject, fun h => ?_⟩
  exact absurd ((hkept hnames "My Cat" hasSprite_waitingProject).1 h) (by decide +kernel)

/-- A menu that comes back names a sprite of the first project that no longer has this name. -/
theorem reference_lost_waitingProject : ∃ text c merged, Returns waitingProject text c merged ∧
    HasSprite waitingProject "My Cat" ∧ (∃ t ∈ c.targets, "My Cat" ∈ menuNames t) ∧
    ¬HasSprite merged "My Cat" := by
  obtain ⟨text, c, merged, hreturns, hnames, hmenus⟩ := exists_returns_waitingProject
  obtain ⟨stage, ms, htargets, hstage, hms⟩ := hreturns.exists_targets
  refine ⟨text, c, merged, hreturns, hasSprite_waitingProject, ?_, ?_⟩
  · have hmem : ["My Cat"] ∈ c.targets.map menuNames := hmenus ▸ by decide
    obtain ⟨t, ht, hmenu⟩ := List.mem_map.1 hmem
    exact ⟨t, ht, hmenu ▸ List.mem_singleton_self _⟩
  · rw [hasSprite_iff htargets hstage hms, ← List.mem_map, hnames]
    decide

end Merge

end BlockScript
