import BlockScript.Proofs.RoundTrip

/-!
# Sprites that are listed without a method

A method of a listed sprite is named after the event that starts its script. Two events have no such
name, so their scripts are left out. If a sprite has nothing else, only the first line of its class
is written (`Target.Muted.sprite_gives`), without the line that stands in for the members of a sprite
without scripts. A class without members is not part of the language, so neither is the whole
listing: among plain classes, one such sprite is enough for the listing not to be a program
(`Page.parse?_eq_none`, `listing_readable_iff`).
-/

namespace BlockScript

open Program Program.Token Listing Build Core.Sheet Except List Listing.Print Program.Parser

/-- The events that start a script without a method. -/
def mutedEvents : List String := ["event_whenbackdropswitchesto", "event_whengreaterthan"]

/-- All scripts of the sprite start with an event without a method, and there is nothing else that
would be listed or looked up. -/
structure Target.Muted (t : Target) : Prop where
  name : Core.isPlainName t.name = true
  vars : t.vars = []
  lists : t.lists = []
  events : ∀ p ∈ t.blocks, hatOpcodes.contains p.2.opcode = true → p.2.opcode ∈ mutedEvents
  exists_script : ∃ p ∈ t.blocks, p.2.topLevel = true ∧ p.2.opcode ∈ mutedEvents
  silent : t.soundsUsed = some [] ∧ t.settings = none

/-- A test for muted sprites. -/
def Target.isMuted (t : Target) : Bool :=
  Core.isPlainName t.name && t.vars.isEmpty && t.lists.isEmpty &&
    (t.blocks.all fun p => !hatOpcodes.contains p.2.opcode || mutedEvents.contains p.2.opcode) &&
    (t.blocks.any fun p => p.2.topLevel && mutedEvents.contains p.2.opcode) &&
    t.soundsUsed.any List.isEmpty && t.settings.isNone

theorem Target.muted_of_isMuted {t : Target} (h : t.isMuted) : t.Muted := by
  simp only [isMuted, Bool.and_eq_true, List.isEmpty_iff, all_eq_true, any_eq_true,
    Bool.or_eq_true, Bool.not_eq_true', Option.any_eq_true, Option.isNone_iff_eq_none] at h
  obtain ⟨⟨⟨⟨⟨⟨hname, hvars⟩, hlists⟩, hevents⟩, p, hp, htop, hopcode⟩, sounds, hsounds, rfl⟩,
    hsettings⟩ := h
  refine ⟨hname, hvars, hlists, fun p hp hhat => ?_, ⟨p, hp, htop, contains_iff_mem.1 hopcode⟩,
    hsounds, hsettings⟩
  rcases hevents p hp with hnot | hmuted
  · exact absurd (hhat.symm.trans hnot) (by decide)
  · exact contains_iff_mem.1 hmuted

/-! ### The listing -/

theorem methodName_of_muted {b : Block}
    (h : hatOpcodes.contains b.opcode → b.opcode ∈ mutedEvents) (blocks : Value) :
    methodName blocks b.toValue = .ok "" := by
  have hname : ∀ x ∈ hatOpcodes, x ∉ mutedEvents → b.opcode ≠ x := by
    rintro x hx hnot rfl
    exact hnot (h (contains_iff_mem.2 hx))
  have hopcode : b.toValue.getD "opcode" (.str "") = .ok (.str b.opcode) := rfl
  obtain ⟨fields, hfields⟩ : ∃ fields, b.toValue.getD "fields" (.dict []) = .ok fields := ⟨_, rfl⟩
  rw [methodName, hopcode, hfields]
  dsimp only [bind, Except.bind]
  split
  all_goals first
    | rfl
    | next heq => exact absurd (Value.str.inj heq) (hname _ (by decide) (by decide))

namespace Target.Muted

variable {t : Target}

theorem script_gives (h : t.Muted) (id : String) (hid : id ∈ t.blocks.keys) :
    Print.Gives (script (blocksValue t.blocks) (.str id)) "" := by
  obtain ⟨b, hb⟩ := Table.mem_keys_iff.1 hid
  refine gives_bind (gives_lift (blockOf_blocksValue hb)) ?_
  refine gives_bind (gives_lift (methodName_of_muted ?_ _)) ?_
  · exact h.events (id, b) (Table.mem_of_find? hb)
  · exact gives_pure _

theorem scripts_gives (h : t.Muted) {ids : List String} (hids : ids ⊆ t.blocks.keys) :
    Print.Gives (scripts (blocksValue t.blocks) ids) [] := by
  induction ids with
  | nil => exact gives_pure _
  | cons id ids ih =>
    obtain ⟨hid, hids⟩ := cons_subset.1 hids
    refine gives_bind (h.script_gives id hid) ?_
    exact gives_bind (ih hids) (gives_pure _)

/-- **Only the first line of the class is listed.** -/
theorem sprite_gives (h : t.Muted) {s : Sprite} (hs : Core.Presents s t) :
    Print.Gives (Listing.sprite s.toValue) ("class " ++ t.name ++ ":") := by
  have hclass : identifierOf s.name = .ok t.name := by
    rw [hs.name]
    exact congrArg ok (identifier_of_isPlainName h.name)
  have hblocks : s.toValue.getD "blocks" (.dict []) = .ok (blocksValue t.blocks) :=
    congrArg ok hs.blocks
  have hvars : s.toValue.getD "variables" (.dict []) = .ok (.dict []) := by
    rw [← show variablesValue t.vars = .dict [] by rw [h.vars]; rfl]
    exact congrArg ok hs.vars
  have hlists : s.toValue.getD "lists" (.dict []) = .ok (.dict []) := by
    rw [← show listsValue t.lists = .dict [] by rw [h.lists]; rfl]
    exact congrArg ok hs.lists
  refine gives_bind (gives_lift (r := s.toValue.getD "name" (.str "Sprite")) rfl) ?_
  refine gives_bind (gives_lift hclass) ?_
  refine gives_bind (gives_lift hblocks) ?_
  refine gives_bind (gives_lift hvars) ?_
  refine gives_bind (gives_lift hlists) ?_
  refine gives_bind (gives_modify _) ?_
  refine gives_bind (gives_lift (r := (blocksValue t.blocks).entries) rfl) ?_
  refine gives_bind (gives_forM ?_) ?_
  · intro p hp
    obtain ⟨q, hq, rfl⟩ := mem_map.1 hp
    refine Core.noteProcedure_gives _ _ fun hdefinition => ?_
    exact absurd (h.events q hq (by rw [hdefinition]; decide)) (by rw [hdefinition]; decide)
  refine gives_bind (gives_lift (a := []) rfl) ?_
  refine gives_bind (gives_lift (a := []) rfl) ?_
  refine gives_bind (gives_lift (Core.hats_blocksValue t.blocks)) ?_
  have hnonempty : ¬((t.blocks.filter fun p =>
      p.2.topLevel && hatOpcodes.contains p.2.opcode).map Prod.fst).isEmpty := by
    obtain ⟨p, hp, htop, hopcode⟩ := h.exists_script
    have hhat : hatOpcodes.contains p.2.opcode := by
      generalize p.2.opcode = x at hopcode
      revert x
      decide
    rw [List.isEmpty_iff, map_eq_nil_iff, filter_eq_nil_iff]
    exact fun hnone => hnone p hp (by rw [htop, hhat]; rfl)
  rw [if_neg hnonempty]
  refine gives_bind (h.scripts_gives fun id hid => ?_) (gives_pure _)
  obtain ⟨p, hp, rfl⟩ := mem_map.1 hid
  exact mem_map_of_mem (mem_of_mem_filter hp)

end Target.Muted

/-! ### Why it cannot be read -/

namespace Core

/-- The tokens of the first line of a class. -/
def headerTokens (name : String) : List Token :=
  [.keyword "class", .name name, .op ":", .newline]

/-- A class needs members. -/
theorem statement_headerTokens (n : Nat) (name : String) {rest : List Token}
    (h : rest.head? ≠ some .indent) :
    (Grammar.ofDepth (n + 1)).statement (headerTokens name ++ rest) = none := by
  cases rest with
  | nil => rfl
  | cons t rest =>
    cases t with
    | indent => exact absurd rfl h
    | _ => rfl

/-- Statements that are read do not help if the next one is refused. -/
theorem statements_eq_none {g : Grammar} {ts us : List Token} {ss : List Stmt}
    (h : Grammar.Reads g ts ss us) (hat : Grammar.atStatement us = some (true, us))
    (hus : g.statement us = none) : g.statements ts = none := by
  have hlength := h.1
  obtain ⟨k, hk⟩ : ∃ k, ts.length + 1 = k + 1 + ss.length := ⟨ts.length - ss.length, by omega⟩
  have hall : repeated Grammar.atStatement g.statement ts = none := by
    rw [repeated, hk, h.2]
    have hstop : repeatedAux Grammar.atStatement g.statement (k + 1) us = none := by
      refine (bind_some hat).trans ?_
      change Option.bind (g.statement us) _ = none
      rw [hus]
      rfl
    rw [hstop]
    rfl
  change Option.bind _ _ = none
  rw [hall]
  rfl

theorem parse?_eq_none {text : String} (hsafe : ∀ c ∈ text.toList, isSafe c) {q : Prop}
    [Decidable q] {ts : List Token} (hscan : scan? text.toList = if q then some ts else none)
    (hnone : q → (Grammar.ofDepth (2 * text.toList.length + 8)).statements ts = none) :
    parse? text = none := by
  have hnul : text.toList.contains (Char.ofNat 0) = false := by
    rw [contains_eq_mem, decide_eq_false_iff_not]
    exact fun hmem => absurd (hsafe _ hmem) (by decide)
  rw [parse?, hnul, hscan]
  by_cases hq : q
  · rw [if_pos hq]
    simp [hnone hq]
  · rw [if_neg hq]
    rfl

/-! ### Listings of classes and first lines -/

/-- Only the first line of a class. -/
def headerPage (name : String) : Page := ⟨["class " ++ name ++ ":"], headerTokens name, true⟩

theorem legible_headerPage {name : String} (h : isPlainName name) :
    (headerPage name).Legible := by
  -- the line is also the first line of a class without variables and methods
  let header : Sheet := ⟨⟨name, none, []⟩, []⟩
  have hheader : header.Legible := ⟨h, forall_mem_nil _, forall_mem_nil _⟩
  have hline := readsLines_line 0 hheader.reads_header
  have hchars : unlines (headerPage name).lines = header.header.toList ++ ['\n'] :=
    append_nil _
  refine ⟨cons_ne_nil _ _, ?_⟩
  rw [hchars]
  exact hline.congr (iff_of_true (by decide) rfl)

/-- The page for a sprite: that of its class, or only the first line if there is none. -/
def Page.of : Option Class → Target → Page
  | some c, t => (Sheet.of c t).page
  | none, t => headerPage t.name

/-- The sprite belongs to a plain class and can be listed, or it is muted. -/
def Shows : Option Class → Target → Prop
  | some c, t => Lists c t
  | none, t => t.Muted

variable {os : List (Option Class)} {ts : List Target}

theorem Shows.legible (h : Forall₂ Shows os ts) :
    ∀ p ∈ zipWith Page.of os ts, p.Legible := by
  induction h with
  | nil => exact forall_mem_nil _
  | @cons o t _ _ ho _ ih =>
    refine forall_mem_cons.2 ⟨?_, ih⟩
    cases o with
    | none => exact legible_headerPage ho.name
    | some c => exact (Lists.legible ho).1.page

theorem Shows.silent (h : Forall₂ Shows os ts) :
    ∀ t ∈ ts, t.soundsUsed = some [] ∧ t.settings = none := by
  induction h with
  | nil => exact forall_mem_nil _
  | @cons o t _ _ ho _ ih =>
    refine forall_mem_cons.2 ⟨?_, ih⟩
    cases o with
    | none => exact Target.Muted.silent ho
    | some c => exact Lists.silent (.cons ho .nil) t (mem_singleton_self t)

theorem Shows.givesLines (h : Forall₂ Shows os ts) {ss : List Sprite}
    (hs : Forall₂ Presents ss ts) :
    Forall₂ GivesLines ss ((zipWith Page.of os ts).map Page.lines) := by
  induction h generalizing ss with
  | nil =>
    cases hs
    exact .nil
  | @cons o t _ _ ho _ ih =>
    obtain _ | ⟨hsprite, hss⟩ := hs
    refine .cons ?_ (ih hss)
    cases o with
    | none => exact ⟨cons_ne_nil _ _, ho.sprite_gives hsprite⟩
    | some c =>
      have hgives := Class.sprite_gives ho.isPlain ho.realized ho.listable hsprite
      exact ⟨lines_ne_nil _, hgives⟩

/-- Before the first muted sprite there are only classes, and after it nothing is indented. -/
theorem Shows.exists_pages (h : Forall₂ Shows os ts) (hnone : none ∈ os) :
    ∃ (ss : List Sheet) (name : String) (ps : List Page), (∀ s ∈ ss, s.Legible) ∧
      (ps.flatMap Page.tokens).head? ≠ some .indent ∧
      zipWith Page.of os ts = ss.map page ++ headerPage name :: ps := by
  induction h with
  | nil => cases hnone
  | @cons o t os ts ho hos ih =>
    cases o with
    | none =>
      refine ⟨[], t.name, zipWith Page.of os ts, forall_mem_nil _, ?_, rfl⟩
      cases hos with
      | nil => exact fun h => by cases h
      | @cons o _ _ _ _ _ => cases o <;> exact fun h => by cases h
    | some c =>
      have hmem : none ∈ os := (mem_cons.1 hnone).resolve_left fun h => by cases h
      obtain ⟨ss, name, ps, hss, hps, hpages⟩ := ih hmem
      refine ⟨of c t :: ss, name, ps, ?_, hps, ?_⟩
      · exact forall_mem_cons.2 ⟨(Lists.legible ho).1, hss⟩
      · rw [zipWith_cons_cons, hpages]
        rfl

/-- Without muted sprites there are only classes. -/
theorem Shows.exists_classes (h : Forall₂ Shows os ts) (hnone : none ∉ os) :
    ∃ cs, os = cs.map some ∧ Forall₂ Lists cs ts ∧
      zipWith Page.of os ts = (zipWith of cs ts).map page := by
  induction h with
  | nil => exact ⟨[], rfl, .nil, rfl⟩
  | @cons o t os ts ho _ ih =>
    rw [mem_cons, not_or] at hnone
    obtain ⟨cs, rfl, hcs, hpages⟩ := ih hnone.2
    cases o with
    | none => exact absurd rfl hnone.1
    | some c =>
      refine ⟨c :: cs, rfl, .cons ho hcs, ?_⟩
      rw [zipWith_cons_cons, hpages]
      rfl

/-- **Only the first line of a class is not part of a program**, whatever stands around it. -/
theorem Page.parse?_eq_none {ss : List Sheet} {name : String} {ps : List Page}
    (hss : ∀ s ∈ ss, s.Legible) (h : ∀ p ∈ ss.map page ++ headerPage name :: ps, p.Legible)
    (hps : (ps.flatMap tokens).head? ≠ some .indent) {text : String}
    (htext : text.toList = listing (ss.map page ++ headerPage name :: ps)) :
    parse? text = none := by
  have hscan := scan?_listing h
  have hsafe := (readsLines_listing h).safe
  have hlength := (readsLines_listing h).length_le
  rw [← htext] at hscan hsafe hlength
  refine Core.parse?_eq_none hsafe hscan fun hfits => ?_
  replace hlength := hlength hfits
  rw [flatMap_append, flatMap_map, length_append, length_append] at hlength
  have hsheets : ∀ s ∈ ss, Heads Grammar.beginsStatement s.tokens ∧
      ∀ us, (Grammar.ofDepth (2 * text.toList.length + 8)).statement (s.tokens ++ us) =
        some ([s.stmt], us) := by
    intro s hs
    have hs' := length_tokens_le (f := fun s : Sheet => s.page.tokens) hs
    exact ⟨heads_cons rfl _, statement_tokens (h := hss s hs) (hs'.trans (by omega))⟩
  have hreads := (reads_heading (by omega) _).append
    (Grammar.reads_flatMap hsheets (headerTokens name ++ ps.flatMap tokens))
  have hrefused : (Grammar.ofDepth (2 * text.toList.length + 8)).statement
      (headerTokens name ++ ps.flatMap tokens) = none := statement_headerTokens _ name hps
  rw [flatMap_append, flatMap_map]
  exact statements_eq_none hreads rfl hrefused

/-! ### Projects -/

/-- **A listing can be read back exactly if no sprite is muted and nothing is nested too deeply.** -/
theorem listing_readable_iff {c : Compilation} (h : List.Forall₂ Shows os c.targets)
    (hstage : c.stage = none) {r : Option Resources}
    (hr : ∀ x ∈ r, Catalog.Recorded x.catalog.sprites) (base : Value) :
    ∃ a text, Assembly.ofResult r base c.toValue = .done (.ok a) ∧
      Listing.ofProject a.project.toValue = .ok text ∧
      (parse? text ≠ none ↔ ∀ o ∈ os, ∃ k, o = some k ∧ k.fits = true) := by
  obtain ⟨a, hassembly, hpresents⟩ := Assembly.ofResult_of_silent hr base hstage (Shows.silent h)
  obtain ⟨text, hlisting, htext⟩ := ofProject_of_lines (Shows.givesLines h hpresents)
  rw [List.flatMap_map] at htext
  change text.toList = Page.listing _ at htext
  refine ⟨a, text, hassembly, hlisting, ?_⟩
  by_cases hnone : none ∈ os
  · obtain ⟨ss, name, ps, hss, hps, hpages⟩ := Shows.exists_pages h hnone
    have hlegible := Shows.legible h
    rw [hpages] at hlegible htext
    rw [Page.parse?_eq_none hss hlegible hps htext]
    refine ⟨fun h => absurd rfl h, fun h => ?_⟩
    obtain ⟨k, hk, -⟩ := h none hnone
    cases hk
  · obtain ⟨cs, rfl, hcs, hpages⟩ := Shows.exists_classes h hnone
    rw [hpages, ← Sheet.listing_eq] at htext
    rw [parse?_of_lists hcs htext, List.forall_mem_map]
    split
    · next hall =>
      rw [List.all_eq_true] at hall
      exact iff_of_true (Option.some_ne_none _) fun k hk => ⟨k, rfl, hall k hk⟩
    · next hall =>
      refine iff_of_false (fun h => h rfl) fun h => hall (List.all_eq_true.2 fun k hk => ?_)
      obtain ⟨k', hk', hfits⟩ := h k hk
      cases hk'
      exact hfits

/-- A sprite that moves when the backdrop becomes a cave. -/
def caveSource : String := "class Cat:\n    def when_backdrop_cave(self):\n        move(1)\n"

/-- The program compiles, and what is listed for it is not a program. -/
theorem listing_readable_iff_caveSource :
    ∃ c w a text, (compile caveSource).run {} = (.ok c, w) ∧
      Assembly.ofResult none .null c.toValue = .done (.ok a) ∧
      Listing.ofProject a.project.toValue = .ok text ∧ parse? text = none := by
  have hseen : ((compile caveSource).run {}).1.toOption.map (fun c =>
      (c.stage.isNone, c.targets.map Target.isMuted)) = some (true, [true]) := by
    decide +kernel
  obtain ⟨c, w, hrun, hseen⟩ := exists_of_run_map hseen
  obtain ⟨hstage, htargets⟩ := Prod.mk.inj hseen
  obtain ⟨t, ts, hc, ht, hnil⟩ := List.map_eq_cons_iff.1 htargets
  rw [List.map_eq_nil_iff.1 hnil] at hc
  have hshows : List.Forall₂ Shows [none] c.targets := by
    rw [hc]
    exact .cons (Target.muted_of_isMuted ht) .nil
  obtain ⟨a, text, hassembly, hlisting, hiff⟩ := listing_readable_iff hshows
    (Option.isNone_iff_eq_none.1 hstage) (r := none) (fun x hx => by cases hx) .null
  refine ⟨c, w, a, text, hrun, hassembly, hlisting, Classical.byContradiction fun hne => ?_⟩
  obtain ⟨k, hk, -⟩ := hiff.1 hne none (List.mem_singleton_self _)
  cases hk

end Core

end BlockScript
