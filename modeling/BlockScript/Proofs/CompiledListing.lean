import BlockScript.Proofs.CoreAssembly
import BlockScript.Proofs.Integrity
import BlockScript.Proofs.ListingEnds

/-!
# Compiled programs can be listed

The scripts of a compiled program have no circles: the references between statements lead to later
ones, and no way from block to block goes on without an end. So a listing, which follows these ways
without noting where it was, comes to an end: on each block, on each script, and on every project
that can be put together from the program (`Build.acyclic_of_compile`).

Putting a project together asks for files and pictures. What it is answered is left open
(`Action.CanEnd`); the sprites of the project are the targets of the program in any case
(`Assembly.presents_of_ofResult`).
-/

namespace BlockScript

open Except List

/-! ### What an action can come to -/

namespace Action

variable {α β : Type}

/-- With some answers the action ends with the given result. -/
inductive CanEnd : Action α → Except Fault α → Prop
  | done (r : Except Fault α) : CanEnd (.done r) r
  | ask {request : Request} {next : request.Answer → Action α} {r : Except Fault α}
      (answer : request.Answer) (h : CanEnd (next answer) r) : CanEnd (.ask request next) r

variable {a : Action α} {f : α → Action β}

theorem canEnd_andThen {f : Except Fault α → Action β} {s : Except Fault β}
    (h : (a.andThen f).CanEnd s) : ∃ r, a.CanEnd r ∧ (f r).CanEnd s := by
  induction a with
  | done r => exact ⟨r, .done r, h⟩
  | ask request next ih =>
    cases h with
    | ask answer h =>
      obtain ⟨r, hr, hs⟩ := ih answer h
      exact ⟨r, .ask answer hr, hs⟩

theorem canEnd_bind {y : β} (h : (a >>= f).CanEnd (.ok y)) :
    ∃ x, a.CanEnd (.ok x) ∧ (f x).CanEnd (.ok y) := by
  obtain ⟨r, hr, hs⟩ := canEnd_andThen h
  cases r with
  | ok x => exact ⟨x, hr, hs⟩
  | error e => cases hs

theorem eq_of_canEnd_lift {r s : Except Fault α} (h : (lift r).CanEnd s) : s = r := by
  cases h
  rfl

theorem forall₂_of_canEnd_each {xs : List α} {ys : List β} (h : (each f xs).CanEnd (.ok ys)) :
    Forall₂ (fun x y => (f x).CanEnd (.ok y)) xs ys := by
  induction xs generalizing ys with
  | nil =>
    cases h
    exact .nil
  | cons x xs ih =>
    obtain ⟨y, hy, h⟩ := canEnd_bind h
    obtain ⟨ys', hys, h⟩ := canEnd_bind h
    cases h
    exact .cons hy (ih hys)

theorem canEnd_each {xs : List α} {ys : List β} (h : (each f xs).CanEnd (.ok ys)) :
    ∀ y ∈ ys, ∃ x ∈ xs, (f x).CanEnd (.ok y) :=
  fun _ hy => Core.exists_of_forall₂ (forall₂_of_canEnd_each h) hy

/-- All results of the action are as described. -/
def Ensures (a : Action α) (P : α → Prop) : Prop := ∀ y, a.CanEnd (.ok y) → P y

theorem ensures_bind {P : β → Prop} (h : ∀ x, a.CanEnd (.ok x) → (f x).Ensures P) :
    (a >>= f).Ensures P := by
  intro y hy
  obtain ⟨x, hx, hy⟩ := canEnd_bind hy
  exact h x hx y hy

theorem ensures_pure {x : α} {P : α → Prop} (h : P x) : (pure x : Action α).Ensures P := by
  intro y hy
  cases hy
  exact h

end Action

namespace Assembly

open Action

/-- A sprite has the name, the scripts and the data of its target. -/
theorem presents_of_spriteOf (r : Option Resources) (base : Value) (i : Nat) (t : Target) :
    (spriteOf r base i t.toValue).Ensures fun s => Core.Presents s.1 t := by
  refine ensures_bind fun name hname => ensures_bind fun settings _ => ?_
  dsimp only
  split <;> refine ensures_bind fun ⟨costumes, sounds, pose⟩ _ => ?_
  all_goals
    dsimp only
    split <;> refine ensures_bind fun ⟨shown, heard⟩ _ => ?_
  all_goals
    refine ensures_bind fun used _ => ensures_bind fun taken _ => ensures_bind fun usedNames _ => ?_
    refine ensures_bind fun played _ => ensures_bind fun vars hvars => ?_
    refine ensures_bind fun lists hlists => ensures_bind fun broadcasts _ => ?_
    refine ensures_bind fun blocks hblocks => ensures_pure ⟨?_, ?_, ?_, ?_⟩
    · exact ok.inj (eq_of_canEnd_lift hname)
    · exact ok.inj (eq_of_canEnd_lift hblocks)
    · exact ok.inj (eq_of_canEnd_lift hvars)
    · exact ok.inj (eq_of_canEnd_lift hlists)

/-- **The sprites of a project are the targets of its program**, whatever the environment answers. -/
theorem presents_of_ofResult (r : Option Resources) (base : Value) (c : Compilation) :
    (ofResult r base c.toValue).Ensures fun a =>
      Forall₂ Core.Presents a.project.sprites c.targets := by
  unfold ofResult
  dsimp only
  split <;> refine ensures_bind fun ⟨stage, stageAssets⟩ _ => ?_
  all_goals
    refine ensures_bind fun items hitems => ensures_bind fun sprites hsprites => ensures_pure ?_
    cases eq_of_canEnd_lift hitems
    have hall := forall₂_of_canEnd_each hsprites
    rw [zipIdx_map, forall₂_map_left_iff] at hall
    rw [forall₂_map_left_iff, ← zipIdx_map_fst 0 c.targets, forall₂_map_right_iff]
    exact hall.flip.imp fun s q hend => presents_of_spriteOf r base q.2 q.1 s hend

/-- The scripts of a project are those of its program. -/
theorem blocks_of_ofResult (r : Option Resources) (base : Value) (c : Compilation) :
    (ofResult r base c.toValue).Ensures fun a =>
      ∀ s ∈ a.project.sprites, ∃ t ∈ c.targets, s.blocks = Target.blocksValue t.blocks := by
  intro a ha s hs
  obtain ⟨t, ht, hst⟩ := Core.exists_of_forall₂ (presents_of_ofResult r base c a ha).flip hs
  exact ⟨t, ht, hst.blocks⟩

end Assembly

/-! ### Scripts without circles -/

/-- The block that an input names in a project file is the one it holds. -/
theorem Input.Plugs.target?_of_toValue {s : Scripts} {r : Id} {i : Input} {tag : Int}
    {rest : List Value} (h : i.Plugs s) (hi : i.toValue = .list (.int tag :: .str r :: rest)) :
    i.target? = some r := by
  cases i with
  | menu id =>
    cases hi
    rfl
  | block id =>
    cases hi
    rfl
  | reporter id covered =>
    cases id with
    | none => cases hi
    | some r' =>
      cases hi
      rfl
  | literal l =>
    obtain ⟨vs, hvs⟩ := l.exists_toValue
    rw [toValue, hvs] at hi
    cases hi
  | embedded l covered =>
    obtain ⟨vs, hvs⟩ := l.exists_toValue
    rw [toValue, hvs] at hi
    cases hi
  | given v => cases h

theorem Input.Fits.target?_of_toValue {s : Scripts} {id r : Id} {name : String} {i : Input}
    {tag : Int} {rest : List Value} (h : i.Fits s id name)
    (hi : i.toValue = .list (.int tag :: .str r :: rest)) : i.target? = some r := by
  rw [Fits] at h
  split at h
  · obtain ⟨r', rfl, -⟩ := h
    cases hi
    rfl
  · exact h.target?_of_toValue hi

/-- The block names the other one in the given input. -/
def Block.Plugs (b : Block) (name : String) (r : Id) : Prop :=
  ∃ i tag rest, (name, i) ∈ b.inputs ∧ i.toValue = .list (.int tag :: .str r :: rest)

/-- There are no circles in the scripts of a sprite, and listings of them end. -/
structure Target.Acyclic (t : Target) : Prop where
  next : ∀ id b n, t.blocks.find? id = some b → b.next = some n → t.blocks.Before id n
  bodies : ∀ id b name r, t.blocks.find? id = some b → name = "SUBSTACK" ∨ name = "SUBSTACK2" →
    b.Plugs name r → t.blocks.Before id r
  single : ∀ a b c d n, t.blocks.find? a = some c → t.blocks.find? b = some d →
    c.next = some n → d.next = some n → a = b
  path : ¬∃ path : Nat → Id, ∀ k, ∃ b, t.blocks.find? (path k) = some b ∧
    (b.next = some (path (k + 1)) ∨ ∃ name, b.Plugs name (path (k + 1)))
  reporters : ∀ id, Listing.reporter (blocksValue t.blocks) id ≠ .error .endless
  chains : ∀ id indent, Listing.chain (blocksValue t.blocks) id indent ≠ .error .endless

theorem Scripts.Sound.acyclic {t : Target} (h : t.scripts.Sound) : t.Acyclic where
  next id b n hb hn := ((h.block id b hb).next n hn).2.2
  bodies id b name r hb hname hr := by
    obtain ⟨i, tag, rest, hi, hvalue⟩ := hr
    have hfits := (h.block id b hb).inputs (name, i) hi
    have htarget := hfits.target?_of_toValue hvalue
    have hbody : name ∈ bodyInputs := by rcases hname with rfl | rfl <;> decide
    rw [Input.Fits, if_pos hbody] at hfits
    obtain ⟨r', hr', -, -, hbefore⟩ := hfits
    rw [hr'] at htarget
    cases htarget
    exact hbefore
  single := h.single
  path := by
    rintro ⟨path, hpath⟩
    refine h.not_exists_path ⟨path, fun k => ?_⟩
    obtain ⟨b, hb, hnext | ⟨name, i, tag, rest, hi, hvalue⟩⟩ := hpath k
    · exact ⟨b, hb, .inl hnext⟩
    · have htarget := ((h.block _ b hb).inputs (name, i) hi).target?_of_toValue hvalue
      exact ⟨b, hb, .inr (Block.mem_plugged.2 ⟨_, hi, htarget⟩)⟩
  reporters := Listing.reporter_ends h
  chains := Listing.chain_ends h

namespace Build

variable {source : String} {w w' : Workspace} {c : Compilation}

/-- **Compiled scripts have no circles, and projects made of them can be listed**: statements lead
to later statements, no way from block to block is without an end, and so no listing of a script, or
of a project that can be put together from the program, is. -/
theorem acyclic_of_compile (h : (compile source).run w = (.ok c, w')) :
    (∀ t ∈ c.targets, t.Acyclic) ∧
      ∀ r base a, (Assembly.ofResult r base c.toValue).CanEnd (.ok a) →
        Listing.ofProject a.project.toValue ≠ .error .endless := by
  obtain ⟨program, -, htargets, hreaches⟩ := exists_edits h
  have hsound : ∀ t ∈ c.targets, t.scripts.Sound := fun t ht =>
    (sound_of_mem_targets hreaches.after (htargets ▸ ht)).1
  refine ⟨fun t ht => (hsound t ht).acyclic, fun r base a ha => Listing.ofProject_ends ?_⟩
  intro s hs
  obtain ⟨t, ht, hblocks⟩ := Assembly.blocks_of_ofResult r base c a ha s hs
  exact ⟨t.scripts, hsound t ht, hblocks⟩

theorem acyclic_hoppingSource :
    ∃ c w', (compile hoppingSource).run {} = (.ok c, w') ∧
      c.targets.map (·.blocks.length) = [14] ∧ (∀ t ∈ c.targets, t.Acyclic) ∧
      ∃ a, Assembly.ofResult none .null c.toValue = .done (.ok a) ∧
        Listing.ofProject a.project.toValue ≠ .error .endless := by
  have hseen : ((compile hoppingSource).run {}).1.toOption.map (fun c => (c.stage.isNone,
      c.targets.map (·.blocks.length),
      c.targets.all fun t => decide (t.soundsUsed = some []) && t.settings.isNone)) =
      some (true, [14], true) := by
    decide +kernel
  obtain ⟨c, w', hrun, hseen⟩ := exists_of_run_map hseen
  simp only [Prod.mk.injEq, Option.isNone_iff_eq_none, List.all_eq_true, Bool.and_eq_true,
    decide_eq_true_eq] at hseen
  obtain ⟨hstage, hsize, hsilent⟩ := hseen
  obtain ⟨hacyclic, hends⟩ := acyclic_of_compile hrun
  obtain ⟨a, ha, -⟩ := Assembly.ofResult_of_silent (r := none)
    (fun _ hr => absurd hr (Option.not_mem_none _)) .null hstage hsilent
  refine ⟨c, w', hrun, hsize, hacyclic, a, ha, hends none .null a ?_⟩
  rw [ha]
  exact .done _

end Build

end BlockScript
