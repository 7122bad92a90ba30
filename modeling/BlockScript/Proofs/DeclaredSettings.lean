import Mathlib.Data.List.Forall2
import BlockScript.Proofs.Frame
import BlockScript.Rehearsal
import BlockScript.Script.Settings

/-!
# Settings read off and settings carried out

The settings of sprites and of the stage are calls with literals as arguments. They are understood
twice: a compilation reads the arguments off the program, and a rehearsal carries the calls out. The
two do not always agree. A compilation knows neither signs nor places: a number with a sign, a
setting that is given by place, or the name of a costume that is given by keyword is passed over
without a word.

Of everything else both have the same (`Program.settings_agree`). So for each setting it can be told
from its argument alone whether a compilation gets it right (`Program.isReadIn`), whatever the other
arguments are.
-/

namespace BlockScript

open Item List Option Signature Table

/-! ### Binding arguments -/

namespace Signature

variable {α : Type} {s : Signature α} {p : Parameter α} {args values : List α} {named : Table α}

/-- The first parameter gets the first argument, else the one of its name, else what it falls back
to. -/
theorem fill_cons_eq_ok {rest : Signature α} (h : fill (p :: rest) args named = .ok values) :
    ∃ value values', values = value :: values' ∧ fill rest args.tail named = .ok values' ∧
      (args.head?.or (named.find? p.name)).or p.fallback = some value := by
  have hstep : ∀ {value : α} {args' : List α},
      (fill rest args' named >>= fun values' => .ok (value :: values')) = .ok values →
      ∃ values', values = value :: values' ∧ fill rest args' named = .ok values' := by
    intro value args' h
    obtain ⟨values', hvalues, h⟩ := exists_of_bind_eq_ok h
    cases h
    exact ⟨values', rfl, hvalues⟩
  cases args with
  | nil =>
    cases hnamed : named.find? p.name with
    | some v =>
      simp only [fill, hnamed] at h
      obtain ⟨values', rfl, hrest⟩ := hstep h
      exact ⟨v, values', rfl, hrest, rfl⟩
    | none =>
      cases hfallback : p.fallback with
      | some v =>
        simp only [fill, hnamed, hfallback] at h
        obtain ⟨values', rfl, hrest⟩ := hstep h
        exact ⟨v, values', rfl, hrest, rfl⟩
      | none =>
        simp only [fill, hnamed, hfallback] at h
        cases h
  | cons v args =>
    cases hnamed : named.find? p.name with
    | some w =>
      simp only [fill, hnamed] at h
      cases h
    | none =>
      simp only [fill, hnamed] at h
      obtain ⟨values', rfl, hrest⟩ := hstep h
      exact ⟨v, values', rfl, hrest, rfl⟩

/-- **What a parameter gets**: the argument at its place, else the one of its name, else what it
falls back to. -/
theorem find?_fill (hs : (s.map (·.name)).Nodup) (h : fill s args named = .ok values) {i : Nat}
    (hp : s[i]? = some p) :
    ∃ v, Table.find? ((s.map (·.name)).zip values) p.name = some v ∧
      (args[i]?.or (named.find? p.name)).or p.fallback = some v := by
  induction s generalizing args values i with
  | nil => cases hp
  | cons q rest ih =>
    obtain ⟨value, values', rfl, hrest, hvalue⟩ := fill_cons_eq_ok h
    rw [map_cons, nodup_cons] at hs
    rw [map_cons, zip_cons_cons, Table.find?]
    cases i with
    | zero =>
      cases hp
      rw [if_pos rfl, ← head?_eq_getElem?]
      exact ⟨value, rfl, hvalue⟩
    | succ i =>
      have hne : q.name ≠ p.name := fun heq =>
        hs.1 (heq ▸ List.mem_map_of_mem (mem_of_getElem? hp))
      rw [if_neg hne, ← getElem?_tail]
      exact ih hs.2 hrest hp

theorem fill_of_bind
    (h : s.bind args named = .ok values) :
    args.length ≤ (s.filter (!·.byName)).length ∧ fill s args named = .ok values := by
  rw [bind] at h
  split at h
  · cases h
  · next hcount =>
    split at h
    · cases h
    · exact ⟨Nat.le_of_not_lt hcount, h⟩

end Signature

/-! ### Carrying out calls -/

namespace Item

/-- What something declared has under a name. -/
def attribute? : Item → String → Option Item
  | object _ attributes, k => Table.find? attributes k
  | record entries, k => Table.find? entries k
  | _, _ => none

end Item

namespace Program

namespace Expr

/-- The value of a literal, which may have a sign. -/
def literal? : Expr → Option Value
  | .const v => some v
  | .unary .negate (.const v) => v.negated?
  | .unary .plus (.const v) => v.negated?.bind (·.negated?)
  | _ => none

/-- Keyword arguments by name. Each one needs a name of its own. -/
def named? (keywords : List (Option String × Expr)) : Option (Table Expr) := do
  let named : Table Expr ← keywords.mapM fun p => p.1.map fun k => (k, p.2)
  if named.keys.Nodup then some named else none

/-- The values of all arguments of a call. -/
def arguments? (eval : Expr → Option Item) (args : List Expr)
    (keywords : List (Option String × Expr)) : Option (List Item × Table Item) := do
  let named ← named? keywords
  let values ← args.mapM eval
  let kwargs ← named.mapM fun p => (eval p.2).map fun i => (p.1, i)
  some (values, kwargs)

/-- A costume, sound or backdrop that is declared with literals. -/
def asset? : Expr → Option Item
  | .call (.name f) args keywords =>
    if f ∈ ["Costume", "Sound", "Backdrop"] then do
      let (values, kwargs) ← arguments? (fun e => e.literal?.map .plain) args keywords
      let declare ← Rehearsal.declaration? f
      (declare values kwargs).toOption
    else none
  | _ => none

/-- An argument of a setting: a literal, or a list of assets. -/
def argument? : Expr → Option Item
  | .list items => (items.mapM asset?).map .list
  | e => e.literal?.map .plain

/-- What a call answers when it is carried out, and the settings of the stage afterwards. -/
def rehearsed? (stage : Item) (function : String) (args : List Expr)
    (keywords : List (Option String × Expr)) : Option (Item × Item) := do
  let (values, kwargs) ← arguments? argument? args keywords
  let (answer, stage) := Rehearsal.call stage function values kwargs
  answer.toOption.map fun i => (i, stage)

end Expr

/-- The arguments of a call with names for keywords and with values. -/
structure Valued (eval : Expr → Option Item) (args : List Expr)
    (keywords : List (Option String × Expr)) (values : List Item) (kwargs : Table Item)
    (named : Table Expr) : Prop where
  keywords_eq : keywords = named.map fun p => (some p.1, p.2)
  nodup : named.keys.Nodup
  values_eq : ∀ i : Nat, values[i]? = args[i]?.bind eval
  find?_eq : ∀ k, (kwargs.find? k).map some = (named.find? k).map eval

variable {eval : Expr → Option Item} {args : List Expr} {keywords : List (Option String × Expr)}
  {values : List Item} {kwargs : Table Item} {named : Table Expr}

theorem Valued.kwargs_eq (h : Valued eval args keywords values kwargs named) (k : String) :
    kwargs.find? k = (named.find? k).bind eval := by
  simpa [bind_map] using congrArg (Option.bind · id) (h.find?_eq k)

theorem forall₂_of_mapM? {α β : Type} {f : α → Option β} {l : List α} {bs : List β}
    (h : l.mapM f = some bs) : Forall₂ (fun a b => f a = some b) l bs := by
  induction l generalizing bs with
  | nil =>
    cases h
    exact .nil
  | cons a l ih =>
    rw [mapM_cons] at h
    obtain ⟨b, hb, h⟩ := bind_eq_some_iff.1 h
    obtain ⟨bs', hbs, h⟩ := bind_eq_some_iff.1 h
    cases h
    exact .cons hb (ih hbs)

theorem getElem?_of_forall₂ {α β : Type} {f : α → Option β} {l : List α} {bs : List β}
    (h : Forall₂ (fun a b => f a = some b) l bs) (i : Nat) : bs[i]? = l[i]?.bind f := by
  induction h generalizing i with
  | nil => rfl
  | cons hb _ ih =>
    cases i with
    | zero => exact hb.symm
    | succ i => exact ih i

theorem eq_map_of_forall₂
    (h : Forall₂ (fun p q => (p.1.map fun k => (k, p.2)) = some q) keywords named) :
    keywords = named.map fun p => (some p.1, p.2) := by
  induction h with
  | nil => rfl
  | cons hq _ ih =>
    obtain ⟨k, hk, rfl⟩ := map_eq_some_iff.1 hq
    rw [map_cons, ← ih, ← hk]

theorem find?_of_forall₂
    (h : Forall₂ (fun p q => ((eval p.2).map fun i => (p.1, i)) = some q) named kwargs)
    (k : String) : (kwargs.find? k).map some = (named.find? k).map eval := by
  induction h with
  | nil => rfl
  | cons hq _ ih =>
    obtain ⟨i, hi, rfl⟩ := map_eq_some_iff.1 hq
    rw [Table.find?, Table.find?]
    split
    · exact congrArg some hi.symm
    · exact ih

theorem Expr.exists_valued (h : arguments? eval args keywords = some (values, kwargs)) :
    ∃ named, Valued eval args keywords values kwargs named := by
  obtain ⟨named, hnamed, h⟩ := bind_eq_some_iff.1 h
  obtain ⟨values', hvalues, h⟩ := bind_eq_some_iff.1 h
  obtain ⟨kwargs', hkwargs, h⟩ := bind_eq_some_iff.1 h
  cases h
  obtain ⟨named', hnames, hnamed⟩ := bind_eq_some_iff.1 hnamed
  split at hnamed
  · next hnodup =>
    cases hnamed
    exact ⟨named, eq_map_of_forall₂ (forall₂_of_mapM? hnames), hnodup,
      getElem?_of_forall₂ (forall₂_of_mapM? hvalues), find?_of_forall₂ (forall₂_of_mapM? hkwargs)⟩
  · cases hnamed

/-! ### What is read -/

namespace Expr

/-- A literal without a sign. -/
def isConstant (e : Expr) : Bool := e.constant?.isSome

/-- An asset whose name and file are given by place, and of which nothing that counts has a sign. -/
def isPlainAsset (function : String) : Expr → Bool
  | .call (.name f) args keywords =>
    f == function && args.all isConstant && keywords.all fun p =>
      p.1 != some "name" && p.1 != some "file_path" &&
        (p.2.isConstant || p.1 == some "rate" || p.1 == some "sample_count")
  | _ => false

/-- Whether the argument of a setting is read. Some settings are lists of assets that a function
declares; they can also be left empty. -/
def isReadAs (function : Option String) : Expr → Bool
  | .const v => function.isNone || !v.truthy
  | .list items => function.any fun f => items.all (isPlainAsset f)
  | _ => false

end Expr

/-- The settings that are lists, with the functions that declare their items. -/
def assetKinds : Table String :=
  [("costumes", "Costume"), ("sounds", "Sound"), ("backdrops", "Backdrop")]

/-- Whether a setting is read: it is not given by place, and its argument, if there is one, is
read. -/
def isReadIn (s : Signature Item) (args : List Expr) (keywords : List (Option String × Expr))
    (k : String) : Bool :=
  args.length ≤ s.findIdx (·.name == k) &&
    keywords.all fun p => p.1 != some k || p.2.isReadAs (assetKinds.find? k)

end Program

namespace Item

/-- Something declared has all that a description says. -/
def Shows (i : Item) : Value → Prop
  | .dict entries => ∀ p ∈ entries, i.attribute? p.1 = some (.plain p.2)
  | _ => False

/-- A setting is the same in both forms: as a literal, or as a list of things described. -/
inductive Same : Item → Value → Prop
  | plain (v : Value) : Same (.plain v) v
  | list {items : List Item} {vs : List Value} (h : List.Forall₂ Shows items vs) :
      Same (.list items) (.list vs)

/-- What was carried out is what was read, as far as it was. -/
def Agrees (i : Item) (read : String → Bool) : Value → Prop
  | .dict entries => ∀ p ∈ entries, read p.1 = true → ∃ a, i.attribute? p.1 = some a ∧ a.Same p.2
  | _ => False

end Item

namespace Program

open Expr Rehearsal

/-! ### Reading keywords one after the other -/

section Fold

variable {σ β γ : Type} {f : σ → String × γ → σ} {g : σ → β}

theorem foldl_of_kept {l : Table γ} (h : ∀ s, ∀ p ∈ l, g (f s p) = g s) (s : σ) :
    g (l.foldl f s) = g s := by
  induction l generalizing s with
  | nil => rfl
  | cons p l ih =>
    rw [foldl_cons, ih (fun s q hq => h s q (.tail _ hq)),
      h s p (.head _)]

/-- A part that only one keyword changes is as that keyword makes it. -/
theorem foldl_of_changed (name : String) {u : β → γ → β}
    (hchanged : ∀ s c, g (f s (name, c)) = u (g s) c)
    (hkept : ∀ s k c, k ≠ name → g (f s (k, c)) = g s) {l : Table γ} (hl : l.keys.Nodup) (s : σ) :
    g (l.foldl f s) = ((l.find? name).map (u (g s))).getD (g s) := by
  induction l generalizing s with
  | nil => rfl
  | cons p l ih =>
    obtain ⟨k, c⟩ := p
    rw [Table.keys, map_cons, nodup_cons] at hl
    rw [foldl_cons, Table.find?]
    by_cases hk : k = name
    · subst hk
      rw [if_pos rfl]
      refine (foldl_of_kept (fun s p hp => ?_) _).trans (hchanged s c)
      have hmem : p.1 ∈ l.map Prod.fst := List.mem_map_of_mem hp
      exact hkept s p.1 p.2 fun heq => hl.1 (heq ▸ hmem)
    · rw [if_neg hk, ih hl.2, hkept s k c hk]

theorem foldl_of_assigned {f : σ → String × β → σ} (name : String)
    (hassigned : ∀ s c, g (f s (name, c)) = c)
    (hkept : ∀ s k c, k ≠ name → g (f s (k, c)) = g s) {l : Table β} (hl : l.keys.Nodup) (s : σ) :
    g (l.foldl f s) = (l.find? name).getD (g s) := by
  rw [foldl_of_changed name (u := fun _ c => c) hassigned hkept hl]
  cases l.find? name <;> rfl

end Fold

theorem constantKeywords_cons (p : String × Expr) (named : Table Expr) :
    constantKeywords ((p :: named).map fun p => (some p.1, p.2)) =
      (p.2.constant?.map (Prod.mk p.1)).toList ++
        constantKeywords (named.map fun p => (some p.1, p.2)) := by
  obtain ⟨k, e⟩ := p
  cases e <;> rfl

theorem keys_constantKeywords (named : Table Expr) :
    (Table.keys (constantKeywords (named.map fun p => (some p.1, p.2)))).Sublist named.keys := by
  induction named with
  | nil => exact .slnil
  | cons p named ih =>
    rw [constantKeywords_cons]
    cases p.2.constant? with
    | some v => exact ih.cons_cons p.1
    | none => exact ih.cons p.1

theorem find?_constantKeywords {named : Table Expr} (h : named.keys.Nodup) (k : String) :
    Table.find? (constantKeywords (named.map fun p => (some p.1, p.2))) k =
      (named.find? k).bind constant? := by
  induction named with
  | nil => rfl
  | cons p named ih =>
    rw [Table.keys, map_cons, nodup_cons] at h
    rw [constantKeywords_cons, Table.find?]
    by_cases hk : p.1 = k
    · rw [if_pos hk, bind_some]
      cases p.2.constant? with
      | some v => exact if_pos hk
      | none =>
        refine find?_eq_none_iff.2 fun hmem => ?_
        exact h.1 (hk ▸ (keys_constantKeywords named).mem hmem)
    · rw [if_neg hk, ← ih h.2]
      cases p.2.constant? with
      | some v => exact if_neg hk
      | none => rfl

/-! ### Assets -/

/-- The arguments of an asset that is read, with their values. -/
structure ReadAsset (args : List Expr) (keywords : List (Option String × Expr))
    (values : List Item) (kwargs : Table Item) (named : Table Expr) : Prop extends
    Valued (fun e => e.literal?.map .plain) args keywords values kwargs named where
  constant_args : args.all isConstant = true
  byPlace : ∀ k ∈ ["name", "file_path"], named.find? k = none
  constant_named : ∀ k ∉ ["rate", "sample_count"], ∀ e ∈ named.find? k, e.isConstant = true

section Asset

variable {args : List Expr} {keywords : List (Option String × Expr)} {values vs : List Item}
  {kwargs : Table Item} {named : Table Expr} {s : Signature Item} {n : Nat} {p : Parameter Item}
  {e : Expr} {i : Item}

theorem eq_plain_of_or {o : Option Value} {fallback : Option Item}
    (h : (o.map plain).or fallback = some i) (hfallback : ∀ j ∈ fallback, j = .plain .null) :
    i = .plain (o.getD .null) := by
  cases o with
  | some v =>
    cases h
    rfl
  | none => exact hfallback i h

theorem bind_literal?_of_isConstant {o : Option Expr} (h : ∀ e ∈ o, e.isConstant) :
    (o.bind fun e => e.literal?.map plain) = (o.bind constant?).map .plain := by
  cases o with
  | none => rfl
  | some e =>
    have he := h e rfl
    cases e with
    | const w => rfl
    | _ => cases he

/-- What is given by place is read. -/
theorem ReadAsset.find?_of_place (h : ReadAsset args keywords values kwargs named)
    (hs : (s.map (·.name)).Nodup) (hbind : s.bind values kwargs = .ok vs) (hp : s[n]? = some p)
    (hname : p.name ∈ ["name", "file_path"]) (hfallback : ∀ j ∈ p.fallback, j = .plain .null) :
    Table.find? (attributes s vs) p.name = some (.plain (constantAt args n)) := by
  obtain ⟨v, hfind, hor⟩ := find?_fill hs (fill_of_bind hbind).2 hp
  rw [h.kwargs_eq, h.byPlace p.name hname, bind_none, or_none, h.values_eq,
    bind_literal?_of_isConstant fun e he =>
      List.all_eq_true.1 h.constant_args e (mem_of_getElem? he)] at hor
  rw [attributes, hfind, eq_plain_of_or hor hfallback]
  rfl

/-- What is given by name is read. -/
theorem ReadAsset.find?_of_byName (h : ReadAsset args keywords values kwargs named)
    (hs : (s.map (·.name)).Nodup) (hbind : s.bind values kwargs = .ok vs) (hp : s[n]? = some p)
    (hn : (s.filter (!·.byName)).length ≤ n) (hname : p.name ∉ ["rate", "sample_count"])
    (hfallback : ∀ j ∈ p.fallback, j = .plain .null) :
    Table.find? (attributes s vs) p.name =
      some (.plain ((Table.find? (constantKeywords keywords) p.name).getD .null)) := by
  obtain ⟨hcount, hfill⟩ := fill_of_bind hbind
  obtain ⟨v, hfind, hor⟩ := find?_fill hs hfill hp
  rw [getElem?_eq_none (hcount.trans hn), none_or, h.kwargs_eq,
    bind_literal?_of_isConstant (h.constant_named p.name hname)] at hor
  rw [attributes, hfind, eq_plain_of_or hor hfallback, h.keywords_eq,
    find?_constantKeywords h.nodup]

theorem eq_ok_of_toOption {α : Type} {r : Except Fault α} {a : α} (h : r.toOption = some a) :
    r = .ok a := by
  cases r with
  | ok b =>
    cases h
    rfl
  | error e => cases h

theorem exists_readAsset {f : String} (he : e.isPlainAsset f) (hi : e.asset? = some i) :
    ∃ args keywords values kwargs named declare, e = .call (.name f) args keywords ∧
      ReadAsset args keywords values kwargs named ∧ declaration? f = some declare ∧
      declare values kwargs = .ok i := by
  unfold isPlainAsset at he
  split at he
  · next f' args keywords =>
    simp only [Bool.and_eq_true, beq_iff_eq] at he
    obtain ⟨⟨rfl, hargs⟩, hkeywords⟩ := he
    rw [asset?] at hi
    split at hi
    · obtain ⟨⟨values, kwargs⟩, harguments, hi⟩ := bind_eq_some_iff.1 hi
      obtain ⟨declare, hdeclare, hi⟩ := bind_eq_some_iff.1 hi
      obtain ⟨named, hv⟩ := exists_valued harguments
      have hread : ∀ k e, named.find? k = some e → k ∉ ["name", "file_path"] ∧
          (k ∉ ["rate", "sample_count"] → e.isConstant) := by
        intro k e hk
        have hmem : (some k, e) ∈ keywords := by
          rw [hv.keywords_eq]
          exact List.mem_map_of_mem (f := fun p => (some p.1, p.2)) (mem_of_find? hk)
        have hall := List.all_eq_true.1 hkeywords _ hmem
        simp only [Bool.and_eq_true, bne_iff_ne, Bool.or_eq_true, beq_iff_eq, ne_eq,
          some.injEq] at hall
        simp only [mem_cons, not_mem_nil, or_false]
        tauto
      refine ⟨args, keywords, values, kwargs, named, declare, rfl, ⟨hv, hargs, ?_, ?_⟩, hdeclare,
        ?_⟩
      · intro k hk
        by_contra hfind
        obtain ⟨e, he⟩ := ne_none_iff_exists'.1 hfind
        exact (hread k e he).1 hk
      · exact fun k hk e he => (hread k e he).2 hk
      · exact eq_ok_of_toOption hi
    · cases hi
  · cases he

theorem eq_of_shown {entries entries' : List (String × Item)} (h : shown entries = .ok entries') :
    entries' = entries := by
  rw [shown] at h
  dsimp only at h
  split at h
  · cases h
  · cases h
    rfl

theorem ReadAsset.nodup_keys (h : ReadAsset args keywords values kwargs named) :
    (Table.keys (constantKeywords keywords)).Nodup := by
  rw [h.keywords_eq]
  exact (keys_constantKeywords named).nodup h.nodup

theorem exists_costumeSpec? (args : List Expr)
    (h : (Table.keys (constantKeywords keywords)).Nodup) :
    ∃ c, costumeSpec? (.call (.name "Costume") args keywords) = some c ∧
      c.name = constantAt args 0 ∧ c.filePath = constantAt args 1 ∧
      c.svg = (Table.find? (constantKeywords keywords) "svg_string").getD .null ∧
      c.centerX = (Table.find? (constantKeywords keywords) "rotation_center_x").getD .null ∧
      c.centerY = (Table.find? (constantKeywords keywords) "rotation_center_y").getD .null := by
  refine ⟨_, rfl, ?_, ?_, ?_, ?_, ?_⟩
  iterate 2 exact foldl_of_kept (fun c p _ => by dsimp only; split_ifs <;> rfl) _
  all_goals
    refine foldl_of_assigned _ (fun _ _ => rfl) (fun c k v hk => ?_) h _
    dsimp only
    rw [if_neg hk]
    split_ifs <;> rfl

theorem exists_backdropSpec? (args : List Expr)
    (h : (Table.keys (constantKeywords keywords)).Nodup) :
    ∃ b, backdropSpec? (.call (.name "Backdrop") args keywords) = some b ∧
      b.name = constantAt args 0 ∧ b.filePath = constantAt args 1 ∧
      b.svg = (Table.find? (constantKeywords keywords) "svg_string").getD .null := by
  refine ⟨_, rfl, ?_, ?_, ?_⟩
  iterate 2 exact foldl_of_kept (fun c p _ => by dsimp only; split_ifs <;> rfl) _
  · refine foldl_of_assigned "svg_string" (g := BackdropSpec.svg) (fun _ _ => rfl)
      (fun c k v hk => ?_) h _
    dsimp only
    rw [if_neg hk]

theorem eq_plain_of_fallback {v : Value} {p : Parameter Item} (h : p.fallback = some (.plain v)) :
    ∀ j ∈ p.fallback, j = .plain v := by
  intro j hj
  rw [h] at hj
  exact (some.inj hj).symm

/-- **A costume is described as it is declared.** -/
theorem shows_costumeSpec? (he : e.isPlainAsset "Costume") (hi : e.asset? = some i) :
    ∃ c, e.costumeSpec? = some c ∧ i.Shows c.toValue := by
  obtain ⟨args, keywords, values, kwargs, named, declare, rfl, h, hdeclare, hok⟩ :=
    exists_readAsset he hi
  cases hdeclare
  obtain ⟨vs, hbind, hok⟩ := exists_of_bind_eq_ok hok
  obtain ⟨entries, hentries, hok⟩ := exists_of_bind_eq_ok hok
  cases hok
  cases eq_of_shown hentries
  obtain ⟨c, hc, hname, hpath, hsvg, hx, hy⟩ := exists_costumeSpec? args h.nodup_keys
  have hplace := fun n p hp => h.find?_of_place (n := n) (p := p) (by decide) hbind hp
  have hbyName := fun n p hp => h.find?_of_byName (n := n) (p := p) (by decide) hbind hp
  refine ⟨c, hc, forall_mem_cons.2 ⟨?_, forall_mem_cons.2 ⟨?_, forall_mem_cons.2 ⟨?_,
    forall_mem_cons.2 ⟨?_, forall_mem_singleton.2 ?_⟩⟩⟩⟩⟩
  · exact hname ▸ hplace 0 _ rfl (by decide) fun j hj => by cases hj
  · exact hpath ▸ hplace 1 _ rfl (by decide) (eq_plain_of_fallback rfl)
  · exact hsvg ▸ hbyName 2 _ rfl (by decide) (by decide) (eq_plain_of_fallback rfl)
  · exact hx ▸ hbyName 3 _ rfl (by decide) (by decide) (eq_plain_of_fallback rfl)
  · exact hy ▸ hbyName 4 _ rfl (by decide) (by decide) (eq_plain_of_fallback rfl)

/-- **A backdrop is described as it is declared.** -/
theorem shows_backdropSpec? (he : e.isPlainAsset "Backdrop") (hi : e.asset? = some i) :
    ∃ b, e.backdropSpec? = some b ∧ i.Shows b.toValue := by
  obtain ⟨args, keywords, values, kwargs, named, declare, rfl, h, hdeclare, hok⟩ :=
    exists_readAsset he hi
  cases hdeclare
  obtain ⟨vs, hbind, hok⟩ := exists_of_bind_eq_ok hok
  obtain ⟨entries, hentries, hok⟩ := exists_of_bind_eq_ok hok
  cases hok
  cases eq_of_shown hentries
  obtain ⟨b, hb, hname, hpath, hsvg⟩ := exists_backdropSpec? args h.nodup_keys
  have hplace := fun n p hp => h.find?_of_place (n := n) (p := p) (by decide) hbind hp
  refine ⟨b, hb, forall_mem_cons.2 ⟨?_, forall_mem_cons.2 ⟨?_,
    forall_mem_singleton.2 ?_⟩⟩⟩
  · exact hname ▸ hplace 0 _ rfl (by decide) fun j hj => by cases hj
  · exact hpath ▸ hplace 1 _ rfl (by decide) (eq_plain_of_fallback rfl)
  · exact hsvg ▸ h.find?_of_byName (n := 2) (by decide) hbind rfl (by decide) (by decide)
      (eq_plain_of_fallback rfl)

/-- **A sound is described as it is declared.** -/
theorem shows_soundSpec? (he : e.isPlainAsset "Sound") (hi : e.asset? = some i) :
    ∃ x, e.soundSpec? = some x ∧ i.Shows x.toValue := by
  obtain ⟨args, keywords, values, kwargs, named, declare, rfl, h, hdeclare, hok⟩ :=
    exists_readAsset he hi
  cases hdeclare
  obtain ⟨vs, hbind, hok⟩ := exists_of_bind_eq_ok hok
  cases hok
  have hplace := fun n p hp => h.find?_of_place (n := n) (p := p) (by decide) hbind hp
  refine ⟨_, rfl, forall_mem_cons.2 ⟨?_, forall_mem_singleton.2 ?_⟩⟩
  · exact hplace 0 _ rfl (by decide) fun j hj => by cases hj
  · exact hplace 1 _ rfl (by decide) fun j hj => by cases hj

end Asset

/-! ### Settings -/

/-- What is read of an asset that a function declares. -/
def specOf? (function : String) (e : Expr) : Option Value :=
  if function = "Costume" then e.costumeSpec?.map (·.toValue)
  else if function = "Sound" then e.soundSpec?.map (·.toValue)
  else e.backdropSpec?.map (·.toValue)

/-- How a keyword changes what was read of its setting. -/
def readInto (k : String) (e : Expr) (old : Value) : Value :=
  match assetKinds.find? k, e, old with
  | none, .const v, _ => v
  | some f, .list items, .list vs => .list (vs ++ items.filterMap (specOf? f))
  | _, _, _ => old

def spriteEntries (s : SpriteSettings) : Table Value :=
  [("costumes", .list (s.costumes.map (·.toValue))),
    ("sounds", .list (s.sounds.map (·.toValue))), ("x", s.x), ("y", s.y), ("size", s.size),
    ("direction", s.direction), ("rotation_style", s.rotationStyle), ("visible", s.visible),
    ("draggable", s.draggable)]

theorem adjust_eq_self {t : Table Value} {k : String} {f : Value → Value} (h : k ∉ t.keys) :
    t.adjust k f = t := by
  induction t with
  | nil => rfl
  | cons p t ih =>
    rw [Table.keys, map_cons, mem_cons, not_or] at h
    rw [adjust, if_neg (Ne.symm h.1), ih h.2]

theorem spriteEntries_apply (s : SpriteSettings) (k : String) (e : Expr) :
    spriteEntries (applySpriteSetting s (some k, e)) =
      (spriteEntries s).adjust k (readInto k e) := by
  by_cases hk : k ∈ (spriteEntries s).keys
  · simp only [spriteEntries, Table.keys, map_cons, map_nil, mem_cons,
      not_mem_nil, or_false] at hk
    rcases hk with rfl | rfl | rfl | rfl | rfl | rfl | rfl | rfl | rfl <;> cases e
    any_goals rfl
    all_goals
      rw [spriteEntries, applySpriteSetting, map_append, map_filterMap]
      rfl
  · rw [adjust_eq_self hk, applySpriteSetting.eq_def]
    simp only [spriteEntries, Table.keys, map_cons, map_nil, mem_cons,
      not_mem_nil, or_false, not_or] at hk
    grind

def stageEntries (s : StageSettings) : Table Value :=
  [("backdrops", .list (s.backdrops.map (·.toValue))),
    ("sounds", .list (s.sounds.map (·.toValue))), ("tempo", s.tempo), ("volume", s.volume)]

theorem stageEntries_apply (s : StageSettings) (k : String) (e : Expr) :
    stageEntries (applyStageSetting s (some k, e)) =
      (stageEntries s).adjust k (readInto k e) := by
  by_cases hk : k ∈ (stageEntries s).keys
  · simp only [stageEntries, Table.keys, map_cons, map_nil, mem_cons,
      not_mem_nil, or_false] at hk
    rcases hk with rfl | rfl | rfl | rfl <;> cases e
    any_goals rfl
    all_goals
      rw [stageEntries, applyStageSetting, map_append, map_filterMap]
      rfl
  · rw [adjust_eq_self hk, applyStageSetting.eq_def]
    simp only [stageEntries, Table.keys, map_cons, map_nil, mem_cons,
      not_mem_nil, or_false, not_or] at hk
    grind

/-! ### Agreement -/

theorem shows_specOf? {f : String} (hf : f ∈ ["Costume", "Sound", "Backdrop"]) {e : Expr} {i : Item}
    (he : e.isPlainAsset f) (hi : e.asset? = some i) :
    ∃ v, specOf? f e = some v ∧ i.Shows v := by
  simp only [mem_cons, not_mem_nil, or_false] at hf
  rcases hf with rfl | rfl | rfl
  · obtain ⟨c, hc, hshows⟩ := shows_costumeSpec? he hi
    exact ⟨c.toValue, congrArg (Option.map CostumeSpec.toValue) hc, hshows⟩
  · obtain ⟨c, hc, hshows⟩ := shows_soundSpec? he hi
    exact ⟨c.toValue, congrArg (Option.map SoundSpec.toValue) hc, hshows⟩
  · obtain ⟨c, hc, hshows⟩ := shows_backdropSpec? he hi
    exact ⟨c.toValue, congrArg (Option.map BackdropSpec.toValue) hc, hshows⟩

theorem forall₂_shows {f : String} (hf : f ∈ ["Costume", "Sound", "Backdrop"]) {items : List Expr}
    (hitems : items.all (isPlainAsset f)) {is : List Item}
    (his : items.mapM asset? = some is) :
    Forall₂ Shows is (items.filterMap (specOf? f)) := by
  replace his := forall₂_of_mapM? his
  induction his with
  | nil => exact .nil
  | cons hi _ ih =>
    rw [all_cons, Bool.and_eq_true] at hitems
    obtain ⟨v, hv, hshows⟩ := shows_specOf? hf hitems.1 hi
    rw [filterMap_cons_some hv]
    exact .cons hshows (ih hitems.2)

/-- What is carried out of a setting: a list that was left out is empty. -/
def settled (k : String) (i : Item) : Item := if (assetKinds.find? k).isSome then i.orEmpty else i

/-- **One setting that is read is the same in both forms.** -/
theorem same_readInto {k : String} {e : Expr} {i : Item} {old : Value}
    (he : e.isReadAs (assetKinds.find? k)) (hi : e.argument? = some i)
    (hold : (assetKinds.find? k).isSome → old = .list []) :
    (settled k i).Same (readInto k e old) := by
  cases hkind : assetKinds.find? k with
  | none =>
    rw [hkind] at he
    cases e with
    | const w =>
      cases hi
      rw [settled, readInto.eq_def, hkind]
      exact .plain w
    | _ => cases he
  | some f =>
    have hf : f ∈ ["Costume", "Sound", "Backdrop"] :=
      (List.mem_map_of_mem (f := Prod.snd) (mem_of_find? hkind) : f ∈ assetKinds.map Prod.snd)
    have hsettled : settled k i = i.orEmpty := by
      rw [settled, hkind]
      rfl
    rw [hkind] at he hold
    cases hold rfl
    rw [hsettled]
    cases e with
    | const w =>
      cases hi
      have hw : w.truthy = false := by simpa [isReadAs] using he
      have hempty : (plain w).orEmpty = .list [] := by
        rw [orEmpty, truthy, hw]
        rfl
      rw [hempty, readInto.eq_def, hkind]
      exact .list .nil
    | list items =>
      obtain ⟨is, his, rfl⟩ := map_eq_some_iff.1 hi
      have hlist : (Item.list is).orEmpty = .list is := by
        cases is <;> rfl
      rw [hlist, readInto.eq_def, hkind]
      exact .list (forall₂_shows hf he his)
    | _ => cases he

theorem find?_withoutGaps (names : List String) (t : Table Item) (k : String) :
    Table.find? (withoutGaps names t) k =
      (t.find? k).map fun i => if names.contains k then i.orEmpty else i := by
  induction t with
  | nil => rfl
  | cons p t ih =>
    rw [Table.find?, withoutGaps, map_cons, Table.find?, ← withoutGaps]
    split
    · next hk =>
      rw [hk]
      rfl
    · exact ih

/-- The parameter of a name and its place. -/
theorem exists_parameter {s : Signature Item} {k : String} (h : k ∈ s.map (·.name)) :
    ∃ n p, s[n]? = some p ∧ p.name = k ∧ s.findIdx (·.name == k) = n := by
  obtain ⟨q, hq, hname⟩ := List.mem_map.1 h
  have hlt : s.findIdx (·.name == k) < s.length :=
    findIdx_lt_length_of_exists ⟨q, hq, beq_iff_eq.2 hname⟩
  exact ⟨_, _, getElem?_eq_getElem hlt, beq_iff_eq.1 (findIdx_getElem (w := hlt)), rfl⟩

section Reading

variable {σ : Type} {apply : σ → Option String × Expr → σ} {entries : σ → Table Value} {start : σ}
  {s : Signature Item} {lists : List String}

/-- **The run over all keywords** changes each setting by its own keyword only. -/
theorem find?_entries_foldl
    (hstep : ∀ t k e, entries (apply t (some k, e)) = (entries t).adjust k (readInto k e))
    {named : Table Expr} (hnamed : named.keys.Nodup) (t : σ) (k : String) :
    (entries ((named.map fun p => (some p.1, p.2)).foldl apply t)).find? k =
      ((named.find? k).map fun e => ((entries t).find? k).map (readInto k e)).getD
        ((entries t).find? k) := by
  rw [foldl_map]
  refine foldl_of_changed k (g := fun t => (entries t).find? k)
    (u := fun old e => old.map (readInto k e)) (fun t e => ?_) (fun t k' e hk => ?_) hnamed t
  · rw [hstep, find?_adjust, if_pos rfl]
  · rw [hstep, find?_adjust, if_neg hk]

/-- The settings before anything is read are those that the parameters fall back to. -/
def StartsAs (s : Signature Item) (entries : Table Value) : Prop :=
  ∀ p ∈ s, ∃ i v, p.fallback = some i ∧ entries.find? p.name = some v ∧ (settled p.name i).Same v ∧
    ((assetKinds.find? p.name).isSome = true → v = .list [])

/-- **All settings that are read are the same in both forms.** -/
theorem same_of_reading
    (hstep : ∀ t k e, entries (apply t (some k, e)) = (entries t).adjust k (readInto k e))
    (hkeys : ∀ t, (entries t).keys = s.map (·.name)) (hs : (s.map (·.name)).Nodup)
    (hlists : ∀ k ∈ s.map (·.name), lists.contains k = (assetKinds.find? k).isSome)
    (hstart : StartsAs s (entries start)) {args : List Expr}
    {keywords : List (Option String × Expr)} {values vs : List Item} {kwargs : Table Item}
    {named : Table Expr} (hv : Valued argument? args keywords values kwargs named)
    (hbind : s.bind values kwargs = .ok vs) :
    ∀ p ∈ entries (keywords.foldl apply start), isReadIn s args keywords p.1 →
      ∃ a, Table.find? (withoutGaps lists (attributes s vs)) p.1 = some a ∧ a.Same p.2 := by
  intro p hp hread
  obtain ⟨hplace, hkeywords⟩ := Bool.and_eq_true_iff.1 hread
  have hname : p.1 ∈ s.map (·.name) := hkeys _ ▸ List.mem_map_of_mem (f := Prod.fst) hp
  -- The parameter of the setting, which is not given by place.
  obtain ⟨n, q, hq, hqname, hn⟩ := exists_parameter hname
  rw [hn, decide_eq_true_eq] at hplace
  obtain ⟨v, hfind, hor⟩ := find?_fill hs (fill_of_bind hbind).2 hq
  rw [hv.values_eq, getElem?_eq_none hplace, bind_none, none_or, hqname] at hor
  rw [hqname] at hfind
  -- The setting as it is read.
  have hentry : (entries (keywords.foldl apply start)).find? p.1 = some p.2 :=
    find?_of_mem (hkeys _ ▸ hs) hp
  rw [hv.keywords_eq, find?_entries_foldl hstep hv.nodup] at hentry
  obtain ⟨i, old, hi, hold, hsame, hempty⟩ := hstart q (mem_of_getElem? hq)
  rw [hqname] at hold hsame hempty
  refine ⟨settled p.1 v, ?_, ?_⟩
  · rw [find?_withoutGaps, attributes, hfind, hlists p.1 hname]
    rfl
  · cases hnamed : named.find? p.1 with
    | none =>
      rw [hv.kwargs_eq, hnamed, bind_none, none_or, hi] at hor
      rw [hnamed, hold] at hentry
      cases hor
      cases hentry
      exact hsame
    | some e =>
      rw [hnamed, hold] at hentry
      have hvalue : readInto p.1 e old = p.2 := some.inj hentry
      obtain ⟨i', hi', hi⟩ := map_eq_some_iff.1 ((hv.find?_eq p.1).trans (by rw [hnamed]; rfl))
      rw [hi'] at hor
      cases hor
      have hmem : (some p.1, e) ∈ keywords := by
        rw [hv.keywords_eq]
        exact List.mem_map_of_mem (f := fun p => (some p.1, p.2)) (mem_of_find? hnamed)
      have he := List.all_eq_true.1 hkeywords _ hmem
      rw [bne_self_eq_false, Bool.false_or] at he
      exact hvalue ▸ same_readInto he hi.symm hempty

end Reading

theorem startsAs_sprite : StartsAs spriteSignature (spriteEntries {}) := by
  intro p hp
  simp only [spriteSignature, mem_cons, not_mem_nil, or_false] at hp
  rcases hp with rfl | rfl | rfl | rfl | rfl | rfl | rfl | rfl | rfl
  · exact ⟨_, _, rfl, rfl, .list .nil, fun _ => rfl⟩
  · exact ⟨_, _, rfl, rfl, .list .nil, fun _ => rfl⟩
  all_goals exact ⟨_, _, rfl, rfl, .plain _, fun h => by cases h⟩

theorem startsAs_stage : StartsAs stageSignature (stageEntries {}) := by
  intro p hp
  simp only [stageSignature, mem_cons, not_mem_nil, or_false] at hp
  rcases hp with rfl | rfl | rfl | rfl
  · exact ⟨_, _, rfl, rfl, .list .nil, fun _ => rfl⟩
  · exact ⟨_, _, rfl, rfl, .list .nil, fun _ => rfl⟩
  all_goals exact ⟨_, _, rfl, rfl, .plain _, fun h => by cases h⟩

/-- The parts of a call that was carried out. -/
theorem exists_of_rehearsed? {stage after answer : Item} {function : String} {args : List Expr}
    {keywords : List (Option String × Expr)}
    (h : rehearsed? stage function args keywords = some (answer, after)) :
    ∃ values kwargs named, Valued argument? args keywords values kwargs named ∧
      call stage function values kwargs = (.ok answer, after) := by
  obtain ⟨p, hp, h⟩ := bind_eq_some_iff.1 h
  obtain ⟨values, kwargs⟩ := p
  obtain ⟨named, hv⟩ := exists_valued hp
  refine ⟨values, kwargs, named, hv, ?_⟩
  dsimp only at h
  obtain ⟨i, hi, hpair⟩ := map_eq_some_iff.1 h
  cases hpair
  exact Prod.ext (eq_ok_of_toOption hi) rfl

/-- **Settings that are read are the settings that are carried out.** A sprite has the settings of
its first decorator that is a call of `sprite`, and the stage those of the first call of
`configure_stage`. If such a call can be carried out, then every setting whose argument is read is
the same in both forms, for lists asset by asset. -/
theorem settings_agree {args : List Expr} {keywords : List (Option String × Expr)}
    {stage after answer : Item} :
    (∀ {decorators : List Expr},
      decorators.findSome? (callOf? "sprite") = some (args, keywords) →
      rehearsed? stage "sprite" args keywords = some (answer, after) →
      ∃ s, spriteSettings? decorators = some s ∧
        answer.Agrees (isReadIn spriteSignature args keywords) s.toValue) ∧
    ∀ {program : Module},
      program.findSome? Stmt.stageCall? = some (args, keywords) →
      rehearsed? stage "configure_stage" args keywords = some (answer, after) →
      ∃ s, stageSettings? program = some s ∧
        after.Agrees (isReadIn stageSignature args keywords) s.toValue := by
  constructor
  · intro decorators hfirst hrun
    obtain ⟨values, kwargs, named, hv, hcall⟩ := exists_of_rehearsed? hrun
    have hanswer : spriteSettings values kwargs = .ok answer := congrArg Prod.fst hcall
    obtain ⟨vs, hbind, hanswer⟩ := exists_of_bind_eq_ok hanswer
    cases hanswer
    refine ⟨keywords.foldl applySpriteSetting {}, ?_, ?_⟩
    · rw [spriteSettings?, hfirst]
      rfl
    · exact same_of_reading spriteEntries_apply (fun _ => rfl) (by decide) (by decide)
        startsAs_sprite hv hbind
  · intro program hfirst hrun
    obtain ⟨values, kwargs, named, hv, hcall⟩ := exists_of_rehearsed? hrun
    rw [Rehearsal.call, if_pos rfl] at hcall
    split at hcall
    · next settings hsettings =>
      cases hcall
      obtain ⟨vs, hbind, hafter⟩ := exists_of_bind_eq_ok hsettings
      cases hafter
      refine ⟨keywords.foldl applyStageSetting {}, ?_, ?_⟩
      · rw [stageSettings?, hfirst]
        rfl
      · exact same_of_reading stageEntries_apply (fun _ => rfl) (by decide) (by decide)
          startsAs_stage hv hbind
    · cases hcall

/-- The settings of a player: two costumes, one of them from a file, and a place. -/
def playerKeywords : List (Option String × Expr) :=
  [(some "costumes", .list
      [.call (.name "Costume") [.const (.str "idle"), .const (.str "idle.png")] [],
        .call (.name "Costume") [.const (.str "walk")]
          [(some "svg_string", .const (.str "<svg/>")),
            (some "rotation_center_x", .const (.int 48))]]),
    (some "x", .const (.int 7)), (some "y", .unary .negate (.const (.int 20)))]

/-- The settings of a stage with a sound. -/
def stageKeywords : List (Option String × Expr) :=
  [(some "sounds", .list [.call (.name "Sound") [.const (.str "theme"), .const (.str "theme.mp3")]
      [(some "rate", .unary .negate (.const (.int 1)))]]),
    (some "tempo", .const (.int 90))]

theorem settings_agree_player :
    (∃ answer s, rehearsed? (.plain .null) "sprite" [] playerKeywords =
        some (answer, .plain .null) ∧
      spriteSettings? [.call (.name "sprite") [] playerKeywords] = some s ∧
      answer.Agrees (isReadIn spriteSignature [] playerKeywords) s.toValue ∧
      isReadIn spriteSignature [] playerKeywords "costumes" = true ∧
      isReadIn spriteSignature [] playerKeywords "x" = true) ∧
    ∃ after s, rehearsed? (.plain .null) "configure_stage" [] stageKeywords =
        some (.plain .null, after) ∧
      stageSettings? [.expr (.call (.name "configure_stage") [] stageKeywords)] = some s ∧
      after.Agrees (isReadIn stageSignature [] stageKeywords) s.toValue ∧
      isReadIn stageSignature [] stageKeywords "sounds" = true := by
  constructor
  · obtain ⟨answer, hrun⟩ : ∃ answer,
        rehearsed? (.plain .null) "sprite" [] playerKeywords = some (answer, .plain .null) :=
      ⟨_, rfl⟩
    obtain ⟨s, hs, hagrees⟩ := settings_agree.1
      (show [Expr.call (.name "sprite") [] playerKeywords].findSome? (callOf? "sprite") = _ from
        rfl) hrun
    exact ⟨answer, s, hrun, hs, hagrees, by decide, by decide⟩
  · obtain ⟨after, hrun⟩ : ∃ after, rehearsed? (.plain .null) "configure_stage" [] stageKeywords =
        some (.plain .null, after) := ⟨_, rfl⟩
    obtain ⟨s, hs, hagrees⟩ := settings_agree.2
      (show [Stmt.expr (.call (.name "configure_stage") [] stageKeywords)].findSome?
        Stmt.stageCall? = _ from rfl) hrun
    exact ⟨after, s, hrun, hs, hagrees, by decide⟩

/-- A sprite that starts on the left. -/
def leftKeywords : List (Option String × Expr) :=
  [(some "x", .unary .negate (.const (.int 100)))]

/-- A number with a sign is lost: the sprite stands in the middle. -/
theorem sign_lost_leftKeywords :
    ∃ answer after s, rehearsed? (.plain .null) "sprite" [] leftKeywords = some (answer, after) ∧
      answer.attribute? "x" = some (.plain (.int (-100))) ∧
      spriteSettings? [.call (.name "sprite") [] leftKeywords] = some s ∧ s.x = .int 0 :=
  ⟨_, _, _, rfl, rfl, rfl, rfl⟩

end Program

end BlockScript
