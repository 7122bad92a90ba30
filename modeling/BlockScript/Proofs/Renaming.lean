import BlockScript.Script.Compilation
import BlockScript.Proofs.Identifier

/-!
# Renaming identifiers

Identifiers are issued one after the other, and two runs of the compiler that start at different
numbers issue different ones. What they make is the same up to a renaming: `Target.rename` applies a
function to every identifier of a target, and targets agree up to identifiers (`Target.Alike`) if
each list of them is a renaming of the other.

The renaming that takes one run to another is `Id.shift`, which adds to the number of an identifier
and leaves every other text alone. It is injective on all texts, so that tables can be renamed
without a look at their keys (`Table.find?_rename` and so on), and it commutes with the issue of an
identifier. `Workspace.shift` renames a whole workspace.
-/

namespace BlockScript

open Function

namespace Table

variable {α : Type}

/-- Renames the keys of a table and changes its values. -/
def rename (ρ : Id → Id) (g : α → α) (t : Table α) : Table α := t.map fun p => (ρ p.1, g p.2)

variable {ρ : Id → Id} (hρ : Function.Injective ρ) (g : α → α)

include hρ

theorem find?_rename (t : Table α) (key : Id) :
    (rename ρ g t).find? (ρ key) = (t.find? key).map g := by
  induction t with
  | nil => rfl
  | cons p rest ih =>
    obtain ⟨k, v⟩ := p
    change (if ρ k = ρ key then some (g v) else find? (rename ρ g rest) (ρ key)) = _
    rw [find?, ih]
    by_cases hk : k = key
    · rw [if_pos hk, if_pos (congrArg ρ hk)]
      rfl
    · rw [if_neg hk, if_neg (hρ.ne hk)]

theorem has_rename (t : Table α) (key : Id) : (rename ρ g t).has (ρ key) = t.has key := by
  rw [has, find?_rename hρ, Option.isSome_map]
  rfl

theorem rename_set (t : Table α) (key : Id) (v : α) :
    rename ρ g (t.set key v) = (rename ρ g t).set (ρ key) (g v) := by
  induction t with
  | nil => rfl
  | cons p rest ih =>
    obtain ⟨k, u⟩ := p
    change _ = if ρ k = ρ key then (ρ k, g v) :: rename ρ g rest
      else (ρ k, g u) :: (rename ρ g rest).set (ρ key) (g v)
    rw [set]
    by_cases hk : k = key
    · rw [if_pos hk, if_pos (congrArg ρ hk)]
      rfl
    · rw [if_neg hk, if_neg (hρ.ne hk), ← ih]
      rfl

theorem rename_adjust {f f' : α → α} (hf : ∀ v, g (f v) = f' (g v)) (t : Table α) (key : Id) :
    rename ρ g (t.adjust key f) = (rename ρ g t).adjust (ρ key) f' := by
  induction t with
  | nil => rfl
  | cons p rest ih =>
    obtain ⟨k, u⟩ := p
    change _ = if ρ k = ρ key then (ρ k, f' (g u)) :: rename ρ g rest
      else (ρ k, g u) :: (rename ρ g rest).adjust (ρ key) f'
    rw [adjust]
    by_cases hk : k = key
    · rw [if_pos hk, if_pos (congrArg ρ hk), ← hf]
      rfl
    · rw [if_neg hk, if_neg (hρ.ne hk), ← ih]
      rfl

end Table

/-! ### Blocks and targets -/

section Rename

variable (ρ : Id → Id)

def Literal.rename : Literal → Literal
  | messageName name id => messageName name (ρ id)
  | variableName name id => variableName name (ρ id)
  | l => l

def Input.rename : Input → Input
  | literal l => literal (l.rename ρ)
  | menu id => menu (ρ id)
  | block id => block (ρ id)
  | reporter id covered => reporter (id.map ρ) (covered.rename ρ)
  | embedded l covered => embedded (l.rename ρ) (covered.rename ρ)
  | given v => given v

def Field.rename (f : Field) : Field := { f with id := f.id.map ρ }

def Mutation.rename (m : Mutation) : Mutation := { m with argumentIds := m.argumentIds.map ρ }

def Block.rename (b : Block) : Block :=
  { b with
    next := b.next.map ρ
    parent := b.parent.map ρ
    inputs := b.inputs.rename id (Input.rename ρ)
    fields := b.fields.rename id (Field.rename ρ)
    mutation := b.mutation.map (Mutation.rename ρ) }

def Operand.rename : Operand → Operand
  | value v => value v
  | name x => name x
  | block id => block (id.map ρ)

def Variable.rename (v : Variable) : Variable := { v with id := ρ v.id }

def ItemList.rename (l : ItemList) : ItemList := { l with id := ρ l.id }

/-- Renames the identifiers of a target. -/
def Target.rename (t : Target) : Target :=
  { t with
    blocks := t.blocks.rename ρ (Block.rename ρ)
    vars := t.vars.map (Variable.rename ρ)
    lists := t.lists.map (ItemList.rename ρ)
    broadcasts := t.broadcasts.rename id ρ }

def Procedure.rename (p : Procedure) : Procedure :=
  { p with
    argumentIds := p.argumentIds.map ρ
    definition := p.definition.map fun d => (ρ d.1, ρ d.2) }

def Draft.rename (d : Draft) : Draft :=
  { d with
    blocks := d.blocks.rename ρ (Block.rename ρ)
    vars := d.vars.map (Variable.rename ρ)
    broadcasts := d.broadcasts.rename id ρ }

end Rename

section Compose

variable (ρ σ : Id → Id)

theorem Table.rename_rename {α : Type} (f g : α → α) (t : Table α) :
    (t.rename σ g).rename ρ f = t.rename (ρ ∘ σ) (f ∘ g) := List.map_map

theorem Literal.rename_comp : rename ρ ∘ rename σ = rename (ρ ∘ σ) := by
  funext l
  cases l <;> rfl

theorem Input.rename_comp : rename ρ ∘ rename σ = rename (ρ ∘ σ) := by
  have hliteral (l : Literal) := congrFun (Literal.rename_comp ρ σ) l
  funext i
  cases i with
  | literal l => exact congrArg literal (hliteral l)
  | reporter id covered => exact congrArg₂ reporter (Option.map_map ρ σ id) (hliteral covered)
  | embedded l covered => exact congrArg₂ embedded (hliteral l) (hliteral covered)
  | _ => rfl

theorem Field.rename_comp : rename ρ ∘ rename σ = rename (ρ ∘ σ) := by
  funext f
  simp [rename]

theorem Mutation.rename_comp : rename ρ ∘ rename σ = rename (ρ ∘ σ) := by
  funext m
  simp [rename]

theorem Block.rename_comp : rename ρ ∘ rename σ = rename (ρ ∘ σ) := by
  funext b
  simp [rename, Table.rename_rename, Input.rename_comp, Field.rename_comp,
    Mutation.rename_comp]

theorem Target.rename_comp : rename ρ ∘ rename σ = rename (ρ ∘ σ) := by
  funext t
  simp [rename, Table.rename_rename, Block.rename_comp, Variable.rename, ItemList.rename]

end Compose

/-- **The targets are the same up to identifiers**: each list is a renaming of the other, so the
renaming is one to one on the identifiers that occur. -/
def Target.Alike (ts ts' : List Target) : Prop :=
  ∃ ρ ρ' : Id → Id, ts' = ts.map (Target.rename ρ) ∧ ts = ts'.map (Target.rename ρ')

/-! ### Shifts -/

/-- Adds to the number of an identifier. Texts that are no identifiers stay as they are. -/
def Id.shift (k : Nat) (id : Id) : Id :=
  if Id.ofNat (Text.readHex id.toList) = id then Id.ofNat (Text.readHex id.toList + k) else id

namespace Id

theorem shift_ofNat (k n : Nat) : shift k (ofNat n) = ofNat (n + k) := by
  rw [shift, readHex_ofNat, if_pos rfl]

theorem shift_injective (k : Nat) : Injective (shift k) := by
  intro a b h
  unfold shift at h
  split at h <;> split at h
  · next ha hb =>
    rw [← ha, ← hb, Nat.add_right_cancel (ofNat_injective h)]
  · next ha hb =>
    rw [← h, readHex_ofNat] at hb
    exact absurd rfl hb
  · next ha hb =>
    rw [h, readHex_ofNat] at ha
    exact absurd rfl ha
  · exact h

end Id

/-- What two runs from different numbers make is the same up to identifiers. -/
theorem Target.alike_shift (j k : Nat) (ts : List Target) :
    Alike (ts.map (rename (Id.shift j))) (ts.map (rename (Id.shift k))) := by
  obtain ⟨back, hback⟩ := (Id.shift_injective j).hasLeftInverse
  obtain ⟨back', hback'⟩ := (Id.shift_injective k).hasLeftInverse
  refine ⟨Id.shift k ∘ back, Id.shift j ∘ back', ?_, ?_⟩
  · rw [List.map_map, rename_comp, comp_assoc, hback.comp_eq_id, comp_id]
  · rw [List.map_map, rename_comp, comp_assoc, hback'.comp_eq_id, comp_id]

/-- The workspace of a run that has issued so many more identifiers before. -/
def Workspace.shift (k : Nat) (w : Workspace) : Workspace :=
  { w with
    issued := w.issued + k
    blocks := w.blocks.rename (Id.shift k) (Block.rename (Id.shift k))
    previous := w.previous.map (Id.shift k)
    hat := w.hat.map (Id.shift k)
    vars := w.vars.map (Variable.rename (Id.shift k))
    scopes := w.scopes.map (·.map (ItemList.rename (Id.shift k)))
    broadcasts := w.broadcasts.rename id (Id.shift k)
    procedures := w.procedures.rename id (Procedure.rename (Id.shift k))
    drafts := w.drafts.map (Draft.rename (Id.shift k)) }

end BlockScript
