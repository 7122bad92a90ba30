import BlockScript.Workspace

/-!
# Carrying out steps

How a step of `Build` is carried out, one equation for each way of making a step from others and one
for each of the few steps that change a workspace. Everything else in the compiler is made of these,
so no proof has to look at the monad again.

Two forms of reasoning are built on the equations. `Build.run_bind_eq_ok` takes a run apart that
ended well: it went through a workspace in between. `Build.Meets` goes forward instead: a step meets
a specification on a workspace if it ends well with what is promised, or fails for a reason that is
admitted. It is what a claim of the form "this succeeds, unless" needs.
-/

namespace BlockScript

/-- A computation that goes through has gone through its first step. -/
theorem exists_of_bind_eq_ok {α β : Type} {r : Except Fault α} {f : α → Except Fault β} {b : β}
    (h : (r >>= f) = .ok b) : ∃ a, r = .ok a ∧ f a = .ok b := by
  cases r with
  | ok a => exact ⟨a, rfl, h⟩
  | error e => cases h

namespace Build

variable {α β : Type} {w w' w'' : Workspace}

/-! ### The equations of the monad -/

@[simp] theorem run_pure (a : α) (w : Workspace) : (pure a : Build α).run w = (.ok a, w) := rfl

@[simp] theorem run_get (w : Workspace) : (get : Build Workspace).run w = (.ok w, w) := rfl

@[simp] theorem run_set (v w : Workspace) : (set v : Build Unit).run w = (.ok (), v) := rfl

@[simp] theorem run_modify (f : Workspace → Workspace) (w : Workspace) :
    (modify f : Build Unit).run w = (.ok (), f w) := rfl

theorem run_bind (m : Build α) (f : α → Build β) (w : Workspace) :
    (m >>= f).run w =
      match m.run w with
      | (.ok a, w') => (f a).run w'
      | (.error e, w') => (.error e, w') := by
  change StateT.run (ExceptT.run (m >>= f)) w = _
  rw [ExceptT.run_bind]
  change (StateT.run (ExceptT.run m >>= _) w) = _
  rw [StateT.run_bind]
  change _ = match StateT.run (ExceptT.run m) w with
      | (.ok a, w') => (f a).run w'
      | (.error e, w') => (.error e, w')
  rcases StateT.run (ExceptT.run m) w with ⟨_ | _, _⟩ <;> rfl

variable {a : α} {m : Build α}

theorem run_bind_of_ok (h : m.run w = (.ok a, w')) (f : α → Build β) :
    (m >>= f).run w = (f a).run w' := by
  rw [run_bind, h]

@[simp] theorem run_lift_ok (a : α) (w : Workspace) :
    (lift (.ok a)).run w = (.ok a, w) := rfl

theorem forM_cons (f : α → Build Unit) (a : α) (l : List α) :
    (a :: l).forM f = (do f a; l.forM f) := rfl

/-! ### Runs that ended well -/

/-- A run of two steps that ended well went through a workspace in between. -/
theorem run_bind_eq_ok {f : α → Build β} {b : β} (h : (m >>= f).run w = (.ok b, w'')) :
    ∃ a w', m.run w = (.ok a, w') ∧ (f a).run w' = (.ok b, w'') := by
  rw [run_bind] at h
  rcases hm : m.run w with ⟨_ | a, v⟩
  · rw [hm] at h
    cases h
  · rw [hm] at h
    exact ⟨a, v, rfl, h⟩

/-- A run with a result that was looked at. -/
theorem exists_of_run_map {f : α → β} {b : β} (h : (m.run w).1.toOption.map f = some b) :
    ∃ a w', m.run w = (.ok a, w') ∧ f a = b := by
  rcases hrun : m.run w with ⟨e | a, w'⟩ <;> rw [hrun] at h
  · cases h
  · exact ⟨a, w', rfl, Option.some.inj h⟩

/-- A run that was seen to end well. -/
theorem exists_of_isOk (h : (m.run w).1.isOk = true) : ∃ a w', m.run w = (.ok a, w') := by
  rcases hrun : m.run w with ⟨e | a, w'⟩ <;> rw [hrun] at h
  · cases h
  · exact ⟨a, w', rfl⟩

theorem run_pure_eq_ok {a b : α} (h : (pure a : Build α).run w = (.ok b, w')) :
    b = a ∧ w' = w := by
  cases h
  exact ⟨rfl, rfl⟩

theorem run_lift_eq_ok {r : Except Fault α} (h : (lift r).run w = (.ok a, w')) :
    r = .ok a ∧ w' = w := by
  cases r with
  | ok b =>
    cases h
    exact ⟨rfl, rfl⟩
  | error e => cases h

/-! ### Steps that change a workspace -/

@[simp] theorem run_fresh (w : Workspace) :
    fresh.run w = (.ok (Id.ofNat (w.issued + 1)), { w with issued := w.issued + 1 }) := rfl

@[simp] theorem run_put (id : Id) (b : Block) (w : Workspace) :
    (put id b).run w = (.ok (), { w with blocks := w.blocks.set id b }) := rfl

@[simp] theorem run_setPrevious (p : Option Id) (w : Workspace) :
    (setPrevious p).run w = (.ok (), { w with previous := p }) := rfl

theorem run_update (id : Id) (f : Block → Block) (w : Workspace) :
    (update id f).run w =
      if w.blocks.has id then (.ok (), { w with blocks := w.blocks.adjust id f })
      else (.error (.missingKey (Value.quotedString id)), w) := by
  rw [update, run_bind, run_get]
  dsimp only
  split
  · rfl
  · rfl

theorem run_update_of_has {id : Id} (h : w.blocks.has id) (f : Block → Block) :
    (update id f).run w = (.ok (), { w with blocks := w.blocks.adjust id f }) := by
  rw [run_update, if_pos h]

theorem run_update_eq_ok {id : Id} {f : Block → Block}
    (h : (update id f).run w = (.ok (), w')) :
    w.blocks.has id ∧ w' = { w with blocks := w.blocks.adjust id f } := by
  rw [run_update] at h
  split at h
  · next hid =>
    cases h
    exact ⟨hid, rfl⟩
  · cases h

/-! ### Meeting a specification -/

/-- The step ends well with what is promised, or fails and the admitted reason holds. -/
def Meets (m : Build α) (w : Workspace) (bad : Prop) (good : α → Workspace → Prop) : Prop :=
  match m.run w with
  | (.ok a, w') => good a w'
  | (.error _, _) => bad

variable {bad bad' : Prop} {good good' : α → Workspace → Prop}

theorem meets_of_run (h : m.run w = (.ok a, w')) (hgood : good a w') : m.Meets w bad good := by
  rw [Meets, h]
  exact hgood

theorem Meets.mono (h : m.Meets w bad good) (hbad : bad → bad')
    (hgood : ∀ a w', good a w' → good' a w') : m.Meets w bad' good' := by
  rw [Meets] at h ⊢
  rcases hm : m.run w with ⟨_ | a, v⟩
  · rw [hm] at h
    exact hbad h
  · rw [hm] at h
    exact hgood a v h

theorem meets_bind {f : α → Build β} {good : β → Workspace → Prop} :
    (m >>= f).Meets w bad good ↔
      m.Meets w bad fun a w' => (f a).Meets w' bad good := by
  rw [Meets, Meets, run_bind]
  rcases m.run w with ⟨_ | a, v⟩
  · exact Iff.rfl
  · exact Iff.rfl

/-- A step whose result is known goes on from it. -/
theorem meets_run_bind {f : α → Build β} {good : β → Workspace → Prop}
    (h : m.run w = (.ok a, w')) (hf : (f a).Meets w' bad good) : (m >>= f).Meets w bad good :=
  meets_bind.2 (meets_of_run h hf)

/-- Of a step that meets its specification only the specification matters for what follows. -/
theorem Meets.bind {f : α → Build β} {good' : β → Workspace → Prop} (h : m.Meets w bad good)
    (hbad : bad → bad') (hf : ∀ a w', good a w' → (f a).Meets w' bad' good') :
    (m >>= f).Meets w bad' good' :=
  meets_bind.2 (h.mono hbad hf)

theorem meets_pure : (pure a : Build α).Meets w bad good ↔ good a w := Iff.rfl

theorem Meets.of_eq_ok (h : m.Meets w bad good) (hm : m.run w = (.ok a, w')) : good a w' := by
  rw [Meets, hm] at h
  exact h

/-- More is known about what the step does. -/
theorem Meets.and (h : m.Meets w bad good) (h' : ∀ a w', m.run w = (.ok a, w') → good' a w') :
    m.Meets w bad fun a w' => good a w' ∧ good' a w' := by
  rw [Meets] at h ⊢
  rcases hm : m.run w with ⟨_ | a, v⟩
  · rw [hm] at h
    exact h
  · rw [hm] at h
    exact ⟨h, h' a v hm⟩

/-- Where nothing excuses a failure, the step ends well. -/
theorem Meets.exists_run (h : m.Meets w bad good) (hbad : ¬bad) :
    ∃ a w', m.run w = (.ok a, w') ∧ good a w' := by
  rw [Meets] at h
  rcases hm : m.run w with ⟨_ | a, v⟩
  · rw [hm] at h
    exact absurd h hbad
  · rw [hm] at h
    exact ⟨a, v, rfl, h⟩

end Build

end BlockScript
