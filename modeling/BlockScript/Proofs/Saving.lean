import BlockScript.Project.File
import BlockScript.Proofs.Disk

/-!
# Saving that fails

A project file is opened before the assets of the project are looked for. A fault in the project, or
a path that no file can have, leaves everything as it is. A fault that comes later leaves a file with
the description and the assets that were found before it, whatever the file was
(`ProjectFile.save_fails`).
-/

namespace BlockScript

namespace ProjectFile

open Action

/-- Another project file is only read. -/
theorem sourceAssets_finds (path : String) : (sourceAssets path).Finds fun _ _ => True := by
  have hread := ((finds_read path).bind fun b => (finds_lift (r := Archive.ofBytes b)).mono
    fun _ _ _ _ => trivial).attempt
  refine hread.bind fun r => ?_
  cases r with
  | error e => exact (finds_print _).bind fun _ => finds_pure fun _ _ _ => trivial
  | ok archive =>
    dsimp only
    split
    · exact finds_pure fun _ _ => trivial
    · exact (finds_print _).bind fun _ => finds_pure fun _ _ _ => trivial

/-- The names that a description needs assets for. -/
def wanted (description : String) : Except Fault (List Value) :=
  Json.read description >>= neededAssets

/-- Looking for the assets of another project changes nothing but the screen. -/
theorem otherAssets_finds (source : Option String) :
    (otherAssets source).Finds fun _ _ => True := by
  cases source with
  | none => exact finds_pure fun _ => trivial
  | some path => exact sourceAssets_finds path

/-- **When a file is spoiled.** A fault in the description, or a path where no file can be, changes
nothing but the screen. A fault in looking for the assets leaves the description and what was found
before the fault. -/
theorem save_fails (r : Option Resources) (description path : String) (source : Option String)
    (custom : Table Bytes) (h : Host) :
    ((∃ e, wanted description = .error e) ∨ (h.place path).file? = none →
      ∃ e h', (save r description path source custom).run h = (.error e, h') ∧
        h'.unseen = h.unseen) ∧
    ∀ needed others full entries e h₁ h₂, wanted description = .ok needed →
      (otherAssets source).run h = (.ok others, h₁) → (h.place path).file? = some full →
      (entriesFor r custom others needed).run (h₁.store full []) = (.ok (entries, some e), h₂) →
      (h₂.place path).file? = some full →
      (save r description path source custom).run h = (.error e, h₂.store full
        (Archive.toBytes ((descriptionName, Bytes.ofText description) :: entries))) := by
  have hscreen := (otherAssets_finds source h).2.1
  refine ⟨fun hearly => ?_, fun needed others full entries e h₁ h₂ hneeded hothers hfull hentries
    hfull' => ?_⟩
  · rw [save]
    cases hread : Json.read description with
    | error e => exact ⟨e, h, rfl, rfl⟩
    | ok project =>
      rw [run_bind_of_ok (run_lift _ h)]
      cases hneeded : neededAssets project with
      | error e => exact ⟨e, h, rfl, rfl⟩
      | ok needed =>
        rw [run_bind_of_ok (run_lift _ h)]
        have hplace : (h.place path).file? = none := by
          refine hearly.resolve_left ?_
          rintro ⟨e, he⟩
          rw [wanted, hread] at he
          cases hneeded.symm.trans he
        rcases hrun : (otherAssets source).run h with ⟨e | others, h'⟩ <;> rw [hrun] at hscreen
        · exact ⟨e, h', run_bind_of_error hrun, hscreen⟩
        · rw [← Host.place_unseen, ← hscreen, Host.place_unseen] at hplace
          exact ⟨_, h', (run_bind_of_ok hrun).trans
            (run_bind_of_error (Host.run_write_fails hplace [])), hscreen⟩
  · rw [hothers] at hscreen
    rw [← Host.place_unseen, ← hscreen, Host.place_unseen] at hfull
    obtain ⟨project, hread, hneeded⟩ := exists_of_bind_eq_ok hneeded
    rw [save, hread, run_bind_of_ok (run_lift _ h), hneeded, run_bind_of_ok (run_lift _ h),
      run_bind_of_ok hothers, run_bind_of_ok (Host.run_write hfull []), run_bind_of_ok hentries]
    exact run_bind_of_ok (Host.run_write hfull' _)

/-- A project with a costume whose stored name has no dot. -/
def dotless : String := "\x7b\"targets\": [\x7b\"costumes\": [\x7b\"md5ext\": \"x\"\x7d]\x7d]\x7d"

/-- A computer with one file. -/
def keeper : Host := { here := [], files := [("/a", [1])] }

theorem wanted_dotless : wanted dotless = .ok [.str "x"] := by
  with_unfolding_all rfl

/-- The file is lost although nothing is saved. -/
theorem save_fails_dotless : ∃ e h', (save none dotless "/a" none []).run keeper = (.error e, h') ∧
    keeper.files.find? "/a" = some [1] ∧ h'.files.find? "/a" ≠ some [1] :=
  ⟨_, _, (save_fails none dotless "/a" none [] keeper).2 _ _ _ _ _ _ (keeper.store "/a" [])
    wanted_dotless rfl rfl rfl rfl, rfl, by decide +kernel⟩

end ProjectFile

end BlockScript
