import PanelMenu.Program
import PanelMenu.Proofs.SettingsFile

/-! Settings when no file is named. The candidates are gone through in order, and a file that cannot be used
leaves a warning and nothing else, however far it could be read. -/

namespace PanelMenu.Settings
open Warning (Notice)

/-- What is told about a candidate that is there and cannot be used. If its text is at fault, that is said without
the name of the file. -/
def skipped? (files : Files) (path : String) : Option Notice :=
  if files.isThere path then
    match load files path with
    | .error (.invalidConfig _ fault) => some { key := "", file := path, message := some fault.message }
    | .error cause => some { key := "", file := path, message := some cause.message }
    | .ok _ => none
  else none

/-- The first candidate that can be used decides alone, and the defaults hold if there is none. The skipped
files are told about in order, then the keys of the file in use that mean nothing. -/
inductive FallsBack (files : Files) (candidates : List String) : Settings → List Notice → Prop where
  | found {before path after settings known} (split : candidates = before ++ path :: after)
      (unusable : ∀ other ∈ before, ∃ cause, load files other = .error cause)
      (loads : load files path = .ok (settings, known))
      (own : ∀ notice ∈ known.map Warning.notice, notice.file = path ∧ notice.message = none) :
      FallsBack files candidates settings (before.filterMap (skipped? files) ++ known.map Warning.notice)
  | nothing (unusable : ∀ other ∈ candidates, ∃ cause, load files other = .error cause) :
      FallsBack files candidates {} (candidates.filterMap (skipped? files))

section Candidates
variable {files : Files} {path : String}

theorem known_of_load {settings : Settings} {known : List Warning} (loads : load files path = .ok (settings, known)) :
    ∀ notice ∈ known.map Warning.notice, notice.file = path ∧ notice.message = none := by
  rw [load_eq] at loads
  split at loads
  next => cases loads
  next content _ =>
    split at loads
    next => cases loads
    next unknown _ =>
      obtain ⟨_, rfl⟩ := Prod.mk.inj (Except.ok.inj loads)
      rw [List.map_map]
      intro notice member
      obtain ⟨key, _, rfl⟩ := List.mem_map.mp member
      exact ⟨rfl, rfl⟩

theorem FallsBack.skip {rest : List String} {settings : Settings} {notices : List Notice} {cause : MenuError}
    (unusable : load files path = .error cause) (falls : FallsBack files rest settings notices) :
    FallsBack files (path :: rest) settings ((skipped? files path).toList ++ notices) := by
  have told : ∀ others : List String,
      (skipped? files path).toList ++ others.filterMap (skipped? files) = (path :: others).filterMap (skipped? files) := by
    intro others
    rw [List.filterMap_cons]
    cases skipped? files path <;> rfl
  cases falls with
  | found split others loads own =>
    rw [← List.append_assoc, told]
    exact .found (congrArg (path :: ·) split) (List.forall_mem_cons.mpr ⟨⟨cause, unusable⟩, others⟩) loads own
  | nothing others =>
    rw [told]
    exact .nothing (List.forall_mem_cons.mpr ⟨⟨cause, unusable⟩, others⟩)

theorem firstUsable_fallsBack (files : Files) (candidates : List String) :
    FallsBack files candidates (firstUsable files candidates).1
      ((firstUsable files candidates).2.map Warning.notice) := by
  induction candidates with
  | nil => exact .nothing (fun _ member => (List.not_mem_nil member).elim)
  | cons path rest ih =>
    rw [firstUsable]
    cases there : files.isThere path with
    | false =>
      obtain ⟨cause, unusable⟩ := unusable_of_not_isThere there
      have silent : skipped? files path = none := by rw [skipped?, there, if_neg Bool.false_ne_true]
      have skip := ih.skip (load_error_iff.mpr unusable)
      rw [silent] at skip
      exact skip
    | true =>
      cases loaded : load files path with
      | ok result =>
        have others : ∀ other ∈ ([] : List String), ∃ cause, load files other = .error cause := by simp
        exact .found rfl others loaded (known_of_load loaded)
      | error cause =>
        have told : skipped? files path = some (Warning.skippedFile path cause).notice := by
          rw [skipped?, if_pos there, loaded]
          cases cause <;> rfl
        have skip := ih.skip loaded
        rw [told] at skip
        exact skip

end Candidates

section Resolving
variable {options : Options} {files : Files} {environment : Environment} {workingDirectory userDirectory : Option String}

end Resolving
section Example

def misspelt : String := "display.viewport = 7\ndisplay.heigth = 8\n"

end Example
end PanelMenu.Settings
