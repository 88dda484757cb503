import PanelMenu.Proofs.ExtendedSettings
import PanelMenu.Proofs.SettingsLayers

/-! Variables of the environment with values that make no sense. All settings stay as they are but one: a
verbosity that is no name of one asks for the normal verbosity, whatever a file has set. -/

namespace PanelMenu

/-- Each variable is missing or has a value that is not recognised: a verbosity that is no name of one in letters of
either case, a blank output, rows that are no number of a machine word. -/
structure Environment.Idle (environment : Environment) : Prop where
  verbosity : ∀ text, environment.lookup "OLEDMENU_VERBOSITY" = some text →
    ∀ verbosity : Verbosity, text.toList.map Char.toLower ≠ verbosity.name.toList
  output : ∀ text, environment.lookup "OLEDMENU_OUTPUT" = some text → ∀ c ∈ text.toList, Text.isBlank c = true
  viewport : ∀ text, environment.lookup "OLEDMENU_VIEWPORT" = some text →
    ∀ rows < UInt64.size, ¬ Number.Spells (Text.trim text.toList) rows

theorem Environment.Idle.unset {environment : Environment} (idle : environment.Idle) (slot : Settings.Slot)
    (value : slot.kind.Value) : ¬ environment.Sets slot value := by
  match slot with
  | .display .viewport =>
    rintro ⟨text, found, spelled, fits⟩
    exact idle.viewport text found value fits spelled
  | .display .output =>
    rintro ⟨found, c, member, visible⟩
    rw [idle.output value found c member] at visible
    cases visible
  | .output .verbosity =>
    rintro ⟨text, found, named⟩
    exact idle.verbosity text found value named
  | .display .width | .display .height | .display .lineHeight | .display .glyphWidth | .display .glyphHeight
  | .display .enabled | .output .console => exact id

namespace Settings

theorem verbosityOf_unnamed {text : String}
    (unnamed : ∀ verbosity : Verbosity, text.toList.map Char.toLower ≠ verbosity.name.toList) :
    verbosityOf text = .normal := by
  have unknown : Verbosity.ofName? (.ofList (text.toList.map Char.toLower)) = none := by
    rw [Verbosity.ofName?, List.find?_eq_none]
    intro verbosity _ named
    apply unnamed verbosity
    rw [beq_iff_eq.mp named, String.toList_ofList]
  rw [verbosityOf, unknown, Option.getD_none]

theorem verbosity_idle (settings : Settings) {environment : Environment} (idle : environment.Idle) :
    (settings.overridden environment).output.verbosity =
      if (environment.lookup "OLEDMENU_VERBOSITY").isSome then .normal else settings.output.verbosity := by
  cases found : environment.lookup "OLEDMENU_VERBOSITY" with
  | none => simp only [overridden, found, Option.isSome_none, Bool.false_eq_true, if_false]
  | some text =>
    simp only [overridden, found, Option.isSome_some, if_true]
    exact verbosityOf_unnamed (idle.verbosity text found)

/-- Nothing changes but the verbosity, and that only if its variable is there and something else had been set. -/
theorem overridden_idle (settings : Settings) {environment : Environment} (idle : environment.Idle) :
    settings.overridden environment = { settings with output.verbosity :=
        if (environment.lookup "OLEDMENU_VERBOSITY").isSome then .normal else settings.output.verbosity } ∧
      (settings.overridden environment = settings ↔
        environment.lookup "OLEDMENU_VERBOSITY" = none ∨ settings.output.verbosity = .normal) := by
  have verbosity := settings.verbosity_idle idle
  have same : settings.overridden environment = { settings with output.verbosity :=
      if (environment.lookup "OLEDMENU_VERBOSITY").isSome then .normal else settings.output.verbosity } := by
    apply ext_get
    intro slot
    by_cases chosen : slot = .output .verbosity
    · subst chosen
      exact verbosity
    · rw [get_overridden_unset (fun here => absurd here chosen) (idle.unset slot)]
      cases slot with
      | display field => rfl
      | output field =>
        cases field with
        | verbosity => exact absurd rfl chosen
        | console => rfl
  refine ⟨same, ?_⟩
  cases found : environment.lookup "OLEDMENU_VERBOSITY" with
  | none =>
    rw [same, found]
    simp
  | some text =>
    rw [found] at verbosity
    constructor
    · intro kept
      rw [kept] at verbosity
      exact .inr verbosity
    · rintro (missing | normal)
      · cases missing
      · rw [same, found]
        simp [← normal]

section Example

def mistyped : Environment :=
  [("OLEDMENU_VERBOSITY", "loud"), ("OLEDMENU_OUTPUT", "\t "), ("OLEDMENU_VIEWPORT", " 18446744073709551616")]

theorem idle_mistyped : mistyped.Idle := by
  constructor
  case verbosity =>
    intro text found verbosity
    obtain rfl : "loud" = text := Option.some.inj found
    cases verbosity <;> decide
  case output =>
    intro text found
    obtain rfl : "\t " = text := Option.some.inj found
    have blank : Text.isAllBlank "\t ".toList = true := by decide
    exact List.all_eq_true.mp blank
  case viewport =>
    intro text found rows fits spelled
    obtain rfl : " 18446744073709551616" = text := Option.some.inj found
    have refused : rowsOf? " 18446744073709551616" = none := by decide +kernel
    cases refused.symm.trans (rowsOf?_eq_some_iff.mpr ⟨spelled, fits⟩)

theorem mistyped_overrides :
    let settings : Settings := { display := { viewport := 6 }, output := { verbosity := .debug } }
    mistyped.Idle ∧
      settings.overridden mistyped = { display := { viewport := 6 }, output := { verbosity := .normal } } ∧
      settings.overridden mistyped ≠ settings := by
  intro settings
  obtain ⟨same, kept⟩ := settings.overridden_idle idle_mistyped
  refine ⟨idle_mistyped, same, ?_⟩
  rw [Ne, kept]
  decide

end Example
end Settings
end PanelMenu
