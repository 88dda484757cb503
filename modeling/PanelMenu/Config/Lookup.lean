import PanelMenu.Config.Warning
import PanelMenu.Files.Basic
import PanelMenu.Text.Blank

/-! Where settings come from: a file, the variables of the environment on top of it. -/

namespace PanelMenu

/-- Names and values of variables. The first one of a name counts. -/
abbrev Environment := List (String × String)

namespace Settings

/-- The settings in a file, and what is odd about them. -/
def load (files : Files) (path : String) : Except MenuError (Settings × List Warning) := do
  let content ← (files.readText path).mapError .files
  let (settings, unknown) ← (ofText content).mapError (.invalidConfig path)
  return (settings, unknown.toList.map (Warning.ofKey content path))

/-- The directory of a user's settings: the one that is named, if its path is absolute, or else one
in the user's home. The system knows a home too, for when no variable names one. -/
def userDirectory (environment : Environment) (systemHome : Option String := none) :
    Option String :=
  match environment.lookup "XDG_CONFIG_HOME" with
  | some path => if Files.isAbsolute path then some path else inHome
  | none => inHome
where
  inHome : Option String :=
    let home := (environment.lookup "HOME").filter (· != "")
    (home.or systemHome).map (Files.join · ".config")

/-- The files that are looked for: next to the user's work, then among the user's settings. -/
def candidates (workingDirectory userDirectory : Option String) : List String :=
  let here := workingDirectory.map (Files.join · "oledmenu.toml")
  let user := userDirectory.map (Files.join · "oledmenu/config.toml")
  here.toList ++ user.toList

/-- The first of the files that are there and can be used. Those before it are skipped as a whole.
-/
def firstUsable (files : Files) : List String → Settings × List Warning
  | [] => ({}, [])
  | path :: rest =>
    if !files.isThere path then firstUsable files rest
    else match load files path with
      | .ok result => result
      | .error cause =>
        let (settings, warnings) := firstUsable files rest
        (settings, .skippedFile path cause :: warnings)

/-- A verbosity by its name in any letter case. Other texts ask for the normal one. -/
def verbosityOf (text : String) : Verbosity :=
  (Verbosity.ofName? (String.ofList (text.toList.map Char.toLower))).getD .normal

/-- A number that fits into a machine word, with blanks around it and a plus sign at most. -/
def rowsOf? (text : String) : Option Nat :=
  match Number.unsignedOf? 10 (Text.trim text.toList) with
  | some rows => if rows < UInt64.size then some rows else none
  | none => none

/-- Variables override single settings. -/
def overridden (settings : Settings) (environment : Environment) : Settings :=
  let verbosity := match environment.lookup "OLEDMENU_VERBOSITY" with
    | some text => verbosityOf text
    | none => settings.output.verbosity
  let output := match environment.lookup "OLEDMENU_OUTPUT" with
    | some text => if Text.isAllBlank text.toList then settings.display.output else text
    | none => settings.display.output
  let viewport := match (environment.lookup "OLEDMENU_VIEWPORT").bind rowsOf? with
    | some rows => rows
    | none => settings.display.viewport
  { display := { settings.display with output := output, viewport := viewport }
    output := { settings.output with verbosity := verbosity } }

end Settings
end PanelMenu
