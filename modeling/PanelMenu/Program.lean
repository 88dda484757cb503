import PanelMenu.CommandLine.Reading
import PanelMenu.Config.Lookup
import PanelMenu.Menu.Document
import PanelMenu.Navigation.Key
import PanelMenu.Session.Journal
import PanelMenu.Session.Renderer
import PanelMenu.Session.Run

/-! The program as a function from what it finds to what it leaves behind. -/

namespace PanelMenu

/-- A terminal and what is typed on it. -/
structure Terminal where
  columns : Nat
  typed : List Key
  deriving DecidableEq, Repr

/-- What the program finds. Without a terminal both streams are plain and nothing can be typed. -/
structure Situation where
  arguments : List String
  files : Files := {}
  environment : Environment := []
  workingDirectory : Option String := none
  userDirectory : Option String := Settings.userDirectory environment
  terminal : Option Terminal := none
  deriving Repr

/-- What the program leaves behind. -/
structure Outcome where
  code : Nat
  world : World
  deriving Repr

/-- Why the program stops before it is done. -/
inductive ProgramFault
  | menu (error : MenuError)
  | noTerminal
  deriving DecidableEq, Repr

/-- Faults of files are told once more, as the cause. -/
def ProgramFault.report : ProgramFault → String
  | menu error =>
    let cause := match error with
      | .files fault => s!"\nCaused by:\n    {fault.message}\n"
      | _ => ""
    s!"Error: {error.message}\n" ++ cause
  | noTerminal => "Error: stdin is not a terminal; pass --keys to replay a key script\n"

namespace Settings

/-- Options override everything else. -/
def adjusted (settings : Settings) (options : Options) : Settings :=
  let display := settings.display
  let output := settings.output
  { display := { display with
      output := options.output.getD display.output
      enabled := display.enabled && !options.noBitmap }
    output :=
      { verbosity := output.verbosity.raisedBy options.verbose
        console := output.console && !options.json } }

/-- The settings that hold: those of a file, then the environment, then the options. A file that is
named has to be usable. -/
def resolve (options : Options) (files : Files) (environment : Environment)
    (workingDirectory : Option String)
    (userDirectory : Option String := Settings.userDirectory environment) :
    Except MenuError (Settings × List Warning) := do
  let (settings, warnings) ←
    match options.config with
    | some path => load files path
    | none => pure (firstUsable files (candidates workingDirectory userDirectory))
  return ((settings.overridden environment).adjusted options, warnings)

end Settings

namespace Program

def menu (options : Options) (files : Files) : Except MenuError MenuSpec :=
  match options.menu with
  | some path => MenuSpec.load files path
  | none => .ok .demo

/-- The renderer that writes to the output: records if they are asked for, or else the menu as text
unless that is turned off. A raw terminal shows it on the whole screen. -/
def outputRenderer (settings : Settings) (json : Bool) (columns : Option Nat) : List Renderer :=
  if json then [.records columns.isSome]
  else if !settings.output.console then []
  else match columns with
    | some columns => [.screen columns]
    | none => [.text]

/-- All renderers, the panel last. -/
def renderers (settings : Settings) (json : Bool) (columns : Option Nat) :
    Except MenuError (List Renderer) := do
  let panel ← (PanelRenderer.ofSettings settings.display).mapError .invalidDisplay
  return outputRenderer settings json columns ++ [.panel panel]

def journal (verbosity : Verbosity) (json raw : Bool) : Journal :=
  if json then .records raw else .lines verbosity raw .errors

/-- The cursor is hidden as long as keys are read. -/
def hideCursor : String := "\x1b[?25l"

def showCursor : String := "\x1b[?25h"

/-- What is printed about a session that is over. -/
def farewell (settings : Settings) (summary : Summary) (world : World) : World :=
  let world := world.write "\nExited the menu system.\n" .output
  let world :=
    if settings.output.verbosity.shows .verbose then
      world.write s!"{summary.steps} steps, {summary.frames} frames ({summary.reason.name})\n"
        .errors
    else world
  if summary.renderFailures = 0 then world
  else world.write s!"⚠ {summary.renderFailures} frame(s) could not be drawn\n" .errors

/-- Everything that is needed for a session. -/
structure Preparation where
  settings : Settings
  navigator : Navigator
  renderers : List Renderer
  source : InputSource
  columns : Option Nat

/-- Gets everything ready. The settings come with their warnings, which are told even if something
else goes wrong afterwards. -/
def prepare (options : Options) (situation : Situation) (settings : Settings) :
    Except ProgramFault Preparation := do
  let spec ← (menu options situation.files).mapError .menu
  let navigator ←
    (Navigator.build { policy := .announcing } spec).mapError (.menu ∘ .unknownCallback)
  let (source, columns) ←
    match options.keys, situation.terminal with
    | some script, _ => pure ({ pending := Input.ofScript script }, none)
    | none, some terminal => pure ({ pending := Key.inputs terminal.typed }, some terminal.columns)
    | none, none => throw .noTerminal
  let renderers ← (renderers settings options.json columns).mapError .menu
  return {
    settings := settings
    navigator := navigator
    renderers := renderers
    source := source
    columns := columns }

def fail (world : World) (fault : ProgramFault) : Outcome :=
  { code := 1, world := world.write fault.report .errors }

/-- The session and what is said after it. -/
def play (options : Options) (ready : Preparation) (world : World) : Outcome :=
  let raw := ready.columns.isSome
  let sink := (journal ready.settings.output.verbosity options.json raw).sink
  let opened := if raw then world.write hideCursor .output else world
  let run := runSession sink ready.source ready.navigator ready.renderers opened
  let closed := if raw then run.world.write showCursor .output else run.world
  match run.result with
  | .error error => fail closed (.menu error)
  | .ok summary =>
    { code := 0, world := if options.json then closed else farewell ready.settings summary closed }

/-- Obeys options that were understood. -/
def obey (options : Options) (situation : Situation) (world : World) : Outcome :=
  match Settings.resolve options situation.files situation.environment
      situation.workingDirectory situation.userDirectory with
  | .error error => fail world (.menu error)
  | .ok (settings, warnings) =>
    let warned := world.write (String.join (warnings.map Warning.text)) .errors
    match prepare options situation settings with
    | .error fault => fail warned fault
    | .ok ready => play options ready warned

/-- A command line that is not understood is told apart by its code. -/
def run (situation : Situation) : Outcome :=
  let world : World := { files := situation.files }
  match Options.ofArguments situation.arguments with
  | .ok options => obey options situation world
  | .error .help => { code := 0, world := world.write helpText .output }
  | .error .version => { code := 0, world := world.write versionText .output }
  | .error _ => { code := 2, world := world.write "error: the arguments are wrong\n" .errors }

end Program
end PanelMenu
