import PanelMenu.Program

/-! The command line. It gathers the files and variables that the program can ask for, lets the
program run, and hands on what it leaves behind. -/

namespace PanelMenu.Main

/-- Variables that matter. -/
def observedVariables : List String :=
  ["XDG_CONFIG_HOME", "HOME", "OLEDMENU_VERBOSITY", "OLEDMENU_OUTPUT", "OLEDMENU_VIEWPORT"]

/-- Files that may be read. -/
def readable (arguments : List String) (environment : Environment) (directory : String) :
    List String :=
  match Options.ofArguments arguments with
  | .error _ => []
  | .ok options =>
    let settings := match options.config with
      | some path => [path]
      | none => Settings.candidates (some directory) (Settings.userDirectory environment)
    settings ++ options.menu.toList

/-- Adds what is found at a path. Whatever cannot be read but is there passes for a directory. -/
def gather (files : Files) (path : String) : IO Files := do
  let place? := (files.locate (files.startOf path) (Files.parts path)).toOption
  let place := place?.getD (files.startOf path ++ Files.parts path)
  let above := (List.range place.length).map place.take
  let reachable := above.foldl
    (fun files place =>
      if (files.entry? place).isSome then files else files.put place .directory) files
  try
    let bytes ← IO.FS.readBinFile path
    return reachable.put place (.file bytes.toList)
  catch error =>
    match error with
    | .noFileOrDirectory _ _ _ => return files
    | _ => return reachable.put place .directory

/-- The key that stands for a character of a line of text. -/
def typedKey (c : Char) : Key :=
  if c == '\n' then { code := .enter } else { code := .letter c }

def terminal? : IO (Option Terminal) := do
  let input ← IO.getStdin
  if ← input.isTty then
    let mut typed := #[]
    let mut line ← input.getLine
    while !line.isEmpty do
      typed := typed ++ (line.toList.map typedKey)
      line ← input.getLine
    return some { columns := 80, typed := typed.toList }
  else return none

/-- Writes the files that are new or have changed. What cannot be written is told. -/
def scatter (before after : Files) : IO Unit := do
  for (place, entry) in after.entries.reverse do
    let path := "/" ++ "/".intercalate place
    try
      match entry with
      | .directory => if (before.entry? place).isNone then IO.FS.createDirAll path
      | .file bytes =>
        if before.entry? place != some entry then
          IO.FS.writeBinFile path (ByteArray.mk bytes.toArray)
    catch error => IO.eprintln s!"⚠ {path}: {error}"

end PanelMenu.Main

open PanelMenu PanelMenu.Main in
def main (arguments : List String) : IO UInt32 := do
  let directory := toString (← IO.currentDir)
  let values ← observedVariables.filterMapM fun name => do
    return (← IO.getEnv name).map fun value => (name, value)
  let mut files : Files := { workingPlace := Files.parts directory }
  for path in readable arguments values directory do
    files ← gather files path
  let isScripted := match Options.ofArguments arguments with
    | .ok options => !options.isInteractive
    | .error _ => true
  let terminal ← if isScripted then pure none else terminal?
  let outcome := Program.run
    { arguments := arguments
      files := files
      environment := values
      workingDirectory := some directory
      terminal := terminal }
  IO.print outcome.world.output
  IO.eprint outcome.world.errors
  scatter files outcome.world.files
  return UInt32.ofNat outcome.code
