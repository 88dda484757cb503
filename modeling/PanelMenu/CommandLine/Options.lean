/-! What can be asked for on the command line. -/

namespace PanelMenu

structure Options where
  menu : Option String := none
  config : Option String := none
  output : Option String := none
  keys : Option String := none
  noBitmap : Bool := false
  json : Bool := false
  /-- How often more output was asked for, counted up to 255. -/
  verbose : Nat := 0
  deriving DecidableEq, Repr

/-- Without a script the keys are read from the terminal. -/
def Options.isInteractive (options : Options) : Bool :=
  options.keys.isNone

/-- Why the command line ends before it has been obeyed. Asking for help or for the version is no
fault, but ends it all the same. -/
inductive UsageFault
  | unknownArgument
  | invalidValue
  | argumentConflict
  | tooManyValues
  | help
  | version
  deriving DecidableEq, Repr

def helpText : String :=
  "Hierarchical menu navigation engine with a simulated monochrome OLED backend\n\n" ++
  "Usage: \n\n" ++
  "Options:\n" ++
  "  -m, --menu <MENU>      YAML menu definition (defaults to the built-in demo menu)\n" ++
  "  -c, --config <CONFIG>  Configuration file (defaults to ./oledmenu.toml, then the user config)\n" ++
  "  -o, --output <OUTPUT>  Bitmap file the panel is written to after every frame\n" ++
  "  -k, --keys <KEYS>      Replay a key script instead of reading the terminal (e.g. \"ddcb\")\n" ++
  "      --no-bitmap        Do not write the panel bitmap\n" ++
  "      --json             Emit navigation events as NDJSON on stdout\n" ++
  "  -v, --verbose...       Verbosity level (-v, -vv)\n" ++
  "  -h, --help             Print help\n" ++
  "  -V, --version          Print version\n\n" ++
  "Keys: ↑/k up, ↓/j down, →/l/Enter select, ←/h/Esc back, Ctrl+C quit.\n"

def versionText : String := "oledmenu 0.3.1\n"

end PanelMenu
