import PanelMenu.CommandLine.Options

/-! Reading the command line from left to right. The value of an option is looked at only when
something that is known comes after it, so an argument that is unknown outweighs a bad value. -/

namespace PanelMenu

/-- An option that takes a value. -/
inductive ValueOption
  | menu
  | config
  | output
  | keys
  deriving DecidableEq, Repr

inductive Flag
  | noBitmap
  | json
  | verbose
  | help
  | version
  deriving DecidableEq, Repr

inductive Switch
  | option (option : ValueOption)
  | flag (flag : Flag)
  deriving DecidableEq, Repr

def Switch.ofLong? (name : String) : Option Switch :=
  match name with
  | "menu" => some (.option .menu)
  | "config" => some (.option .config)
  | "output" => some (.option .output)
  | "keys" => some (.option .keys)
  | "no-bitmap" => some (.flag .noBitmap)
  | "json" => some (.flag .json)
  | "verbose" => some (.flag .verbose)
  | "help" => some (.flag .help)
  | "version" => some (.flag .version)
  | _ => none

def Switch.ofShort? (c : Char) : Option Switch :=
  match c with
  | 'm' => some (.option .menu)
  | 'c' => some (.option .config)
  | 'o' => some (.option .output)
  | 'k' => some (.option .keys)
  | 'v' => some (.flag .verbose)
  | 'h' => some (.flag .help)
  | 'V' => some (.flag .version)
  | _ => none

namespace Options

def value (options : Options) : ValueOption → Option String
  | .menu => options.menu
  | .config => options.config
  | .output => options.output
  | .keys => options.keys

def setValue (options : Options) (value : String) : ValueOption → Options
  | .menu => { options with menu := some value }
  | .config => { options with config := some value }
  | .output => { options with output := some value }
  | .keys => { options with keys := some value }

/-- Paths must not be empty; a script may be. -/
def accepts (option : ValueOption) (value : String) : Bool :=
  option == .keys || value != ""

end Options

/-- The options so far. The last one may still wait to be looked at, or for its value. -/
structure OptionReading where
  options : Options := {}
  pending : Option (ValueOption × Option String) := none
  deriving DecidableEq, Repr

namespace OptionReading

/-- Looks at the option that waits. Every option can be given once. -/
def settle (reading : OptionReading) : Except UsageFault OptionReading :=
  match reading.pending with
  | none => .ok reading
  | some (_, none) => .error .invalidValue
  | some (option, some value) =>
    if (reading.options.value option).isSome then .error .argumentConflict
    else if !Options.accepts option value then .error .invalidValue
    else .ok { options := reading.options.setValue value option }

def raise (reading : OptionReading) (flag : Flag) : Except UsageFault OptionReading := do
  let reading ← reading.settle
  let options := reading.options
  match flag with
  | .noBitmap =>
    if options.noBitmap then .error .argumentConflict
    else return { options := { options with noBitmap := true } }
  | .json =>
    if options.json then .error .argumentConflict
    else return { options := { options with json := true } }
  | .verbose => return { options := { options with verbose := min (options.verbose + 1) 255 } }
  | .help => .error .help
  | .version => .error .version

/-- Begins an option. A value that is attached to it is looked at right away. -/
def await (reading : OptionReading) (option : ValueOption) (attached : Option String) :
    Except UsageFault OptionReading := do
  let reading ← reading.settle
  let begun := { reading with pending := some (option, attached) }
  if attached.isSome then begun.settle else return begun

/-- An argument behind two dashes, with a value behind its equals sign if it has one. -/
def readLong (reading : OptionReading) (name : String) (attached : Option String) :
    Except UsageFault OptionReading :=
  match Switch.ofLong? name with
  | none => .error .unknownArgument
  | some (.option option) => reading.await option attached
  | some (.flag flag) => if attached.isSome then .error .tooManyValues else reading.raise flag

/-- The value that is written right behind the letter of an option. -/
def attachedValue : List Char → Option String
  | [] => none
  | '=' :: value => some (String.ofList value)
  | value => some (String.ofList value)

/-- Letters behind one dash: flags, and at most one option with the rest as its value. -/
def readShort (reading : OptionReading) : List Char → Except UsageFault OptionReading
  | [] => .ok reading
  | c :: rest =>
    match Switch.ofShort? c with
    | none => .error .unknownArgument
    | some (.option option) => reading.await option (attachedValue rest)
    | some (.flag flag) => do
      let reading ← reading.raise flag
      readShort reading rest

/-- The name of a long argument and the value behind its first equals sign. -/
def splitLong (text : List Char) : String × Option String :=
  let name := text.takeWhile (· != '=')
  match text.dropWhile (· != '=') with
  | [] => (String.ofList name, none)
  | _ :: value => (String.ofList name, some (String.ofList value))

/-- An argument that is no switch has to be the value that an option waits for. -/
def readPlain (reading : OptionReading) (text : String) : Except UsageFault OptionReading :=
  match reading.pending with
  | some (option, none) => .ok { reading with pending := some (option, some text) }
  | _ => .error .unknownArgument

/-- All arguments. Behind two dashes that stand alone nothing may follow. -/
def readAll (reading : OptionReading) : List String → Except UsageFault Options
  | [] => do return (← reading.settle).options
  | argument :: rest =>
    match argument.toList with
    | ['-', '-'] =>
      if rest.isEmpty then do return (← reading.settle).options else .error .unknownArgument
    | '-' :: '-' :: text => do
      let (name, attached) := splitLong text
      readAll (← reading.readLong name attached) rest
    | '-' :: c :: letters => do readAll (← reading.readShort (c :: letters)) rest
    | _ => do readAll (← reading.readPlain argument) rest

end OptionReading

/-- The options on a command line. -/
def Options.ofArguments (arguments : List String) : Except UsageFault Options :=
  OptionReading.readAll {} arguments

end PanelMenu
