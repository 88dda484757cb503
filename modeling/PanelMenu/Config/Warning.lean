import PanelMenu.Config.Decoding
import PanelMenu.Error
import PanelMenu.Text.Blank
import PanelMenu.Text.EditDistance

/-! What is wrong with a configuration without making it useless. -/

namespace PanelMenu

inductive Warning
  | unknownKey (key file : String) (line : Option Nat) (suggestion : Option String)
  | skippedFile (file : String) (cause : MenuError)
  deriving DecidableEq, Repr

namespace Warning

/-- The line, counted from one, in which a text first occurs. -/
def lineOf (content key : String) : Option Nat :=
  let position := (Text.lines content.toList).findIdx? fun line => Text.contains line key.toList
  position.map (· + 1)

/-- All keys that mean something. -/
def knownKeys : List String :=
  ["display", "width", "height", "viewport", "line_height", "glyph_width", "glyph_height", "output",
    "enabled", "verbosity", "console"]

def bytes (text : String) : List UInt8 :=
  text.toUTF8.data.toList

/-- How many bytes have to be added, dropped or changed to get from one text to another. -/
def distance (source target : String) : Nat :=
  if source = target then 0 else Text.editDistance (bytes source) (bytes target)

/-- The first of the names that are nearest to `key`. -/
def nearest (key : String) : List String → Option (String × Nat)
  | [] => none
  | name :: rest =>
    let here := distance key name
    match nearest key rest with
    | some (other, there) => if there < here then some (other, there) else some (name, here)
    | none => some (name, here)

/-- The known key that was probably meant. More than two changes are no slip of the hand. -/
def suggestion (key : String) : Option String :=
  match nearest key knownKeys with
  | some (name, changes) => if changes ≤ 2 then some name else none
  | none => none

def ofKey (content file key : String) : Warning :=
  .unknownKey key file (lineOf content key) (suggestion key)

/-- What is said about a file that was skipped. Its name is told elsewhere. -/
def reason : MenuError → String
  | .invalidConfig _ fault => fault.message
  | other => other.message

/-- A warning in parts. A file that was skipped has a message, a key that means nothing has none. -/
structure Notice where
  key : String
  file : String
  line : Option Nat := none
  suggestion : Option String := none
  message : Option String := none
  deriving DecidableEq, Repr

def notice : Warning → Notice
  | unknownKey key file line suggestion =>
    { key := key, file := file, line := line, suggestion := suggestion }
  | skippedFile file cause => { key := "", file := file, message := some (reason cause) }

/-- The warning as it is printed. -/
def text : Warning → String
  | skippedFile file cause =>
    let reason := String.ofList (Text.trimEnd (reason cause).toList)
    s!"⚠ Ignoring config file {file}: {reason}\n"
  | unknownKey key file line suggestion =>
    let place := match line with
      | some line => s!"{file}:{line}"
      | none => file
    let hint := match suggestion with
      | some name => s!"   Did you mean '{name}'?\n\n"
      | none => ""
    s!"⚠ Unknown config key '{key}' in {place}\n" ++ hint

end Warning
end PanelMenu
