import PanelMenu.Menu.View
import PanelMenu.Text.Columns
import PanelMenu.Text.Lines

/-! A view as lines of text. -/

namespace PanelMenu

/-- The keys, shown under every menu. -/
def helpLine : String := "[Use arrow keys: ↑ ↓ → Enter  ← Back]"

def View.Item.consoleLine (item : View.Item) : String :=
  (if item.selected then " > " else "   ") ++ item.label

namespace View

/-- A line may still hold line breaks that come from a label. -/
def consoleLines (view : View) : List String :=
  ["", s!"=== {view.title} ==="] ++ view.items.map (·.consoleLine) ++ ["", helpLine]

/-- The text of a view, each line cut to the columns there are. -/
def consoleText (view : View) (columns : Option Nat) : String :=
  let cut (line : String) : String :=
    match columns with
    | some count => Text.truncate line count
    | none => line
  String.join (view.consoleLines.map fun line => cut line ++ "\n")

/-- The text with every line break as the terminal wants it. -/
def consoleFrame (view : View) (columns : Option Nat) (raw : Bool) : String :=
  let lines := (Text.lines (view.consoleText columns).toList).map String.ofList
  String.join (lines.map fun line => line ++ if raw then "\r\n" else "\n")

end View

/-- Empties the screen and goes to its top left corner. -/
def clearScreen : String := "\x1b[2J\x1b[1;1H"

end PanelMenu
