import PanelMenu.Text.Blank

/-! The five inputs that a menu understands, and scripts of key letters that stand for them. -/

namespace PanelMenu

inductive Input
  | up
  | down
  | commit
  | back
  | noop
  deriving DecidableEq, Repr

namespace Input

/-- A letter of a script in either case. Commas and white space separate, except that a line break
commits; letters without a meaning are inputs all the same. -/
def ofChar? (c : Char) : Option Input :=
  match c.toLower with
  | 'u' | 'k' => some .up
  | 'd' | 'j' => some .down
  | 'c' | 'l' | 'r' | '\n' => some .commit
  | 'b' | 'h' => some .back
  | ',' => none
  | lower => if Text.isBlank lower then none else some .noop

def ofScript (script : String) : List Input :=
  script.toList.filterMap ofChar?

end Input

/-- How a source of inputs ends: it closes, or reading from it fails. -/
inductive Ending
  | closed
  | failed (cause : String)
  deriving DecidableEq, Repr

structure InputSource where
  pending : List Input
  ending : Ending := .closed
  deriving DecidableEq, Repr

end PanelMenu
