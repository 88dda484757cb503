/-! Places in a text, counted from zero. -/

namespace PanelMenu.Yaml

structure Mark where
  index : Nat := 0
  line : Nat := 0
  column : Nat := 0
  deriving DecidableEq, Repr, Inhabited

/-- How a place is named for people, who count from one. The very start of a text has no name. -/
def Mark.suffix (mark : Mark) : String :=
  if mark.line = 0 ∧ mark.column = 0 then ""
  else s!" at line {mark.line + 1} column {mark.column + 1}"

end PanelMenu.Yaml
