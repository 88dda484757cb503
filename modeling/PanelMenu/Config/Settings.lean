import PanelMenu.Report.Verbosity

/-! Everything that can be configured, and what holds when nothing is. -/

namespace PanelMenu

structure DisplaySettings where
  width : UInt32 := 96
  height : UInt32 := 32
  /-- The number of rows drawn at most. -/
  viewport : Nat := 4
  /-- The distance between the tops of two rows. -/
  lineHeight : UInt32 := 8
  glyphWidth : UInt32 := 1
  glyphHeight : UInt32 := 6
  /-- The file that holds the panel after every frame. -/
  output : String := "oled.bmp"
  enabled : Bool := true
  deriving DecidableEq, Repr, Inhabited

structure OutputSettings where
  verbosity : Verbosity := .normal
  /-- Whether the menu is shown as text. -/
  console : Bool := true
  deriving DecidableEq, Repr

structure Settings where
  display : DisplaySettings := {}
  output : OutputSettings := {}
  deriving DecidableEq, Repr

end PanelMenu
