import PanelMenu.Config.Settings

/-! Which panels can be drawn and stored. -/

namespace PanelMenu

inductive DisplayFault
  | emptyPanel (width height : UInt32)
  | oversized (width height : UInt32)
  | noRows
  | emptyGlyph
  | tornDown
  deriving DecidableEq, Repr

/-- The largest width and height of a panel. -/
def DisplaySettings.maxDimension : UInt32 := 4096

def DisplayFault.message : DisplayFault → String
  | .emptyPanel width height => s!"panel must be at least 1x1, got {width}x{height}"
  | .oversized width height =>
    let most := DisplaySettings.maxDimension
    s!"panel {width}x{height} exceeds {most}x{most}"
  | .noRows => "viewport must show at least one row"
  | .emptyGlyph => "line height and glyph box must be non-zero"
  | .tornDown => "panel used after teardown"

namespace DisplaySettings

def validate (settings : DisplaySettings) : Except DisplayFault Unit :=
  if settings.width = 0 ∨ settings.height = 0 then
    .error (.emptyPanel settings.width settings.height)
  else if maxDimension < settings.width ∨ maxDimension < settings.height then
    .error (.oversized settings.width settings.height)
  else if settings.viewport = 0 then .error .noRows
  else if settings.lineHeight = 0 ∨ settings.glyphWidth = 0 ∨ settings.glyphHeight = 0 then
    .error .emptyGlyph
  else .ok ()

end DisplaySettings
end PanelMenu
