import PanelMenu.Error
import PanelMenu.Files.Writing
import PanelMenu.Menu.View
import PanelMenu.Panel.Bitmap

/-! The panel that shows the first children of an entry, one row each, and keeps its picture in a
file. -/

namespace PanelMenu

/-- The marker of the selected row, a space, and the label. -/
def View.Item.row (item : View.Item) : String :=
  (if item.selected then "> " else "  ") ++ item.label

/-- There is no picture once the panel has been torn down. Frames count as drawn even if they could
not be stored. -/
structure PanelRenderer where
  picture : Option Framebuffer
  viewport : Nat
  lineHeight : UInt32
  glyph : GlyphBox
  output : Option String
  frames : Nat := 0
  deriving DecidableEq, Repr

namespace PanelRenderer

def ofSettings (settings : DisplaySettings) : Except DisplayFault PanelRenderer := do
  settings.validate
  return {
    picture := some (.allocate settings.width settings.height)
    viewport := settings.viewport
    lineHeight := settings.lineHeight
    glyph := ⟨settings.glyphWidth, settings.glyphHeight⟩
    output := if settings.enabled then some settings.output else none }

/-- The same panel without a file. -/
def inMemory (settings : DisplaySettings) : Except DisplayFault PanelRenderer := do
  let renderer ← ofSettings settings
  return { renderer with output := none }

/-- Rows from the top at `y` downwards, until the panel ends. -/
def drawRows (glyph : GlyphBox) (lineHeight : UInt32) (y : UInt32) (panel : Framebuffer) :
    List View.Item → Framebuffer
  | [] => panel
  | item :: rest =>
    if panel.height ≤ y then panel
    else drawRows glyph lineHeight (addCapped y lineHeight) (panel.drawText 0 y item.row glyph) rest

/-- The picture of a view, whatever the panel showed before. -/
def paint (renderer : PanelRenderer) (view : View) (panel : Framebuffer) : Framebuffer :=
  drawRows renderer.glyph renderer.lineHeight 0 panel.clear (view.visible renderer.viewport)

def draw (renderer : PanelRenderer) (view : View) : Except DisplayFault PanelRenderer :=
  match renderer.picture with
  | none => .error .tornDown
  | some panel =>
    .ok { renderer with picture := some (renderer.paint view panel), frames := renderer.frames + 1 }

/-- Draws a view and stores the picture, if there is a file for it. -/
def render (renderer : PanelRenderer) (view : View) (files : Files) :
    PanelRenderer × Files × Option MenuError :=
  match renderer.draw view with
  | .error fault => (renderer, files, some (.invalidDisplay fault))
  | .ok drawn =>
    match drawn.output, drawn.picture with
    | some path, some panel =>
      let (files, fault) := files.write path (Bitmap.encode panel)
      (drawn, files, fault.map .files)
    | _, _ => (drawn, files, none)

def teardown (renderer : PanelRenderer) : PanelRenderer :=
  { renderer with picture := none }

end PanelRenderer
end PanelMenu
