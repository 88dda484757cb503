import PanelMenu.Text.Blank

/-! The pixels of a panel, one byte each, row after row from the top. Coordinates are words; where a
sum would leave them it stays at the largest one, which lies outside every panel. -/

namespace PanelMenu

/-- Addition that stops at the largest word. -/
def addCapped (a b : UInt32) : UInt32 :=
  if a + b < a then 0xFFFFFFFF else a + b

structure GlyphBox where
  width : UInt32
  height : UInt32
  deriving DecidableEq, Repr

structure Framebuffer where
  width : UInt32
  height : UInt32
  pixels : Array UInt8
  deriving DecidableEq, Repr

namespace Framebuffer

def lit : UInt8 := 255

def dark : UInt8 := 0

def allocate (width height : UInt32) : Framebuffer :=
  { width := width
    height := height
    pixels := Array.replicate (width.toNat * height.toNat) dark }

def clear (panel : Framebuffer) : Framebuffer :=
  { panel with pixels := Array.replicate panel.pixels.size dark }

def offset (panel : Framebuffer) (x y : Nat) : Nat :=
  y * panel.width.toNat + x

def get? (panel : Framebuffer) (x y : UInt32) : Option UInt8 :=
  if x < panel.width ∧ y < panel.height then panel.pixels[panel.offset x.toNat y.toNat]? else none

/-- Points outside the panel are ignored. -/
def set (panel : Framebuffer) (x y : UInt32) (value : UInt8) : Framebuffer :=
  if x < panel.width ∧ y < panel.height then
    { panel with pixels := panel.pixels.setIfInBounds (panel.offset x.toNat y.toNat) value }
  else panel

/-- Writes one value to `count` pixels in a row. -/
def paintRun (value : UInt8) (start count : Nat) (pixels : Array UInt8) : Array UInt8 :=
  (List.range' start count).foldl (fun pixels index => pixels.setIfInBounds index value) pixels

/-- A rectangle, cut off at the edges of the panel. -/
def fill (panel : Framebuffer) (x y width height : UInt32) (value : UInt8) : Framebuffer :=
  let right := min (addCapped x width) panel.width
  let bottom := min (addCapped y height) panel.height
  let left := min x right
  let stride := panel.width.toNat
  let rows := List.range' y.toNat (bottom.toNat - y.toNat)
  let paint (pixels : Array UInt8) (row : Nat) : Array UInt8 :=
    paintRun value (row * stride + left.toNat) (right.toNat - left.toNat) pixels
  { panel with pixels := rows.foldl paint panel.pixels }

/-- One box for each character that shows, from left to right until the right edge. -/
def drawFrom (glyph : GlyphBox) (y : UInt32) (panel : Framebuffer) (cursor : UInt32) :
    List Char → Framebuffer
  | [] => panel
  | c :: rest =>
    if panel.width ≤ cursor then panel
    else
      let drawn :=
        if Text.isBlank c then panel else panel.fill cursor y glyph.width glyph.height lit
      drawFrom glyph y drawn (addCapped cursor glyph.width) rest

/-- Text never wraps. -/
def drawText (panel : Framebuffer) (x y : UInt32) (text : String) (glyph : GlyphBox) :
    Framebuffer :=
  if panel.height ≤ y then panel else drawFrom glyph y panel x text.toList

/-- The number of pixels that are not dark. -/
def litCount (panel : Framebuffer) : Nat :=
  panel.pixels.foldl (fun count pixel => if pixel = dark then count else count + 1) 0

/-- The pixels of one row. -/
def row (panel : Framebuffer) (y : Nat) : List UInt8 :=
  let start := panel.offset 0 y
  (panel.pixels.extract start (start + panel.width.toNat)).toList

/-- All rows, the top one first. -/
def rows (panel : Framebuffer) : List (List UInt8) :=
  (List.range panel.height.toNat).map panel.row

end Framebuffer
end PanelMenu
