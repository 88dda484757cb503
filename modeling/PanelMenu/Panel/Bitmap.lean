import PanelMenu.Panel.Framebuffer

/-! Panels as bitmap files: two headers, then the rows from the bottom to the top, each filled up
with zeros to a multiple of four bytes. Numbers are stored with their low byte first. -/

namespace PanelMenu.Bitmap

/-- The lowest `count` bytes of a number. -/
def littleEndian : Nat → Nat → List UInt8
  | 0, _ => []
  | count + 1, n => UInt8.ofNat n :: littleEndian count (n / 256)

/-- The number whose bytes these are. -/
def ofLittleEndian : List UInt8 → Nat
  | [] => 0
  | byte :: rest => byte.toNat + 256 * ofLittleEndian rest

/-- A word read with its highest bit as the sign. -/
def signed (n : Nat) : Int :=
  if n < UInt32.size / 2 then n else (n : Int) - UInt32.size

def fileHeaderSize : Nat := 14

def infoHeaderSize : Nat := 40

/-- Where the pixels start. -/
def pixelOffset : Nat := fileHeaderSize + infoHeaderSize

def bitsPerPixel : Nat := 8

/-- The bytes of one stored row. -/
def rowStride (width : Nat) : Nat :=
  (width + 3) / 4 * 4

def imageSize (panel : Framebuffer) : Nat :=
  rowStride panel.width.toNat * panel.height.toNat

def fileHeader (panel : Framebuffer) : List UInt8 :=
  [0x42, 0x4D] ++ littleEndian 4 (pixelOffset + imageSize panel) ++ littleEndian 2 0 ++
    littleEndian 2 0 ++ littleEndian 4 pixelOffset

/-- The positive height says that the bottom row comes first. -/
def infoHeader (panel : Framebuffer) : List UInt8 :=
  littleEndian 4 infoHeaderSize ++ littleEndian 4 panel.width.toNat ++
    littleEndian 4 panel.height.toNat ++ littleEndian 2 1 ++ littleEndian 2 bitsPerPixel ++
    littleEndian 4 0 ++ littleEndian 4 (imageSize panel) ++ littleEndian 4 0 ++
    littleEndian 4 0 ++ littleEndian 4 0 ++ littleEndian 4 0

def storedRow (row : List UInt8) : List UInt8 :=
  row ++ List.replicate (rowStride row.length - row.length) 0

def encode (panel : Framebuffer) : List UInt8 :=
  fileHeader panel ++ infoHeader panel ++ panel.rows.reverse.flatMap storedRow

structure Header where
  fileSize : Nat
  pixelOffset : Nat
  width : Int
  height : Int
  bitsPerPixel : Nat
  deriving DecidableEq, Repr

/-- The number in `count` bytes at a place. -/
def field (bytes : List UInt8) (place count : Nat) : Nat :=
  ofLittleEndian ((bytes.drop place).take count)

/-- Anything that starts like a bitmap and is long enough for the headers has some. -/
def Header.parse? (bytes : List UInt8) : Option Header :=
  if bytes.length < Bitmap.pixelOffset || bytes.take 2 != [0x42, 0x4D] then none
  else
    some
      { fileSize := field bytes 2 4
        pixelOffset := field bytes 10 4
        width := signed (field bytes 18 4)
        height := signed (field bytes 22 4)
        bitsPerPixel := field bytes 28 2 }

end PanelMenu.Bitmap
