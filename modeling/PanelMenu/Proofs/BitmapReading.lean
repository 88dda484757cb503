import Mathlib.Algebra.Group.Nat.Defs
import PanelMenu.Panel.Geometry
import PanelMenu.Proofs.Painting

/-! Bitmaps can be read back. The headers say how to find every pixel among the bytes, and nothing but
the bytes is needed for it, so no two panels are stored as the same file. -/

namespace PanelMenu

theorem DisplaySettings.validate_ok {settings : DisplaySettings} (valid : settings.validate = .ok ()) :
    (0 < settings.width.toNat ∧ settings.width.toNat ≤ 4096) ∧
      0 < settings.height.toNat ∧ settings.height.toNat ≤ 4096 := by
  unfold validate at valid
  split at valid
  · cases valid
  next proper =>
    split at valid
    · cases valid
    next moderate =>
      rw [not_or] at proper moderate
      simp only [maxDimension, UInt32.lt_iff_toNat_lt, UInt32.reduceToNat, Nat.not_lt,
        ← UInt32.toNat_inj] at proper moderate
      omega

namespace Framebuffer

theorem getElem?_row {panel : Framebuffer} {x : Nat} (left : x < panel.width.toNat) (y : Nat) :
    (panel.row y)[x]? = panel.pixels[y * panel.width.toNat + x]? := by
  simp only [row, offset, Nat.add_zero, Array.getElem?_toList, Array.getElem?_extract]
  by_cases inside : y * panel.width.toNat + x < panel.pixels.size
  · rw [if_pos (by omega)]
  · rw [if_neg (by omega), Array.getElem?_eq_none (Nat.le_of_not_lt inside)]

theorem Sized.length_row {panel : Framebuffer} (sized : panel.Sized) {y : Nat} (above : y < panel.height.toNat) :
    (panel.row y).length = panel.width.toNat := by
  have rows : (y + 1) * panel.width.toNat ≤ panel.pixels.size := by
    rw [sized, Nat.mul_comm]
    exact Nat.mul_le_mul_left _ above
  rw [Nat.succ_mul] at rows
  simp only [row, offset, Nat.add_zero, Array.length_toList, Array.size_extract]
  omega

end Framebuffer

namespace Bitmap

section Blocks
variable {α β : Type} {f : α → List β} {size : Nat}

theorem length_flatMap_blocks (items : List α) (each : ∀ item ∈ items, (f item).length = size) :
    (items.flatMap f).length = items.length * size := by
  induction items with
  | nil => exact (Nat.zero_mul size).symm
  | cons item rest ih =>
    obtain ⟨first, others⟩ := List.forall_mem_cons.mp each
    rw [List.flatMap_cons, List.length_append, first, ih others, List.length_cons, Nat.succ_mul, Nat.add_comm]

theorem getElem?_flatMap_blocks (items : List α) (each : ∀ item ∈ items, (f item).length = size) (index : Nat)
    {place : Nat} (inside : place < size) :
    (items.flatMap f)[index * size + place]? = items[index]?.bind fun item => (f item)[place]? := by
  induction items generalizing index with
  | nil => rfl
  | cons item rest ih =>
    obtain ⟨first, others⟩ := List.forall_mem_cons.mp each
    rw [List.flatMap_cons]
    cases index with
    | zero =>
      rw [Nat.zero_mul, Nat.zero_add, List.getElem?_append_left (first ▸ inside)]
      rfl
    | succ index =>
      have shift : (index + 1) * size + place - size = index * size + place := by
        rw [Nat.succ_mul]
        omega
      have after : size ≤ (index + 1) * size + place := by
        rw [Nat.succ_mul]
        omega
      rw [List.getElem?_append_right (first ▸ after), first, shift, ih others]
      rfl

end Blocks

theorem length_littleEndian (count n : Nat) : (littleEndian count n).length = count := by
  induction count generalizing n with
  | zero => rfl
  | succ count ih => rw [littleEndian, List.length_cons, ih]

theorem ofLittleEndian_littleEndian {count n : Nat} (fits : n < 256 ^ count) :
    ofLittleEndian (littleEndian count n) = n := by
  induction count generalizing n with
  | zero =>
    rw [Nat.pow_zero, Nat.lt_one_iff] at fits
    rw [fits]
    rfl
  | succ count ih =>
    have smaller : n / 256 < 256 ^ count := by
      apply Nat.div_lt_of_lt_mul
      rwa [Nat.mul_comm, ← Nat.pow_succ]
    rw [littleEndian, ofLittleEndian, ih smaller, UInt8.toNat_ofNat']
    exact Nat.mod_add_div n 256

theorem field_eq (before : List UInt8) {bytes after : List UInt8} {place count n : Nat}
    (split : bytes = before ++ (littleEndian count n ++ after)) (there : before.length = place)
    (fits : n < 256 ^ count) : field bytes place count = n := by
  subst split there
  rw [field, List.drop_left, List.take_left' (length_littleEndian count n), ofLittleEndian_littleEndian fits]

theorem signed_eq {n : Nat} (small : n < UInt32.size / 2) : signed n = n :=
  if_pos small

theorem rowStride_least (width : Nat) :
    4 ∣ rowStride width ∧ width ≤ rowStride width ∧
      ∀ other, 4 ∣ other → width ≤ other → rowStride width ≤ other := by
  unfold rowStride
  refine ⟨Nat.dvd_mul_left 4 _, by omega, ?_⟩
  rintro other ⟨count, rfl⟩ enough
  omega

theorem length_storedRow (row : List UInt8) : (storedRow row).length = rowStride row.length := by
  have enough := (rowStride_least row.length).2.1
  rw [storedRow, List.length_append, List.length_replicate]
  omega

theorem getElem?_storedRow_padding {row : List UInt8} {x : Nat} (past : row.length ≤ x) (within : x < rowStride row.length) :
    (storedRow row)[x]? = some 0 := by
  rw [storedRow, List.getElem?_append_right past, List.getElem?_replicate, if_pos (by omega)]

theorem length_headers (panel : Framebuffer) : (fileHeader panel ++ infoHeader panel).length = pixelOffset := by
  simp [fileHeader, infoHeader, length_littleEndian, pixelOffset, fileHeaderSize, infoHeaderSize]

/-- Reads a picture back, by what the headers say of it. -/
def decode? (bytes : List UInt8) : Option Framebuffer := do
  let header ← Header.parse? bytes
  let width := header.width.toNat
  let height := header.height.toNat
  let row (y : Nat) : List UInt8 :=
    (bytes.drop (header.pixelOffset + (height - 1 - y) * rowStride width)).take width
  return {
    width := .ofNat width
    height := .ofNat height
    pixels := ((List.range height).flatMap row).toArray }

end Bitmap

namespace Framebuffer

/-- A panel with as many pixels as valid settings give it. -/
structure Storable (panel : Framebuffer) : Prop where
  sized : panel.Sized
  configured : ∃ settings : DisplaySettings,
    settings.validate = .ok () ∧ panel.width = settings.width ∧ panel.height = settings.height

variable {panel : Framebuffer}

theorem Storable.bounds (storable : panel.Storable) :
    (0 < panel.width.toNat ∧ panel.width.toNat ≤ 4096) ∧ 0 < panel.height.toNat ∧ panel.height.toNat ≤ 4096 := by
  obtain ⟨settings, valid, width, height⟩ := storable.configured
  rw [width, height]
  exact settings.validate_ok valid

end Framebuffer

namespace Bitmap
open Framebuffer
variable {panel : Framebuffer}

theorem length_rows (panel : Framebuffer) : panel.rows.length = panel.height.toNat := by
  rw [rows, List.length_map, List.length_range]

theorem length_stored (sized : panel.Sized) :
    ∀ row ∈ panel.rows.reverse, (storedRow row).length = rowStride panel.width.toNat := by
  intro row member
  obtain ⟨y, above, rfl⟩ := List.mem_map.mp (List.mem_reverse.mp member)
  rw [length_storedRow, sized.length_row (List.mem_range.mp above)]

theorem length_encode (sized : panel.Sized) : (encode panel).length = pixelOffset + imageSize panel := by
  rw [encode, List.length_append, length_headers, length_flatMap_blocks _ (length_stored sized),
    List.length_reverse, length_rows, imageSize, Nat.mul_comm]

/-- What is stored of a row, counted from the bottom. -/
theorem getElem?_encode (sized : panel.Sized) {x y : Nat} (within : x < rowStride panel.width.toNat)
    (above : y < panel.height.toNat) :
    (encode panel)[pixelOffset + (panel.height.toNat - 1 - y) * rowStride panel.width.toNat + x]? =
      (storedRow (panel.row y))[x]? := by
  have headers := length_headers panel
  have row : panel.rows.reverse[panel.height.toNat - 1 - y]? = some (panel.row y) := by
    have inside : panel.height.toNat - 1 - y < panel.rows.length := by
      rw [length_rows]
      omega
    have mirrored : panel.rows.length - 1 - (panel.height.toNat - 1 - y) = y := by
      rw [length_rows]
      omega
    rw [List.getElem?_reverse inside, mirrored, rows, List.getElem?_map, List.getElem?_range above]
    rfl
  have place : pixelOffset + (panel.height.toNat - 1 - y) * rowStride panel.width.toNat + x - pixelOffset =
      (panel.height.toNat - 1 - y) * rowStride panel.width.toNat + x := by omega
  rw [encode, List.getElem?_append_right (by omega), headers, place,
    getElem?_flatMap_blocks _ (length_stored sized) _ within, row]
  rfl

theorem getElem?_encode_pixel (sized : panel.Sized) {x y : Nat} (left : x < panel.width.toNat)
    (above : y < panel.height.toNat) :
    (encode panel)[pixelOffset + (panel.height.toNat - 1 - y) * rowStride panel.width.toNat + x]? =
      panel.pixels[y * panel.width.toNat + x]? := by
  have within := Nat.lt_of_lt_of_le left (rowStride_least panel.width.toNat).2.1
  rw [getElem?_encode sized within above, storedRow, List.getElem?_append_left (sized.length_row above ▸ left),
    getElem?_row left]

theorem imageSize_lt (storable : panel.Storable) : pixelOffset + imageSize panel < UInt32.size := by
  obtain ⟨⟨_, wide⟩, _, high⟩ := storable.bounds
  have stride : rowStride panel.width.toNat ≤ 4096 := (rowStride_least _).2.2 4096 (by decide) wide
  have size : imageSize panel ≤ 4096 * 4096 := Nat.mul_le_mul stride high
  simp only [pixelOffset, fileHeaderSize, infoHeaderSize, UInt32.size]
  omega

theorem parse?_encode (storable : panel.Storable) :
    Header.parse? (encode panel) = some
      { fileSize := (encode panel).length
        pixelOffset := pixelOffset
        width := panel.width.toNat
        height := panel.height.toNat
        bitsPerPixel := bitsPerPixel } := by
  obtain ⟨⟨_, wide⟩, _, high⟩ := storable.bounds
  have small := imageSize_lt storable
  have length := length_encode storable.sized
  have fileSize : field (encode panel) 2 4 = pixelOffset + imageSize panel :=
    field_eq ([0x42, 0x4D]) (by simp [encode, fileHeader]; rfl) rfl small
  have offset : field (encode panel) 10 4 = pixelOffset :=
    field_eq ([0x42, 0x4D] ++ littleEndian 4 (pixelOffset + imageSize panel) ++ littleEndian 2 0 ++
      littleEndian 2 0) (by simp only [encode, fileHeader, List.append_assoc]; rfl) rfl (by decide)
  have width : field (encode panel) 18 4 = panel.width.toNat :=
    field_eq (fileHeader panel ++ littleEndian 4 infoHeaderSize)
      (by simp only [encode, infoHeader, List.append_assoc]; rfl) rfl panel.width.toNat_lt
  have height : field (encode panel) 22 4 = panel.height.toNat :=
    field_eq (fileHeader panel ++ littleEndian 4 infoHeaderSize ++ littleEndian 4 panel.width.toNat)
      (by simp only [encode, infoHeader, List.append_assoc]; rfl) rfl panel.height.toNat_lt
  have bits : field (encode panel) 28 2 = bitsPerPixel :=
    field_eq (fileHeader panel ++ littleEndian 4 infoHeaderSize ++ littleEndian 4 panel.width.toNat ++
      littleEndian 4 panel.height.toNat ++ littleEndian 2 1)
      (by simp only [encode, infoHeader, List.append_assoc]; rfl) rfl (by decide)
  have long : ¬ (encode panel).length < pixelOffset := by omega
  have magic : (encode panel).take 2 = [0x42, 0x4D] := rfl
  have wideSigned : signed panel.width.toNat = panel.width.toNat := by
    apply signed_eq
    simp only [UInt32.size]
    omega
  have highSigned : signed panel.height.toNat = panel.height.toNat := by
    apply signed_eq
    simp only [UInt32.size]
    omega
  rw [Header.parse?, if_neg (by simp [long, magic]), fileSize, offset, width, height, bits, wideSigned, highSigned,
    length]

theorem flatMap_row (sized : panel.Sized) : (List.range panel.height.toNat).flatMap panel.row = panel.pixels.toList := by
  have each : ∀ y ∈ List.range panel.height.toNat, (panel.row y).length = panel.width.toNat :=
    fun y member => sized.length_row (List.mem_range.mp member)
  have length : ((List.range panel.height.toNat).flatMap panel.row).length = panel.pixels.toList.length := by
    rw [length_flatMap_blocks _ each, List.length_range, Array.length_toList, sized, Nat.mul_comm]
  apply List.ext_getElem? fun index => ?_
  by_cases inside : index < panel.pixels.size
  · have bound : index < panel.width.toNat * panel.height.toNat := sized ▸ inside
    have left := Nat.mod_lt index (Nat.pos_of_lt_mul_right bound)
    have above : index / panel.width.toNat < panel.height.toNat := Nat.div_lt_of_lt_mul bound
    have point : index / panel.width.toNat * panel.width.toNat + index % panel.width.toNat = index := by
      rw [Nat.mul_comm]
      exact Nat.div_add_mod index panel.width.toNat
    rw [← point, getElem?_flatMap_blocks _ each _ left, List.getElem?_range above, Option.bind_some,
      getElem?_row left, Array.getElem?_toList]
  · have outside : panel.pixels.toList.length ≤ index := Nat.le_of_not_lt inside
    rw [List.getElem?_eq_none outside, List.getElem?_eq_none (length ▸ outside)]

theorem decode?_encode (storable : panel.Storable) : decode? (encode panel) = some panel := by
  have sized := storable.sized
  have row : ∀ y ∈ List.range panel.height.toNat,
      ((encode panel).drop (pixelOffset + (panel.height.toNat - 1 - y) * rowStride panel.width.toNat)).take
        panel.width.toNat = panel.row y := by
    intro y member
    have above := List.mem_range.mp member
    apply List.ext_getElem? fun x => ?_
    rw [List.getElem?_take]
    split
    next left => rw [List.getElem?_drop, getElem?_encode_pixel sized left above, getElem?_row left]
    next right => rw [List.getElem?_eq_none (sized.length_row above ▸ Nat.le_of_not_lt right)]
  simp only [decode?, parse?_encode storable, Option.bind_eq_bind, Option.bind_some, Int.toNat_natCast,
    UInt32.ofNat_toNat]
  rw [List.flatMap_congr row, flatMap_row sized]
  rfl

/-- What is stored of a panel is a bitmap whose headers tell the truth, and whose bytes hold every pixel at
its place and zeros elsewhere. Reading finds the panel again, so the file stands for no other. -/
theorem encode_readable {panel : Framebuffer} (storable : panel.Storable) :
    let bytes := encode panel
    let width := panel.width.toNat
    let height := panel.height.toNat
    let stride := rowStride width
    Header.parse? bytes = some
        { fileSize := bytes.length, pixelOffset := 54, width := width, height := height, bitsPerPixel := 8 } ∧
      0 < width ∧ 0 < height ∧ bytes.length < UInt32.size ∧ field bytes 34 4 = bytes.length - 54 ∧
      bytes.length = 54 + height * stride ∧
      (4 ∣ stride ∧ width ≤ stride ∧ ∀ other, 4 ∣ other → width ≤ other → stride ≤ other) ∧
      (∀ x y : UInt32, x < panel.width → y < panel.height → ∃ pixel, panel.get? x y = some pixel ∧
        bytes[54 + (height - 1 - y.toNat) * stride + x.toNat]? = some pixel) ∧
      (∀ x y, width ≤ x → x < stride → y < height → bytes[54 + (height - 1 - y) * stride + x]? = some 0) ∧
      decode? bytes = some panel ∧ ∀ other : Framebuffer, other.Storable → encode other = bytes → other = panel := by
  intro bytes width height stride
  have sized := storable.sized
  obtain ⟨⟨wide, _⟩, high, _⟩ := storable.bounds
  have length : bytes.length = 54 + height * stride := by
    rw [length_encode sized, imageSize, Nat.mul_comm]
    rfl
  have small : bytes.length < UInt32.size := length_encode sized ▸ imageSize_lt storable
  refine ⟨parse?_encode storable, wide, high, small, ?_, length, rowStride_least width, ?_, ?_,
    decode?_encode storable, ?_⟩
  · have stored : field bytes 34 4 = imageSize panel :=
      field_eq (fileHeader panel ++ littleEndian 4 infoHeaderSize ++ littleEndian 4 width ++
        littleEndian 4 height ++ littleEndian 2 1 ++ littleEndian 2 bitsPerPixel ++ littleEndian 4 0)
        (by simp only [bytes, encode, infoHeader, List.append_assoc]; rfl) rfl
        (Nat.lt_of_le_of_lt (Nat.le_add_left _ _) (imageSize_lt storable))
    rw [stored, length, Nat.add_sub_cancel_left, imageSize, Nat.mul_comm]
  · intro x y left above
    obtain ⟨pixel, found⟩ := sized.pixel left above
    refine ⟨pixel, (get?_inside left above).trans found, ?_⟩
    rw [← found]
    exact getElem?_encode_pixel sized (UInt32.lt_iff_toNat_lt.mp left) (UInt32.lt_iff_toNat_lt.mp above)
  · intro x y past within above
    have rowLength := sized.length_row above
    exact (getElem?_encode sized within above).trans
      (getElem?_storedRow_padding (rowLength.symm ▸ past) (rowLength.symm ▸ within))
  · intro other otherStorable same
    have read := decode?_encode otherStorable
    rw [same, decode?_encode storable] at read
    exact (Option.some.inj read).symm

section Odd

private def odd : Framebuffer :=
  { width := 5, height := 2, pixels := #[1, 2, 3, 4, 5, 6, 7, 8, 9, 10] }

theorem encode_readable_odd :
    odd.Storable ∧
      Header.parse? (encode odd) =
        some { fileSize := 70, pixelOffset := 54, width := 5, height := 2, bitsPerPixel := 8 } ∧
      (encode odd)[69]? = some 0 ∧ decode? (encode odd) = some odd := by
  have storable : odd.Storable := by
    refine ⟨rfl, { width := 5, height := 2 }, rfl, rfl, rfl⟩
  obtain ⟨parsed, _, _, _, _, length, _, _, padding, decoded, _⟩ := encode_readable storable
  rw [length] at parsed
  exact ⟨storable, parsed, padding 7 0 (by decide) (by decide) (by decide), decoded⟩

end Odd

end Bitmap
end PanelMenu
