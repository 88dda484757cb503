import Mathlib.Data.List.Induction
import PanelMenu.Proofs.PanelPicture

/-! What a panel shows after any drawing: at every point, the last operation that covers it. What an
operation covers is said in numbers without a bound, so neither the edges of the panel nor the sums that
stop at the largest word can be told from a picture. -/

namespace PanelMenu

theorem toNat_addCapped (a b : UInt32) :
    (addCapped a b).toNat = min (a.toNat + b.toNat) (UInt32.size - 1) := by
  have first := a.toNat_lt
  have second := b.toNat_lt
  unfold addCapped
  split
  next wraps =>
    simp only [UInt32.lt_iff_toNat_lt, UInt32.toNat_add] at wraps
    simp only [UInt32.reduceToNat, UInt32.size]
    omega
  next stays =>
    simp only [UInt32.lt_iff_toNat_lt, UInt32.toNat_add] at stays
    simp only [UInt32.toNat_add, UInt32.size]
    omega

theorem toNat_min (a b : UInt32) : (min a b).toNat = min a.toNat b.toNat := by
  change (if a ≤ b then a else b).toNat = _
  rw [Nat.min_def]
  simp only [UInt32.le_iff_toNat_le]
  split <;> rfl

/-- At equal distances from each other, some items hold what is asked of one of them at its place. -/
def Along {α : Type} (holds : Nat → α → Prop) (step start : Nat) (items : List α) : Prop :=
  ∃ (index : Nat) (inside : index < items.length), holds (start + index * step) items[index]

section Along
variable {α : Type} {holds : Nat → α → Prop} {step start : Nat} {items : List α}

instance [∀ place item, Decidable (holds place item)] : Decidable (Along holds step start items) :=
  inferInstanceAs (Decidable (∃ (index : Nat) (_ : index < items.length), _))

theorem along_nil : ¬ Along holds step start [] := by
  rintro ⟨index, inside, _⟩
  exact Nat.not_lt_zero index inside

theorem along_cons (item : α) :
    Along holds step start (item :: items) ↔ holds start item ∨ Along holds step (start + step) items := by
  constructor
  · rintro ⟨index, inside, held⟩
    cases index with
    | zero => exact .inl (by simpa using held)
    | succ index =>
      refine .inr ⟨index, Nat.lt_of_succ_lt_succ inside, ?_⟩
      rwa [Nat.add_assoc, Nat.add_comm step, ← Nat.succ_mul]
  · rintro (held | ⟨index, inside, held⟩)
    · exact ⟨0, Nat.zero_lt_succ _, by simpa using held⟩
    · refine ⟨index + 1, Nat.succ_lt_succ inside, ?_⟩
      rwa [Nat.succ_mul, Nat.add_comm (index * _), ← Nat.add_assoc]

theorem not_along {bound : Nat} (near : ∀ place item, holds place item → place ≤ bound) (far : bound < start) :
    ¬ Along holds step start items := by
  rintro ⟨index, _, held⟩
  exact absurd (near _ _ held) (Nat.not_le.mpr (Nat.lt_of_lt_of_le far (Nat.le_add_right _ _)))

/-- A place that has stopped at the largest word makes no difference where all that counts is before it. -/
theorem along_min {bound most : Nat} (near : ∀ place item, holds place item → place ≤ bound) (below : bound < most) :
    Along holds step (min start most) items ↔ Along holds step start items := by
  by_cases far : most ≤ start
  · rw [Nat.min_eq_right far]
    exact iff_of_false (not_along near below) (not_along near (Nat.lt_of_lt_of_le below far))
  · rw [Nat.min_eq_left (Nat.le_of_not_le far)]

end Along

/-- A rectangle that no edge cuts off. -/
def InBox (left top width height x y : Nat) : Prop :=
  left ≤ x ∧ x < left + width ∧ top ≤ y ∧ y < top + height

instance (left top width height x y : Nat) : Decidable (InBox left top width height x y) :=
  inferInstanceAs (Decidable (_ ∧ _))

namespace GlyphBox

/-- The points of one character: a box, unless it is blank. -/
def Marks (glyph : GlyphBox) (top x y left : Nat) (c : Char) : Prop :=
  Text.isBlank c = false ∧ InBox left top glyph.width.toNat glyph.height.toNat x y

instance (glyph : GlyphBox) (top x y left : Nat) (c : Char) : Decidable (glyph.Marks top x y left c) :=
  inferInstanceAs (Decidable (_ ∧ _))

/-- The points of a text. -/
def Inks (glyph : GlyphBox) (left top : Nat) (text : List Char) (x y : Nat) : Prop :=
  Along (glyph.Marks top x y) glyph.width.toNat left text

instance (glyph : GlyphBox) (left top : Nat) (text : List Char) (x y : Nat) :
    Decidable (glyph.Inks left top text x y) :=
  inferInstanceAs (Decidable (Along _ _ _ _))

theorem Marks.left_le {glyph : GlyphBox} {top x y : Nat} (left : Nat) (c : Char)
    (marked : glyph.Marks top x y left c) : left ≤ x :=
  marked.2.1

theorem Inks.top_le {glyph : GlyphBox} {left top x y : Nat} {text : List Char}
    (inked : glyph.Inks left top text x y) : top ≤ y := by
  obtain ⟨index, _, _, box⟩ := inked
  exact box.2.2.1

end GlyphBox

namespace Framebuffer

/-- There is one pixel for each point. -/
def Sized (panel : Framebuffer) : Prop :=
  panel.pixels.size = panel.width.toNat * panel.height.toNat

theorem sized_allocate (width height : UInt32) : (allocate width height).Sized := by
  simp [Sized, allocate]

section Cleared
variable {panel drawn : Framebuffer} (same : drawn.clear = panel.clear)
include same

theorem width_of_clear : drawn.width = panel.width := by
  have widths := congrArg Framebuffer.width same
  exact widths

theorem height_of_clear : drawn.height = panel.height := by
  have heights := congrArg Framebuffer.height same
  exact heights

theorem Sized.of_clear (sized : panel.Sized) : drawn.Sized := by
  have pixels := congrArg (fun panel => panel.pixels.size) same
  simp only [clear, Array.size_replicate] at pixels
  rw [Sized, pixels, width_of_clear same, height_of_clear same]
  exact sized

end Cleared

theorem offset_lt {width height x y : Nat} (left : x < width) (above : y < height) :
    y * width + x < width * height := by
  calc y * width + x < y * width + width := Nat.add_lt_add_left left _
    _ = (y + 1) * width := (Nat.succ_mul y width).symm
    _ ≤ height * width := Nat.mul_le_mul_right width above
    _ = width * height := Nat.mul_comm height width

theorem offset_mem_run {width right x : Nat} (inside : x < width) (fits : right ≤ width) (row left y : Nat) :
    row * width + left ≤ y * width + x ∧ y * width + x < row * width + right ↔
      row = y ∧ left ≤ x ∧ x < right := by
  rcases Nat.lt_trichotomy row y with before | rfl | after
  · have rows := Nat.mul_le_mul_right width (Nat.succ_le_of_lt before)
    rw [Nat.succ_mul] at rows
    omega
  · omega
  · have rows := Nat.mul_le_mul_right width (Nat.succ_le_of_lt after)
    rw [Nat.succ_mul] at rows
    omega

theorem get?_outside {panel : Framebuffer} {x y : UInt32} (outside : ¬ (x < panel.width ∧ y < panel.height)) :
    panel.get? x y = none :=
  if_neg outside

theorem get?_inside {panel : Framebuffer} {x y : UInt32} (left : x < panel.width) (above : y < panel.height) :
    panel.get? x y = panel.pixels[y.toNat * panel.width.toNat + x.toNat]? :=
  if_pos ⟨left, above⟩

theorem Sized.pixel {panel : Framebuffer} (sized : panel.Sized) {x y : UInt32} (left : x < panel.width)
    (above : y < panel.height) : ∃ pixel, panel.pixels[y.toNat * panel.width.toNat + x.toNat]? = some pixel := by
  have inside := offset_lt (UInt32.lt_iff_toNat_lt.mp left) (UInt32.lt_iff_toNat_lt.mp above)
  rw [← sized] at inside
  exact ⟨_, Array.getElem?_eq_getElem inside⟩

theorem Sized.exists_point {panel : Framebuffer} (sized : panel.Sized) {pixel : UInt8} (member : pixel ∈ panel.pixels) :
    ∃ x y : UInt32, x < panel.width ∧ y < panel.height ∧ panel.get? x y = some pixel := by
  obtain ⟨index, inside, found⟩ := Array.mem_iff_getElem.mp member
  have bound : index < panel.width.toNat * panel.height.toNat := sized ▸ inside
  have wide : 0 < panel.width.toNat := Nat.pos_of_lt_mul_right bound
  have left : index % panel.width.toNat < panel.width.toNat := Nat.mod_lt index wide
  have above : index / panel.width.toNat < panel.height.toNat := Nat.div_lt_of_lt_mul bound
  have column : (UInt32.ofNat (index % panel.width.toNat)).toNat = index % panel.width.toNat :=
    UInt32.toNat_ofNat_of_lt' (Nat.lt_trans left panel.width.toNat_lt)
  have row : (UInt32.ofNat (index / panel.width.toNat)).toNat = index / panel.width.toNat :=
    UInt32.toNat_ofNat_of_lt' (Nat.lt_trans above panel.height.toNat_lt)
  rw [← column] at left
  rw [← row] at above
  refine ⟨_, _, UInt32.lt_iff_toNat_lt.mpr left, UInt32.lt_iff_toNat_lt.mpr above, ?_⟩
  rw [get?_inside (UInt32.lt_iff_toNat_lt.mpr left) (UInt32.lt_iff_toNat_lt.mpr above), column, row,
    Nat.mul_comm, Nat.div_add_mod, Array.getElem?_eq_getElem inside, found]

theorem getElem?_paintRun (value : UInt8) (start count : Nat) (pixels : Array UInt8) (index : Nat) :
    (paintRun value start count pixels)[index]? =
      if start ≤ index ∧ index < start + count then pixels[index]?.map fun _ => value else pixels[index]? := by
  induction count with
  | zero =>
    rw [if_neg (by omega)]
    rfl
  | succ count ih =>
    have size := size_paintRun value start count pixels
    simp only [paintRun, List.range'_concat, List.foldl_append, List.foldl_cons, List.foldl_nil] at ih size ⊢
    rw [Array.getElem?_setIfInBounds, ih, size]
    by_cases last : start + 1 * count = index
    · have within : start ≤ index ∧ index < start + (count + 1) := by omega
      rw [if_pos last, if_pos within, last]
      by_cases inside : index < pixels.size
      · rw [if_pos inside, Array.getElem?_eq_getElem inside]
        rfl
      · rw [if_neg inside, Array.getElem?_eq_none (Nat.le_of_not_lt inside)]
        rfl
    · rw [if_neg last]
      have same : (start ≤ index ∧ index < start + count) ↔ (start ≤ index ∧ index < start + (count + 1)) := by omega
      simp only [same]

theorem getElem?_paintRows (value : UInt8) {width left right x : Nat} (y : Nat) (inside : x < width)
    (order : left ≤ right) (fits : right ≤ width) (top count : Nat) (pixels : Array UInt8) :
    ((List.range' top count).foldl
        (fun pixels row => paintRun value (row * width + left) (right - left) pixels) pixels)[y * width + x]? =
      if (top ≤ y ∧ y < top + count) ∧ left ≤ x ∧ x < right then pixels[y * width + x]?.map fun _ => value
      else pixels[y * width + x]? := by
  induction count with
  | zero =>
    rw [if_neg (by omega)]
    rfl
  | succ count ih =>
    rw [List.range'_concat, List.foldl_append, List.foldl_cons, List.foldl_nil, getElem?_paintRun, ih]
    have stop : (top + 1 * count) * width + left + (right - left) = (top + 1 * count) * width + right := by omega
    rw [stop]
    simp only [offset_mem_run inside fits]
    by_cases last : top + 1 * count = y ∧ left ≤ x ∧ x < right
    · rw [if_pos last, if_neg (by omega), if_pos (by omega)]
    · rw [if_neg last]
      have same : ((top ≤ y ∧ y < top + count) ∧ left ≤ x ∧ x < right) ↔
          ((top ≤ y ∧ y < top + (count + 1)) ∧ left ≤ x ∧ x < right) := by omega
      simp only [same]

section Pixels
variable {panel : Framebuffer} (sized : panel.Sized) {x y : UInt32} (left : x < panel.width) (above : y < panel.height)
include sized left above

theorem get?_clear : panel.clear.get? x y = some dark := by
  obtain ⟨pixel, found⟩ := sized.pixel left above
  have inside := (Array.getElem?_eq_some_iff.mp found).1
  have cleared : panel.clear.get? x y = panel.clear.pixels[y.toNat * panel.width.toNat + x.toNat]? :=
    get?_inside left above
  rw [cleared, clear, Array.getElem?_replicate, if_pos inside]

theorem get?_set (column row : UInt32) (value : UInt8) :
    (panel.set column row value).get? x y =
      if x.toNat = column.toNat ∧ y.toNat = row.toNat then some value else panel.get? x y := by
  obtain ⟨pixel, found⟩ := sized.pixel left above
  have inside := (Array.getElem?_eq_some_iff.mp found).1
  have across := UInt32.lt_iff_toNat_lt.mp left
  rw [set]
  by_cases onPanel : column < panel.width ∧ row < panel.height
  · have written : ∀ pixels, { panel with pixels := pixels }.get? x y =
        pixels[y.toNat * panel.width.toNat + x.toNat]? := fun pixels => get?_inside left above
    rw [if_pos onPanel, written, Array.getElem?_setIfInBounds, get?_inside left above]
    have here : panel.offset column.toNat row.toNat = y.toNat * panel.width.toNat + x.toNat ↔
        x.toNat = column.toNat ∧ y.toNat = row.toNat := by
      have next : column.toNat + 1 ≤ panel.width.toNat := UInt32.lt_iff_toNat_lt.mp onPanel.1
      have run := offset_mem_run across next row.toNat column.toNat y.toNat
      rw [offset]
      omega
    by_cases same : x.toNat = column.toNat ∧ y.toNat = row.toNat
    · have offsets := here.mpr same
      rw [if_pos offsets, if_pos (offsets ▸ inside), if_pos same]
    · rw [if_neg (fun offsets => same (here.mp offsets)), if_neg same]
  · rw [if_neg onPanel, if_neg]
    rintro ⟨sameColumn, sameRow⟩
    obtain rfl := UInt32.toNat_inj.mp sameColumn
    obtain rfl := UInt32.toNat_inj.mp sameRow
    exact onPanel ⟨left, above⟩

theorem get?_fill (column row width height : UInt32) (value : UInt8) :
    (panel.fill column row width height value).get? x y =
      if InBox column.toNat row.toNat width.toNat height.toNat x.toNat y.toNat then some value
      else panel.get? x y := by
  obtain ⟨pixel, found⟩ := sized.pixel left above
  have across := UInt32.lt_iff_toNat_lt.mp left
  have down := UInt32.lt_iff_toNat_lt.mp above
  have widest := panel.width.toNat_lt
  have highest := panel.height.toNat_lt
  have written : ∀ pixels, { panel with pixels := pixels }.get? x y =
      pixels[y.toNat * panel.width.toNat + x.toNat]? := fun pixels => get?_inside left above
  rw [fill, written, getElem?_paintRows value y.toNat across, found, get?_inside left above, found]
  · have box : ((row.toNat ≤ y.toNat ∧ y.toNat <
          row.toNat + ((min (addCapped row height) panel.height).toNat - row.toNat)) ∧
        (min column (min (addCapped column width) panel.width)).toNat ≤ x.toNat ∧
        x.toNat < (min (addCapped column width) panel.width).toNat) ↔
        InBox column.toNat row.toNat width.toNat height.toNat x.toNat y.toNat := by
      simp only [InBox, toNat_min, toNat_addCapped, UInt32.size]
      omega
    simp only [box, Option.map_some]
  · simp only [toNat_min]
    omega
  · simp only [toNat_min]
    omega

theorem get?_drawFrom (glyph : GlyphBox) (row : UInt32) (cursor : UInt32) (text : List Char) :
    (drawFrom glyph row panel cursor text).get? x y =
      if glyph.Inks cursor.toNat row.toNat text x.toNat y.toNat then some lit else panel.get? x y := by
  have across := UInt32.lt_iff_toNat_lt.mp left
  have widest := panel.width.toNat_lt
  induction text generalizing panel cursor with
  | nil => exact (if_neg along_nil).symm
  | cons c rest ih =>
    rw [drawFrom]
    split
    next past =>
      have beyond := Nat.lt_of_lt_of_le across (UInt32.le_iff_toNat_le.mp past)
      exact (if_neg (not_along GlyphBox.Marks.left_le beyond)).symm
    next within =>
      have hidden : x.toNat < UInt32.size - 1 := by
        simp only [UInt32.size]
        omega
      simp only [GlyphBox.Inks, along_cons]
      split
      next blank =>
        rw [ih sized left above _ across widest, toNat_addCapped]
        simp only [GlyphBox.Inks, along_min GlyphBox.Marks.left_le hidden, GlyphBox.Marks, blank, Bool.true_eq_false,
          false_and, false_or]
      next shows =>
        have boxed := clear_fill panel cursor row glyph.width glyph.height lit
        rw [ih (sized.of_clear boxed) left above _ across widest, toNat_addCapped, get?_fill sized left above]
        simp only [GlyphBox.Inks, along_min GlyphBox.Marks.left_le hidden, GlyphBox.Marks, shows, true_and]
        by_cases later :
            Along (glyph.Marks row.toNat x.toNat y.toNat) glyph.width.toNat (cursor.toNat + glyph.width.toNat) rest
        · rw [if_pos later, if_pos (.inr later)]
        · simp only [later, if_false, or_false]

theorem get?_drawText (column row : UInt32) (text : String) (glyph : GlyphBox) :
    (panel.drawText column row text glyph).get? x y =
      if glyph.Inks column.toNat row.toNat text.toList x.toNat y.toNat then some lit else panel.get? x y := by
  rw [drawText]
  split
  next below =>
    have under := UInt32.lt_iff_toNat_lt.mp (UInt32.lt_of_lt_of_le above below)
    rw [if_neg]
    intro inked
    exact absurd inked.top_le (Nat.not_le.mpr under)
  next => exact get?_drawFrom sized left above glyph row column text.toList

end Pixels

/-! Guarded forms of the operations. They refuse to work as soon as a place is not one of the pixels, and
are otherwise the same. -/

def set? (panel : Framebuffer) (x y : UInt32) (value : UInt8) : Option Framebuffer :=
  if x < panel.width ∧ y < panel.height then
    if panel.offset x.toNat y.toNat < panel.pixels.size then some (panel.set x y value) else none
  else some panel

def paintRun? (value : UInt8) (start stop : Nat) (pixels : Array UInt8) : Option (Array UInt8) :=
  if start ≤ stop ∧ stop ≤ pixels.size then some (paintRun value start (stop - start) pixels) else none

def fill? (panel : Framebuffer) (x y width height : UInt32) (value : UInt8) : Option Framebuffer := do
  let right := min (addCapped x width) panel.width
  let bottom := min (addCapped y height) panel.height
  let left := min x right
  let paint (pixels : Array UInt8) (row : Nat) : Option (Array UInt8) :=
    paintRun? value (panel.offset left.toNat row) (panel.offset right.toNat row) pixels
  let pixels ← (List.range' y.toNat (bottom.toNat - y.toNat)).foldlM paint panel.pixels
  return { panel with pixels := pixels }

def drawFrom? (glyph : GlyphBox) (y : UInt32) (panel : Framebuffer) (cursor : UInt32) :
    List Char → Option Framebuffer
  | [] => some panel
  | c :: rest =>
    if panel.width ≤ cursor then some panel
    else do
      let drawn ← if Text.isBlank c then some panel else panel.fill? cursor y glyph.width glyph.height lit
      drawFrom? glyph y drawn (addCapped cursor glyph.width) rest

def drawText? (panel : Framebuffer) (x y : UInt32) (text : String) (glyph : GlyphBox) : Option Framebuffer :=
  if panel.height ≤ y then some panel else drawFrom? glyph y panel x text.toList

section Guards
variable {panel : Framebuffer} (sized : panel.Sized)
include sized

theorem set?_eq (x y : UInt32) (value : UInt8) : panel.set? x y value = some (panel.set x y value) := by
  rw [set?]
  split
  next inside =>
    have first := UInt32.lt_iff_toNat_lt.mp inside.1
    have second := UInt32.lt_iff_toNat_lt.mp inside.2
    rw [if_pos]
    rw [offset, sized]
    exact offset_lt first second
  next outside => rw [set, if_neg outside]

omit sized in
theorem paintRows?_eq (value : UInt8) (width : Nat) {left right : Nat} (order : left ≤ right) (rows : List Nat)
    (pixels : Array UInt8) (within : ∀ row ∈ rows, row * width + right ≤ pixels.size) :
    rows.foldlM (fun pixels row => paintRun? value (row * width + left) (row * width + right) pixels) pixels =
      some (rows.foldl (fun pixels row => paintRun value (row * width + left) (right - left) pixels) pixels) := by
  induction rows generalizing pixels with
  | nil => rfl
  | cons row rest ih =>
    obtain ⟨first, others⟩ := List.forall_mem_cons.mp within
    have run : paintRun? value (row * width + left) (row * width + right) pixels =
        some (paintRun value (row * width + left) (right - left) pixels) := by
      rw [paintRun?, if_pos ⟨Nat.add_le_add_left order _, first⟩, Nat.add_sub_add_left]
    rw [List.foldlM_cons, run, List.foldl_cons]
    apply ih
    rwa [size_paintRun]

theorem fill?_eq (x y width height : UInt32) (value : UInt8) :
    panel.fill? x y width height value = some (panel.fill x y width height value) := by
  have order : (min x (min (addCapped x width) panel.width)).toNat ≤ (min (addCapped x width) panel.width).toNat := by
    simp only [toNat_min]
    exact Nat.min_le_right _ _
  have fits : (min (addCapped x width) panel.width).toNat ≤ panel.width.toNat := by
    simp only [toNat_min]
    exact Nat.min_le_right _ _
  have painted := paintRows?_eq value panel.width.toNat order
    (List.range' y.toNat ((min (addCapped y height) panel.height).toNat - y.toNat)) panel.pixels
  simp only [fill?, offset]
  rw [painted]
  · rfl
  · intro row member
    have above : row < panel.height.toNat := by
      have bounds := List.mem_range'_1.mp member
      simp only [toNat_min] at bounds
      omega
    calc row * panel.width.toNat + (min (addCapped x width) panel.width).toNat
        ≤ row * panel.width.toNat + panel.width.toNat := Nat.add_le_add_left fits _
      _ = (row + 1) * panel.width.toNat := (Nat.succ_mul row _).symm
      _ ≤ panel.height.toNat * panel.width.toNat := Nat.mul_le_mul_right _ above
      _ = panel.pixels.size := by rw [sized, Nat.mul_comm]

theorem drawFrom?_eq (glyph : GlyphBox) (y cursor : UInt32) (text : List Char) :
    drawFrom? glyph y panel cursor text = some (drawFrom glyph y panel cursor text) := by
  induction text generalizing panel cursor with
  | nil => rfl
  | cons c rest ih =>
    rw [drawFrom?, drawFrom]
    split
    · rfl
    · split
      · exact ih sized _
      · rw [fill?_eq sized]
        exact ih (sized.of_clear (clear_fill _ _ _ _ _ _)) _

theorem drawText?_eq (x y : UInt32) (text : String) (glyph : GlyphBox) :
    panel.drawText? x y text glyph = some (panel.drawText x y text glyph) := by
  rw [drawText?, drawText]
  split
  · rfl
  · exact drawFrom?_eq sized glyph y x text.toList

end Guards

/-- One operation on a panel. -/
inductive Stroke
  | dot (x y : UInt32) (value : UInt8)
  | box (x y width height : UInt32) (value : UInt8)
  | text (x y : UInt32) (text : String) (glyph : GlyphBox)
  | clear
  deriving DecidableEq, Repr

namespace Stroke

def paint (panel : Framebuffer) : Stroke → Framebuffer
  | dot x y value => panel.set x y value
  | box x y width height value => panel.fill x y width height value
  | text x y label glyph => panel.drawText x y label glyph
  | clear => panel.clear

def paint? (panel : Framebuffer) : Stroke → Option Framebuffer
  | dot x y value => panel.set? x y value
  | box x y width height value => panel.fill? x y width height value
  | text x y label glyph => panel.drawText? x y label glyph
  | clear => some panel.clear

def value : Stroke → UInt8
  | dot _ _ value | box _ _ _ _ value => value
  | text _ _ _ _ => lit
  | clear => dark

def Covers (x y : Nat) : Stroke → Prop
  | dot column row _ => x = column.toNat ∧ y = row.toNat
  | box column row width height _ => InBox column.toNat row.toNat width.toNat height.toNat x y
  | text column row label glyph => glyph.Inks column.toNat row.toNat label.toList x y
  | clear => True

instance (x y : Nat) : DecidablePred (Covers x y)
  | dot column row _ => inferInstanceAs (Decidable (x = column.toNat ∧ y = row.toNat))
  | box column row width height _ =>
    inferInstanceAs (Decidable (InBox column.toNat row.toNat width.toNat height.toNat x y))
  | text column row label glyph =>
    inferInstanceAs (Decidable (glyph.Inks column.toNat row.toNat label.toList x y))
  | clear => inferInstanceAs (Decidable True)

/-- The last of some operations that covers a point. -/
def last? (strokes : List Stroke) (x y : Nat) : Option Stroke :=
  (strokes.filter (Covers x y ·)).getLast?

theorem clear_paint (panel : Framebuffer) (stroke : Stroke) : (stroke.paint panel).clear = panel.clear := by
  cases stroke with
  | dot x y value =>
    simp only [paint, set]
    split
    · simp [Framebuffer.clear]
    · rfl
  | box x y width height value => exact panel.clear_fill x y width height value
  | text x y label glyph => exact panel.clear_drawText x y label glyph
  | clear => exact panel.clear_clear

variable {panel : Framebuffer} (sized : panel.Sized)
include sized

theorem paint?_eq (stroke : Stroke) : stroke.paint? panel = some (stroke.paint panel) := by
  cases stroke with
  | dot x y value => exact set?_eq sized x y value
  | box x y width height value => exact fill?_eq sized x y width height value
  | text x y label glyph => exact drawText?_eq sized x y label glyph
  | clear => rfl

theorem get?_paint (stroke : Stroke) {x y : UInt32} (left : x < panel.width) (above : y < panel.height) :
    (stroke.paint panel).get? x y =
      if stroke.Covers x.toNat y.toNat then some stroke.value else panel.get? x y := by
  cases stroke with
  | dot column row value => exact get?_set sized left above column row value
  | box column row width height value => exact get?_fill sized left above column row width height value
  | text column row label glyph => exact get?_drawText sized left above column row label glyph
  | clear => exact (get?_clear sized left above).trans (if_pos trivial).symm

end Stroke

theorem clear_foldl_paint (panel : Framebuffer) (strokes : List Stroke) :
    (strokes.foldl Stroke.paint panel).clear = panel.clear := by
  apply List.foldlRecOn (motive := fun drawn : Framebuffer => drawn.clear = panel.clear)
  · rfl
  · intro drawn same stroke _
    rw [Stroke.clear_paint, same]

theorem foldlM_paint? {panel : Framebuffer} (sized : panel.Sized) (strokes : List Stroke) :
    strokes.foldlM Stroke.paint? panel = some (strokes.foldl Stroke.paint panel) := by
  induction strokes generalizing panel with
  | nil => rfl
  | cons stroke rest ih =>
    rw [List.foldlM_cons, Stroke.paint?_eq sized, List.foldl_cons]
    exact ih (sized.of_clear (Stroke.clear_paint panel stroke))

theorem get?_foldl_paint {panel : Framebuffer} (sized : panel.Sized) (strokes : List Stroke) {x y : UInt32}
    (left : x < panel.width) (above : y < panel.height) :
    (strokes.foldl Stroke.paint panel).get? x y =
      ((Stroke.last? strokes x.toNat y.toNat).map Stroke.value).or (panel.get? x y) := by
  induction strokes using List.reverseRecOn with
  | nil => rfl
  | append_singleton before stroke ih =>
    have same := clear_foldl_paint panel before
    have stillLeft : x < (before.foldl Stroke.paint panel).width := width_of_clear same ▸ left
    have stillAbove : y < (before.foldl Stroke.paint panel).height := height_of_clear same ▸ above
    rw [List.foldl_append, List.foldl_cons, List.foldl_nil,
      stroke.get?_paint (sized.of_clear same) stillLeft stillAbove, Stroke.last?, List.filter_append]
    by_cases covers : stroke.Covers x.toNat y.toNat
    · simp [covers]
    · simp [covers, ih, Stroke.last?]

/-- A panel shows at each point what the last operation over it has painted there, and is dark where there was
none. No operation reaches for a pixel that there is not. -/
theorem shows_last_stroke (width height : UInt32) (strokes : List Stroke) :
    let panel := strokes.foldl Stroke.paint (allocate width height)
    strokes.foldlM Stroke.paint? (allocate width height) = some panel ∧
      panel.width = width ∧ panel.height = height ∧ panel.pixels.size = width.toNat * height.toNat ∧
      ∀ x y : UInt32, panel.get? x y =
        if x < width ∧ y < height then
          some (((Stroke.last? strokes x.toNat y.toNat).map Stroke.value).getD dark)
        else none := by
  intro panel
  have blank := sized_allocate width height
  have same : panel.clear = (allocate width height).clear := clear_foldl_paint _ strokes
  have sameWidth : panel.width = width := width_of_clear same
  have sameHeight : panel.height = height := height_of_clear same
  refine ⟨foldlM_paint? blank strokes, sameWidth, sameHeight, ?_, ?_⟩
  · rw [← sameWidth, ← sameHeight]
    exact blank.of_clear same
  · intro x y
    split
    next inside =>
      have start : (allocate width height).get? x y = some dark := by
        rw [← clear_allocate]
        exact get?_clear blank inside.1 inside.2
      have shown := get?_foldl_paint blank strokes inside.1 inside.2
      rw [shown, start]
      cases Stroke.last? strokes x.toNat y.toNat <;> rfl
    next outside =>
      apply get?_outside
      rwa [sameWidth, sameHeight]

end Framebuffer
end PanelMenu
