import PanelMenu.Proofs.Painting

/-! The pixels of a drawn view, one by one. A point is lit if it lies in the box of a character of one of
the rows that fit, as if the panel had no edges and numbers no bound; what was drawn before leaves no
trace. -/

namespace PanelMenu

/-- The points that a view lights on a panel with these settings. -/
def DisplaySettings.Lights (settings : DisplaySettings) (view : View) (x y : Nat) : Prop :=
  ∃ row index item c, row < min settings.viewport view.items.length ∧ view.items[row]? = some item ∧
    item.row.toList[index]? = some c ∧ Text.isBlank c = false ∧
    row * settings.lineHeight.toNat ≤ y ∧ y < row * settings.lineHeight.toNat + settings.glyphHeight.toNat ∧
    index * settings.glyphWidth.toNat ≤ x ∧ x < (index + 1) * settings.glyphWidth.toNat

namespace PanelRenderer
open Framebuffer

/-- `drawRows` with guarded operations. -/
def drawRows? (glyph : GlyphBox) (lineHeight : UInt32) (y : UInt32) (panel : Framebuffer) :
    List View.Item → Option Framebuffer
  | [] => some panel
  | item :: rest =>
    if panel.height ≤ y then some panel
    else do
      let drawn ← panel.drawText? 0 y item.row glyph
      drawRows? glyph lineHeight (addCapped y lineHeight) drawn rest

def paint? (renderer : PanelRenderer) (view : View) (panel : Framebuffer) : Option Framebuffer :=
  drawRows? renderer.glyph renderer.lineHeight 0 panel.clear (view.visible renderer.viewport)

theorem drawRows?_eq {panel : Framebuffer} (sized : panel.Sized) (glyph : GlyphBox) (lineHeight top : UInt32)
    (items : List View.Item) :
    drawRows? glyph lineHeight top panel items = some (drawRows glyph lineHeight top panel items) := by
  induction items generalizing panel top with
  | nil => rfl
  | cons item rest ih =>
    rw [drawRows?, drawRows]
    split
    · rfl
    · rw [drawText?_eq sized]
      exact ih (sized.of_clear (clear_drawText _ _ _ _ _)) _

def Inks (glyph : GlyphBox) (lineHeight top : Nat) (items : List View.Item) (x y : Nat) : Prop :=
  Along (fun place item => glyph.Inks 0 place item.row.toList x y) lineHeight top items

instance (glyph : GlyphBox) (lineHeight top : Nat) (items : List View.Item) (x y : Nat) :
    Decidable (Inks glyph lineHeight top items x y) :=
  inferInstanceAs (Decidable (Along _ _ _ _))

theorem get?_drawRows {panel : Framebuffer} (sized : panel.Sized) {x y : UInt32} (left : x < panel.width)
    (above : y < panel.height) (glyph : GlyphBox) (lineHeight top : UInt32) (items : List View.Item) :
    (drawRows glyph lineHeight top panel items).get? x y =
      if Inks glyph lineHeight.toNat top.toNat items x.toNat y.toNat then some lit else panel.get? x y := by
  have down := UInt32.lt_iff_toNat_lt.mp above
  have highest := panel.height.toNat_lt
  have near : ∀ place (item : View.Item), glyph.Inks 0 place item.row.toList x.toNat y.toNat → place ≤ y.toNat :=
    fun _ _ inked => inked.top_le
  induction items generalizing panel top with
  | nil => exact (if_neg along_nil).symm
  | cons item rest ih =>
    rw [drawRows]
    split
    next past =>
      have below := Nat.lt_of_lt_of_le down (UInt32.le_iff_toNat_le.mp past)
      exact (if_neg (not_along near below)).symm
    next =>
      have hidden : y.toNat < UInt32.size - 1 := by
        simp only [UInt32.size]
        omega
      have kept := clear_drawText panel 0 top item.row glyph
      have stillLeft : x < (panel.drawText 0 top item.row glyph).width := width_of_clear kept ▸ left
      have stillAbove : y < (panel.drawText 0 top item.row glyph).height := height_of_clear kept ▸ above
      have again := UInt32.lt_iff_toNat_lt.mp stillAbove
      have bound := (panel.drawText 0 top item.row glyph).height.toNat_lt
      rw [ih (sized.of_clear kept) stillLeft stillAbove _ again bound, toNat_addCapped,
        get?_drawText sized left above]
      simp only [Inks, along_cons, along_min near hidden]
      by_cases lower :
          Along (fun place item => glyph.Inks 0 place item.row.toList x.toNat y.toNat) lineHeight.toNat
            (top.toNat + lineHeight.toNat) rest
      · rw [if_pos lower, if_pos (.inr lower)]
      · simp only [lower, if_false, or_false]
        rfl

theorem lights_iff (settings : DisplaySettings) (view : View) (x y : Nat) :
    settings.Lights view x y ↔
      Inks ⟨settings.glyphWidth, settings.glyphHeight⟩ settings.lineHeight.toNat 0
        (view.visible settings.viewport) x y := by
  constructor
  · rintro ⟨row, index, item, c, fits, there, character, shows, top, bottom, left, right⟩
    have inside : row < (view.visible settings.viewport).length := by
      rw [View.visible, List.length_take]
      exact fits
    have shown : (view.visible settings.viewport)[row] = item := by
      have found := List.getElem_of_getElem? there
      simp only [View.visible, List.getElem_take]
      exact found.2
    obtain ⟨within, found⟩ := List.getElem?_eq_some_iff.mp character
    refine ⟨row, inside, index, shown ▸ within, ?_, ?_⟩
    · simpa only [shown, found] using shows
    · rw [Nat.succ_mul] at right
      simpa only [InBox, Nat.zero_add] using And.intro left ⟨right, top, bottom⟩
  · rintro ⟨row, inside, index, within, shows, left, right, top, bottom⟩
    have fits : row < min settings.viewport view.items.length := by
      rwa [View.visible, List.length_take] at inside
    have there : row < view.items.length := Nat.lt_of_lt_of_le fits (Nat.min_le_right _ _)
    simp only [View.visible, List.getElem_take, Nat.zero_add] at shows left right top bottom within
    rw [← Nat.succ_mul] at right
    exact ⟨row, index, view.items[row], _, fits, List.getElem?_eq_getElem there, List.getElem?_eq_getElem within,
      shows, top, bottom, left, right⟩

instance (settings : DisplaySettings) (view : View) (x y : Nat) : Decidable (settings.Lights view x y) :=
  decidable_of_iff _ (lights_iff settings view x y).symm

/-- A renderer of a panel with these settings that has not been torn down. -/
structure Suits (settings : DisplaySettings) (renderer : PanelRenderer) : Prop where
  viewport : renderer.viewport = settings.viewport
  lineHeight : renderer.lineHeight = settings.lineHeight
  glyph : renderer.glyph = ⟨settings.glyphWidth, settings.glyphHeight⟩
  panel : renderer.picture.map clear = some (allocate settings.width settings.height)

theorem Suits.of_reset {settings : DisplaySettings} {renderer later : PanelRenderer} (suits : Suits settings renderer)
    (same : later.reset = renderer.reset) : Suits settings later := by
  have viewport : later.reset.viewport = renderer.reset.viewport := by rw [same]
  have lineHeight : later.reset.lineHeight = renderer.reset.lineHeight := by rw [same]
  have glyph : later.reset.glyph = renderer.reset.glyph := by rw [same]
  have panel : later.reset.picture = renderer.reset.picture := by rw [same]
  exact ⟨viewport.trans suits.viewport, lineHeight.trans suits.lineHeight, glyph.trans suits.glyph,
    panel.trans suits.panel⟩

theorem ofSettings_suits {settings : DisplaySettings} (valid : settings.validate = .ok ()) :
    ∃ fresh, ofSettings settings = .ok fresh ∧ Suits settings fresh := by
  refine ⟨_, by rw [ofSettings, valid]; rfl, rfl, rfl, rfl, ?_⟩
  exact congrArg some (clear_allocate settings.width settings.height)

theorem inMemory_suits {settings : DisplaySettings} (valid : settings.validate = .ok ()) :
    ∃ fresh, inMemory settings = .ok fresh ∧ Suits settings fresh := by
  obtain ⟨fresh, made, suits⟩ := ofSettings_suits valid
  refine ⟨{ fresh with output := none }, by rw [inMemory, made]; rfl, ?_⟩
  exact ⟨suits.viewport, suits.lineHeight, suits.glyph, suits.panel⟩

/-- What a renderer can be asked for. A frame meets the files as they are then. -/
inductive Call
  | draw (view : View)
  | render (view : View) (files : Files)
  | teardown

def serve (renderer : PanelRenderer) : Call → PanelRenderer
  | .draw view => (renderer.draw view).toOption.getD renderer
  | .render view files => (renderer.render view files).1
  | .teardown => renderer.teardown

theorem reset_serve (renderer : PanelRenderer) {call : Call} (frame : call ≠ .teardown) :
    (renderer.serve call).reset = renderer.reset := by
  cases call with
  | draw view =>
    rw [serve]
    cases drawing : renderer.draw view with
    | error fault => rfl
    | ok drawn => exact draw_reset drawing
  | render view files => exact renderer.render_reset view files
  | teardown => exact absurd rfl frame

theorem Suits.serve_all {settings : DisplaySettings} {renderer : PanelRenderer} (suits : Suits settings renderer)
    {calls : List Call} (frames : .teardown ∉ calls) : Suits settings (calls.foldl serve renderer) := by
  apply List.foldlRecOn (motive := Suits settings)
  · exact suits
  · intro current suits call member
    apply suits.of_reset
    apply current.reset_serve
    rintro rfl
    exact frames member

theorem Suits.draw {settings : DisplaySettings} {renderer : PanelRenderer} (suits : Suits settings renderer)
    (view : View) :
    ∃ panel drawn picture, renderer.picture = some panel ∧ renderer.paint? view panel = some picture ∧
      renderer.draw view = .ok drawn ∧ drawn.picture = some picture ∧
      picture.clear = allocate settings.width settings.height ∧
      ∀ x y : UInt32, x < settings.width → y < settings.height →
        picture.get? x y = some lit ∧ settings.Lights view x.toNat y.toNat ∨
          picture.get? x y = some dark ∧ ¬ settings.Lights view x.toNat y.toNat := by
  obtain ⟨panel, there, cleared⟩ := Option.map_eq_some_iff.mp suits.panel
  have blank := sized_allocate settings.width settings.height
  have picture : renderer.paint view panel =
      drawRows ⟨settings.glyphWidth, settings.glyphHeight⟩ settings.lineHeight 0
        (allocate settings.width settings.height) (view.visible settings.viewport) := by
    rw [paint, cleared, suits.viewport, suits.lineHeight, suits.glyph]
  refine ⟨panel, { renderer with picture := some (renderer.paint view panel), frames := renderer.frames + 1 },
    renderer.paint view panel, there, ?_, ?_, rfl, ?_, ?_⟩
  · rw [paint?, cleared]
    rw [drawRows?_eq blank, paint, cleared]
  · rw [PanelRenderer.draw, there]
  · rw [clear_paint, cleared]
  · intro x y left above
    have start : (allocate settings.width settings.height).get? x y = some dark := by
      rw [← clear_allocate]
      exact get?_clear blank left above
    rw [picture, get?_drawRows blank left above, start, lights_iff, UInt32.toNat_zero]
    split
    next lights => exact .inl ⟨rfl, lights⟩
    next unlit => exact .inr ⟨rfl, unlit⟩

/-- Drawing works until the teardown, whatever has been drawn before, and lights exactly the points that
belong to the view. Neither earlier frames nor rows and columns that do not fit show in the picture. -/
theorem draw_lights {settings : DisplaySettings} (valid : settings.validate = .ok ()) :
    (∃ fresh, ofSettings settings = .ok fresh) ∧ (∃ fresh, inMemory settings = .ok fresh) ∧
      ∀ fresh, ofSettings settings = .ok fresh ∨ inMemory settings = .ok fresh →
        ∀ calls : List Call, .teardown ∉ calls → ∀ view : View,
          let renderer := calls.foldl serve fresh
          ∃ panel drawn picture, renderer.picture = some panel ∧ renderer.paint? view panel = some picture ∧
            renderer.draw view = .ok drawn ∧ drawn.picture = some picture ∧
            picture.width = settings.width ∧ picture.height = settings.height ∧
            picture.pixels.size = settings.width.toNat * settings.height.toNat ∧
            (∀ pixel ∈ picture.pixels, pixel = 0 ∨ pixel = 255) ∧
            ∀ x y : UInt32, x < settings.width → y < settings.height →
              (picture.get? x y = some 255 ↔ settings.Lights view x.toNat y.toNat) := by
  obtain ⟨stored, madeStored, storedSuits⟩ := ofSettings_suits valid
  obtain ⟨unstored, madeUnstored, unstoredSuits⟩ := inMemory_suits valid
  refine ⟨⟨stored, madeStored⟩, ⟨unstored, madeUnstored⟩, ?_⟩
  intro fresh made calls frames view renderer
  have start : Suits settings fresh := by
    rcases made with made | made
    · exact Except.ok.inj (madeStored.symm.trans made) ▸ storedSuits
    · exact Except.ok.inj (madeUnstored.symm.trans made) ▸ unstoredSuits
  obtain ⟨panel, drawn, picture, there, guarded, drawing, painted, cleared, pixels⟩ := (start.serve_all frames).draw view
  have same : picture.clear = (allocate settings.width settings.height).clear := by rw [cleared, clear_allocate]
  have sized := (sized_allocate settings.width settings.height).of_clear same
  have width : picture.width = settings.width := width_of_clear same
  have height : picture.height = settings.height := height_of_clear same
  refine ⟨panel, drawn, picture, there, guarded, drawing, painted, width, height, ?_, ?_, ?_⟩
  · rw [← width, ← height]
    exact sized
  · intro pixel member
    obtain ⟨x, y, left, above, found⟩ := sized.exists_point member
    rw [width] at left
    rw [height] at above
    rcases pixels x y left above with ⟨shown, _⟩ | ⟨shown, _⟩
    · exact .inr (Option.some.inj (found.symm.trans shown))
    · exact .inl (Option.some.inj (found.symm.trans shown))
  · intro x y left above
    rcases pixels x y left above with ⟨shown, lights⟩ | ⟨shown, unlit⟩
    · exact iff_of_true shown lights
    · refine iff_of_false ?_ unlit
      rw [shown]
      decide

section Crowded

private def crowded : DisplaySettings :=
  { width := 7, height := 4, viewport := 2, lineHeight := 2, glyphWidth := 2, glyphHeight := 3 }

private def listing (labels : List String) : View :=
  { node := 0
    title := "Menu"
    depth := 0
    items := labels.zipIdx.map fun (label, index) => { label := label, selected := index == 0, hasChildren := false } }

theorem draw_lights_crowded :
    ∃ fresh, ofSettings crowded = .ok fresh ∧
      ∃ drawn picture,
        ([.draw (listing ["full", "full"]), .render (listing ["full"]) {}].foldl serve fresh).draw
            (listing ["a b", "c", "d"]) = .ok drawn ∧
          drawn.picture = some picture ∧ picture.get? 4 2 = some 255 ∧ picture.get? 6 3 ≠ some 255 := by
  have valid : crowded.validate = .ok () := rfl
  obtain ⟨⟨fresh, made⟩, -, draws⟩ := draw_lights valid
  have frames : Call.teardown ∉ [.draw (listing ["full", "full"]), .render (listing ["full"]) {}] := by simp
  obtain ⟨_, drawn, picture, _, _, drawing, painted, _, _, _, _, pixels⟩ :=
    draws fresh (.inl made) _ frames (listing ["a b", "c", "d"])
  refine ⟨fresh, made, drawn, picture, drawing, painted, ?_, ?_⟩
  · rw [pixels 4 2 (by decide) (by decide)]
    decide +kernel
  · rw [ne_eq, pixels 6 3 (by decide) (by decide)]
    decide +kernel

end Crowded

end PanelRenderer
end PanelMenu
