import PanelMenu.Panel.Renderer
import PanelMenu.Proofs.FileWriting

/-! What a panel shows and stores depends on the last view alone. Drawing changes pixels and nothing else
of a panel, so clearing it undoes every picture; and every picture begins with that. -/

namespace PanelMenu

namespace Framebuffer

@[simp] theorem clear_clear (panel : Framebuffer) : panel.clear.clear = panel.clear := by
  simp [clear]

@[simp] theorem clear_allocate (width height : UInt32) : (allocate width height).clear = allocate width height := by
  simp [clear, allocate]

theorem size_paintRun (value : UInt8) (start count : Nat) (pixels : Array UInt8) :
    (paintRun value start count pixels).size = pixels.size := by
  unfold paintRun
  apply List.foldlRecOn (motive := fun painted : Array UInt8 => painted.size = pixels.size)
  · rfl
  · intro painted same index _
    rw [Array.size_setIfInBounds, same]

@[simp] theorem clear_fill (panel : Framebuffer) (x y width height : UInt32) (value : UInt8) :
    (panel.fill x y width height value).clear = panel.clear := by
  have sizes : (panel.fill x y width height value).pixels.size = panel.pixels.size := by
    unfold fill
    apply List.foldlRecOn (motive := fun painted : Array UInt8 => painted.size = panel.pixels.size)
    · rfl
    · intro painted same row _
      rw [size_paintRun, same]
  rw [clear, clear, sizes]
  rfl

@[simp] theorem clear_drawFrom (glyph : GlyphBox) (y : UInt32) (panel : Framebuffer) (cursor : UInt32)
    (text : List Char) : (drawFrom glyph y panel cursor text).clear = panel.clear := by
  induction text generalizing panel cursor with
  | nil => rfl
  | cons c rest ih =>
    rw [drawFrom]
    split
    · rfl
    · rw [ih]
      split
      · rfl
      · exact panel.clear_fill _ _ _ _ _

@[simp] theorem clear_drawText (panel : Framebuffer) (x y : UInt32) (text : String) (glyph : GlyphBox) :
    (panel.drawText x y text glyph).clear = panel.clear := by
  rw [drawText]
  split
  · rfl
  · exact clear_drawFrom glyph y panel x _

end Framebuffer

namespace PanelRenderer

theorem clear_drawRows (glyph : GlyphBox) (lineHeight y : UInt32) (panel : Framebuffer) (items : List View.Item) :
    (drawRows glyph lineHeight y panel items).clear = panel.clear := by
  induction items generalizing panel y with
  | nil => rfl
  | cons item rest ih =>
    rw [drawRows]
    split
    · rfl
    · rw [ih, Framebuffer.clear_drawText]

theorem clear_paint (renderer : PanelRenderer) (view : View) (panel : Framebuffer) :
    (renderer.paint view panel).clear = panel.clear := by
  rw [paint, clear_drawRows, Framebuffer.clear_clear]

/-- A renderer as it was before its first frame, unless it has been torn down. -/
def reset (renderer : PanelRenderer) : PanelRenderer :=
  { renderer with picture := renderer.picture.map Framebuffer.clear, frames := 0 }

theorem paint_reset (renderer : PanelRenderer) (view : View) (panel : Framebuffer) :
    renderer.reset.paint view panel.clear = renderer.paint view panel := by
  rw [paint, Framebuffer.clear_clear]
  rfl

theorem draw_reset {renderer drawn : PanelRenderer} {view : View} (ok : renderer.draw view = .ok drawn) :
    drawn.reset = renderer.reset := by
  unfold draw at ok
  cases picture : renderer.picture with
  | none =>
    rw [picture] at ok
    cases ok
  | some panel =>
    rw [picture] at ok
    obtain rfl := Except.ok.inj ok
    simp only [reset, picture, Option.map_some, clear_paint]

theorem draw_output {renderer drawn : PanelRenderer} {view : View} (ok : renderer.draw view = .ok drawn) :
    drawn.output = renderer.output := by
  change drawn.reset.output = renderer.reset.output
  rw [draw_reset ok]

/-- Two renderers that began alike draw the same picture of a view, whatever each has drawn before. -/
theorem draw_alike {renderer other drawn : PanelRenderer} {view : View} (alike : renderer.reset = other.reset)
    (ok : renderer.draw view = .ok drawn) :
    ∃ again picture, other.draw view = .ok again ∧ drawn.picture = some picture ∧ again.picture = some picture := by
  have pictures := congrArg PanelRenderer.picture alike
  simp only [reset] at pictures
  unfold draw at ok ⊢
  cases first : renderer.picture with
  | none =>
    rw [first] at ok
    cases ok
  | some panel =>
    rw [first, Option.map_some] at pictures
    obtain ⟨blank, second, same⟩ := Option.map_eq_some_iff.mp pictures.symm
    rw [first] at ok
    obtain rfl := Except.ok.inj ok
    rw [second]
    refine ⟨_, _, rfl, rfl, ?_⟩
    rw [← paint_reset renderer, alike, ← same, paint_reset]

theorem render_reset (renderer : PanelRenderer) (view : View) (files : Files) :
    (renderer.render view files).1.reset = renderer.reset := by
  cases drawing : renderer.draw view with
  | error fault => simp only [render, drawing]
  | ok drawn =>
    have same := draw_reset drawing
    simp only [render, drawing]
    split <;> exact same

theorem render_files {renderer : PanelRenderer} (fileless : renderer.output = none) (view : View) (files : Files) :
    (renderer.render view files).2.1 = files := by
  cases drawing : renderer.draw view with
  | error fault => simp only [render, drawing]
  | ok drawn =>
    have without := (draw_output drawing).trans fileless
    simp only [render, drawing, without]

/-- A renderer with a file writes its picture there at every frame, and that can be all that fails. -/
theorem render_write {renderer drawn : PanelRenderer} {view : View} {path : String} {picture : Framebuffer}
    (stored : renderer.output = some path) (ok : renderer.draw view = .ok drawn)
    (painted : drawn.picture = some picture) (files : Files) :
    renderer.render view files =
      (drawn, (files.write path (Bitmap.encode picture)).1,
        (files.write path (Bitmap.encode picture)).2.map .files) := by
  have output := (draw_output ok).trans stored
  simp only [render, ok, output, painted]

/-- A renderer does nothing to the files but to write its own. -/
theorem render_keeps (renderer : PanelRenderer) (view : View) (files : Files) :
    (renderer.render view files).2.1 = files ∨
      ∃ path, renderer.output = some path ∧ Files.Keeps (files.target path) files (renderer.render view files).2.1 := by
  cases stored : renderer.output with
  | none => exact .inl (render_files stored view files)
  | some path =>
    cases drawing : renderer.draw view with
    | error fault => exact .inl (by simp only [render, drawing])
    | ok drawn =>
      obtain ⟨_, picture, _, painted, _⟩ := draw_alike rfl drawing
      refine .inr ⟨path, rfl, ?_⟩
      rw [render_write stored drawing painted]
      exact files.write_keeps path _

theorem render_output (renderer : PanelRenderer) (view : View) (files : Files) :
    (renderer.render view files).1.output = renderer.output := by
  change (renderer.render view files).1.reset.output = renderer.reset.output
  rw [render_reset]

theorem render_workingPlace (renderer : PanelRenderer) (view : View) (files : Files) :
    (renderer.render view files).2.1.workingPlace = files.workingPlace := by
  rcases renderer.render_keeps view files with same | ⟨path, _, keeps⟩
  · rw [same]
  · exact keeps.workingPlace_eq

theorem ofSettings_ok {settings : DisplaySettings} (valid : settings.validate = .ok ()) :
    ∃ fresh panel, ofSettings settings = .ok fresh ∧ fresh.reset = fresh ∧ fresh.picture = some panel ∧
      fresh.output = if settings.enabled then some settings.output else none := by
  refine ⟨_, .allocate settings.width settings.height, by rw [ofSettings, valid]; rfl, ?_, rfl, rfl⟩
  simp [reset]

end PanelRenderer
end PanelMenu
