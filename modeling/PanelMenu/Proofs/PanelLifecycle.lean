import PanelMenu.Proofs.FileWriting
import PanelMenu.Proofs.PanelPixels

/-! A panel from its making to its teardown and beyond. Until then it draws whatever it is asked to and counts
its frames, stored or not. After that it refuses. Its file changes by nothing but a frame that could be
stored, and then holds the picture. A frame that could not be stored leaves the last picture in place. -/

namespace PanelMenu
namespace Files
variable {files later : Files} {path : String} {bytes : List UInt8}

/-- The bytes of the file that a path leads to, if there is one. -/
def content? (files : Files) (path : String) : Option (List UInt8) :=
  match files.entry? (files.target path) with
  | some (.file bytes) => some bytes
  | _ => none

theorem content?_eq_some_iff :
    files.content? path = some bytes ↔ files.entry? (files.target path) = some (.file bytes) := by
  rw [content?]
  split
  next found => simp [found]
  next other => exact iff_of_false nofun (other bytes)

theorem content?_of_read (read : files.read path = .ok bytes) : files.content? path = some bytes :=
  content?_eq_some_iff.mpr (find_file_iff.mp (read_iff.mp read)).2

/-- No file is different later, and all that could be read still can. -/
structure Untouched (files later : Files) : Prop where
  content : ∀ path, later.content? path = files.content? path
  read : ∀ path bytes, files.read path = .ok bytes → later.read path = .ok bytes

theorem Untouched.refl (files : Files) : Untouched files files :=
  ⟨fun _ => rfl, fun _ _ => id⟩

theorem Widened.untouched (widened : Widened files later) : Untouched files later := by
  refine ⟨?_, ?_⟩
  · intro path
    apply Option.ext
    intro bytes
    rw [content?_eq_some_iff, content?_eq_some_iff, widened.target_eq, widened.file_iff]
  · intro path bytes read
    exact (widened.keeps (files.target path ++ [""])).read_ok (by simp) read

end Files

namespace PanelRenderer

structure Bench where
  renderer : PanelRenderer
  files : Files

/-- What happens to a bench. Others may leave any files between two requests, and anything in the way of the writes
to come, so a picture can fail to be stored at any time. -/
inductive Act
  | draw (view : View)
  | render (view : View)
  | teardown
  | disturbed (files : Files)

def Act.isFrame : Act → Bool
  | draw _ | render _ => true
  | teardown | disturbed _ => false

def shown (renderer : PanelRenderer) (view : View) (panel : Framebuffer) : PanelRenderer :=
  { renderer with picture := some (renderer.paint view panel), frames := renderer.frames + 1 }

theorem draw_shown {renderer : PanelRenderer} {panel : Framebuffer} (there : renderer.picture = some panel)
    (view : View) : renderer.draw view = .ok (renderer.shown view panel) := by
  rw [draw, there]
  rfl

namespace Bench

def perform (bench : Bench) : Act → Bench × Option MenuError
  | .draw view =>
    match bench.renderer.draw view with
    | .ok drawn => ({ bench with renderer := drawn }, none)
    | .error fault => (bench, some (.invalidDisplay fault))
  | .render view =>
    let (renderer, files, failure) := bench.renderer.render view bench.files
    ({ renderer := renderer, files := files }, failure)
  | .teardown => ({ bench with renderer := bench.renderer.teardown }, none)
  | .disturbed files => ({ bench with files := files }, none)

def after (bench : Bench) (acts : List Act) : Bench :=
  acts.foldl (fun bench act => (bench.perform act).1) bench

theorem after_concat (bench : Bench) (acts : List Act) (act : Act) :
    bench.after (acts ++ [act]) = ((bench.after acts).perform act).1 := List.foldl_append

section Requests
variable {bench : Bench} {panel : Framebuffer} {path : String}

theorem perform_draw (there : bench.renderer.picture = some panel) (view : View) :
    bench.perform (.draw view) = ({ bench with renderer := bench.renderer.shown view panel }, none) := by
  rw [perform, draw_shown there]

theorem perform_unstored (there : bench.renderer.picture = some panel) (fileless : bench.renderer.output = none)
    (view : View) :
    bench.perform (.render view) = ({ bench with renderer := bench.renderer.shown view panel }, none) := by
  have output : (bench.renderer.shown view panel).output = none := fileless
  simp only [perform, render, draw_shown there, output]

theorem perform_stored (there : bench.renderer.picture = some panel) (stored : bench.renderer.output = some path)
    (view : View) :
    let written := bench.files.write path (Bitmap.encode (bench.renderer.paint view panel))
    bench.perform (.render view) =
      ({ renderer := bench.renderer.shown view panel, files := written.1 }, written.2.map .files) := by
  rw [perform, render_write stored (draw_shown there view) rfl]

theorem perform_refused (gone : bench.renderer.picture = none) {act : Act} (frame : act.isFrame = true) :
    bench.perform act = (bench, some (.invalidDisplay .tornDown)) := by
  have refused : ∀ view, bench.renderer.draw view = .error .tornDown := by
    intro view
    rw [draw, gone]
  cases act with
  | draw view => rw [perform, refused]
  | render view => simp only [perform, render, refused]
  | teardown | disturbed => cases frame

theorem perform_teardown (gone : bench.renderer.picture = none) : bench.perform .teardown = (bench, none) := by
  rw [perform, teardown, ← gone]

theorem output_perform (bench : Bench) (act : Act) :
    (bench.perform act).1.renderer.output = bench.renderer.output := by
  cases act with
  | draw view =>
    rw [perform]
    split
    next drawing => exact draw_output drawing
    next => rfl
  | render view => exact bench.renderer.render_output view bench.files
  | teardown | disturbed => rfl

end Requests

theorem output_after (bench : Bench) (acts : List Act) :
    (bench.after acts).renderer.output = bench.renderer.output := by
  apply List.foldlRecOn (motive := fun later : Bench => later.renderer.output = bench.renderer.output)
  · rfl
  · intro later same act _
    rw [output_perform, same]

/-- The panel has its configured size, a frame fails if it could not be stored and for no other reason, and all are
counted. -/
structure Working (settings : DisplaySettings) (acts : List Act) (bench : Bench) : Prop where
  panel : ∃ panel, bench.renderer.picture = some panel ∧ panel.width = settings.width ∧ panel.height = settings.height
  frames : bench.renderer.frames = acts.countP Act.isFrame
  draw : ∀ view, (bench.perform (.draw view)).2 = none
  render : ∀ view, ∃ panel, (bench.perform (.render view)).1.renderer.picture = some panel ∧
    (bench.perform (.render view)).2 =
      (bench.renderer.output.bind fun path => (bench.files.write path (Bitmap.encode panel)).2).map .files

/-- There is no panel any more, and no request does anything. -/
structure Retired (bench : Bench) : Prop where
  panel : bench.renderer.picture = none
  draw : ∀ view, bench.perform (.draw view) = (bench, some (.invalidDisplay .tornDown))
  render : ∀ view, bench.perform (.render view) = (bench, some (.invalidDisplay .tornDown))
  teardown : bench.perform .teardown = (bench, none)

/-- The file of a renderer changes by nothing but a frame without an error, and then holds the picture. If there is an
error, no file changes at all. -/
structure Filed (output : Option String) (bench : Bench) : Prop where
  draw : ∀ view, (bench.perform (.draw view)).1.files = bench.files
  teardown : (bench.perform .teardown).1.files = bench.files
  unstored : output = none → ∀ view, (bench.perform (.render view)).1.files = bench.files
  stored : ∀ path, output = some path → ∀ view, (bench.perform (.render view)).2 = none →
    ∃ panel, (bench.perform (.render view)).1.renderer.picture = some panel ∧
      (bench.perform (.render view)).1.files.content? path = some (Bitmap.encode panel) ∧
      (bench.perform (.render view)).1.files.read path = .ok (Bitmap.encode panel)
  refused : ∀ view, (bench.perform (.render view)).2 ≠ none →
    Files.Untouched bench.files (bench.perform (.render view)).1.files

structure AtWork (settings : DisplaySettings) (acts : List Act) (bench : Bench) : Prop where
  suits : Suits settings bench.renderer
  frames : bench.renderer.frames = acts.countP Act.isFrame

variable {settings : DisplaySettings} {acts : List Act} {bench : Bench}

theorem AtWork.perform (atWork : bench.AtWork settings acts) {act : Act} (running : act ≠ .teardown) :
    (bench.perform act).1.AtWork settings (acts ++ [act]) := by
  obtain ⟨panel, there, _⟩ := Option.map_eq_some_iff.mp atWork.suits.panel
  have drawn : ∀ view, Suits settings (bench.renderer.shown view panel) :=
    fun view => atWork.suits.of_reset (draw_reset (draw_shown there view))
  have counted : bench.renderer.frames + 1 = acts.countP Act.isFrame + 1 := congrArg (· + 1) atWork.frames
  cases act with
  | draw view =>
    rw [perform_draw there]
    refine ⟨drawn view, ?_⟩
    rw [List.countP_append]
    exact counted
  | render view =>
    have same : (bench.perform (.render view)).1.renderer = bench.renderer.shown view panel := by
      cases stored : bench.renderer.output with
      | none => rw [perform_unstored there stored]
      | some path => rw [perform_stored there stored]
    refine ⟨same ▸ drawn view, ?_⟩
    rw [same, List.countP_append]
    exact counted
  | teardown => exact absurd rfl running
  | disturbed files =>
    refine ⟨atWork.suits, ?_⟩
    rw [List.countP_append]
    exact atWork.frames

theorem AtWork.after {fresh : Bench} (start : fresh.AtWork settings []) (running : .teardown ∉ acts) :
    (fresh.after acts).AtWork settings acts := by
  induction acts using List.reverseRecOn with
  | nil => exact start
  | append_singleton acts act ih =>
    rw [List.mem_append, not_or] at running
    rw [after_concat]
    apply (ih running.1).perform
    rintro rfl
    exact running.2 (List.mem_singleton_self _)

theorem AtWork.working (atWork : bench.AtWork settings acts) : bench.Working settings acts := by
  obtain ⟨panel, there, cleared⟩ := Option.map_eq_some_iff.mp atWork.suits.panel
  have blank := cleared.trans (Framebuffer.clear_allocate settings.width settings.height).symm
  refine ⟨⟨panel, there, Framebuffer.width_of_clear blank, Framebuffer.height_of_clear blank⟩, atWork.frames, ?_, ?_⟩
  · intro view
    rw [perform_draw there]
  · intro view
    refine ⟨bench.renderer.paint view panel, ?_⟩
    cases stored : bench.renderer.output with
    | none =>
      rw [perform_unstored there stored]
      exact ⟨rfl, rfl⟩
    | some path =>
      rw [perform_stored there stored]
      exact ⟨rfl, rfl⟩

theorem retired (gone : bench.renderer.picture = none) : bench.Retired :=
  ⟨gone, fun _ => perform_refused gone rfl, fun _ => perform_refused gone rfl, perform_teardown gone⟩

theorem picture_perform {act : Act} (gone : bench.renderer.picture = none ∨ act = .teardown) :
    (bench.perform act).1.renderer.picture = none := by
  rcases gone with gone | rfl
  · cases act with
    | draw | render => rw [perform_refused gone rfl, gone]
    | teardown => rfl
    | disturbed => exact gone
  · rfl

theorem picture_after (fresh : Bench) (ended : .teardown ∈ acts) : (fresh.after acts).renderer.picture = none := by
  induction acts using List.reverseRecOn with
  | nil => cases ended
  | append_singleton acts act ih =>
    rw [after_concat]
    apply picture_perform
    rcases List.mem_append.mp ended with earlier | last
    · exact .inl (ih earlier)
    · exact .inr (List.mem_singleton.mp last).symm

theorem filed (bench : Bench) : bench.Filed bench.renderer.output := by
  cases there : bench.renderer.picture with
  | none =>
    have refused := (retired there).render
    refine ⟨?_, rfl, ?_, ?_, ?_⟩
    · intro view
      rw [(retired there).draw]
    · intro _ view
      rw [refused]
    · intro _ _ view ok
      rw [refused] at ok
      cases ok
    · intro view _
      rw [refused]
      exact .refl bench.files
  | some panel =>
    refine ⟨?_, rfl, ?_, ?_, ?_⟩
    · intro view
      rw [perform_draw there]
    · intro fileless view
      rw [perform_unstored there fileless]
    · intro path stored view ok
      rw [perform_stored there stored] at ok ⊢
      have read := Files.read_write (Option.map_eq_none_iff.mp ok)
      exact ⟨_, rfl, Files.content?_of_read read, read⟩
    · intro view failed
      cases stored : bench.renderer.output with
      | none =>
        rw [perform_unstored there stored]
        exact .refl bench.files
      | some path =>
        rw [perform_stored there stored] at failed ⊢
        exact (Files.write_failed fun ok => failed (Option.map_eq_none_iff.mpr ok)).untouched

end Bench

theorem ofSettings_made {settings : DisplaySettings} (valid : settings.validate = .ok ()) :
    ∃ fresh, ofSettings settings = .ok fresh ∧ Suits settings fresh ∧ fresh.frames = 0 ∧
      fresh.output = if settings.enabled then some settings.output else none := by
  obtain ⟨fresh, made, suits⟩ := ofSettings_suits valid
  refine ⟨fresh, made, suits, ?_⟩
  rw [ofSettings, valid] at made
  obtain rfl := Except.ok.inj made
  exact ⟨rfl, rfl⟩

/-- Whatever is asked of a panel and whatever becomes of its file in between. -/
theorem lifecycle {settings : DisplaySettings} (valid : settings.validate = .ok ()) :
    ∃ stored unstored, ofSettings settings = .ok stored ∧ inMemory settings = .ok unstored ∧
      stored.output = (if settings.enabled then some settings.output else none) ∧ unstored.output = none ∧
      ∀ fresh, fresh = stored ∨ fresh = unstored → ∀ files acts,
        let bench := Bench.after ⟨fresh, files⟩ acts
        (.teardown ∉ acts → bench.Working settings acts) ∧ (.teardown ∈ acts → bench.Retired) ∧
          bench.Filed fresh.output := by
  obtain ⟨stored, made, suits, frames, output⟩ := ofSettings_made valid
  have withoutFile : Suits settings { stored with output := none } :=
    ⟨suits.viewport, suits.lineHeight, suits.glyph, suits.panel⟩
  refine ⟨stored, { stored with output := none }, made, by rw [inMemory, made]; rfl, output, rfl, ?_⟩
  intro fresh which files acts bench
  have start : Bench.AtWork settings [] ⟨fresh, files⟩ := by
    rcases which with rfl | rfl
    · exact ⟨suits, frames⟩
    · exact ⟨withoutFile, frames⟩
  refine ⟨fun running => (start.after running).working, fun ended => Bench.retired (Bench.picture_after _ ended), ?_⟩
  have filed := bench.filed
  rwa [Bench.output_after] at filed

section Blocked

private def pair (marked : Bool) : View :=
  { node := 0
    title := "Pair"
    depth := 0
    items := ["left", "right"].map fun label =>
      { label := label, selected := (label == "left") == marked, hasChildren := false } }

private def denied : Files.Fault := .other "Permission denied (os error 13)"

private def awaiting : Files := { obstacles := [none, some (.move denied)] }

private theorem write_awaiting (bytes : List UInt8) : awaiting.write "oled.bmp" bytes =
    ({ entries := [(["oled.bmp"], .file bytes)], obstacles := [some (.move denied)] }, none) := by
  rfl

private theorem write_denied (first second : List UInt8) :
    ((awaiting.write "oled.bmp" first).1.write "oled.bmp" second).2 = some denied := by
  rw [write_awaiting]
  rfl

/-- A second picture could not be moved to the place of the first, which is still there. Its frame is counted, and
after the teardown not even that. -/
theorem lifecycle_blocked :
    ∃ fresh picture, ofSettings {} = .ok fresh ∧
      let bench := Bench.after ⟨fresh, awaiting⟩ [.render (pair true)]
      let next := bench.perform (.render (pair false))
      bench.files.read "oled.bmp" = .ok picture ∧ next.2 = some (.files denied) ∧
        next.1.files.read "oled.bmp" = .ok picture ∧ next.1.renderer.frames = 2 ∧
        (bench.after [.teardown, .draw (pair true)]).Retired := by
  have valid : DisplaySettings.validate {} = .ok () := rfl
  obtain ⟨fresh, _, made, _, output, _, lives⟩ := lifecycle valid
  have life := lives fresh (.inl rfl) awaiting
  let bench := Bench.after ⟨fresh, awaiting⟩ [.render (pair true)]
  obtain ⟨panel, there, -⟩ := ((life []).1 (by simp)).panel
  have files : bench.files = (awaiting.write "oled.bmp" (Bitmap.encode (fresh.paint (pair true) panel))).1 :=
    congrArg (fun result => result.1.files) (Bench.perform_stored there output (pair true))
  have failed : (bench.perform (.render (pair false))).2 = some (.files denied) := by
    obtain ⟨second, -, failure⟩ := ((life [.render (pair true)]).1 (by simp)).render (pair false)
    refine failure.trans ?_
    rw [Bench.output_after, output]
    exact congrArg (Option.map MenuError.files) (files ▸ write_denied _ (Bitmap.encode second))
  have read : bench.files.read "oled.bmp" = .ok (Bitmap.encode (fresh.paint (pair true) panel)) := by
    rw [files]
    exact Files.read_write (write_awaiting _ ▸ rfl)
  have untouched := (life [.render (pair true)]).2.2.refused (pair false) (failed ▸ Option.some_ne_none _)
  refine ⟨fresh, _, made, read, failed, untouched.read _ _ read, ?_, ?_⟩
  · exact ((life [.render (pair true), .render (pair false)]).1 (by simp)).frames
  · exact (life [.render (pair true), .teardown, .draw (pair true)]).2.1 (by simp)

end Blocked

end PanelRenderer
end PanelMenu
