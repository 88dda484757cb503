import PanelMenu.Proofs.BuildGrowth
import PanelMenu.Proofs.Bystanders
import PanelMenu.Proofs.PanelPicture
import PanelMenu.Session.Renderer

/-! What a session leaves in the file of a panel. The panel shares the session with other observers,
of which all that matters is what they do to the files. -/

namespace PanelMenu

/-- Observers some of which are panels. -/
class PanelHost (O : Type) extends Observer O World where
  panel : PanelRenderer → O
  render_panel : ∀ view renderer world, Observer.render view (panel renderer) world =
    { observer := panel (renderer.render view world.files).1
      world := { world with files := (renderer.render view world.files).2.1 }
      failure := (renderer.render view world.files).2.2 }
  teardown_panel : ∀ renderer world, Observer.teardown (panel renderer) world =
    { observer := panel renderer.teardown, world := world }

instance : PanelHost Renderer where
  panel := .panel
  render_panel _ _ _ := rfl
  teardown_panel _ _ := rfl

/-- Relative to one working directory, what can be read at a path stays as it is. -/
def Files.Spares (start : Files.Place) (path : String) (files later : Files) : Prop :=
  files.workingPlace = start →
    later.workingPlace = start ∧ ∀ bytes, files.read path = .ok bytes → later.read path = .ok bytes

namespace Files.Spares
variable {start : Files.Place} {path : String}

theorem refl (files : Files) : Spares start path files files :=
  fun working => ⟨working, fun _ read => read⟩

theorem trans {files between later : Files} (first : Spares start path files between)
    (second : Spares start path between later) : Spares start path files later := by
  intro working
  obtain ⟨working, kept⟩ := first working
  obtain ⟨working, still⟩ := second working
  exact ⟨working, fun bytes read => still bytes (kept bytes read)⟩

end Files.Spares

def Sign.complaintOf? (place : Nat) : Sign → Option Complaint
  | .asked seat _ answer => if seat = place then answer else none
  | .reported _ => none

section Shown
variable {O : Type} [PanelHost O] {sink : Sink World} {start : Files.Place} {path : String} {harmless : O → Prop}
  {place : Nat} {fresh : PanelRenderer}

/-- Among harmless observers there is a panel that may have drawn, but has not been torn down. -/
def PanelRenderer.InPlace (fresh : PanelRenderer) (start : Files.Place) (harmless : O → Prop) (place : Nat)
    (observers : List O) (world : World) : Prop :=
  world.files.workingPlace = start ∧
    ∃ panel : PanelRenderer, panel.reset = fresh.reset ∧ Seated harmless place (PanelHost.panel panel) observers

def Files.Stores (start : Files.Place) (path : String) (bytes : List UInt8) (files : Files) : Prop :=
  files.workingPlace = start ∧ files.read path = .ok bytes

theorem Files.Stores.spared {files later : Files} {bytes : List UInt8} (stores : files.Stores start path bytes)
    (spares : Spares start path files later) : later.Stores start path bytes := by
  obtain ⟨working, kept⟩ := spares stores.1
  exact ⟨working, kept bytes stores.2⟩

def PanelRenderer.ShownAt (fresh : PanelRenderer) (view : View) (path : String) (files : Files) : Prop :=
  ∃ drawn picture, fresh.draw view = .ok drawn ∧ drawn.picture = some picture ∧
    files.read path = .ok (Bitmap.encode picture)

section Fair
variable (bystanders : Bystanders (Files.Spares start path) harmless) (reports : sink.Fair (Files.Spares start path))
include bystanders reports

theorem PanelRenderer.inPlace_invariant :
    sink.Invariant fun observers : List O => fresh.InPlace start harmless place observers := by
  refine ⟨?told, ?drawn⟩
  case told =>
    rintro event observers world ⟨working, panel⟩
    exact ⟨(reports event world working).1, panel⟩
  case drawn =>
    rintro view observers world ⟨working, panel, alike, seated⟩
    obtain ⟨reached, before, panels, after, -⟩ :=
      bystanders.asked_seated .refl .trans reports (.frame view) seated world
    simp only [Request.ask, PanelHost.render_panel] at panels after
    refine ⟨?_, _, (panel.render_reset view reached.files).trans alike, panels⟩
    refine (after ?_).1
    exact (panel.render_workingPlace view reached.files).trans (before working).1

theorem PanelRenderer.InPlace.redraw {progress : Progress O World} {blank : Framebuffer}
    (inPlace : progress.Has (fresh.InPlace start harmless place)) (stored : fresh.output = some path)
    (ready : fresh.picture = some blank)
    (success : ∀ answer, (progress.answers sink (.frame progress.navigator.view))[place]? = some answer →
      answer = none) :
    ∃ drawn picture, fresh.draw progress.navigator.view = .ok drawn ∧ drawn.picture = some picture ∧
      (progress.redraw sink).world.files.Stores start path (Bitmap.encode picture) := by
  obtain ⟨working, panel, alike, seated⟩ := inPlace
  have drawing : ∃ drawn, fresh.draw progress.navigator.view = .ok drawn := by simp [PanelRenderer.draw, ready]
  obtain ⟨drawn, drawing⟩ := drawing
  obtain ⟨again, picture, redrawing, painted, repainted⟩ := PanelRenderer.draw_alike alike.symm drawing
  have output : panel.output = some path := (congrArg PanelRenderer.output alike).trans stored
  obtain ⟨reached, before, -, after, answer⟩ :=
    bystanders.asked_seated .refl .trans reports (.frame progress.navigator.view) seated progress.world
  have silent := success _ answer
  have written := PanelRenderer.render_write output redrawing repainted reached.files
  simp only [Request.ask, PanelHost.render_panel, written, Drawn.complaint, Option.map_eq_none_iff] at silent after
  refine ⟨drawn, picture, drawing, painted, ?_⟩
  have stores : (reached.files.write path (Bitmap.encode picture)).1.Stores start path (Bitmap.encode picture) := by
    refine ⟨?_, Files.read_write silent⟩
    rw [(reached.files.write_keeps path _).workingPlace_eq]
    exact (before working).1
  rw [Progress.redraw, Progress.askAll_eq]
  exact stores.spared after

theorem PanelRenderer.InPlace.concluded {progress : Progress O World} {bytes : List UInt8}
    (inPlace : progress.Has (fresh.InPlace start harmless place))
    (stores : progress.world.files.Stores start path bytes) (outcome : Except MenuError EndReason) :
    (progress.concluded sink outcome).world.files.Stores start path bytes := by
  obtain ⟨_, panel, _, seated⟩ := inPlace
  obtain ⟨reached, before, -, after, -⟩ :=
    bystanders.asked_seated .refl .trans reports .teardown seated progress.world
  simp only [Request.ask, PanelHost.teardown_panel] at after
  let holds : List O → World → Prop := fun _ world => world.files.Stores start path bytes
  have kept : progress.Has holds := stores
  apply kept.concluded
  · intro event _ world stores
    exact stores.spared (reports event world)
  · intro stores
    exact (stores.spared before).spared after

/-- A session leaves the panel's last frame in its file, and that frame shows where the session ended. -/
theorem PanelRenderer.InPlace.run {navigator : Navigator} {observers : List O} {world : World} {blank : Framebuffer}
    (inPlace : fresh.InPlace start harmless place observers world) (running : navigator.terminated = false)
    (stored : fresh.output = some path) (ready : fresh.picture = some blank) (source : InputSource)
    (success : ∀ answer, ((Progress.opened sink navigator observers world).answersAfter sink
      (source.pending.take (navigator.lasting source.pending)))[place]? = some answer → answer = none) :
    let run := runSession sink source navigator observers world
    fresh.ShownAt run.navigator.view path run.world.files := by
  intro run
  let opened := Progress.opened sink navigator observers world
  let last := opened.played sink (source.pending.take (navigator.lasting source.pending))
  have invariant : sink.Invariant fun observers : List O => fresh.InPlace start harmless place observers :=
    PanelRenderer.inPlace_invariant bystanders reports
  have openedInPlace : opened.Has (fresh.InPlace start harmless place) := invariant.told _ _ _ inPlace
  have lastInPlace : last.Has (fresh.InPlace start harmless place) := invariant.played openedInPlace _
  have view : last.navigator.view = run.navigator.view := by
    rw [(runSession_folds sink source navigator observers world).navigator_eq, Progress.played_navigator]
    exact Navigator.view_lasting running source.pending
  obtain ⟨drawn, picture, drawing, painted, stores⟩ :=
    PanelRenderer.InPlace.redraw bystanders reports lastInPlace stored ready success
  refine ⟨drawn, picture, view ▸ drawing, painted, ?_⟩
  have exhausted : (Progress.exhausted sink navigator source.pending observers world).world.files.Stores start path
      (Bitmap.encode picture) := by
    rw [Progress.exhausted_eq running]
    cases source.pending[navigator.lasting source.pending]? with
    | none => exact stores
    | some input =>
      let holds : List O → World → Prop := fun _ world => world.files.Stores start path (Bitmap.encode picture)
      have kept : (last.redraw sink).Has holds := stores
      apply kept.advance
      intro event _ world stores
      exact stores.spared (reports event world)
  have concluded := PanelRenderer.InPlace.concluded bystanders reports
    (invariant.exhausted inPlace navigator source.pending) exhausted (navigator.outcome source)
  have finished := runSession_eq sink source navigator observers world
  exact (congrArg (fun run => run.world.files.read path) finished).trans concluded.2

end Fair
end Shown

theorem Bystanders.or_fileless {O : Type} [PanelHost O] {fair : Files → Files → Prop} {harmless : O → Prop}
    (refl : ∀ files, fair files files) (bystanders : Bystanders fair harmless) :
    Bystanders fair fun observer =>
      harmless observer ∨ ∃ panel : PanelRenderer, panel.output = none ∧ observer = PanelHost.panel panel := by
  constructor
  case stays =>
    rintro request observer world (other | ⟨panel, fileless, rfl⟩)
    · exact .inl (bystanders.stays request observer world other)
    · cases request with
      | frame view =>
        rw [Request.ask, PanelHost.render_panel]
        exact .inr ⟨_, (panel.render_output view world.files).trans fileless, rfl⟩
      | teardown =>
        rw [Request.ask, PanelHost.teardown_panel]
        exact .inr ⟨panel.teardown, fileless, rfl⟩
  case fair =>
    rintro request observer world (other | ⟨panel, fileless, rfl⟩)
    · exact bystanders.fair request observer world other
    · cases request with
      | frame view =>
        rw [Request.ask, PanelHost.render_panel, PanelRenderer.render_files fileless]
        exact refl world.files
      | teardown =>
        rw [Request.ask, PanelHost.teardown_panel]
        exact refl world.files

def Renderer.Avoids (start : Files.Place) (path : String) : Renderer → Prop
  | .panel renderer => ∀ other, renderer.output = some other → ∀ files : Files, files.workingPlace = start →
    files.target path ≠ files.target other
  | .text | .screen _ | .records _ => True

theorem Renderer.bystanders (start : Files.Place) (path : String) :
    Bystanders (Files.Spares start path) (Renderer.Avoids start path) := by
  constructor
  case stays =>
    intro request renderer world avoids
    cases renderer with
    | text | screen columns | records raw => cases request <;> trivial
    | panel renderer =>
      cases request with
      | frame view =>
        intro other stored
        exact avoids other ((renderer.render_output view world.files).symm.trans stored)
      | teardown => exact avoids
  case fair =>
    intro request renderer world avoids
    cases renderer with
    | text | screen columns | records raw => cases request <;> exact .refl world.files
    | panel renderer =>
      cases request with
      | teardown => exact .refl world.files
      | frame view =>
        change Files.Spares start path world.files (renderer.render view world.files).2.1
        rcases renderer.render_keeps view world.files with same | ⟨other, stored, keeps⟩
        · rw [same]
          exact .refl world.files
        · intro working
          refine ⟨keeps.workingPlace_eq.trans working, ?_⟩
          intro bytes read
          exact keeps.read_ok (avoids other stored world.files working) read

/-- A panel with a file is never behind: when a session is over, the file holds what a fresh panel draws of
the last state, and everyone's last frame shows that state too. A panel without a file touches none, however
many sessions there are: what all others leave as it is stays as it is. -/
theorem PanelRenderer.never_behind {settings : DisplaySettings} (valid : settings.validate = .ok ()) {O : Type}
    [PanelHost O] (before after : List O) (harmless : O → Prop) (others : ∀ other ∈ before ++ after, harmless other)
    (world : World) :
    ∃ fresh, ofSettings settings = .ok fresh ∧
      let observers := before ++ PanelHost.panel fresh :: after
      (∀ (sink : Sink World) (source : InputSource) (navigator : Navigator), navigator.terminated = false →
        let run := runSession sink source navigator observers world
        let signs := (runSession sink.watched source navigator (Watched.all 0 observers) { world := world }).world.signs
        (∀ place < observers.length, ∃ frames,
          signs.filterMap (Sign.requestOf? place) = frames ++ [.frame run.navigator.view, .teardown]) ∧
        (settings.enabled = true →
          Bystanders (Files.Spares world.files.workingPlace settings.output) harmless →
          sink.Fair (Files.Spares world.files.workingPlace settings.output) →
          signs.filterMap (Sign.complaintOf? before.length) = [] →
          fresh.ShownAt run.navigator.view settings.output run.world.files)) ∧
      (settings.enabled = false → ∀ (fair : Files → Files → Prop) (sittings : List Sitting),
        (∀ files, fair files files) →
        (∀ {files between later}, fair files between → fair between later → fair files later) →
        Bystanders fair harmless → (∀ sitting ∈ sittings, sitting.sink.Fair fair) →
        fair world.files (sittings.foldl Sitting.hold (observers, world)).2.files) := by
  obtain ⟨fresh, blank, made, unused, ready, output⟩ := ofSettings_ok valid
  refine ⟨fresh, made, ?_, ?_⟩
  · intro sink source navigator running run signs
    refine ⟨fun place seated => requestOf_last_frame sink source running _ world seated, ?_⟩
    intro enabled bystanders reports success
    have stored : fresh.output = some settings.output := output.trans (if_pos enabled)
    have inPlace : fresh.InPlace world.files.workingPlace harmless before.length
        (before ++ PanelHost.panel fresh :: after) world :=
      ⟨rfl, fresh, rfl, before, after, rfl, rfl, others⟩
    apply inPlace.run bystanders reports running stored ready source
    intro answer given
    have silent := List.filterMap_eq_nil_iff.mp success _ (mem_signs_lasting sink source running _ world given)
    rwa [Sign.complaintOf?, if_pos rfl] at silent
  · intro disabled fair sittings refl trans bystanders reports
    have fileless : fresh.output = none := by rw [output, disabled, if_neg Bool.false_ne_true]
    obtain ⟨first, last⟩ := List.forall_mem_append.mp others
    refine (bystanders.or_fileless refl).hold_all refl trans ?_ world reports
    rw [List.forall_mem_append, List.forall_mem_cons]
    exact ⟨fun other member => .inl (first other member), .inr ⟨fresh, fileless, rfl⟩,
      fun other member => .inl (last other member)⟩

section Demo

private def tiny : DisplaySettings := { width := 4, height := 2, viewport := 2, lineHeight := 1, glyphHeight := 1 }

private def spare : PanelRenderer :=
  { picture := some (.allocate 1 1), viewport := 1, lineHeight := 1, glyph := ⟨1, 1⟩, output := some "spare.bmp" }

private def demoSource : InputSource := { pending := [.down, .commit, .back, .back, .up], ending := .closed }

/-- A tiny panel between text and another panel, back out of the demo menu; and twice without a file. -/
theorem PanelRenderer.never_behind_in_demo :
    ∃ navigator, Navigator.build { policy := .announcing } .demo = .ok navigator ∧
      (∃ fresh, ofSettings tiny = .ok fresh ∧
        let run := runSession (Journal.records false).sink demoSource navigator
          [Renderer.text, .panel fresh, .panel spare] {}
        fresh.ShownAt run.navigator.view tiny.output run.world.files) ∧
      ∃ fresh, ofSettings { tiny with enabled := false } = .ok fresh ∧
        let sitting : Sitting := { sink := (Journal.records false).sink, source := demoSource, navigator := navigator }
        let state := [sitting, sitting].foldl Sitting.hold ([Renderer.text, .panel fresh], {})
        {} = state.2.files := by
  have valid : tiny.validate = .ok () := rfl
  have alsoValid : { tiny with enabled := false }.validate = .ok () := rfl
  have elsewhere : Renderer.Avoids [] tiny.output (.panel spare) := by
    intro path stored files working
    obtain rfl : "spare.bmp" = path := Option.some.inj stored
    have start : ∀ path, files.startOf path = [] := by simp [Files.startOf, working]
    rw [Files.target, Files.target, start, start]
    decide +kernel
  have others : ∀ renderer ∈ [Renderer.text] ++ [.panel spare], renderer.Avoids [] tiny.output :=
    List.forall_mem_cons.mpr ⟨trivial, List.forall_mem_singleton.mpr elsewhere⟩
  have spares : Sink.Fair (Files.Spares [] tiny.output) (Journal.records false).sink := by
    intro event world
    rw [Journal.sink_files]
    exact .refl world.files
  have texts : ∀ renderer ∈ [Renderer.text] ++ [], renderer = .text := by simp
  have quiet : Bystanders Eq fun renderer : Renderer => renderer = .text := by
    constructor
    · rintro request _ world rfl
      cases request <;> rfl
    · rintro request _ world rfl
      cases request <;> rfl
  have silent : ((Navigator.build { policy := .announcing } .demo).toOption.bind fun navigator =>
      (ofSettings tiny).toOption.map fun fresh =>
        (runSession (Journal.records false).sink.watched demoSource navigator
          (Watched.all 0 [Renderer.text, .panel fresh, .panel spare]) { world := {} }).world.signs.filterMap
            (Sign.complaintOf? 1)) = some [] := by
    decide +kernel
  obtain ⟨navigator, built⟩ : ∃ navigator, Navigator.build { policy := .announcing } .demo = .ok navigator :=
    ⟨_, rfl⟩
  obtain ⟨shower, made, shown, _⟩ := never_behind valid [Renderer.text] [.panel spare] _ others {}
  obtain ⟨blind, alsoMade, _, untouched⟩ := never_behind alsoValid [Renderer.text] [] _ texts {}
  rw [built, made] at silent
  refine ⟨navigator, built, ⟨shower, made, ?_⟩, ⟨blind, alsoMade, ?_⟩⟩
  · have running := (Navigator.fresh_of_build built).running
    exact (shown _ demoSource navigator running).2 rfl (Renderer.bystanders _ _) spares (Option.some.inj silent)
  · refine untouched rfl Eq _ (fun _ => rfl) Eq.trans quiet ?_
    rintro sitting member event world
    obtain rfl | rfl := List.mem_pair.mp member
    all_goals exact ((Journal.records false).sink_files event world).symm

end Demo
end PanelMenu
