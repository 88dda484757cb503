import PanelMenu.Program
import PanelMenu.Proofs.PanelPicture
import PanelMenu.Proofs.Registrations
import PanelMenu.Proofs.SessionOutput

/-! The program when it is given a script. Whether it succeeds is settled before anything is navigated or
drawn, and whatever goes wrong later is only reported. What it then writes to its output is known from the
menu and the script. -/

namespace PanelMenu

namespace Text

def Closed (text : List Char) : Prop :=
  text = [] ∨ ∃ front, text = front ++ ['\n']

theorem Closed.append {text rest : List Char} (first : Closed text) (last : Closed rest) : Closed (text ++ rest) := by
  rcases last with rfl | ⟨front, rfl⟩
  · rwa [List.append_nil]
  · exact .inr ⟨text ++ front, (List.append_assoc _ _ _).symm⟩

theorem closed_flatMap {α : Type} {part : α → List Char} (each : ∀ item, Closed (part item)) (items : List α) :
    Closed (items.flatMap part) := by
  induction items with
  | nil => exact .inl rfl
  | cons item rest ih =>
    rw [List.flatMap_cons]
    exact (each item).append ih

theorem linesFrom_feed (pending front rest : List Char) :
    linesFrom pending (front ++ '\n' :: rest) = linesFrom pending (front ++ ['\n']) ++ lines rest := by
  induction front generalizing pending with
  | nil => rfl
  | cons c front ih =>
    by_cases feed : c = '\n'
    · subst feed
      simp only [List.cons_append, linesFrom, ih]
    · simp only [List.cons_append, linesFrom, ih]

theorem Closed.lines_append {text : List Char} (closed : Closed text) (rest : List Char) :
    lines (text ++ rest) = lines text ++ lines rest := by
  rcases closed with rfl | ⟨front, rfl⟩
  · rfl
  · rw [List.append_assoc, List.singleton_append]
    exact linesFrom_feed [] front rest

end Text

theorem View.closed_consoleFrame (view : View) (columns : Option Nat) :
    Text.Closed (view.consoleFrame columns false).toList := by
  rw [consoleFrame, String.toList_join, List.flatMap_map]
  apply Text.closed_flatMap
  intro line
  exact .inr ⟨line.toList, String.toList_append⟩

namespace Navigator
variable (navigator : Navigator) (inputs : List Input)

def ending : EndReason :=
  if navigator.leaves inputs then .backAtRoot else .inputClosed

theorem build_announcing {registry : Registry} (announcing : registry.policy = .announcing) (spec : MenuSpec) :
    ∃ navigator, build registry spec = .ok navigator := by
  obtain ⟨tree, grown⟩ := Tree.build_announcing announcing spec
  rw [build, grown]
  exact ⟨_, rfl⟩

theorem outcome_closed : navigator.outcome { pending := inputs } = .ok (navigator.ending inputs) := by
  rw [outcome, ending]
  split <;> rfl

def textFrames : List String :=
  (List.range (navigator.rounds inputs)).map fun index =>
    (navigator.after (inputs.take index)).view.consoleFrame none false

/-- An output that consists of records: the start, then a frame before what each input that was heard led to
and one more if there were no more inputs, then the end. All of them can be read back. -/
def Recorded (output : String) : Prop :=
  ∃ complaints, let records := navigator.records inputs complaints (navigator.ending inputs)
    output = .ofList (Record.stream false records) ∧ Record.readAll? output.toList = some records ∧
      navigator.rounds inputs = (navigator.heard inputs).length + if navigator.leaves inputs then 0 else 1

theorem closed_textFrames : Text.Closed (String.join (navigator.textFrames inputs)).toList := by
  rw [textFrames, String.toList_join, List.flatMap_map]
  exact Text.closed_flatMap (fun _ => View.closed_consoleFrame _ _) _

end Navigator

namespace Program

/-- An output that shows some texts and ends with an empty line and a farewell. -/
def Dismissed (frames : List String) (output : String) : Prop :=
  output = String.join frames ++ "\nExited the menu system.\n" ∧
    ∃ before, Text.lines output.toList = before ++ ["".toList, "Exited the menu system.".toList]

theorem dismissed_of_closed {frames : List String} (closed : Text.Closed (String.join frames).toList) :
    Dismissed frames (String.join frames ++ "\nExited the menu system.\n") := by
  refine ⟨rfl, Text.lines (String.join frames).toList, ?_⟩
  rw [String.toList_append, closed.lines_append]
  rfl

/-- What a session needs, and gets unless a file is missing or makes no sense. -/
structure Ready (options : Options) (situation : Situation) (settings : Settings) (spec : MenuSpec)
    (navigator : Navigator) : Prop where
  resolved : ∃ warnings, Settings.resolve options situation.files situation.environment situation.workingDirectory
    situation.userDirectory = .ok (settings, warnings)
  valid : settings.display.validate = .ok ()
  menu : menu options situation.files = .ok spec
  built : Navigator.build { policy := .announcing } spec = .ok navigator

def Startable (options : Options) (situation : Situation) : Prop :=
  (∃ settings warnings, Settings.resolve options situation.files situation.environment situation.workingDirectory
      situation.userDirectory = .ok (settings, warnings) ∧ settings.display.validate = .ok ()) ∧
    ∀ path, options.menu = some path → ∃ spec, MenuSpec.load situation.files path = .ok spec

theorem menu_iff {options : Options} {files : Files} :
    (∃ spec, menu options files = .ok spec) ↔
      ∀ path, options.menu = some path → ∃ spec, MenuSpec.load files path = .ok spec := by
  rw [menu]
  cases options.menu with
  | none => simp
  | some path => simp

private theorem announcing : ({ policy := .announcing } : Registry).policy = .announcing := rfl

/-- Every menu can be built, whatever its names stand for. -/
theorem startable_iff {options : Options} {situation : Situation} :
    Startable options situation ↔ ∃ settings spec navigator, Ready options situation settings spec navigator := by
  rw [Startable, ← menu_iff]
  constructor
  · rintro ⟨⟨settings, warnings, resolved, valid⟩, spec, menu⟩
    obtain ⟨navigator, built⟩ := Navigator.build_announcing announcing spec
    exact ⟨settings, spec, navigator, ⟨warnings, resolved⟩, valid, menu, built⟩
  · rintro ⟨settings, spec, _, ⟨warnings, resolved⟩, valid, menu, _⟩
    exact ⟨⟨settings, warnings, resolved, valid⟩, spec, menu⟩

abbrev Preparation.ofScript (script : String) (settings : Settings) (navigator : Navigator)
    (renderers : List Renderer) : Preparation where
  settings := settings
  navigator := navigator
  renderers := renderers
  source := { pending := Input.ofScript script }
  columns := none

section Scripted
variable {options : Options} {situation : Situation} {script : String} {settings : Settings} {spec : MenuSpec}
  {navigator : Navigator}

theorem prepare_eq (scripted : options.keys = some script) (chosen : menu options situation.files = .ok spec)
    (built : Navigator.build { policy := .announcing } spec = .ok navigator) :
    prepare options situation settings =
      ((renderers settings options.json none).mapError .menu).map (.ofScript script settings navigator) := by
  simp only [prepare, chosen, built, scripted, Except.mapError, bind, Except.bind, pure, Except.pure, Except.map]

theorem prepare_ready (scripted : options.keys = some script)
    (ready : Ready options situation settings spec navigator) :
    ∃ panel, prepare options situation settings =
      .ok (.ofScript script settings navigator (outputRenderer settings options.json none ++ [.panel panel])) := by
  obtain ⟨panel, _, made, _⟩ := PanelRenderer.ofSettings_ok ready.valid
  rw [prepare_eq scripted ready.menu ready.built, renderers, made]
  exact ⟨panel, rfl⟩

theorem prepare_unready (scripted : options.keys = some script)
    (unready : ∀ spec, menu options situation.files = .ok spec → settings.display.validate ≠ .ok ()) :
    ∃ fault, prepare options situation settings = .error fault := by
  cases chosen : menu options situation.files with
  | error cause =>
    rw [prepare, chosen]
    exact ⟨_, rfl⟩
  | ok spec =>
    obtain ⟨navigator, built⟩ := Navigator.build_announcing announcing spec
    rw [prepare_eq scripted chosen built, renderers, PanelRenderer.ofSettings]
    cases valid : settings.display.validate with
    | ok => exact absurd valid (unready spec chosen)
    | error fault => exact ⟨_, rfl⟩

theorem farewell_output (settings : Settings) (summary : Summary) (world : World) :
    (farewell settings summary world).output = world.output ++ "\nExited the menu system.\n" := by
  rw [farewell]
  split <;> split <;> rfl

theorem play_ofScript (options : Options) (script : String) (settings : Settings) (navigator : Navigator)
    (renderers : List Renderer) (world : World) :
    let run := runSession (journal settings.output.verbosity options.json false).sink
      { pending := Input.ofScript script } navigator renderers world
    let outcome := play options (.ofScript script settings navigator renderers) world
    outcome.code = 0 ∧ outcome.world.output =
      if options.json then run.world.output else run.world.output ++ "\nExited the menu system.\n" := by
  intro run outcome
  obtain ⟨summary, ended⟩ : ∃ summary, run.result = .ok summary := by
    change ∃ summary, (runSession _ _ _ _ _).result = .ok summary
    rw [runSession_eq, Progress.run, Navigator.outcome_closed]
    exact ⟨_, rfl⟩
  have played : outcome =
      { code := 0, world := if options.json then run.world else farewell settings summary run.world } := by
    change play options (.ofScript script settings navigator renderers) world = _
    simp only [play, Option.isSome_none, Bool.false_eq_true, if_false]
    rw [ended]
  rw [played]
  refine ⟨rfl, ?_⟩
  cases options.json with
  | true => rfl
  | false => exact farewell_output settings summary run.world

/-- When all is ready the script is played out. Warnings are told before that, but not on the output. -/
theorem run_ready (accepted : Options.ofArguments situation.arguments = .ok options)
    (scripted : options.keys = some script) (ready : Ready options situation settings spec navigator) :
    (run situation).code = 0 ∧ ∃ panel warned, warned.output = "" ∧
      let run := runSession (journal settings.output.verbosity options.json false).sink
        { pending := Input.ofScript script } navigator (outputRenderer settings options.json none ++ [.panel panel]) warned
      (Program.run situation).world.output =
        if options.json then run.world.output else run.world.output ++ "\nExited the menu system.\n" := by
  obtain ⟨panel, prepared⟩ := prepare_ready scripted ready
  obtain ⟨warnings, resolved⟩ := ready.resolved
  let warned := World.write { files := situation.files } (String.join (warnings.map Warning.text)) .errors
  have played := play_ofScript options script settings navigator
    (outputRenderer settings options.json none ++ [.panel panel]) warned
  have ran : run situation = play options
      (.ofScript script settings navigator (outputRenderer settings options.json none ++ [.panel panel])) warned := by
    rw [run, accepted]
    simp only [obey, resolved, prepared, warned]
  rw [← ran] at played
  exact ⟨played.1, panel, warned, rfl, played.2⟩

theorem run_unready (accepted : Options.ofArguments situation.arguments = .ok options)
    (scripted : options.keys = some script) (unready : ¬ Startable options situation) :
    (run situation).code = 1 ∧ (run situation).world.output = "" ∧
      (run situation).world.files = situation.files := by
  rw [run, accepted]
  simp only [obey]
  cases resolved : Settings.resolve options situation.files situation.environment situation.workingDirectory
    situation.userDirectory with
  | error cause => exact ⟨rfl, rfl, rfl⟩
  | ok result =>
    obtain ⟨settings, warnings⟩ := result
    have unready : ∀ spec, menu options situation.files = .ok spec → settings.display.validate ≠ .ok () := by
      intro spec chosen valid
      exact unready ⟨⟨settings, warnings, resolved, valid⟩, menu_iff.mp ⟨spec, chosen⟩⟩
    obtain ⟨fault, prepared⟩ := prepare_unready scripted unready
    simp only [prepared]
    exact ⟨rfl, rfl, rfl⟩

theorem recorded_of_ready (accepted : Options.ofArguments situation.arguments = .ok options)
    (scripted : options.keys = some script) (json : options.json = true)
    (ready : Ready options situation settings spec navigator) :
    navigator.Recorded (Input.ofScript script) (run situation).world.output := by
  obtain ⟨_, panel, warned, blank, output⟩ := run_ready accepted scripted ready
  obtain ⟨complaints, records⟩ := runSession_records { pending := Input.ofScript script } navigator panel warned false
    (navigator.outcome_closed _)
  rw [json] at output
  have written : (run situation).world.output = .ofList (Record.stream false
      (navigator.records (Input.ofScript script) complaints (navigator.ending (Input.ofScript script)))) := by
    refine output.trans (records.trans ?_)
    rw [blank, String.empty_append]
  refine ⟨complaints, written, ?_, navigator.rounds_eq _⟩
  rw [written, String.toList_ofList]
  exact Record.readAll?_stream false _

theorem runSession_console (settings : Settings) (navigator : Navigator) (panel : PanelRenderer) (inputs : List Input)
    (world : World) :
    (runSession (journal settings.output.verbosity false false).sink { pending := inputs } navigator
      (outputRenderer settings false none ++ [.panel panel]) world).world.output =
        world.output ++ String.join (if settings.output.console then navigator.textFrames inputs else []) := by
  have elsewhere : ∀ event, (journal settings.output.verbosity false false).printed event = "" := fun _ => rfl
  rw [outputRenderer, if_neg Bool.false_ne_true]
  cases settings.output.console with
  | false => exact (runSession_silent _ navigator panel world elsewhere).trans String.append_empty.symm
  | true => exact (runSession_frames _ navigator panel world .text elsewhere).trans String.append_empty

theorem dismissed_of_ready (accepted : Options.ofArguments situation.arguments = .ok options)
    (scripted : options.keys = some script) (plain : options.json = false)
    (ready : Ready options situation settings spec navigator) :
    Dismissed (if settings.output.console then navigator.textFrames (Input.ofScript script) else [])
      (run situation).world.output := by
  obtain ⟨_, panel, warned, blank, output⟩ := run_ready accepted scripted ready
  simp only [plain, Bool.false_eq_true, if_false, runSession_console, blank, String.empty_append] at output
  rw [output]
  apply dismissed_of_closed
  split
  · exact navigator.closed_textFrames _
  · exact .inl rfl

/-- What becomes of a script. -/
structure Replays (options : Options) (situation : Situation) (script : String) (outcome : Outcome) : Prop where
  succeeds_iff : outcome.code = 0 ↔ Startable options situation
  untouched : outcome.code ≠ 0 →
    outcome.code = 1 ∧ outcome.world.output = "" ∧ outcome.world.files = situation.files
  ready : outcome.code = 0 → ∃ settings spec navigator, Ready options situation settings spec navigator
  recorded : options.json = true → ∀ settings spec navigator, Ready options situation settings spec navigator →
    navigator.Recorded (Input.ofScript script) outcome.world.output
  dismissed : options.json = false → ∀ settings spec navigator, Ready options situation settings spec navigator →
    Dismissed (if settings.output.console then navigator.textFrames (Input.ofScript script) else [])
      outcome.world.output

/-- A script succeeds if and only if the settings and the menu can be read and the panel can be drawn on. It
fails before it shows or stores anything; no input, no name in the menu and no frame that goes wrong makes it
fail later. -/
theorem run_replays (accepted : Options.ofArguments situation.arguments = .ok options)
    (scripted : options.keys = some script) : Replays options situation script (run situation) := by
  have succeeds_iff : (run situation).code = 0 ↔ Startable options situation := by
    constructor
    · intro success
      by_contra unready
      rw [(run_unready accepted scripted unready).1] at success
      cases success
    · intro startable
      obtain ⟨settings, spec, navigator, ready⟩ := startable_iff.mp startable
      exact (run_ready accepted scripted ready).1
  constructor
  case succeeds_iff => exact succeeds_iff
  case untouched => exact fun failure => run_unready accepted scripted (mt succeeds_iff.mpr failure)
  case ready => exact fun success => startable_iff.mp (succeeds_iff.mp success)
  case recorded => exact fun json _ _ _ ready => recorded_of_ready accepted scripted json ready
  case dismissed => exact fun plain _ _ _ ready => dismissed_of_ready accepted scripted plain ready

end Scripted

theorem demo_replays :
    (∃ options, Options.ofArguments ["--keys", "dcb", "--json"] = .ok options ∧
      Startable options { arguments := ["--keys", "dcb", "--json"] } ∧
      Replays options { arguments := ["--keys", "dcb", "--json"] } "dcb"
        (run { arguments := ["--keys", "dcb", "--json"] })) ∧
    ∃ options, Options.ofArguments ["-k", "u", "-m", "a"] = .ok options ∧
      ¬ Startable options { arguments := ["-k", "u", "-m", "a"] } ∧
      Replays options { arguments := ["-k", "u", "-m", "a"] } "u" (run { arguments := ["-k", "u", "-m", "a"] }) := by
  have recorded : Options.ofArguments ["--keys", "dcb", "--json"] = .ok { keys := some "dcb", json := true } := rfl
  have stranded : Options.ofArguments ["-k", "u", "-m", "a"] = .ok { keys := some "u", menu := some "a" } := rfl
  refine ⟨⟨_, recorded, ?_, run_replays recorded rfl⟩, ⟨_, stranded, ?_, run_replays stranded rfl⟩⟩
  · exact ⟨⟨_, _, rfl, rfl⟩, nofun⟩
  · rintro ⟨_, loads⟩
    obtain ⟨spec, loaded⟩ := loads "a" rfl
    have missing : MenuSpec.load {} "a" = .error (.files .notFound) := rfl
    rw [missing] at loaded
    cases loaded

end Program

end PanelMenu
