import PanelMenu.Proofs.RecordStream
import PanelMenu.Proofs.SessionInvariant

/-! What a session of the program writes to its output. Every renderer has something to say to each request,
whether it fails or not, and the journal to each event. The output is all of that in the order of the signs,
so it can be read off the inputs. -/

namespace PanelMenu

/-- What a renderer writes when it is asked for something. -/
def Renderer.printed : Renderer → Request → String
  | text, .frame view => view.consoleFrame none false
  | screen columns, .frame view => clearScreen ++ view.consoleFrame (some columns) true
  | screen _, .teardown => clearScreen
  | records raw, .frame view => recordLine raw view.frame
  | text, .teardown | records _, .teardown | panel _, _ => ""

def Journal.printed : Journal → Event → String
  | records raw, event => recordLine raw event.record
  | lines verbosity raw .output, event => event.logged verbosity raw
  | lines _ _ .errors, _ | none, _ => ""

/-- What appears at a sign, when the observer at each place has something of its own to say. -/
def Sign.printed (journal : Journal) (voices : List (Request → String)) : Sign → String
  | .asked place request _ => match voices[place]? with
    | some voice => voice request
    | none => ""
  | .reported event => journal.printed event

theorem Renderer.ask_output (request : Request) (renderer : Renderer) (world : World) :
    (request.ask renderer world).world.output = world.output ++ renderer.printed request := by
  cases request with
  | frame view =>
    cases renderer with
    | text | screen _ | records _ => rfl
    | panel _ => exact (String.append_empty).symm
  | teardown =>
    cases renderer with
    | screen _ => rfl
    | text | records _ | panel _ => exact (String.append_empty).symm

theorem Renderer.ask_printed (request : Request) (renderer : Renderer) (world : World) :
    (request.ask renderer world).observer.printed = renderer.printed := by
  cases request <;> cases renderer <;> rfl

theorem Renderer.teardown_silent (renderer : Renderer) (world : World) :
    (Request.teardown.ask renderer world).complaint = none := by
  cases renderer <;> rfl

theorem Journal.sink_output (journal : Journal) (event : Event) (world : World) :
    (journal.sink event world).output = world.output ++ journal.printed event := by
  cases journal with
  | none => exact (String.append_empty).symm
  | records raw => rfl
  | lines verbosity raw stream =>
    cases stream with
    | output => rfl
    | errors => exact (String.append_empty).symm

section Asking
variable (journal : Journal) (request : Request)

theorem Asked.of_printed (observers : List Renderer) (world : World) :
    (Asked.of journal.sink request.ask observers world).observers.map Renderer.printed =
      observers.map Renderer.printed := by
  induction observers generalizing world with
  | nil => rfl
  | cons observer rest ih => simp only [Asked.of, List.map_cons, ih, Renderer.ask_printed]

theorem Asked.of_output (before : List (Request → String)) (observers : List Renderer) (world : World) :
    let asked := Asked.of journal.sink request.ask observers world
    asked.world.output = world.output ++ String.join ((request.signs before.length asked.answers).map
      (Sign.printed journal (before ++ observers.map Renderer.printed))) := by
  induction observers generalizing before world with
  | nil => exact (String.append_empty).symm
  | cons observer rest ih =>
    have later := ih (before ++ [observer.printed])
    rw [List.length_append, List.length_singleton] at later
    rw [List.map_cons, List.append_cons]
    simp only [Asked.of, Request.signs_cons, List.map_append, List.map_cons, String.join_append, String.join_cons, later]
    rw [← List.append_cons, ← String.append_assoc]
    congr 1
    cases answer : (request.ask observer world).complaint with
    | none => simp [Sign.printed, Renderer.ask_output]
    | some complaint => simp [Sign.printed, Renderer.ask_output, Journal.sink_output, String.append_assoc]

end Asking

section Session
variable (journal : Journal)

/-- The voices stay, and the output holds what they and the journal had to say so far. -/
def Watching.Prints (start : String) (voices : List (Request → String)) (observers : List (Watched Renderer))
    (watching : Watching World) : Prop :=
  ∃ renderers, observers = Watched.all 0 renderers ∧ renderers.map Renderer.printed = voices ∧
    watching.world.output = start ++ String.join (watching.signs.map (Sign.printed journal voices))

theorem Watching.Prints.asked {start : String} {voices : List (Request → String)} {observers : List (Watched Renderer)}
    {watching : Watching World} (prints : watching.Prints journal start voices observers) (request : Request) :
    let asked := Asked.of journal.sink.watched request.ask observers watching
    asked.world.Prints journal start voices asked.observers := by
  obtain ⟨renderers, rfl, rfl, output⟩ := prints
  rw [Asked.of_watched]
  refine ⟨_, rfl, Asked.of_printed journal request renderers watching.world, ?_⟩
  have grown := Asked.of_output journal request [] renderers watching.world
  rw [List.nil_append, List.length_nil] at grown
  rw [List.map_append, String.join_append, ← String.append_assoc, ← output]
  exact grown

theorem Watching.prints_invariant (start : String) (voices : List (Request → String)) :
    journal.sink.watched.Invariant fun observers watching => watching.Prints journal start voices observers := by
  refine ⟨?told, ?drawn⟩
  case told =>
    rintro event _ watching ⟨renderers, rfl, rfl, output⟩
    refine ⟨renderers, rfl, rfl, ?_⟩
    simp [Sink.watched, Journal.sink_output, output, Sign.printed, String.append_assoc]
  case drawn => exact fun view observers watching prints => prints.asked journal (.frame view)

variable (source : InputSource) (navigator : Navigator) (renderers : List Renderer) (world : World)

theorem runSession_watched_world :
    (runSession journal.sink.watched source navigator (Watched.all 0 renderers) { world := world }).world.world =
      (runSession journal.sink source navigator renderers world).world := by
  rw [runSession_eq, runSession_eq, Progress.watched_finished]
  rfl

/-- The output of a session, from its signs. -/
theorem runSession_output :
    (runSession journal.sink source navigator renderers world).world.output = world.output ++
      String.join ((runSession journal.sink.watched source navigator (Watched.all 0 renderers)
        { world := world }).world.signs.map (Sign.printed journal (renderers.map Renderer.printed))) := by
  have initial : Watching.Prints journal world.output (renderers.map Renderer.printed) (Watched.all 0 renderers)
      { world := world } := ⟨renderers, rfl, rfl, (String.append_empty).symm⟩
  have invariant := Watching.prints_invariant journal world.output (renderers.map Renderer.printed)
  obtain ⟨_, _, _, output⟩ :=
    invariant.run initial (fun _ _ prints => prints.asked journal .teardown) source navigator
  rw [← runSession_watched_world, output]

end Session

theorem join_map_filterMap {α β : Type} (pick : α → Option β) {text : α → String} {shown : β → String}
    (each : ∀ item, text item = match pick item with
      | some picked => shown picked
      | none => "") (items : List α) :
    String.join (items.map text) = String.join ((items.filterMap pick).map shown) := by
  induction items with
  | nil => rfl
  | cons item rest ih =>
    rw [List.map_cons, String.join_cons, ih, each, List.filterMap_cons]
    cases pick item with
    | none => exact String.empty_append
    | some picked => rw [List.map_cons, String.join_cons]

def Sign.record? : Sign → Option Record
  | .asked 0 (.frame view) _ => some (.frame view)
  | .asked _ _ _ => none
  | .reported event => some (.event event)

section Front
variable (panel : PanelRenderer) (signs : List Sign)

theorem join_printed_panel {journal : Journal} (elsewhere : ∀ event, journal.printed event = "") :
    String.join (signs.map (Sign.printed journal ([.panel panel].map Renderer.printed))) = "" := by
  have silent : ∀ sign : Sign, sign.printed journal ([.panel panel].map Renderer.printed) = "" := by
    intro sign
    match sign with
    | .asked 0 _ _ | .asked (_ + 1) _ _ => rfl
    | .reported event => exact elsewhere event
  induction signs with
  | nil => rfl
  | cons sign rest ih => rw [List.map_cons, String.join_cons, ih, silent, String.append_empty]

theorem join_printed_requests (front : Renderer) {journal : Journal} (elsewhere : ∀ event, journal.printed event = "") :
    String.join (signs.map (Sign.printed journal ([front, .panel panel].map Renderer.printed))) =
      String.join ((signs.filterMap (Sign.requestOf? 0)).map front.printed) := by
  apply join_map_filterMap
  intro sign
  match sign with
  | .asked 0 _ _ | .asked 1 _ _ | .asked (_ + 2) _ _ => rfl
  | .reported event => exact elsewhere event

/-- With the records of the frames in front and those of the events between them, all is one stream. -/
theorem join_printed_records (raw : Bool) :
    String.join (signs.map (Sign.printed (.records raw) ([.records raw, .panel panel].map Renderer.printed))) =
      .ofList (Record.stream raw (signs.filterMap Sign.record?)) := by
  have lines : String.join (signs.map (Sign.printed (.records raw) ([.records raw, .panel panel].map Renderer.printed))) =
      String.join ((signs.filterMap Sign.record?).map fun record => .ofList (record.json.print ++ Record.lineEnd raw)) := by
    apply join_map_filterMap
    intro sign
    match sign with
    | .asked 0 (.frame view) _ => exact Record.line_eq raw (.frame view)
    | .asked 0 .teardown _ | .asked 1 (.frame _) _ | .asked 1 .teardown _ | .asked (_ + 2) _ _ => rfl
    | .reported event => exact Record.line_eq raw (.event event)
  rw [lines]
  apply String.toList_injective
  simp [Record.stream, String.toList_join, List.flatMap_map]

end Front

namespace Navigator
variable (navigator : Navigator) (inputs : List Input) (complaints : Nat → List Complaint)

def roundRecords (index : Nat) : List Record :=
  .frame (navigator.after (inputs.take index)).view ::
    ((complaints index).map Complaint.event ++ navigator.reports inputs index).map .event

/-- The records of a session, from its start to its end. There is one frame in each round. -/
def records (reason : EndReason) : List Record :=
  .event navigator.opening ::
      (List.range (navigator.rounds inputs)).flatMap (navigator.roundRecords inputs complaints) ++
    [.event (.sessionEnded reason (navigator.heard inputs).length)]

end Navigator

theorem Sign.reported_record (events : List Event) :
    (events.map Sign.reported).filterMap Sign.record? = events.map .event := by
  simp [List.filterMap_map, Function.comp_def, Sign.record?]

section Records
variable {answers : List (Option Complaint)}

theorem Request.signs_record (request : Request) (first : Nat) :
    (request.signs (first + 1) answers).filterMap Sign.record? =
      ((answers.filterMap id).map Complaint.event).map .event := by
  induction answers generalizing first with
  | nil => rfl
  | cons answer rest ih =>
    rw [Request.signs_cons, List.filterMap_append, ih]
    cases answer <;> rfl

theorem Request.frameSigns_record (view : View) (asked : answers ≠ []) :
    (Request.signs (.frame view) 0 answers).filterMap Sign.record? =
      .frame view :: ((answers.filterMap id).map Complaint.event).map .event := by
  cases answers with
  | nil => exact absurd rfl asked
  | cons answer rest =>
    rw [Request.signs_cons, List.filterMap_append, Request.signs_record]
    cases answer <;> rfl

theorem Request.teardownSigns_record (silent : ∀ answer ∈ answers, answer = none) :
    (Request.signs .teardown 0 answers).filterMap Sign.record? = [] := by
  have quiet : answers.filterMap id = [] := List.filterMap_eq_nil_iff.mpr silent
  cases answers with
  | nil => rfl
  | cons answer rest =>
    obtain rfl := silent answer List.mem_cons_self
    rw [Request.signs_cons, List.filterMap_append, Request.signs_record, ← List.filterMap_cons_none (f := id) rfl, quiet]
    rfl

end Records

theorem Navigator.transcript_record {navigator : Navigator} {source : InputSource} {summary : Summary}
    {answers : List Input → List (Option Complaint)} {farewells : List (Option Complaint)}
    (asked : ∀ read, answers read ≠ []) (silent : ∀ answer ∈ farewells, answer = none)
    (steps : summary.steps = (navigator.heard source.pending).length) :
    (navigator.transcript source answers farewells (.ok summary)).filterMap Sign.record? =
      navigator.records source.pending (fun index => (answers (source.pending.take index)).filterMap id)
        summary.reason := by
  have each : ∀ index, (navigator.roundSigns source.pending answers index).filterMap Sign.record? =
      navigator.roundRecords source.pending (fun index => (answers (source.pending.take index)).filterMap id) index := by
    intro index
    rw [roundSigns, List.filterMap_append, Request.frameSigns_record _ (asked _), Sign.reported_record, roundRecords,
      List.map_append]
    rfl
  rw [transcript, List.filterMap_append, List.filterMap_append, Request.teardownSigns_record silent, List.append_nil,
    List.filterMap_cons, List.filterMap_flatMap, records, ← steps]
  simp only [each]
  rfl

private theorem Asked.of_teardown_silent (journal : Journal) (observers : List Renderer) (world : World) :
    ∀ answer ∈ (Asked.of journal.sink Request.teardown.ask observers world).answers, answer = none := by
  induction observers generalizing world with
  | nil => exact fun _ member => (List.not_mem_nil member).elim
  | cons observer rest ih =>
    exact List.forall_mem_cons.mpr ⟨observer.teardown_silent world, ih _⟩

theorem Progress.teardown_silent (journal : Journal) (progress : Progress Renderer World) :
    ∀ answer ∈ progress.answers journal.sink .teardown, answer = none :=
  Asked.of_teardown_silent journal progress.observers progress.world

section Sessions
variable (source : InputSource) (navigator : Navigator) (panel : PanelRenderer) (world : World)

theorem runSession_silent {journal : Journal} (elsewhere : ∀ event, journal.printed event = "") :
    (runSession journal.sink source navigator [Renderer.panel panel] world).world.output = world.output := by
  rw [runSession_output, join_printed_panel panel _ elsewhere, String.append_empty]

theorem runSession_frames (front : Renderer) {journal : Journal} (elsewhere : ∀ event, journal.printed event = "") :
    (runSession journal.sink source navigator [front, .panel panel] world).world.output = world.output ++
      String.join ((List.range (navigator.rounds source.pending)).map fun index =>
        front.printed (.frame (navigator.after (source.pending.take index)).view)) ++ front.printed .teardown := by
  have requests := runSession_requestOf journal.sink source [front, .panel panel] world navigator Nat.zero_lt_two
  rw [runSession_output, join_printed_requests panel _ front elsewhere, requests, List.map_append, String.join_append,
    List.map_map, ← String.append_assoc]
  exact congrArg (_ ++ ·) (String.join_cons.trans String.append_empty)

/-- With its records in front of the panel, a session that ends well leaves one stream of records. -/
theorem runSession_records (raw : Bool) {reason : EndReason} (ends : navigator.outcome source = .ok reason) :
    let run := runSession (Journal.records raw).sink source navigator [Renderer.records raw, .panel panel] world
    ∃ complaints, run.world.output =
      world.output ++ .ofList (Record.stream raw (navigator.records source.pending complaints reason)) := by
  have course := Progress.finished_course (Journal.records raw).sink source navigator
    [Renderer.records raw, .panel panel] world
  have asked : ∀ read, (Progress.opened (Journal.records raw).sink navigator
      [Renderer.records raw, .panel panel] world).answersAfter (Journal.records raw).sink read ≠ [] := by
    intro read
    apply List.ne_nil_of_length_pos
    rw [Progress.length_answersAfter]
    exact Nat.zero_lt_two
  have output := runSession_output (.records raw) source navigator [.records raw, .panel panel] world
  rw [join_printed_records, runSession_signs, ends, Except.map,
    Navigator.transcript_record asked (Progress.teardown_silent _ _) (congrArg Course.steps course)] at output
  exact ⟨_, output⟩

end Sessions
end PanelMenu
