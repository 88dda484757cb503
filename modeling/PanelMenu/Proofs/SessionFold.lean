import PanelMenu.Proofs.SessionRounds

/-! What a session comes to when its observers are disregarded. Rounds act on it as the inputs act on a
navigator by itself, so observers and sinks cannot change it, whether they fail or not. -/

namespace PanelMenu

def Event.aboutSession : Event → Bool
  | .sessionStarted .. | .sessionEnded .. | .renderFailed .. => true
  | _ => false

theorem Navigator.Takes.events_turned {navigator : Navigator} {input : Input} {turn : Turn}
    (takes : navigator.Takes input turn) : turn.events.filter (!·.aboutSession) = turn.events := by
  cases takes <;> rfl

/-- The course of a session: all that an input has a part in. -/
structure Course where
  navigator : Navigator
  ran : List Handler := []
  events : List Event := []
  steps : Nat := 0
  frames : Nat := 0

def Course.turn (course : Course) (input : Input) : Course :=
  let turn := course.navigator.handle input
  { navigator := turn.navigator
    ran := course.ran ++ turn.ran
    events := course.events ++ turn.events
    steps := course.steps + 1
    frames := course.frames + 1 }

theorem Course.foldl_turn (course : Course) (inputs : List Input) :
    inputs.foldl turn course =
      { navigator := course.navigator.after inputs
        ran := course.ran ++ (course.navigator.turns inputs).flatMap (·.ran)
        events := course.events ++ (course.navigator.turns inputs).flatMap (·.events)
        steps := course.steps + inputs.length
        frames := course.frames + inputs.length } := by
  induction inputs generalizing course with
  | nil => simp [Navigator.turns]
  | cons input rest ih => simp [ih, turn, Navigator.turns, Nat.add_assoc, Nat.add_comm 1]

namespace Progress
variable {O W : Type}

def course (progress : Progress O W) : Course where
  navigator := progress.navigator
  ran := progress.ran.toList
  events := progress.events.toList.filter (!·.aboutSession)
  steps := progress.steps
  frames := progress.frames

theorem heeding_course (progress : Progress O W) (asked : Asked O W) :
    (progress.heeding asked).course = progress.course := by
  have silent : (asked.complaints.map Complaint.event).filter (!·.aboutSession) = [] := by
    simp [Complaint.event, Event.aboutSession]
  simp [heeding, course, silent]

theorem emit_course (sink : Sink W) (progress : Progress O W) {event : Event} (about : event.aboutSession = true) :
    (progress.emit sink event).course = progress.course := by
  simp [emit, course, about]

theorem advance_course (sink : Sink W) (progress : Progress O W) (input : Input) :
    (progress.advance sink (progress.navigator.handle input)).course =
      { progress.course.turn input with frames := progress.frames } := by
  have turned := (progress.navigator.handle_takes input).events_turned
  simp [advance, foldl_emit, course, Course.turn, turned]

variable [Observer O W] (sink : Sink W)

theorem redraw_course (progress : Progress O W) :
    (progress.redraw sink).course = { progress.course with frames := progress.frames + 1 } := by
  rw [redraw, askAll_eq]
  exact congrArg (fun course => { course with frames := progress.frames + 1 }) (progress.heeding_course _)

theorem teardown_course (progress : Progress O W) : (progress.teardown sink).course = progress.course := by
  rw [teardown, askAll_eq, heeding_course]

theorem round_course (progress : Progress O W) (input : Input) :
    (progress.round sink input).course = progress.course.turn input := by
  have drawn := progress.redraw_course sink
  have frames : (progress.redraw sink).frames = progress.frames + 1 := congrArg Course.frames drawn
  rw [round, advance_course, drawn, frames]
  rfl

theorem played_course (progress : Progress O W) (inputs : List Input) :
    (progress.played sink inputs).course = inputs.foldl Course.turn progress.course :=
  (List.foldl_hom course (fun state input => (state.round_course sink input).symm)).symm

theorem concluded_course (progress : Progress O W) (outcome : Except MenuError EndReason) :
    (progress.concluded sink outcome).course = progress.course := by
  cases outcome with
  | error _ => exact progress.teardown_course sink
  | ok reason => exact ((progress.teardown sink).emit_course sink rfl).trans (progress.teardown_course sink)

theorem exhausted_course (navigator : Navigator) (inputs : List Input) (observers : List O) (world : W) :
    (exhausted sink navigator inputs observers world).course =
      { navigator := navigator.after (navigator.heard inputs)
        ran := (navigator.turns (navigator.heard inputs)).flatMap (·.ran)
        events := (navigator.turns (navigator.heard inputs)).flatMap (·.events)
        steps := (navigator.heard inputs).length
        frames := navigator.rounds inputs } := by
  have opened : (Progress.opened sink navigator observers world).course = { navigator := navigator } :=
    emit_course sink _ rfl
  have played := (Progress.opened sink navigator observers world).played_course sink (navigator.heard inputs)
  rw [opened, Course.foldl_turn] at played
  rw [exhausted, navigator.rounds_eq inputs]
  cases navigator.leaves inputs with
  | true => simpa using played
  | false =>
    have frames := congrArg Course.frames played
    simp only [Bool.false_eq_true, if_false, redraw_course, played]
    simpa [course] using frames

theorem finished_course (source : InputSource) (navigator : Navigator) (observers : List O) (world : W) :
    (finished sink source navigator observers world).course =
      { navigator := navigator.after (navigator.heard source.pending)
        ran := (navigator.turns (navigator.heard source.pending)).flatMap (·.ran)
        events := (navigator.turns (navigator.heard source.pending)).flatMap (·.events)
        steps := (navigator.heard source.pending).length
        frames := navigator.rounds source.pending } :=
  (concluded_course sink _ _).trans (exhausted_course sink navigator source.pending observers world)

end Progress

def Summary.pace (summary : Summary) : EndReason × Nat × Nat :=
  (summary.reason, summary.steps, summary.frames)

/-- A run that does with the inputs it hears what the navigator does with them by itself, and leaves
the others alone. -/
structure Run.Folds {O W : Type} (run : Run O W) (navigator : Navigator) (source : InputSource) : Prop where
  navigator_eq : run.navigator = navigator.after (navigator.heard source.pending)
  ran_eq : run.ran = (navigator.turns (navigator.heard source.pending)).flatMap (·.ran)
  remaining_eq : run.remaining = navigator.unheard source.pending
  events_eq : run.events.filter (!·.aboutSession) =
    (navigator.turns (navigator.heard source.pending)).flatMap (·.events)
  result_eq : run.result.map Summary.pace = (navigator.outcome source).map fun reason =>
    (reason, (navigator.heard source.pending).length, navigator.rounds source.pending)

/-- Two runs that cannot be told apart by where they end and how they get there. -/
structure Run.Agrees {O W O' W' : Type} (run : Run O W) (other : Run O' W') : Prop where
  navigator_eq : run.navigator = other.navigator
  ran_eq : run.ran = other.ran
  remaining_eq : run.remaining = other.remaining
  events_eq : run.events.filter (!·.aboutSession) = other.events.filter (!·.aboutSession)
  result_eq : run.result.map Summary.pace = other.result.map Summary.pace

theorem Run.Folds.agrees {O W O' W' : Type} {run : Run O W} {other : Run O' W'} {navigator : Navigator}
    {source : InputSource} (folds : run.Folds navigator source) (others : other.Folds navigator source) :
    run.Agrees other where
  navigator_eq := folds.navigator_eq.trans others.navigator_eq.symm
  ran_eq := folds.ran_eq.trans others.ran_eq.symm
  remaining_eq := folds.remaining_eq.trans others.remaining_eq.symm
  events_eq := folds.events_eq.trans others.events_eq.symm
  result_eq := folds.result_eq.trans others.result_eq.symm

theorem runSession_folds {O W : Type} [Observer O W] (sink : Sink W) (source : InputSource) (navigator : Navigator)
    (observers : List O) (world : W) : (runSession sink source navigator observers world).Folds navigator source := by
  have course := Progress.finished_course sink source navigator observers world
  rw [runSession_eq]
  refine ⟨congrArg Course.navigator course, congrArg Course.ran course, rfl, congrArg Course.events course, ?_⟩
  cases ending : navigator.outcome source with
  | error failure => rfl
  | ok reason =>
    have steps := congrArg Course.steps course
    have frames := congrArg Course.frames course
    exact congrArg Except.ok (congrArg₂ (fun steps frames => (reason, steps, frames)) steps frames)

/-- Observers and sinks never influence where a session goes. -/
theorem runSession_agrees {O W O' W' : Type} [Observer O W] [Observer O' W'] (sink : Sink W) (sink' : Sink W')
    (source : InputSource) (navigator : Navigator) (observers : List O) (observers' : List O') (world : W)
    (world' : W') :
    let run := runSession sink source navigator observers world
    run.Folds navigator source ∧ run.Agrees (runSession sink' source navigator observers' world') := by
  have folds := runSession_folds sink source navigator observers world
  exact ⟨folds, folds.agrees (runSession_folds sink' source navigator observers' world')⟩

end PanelMenu
