import PanelMenu.Proofs.SessionFold

/-! The order of everything that happens in a session. To see it, each observer is watched and the sink
too: what they are asked and told is written down, in a world beside their own. Watching changes
nothing, so what is written down is what happens unwatched. -/

namespace PanelMenu

inductive Request
  | frame (view : View)
  | teardown
  deriving DecidableEq, Repr

/-- What can be noticed of a session. Observers are told apart by their places in the list. -/
inductive Sign
  | asked (place : Nat) (request : Request) (answer : Option Complaint)
  | reported (event : Event)
  deriving DecidableEq, Repr

structure Watched (O : Type) where
  place : Nat
  observer : O

structure Watching (W : Type) where
  world : W
  signs : List Sign := []

def Request.ask {O W : Type} [Observer O W] : Request → O → W → Drawn O W
  | frame view => Observer.render view
  | teardown => Observer.teardown

def Watched.answer {O W : Type} [Observer O W] (request : Request) (watched : Watched O) (watching : Watching W) :
    Drawn (Watched O) (Watching W) :=
  let drawn := request.ask watched.observer watching.world
  { observer := { watched with observer := drawn.observer }
    world := { world := drawn.world, signs := watching.signs ++ [.asked watched.place request drawn.complaint] }
    failure := drawn.failure }

instance {O W : Type} [Observer O W] : Observer (Watched O) (Watching W) where
  name watched := Observer.name watched.observer
  render view := Watched.answer (.frame view)
  teardown := Watched.answer .teardown

def Sink.watched {W : Type} (sink : Sink W) : Sink (Watching W) := fun event watching =>
  { world := sink event watching.world, signs := watching.signs ++ [.reported event] }

def Watched.all {O : Type} (first : Nat) (observers : List O) : List (Watched O) :=
  (observers.zipIdx first).map fun (observer, place) => { place := place, observer := observer }

/-- All observers in turn are asked the same, and complaints are reported at once. -/
def Request.signs (request : Request) (first : Nat) (answers : List (Option Complaint)) : List Sign :=
  (answers.zipIdx first).flatMap fun (answer, place) =>
    .asked place request answer :: answer.toList.map fun complaint => .reported complaint.event

def Sign.closing : Except MenuError Summary → List Sign
  | .ok summary => [.reported (.sessionEnded summary.reason summary.steps)]
  | .error _ => []

namespace Navigator

def opening (navigator : Navigator) : Event :=
  .sessionStarted navigator.root (navigator.tree.node navigator.root).label

def reports (navigator : Navigator) (inputs : List Input) (index : Nat) : List Event :=
  match inputs[index]? with
  | none => []
  | some input => ((navigator.after (inputs.take index)).handle input).events

/-- The signs of a round: the frame after so many inputs goes to all observers, then the next input is
dealt with. -/
def roundSigns (navigator : Navigator) (inputs : List Input) (answers : List Input → List (Option Complaint))
    (index : Nat) : List Sign :=
  Request.signs (.frame (navigator.after (inputs.take index)).view) 0 (answers (inputs.take index)) ++
    (navigator.reports inputs index).map .reported

/-- All signs of a session, from its first report to its last. -/
def transcript (navigator : Navigator) (source : InputSource)
    (answers : List Input → List (Option Complaint)) (farewells : List (Option Complaint))
    (result : Except MenuError Summary) : List Sign :=
  .reported navigator.opening ::
      (List.range (navigator.rounds source.pending)).flatMap (navigator.roundSigns source.pending answers) ++
    Request.signs .teardown 0 farewells ++ Sign.closing result

end Navigator

section Watching
variable {O W : Type} (sink : Sink W)

namespace Progress

def watched (progress : Progress O W) (signs : List Sign) : Progress (Watched O) (Watching W) :=
  { progress with
    observers := Watched.all 0 progress.observers
    world := { world := progress.world, signs := signs } }

theorem watched_emit (progress : Progress O W) (signs : List Sign) (event : Event) :
    (progress.watched signs).emit sink.watched event =
      (progress.emit sink event).watched (signs ++ [.reported event]) := rfl

theorem watched_reports (events : List Event) (progress : Progress O W) (signs : List Sign) :
    events.foldl (emit sink.watched) (progress.watched signs) =
      (events.foldl (emit sink) progress).watched (signs ++ events.map .reported) := by
  induction events generalizing progress signs with
  | nil => simp
  | cons event rest ih =>
    rw [List.foldl_cons, watched_emit, ih, List.append_assoc]
    rfl

theorem watched_advance (progress : Progress O W) (signs : List Sign) (turn : Turn) :
    (progress.watched signs).advance sink.watched turn =
      (progress.advance sink turn).watched (signs ++ turn.events.map .reported) := by
  let moved := { progress with
    navigator := turn.navigator, ran := progress.ran ++ turn.ran, steps := progress.steps + 1 }
  have reported := watched_reports sink turn.events moved signs
  rw [advance, advance]
  exact reported

end Progress

variable [Observer O W]

theorem Request.ask_watched (request : Request) (watched : Watched O) (watching : Watching W) :
    request.ask watched watching = watched.answer request watching := by
  cases request <;> rfl

private theorem all_cons (first : Nat) (observer : O) (rest : List O) :
    Watched.all first (observer :: rest) = { place := first, observer := observer } :: Watched.all (first + 1) rest :=
  rfl

theorem Request.signs_cons (request : Request) (first : Nat) (answer : Option Complaint)
    (rest : List (Option Complaint)) :
    request.signs first (answer :: rest) =
      (.asked first request answer :: answer.toList.map fun complaint => .reported complaint.event) ++
        request.signs (first + 1) rest :=
  rfl

omit [Observer O W] in
theorem Request.mem_signs {request : Request} {answers : List (Option Complaint)} {place : Nat}
    {answer : Option Complaint} (given : answers[place]? = some answer) :
    .asked place request answer ∈ request.signs 0 answers := by
  have member : (answer, place) ∈ answers.zipIdx := List.mk_mem_zipIdx_iff_getElem?.mpr given
  exact List.mem_flatMap.mpr ⟨_, member, List.mem_cons_self⟩

theorem Asked.of_watched (request : Request) (first : Nat) (observers : List O) (world : W) (signs : List Sign) :
    Asked.of sink.watched request.ask (Watched.all first observers) { world := world, signs := signs } =
      let asked := Asked.of sink request.ask observers world
      { observers := Watched.all first asked.observers
        world := { world := asked.world, signs := signs ++ request.signs first asked.answers }
        answers := asked.answers } := by
  induction observers generalizing first world signs with
  | nil => simp [Asked.of, Watched.all, Request.signs]
  | cons observer rest ih =>
    have complaint : ((Watched.mk first observer).answer request (Watching.mk world signs)).complaint =
        (request.ask observer world).complaint := rfl
    simp only [all_cons, Asked.of, Request.ask_watched, complaint]
    cases answer : (request.ask observer world).complaint with
    | none => simp [Watched.answer, answer, ih, Request.signs_cons]
    | some complaint => simp [Watched.answer, Sink.watched, answer, ih, Request.signs_cons]

namespace Progress

def answers (progress : Progress O W) (request : Request) : List (Option Complaint) :=
  (Asked.of sink request.ask progress.observers progress.world).answers

theorem watched_askAll (progress : Progress O W) (signs : List Sign) (request : Request) :
    (progress.watched signs).askAll sink.watched request.ask =
      (progress.askAll sink request.ask).watched (signs ++ request.signs 0 (progress.answers sink request)) := by
  rw [askAll_eq, askAll_eq, watched, Asked.of_watched]
  rfl

theorem watched_redraw (progress : Progress O W) (signs : List Sign) :
    (progress.watched signs).redraw sink.watched =
      (progress.redraw sink).watched (signs ++ Request.signs (.frame progress.navigator.view) 0
        (progress.answers sink (.frame progress.navigator.view))) := by
  have asked := progress.watched_askAll sink signs (.frame progress.navigator.view)
  exact congrArg (fun drawn => { drawn with frames := drawn.frames + 1 }) asked

def answersAfter (progress : Progress O W) (inputs : List Input) : List (Option Complaint) :=
  let played := progress.played sink inputs
  played.answers sink (.frame played.navigator.view)

theorem watched_round (progress : Progress O W) (signs : List Sign) (input : Input) (rest : List Input) :
    (progress.watched signs).round sink.watched input =
      (progress.round sink input).watched
        (signs ++ progress.navigator.roundSigns (input :: rest) (progress.answersAfter sink) 0) := by
  have kept : ∀ noted, ((progress.redraw sink).watched noted).navigator = progress.navigator :=
    fun _ => progress.redraw_navigator sink
  rw [round, watched_redraw]
  simp only [kept, watched_advance, List.append_assoc]
  rw [round, progress.redraw_navigator]
  rfl

theorem watched_played (progress : Progress O W) (signs : List Sign) (inputs : List Input) {count : Nat}
    (within : count ≤ inputs.length) :
    (progress.watched signs).played sink.watched (inputs.take count) =
      (progress.played sink (inputs.take count)).watched
        (signs ++ (List.range count).flatMap (progress.navigator.roundSigns inputs (progress.answersAfter sink))) := by
  induction inputs generalizing progress signs count with
  | nil =>
    obtain rfl := Nat.le_zero.mp within
    simp [played]
  | cons input rest ih =>
    cases count with
    | zero => simp [played]
    | succ count =>
      have later := ih (progress.round sink input)
        (signs ++ progress.navigator.roundSigns (input :: rest) (progress.answersAfter sink) 0)
        (Nat.le_of_succ_le_succ within)
      have shifted : (progress.round sink input).navigator.roundSigns rest
          ((progress.round sink input).answersAfter sink) =
            fun index => progress.navigator.roundSigns (input :: rest) (progress.answersAfter sink) (index + 1) := by
        rw [round_navigator]
        rfl
      rw [List.take_succ_cons, played, List.foldl_cons, watched_round sink progress signs input rest]
      rw [played] at later
      rw [later, shifted, List.range_succ_eq_map]
      simp [played, List.flatMap_map]

theorem played_navigator (progress : Progress O W) (inputs : List Input) :
    (progress.played sink inputs).navigator = progress.navigator.after inputs := by
  have course := progress.played_course sink inputs
  rw [Course.foldl_turn] at course
  exact congrArg Course.navigator course

theorem watched_dry (progress : Progress O W) (signs : List Sign) (inputs : List Input) :
    ((progress.watched signs).played sink.watched inputs).redraw sink.watched =
      ((progress.played sink inputs).redraw sink).watched
        (signs ++ (List.range (inputs.length + 1)).flatMap
          (progress.navigator.roundSigns inputs (progress.answersAfter sink))) := by
  have played := progress.watched_played sink signs inputs (Nat.le_refl _)
  have last : progress.navigator.roundSigns inputs (progress.answersAfter sink) inputs.length =
      Request.signs (.frame (progress.played sink inputs).navigator.view) 0 (progress.answersAfter sink inputs) := by
    simp [Navigator.roundSigns, Navigator.reports, played_navigator]
  rw [List.take_length] at played
  rw [played, watched_redraw, List.range_succ, List.flatMap_append, List.flatMap_singleton, last, List.append_assoc]
  rfl

theorem watched_exhausted (navigator : Navigator) (inputs : List Input) (observers : List O) (world : W) :
    exhausted sink.watched navigator inputs (Watched.all 0 observers) { world := world } =
      (exhausted sink navigator inputs observers world).watched
        (.reported navigator.opening :: (List.range (navigator.rounds inputs)).flatMap
          (navigator.roundSigns inputs ((opened sink navigator observers world).answersAfter sink))) := by
  have start : opened sink.watched navigator (Watched.all 0 observers) { world := world } =
      (opened sink navigator observers world).watched [.reported navigator.opening] := rfl
  have rounds := navigator.rounds_eq inputs
  have heard : (navigator.heard inputs).length = min (navigator.rounds inputs) inputs.length := List.length_take
  rw [exhausted, exhausted, start]
  cases leaves : navigator.leaves inputs with
  | true =>
    have within : navigator.rounds inputs ≤ inputs.length := by
      rw [leaves, if_pos rfl] at rounds
      omega
    exact (opened sink navigator observers world).watched_played sink _ inputs within
  | false =>
    have all : navigator.rounds inputs = inputs.length + 1 := by
      rw [leaves, if_neg Bool.false_ne_true] at rounds
      omega
    rw [Navigator.heard, all, List.take_of_length_le (Nat.le_succ _)]
    exact (opened sink navigator observers world).watched_dry sink _ inputs

theorem watched_teardown (progress : Progress O W) (signs : List Sign) :
    (progress.watched signs).teardown sink.watched =
      (progress.teardown sink).watched (signs ++ Request.signs .teardown 0 (progress.answers sink .teardown)) :=
  progress.watched_askAll sink signs .teardown

theorem watched_concluded (progress : Progress O W) (signs : List Sign) (outcome : Except MenuError EndReason) :
    (progress.watched signs).concluded sink.watched outcome =
      (progress.concluded sink outcome).watched
        (signs ++ Request.signs .teardown 0 (progress.answers sink .teardown) ++
          Sign.closing (outcome.map (progress.concluded sink outcome).summary)) := by
  cases outcome with
  | error failure =>
    rw [concluded, watched_teardown, Except.map, Sign.closing, List.append_nil]
    rfl
  | ok reason =>
    rw [concluded, watched_teardown]
    rfl

/-- A watched session leaves the signs of its transcript, and is otherwise the session unwatched. -/
theorem watched_finished (source : InputSource) (navigator : Navigator) (observers : List O) (world : W) :
    finished sink.watched source navigator (Watched.all 0 observers) { world := world } =
      (finished sink source navigator observers world).watched
        (navigator.transcript source ((opened sink navigator observers world).answersAfter sink)
          ((exhausted sink navigator source.pending observers world).answers sink .teardown)
          ((navigator.outcome source).map (finished sink source navigator observers world).summary)) := by
  rw [finished, watched_exhausted, watched_concluded]
  rfl

end Progress
end Watching
end PanelMenu
