import PanelMenu.Proofs.Outcome
import PanelMenu.Proofs.SessionTranscript

/-! The protocol of a session, from its first report to its last, and what its summary counts. Every
pattern of failures is allowed for, and none of it changes the order. -/

namespace PanelMenu

def Event.isFailure : Event → Bool
  | .renderFailed .. => true
  | _ => false

def Event.isEnd : Event → Bool
  | .sessionEnded .. => true
  | _ => false

def Sign.event? : Sign → Option Event
  | .reported event => some event
  | .asked .. => none

/-- What the observer at a place is asked for. -/
def Sign.requestOf? (place : Nat) : Sign → Option Request
  | .asked seat request _ => if seat = place then some request else none
  | .reported _ => none

def Request.isFrame : Request → Bool
  | frame _ => true
  | teardown => false

section Noted
variable {O W : Type}

/-- All that was reported is among the signs, and failures are counted right. The end is not reported
before the session is over. -/
structure Progress.Noted (progress : Progress (Watched O) (Watching W)) : Prop where
  events_eq : progress.world.signs.filterMap Sign.event? = progress.events.toList
  failures_eq : progress.failures = progress.events.toList.countP Event.isFailure
  running : progress.events.toList.any Event.isEnd = false

namespace Progress.Noted
variable {progress : Progress (Watched O) (Watching W)} (sink : Sink W)

theorem emit (noted : progress.Noted) {event : Event} (success : event.isFailure = false)
    (early : event.isEnd = false) : (progress.emit sink.watched event).Noted := by
  refine ⟨?_, ?_, ?_⟩
  · simp [Progress.emit, Sink.watched, Sign.event?, noted.events_eq]
  · simp [Progress.emit, noted.failures_eq, success]
  · simpa [Progress.emit, early] using noted.running

theorem advance (noted : progress.Noted) (input : Input) :
    (progress.advance sink.watched (progress.navigator.handle input)).Noted := by
  have turned := (progress.navigator.handle_takes input).events_turned
  rw [Progress.advance]
  apply List.foldlRecOn (motive := fun state : Progress (Watched O) (Watching W) => state.Noted)
  · exact ⟨noted.events_eq, noted.failures_eq, noted.running⟩
  · intro state noted event member
    have about : event.aboutSession = false := by simpa using List.filter_eq_self.mp turned event member
    apply noted.emit
    · cases event <;> first | rfl | cases about
    · cases event <;> first | rfl | cases about

variable [Observer O W]

theorem ask (noted : progress.Noted) (request : Request) (observer : Watched O) :
    (progress.ask sink.watched request.ask observer).Noted := by
  let drawn := request.ask observer.observer progress.world.world
  have answered : request.ask observer progress.world = observer.answer request progress.world :=
    request.ask_watched observer progress.world
  have noticed : (progress.world.signs ++ [Sign.asked observer.place request drawn.complaint]).filterMap Sign.event? =
      progress.events.toList := by simp [Sign.event?, noted.events_eq]
  cases failed : drawn.failure with
  | none =>
    have silent : (observer.answer request progress.world).failure = none := failed
    rw [Progress.ask, answered, silent]
    exact ⟨noticed, noted.failures_eq, noted.running⟩
  | some failure =>
    have loud : (observer.answer request progress.world).failure = some failure := failed
    rw [Progress.ask, answered, loud]
    refine ⟨?_, ?_, ?_⟩
    · simp only [Progress.emit, Sink.watched, List.filterMap_append, Array.toList_push]
      exact congrArg (· ++ _) noticed
    · simp [Progress.emit, Event.isFailure, noted.failures_eq]
    · simpa [Progress.emit, Event.isEnd] using noted.running

theorem askAll (noted : progress.Noted) (request : Request) : (progress.askAll sink.watched request.ask).Noted := by
  apply List.foldlRecOn (motive := fun state : Progress (Watched O) (Watching W) => state.Noted)
  · exact ⟨noted.events_eq, noted.failures_eq, noted.running⟩
  · intro state noted observer _
    exact noted.ask sink request observer

theorem redraw (noted : progress.Noted) : (progress.redraw sink.watched).Noted := by
  have asked := noted.askAll sink (.frame progress.navigator.view)
  exact ⟨asked.events_eq, asked.failures_eq, asked.running⟩

theorem teardown (noted : progress.Noted) : (progress.teardown sink.watched).Noted :=
  noted.askAll sink .teardown

theorem played (noted : progress.Noted) (inputs : List Input) : (progress.played sink.watched inputs).Noted := by
  apply List.foldlRecOn (motive := fun state : Progress (Watched O) (Watching W) => state.Noted)
  · exact noted
  · intro state noted input _
    exact (noted.redraw sink).advance sink input

theorem exhausted (navigator : Navigator) (inputs : List Input) (observers : List (Watched O)) (world : W) :
    (Progress.exhausted sink.watched navigator inputs observers { world := world }).Noted := by
  have opened : (Progress.opened sink.watched navigator observers { world := world }).Noted := ⟨rfl, rfl, rfl⟩
  have played := opened.played sink (navigator.heard inputs)
  rw [Progress.exhausted]
  split
  · exact played
  · exact played.redraw sink

end Progress.Noted

/-- A session that is over. Its last report is that of its end, if it has one. -/
structure Progress.Settled (progress : Progress (Watched O) (Watching W)) (outcome : Except MenuError EndReason) :
    Prop where
  events_eq : progress.world.signs.filterMap Sign.event? = progress.events.toList
  failures_eq : progress.failures = progress.events.toList.countP Event.isFailure
  ended : progress.events.toList.any Event.isEnd = outcome.isOk
  last : ∀ reason, outcome = .ok reason →
    progress.events.toList.getLast? = some (.sessionEnded reason progress.steps)

theorem Progress.Noted.concluded [Observer O W] {progress : Progress (Watched O) (Watching W)} (sink : Sink W)
    (noted : progress.Noted) (outcome : Except MenuError EndReason) :
    (progress.concluded sink.watched outcome).Settled outcome := by
  have tornDown := noted.teardown sink
  cases outcome with
  | error failure =>
    refine ⟨tornDown.events_eq, tornDown.failures_eq, tornDown.running, ?_⟩
    intro reason ending
    cases ending
  | ok reason =>
    refine ⟨?_, ?_, ?_, ?_⟩
    · simp [Progress.concluded, Progress.emit, Sink.watched, Sign.event?, tornDown.events_eq]
    · simp [Progress.concluded, Progress.emit, Event.isFailure, tornDown.failures_eq]
    · simp [Progress.concluded, Progress.emit, Event.isEnd, Except.isOk, Except.toBool]
    · rintro _ ⟨⟩
      simp [Progress.concluded, Progress.emit]

end Noted

section Requests
variable {place : Nat}

theorem Request.signs_requestOf (request : Request) (first : Nat) (answers : List (Option Complaint)) :
    (request.signs first answers).filterMap (Sign.requestOf? place) =
      if first ≤ place ∧ place < first + answers.length then [request] else [] := by
  induction answers generalizing first with
  | nil => simp [Request.signs]
  | cons answer rest ih =>
    have complained : ((answer.toList.map fun complaint => Sign.reported complaint.event).filterMap
        (Sign.requestOf? place)) = [] := by cases answer <;> rfl
    rw [Request.signs_cons, List.filterMap_append, List.filterMap_cons, complained, ih, List.length_cons]
    by_cases here : first = place
    · subst here
      simp [Sign.requestOf?]
    · simp only [Sign.requestOf?, here, if_false, List.nil_append]
      congr 1
      simp only [eq_iff_iff]
      omega

theorem Sign.reported_requestOf (events : List Event) :
    (events.map Sign.reported).filterMap (Sign.requestOf? place) = [] := by
  simp [List.filterMap_map, Function.comp_def, Sign.requestOf?]

theorem Sign.closing_requestOf (result : Except MenuError Summary) :
    (Sign.closing result).filterMap (Sign.requestOf? place) = [] := by
  cases result <;> rfl

theorem Navigator.roundSigns_requestOf {answers : List Input → List (Option Complaint)} {inputs : List Input}
    {index : Nat} (seated : place < (answers (inputs.take index)).length) (navigator : Navigator) :
    (navigator.roundSigns inputs answers index).filterMap (Sign.requestOf? place) =
      [.frame (navigator.after (inputs.take index)).view] := by
  rw [roundSigns, List.filterMap_append, Request.signs_requestOf, Sign.reported_requestOf, List.append_nil,
    if_pos ⟨Nat.zero_le _, by omega⟩]

end Requests

theorem Navigator.transcript_requestOf {answers : List Input → List (Option Complaint)}
    {farewells : List (Option Complaint)} {count place : Nat} (answered : ∀ read, (answers read).length = count)
    (parted : farewells.length = count) (seated : place < count) (navigator : Navigator) (source : InputSource)
    (result : Except MenuError Summary) :
    (navigator.transcript source answers farewells result).filterMap (Sign.requestOf? place) =
      (List.range (navigator.rounds source.pending)).map
        (fun index => .frame (navigator.after (source.pending.take index)).view) ++ [.teardown] := by
  have each : ∀ index, (navigator.roundSigns source.pending answers index).filterMap (Sign.requestOf? place) =
      [.frame (navigator.after (source.pending.take index)).view] := by
    intro index
    exact Navigator.roundSigns_requestOf ((answered _).symm ▸ seated) navigator
  have last : (Request.signs .teardown 0 farewells).filterMap (Sign.requestOf? place) = [.teardown] := by
    rw [Request.signs_requestOf, if_pos ⟨Nat.zero_le _, by omega⟩]
  rw [transcript, List.filterMap_append, List.filterMap_append, List.filterMap_cons, List.filterMap_flatMap, last,
    Sign.closing_requestOf, List.append_nil]
  simp only [each, Sign.requestOf?, ← List.map_eq_flatMap]

section Session
variable {O W : Type} [Observer O W] (sink : Sink W)

namespace Progress

theorem askAll_observers (progress : Progress O W) (request : O → W → Drawn O W) :
    (progress.askAll sink request).observers.length = progress.observers.length := by
  rw [askAll_eq]
  exact Asked.length_observers sink request _ _

theorem round_observers (progress : Progress O W) (input : Input) :
    (progress.round sink input).observers.length = progress.observers.length := by
  rw [round, advance, foldl_emit]
  exact progress.askAll_observers sink _

theorem played_observers (progress : Progress O W) (inputs : List Input) :
    (progress.played sink inputs).observers.length = progress.observers.length := by
  induction inputs generalizing progress with
  | nil => rfl
  | cons input rest ih => exact (ih _).trans (progress.round_observers sink input)

theorem exhausted_observers (navigator : Navigator) (inputs : List Input) (observers : List O) (world : W) :
    (exhausted sink navigator inputs observers world).observers.length = observers.length := by
  have played := (opened sink navigator observers world).played_observers sink (navigator.heard inputs)
  rw [exhausted]
  split
  · exact played
  · exact (askAll_observers sink _ _).trans played

theorem length_answers (progress : Progress O W) (request : Request) :
    (progress.answers sink request).length = progress.observers.length :=
  Asked.length_answers sink request.ask _ _

end Progress

def Run.unwatched (run : Run (Watched O) (Watching W)) : Run O W where
  navigator := run.navigator
  observers := run.observers.map (·.observer)
  world := run.world.world
  remaining := run.remaining
  events := run.events
  ran := run.ran
  result := run.result

/-- What a summary says of a run of which the signs are known. -/
structure Summary.Accounts (summary : Summary) (run : Run O W) (signs : List Sign) (navigator : Navigator)
    (source : InputSource) (count : Nat) : Prop where
  steps : ∃ read, source.pending = read ++ run.remaining ∧ summary.steps = read.length
  frames : ∀ place < count, summary.frames = (signs.filterMap (Sign.requestOf? place)).countP Request.isFrame
  failures : summary.renderFailures = run.events.countP Event.isFailure
  closed : summary.reason = .inputClosed → summary.frames = summary.steps + 1
  left : summary.reason = .backAtRoot → summary.frames = summary.steps
  late : navigator.terminated = true → summary.reason = .backAtRoot ∧ summary.steps = 0 ∧ summary.frames = 0

/-- The signs are those of `navigator` over `source`, with `count` observers that answer frames as in
`answers` and say something at last; and the run tells them truly. -/
structure Run.Protocol (run : Run O W) (signs : List Sign) (navigator : Navigator) (source : InputSource)
    (count : Nat) (answers : List Input → List (Option Complaint)) : Prop where
  answered : ∀ read, (answers read).length = count
  signs_eq : ∃ farewells : List (Option Complaint), farewells.length = count ∧
    signs = navigator.transcript source answers farewells run.result
  requests : ∀ place < count, signs.filterMap (Sign.requestOf? place) =
    (List.range (navigator.rounds source.pending)).map
      (fun index => .frame (navigator.after (source.pending.take index)).view) ++ [.teardown]
  events_eq : run.events = signs.filterMap Sign.event?
  ended : run.events.any Event.isEnd = run.result.isOk
  last : ∀ summary, run.result = .ok summary →
    run.events.getLast? = some (.sessionEnded summary.reason summary.steps)
  accounts : ∀ summary, run.result = .ok summary → summary.Accounts run signs navigator source count

omit [Observer O W] in
theorem Progress.unwatched_run (progress : Progress O W) (signs : List Sign) (remaining : List Input)
    (outcome : Except MenuError EndReason) :
    ((progress.watched signs).run remaining outcome).unwatched = progress.run remaining outcome := by
  have observers : (Watched.all 0 progress.observers).map (·.observer) = progress.observers := by
    simp [Watched.all, Function.comp_def]
  rw [Run.unwatched, Progress.run, Progress.run, Progress.watched, observers]
  rfl

theorem Navigator.leaves_of_backAtRoot {navigator : Navigator} {source : InputSource}
    (back : navigator.outcome source = .ok .backAtRoot) : navigator.leaves source.pending = true := by
  by_contra stays
  rw [outcome, if_neg stays] at back
  cases ending : source.ending with
  | closed => rw [ending] at back; cases back
  | failed cause => rw [ending] at back; cases back

theorem Navigator.stays_of_inputClosed {navigator : Navigator} {source : InputSource}
    (closed : navigator.outcome source = .ok .inputClosed) : navigator.leaves source.pending = false := by
  by_contra leaves
  rw [outcome, if_pos (by simpa using leaves)] at closed
  cases closed

omit [Observer O W] in
theorem Progress.Settled.accounts {last : Progress O W} {signs : List Sign} {navigator : Navigator}
    {source : InputSource} {count : Nat} {reason : EndReason}
    (settled : (last.watched signs).Settled (navigator.outcome source))
    (steps : last.steps = (navigator.heard source.pending).length)
    (frames : last.frames = navigator.rounds source.pending)
    (requests : ∀ place < count, signs.filterMap (Sign.requestOf? place) =
      (List.range (navigator.rounds source.pending)).map
        (fun index => .frame (navigator.after (source.pending.take index)).view) ++ [.teardown])
    (ending : navigator.outcome source = .ok reason) :
    (last.summary reason).Accounts (last.run (navigator.unheard source.pending) (navigator.outcome source)) signs
      navigator source count := by
  have rounds := navigator.rounds_eq source.pending
  constructor
  case steps => exact ⟨navigator.heard source.pending, (List.take_append_drop _ _).symm, steps⟩
  case frames =>
    intro place seated
    rw [requests place seated, List.countP_append, List.countP_map]
    simp [Function.comp_def, Request.isFrame, Progress.summary, frames]
  case failures => exact settled.failures_eq
  case closed =>
    rintro (rfl : reason = .inputClosed)
    rw [Navigator.stays_of_inputClosed ending, if_neg Bool.false_ne_true] at rounds
    exact frames.trans (rounds.trans (congrArg (· + 1) steps.symm))
  case left =>
    rintro (rfl : reason = .backAtRoot)
    rw [Navigator.leaves_of_backAtRoot ending, if_pos rfl] at rounds
    exact frames.trans (rounds.trans steps.symm)
  case late =>
    intro late
    have none : navigator.rounds source.pending = 0 := if_pos late
    have leaves : navigator.leaves source.pending = true := by rw [Navigator.leaves, late, Bool.true_or]
    rw [Navigator.outcome, if_pos leaves] at ending
    cases ending
    rw [none] at rounds frames
    exact ⟨rfl, steps.trans (Nat.eq_zero_of_add_eq_zero_right rounds.symm), frames⟩

/-- The protocol of every session, for observers that fail wherever they like. The answers to a frame
depend on the inputs read before it and on no later one, so it is shown before the next is read. -/
theorem runSession_protocol (navigator : Navigator) (observers : List O) (world : W) :
    ∃ answers : List Input → List (Option Complaint), ∀ source,
      let run := runSession sink source navigator observers world
      let watched := runSession sink.watched source navigator (Watched.all 0 observers) { world := world }
      watched.unwatched = run ∧
        run.Protocol watched.world.signs navigator source observers.length answers := by
  refine ⟨(Progress.opened sink navigator observers world).answersAfter sink, fun source => ?_⟩
  have course := Progress.finished_course sink source navigator observers world
  have settled : (Progress.finished sink.watched source navigator (Watched.all 0 observers) { world := world }).Settled
      (navigator.outcome source) :=
    (Progress.Noted.exhausted sink navigator source.pending (Watched.all 0 observers) world).concluded sink _
  have answered : ∀ read, ((Progress.opened sink navigator observers world).answersAfter sink read).length =
      observers.length := fun read =>
    (Progress.length_answers sink _ _).trans (Progress.played_observers sink _ read)
  have parted : ((Progress.exhausted sink navigator source.pending observers world).answers sink .teardown).length =
      observers.length :=
    (Progress.length_answers sink _ _).trans (Progress.exhausted_observers sink navigator source.pending observers world)
  have requests := fun place (seated : place < observers.length) =>
    navigator.transcript_requestOf answered parted seated source
      ((navigator.outcome source).map (Progress.finished sink source navigator observers world).summary)
  rw [Progress.watched_finished] at settled
  rw [runSession_eq, runSession_eq, Progress.watched_finished]
  refine ⟨Progress.unwatched_run _ _ _ _, ?_⟩
  constructor
  case answered => exact answered
  case signs_eq => exact ⟨_, parted, rfl⟩
  case requests => exact requests
  case events_eq => exact settled.events_eq.symm
  case ended => exact settled.ended.trans (Except.isOk_map _ _).symm
  case last =>
    intro summary known
    obtain ⟨reason, ending, rfl⟩ := Except.of_map_ok known
    exact settled.last reason ending
  case accounts =>
    intro summary known
    obtain ⟨reason, ending, rfl⟩ := Except.of_map_ok known
    exact settled.accounts (congrArg Course.steps course) (congrArg Course.frames course) requests ending

end Session
end PanelMenu
