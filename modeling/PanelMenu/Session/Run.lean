import PanelMenu.Navigation.Navigator
import PanelMenu.Session.Observer

/-! A session: every observer gets a frame, then one input is read and applied, until the root is
left or the inputs run out. What observers fail at is reported and has no other effect. -/

namespace PanelMenu

/-- Everything a session changes or counts while it runs. -/
structure Progress (O W : Type) where
  navigator : Navigator
  observers : List O
  world : W
  events : Array Event := #[]
  ran : Array Handler := #[]
  steps : Nat := 0
  frames : Nat := 0
  failures : Nat := 0

structure Summary where
  reason : EndReason
  steps : Nat
  frames : Nat
  renderFailures : Nat
  deriving DecidableEq, Repr

/-- How a session went. `remaining` are the inputs that it did not read. -/
structure Run (O W : Type) where
  navigator : Navigator
  observers : List O
  world : W
  remaining : List Input
  events : List Event
  ran : List Handler
  result : Except MenuError Summary

namespace Progress

variable {O W : Type}

def emit (sink : Sink W) (progress : Progress O W) (event : Event) : Progress O W :=
  { progress with world := sink event progress.world, events := progress.events.push event }

/-- Asks one observer, and reports its failure right away. -/
def ask [Observer O W] (sink : Sink W) (request : O → W → Drawn O W) (progress : Progress O W)
    (observer : O) : Progress O W :=
  let drawn := request observer progress.world
  let asked := { progress with
    world := drawn.world
    observers := progress.observers ++ [drawn.observer] }
  match drawn.failure with
  | none => asked
  | some failure =>
    let reported :=
      asked.emit sink (.renderFailed (Observer.name drawn.observer) failure.message)
    { reported with failures := reported.failures + 1 }

/-- Asks all observers in turn for the same thing. -/
def askAll [Observer O W] (sink : Sink W) (request : O → W → Drawn O W)
    (progress : Progress O W) : Progress O W :=
  progress.observers.foldl (ask sink request) { progress with observers := [] }

def redraw [Observer O W] (sink : Sink W) (progress : Progress O W) : Progress O W :=
  let drawn := progress.askAll sink (Observer.render progress.navigator.view)
  { drawn with frames := drawn.frames + 1 }

def teardown [Observer O W] (sink : Sink W) (progress : Progress O W) : Progress O W :=
  progress.askAll sink Observer.teardown

/-- Applies one input and reports what it led to. -/
def advance (sink : Sink W) (progress : Progress O W) (turn : Turn) : Progress O W :=
  turn.events.foldl (emit sink)
    { progress with
      navigator := turn.navigator
      ran := progress.ran ++ turn.ran
      steps := progress.steps + 1 }

/-- Frames and inputs in turn. The answer holds the inputs left over and why it ended. -/
def drive [Observer O W] (sink : Sink W) (ending : Ending) (progress : Progress O W) :
    List Input → Progress O W × List Input × Except MenuError EndReason
  | [] =>
    let drawn := progress.redraw sink
    match ending with
    | .closed => (drawn, [], .ok .inputClosed)
    | .failed cause => (drawn, [], .error (.terminal cause))
  | input :: rest =>
    let drawn := progress.redraw sink
    let turn := drawn.navigator.handle input
    let moved := drawn.advance sink turn
    match turn.step with
    | .terminated => (moved, rest, .ok .backAtRoot)
    | .continued => drive sink ending moved rest

end Progress

/-- Runs a session. Observers are torn down however it ends; the end is reported unless reading
failed. A session that was over before it started has no frames. -/
def runSession {O W : Type} [Observer O W] (sink : Sink W) (source : InputSource)
    (navigator : Navigator) (observers : List O) (world : W) : Run O W :=
  let initial : Progress O W := { navigator := navigator, observers := observers, world := world }
  let label := (navigator.tree.node navigator.root).label
  let started := initial.emit sink (.sessionStarted navigator.root label)
  let (driven, remaining, outcome) :=
    if navigator.terminated then (started, source.pending, .ok .backAtRoot)
    else started.drive sink source.ending source.pending
  let tornDown := driven.teardown sink
  let final :=
    match outcome with
    | .error _ => tornDown
    | .ok reason => tornDown.emit sink (.sessionEnded reason tornDown.steps)
  { navigator := final.navigator
    observers := final.observers
    world := final.world
    remaining := remaining
    events := final.events.toList
    ran := final.ran.toList
    result := outcome.map fun reason =>
      { reason := reason
        steps := final.steps
        frames := final.frames
        renderFailures := final.failures } }

end PanelMenu
