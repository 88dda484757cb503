import PanelMenu.Proofs.NavigatorStep
import PanelMenu.Session.Run

/-! A session in closed form. Its loop is a fold of rounds, one for each input that it hears, and how
far it gets is decided by the navigator alone. -/

namespace PanelMenu

namespace Navigator

/-- How many inputs are answered before the one that ends the run, or all of them. -/
def lasting (navigator : Navigator) (inputs : List Input) : Nat :=
  (navigator.turns inputs).findIdx (·.step == .terminated)

/-- How many frames a session shows. Each is followed by a wait for an input. -/
def rounds (navigator : Navigator) (inputs : List Input) : Nat :=
  if navigator.terminated then 0 else navigator.lasting inputs + 1

/-- The inputs up to the first that ends the run, which is one of them. -/
def heard (navigator : Navigator) (inputs : List Input) : List Input :=
  inputs.take (navigator.rounds inputs)

def unheard (navigator : Navigator) (inputs : List Input) : List Input :=
  inputs.drop (navigator.rounds inputs)

def leaves (navigator : Navigator) (inputs : List Input) : Bool :=
  navigator.terminated || (navigator.turns inputs).any (·.step == .terminated)

theorem lasting_cons (navigator : Navigator) (input : Input) (rest : List Input) :
    navigator.lasting (input :: rest) =
      if (navigator.handle input).step = .terminated then 0
      else (navigator.handle input).navigator.lasting rest + 1 := by
  simp [lasting, turns, List.findIdx_cons, Bool.cond_eq_ite]

theorem lasting_lt {navigator : Navigator} {inputs : List Input} :
    navigator.lasting inputs < inputs.length ↔
      (navigator.turns inputs).any (·.step == .terminated) = true := by
  rw [← navigator.length_turns inputs, lasting, List.findIdx_lt_length, List.any_eq_true]

theorem lasting_le (navigator : Navigator) (inputs : List Input) :
    navigator.lasting inputs ≤ inputs.length := by
  rw [← navigator.length_turns inputs]
  exact List.findIdx_le_length

theorem lasting_eq {navigator : Navigator} {inputs : List Input}
    (stays : (navigator.turns inputs).any (·.step == .terminated) = false) :
    navigator.lasting inputs = inputs.length := by
  apply Nat.le_antisymm (navigator.lasting_le inputs)
  apply Nat.le_of_not_lt
  rw [lasting_lt, stays]
  exact Bool.false_ne_true

section Running
variable {navigator : Navigator} (running : navigator.terminated = false) (inputs : List Input)
include running

theorem rounds_running : navigator.rounds inputs = navigator.lasting inputs + 1 := by
  rw [rounds, running, if_neg Bool.false_ne_true]

theorem leaves_running : navigator.leaves inputs = (navigator.turns inputs).any (·.step == .terminated) := by
  rw [leaves, running, Bool.false_or]

end Running

theorem rounds_eq (navigator : Navigator) (inputs : List Input) :
    navigator.rounds inputs = (navigator.heard inputs).length + if navigator.leaves inputs then 0 else 1 := by
  rw [heard, List.length_take]
  cases running : navigator.terminated with
  | true => simp [rounds, leaves, running]
  | false =>
    rw [leaves_running running, rounds_running running]
    cases left : (navigator.turns inputs).any (·.step == .terminated) with
    | true =>
      have early := lasting_lt.mpr left
      rw [if_pos rfl]
      omega
    | false =>
      rw [lasting_eq left, if_neg Bool.false_ne_true]
      omega

end Navigator

def Ending.outcome : Ending → Except MenuError EndReason
  | .closed => .ok .inputClosed
  | .failed cause => .error (.terminal cause)

def Navigator.outcome (navigator : Navigator) (source : InputSource) : Except MenuError EndReason :=
  if navigator.leaves source.pending then .ok .backAtRoot else source.ending.outcome

structure Complaint where
  observer : String
  cause : String
  deriving DecidableEq, Repr

def Complaint.event (complaint : Complaint) : Event :=
  .renderFailed complaint.observer complaint.cause

section Session
variable {O W : Type} [Observer O W] (sink : Sink W)

def Drawn.complaint (drawn : Drawn O W) : Option Complaint :=
  drawn.failure.map fun failure => ⟨Observer.name drawn.observer, failure.message⟩

/-- What comes of asking several observers in turn: one answer each, `none` where all went well. -/
structure Asked (O W : Type) where
  observers : List O
  world : W
  answers : List (Option Complaint)

def Asked.of (request : O → W → Drawn O W) : List O → W → Asked O W
  | [], world => { observers := [], world := world, answers := [] }
  | observer :: rest, world =>
    let drawn := request observer world
    let reached :=
      match drawn.complaint with
      | none => drawn.world
      | some complaint => sink complaint.event drawn.world
    let later := Asked.of request rest reached
    { later with
      observers := drawn.observer :: later.observers
      answers := drawn.complaint :: later.answers }

def Asked.complaints (asked : Asked O W) : List Complaint :=
  asked.answers.filterMap id

theorem Asked.length_answers (request : O → W → Drawn O W) (observers : List O) (world : W) :
    (Asked.of sink request observers world).answers.length = observers.length := by
  induction observers generalizing world with
  | nil => rfl
  | cons observer rest ih => simp [Asked.of, ih]

theorem Asked.length_observers (request : O → W → Drawn O W) (observers : List O) (world : W) :
    (Asked.of sink request observers world).observers.length = observers.length := by
  induction observers generalizing world with
  | nil => rfl
  | cons observer rest ih => simp [Asked.of, ih]

namespace Progress

def heeding (progress : Progress O W) (asked : Asked O W) : Progress O W :=
  { progress with
    observers := asked.observers
    world := asked.world
    events := progress.events ++ (asked.complaints.map Complaint.event).toArray
    failures := progress.failures + asked.complaints.length }

private theorem foldl_ask (request : O → W → Drawn O W) (observers : List O) (progress : Progress O W) :
    observers.foldl (ask sink request) progress =
      let asked := Asked.of sink request observers progress.world
      progress.heeding { asked with observers := progress.observers ++ asked.observers } := by
  induction observers generalizing progress with
  | nil => simp [Asked.of, heeding, Asked.complaints]
  | cons observer rest ih =>
    rw [List.foldl_cons, ih]
    cases failed : (request observer progress.world).failure with
    | none => simp [ask, Asked.of, heeding, Asked.complaints, Drawn.complaint, failed]
    | some failure =>
      simp [ask, emit, Asked.of, heeding, Asked.complaints, Drawn.complaint, Complaint.event, failed, Nat.add_assoc,
        Nat.add_comm 1]

theorem askAll_eq (request : O → W → Drawn O W) (progress : Progress O W) :
    progress.askAll sink request =
      progress.heeding (Asked.of sink request progress.observers progress.world) := by
  rw [askAll, foldl_ask]
  rfl

omit [Observer O W] in
theorem foldl_emit (events : List Event) (progress : Progress O W) :
    events.foldl (emit sink) progress =
      { progress with
        world := events.foldl (fun world event => sink event world) progress.world
        events := progress.events ++ events.toArray } := by
  induction events generalizing progress with
  | nil => simp
  | cons event rest ih => simp [ih, emit]

def round (progress : Progress O W) (input : Input) : Progress O W :=
  let drawn := progress.redraw sink
  drawn.advance sink (drawn.navigator.handle input)

def played (progress : Progress O W) (inputs : List Input) : Progress O W :=
  inputs.foldl (round sink) progress

theorem redraw_navigator (progress : Progress O W) : (progress.redraw sink).navigator = progress.navigator := by
  rw [redraw, askAll_eq]
  rfl

omit [Observer O W] in
theorem advance_navigator (progress : Progress O W) (turn : Turn) :
    (progress.advance sink turn).navigator = turn.navigator := by
  rw [advance, foldl_emit]

theorem round_navigator (progress : Progress O W) (input : Input) :
    (progress.round sink input).navigator = (progress.navigator.handle input).navigator := by
  rw [round, advance_navigator, redraw_navigator]

/-- The loop leaves behind an input that ended the run, or waits in vain after a last frame. -/
theorem drive_eq (ending : Ending) (progress : Progress O W) (pending : List Input) :
    progress.drive sink ending pending =
      let lasting := progress.navigator.lasting pending
      if lasting < pending.length then
        (progress.played sink (pending.take (lasting + 1)), pending.drop (lasting + 1), .ok .backAtRoot)
      else ((progress.played sink pending).redraw sink, [], ending.outcome) := by
  induction pending generalizing progress with
  | nil => cases ending <;> rfl
  | cons input rest ih =>
    have turn : (progress.redraw sink).navigator.handle input = progress.navigator.handle input := by
      rw [redraw_navigator]
    have next : (progress.round sink input).navigator = (progress.navigator.handle input).navigator :=
      round_navigator sink progress input
    have moved : (progress.redraw sink).advance sink (progress.navigator.handle input) =
        progress.round sink input := by rw [round, turn]
    rw [drive]
    simp only [turn, moved]
    rw [Navigator.lasting_cons]
    cases step : (progress.navigator.handle input).step with
    | terminated => simp [played]
    | continued => simp [ih, next, played]

end Progress

def Progress.opened (navigator : Navigator) (observers : List O) (world : W) : Progress O W :=
  let initial : Progress O W := { navigator := navigator, observers := observers, world := world }
  initial.emit sink (.sessionStarted navigator.root (navigator.tree.node navigator.root).label)

/-- A session after its last input. Waiting in vain is done in front of one more frame. -/
def Progress.exhausted (navigator : Navigator) (inputs : List Input) (observers : List O) (world : W) :
    Progress O W :=
  let played := (Progress.opened sink navigator observers world).played sink (navigator.heard inputs)
  if navigator.leaves inputs then played else played.redraw sink

def Progress.concluded (progress : Progress O W) (outcome : Except MenuError EndReason) : Progress O W :=
  match outcome with
  | .error _ => progress.teardown sink
  | .ok reason => (progress.teardown sink).emit sink (.sessionEnded reason (progress.teardown sink).steps)

def Progress.summary (progress : Progress O W) (reason : EndReason) : Summary where
  reason := reason
  steps := progress.steps
  frames := progress.frames
  renderFailures := progress.failures

def Progress.run (progress : Progress O W) (remaining : List Input) (outcome : Except MenuError EndReason) :
    Run O W where
  navigator := progress.navigator
  observers := progress.observers
  world := progress.world
  remaining := remaining
  events := progress.events.toList
  ran := progress.ran.toList
  result := outcome.map progress.summary

/-- Whichever way the loop is left, or not entered at all, the rounds are those of the inputs heard. -/
private theorem driven_eq (source : InputSource) (navigator : Navigator) (observers : List O) (world : W) :
    let opened := Progress.opened sink navigator observers world
    (if navigator.terminated then (opened, source.pending, .ok .backAtRoot)
      else opened.drive sink source.ending source.pending) =
      (Progress.exhausted sink navigator source.pending observers world, navigator.unheard source.pending,
        navigator.outcome source) := by
  intro opened
  rw [Progress.exhausted, Navigator.outcome, Navigator.heard, Navigator.unheard]
  cases running : navigator.terminated with
  | true => simp [Navigator.rounds, Navigator.leaves, running, Progress.played, opened]
  | false =>
    have drive := opened.drive_eq sink source.ending source.pending
    rw [show opened.navigator = navigator from rfl] at drive
    rw [Navigator.leaves_running running, Navigator.rounds_running running]
    cases left : (navigator.turns source.pending).any (·.step == .terminated) with
    | true => simp [drive, Navigator.lasting_lt.mpr left, opened]
    | false => simp [drive, Navigator.lasting_eq left, List.take_of_length_le, List.drop_eq_nil_of_le, opened]

def Progress.finished (source : InputSource) (navigator : Navigator) (observers : List O) (world : W) :
    Progress O W :=
  (Progress.exhausted sink navigator source.pending observers world).concluded sink (navigator.outcome source)

theorem runSession_eq (source : InputSource) (navigator : Navigator) (observers : List O) (world : W) :
    runSession sink source navigator observers world =
      (Progress.finished sink source navigator observers world).run (navigator.unheard source.pending)
        (navigator.outcome source) := by
  have driven := driven_eq sink source navigator observers world
  rw [Progress.opened] at driven
  simp only [runSession, driven, Progress.finished]
  cases navigator.outcome source <;> rfl

end Session
end PanelMenu
