import PanelMenu.Proofs.SessionInvariant

/-! A session that is taken up again. Two sessions, one after the other, do with their inputs what one
session does with all of them, wherever the first stops: once the root is left nothing is heard any
more, and until then the second begins where the first has waited in vain. -/

namespace PanelMenu

namespace Navigator

theorem Takes.ended_of_terminated {navigator : Navigator} {input : Input} {turn : Turn}
    (takes : navigator.Takes input turn) (ends : turn.step = .terminated) : turn.navigator.terminated = true := by
  cases takes with
  | late ended => exact ended
  | closed => rfl
  | idle | stuck | moved | entered | acted | ascended => cases ends

section Ended
variable {navigator : Navigator} (ended : navigator.terminated = true) (inputs : List Input)
include ended

theorem rounds_ended : navigator.rounds inputs = 0 := if_pos ended

theorem heard_ended : navigator.heard inputs = [] := by
  rw [heard, rounds_ended ended, List.take_zero]

theorem leaves_ended : navigator.leaves inputs = true := by
  rw [leaves, ended, Bool.true_or]

end Ended

section Running
variable {navigator : Navigator} (running : navigator.terminated = false)
include running

theorem rounds_cons (input : Input) (rest : List Input) :
    navigator.rounds (input :: rest) = (navigator.handle input).navigator.rounds rest + 1 := by
  have takes := navigator.handle_takes input
  rw [rounds_running running, lasting_cons]
  cases step : (navigator.handle input).step with
  | terminated => rw [if_pos rfl, rounds_ended (takes.ended_of_terminated step)]
  | continued => rw [if_neg Step.noConfusion, rounds_running (takes.running_of_continued step)]

theorem heard_cons (input : Input) (rest : List Input) :
    navigator.heard (input :: rest) = input :: (navigator.handle input).navigator.heard rest := by
  rw [heard, rounds_cons running, List.take_succ_cons, heard]

theorem leaves_cons (input : Input) (rest : List Input) :
    navigator.leaves (input :: rest) = (navigator.handle input).navigator.leaves rest := by
  have takes := navigator.handle_takes input
  rw [leaves_running running, turns, List.any_cons]
  cases step : (navigator.handle input).step with
  | terminated => rw [leaves_ended (takes.ended_of_terminated step), beq_self_eq_true, Bool.true_or]
  | continued => rw [leaves_running (takes.running_of_continued step), beq_eq_false_iff_ne.mpr Step.noConfusion, Bool.false_or]

end Running

def left (navigator : Navigator) (inputs : List Input) : Navigator :=
  navigator.after (navigator.heard inputs)

theorem left_ended {navigator : Navigator} (ended : navigator.terminated = true) (inputs : List Input) :
    navigator.left inputs = navigator := by
  rw [left, heard_ended ended, after_nil]

theorem left_nil (navigator : Navigator) : navigator.left [] = navigator := by
  rw [left, heard, List.take_nil, after_nil]

theorem left_cons {navigator : Navigator} (running : navigator.terminated = false) (input : Input) (rest : List Input) :
    navigator.left (input :: rest) = (navigator.handle input).navigator.left rest := by
  rw [left, heard_cons running, after_cons, left]

theorem heard_append (navigator : Navigator) (first rest : List Input) :
    navigator.heard (first ++ rest) = navigator.heard first ++ (navigator.left first).heard rest := by
  induction first generalizing navigator with
  | nil => rw [left_nil, List.nil_append, heard, heard, List.take_nil, List.nil_append]
  | cons input first ih =>
    cases running : navigator.terminated with
    | true => rw [left_ended running, heard_ended running, heard_ended running, heard_ended running, List.append_nil]
    | false => rw [List.cons_append, heard_cons running, heard_cons running, left_cons running, ih, List.cons_append]

theorem leaves_append (navigator : Navigator) (first rest : List Input) :
    navigator.leaves (first ++ rest) = (navigator.left first).leaves rest := by
  induction first generalizing navigator with
  | nil => rw [left_nil, List.nil_append]
  | cons input first ih =>
    cases running : navigator.terminated with
    | true => rw [left_ended running, leaves_ended running, leaves_ended running]
    | false => rw [List.cons_append, leaves_cons running, left_cons running, ih]

/-- Waiting in vain costs the first session a frame that the whole one does not show. -/
theorem rounds_append (navigator : Navigator) (first rest : List Input) :
    navigator.rounds first + (navigator.left first).rounds rest =
      navigator.rounds (first ++ rest) + if (navigator.left first).terminated then 0 else 1 := by
  induction first generalizing navigator with
  | nil =>
    cases running : navigator.terminated with
    | true => simp [left_nil, rounds_ended, running]
    | false => simp [left_nil, rounds_running running, running, lasting, turns, Nat.add_comm]
  | cons input first ih =>
    cases running : navigator.terminated with
    | true => rw [left_ended running, rounds_ended running, rounds_ended running, rounds_ended running, if_pos running]
    | false =>
      have later := ih (navigator.handle input).navigator
      rw [List.cons_append, rounds_cons running, rounds_cons running, left_cons running]
      omega

theorem left_append (navigator : Navigator) (first rest : List Input) :
    navigator.left (first ++ rest) = (navigator.left first).left rest := by
  rw [left, heard_append, after_append]
  rfl

theorem turns_heard_append (navigator : Navigator) (first rest : List Input) :
    navigator.turns (navigator.heard (first ++ rest)) =
      navigator.turns (navigator.heard first) ++ (navigator.left first).turns ((navigator.left first).heard rest) := by
  rw [heard_append, turns_append]
  rfl

end Navigator

theorem Input.ofScript_append (first rest : String) : ofScript (first ++ rest) = ofScript first ++ ofScript rest := by
  rw [ofScript, String.toList_append, List.filterMap_append]
  rfl

/-- Two runs in a row that come to what a third one comes to by itself. If the first has to stop because
the inputs run out, it shows a frame that is shown again when the second begins. -/
structure Run.Split {O W O' W' : Type} (begun resumed : Run O W) (whole : Run O' W') : Prop where
  navigator_eq : resumed.navigator = whole.navigator
  ran_eq : begun.ran ++ resumed.ran = whole.ran
  events_eq : (begun.events ++ resumed.events).filter (!·.aboutSession) = whole.events.filter (!·.aboutSession)
  reason_eq : resumed.result.map (·.reason) = whole.result.map (·.reason)
  counts : ∀ early late all, begun.result = .ok early → resumed.result = .ok late → whole.result = .ok all →
    early.steps + late.steps = all.steps ∧
      early.frames + late.frames = all.frames + if begun.navigator.terminated then 0 else 1

theorem Run.Folds.pace_eq {O W : Type} {run : Run O W} {navigator : Navigator} {source : InputSource}
    (folds : run.Folds navigator source) {summary : Summary} (ok : run.result = .ok summary) :
    summary.steps = (navigator.heard source.pending).length ∧ summary.frames = navigator.rounds source.pending := by
  have pace := folds.result_eq
  rw [ok] at pace
  obtain ⟨reason, _, same⟩ := Except.of_map_ok pace.symm
  obtain ⟨_, counts⟩ := Prod.mk.inj same
  obtain ⟨steps, frames⟩ := Prod.mk.inj counts
  exact ⟨steps.symm, frames.symm⟩

theorem Run.Folds.reason_eq {O W : Type} {run : Run O W} {navigator : Navigator} {source : InputSource}
    (folds : run.Folds navigator source) : run.result.map (·.reason) = navigator.outcome source := by
  have paces := congrArg (Except.map Prod.fst) folds.result_eq
  rw [Except.map_map, Except.map_map] at paces
  exact paces.trans (congrFun Except.map_id _)

theorem Run.Folds.split {O W O' W' : Type} {begun resumed : Run O W} {whole : Run O' W'} {navigator : Navigator}
    {first rest : List Input} {ending last : Ending}
    (begins : begun.Folds navigator { pending := first, ending := ending })
    (resumes : resumed.Folds begun.navigator { pending := rest, ending := last })
    (plays : whole.Folds navigator { pending := first ++ rest, ending := last }) : begun.Split resumed whole := by
  have between : begun.navigator = navigator.left first := begins.navigator_eq
  rw [between] at resumes
  constructor
  case navigator_eq => exact resumes.navigator_eq.trans ((navigator.left_append first rest).symm.trans plays.navigator_eq.symm)
  case ran_eq => rw [begins.ran_eq, resumes.ran_eq, plays.ran_eq, Navigator.turns_heard_append, List.flatMap_append]
  case events_eq =>
    rw [List.filter_append, begins.events_eq, resumes.events_eq, plays.events_eq, Navigator.turns_heard_append,
      List.flatMap_append]
  case reason_eq => rw [resumes.reason_eq, plays.reason_eq, Navigator.outcome, Navigator.outcome, Navigator.leaves_append]
  case counts =>
    intro early late all began resumed played
    obtain ⟨earlySteps, earlyFrames⟩ := begins.pace_eq began
    obtain ⟨lateSteps, lateFrames⟩ := resumes.pace_eq resumed
    obtain ⟨allSteps, allFrames⟩ := plays.pace_eq played
    constructor
    · rw [earlySteps, lateSteps, allSteps, Navigator.heard_append, List.length_append]
    · rw [earlyFrames, lateFrames, allFrames, between, Navigator.rounds_append]

/-- A session over one script and then, with the same observers, over another comes to a session over
both scripts in one, even if reading failed behind the first. -/
theorem runSession_split {O W O' W' : Type} [Observer O W] [Observer O' W'] (sink : Sink W) (sink' : Sink W')
    (first rest : String) (ending last : Ending) (navigator : Navigator) (observers : List O) (observers' : List O')
    (world : W) (world' : W') :
    let begun := runSession sink { pending := Input.ofScript first, ending := ending } navigator observers world
    let resumed :=
      runSession sink { pending := Input.ofScript rest, ending := last } begun.navigator begun.observers begun.world
    let whole := runSession sink' { pending := Input.ofScript (first ++ rest), ending := last } navigator observers' world'
    begun.Split resumed whole := by
  intro begun resumed whole
  have begins : begun.Folds navigator { pending := Input.ofScript first, ending := ending } := runSession_folds ..
  have resumes : resumed.Folds begun.navigator { pending := Input.ofScript rest, ending := last } := runSession_folds ..
  have plays : whole.Folds navigator { pending := Input.ofScript first ++ Input.ofScript rest, ending := last } := by
    rw [← Input.ofScript_append]
    exact runSession_folds ..
  exact begins.split resumes plays

end PanelMenu
