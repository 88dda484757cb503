import PanelMenu.Proofs.SessionProtocol

/-! What holds throughout a session because no observer and no report can undo it; and how a session
ends: the last frame already shows what is left at the end. -/

namespace PanelMenu

namespace Navigator

theorem Takes.running_of_continued {navigator : Navigator} {input : Input} {turn : Turn}
    (takes : navigator.Takes input turn) (continued : turn.step = .continued) :
    turn.navigator.terminated = false := by
  cases takes with
  | late | closed => cases continued
  | idle running | stuck running | moved running | entered running | acted running | ascended running => exact running

theorem Takes.view_of_terminated {navigator : Navigator} {input : Input} {turn : Turn}
    (takes : navigator.Takes input turn) (ends : turn.step = .terminated) :
    turn.navigator.view = navigator.view := by
  cases takes with
  | late | closed => rfl
  | idle | stuck | moved | entered | acted | ascended => cases ends

/-- The view in front of the last input that is heard, or of the end of the inputs, is the final one. -/
theorem view_lasting {navigator : Navigator} (running : navigator.terminated = false) (inputs : List Input) :
    (navigator.after (inputs.take (navigator.lasting inputs))).view =
      (navigator.after (navigator.heard inputs)).view := by
  rw [heard, rounds_running running]
  induction inputs generalizing navigator with
  | nil => rfl
  | cons input rest ih =>
    have takes := navigator.handle_takes input
    rw [lasting_cons]
    cases step : (navigator.handle input).step with
    | terminated =>
      rw [if_pos rfl, List.take_zero, Nat.zero_add, List.take_succ_cons, List.take_zero, after_cons]
      exact (takes.view_of_terminated step).symm
    | continued =>
      rw [if_neg Step.noConfusion, List.take_succ_cons, List.take_succ_cons, after_cons, after_cons]
      exact ih (takes.running_of_continued step)

end Navigator

section Session
variable {O W : Type} [Observer O W] {sink : Sink W}

theorem Asked.of_append (request : O → W → Drawn O W) (first rest : List O) (world : W) :
    Asked.of sink request (first ++ rest) world =
      let before := Asked.of sink request first world
      let after := Asked.of sink request rest before.world
      { observers := before.observers ++ after.observers
        world := after.world
        answers := before.answers ++ after.answers } := by
  induction first generalizing world with
  | nil => rfl
  | cons observer first ih => simp only [List.cons_append, Asked.of, ih]

/-- Neither reports nor frames undo what holds of the observers and the world. -/
structure Sink.Invariant (sink : Sink W) (holds : List O → W → Prop) : Prop where
  told : ∀ event observers world, holds observers world → holds observers (sink event world)
  drawn : ∀ view observers world, holds observers world →
    let asked := Asked.of sink (Observer.render view) observers world
    holds asked.observers asked.world

def Progress.Has (progress : Progress O W) (holds : List O → W → Prop) : Prop :=
  holds progress.observers progress.world

section Invariant
variable {holds : List O → W → Prop}

omit [Observer O W] in
theorem Progress.Has.advance {progress : Progress O W} (initial : progress.Has holds)
    (told : ∀ event observers world, holds observers world → holds observers (sink event world)) (turn : Turn) :
    (progress.advance sink turn).Has holds := by
  rw [Progress.advance, Progress.foldl_emit]
  apply List.foldlRecOn (motive := holds progress.observers)
  · exact initial
  · intro world kept event _
    exact told event _ world kept

theorem Progress.Has.concluded {progress : Progress O W} (initial : progress.Has holds)
    (told : ∀ event observers world, holds observers world → holds observers (sink event world))
    (parted : holds progress.observers progress.world →
      let asked := Asked.of sink Observer.teardown progress.observers progress.world
      holds asked.observers asked.world)
    (outcome : Except MenuError EndReason) : (progress.concluded sink outcome).Has holds := by
  have tornDown : (progress.teardown sink).Has holds := by
    rw [Progress.teardown, Progress.askAll_eq]
    exact parted initial
  cases outcome with
  | error failure => exact tornDown
  | ok reason => exact told _ _ _ tornDown

namespace Sink.Invariant
variable (invariant : sink.Invariant holds)
include invariant

theorem redraw {progress : Progress O W} (initial : progress.Has holds) : (progress.redraw sink).Has holds := by
  rw [Progress.redraw, Progress.askAll_eq]
  exact invariant.drawn _ _ _ initial

theorem played {progress : Progress O W} (initial : progress.Has holds) (inputs : List Input) :
    (progress.played sink inputs).Has holds := by
  rw [Progress.played]
  apply List.foldlRecOn (motive := fun state : Progress O W => state.Has holds)
  · exact initial
  · intro state kept input _
    exact (invariant.redraw kept).advance invariant.told _

theorem exhausted {observers : List O} {world : W} (initial : holds observers world) (navigator : Navigator)
    (inputs : List Input) : (Progress.exhausted sink navigator inputs observers world).Has holds := by
  have opened : (Progress.opened sink navigator observers world).Has holds := invariant.told _ _ _ initial
  have played := invariant.played opened (navigator.heard inputs)
  rw [Progress.exhausted]
  split
  · exact played
  · exact invariant.redraw played

/-- What not even the teardown undoes, and holds at the start of a session, holds at its end. -/
theorem run {observers : List O} {world : W} (initial : holds observers world)
    (parted : ∀ observers world, holds observers world →
      let asked := Asked.of sink Observer.teardown observers world
      holds asked.observers asked.world)
    (source : InputSource) (navigator : Navigator) :
    holds (runSession sink source navigator observers world).observers
      (runSession sink source navigator observers world).world := by
  have exhausted := invariant.exhausted initial navigator source.pending
  rw [runSession_eq]
  exact exhausted.concluded invariant.told (parted _ _) _

end Sink.Invariant
end Invariant

theorem Progress.exhausted_eq {navigator : Navigator} (running : navigator.terminated = false) (inputs : List Input)
    (observers : List O) (world : W) :
    exhausted sink navigator inputs observers world =
      let shown := ((opened sink navigator observers world).played sink
        (inputs.take (navigator.lasting inputs))).redraw sink
      match inputs[navigator.lasting inputs]? with
      | none => shown
      | some input => shown.advance sink (shown.navigator.handle input) := by
  rw [exhausted, Navigator.heard, Navigator.rounds_running running, Navigator.leaves_running running,
    List.take_add_one]
  cases left : (navigator.turns inputs).any (·.step == .terminated) with
  | true =>
    have within := List.getElem?_eq_getElem (Navigator.lasting_lt.mpr left)
    rw [within, if_pos rfl, Option.toList_some, played, List.foldl_append]
    rfl
  | false =>
    have outside : inputs[navigator.lasting inputs]? = none := by
      rw [Navigator.lasting_eq left, List.getElem?_eq_none_iff]
    rw [outside, if_neg Bool.false_ne_true, Option.toList_none, List.append_nil]

theorem Progress.length_answersAfter (progress : Progress O W) (inputs : List Input) :
    (progress.answersAfter sink inputs).length = progress.observers.length :=
  (length_answers sink _ _).trans (progress.played_observers sink inputs)

section Signs
variable (sink) (source : InputSource) {navigator : Navigator} (running : navigator.terminated = false)
  (observers : List O) (world : W)

theorem runSession_signs (navigator : Navigator) :
    (runSession sink.watched source navigator (Watched.all 0 observers) { world := world }).world.signs =
      navigator.transcript source ((Progress.opened sink navigator observers world).answersAfter sink)
        ((Progress.exhausted sink navigator source.pending observers world).answers sink .teardown)
        ((navigator.outcome source).map (Progress.finished sink source navigator observers world).summary) := by
  rw [runSession_eq, Progress.watched_finished]
  rfl

theorem runSession_requestOf (navigator : Navigator) {place : Nat} (seated : place < observers.length) :
    (runSession sink.watched source navigator (Watched.all 0 observers) { world := world }).world.signs.filterMap
        (Sign.requestOf? place) =
      (List.range (navigator.rounds source.pending)).map
        (fun index => .frame (navigator.after (source.pending.take index)).view) ++ [.teardown] := by
  have parted : ((Progress.exhausted sink navigator source.pending observers world).answers sink .teardown).length =
      observers.length :=
    (Progress.length_answers sink _ _).trans (Progress.exhausted_observers sink navigator source.pending observers world)
  rw [runSession_signs]
  exact navigator.transcript_requestOf (Progress.length_answersAfter _) parted seated source _

include running

theorem mem_signs_lasting {place : Nat} {answer : Option Complaint}
    (given : ((Progress.opened sink navigator observers world).answersAfter sink
      (source.pending.take (navigator.lasting source.pending)))[place]? = some answer) :
    .asked place (.frame (navigator.after (source.pending.take (navigator.lasting source.pending))).view) answer ∈
      (runSession sink.watched source navigator (Watched.all 0 observers) { world := world }).world.signs := by
  have shown : navigator.lasting source.pending ∈ List.range (navigator.rounds source.pending) := by
    rw [Navigator.rounds_running running]
    exact List.self_mem_range_succ
  rw [runSession_signs, Navigator.transcript]
  apply List.mem_append_left
  apply List.mem_append_left
  apply List.mem_cons_of_mem
  exact List.mem_flatMap.mpr ⟨_, shown, List.mem_append_left _ (Request.mem_signs given)⟩

/-- The last frame that anyone is asked for shows where the session ended. -/
theorem requestOf_last_frame {place : Nat} (seated : place < observers.length) :
    let run := runSession sink source navigator observers world
    let watched := runSession sink.watched source navigator (Watched.all 0 observers) { world := world }
    ∃ frames, watched.world.signs.filterMap (Sign.requestOf? place) =
      frames ++ [.frame run.navigator.view, .teardown] := by
  intro run watched
  have last : (navigator.after (source.pending.take (navigator.lasting source.pending))).view = run.navigator.view := by
    rw [(runSession_folds sink source navigator observers world).navigator_eq]
    exact Navigator.view_lasting running source.pending
  have requests := runSession_requestOf sink source observers world navigator seated
  rw [Navigator.rounds_running running, List.range_succ, List.map_append, List.map_singleton, last,
    List.append_assoc] at requests
  exact ⟨_, requests⟩

end Signs
end Session
end PanelMenu
