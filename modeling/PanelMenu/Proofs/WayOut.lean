import PanelMenu.Proofs.HookBrackets
import PanelMenu.Proofs.Reachable

/-! From every entry there is a way out: one step back for each entry above it, and one more, which is the end.
Nothing happens after the end. -/

namespace PanelMenu.Navigator

/-- What it comes to when all entries of `way` are left, the current one first and the root last. -/
structure WayOut (navigator : Navigator) (way : List NodeId) : Prop where
  steps : (navigator.turns (List.replicate way.length .back)).map (·.step) =
    List.replicate way.tail.length .continued ++ [.terminated]
  states : (navigator.turns (List.replicate way.length .back)).map (·.navigator) =
    way.tail.map (fun above => { navigator with current := above }) ++
      [{ navigator with current := navigator.root, terminated := true }]
  hooks : ((navigator.turns (List.replicate way.length .back)).flatMap (·.events)).filter (·.hook?.isSome) =
    way.map (navigator.tree.fired · .exit)
  ran : (navigator.turns (List.replicate way.length .back)).flatMap (·.ran) =
    way.flatMap (navigator.tree.answering · .exit)

private theorem WayOut.at_root {navigator : Navigator} (running : navigator.terminated = false)
    (alone : navigator.currentNode.parent = none) (topmost : navigator.current = navigator.root) :
    navigator.WayOut [navigator.current] := by
  have left := (Takes.closed running alone).handle_eq
  constructor
  case steps => simp [turns, left]
  case states => simp [turns, left, topmost]
  case hooks => simp [turns, left, Tree.fired, Event.hook?]
  case ran => simp [turns, left]

private theorem WayOut.upward {navigator : Navigator} {parent : NodeId} {above : List NodeId}
    (running : navigator.terminated = false) (linked : navigator.currentNode.parent = some parent)
    (onward : WayOut { navigator with current := parent } (parent :: above)) :
    navigator.WayOut (navigator.current :: parent :: above) := by
  have left := (Takes.ascended running linked).handle_eq
  obtain ⟨steps, states, hooks, ran⟩ := onward
  constructor
  case steps =>
    rw [List.length_cons, List.replicate_succ, turns, left, List.map_cons, steps]
    rfl
  case states =>
    rw [List.length_cons, List.replicate_succ, turns, left, List.map_cons, states]
    rfl
  case hooks =>
    rw [List.length_cons, List.replicate_succ, turns, left, List.flatMap_cons, List.filter_append, hooks]
    rfl
  case ran =>
    rw [List.length_cons, List.replicate_succ, turns, left, List.flatMap_cons, ran]
    rfl

theorem wayOut_of_climbs {tree : Tree} {root id : NodeId} {way : List NodeId} (climbs : tree.Climbs id way)
    (last : way.getLast? = some root) : ({ tree := tree, root := root, current := id } : Navigator).WayOut way := by
  induction climbs with
  | top alone =>
    obtain rfl := Option.some.inj last
    exact .at_root rfl alone rfl
  | up linked further ih =>
    obtain ⟨above, rfl⟩ := further.head
    exact .upward rfl linked (ih (by simpa using last))

/-- The same answer to every input, no events, no handlers, and the same state, its view included. -/
structure Frozen (navigator : Navigator) (inputs : List Input) : Prop where
  turns_eq : navigator.turns inputs =
    List.replicate inputs.length ({ navigator := navigator, step := .terminated } : Turn)
  after_eq : navigator.after inputs = navigator

theorem frozen_of_ended {navigator : Navigator} (ended : navigator.terminated = true) (inputs : List Input) :
    navigator.Frozen inputs := by
  induction inputs with
  | nil => exact ⟨rfl, rfl⟩
  | cons input rest ih =>
    have late : navigator.handle input = { navigator := navigator, step := .terminated } :=
      (Takes.late ended).handle_eq
    constructor
    · rw [turns, late, ih.turns_eq]
      rfl
    · rw [after_cons, late, ih.after_eq]

/-- Until the end the way up from the current entry is a way out, and from the end on nothing changes. -/
theorem out_then_frozen {navigator : Navigator} (reachable : navigator.Reachable) :
    (navigator.terminated = false → ∃ way, navigator.tree.Climbs navigator.current way ∧
        way.length = navigator.tree.depth navigator.current + 1 ∧ navigator.WayOut way) ∧
      (navigator.terminated = true → ∀ inputs, navigator.Frozen inputs) := by
  refine ⟨fun running => ?_, frozen_of_ended⟩
  have climbs := reachable.climbs
  refine ⟨_, climbs, ?_, ?_⟩
  · rw [climbs.depth_eq]
    obtain ⟨above, same⟩ := climbs.head
    rw [same]
    rfl
  · have out := wayOut_of_climbs climbs reachable.lineage_last
    rcases navigator with ⟨tree, root, current, terminated⟩
    obtain rfl : terminated = false := running
    exact out

theorem way_out_of_demo :
    ∃ navigator, Navigator.build { policy := .announcing } .demo = .ok navigator ∧
      (∃ way, way.length = 3 ∧ (navigator.after [.commit, .up, .commit]).WayOut way) ∧
      (navigator.after [.commit, .back, .back]).Frozen [.up, .commit, .back, .noop] := by
  obtain ⟨navigator, built⟩ : ∃ navigator, Navigator.build { policy := .announcing } .demo = .ok navigator := ⟨_, rfl⟩
  have reachable := Reachable.of_build built
  refine ⟨navigator, built, ?_⟩
  cases Except.ok.inj built
  constructor
  · obtain ⟨way, _, length, out⟩ := (out_then_frozen (reachable.after [.commit, .up, .commit])).1 rfl
    exact ⟨way, length, out⟩
  · exact (out_then_frozen (reachable.after [.commit, .back, .back])).2 rfl _

end PanelMenu.Navigator
