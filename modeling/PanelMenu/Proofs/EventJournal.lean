import Mathlib.Logic.Function.Basic
import PanelMenu.Proofs.BuildGrowth

/-! The events of a navigator are a complete journal. Whoever knows the menu and follows the events knows
the current entry, all selections and whether navigation is over, without looking at the navigator. -/

namespace PanelMenu

def Event.source? : Event → Option NodeId
  | .moved node _ => some node
  | .entered source _ | .ascended source _ | .returnedToRoot source _ => some source
  | _ => none

/-- What a reader of events knows of a navigator. -/
structure Replica where
  current : NodeId
  selected : NodeId → Nat
  ended : Bool

namespace Replica

def start (root : NodeId) : Replica where
  current := root
  selected := fun _ => 0
  ended := false

/-- An entered menu begins at its first place again. Only the exit hook of the root is the end. -/
def learn (root : NodeId) (replica : Replica) : Event → Replica
  | .moved node selected => { replica with selected := Function.update replica.selected node selected }
  | .entered _ target =>
    { replica with current := target, selected := Function.update replica.selected target 0 }
  | .ascended _ target => { replica with current := target }
  | .returnedToRoot _ top => { replica with current := top }
  | .hookFired node _ .exit _ => if node = root then { replica with ended := true } else replica
  | _ => replica

end Replica

namespace Navigator

def replica (navigator : Navigator) : Replica where
  current := navigator.current
  selected := fun id => (navigator.tree.node id).selected
  ended := navigator.terminated

theorem Takes.source_eq {navigator : Navigator} {input : Input} {turn : Turn} (takes : navigator.Takes input turn)
    {event : Event} (reported : event ∈ turn.events) {source : NodeId} (known : event.source? = some source) :
    source = navigator.current := by
  cases takes with
  | late => cases reported
  | idle | stuck | closed =>
    obtain rfl := List.mem_singleton.mp reported
    cases known
  | moved =>
    obtain rfl := List.mem_singleton.mp reported
    exact (Option.some.inj known).symm
  | entered | acted | ascended =>
    rcases List.mem_cons.mp reported with rfl | last
    · cases known <;> rfl
    · obtain rfl := List.mem_singleton.mp last
      cases known <;> rfl

theorem Takes.silent_iff {navigator : Navigator} {input : Input} {turn : Turn} (takes : navigator.Takes input turn) :
    turn.events = [] ↔ navigator.terminated = true := by
  cases takes with
  | late ended => simp [ended]
  | idle running | stuck running | moved running | entered running | acted running | ascended running
  | closed running => simp [running]

private theorem selected_select {tree : Tree} {id : NodeId} (inside : id < tree.size) (index : Nat) :
    (fun other => ((tree.select id index).node other).selected) =
      Function.update (fun other => (tree.node other).selected) id index := by
  funext other
  rw [Tree.node_select, Function.update_apply]
  by_cases same : other = id
  · subst same
    rw [if_pos ⟨rfl, inside⟩, if_pos rfl]
  · rw [if_neg same, if_neg fun here => same here.1.symm]

section Chained
variable {tree : Tree} {root : NodeId} {navigator : Navigator} (chained : Chained tree root navigator)
include chained

theorem Chained.parent_root (alone : (tree.node root).parent = none) :
    (navigator.tree.node root).parent = none :=
  (Tree.same_parent chained.cleared_eq root).trans alone

theorem Chained.learn_turn (grown : tree.Grown) (alone : (tree.node root).parent = none) {input : Input} {turn : Turn}
    (takes : navigator.Takes input turn) :
    turn.events.foldl (Replica.learn root) navigator.replica = turn.navigator.replica := by
  cases takes with
  | late | idle | stuck => rfl
  | moved _ _ inner =>
    have inside : navigator.current < navigator.tree.size := by
      by_contra outside
      rw [currentNode, Tree.node_outside (Nat.le_of_not_lt outside)] at inner
      exact inner rfl
    simp only [List.foldl_cons, List.foldl_nil, Replica.learn, replica, selected_select inside]
  | entered _ chosen =>
    have inside := Tree.inside_of_parent (chained.linked grown chosen)
    simp only [List.foldl_cons, List.foldl_nil, Tree.fired, Replica.learn, replica, selected_select inside]
  | acted => rfl
  | ascended _ linked =>
    have nested : navigator.current ≠ root := by
      rintro same
      rw [currentNode, same, chained.parent_root alone] at linked
      cases linked
    simp only [List.foldl_cons, List.foldl_nil, Tree.fired, Replica.learn, if_neg nested, replica]
  | closed _ parentless =>
    simp only [List.foldl_cons, List.foldl_nil, Tree.fired, Replica.learn, if_pos (chained.at_root parentless), replica]

theorem Chained.learn_turns (grown : tree.Grown) (alone : (tree.node root).parent = none) (inputs : List Input) :
    ((navigator.turns inputs).flatMap (·.events)).foldl (Replica.learn root) navigator.replica =
      (navigator.after inputs).replica := by
  induction inputs generalizing navigator with
  | nil => rfl
  | cons input rest ih =>
    have takes := navigator.handle_takes input
    rw [turns, List.flatMap_cons, List.foldl_append, chained.learn_turn grown alone takes, after_cons]
    exact ih (chained.turn grown alone takes)

end Chained

theorem Fresh.replica_eq {navigator : Navigator} (fresh : navigator.Fresh) :
    navigator.replica = Replica.start navigator.root := by
  have unselected : (fun id => (navigator.tree.node id).selected) = fun _ => 0 :=
    funext fresh.grown.unselected
  rw [replica, unselected, fresh.current, fresh.running]
  rfl

/-- A reader of the events over some inputs knows all of the state they lead to, and can tell from the
next input where it found the navigator. -/
structure Journaled (navigator : Navigator) (inputs : List Input) : Prop where
  replica_eq : ((navigator.turns inputs).flatMap (·.events)).foldl (Replica.learn navigator.root)
    (Replica.start navigator.root) = (navigator.after inputs).replica
  source_eq : ∀ input, ∀ event ∈ ((navigator.after inputs).handle input).events, ∀ source,
    event.source? = some source → source = (navigator.after inputs).current
  silent_iff : ∀ input, ((navigator.after inputs).handle input).events = [] ↔
    (navigator.after inputs).terminated = true

theorem journal_complete {registry : Registry} {spec : MenuSpec} {navigator : Navigator}
    (built : Navigator.build registry spec = .ok navigator) (inputs : List Input) : navigator.Journaled inputs := by
  have fresh := fresh_of_build built
  constructor
  case replica_eq =>
    rw [← fresh.replica_eq]
    exact fresh.chained.learn_turns fresh.grown fresh.alone inputs
  case source_eq =>
    intro input event reported source known
    exact ((navigator.after inputs).handle_takes input).source_eq reported known
  case silent_iff =>
    intro input
    exact ((navigator.after inputs).handle_takes input).silent_iff

theorem journal_of_demo :
    ∃ navigator, Navigator.build { policy := .announcing } .demo = .ok navigator ∧
      navigator.Journaled [.commit, .down, .commit, .commit, .up, .back] :=
  have built : Navigator.build { policy := .announcing } .demo = .ok _ := rfl
  ⟨_, built, journal_complete built _⟩

end Navigator
end PanelMenu
