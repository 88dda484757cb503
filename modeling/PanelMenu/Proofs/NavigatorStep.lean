import PanelMenu.Navigation.Navigator
import PanelMenu.Proofs.TreeAncestry

/-! Everything that one input can do to a navigator, said once. Later proofs go through the cases of
`Takes` and never unfold `handle`. -/

namespace PanelMenu

def Tree.fired (tree : Tree) (id : NodeId) (hook : Hook) : Event :=
  .hookFired id (tree.node id).label hook ((tree.node id).callbacks.get hook).binding

def Tree.answering (tree : Tree) (id : NodeId) (hook : Hook) : List Handler :=
  ((tree.node id).callbacks.get hook).handlers

def Input.delta? : Input → Option Int
  | .up => some (-1)
  | .down => some 1
  | _ => none

namespace Navigator

/-- The place `delta` further in a circle of `count` places. -/
def rotated (delta : Int) (selected count : Nat) : Nat :=
  ((selected + delta) % count).toNat

theorem rotated_lt (delta : Int) (selected : Nat) {count : Nat} (inhabited : 0 < count) :
    rotated delta selected count < count := by
  have positive : (0 : Int) < count := by exact_mod_cast inhabited
  have lower := Int.emod_nonneg (selected + delta) (Int.ne_of_gt positive)
  have upper := Int.emod_lt_of_pos (selected + delta) positive
  simp only [rotated]
  omega

theorem next_eq_rotated (selected count : Nat) : next selected count = rotated 1 selected count := by
  have wrapped : ((next selected count : Nat) : Int) = (selected + 1) % count := by
    rw [next, Int.natCast_emod, Int.natCast_add, Int.natCast_one]
  rw [rotated, ← wrapped, Int.toNat_natCast]

theorem previous_eq_rotated (selected : Nat) {count : Nat} (inhabited : 0 < count) :
    previous selected count = rotated (-1) selected count := by
  have shifted : ((selected + (count - 1) : Nat) : Int) = selected + -1 + count := by omega
  have wrapped : ((previous selected count : Nat) : Int) = (selected + -1) % count := by
    rw [previous, Int.natCast_emod, shifted, Int.add_emod_right]
  rw [rotated, ← wrapped, Int.toNat_natCast]

/-- The turns that an input can take, each with the state it leads to, its answer, its events and
the handlers that run. -/
inductive Takes (navigator : Navigator) : Input → Turn → Prop where
  | late {input} (ended : navigator.terminated = true) :
      Takes navigator input { navigator := navigator, step := .terminated }
  | idle (running : navigator.terminated = false) :
      Takes navigator .noop { navigator := navigator, events := [.inputIgnored] }
  | stuck {input delta} (running : navigator.terminated = false) (moves : input.delta? = some delta)
      (leaf : navigator.currentNode.children = []) :
      Takes navigator input { navigator := navigator, events := [.inputIgnored] }
  | moved {input delta selected} (running : navigator.terminated = false) (moves : input.delta? = some delta)
      (inner : navigator.currentNode.children ≠ [])
      (turned : selected = rotated delta navigator.currentNode.selected navigator.currentNode.children.length) :
      Takes navigator input
        { navigator := { navigator with tree := navigator.tree.select navigator.current selected }
          events := [.moved navigator.current selected] }
  | entered {child} (running : navigator.terminated = false)
      (chosen : navigator.currentNode.selectedChild = some child) :
      Takes navigator .commit
        { navigator := { navigator with tree := navigator.tree.select child 0, current := child }
          events := [.entered navigator.current child, navigator.tree.fired child .enter]
          ran := navigator.tree.answering child .enter }
  | acted {top} (running : navigator.terminated = false)
      (unchosen : navigator.currentNode.selectedChild = none)
      (topmost : top = navigator.tree.rootOf navigator.current) :
      Takes navigator .commit
        { navigator := { navigator with current := top }
          events := [navigator.tree.fired navigator.current .action, .returnedToRoot navigator.current top]
          ran := navigator.tree.answering navigator.current .action }
  | ascended {parent} (running : navigator.terminated = false)
      (linked : navigator.currentNode.parent = some parent) :
      Takes navigator .back
        { navigator := { navigator with current := parent }
          events := [navigator.tree.fired navigator.current .exit, .ascended navigator.current parent]
          ran := navigator.tree.answering navigator.current .exit }
  | closed (running : navigator.terminated = false) (alone : navigator.currentNode.parent = none) :
      Takes navigator .back
        { navigator := { navigator with terminated := true }
          step := .terminated
          events := [navigator.tree.fired navigator.current .exit]
          ran := navigator.tree.answering navigator.current .exit }

private theorem moveSelection_takes {navigator : Navigator} {input : Input} {delta : Int}
    {move : Nat → Nat → Nat} (running : navigator.terminated = false) (moves : input.delta? = some delta)
    (rotates : ∀ selected count, 0 < count → move selected count = rotated delta selected count) :
    navigator.Takes input (navigator.moveSelection move) := by
  by_cases leaf : navigator.currentNode.children = []
  · simpa [moveSelection, Node.isLeaf, leaf] using Takes.stuck running moves leaf
  · have inhabited := List.length_pos_iff.mpr leaf
    simpa [moveSelection, Node.isLeaf, leaf, rotates _ _ inhabited] using Takes.moved running moves leaf rfl

theorem commit_takes {navigator : Navigator} (running : navigator.terminated = false) :
    navigator.Takes .commit navigator.commit := by
  unfold commit
  split
  next child chosen => exact .entered running chosen
  next unchosen => exact .acted running unchosen rfl

private theorem back_takes {navigator : Navigator} (running : navigator.terminated = false) :
    navigator.Takes .back navigator.back := by
  unfold back
  split
  next parent linked => exact .ascended running linked
  next alone => exact .closed running alone

theorem handle_takes (navigator : Navigator) (input : Input) :
    navigator.Takes input (navigator.handle input) := by
  unfold handle
  split
  next ended => exact .late ended
  next unfinished =>
    have running : navigator.terminated = false := by simpa using unfinished
    cases input with
    | up => exact moveSelection_takes running rfl (fun selected _ => previous_eq_rotated selected)
    | down => exact moveSelection_takes running rfl (fun selected count _ => next_eq_rotated selected count)
    | commit => exact commit_takes running
    | back => exact back_takes running
    | noop => exact .idle running

theorem Takes.handle_eq {navigator : Navigator} {input : Input} {turn : Turn}
    (takes : navigator.Takes input turn) : navigator.handle input = turn := by
  cases takes with
  | late ended => simp [handle, ended]
  | idle running => simp [handle, running]
  | stuck running moves leaf =>
    have isLeaf : navigator.currentNode.isLeaf = true := List.isEmpty_iff.mpr leaf
    cases input with
    | up | down => simp [handle, running, moveSelection, isLeaf]
    | commit | back | noop => cases moves
  | moved running moves inner turned =>
    have notLeaf : navigator.currentNode.isLeaf = false := by simpa [Node.isLeaf] using inner
    subst turned
    cases input with
    | up =>
      cases moves
      simp [handle, running, moveSelection, notLeaf, previous_eq_rotated _ (List.length_pos_iff.mpr inner)]
    | down =>
      cases moves
      simp [handle, running, moveSelection, notLeaf, next_eq_rotated]
    | commit | back | noop => cases moves
  | entered running chosen =>
    simp only [handle, running, commit, chosen, Bool.false_eq_true, if_false]
    rfl
  | acted running unchosen topmost =>
    subst topmost
    simp only [handle, running, commit, unchosen, Bool.false_eq_true, if_false]
    rfl
  | ascended running linked =>
    simp only [handle, running, back, linked, Bool.false_eq_true, if_false]
    rfl
  | closed running alone =>
    simp only [handle, running, back, alone, Bool.false_eq_true, if_false]
    rfl

theorem Takes.root_eq {navigator : Navigator} {input : Input} {turn : Turn}
    (takes : navigator.Takes input turn) : turn.navigator.root = navigator.root := by
  cases takes <;> rfl

/-- Inputs change selections and nothing else of a tree. -/
theorem Takes.cleared_eq {navigator : Navigator} {input : Input} {turn : Turn}
    (takes : navigator.Takes input turn) : turn.navigator.tree.cleared = navigator.tree.cleared := by
  cases takes with
  | moved | entered => exact Tree.cleared_select _ _ _
  | late | idle | stuck | acted | ascended | closed => rfl

def after (navigator : Navigator) (inputs : List Input) : Navigator :=
  inputs.foldl (fun state input => (state.handle input).navigator) navigator

def turns (navigator : Navigator) : List Input → List Turn
  | [] => []
  | input :: rest => navigator.handle input :: (navigator.handle input).navigator.turns rest

@[simp] theorem after_nil (navigator : Navigator) : navigator.after [] = navigator := rfl

@[simp] theorem after_cons (navigator : Navigator) (input : Input) (rest : List Input) :
    navigator.after (input :: rest) = (navigator.handle input).navigator.after rest := rfl

theorem after_append (navigator : Navigator) (first rest : List Input) :
    navigator.after (first ++ rest) = (navigator.after first).after rest :=
  List.foldl_append

@[simp] theorem length_turns (navigator : Navigator) (inputs : List Input) :
    (navigator.turns inputs).length = inputs.length := by
  induction inputs generalizing navigator with
  | nil => rfl
  | cons input rest ih => simp [turns, ih]

theorem turns_append (navigator : Navigator) (first rest : List Input) :
    navigator.turns (first ++ rest) = navigator.turns first ++ (navigator.after first).turns rest := by
  induction first generalizing navigator with
  | nil => rfl
  | cons input first ih => rw [List.cons_append, turns, turns, ih, after_cons, List.cons_append]

theorem getElem?_turns (navigator : Navigator) (inputs : List Input) (index : Nat) :
    (navigator.turns inputs)[index]? = inputs[index]?.map (navigator.after (inputs.take index)).handle := by
  induction inputs generalizing navigator index with
  | nil => rfl
  | cons input rest ih =>
    cases index with
    | zero => rfl
    | succ index => exact ih _ index

/-- What every turn preserves holds after every list of inputs. -/
theorem after_preserves (holds : Navigator → Prop)
    (step : ∀ {navigator input turn}, holds navigator → navigator.Takes input turn → holds turn.navigator)
    {navigator : Navigator} (initial : holds navigator) (inputs : List Input) :
    holds (navigator.after inputs) := by
  induction inputs generalizing navigator with
  | nil => exact initial
  | cons input rest ih => exact ih (step initial (navigator.handle_takes input))

theorem after_root (navigator : Navigator) (inputs : List Input) : (navigator.after inputs).root = navigator.root :=
  after_preserves (·.root = navigator.root) (fun same takes => takes.root_eq.trans same) rfl inputs

theorem after_cleared (navigator : Navigator) (inputs : List Input) :
    (navigator.after inputs).tree.cleared = navigator.tree.cleared :=
  after_preserves (·.tree.cleared = navigator.tree.cleared) (fun same takes => takes.cleared_eq.trans same) rfl inputs

end Navigator
end PanelMenu
