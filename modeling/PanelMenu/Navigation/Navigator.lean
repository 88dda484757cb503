import PanelMenu.Menu.Build
import PanelMenu.Menu.View
import PanelMenu.Navigation.Event
import PanelMenu.Navigation.Input

/-! Moving through a menu. There is one cursor; every input moves it, moves the selection below it,
or ends the session when it asks to leave the root. -/

namespace PanelMenu

structure Navigator where
  tree : Tree
  root : NodeId
  current : NodeId
  terminated : Bool := false
  deriving DecidableEq, Repr

inductive Step
  | continued
  | terminated
  deriving DecidableEq, Repr

/-- What one input leads to: the next state, what is reported, and the handlers that run, in
order. -/
structure Turn where
  navigator : Navigator
  step : Step := .continued
  events : List Event := []
  ran : List Handler := []
  deriving DecidableEq, Repr

/-- Why an entry cannot be the root of a session. -/
inductive StartFault
  | noSuchNode (root : NodeId)
  | hasParent (root : NodeId)
  deriving DecidableEq, Repr

def StartFault.message : StartFault → String
  | .noSuchNode root => s!"root #{root} is not a node of this tree"
  | .hasParent root => s!"root #{root} must not have a parent"

namespace Navigator

def start (tree : Tree) (root : NodeId) : Except StartFault Navigator :=
  if tree.size ≤ root then .error (.noSuchNode root)
  else if (tree.node root).parent.isSome then .error (.hasParent root)
  else .ok { tree := tree, root := root, current := root }

/-- A navigator for a menu as written. The root of a built tree is entry 0, which has no parent. -/
def build (registry : Registry) (spec : MenuSpec) : Except UnknownCallback Navigator := do
  let tree ← Tree.build registry spec
  return { tree := tree, root := 0, current := 0 }

def currentNode (navigator : Navigator) : Node :=
  navigator.tree.node navigator.current

def view (navigator : Navigator) : View :=
  View.of navigator.tree navigator.current

/-- One place down among `count`, behind the last the first. -/
def next (selected count : Nat) : Nat :=
  (selected + 1) % count

/-- One place up among `count`, before the first the last. -/
def previous (selected count : Nat) : Nat :=
  (selected + (count - 1)) % count

def moveSelection (navigator : Navigator) (move : Nat → Nat → Nat) : Turn :=
  let node := navigator.currentNode
  if node.isLeaf then { navigator := navigator, events := [.inputIgnored] }
  else
    let selected := move node.selected node.children.length
    { navigator := { navigator with tree := navigator.tree.select navigator.current selected }
      events := [.moved navigator.current selected] }

private def fired (tree : Tree) (id : NodeId) (hook : Hook) : Event :=
  let node := tree.node id
  .hookFired id node.label hook (node.callbacks.get hook).binding

private def running (tree : Tree) (id : NodeId) (hook : Hook) : List Handler :=
  ((tree.node id).callbacks.get hook).handlers

/-- Goes down to the selected child, whose selection starts at the top again; on a leaf, runs its
action and goes back to the root. -/
def commit (navigator : Navigator) : Turn :=
  let source := navigator.current
  let tree := navigator.tree
  match navigator.currentNode.selectedChild with
  | some child =>
    { navigator := { navigator with tree := tree.select child 0, current := child }
      events := [.entered source child, fired tree child .enter]
      ran := running tree child .enter }
  | none =>
    let root := tree.rootOf source
    { navigator := { navigator with current := root }
      events := [fired tree source .action, .returnedToRoot source root]
      ran := running tree source .action }

/-- Leaves the current entry for its parent; leaving the root ends the session. -/
def back (navigator : Navigator) : Turn :=
  let source := navigator.current
  let event := fired navigator.tree source .exit
  let ran := running navigator.tree source .exit
  match navigator.currentNode.parent with
  | some parent =>
    { navigator := { navigator with current := parent }
      events := [event, .ascended source parent]
      ran := ran }
  | none =>
    { navigator := { navigator with terminated := true }
      step := .terminated
      events := [event]
      ran := ran }

/-- After the end nothing has any effect. -/
def handle (navigator : Navigator) (input : Input) : Turn :=
  if navigator.terminated then { navigator := navigator, step := .terminated }
  else
    match input with
    | .up => navigator.moveSelection previous
    | .down => navigator.moveSelection next
    | .commit => navigator.commit
    | .back => navigator.back
    | .noop => { navigator := navigator, events := [.inputIgnored] }

end Navigator
end PanelMenu
