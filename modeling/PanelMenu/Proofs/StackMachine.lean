import PanelMenu.Menu.View
import PanelMenu.Proofs.MenuPath
import PanelMenu.Proofs.NavigatorStep
import PanelMenu.Proofs.TreeLayout

/-! Navigation without a tree of entries: a stack of places over the menu as it is written. All places
but the last lead down to the current entry, and the last is the selection in it. Leaving an entry
forgets its selection, so nothing has to be reset when it is entered again. -/

namespace PanelMenu

structure StackMachine where
  stack : List Nat := [0]
  terminated : Bool := false
  nonempty : stack ≠ [] := by simp
  deriving DecidableEq, Repr

namespace StackMachine

structure Reaction where
  machine : StackMachine
  step : Step := .continued
  events : List Event := []
  ran : List Handler := []
  deriving DecidableEq, Repr

def path (machine : StackMachine) : List Nat :=
  machine.stack.dropLast

def selected (machine : StackMachine) : Nat :=
  machine.stack.getLast machine.nonempty

theorem stack_eq (machine : StackMachine) : machine.stack = machine.path ++ [machine.selected] :=
  (List.dropLast_concat_getLast machine.nonempty).symm

theorem length_path (machine : StackMachine) : machine.path.length = machine.stack.length - 1 :=
  List.length_dropLast

def fired (registry : Registry) (spec : MenuSpec) (path : List Nat) (entry : MenuSpec) (hook : Hook) : Event :=
  .hookFired (spec.position path) entry.label hook (registry.bound (entry.bindings.get hook)).binding

def answering (registry : Registry) (entry : MenuSpec) (hook : Hook) : List Handler :=
  (registry.bound (entry.bindings.get hook)).handlers

def move (machine : StackMachine) (spec entry : MenuSpec) (delta : Int) : Reaction :=
  if entry.children = [] then { machine := machine, events := [.inputIgnored] }
  else
    let selected := Navigator.rotated delta machine.selected entry.children.length
    { machine := { machine with stack := machine.path ++ [selected], nonempty := by simp }
      events := [.moved (spec.position machine.path) selected] }

/-- The whole stack is the path of the selected child, which is entered by pushing the first place. A
leaf cuts the stack back to the selection of the top entry. -/
def commit (machine : StackMachine) (registry : Registry) (spec entry : MenuSpec) : Reaction :=
  if entry.children = [] then
    { machine := { machine with stack := [machine.stack.head machine.nonempty], nonempty := by simp }
      events := [fired registry spec machine.path entry .action, .returnedToRoot (spec.position machine.path) 0]
      ran := answering registry entry .action }
  else
    match spec.reached? machine.stack with
    | none => { machine := machine }
    | some child =>
      { machine := { machine with stack := machine.stack ++ [0], nonempty := by simp }
        events :=
          [ .entered (spec.position machine.path) (spec.position machine.stack),
            fired registry spec machine.stack child .enter ]
        ran := answering registry child .enter }

def back (machine : StackMachine) (registry : Registry) (spec entry : MenuSpec) : Reaction :=
  let event := fired registry spec machine.path entry .exit
  let ran := answering registry entry .exit
  if topmost : machine.path = [] then
    { machine := { machine with terminated := true }, step := .terminated, events := [event], ran := ran }
  else
    { machine := { machine with stack := machine.path, nonempty := topmost }
      events := [event, .ascended (spec.position machine.path) (spec.position machine.path.dropLast)]
      ran := ran }

def react (machine : StackMachine) (registry : Registry) (spec entry : MenuSpec) : Input → Reaction
  | .up => machine.move spec entry (-1)
  | .down => machine.move spec entry 1
  | .commit => machine.commit registry spec entry
  | .back => machine.back registry spec entry
  | .noop => { machine := machine, events := [.inputIgnored] }

def handle (registry : Registry) (spec : MenuSpec) (machine : StackMachine) (input : Input) : Reaction :=
  if machine.terminated then { machine := machine, step := .terminated }
  else
    match spec.reached? machine.path with
    | none => { machine := machine }
    | some entry => machine.react registry spec entry input

def reactions (registry : Registry) (spec : MenuSpec) (machine : StackMachine) : List Input → List Reaction
  | [] => []
  | input :: rest =>
    let reaction := handle registry spec machine input
    reaction :: reactions registry spec reaction.machine rest

def view (machine : StackMachine) (spec entry : MenuSpec) : View where
  node := spec.position machine.path
  title := entry.label
  depth := machine.stack.length - 1
  items := entry.children.zipIdx.map fun (child, index) =>
    { label := child.label, selected := index == machine.selected, hasChildren := !child.children.isEmpty }

end StackMachine

/-- Everything that can be seen of a navigator after an input. -/
structure Observation where
  step : Step
  events : List Event
  ran : List Handler
  terminated : Bool
  current : NodeId
  label : String
  view : View
  deriving DecidableEq, Repr

def Turn.observation (turn : Turn) : Observation where
  step := turn.step
  events := turn.events
  ran := turn.ran
  terminated := turn.navigator.terminated
  current := turn.navigator.current
  label := turn.navigator.currentNode.label
  view := turn.navigator.view

def StackMachine.Reaction.observation? (spec : MenuSpec) (reaction : Reaction) : Option Observation :=
  (spec.reached? reaction.machine.path).map fun entry =>
    { step := reaction.step
      events := reaction.events
      ran := reaction.ran
      terminated := reaction.machine.terminated
      current := spec.position reaction.machine.path
      label := entry.label
      view := reaction.machine.view spec entry }

/-- What is seen at the start and after every input. -/
def Navigator.history (navigator : Navigator) (inputs : List Input) : List Observation :=
  ({ navigator := navigator } :: navigator.turns inputs).map Turn.observation

def StackMachine.history (registry : Registry) (spec : MenuSpec) (inputs : List Input) :
    List (Option Observation) :=
  ({ machine := {} } :: reactions registry spec {} inputs).map (Reaction.observation? spec)

end PanelMenu
