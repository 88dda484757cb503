import PanelMenu.Menu.Tree

/-! What happens during a session, as it is reported. -/

namespace PanelMenu

inductive EndReason
  | backAtRoot
  | inputClosed
  deriving DecidableEq, Repr

def EndReason.name : EndReason → String
  | .backAtRoot => "back_at_root"
  | .inputClosed => "input_closed"

inductive Event
  | sessionStarted (root : NodeId) (label : String)
  | moved (node : NodeId) (selected : Nat)
  | entered (source target : NodeId)
  | ascended (source target : NodeId)
  | returnedToRoot (source root : NodeId)
  | hookFired (node : NodeId) (label : String) (hook : Hook) (binding : Binding)
  | inputIgnored
  | renderFailed (observer cause : String)
  | sessionEnded (reason : EndReason) (steps : Nat)
  deriving DecidableEq, Repr

/-- Labels and hooks of the hooks that fired. -/
def Event.firedHooks (events : List Event) : List (String × Hook) :=
  events.filterMap fun
    | .hookFired _ label hook _ => some (label, hook)
    | _ => none

end PanelMenu
