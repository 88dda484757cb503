import PanelMenu.Json.Value
import PanelMenu.Menu.View
import PanelMenu.Navigation.Event

/-! Events and views as records for other programs: one JSON object each, with its members ordered
by name. -/

namespace PanelMenu

private def named (kind : String) : String × Json :=
  ("event", .string kind)

/-- The name of a binding that somebody else has to serve. -/
private def outsideName : Binding → Json
  | .named name => .string name
  | _ => .null

def Event.record : Event → Json
  | .sessionStarted root label =>
    .object [named "session_started", ("label", .string label), ("root", .number root)]
  | .moved node selected =>
    .object [named "moved", ("node", .number node), ("selected", .number selected)]
  | .entered source target =>
    .object [named "entered", ("from", .number source), ("to", .number target)]
  | .ascended source target =>
    .object [named "ascended", ("from", .number source), ("to", .number target)]
  | .returnedToRoot source root =>
    .object [named "returned_to_root", ("from", .number source), ("root", .number root)]
  | .hookFired node label hook binding =>
    .object
      [("binding", .string binding.name), ("callback", outsideName binding), named "hook_fired",
        ("hook", .string hook.name), ("label", .string label), ("node", .number node)]
  | .inputIgnored => .object [named "input_ignored"]
  | .renderFailed observer cause =>
    .object [("error", .string cause), named "render_failed", ("observer", .string observer)]
  | .sessionEnded reason steps =>
    .object [named "session_ended", ("reason", .string reason.name), ("steps", .number steps)]

def View.Item.record (item : View.Item) : Json :=
  .object
    [("has_children", .boolean item.hasChildren), ("label", .string item.label),
      ("selected", .boolean item.selected)]

def View.record (view : View) : Json :=
  .object
    [("depth", .number view.depth), ("items", .array (view.items.map (·.record))),
      ("node", .number view.node), ("title", .string view.title)]

/-- A view in the stream of events. -/
def View.frame (view : View) : Json :=
  .object [named "frame", ("view", view.record)]

/-- One record on one line. A terminal in raw mode needs the carriage return. -/
def recordLine (raw : Bool) (value : Json) : String :=
  value.text ++ if raw then "\r\n" else "\n"

end PanelMenu
