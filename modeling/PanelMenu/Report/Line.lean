import PanelMenu.Navigation.Event
import PanelMenu.Report.Verbosity

/-! Events as lines of a log for people. -/

namespace PanelMenu

private def tag : Hook → String
  | .action => "[ACTION]"
  | .enter | .exit => "[INFO]"

/-- The least verbosity at which an event shows, and its line. -/
def Event.line : Event → Verbosity × String
  | .hookFired _ label hook binding =>
    match binding with
    | .standard => (.normal, s!"{tag hook} {hook.standardMessage}")
    | .named name => (.normal, s!"{tag hook} {name} ({hook.name} '{label}')")
    | .handled => (.verbose, s!"[DEBUG] {hook.name} handler ran for '{label}'")
  | .renderFailed observer cause => (.normal, s!"[WARN] {observer} renderer failed: {cause}")
  | .sessionStarted root label =>
    (.verbose, s!"[DEBUG] session started at '{label}' (#{root})")
  | .moved node selected => (.verbose, s!"[DEBUG] #{node} selection -> {selected}")
  | .entered source target => (.verbose, s!"[DEBUG] entered #{target} from #{source}")
  | .ascended source target => (.verbose, s!"[DEBUG] back to #{target} from #{source}")
  | .returnedToRoot source root =>
    (.verbose, s!"[DEBUG] returned to root #{root} from #{source}")
  | .inputIgnored => (.debug, "[DEBUG] input ignored")
  | .sessionEnded reason steps =>
    (.verbose, s!"[DEBUG] session ended ({reason.name}) after {steps} steps")

/-- What a log of the given verbosity writes about an event. -/
def Event.logged (verbosity : Verbosity) (raw : Bool) (event : Event) : String :=
  let (level, line) := event.line
  if verbosity.shows level then line ++ (if raw then "\r\n" else "\n") else ""

end PanelMenu
