import PanelMenu.Report.Line
import PanelMenu.Report.Record
import PanelMenu.Session.Observer
import PanelMenu.Session.World

/-! Where the events of a session are written. -/

namespace PanelMenu

inductive Journal
  | none
  | lines (verbosity : Verbosity) (raw : Bool) (stream : Stream)
  | records (raw : Bool)
  deriving DecidableEq, Repr

/-- Records share the output with the frames. -/
def Journal.sink : Journal → Sink World
  | none, _, world => world
  | lines verbosity raw stream, event, world => world.write (event.logged verbosity raw) stream
  | records raw, event, world => world.write (recordLine raw event.record) .output

end PanelMenu
