import PanelMenu.Files.Basic

/-! What a session can reach: files, and two streams of text. -/

namespace PanelMenu

inductive Stream
  | output
  | errors
  deriving DecidableEq, Repr

structure World where
  files : Files := {}
  output : String := ""
  errors : String := ""
  deriving Repr

def World.write (world : World) (text : String) : Stream → World
  | .output => { world with output := world.output ++ text }
  | .errors => { world with errors := world.errors ++ text }

end PanelMenu
