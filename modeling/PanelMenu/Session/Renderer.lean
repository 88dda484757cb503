import PanelMenu.Console.View
import PanelMenu.Panel.Renderer
import PanelMenu.Report.Record
import PanelMenu.Session.Observer
import PanelMenu.Session.World

/-! The renderers that come with the program. -/

namespace PanelMenu

/-- Text frames follow each other, or each takes the whole screen of a terminal with so many
columns. Records are written as on a raw terminal or not. -/
inductive Renderer
  | text
  | screen (columns : Nat)
  | records (raw : Bool)
  | panel (renderer : PanelRenderer)
  deriving Repr

namespace Renderer

def name : Renderer → String
  | text | screen _ => "console"
  | records _ => "json"
  | panel _ => "oled"

private def written (renderer : Renderer) (world : World) (text : String) : Drawn Renderer World :=
  { observer := renderer, world := world.write text .output }

def render (view : View) (renderer : Renderer) (world : World) : Drawn Renderer World :=
  match renderer with
  | text => written renderer world (view.consoleFrame none false)
  | screen columns => written renderer world (clearScreen ++ view.consoleFrame (some columns) true)
  | records raw => written renderer world (recordLine raw view.frame)
  | panel before =>
    let (after, files, failure) := before.render view world.files
    { observer := panel after, world := { world with files := files }, failure := failure }

def teardown (renderer : Renderer) (world : World) : Drawn Renderer World :=
  match renderer with
  | screen _ => written renderer world clearScreen
  | panel before => { observer := panel before.teardown, world := world }
  | text | records _ => { observer := renderer, world := world }

instance : Observer Renderer World where
  name := name
  render := render
  teardown := teardown

end Renderer
end PanelMenu
