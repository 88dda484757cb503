import PanelMenu.Error
import PanelMenu.Menu.View
import PanelMenu.Navigation.Event

/-! What a session shows its frames to, and what it reports its events to. Both act on a world, of
which the session knows nothing. -/

namespace PanelMenu

/-- What is left of an observer and the world after it was asked for something. -/
structure Drawn (O W : Type) where
  observer : O
  world : W
  failure : Option MenuError := none

class Observer (O : Type) (W : outParam Type) where
  name : O → String
  render : View → O → W → Drawn O W
  /-- Gives back what was held between frames. -/
  teardown : O → W → Drawn O W

abbrev Sink (W : Type) := Event → W → W

end PanelMenu
