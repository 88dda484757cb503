import PanelMenu.Files.Fault
import PanelMenu.Menu.Fault
import PanelMenu.Menu.Registry
import PanelMenu.Panel.Geometry
import PanelMenu.Toml.Fault

/-! Everything that can go wrong, by cause. -/

namespace PanelMenu

inductive MenuError
  | files (fault : Files.Fault)
  | invalidMenu (file : String) (fault : DocumentFault)
  | unknownCallback (fault : UnknownCallback)
  | invalidConfig (file : String) (fault : Toml.Fault)
  | invalidDisplay (fault : DisplayFault)
  | terminal (cause : String)
  deriving DecidableEq, Repr

def MenuError.message : MenuError → String
  | .files fault => s!"IO error: {fault.message}"
  | .invalidMenu file fault => s!"invalid menu definition in {file}: {fault.message}"
  | .unknownCallback fault =>
    s!"unknown callback '{fault.name}' - register a handler or use an announcing registry"
  | .invalidConfig file fault => s!"invalid configuration in {file}: {fault.message}"
  | .invalidDisplay fault => s!"invalid display geometry: {fault.message}"
  | .terminal cause => s!"terminal error: {cause}"

end PanelMenu
