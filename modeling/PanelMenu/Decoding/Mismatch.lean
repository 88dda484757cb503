import PanelMenu.Number.Binary64
import PanelMenu.Text.Quoted

/-! What is wrong with a value that was read but does not fit where it stands. -/

namespace PanelMenu

/-- The value that was there. A wide integer has more than sixty-four bits. -/
inductive Found
  | unit
  | boolean (value : Bool)
  | integer (value : Int)
  | wideInteger (value : Int)
  | float (value : Number.Binary64)
  | text (value : String)
  | sequence
  | map
  deriving DecidableEq, Repr

def Found.describe : Found → String
  | .unit => "unit value"
  | .boolean value => s!"boolean `{value}`"
  | .integer value => s!"integer `{value}`"
  | .wideInteger value =>
    let kind := if value < 0 then "i128" else "u128"
    s!"integer `{value}` as {kind}"
  | .float value => s!"floating point `{value.text}`"
  | .text value => s!"string {Text.quoted value}"
  | .sequence => "sequence"
  | .map => "map"

inductive Mismatch
  | invalidType (found : Found) (expected : String)
  | invalidValue (found : Found) (expected : String)
  | missingField (name : String)
  | unknownField (name : String) (known : List String)
  | duplicateField (name : String)
  | unknownVariant (name : String) (known : List String)
  deriving DecidableEq, Repr

private def oneOf (names : List String) : String :=
  ", ".intercalate (names.map fun name => s!"`{name}`")

def Mismatch.message : Mismatch → String
  | .invalidType found expected => s!"invalid type: {found.describe}, expected {expected}"
  | .invalidValue found expected => s!"invalid value: {found.describe}, expected {expected}"
  | .missingField name => s!"missing field `{name}`"
  | .unknownField name known => s!"unknown field `{name}`, expected one of {oneOf known}"
  | .duplicateField name => s!"duplicate field `{name}`"
  | .unknownVariant name known => s!"unknown variant `{name}`, expected one of {oneOf known}"

end PanelMenu
