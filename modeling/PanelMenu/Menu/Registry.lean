import PanelMenu.Menu.Hook

/-! Which handlers there are, and what becomes of the names in a menu. -/

namespace PanelMenu

/-- A strict registry refuses names that nobody registered; an announcing one keeps them as names to
report. -/
inductive Policy
  | strict
  | announcing
  deriving DecidableEq, Repr

/-- The handlers in the order of their registration. -/
structure Registry where
  policy : Policy
  handlers : List Handler := []
  deriving DecidableEq, Repr

/-- A binding asks for a handler that a strict registry does not have. -/
structure UnknownCallback where
  name : String
  deriving DecidableEq, Repr

namespace Registry

def register (registry : Registry) (name : String) : Registry :=
  { registry with handlers := registry.handlers ++ [⟨name, registry.handlers.length⟩] }

/-- A later registration of a name replaces the earlier ones. -/
def find? (registry : Registry) (name : String) : Option Handler :=
  registry.handlers.reverse.find? (·.name == name)

def contains (registry : Registry) (name : String) : Bool :=
  (registry.find? name).isSome

def resolve (registry : Registry) : Option String → Except UnknownCallback Callback
  | none => .ok .standard
  | some name =>
    match registry.find? name with
    | some handler => .ok (.handled handler)
    | none =>
      match registry.policy with
      | .announcing => .ok (.named name)
      | .strict => .error ⟨name⟩

/-- Enter before exit before action: the first unknown name is the one reported. -/
def resolveAll (registry : Registry) (bindings : Hooks (Option String)) :
    Except UnknownCallback (Hooks Callback) := do
  let enter ← registry.resolve bindings.enter
  let exit ← registry.resolve bindings.exit
  let action ← registry.resolve bindings.action
  return ⟨enter, exit, action⟩

end Registry
end PanelMenu
