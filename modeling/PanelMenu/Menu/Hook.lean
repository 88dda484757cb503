import PanelMenu.Text.Quoted

/-! The three moments in the life of a menu entry at which something may run, and what runs then. -/

namespace PanelMenu

inductive Hook
  | enter
  | exit
  | action
  deriving DecidableEq, Repr

def Hook.name : Hook → String
  | .enter => "enter"
  | .exit => "exit"
  | .action => "action"

/-- What is reported when nobody asked for anything else. -/
def Hook.standardMessage : Hook → String
  | .enter => "Entered a menu."
  | .exit => "Exited a menu."
  | .action => "Default action executed."

/-- One value for each hook. -/
structure Hooks (α : Type) where
  enter : α
  exit : α
  action : α
  deriving DecidableEq, Repr, Inhabited

def Hooks.get {α : Type} (hooks : Hooks α) : Hook → α
  | .enter => hooks.enter
  | .exit => hooks.exit
  | .action => hooks.action

/-- A handler is known by its name and by its place among the registrations. -/
structure Handler where
  name : String
  registration : Nat
  deriving DecidableEq, Repr

/-- What a hook of an entry is bound to. A named callback belongs to somebody else: firing it only
reports the name. -/
inductive Callback
  | standard
  | named (name : String)
  | handled (handler : Handler)
  deriving DecidableEq, Repr, Inhabited

/-- What answered when a hook fired. -/
inductive Binding
  | standard
  | named (name : String)
  | handled
  deriving DecidableEq, Repr

def Callback.binding : Callback → Binding
  | .standard => .standard
  | .named name => .named name
  | .handled _ => .handled

/-- How a callback is shown. Handlers have no text of their own. -/
def Callback.text : Callback → String
  | .standard => "Default"
  | .named name => "Named(" ++ Text.quoted name ++ ")"
  | .handled _ => "Handler(..)"

/-- The handlers that run when the callback fires: one or none. -/
def Callback.handlers : Callback → List Handler
  | .handled handler => [handler]
  | _ => []

def Binding.name : Binding → String
  | .standard => "default"
  | .named _ => "named"
  | .handled => "handler"

end PanelMenu
