import PanelMenu.Json.Value
import PanelMenu.Menu.Spec

/-! Menus as records, with the keys under which a document holds them. What an entry does not have
is left out. -/

namespace PanelMenu.MenuSpec

/-- The members for what is bound. -/
def bindingMembers (bindings : Hooks (Option String)) : List (String × Json) :=
  [Hook.enter, .exit, .action].flatMap fun hook =>
    match bindings.get hook with
    | some name => [((Field.binding hook).key, .string name)]
    | none => []

/-- The member for the children, if there are any. -/
def childrenMember : List Json → List (String × Json)
  | [] => []
  | children => [(Field.children.key, .array children)]

mutual

def record : MenuSpec → Json
  | ⟨label, bindings, children⟩ =>
    .object
      ((Field.name.key, .string label) :: bindingMembers bindings ++
        childrenMember (recordAll children))

def recordAll : List MenuSpec → List Json
  | [] => []
  | child :: rest => record child :: recordAll rest

end

end PanelMenu.MenuSpec
