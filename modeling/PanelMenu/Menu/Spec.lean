import PanelMenu.Menu.Hook

/-! A menu as it is written down: nested entries, each with a label and, for each hook, the name of
the handler it asks for. -/

namespace PanelMenu

structure MenuSpec where
  label : String
  bindings : Hooks (Option String) := ⟨none, none, none⟩
  children : List MenuSpec := []
  deriving Repr, Inhabited

namespace MenuSpec

/-- The parts of an entry. -/
inductive Field
  | name
  | binding (hook : Hook)
  | children
  deriving DecidableEq, Repr

/-- The key of a part in a document. -/
def Field.key : Field → String
  | name => "name"
  | binding .enter => "on_enter"
  | binding .exit => "on_exit"
  | binding .action => "on_action"
  | children => "children"

def Field.all : List Field :=
  [.name, .binding .enter, .binding .exit, .binding .action, .children]

def Field.ofKey? (key : String) : Option Field :=
  all.find? (·.key == key)

mutual

/-- The number of entries, the outermost one included. -/
def size : MenuSpec → Nat
  | ⟨_, _, children⟩ => 1 + sizeAll children

def sizeAll : List MenuSpec → Nat
  | [] => 0
  | child :: rest => size child + sizeAll rest

end

private def menu (label : String) (enter : Option String) (children : List MenuSpec) : MenuSpec :=
  { label := label, bindings := ⟨enter, none, none⟩, children := children }

private def option (label action : String) : MenuSpec :=
  { label := label, bindings := ⟨none, none, some action⟩ }

/-- The menu that stands in when no other is given. -/
def demo : MenuSpec :=
  { label := "Main Menu"
    bindings := ⟨some "main_menu_enter", some "main_menu_exit", none⟩
    children :=
      [ menu "Sub Menu 1" (some "submenu1_enter")
          [ option "Option 1.1" "option_1_1_action",
            option "Option 1.2" "option_1_2_action",
            menu "Sub-Sub Menu 1.3" none [option "Option 1.3.1" "option_1_3_1_action"] ],
        menu "Sub Menu 2" (some "submenu2_enter")
          [ option "Option 2.1" "option_2_1_action",
            option "Option 2.2" "option_2_2_action" ],
        menu "Sub Menu 3" (some "submenu3_enter")
          [ option "Option 3.1" "option_3_1_action",
            option "Option 3.2" "option_3_2_action",
            option "Option 3.3" "option_3_3_action",
            menu "Sub-Sub Menu 3.4" none
              [ option "Option 3.4.1" "option_3_4_1_action",
                option "Option 3.4.2" "option_3_4_2_action" ] ] ] }

end MenuSpec
end PanelMenu
