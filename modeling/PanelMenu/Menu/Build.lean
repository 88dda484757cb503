import PanelMenu.Menu.Registry
import PanelMenu.Menu.Spec
import PanelMenu.Menu.Tree

/-! From a menu as written to the array of its entries, in the order of the document: an entry comes
before its children, and a child with everything below it before the next one. -/

namespace PanelMenu.Tree

mutual

/-- Adds an entry and everything below it. The entry itself lands behind all that was there. -/
def grow (registry : Registry) (tree : Tree) : MenuSpec → Except UnknownCallback Tree
  | ⟨label, bindings, children⟩ => do
    let callbacks ← registry.resolveAll bindings
    growChildren registry (tree.create label callbacks) tree.size children

def growChildren (registry : Registry) (tree : Tree) (parent : NodeId) :
    List MenuSpec → Except UnknownCallback Tree
  | [] => .ok tree
  | child :: rest => do
    let grown ← grow registry tree child
    growChildren registry (grown.attach parent tree.size) parent rest

end

/-- The tree of a menu. Its root is entry 0. -/
def build (registry : Registry) (spec : MenuSpec) : Except UnknownCallback Tree :=
  grow registry {} spec

end PanelMenu.Tree
