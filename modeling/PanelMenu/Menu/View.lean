import PanelMenu.Menu.Tree

/-! What a renderer gets to see: one entry and its children, without links and callbacks. -/

namespace PanelMenu

structure View.Item where
  label : String
  selected : Bool
  hasChildren : Bool
  deriving DecidableEq, Repr

structure View where
  node : NodeId
  title : String
  depth : Nat
  items : List View.Item
  deriving DecidableEq, Repr

namespace View

private def itemOf (tree : Tree) (selected : Nat) (child : NodeId) (index : Nat) : Item :=
  let node := tree.node child
  { label := node.label
    selected := index == selected
    hasChildren := !node.isLeaf }

def of (tree : Tree) (id : NodeId) : View :=
  let node := tree.node id
  { node := id
    title := node.label
    depth := tree.depth id
    items := node.children.zipIdx.map fun (child, index) => itemOf tree node.selected child index }

/-- The rows that fit when there is room for `limit` of them. -/
def visible (view : View) (limit : Nat) : List Item :=
  view.items.take limit

end View
end PanelMenu
