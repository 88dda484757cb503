import PanelMenu.Menu.Hook

/-! The entries of a menu in one array, each with links to its parent and its children. An entry is
addressed by its position, so the links are plain numbers and a change to one entry is a change at
one place. -/

namespace PanelMenu

abbrev NodeId := Nat

/-- The selection is a position among the children; it means nothing on a leaf. -/
structure Node where
  label : String
  callbacks : Hooks Callback
  parent : Option NodeId := none
  children : List NodeId := []
  selected : Nat := 0
  deriving DecidableEq, Repr, Inhabited

namespace Node

def isLeaf (node : Node) : Bool :=
  node.children.isEmpty

def selectedChild (node : Node) : Option NodeId :=
  node.children[node.selected]?

end Node

structure Tree where
  nodes : Array Node := #[]
  deriving DecidableEq, Repr, Inhabited

namespace Tree

def size (tree : Tree) : Nat :=
  tree.nodes.size

def node (tree : Tree) (id : NodeId) : Node :=
  tree.nodes.getD id default

def modify (tree : Tree) (id : NodeId) (change : Node → Node) : Tree :=
  { nodes := tree.nodes.modify id change }

/-- Adds an entry that stands alone. Its position is the size of the tree before. -/
def create (tree : Tree) (label : String) (callbacks : Hooks Callback) : Tree :=
  { nodes := tree.nodes.push { label := label, callbacks := callbacks } }

/-- Puts `child` behind the children of `parent`. The tree stays a forest as long as `child` has no
parent and `parent` does not lie below it. -/
def attach (tree : Tree) (parent child : NodeId) : Tree :=
  let linked := tree.modify parent fun node => { node with children := node.children ++ [child] }
  linked.modify child fun node => { node with parent := some parent }

def select (tree : Tree) (id : NodeId) (index : Nat) : Tree :=
  tree.modify id fun node => { node with selected := index }

/-- An entry and the entries above it, at most `fuel` of them. -/
def climb (tree : Tree) : Nat → NodeId → List NodeId
  | 0, id => [id]
  | fuel + 1, id =>
    match (tree.node id).parent with
    | some parent => id :: climb tree fuel parent
    | none => [id]

/-- The way from an entry up to its root, both ends included. In a forest no way is longer than the
number of entries. -/
def lineage (tree : Tree) (id : NodeId) : List NodeId :=
  tree.climb tree.size id

def rootOf (tree : Tree) (id : NodeId) : NodeId :=
  (tree.lineage id).getLastD id

/-- The number of entries above. -/
def depth (tree : Tree) (id : NodeId) : Nat :=
  (tree.lineage id).length - 1

end Tree
end PanelMenu
