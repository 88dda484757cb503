import Mathlib.Data.List.Chain
import Mathlib.Data.List.Nodup
import PanelMenu.Menu.Tree

/-! The way up from an entry as a relation on parent links. The bound on `climb` is never felt:
a way up that ends repeats no entry, so it is no longer than the tree has entries. -/

namespace PanelMenu

/-- An entry without its selection: what navigation never changes. -/
def Node.cleared (node : Node) : Node := { node with selected := 0 }

@[simp] theorem Node.cleared_label (node : Node) : node.cleared.label = node.label := rfl

@[simp] theorem Node.cleared_callbacks (node : Node) : node.cleared.callbacks = node.callbacks := rfl

@[simp] theorem Node.cleared_parent (node : Node) : node.cleared.parent = node.parent := rfl

@[simp] theorem Node.cleared_children (node : Node) : node.cleared.children = node.children := rfl

namespace Tree

@[simp] theorem size_modify (tree : Tree) (id : NodeId) (change : Node → Node) :
    (tree.modify id change).size = tree.size := by
  simp [size, modify]

@[simp] theorem size_select (tree : Tree) (id : NodeId) (index : Nat) :
    (tree.select id index).size = tree.size :=
  tree.size_modify id _

theorem node_outside {tree : Tree} {id : NodeId} (outside : tree.size ≤ id) : tree.node id = default := by
  simp only [size] at outside
  simp [node, Array.getD_eq_getD_getElem?, outside]

theorem node_modify (tree : Tree) (id other : NodeId) (change : Node → Node) :
    (tree.modify id change).node other =
      if id = other ∧ id < tree.size then change (tree.node other) else tree.node other := by
  by_cases inside : other < tree.nodes.size
  · simp only [node, modify, size, Array.getD_eq_getD_getElem?, Array.getElem?_modify]
    by_cases same : id = other
    · subst same
      simp [inside]
    · simp [same]
  · have outside : tree.size ≤ other := by simpa [size] using inside
    rw [node_outside (by simpa using outside), node_outside outside, if_neg]
    rintro ⟨rfl, within⟩
    exact Nat.not_lt.mpr outside within

theorem inside_of_parent {tree : Tree} {id parent : NodeId} (linked : (tree.node id).parent = some parent) :
    id < tree.size := by
  by_contra outside
  rw [node_outside (Nat.not_lt.mp outside)] at linked
  cases linked

theorem node_select (tree : Tree) (id other : NodeId) (index : Nat) :
    (tree.select id index).node other =
      if id = other ∧ id < tree.size then { tree.node other with selected := index } else tree.node other :=
  tree.node_modify id other _

def cleared (tree : Tree) : Tree := { nodes := tree.nodes.map Node.cleared }

@[simp] theorem size_cleared (tree : Tree) : tree.cleared.size = tree.size := by
  simp [size, cleared]

@[simp] theorem node_cleared (tree : Tree) (id : NodeId) : tree.cleared.node id = (tree.node id).cleared := by
  by_cases inside : id < tree.nodes.size
  · simp [node, cleared, Array.getD_eq_getD_getElem?, inside]
  · have outside : tree.size ≤ id := by simpa [size] using inside
    rw [node_outside outside, node_outside (by simpa using outside)]
    rfl

@[ext] theorem ext_node {first second : Tree} (sizes : first.size = second.size)
    (nodes : ∀ id, first.node id = second.node id) : first = second := by
  cases first with
  | mk first =>
    cases second with
    | mk second =>
      congr 1
      apply Array.ext sizes
      intro index left right
      simpa [node, Array.getD_eq_getD_getElem?, left, right] using nodes index

@[simp] theorem cleared_select (tree : Tree) (id : NodeId) (index : Nat) :
    (tree.select id index).cleared = tree.cleared := by
  ext1
  · simp
  · rw [node_cleared, node_cleared, node_select]
    split <;> rfl

section SameLinks
variable {tree other : Tree} (same : tree.cleared = other.cleared)
include same

theorem cleared_node (id : NodeId) : (tree.node id).cleared = (other.node id).cleared := by
  simpa using congrArg (Tree.node · id) same

theorem same_size : tree.size = other.size := by
  simpa using congrArg size same

theorem same_label (id : NodeId) : (tree.node id).label = (other.node id).label :=
  by simpa using congrArg Node.label (cleared_node same id)

theorem same_callbacks (id : NodeId) : (tree.node id).callbacks = (other.node id).callbacks :=
  by simpa using congrArg Node.callbacks (cleared_node same id)

theorem same_parent (id : NodeId) : (tree.node id).parent = (other.node id).parent :=
  by simpa using congrArg Node.parent (cleared_node same id)

theorem same_children (id : NodeId) : (tree.node id).children = (other.node id).children :=
  by simpa using congrArg Node.children (cleared_node same id)

end SameLinks

/-- `path` lists an entry and all entries above it, up to one without a parent. -/
inductive Climbs (tree : Tree) : NodeId → List NodeId → Prop where
  | top {id} (alone : (tree.node id).parent = none) : Climbs tree id [id]
  | up {id parent path} (linked : (tree.node id).parent = some parent) (rest : Climbs tree parent path) :
      Climbs tree id (id :: path)

namespace Climbs
variable {tree : Tree} {id : NodeId} {path : List NodeId}

theorem head (climbs : Climbs tree id path) : ∃ above, path = id :: above := by
  cases climbs with
  | top => exact ⟨[], rfl⟩
  | up => exact ⟨_, rfl⟩

theorem unique {other : List NodeId} (climbs : Climbs tree id path) (again : Climbs tree id other) :
    path = other := by
  induction climbs generalizing other with
  | top alone =>
    cases again with
    | top => rfl
    | up linked => rw [alone] at linked; cases linked
  | up linked _ ih =>
    cases again with
    | top alone => rw [alone] at linked; cases linked
    | up relinked rest =>
      rw [linked] at relinked
      cases relinked
      rw [ih rest]

theorem of_mem {above : NodeId} (climbs : Climbs tree id path) (member : above ∈ path) :
    ∃ rest, Climbs tree above rest ∧ rest.length ≤ path.length := by
  induction climbs with
  | top alone =>
    obtain rfl := List.mem_singleton.mp member
    exact ⟨_, .top alone, Nat.le_refl _⟩
  | up linked rest ih =>
    rcases List.mem_cons.mp member with rfl | later
    · exact ⟨_, .up linked rest, Nat.le_refl _⟩
    · obtain ⟨found, climbs, shorter⟩ := ih later
      exact ⟨found, climbs, Nat.le_succ_of_le shorter⟩

/-- An entry met twice would have two ways up of different lengths. -/
theorem nodup (climbs : Climbs tree id path) : path.Nodup := by
  induction climbs with
  | top => exact List.nodup_singleton _
  | up linked rest ih =>
    refine List.nodup_cons.mpr ⟨?_, ih⟩
    intro again
    obtain ⟨found, climbs, shorter⟩ := rest.of_mem again
    have same := climbs.unique (.up linked rest)
    subst same
    simp only [List.length_cons] at shorter
    omega

private theorem below_inside (climbs : Climbs tree id path) : ∀ entry ∈ path.dropLast, entry < tree.size := by
  induction climbs with
  | top => simp
  | up linked rest ih =>
    obtain ⟨above, rfl⟩ := rest.head
    intro entry member
    rw [List.dropLast_cons_of_ne_nil (by simp)] at member
    rcases List.mem_cons.mp member with rfl | later
    · exact inside_of_parent linked
    · exact ih entry later

theorem length_le (climbs : Climbs tree id path) : path.length ≤ tree.size + 1 := by
  have distinct : path.dropLast.Nodup := climbs.nodup.sublist (List.dropLast_sublist path)
  have covered : path.dropLast ⊆ List.range tree.size :=
    fun entry member => List.mem_range.mpr (climbs.below_inside entry member)
  have bound := distinct.length_le_of_subset covered
  simp only [List.length_dropLast, List.length_range] at bound
  omega

private theorem climb_eq (climbs : Climbs tree id path) {fuel : Nat} (enough : path.length ≤ fuel + 1) :
    tree.climb fuel id = path := by
  induction climbs generalizing fuel with
  | top alone => cases fuel <;> simp [climb, alone]
  | up linked rest ih =>
    obtain ⟨above, rfl⟩ := rest.head
    cases fuel with
    | zero => simp at enough
    | succ fuel =>
      rw [climb, linked]
      exact congrArg _ (ih (by simpa using enough))

theorem lineage_eq (climbs : Climbs tree id path) : tree.lineage id = path :=
  climbs.climb_eq climbs.length_le

theorem depth_eq (climbs : Climbs tree id path) : tree.depth id = path.length - 1 := by
  rw [depth, climbs.lineage_eq]

theorem rootOf_eq {root : NodeId} (climbs : Climbs tree id path) (last : path.getLast? = some root) :
    tree.rootOf id = root := by
  rw [rootOf, climbs.lineage_eq, List.getLastD_eq_getLast?, last, Option.getD_some]

theorem parents (climbs : Climbs tree id path) :
    path.IsChain fun below above => (tree.node below).parent = some above := by
  induction climbs with
  | top => exact .singleton _
  | up linked rest ih =>
    obtain ⟨above, rfl⟩ := rest.head
    exact .cons_cons linked ih

/-- Another tree has the same way up if it has the same links along it. -/
theorem of_parents {other : Tree} (climbs : Climbs tree id path)
    (same : ∀ entry ∈ path, (other.node entry).parent = (tree.node entry).parent) : Climbs other id path := by
  induction climbs with
  | top alone => exact .top ((same _ List.mem_cons_self).trans alone)
  | up linked _ ih =>
    refine .up ((same _ List.mem_cons_self).trans linked) (ih ?_)
    exact fun entry member => same entry (List.mem_cons_of_mem _ member)

theorem transfer {other : Tree} (climbs : Climbs tree id path) (same : tree.cleared = other.cleared) :
    Climbs other id path :=
  climbs.of_parents fun entry _ => (same_parent same entry).symm

end Climbs
end Tree
end PanelMenu
