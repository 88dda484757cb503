import PanelMenu.Proofs.TreeAncestry

/-! Trees that come from creating entries and attaching detached ones, in any order and to any
entry. They may hold several menus at once. -/

namespace PanelMenu.Tree

theorem node_create (tree : Tree) (label : String) (callbacks : Hooks Callback) (id : NodeId) :
    (tree.create label callbacks).node id =
      if id = tree.size then { label := label, callbacks := callbacks } else tree.node id := by
  simp only [node, create, size, Array.getD_eq_getD_getElem?, Array.getElem?_push]
  split <;> rfl

@[simp] theorem size_create (tree : Tree) (label : String) (callbacks : Hooks Callback) :
    (tree.create label callbacks).size = tree.size + 1 := by
  simp [size, create]

@[simp] theorem size_attach (tree : Tree) (parent child : NodeId) : (tree.attach parent child).size = tree.size := by
  simp [attach]

theorem parent_create (tree : Tree) (label : String) (callbacks : Hooks Callback) (id : NodeId) :
    ((tree.create label callbacks).node id).parent = (tree.node id).parent := by
  rw [node_create]
  split
  next new =>
    rw [node_outside (Nat.le_of_eq new.symm)]
    rfl
  next => rfl

theorem children_create (tree : Tree) (label : String) (callbacks : Hooks Callback) (id : NodeId) :
    ((tree.create label callbacks).node id).children = (tree.node id).children := by
  rw [node_create]
  split
  next new =>
    rw [node_outside (Nat.le_of_eq new.symm)]
    rfl
  next => rfl

theorem children_attach (tree : Tree) (parent child id : NodeId) :
    ((tree.attach parent child).node id).children =
      if parent = id ∧ parent < tree.size then (tree.node id).children ++ [child]
      else (tree.node id).children := by
  simp only [attach, node_modify]
  split <;> split <;> rfl

theorem parent_attach (tree : Tree) (parent child id : NodeId) :
    ((tree.attach parent child).node id).parent =
      if child = id ∧ child < tree.size then some parent else (tree.node id).parent := by
  simp only [attach, node_modify, size_modify]
  split <;> split <;> rfl

theorem selected_attach (tree : Tree) (parent child id : NodeId) :
    ((tree.attach parent child).node id).selected = (tree.node id).selected := by
  simp only [attach, node_modify]
  split <;> split <;> rfl

/-- What any sequence of calls can make when each attaches an entry that has no parent and is not
the root above its new parent. -/
inductive Grown : Tree → Prop where
  | empty : Grown {}
  | created {tree} (grown : Grown tree) (label : String) (callbacks : Hooks Callback) :
      Grown (tree.create label callbacks)
  | attached {tree} {parent child : NodeId} (grown : Grown tree) (inside : parent < tree.size)
      (present : child < tree.size) (detached : (tree.node child).parent = none)
      (separate : tree.rootOf parent ≠ child) : Grown (tree.attach parent child)

namespace Grown
variable {tree : Tree}

theorem foldl_create (grown : Grown tree) (callbacks : Hooks Callback) (labels : List String) :
    Grown (labels.foldl (fun tree label => tree.create label callbacks) tree) := by
  induction labels generalizing tree with
  | nil => exact grown
  | cons label rest ih => exact ih (grown.created label callbacks)

theorem unselected (grown : Grown tree) (id : NodeId) : (tree.node id).selected = 0 := by
  induction grown with
  | empty => rfl
  | created _ _ _ ih =>
    rw [node_create]
    split
    · rfl
    · exact ih
  | attached _ _ _ _ _ ih => rw [selected_attach, ih]

/-- An entry that is among the children of another has it as its parent. Attaching keeps this
because only a detached entry gets a new parent. -/
theorem child_parent (grown : Grown tree) {parent child : NodeId}
    (member : child ∈ (tree.node parent).children) : (tree.node child).parent = some parent := by
  induction grown generalizing parent child with
  | empty => cases member
  | @created tree grown label callbacks ih =>
    rw [node_create] at member
    split at member
    · cases member
    · have linked := ih member
      have existing : child ≠ tree.size := Nat.ne_of_lt (inside_of_parent linked)
      rw [node_create, if_neg existing, linked]
  | @attached tree above below _ _ present detached _ ih =>
    have kept : ∀ {other}, child ∈ (tree.node other).children →
        ((tree.attach above below).node child).parent = some other := by
      intro other member
      have linked := ih member
      rw [parent_attach, if_neg, linked]
      rintro ⟨rfl, _⟩
      rw [detached] at linked
      cases linked
    rw [children_attach] at member
    split at member
    next here =>
      rcases List.mem_append.mp member with old | new
      · exact kept old
      · obtain rfl := List.mem_singleton.mp new
        rw [parent_attach, if_pos ⟨rfl, present⟩, here.1]
    next => exact kept member

end Grown
end PanelMenu.Tree
