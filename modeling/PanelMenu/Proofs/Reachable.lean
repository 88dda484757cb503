import PanelMenu.Proofs.BuildGrowth
import PanelMenu.Proofs.Forest

/-! The states of navigation: whatever some inputs lead to, from any entry without a parent in any tree that
was put together properly. The menus that can be built are among these trees. -/

namespace PanelMenu

namespace Tree
variable {tree other : Tree}

theorem above_congr (same : tree.cleared = other.cleared) {id above : NodeId} :
    tree.Above id above ↔ other.Above id above := by
  simp only [Above, same_parent same]

theorem inside_of_children {id : NodeId} (inner : (tree.node id).children ≠ []) : id < tree.size := by
  by_contra outside
  apply inner
  rw [node_outside (Nat.le_of_not_lt outside)]
  rfl

end Tree

namespace Navigator

inductive Reachable : Navigator → Prop where
  | started {tree : Tree} {root : NodeId} {navigator : Navigator} (grown : tree.Grown)
      (started : Navigator.start tree root = .ok navigator) : Reachable navigator
  | handled {navigator : Navigator} (reachable : Reachable navigator) (input : Input) :
      Reachable (navigator.handle input).navigator

theorem Reachable.of_build {registry : Registry} {spec : MenuSpec} {navigator : Navigator}
    (built : Navigator.build registry spec = .ok navigator) : navigator.Reachable := by
  have alone := (fresh_of_build built).alone
  obtain ⟨tree, grown, same⟩ := Except.of_bind_ok built
  obtain rfl := Except.ok.inj same
  have top : spec.reached? [] = some spec := rfl
  have present : 0 < tree.size := Tree.position_inside grown top
  apply Reachable.started (Tree.build_grown grown)
  rw [Navigator.start, if_neg (Nat.not_le.mpr present), alone]
  rfl

theorem Reachable.after {navigator : Navigator} (reachable : navigator.Reachable) (inputs : List Input) :
    (navigator.after inputs).Reachable := by
  induction inputs generalizing navigator with
  | nil => exact reachable
  | cons input rest ih => exact ih (reachable.handled input)

/-- The tree at the start is gone, but its links and the chain of selections are still there. -/
private theorem Reachable.chained {navigator : Navigator} (reachable : navigator.Reachable) :
    ∃ tree : Tree, tree.Grown ∧ (tree.node navigator.root).parent = none ∧
      Chained tree navigator.root navigator := by
  induction reachable with
  | @started tree root navigator grown started =>
    unfold Navigator.start at started
    split at started
    · cases started
    · split at started
      · cases started
      next orphan =>
        have alone : (tree.node root).parent = none := by simpa using orphan
        cases started
        exact ⟨tree, grown, alone, .start grown alone⟩
  | @handled navigator _ input ih =>
    obtain ⟨tree, grown, alone, chained⟩ := ih
    have takes := navigator.handle_takes input
    rw [takes.root_eq]
    exact ⟨tree, grown, alone, chained.turn grown alone takes⟩

section Reachable
variable {navigator : Navigator} (reachable : navigator.Reachable)
include reachable

theorem Reachable.parent_iff {parent child : NodeId} :
    (navigator.tree.node child).parent = some parent ↔ child ∈ (navigator.tree.node parent).children := by
  obtain ⟨tree, grown, _, chained⟩ := reachable.chained
  rw [Tree.same_parent chained.cleared_eq, Tree.same_children chained.cleared_eq]
  exact ⟨grown.parent_child, grown.child_parent⟩

theorem Reachable.ranged (id : NodeId) : (navigator.tree.node id).InRange := by
  obtain ⟨tree, _, _, chained⟩ := reachable.chained
  exact chained.ranged id

theorem Reachable.selected_lt (inner : navigator.currentNode.children ≠ []) :
    navigator.currentNode.selected < navigator.currentNode.children.length := by
  have ranged : navigator.currentNode.InRange := reachable.ranged navigator.current
  rwa [Node.InRange, if_neg inner] at ranged

theorem Reachable.root_alone : (navigator.tree.node navigator.root).parent = none := by
  obtain ⟨tree, _, alone, chained⟩ := reachable.chained
  exact (Tree.same_parent chained.cleared_eq _).trans alone

theorem Reachable.root_of_ended (ended : navigator.terminated = true) : navigator.current = navigator.root := by
  obtain ⟨tree, _, _, chained⟩ := reachable.chained
  exact chained.ended ended

theorem Reachable.climbs : navigator.tree.Climbs navigator.current (navigator.tree.lineage navigator.current) := by
  obtain ⟨tree, _, _, chained⟩ := reachable.chained
  obtain ⟨path, climbs, _⟩ := chained.chain
  rw [climbs.lineage_eq]
  exact climbs

theorem Reachable.lineage_last : (navigator.tree.lineage navigator.current).getLast? = some navigator.root := by
  obtain ⟨tree, _, _, chained⟩ := reachable.chained
  obtain ⟨path, climbs, last, _⟩ := chained.chain
  rw [climbs.lineage_eq]
  exact last

theorem Reachable.running_of_parent {parent : NodeId} (linked : navigator.currentNode.parent = some parent) :
    navigator.terminated = false := by
  by_contra unfinished
  have topmost := reachable.root_of_ended (by simpa using unfinished)
  rw [currentNode, topmost, reachable.root_alone] at linked
  cases linked

theorem Reachable.ascends {parent : NodeId} (linked : navigator.currentNode.parent = some parent) :
    navigator.after [.back] = { navigator with current := parent } := by
  rw [after_cons, after_nil, (Takes.ascended (reachable.running_of_parent linked) linked).handle_eq]

theorem Reachable.enters {below : NodeId} (running : navigator.terminated = false)
    (chosen : navigator.currentNode.selectedChild = some below) :
    (navigator.handle .commit).navigator.current = below ∧
      ((navigator.handle .commit).navigator.tree.node below).selected = 0 := by
  have linked := reachable.parent_iff.mpr (List.mem_of_getElem? chosen)
  rw [(Takes.entered running chosen).handle_eq]
  exact ⟨rfl, by rw [Tree.node_select, if_pos ⟨rfl, Tree.inside_of_parent linked⟩]⟩

end Reachable
end Navigator
end PanelMenu
