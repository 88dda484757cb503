import PanelMenu.Proofs.CursorChain
import PanelMenu.Proofs.TreeGrowth
import PanelMenu.Proofs.TreeLayout

/-! A menu is built by creating entries and attaching detached ones, so all that holds of such trees
holds of the trees of menus. No attachment closes a circle, since parents always come before their
children. -/

namespace PanelMenu

namespace Tree
open MenuSpec

def Ordered (tree : Tree) : Prop :=
  ∀ id parent, (tree.node id).parent = some parent → parent < id

theorem Ordered.climb_le {tree : Tree} (ordered : tree.Ordered) (fuel : Nat) (id : NodeId) :
    ∀ above ∈ tree.climb fuel id, above ≤ id := by
  induction fuel generalizing id with
  | zero => simp [climb]
  | succ fuel ih =>
    intro above member
    rw [climb] at member
    cases linked : (tree.node id).parent with
    | none =>
      rw [linked] at member
      exact Nat.le_of_eq (List.mem_singleton.mp member)
    | some parent =>
      rw [linked] at member
      rcases List.mem_cons.mp member with rfl | later
      · exact Nat.le_refl _
      · exact Nat.le_trans (ih parent above later) (Nat.le_of_lt (ordered id parent linked))

theorem Ordered.rootOf_le {tree : Tree} (ordered : tree.Ordered) (id : NodeId) : tree.rootOf id ≤ id := by
  rw [rootOf, List.getLastD_eq_getLast?]
  cases last : (tree.lineage id).getLast? with
  | none => exact Nat.le_refl _
  | some top => exact ordered.climb_le tree.size id top (List.mem_of_getLast? last)

theorem Ordered.created {tree : Tree} (ordered : tree.Ordered) (label : String) (callbacks : Hooks Callback) :
    (tree.create label callbacks).Ordered := by
  intro id parent linked
  rw [node_create] at linked
  split at linked
  · cases linked
  · exact ordered id parent linked

theorem Ordered.attached {tree : Tree} (ordered : tree.Ordered) {parent child : NodeId} (before : parent < child) :
    (tree.attach parent child).Ordered := by
  intro id above linked
  rw [parent_attach] at linked
  split at linked
  next here =>
    obtain ⟨rfl, _⟩ := here
    obtain rfl := Option.some.inj linked
    exact before
  next => exact ordered id above linked

private theorem grow_top {registry : Registry} {tree grown : Tree} {spec : MenuSpec}
    (ok : grow registry tree spec = .ok grown) :
    tree.size < grown.size ∧ (grown.node tree.size).parent = none := by
  have laid := grow_layout ok
  have listed : tree.size = tree.nodes.toList.length := rfl
  have placed : grown.nodes.toList[tree.size]? = some (spec.placed registry none tree.size) := by
    rw [laid, layout_eq, List.getElem?_append_right (Nat.le_of_eq listed.symm), ← listed, Nat.sub_self]
    rfl
  refine ⟨(List.getElem?_eq_some_iff.mp placed).1, ?_⟩
  rw [Array.getElem?_toList] at placed
  rw [node, Array.getD_eq_getD_getElem?, placed]
  rfl

mutual

theorem grow_grown {registry : Registry} {tree after : Tree} (grown : tree.Grown) (ordered : tree.Ordered) :
    ∀ {spec : MenuSpec}, grow registry tree spec = .ok after → after.Grown ∧ after.Ordered
  | ⟨label, bindings, children⟩, ok => by
    rw [grow] at ok
    obtain ⟨callbacks, _, ok⟩ := Except.of_bind_ok ok
    have inside : tree.size < (tree.create label callbacks).size := by simp [create, size]
    exact growChildren_grown (grown.created label callbacks) (ordered.created label callbacks) inside ok

theorem growChildren_grown {registry : Registry} {tree after : Tree} {parent : Nat} (grown : tree.Grown)
    (ordered : tree.Ordered) (inside : parent < tree.size) :
    ∀ {specs : List MenuSpec}, growChildren registry tree parent specs = .ok after → after.Grown ∧ after.Ordered
  | [], ok => by
    obtain rfl := Except.ok.inj ok
    exact ⟨grown, ordered⟩
  | child :: rest, ok => by
    rw [growChildren] at ok
    obtain ⟨between, first, ok⟩ := Except.of_bind_ok ok
    obtain ⟨betweenGrown, betweenOrdered⟩ := grow_grown grown ordered first
    obtain ⟨present, detached⟩ := grow_top first
    have within : parent < between.size := Nat.lt_trans inside present
    have separate : between.rootOf parent ≠ tree.size :=
      Nat.ne_of_lt (Nat.lt_of_le_of_lt (betweenOrdered.rootOf_le parent) inside)
    have attached := betweenGrown.attached within present detached separate
    have wider : parent < (between.attach parent tree.size).size := by simpa [attach] using within
    exact growChildren_grown attached (betweenOrdered.attached inside) wider ok

end

theorem build_grown {registry : Registry} {spec : MenuSpec} {tree : Tree}
    (built : Tree.build registry spec = .ok tree) : tree.Grown := by
  have ordered : Tree.Ordered {} := by
    intro id parent linked
    rw [node_outside (Nat.zero_le id)] at linked
    cases linked
  exact (grow_grown .empty ordered built).1

end Tree

/-- What navigation of a menu starts from: the root is entry 0 of a tree in which nothing is selected. -/
structure Navigator.Fresh (navigator : Navigator) : Prop where
  grown : navigator.tree.Grown
  alone : (navigator.tree.node navigator.root).parent = none
  current : navigator.current = navigator.root
  running : navigator.terminated = false

theorem Navigator.fresh_of_build {registry : Registry} {spec : MenuSpec} {navigator : Navigator}
    (built : Navigator.build registry spec = .ok navigator) : navigator.Fresh := by
  obtain ⟨tree, grown, same⟩ := Except.of_bind_ok built
  obtain rfl := Except.ok.inj same
  refine ⟨Tree.build_grown grown, ?_, rfl, rfl⟩
  have placed : tree.node (spec.position []) = _ := Tree.node_position grown rfl
  exact congrArg Node.parent placed

theorem Navigator.Fresh.chained {navigator : Navigator} (fresh : navigator.Fresh) :
    Navigator.Chained navigator.tree navigator.root navigator := by
  have start := Navigator.Chained.start fresh.grown fresh.alone
  rcases navigator with ⟨tree, root, current, terminated⟩
  obtain rfl : current = root := fresh.current
  obtain rfl : terminated = false := fresh.running
  exact start

end PanelMenu
