import PanelMenu.Proofs.NavigatorStep
import PanelMenu.Proofs.TreeGrowth

/-! The selections of the entries above the current one always lead down to it. This chain is what
keeps a cursor inside its own menu: every way that an input can move the cursor extends the chain,
cuts it, or goes back to its start. -/

namespace PanelMenu

def Node.InRange (node : Node) : Prop :=
  if node.children = [] then node.selected = 0 else node.selected < node.children.length

theorem Node.InRange.selectedChild_none {node : Node} (ranged : node.InRange) :
    node.selectedChild = none ↔ node.children = [] := by
  unfold InRange at ranged
  rw [selectedChild, List.getElem?_eq_none_iff]
  split at ranged
  next leaf => simp [leaf]
  next inner => exact ⟨fun outside => absurd ranged (Nat.not_lt.mpr outside), fun leaf => absurd leaf inner⟩

def Tree.Picks (tree : Tree) (below above : NodeId) : Prop :=
  (tree.node above).selectedChild = some below

theorem Tree.picks_select {tree : Tree} {path : List NodeId} {id : NodeId} (index : Nat)
    (absent : id ∉ path.tail) (chain : path.IsChain tree.Picks) :
    path.IsChain (tree.select id index).Picks := by
  apply chain.imp_of_mem_tail_imp
  intro below above _ member picks
  have different : id ≠ above := fun same => absent (same ▸ member)
  rw [Tree.Picks, Tree.node_select, if_neg (fun here => different here.1)]
  exact picks

namespace Navigator

/-- The invariant of navigation. The links are those of the tree at the start, so that only the
chain and the selections have to be followed. -/
structure Chained (tree : Tree) (root : NodeId) (navigator : Navigator) : Prop where
  root_eq : navigator.root = root
  cleared_eq : navigator.tree.cleared = tree.cleared
  ranged : ∀ id, (navigator.tree.node id).InRange
  chain : ∃ path, navigator.tree.Climbs navigator.current path ∧ path.getLast? = some root ∧
    path.IsChain navigator.tree.Picks
  ended : navigator.terminated = true → navigator.current = root

variable {tree : Tree} {root : NodeId}

theorem Chained.start (grown : tree.Grown) (alone : (tree.node root).parent = none) :
    Chained tree root { tree := tree, root := root, current := root } := by
  refine ⟨rfl, rfl, ?_, ⟨[root], .top alone, rfl, .singleton root⟩, fun _ => rfl⟩
  intro id
  unfold Node.InRange
  rw [grown.unselected id]
  split
  next => rfl
  next inner => exact List.length_pos_iff.mpr inner

theorem Chained.rootOf_eq {navigator : Navigator} (chained : Chained tree root navigator) :
    navigator.tree.rootOf navigator.current = root := by
  obtain ⟨path, climbs, last, _⟩ := chained.chain
  exact climbs.rootOf_eq last

private theorem ranged_select {tree : Tree} (ranged : ∀ id, (tree.node id).InRange) (id : NodeId) (index : Nat)
    (fits : if (tree.node id).children = [] then index = 0 else index < (tree.node id).children.length) :
    ∀ other, ((tree.select id index).node other).InRange := by
  intro other
  rw [Tree.node_select]
  split
  next here =>
    obtain ⟨rfl, _⟩ := here
    exact fits
  next => exact ranged other

private theorem Chained.moved {navigator : Navigator} (chained : Chained tree root navigator)
    {selected : Nat} (inner : navigator.currentNode.children ≠ [])
    (fits : selected < navigator.currentNode.children.length) :
    Chained tree root { navigator with tree := navigator.tree.select navigator.current selected } := by
  refine ⟨chained.root_eq, (Tree.cleared_select _ _ _).trans chained.cleared_eq, ?_, ?_, chained.ended⟩
  · exact ranged_select chained.ranged _ _ ((if_neg inner).mpr fits)
  · obtain ⟨path, climbs, last, chain⟩ := chained.chain
    refine ⟨path, climbs.transfer (Tree.cleared_select _ _ _).symm, last, Tree.picks_select _ ?_ chain⟩
    obtain ⟨above, rfl⟩ := climbs.head
    exact (List.nodup_cons.mp climbs.nodup).1

theorem Chained.listed {navigator : Navigator} (chained : Chained tree root navigator) {child : NodeId}
    (chosen : navigator.currentNode.selectedChild = some child) : child ∈ (tree.node navigator.current).children := by
  rw [← Tree.same_children chained.cleared_eq]
  exact List.mem_of_getElem? chosen

theorem Chained.linked {navigator : Navigator} (grown : tree.Grown) (chained : Chained tree root navigator)
    {child : NodeId} (chosen : navigator.currentNode.selectedChild = some child) :
    (navigator.tree.node child).parent = some navigator.current :=
  (Tree.same_parent chained.cleared_eq child).trans (grown.child_parent (chained.listed chosen))

private theorem Chained.entered {navigator : Navigator} (grown : tree.Grown)
    (chained : Chained tree root navigator) {child : NodeId} (running : navigator.terminated = false)
    (chosen : navigator.currentNode.selectedChild = some child) :
    Chained tree root { navigator with tree := navigator.tree.select child 0, current := child } := by
  refine ⟨chained.root_eq, (Tree.cleared_select _ _ _).trans chained.cleared_eq, ?_, ?_, ?_⟩
  · apply ranged_select chained.ranged
    split
    next => rfl
    next inner => exact List.length_pos_iff.mpr inner
  · obtain ⟨path, climbs, last, chain⟩ := chained.chain
    have extended : navigator.tree.Climbs child (child :: path) := .up (chained.linked grown chosen) climbs
    obtain ⟨above, rfl⟩ := climbs.head
    refine ⟨child :: navigator.current :: above, extended.transfer (Tree.cleared_select _ _ _).symm, by simpa using last,
      Tree.picks_select _ (List.nodup_cons.mp extended.nodup).1 (.cons_cons chosen chain)⟩
  · intro ended
    rw [running] at ended
    cases ended

private theorem Chained.acted {navigator : Navigator} (chained : Chained tree root navigator)
    (alone : (tree.node root).parent = none) :
    Chained tree root { navigator with current := root } := by
  refine ⟨chained.root_eq, chained.cleared_eq, chained.ranged, ?_, fun _ => rfl⟩
  exact ⟨[root], .top ((Tree.same_parent chained.cleared_eq root).trans alone), rfl, .singleton root⟩

private theorem Chained.ascended {navigator : Navigator} (chained : Chained tree root navigator)
    {parent : NodeId} (running : navigator.terminated = false)
    (linked : navigator.currentNode.parent = some parent) :
    Chained tree root { navigator with current := parent } := by
  refine ⟨chained.root_eq, chained.cleared_eq, chained.ranged, ?_, ?_⟩
  · obtain ⟨path, climbs, last, chain⟩ := chained.chain
    cases climbs with
    | top alone => rw [currentNode, alone] at linked; cases linked
    | up relinked rest =>
      obtain rfl : _ = parent := Option.some.inj (relinked.symm.trans linked)
      obtain ⟨above, rfl⟩ := rest.head
      exact ⟨_, rest, by simpa using last, chain.tail⟩
  · intro ended
    rw [running] at ended
    cases ended

theorem Chained.at_root {navigator : Navigator} (chained : Chained tree root navigator)
    (parentless : navigator.currentNode.parent = none) : navigator.current = root := by
  obtain ⟨path, climbs, last, _⟩ := chained.chain
  cases climbs with
  | top => simpa using last
  | up linked =>
    rw [currentNode, linked] at parentless
    cases parentless

private theorem Chained.closed {navigator : Navigator} (chained : Chained tree root navigator)
    (alone : navigator.currentNode.parent = none) :
    Chained tree root { navigator with terminated := true } := by
  exact ⟨chained.root_eq, chained.cleared_eq, chained.ranged, chained.chain, fun _ => chained.at_root alone⟩

theorem Chained.turn (grown : tree.Grown) (alone : (tree.node root).parent = none)
    {navigator : Navigator} {input : Input} {turn : Turn}
    (chained : Chained tree root navigator) (takes : navigator.Takes input turn) :
    Chained tree root turn.navigator := by
  cases takes with
  | late | idle | stuck => exact chained
  | moved _ _ inner turned =>
    subst turned
    exact chained.moved inner (rotated_lt _ _ (List.length_pos_iff.mpr inner))
  | entered running chosen => exact chained.entered grown running chosen
  | acted _ _ topmost =>
    subst topmost
    rw [chained.rootOf_eq]
    exact chained.acted alone
  | ascended running linked => exact chained.ascended running linked
  | closed _ parentless => exact chained.closed parentless

theorem Chained.after (grown : tree.Grown) (alone : (tree.node root).parent = none)
    {navigator : Navigator} (chained : Chained tree root navigator) (inputs : List Input) :
    Chained tree root (navigator.after inputs) :=
  after_preserves (Chained tree root) (fun chained takes => chained.turn grown alone takes) chained inputs

/-- What a user of a navigator can rely on in the state `reached`, when navigation began at `root`
of `tree`. -/
structure Sound (tree : Tree) (root : NodeId) (reached : Navigator) : Prop where
  size_eq : reached.tree.size = tree.size
  links : ∀ id,
    (reached.tree.node id).label = (tree.node id).label ∧
    (reached.tree.node id).parent = (tree.node id).parent ∧
    (reached.tree.node id).children = (tree.node id).children
  inside : ∀ id, (reached.tree.node id).children ≠ [] →
    (reached.tree.node id).selected < (reached.tree.node id).children.length
  leaf : ∀ id, (reached.tree.node id).children = [] → (reached.tree.node id).selected = 0
  root_eq : reached.root = root
  rootOf_eq : reached.tree.rootOf reached.current = root
  /-- The way from the root down to the current entry follows the selections. -/
  way : ∃ path : List NodeId, path.head? = some root ∧ path.getLast? = some reached.current ∧
    path.reverse = reached.tree.lineage reached.current ∧
    path.IsChain fun above below =>
      (reached.tree.node below).parent = some above ∧ (reached.tree.node above).selectedChild = some below
  ended : reached.terminated = true → reached.current = root
  marked : reached.view.items.countP (·.selected) = if reached.currentNode.children = [] then 0 else 1
  /-- A commit runs an action exactly on a leaf; before the end, the next input `commit` is one. -/
  acts : (∃ label binding, .hookFired reached.current label .action binding ∈ reached.commit.events) ↔
    reached.currentNode.isLeaf = true
  commits : reached.terminated = false → reached.handle .commit = reached.commit

private theorem marked_count {tree : Tree} {id : NodeId} (ranged : (tree.node id).InRange) :
    (View.of tree id).items.countP (·.selected) = if (tree.node id).children = [] then 0 else 1 := by
  have places : (View.of tree id).items.countP (·.selected) =
      (List.range' 0 (tree.node id).children.length).count (tree.node id).selected := by
    rw [← List.zipIdx_map_snd 0 (tree.node id).children, List.count, List.countP_map, View.of, List.countP_map]
    rfl
  rw [places, (List.nodup_range' 1).count]
  unfold Node.InRange at ranged
  split at ranged
  next leaf => simp [leaf]
  next inner => simp [inner, ranged]

private theorem acts_iff {navigator : Navigator} (ranged : navigator.currentNode.InRange) :
    (∃ label binding, .hookFired navigator.current label .action binding ∈ navigator.commit.events) ↔
      navigator.currentNode.isLeaf = true := by
  rw [Node.isLeaf, List.isEmpty_iff, ← ranged.selectedChild_none]
  unfold commit
  split
  next child chosen =>
    constructor
    · rintro ⟨label, binding, member⟩
      rcases List.mem_cons.mp member with same | later
      · cases same
      · cases List.mem_singleton.mp later
    · intro unchosen
      rw [chosen] at unchosen
      cases unchosen
  next unchosen => exact ⟨fun _ => unchosen, fun _ => ⟨_, _, List.mem_cons_self⟩⟩

theorem Chained.sound {navigator : Navigator} (chained : Chained tree root navigator) :
    Sound tree root navigator := by
  obtain ⟨path, climbs, last, chain⟩ := chained.chain
  obtain ⟨above, shape⟩ := climbs.head
  have same := chained.cleared_eq
  have ranged := fun id => chained.ranged id
  unfold Node.InRange at ranged
  refine {
    size_eq := Tree.same_size same
    links := fun id => ⟨Tree.same_label same id, Tree.same_parent same id, Tree.same_children same id⟩
    inside := fun id inner => ?_
    leaf := fun id none => ?_
    root_eq := chained.root_eq
    rootOf_eq := chained.rootOf_eq
    way := ⟨path.reverse, ?_, ?_, ?_, ?_⟩
    ended := chained.ended
    marked := marked_count (chained.ranged _)
    acts := acts_iff (chained.ranged _)
    commits := fun running => ?_ }
  · simpa [inner] using ranged id
  · simpa [none] using ranged id
  · rw [List.head?_reverse, last]
  · rw [List.getLast?_reverse, shape, List.head?_cons]
  · rw [List.reverse_reverse, climbs.lineage_eq]
  · rw [List.isChain_reverse, List.isChain_iff_getElem]
    intro index within
    exact ⟨climbs.parents.getElem index within, chain.getElem index within⟩
  · simp [handle, running]

/-- Navigation is sound in every tree that was put together properly, whatever else the tree holds,
from every entry without a parent, and after any inputs. -/
theorem after_sound (grown : tree.Grown) {start : Navigator} (started : Navigator.start tree root = .ok start)
    (inputs : List Input) : Sound tree root (start.after inputs) := by
  unfold Navigator.start at started
  split at started
  · cases started
  · split at started
    · cases started
    next orphan =>
      have alone : (tree.node root).parent = none := by simpa using orphan
      cases started
      exact ((Chained.start grown alone).after grown alone inputs).sound

/-- Two menus in one tree. Entry 0 has the children 2 and 4, entry 2 has the child 3, and entry 1 has
the child 5. -/
def twoMenus : Tree :=
  let plain : Hooks Callback := ⟨.standard, .standard, .standard⟩
  let entries := (["A", "B", "A1", "A11", "A2", "B1"].foldl (fun tree label => tree.create label plain) {} : Tree)
  (((entries.attach 2 3).attach 0 2).attach 0 4).attach 1 5

theorem twoMenus_grown : twoMenus.Grown := by
  have entries := Tree.Grown.empty.foldl_create ⟨.standard, .standard, .standard⟩ ["A", "B", "A1", "A11", "A2", "B1"]
  refine ((((entries.attached ?_ ?_ ?_ ?_).attached ?_ ?_ ?_ ?_).attached ?_ ?_ ?_ ?_).attached ?_ ?_ ?_ ?_)
  all_goals decide

theorem sound_beside_another_menu : twoMenus.Grown ∧
    Navigator.start twoMenus 0 = .ok { tree := twoMenus, root := 0, current := 0 } ∧
    Sound twoMenus 0 (({ tree := twoMenus, root := 0, current := 0 } : Navigator).after [.commit, .up, .commit, .back]) :=
  ⟨twoMenus_grown, rfl, after_sound twoMenus_grown rfl _⟩

end Navigator
end PanelMenu
