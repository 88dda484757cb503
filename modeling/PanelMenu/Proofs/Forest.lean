import Mathlib.Logic.Relation
import PanelMenu.Proofs.TreeGrowth

/-! Trees stay forests while they grow. A late entry may become the parent of an early one, so numbers say
nothing about who is above whom. What bounds the way up is that it ends: attaching an entry only ever
makes ways longer that ended there, by the way of its new parent, which did not. -/

namespace PanelMenu.Tree

/-- An entry itself, or one that lies above it. -/
def Above (tree : Tree) (id above : NodeId) : Prop :=
  Relation.ReflTransGen (fun lower upper => (tree.node lower).parent = some upper) id above

namespace Climbs
variable {tree : Tree} {id above : NodeId} {path : List NodeId}

theorem mem_iff (climbs : tree.Climbs id path) : above ∈ path ↔ tree.Above id above := by
  induction climbs with
  | top alone =>
    rw [List.mem_singleton]
    constructor
    · rintro rfl
      exact .refl
    · intro higher
      rcases higher.cases_head with same | ⟨parent, linked, _⟩
      · exact same.symm
      · rw [alone] at linked
        cases linked
  | @up id parent path linked rest ih =>
    rw [List.mem_cons, ih]
    constructor
    · rintro (rfl | higher)
      · exact .refl
      · exact .head linked higher
    · intro higher
      rcases higher.cases_head with same | ⟨other, relinked, higher⟩
      · exact .inl same.symm
      · obtain rfl := Option.some.inj (linked.symm.trans relinked)
        exact .inr higher

theorem exists_last (climbs : tree.Climbs id path) : ∃ top, path.getLast? = some top := by
  obtain ⟨above, rfl⟩ := climbs.head
  exact ⟨_, List.getLast?_eq_some_getLast (List.cons_ne_nil _ _)⟩

theorem alone_iff (climbs : tree.Climbs id path) (member : above ∈ path) :
    (tree.node above).parent = none ↔ path.getLast? = some above := by
  induction climbs with
  | top alone =>
    obtain rfl := List.mem_singleton.mp member
    exact iff_of_true alone rfl
  | @up id parent path linked rest ih =>
    have distinct := (Climbs.up linked rest).nodup
    obtain ⟨higher, rfl⟩ := rest.head
    rw [List.getLast?_cons_cons]
    rcases List.mem_cons.mp member with rfl | later
    · apply iff_of_false
      · rw [linked]
        exact nofun
      · intro last
        exact (List.nodup_cons.mp distinct).1 (List.mem_of_getLast? last)
    · exact ih later

theorem rootOf_iff (climbs : tree.Climbs id path) :
    tree.Above id above ∧ (tree.node above).parent = none ↔ above = tree.rootOf id := by
  obtain ⟨top, last⟩ := climbs.exists_last
  rw [climbs.rootOf_eq last]
  constructor
  · rintro ⟨higher, alone⟩
    have again := (climbs.alone_iff (climbs.mem_iff.mpr higher)).mp alone
    exact Option.some.inj (again.symm.trans last)
  · rintro rfl
    have member := List.mem_of_getLast? last
    exact ⟨climbs.mem_iff.mp member, (climbs.alone_iff member).mpr last⟩

section Attaching
variable {parent child : NodeId} {way : List NodeId}

theorem avoids (climbs : tree.Climbs parent way) (detached : (tree.node child).parent = none)
    (separate : tree.rootOf parent ≠ child) : child ∉ way := by
  intro member
  exact separate (climbs.rootOf_eq ((climbs.alone_iff member).mp detached))

theorem kept (climbs : tree.Climbs id path) (apart : child ∉ path) : (tree.attach parent child).Climbs id path := by
  apply climbs.of_parents
  intro entry member
  rw [parent_attach, if_neg]
  rintro ⟨rfl, _⟩
  exact apart member

/-- A way that ended at the attached entry goes on with the way of its parent. -/
theorem joined (climbs : tree.Climbs id path) (through : child ∈ path) (present : child < tree.size)
    (detached : (tree.node child).parent = none) (further : (tree.attach parent child).Climbs parent way) :
    (tree.attach parent child).Climbs id (path ++ way) := by
  induction climbs with
  | @top id alone =>
    obtain rfl := List.mem_singleton.mp through
    refine .up ?_ further
    rw [parent_attach, if_pos ⟨rfl, present⟩]
  | @up id upper path linked rest ih =>
    have different : child ≠ id := by
      rintro rfl
      rw [detached] at linked
      cases linked
    have later : child ∈ path := (List.mem_cons.mp through).resolve_left different
    refine .up ?_ (ih later)
    rw [parent_attach, if_neg (fun here => different here.1), linked]

end Attaching
end Climbs

namespace Grown
variable {tree : Tree}

theorem parent_inside (grown : tree.Grown) {id parent : NodeId} (linked : (tree.node id).parent = some parent) :
    parent < tree.size := by
  induction grown generalizing id parent with
  | empty => cases linked
  | created _ _ _ ih =>
    rw [parent_create] at linked
    rw [size_create]
    exact Nat.lt_succ_of_lt (ih linked)
  | attached _ inside _ _ _ ih =>
    rw [parent_attach] at linked
    rw [size_attach]
    split at linked
    next =>
      obtain rfl := Option.some.inj linked
      exact inside
    next => exact ih linked

theorem parent_child (grown : tree.Grown) {id parent : NodeId} (linked : (tree.node id).parent = some parent) :
    id ∈ (tree.node parent).children := by
  induction grown generalizing id parent with
  | empty => cases linked
  | created _ _ _ ih =>
    rw [parent_create] at linked
    rw [children_create]
    exact ih linked
  | attached _ inside _ _ _ ih =>
    rw [parent_attach] at linked
    rw [children_attach]
    split at linked
    next here =>
      obtain rfl := Option.some.inj linked
      rw [if_pos ⟨rfl, inside⟩, here.1]
      exact List.mem_append_right _ List.mem_cons_self
    next =>
      have member := ih linked
      split
      · exact List.mem_append_left _ member
      · exact member

theorem nodup_children (grown : tree.Grown) (id : NodeId) : (tree.node id).children.Nodup := by
  induction grown with
  | empty => exact List.nodup_nil
  | created _ _ _ ih =>
    rw [children_create]
    exact ih
  | @attached tree parent child grown _ _ detached _ ih =>
    rw [children_attach]
    split
    next =>
      refine List.nodup_append.mpr ⟨ih, List.nodup_singleton _, ?_⟩
      rintro other member _ new rfl
      obtain rfl := List.mem_singleton.mp new
      have linked := grown.child_parent member
      rw [detached] at linked
      cases linked
    next => exact ih

theorem climbs (grown : tree.Grown) (id : NodeId) : ∃ path, tree.Climbs id path := by
  induction grown generalizing id with
  | empty => exact ⟨[id], .top rfl⟩
  | created _ _ _ ih =>
    obtain ⟨path, climbs⟩ := ih id
    exact ⟨path, climbs.of_parents fun entry _ => parent_create ..⟩
  | @attached tree parent child _ _ present detached separate ih =>
    obtain ⟨way, further⟩ := ih parent
    obtain ⟨path, climbs⟩ := ih id
    by_cases through : child ∈ path
    · have lifted : (tree.attach parent child).Climbs parent way := further.kept (further.avoids detached separate)
      exact ⟨path ++ way, climbs.joined through present detached lifted⟩
    · exact ⟨path, climbs.kept through⟩

theorem length_le (grown : tree.Grown) {id : NodeId} {path : List NodeId} (inside : id < tree.size)
    (climbs : tree.Climbs id path) : path.length ≤ tree.size := by
  have covered : path ⊆ List.range tree.size := by
    intro entry member
    rw [List.mem_range]
    rcases (climbs.mem_iff.mp member).cases_tail with same | ⟨lower, _, linked⟩
    · exact same ▸ inside
    · exact grown.parent_inside linked
  have bound := climbs.nodup.length_le_of_subset covered
  rwa [List.length_range] at bound

end Grown

/-- Parents and children agree, and from every entry the way up ends after fewer steps than there are
entries: it has one step less than it lists entries. -/
structure Forest (tree : Tree) : Prop where
  parent_iff : ∀ parent child, (tree.node child).parent = some parent ↔ child ∈ (tree.node parent).children
  distinct : ((List.range tree.size).flatMap fun id => (tree.node id).children).Nodup
  ends : ∀ id < tree.size, tree.Climbs id (tree.lineage id) ∧ (tree.lineage id).length ≤ tree.size
  rootOf_iff : ∀ id top, tree.Above id top ∧ (tree.node top).parent = none ↔ top = tree.rootOf id
  depth_top : ∀ id, (tree.node id).parent = none → tree.depth id = 0
  depth_child : ∀ parent child, (tree.node child).parent = some parent → tree.depth child = tree.depth parent + 1

theorem Grown.forest {tree : Tree} (grown : tree.Grown) : tree.Forest where
  parent_iff _ _ := ⟨grown.parent_child, grown.child_parent⟩
  distinct := by
    refine List.nodup_flatMap.mpr ⟨fun id _ => grown.nodup_children id, ?_⟩
    refine List.nodup_range.imp ?_
    intro first second different child member again
    have linked := grown.child_parent member
    rw [grown.child_parent again] at linked
    exact different (Option.some.inj linked).symm
  ends id inside := by
    obtain ⟨path, climbs⟩ := grown.climbs id
    rw [climbs.lineage_eq]
    exact ⟨climbs, grown.length_le inside climbs⟩
  rootOf_iff id _ := by
    obtain ⟨path, climbs⟩ := grown.climbs id
    exact climbs.rootOf_iff
  depth_top id alone := (Climbs.top alone).depth_eq
  depth_child parent child linked := by
    obtain ⟨path, climbs⟩ := grown.climbs parent
    obtain ⟨above, rfl⟩ := climbs.head
    rw [climbs.depth_eq, (Climbs.up linked climbs).depth_eq]
    rfl

/-- What attaching `child` below `parent` comes to: the entries below `child` move down together and get
the root of `parent`, all others stay where they are. -/
structure Grafted (before : Tree) (parent child : NodeId) (after : Tree) : Prop where
  size_eq : after.size = before.size
  below : ∀ id, before.Above id child →
    after.depth id = before.depth id + (before.depth parent + 1) ∧ after.rootOf id = before.rootOf parent
  beside : ∀ id, ¬ before.Above id child → after.depth id = before.depth id ∧ after.rootOf id = before.rootOf id
  parent_eq : after.node parent =
    { before.node parent with children := (before.node parent).children ++ [child] }
  child_eq : after.node child = { before.node child with parent := some parent }
  other_eq : ∀ id, id ≠ parent → id ≠ child → after.node id = before.node id

theorem Grown.grafted {tree : Tree} {parent child : NodeId} (grown : tree.Grown) (inside : parent < tree.size)
    (present : child < tree.size) (detached : (tree.node child).parent = none)
    (separate : tree.rootOf parent ≠ child) : tree.Grafted parent child (tree.attach parent child) := by
  obtain ⟨way, further⟩ := grown.climbs parent
  have apart := further.avoids detached separate
  have lifted : (tree.attach parent child).Climbs parent way := further.kept apart
  have different : parent ≠ child := by
    rintro rfl
    exact apart (further.mem_iff.mpr .refl)
  constructor
  case size_eq => exact size_attach ..
  case below =>
    intro id higher
    obtain ⟨path, climbs⟩ := grown.climbs id
    have joined := climbs.joined (climbs.mem_iff.mpr higher) present detached lifted
    obtain ⟨top, last⟩ := further.exists_last
    obtain ⟨above, rfl⟩ := further.head
    constructor
    · rw [joined.depth_eq, climbs.depth_eq, further.depth_eq]
      obtain ⟨rest, rfl⟩ := climbs.head
      simp only [List.length_append, List.length_cons]
      omega
    · rw [joined.rootOf_eq (List.getLast?_append_of_ne_nil _ (List.cons_ne_nil _ _) ▸ last), further.rootOf_eq last]
  case beside =>
    intro id lower
    obtain ⟨path, climbs⟩ := grown.climbs id
    obtain ⟨top, last⟩ := climbs.exists_last
    have kept : (tree.attach parent child).Climbs id path := climbs.kept (fun through => lower (climbs.mem_iff.mp through))
    exact ⟨kept.depth_eq.trans climbs.depth_eq.symm, (kept.rootOf_eq last).trans (climbs.rootOf_eq last).symm⟩
  case parent_eq => simp [attach, node_modify, inside, different.symm]
  case child_eq => simp [attach, node_modify, present, different]
  case other_eq =>
    intro id notParent notChild
    simp [attach, node_modify, notParent.symm, notChild.symm]

end PanelMenu.Tree
