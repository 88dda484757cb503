import PanelMenu.Proofs.MenuPlaces
import PanelMenu.Proofs.TreeLayout

/-! Building a menu loses nothing, invents nothing and keeps the order: the menu can be read back from
its tree, and every entry of the tree is the entry of the menu that comes in its place. -/

namespace PanelMenu

namespace MenuSpec

mutual

/-- The menu without its bindings. -/
def unbound : MenuSpec → MenuSpec
  | ⟨label, _, children⟩ => { label := label, children := unboundAll children }

def unboundAll : List MenuSpec → List MenuSpec
  | [] => []
  | child :: rest => child.unbound :: unboundAll rest

end

theorem unbound_eq (spec : MenuSpec) :
    spec.unbound = { label := spec.label, children := unboundAll spec.children } := by
  cases spec
  rfl

theorem unboundAll_eq_map (specs : List MenuSpec) : unboundAll specs = specs.map unbound := by
  induction specs with
  | nil => rfl
  | cons child rest ih => rw [unboundAll, ih, List.map_cons]

private theorem size_le_sizeAll {specs : List MenuSpec} {child : MenuSpec} {index : Nat}
    (below : specs[index]? = some child) : child.size ≤ sizeAll specs := by
  induction specs generalizing index with
  | nil => cases below
  | cons head rest ih =>
    rw [sizeAll]
    cases index with
    | zero =>
      obtain rfl := Option.some.inj below
      exact Nat.le_add_right _ _
    | succ index => exact Nat.le_trans (ih below) (Nat.le_add_left _ _)

theorem size_child_lt {entry child : MenuSpec} {index : Nat} (below : entry.children[index]? = some child) :
    child.size < entry.size := by
  rw [entry.size_eq, Nat.add_comm]
  exact Nat.lt_succ_of_le (size_le_sizeAll below)

end MenuSpec

namespace Registry

private theorem resolve_get {registry : Registry} {bindings : Hooks (Option String)} {callbacks : Hooks Callback}
    (resolved : registry.resolveAll bindings = .ok callbacks) (hook : Hook) :
    registry.resolve (bindings.get hook) = .ok (callbacks.get hook) := by
  obtain ⟨enter, entering, resolved⟩ := Except.of_bind_ok resolved
  obtain ⟨exit, exiting, resolved⟩ := Except.of_bind_ok resolved
  obtain ⟨action, acting, resolved⟩ := Except.of_bind_ok resolved
  obtain rfl := Except.ok.inj resolved
  cases hook with
  | enter => exact entering
  | exit => exact exiting
  | action => exact acting

end Registry

namespace Tree
open MenuSpec

/-- Labels and children of an entry and of everything below it, down to so many levels. -/
def readBack (tree : Tree) : Nat → NodeId → MenuSpec
  | 0, id => { label := (tree.node id).label }
  | levels + 1, id =>
    { label := (tree.node id).label, children := (tree.node id).children.map (tree.readBack levels) }

/-- The entry `id` of a tree stands for the one of a menu to which `path` leads. -/
structure Stands (registry : Registry) (spec : MenuSpec) (tree : Tree) (id : NodeId) (path : List Nat)
    (entry : MenuSpec) : Prop where
  reached : spec.reached? path = some entry
  label : (tree.node id).label = entry.label
  children : ∀ index child, (tree.node id).children[index]? = some child ↔
    spec.places[child]? = some (path ++ [index])
  callbacks : ∀ hook, registry.resolve (entry.bindings.get hook) = .ok ((tree.node id).callbacks.get hook)
  selected : (tree.node id).selected = 0
  depth : tree.depth id = path.length
  root : tree.rootOf id = 0

structure Mirrors (registry : Registry) (spec : MenuSpec) (tree : Tree) : Prop where
  size_eq : tree.size = spec.size
  stands : ∀ id < tree.size, ∃ path entry, spec.places[id]? = some path ∧ tree.Stands registry spec id path entry
  downward : ∀ id, ∀ child ∈ (tree.node id).children, id < child
  alone : ∀ id < tree.size, (tree.node id).parent = none ↔ id = 0
  adopted : ∀ id < tree.size, id ≠ 0 → ∃ parent, (tree.node id).parent = some parent ∧
    ∀ other, (tree.node other).children.count id = if other = parent then 1 else 0
  readBack_eq : ∀ levels, spec.size ≤ levels → tree.readBack levels 0 = spec.unbound

private theorem growChildren_each {registry : Registry} {tree grown : Tree} {parent : NodeId}
    {specs : List MenuSpec} {index : Nat} {child : MenuSpec}
    (ok : growChildren registry tree parent specs = .ok grown) (below : specs[index]? = some child) :
    ∃ before after, grow registry before child = .ok after := by
  induction specs generalizing tree index with
  | nil => cases below
  | cons head rest ih =>
    rw [growChildren] at ok
    obtain ⟨between, first, ok⟩ := Except.of_bind_ok ok
    cases index with
    | zero =>
      obtain rfl := Option.some.inj below
      exact ⟨tree, between, first⟩
    | succ index => exact ih ok below

/-- A menu that grows has no binding that is refused, however far down. -/
theorem grow_resolves {registry : Registry} {tree grown : Tree} {spec entry : MenuSpec} {path : List Nat}
    (ok : grow registry tree spec = .ok grown) (found : spec.reached? path = some entry) :
    registry.resolveAll entry.bindings = .ok (registry.boundAll entry.bindings) := by
  induction path generalizing tree grown spec with
  | nil =>
    obtain rfl := Option.some.inj found
    cases spec
    rw [grow] at ok
    obtain ⟨callbacks, resolved, _⟩ := Except.of_bind_ok ok
    rw [← Registry.resolveAll_bound resolved]
    exact resolved
  | cons index path ih =>
    cases spec
    obtain ⟨child, below, found⟩ := reached?_cons found
    rw [grow] at ok
    obtain ⟨callbacks, _, ok⟩ := Except.of_bind_ok ok
    obtain ⟨before, after, lower⟩ := growChildren_each ok below
    exact ih lower found

section Built
variable {registry : Registry} {spec entry : MenuSpec} {tree : Tree} {path : List Nat}
  (built : Tree.build registry spec = .ok tree)
include built

theorem build_size : tree.size = spec.size := by
  have lengths := congrArg List.length (build_layout built)
  rwa [length_layout] at lengths

theorem childAt_iff (found : spec.reached? path = some entry) {index child : Nat} :
    (tree.node (spec.position path)).children[index]? = some child ↔
      spec.places[child]? = some (path ++ [index]) := by
  rw [child_position built rfl found, places_iff, reached?_child found]
  cases entry.children[index]? with
  | none => simp
  | some below => simp

theorem stands_position (found : spec.reached? path = some entry) :
    tree.Stands registry spec (spec.position path) path entry where
  reached := found
  label := label_position built rfl found
  children := fun _ _ => childAt_iff built found
  callbacks := by
    rw [callbacks_position built rfl found]
    exact Registry.resolve_get (grow_resolves built found)
  selected := by
    rw [node_position built found]
    rfl
  depth := depth_position built rfl found
  root := rootOf_position built rfl found

theorem position_of_child {id child : NodeId} (member : child ∈ (tree.node id).children) :
    ∃ path index entry, spec.reached? path = some entry ∧ spec.position path = id ∧
      spec.places[child]? = some (path ++ [index]) := by
  by_cases inside : id < tree.size
  · rw [build_size built] at inside
    obtain ⟨path, entry, found, rfl⟩ := exists_position inside
    obtain ⟨index, chosen⟩ := List.mem_iff_getElem?.mp member
    exact ⟨path, index, entry, found, rfl, (childAt_iff built found).mp chosen⟩
  · rw [node_outside (Nat.le_of_not_lt inside)] at member
    cases member

theorem lt_of_child {id child : NodeId} (member : child ∈ (tree.node id).children) : id < child := by
  obtain ⟨path, index, _, _, rfl, listed⟩ := position_of_child built member
  obtain ⟨_, below, rfl⟩ := reached?_of_places listed
  exact position_lt below

theorem nodup_children (id : NodeId) : (tree.node id).children.Nodup := by
  rw [List.nodup_iff_getElem?_ne_getElem?]
  intro first second before within same
  have chosen := List.getElem?_eq_getElem within
  rw [chosen] at same
  obtain ⟨path, _, entry, found, rfl, _⟩ := position_of_child built (List.getElem_mem within)
  have left := (childAt_iff built found).mp same
  have right := (childAt_iff built found).mp chosen
  rw [left] at right
  have equal : first = second := by simpa using right
  omega

theorem parent_iff {id parent : NodeId} :
    (tree.node id).parent = some parent ↔ id ∈ (tree.node parent).children := by
  constructor
  · intro linked
    have inside := inside_of_parent linked
    rw [build_size built] at inside
    obtain ⟨path, entry, found, rfl⟩ := exists_position inside
    rw [parent_position built rfl found] at linked
    rcases List.eq_nil_or_concat' path with rfl | ⟨above, index, rfl⟩
    · cases linked
    · rw [if_neg (by simp), List.dropLast_concat] at linked
      obtain rfl := Option.some.inj linked
      have prefixed := found
      rw [reached?_append] at prefixed
      obtain ⟨upper, reached, _⟩ := Option.bind_eq_some_iff.mp prefixed
      exact List.mem_of_getElem? ((childAt_iff built reached).mpr (places_position found))
  · intro member
    obtain ⟨path, index, entry, _, rfl, listed⟩ := position_of_child built member
    obtain ⟨_, below, rfl⟩ := reached?_of_places listed
    rw [parent_position built rfl below, if_neg (by simp), List.dropLast_concat]

theorem count_children {id parent : NodeId} (linked : (tree.node id).parent = some parent) (other : NodeId) :
    (tree.node other).children.count id = if other = parent then 1 else 0 := by
  split
  next same =>
    subst same
    exact List.count_eq_one_of_mem (nodup_children built _) ((parent_iff built).mp linked)
  next different =>
    rw [List.count_eq_zero]
    intro member
    have again := (parent_iff built).mpr member
    rw [linked] at again
    exact different (Option.some.inj again).symm

theorem readBack_position (found : spec.reached? path = some entry) {levels : Nat}
    (enough : entry.size ≤ levels) : tree.readBack levels (spec.position path) = entry.unbound := by
  induction levels generalizing path entry with
  | zero =>
    rw [entry.size_eq] at enough
    omega
  | succ levels ih =>
    rw [readBack, label_position built rfl found, unbound_eq, unboundAll_eq_map]
    congr 1
    apply List.ext_getElem?
    intro index
    rw [List.getElem?_map, List.getElem?_map, child_position built rfl found]
    cases below : entry.children[index]? with
    | none => rfl
    | some child =>
      have smaller := size_child_lt below
      exact congrArg some (ih ((reached?_child found index).trans below) (by omega))

theorem parent_none_iff {id : NodeId} (inside : id < tree.size) : (tree.node id).parent = none ↔ id = 0 := by
  rw [build_size built] at inside
  obtain ⟨path, entry, found, rfl⟩ := exists_position inside
  rw [parent_position built rfl found]
  cases path with
  | nil => simp [position]
  | cons index rest =>
    rw [← List.nil_append (index :: rest)] at found
    have nonzero : spec.position (index :: rest) ≠ 0 := Nat.ne_of_gt (position_lt found)
    simp [nonzero]

/-- Every menu that can be built is mirrored by its tree. -/
theorem build_mirrors : tree.Mirrors registry spec where
  size_eq := build_size built
  stands := by
    intro id inside
    rw [build_size built] at inside
    obtain ⟨path, entry, found, rfl⟩ := exists_position inside
    exact ⟨path, entry, places_position found, stands_position built found⟩
  downward := fun _ _ => lt_of_child built
  alone := fun _ => parent_none_iff built
  adopted := by
    intro id inside nested
    cases linked : (tree.node id).parent with
    | none => exact absurd ((parent_none_iff built inside).mp linked) nested
    | some parent => exact ⟨parent, rfl, count_children built linked⟩
  readBack_eq := by
    intro levels enough
    have found : spec.reached? [] = some spec := rfl
    exact readBack_position built found enough

end Built

theorem mirrors_demo :
    let registry := ({ policy := .announcing } : Registry).register "submenu1_enter"
    ∃ tree, Tree.build registry .demo = .ok tree ∧ tree.Mirrors registry .demo :=
  ⟨_, rfl, build_mirrors rfl⟩

end Tree
end PanelMenu
