import Mathlib.Data.List.Induction
import PanelMenu.Menu.Build
import PanelMenu.Proofs.MenuPath
import PanelMenu.Proofs.Outcome
import PanelMenu.Proofs.TreeAncestry

/-! The tree of a menu written down as one list, each entry with the links that it ends up with.
Building goes through many intermediate trees; everything that is known about its result is read off
this list. -/

namespace PanelMenu

namespace Registry

/-- The callback for a binding whose name is not refused. -/
def bound (registry : Registry) : Option String → Callback
  | none => .standard
  | some name =>
    match registry.find? name with
    | some handler => .handled handler
    | none => .named name

def boundAll (registry : Registry) (bindings : Hooks (Option String)) : Hooks Callback :=
  ⟨registry.bound bindings.enter, registry.bound bindings.exit, registry.bound bindings.action⟩

theorem resolve_bound {registry : Registry} {name : Option String} {callback : Callback}
    (resolved : registry.resolve name = .ok callback) : callback = registry.bound name := by
  cases name with
  | none => exact (Except.ok.inj resolved).symm
  | some name =>
    simp only [resolve] at resolved
    simp only [bound]
    cases found : registry.find? name with
    | some handler =>
      rw [found] at resolved
      exact (Except.ok.inj resolved).symm
    | none =>
      rw [found] at resolved
      cases policy : registry.policy with
      | strict => rw [policy] at resolved; cases resolved
      | announcing => rw [policy] at resolved; exact (Except.ok.inj resolved).symm

theorem resolveAll_bound {registry : Registry} {bindings : Hooks (Option String)} {callbacks : Hooks Callback}
    (resolved : registry.resolveAll bindings = .ok callbacks) : callbacks = registry.boundAll bindings := by
  obtain ⟨enter, entering, resolved⟩ := Except.of_bind_ok resolved
  obtain ⟨exit, exiting, resolved⟩ := Except.of_bind_ok resolved
  obtain ⟨action, acting, resolved⟩ := Except.of_bind_ok resolved
  rw [boundAll, ← resolve_bound entering, ← resolve_bound exiting, ← resolve_bound acting]
  exact (Except.ok.inj resolved).symm

end Registry

namespace MenuSpec

/-- Where the trees of a list of entries begin when the first begins at `base`. -/
def starts (base : Nat) : List MenuSpec → List Nat
  | [] => []
  | child :: rest => base :: starts (base + child.size) rest

def placed (registry : Registry) (parent : Option Nat) (id : Nat) (entry : MenuSpec) : Node where
  label := entry.label
  callbacks := registry.boundAll entry.bindings
  parent := parent
  children := starts (id + 1) entry.children

mutual

/-- An entry at `base` and everything below it, in the order of the document. -/
def layout (registry : Registry) (parent : Option Nat) (base : Nat) : MenuSpec → List Node
  | ⟨label, bindings, children⟩ =>
    placed registry parent base ⟨label, bindings, children⟩ :: layoutAll registry base (base + 1) children

def layoutAll (registry : Registry) (parent base : Nat) : List MenuSpec → List Node
  | [] => []
  | child :: rest =>
    layout registry (some parent) base child ++ layoutAll registry parent (base + child.size) rest

end

theorem layout_eq (registry : Registry) (parent : Option Nat) (base : Nat) (spec : MenuSpec) :
    spec.layout registry parent base =
      spec.placed registry parent base :: layoutAll registry base (base + 1) spec.children := by
  cases spec
  rfl

mutual

@[simp] theorem length_layout (registry : Registry) (parent : Option Nat) (base : Nat) :
    ∀ spec : MenuSpec, (spec.layout registry parent base).length = spec.size
  | ⟨_, _, children⟩ => by
    rw [layout, List.length_cons, length_layoutAll registry base (base + 1) children, size, Nat.add_comm]

@[simp] theorem length_layoutAll (registry : Registry) (parent base : Nat) :
    ∀ specs : List MenuSpec, (layoutAll registry parent base specs).length = sizeAll specs
  | [] => rfl
  | child :: rest => by
    rw [layoutAll, List.length_append, length_layout registry (some parent) base child,
      length_layoutAll registry parent (base + child.size) rest, sizeAll]

end

theorem getElem?_starts (specs : List MenuSpec) (base : Nat) (index : Nat) :
    (starts base specs)[index]? = specs[index]?.map fun _ => base + sizeAll (specs.take index) := by
  induction specs generalizing base index with
  | nil => rfl
  | cons child rest ih =>
    cases index with
    | zero => simp [starts, sizeAll]
    | succ index => simp [starts, ih, sizeAll, Nat.add_assoc]

@[simp] theorem length_starts (specs : List MenuSpec) (base : Nat) :
    (starts base specs).length = specs.length := by
  induction specs generalizing base with
  | nil => rfl
  | cons child rest ih => simp [starts, ih]

private theorem getElem?_layoutAll {registry : Registry} {parent base : Nat} {specs : List MenuSpec}
    {child : MenuSpec} {index offset : Nat} {node : Node} (below : specs[index]? = some child)
    (found : (child.layout registry (some parent) (base + sizeAll (specs.take index)))[offset]? = some node) :
    (layoutAll registry parent base specs)[sizeAll (specs.take index) + offset]? = some node := by
  induction specs generalizing base index with
  | nil => cases below
  | cons first rest ih =>
    cases index with
    | zero =>
      obtain rfl := Option.some.inj below
      obtain ⟨within, _⟩ := List.getElem?_eq_some_iff.mp found
      simp only [List.take_zero, sizeAll, Nat.add_zero, Nat.zero_add] at within found ⊢
      rw [layoutAll, List.getElem?_append_left within, found]
    | succ index =>
      simp only [List.take_succ_cons, sizeAll] at found ⊢
      rw [layoutAll, List.getElem?_append_right (by simp; omega), length_layout, Nat.add_assoc, Nat.add_sub_cancel_left]
      exact ih below (by rwa [Nat.add_assoc])

/-- Every entry stands at its position, below the entry that its path comes through last. -/
theorem getElem?_layout {registry : Registry} {spec entry : MenuSpec} {path : List Nat}
    (found : spec.reached? path = some entry) (parent : Option Nat) (base : Nat) :
    (spec.layout registry parent base)[spec.position path]? =
      some (entry.placed registry (if path = [] then parent else some (base + spec.position path.dropLast))
        (base + spec.position path)) := by
  induction path generalizing spec parent base with
  | nil =>
    obtain rfl := Option.some.inj found
    simp [layout_eq, position]
  | cons index path ih =>
    obtain ⟨child, below, found⟩ := reached?_cons found
    have inner := getElem?_layoutAll below (ih found (some base) (base + 1 + sizeAll (spec.children.take index)))
    have shift : 1 + sizeAll (spec.children.take index) + child.position path =
        sizeAll (spec.children.take index) + child.position path + 1 := by omega
    rw [layout_eq, position_cons below, shift, List.getElem?_cons_succ, inner, if_neg (List.cons_ne_nil _ _)]
    congr 2
    · cases path with
      | nil => rfl
      | cons next rest =>
        rw [if_neg (List.cons_ne_nil _ _), List.dropLast_cons_cons, position_cons below]
        congr 1
        omega
    · omega

end MenuSpec

namespace Tree
open MenuSpec

private theorem modify_left {α : Type} (first rest : List α) {index : Nat} (inside : index < first.length)
    (change : α → α) : (first ++ rest).modify index change = first.modify index change ++ rest := by
  induction first generalizing index with
  | nil => cases inside
  | cons item first ih =>
    cases index with
    | zero => rfl
    | succ index =>
      rw [List.cons_append, List.modify_succ_cons, List.modify_succ_cons, List.cons_append,
        ih (Nat.lt_of_succ_lt_succ inside)]

private theorem modify_middle {α : Type} (first : List α) (item : α) (rest : List α) (change : α → α) :
    (first ++ item :: rest).modify first.length change = first ++ change item :: rest := by
  induction first with
  | nil => rfl
  | cons head first ih => rw [List.cons_append, List.length_cons, List.modify_succ_cons, ih, List.cons_append]

private def adopt (ids : List NodeId) (node : Node) : Node :=
  { node with children := node.children ++ ids }

private theorem attach_grown {registry : Registry} {before after : Tree} {parent : Nat} {child : MenuSpec}
    (inside : parent < before.size)
    (grown : after.nodes.toList = before.nodes.toList ++ child.layout registry none before.size) :
    (after.attach parent before.size).nodes.toList =
      before.nodes.toList.modify parent (adopt [before.size]) ++
        child.layout registry (some parent) before.size := by
  have listed : before.size = before.nodes.toList.length := rfl
  rw [listed] at inside
  have length : (before.nodes.toList.modify parent (adopt [before.size])).length = before.size := by
    rw [List.length_modify, listed]
  have appended := modify_middle (before.nodes.toList.modify parent (adopt [before.size]))
    (child.placed registry none before.size) (layoutAll registry before.size (before.size + 1) child.children)
    (fun node => { node with parent := some parent })
  rw [length] at appended
  simp only [attach, modify, Array.toList_modify]
  rw [grown, modify_left _ _ inside, layout_eq, layout_eq]
  exact appended

mutual

/-- Growing a menu adds exactly the entries of its layout behind all that was there. -/
theorem grow_layout {registry : Registry} {tree grown : Tree} :
    ∀ {spec : MenuSpec}, grow registry tree spec = .ok grown →
      grown.nodes.toList = tree.nodes.toList ++ spec.layout registry none tree.size
  | ⟨label, bindings, children⟩, ok => by
    rw [grow] at ok
    obtain ⟨callbacks, resolved, ok⟩ := Except.of_bind_ok ok
    obtain rfl := Registry.resolveAll_bound resolved
    have listed : tree.size = tree.nodes.toList.length := rfl
    have created : (tree.create label (registry.boundAll bindings)).nodes.toList =
        tree.nodes.toList ++ [{ label := label, callbacks := registry.boundAll bindings }] := by
      simp [create]
    have inside : tree.size < (tree.create label (registry.boundAll bindings)).size := by simp [create, size]
    rw [growChildren_layout inside ok, created, layout, listed, modify_middle]
    simp [adopt, placed, create, size]

theorem growChildren_layout {registry : Registry} {tree grown : Tree} {parent : Nat}
    (inside : parent < tree.size) :
    ∀ {specs : List MenuSpec}, growChildren registry tree parent specs = .ok grown →
      grown.nodes.toList =
        tree.nodes.toList.modify parent (adopt (starts tree.size specs)) ++
          layoutAll registry parent tree.size specs
  | [], ok => by
    obtain rfl := Except.ok.inj ok
    have unchanged : adopt [] = id := by
      funext node
      simp [adopt]
    rw [starts, unchanged, List.modify_id, layoutAll, List.append_nil]
  | child :: rest, ok => by
    rw [growChildren] at ok
    obtain ⟨between, first, ok⟩ := Except.of_bind_ok ok
    have attached := attach_grown inside (grow_layout first)
    have size_eq : (between.attach parent tree.size).size = tree.size + child.size := by
      have lengths := congrArg List.length attached
      simpa [size] using lengths
    have within : parent < tree.nodes.toList.length := inside
    rw [growChildren_layout (by omega) ok, attached, size_eq, modify_left _ _ (by simpa using within),
      List.modify_modify_eq, starts, layoutAll, List.append_assoc]
    congr 2
    funext node
    simp [adopt, Function.comp]

end

theorem build_layout {registry : Registry} {spec : MenuSpec} {tree : Tree}
    (built : Tree.build registry spec = .ok tree) : tree.nodes.toList = spec.layout registry none 0 := by
  simpa [size] using grow_layout built

section Built
variable {registry : Registry} {spec entry : MenuSpec} {tree : Tree} {path : List Nat}
  (built : Tree.build registry spec = .ok tree)
include built

theorem node_position (found : spec.reached? path = some entry) :
    tree.node (spec.position path) =
      entry.placed registry (if path = [] then none else some (spec.position path.dropLast))
        (spec.position path) := by
  have placed : (spec.layout registry none 0)[spec.position path]? = _ := getElem?_layout found none 0
  simp only [Nat.zero_add] at placed
  rw [← build_layout built, Array.getElem?_toList] at placed
  rw [node, Array.getD_eq_getD_getElem?, placed, Option.getD_some]

theorem position_inside (found : spec.reached? path = some entry) : spec.position path < tree.size := by
  have placed : (spec.layout registry none 0)[spec.position path]? = _ := getElem?_layout found none 0
  obtain ⟨inside, _⟩ := List.getElem?_eq_some_iff.mp placed
  rw [← build_layout built] at inside
  exact inside

/-- The way up from an entry visits the entries on its path. -/
theorem climbs_position (found : spec.reached? path = some entry) :
    ∃ way, tree.Climbs (spec.position path) way ∧ way.length = path.length + 1 ∧ way.getLast? = some 0 := by
  induction path using List.reverseRecOn generalizing entry with
  | nil => exact ⟨[0], .top (by simp [node_position built found, placed]), rfl, rfl⟩
  | append_singleton path index ih =>
    have prefixed := found
    rw [reached?_append] at prefixed
    obtain ⟨above, upper, _⟩ := Option.bind_eq_some_iff.mp prefixed
    obtain ⟨way, climbs, length, last⟩ := ih upper
    refine ⟨spec.position (path ++ [index]) :: way, .up ?_ climbs, by simp [length], ?_⟩
    · simp [node_position built found, placed]
    · obtain ⟨rest, rfl⟩ := climbs.head
      simpa using last

end Built

/-! Navigation keeps the links, so entries of later trees stand where they did at the start. -/

section Navigated
variable {registry : Registry} {spec entry : MenuSpec} {tree later : Tree} {path : List Nat}
  (built : Tree.build registry spec = .ok tree) (same : later.cleared = tree.cleared)
include built same

theorem label_position (found : spec.reached? path = some entry) :
    (later.node (spec.position path)).label = entry.label := by
  rw [same_label same, node_position built found]
  rfl

theorem callbacks_position (found : spec.reached? path = some entry) :
    (later.node (spec.position path)).callbacks = registry.boundAll entry.bindings := by
  rw [same_callbacks same, node_position built found]
  rfl

theorem children_position (found : spec.reached? path = some entry) :
    (later.node (spec.position path)).children = starts (spec.position path + 1) entry.children := by
  rw [same_children same, node_position built found]
  rfl

theorem leaf_position (found : spec.reached? path = some entry) :
    (later.node (spec.position path)).children = [] ↔ entry.children = [] := by
  rw [children_position built same found, ← List.length_eq_zero_iff, length_starts,
    List.length_eq_zero_iff]

theorem parent_position (found : spec.reached? path = some entry) :
    (later.node (spec.position path)).parent =
      if path = [] then none else some (spec.position path.dropLast) := by
  rw [same_parent same, node_position built found]
  rfl

theorem child_position (found : spec.reached? path = some entry) (index : Nat) :
    (later.node (spec.position path)).children[index]? =
      entry.children[index]?.map fun _ => spec.position (path ++ [index]) := by
  rw [children_position built same found, getElem?_starts]
  cases below : entry.children[index]? with
  | none => rfl
  | some child =>
    simp only [Option.map_some, position_child found below]
    congr 1
    omega

theorem rootOf_position (found : spec.reached? path = some entry) :
    later.rootOf (spec.position path) = 0 := by
  obtain ⟨way, climbs, _, last⟩ := climbs_position built found
  exact (climbs.transfer same.symm).rootOf_eq last

theorem depth_position (found : spec.reached? path = some entry) :
    later.depth (spec.position path) = path.length := by
  obtain ⟨way, climbs, length, _⟩ := climbs_position built found
  rw [(climbs.transfer same.symm).depth_eq, length, Nat.add_sub_cancel]

end Navigated

end Tree
end PanelMenu
