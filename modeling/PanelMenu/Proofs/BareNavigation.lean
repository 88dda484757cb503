import PanelMenu.Proofs.NavigatorStep
import PanelMenu.Proofs.TreeLayout

/-! Navigation without labels and callbacks. Taking them away commutes with every input, and what is left
of the tree of a menu depends on nothing but how its entries are nested. So menus of one shape are
navigated alike, whatever their entries are called and whatever runs when they are visited. -/

namespace PanelMenu

namespace MenuSpec

mutual

/-- The shape of a menu: the same entries, without labels and bindings. -/
def bare : MenuSpec → MenuSpec
  | ⟨_, _, children⟩ => { label := "", children := bareAll children }

def bareAll : List MenuSpec → List MenuSpec
  | [] => []
  | child :: rest => child.bare :: bareAll rest

end

mutual

@[simp] theorem size_bare : ∀ spec : MenuSpec, spec.bare.size = spec.size
  | ⟨_, _, children⟩ => by rw [bare, size, size, sizeAll_bareAll children]

@[simp] theorem sizeAll_bareAll : ∀ specs : List MenuSpec, sizeAll (bareAll specs) = sizeAll specs
  | [] => rfl
  | child :: rest => by rw [bareAll, sizeAll, sizeAll, size_bare child, sizeAll_bareAll rest]

end

@[simp] theorem starts_bareAll (base : Nat) (specs : List MenuSpec) : starts base (bareAll specs) = starts base specs := by
  induction specs generalizing base with
  | nil => rfl
  | cons child rest ih => rw [bareAll, starts, starts, size_bare, ih]

end MenuSpec

def Node.bare (node : Node) : Node :=
  { node with label := "", callbacks := ⟨.standard, .standard, .standard⟩ }

def Event.bare : Event → Event
  | .hookFired node _ hook _ => .hookFired node "" hook .standard
  | event => event

namespace MenuSpec
variable (registry other : Registry)

theorem placed_bare (parent : Option Nat) (id : Nat) (entry : MenuSpec) :
    (entry.placed registry parent id).bare = entry.bare.placed other parent id := by
  cases entry
  simp [placed, Node.bare, bare, Registry.boundAll, Registry.bound]

mutual

theorem layout_bare (parent : Option Nat) (base : Nat) :
    ∀ spec : MenuSpec, (spec.layout registry parent base).map Node.bare = spec.bare.layout other parent base
  | ⟨label, bindings, children⟩ => by
    rw [layout, List.map_cons, placed_bare registry other, layoutAll_bare base (base + 1) children]
    rfl

theorem layoutAll_bare (parent base : Nat) :
    ∀ specs : List MenuSpec,
      (layoutAll registry parent base specs).map Node.bare = layoutAll other parent base (bareAll specs)
  | [] => rfl
  | child :: rest => by
    rw [layoutAll, List.map_append, layout_bare (some parent) base child, layoutAll_bare parent (base + child.size) rest,
      bareAll, layoutAll, size_bare]

end

end MenuSpec

namespace Tree

def bare (tree : Tree) : Tree := { nodes := tree.nodes.map Node.bare }

@[simp] theorem size_bare (tree : Tree) : tree.bare.size = tree.size := by
  simp [size, bare]

@[simp] theorem node_bare (tree : Tree) (id : NodeId) : tree.bare.node id = (tree.node id).bare := by
  by_cases inside : id < tree.nodes.size
  · simp [node, bare, Array.getD_eq_getD_getElem?, inside]
  · have outside : tree.size ≤ id := Nat.le_of_not_lt inside
    rw [node_outside outside, node_outside (by simpa using outside)]
    rfl

theorem select_bare (tree : Tree) (id : NodeId) (index : Nat) : (tree.select id index).bare = tree.bare.select id index := by
  apply ext_node
  · simp
  · intro other
    rw [node_bare, node_select, node_select, node_bare, size_bare]
    split <;> rfl

theorem climb_bare (tree : Tree) (fuel : Nat) (id : NodeId) : tree.bare.climb fuel id = tree.climb fuel id := by
  induction fuel generalizing id with
  | zero => rfl
  | succ fuel ih =>
    have parent : (tree.bare.node id).parent = (tree.node id).parent := by
      rw [node_bare]
      rfl
    rw [climb, climb, parent]
    cases (tree.node id).parent with
    | none => rfl
    | some above => exact congrArg (id :: ·) (ih above)

theorem rootOf_bare (tree : Tree) (id : NodeId) : tree.bare.rootOf id = tree.rootOf id := by
  rw [rootOf, rootOf, lineage, lineage, size_bare, climb_bare]

theorem fired_bare (tree : Tree) (id : NodeId) (hook : Hook) : tree.bare.fired id hook = (tree.fired id hook).bare := by
  rw [fired, node_bare]
  cases hook <;> rfl

theorem answering_bare (tree : Tree) (id : NodeId) (hook : Hook) : tree.bare.answering id hook = [] := by
  rw [answering, node_bare]
  cases hook <;> rfl

theorem bare_eq {registry registry' : Registry} {spec spec' : MenuSpec} {tree tree' : Tree}
    (built : Tree.build registry spec = .ok tree) (built' : Tree.build registry' spec' = .ok tree')
    (same : spec.bare = spec'.bare) : tree.bare = tree'.bare := by
  have laid : tree.bare.nodes.toList = spec.bare.layout registry none 0 := by
    rw [bare, Array.toList_map, build_layout built, MenuSpec.layout_bare registry registry]
  have laid' : tree'.bare.nodes.toList = spec'.bare.layout registry none 0 := by
    rw [bare, Array.toList_map, build_layout built', MenuSpec.layout_bare registry' registry]
  rw [← same, ← laid] at laid'
  exact congrArg Tree.mk (Array.toList_inj.mp laid'.symm)

end Tree

namespace Navigator

def bare (navigator : Navigator) : Navigator :=
  { navigator with tree := navigator.tree.bare }

theorem tree_bare (navigator : Navigator) : navigator.bare.tree = navigator.tree.bare := rfl

theorem currentNode_bare (navigator : Navigator) : navigator.bare.currentNode = navigator.currentNode.bare :=
  Tree.node_bare _ _

end Navigator

def Turn.bare (turn : Turn) : Turn where
  navigator := turn.navigator.bare
  step := turn.step
  events := turn.events.map Event.bare

namespace Navigator

/-- No turn depends on a label or on what a hook is bound to. -/
theorem Takes.bare {navigator : Navigator} {input : Input} {turn : Turn} (takes : navigator.Takes input turn) :
    navigator.bare.Takes input turn.bare := by
  have children : navigator.bare.currentNode.children = navigator.currentNode.children :=
    (congrArg Node.children navigator.currentNode_bare :)
  have selected : navigator.bare.currentNode.selected = navigator.currentNode.selected :=
    (congrArg Node.selected navigator.currentNode_bare :)
  have selectedChild : navigator.bare.currentNode.selectedChild = navigator.currentNode.selectedChild :=
    (congrArg Node.selectedChild navigator.currentNode_bare :)
  have parent : navigator.bare.currentNode.parent = navigator.currentNode.parent :=
    (congrArg Node.parent navigator.currentNode_bare :)
  have running : ∀ {value}, navigator.terminated = value → navigator.bare.terminated = value := id
  cases takes with
  | late ended => exact .late (running ended)
  | idle goes => exact .idle (running goes)
  | stuck goes moves leaf => exact .stuck (running goes) moves (children.trans leaf)
  | moved goes moves inner turned =>
    rw [← children, ← selected] at turned
    rw [← children] at inner
    have moved := Takes.moved (running goes) moves inner turned
    rw [tree_bare, ← Tree.select_bare] at moved
    exact moved
  | entered goes chosen =>
    have entered := Takes.entered (running goes) (selectedChild.trans chosen)
    rw [tree_bare, Tree.fired_bare, Tree.answering_bare, ← Tree.select_bare] at entered
    exact entered
  | acted goes unchosen topmost =>
    have acted := Takes.acted (running goes) (selectedChild.trans unchosen) (topmost.trans (Tree.rootOf_bare _ _).symm)
    rw [tree_bare, Tree.fired_bare, Tree.answering_bare] at acted
    exact acted
  | ascended goes linked =>
    have ascended := Takes.ascended (running goes) (parent.trans linked)
    rw [tree_bare, Tree.fired_bare, Tree.answering_bare] at ascended
    exact ascended
  | closed goes alone =>
    have closed := Takes.closed (running goes) (parent.trans alone)
    rw [tree_bare, Tree.fired_bare, Tree.answering_bare] at closed
    exact closed

theorem handle_bare (navigator : Navigator) (input : Input) :
    navigator.bare.handle input = (navigator.handle input).bare :=
  (navigator.handle_takes input).bare.handle_eq

theorem turns_bare (navigator : Navigator) (inputs : List Input) :
    navigator.bare.turns inputs = (navigator.turns inputs).map Turn.bare := by
  induction inputs generalizing navigator with
  | nil => rfl
  | cons input rest ih =>
    rw [turns, turns, handle_bare, List.map_cons]
    exact congrArg _ (ih _)

/-- Menus of the same shape start alike and take the same turns. They differ at most in labels, in bindings,
and in the handlers that run. -/
theorem turns_alike {registry registry' : Registry} {spec spec' : MenuSpec} {navigator navigator' : Navigator}
    (built : Navigator.build registry spec = .ok navigator) (built' : Navigator.build registry' spec' = .ok navigator')
    (same : spec.bare = spec'.bare) (inputs : List Input) :
    navigator.bare = navigator'.bare ∧
      (navigator.turns inputs).map Turn.bare = (navigator'.turns inputs).map Turn.bare := by
  obtain ⟨tree, grown, started⟩ := Except.of_bind_ok built
  obtain ⟨tree', grown', started'⟩ := Except.of_bind_ok built'
  obtain rfl := Except.ok.inj started
  obtain rfl := Except.ok.inj started'
  have alike : ({ tree := tree, root := 0, current := 0 } : Navigator).bare =
      ({ tree := tree', root := 0, current := 0 } : Navigator).bare := by
    rw [bare, bare, Tree.bare_eq grown grown' same]
  exact ⟨alike, by rw [← turns_bare, ← turns_bare, alike]⟩

theorem alike_without_names :
    let registry := ({ policy := .announcing } : Registry).register "submenu1_enter"
    let inputs : List Input := [.commit, .up, .commit, .commit, .commit, .down, .back]
    ∃ navigator navigator', Navigator.build registry .demo = .ok navigator ∧
      Navigator.build { policy := .strict } MenuSpec.demo.bare = .ok navigator' ∧
      MenuSpec.demo.bare = MenuSpec.demo.bare.bare ∧ navigator.bare = navigator'.bare ∧
      (navigator.turns inputs).map Turn.bare = (navigator'.turns inputs).map Turn.bare := by
  intro registry inputs
  obtain ⟨navigator, built⟩ : ∃ navigator, Navigator.build registry .demo = .ok navigator := ⟨_, rfl⟩
  obtain ⟨navigator', built'⟩ : ∃ navigator, Navigator.build { policy := .strict } MenuSpec.demo.bare = .ok navigator :=
    ⟨_, rfl⟩
  exact ⟨navigator, navigator', built, built', rfl, turns_alike built built' rfl inputs⟩

end Navigator
end PanelMenu
