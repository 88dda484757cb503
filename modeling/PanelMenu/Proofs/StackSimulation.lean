import PanelMenu.Proofs.StackMachine

/-! The navigator of a menu and the stack machine cannot be told apart. The tree keeps a selection in
every entry, the stack only those on the way down. They agree because a selection is reset when its
entry is entered, and no selection above the current entry moves. -/

namespace PanelMenu

section Built
variable {registry : Registry} {spec entry : MenuSpec} {tree later : Tree} {path : List Nat}
  (built : Tree.build registry spec = .ok tree) (same : later.cleared = tree.cleared)
include built same

theorem Tree.fired_position (found : spec.reached? path = some entry) (hook : Hook) :
    later.fired (spec.position path) hook = StackMachine.fired registry spec path entry hook := by
  rw [Tree.fired, Tree.label_position built same found, Tree.callbacks_position built same found]
  cases hook <;> rfl

theorem Tree.answering_position (found : spec.reached? path = some entry) (hook : Hook) :
    later.answering (spec.position path) hook = StackMachine.answering registry entry hook := by
  rw [Tree.answering, Tree.callbacks_position built same found]
  cases hook <;> rfl

theorem View.of_position (found : spec.reached? path = some entry) :
    View.of later (spec.position path) =
      { node := spec.position path
        title := entry.label
        depth := path.length
        items := entry.children.zipIdx.map fun (child, index) =>
          { label := child.label
            selected := index == (later.node (spec.position path)).selected
            hasChildren := !child.children.isEmpty } } := by
  rw [View.of, Tree.depth_position built same found, Tree.label_position built same found]
  congr 1
  apply List.ext_getElem?
  intro index
  simp only [List.getElem?_map, List.getElem?_zipIdx, Tree.child_position built same found]
  cases below : entry.children[index]? with
  | none => rfl
  | some child =>
    have reached : spec.reached? (path ++ [index]) = some child := (MenuSpec.reached?_child found index).trans below
    have leaf : (later.node (spec.position (path ++ [index]))).isLeaf = child.children.isEmpty := by
      rw [Bool.eq_iff_iff, Node.isLeaf, List.isEmpty_iff, List.isEmpty_iff, Tree.leaf_position built same reached]
    change some (View.Item.mk (later.node (spec.position (path ++ [index]))).label _
      (!(later.node (spec.position (path ++ [index]))).isLeaf)) = _
    rw [Tree.label_position built same reached, leaf]
    rfl

end Built

namespace StackMachine

@[simp] theorem path_append (path : List Nat) (selected : Nat) (terminated : Bool)
    (nonempty : path ++ [selected] ≠ []) : StackMachine.path ⟨path ++ [selected], terminated, nonempty⟩ = path :=
  List.dropLast_concat

@[simp] theorem selected_append (path : List Nat) (selected : Nat) (terminated : Bool)
    (nonempty : path ++ [selected] ≠ []) :
    StackMachine.selected ⟨path ++ [selected], terminated, nonempty⟩ = selected :=
  List.getLast_append_singleton path

/-- The machine stands where the navigator stands. Of the selections in the tree only those on the
way down are known to it: `top` and `retained`. -/
structure Tracks (spec : MenuSpec) (tree : Tree) (machine : StackMachine) (navigator : Navigator) : Prop where
  cleared_eq : navigator.tree.cleared = tree.cleared
  ended : machine.terminated = navigator.terminated
  place : ∃ entry, spec.reached? machine.path = some entry ∧
    (entry.children ≠ [] → machine.selected < entry.children.length)
  current : navigator.current = spec.position machine.path
  top : navigator.currentNode.selected = machine.selected
  retained : ∀ above index below, machine.path = above ++ index :: below →
    (navigator.tree.node (spec.position above)).selected = index

/-- The same answer, events and handlers, and the same place afterwards. -/
structure Follows (spec : MenuSpec) (tree : Tree) (turn : Turn) (reaction : Reaction) : Prop where
  step : turn.step = reaction.step
  events : turn.events = reaction.events
  ran : turn.ran = reaction.ran
  tracks : Tracks spec tree reaction.machine turn.navigator

variable {registry : Registry} {spec entry : MenuSpec} {tree : Tree} {machine : StackMachine}
  {navigator : Navigator}

theorem Tracks.initial (built : Tree.build registry spec = .ok tree) :
    Tracks spec tree {} { tree := tree, root := 0, current := 0 } := by
  refine ⟨rfl, rfl, ⟨spec, rfl, fun inner => List.length_pos_iff.mpr inner⟩, rfl, ?_, ?_⟩
  · have placed : tree.node (spec.position []) = _ := Tree.node_position built rfl
    exact congrArg Node.selected placed
  · intro above index below shape
    simp [StackMachine.path] at shape

/-- Selecting an entry on which nothing above depends keeps what is known of the entries above. -/
private theorem retained_select {path : List Nat} {later : Tree} {id index : Nat}
    (known : ∀ above index below, path = above ++ index :: below →
      (later.node (spec.position above)).selected = index)
    (higher : ∀ above index below, path = above ++ index :: below → spec.position above < id) :
    ∀ above place below, path = above ++ place :: below →
      ((later.select id index).node (spec.position above)).selected = place := by
  intro above place below shape
  rw [Tree.node_select, if_neg]
  · exact known above place below shape
  · rintro ⟨same, _⟩
    exact Nat.ne_of_gt (higher above place below shape) same

private theorem split_append {path above below : List Nat} {selected index : Nat}
    (shape : path ++ [selected] = above ++ index :: below) :
    above = path ∧ index = selected ∨ ∃ rest, path = above ++ index :: rest := by
  rcases List.eq_nil_or_concat below with rfl | ⟨rest, last, rfl⟩
  · obtain ⟨rfl, same⟩ := List.append_inj' shape rfl
    exact .inl ⟨rfl, by simpa using same.symm⟩
  · rw [List.concat_eq_append, ← List.cons_append, ← List.append_assoc] at shape
    exact .inr ⟨rest, (List.append_inj' shape rfl).1⟩

section Links
variable (built : Tree.build registry spec = .ok tree) (tracks : Tracks spec tree machine navigator)
  (found : spec.reached? machine.path = some entry)
include built tracks found

private theorem Tracks.children_nil : navigator.currentNode.children = [] ↔ entry.children = [] := by
  rw [Navigator.currentNode, tracks.current]
  exact Tree.leaf_position built tracks.cleared_eq found

private theorem Tracks.children_length : navigator.currentNode.children.length = entry.children.length := by
  rw [Navigator.currentNode, tracks.current, Tree.children_position built tracks.cleared_eq found,
    MenuSpec.length_starts]

/-- The child that is selected in the tree is the one that the whole stack leads to. -/
private theorem Tracks.selectedChild_eq :
    navigator.currentNode.selectedChild =
      (spec.reached? machine.stack).map fun _ => spec.position machine.stack := by
  rw [Node.selectedChild, tracks.top, Navigator.currentNode, tracks.current,
    Tree.child_position built tracks.cleared_eq found, machine.stack_eq, MenuSpec.reached?_child found]

private theorem Tracks.parent_eq :
    navigator.currentNode.parent =
      if machine.path = [] then none else some (spec.position machine.path.dropLast) := by
  rw [Navigator.currentNode, tracks.current, Tree.parent_position built tracks.cleared_eq found]

private theorem Tracks.moved {selected : Nat} (fits : selected < entry.children.length) :
    Tracks spec tree { machine with stack := machine.path ++ [selected], nonempty := by simp }
      { navigator with tree := navigator.tree.select navigator.current selected } := by
  have same := (Tree.cleared_select navigator.tree navigator.current selected).trans tracks.cleared_eq
  refine ⟨same, tracks.ended, ⟨entry, by simpa using found, fun _ => by simpa using fits⟩, ?_, ?_, ?_⟩
  · simpa using tracks.current
  · have inside : navigator.current < navigator.tree.size := by
      rw [tracks.current, Tree.same_size tracks.cleared_eq]
      exact Tree.position_inside built found
    simp [Navigator.currentNode, Tree.node_select, inside]
  · rw [path_append]
    apply retained_select tracks.retained
    intro above index below shape
    rw [tracks.current, shape]
    exact MenuSpec.position_lt (shape ▸ found)

end Links

private theorem Tracks.returned (tracks : Tracks spec tree machine navigator) {first : Nat}
    (kept : (navigator.tree.node 0).selected = first) (fits : spec.children ≠ [] → first < spec.children.length) :
    Tracks spec tree { machine with stack := [first], nonempty := by simp } { navigator with current := 0 } := by
  refine ⟨tracks.cleared_eq, tracks.ended, ⟨spec, rfl, fits⟩, rfl, kept, ?_⟩
  intro above index below shape
  simp [StackMachine.path] at shape

private theorem Tracks.acted (tracks : Tracks spec tree machine navigator)
    (found : spec.reached? machine.path = some entry)
    (fits : entry.children ≠ [] → machine.selected < entry.children.length) :
    Tracks spec tree { machine with stack := [machine.stack.head machine.nonempty], nonempty := by simp }
      { navigator with current := 0 } := by
  cases way : machine.path with
  | nil =>
    have first : machine.stack.head machine.nonempty = machine.selected := by
      simp [machine.stack_eq, way]
    rw [way] at found
    obtain rfl := Option.some.inj found
    rw [← first] at fits
    refine tracks.returned ?_ fits
    rw [first, ← tracks.top, Navigator.currentNode, tracks.current, way]
    rfl
  | cons place rest =>
    have first : machine.stack.head machine.nonempty = place := by
      simp [machine.stack_eq, way]
    rw [way] at found
    obtain ⟨child, below, _⟩ := MenuSpec.reached?_cons found
    apply tracks.returned
    · exact (tracks.retained [] place rest way).trans first.symm
    · exact fun _ => first ▸ (List.getElem?_eq_some_iff.mp below).1

private theorem Tracks.ascended (tracks : Tracks spec tree machine navigator)
    (found : spec.reached? machine.path = some entry) (nested : machine.path ≠ []) :
    Tracks spec tree { machine with stack := machine.path, nonempty := nested }
      { navigator with current := spec.position machine.path.dropLast } := by
  obtain ⟨above, place, shape⟩ := (List.eq_nil_or_concat machine.path).resolve_left nested
  rw [List.concat_eq_append] at shape
  rw [shape, MenuSpec.reached?_append] at found
  obtain ⟨upper, reached, found⟩ := Option.bind_eq_some_iff.mp found
  obtain ⟨child, below, _⟩ := MenuSpec.reached?_cons found
  simp only [shape, List.dropLast_concat]
  refine ⟨tracks.cleared_eq, tracks.ended, ⟨upper, by simpa using reached, fun _ => ?_⟩, by simp, ?_, ?_⟩
  · simpa using (List.getElem?_eq_some_iff.mp below).1
  · simpa [Navigator.currentNode] using tracks.retained above place [] shape
  · rw [path_append]
    intro higher index rest split
    apply tracks.retained higher index (rest ++ [place])
    rw [shape, split, List.append_assoc, List.cons_append]

private theorem Tracks.closed (tracks : Tracks spec tree machine navigator) :
    Tracks spec tree { machine with terminated := true } { navigator with terminated := true } :=
  ⟨tracks.cleared_eq, rfl, tracks.place, tracks.current, tracks.top, tracks.retained⟩

private theorem Tracks.entered (built : Tree.build registry spec = .ok tree)
    (tracks : Tracks spec tree machine navigator) {child : MenuSpec}
    (below : spec.reached? machine.stack = some child) :
    Tracks spec tree { machine with stack := machine.stack ++ [0], nonempty := by simp }
      { navigator with
        tree := navigator.tree.select (spec.position machine.stack) 0
        current := spec.position machine.stack } := by
  have same := (Tree.cleared_select navigator.tree (spec.position machine.stack) 0).trans tracks.cleared_eq
  refine ⟨same, tracks.ended, ⟨child, by simpa using below, ?_⟩, by simp, ?_, ?_⟩
  · intro inner
    simpa using List.length_pos_iff.mpr inner
  · have inside : spec.position machine.stack < navigator.tree.size := by
      rw [Tree.same_size tracks.cleared_eq]
      exact Tree.position_inside built below
    simp [Navigator.currentNode, Tree.node_select, inside]
  · rw [path_append]
    apply retained_select
    · intro above index rest shape
      rw [machine.stack_eq] at shape
      rcases split_append shape with ⟨rfl, rfl⟩ | ⟨rest, shape⟩
      · rw [← tracks.top, Navigator.currentNode, tracks.current]
      · exact tracks.retained above index rest shape
    · intro above index rest shape
      rw [shape]
      exact MenuSpec.position_lt (shape ▸ below)

private theorem handle_react (registry : Registry) (running : machine.terminated = false)
    (found : spec.reached? machine.path = some entry) (input : Input) :
    handle registry spec machine input = machine.react registry spec entry input := by
  simp [handle, running, found]

private theorem react_move {input : Input} {delta : Int} (moves : input.delta? = some delta) :
    machine.react registry spec entry input = machine.move spec entry delta := by
  cases input <;> cases moves <;> rfl

/-- The machine keeps up with every turn of the navigator. -/
theorem Tracks.turn (built : Tree.build registry spec = .ok tree) (tracks : Tracks spec tree machine navigator)
    {input : Input} {turn : Turn} (takes : navigator.Takes input turn) :
    Follows spec tree turn (handle registry spec machine input) := by
  obtain ⟨entry, found, fits⟩ := tracks.place
  have react := fun running => handle_react registry (tracks.ended.trans running) found input
  cases takes with
  | late ended =>
    rw [handle, if_pos (tracks.ended.trans ended)]
    exact ⟨rfl, rfl, rfl, tracks⟩
  | idle running =>
    rw [react running]
    exact ⟨rfl, rfl, rfl, tracks⟩
  | stuck running moves leaf =>
    rw [react running, react_move moves, move, if_pos ((tracks.children_nil built found).mp leaf)]
    exact ⟨rfl, rfl, rfl, tracks⟩
  | moved running moves inner turned =>
    have nonempty : entry.children ≠ [] := fun none => inner ((tracks.children_nil built found).mpr none)
    rw [tracks.top, tracks.children_length built found] at turned
    subst turned
    rw [react running, react_move moves, move, if_neg nonempty]
    refine ⟨rfl, by rw [tracks.current], rfl, ?_⟩
    exact tracks.moved built found (Navigator.rotated_lt _ _ (List.length_pos_iff.mpr nonempty))
  | entered running chosen =>
    rw [tracks.selectedChild_eq built found] at chosen
    obtain ⟨child, below, rfl⟩ := Option.map_eq_some_iff.mp chosen
    have nonempty : entry.children ≠ [] := by
      intro none
      rw [machine.stack_eq, MenuSpec.reached?_child found, none] at below
      cases below
    rw [react running, StackMachine.react, commit, if_neg nonempty, below]
    refine ⟨rfl, ?_, ?_, tracks.entered built below⟩
    · rw [tracks.current, Tree.fired_position built tracks.cleared_eq below]
    · exact Tree.answering_position built tracks.cleared_eq below .enter
  | acted running unchosen topmost =>
    have leaf : entry.children = [] := by
      by_contra inner
      rw [tracks.selectedChild_eq built found, machine.stack_eq, MenuSpec.reached?_child found] at unchosen
      simp [fits inner] at unchosen
    rw [tracks.current, Tree.rootOf_position built tracks.cleared_eq found] at topmost
    subst topmost
    rw [react running, StackMachine.react, commit, if_pos leaf]
    refine ⟨rfl, ?_, ?_, tracks.acted found fits⟩
    · rw [tracks.current, Tree.fired_position built tracks.cleared_eq found]
    · rw [tracks.current]
      exact Tree.answering_position built tracks.cleared_eq found .action
  | ascended running linked =>
    rw [tracks.parent_eq built found] at linked
    split at linked
    next => cases linked
    next nested =>
      obtain rfl := Option.some.inj linked
      rw [react running, StackMachine.react, back, dif_neg nested]
      refine ⟨rfl, ?_, ?_, tracks.ascended found nested⟩
      · rw [tracks.current, Tree.fired_position built tracks.cleared_eq found]
      · rw [tracks.current]
        exact Tree.answering_position built tracks.cleared_eq found .exit
  | closed running alone =>
    rw [tracks.parent_eq built found] at alone
    split at alone
    next topmost =>
      rw [react running, StackMachine.react, back, dif_pos topmost]
      refine ⟨rfl, ?_, ?_, tracks.closed⟩
      · rw [tracks.current, Tree.fired_position built tracks.cleared_eq found]
      · rw [tracks.current]
        exact Tree.answering_position built tracks.cleared_eq found .exit
    next => cases alone

theorem Follows.observation_eq (built : Tree.build registry spec = .ok tree) {turn : Turn} {reaction : Reaction}
    (follows : Follows spec tree turn reaction) : reaction.observation? spec = some turn.observation := by
  have tracks := follows.tracks
  obtain ⟨entry, found, _⟩ := tracks.place
  have view : turn.navigator.view = reaction.machine.view spec entry := by
    rw [Navigator.view, tracks.current, View.of_position built tracks.cleared_eq found, StackMachine.view,
      reaction.machine.length_path, ← tracks.top, Navigator.currentNode, tracks.current]
  have label : turn.navigator.currentNode.label = entry.label := by
    rw [Navigator.currentNode, tracks.current, Tree.label_position built tracks.cleared_eq found]
  rw [Reaction.observation?, found, Option.map_some, Turn.observation, view, label, tracks.current,
    follows.step, follows.events, follows.ran, tracks.ended]

private theorem Tracks.turns_eq (built : Tree.build registry spec = .ok tree)
    (tracks : Tracks spec tree machine navigator) (inputs : List Input) :
    (navigator.turns inputs).map (fun turn => some turn.observation) =
      (reactions registry spec machine inputs).map (Reaction.observation? spec) := by
  induction inputs generalizing machine navigator with
  | nil => rfl
  | cons input rest ih =>
    have follows := tracks.turn built (navigator.handle_takes input)
    rw [Navigator.turns, reactions, List.map_cons, List.map_cons, follows.observation_eq built, ih follows.tracks]

/-- Over every menu that can be built, the navigator and the stack machine show the same things: at the
start, and after each of any inputs. -/
theorem history_eq (built : Navigator.build registry spec = .ok navigator) (inputs : List Input) :
    (navigator.history inputs).map some = StackMachine.history registry spec inputs := by
  obtain ⟨tree, grown, same⟩ := Except.of_bind_ok built
  obtain rfl := Except.ok.inj same
  have tracks := Tracks.initial grown
  have start : Follows spec tree { navigator := { tree := tree, root := 0, current := 0 } } { machine := {} } :=
    ⟨rfl, rfl, rfl, tracks⟩
  rw [Navigator.history, StackMachine.history, List.map_map, List.map_cons, List.map_cons, start.observation_eq grown,
    ← tracks.turns_eq grown inputs]
  rfl

theorem history_of_demo :
    ∃ navigator, Navigator.build { policy := .announcing } .demo = .ok navigator ∧
      (navigator.history [.commit, .up, .commit, .commit, .commit, .down, .back]).map some =
        StackMachine.history { policy := .announcing } .demo
          [.commit, .up, .commit, .commit, .commit, .down, .back] :=
  ⟨_, rfl, history_eq rfl _⟩

end StackMachine
end PanelMenu
