import PanelMenu.Proofs.SelectionCircle
import PanelMenu.Proofs.TreeMirror

/-! Every entry of a menu can be visited. The way goes back up to the root, where any selection may be left
over, and then down: in each menu as far round the circle as the next entry is away from the selection. -/

namespace PanelMenu.Navigator

/-- Up some levels, and then for each menu on the way down some steps and a commit. -/
def route (levels : Nat) (counts : List Nat) : List Input :=
  List.replicate levels .back ++ counts.flatMap fun count => List.replicate count .down ++ [.commit]

theorem mem_route {levels : Nat} {counts : List Nat} {input : Input} (member : input ∈ route levels counts) :
    input = .back ∨ input = .down ∨ input = .commit := by
  rcases List.mem_append.mp member with up | down
  · exact .inl (List.eq_of_mem_replicate up)
  · obtain ⟨count, _, step⟩ := List.mem_flatMap.mp down
    rcases List.mem_append.mp step with move | commit
    · exact .inr (.inl (List.eq_of_mem_replicate move))
    · exact .inr (.inr (List.mem_singleton.mp commit))

/-- The route with these counts leads to an entry, through menus that have more children than the counts say,
and no leaf is acted on. -/
structure Leads (navigator : Navigator) (target : NodeId) (counts : List Nat) : Prop where
  fewer : List.Forall₂ (fun count above => count < (navigator.tree.node above).children.length) counts
    (navigator.tree.lineage target).tail.reverse
  alphabet : ∀ input ∈ route (navigator.tree.depth navigator.current) counts,
    input = .back ∨ input = .down ∨ input = .commit
  current_eq : (navigator.after (route (navigator.tree.depth navigator.current) counts)).current = target
  running : (navigator.after (route (navigator.tree.depth navigator.current) counts)).terminated = false
  unacted : ∀ leaf, (leaf, .action) ∉ navigator.hooks (route (navigator.tree.depth navigator.current) counts)

theorem Takes.unacted {navigator : Navigator} {input : Input} {turn : Turn} (takes : navigator.Takes input turn)
    (inner : input = .commit → navigator.currentNode.selectedChild ≠ none) (leaf : NodeId) :
    (leaf, .action) ∉ turn.events.filterMap Event.hook? := by
  cases takes with
  | late | idle | stuck | moved => exact List.not_mem_nil
  | entered | ascended | closed => simp [Tree.fired, Event.hook?]
  | acted _ unchosen => exact absurd unchosen (inner rfl)

theorem after_backs {tree : Tree} {root id : NodeId} {way : List NodeId} (climbs : tree.Climbs id way)
    (last : way.getLast? = some root) :
    ({ tree := tree, root := root, current := id } : Navigator).after (List.replicate way.tail.length .back) =
      { tree := tree, root := root, current := root } := by
  induction climbs with
  | top =>
    obtain rfl := Option.some.inj last
    rfl
  | @up id parent rest linked further ih =>
    have upward : ({ tree := tree, root := root, current := id } : Navigator).currentNode.parent = some parent := linked
    have left := (Takes.ascended rfl upward).handle_eq
    obtain ⟨above, rfl⟩ := further.head
    rw [List.tail_cons, List.length_cons, List.replicate_succ, after_cons, left]
    exact ih (by simpa using last)

theorem hooks_backs (navigator : Navigator) (levels : Nat) (leaf : NodeId) :
    (leaf, .action) ∉ navigator.hooks (List.replicate levels .back) := by
  induction levels generalizing navigator with
  | zero => exact List.not_mem_nil
  | succ levels ih =>
    rw [List.replicate_succ, hooks_cons, List.mem_append, not_or]
    exact ⟨(navigator.handle_takes .back).unacted nofun leaf, ih _⟩

theorem exists_rotated (selected : Nat) {index count : Nat} (within : index < count) :
    ∃ steps < count, rotated (steps : Nat) selected count = index := by
  have inhabited := Nat.zero_lt_of_lt within
  refine ⟨rotated (index - selected) 0 count, rotated_lt _ _ inhabited, ?_⟩
  have place := Int.emod_eq_of_lt (Int.natCast_nonneg index) (Int.ofNat_lt.mpr within)
  rw [rotated, natCast_rotated _ _ inhabited, Int.natCast_zero, Int.zero_add, Int.add_emod_emod,
    add_sub_cancel, place, Int.toNat_natCast]

section Reachable
variable {navigator : Navigator} (reachable : navigator.Reachable) (running : navigator.terminated = false)
include reachable running

theorem Reachable.descends {child : NodeId} (listed : child ∈ navigator.currentNode.children) :
    ∃ count < navigator.currentNode.children.length,
      (navigator.after (List.replicate count .down ++ [.commit])).current = child ∧
      (navigator.after (List.replicate count .down ++ [.commit])).terminated = false ∧
      ∀ leaf, (leaf, .action) ∉ navigator.hooks (List.replicate count .down ++ [.commit]) := by
  obtain ⟨index, found⟩ := List.mem_iff_getElem?.mp listed
  have inside := reachable.selected_lt (List.ne_nil_of_mem listed)
  obtain ⟨count, fewer, arrives⟩ := exists_rotated navigator.currentNode.selected (List.getElem?_eq_some_iff.mp found).1
  have lingers : ∀ input ∈ List.replicate count Input.down, input.lingers = true := Input.lingers_replicate rfl count
  have moved : navigator.after (List.replicate count .down) = navigator.shifted count := by
    have once : Input.balance [.down] = 1 := rfl
    rw [after_lingering inside running lingers, Input.balance_replicate, once, Int.mul_one]
  have chosen : (navigator.shifted count).currentNode.selectedChild = some child := by
    rw [Node.selectedChild, currentNode_shifted inside, arrives]
    exact found
  have still : (navigator.shifted count).terminated = false := running
  have entered := (Takes.entered still chosen).handle_eq
  refine ⟨count, fewer, ?_, ?_, fun leaf => ?_⟩
  · rw [after_append, moved, after_cons, after_nil, entered]
  · rw [after_append, moved, after_cons, after_nil, entered]
    exact running
  · rw [hooks_append, hooks_lingering _ lingers, moved, List.nil_append, hooks_cons, List.mem_append, not_or]
    refine ⟨((navigator.shifted count).handle_takes .commit).unacted (fun _ => ?_) leaf, List.not_mem_nil⟩
    rw [chosen]
    exact Option.some_ne_none child

theorem Reachable.descends_to (topmost : navigator.current = navigator.root) {target : NodeId} {way : List NodeId}
    (climbs : navigator.tree.Climbs target way) (last : way.getLast? = some navigator.root) :
    ∃ counts, List.Forall₂ (fun count above => count < (navigator.tree.node above).children.length) counts
        way.tail.reverse ∧
      (navigator.after (route 0 counts)).current = target ∧
      (navigator.after (route 0 counts)).terminated = false ∧
      ∀ leaf, (leaf, .action) ∉ navigator.hooks (route 0 counts) := by
  induction climbs with
  | top =>
    obtain rfl := Option.some.inj last
    exact ⟨[], .nil, topmost, running, fun _ => List.not_mem_nil⟩
  | @up target parent rest linked further ih =>
    obtain ⟨above, rfl⟩ := further.head
    obtain ⟨counts, fewer, current, unended, unacted⟩ := ih (by simpa using last)
    have reached := reachable.after (route 0 counts)
    have links := navigator.after_cleared (route 0 counts)
    have listed : target ∈ (navigator.after (route 0 counts)).currentNode.children := by
      rw [currentNode, current]
      exact reached.parent_iff.mp ((Tree.same_parent links target).trans linked)
    obtain ⟨count, less, arrived, running, silent⟩ := reached.descends unended listed
    rw [currentNode, current, Tree.same_children links] at less
    have longer : route 0 (counts ++ [count]) = route 0 counts ++ (List.replicate count .down ++ [.commit]) := by
      simp [route]
    refine ⟨counts ++ [count], ?_, ?_, ?_, fun leaf => ?_⟩
    · rw [List.tail_cons, List.reverse_cons]
      exact List.rel_append fewer (.cons less .nil)
    · rw [longer, after_append, arrived]
    · rw [longer, after_append, running]
    · rw [longer, hooks_append, List.mem_append, not_or]
      exact ⟨unacted leaf, silent leaf⟩

theorem Reachable.leads {target : NodeId} {way : List NodeId} (climbs : navigator.tree.Climbs target way)
    (last : way.getLast? = some navigator.root) : ∃ counts, navigator.Leads target counts := by
  have up : navigator.after (List.replicate (navigator.tree.depth navigator.current) .back) =
      { navigator with current := navigator.root } := by
    have topmost := after_backs reachable.climbs reachable.lineage_last
    rw [List.length_tail] at topmost
    rcases navigator with ⟨tree, root, current, terminated⟩
    obtain rfl : terminated = false := running
    exact topmost
  have reached := reachable.after (List.replicate (navigator.tree.depth navigator.current) .back)
  rw [up] at reached
  obtain ⟨counts, fewer, current, unended, unacted⟩ := reached.descends_to running rfl climbs last
  have whole : route (navigator.tree.depth navigator.current) counts =
      List.replicate (navigator.tree.depth navigator.current) .back ++ route 0 counts := by
    simp [route]
  refine ⟨counts, ?_, fun input => mem_route, ?_, ?_, fun leaf => ?_⟩
  · rwa [climbs.lineage_eq]
  · rw [whole, after_append, up, current]
  · rw [whole, after_append, up, unended]
  · rw [whole, hooks_append, up, List.mem_append, not_or]
    exact ⟨navigator.hooks_backs _ leaf, unacted leaf⟩

end Reachable

/-- From every state before the end of the navigation of a menu, some route leads to each of its entries. -/
theorem every_entry_reached {registry : Registry} {spec : MenuSpec} {start : Navigator}
    (built : Navigator.build registry spec = .ok start) (inputs : List Input)
    (running : (start.after inputs).terminated = false) {target : NodeId} (inside : target < start.tree.size) :
    ∃ counts, (start.after inputs).Leads target counts := by
  have reachable := (Reachable.of_build built).after inputs
  have links := start.after_cleared inputs
  have root := start.after_root inputs
  obtain ⟨tree, grown, same⟩ := Except.of_bind_ok built
  obtain rfl := Except.ok.inj same
  rw [Tree.build_size grown] at inside
  obtain ⟨path, entry, found, rfl⟩ := MenuSpec.exists_position inside
  obtain ⟨way, climbs, _, last⟩ := Tree.climbs_position grown found
  apply reachable.leads running (climbs.transfer links.symm)
  rw [last, root]

theorem reached_in_demo :
    ∃ start, Navigator.build { policy := .announcing } .demo = .ok start ∧
      ∃ counts, (start.after [.down, .commit, .down, .commit, .back]).Leads 14 counts := by
  obtain ⟨start, built⟩ : ∃ start, Navigator.build { policy := .announcing } .demo = .ok start := ⟨_, rfl⟩
  refine ⟨start, built, ?_⟩
  apply every_entry_reached built
  · cases Except.ok.inj built
    rfl
  · cases Except.ok.inj built
    decide

end PanelMenu.Navigator
