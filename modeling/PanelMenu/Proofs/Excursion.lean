import PanelMenu.Proofs.Reachable

/-! A visit below an entry leaves no trace outside of what was visited. An input changes the selection of the
current entry or of the child that it enters, and as long as the cursor stays below an entry both lie there. -/

namespace PanelMenu.Navigator

theorem Takes.node_eq {navigator : Navigator} {input : Input} {turn : Turn} (takes : navigator.Takes input turn)
    {id : NodeId} (elsewhere : id ≠ navigator.current) (unchosen : navigator.currentNode.selectedChild ≠ some id) :
    turn.navigator.tree.node id = navigator.tree.node id := by
  cases takes with
  | late | idle | stuck | acted | ascended | closed => rfl
  | moved => exact (Tree.node_select ..).trans (if_neg fun here => elsewhere here.1.symm)
  | entered _ chosen =>
    refine (Tree.node_select ..).trans (if_neg fun here => unchosen ?_)
    rw [chosen, here.1]

/-- At the start and after every input, the current entry is `top` or lies below it. -/
def Stays (navigator : Navigator) (top : NodeId) (inputs : List Input) : Prop :=
  ∀ count, navigator.tree.Above (navigator.after (inputs.take count)).current top

theorem Stays.tail {navigator : Navigator} {top : NodeId} {input : Input} {rest : List Input}
    (stays : navigator.Stays top (input :: rest)) : (navigator.handle input).navigator.Stays top rest := by
  intro count
  rw [Tree.above_congr (navigator.handle_takes input).cleared_eq]
  exact stays (count + 1)

section Reachable
variable {navigator : Navigator} (reachable : navigator.Reachable)
include reachable

theorem Reachable.node_after {top id : NodeId} {inputs : List Input} (stays : navigator.Stays top inputs)
    (outside : ¬ navigator.tree.Above id top) : (navigator.after inputs).tree.node id = navigator.tree.node id := by
  induction inputs generalizing navigator with
  | nil => rfl
  | cons input rest ih =>
    have takes := navigator.handle_takes input
    have inside : navigator.tree.Above navigator.current top := stays 0
    have later : ¬ (navigator.handle input).navigator.tree.Above id top := by
      rwa [Tree.above_congr takes.cleared_eq]
    rw [after_cons, ih (reachable.handled input) stays.tail later]
    apply takes.node_eq
    · intro same
      exact outside (same ▸ inside)
    · intro chosen
      have linked := reachable.parent_iff.mpr (List.mem_of_getElem? chosen)
      exact outside (.head linked inside)

end Reachable

/-- What is found on coming back to an entry from a visit below its child `below`. -/
structure Excursion (navigator : Navigator) (below : NodeId) (returned : Navigator) : Prop where
  current_eq : returned.current = navigator.current
  running : returned.terminated = false
  outside : ∀ id, ¬ navigator.tree.Above id below → returned.tree.node id = navigator.tree.node id
  /-- The entry itself, all that is above it, and all other children of these are outside. -/
  around : ∀ id, id ≠ below → (∀ parent, (navigator.tree.node id).parent = some parent →
    navigator.tree.Above navigator.current parent) → ¬ navigator.tree.Above id below
  chosen : returned.currentNode.selectedChild = some below
  again : (returned.handle .commit).navigator.current = below ∧
    ((returned.handle .commit).navigator.tree.node below).selected = 0

section Reachable
variable {navigator : Navigator} (reachable : navigator.Reachable)
include reachable

theorem Reachable.stays_iff {top : NodeId} {inputs : List Input} :
    navigator.Stays top inputs ↔ ∀ count ≤ inputs.length,
      top ∈ (navigator.after (inputs.take count)).tree.lineage (navigator.after (inputs.take count)).current := by
  have higher : ∀ count,
      top ∈ (navigator.after (inputs.take count)).tree.lineage (navigator.after (inputs.take count)).current ↔
        navigator.tree.Above (navigator.after (inputs.take count)).current top := by
    intro count
    rw [(reachable.after (inputs.take count)).climbs.mem_iff, Tree.above_congr (navigator.after_cleared _)]
  constructor
  · intro stays count _
    exact (higher count).mpr (stays count)
  · intro checked count
    rcases Nat.le_total count inputs.length with within | beyond
    · exact (higher count).mp (checked count within)
    · have whole := (higher inputs.length).mp (checked inputs.length (Nat.le_refl _))
      rw [List.take_length] at whole
      rwa [List.take_of_length_le beyond]

variable {below : NodeId}

private theorem Reachable.not_above_child (linked : (navigator.tree.node below).parent = some navigator.current) :
    ¬ navigator.tree.Above navigator.current below := by
  intro higher
  have climbs := reachable.climbs
  exact (List.nodup_cons.mp (Tree.Climbs.up linked climbs).nodup).1 (climbs.mem_iff.mpr higher)

variable {visit : List Input} (running : navigator.terminated = false)
  (chosen : navigator.currentNode.selectedChild = some below)
  (stays : (navigator.handle .commit).navigator.Stays below visit)
include running chosen stays

private theorem Reachable.node_visit {id : NodeId} (outside : ¬ navigator.tree.Above id below) :
    (navigator.after (.commit :: visit)).tree.node id = navigator.tree.node id := by
  have takes := navigator.handle_takes .commit
  have elsewhere : ¬ (navigator.handle .commit).navigator.tree.Above id below := by
    rwa [Tree.above_congr takes.cleared_eq]
  rw [after_cons, (reachable.handled .commit).node_after stays elsewhere, (Takes.entered running chosen).handle_eq,
    Tree.node_select, if_neg]
  intro here
  exact outside (here.1 ▸ .refl)

theorem Reachable.excursion (ends : (navigator.after (.commit :: visit)).current = below) :
    navigator.Excursion below (navigator.after (.commit :: visit ++ [.back])) := by
  have linked := reachable.parent_iff.mpr (List.mem_of_getElem? chosen)
  have apart := reachable.not_above_child linked
  have visited := reachable.after (.commit :: visit)
  have relinked : (navigator.after (.commit :: visit)).currentNode.parent = some navigator.current := by
    rw [currentNode, ends, Tree.same_parent (navigator.after_cleared _), linked]
  have unended := visited.running_of_parent relinked
  have rechosen : ((navigator.after (.commit :: visit)).tree.node navigator.current).selectedChild = some below := by
    rw [reachable.node_visit running chosen stays apart]
    exact chosen
  have returned : navigator.after (.commit :: visit ++ [.back]) =
      { navigator.after (.commit :: visit) with current := navigator.current } := by
    rw [after_append, visited.ascends relinked]
  constructor
  case current_eq => rw [returned]
  case running =>
    rw [returned]
    exact unended
  case outside =>
    intro id elsewhere
    rw [returned]
    exact reachable.node_visit running chosen stays elsewhere
  case around =>
    intro id different near higher
    rcases higher.cases_head with same | ⟨parent, upward, further⟩
    · exact different same
    · exact apart (Relation.ReflTransGen.trans (near parent upward) further)
  case chosen =>
    rw [returned]
    exact rechosen
  case again =>
    apply (reachable.after _).enters
    · rw [returned]
      exact unended
    · rw [returned]
      exact rechosen

end Reachable

/-- From every entry with children there is a selected child to visit, and whatever is done below it, the
way back leads to the entry as it was. A visit below the child cannot begin after the end of navigation. -/
theorem excursion_returns {navigator : Navigator} (reachable : navigator.Reachable)
    (inner : navigator.currentNode.children ≠ []) :
    ∃ below, navigator.currentNode.selectedChild = some below ∧
      ∀ visit, (navigator.handle .commit).navigator.Stays below visit →
        (navigator.after (.commit :: visit)).current = below →
        navigator.Excursion below (navigator.after (.commit :: visit ++ [.back])) := by
  have unempty := mt (reachable.ranged navigator.current).selectedChild_none.mp inner
  obtain ⟨below, chosen⟩ := Option.ne_none_iff_exists'.mp unempty
  refine ⟨below, chosen, ?_⟩
  intro visit stays ends
  have running : navigator.terminated = false := by
    by_contra unfinished
    have ended : navigator.terminated = true := by simpa using unfinished
    have late : navigator.handle .commit = { navigator := navigator, step := .terminated } :=
      (Takes.late ended).handle_eq
    rw [late] at stays
    have linked := reachable.parent_iff.mpr (List.mem_of_getElem? chosen)
    exact reachable.not_above_child linked (stays 0)
  exact reachable.excursion running chosen stays ends

theorem excursion_in_demo :
    ∃ navigator, Navigator.build { policy := .announcing } .demo = .ok navigator ∧
      (navigator.after [.up]).Excursion 9
        ((navigator.after [.up]).after [.commit, .up, .commit, .down, .commit, .back, .back, .back]) := by
  obtain ⟨navigator, built⟩ : ∃ navigator, Navigator.build { policy := .announcing } .demo = .ok navigator := ⟨_, rfl⟩
  have reachable := (Reachable.of_build built).after [.up]
  refine ⟨navigator, built, ?_⟩
  cases Except.ok.inj built
  obtain ⟨below, chosen, returns⟩ := excursion_returns reachable (by decide)
  obtain rfl : 9 = below := Option.some.inj chosen
  apply returns [.up, .commit, .down, .commit, .back, .back]
  · rw [(reachable.handled .commit).stays_iff]
    decide
  · rfl

end PanelMenu.Navigator
