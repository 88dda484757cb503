import PanelMenu.Proofs.HookBrackets
import PanelMenu.Proofs.Reachable
import PanelMenu.Proofs.SignedSteps

/-! Moves at one entry go round its children in a circle. A word of moves is one rotation by the balance of
its steps down and up, and it changes nothing but the selection of that entry. -/

namespace PanelMenu

namespace Tree

theorem select_select (tree : Tree) (id : NodeId) (first second : Nat) :
    (tree.select id first).select id second = tree.select id second := by
  ext1
  · simp
  · simp only [node_select, size_select]
    split <;> rfl

theorem select_selected (tree : Tree) (id : NodeId) : tree.select id (tree.node id).selected = tree := by
  ext1
  · simp
  · rw [node_select]
    split
    next here =>
      rw [here.1]
    next => rfl

end Tree

namespace Input

/-- The inputs that neither enter nor leave an entry. -/
def lingers : Input → Bool
  | .up | .down | .noop => true
  | .commit | .back => false

def balance (word : List Input) : Int :=
  (word.count .down : Int) - word.count .up

theorem balance_append (first rest : List Input) : balance (first ++ rest) = balance first + balance rest := by
  simp only [balance, List.count_append]
  omega

theorem balance_replicate (count : Nat) (input : Input) :
    balance (List.replicate count input) = count * balance [input] := by
  cases input <;> simp [balance, List.count_replicate]

theorem lingers_replicate {input : Input} (lingers : input.lingers = true) (count : Nat) :
    ∀ other ∈ List.replicate count input, other.lingers = true := by
  intro other member
  rw [List.eq_of_mem_replicate member]
  exact lingers

end Input

namespace Navigator

theorem rotated_rotated (first second : Int) (selected : Nat) {count : Nat} (inhabited : 0 < count) :
    rotated second (rotated first selected count) count = rotated (first + second) selected count := by
  have lower := Int.emod_nonneg (selected + first) (Int.natCast_ne_zero.mpr (Nat.ne_of_gt inhabited))
  rw [rotated, rotated, rotated, Int.toNat_of_nonneg lower, Int.emod_add_emod, Int.add_assoc]

theorem natCast_rotated (delta : Int) (selected : Nat) {count : Nat} (inhabited : 0 < count) :
    ((rotated delta selected count : Nat) : Int) = (selected + delta) % count :=
  Int.toNat_of_nonneg (Int.emod_nonneg _ (Int.natCast_ne_zero.mpr (Nat.ne_of_gt inhabited)))

theorem rotated_multiple (turns : Int) {selected count : Nat} (inside : selected < count) :
    rotated (count * turns) selected count = selected := by
  rw [rotated, Int.add_mul_emod_self_left, ← Int.natCast_emod, Nat.mod_eq_of_lt inside, Int.toNat_natCast]

def shifted (navigator : Navigator) (delta : Int) : Navigator :=
  { navigator with
    tree := navigator.tree.select navigator.current
      (rotated delta navigator.currentNode.selected navigator.currentNode.children.length) }

/-- The turn of an input that lingers at an entry with children. A move is reported with the selection that it
leads to. -/
def lingering (navigator : Navigator) (input : Input) (later : Navigator) : Turn where
  navigator := later
  events := [if input = .noop then .inputIgnored else .moved navigator.current later.currentNode.selected]

section Inside
variable {navigator : Navigator} (inside : navigator.currentNode.selected < navigator.currentNode.children.length)
include inside

theorem currentNode_shifted (delta : Int) :
    (navigator.shifted delta).currentNode =
      { navigator.currentNode with
        selected := rotated delta navigator.currentNode.selected navigator.currentNode.children.length } := by
  have inner : navigator.currentNode.children ≠ [] := List.length_pos_iff.mp (Nat.zero_lt_of_lt inside)
  rw [currentNode, shifted, Tree.node_select, if_pos ⟨rfl, Tree.inside_of_children inner⟩]
  rfl

theorem shifted_inside (delta : Int) :
    (navigator.shifted delta).currentNode.selected < (navigator.shifted delta).currentNode.children.length := by
  rw [currentNode_shifted inside]
  exact rotated_lt _ _ (Nat.zero_lt_of_lt inside)

theorem shifted_shifted (first second : Int) :
    (navigator.shifted first).shifted second = navigator.shifted (first + second) := by
  rw [shifted, currentNode_shifted inside, rotated_rotated _ _ _ (Nat.zero_lt_of_lt inside)]
  simp only [shifted, Tree.select_select]

theorem shifted_multiple (turns : Int) : navigator.shifted (navigator.currentNode.children.length * turns) = navigator := by
  rw [shifted, rotated_multiple _ inside, currentNode, Tree.select_selected]

theorem shifted_zero : navigator.shifted 0 = navigator := by
  simpa using shifted_multiple inside 0

theorem handle_lingering (running : navigator.terminated = false) {input : Input} (lingers : input.lingers = true) :
    navigator.handle input = navigator.lingering input (navigator.shifted (Input.balance [input])) := by
  have inner : navigator.currentNode.children ≠ [] := List.length_pos_iff.mp (Nat.zero_lt_of_lt inside)
  rw [lingering, currentNode_shifted inside]
  cases input with
  | up | down => exact (Takes.moved running rfl inner rfl).handle_eq
  | noop =>
    have still : navigator.shifted (Input.balance [.noop]) = navigator := shifted_zero inside
    rw [still]
    exact (Takes.idle running).handle_eq
  | commit | back => cases lingers

theorem after_lingering (running : navigator.terminated = false) {word : List Input}
    (lingers : ∀ input ∈ word, input.lingers = true) :
    navigator.after word = navigator.shifted (Input.balance word) := by
  induction word generalizing navigator with
  | nil => exact (shifted_zero inside).symm
  | cons input rest ih =>
    have first := lingers input List.mem_cons_self
    have later := fun other member => lingers other (List.mem_cons_of_mem _ member)
    have running' : (navigator.shifted (Input.balance [input])).terminated = false := running
    rw [after_cons, handle_lingering inside running first, lingering, ih (shifted_inside inside _) running' later,
      shifted_shifted inside, ← Input.balance_append]
    rfl

end Inside

theorem handle_leaf {navigator : Navigator} (running : navigator.terminated = false)
    (leaf : navigator.currentNode.children = []) {input : Input} (lingers : input.lingers = true) :
    navigator.handle input = { navigator := navigator, events := [.inputIgnored] } := by
  cases input with
  | up | down => exact (Takes.stuck running rfl leaf).handle_eq
  | noop => exact (Takes.idle running).handle_eq
  | commit | back => cases lingers

theorem turns_leaf {navigator : Navigator} (running : navigator.terminated = false)
    (leaf : navigator.currentNode.children = []) {word : List Input}
    (lingers : ∀ input ∈ word, input.lingers = true) :
    navigator.turns word = List.replicate word.length ({ navigator := navigator, events := [.inputIgnored] } : Turn) ∧
      navigator.after word = navigator := by
  induction word with
  | nil => exact ⟨rfl, rfl⟩
  | cons input rest ih =>
    have still := handle_leaf running leaf (lingers input List.mem_cons_self)
    obtain ⟨turns_eq, after_eq⟩ := ih fun other member => lingers other (List.mem_cons_of_mem _ member)
    constructor
    · rw [turns, still, turns_eq, List.length_cons, List.replicate_succ]
    · rw [after_cons, still, after_eq]

theorem Takes.hooks_lingering {navigator : Navigator} {input : Input} {turn : Turn}
    (takes : navigator.Takes input turn) (lingers : input.lingers = true) : turn.events.filterMap Event.hook? = [] := by
  cases takes with
  | late | idle | stuck | moved => rfl
  | entered | acted | ascended | closed => cases lingers

theorem hooks_lingering (navigator : Navigator) {word : List Input}
    (lingers : ∀ input ∈ word, input.lingers = true) : navigator.hooks word = [] := by
  induction word generalizing navigator with
  | nil => rfl
  | cons input rest ih =>
    have silent := (navigator.handle_takes input).hooks_lingering (lingers input List.mem_cons_self)
    rw [hooks_cons, silent, ih _ fun other member => lingers other (List.mem_cons_of_mem _ member)]
    rfl

/-- What a word of moves comes to at an entry with children. -/
structure Circles (navigator : Navigator) (word : List Input) : Prop where
  selected_eq : ((navigator.after word).currentNode.selected : Int) =
    (navigator.currentNode.selected + word.count .down - word.count .up) % navigator.currentNode.children.length
  turn : ∀ index input, word[index]? = some input →
    (navigator.turns word)[index]? = some (navigator.lingering input (navigator.after (word.take (index + 1))))
  frame : navigator.after word =
    { navigator with
      tree := navigator.tree.select navigator.current (navigator.after word).currentNode.selected }
  others : ∀ id, id ≠ navigator.current → (navigator.after word).tree.node id = navigator.tree.node id
  hooks : navigator.hooks word = []
  order : ∀ other : List Input, other.Perm word → navigator.after other = navigator.after word
  round : ∀ input : Input, input.lingers = true →
    navigator.after (List.replicate navigator.currentNode.children.length input) = navigator
  undone : navigator.after [.up, .down] = navigator ∧ navigator.after [.down, .up] = navigator
  /-- Nothing overflows where the number of children is a signed word. -/
  signed : ∀ width, navigator.currentNode.children.length < 2 ^ (width - 1) →
    ∀ index input delta, word[index]? = some input → input.delta? = some delta →
      Signed.rotated? width delta (navigator.after (word.take index)).currentNode.selected
          navigator.currentNode.children.length =
        some (navigator.after (word.take (index + 1))).currentNode.selected

section Circles
variable {navigator : Navigator} (inside : navigator.currentNode.selected < navigator.currentNode.children.length)
  (running : navigator.terminated = false) {word : List Input} (lingers : ∀ input ∈ word, input.lingers = true)
include inside running lingers

private theorem turn_lingering {index : Nat} {input : Input} (found : word[index]? = some input) :
    (navigator.turns word)[index]? = some (navigator.lingering input (navigator.after (word.take (index + 1)))) := by
  have before := fun other (member : other ∈ word.take index) => lingers other (List.mem_of_mem_take member)
  have reached := after_lingering inside running before
  rw [getElem?_turns, found, List.take_add_one, found, Option.toList_some, after_append, after_cons, after_nil,
    Option.map_some, reached, handle_lingering (shifted_inside inside _) (by exact running)
      (lingers input (List.mem_of_getElem? found))]
  rfl

private theorem signed_lingering {width index : Nat} {input : Input} {delta : Int}
    (fits : navigator.currentNode.children.length < 2 ^ (width - 1)) (found : word[index]? = some input)
    (moves : input.delta? = some delta) :
    Signed.rotated? width delta (navigator.after (word.take index)).currentNode.selected
        navigator.currentNode.children.length =
      some (navigator.after (word.take (index + 1))).currentNode.selected := by
  have before := fun count other (member : other ∈ word.take count) => lingers other (List.mem_of_mem_take member)
  have unit : (delta = 1 ∨ delta = -1) ∧ Input.balance [input] = delta := by
    cases input <;> cases moves <;> decide
  have inhabited := Nat.zero_lt_of_lt inside
  rw [after_lingering inside running (before index), after_lingering inside running (before (index + 1)),
    currentNode_shifted inside, currentNode_shifted inside, List.take_add_one, found, Option.toList_some,
    Input.balance_append, unit.2, ← rotated_rotated _ _ _ inhabited]
  exact Signed.rotated?_eq unit.1 (rotated_lt _ _ inhabited) fits

theorem circles_of_inside : navigator.Circles word := by
  have reached := after_lingering inside running lingers
  have inhabited := Nat.zero_lt_of_lt inside
  have selected := congrArg Node.selected (currentNode_shifted inside (Input.balance word))
  constructor
  case selected_eq =>
    rw [reached, selected, natCast_rotated _ _ inhabited, Input.balance, Int.add_sub_assoc]
  case turn =>
    intro index input found
    exact turn_lingering inside running lingers found
  case frame =>
    rw [reached, selected]
    rfl
  case others =>
    intro id different
    rw [reached, shifted, Tree.node_select, if_neg fun here => different here.1.symm]
  case hooks => exact navigator.hooks_lingering lingers
  case order =>
    intro other same
    have lingers' : ∀ input ∈ other, input.lingers = true := fun input member => lingers input (same.mem_iff.mp member)
    rw [reached, after_lingering inside running lingers', Input.balance, Input.balance, same.count_eq, same.count_eq]
  case round =>
    intro input stays
    rw [after_lingering inside running (Input.lingers_replicate stays _), Input.balance_replicate,
      shifted_multiple inside]
  case undone =>
    constructor
    · exact (after_lingering inside running (by decide)).trans (shifted_zero inside)
    · exact (after_lingering inside running (by decide)).trans (shifted_zero inside)
  case signed =>
    intro width fits index input delta found moves
    exact signed_lingering inside running lingers fits found moves

end Circles

/-- In every state before the end, a word of moves is a rotation at an entry with children, and is ignored
input by input on a leaf. -/
theorem moves_circle {navigator : Navigator} (reachable : navigator.Reachable) (running : navigator.terminated = false)
    {word : List Input} (lingers : ∀ input ∈ word, input.lingers = true) :
    (navigator.currentNode.children ≠ [] → navigator.Circles word) ∧
      (navigator.currentNode.children = [] →
        navigator.turns word = List.replicate word.length ({ navigator := navigator, events := [.inputIgnored] } : Turn) ∧
        navigator.after word = navigator) := by
  constructor
  · intro inner
    exact circles_of_inside (reachable.selected_lt inner) running lingers
  · intro leaf
    exact turns_leaf running leaf lingers

theorem circle_in_demo :
    ∃ navigator, Navigator.build { policy := .announcing } .demo = .ok navigator ∧
      (navigator.after [.commit, .up]).Circles [.down, .noop, .up, .down] ∧
      (navigator.after [.commit, .commit]).turns [.up, .noop] =
        List.replicate 2 ({ navigator := navigator.after [.commit, .commit], events := [.inputIgnored] } : Turn) := by
  obtain ⟨navigator, built⟩ : ∃ navigator, Navigator.build { policy := .announcing } .demo = .ok navigator := ⟨_, rfl⟩
  have reachable := Reachable.of_build built
  refine ⟨navigator, built, ?_⟩
  cases Except.ok.inj built
  constructor
  · exact (moves_circle (reachable.after _) rfl (by decide)).1 (by decide)
  · exact ((moves_circle (reachable.after _) rfl (by decide)).2 rfl).1

end Navigator
end PanelMenu
