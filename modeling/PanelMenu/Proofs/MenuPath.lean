import PanelMenu.Menu.Spec

/-! Entries of a menu addressed by paths: the places of the children to take from the top down. The
position of an entry is its number in the order of the document. -/

namespace PanelMenu.MenuSpec

def reached? (spec : MenuSpec) : List Nat → Option MenuSpec
  | [] => some spec
  | index :: path => spec.children[index]?.bind (reached? · path)

/-- How many entries of the document come before the one that a path leads to. -/
def position (spec : MenuSpec) : List Nat → Nat
  | [] => 0
  | index :: path =>
    match spec.children[index]? with
    | some child => 1 + sizeAll (spec.children.take index) + child.position path
    | none => 0

theorem size_eq (spec : MenuSpec) : spec.size = 1 + sizeAll spec.children := by
  cases spec
  rfl

theorem reached?_cons {spec entry : MenuSpec} {index : Nat} {path : List Nat}
    (found : spec.reached? (index :: path) = some entry) :
    ∃ child, spec.children[index]? = some child ∧ child.reached? path = some entry :=
  Option.bind_eq_some_iff.mp found

theorem reached?_append (spec : MenuSpec) (first rest : List Nat) :
    spec.reached? (first ++ rest) = (spec.reached? first).bind (·.reached? rest) := by
  induction first generalizing spec with
  | nil => rfl
  | cons index first ih =>
    simp only [List.cons_append, reached?]
    cases spec.children[index]? with
    | none => rfl
    | some child => exact ih child

theorem reached?_child {spec entry : MenuSpec} {path : List Nat} (found : spec.reached? path = some entry)
    (index : Nat) : spec.reached? (path ++ [index]) = entry.children[index]? := by
  rw [reached?_append, found, Option.bind_some]
  simp [reached?]

theorem position_cons {spec child : MenuSpec} {index : Nat} (below : spec.children[index]? = some child)
    (path : List Nat) :
    spec.position (index :: path) = 1 + sizeAll (spec.children.take index) + child.position path := by
  rw [position, below]

theorem position_append {spec entry : MenuSpec} {first : List Nat} (found : spec.reached? first = some entry)
    (rest : List Nat) : spec.position (first ++ rest) = spec.position first + entry.position rest := by
  induction first generalizing spec with
  | nil =>
    obtain rfl := Option.some.inj found
    simp [position]
  | cons index first ih =>
    obtain ⟨child, below, found⟩ := reached?_cons found
    rw [List.cons_append, position_cons below, position_cons below, ih found]
    omega

theorem position_child {spec entry child : MenuSpec} {path : List Nat} {index : Nat}
    (found : spec.reached? path = some entry) (below : entry.children[index]? = some child) :
    spec.position (path ++ [index]) = spec.position path + (1 + sizeAll (entry.children.take index)) := by
  rw [position_append found, position_cons below]
  rfl

theorem position_lt {spec entry : MenuSpec} {above rest : List Nat} {index : Nat}
    (found : spec.reached? (above ++ index :: rest) = some entry) :
    spec.position above < spec.position (above ++ index :: rest) := by
  rw [reached?_append] at found
  obtain ⟨upper, first, found⟩ := Option.bind_eq_some_iff.mp found
  obtain ⟨child, below, _⟩ := reached?_cons found
  rw [position_append first, position_cons below]
  omega

end PanelMenu.MenuSpec
