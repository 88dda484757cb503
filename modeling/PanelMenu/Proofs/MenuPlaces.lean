import PanelMenu.Proofs.MenuPath

/-! The paths to all entries of a menu, in the order of the document. Every path stands at the position
of its entry, so positions number the entries from zero, without gaps and without repetition. -/

namespace PanelMenu.MenuSpec

mutual

/-- The paths to an entry and to everything below it. -/
def places : MenuSpec → List (List Nat)
  | ⟨_, _, children⟩ => [] :: placesFrom 0 children

def placesFrom (index : Nat) : List MenuSpec → List (List Nat)
  | [] => []
  | child :: rest => child.places.map (index :: ·) ++ placesFrom (index + 1) rest

end

theorem places_eq (spec : MenuSpec) : spec.places = [] :: placesFrom 0 spec.children := by
  cases spec
  rfl

mutual

@[simp] theorem length_places : ∀ spec : MenuSpec, spec.places.length = spec.size
  | ⟨_, _, children⟩ => by
    rw [places, List.length_cons, length_placesFrom 0 children, size, Nat.add_comm]

@[simp] theorem length_placesFrom (index : Nat) :
    ∀ specs : List MenuSpec, (placesFrom index specs).length = sizeAll specs
  | [] => rfl
  | child :: rest => by
    rw [placesFrom, List.length_append, List.length_map, length_places child, length_placesFrom (index + 1) rest,
      sizeAll]

end

private theorem getElem?_placesFrom {specs : List MenuSpec} {child : MenuSpec} {index offset : Nat}
    {path : List Nat} (below : specs[index]? = some child) (found : child.places[offset]? = some path)
    (first : Nat) :
    (placesFrom first specs)[sizeAll (specs.take index) + offset]? = some ((first + index) :: path) := by
  induction specs generalizing first index with
  | nil => cases below
  | cons head rest ih =>
    cases index with
    | zero =>
      obtain rfl := Option.some.inj below
      obtain ⟨within, _⟩ := List.getElem?_eq_some_iff.mp found
      simp only [List.take_zero, sizeAll, Nat.add_zero, Nat.zero_add]
      rw [placesFrom, List.getElem?_append_left (by simpa using within), List.getElem?_map, found]
      rfl
    | succ index =>
      have shift : head.size + sizeAll (rest.take index) + offset - head.size =
          sizeAll (rest.take index) + offset := by omega
      rw [List.take_succ_cons, sizeAll, placesFrom, List.getElem?_append_right (by simp; omega),
        List.length_map, length_places, shift, ih below, Nat.add_right_comm, Nat.add_assoc]

private theorem placesFrom_getElem? {specs : List MenuSpec} {first id : Nat} {path : List Nat}
    (found : (placesFrom first specs)[id]? = some path) :
    ∃ index child offset rest, specs[index]? = some child ∧ child.places[offset]? = some rest ∧
      path = (first + index) :: rest ∧ id = sizeAll (specs.take index) + offset := by
  induction specs generalizing first id with
  | nil => cases found
  | cons head specs ih =>
    rw [placesFrom] at found
    by_cases inside : id < head.size
    · rw [List.getElem?_append_left (by simpa using inside), List.getElem?_map] at found
      obtain ⟨rest, placed, rfl⟩ := Option.map_eq_some_iff.mp found
      exact ⟨0, head, id, rest, rfl, placed, rfl, by simp [sizeAll]⟩
    · rw [List.getElem?_append_right (by simpa using inside), List.length_map, length_places] at found
      obtain ⟨index, child, offset, rest, below, placed, rfl, later⟩ := ih found
      refine ⟨index + 1, child, offset, rest, below, placed, by rw [Nat.add_right_comm, Nat.add_assoc], ?_⟩
      rw [List.take_succ_cons, sizeAll]
      omega

theorem places_position {spec entry : MenuSpec} {path : List Nat} (found : spec.reached? path = some entry) :
    spec.places[spec.position path]? = some path := by
  induction path generalizing spec with
  | nil => simp [places_eq, position]
  | cons index path ih =>
    obtain ⟨child, below, found⟩ := reached?_cons found
    have shift : 1 + sizeAll (spec.children.take index) + child.position path =
        sizeAll (spec.children.take index) + child.position path + 1 := by omega
    rw [places_eq, position_cons below, shift, List.getElem?_cons_succ, getElem?_placesFrom below (ih found),
      Nat.zero_add]

theorem reached?_of_places {spec : MenuSpec} {id : Nat} {path : List Nat}
    (listed : spec.places[id]? = some path) :
    ∃ entry, spec.reached? path = some entry ∧ spec.position path = id := by
  induction path generalizing spec id with
  | nil =>
    rw [places_eq] at listed
    cases id with
    | zero => exact ⟨spec, rfl, rfl⟩
    | succ id =>
      obtain ⟨_, _, _, _, _, _, impossible, _⟩ := placesFrom_getElem? listed
      cases impossible
  | cons place path ih =>
    rw [places_eq] at listed
    cases id with
    | zero => cases listed
    | succ id =>
      obtain ⟨index, child, offset, rest, below, placed, same, located⟩ := placesFrom_getElem? listed
      obtain ⟨rfl, rfl⟩ := List.cons.inj same
      obtain ⟨entry, found, rfl⟩ := ih placed
      rw [Nat.zero_add]
      refine ⟨entry, ?_, ?_⟩
      · rw [reached?, below]
        exact found
      · rw [position_cons below]
        omega

theorem places_iff {spec : MenuSpec} {id : Nat} {path : List Nat} :
    spec.places[id]? = some path ↔ (spec.reached? path).isSome ∧ spec.position path = id := by
  constructor
  · intro listed
    obtain ⟨entry, found, same⟩ := reached?_of_places listed
    exact ⟨Option.isSome_iff_exists.mpr ⟨entry, found⟩, same⟩
  · rintro ⟨reached, rfl⟩
    obtain ⟨entry, found⟩ := Option.isSome_iff_exists.mp reached
    exact places_position found

/-- Every number below the size of a menu is the position of one of its entries. -/
theorem exists_position {spec : MenuSpec} {id : Nat} (inside : id < spec.size) :
    ∃ path entry, spec.reached? path = some entry ∧ spec.position path = id := by
  have within : id < spec.places.length := by rwa [length_places]
  obtain ⟨entry, found, same⟩ := reached?_of_places (List.getElem?_eq_getElem within)
  exact ⟨_, entry, found, same⟩

end PanelMenu.MenuSpec
