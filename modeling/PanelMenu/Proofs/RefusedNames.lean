import PanelMenu.Proofs.MenuPlaces
import PanelMenu.Proofs.Registrations

/-! When a menu is refused. An announcing registry refuses none. A strict one refuses a menu for a name that
nobody registered, wherever in the menu it is given, and of several such names it reports the first in the order
of the document. -/

namespace PanelMenu

def Hooks.names (bindings : Hooks (Option String)) : List String :=
  bindings.enter.toList ++ (bindings.exit.toList ++ bindings.action.toList)

theorem Hooks.mem_names {bindings : Hooks (Option String)} {name : String} :
    name ∈ bindings.names ↔ ∃ hook, bindings.get hook = some name := by
  rw [names, List.mem_append, List.mem_append, Option.mem_toList, Option.mem_toList, Option.mem_toList]
  constructor
  · rintro (enter | exit | action)
    · exact ⟨.enter, enter⟩
    · exact ⟨.exit, exit⟩
    · exact ⟨.action, action⟩
  · rintro ⟨hook, bound⟩
    cases hook with
    | enter => exact .inl bound
    | exit => exact .inr (.inl bound)
    | action => exact .inr (.inr bound)

namespace MenuSpec

/-- The names that the entries of a menu give: an entry comes before its children, and a child with everything
below it before the next one. -/
def names (spec : MenuSpec) : List String :=
  spec.places.flatMap fun path => (spec.reached? path).toList.flatMap (·.bindings.names)

theorem mem_names {spec : MenuSpec} {name : String} :
    name ∈ spec.names ↔
      ∃ path entry hook, spec.reached? path = some entry ∧ entry.bindings.get hook = some name := by
  rw [names, List.mem_flatMap]
  constructor
  · rintro ⟨path, _, member⟩
    obtain ⟨entry, found, given⟩ := List.mem_flatMap.mp member
    obtain ⟨hook, bound⟩ := Hooks.mem_names.mp given
    exact ⟨path, entry, hook, Option.mem_toList.mp found, bound⟩
  · rintro ⟨path, entry, hook, found, bound⟩
    refine ⟨path, List.mem_of_getElem? (places_position found), ?_⟩
    exact List.mem_flatMap.mpr ⟨entry, Option.mem_toList.mpr found, Hooks.mem_names.mpr ⟨hook, bound⟩⟩

private theorem names_placesFrom {parent : MenuSpec} {index : Nat} {rest : List MenuSpec}
    (left : parent.children.drop index = rest) :
    (placesFrom index rest).flatMap (fun path => (parent.reached? path).toList.flatMap (·.bindings.names)) =
      rest.flatMap names := by
  induction rest generalizing index with
  | nil => rfl
  | cons child rest ih =>
    have below : parent.children[index]? = some child := by
      rw [← List.head?_drop, left, List.head?_cons]
    have later : parent.children.drop (index + 1) = rest := by
      rw [← List.tail_drop, left, List.tail_cons]
    have through : ∀ path, parent.reached? (index :: path) = child.reached? path := by
      intro path
      rw [reached?, below, Option.bind_some]
    rw [placesFrom, List.flatMap_append, List.flatMap_map, ih later, List.flatMap_cons, names]
    simp only [through]

theorem names_eq (spec : MenuSpec) : spec.names = spec.bindings.names ++ spec.children.flatMap names := by
  rw [names, places_eq, List.flatMap_cons, names_placesFrom (List.drop_zero ..)]
  simp [reached?]

example :
    let child : MenuSpec := { label := "B", bindings := ⟨some "open", none, none⟩ }
    MenuSpec.names { label := "A", bindings := ⟨none, some "leave", some "run"⟩, children := [child] } =
      ["leave", "run", "open"] := rfl

end MenuSpec

namespace Registry

/-- A computation that comes upon these names in this order. It stops at the first that is unknown, and it
succeeds if there is none. -/
def Meets {α : Type} (registry : Registry) (names : List String) (outcome : Except UnknownCallback α) : Prop :=
  match names.find? (!registry.contains ·) with
  | some name => outcome = .error ⟨name⟩
  | none => ∃ value, outcome = .ok value

section Meets
variable {registry : Registry} {α β : Type}

theorem Meets.nothing (value : α) : registry.Meets [] (.ok value) := ⟨value, rfl⟩

theorem Meets.bind {names others : List String} {outcome : Except UnknownCallback α}
    {next : α → Except UnknownCallback β} (first : registry.Meets names outcome)
    (later : ∀ value, registry.Meets others (next value)) : registry.Meets (names ++ others) (outcome >>= next) := by
  rw [Meets] at first
  rw [Meets, List.find?_append]
  cases found : names.find? (!registry.contains ·) with
  | some name =>
    rw [found] at first
    rw [first]
    rfl
  | none =>
    rw [found] at first
    obtain ⟨value, rfl⟩ := first
    exact later value

variable (strict : registry.policy = .strict)
include strict

theorem meets_resolve (name : Option String) : registry.Meets name.toList (registry.resolve name) := by
  cases name with
  | none => exact .nothing _
  | some name =>
    rw [Meets, Option.toList_some, List.find?_singleton, contains, resolve]
    cases registry.find? name with
    | some handler => exact ⟨_, rfl⟩
    | none => simp only [strict, Option.isSome_none, Bool.not_false, if_true]

theorem meets_resolveAll (bindings : Hooks (Option String)) :
    registry.Meets bindings.names (registry.resolveAll bindings) := by
  refine (meets_resolve strict bindings.enter).bind fun enter => ?_
  refine (meets_resolve strict bindings.exit).bind fun exit => ?_
  rw [← List.append_nil bindings.action.toList]
  exact (meets_resolve strict bindings.action).bind fun action => .nothing _

end Meets
end Registry

namespace Tree
variable {registry : Registry}

mutual

/-- However much was built already, an entry is refused for the first of its own names that is unknown. -/
theorem meets_grow (strict : registry.policy = .strict) (tree : Tree) :
    ∀ spec : MenuSpec, registry.Meets spec.names (grow registry tree spec)
  | ⟨label, bindings, children⟩ => by
    rw [grow, MenuSpec.names_eq]
    refine (Registry.meets_resolveAll strict bindings).bind fun callbacks => ?_
    exact meets_growChildren strict _ tree.size children

theorem meets_growChildren (strict : registry.policy = .strict) (tree : Tree) (parent : NodeId) :
    ∀ specs : List MenuSpec, registry.Meets (specs.flatMap MenuSpec.names) (growChildren registry tree parent specs)
  | [] => .nothing tree
  | child :: rest => by
    rw [growChildren, List.flatMap_cons]
    refine (meets_grow strict tree child).bind fun grown => ?_
    exact meets_growChildren strict _ parent rest

end
end Tree

def MenuSpec.FirstUnknown (spec : MenuSpec) (registered : List String) (name : String) : Prop :=
  ∃ before after, spec.names = before ++ name :: after ∧ (∀ earlier ∈ before, earlier ∈ registered) ∧
    name ∉ registered

namespace Registry

theorem contains_ofNames {policy : Policy} {names : List String} {name : String} :
    (ofNames policy names).contains name = true ↔ name ∈ names := by
  rw [contains, Option.isSome_iff_ne_none, Ne, find?_ofNames_none, not_not]

theorem firstUnknown_iff {spec : MenuSpec} {registered : List String} {name : String} :
    spec.FirstUnknown registered name ↔
      spec.names.find? (!(ofNames .strict registered).contains ·) = some name := by
  simp only [List.find?_eq_some_iff_append, Bool.not_eq_true', ← Bool.not_eq_true, contains_ofNames, not_not]
  rw [MenuSpec.FirstUnknown]
  exact ⟨fun ⟨before, after, listed, known, unknown⟩ => ⟨unknown, before, after, listed, known⟩,
    fun ⟨unknown, before, after, listed, known⟩ => ⟨before, after, listed, known, unknown⟩⟩

theorem all_registered_iff {spec : MenuSpec} {registered : List String} :
    (∀ path entry hook name, spec.reached? path = some entry → entry.bindings.get hook = some name →
        name ∈ registered) ↔
      spec.names.find? (!(ofNames .strict registered).contains ·) = none := by
  simp only [List.find?_eq_none, Bool.not_eq_true', Bool.not_eq_false, contains_ofNames, MenuSpec.mem_names]
  constructor
  · rintro all name ⟨path, entry, hook, found, bound⟩
    exact all path entry hook name found bound
  · intro all path entry hook name found bound
    exact all name ⟨path, entry, hook, found, bound⟩

end Registry

/-- Whatever was registered, an announcing registry builds every menu. A strict one builds those that give only
names that were registered, and refuses each of the others for its first name that was not. -/
theorem Tree.build_refuses (registered : List String) (spec : MenuSpec) :
    (∃ tree, Tree.build (Registry.ofNames .announcing registered) spec = .ok tree) ∧
    ((∃ tree, Tree.build (Registry.ofNames .strict registered) spec = .ok tree) ↔
      ∀ path entry hook name, spec.reached? path = some entry → entry.bindings.get hook = some name →
        name ∈ registered) ∧
    ∀ cause, Tree.build (Registry.ofNames .strict registered) spec = .error cause ↔
      spec.FirstUnknown registered cause.name := by
  have meets := meets_grow (Registry.policy_ofNames .strict registered) {} spec
  rw [Registry.Meets, ← build] at meets
  refine ⟨build_announcing (Registry.policy_ofNames .announcing registered) spec, ?_, ?_⟩
  · rw [Registry.all_registered_iff]
    cases found : spec.names.find? (!(Registry.ofNames .strict registered).contains ·) with
    | none =>
      rw [found] at meets
      exact iff_of_true meets rfl
    | some name =>
      rw [found] at meets
      simp [meets]
  · intro cause
    rw [Registry.firstUnknown_iff]
    cases found : spec.names.find? (!(Registry.ofNames .strict registered).contains ·) with
    | none =>
      rw [found] at meets
      obtain ⟨tree, built⟩ := meets
      simp [built]
    | some name =>
      rw [found] at meets
      rcases cause with ⟨other⟩
      simp [meets]

end PanelMenu
