import Mathlib.Data.List.Induction
import PanelMenu.Proofs.TreeLayout

/-! What a history of registrations comes to. Of several handlers of one name the last one counts, and
an announcing registry refuses nothing. -/

namespace PanelMenu

namespace Registry

def ofNames (policy : Policy) (names : List String) : Registry :=
  names.foldl register { policy := policy }

/-- The handler was registered, and its name was not registered again. -/
structure Last (names : List String) (handler : Handler) : Prop where
  registered : names[handler.registration]? = some handler.name
  unreplaced : ∀ later, handler.registration < later → names[later]? ≠ some handler.name

theorem ofNames_concat (policy : Policy) (names : List String) (name : String) :
    ofNames policy (names ++ [name]) = (ofNames policy names).register name :=
  List.foldl_concat ..

@[simp] theorem policy_ofNames (policy : Policy) (names : List String) : (ofNames policy names).policy = policy := by
  induction names using List.reverseRecOn with
  | nil => rfl
  | append_singleton names name ih => rwa [ofNames_concat, register]

theorem length_ofNames (policy : Policy) (names : List String) :
    (ofNames policy names).handlers.length = names.length := by
  induction names using List.reverseRecOn with
  | nil => rfl
  | append_singleton names name ih => rw [ofNames_concat, register, List.length_append, ih, List.length_append]; rfl

theorem find?_register (registry : Registry) (name other : String) :
    (registry.register name).find? other =
      if name = other then some ⟨name, registry.handlers.length⟩ else registry.find? other := by
  rw [find?, register, List.reverse_concat, List.find?_cons, find?]
  by_cases same : name = other
  · simp [same]
  · have unequal : (name == other) = false := beq_eq_false_iff_ne.mpr same
    rw [if_neg same, unequal]

theorem last_concat {names : List String} {name : String} {handler : Handler} :
    Last (names ++ [name]) handler ↔
      handler = ⟨name, names.length⟩ ∨ handler.name ≠ name ∧ Last names handler := by
  constructor
  · rintro ⟨registered, unreplaced⟩
    obtain ⟨within, _⟩ := List.getElem?_eq_some_iff.mp registered
    rw [List.length_append, List.length_singleton] at within
    rcases Nat.lt_or_eq_of_le (Nat.le_of_lt_succ within) with earlier | final
    · have different : handler.name ≠ name := by
        rintro same
        exact unreplaced names.length earlier (by simp [same])
      refine .inr ⟨different, ?_, ?_⟩
      · rwa [List.getElem?_append_left earlier] at registered
      · intro later behind again
        obtain ⟨inside, _⟩ := List.getElem?_eq_some_iff.mp again
        exact unreplaced later behind (by rwa [List.getElem?_append_left inside])
    · rw [final, List.getElem?_concat_length] at registered
      rcases handler with ⟨_, place⟩
      obtain rfl : place = names.length := final
      obtain rfl := Option.some.inj registered
      exact .inl rfl
  · rintro (rfl | ⟨different, registered, unreplaced⟩)
    · refine ⟨List.getElem?_concat_length, ?_⟩
      intro later (behind : names.length < later)
      have outside : (names ++ [name])[later]? = none := by simpa using Nat.succ_le_of_lt behind
      rw [outside]
      exact (Option.some_ne_none _).symm
    · obtain ⟨inside, _⟩ := List.getElem?_eq_some_iff.mp registered
      refine ⟨by rwa [List.getElem?_append_left inside], ?_⟩
      intro later behind again
      rw [List.getElem?_append] at again
      split at again
      · exact unreplaced later behind again
      · exact different (List.mem_singleton.mp (List.mem_of_getElem? again))

theorem find?_ofNames {policy : Policy} {names : List String} {name : String} {handler : Handler} :
    (ofNames policy names).find? name = some handler ↔ handler.name = name ∧ Last names handler := by
  induction names using List.reverseRecOn with
  | nil =>
    constructor
    · intro found
      cases found
    · rintro ⟨_, registered, _⟩
      cases registered
  | append_singleton names newest ih =>
    rw [ofNames_concat, find?_register, last_concat, length_ofNames]
    split
    next same =>
      subst same
      rw [Option.some.injEq]
      constructor
      · rintro rfl
        exact ⟨rfl, .inl rfl⟩
      · rintro ⟨named, rfl | ⟨different, _⟩⟩
        · rfl
        · exact absurd named different
    next other =>
      rw [ih]
      constructor
      · rintro ⟨rfl, last⟩
        exact ⟨rfl, .inr ⟨Ne.symm other, last⟩⟩
      · rintro ⟨named, rfl | ⟨_, last⟩⟩
        · exact absurd named other
        · exact ⟨named, last⟩

theorem find?_ofNames_none {policy : Policy} {names : List String} {name : String} :
    (ofNames policy names).find? name = none ↔ name ∉ names := by
  induction names using List.reverseRecOn with
  | nil => exact iff_of_true rfl List.not_mem_nil
  | append_singleton names newest ih =>
    rw [ofNames_concat, find?_register, List.mem_append, List.mem_singleton, not_or]
    split
    next same => simp [same]
    next other => rw [ih, and_iff_left (Ne.symm other)]

section Announcing
variable {registry : Registry} (announcing : registry.policy = .announcing)
include announcing

theorem resolve_announcing (name : Option String) : registry.resolve name = .ok (registry.bound name) := by
  cases name with
  | none => rfl
  | some name =>
    rw [resolve, bound]
    cases registry.find? name with
    | some handler => rfl
    | none => simp only [announcing]

theorem resolveAll_announcing (bindings : Hooks (Option String)) :
    registry.resolveAll bindings = .ok (registry.boundAll bindings) := by
  simp only [resolveAll, resolve_announcing announcing]
  rfl

end Announcing
end Registry

namespace Tree
variable {registry : Registry}

mutual

theorem grow_announcing (announcing : registry.policy = .announcing) (tree : Tree) :
    ∀ spec : MenuSpec, ∃ grown, grow registry tree spec = .ok grown
  | ⟨label, bindings, children⟩ => by
    rw [grow, Registry.resolveAll_announcing announcing]
    exact growChildren_announcing announcing _ tree.size children

theorem growChildren_announcing (announcing : registry.policy = .announcing) (tree : Tree) (parent : NodeId) :
    ∀ specs : List MenuSpec, ∃ grown, growChildren registry tree parent specs = .ok grown
  | [] => ⟨tree, rfl⟩
  | child :: rest => by
    obtain ⟨between, first⟩ := grow_announcing announcing tree child
    rw [growChildren, first]
    exact growChildren_announcing announcing _ parent rest

end

/-- Whatever names a menu gives, an announcing registry builds it. -/
theorem build_announcing (announcing : registry.policy = .announcing) (spec : MenuSpec) :
    ∃ tree, Tree.build registry spec = .ok tree :=
  grow_announcing announcing {} spec

end Tree
end PanelMenu
