import Mathlib.Data.List.Induction
import PanelMenu.Proofs.Forest

/-! Whole sequences of calls that make a tree. As long as only detached entries are attached, and none below
itself, there is a forest after every call, in which children stand in the order of the calls. -/

namespace PanelMenu.Tree

inductive Call
  | create (label : String) (callbacks : Hooks Callback)
  | attach (parent child : NodeId)
  deriving DecidableEq, Repr

def perform (tree : Tree) : Call → Tree
  | .create label callbacks => tree.create label callbacks
  | .attach parent child => tree.attach parent child

def made (calls : List Call) : Tree :=
  calls.foldl perform {}

/-- An entry can be attached if it is there, has no parent and is not the root above its new parent. -/
def Call.Fits (tree : Tree) : Call → Prop
  | create _ _ => True
  | attach parent child =>
    parent < tree.size ∧ child < tree.size ∧ (tree.node child).parent = none ∧ tree.rootOf parent ≠ child

instance (tree : Tree) : (call : Call) → Decidable (call.Fits tree)
  | .create _ _ => inferInstanceAs (Decidable True)
  | .attach parent child => inferInstanceAs (Decidable
      (parent < tree.size ∧ child < tree.size ∧ (tree.node child).parent = none ∧ tree.rootOf parent ≠ child))

def Proper (calls : List Call) : Prop :=
  ∀ index, (inside : index < calls.length) → calls[index].Fits (made (calls.take index))

instance (calls : List Call) : Decidable (Proper calls) :=
  inferInstanceAs (Decidable (∀ index, (_ : index < calls.length) → _))

def Call.adopted? (id : NodeId) : Call → Option NodeId
  | create _ _ => none
  | attach parent child => if parent = id then some child else none

theorem made_concat (calls : List Call) (call : Call) : made (calls ++ [call]) = (made calls).perform call := by
  rw [made, List.foldl_concat]
  rfl

namespace Proper
variable {calls : List Call}

theorem take (proper : Proper calls) (count : Nat) : Proper (calls.take count) := by
  intro index inside
  rw [List.length_take] at inside
  have fits := proper index (by omega)
  rwa [List.getElem_take, List.take_take, Nat.min_eq_left (by omega)]

theorem of_concat {call : Call} (proper : Proper (calls ++ [call])) : Proper calls ∧ call.Fits (made calls) := by
  constructor
  · have before := proper.take calls.length
    rwa [List.take_left] at before
  · have fits := proper calls.length (by simp)
    rwa [List.getElem_concat_length rfl, List.take_left] at fits

theorem grown (proper : Proper calls) : (made calls).Grown := by
  induction calls using List.reverseRecOn with
  | nil => exact .empty
  | append_singleton calls call ih =>
    obtain ⟨earlier, fits⟩ := proper.of_concat
    rw [made_concat]
    cases call with
    | create label callbacks => exact (ih earlier).created label callbacks
    | attach parent child =>
      obtain ⟨inside, present, detached, separate⟩ := fits
      exact (ih earlier).attached inside present detached separate

theorem children_made (proper : Proper calls) (id : NodeId) :
    ((made calls).node id).children = calls.filterMap (Call.adopted? id) := by
  induction calls using List.reverseRecOn with
  | nil => rfl
  | append_singleton calls call ih =>
    obtain ⟨earlier, fits⟩ := proper.of_concat
    rw [made_concat, List.filterMap_append, ← ih earlier]
    cases call with
    | create label callbacks =>
      rw [perform, children_create]
      exact (List.append_nil _).symm
    | attach parent child =>
      rw [perform, children_attach]
      by_cases same : parent = id
      · simp [same ▸ fits.1, same, Call.adopted?]
      · simp [same, Call.adopted?]

/-- There is a forest after every call, and an attached entry takes along everything below it. -/
theorem forest_throughout (proper : Proper calls) (count : Nat) :
    (made (calls.take count)).Forest ∧
      (∀ id, ((made (calls.take count)).node id).children = (calls.take count).filterMap (Call.adopted? id)) ∧
      ∀ parent child, calls[count]? = some (.attach parent child) →
        (made (calls.take count)).Grafted parent child (made (calls.take (count + 1))) := by
  have grown := (proper.take count).grown
  refine ⟨grown.forest, (proper.take count).children_made, ?_⟩
  intro parent child called
  obtain ⟨inside, found⟩ := List.getElem?_eq_some_iff.mp called
  have fits := proper count inside
  rw [found] at fits
  obtain ⟨within, present, detached, separate⟩ := fits
  rw [List.take_add_one, called, Option.toList_some, made_concat]
  exact grown.grafted within present detached separate

end Proper

def upturned : List Call :=
  let plain : Hooks Callback := ⟨.standard, .standard, .standard⟩
  [.create "A" plain, .create "B" plain, .create "C" plain, .attach 1 0, .attach 2 1]

theorem forest_upturned : Proper upturned ∧ (made upturned).Forest ∧
    (made (upturned.take 4)).Grafted 2 1 (made upturned) := by
  have proper : Proper upturned := by decide
  exact ⟨proper, (proper.forest_throughout 5).1, (proper.forest_throughout 4).2.2 2 1 rfl⟩

end PanelMenu.Tree
