import Mathlib.Order.Bounds.Basic

/-! Edits of a list, and the least number of them that leads from one list to another. The recursion on the first symbols
finds it: none of the ways it tries is in vain, and an edit at any place changes the number by one at most. -/

namespace PanelMenu.Text
variable {α : Type}

inductive Edit : List α → List α → Prop
  | insert (before after : List α) (symbol : α) : Edit (before ++ after) (before ++ symbol :: after)
  | delete (before after : List α) (symbol : α) : Edit (before ++ symbol :: after) (before ++ after)
  | replace (before after : List α) (old new : α) : Edit (before ++ old :: after) (before ++ new :: after)

/-- That many edits lead from the source to the target. -/
inductive Edits : Nat → List α → List α → Prop
  | none (source : List α) : Edits 0 source source
  | cons {number : Nat} {source middle target : List α} (first : Edit source middle)
      (rest : Edits number middle target) : Edits (number + 1) source target

namespace Edit
variable {source target : List α}

theorem symm (edit : Edit source target) : Edit target source := by
  cases edit with
  | insert before after symbol => exact delete before after symbol
  | delete before after symbol => exact insert before after symbol
  | replace before after old new => exact replace before after new old

theorem behind (symbol : α) (edit : Edit source target) : Edit (symbol :: source) (symbol :: target) := by
  cases edit with
  | insert before after new => exact insert (symbol :: before) after new
  | delete before after old => exact delete (symbol :: before) after old
  | replace before after old new => exact replace (symbol :: before) after old new

theorem reverse (edit : Edit source target) : Edit source.reverse target.reverse := by
  cases edit with
  | insert before after symbol => simpa using insert after.reverse before.reverse symbol
  | delete before after symbol => simpa using delete after.reverse before.reverse symbol
  | replace before after old new => simpa using replace after.reverse before.reverse old new

end Edit

namespace Edits
variable {source middle target : List α} {m n : Nat}

theorem single (edit : Edit source target) : Edits 1 source target :=
  cons edit (none target)

theorem trans (first : Edits m source middle) (second : Edits n middle target) : Edits (m + n) source target := by
  induction first with
  | none => rwa [Nat.zero_add]
  | cons edit _ ih =>
    rw [Nat.add_right_comm]
    exact cons edit (ih second)

theorem symm (edits : Edits n source target) : Edits n target source := by
  induction edits with
  | none source => exact none source
  | cons edit _ ih => exact ih.trans (single edit.symm)

theorem map {change : List α → List α} (edits : Edits n source target)
    (goesOver : ∀ {source target}, Edit source target → Edit (change source) (change target)) :
    Edits n (change source) (change target) := by
  induction edits with
  | none source => exact none (change source)
  | cons edit _ ih => exact cons (goesOver edit) ih

theorem behind (symbol : α) (edits : Edits n source target) : Edits n (symbol :: source) (symbol :: target) :=
  edits.map (Edit.behind symbol)

theorem reverse (edits : Edits n source target) : Edits n source.reverse target.reverse :=
  edits.map Edit.reverse

theorem zero_iff : Edits 0 source target ↔ source = target := by
  constructor
  · intro edits
    cases edits
    rfl
  · rintro rfl
    exact none source

theorem ofNil (target : List α) : Edits target.length [] target := by
  induction target with
  | nil => exact none []
  | cons symbol target ih => exact (ih.behind symbol).cons (Edit.insert [] [] symbol)

end Edits

section Levenshtein
variable [DecidableEq α]

/-- The least number of edits, found from the first symbols of both lists. -/
def levenshtein : List α → List α → Nat
  | [], target => target.length
  | source, [] => source.length
  | symbol :: source, other :: target =>
    min (min (levenshtein source (other :: target) + 1) (levenshtein (symbol :: source) target + 1))
      (levenshtein source target + if symbol = other then 0 else 1)
  termination_by source target => source.length + target.length

theorem levenshtein_nil_left (target : List α) : levenshtein [] target = target.length := by
  rw [levenshtein]

theorem levenshtein_nil_right (source : List α) : levenshtein source [] = source.length := by
  cases source <;> simp [levenshtein]

theorem levenshtein_cons_cons (symbol other : α) (source target : List α) :
    levenshtein (symbol :: source) (other :: target) =
      min (min (levenshtein source (other :: target) + 1) (levenshtein (symbol :: source) target + 1))
        (levenshtein source target + if symbol = other then 0 else 1) := by
  rw [levenshtein]

theorem edits_levenshtein (source target : List α) : Edits (levenshtein source target) source target := by
  fun_induction levenshtein source target with
  | case1 target => exact Edits.ofNil target
  | case2 source => exact (Edits.ofNil source).symm
  | case3 symbol source other target deleting inserting replacing =>
    have deleted := deleting.cons (Edit.delete [] source symbol)
    have inserted := (inserting.behind other).cons (Edit.insert [] (symbol :: source) other)
    have replaced : Edits (levenshtein source target + if symbol = other then 0 else 1) (symbol :: source)
        (other :: target) := by
      split
      next same =>
        subst same
        exact replacing.behind symbol
      next => exact (replacing.behind other).cons (Edit.replace [] source symbol other)
    exact min_rec' (Edits · _ _) (min_rec' (Edits · _ _) deleted inserted) replaced

theorem levenshtein_self (source : List α) : levenshtein source source = 0 := by
  induction source with
  | nil => exact levenshtein_nil_left []
  | cons symbol source ih => simp [levenshtein_cons_cons, ih]

section Bounds
variable (source target : List α)

theorem levenshtein_delete_le (symbol : α) :
    levenshtein (symbol :: source) target ≤ levenshtein source target + 1 := by
  cases target with
  | nil => simp [levenshtein_nil_right]
  | cons other target =>
    rw [levenshtein_cons_cons]
    omega

theorem levenshtein_insert_le (other : α) :
    levenshtein source (other :: target) ≤ levenshtein source target + 1 := by
  cases source with
  | nil => simp [levenshtein_nil_left]
  | cons symbol source =>
    rw [levenshtein_cons_cons]
    omega

theorem levenshtein_replace_le (symbol other : α) :
    levenshtein (symbol :: source) (other :: target) ≤ levenshtein source target + 1 := by
  rw [levenshtein_cons_cons]
  split <;> omega

theorem levenshtein_le_insert (symbol : α) :
    levenshtein source target ≤ levenshtein (symbol :: source) target + 1 := by
  induction target with
  | nil =>
    simp only [levenshtein_nil_right, List.length_cons]
    omega
  | cons other target ih =>
    have inserted := levenshtein_insert_le source target other
    rw [levenshtein_cons_cons]
    omega

theorem levenshtein_le_replace (old new : α) :
    levenshtein (old :: source) target ≤ levenshtein (new :: source) target + 1 := by
  induction target with
  | nil => simp [levenshtein_nil_right]
  | cons other target ih =>
    have deleted := levenshtein_delete_le source (other :: target) old
    have inserted := levenshtein_insert_le (old :: source) target other
    have replaced := levenshtein_replace_le source target old other
    rw [levenshtein_cons_cons new]
    omega

end Bounds

theorem levenshtein_le_behind {source middle : List α} (symbol : α)
    (near : ∀ target, levenshtein source target ≤ levenshtein middle target + 1) (target : List α) :
    levenshtein (symbol :: source) target ≤ levenshtein (symbol :: middle) target + 1 := by
  induction target with
  | nil => simpa [levenshtein_nil_right] using near []
  | cons other target ih =>
    have deleted := near (other :: target)
    have replaced := near target
    rw [levenshtein_cons_cons, levenshtein_cons_cons]
    omega

theorem levenshtein_le_append {source middle : List α} (before : List α)
    (near : ∀ target, levenshtein source target ≤ levenshtein middle target + 1) (target : List α) :
    levenshtein (before ++ source) target ≤ levenshtein (before ++ middle) target + 1 := by
  induction before generalizing target with
  | nil => exact near target
  | cons symbol before ih => exact levenshtein_le_behind symbol ih target

theorem Edit.levenshtein_le {source middle : List α} (edit : Edit source middle) (target : List α) :
    levenshtein source target ≤ levenshtein middle target + 1 := by
  cases edit with
  | insert before after symbol =>
    exact levenshtein_le_append before (fun target => levenshtein_le_insert after target symbol) target
  | delete before after symbol =>
    exact levenshtein_le_append before (fun target => levenshtein_delete_le after target symbol) target
  | replace before after old new =>
    exact levenshtein_le_append before (fun target => levenshtein_le_replace after target old new) target

/-- No way is shorter, as each edit on it takes the source nearer to the target by one at most. -/
theorem Edits.levenshtein_le {source target : List α} {number : Nat} (edits : Edits number source target) :
    levenshtein source target ≤ number := by
  induction edits with
  | none source => exact Nat.le_of_eq (levenshtein_self source)
  | cons edit _ ih => exact (edit.levenshtein_le _).trans (Nat.succ_le_succ ih)

theorem levenshtein_isLeast (source target : List α) :
    IsLeast {number | Edits number source target} (levenshtein source target) :=
  ⟨edits_levenshtein source target, fun _ edits => edits.levenshtein_le⟩

section Metric
variable (source middle target : List α)

theorem levenshtein_eq_zero_iff : levenshtein source target = 0 ↔ source = target := by
  rw [← Edits.zero_iff]
  constructor
  · intro zero
    rw [← zero]
    exact edits_levenshtein source target
  · intro edits
    exact Nat.le_zero.mp edits.levenshtein_le

theorem levenshtein_comm : levenshtein source target = levenshtein target source :=
  Nat.le_antisymm (edits_levenshtein target source).symm.levenshtein_le
    (edits_levenshtein source target).symm.levenshtein_le

theorem levenshtein_triangle :
    levenshtein source target ≤ levenshtein source middle + levenshtein middle target :=
  ((edits_levenshtein source middle).trans (edits_levenshtein middle target)).levenshtein_le

theorem levenshtein_reverse : levenshtein source.reverse target.reverse = levenshtein source target := by
  apply Nat.le_antisymm
  · exact (edits_levenshtein source target).reverse.levenshtein_le
  · have back := (edits_levenshtein source.reverse target.reverse).reverse
    rw [List.reverse_reverse, List.reverse_reverse] at back
    exact back.levenshtein_le

end Metric
end Levenshtein

end PanelMenu.Text
