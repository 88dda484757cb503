import PanelMenu.Proofs.Edits
import PanelMenu.Text.EditDistance

/-! The table of the edit distance holds the least numbers of edits. A row is only ever read where it has been written
for the symbol at hand, so it does not matter what earlier symbols left in it. -/

namespace PanelMenu.Text

namespace Rows
variable {α : Type} [DecidableEq α] {symbol : α} {done target : List α} {rows : Rows target.length}

/-- What belongs at `place` in the row of the symbols `done`. The table takes both lists apart at their ends, the
recursion at their fronts, so beginnings are read backwards: the last symbol of `done` was the first of the source. -/
def number (done target : List α) (place : Nat) : Nat :=
  levenshtein done (target.take place).reverse

theorem number_zero (done target : List α) : number done target 0 = done.length :=
  levenshtein_nil_right done

theorem number_nil {place : Nat} (inside : place ≤ target.length) : number [] target place = place := by
  rw [number, levenshtein_nil_left, List.length_reverse, List.length_take_of_le inside]

theorem number_succ (symbol : α) (done : List α) {place : Nat} (inside : place < target.length) :
    number (symbol :: done) target (place + 1) =
      min (min (number done target (place + 1) + 1) (number (symbol :: done) target place + 1))
        (number done target place + cost symbol target[place]) := by
  have last : (target.take (place + 1)).reverse = target[place] :: (target.take place).reverse := by
    rw [List.take_succ_eq_append_getElem inside, List.reverse_concat]
  rw [number, number, number, number, last, levenshtein_cons_cons, cost]

/-- The row above is that of the symbols `done`. Nothing is known of the one below. -/
def Closed (done target : List α) (rows : Rows target.length) : Prop :=
  ∀ place (inside : place < target.length + 1), rows.above[place] = number done target place

structure Written (symbol : α) (done target : List α) (last : Nat) (rows : Rows target.length) : Prop where
  closed : Closed done target rows
  below : ∀ place (inside : place < target.length + 1), place ≤ last →
    rows.below[place] = number (symbol :: done) target place

theorem Closed.first (target : List α) : Closed [] target (first target.length) := by
  intro place inside
  rw [number_nil (Nat.le_of_lt_succ inside)]
  exact Vector.getElem_range inside

theorem Closed.start (closed : Closed done target rows) (symbol : α) :
    Written symbol done target 0 (rows.start (done.length + 1)) := by
  refine ⟨closed, ?_⟩
  intro place inside upTo
  obtain rfl := Nat.le_zero.mp upTo
  rw [number_zero]
  exact Vector.getElem_set_self _

theorem Written.write {last : Nat} (written : Written symbol done target last rows) (inside : last < target.length) :
    Written symbol done target (last + 1) (rows.write last inside (cost symbol target[last])) := by
  refine ⟨written.closed, ?_⟩
  intro place within upTo
  simp only [Rows.write, Vector.getElem_set]
  split
  next same =>
    subst same
    rw [number_succ symbol done inside, written.closed, written.closed, written.below last _ (Nat.le_refl last)]
  next different => exact written.below place within (by omega)

theorem Written.fold (written : Written symbol done target 0 rows) {last : Nat} (within : last ≤ target.length) :
    Written symbol done target last
      (last.fold (fun place inside rows => rows.write place (by omega) (cost symbol target[place])) rows) := by
  induction last with
  | zero => exact written
  | succ last ih =>
    rw [Nat.fold_succ]
    exact (ih (Nat.le_of_succ_le within)).write within

theorem Written.close (written : Written symbol done target target.length rows) :
    Closed (symbol :: done) target rows.close := by
  intro place inside
  exact written.below place inside (Nat.le_of_lt_succ inside)

theorem Closed.advance (closed : Closed done target rows) (symbol : α) :
    Closed (symbol :: done) target (rows.advance target (symbol, done.length)) :=
  ((closed.start symbol).fold (Nat.le_refl _)).close

theorem Closed.foldl (closed : Closed done target rows) (source : List α) :
    Closed (source.reverse ++ done) target ((source.zipIdx done.length).foldl (Rows.advance target) rows) := by
  induction source generalizing done rows with
  | nil => exact closed
  | cons symbol source ih =>
    rw [List.zipIdx_cons, List.foldl_cons, List.reverse_cons, List.append_assoc]
    exact ih (closed.advance symbol)

end Rows

theorem editDistance_eq {α : Type} [DecidableEq α] (source target : List α) :
    editDistance source target = levenshtein source target := by
  have closed := (Rows.Closed.first target).foldl source
  rw [List.append_nil] at closed
  calc
    editDistance source target = Rows.number source.reverse target target.length := closed _ _
    _ = levenshtein source.reverse target.reverse := by rw [Rows.number, List.take_length]
    _ = levenshtein source target := levenshtein_reverse source target

example : editDistance "saturday".toList "sunday".toList = 3 := by decide +kernel

end PanelMenu.Text
