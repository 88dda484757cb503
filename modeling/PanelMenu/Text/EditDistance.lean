/-! How many single insertions, deletions and replacements lead from one list to another. The numbers
stand in a table that has a row for every beginning of the source and a column for every beginning of
the target. Two of its rows are kept, and written over again and again. -/

namespace PanelMenu.Text

/-- A row of the table, and the one below it as far as it is written. What stands behind that is left
from earlier rows. -/
structure Rows (columns : Nat) where
  above : Vector Nat (columns + 1)
  below : Vector Nat (columns + 1)
  deriving DecidableEq, Repr

namespace Rows

/-- The first row: from nothing to the beginnings of the target. -/
def first (columns : Nat) : Rows columns where
  above := Vector.range (columns + 1)
  below := Vector.replicate (columns + 1) 0

section
variable {columns : Nat} (rows : Rows columns)

/-- Writes the first number of the row below. -/
def start (number : Nat) : Rows columns :=
  { rows with below := rows.below.set 0 number }

/-- Writes the number behind `place`, from its neighbours above, to the left and between them. `cost`
is that of one symbol in the place of another. -/
def write (place : Nat) (inside : place < columns) (cost : Nat) : Rows columns :=
  let number :=
    min (min (rows.above[place + 1] + 1) (rows.below[place] + 1)) (rows.above[place] + cost)
  { rows with below := rows.below.set (place + 1) number }

/-- Takes the row below for the one above. It stays where it is, too. -/
def close : Rows columns :=
  { rows with above := rows.below }

end

/-- What one symbol costs in the place of another. -/
def cost {α : Type} [DecidableEq α] (symbol target : α) : Nat :=
  if symbol = target then 0 else 1

/-- A whole row, for a symbol of the source and its index. -/
def advance {α : Type} [DecidableEq α] (target : List α) (rows : Rows target.length)
    (symbol : α × Nat) : Rows target.length :=
  let writeAt place inside (rows : Rows target.length) :=
    rows.write place inside (cost symbol.1 target[place])
  (target.length.fold writeAt (rows.start (symbol.2 + 1))).close

end Rows

/-- The last number of the last row. -/
def editDistance {α : Type} [DecidableEq α] (source target : List α) : Nat :=
  (source.zipIdx.foldl (Rows.advance target) (Rows.first target.length)).above[target.length]

end PanelMenu.Text
