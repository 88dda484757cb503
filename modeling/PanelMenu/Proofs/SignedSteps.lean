import Mathlib.Algebra.Group.Nat.Defs
import Mathlib.Algebra.Ring.Int.Defs
import PanelMenu.Proofs.NavigatorStep

/-! Steps in a circle on a machine that counts in signed words. As long as the number of places is a signed
word itself, no number on the way is out of range, and the machine arrives where plain arithmetic does. -/

namespace PanelMenu.Signed
open Navigator (rotated)
variable {width : Nat}

def ofNat? (width number : Nat) : Option (BitVec width) :=
  let word := BitVec.ofNat width number
  if word.toInt = number then some word else none

def add? (first second : BitVec width) : Option (BitVec width) :=
  if first.saddOverflow second then none else some (first + second)

def remainder (value count : BitVec width) : BitVec width :=
  let rest := value.srem count
  if rest.slt 0 then rest + count.abs else rest

/-- The place `delta` further among `count`, unless a number on the way there overflows. -/
def rotated? (width : Nat) (delta : Int) (selected count : Nat) : Option Nat := do
  let circle ← ofNat? width count
  let place ← ofNat? width selected
  let moved ← add? place (BitVec.ofInt width delta)
  return (remainder moved circle).toNat

private theorem toInt_ofNat_fits {number : Nat} (fits : number < 2 ^ (width - 1)) :
    (BitVec.ofNat width number).toInt = number := by
  cases width with
  | zero =>
    have none : number = 0 := by simpa using fits
    simp [none]
  | succ width =>
    have double : 2 ^ (width + 1) = 2 * 2 ^ width := Nat.pow_succ'
    have same : (BitVec.ofNat (width + 1) number).toNat = number := by
      rw [BitVec.toNat_ofNat, Nat.mod_eq_of_lt]
      rw [Nat.add_sub_cancel] at fits
      omega
    rw [BitVec.toInt_eq_toNat_of_lt, same]
    rw [Nat.add_sub_cancel] at fits
    omega

private theorem ofNat?_fits {number : Nat} (fits : number < 2 ^ (width - 1)) :
    ofNat? width number = some (BitVec.ofNat width number) :=
  if_pos (toInt_ofNat_fits fits)

private theorem tmod_raised (value : Int) {count : Int} (positive : 0 < count) :
    (if value.tmod count < 0 then value.tmod count + count else value.tmod count) = value % count := by
  have lower := Int.emod_nonneg value (Int.ne_of_gt positive)
  have upper := Int.emod_lt_of_pos value positive
  rw [Int.tmod_eq_emod]
  split <;> split <;> omega

theorem toInt_remainder (value : BitVec width) {count : BitVec width} (positive : 0 < count.toInt) :
    (remainder value count).toInt = value.toInt % count.toInt := by
  have upper := Int.emod_lt_of_pos value.toInt positive
  have lower := Int.emod_nonneg value.toInt (Int.ne_of_gt positive)
  have highest := count.toInt_lt
  have plain : count.abs = count := by
    rw [BitVec.abs_eq, BitVec.msb_eq_toInt, if_neg]
    simpa using Int.le_of_lt positive
  have raised := tmod_raised value.toInt positive
  rw [← BitVec.toInt_srem] at raised
  simp only [remainder, plain, BitVec.slt_iff_toInt_lt]
  rw [← raised]
  split at raised
  next negative =>
    rw [if_pos (by simpa using negative), if_pos negative, BitVec.toInt_add_of_not_saddOverflow]
    simp only [BitVec.saddOverflow, Bool.or_eq_true, decide_eq_true_eq]
    omega
  next nonnegative =>
    rw [if_neg (by simpa using nonnegative), if_neg nonnegative]

/-- One step down or up overflows nowhere and ends at the right place. -/
theorem rotated?_eq {delta : Int} {selected count : Nat} (unit : delta = 1 ∨ delta = -1)
    (inside : selected < count) (fits : count < 2 ^ (width - 1)) :
    rotated? width delta selected count = some (rotated delta selected count) := by
  have wide : 0 < width - 1 := by
    by_contra narrow
    obtain rfl : count = 0 := by simpa [Nat.eq_zero_of_not_pos narrow] using fits
    exact Nat.not_lt_zero _ inside
  have place := toInt_ofNat_fits (Nat.lt_trans inside fits)
  have circle := toInt_ofNat_fits fits
  have bound : (count : Int) < 2 ^ (width - 1) := by exact_mod_cast fits
  have step : (BitVec.ofInt width delta).toInt = delta := by
    apply BitVec.toInt_ofInt_eq_self (by omega)
    all_goals omega
  have contained : (BitVec.ofNat width selected).saddOverflow (BitVec.ofInt width delta) = false := by
    simp only [BitVec.saddOverflow, place, step, Bool.or_eq_false_iff, decide_eq_false_iff_not]
    omega
  have moved : (BitVec.ofNat width selected + BitVec.ofInt width delta).toInt = selected + delta := by
    rw [BitVec.toInt_add_of_not_saddOverflow (by simp [contained]), place, step]
  have positive : 0 < (BitVec.ofNat width count).toInt := by omega
  have arrived := toInt_remainder (BitVec.ofNat width selected + BitVec.ofInt width delta) positive
  rw [moved, circle] at arrived
  have natural : (remainder (BitVec.ofNat width selected + BitVec.ofInt width delta) (BitVec.ofNat width count)).toNat =
      rotated delta selected count := by
    rw [rotated, ← arrived, BitVec.toNat_toInt_of_msb]
    rw [BitVec.msb_eq_toInt, arrived, decide_eq_false_iff_not, Int.not_lt]
    exact Int.emod_nonneg _ (by omega)
  simp only [rotated?, ofNat?_fits fits, ofNat?_fits (Nat.lt_trans inside fits), add?, contained,
    Option.bind_eq_bind, Option.bind_some, Bool.false_eq_true, if_false, natural]
  rfl

end PanelMenu.Signed
