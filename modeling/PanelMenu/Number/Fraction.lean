import PanelMenu.Number.Binary64
import PanelMenu.Number.Decimal

/-! Decimal fractions as they are written: digits with a point among them, and a power of ten. -/

namespace PanelMenu.Number

/-- An exponent: a letter, a sign if need be, and digits. Nothing at all is the exponent zero. -/
def exponent? : List Char → Option Int
  | [] => some 0
  | e :: rest =>
    if e != 'e' && e != 'E' then none
    else match rest with
      | '-' :: digits => (natOf? 10 digits).map fun n => -(n : Int)
      | '+' :: digits => (natOf? 10 digits).map fun n => (n : Int)
      | digits => (natOf? 10 digits).map fun n => (n : Int)

/-- A fraction with digits before or behind its point, and no sign of its own. -/
def fraction? (negative : Bool) (text : List Char) : Option Binary64 :=
  let whole := text.takeWhile Char.isDigit
  let rest := text.dropWhile Char.isDigit
  let (places, rest) := match rest with
    | '.' :: behind => (behind.takeWhile Char.isDigit, behind.dropWhile Char.isDigit)
    | _ => ([], rest)
  if whole.isEmpty && places.isEmpty then none
  else match exponent? rest with
    | none => none
    | some exponent =>
      some (.ofDecimal negative (ofDigits 10 (whole ++ places)) (exponent - places.length))

end PanelMenu.Number
