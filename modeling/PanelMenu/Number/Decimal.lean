/-! Natural numbers written in digits of a base. -/

namespace PanelMenu.Number

/-- The value of a digit, letters of either case standing for ten and up. -/
def digitValue (c : Char) : Nat :=
  if '0' ≤ c && c ≤ '9' then c.toNat - '0'.toNat
  else if 'a' ≤ c && c ≤ 'z' then c.toNat - 'a'.toNat + 10
  else if 'A' ≤ c && c ≤ 'Z' then c.toNat - 'A'.toNat + 10
  else 36

def isDigitOf (base : Nat) (c : Char) : Bool :=
  digitValue c < base

/-- The number that digits spell, most significant first. -/
def ofDigits (base : Nat) (digits : List Char) : Nat :=
  digits.foldl (fun total c => total * base + digitValue c) 0

/-- A non-empty run of digits and nothing else. -/
def natOf? (base : Nat) (text : List Char) : Option Nat :=
  if !text.isEmpty && text.all (isDigitOf base) then some (ofDigits base text) else none

/-- Digits with at most one plus sign before them. -/
def unsignedOf? (base : Nat) : List Char → Option Nat
  | '+' :: rest => natOf? base rest
  | text => natOf? base text

end PanelMenu.Number
