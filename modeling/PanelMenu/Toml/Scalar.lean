import PanelMenu.Number.Fraction
import PanelMenu.Toml.Letter

/-! Values without quotes or brackets: truth values, numbers, dates and times. -/

namespace PanelMenu.Toml

open Number

inductive Scalar
  | boolean (value : Bool)
  | integer (value : Int)
  | float (value : Binary64)
  | datetime
  deriving DecidableEq, Repr

/-- Digits with single underscores between them, which are dropped. -/
def groupedDigits? (base : Nat) : List Char → Option (List Char)
  | [] => none
  | [c] => if isDigitOf base c then some [c] else none
  | c :: '_' :: rest =>
    if isDigitOf base c then (groupedDigits? base rest).map (c :: ·) else none
  | c :: rest => if isDigitOf base c then (groupedDigits? base rest).map (c :: ·) else none

/-- Decimal digits without a zero in front. -/
def wholeDigits? (text : List Char) : Option (List Char) :=
  match groupedDigits? 10 text with
  | some digits => if digits.head? == some '0' && 1 < digits.length then none else some digits
  | none => none

/-- A number of sixty-four bits with its sign. -/
def bounded? (value : Int) : Option Int :=
  if Int64.minValue.toInt ≤ value && value ≤ Int64.maxValue.toInt then some value else none

/-- An integer: decimal with a sign if need be, or with the mark of another base. -/
def integer? (text : List Char) : Option Int :=
  let based (base : Nat) (digits : List Char) : Option Int :=
    (groupedDigits? base digits).bind fun digits => bounded? (ofDigits base digits)
  match text with
  | '0' :: 'x' :: digits => based 16 digits
  | '0' :: 'o' :: digits => based 8 digits
  | '0' :: 'b' :: digits => based 2 digits
  | '-' :: digits => (wholeDigits? digits).bind fun digits => bounded? (-(ofDigits 10 digits : Int))
  | '+' :: digits => (wholeDigits? digits).bind fun digits => bounded? (ofDigits 10 digits)
  | digits => (wholeDigits? digits).bind fun digits => bounded? (ofDigits 10 digits)

/-- The exponent of a float, without its letter. -/
def powerOf? (text : List Char) : Option (List Char) :=
  match text with
  | '-' :: digits => (groupedDigits? 10 digits).map ('-' :: ·)
  | '+' :: digits => groupedDigits? 10 digits
  | digits => groupedDigits? 10 digits

/-- A float without its sign, with the underscores dropped. There have to be digits on both sides of
a point, and a point or an exponent. -/
def plainFloat? (text : List Char) : Option (List Char) := do
  let isPower (c : Char) : Bool := c == 'e' || c == 'E'
  let mantissa := text.takeWhile fun c => !isPower c
  let power ←
    match text.dropWhile fun c => !isPower c with
    | [] => some []
    | _ :: rest => (powerOf? rest).map ('e' :: ·)
  let whole := mantissa.takeWhile (· != '.')
  let places ←
    match mantissa.dropWhile (· != '.') with
    | [] => some []
    | _ :: rest => (groupedDigits? 10 rest).map ('.' :: ·)
  let digits ← wholeDigits? whole
  if power.isEmpty && places.isEmpty then none else some (digits ++ places ++ power)

/-- Floats too large for the type are refused, but only if they are positive. -/
def float? (text : List Char) : Option Binary64 :=
  let unsigned (negative : Bool) (text : List Char) : Option Binary64 :=
    if text == ['i', 'n', 'f'] then some (.infinite negative)
    else if text == ['n', 'a', 'n'] then some .notANumber
    else match (plainFloat? text).bind (fraction? negative) with
      | some (.infinite false) => none
      | value => value
  match text with
  | '-' :: rest => unsigned true rest
  | '+' :: rest => unsigned false rest
  | rest => unsigned false rest

def isLeapYear (year : Nat) : Bool :=
  year % 4 == 0 && (year % 100 != 0 || year % 400 == 0)

def daysIn (year month : Nat) : Nat :=
  if month == 2 then if isLeapYear year then 29 else 28
  else if month == 4 || month == 6 || month == 9 || month == 11 then 30
  else 31

/-- A number of exactly so many digits. -/
def fixed? (length : Nat) (text : List Char) : Option Nat :=
  if text.length == length then natOf? 10 text else none

/-- Year, month and day with dashes between them. -/
def isDate (text : List Char) : Bool :=
  match fixed? 4 (text.take 4), fixed? 2 ((text.drop 5).take 2), fixed? 2 (text.drop 8) with
  | some year, some month, some day =>
    text[4]? == some '-' && text[7]? == some '-' && 1 ≤ month && month ≤ 12 && 1 ≤ day &&
      day ≤ daysIn year month
  | _, _, _ => false

/-- Hour and minute with a colon between them. -/
def isClock (text : List Char) : Bool :=
  match fixed? 2 (text.take 2), fixed? 2 (text.drop 3) with
  | some hour, some minute => text[2]? == some ':' && hour ≤ 23 && minute ≤ 59
  | _, _ => false

/-- A part of a second: a point and digits, or nothing. -/
def isSecondFraction : List Char → Bool
  | [] => true
  | '.' :: digits => (natOf? 10 digits).isSome
  | _ => false

/-- Hour, minute and second, the latter up to a leap second and with a fraction if need be. -/
def isTime (text : List Char) : Bool :=
  isClock (text.take 5) && text[5]? == some ':' &&
    (match fixed? 2 ((text.drop 6).take 2) with
      | some second => second ≤ 60
      | none => false) &&
    isSecondFraction (text.drop 8)

/-- A time with the offset of its zone, if there is one. -/
def isZonedTime (text : List Char) : Bool :=
  let isSign (c : Char) : Bool := c == '+' || c == '-'
  let time := text.takeWhile fun c => c != 'Z' && c != 'z' && !isSign c
  isTime time && match text.drop time.length with
    | [] => true
    | sign :: clock => if isSign sign then isClock clock else clock.isEmpty

/-- A date, a time, or both with a letter between them. -/
def isDatetime (text : List Char) : Bool :=
  isTime text ||
    (isDate (text.take 10) && match text.drop 10 with
      | [] => true
      | mark :: time => (mark == 'T' || mark == 't') && isZonedTime time)

def scalar? (text : List Char) : Option Scalar :=
  if text == ['t', 'r', 'u', 'e'] then some (.boolean true)
  else if text == ['f', 'a', 'l', 's', 'e'] then some (.boolean false)
  else if isDatetime text then some .datetime
  else match integer? text, float? text with
    | some value, _ => some (.integer value)
    | none, some value => some (.float value)
    | none, none => none

/-- Characters of such values. -/
def isScalarChar (c : Char) : Bool :=
  c.isAlphanum || c == '+' || c == '-' || c == '_' || c == '.' || c == ':'

/-- A date may have a blank instead of the letter before its time. -/
def readScalar (text : Letters) : Option (Scalar × Letters) :=
  let word := (text.takeWhile fun letter => isScalarChar letter.char).map (·.char)
  let rest := text.drop word.length
  let behind := rest.drop 1
  let second := (behind.takeWhile fun letter => isScalarChar letter.char).map (·.char)
  let hasTime := isDate word && startsWith ' ' rest && (second.head?.map Char.isDigit).getD false
  if hasTime then
    if isZonedTime second then some (.datetime, behind.drop second.length) else none
  else (scalar? word).map fun scalar => (scalar, rest)

end PanelMenu.Toml
