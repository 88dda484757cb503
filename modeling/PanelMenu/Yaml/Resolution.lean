import PanelMenu.Decoding.Mismatch
import PanelMenu.Number.Fraction
import PanelMenu.Yaml.Node

/-! What a scalar stands for when it is not taken as text: nothing, a truth value, a number, or text
after all. -/

namespace PanelMenu.Yaml

open Number

def isNull (text : String) : Bool :=
  text == "null" || text == "Null" || text == "NULL" || text == "~"

def boolean? (text : String) : Option Bool :=
  if text == "true" || text == "True" || text == "TRUE" then some true
  else if text == "false" || text == "False" || text == "FALSE" then some false
  else none

/-- Digits with a zero in front are no number. -/
def isPadded (text : List Char) : Bool :=
  let digits := match text with
    | '-' :: rest | '+' :: rest => rest
    | _ => text
  1 < digits.length && digits.head? == some '0' && digits.all Char.isDigit

/-- Digits after the mark of their base, or decimal ones. -/
def magnitude? (text : List Char) : Option Nat :=
  match text with
  | '0' :: 'x' :: digits => natOf? 16 digits
  | '0' :: 'o' :: digits => natOf? 8 digits
  | '0' :: 'b' :: digits => natOf? 2 digits
  | digits => natOf? 10 digits

/-- The first natural number that takes more than 128 bits. -/
def wideLimit : Nat := UInt64.size * UInt64.size

/-- An integer of at most 128 bits. -/
def integer? (text : List Char) : Option Int :=
  if isPadded text then none
  else match text with
    | '-' :: rest =>
      match magnitude? rest with
      | some n => if n ≤ wideLimit / 2 then some (-(n : Int)) else none
      | none => none
    | '+' :: rest => (magnitude? rest).bind ofNat
    | rest => (magnitude? rest).bind ofNat
where
  ofNat (n : Nat) : Option Int :=
    if n < wideLimit then some (n : Int) else none

/-- A float that is finite or says itself that it is not. -/
def float? (text : List Char) : Option Binary64 :=
  let finite (value : Option Binary64) : Option Binary64 :=
    match value with
    | some (.finite negative mantissa exponent) => some (.finite negative mantissa exponent)
    | _ => none
  let isInfinity (text : List Char) : Bool :=
    [".inf", ".Inf", ".INF"].contains (String.ofList text)
  if [".nan", ".NaN", ".NAN"].contains (String.ofList text) then some .notANumber
  else match text with
    | '+' :: rest =>
      if isInfinity rest then some (.infinite false) else finite (fraction? false rest)
    | '-' :: rest =>
      if isInfinity rest then some (.infinite true) else finite (fraction? true rest)
    | rest => if isInfinity rest then some (.infinite false) else finite (fraction? false rest)

def Found.ofInteger (value : Int) : Found :=
  if Int64.minValue.toInt ≤ value && value < UInt64.size then .integer value else .wideInteger value

/-- A plain scalar without a tag. -/
def foundPlain (text : String) : Found :=
  if text == "" || isNull text then .unit
  else match boolean? text with
    | some value => .boolean value
    | none =>
      match integer? text.toList with
      | some value => Found.ofInteger value
      | none =>
        if isPadded text.toList then .text text
        else match float? text.toList with
          | some value => .float value
          | none => .text text

def standardTag (name : String) : String :=
  "tag:yaml.org,2002:" ++ name

/-- A tag that forces a kind of value on a text, which has to be written like one. -/
private def forced (text : String) (found : Option Found) (expected : String) :
    Except Mismatch Found :=
  match found with
  | some found => .ok found
  | none => .error (.invalidValue (.text text) expected)

/-- What a scalar turns out to be. -/
def found (tag : Option String) (text : String) (isPlain : Bool) : Except Mismatch Found :=
  match tag with
  | none => .ok (if isPlain then foundPlain text else .text text)
  | some tag =>
    if tag == standardTag "bool" then forced text ((boolean? text).map .boolean) "a boolean"
    else if tag == standardTag "int" then
      forced text ((integer? text.toList).map Found.ofInteger) "an integer"
    else if tag == standardTag "float" then forced text ((float? text.toList).map .float) "a float"
    else if tag == standardTag "null" then
      forced text (if isNull text then some .unit else none) "null"
    else if isPlain && tag.toList.head? == some '!' then .ok (foundPlain text)
    else .ok (.text text)

end PanelMenu.Yaml
