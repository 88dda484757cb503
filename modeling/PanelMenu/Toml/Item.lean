import PanelMenu.Toml.Letter
import PanelMenu.Toml.Scalar

/-! The contents of a document: values and tables with their places in the text. -/

namespace PanelMenu.Toml

structure Key where
  text : String
  span : Span
  deriving DecidableEq, Repr

/-- How a table came about, which decides what may still be added to it. -/
inductive Shape
  /-- Between braces. -/
  | braced
  /-- Under a header of its own. -/
  | headed
  /-- On the way to another header. -/
  | implied
  /-- On the way to a dotted key. -/
  | dotted
  /-- On the way to a dotted key between braces. -/
  | bracedDotted
  deriving DecidableEq, Repr

/-- Tables that nobody wrote down themselves have no span. A list of tables is written by headers in
double brackets, its last table last. -/
inductive Item
  | text (span : Span) (value : String)
  | scalar (span : Span) (value : Scalar)
  | array (span : Span) (items : List Item)
  | table (shape : Shape) (span : Option Span) (entries : List (Key × Item))
  | tables (span : Option Span) (items : List Item)
  deriving Repr, Inhabited

abbrev Entries := List (Key × Item)

mutual

def Item.decEq : (first second : Item) → Decidable (first = second)
  | .text span value, second =>
    match second with
    | .text span' value' =>
      decidable_of_decidable_of_iff (p := span = span' ∧ value = value') (by simp)
    | .scalar .. | .array .. | .table .. | .tables .. => isFalse nofun
  | .scalar span value, second =>
    match second with
    | .scalar span' value' =>
      decidable_of_decidable_of_iff (p := span = span' ∧ value = value') (by simp)
    | .text .. | .array .. | .table .. | .tables .. => isFalse nofun
  | .array span items, second =>
    match second with
    | .array span' items' =>
      have := Item.decEqAll items items'
      decidable_of_decidable_of_iff (p := span = span' ∧ items = items') (by simp)
    | .text .. | .scalar .. | .table .. | .tables .. => isFalse nofun
  | .table shape span entries, second =>
    match second with
    | .table shape' span' entries' =>
      have := Item.decEqEntries entries entries'
      decidable_of_decidable_of_iff (p := shape = shape' ∧ span = span' ∧ entries = entries')
        (by simp)
    | .text .. | .scalar .. | .array .. | .tables .. => isFalse nofun
  | .tables span items, second =>
    match second with
    | .tables span' items' =>
      have := Item.decEqAll items items'
      decidable_of_decidable_of_iff (p := span = span' ∧ items = items') (by simp)
    | .text .. | .scalar .. | .array .. | .table .. => isFalse nofun

def Item.decEqAll : (first second : List Item) → Decidable (first = second)
  | [], [] => isTrue rfl
  | [], _ :: _ | _ :: _, [] => isFalse nofun
  | item :: rest, item' :: rest' =>
    have := Item.decEq item item'
    have := Item.decEqAll rest rest'
    decidable_of_decidable_of_iff (p := item = item' ∧ rest = rest') (by simp)

def Item.decEqEntries : (first second : List (Key × Item)) → Decidable (first = second)
  | [], [] => isTrue rfl
  | [], _ :: _ | _ :: _, [] => isFalse nofun
  | (key, item) :: rest, (key', item') :: rest' =>
    have := Item.decEq item item'
    have := Item.decEqEntries rest rest'
    decidable_of_decidable_of_iff (p := key = key' ∧ item = item' ∧ rest = rest')
      (by simp [and_assoc])

end

instance : DecidableEq Item := Item.decEq

def Item.span? : Item → Option Span
  | text span _ => some span
  | scalar span _ => some span
  | array span _ => some span
  | table _ span _ => span
  | tables span _ => span

end PanelMenu.Toml
