import PanelMenu.Yaml.Mark

/-! The contents of a document: scalars, sequences and mappings, each with its place. -/

namespace PanelMenu.Yaml

/-- An empty text holds nothing, and a text that breaks off holds a cut where more was due. An alias
stands for the node whose number it gives. -/
inductive Node
  | nothing (mark : Mark)
  | scalar (mark : Mark) (tag : Option String) (text : String) (isPlain : Bool)
  | sequence (mark : Mark) (items : List Node)
  | mapping (mark : Mark) (entries : List (Node × Node))
  | reference (mark : Mark) (number : Nat)
  | cut
  deriving Repr, Inhabited

mutual

def Node.decEq : (first second : Node) → Decidable (first = second)
  | .nothing mark, second =>
    match second with
    | .nothing mark' => decidable_of_decidable_of_iff (p := mark = mark') (by simp)
    | .scalar .. | .sequence .. | .mapping .. | .reference .. | .cut => isFalse nofun
  | .scalar mark tag text isPlain, second =>
    match second with
    | .scalar mark' tag' text' isPlain' =>
      decidable_of_decidable_of_iff
        (p := mark = mark' ∧ tag = tag' ∧ text = text' ∧ isPlain = isPlain') (by simp)
    | .nothing _ | .sequence .. | .mapping .. | .reference .. | .cut => isFalse nofun
  | .sequence mark items, second =>
    match second with
    | .sequence mark' items' =>
      have := Node.decEqAll items items'
      decidable_of_decidable_of_iff (p := mark = mark' ∧ items = items') (by simp)
    | .nothing _ | .scalar .. | .mapping .. | .reference .. | .cut => isFalse nofun
  | .mapping mark entries, second =>
    match second with
    | .mapping mark' entries' =>
      have := Node.decEqEntries entries entries'
      decidable_of_decidable_of_iff (p := mark = mark' ∧ entries = entries') (by simp)
    | .nothing _ | .scalar .. | .sequence .. | .reference .. | .cut => isFalse nofun
  | .reference mark number, second =>
    match second with
    | .reference mark' number' =>
      decidable_of_decidable_of_iff (p := mark = mark' ∧ number = number') (by simp)
    | .nothing _ | .scalar .. | .sequence .. | .mapping .. | .cut => isFalse nofun
  | .cut, second =>
    match second with
    | .cut => isTrue rfl
    | .nothing _ | .scalar .. | .sequence .. | .mapping .. | .reference .. => isFalse nofun

def Node.decEqAll : (first second : List Node) → Decidable (first = second)
  | [], [] => isTrue rfl
  | [], _ :: _ | _ :: _, [] => isFalse nofun
  | node :: rest, node' :: rest' =>
    have := Node.decEq node node'
    have := Node.decEqAll rest rest'
    decidable_of_decidable_of_iff (p := node = node' ∧ rest = rest') (by simp)

def Node.decEqEntries : (first second : List (Node × Node)) → Decidable (first = second)
  | [], [] => isTrue rfl
  | [], _ :: _ | _ :: _, [] => isFalse nofun
  | (key, value) :: rest, (key', value') :: rest' =>
    have := Node.decEq key key'
    have := Node.decEq value value'
    have := Node.decEqEntries rest rest'
    decidable_of_decidable_of_iff (p := key = key' ∧ value = value' ∧ rest = rest')
      (by simp [and_assoc])

end

instance : DecidableEq Node := Node.decEq

def Node.mark : Node → Mark
  | nothing mark => mark
  | scalar mark _ _ _ => mark
  | sequence mark _ => mark
  | mapping mark _ => mark
  | reference mark _ => mark
  | cut => {}

/-- A document is its root and the nodes that have numbers. The later of two nodes with one number
counts. `weight` measures how much was written, which bounds how often aliases may be followed. -/
structure Document where
  root : Node
  numbered : List (Nat × Node) := []
  weight : Nat := 0
  /-- Whether the text was well formed up to the end of the document. -/
  isWhole : Bool
  /-- Whether the text ends with the document. -/
  isLast : Bool
  deriving DecidableEq, Repr

def Document.find? (document : Document) (number : Nat) : Option Node :=
  (document.numbered.reverse.find? (·.1 == number)).map (·.2)

end PanelMenu.Yaml
