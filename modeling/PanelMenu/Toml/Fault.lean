import PanelMenu.Decoding.Mismatch

/-! Why a document does not hold what it should, with the place in the text marked. -/

namespace PanelMenu.Toml

/-- The line that holds the start of a span, and the bytes of the span to mark in it. Line and
column count from zero. -/
structure Excerpt where
  line : Nat
  column : Nat
  text : String
  marked : Nat
  deriving DecidableEq, Repr

/-- A shape is wrong when a value that names one of several choices is not written as one name. -/
inductive Fault
  | malformed
  | wrongShape
  | misfit (mismatch : Mismatch) (excerpt : Excerpt)
  deriving DecidableEq, Repr

def spaces (count : Nat) : String :=
  String.ofList (List.replicate count ' ')

/-- The line with a ruler of carets under it. -/
def Excerpt.message (excerpt : Excerpt) (what : String) : String :=
  let number := toString (excerpt.line + 1)
  let gutter := spaces number.length
  let carets := String.ofList (List.replicate (max excerpt.marked 1) '^')
  s!"TOML parse error at line {number}, column {excerpt.column + 1}\n" ++
    s!"{gutter} |\n{number} | {excerpt.text}\n" ++
    s!"{gutter} | {spaces excerpt.column}{carets}\n{what}\n"

def Fault.message : Fault → String
  | .malformed => "TOML parse error"
  | .wrongShape => "wanted one name"
  | .misfit mismatch excerpt => excerpt.message mismatch.message

end PanelMenu.Toml
