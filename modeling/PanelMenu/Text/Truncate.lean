/-! The longest beginning of a text that a number of columns can hold. The rule takes two measures:
one for whole texts, which decides whether anything is cut, and one for single characters, which
decides where. -/

namespace PanelMenu.Text

/-- Characters from the front while their widths, `used` columns gone already, stay within
`columns`. -/
def fitting (charWidth : Char → Nat) (columns : Nat) : Nat → List Char → List Char
  | _, [] => []
  | used, c :: rest =>
    if used + charWidth c ≤ columns then
      c :: fitting charWidth columns (used + charWidth c) rest
    else []

def truncateBy (textWidth : List Char → Nat) (charWidth : Char → Nat) (text : List Char)
    (columns : Nat) : List Char :=
  if textWidth text ≤ columns then text else fitting charWidth columns 0 text

end PanelMenu.Text
