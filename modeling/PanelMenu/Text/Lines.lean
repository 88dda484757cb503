/-! A text as its lines. A line feed ends a line and takes the carriage return before it along;
what follows the last line feed is a line only if it is not empty. -/

namespace PanelMenu.Text

/-- Drops the carriage return that stands right before a line feed. -/
def dropReturn (line : List Char) : List Char :=
  match line.getLast? with
  | some '\r' => line.dropLast
  | _ => line

/-- The lines of `text`, with `pending` holding the current one backwards. -/
def linesFrom (pending : List Char) : List Char → List (List Char)
  | [] => if pending.isEmpty then [] else [pending.reverse]
  | '\n' :: rest => dropReturn pending.reverse :: linesFrom [] rest
  | c :: rest => linesFrom (c :: pending) rest

def lines (text : List Char) : List (List Char) :=
  linesFrom [] text

/-- Whether `part` occurs in `text` without a gap. -/
def contains (text part : List Char) : Bool :=
  part.isPrefixOf text || match text with
    | [] => false
    | _ :: rest => contains rest part

/-- The pieces of `text` between the occurrences of `separator`. There is always one more piece
than there are separators. -/
def pieces (separator : Char) : List Char → List (List Char)
  | [] => [[]]
  | c :: rest =>
    if c = separator then [] :: pieces separator rest
    else match pieces separator rest with
      | [] => [[c]]
      | first :: others => (c :: first) :: others

end PanelMenu.Text
