/-! Line folding: blanks around a line end vanish, a single line end becomes a space, and of several
line ends the first vanishes. -/

namespace PanelMenu.Yaml

/-- The text so far, backwards, and what may still vanish: blanks, or once a line has ended
(`broken`) its line end and the further ones, backwards. -/
structure Fold where
  text : List Char := []
  blanks : List Char := []
  broken : Bool := false
  lineEnd : List Char := []
  more : List Char := []
  deriving DecidableEq, Repr

namespace Fold

def isPending (fold : Fold) : Bool :=
  fold.broken || !fold.blanks.isEmpty

def blank (fold : Fold) (c : Char) : Fold :=
  if fold.broken then fold else { fold with blanks := c :: fold.blanks }

def newline (fold : Fold) (c : Char) : Fold :=
  if fold.broken then { fold with more := c :: fold.more }
  else { fold with blanks := [], broken := true, lineEnd := [c] }

/-- What is left of a gap in the text, backwards. -/
def gap (fold : Fold) : List Char :=
  if !fold.broken then fold.blanks
  else if fold.lineEnd != ['\n'] then fold.more ++ fold.lineEnd
  else if fold.more.isEmpty then [' ']
  else fold.more

/-- Settles the gap, because something follows. -/
def flush (fold : Fold) : Fold :=
  { text := fold.gap ++ fold.text }

def add (fold : Fold) (c : Char) : Fold :=
  { text := c :: (fold.gap ++ fold.text) }

/-- A line end that was taken back. Blanks after it still vanish. -/
def escapedBreak (fold : Fold) : Fold :=
  { fold.flush with broken := true }

/-- The text without a gap at its end. -/
def settled (fold : Fold) : List Char :=
  fold.text.reverse

end Fold
end PanelMenu.Yaml
