import PanelMenu.Yaml.Mark

/-! A text as characters with their places. All ways to end a line are read as one line feed; only
the two separators that Unicode made for the purpose stay what they are. -/

namespace PanelMenu.Yaml

structure Spot where
  char : Char
  mark : Mark
  deriving DecidableEq, Repr

def lineSeparator : Char := '\u2028'

def paragraphSeparator : Char := '\u2029'

def isBreak (c : Char) : Bool :=
  c == '\n' || c == '\r' || c == '\u0085' || c == lineSeparator || c == paragraphSeparator

def isBlank (c : Char) : Bool :=
  c == ' ' || c == '\t'

/-- Characters of names: of anchors, directives and tags. -/
def isWord (c : Char) : Bool :=
  c.isAlphanum || c == '_' || c == '-'

/-- Characters that a text may hold at all. -/
def isAllowed (c : Char) : Bool :=
  let code := c.toNat
  code == 0x09 || code == 0x0A || code == 0x0D || (0x20 ≤ code && code ≤ 0x7E) || code == 0x85 ||
    (0xA0 ≤ code && code ≤ 0xFFFD) || 0x10000 ≤ code

def Mark.next (mark : Mark) : Mark :=
  { mark with index := mark.index + 1, column := mark.column + 1 }

/-- The start of the next line, behind a line end of `width` characters. -/
def Mark.nextLine (mark : Mark) (width : Nat) : Mark :=
  { index := mark.index + width, line := mark.line + 1, column := 0 }

/-- A line end as it is read. -/
def readBreak (c : Char) : Char :=
  if c == lineSeparator || c == paragraphSeparator then c else '\n'

/-- The characters from `mark` on, and the place behind the last one. -/
def spotsFrom (mark : Mark) : List Char → List Spot × Mark
  | [] => ([], mark)
  | '\r' :: '\n' :: rest =>
    let (spots, finish) := spotsFrom (mark.nextLine 2) rest
    (⟨'\n', mark⟩ :: spots, finish)
  | c :: rest =>
    if isBreak c then
      let (spots, finish) := spotsFrom (mark.nextLine 1) rest
      (⟨readBreak c, mark⟩ :: spots, finish)
    else
      let (spots, finish) := spotsFrom mark.next rest
      (⟨c, mark⟩ :: spots, finish)

/-- Whether a blank, a line end or the end of the text comes first. -/
def atGap : List Spot → Bool
  | [] => true
  | spot :: _ => isBlank spot.char || isBreak spot.char

/-- Whether a line end or the end of the text comes first. -/
def atLineEnd : List Spot → Bool
  | [] => true
  | spot :: _ => isBreak spot.char

def startsWith (c : Char) : List Spot → Bool
  | [] => false
  | spot :: _ => spot.char == c

/-- Three dashes or three dots at the start of a line, standing alone. -/
def atMarker (c : Char) : List Spot → Bool
  | first :: second :: third :: rest =>
    first.mark.column == 0 && first.char == c && second.char == c && third.char == c && atGap rest
  | _ => false

def atAnyMarker (spots : List Spot) : Bool :=
  atMarker '-' spots || atMarker '.' spots

def dropBlanks (spots : List Spot) : List Spot :=
  spots.dropWhile fun spot => isBlank spot.char

/-- Drops a comment, if there is one, up to the end of its line. -/
def dropComment (spots : List Spot) : List Spot :=
  if startsWith '#' spots then spots.dropWhile fun spot => !isBreak spot.char else spots

end PanelMenu.Yaml
