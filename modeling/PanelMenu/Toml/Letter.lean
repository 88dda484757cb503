import PanelMenu.Toml.Fault

/-! A text as characters with the bytes before each of them, and what may stand between the parts of
a document. -/

namespace PanelMenu.Toml

structure Letter where
  char : Char
  offset : Nat
  deriving DecidableEq, Repr

/-- Bytes of a text, the last one not included. -/
structure Span where
  start : Nat
  stop : Nat
  deriving DecidableEq, Repr

abbrev Letters := List Letter

def lettersFrom (offset : Nat) : List Char → Letters
  | [] => []
  | c :: rest => ⟨c, offset⟩ :: lettersFrom (offset + c.utf8Size) rest

def letters (text : List Char) : Letters :=
  lettersFrom 0 text

/-- The offset of the first letter. At the end of the text it is `finish`. -/
def offsetAt (finish : Nat) : Letters → Nat
  | [] => finish
  | letter :: _ => letter.offset

def startsWith (c : Char) : Letters → Bool
  | [] => false
  | letter :: _ => letter.char == c

def isBlank (c : Char) : Bool :=
  c == ' ' || c == '\t'

def dropBlanks (text : Letters) : Letters :=
  text.dropWhile fun letter => isBlank letter.char

/-- What follows a line end, if one comes first: a line feed, with or without a carriage return. -/
def dropNewline? : Letters → Option Letters
  | [] => none
  | first :: rest =>
    if first.char == '\n' then some rest
    else if first.char == '\r' && startsWith '\n' rest then some (rest.drop 1)
    else none

/-- What follows a line end or is the end of the text. -/
def dropLineEnd? (text : Letters) : Option Letters :=
  if text.isEmpty then some [] else dropNewline? text

/-- Characters that a comment can hold. -/
def isCommentChar (c : Char) : Bool :=
  c == '\t' || (' ' ≤ c && c.toNat != 0x7F)

/-- Drops a comment, if there is one, up to the end of its line. -/
def dropComment (text : Letters) : Letters :=
  if startsWith '#' text then text.dropWhile fun letter => isCommentChar letter.char else text

/-- What may stand behind an entry or a header on its line. -/
def dropTrailing? (text : Letters) : Option Letters :=
  dropLineEnd? (dropComment (dropBlanks text))

/-- Drops blanks, line ends and comments. `inComment` tells whether a comment has begun. -/
def dropGap (inComment : Bool) : Letters → Letters
  | [] => []
  | letter :: rest =>
    let c := letter.char
    if inComment && isCommentChar c then dropGap true rest
    else if isBlank c || c == '\n' then dropGap false rest
    else if c == '\r' && startsWith '\n' rest then dropGap false rest
    else if c == '#' then dropGap true rest
    else letter :: rest

/-- The excerpt of a text that shows a span of it. -/
def Excerpt.ofSpan (text : List Char) (span : Span) : Excerpt :=
  let all := letters text
  let before := all.takeWhile fun letter => letter.offset < span.start
  let onLine (letter : Letter) : Bool := letter.char != '\n'
  let left := before.reverse.takeWhile onLine
  let right := (all.drop before.length).takeWhile onLine
  let line := String.ofList ((left.reverse ++ right).map (·.char))
  { line := before.countP fun letter => letter.char == '\n'
    column := left.length
    text := line
    marked := min (span.stop - span.start) (line.utf8ByteSize - left.length) }

end PanelMenu.Toml
