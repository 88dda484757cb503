import PanelMenu.Number.Decimal
import PanelMenu.Yaml.Fold
import PanelMenu.Yaml.Spot

/-! The ways to write a scalar: plain, between quotes, or as a block of lines. Each reader takes the
characters from the start of the scalar and answers its text and what follows it. -/

namespace PanelMenu.Yaml

/-- The characters that a backslash and a letter stand for. -/
def escaped? (c : Char) : Option Char :=
  match c with
  | '0' => some '\x00'
  | 'a' => some '\x07'
  | 'b' => some '\x08'
  | 't' | '\t' => some '\t'
  | 'n' => some '\n'
  | 'v' => some '\x0b'
  | 'f' => some '\x0c'
  | 'r' => some '\r'
  | 'e' => some '\x1b'
  | ' ' => some ' '
  | '"' => some '"'
  | '/' => some '/'
  | '\\' => some '\\'
  | 'N' => some '\u0085'
  | '_' => some '\u00a0'
  | 'L' => some lineSeparator
  | 'P' => some paragraphSeparator
  | _ => none

/-- How many digits follow a letter that names a character by its code point. -/
def codeLength? (c : Char) : Option Nat :=
  match c with
  | 'x' => some 2
  | 'u' => some 4
  | 'U' => some 8
  | _ => none

def charOfCode? (code : Nat) : Option Char :=
  if code < 0xD800 || (0xDFFF < code && code ≤ 0x10FFFF) then some (Char.ofNat code) else none

/-- A text between single quotes, the first one already read. Two quotes stand for one. -/
def readSingle (fold : Fold) : List Spot → Option (List Char × List Spot)
  | [] => none
  | spot :: rest =>
    if isBlank spot.char then readSingle (fold.blank spot.char) rest
    else if isBreak spot.char then readSingle (fold.newline spot.char) rest
    else if atAnyMarker (spot :: rest) then none
    else if spot.char == '\'' then
      match rest with
      | [] => some (fold.flush.settled, [])
      | next :: after =>
        if next.char == '\'' then readSingle (fold.add '\'') after
        else some (fold.flush.settled, next :: after)
    else readSingle (fold.add spot.char) rest

/-- A text between double quotes, the first one already read. While a code point is being read,
`code` holds the number of digits to come and their value so far. -/
def readDouble (code : Option (Nat × Nat)) (fold : Fold) :
    List Spot → Option (List Char × List Spot)
  | [] => none
  | spot :: rest =>
    match code with
    | some (left, value) =>
      if !Number.isDigitOf 16 spot.char then none
      else
        let value := value * 16 + Number.digitValue spot.char
        if left != 1 then readDouble (some (left - 1, value)) fold rest
        else match charOfCode? value with
          | some c => readDouble none (fold.add c) rest
          | none => none
    | none =>
      if isBlank spot.char then readDouble none (fold.blank spot.char) rest
      else if isBreak spot.char then readDouble none (fold.newline spot.char) rest
      else if atAnyMarker (spot :: rest) then none
      else if spot.char == '"' then some (fold.flush.settled, rest)
      else if spot.char == '\\' then
        match rest with
        | [] => none
        | next :: after =>
          if isBreak next.char then readDouble none fold.escapedBreak after
          else match escaped? next.char, codeLength? next.char with
            | some c, _ => readDouble none (fold.add c) after
            | none, some length => readDouble (some (length, 0)) fold.flush after
            | none, none => none
      else readDouble none (fold.add spot.char) rest

def isFlowIndicator (c : Char) : Bool :=
  c == ',' || c == '[' || c == ']' || c == '\x7b' || c == '\x7d'

/-- A colon in a flow collection must not run into an indicator. -/
def isColonClash (inFlow : Bool) (c : Char) (rest : List Spot) : Bool :=
  inFlow && c == ':' && match rest with
    | [] => false
    | next :: _ => isFlowIndicator next.char || next.char == '?'

/-- A plain scalar runs until something that means more than itself. The answer says, as the state
of the fold, whether lines have ended behind the scalar. -/
def readPlain (inFlow : Bool) (indent : Nat) (fold : Fold) : List Spot → Option (Fold × List Spot)
  | [] => some (fold, [])
  | spot :: rest =>
    let c := spot.char
    let column := spot.mark.column
    if isBlank c then
      if c == '\t' && fold.broken && column < indent then none
      else readPlain inFlow indent (fold.blank c) rest
    else if isBreak c then readPlain inFlow indent (fold.newline c) rest
    else if fold.isPending &&
        ((!inFlow && column < indent) || atAnyMarker (spot :: rest) || c == '#') then
      some (fold, spot :: rest)
    else if isColonClash inFlow c rest then none
    else if (c == ':' && atGap rest) || (inFlow && isFlowIndicator c) then some (fold, spot :: rest)
    else readPlain inFlow indent (fold.add c) rest

/-- What becomes of the line ends behind a block. -/
inductive Chomping
  | strip
  | clip
  | keep
  deriving DecidableEq, Repr

structure BlockHeader where
  chomping : Chomping := .clip
  /-- How far the block stands in, if it says so itself. -/
  increment : Option Nat := none
  deriving DecidableEq, Repr

def chomping? (c : Char) : Option Chomping :=
  if c == '+' then some .keep else if c == '-' then some .strip else none

/-- The two signs behind the bar or the angle of a block, in either order. Zero is no increment. -/
def readHeader (spots : List Spot) : Option (BlockHeader × List Spot) :=
  let chomping (spots : List Spot) : Option Chomping × List Spot :=
    match spots with
    | spot :: rest =>
      match chomping? spot.char with
      | some chomping => (some chomping, rest)
      | none => (none, spots)
    | [] => (none, [])
  let increment (spots : List Spot) : Option (Option Nat × List Spot) :=
    match spots with
    | spot :: rest =>
      if spot.char == '0' then none
      else if spot.char.isDigit then some (some (Number.digitValue spot.char), rest)
      else some (none, spots)
    | [] => some (none, [])
  let (before, spots) := chomping spots
  match increment spots with
  | none => none
  | some (increment, spots) =>
    let (after, spots) :=
      if before.isNone && increment.isSome then chomping spots else (none, spots)
    some (⟨(before.or after).getD .clip, increment⟩, spots)

/-- Line ends and the spaces of the indentation around them. As long as the indentation is not
known (`none`) all spaces belong to it. The answer holds the line ends, backwards, the widest run
of spaces, and what follows. -/
def readBlockBreaks (indent : Option Nat) (breaks : List Char) (widest : Nat) :
    List Spot → Option (List Char × Nat × List Spot)
  | [] => some (breaks, widest, [])
  | spot :: rest =>
    let column := spot.mark.column
    let inside := match indent with
      | none => true
      | some indent => column < indent
    if inside && spot.char == ' ' then readBlockBreaks indent breaks widest rest
    else if inside && spot.char == '\t' then none
    else
      let widest := max widest column
      if isBreak spot.char then readBlockBreaks indent (spot.char :: breaks) widest rest
      else some (breaks, widest, spot :: rest)

/-- A block while it is read, everything backwards: its text, the end of its last line, and the line
ends after that. -/
structure BlockState where
  text : List Char := []
  lineEnd : List Char := []
  more : List Char := []
  /-- Whether the last line started with a blank. Such lines are not folded. -/
  startedBlank : Bool := false

/-- The lines of a block, as long as they stand in. `fuel` bounds their number. -/
def readBlockLines (literal : Bool) (indent : Nat) : Nat → BlockState → List Spot →
    Option (BlockState × List Spot)
  | 0, state, spots => some (state, spots)
  | fuel + 1, state, spots =>
    match spots with
    | [] => some (state, [])
    | spot :: _ =>
      if spot.mark.column != indent then some (state, spots)
      else
        let startsBlank := isBlank spot.char
        let folds := !literal && state.lineEnd == ['\n'] && !state.startedBlank && !startsBlank
        let joint :=
          if !folds then state.more ++ state.lineEnd
          else if state.more.isEmpty then [' ']
          else state.more
        let line := (spots.takeWhile fun spot => !isBreak spot.char).map (·.char)
        let behind := spots.dropWhile fun spot => !isBreak spot.char
        let text := line.reverse ++ joint ++ state.text
        let lineEnd := (behind.take 1).map (·.char)
        match readBlockBreaks (some indent) [] 0 (behind.drop 1) with
        | none => none
        | some (more, _, rest) =>
          readBlockLines literal indent fuel
            { text := text, lineEnd := lineEnd, more := more, startedBlank := startsBlank } rest

/-- A block scalar, its bar or angle already read. `parent` is the indentation of the collection
that holds it. -/
def readBlock (literal : Bool) (parent : Int) (spots : List Spot) :
    Option (List Char × List Spot) := do
  let (header, spots) ← readHeader spots
  let spots := dropComment (dropBlanks spots)
  if !atLineEnd spots then none
  else
    let body := spots.drop 1
    let outer := (parent + 1).toNat
    let known := header.increment.map fun increment => parent.toNat + increment
    let (breaks, widest, rest) ← readBlockBreaks known [] 0 body
    let indent := known.getD (max (max widest outer) 1)
    let (state, rest) ←
      readBlockLines literal indent (rest.length + 1) { more := breaks } rest
    let behind := match header.chomping with
      | .strip => []
      | .clip => state.lineEnd
      | .keep => state.more ++ state.lineEnd
    return ((behind ++ state.text).reverse, rest)

end PanelMenu.Yaml
