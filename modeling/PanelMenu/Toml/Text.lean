import PanelMenu.Number.Decimal
import PanelMenu.Toml.Letter

/-! Texts between quotes, on one line or on several, with escapes or exactly as written. Each reader
starts behind the opening quotes. -/

namespace PanelMenu.Toml

/-- The characters that a backslash and a letter stand for. -/
def escaped? (c : Char) : Option Char :=
  match c with
  | 'b' => some '\x08'
  | 'f' => some '\x0c'
  | 'n' => some '\n'
  | 'r' => some '\r'
  | 't' => some '\t'
  | '"' => some '"'
  | '\\' => some '\\'
  | _ => none

/-- How many digits follow a letter that names a character by its code point. -/
def codeLength? (c : Char) : Option Nat :=
  if c == 'u' then some 4 else if c == 'U' then some 8 else none

def charOfCode? (code : Nat) : Option Char :=
  if code < 0xD800 || (0xDFFF < code && code ≤ 0x10FFFF) then some (Char.ofNat code) else none

/-- One more digit of a code point: the digits still to come and the value so far, or with the last
digit the character. -/
def addDigit (left value : Nat) (c : Char) : Option ((Nat × Nat) ⊕ Char) :=
  if !Number.isDigitOf 16 c then none
  else
    let value := value * 16 + Number.digitValue c
    if left != 1 then some (.inl (left - 1, value)) else (charOfCode? value).map .inr

/-- A text with escapes on one line. `code` holds the code point that is being read, and `text` what
was read before, backwards. -/
def readBasic (code : Option (Nat × Nat)) (text : List Char) : Letters → Option (String × Letters)
  | [] => none
  | letter :: rest =>
    let c := letter.char
    match code with
    | some (left, value) =>
      match addDigit left value c with
      | none => none
      | some (.inl code) => readBasic (some code) text rest
      | some (.inr c) => readBasic none (c :: text) rest
    | none =>
      if c == '"' then some (String.ofList text.reverse, rest)
      else if c == '\\' then
        match rest with
        | [] => none
        | next :: after =>
          match escaped? next.char, codeLength? next.char with
          | some c, _ => readBasic none (c :: text) after
          | none, some length => readBasic (some (length, 0)) text after
          | none, none => none
      else if isCommentChar c then readBasic none (c :: text) rest
      else none

/-- A text on one line exactly as written. -/
def readLiteral (text : List Char) : Letters → Option (String × Letters)
  | [] => none
  | letter :: rest =>
    if letter.char == '\'' then some (String.ofList text.reverse, rest)
    else if isCommentChar letter.char then readLiteral (letter.char :: text) rest
    else none

/-- How many quotes come first. -/
def quoteRun (quote : Char) (text : Letters) : Nat :=
  (text.takeWhile fun letter => letter.char == quote).length

/-- The end of a text on several lines. Up to two quotes before the closing three belong to it. -/
def closeLong (quote : Char) (text : List Char) (rest : Letters) : Option (String × Letters) :=
  let quotes := quoteRun quote rest
  if 5 < quotes then none
  else some (String.ofList (text.reverse ++ List.replicate (quotes - 3) quote), rest.drop quotes)

/-- What a text with escapes on several lines is in the middle of. -/
inductive LongState
  | ordinary
  /-- Behind a line end that was taken back: the gap at the start of the next lines vanishes. -/
  | trimming
  | code (left value : Nat)
  deriving DecidableEq, Repr

/-- Whether the next letter is part of a gap between lines. -/
def startsGap : Letters → Bool
  | [] => false
  | letter :: rest =>
    isBlank letter.char || letter.char == '\n' || (letter.char == '\r' && startsWith '\n' rest)

/-- A text with escapes on several lines. Line ends are read as line feeds. -/
def readLongBasic (state : LongState) (text : List Char) : Letters → Option (String × Letters)
  | [] => none
  | letter :: rest =>
    let c := letter.char
    match state with
    | .code left value =>
      match addDigit left value c with
      | none => none
      | some (.inl (left, value)) => readLongBasic (.code left value) text rest
      | some (.inr c) => readLongBasic .ordinary (c :: text) rest
    | .ordinary | .trimming =>
      if state == .trimming && startsGap (letter :: rest) then readLongBasic .trimming text rest
      else if c == '"' then
        if quoteRun '"' (letter :: rest) < 3 then readLongBasic .ordinary (c :: text) rest
        else closeLong '"' text (letter :: rest)
      else if c == '\\' then
        if (dropNewline? (dropBlanks rest)).isSome then readLongBasic .trimming text rest
        else match rest with
          | [] => none
          | next :: after =>
            match escaped? next.char, codeLength? next.char with
            | some c, _ => readLongBasic .ordinary (c :: text) after
            | none, some length => readLongBasic (.code length 0) text after
            | none, none => none
      else if c == '\r' && startsWith '\n' rest then readLongBasic .ordinary text rest
      else if c == '\n' || isCommentChar c then readLongBasic .ordinary (c :: text) rest
      else none

/-- A text on several lines exactly as written, except that line ends are read as line feeds. -/
def readLongLiteral (text : List Char) : Letters → Option (String × Letters)
  | [] => none
  | letter :: rest =>
    let c := letter.char
    if c == '\'' then
      if quoteRun '\'' (letter :: rest) < 3 then readLongLiteral (c :: text) rest
      else closeLong '\'' text (letter :: rest)
    else if c == '\r' && startsWith '\n' rest then readLongLiteral text rest
    else if c == '\n' || isCommentChar c then readLongLiteral (c :: text) rest
    else none

/-- Drops the line end right behind three opening quotes. -/
def dropFirstNewline (text : Letters) : Letters :=
  (dropNewline? text).getD text

/-- Any text, from its opening quotes on. -/
def readText (text : Letters) : Option (String × Letters) :=
  if startsWith '"' text then
    if 3 ≤ quoteRun '"' text then readLongBasic .ordinary [] (dropFirstNewline (text.drop 3))
    else readBasic none [] (text.drop 1)
  else if 3 ≤ quoteRun '\'' text then readLongLiteral [] (dropFirstNewline (text.drop 3))
  else readLiteral [] (text.drop 1)

end PanelMenu.Toml
