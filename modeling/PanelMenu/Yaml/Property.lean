import PanelMenu.Number.Decimal
import PanelMenu.Yaml.Spot
import PanelMenu.Yaml.Token

/-! Anchors, aliases, tags and directives. -/

namespace PanelMenu.Yaml

/-- The characters that satisfy `p`, and what follows them. -/
def readRun (p : Char → Bool) (spots : List Spot) : List Char × List Spot :=
  ((spots.takeWhile fun spot => p spot.char).map (·.char), spots.dropWhile fun spot => p spot.char)

/-- What may follow the name of an anchor without a gap. -/
def endsName : List Spot → Bool
  | [] => true
  | spot :: _ =>
    let c := spot.char
    isBlank c || isBreak c || c == '?' || c == ':' || c == ',' || c == ']' || c == '\x7d' ||
      c == '%' || c == '@' || c == '\x60'

/-- The name behind the sign of an anchor or an alias. -/
def readName (spots : List Spot) : Option (String × List Spot) :=
  let (name, rest) := readRun isWord spots
  if name.isEmpty || !endsName rest then none else some (String.ofList name, rest)

def isTagChar (c : Char) : Bool :=
  isWord c || [';', '/', '?', ':', '@', '&', '=', '+', '$', '.', '%', '!', '~', '*', '\'', '(',
    ')'].contains c

def isVerbatimChar (c : Char) : Bool :=
  isTagChar c || c == ',' || c == '[' || c == ']'

/-- How many bytes a character takes whose first byte is the given one. -/
def encodedLength (byte : Nat) : Option Nat :=
  if byte < 0x80 then some 1
  else if byte / 0x20 == 0x6 then some 2
  else if byte / 0x10 == 0xE then some 3
  else if byte / 0x8 == 0x1E then some 4
  else none

/-- The payload of the first byte of a character. -/
def firstPayload (byte length : Nat) : Nat :=
  if length == 1 then byte else byte % (1 <<< (7 - length))

/-- Resolves escapes of bytes by a percent sign and two digits. `state` holds, within a character
of several bytes, how many are to come and its code so far. -/
def unescape (state : Option (Nat × Nat)) : List Char → Option (List Char)
  | [] => if state.isNone then some [] else none
  | '%' :: high :: low :: rest =>
    if !(Number.isDigitOf 16 high && Number.isDigitOf 16 low) then none
    else
      let byte := Number.digitValue high * 16 + Number.digitValue low
      match state with
      | none =>
        match encodedLength byte with
        | none => none
        | some 1 => (unescape none rest).map (Char.ofNat byte :: ·)
        | some length => unescape (some (length - 1, firstPayload byte length)) rest
      | some (left, code) =>
        if byte / 0x40 != 0x2 then none
        else
          let code := code * 0x40 + byte % 0x40
          if left == 1 then (unescape none rest).map (Char.ofNat code :: ·)
          else unescape (some (left - 1, code)) rest
  | c :: rest => if c == '%' || state.isSome then none else (unescape none rest).map (c :: ·)

/-- A tag's address. -/
def readAddress (p : Char → Bool) (spots : List Spot) : Option (String × List Spot) := do
  let (run, rest) := readRun p spots
  let text ← unescape none run
  return (String.ofList text, rest)

/-- An exclamation mark, a name, and a second exclamation mark if there is one. -/
def readHandle : List Spot → Option (String × List Spot)
  | [] => none
  | first :: rest =>
    if first.char != '!' then none
    else
      let (name, rest) := readRun isWord rest
      match rest with
      | [] => some (String.ofList ('!' :: name), [])
      | second :: after =>
        if second.char == '!' then some (String.ofList ('!' :: name ++ ['!']), after)
        else some (String.ofList ('!' :: name), rest)

/-- Whether a handle is closed by an exclamation mark of its own. -/
def isClosedHandle (handle : String) : Bool :=
  1 < handle.length && handle.toList.getLast? == some '!'

/-- The address between angles that stands for itself. -/
def readVerbatim (spots : List Spot) : Option (Token.Kind × List Spot) := do
  let (address, rest) ← readAddress isVerbatimChar spots
  if address.isEmpty || !startsWith '>' rest then none
  else return (.tag "" address, rest.drop 1)

/-- A tag with a handle. What looks like an open handle is the start of an address under the short
one; a lone exclamation mark is a tag of its own. -/
def readShorthand (spots : List Spot) : Option (Token.Kind × List Spot) := do
  let (handle, rest) ← readHandle spots
  let (address, rest) ← readAddress isTagChar rest
  if isClosedHandle handle then
    if address.isEmpty then none else return (.tag handle address, rest)
  else
    let address := String.ofList (handle.toList.drop 1) ++ address
    return (if address.isEmpty then .tag "" "!" else .tag "!" address, rest)

def readTag (inFlow : Bool) (spots : List Spot) : Option (Token.Kind × List Spot) := do
  let (kind, rest) ←
    if startsWith '<' (spots.drop 1) then readVerbatim (spots.drop 2) else readShorthand spots
  if atGap rest || (inFlow && startsWith ',' rest) then return (kind, rest) else none

/-- A number of at most nine digits. -/
def readNumber (spots : List Spot) : Option (Nat × List Spot) :=
  let (digits, rest) := readRun Char.isDigit spots
  if digits.isEmpty || 9 < digits.length then none else some (Number.ofDigits 10 digits, rest)

def readVersion (spots : List Spot) : Option (Token.Kind × List Spot) := do
  let (major, rest) ← readNumber (dropBlanks spots)
  if !startsWith '.' rest then none
  else
    let (minor, rest) ← readNumber (rest.drop 1)
    return (.version major minor, rest)

def readTagDirective (spots : List Spot) : Option (Token.Kind × List Spot) := do
  let (handle, rest) ← readHandle (dropBlanks spots)
  if !(isClosedHandle handle || handle == "!") || atLineEnd rest || !atGap rest then none
  else
    let (address, rest) ← readAddress isVerbatimChar (dropBlanks rest)
    if address.isEmpty || !atGap rest then none else return (.tagDirective handle address, rest)

/-- A directive, its percent sign already read, and the end of its line. -/
def readDirective (spots : List Spot) : Option (Token.Kind × List Spot) := do
  let (name, rest) := readRun isWord spots
  if !atGap rest then none
  else
    let (kind, rest) ←
      match String.ofList name with
      | "YAML" => readVersion rest
      | "TAG" => readTagDirective rest
      | _ => none
    let rest := dropComment (dropBlanks rest)
    if atLineEnd rest then return (kind, rest) else none

end PanelMenu.Yaml
