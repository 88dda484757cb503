import PanelMenu.Toml.Table
import PanelMenu.Toml.Text

/-! Keys and values. Arrays may spread over lines; tables between braces stay on one. -/

namespace PanelMenu.Toml

/-- How long a dotted key and how deep a value may be, and a bit more. -/
def depthLimit : Nat := 80

def isBareKeyChar (c : Char) : Bool :=
  c.isAlphanum || c == '-' || c == '_'

/-- One part of a key, bare or between quotes on one line. -/
def readSimpleKey (finish : Nat) (text : Letters) : Option (Key × Letters) :=
  let placed (read : Option (String × Letters)) : Option (Key × Letters) :=
    read.map fun (name, rest) => (⟨name, offsetAt finish text, offsetAt finish rest⟩, rest)
  if startsWith '"' text then placed (readBasic none [] (text.drop 1))
  else if startsWith '\'' text then placed (readLiteral [] (text.drop 1))
  else
    let name := (text.takeWhile fun letter => isBareKeyChar letter.char).map (·.char)
    if name.isEmpty then none else placed (some (String.ofList name, text.drop name.length))

/-- Parts with dots between them, at most `fuel` of them, and blanks around each. -/
def readKeyParts (finish : Nat) : Nat → Letters → Option (List Key × Letters)
  | 0, _ => none
  | fuel + 1, text => do
    let (key, rest) ← readSimpleKey finish (dropBlanks text)
    let rest := dropBlanks rest
    if startsWith '.' rest then
      let (keys, rest) ← readKeyParts finish fuel (rest.drop 1)
      return (key :: keys, rest)
    else return ([key], rest)

/-- A key as the path that leads to it and its last part. -/
def readKey (finish : Nat) (text : Letters) : Option ((List Key × Key) × Letters) := do
  let (keys, rest) ← readKeyParts finish (depthLimit - 1) text
  let last ← keys.getLast?
  return ((keys.dropLast, last), rest)

/-- A key and what stands behind its equals sign. -/
def readAssignment (readItem : Letters → Option (Item × Letters)) (finish : Nat) (text : Letters) :
    Option (((List Key × Key) × Item) × Letters) := do
  let (key, rest) ← readKey finish text
  if startsWith '=' rest then
    let (item, rest) ← readItem (dropBlanks (rest.drop 1))
    return ((key, item), rest)
  else none

/-- The items of an array behind its bracket. A comma may follow the last one. -/
def readItems (readItem : Letters → Option (Item × Letters)) :
    Nat → Letters → Option (List Item × Letters)
  | 0, _ => none
  | fuel + 1, text => do
    let text := dropGap false text
    if startsWith ']' text then return ([], text.drop 1)
    else
      let (item, rest) ← readItem text
      let rest := dropGap false rest
      if startsWith ',' rest then
        let (items, rest) ← readItems readItem fuel (rest.drop 1)
        return (item :: items, rest)
      else if startsWith ']' rest then return ([item], rest.drop 1)
      else none

/-- The entries between braces, at least one. No comma follows the last one. -/
def readBraced (readItem : Letters → Option (Item × Letters)) (finish : Nat) :
    Nat → Entries → Letters → Option (Entries × Letters)
  | 0, _, _ => none
  | fuel + 1, entries, text => do
    let (((path, key), item), rest) ← readAssignment readItem finish text
    let entries ← entries.assign? .bracedDotted key item path
    let rest := dropBlanks rest
    if startsWith ',' rest then readBraced readItem finish fuel entries (rest.drop 1)
    else if startsWith '\x7d' rest then return (entries, rest.drop 1)
    else none

/-- A value that holds no other values. -/
def readFlat (finish : Nat) (text : Letters) : Option (Item × Letters) :=
  let span (rest : Letters) : Span := ⟨offsetAt finish text, offsetAt finish rest⟩
  if startsWith '"' text || startsWith '\'' text then
    (readText text).map fun (value, rest) => (.text (span rest) value, rest)
  else (readScalar text).map fun (value, rest) => (.scalar (span rest) value, rest)

/-- A value in which others are nested at most `depth` deep. -/
def readItem (finish : Nat) : Nat → Letters → Option (Item × Letters)
  | 0, text => readFlat finish text
  | depth + 1, text =>
    let inner := readItem finish depth
    let span (rest : Letters) : Span := ⟨offsetAt finish text, offsetAt finish rest⟩
    if startsWith '[' text then
      (readItems inner (text.length + 1) (text.drop 1)).map fun (items, rest) =>
        (.array (span rest) items, rest)
    else if startsWith '\x7b' text then
      let body := dropBlanks (text.drop 1)
      let entries :=
        if startsWith '\x7d' body then some ([], body.drop 1)
        else readBraced inner finish (text.length + 1) [] body
      entries.map fun (entries, rest) => (.table .braced (some (span rest)) entries, rest)
    else readFlat finish text

end PanelMenu.Toml
