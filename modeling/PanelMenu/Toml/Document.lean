import PanelMenu.Toml.Value

/-! Whole documents: entries, and headers that say to which table the entries after them belong. -/

namespace PanelMenu.Toml

/-- A header: the path to the table that holds the new one, its key, and the bytes of the header and
of the entries under it so far. -/
structure Heading where
  path : List Key
  key : Key
  span : Span
  /-- Double brackets put one more table into a list. -/
  inList : Bool
  deriving DecidableEq, Repr

/-- A document while it is read. The entries under the current header are not part of the root
yet. -/
structure Draft where
  root : Entries := []
  heading : Option Heading := none
  current : Entries := []
  deriving Repr

namespace Draft

/-- The bytes from the first table of a list to the last one. -/
def listSpan (items : List Item) : Option Span := do
  let first ← items.head?.bind (·.span?)
  let last ← items.getLast?.bind (·.span?)
  return ⟨first.start, last.stop⟩

/-- Puts the finished table into the one that holds it. -/
def place (heading : Heading) (table : Item) (entries : Entries) : Option (Unit × Entries) :=
  match entries.item? heading.key.text with
  | some (.tables _ items) =>
    if heading.inList then
      let items := items ++ [table]
      some ((), entries.replace heading.key.text (.tables (listSpan items) items))
    else none
  | some _ => none
  | none => if heading.inList then none else some ((), entries ++ [(heading.key, table)])

/-- Makes the entries under the current header part of the root. -/
def close (draft : Draft) : Option Entries := do
  match draft.heading with
  | none => some draft.current
  | some heading =>
    let table := Item.table .headed (some heading.span) draft.current
    let (_, root) ← draft.root.descend (place heading table) heading.path
    return root

/-- What a new table starts with: nothing, or what lay below it before it had a header. That table
is taken out and comes back behind its neighbours. -/
def reopen (name : String) (entries : Entries) : Option (Entries × Entries) :=
  match entries.item? name with
  | none => some ([], entries)
  | some (.table .implied _ inner) => some (inner, entries.remove name)
  | some _ => none

/-- Makes sure that there is a list of tables. -/
def openList (key : Key) (entries : Entries) : Option (Entries × Entries) :=
  match entries.item? key.text with
  | none => some ([], entries ++ [(key, .tables none [])])
  | some (.tables _ _) => some ([], entries)
  | some _ => none

def open? (draft : Draft) (heading : Heading) : Option Draft := do
  let root ← draft.close
  let change := if heading.inList then openList heading.key else reopen heading.key.text
  let (current, root) ← root.descend change heading.path
  return { root := root, heading := some heading, current := current }

/-- Adds an entry under the current header, whose bytes reach to the end of the value from then
on. -/
def add? (draft : Draft) (path : List Key) (key : Key) (item : Item) : Option Draft := do
  let current ← draft.current.assign? .dotted key item path
  let stop := (item.span?.map (·.stop)).getD 0
  let heading := draft.heading.map fun heading =>
    { heading with span := { heading.span with stop := stop } }
  return { draft with current := current, heading := heading }

end Draft

/-- A header in single or double brackets, and the end of its line. -/
def readHeading (finish : Nat) (text : Letters) : Option (Heading × Letters) := do
  let inList := startsWith '[' (text.drop 1)
  let brackets := if inList then 2 else 1
  let ((path, key), rest) ← readKey finish (text.drop brackets)
  let closing := (rest.take brackets).takeWhile fun letter => letter.char == ']'
  if closing.length != brackets then none
  else
    let rest := rest.drop brackets
    let after ← dropTrailing? rest
    return (⟨path, key, ⟨offsetAt finish text, offsetAt finish rest⟩, inList⟩, after)

/-- One line after the other, at most `fuel` of them. -/
def readLines (finish : Nat) : Nat → Draft → Letters → Option Draft
  | 0, _, _ => none
  | fuel + 1, draft, text => do
    let text := dropBlanks text
    if text.isEmpty then return draft
    else if startsWith '#' text then
      readLines finish fuel draft (← dropLineEnd? (dropComment text))
    else if startsWith '[' text then
      let (heading, rest) ← readHeading finish text
      readLines finish fuel (← draft.open? heading) rest
    else if startsWith '\n' text || startsWith '\r' text then
      readLines finish fuel draft (← dropNewline? text)
    else
      let readValue := readItem finish (depthLimit - 1)
      let (((path, key), item), rest) ← readAssignment readValue finish text
      let rest ← dropTrailing? rest
      readLines finish fuel (← draft.add? path key item) rest

/-- The entries of a document, in their order. A mark of the byte order in front is dropped. -/
def read? (text : List Char) : Option Entries := do
  let all := letters text
  let finish := (String.ofList text).utf8ByteSize
  let body := if startsWith '\ufeff' all then all.drop 1 else all
  let draft ← readLines finish (all.length + 2) {} body
  draft.close

end PanelMenu.Toml
