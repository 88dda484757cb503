import PanelMenu.Error
import PanelMenu.Files.Basic
import PanelMenu.Menu.Spec
import PanelMenu.Yaml.Composition
import PanelMenu.Yaml.Resolution

/-! Menus as documents. An entry is a mapping with a name, up to three bindings and a sequence of
children; there must be no other key and no key twice. -/

namespace PanelMenu

open Yaml (Mark)

/-- Reads a part of a document. The state counts the aliases that were followed. -/
abbrev Decoder := StateT Nat (Except DocumentFault)

namespace Decoder

abbrev Path := List DocumentStep

def misfit {α : Type} (path : Path) (mark : Mark) (mismatch : Mismatch) : Decoder α :=
  throw (.misfit path mismatch mark)

/-- The node itself or the one that an alias stands for. No document is so rich that a hundred times
its weight in aliases would have to be followed. -/
def resolve (document : Yaml.Document) : Yaml.Node → Decoder Yaml.Node
  | .reference _ number => do
    let followed := (← get) + 1
    set followed
    if 100 * document.weight < followed then throw .tooManyAliases
    else match document.find? number with
      | some node => return node
      | none => throw .malformed
  | node => return node

/-- Complains about a node that is of the wrong kind. -/
def reject {α : Type} (path : Path) (expected : String) : Yaml.Node → Decoder α
  | .sequence mark _ => misfit path mark (.invalidType .sequence expected)
  | .mapping mark _ => misfit path mark (.invalidType .map expected)
  | .scalar mark tag text isPlain =>
    match Yaml.found tag text isPlain with
    | .ok found => misfit path mark (.invalidType found expected)
    | .error mismatch => misfit path mark mismatch
  | .nothing _ => throw .ended
  | .reference _ _ | .cut => throw .malformed

/-- Any scalar is a text, whatever else it could be. -/
def text (document : Yaml.Document) (expected : String) (path : Path) (node : Yaml.Node) :
    Decoder String := do
  match ← resolve document node with
  | .scalar _ _ text _ => return text
  | other => reject path expected other

/-- Whether a scalar says that there is nothing. -/
def isAbsent (tag : Option String) (text : String) (isPlain : Bool) : Except Mismatch Bool :=
  if !isPlain then .ok false
  else match tag with
    | none => .ok (text == "" || Yaml.isNull text)
    | some tag =>
      if tag != Yaml.standardTag "null" then .ok false
      else if Yaml.isNull text then .ok true
      else .error (.invalidValue (.text text) "null")

/-- A text or nothing. A misfit in saying so is blamed on the entry around it. -/
def binding (document : Yaml.Document) (entryPath : Path) (entryMark : Mark) (path : Path)
    (node : Yaml.Node) : Decoder (Option String) := do
  match ← resolve document node with
  | .scalar _ tag text isPlain =>
    match isAbsent tag text isPlain with
    | .ok true => return none
    | .ok false => return some text
    | .error mismatch => misfit entryPath entryMark mismatch
  | .nothing _ => return none
  | other => reject path "a string" other

/-- An empty plain scalar passes for an empty collection. -/
def isEmptyPlain : Yaml.Node → Bool
  | .scalar _ _ text isPlain => isPlain && text == ""
  | .nothing _ => true
  | _ => false

end Decoder

namespace MenuSpec

open Decoder

/-- The fields of an entry that have been read. -/
structure Draft where
  name : Option String := none
  enter : Option (Option String) := none
  exit : Option (Option String) := none
  action : Option (Option String) := none
  children : Option (List MenuSpec) := none

def Draft.has (draft : Draft) : Field → Bool
  | .name => draft.name.isSome
  | .binding .enter => draft.enter.isSome
  | .binding .exit => draft.exit.isSome
  | .binding .action => draft.action.isSome
  | .children => draft.children.isSome

def Draft.bind (draft : Draft) (name : Option String) : Hook → Draft
  | .enter => { draft with enter := some name }
  | .exit => { draft with exit := some name }
  | .action => { draft with action := some name }

/-- Only the name has to be there. -/
def Draft.finish? (draft : Draft) : Option MenuSpec :=
  draft.name.map fun name =>
    { label := name
      bindings := ⟨draft.enter.join, draft.exit.join, draft.action.join⟩
      children := draft.children.getD [] }

def readKey (document : Yaml.Document) (path : Path) (node : Yaml.Node) : Decoder Field := do
  let resolved ← resolve document node
  let key ← Decoder.text document "field identifier" path resolved
  match Field.ofKey? key with
  | some field => return field
  | none => misfit path resolved.mark (.unknownField key (Field.all.map Field.key))

/-- The step to the value of a key, which has no name if the key is an alias. -/
def stepOf : Yaml.Node → DocumentStep
  | .scalar _ _ text _ => .key text
  | _ => .unnamed

/-- The entries of a mapping, one by one. A key that comes twice is refused before its value. -/
def readEntries (document : Yaml.Document)
    (readChildren : Path → Yaml.Node → Decoder (List MenuSpec)) (path : Path) (mark : Mark) :
    Draft → List (Yaml.Node × Yaml.Node) → Decoder Draft
  | draft, [] => return draft
  | draft, (key, value) :: rest => do
    let field ← readKey document path key
    if draft.has field then misfit path mark (.duplicateField field.key)
    else
      let inner := path ++ [stepOf key]
      let draft ←
        match field with
        | .name => do
          let name ← Decoder.text document "a string" inner value
          pure { draft with name := some name }
        | .binding hook => do
          let name ← Decoder.binding document path mark inner value
          pure (draft.bind name hook)
        | .children => do
          let children ← readChildren inner value
          pure { draft with children := some children }
      readEntries document readChildren path mark draft rest

def finishDraft (path : Path) (mark : Mark) (draft : Draft) : Decoder MenuSpec :=
  match draft.finish? with
  | some spec => return spec
  | none => misfit path mark (.missingField Field.name.key)

/-- One entry of a menu. Without `readChildren` it is nested too deeply. -/
def readEntry (document : Yaml.Document)
    (readChildren : Option (Path → Yaml.Node → Decoder (List MenuSpec))) (path : Path)
    (node : Yaml.Node) : Decoder MenuSpec := do
  match ← resolve document node with
  | .mapping mark entries =>
    match readChildren with
    | none => throw .tooDeep
    | some readChildren =>
      finishDraft path mark (← readEntries document readChildren path mark {} entries)
  | other =>
    if isEmptyPlain other then finishDraft path other.mark {}
    else reject path "struct MenuSpec" other

def readItems (readItem : Path → Yaml.Node → Decoder MenuSpec) (path : Path) :
    Nat → List Yaml.Node → Decoder (List MenuSpec)
  | _, [] => return []
  | index, item :: rest => do
    let spec ← readItem (path ++ [.index index]) item
    let specs ← readItems readItem path (index + 1) rest
    return spec :: specs

/-- The children of an entry. Without `readItem` they are nested too deeply. -/
def readSequence (document : Yaml.Document)
    (readItem : Option (Path → Yaml.Node → Decoder MenuSpec)) (path : Path) (node : Yaml.Node) :
    Decoder (List MenuSpec) := do
  match ← resolve document node with
  | .sequence _ items =>
    match readItem with
    | none => throw .tooDeep
    | some readItem => readItems readItem path 0 items
  | other => if isEmptyPlain other then return [] else reject path "a sequence" other

/-- An entry with at most `depth` collections nested in it, itself included. -/
def readNested (document : Yaml.Document) : Nat → Path → Yaml.Node → Decoder MenuSpec
  | 0 => readEntry document none
  | 1 => readEntry document (some (readSequence document none))
  | depth + 2 =>
    readEntry document (some (readSequence document (some (readNested document depth))))

/-- How deep collections may be nested. -/
def maxDepth : Nat := 128

/-- The menu that a document holds. What is wrong with the part that can be read is reported before
the text is found to be broken behind it. -/
def ofDocument (document : Yaml.Document) : Except DocumentFault MenuSpec := do
  let (spec, _) ← (readNested document maxDepth [] document.root).run 0
  if !document.isWhole then .error .malformed
  else if !document.isLast then .error .severalDocuments
  else .ok spec

/-- Reads a menu from a text that came from `origin`. -/
def ofText (text origin : String) : Except MenuError MenuSpec :=
  (ofDocument (Yaml.Document.read text.toList)).mapError (.invalidMenu origin)

def load (files : Files) (path : String) : Except MenuError MenuSpec := do
  let text ← (files.readText path).mapError .files
  ofText text path

end MenuSpec
end PanelMenu
