import PanelMenu.Config.Settings
import PanelMenu.Text.Lines
import PanelMenu.Toml.Document

/-! Settings as documents. Every key may be left out; keys that mean nothing are collected and
have no other effect. -/

namespace PanelMenu

open Toml (Item Span Entries)

/-- An item and the bytes to blame it on: its own, or those of its key. -/
structure Setting where
  item : Item
  span : Span

/-- A value does not fit, or it is no way to name one of several choices. -/
inductive SettingFault
  | misfit (span : Span) (mismatch : Mismatch)
  | wrongShape
  deriving DecidableEq, Repr

/-- Reads settings and collects the keys that mean nothing. -/
abbrev SettingReader := StateT (Array String) (Except SettingFault)

namespace Setting

def ofEntry (entry : Toml.Key × Item) : Setting :=
  { item := entry.2, span := entry.2.span?.getD entry.1.span }

/-- The bytes of an item that has no key. -/
def ofItem (item : Item) : Setting :=
  { item := item, span := item.span?.getD ⟨0, 0⟩ }

/-- A date is kept as a table, and shows as one. -/
def found : Item → Found
  | .text _ value => .text value
  | .scalar _ (.boolean value) => .boolean value
  | .scalar _ (.integer value) => .integer value
  | .scalar _ (.float value) => .float value
  | .scalar _ .datetime => .map
  | .array _ _ => .sequence
  | .tables _ _ => .sequence
  | .table _ _ _ => .map

def reject {α : Type} (setting : Setting) (expected : String) : SettingReader α :=
  throw (.misfit setting.span (.invalidType (found setting.item) expected))

/-- A number from zero to below `bound`. -/
def natural (bound : Nat) (expected : String) (setting : Setting) : SettingReader Nat :=
  match setting.item with
  | .scalar _ (.integer value) =>
    if 0 ≤ value ∧ value < bound then return value.toNat
    else throw (.misfit setting.span (.invalidValue (.integer value) expected))
  | _ => setting.reject expected

def word (setting : Setting) : SettingReader UInt32 := do
  return UInt32.ofNat (← setting.natural UInt32.size "u32")

def path (setting : Setting) : SettingReader String :=
  match setting.item with
  | .text _ value => return value
  | _ => setting.reject "path string"

def boolean (setting : Setting) : SettingReader Bool :=
  match setting.item with
  | .scalar _ (.boolean value) => return value
  | _ => setting.reject "a boolean"

def verbosityNamed (span : Span) (name : String) : SettingReader Verbosity :=
  match Verbosity.ofName? name with
  | some verbosity => return verbosity
  | none => throw (.misfit span (.unknownVariant name (Verbosity.all.map Verbosity.name)))

/-- Whether there is nothing in an item that stands for a choice without further parts. -/
def isVoid : Item → Bool
  | .array _ items => items.isEmpty
  | .tables _ items => items.isEmpty
  | .table _ _ entries => entries.isEmpty
  | _ => false

/-- A verbosity by its name, which may also be a key of a table and hold nothing. Between braces it
must be the only key; of a table without braces the first key counts. -/
def verbosity (setting : Setting) : SettingReader Verbosity :=
  match setting.item with
  | .text _ name => verbosityNamed setting.span name
  | .table shape _ ((key, item) :: others) =>
    if !others.isEmpty && (shape == .braced || shape == .bracedDotted) then throw .wrongShape
    else do
      let verbosity ← verbosityNamed key.span key.text
      if isVoid item then return verbosity else throw .wrongShape
  | _ => throw .wrongShape

/-- What is told about a key that means nothing: the part behind its last dot. -/
def reported (key : String) : String :=
  String.ofList ((Text.pieces '.' key.toList).getLastD [])

/-- The key under which a date is kept. -/
def datetimeKey : String := "$__toml_private_datetime"

/-- A record with the given fields, from a table or, in their order, from an array. What the array
has too much is ignored. -/
def record {F S : Type} (fields : List (String × F)) (read : S → F → Setting → SettingReader S)
    (expected : String) (start : S) (setting : Setting) : SettingReader S :=
  let readEntry (state : S) (entry : Toml.Key × Item) : SettingReader S :=
    match fields.lookup entry.1.text with
    | some field => read state field (ofEntry entry)
    | none => do
      modify (·.push (reported entry.1.text))
      return state
  let readItem (state : S) (part : F × Item) : SettingReader S :=
    read state part.1 (ofItem part.2)
  match setting.item with
  | .table _ _ entries => entries.foldlM readEntry start
  | .array _ items | .tables _ items => ((fields.map (·.2)).zip items).foldlM readItem start
  | .scalar _ .datetime => do
    modify (·.push datetimeKey)
    return start
  | _ => setting.reject expected

end Setting

inductive DisplayField
  | width
  | height
  | viewport
  | lineHeight
  | glyphWidth
  | glyphHeight
  | output
  | enabled
  deriving DecidableEq, Repr

def DisplaySettings.fields : List (String × DisplayField) :=
  [("width", .width), ("height", .height), ("viewport", .viewport), ("line_height", .lineHeight),
    ("glyph_width", .glyphWidth), ("glyph_height", .glyphHeight), ("output", .output),
    ("enabled", .enabled)]

def DisplaySettings.read (settings : DisplaySettings) (field : DisplayField) (setting : Setting) :
    SettingReader DisplaySettings := do
  match field with
  | .width => return { settings with width := ← setting.word }
  | .height => return { settings with height := ← setting.word }
  | .viewport => return { settings with viewport := ← setting.natural UInt64.size "usize" }
  | .lineHeight => return { settings with lineHeight := ← setting.word }
  | .glyphWidth => return { settings with glyphWidth := ← setting.word }
  | .glyphHeight => return { settings with glyphHeight := ← setting.word }
  | .output => return { settings with output := ← setting.path }
  | .enabled => return { settings with enabled := ← setting.boolean }

inductive OutputField
  | verbosity
  | console
  deriving DecidableEq, Repr

def OutputSettings.fields : List (String × OutputField) :=
  [("verbosity", .verbosity), ("console", .console)]

def OutputSettings.read (settings : OutputSettings) (field : OutputField) (setting : Setting) :
    SettingReader OutputSettings := do
  match field with
  | .verbosity => return { settings with verbosity := ← setting.verbosity }
  | .console => return { settings with console := ← setting.boolean }

namespace Settings

inductive Field
  | display
  | output
  deriving DecidableEq, Repr

def fields : List (String × Field) :=
  [("display", .display), ("output", .output)]

def read (settings : Settings) (field : Field) (setting : Setting) : SettingReader Settings := do
  match field with
  | .display =>
    let display ←
      setting.record DisplaySettings.fields DisplaySettings.read "struct DisplayConfig" {}
    return { settings with display := display }
  | .output =>
    let output ← setting.record OutputSettings.fields OutputSettings.read "struct OutputConfig" {}
    return { settings with output := output }

/-- The settings that a document makes, and the keys in it that mean nothing. -/
def ofEntries (entries : Entries) : Except SettingFault (Settings × Array String) :=
  let document : Setting := { item := .table .headed none entries, span := ⟨0, 0⟩ }
  (document.record fields read "struct Config" {}).run #[]

/-- Reads settings from a text. -/
def ofText (text : String) : Except Toml.Fault (Settings × Array String) :=
  match Toml.read? text.toList with
  | none => .error .malformed
  | some entries =>
    match ofEntries entries with
    | .ok result => .ok result
    | .error .wrongShape => .error .wrongShape
    | .error (.misfit span mismatch) =>
      .error (.misfit mismatch (Toml.Excerpt.ofSpan text.toList span))

end Settings
end PanelMenu
