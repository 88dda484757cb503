import PanelMenu.Toml.Item

/-! How tables grow. A key is defined once; a table may be entered again only by what lies below it,
and dotted keys stay away from tables that have headers. -/

namespace PanelMenu.Toml

namespace Entries

def item? (entries : Entries) (name : String) : Option Item :=
  (List.find? (fun (key, _) => key.text == name) entries).map (·.2)

/-- Puts an item in the place of the one with the same name. -/
def replace (entries : Entries) (name : String) (item : Item) : Entries :=
  entries.map fun (key, old) => if key.text == name then (key, item) else (key, old)

def remove (entries : Entries) (name : String) : Entries :=
  entries.filter (·.1.text != name)

/-- A new entry goes behind the others. It must not be there yet. -/
def define? (entries : Entries) (key : Key) (item : Item) : Option Entries :=
  if (entries.item? key.text).isSome then none else some (entries ++ [(key, item)])

/-- Changes the table at the end of a path of headers and makes the tables on the way. A list of
tables stands for its last one. -/
def descend {α : Type} (change : Entries → Option (α × Entries)) :
    List Key → Entries → Option (α × Entries)
  | [], entries => change entries
  | key :: rest, entries => do
    match entries.item? key.text with
    | none =>
      let (result, inner) ← descend change rest []
      return (result, entries ++ [(key, .table .implied none inner)])
    | some (.table .braced _ _) | some (.table .bracedDotted _ _) => none
    | some (.table shape span inner) =>
      let (result, inner) ← descend change rest inner
      return (result, entries.replace key.text (.table shape span inner))
    | some (.tables span items) =>
      match items.getLast? with
      | some (.table shape last inner) =>
        let (result, inner) ← descend change rest inner
        let items := items.dropLast ++ [.table shape last inner]
        return (result, entries.replace key.text (.tables span items))
      | _ => none
    | some _ => none

/-- Defines a key behind a path of dotted keys. Tables on the way that are there already were made
in the same way, which is `shape`, or lie on the way to a header; the one that gets the key was
made in the same way. -/
def assign? (shape : Shape) (key : Key) (item : Item) : List Key → Entries → Option Entries
  | [], entries => entries.define? key item
  | step :: rest, entries =>
    match entries.item? step.text with
    | none => do
      let inner ← assign? shape key item rest []
      return entries ++ [(step, .table shape none inner)]
    | some (.table old span inner) =>
      if old == shape || (shape == .dotted && old == .implied && !rest.isEmpty) then do
        let inner ← assign? shape key item rest inner
        return entries.replace step.text (.table old span inner)
      else none
    | some (.tables span items) =>
      match items.getLast? with
      | some (.table old last inner) =>
        if rest.isEmpty then none
        else do
          let inner ← assign? shape key item rest inner
          let items := items.dropLast ++ [.table old last inner]
          return entries.replace step.text (.tables span items)
      | _ => none
    | some _ => none

end Entries
end PanelMenu.Toml
