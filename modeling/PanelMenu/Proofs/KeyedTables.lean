import Mathlib.Data.List.Nodup
import PanelMenu.Proofs.WrittenKeys

/-! The keys of a document. No table that is read has a key twice, and every key stands in the text where its span
says. Both hold of all tables at any depth, because tables grow by one key at a time. -/

namespace PanelMenu.Toml

/-- No table in an item has a key twice, and all keys are good. -/
inductive Item.Keyed (Good : Key → Prop) : Item → Prop where
  | text {span value} : Keyed Good (.text span value)
  | scalar {span value} : Keyed Good (.scalar span value)
  | array {span items} (each : ∀ item ∈ items, Keyed Good item) : Keyed Good (.array span items)
  | tables {span items} (each : ∀ item ∈ items, Keyed Good item) : Keyed Good (.tables span items)
  | table {shape span entries} (distinct : (entries.map (·.1.text)).Nodup) (good : ∀ entry ∈ entries, Good entry.1)
      (each : ∀ entry ∈ entries, Keyed Good entry.2) : Keyed Good (.table shape span entries)

structure Entries.Keyed (Good : Key → Prop) (entries : Entries) : Prop where
  distinct : (entries.map (·.1.text)).Nodup
  good : ∀ entry ∈ entries, Good entry.1
  each : ∀ entry ∈ entries, entry.2.Keyed Good

section Tables
variable {Good : Key → Prop} {entries : Entries} {key : Key} {item : Item} {name : String}

theorem Entries.Keyed.table (keyed : entries.Keyed Good) (shape : Shape) (span : Option Span) :
    Item.Keyed Good (.table shape span entries) :=
  .table keyed.distinct keyed.good keyed.each

theorem Item.Keyed.of_table {shape : Shape} {span : Option Span} (keyed : Item.Keyed Good (.table shape span entries)) :
    entries.Keyed Good := by
  cases keyed with
  | table distinct good each => exact ⟨distinct, good, each⟩

theorem Item.Keyed.of_tables {span : Option Span} {items : List Item} (keyed : Item.Keyed Good (.tables span items)) :
    ∀ item ∈ items, item.Keyed Good := by
  cases keyed with
  | tables each => exact each

theorem Item.Keyed.last {span : Option Span} {items : List Item} (keyed : Item.Keyed Good (.tables span items))
    (inner : item.Keyed Good) : Item.Keyed Good (.tables span (items.dropLast ++ [item])) := by
  have others : ∀ item ∈ items.dropLast, item.Keyed Good := fun other member =>
    keyed.of_tables other ((List.dropLast_sublist items).subset member)
  exact .tables (List.forall_mem_append.mpr ⟨others, List.forall_mem_singleton.mpr inner⟩)

namespace Entries

theorem item?_eq_none_iff : entries.item? name = none ↔ ∀ entry ∈ entries, entry.1.text ≠ name := by
  simp [item?]

theorem mem_of_item? (found : entries.item? name = some item) : ∃ key, (key, item) ∈ entries ∧ key.text = name := by
  obtain ⟨⟨key, _⟩, chosen, rfl⟩ := Option.map_eq_some_iff.mp found
  exact ⟨key, List.mem_of_find?_eq_some chosen, by simpa using List.find?_some chosen⟩

theorem Keyed.nil : Keyed Good [] :=
  ⟨List.nodup_nil, nofun, nofun⟩

theorem Keyed.of_item? (keyed : entries.Keyed Good) (found : entries.item? name = some item) : item.Keyed Good := by
  obtain ⟨key, member, _⟩ := mem_of_item? found
  exact keyed.each _ member

theorem Keyed.concat (keyed : entries.Keyed Good) (fresh : entries.item? key.text = none) (good : Good key)
    (inner : item.Keyed Good) : Keyed Good (entries ++ [(key, item)]) := by
  refine ⟨?_, ?_, ?_⟩
  · rw [List.map_append, List.nodup_append]
    refine ⟨keyed.distinct, List.nodup_singleton _, ?_⟩
    rintro _ member _ last rfl
    obtain ⟨entry, inside, same⟩ := List.mem_map.mp member
    exact item?_eq_none_iff.mp fresh entry inside (same.trans (List.mem_singleton.mp last))
  · exact List.forall_mem_append.mpr ⟨keyed.good, List.forall_mem_singleton.mpr good⟩
  · exact List.forall_mem_append.mpr ⟨keyed.each, List.forall_mem_singleton.mpr inner⟩

theorem map_key_replace (entries : Entries) (name : String) (item : Item) :
    (entries.replace name item).map (·.1) = entries.map (·.1) := by
  rw [replace, List.map_map]
  apply List.map_congr_left
  intro entry _
  dsimp only [Function.comp]
  split <;> rfl

theorem Keyed.replace (keyed : entries.Keyed Good) (inner : item.Keyed Good) :
    Keyed Good (entries.replace name item) := by
  have keys := map_key_replace entries name item
  refine ⟨?_, ?_, ?_⟩
  · have names := congrArg (List.map (·.text)) keys
    rw [List.map_map, List.map_map] at names
    exact names ▸ keyed.distinct
  · intro entry member
    have listed : entry.1 ∈ entries.map (·.1) := keys ▸ List.mem_map_of_mem member
    obtain ⟨old, inside, same⟩ := List.mem_map.mp listed
    exact same ▸ keyed.good old inside
  · intro entry member
    obtain ⟨⟨key, old⟩, inside, rfl⟩ := List.mem_map.mp member
    dsimp only
    split
    · exact inner
    · exact keyed.each _ inside

theorem Keyed.remove (keyed : entries.Keyed Good) (name : String) : Keyed Good (entries.remove name) := by
  have fewer : (entries.remove name).Sublist entries := List.filter_sublist
  exact ⟨keyed.distinct.sublist (fewer.map _), fun entry member => keyed.good entry (fewer.subset member),
    fun entry member => keyed.each entry (fewer.subset member)⟩

/-- The result of a change of entries is good, and so are the entries afterwards. -/
def Keeps {α : Type} (Good : Key → Prop) (Result : α → Prop) (change : Entries → Option (α × Entries)) : Prop :=
  ∀ {before result after}, Keyed Good before → change before = some (result, after) → Result result ∧ after.Keyed Good

theorem Keeps.descend {α : Type} {change : Entries → Option (α × Entries)} {Result : α → Prop}
    (keeps : Keeps Good Result change) {path : List Key} (steps : ∀ step ∈ path, Good step) :
    Keeps Good Result (Entries.descend change path) := by
  intro entries result after keyed ok
  induction path generalizing entries result after with
  | nil => exact keeps keyed ok
  | cons step rest ih =>
    obtain ⟨good, steps⟩ := List.forall_mem_cons.mp steps
    rw [Entries.descend] at ok
    split at ok
    next fresh =>
      obtain ⟨⟨_, inner⟩, changed, same⟩ := Option.bind_eq_some_iff.mp ok
      obtain ⟨rfl, rfl⟩ := Prod.mk.inj (Option.some.inj same)
      obtain ⟨done, within⟩ := ih steps Keyed.nil changed
      exact ⟨done, keyed.concat fresh good (within.table _ _)⟩
    next => cases ok
    next => cases ok
    next found =>
      obtain ⟨⟨_, inner⟩, changed, same⟩ := Option.bind_eq_some_iff.mp ok
      obtain ⟨rfl, rfl⟩ := Prod.mk.inj (Option.some.inj same)
      obtain ⟨done, within⟩ := ih steps (keyed.of_item? found).of_table changed
      exact ⟨done, keyed.replace (within.table _ _)⟩
    next items found =>
      have list := keyed.of_item? found
      split at ok
      next final =>
        obtain ⟨⟨_, inner⟩, changed, same⟩ := Option.bind_eq_some_iff.mp ok
        obtain ⟨rfl, rfl⟩ := Prod.mk.inj (Option.some.inj same)
        have last := list.of_tables _ (List.mem_of_getLast? final)
        obtain ⟨done, within⟩ := ih steps last.of_table changed
        exact ⟨done, keyed.replace (list.last (within.table _ _))⟩
      next => cases ok
    next => cases ok

theorem Keyed.assign? {shape : Shape} {path : List Key} (steps : ∀ step ∈ path, Good step) (good : Good key)
    (inner : item.Keyed Good) (keyed : entries.Keyed Good) {after : Entries}
    (ok : entries.assign? shape key item path = some after) : after.Keyed Good := by
  induction path generalizing entries after with
  | nil =>
    rw [Entries.assign?, Entries.define?] at ok
    split at ok
    next => cases ok
    next fresh =>
      obtain rfl := Option.some.inj ok
      exact keyed.concat (by simpa using fresh) good inner
  | cons step rest ih =>
    obtain ⟨first, steps⟩ := List.forall_mem_cons.mp steps
    rw [Entries.assign?] at ok
    split at ok
    next fresh =>
      obtain ⟨below, changed, same⟩ := Option.bind_eq_some_iff.mp ok
      obtain rfl := Option.some.inj same
      exact keyed.concat fresh first ((ih steps Keyed.nil changed).table _ _)
    next found =>
      split at ok
      next =>
        obtain ⟨below, changed, same⟩ := Option.bind_eq_some_iff.mp ok
        obtain rfl := Option.some.inj same
        exact keyed.replace ((ih steps (keyed.of_item? found).of_table changed).table _ _)
      next => cases ok
    next found =>
      have list := keyed.of_item? found
      split at ok
      next final =>
        split at ok
        next => cases ok
        next =>
          obtain ⟨below, changed, same⟩ := Option.bind_eq_some_iff.mp ok
          obtain rfl := Option.some.inj same
          have last := list.of_tables _ (List.mem_of_getLast? final)
          exact keyed.replace (list.last ((ih steps last.of_table changed).table _ _))
      next => cases ok
    next => cases ok

end Entries
end Tables

namespace Draft
open Entries (Keeps)

/-- What has been read of a document so far has good keys. -/
structure Keyed (Good : Key → Prop) (draft : Draft) : Prop where
  root : draft.root.Keyed Good
  current : draft.current.Keyed Good
  heading : ∀ heading ∈ draft.heading, (∀ step ∈ heading.path, Good step) ∧ Good heading.key

section Steps
variable {Good : Key → Prop} {draft next : Draft} {heading : Heading} {key : Key} {item : Item}

theorem keeps_place (good : Good heading.key) (inner : item.Keyed Good) :
    Keeps Good (fun _ => True) (place heading item) := by
  intro before _ after keyed ok
  refine ⟨trivial, ?_⟩
  rw [place] at ok
  split at ok
  next found =>
    split at ok
    next =>
      obtain ⟨_, rfl⟩ := Prod.mk.inj (Option.some.inj ok)
      have items := (keyed.of_item? found).of_tables
      exact keyed.replace (.tables (List.forall_mem_append.mpr ⟨items, List.forall_mem_singleton.mpr inner⟩))
    next => cases ok
  next => cases ok
  next fresh =>
    split at ok
    next => cases ok
    next =>
      obtain ⟨_, rfl⟩ := Prod.mk.inj (Option.some.inj ok)
      exact keyed.concat fresh good inner

theorem keeps_reopen (name : String) : Keeps Good (Entries.Keyed Good) (reopen name) := by
  intro before _ after keyed ok
  rw [reopen] at ok
  split at ok
  next =>
    obtain ⟨rfl, rfl⟩ := Prod.mk.inj (Option.some.inj ok)
    exact ⟨.nil, keyed⟩
  next found =>
    obtain ⟨rfl, rfl⟩ := Prod.mk.inj (Option.some.inj ok)
    exact ⟨(keyed.of_item? found).of_table, keyed.remove name⟩
  next => cases ok

theorem keeps_openList (good : Good key) : Keeps Good (Entries.Keyed Good) (openList key) := by
  intro before _ after keyed ok
  rw [openList] at ok
  split at ok
  next fresh =>
    obtain ⟨rfl, rfl⟩ := Prod.mk.inj (Option.some.inj ok)
    exact ⟨.nil, keyed.concat fresh good (.tables nofun)⟩
  next =>
    obtain ⟨rfl, rfl⟩ := Prod.mk.inj (Option.some.inj ok)
    exact ⟨.nil, keyed⟩
  next => cases ok

theorem Keyed.close (keyed : draft.Keyed Good) {root : Entries} (ok : draft.close = some root) : root.Keyed Good := by
  rw [Draft.close] at ok
  split at ok
  next =>
    obtain rfl := Option.some.inj ok
    exact keyed.current
  next heading opened =>
    obtain ⟨⟨_, after⟩, placed, same⟩ := Option.bind_eq_some_iff.mp ok
    obtain rfl := Option.some.inj same
    obtain ⟨steps, good⟩ := keyed.heading heading opened
    exact (Keeps.descend (keeps_place good (keyed.current.table _ _)) steps keyed.root placed).2

theorem Keyed.open? (keyed : draft.Keyed Good) (steps : ∀ step ∈ heading.path, Good step) (good : Good heading.key)
    (ok : draft.open? heading = some next) : next.Keyed Good := by
  obtain ⟨root, closed, ok⟩ := Option.bind_eq_some_iff.mp ok
  obtain ⟨⟨current, after⟩, opened, same⟩ := Option.bind_eq_some_iff.mp ok
  obtain rfl := Option.some.inj same
  have change : Keeps Good (Entries.Keyed Good)
      (if heading.inList then openList heading.key else reopen heading.key.text) := by
    split
    · exact keeps_openList good
    · exact keeps_reopen _
  obtain ⟨inside, outside⟩ := Keeps.descend change steps (keyed.close closed) opened
  exact ⟨outside, inside, fun _ same => Option.some.inj same ▸ ⟨steps, good⟩⟩

theorem Keyed.add? (keyed : draft.Keyed Good) {path : List Key} (steps : ∀ step ∈ path, Good step) (good : Good key)
    (inner : item.Keyed Good) (ok : draft.add? path key item = some next) : next.Keyed Good := by
  obtain ⟨current, assigned, same⟩ := Option.bind_eq_some_iff.mp ok
  obtain rfl := Option.some.inj same
  refine ⟨keyed.root, keyed.current.assign? steps good inner assigned, ?_⟩
  intro heading longer
  obtain ⟨old, opened, rfl⟩ := Option.map_eq_some_iff.mp longer
  exact keyed.heading old opened

end Steps
end Draft

section Reading
variable {finish : Nat} {all text rest : Letters}

/-- What a reader finds in a part of the whole text has keys that are written there, and it leaves an end of its
part. -/
def Finds {α : Type} (all : Letters) (Found : α → Prop) (read : Letters → Option (α × Letters)) : Prop :=
  ∀ {text found rest}, text <:+ all → read text = some (found, rest) → Found found ∧ rest <:+ text

abbrev Written (finish : Nat) (all : Letters) : Key → Prop :=
  (·.WrittenIn finish all)

theorem finds_flat : Finds all (Item.Keyed (Written finish all)) (readFlat finish) := by
  intro text item rest _ ok
  rw [readFlat] at ok
  split at ok
  next =>
    obtain ⟨⟨value, _⟩, read, same⟩ := Option.map_eq_some_iff.mp ok
    obtain ⟨rfl, rfl⟩ := Prod.mk.inj same
    exact ⟨.text, readText_suffix read⟩
  next =>
    obtain ⟨⟨value, _⟩, read, same⟩ := Option.map_eq_some_iff.mp ok
    obtain ⟨rfl, rfl⟩ := Prod.mk.inj same
    exact ⟨.scalar, readScalar_suffix read⟩

section Nested
variable {readInner : Letters → Option (Item × Letters)}
  (inner : Finds all (Item.Keyed (Written finish all)) readInner)
include inner

theorem readAssignment_finds (within : text <:+ all) {path : List Key} {key : Key} {item : Item}
    (ok : readAssignment readInner finish text = some (((path, key), item), rest)) :
    (∀ step ∈ path, step.WrittenIn finish all) ∧ key.WrittenIn finish all ∧ item.Keyed (Written finish all) ∧
      rest <:+ text := by
  obtain ⟨⟨⟨_, _⟩, behind⟩, read, ok⟩ := Option.bind_eq_some_iff.mp ok
  obtain ⟨steps, written, left⟩ := readKey_written within read
  dsimp only at ok
  split at ok
  next =>
    obtain ⟨⟨_, _⟩, value, same⟩ := Option.bind_eq_some_iff.mp ok
    obtain ⟨parts, rfl⟩ := Prod.mk.inj (Option.some.inj same)
    obtain ⟨keys, rfl⟩ := Prod.mk.inj parts
    obtain ⟨rfl, rfl⟩ := Prod.mk.inj keys
    have start := (dropBlanks_suffix _).trans ((List.drop_suffix 1 behind).trans left)
    obtain ⟨keyed, after⟩ := inner (start.trans within) value
    exact ⟨steps, written, keyed, after.trans start⟩
  next => cases ok

theorem finds_items (fuel : Nat) :
    Finds all (fun items => ∀ item ∈ items, item.Keyed (Written finish all)) (readItems readInner fuel) := by
  intro text items rest within ok
  induction fuel generalizing text items with
  | zero => cases ok
  | succ fuel ih =>
    have start := dropGap_suffix false text
    rw [readItems] at ok
    dsimp only at ok
    split at ok
    next =>
      obtain ⟨rfl, rfl⟩ := Prod.mk.inj (Option.some.inj ok)
      exact ⟨nofun, (List.drop_suffix 1 _).trans start⟩
    next =>
      obtain ⟨⟨item, behind⟩, read, ok⟩ := Option.bind_eq_some_iff.mp ok
      obtain ⟨keyed, after⟩ := inner (start.trans within) read
      have left := (List.drop_suffix 1 _).trans ((dropGap_suffix false behind).trans (after.trans start))
      dsimp only at ok
      split at ok
      next =>
        obtain ⟨⟨others, _⟩, later, same⟩ := Option.bind_eq_some_iff.mp ok
        obtain ⟨rfl, rfl⟩ := Prod.mk.inj (Option.some.inj same)
        obtain ⟨each, suffix⟩ := ih (left.trans within) later
        exact ⟨List.forall_mem_cons.mpr ⟨keyed, each⟩, suffix.trans left⟩
      next =>
        split at ok
        next =>
          obtain ⟨rfl, rfl⟩ := Prod.mk.inj (Option.some.inj ok)
          exact ⟨List.forall_mem_singleton.mpr keyed, left⟩
        next => cases ok

theorem readBraced_finds {fuel : Nat} {before after : Entries} (within : text <:+ all)
    (keyed : before.Keyed (Written finish all))
    (ok : readBraced readInner finish fuel before text = some (after, rest)) :
    after.Keyed (Written finish all) ∧ rest <:+ text := by
  induction fuel generalizing before text with
  | zero => cases ok
  | succ fuel ih =>
    obtain ⟨⟨⟨⟨_, _⟩, _⟩, behind⟩, read, ok⟩ := Option.bind_eq_some_iff.mp ok
    obtain ⟨steps, written, value, left⟩ := readAssignment_finds inner within read
    obtain ⟨entries, assigned, ok⟩ := Option.bind_eq_some_iff.mp ok
    have grown := keyed.assign? steps written value assigned
    have left := (List.drop_suffix 1 _).trans ((dropBlanks_suffix behind).trans left)
    dsimp only at ok
    split at ok
    next =>
      obtain ⟨done, suffix⟩ := ih (left.trans within) grown ok
      exact ⟨done, suffix.trans left⟩
    next =>
      split at ok
      next =>
        obtain ⟨rfl, rfl⟩ := Prod.mk.inj (Option.some.inj ok)
        exact ⟨grown, left⟩
      next => cases ok

end Nested

theorem finds_item (depth : Nat) : Finds all (Item.Keyed (Written finish all)) (readItem finish depth) := by
  induction depth with
  | zero => exact finds_flat
  | succ depth ih =>
    intro text item rest within ok
    have start := (List.drop_suffix 1 text)
    rw [readItem] at ok
    split at ok
    next =>
      obtain ⟨⟨items, _⟩, read, same⟩ := Option.map_eq_some_iff.mp ok
      obtain ⟨rfl, rfl⟩ := Prod.mk.inj same
      obtain ⟨each, suffix⟩ := finds_items ih _ (start.trans within) read
      exact ⟨.array each, suffix.trans start⟩
    split at ok
    next =>
      obtain ⟨⟨entries, _⟩, read, same⟩ := Option.map_eq_some_iff.mp ok
      obtain ⟨rfl, rfl⟩ := Prod.mk.inj same
      have body := (dropBlanks_suffix (text.drop 1)).trans start
      split at read
      next =>
        obtain ⟨rfl, rfl⟩ := Prod.mk.inj (Option.some.inj read)
        exact ⟨Entries.Keyed.nil.table _ _, (List.drop_suffix 1 _).trans body⟩
      next =>
        obtain ⟨keyed, suffix⟩ := readBraced_finds ih (body.trans within) .nil read
        exact ⟨keyed.table _ _, suffix.trans body⟩
    next => exact finds_flat within ok

theorem readHeading_written {heading : Heading} (within : text <:+ all)
    (ok : readHeading finish text = some (heading, rest)) :
    (∀ step ∈ heading.path, step.WrittenIn finish all) ∧ heading.key.WrittenIn finish all ∧ rest <:+ text := by
  rw [readHeading] at ok
  generalize (if startsWith '[' (text.drop 1) = true then 2 else 1) = brackets at ok
  obtain ⟨⟨⟨path, key⟩, behind⟩, read, ok⟩ := Option.bind_eq_some_iff.mp ok
  have start := List.drop_suffix brackets text
  obtain ⟨steps, written, left⟩ := readKey_written (start.trans within) read
  dsimp only at ok
  split at ok
  next => cases ok
  next =>
    obtain ⟨_, trailing, same⟩ := Option.bind_eq_some_iff.mp ok
    obtain ⟨rfl, rfl⟩ := Prod.mk.inj (Option.some.inj same)
    exact ⟨steps, written,
      (dropTrailing?_suffix trailing).trans ((List.drop_suffix _ _).trans (left.trans start))⟩

theorem readLines_keyed {fuel : Nat} {draft last : Draft} (within : text <:+ all)
    (keyed : draft.Keyed (Written finish all)) (ok : readLines finish fuel draft text = some last) :
    last.Keyed (Written finish all) := by
  induction fuel generalizing draft text with
  | zero => cases ok
  | succ fuel ih =>
    have start := (dropBlanks_suffix text).trans within
    rw [readLines] at ok
    dsimp only at ok
    split at ok
    next =>
      obtain rfl := Option.some.inj ok
      exact keyed
    split at ok
    next =>
      obtain ⟨rest, dropped, ok⟩ := Option.bind_eq_some_iff.mp ok
      have left := (dropLineEnd?_suffix dropped).trans (dropComment_suffix _)
      exact ih (left.trans start) keyed ok
    split at ok
    next =>
      obtain ⟨⟨heading, rest⟩, read, ok⟩ := Option.bind_eq_some_iff.mp ok
      obtain ⟨steps, written, left⟩ := readHeading_written start read
      obtain ⟨draft, opened, ok⟩ := Option.bind_eq_some_iff.mp ok
      exact ih (left.trans start) (keyed.open? steps written opened) ok
    split at ok
    next =>
      obtain ⟨rest, dropped, ok⟩ := Option.bind_eq_some_iff.mp ok
      exact ih ((dropNewline?_suffix dropped).trans start) keyed ok
    next =>
      obtain ⟨⟨⟨⟨_, _⟩, _⟩, behind⟩, read, ok⟩ := Option.bind_eq_some_iff.mp ok
      obtain ⟨steps, written, value, left⟩ := readAssignment_finds (finds_item _) start read
      obtain ⟨rest, trailing, ok⟩ := Option.bind_eq_some_iff.mp ok
      obtain ⟨draft, added, ok⟩ := Option.bind_eq_some_iff.mp ok
      have left := (dropTrailing?_suffix trailing).trans left
      exact ih (left.trans start) (keyed.add? steps written value added) ok

end Reading

/-- In a document that was read, no table has a key twice, and every key is written where its span says. -/
theorem read?_keyed {content : List Char} {entries : Entries} (ok : read? content = some entries) :
    entries.Keyed (Written (String.ofList content).utf8ByteSize (letters content)) := by
  obtain ⟨draft, read, closed⟩ := Option.bind_eq_some_iff.mp ok
  have body : (if startsWith '\ufeff' (letters content) then (letters content).drop 1 else letters content) <:+
      letters content := by
    split
    · exact List.drop_suffix 1 _
    · exact List.suffix_refl _
  have blank : Draft.Keyed (Written (String.ofList content).utf8ByteSize (letters content)) {} :=
    ⟨.nil, .nil, fun _ opened => absurd opened (Option.not_mem_none _)⟩
  exact (readLines_keyed body blank read).close closed

end PanelMenu.Toml
