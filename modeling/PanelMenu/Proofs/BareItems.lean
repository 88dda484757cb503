import PanelMenu.Proofs.IgnoredKeys
import PanelMenu.Proofs.KeyedTables

/-! What items say, whatever the places where they stand, and what a record takes from it: the fields of its table
by their names, wherever the entries stand in the table. -/

namespace PanelMenu.Toml

/-- Tables between braces are told from the others, which all count the same. -/
def Shape.bare : Shape → Shape
  | braced | bracedDotted => braced
  | headed | implied | dotted => headed

mutual
def Item.bare : Item → Item
  | .text _ value => .text ⟨0, 0⟩ value
  | .scalar _ value => .scalar ⟨0, 0⟩ value
  | .array _ items => .array ⟨0, 0⟩ (bareItems items)
  | .table shape _ entries => .table shape.bare none (bareEntries entries)
  | .tables _ items => .tables none (bareItems items)

def Item.bareItems : List Item → List Item
  | [] => []
  | item :: rest => item.bare :: bareItems rest

def Item.bareEntries : List (Key × Item) → List (Key × Item)
  | [] => []
  | (key, item) :: rest => (⟨key.text, 0, 0⟩, item.bare) :: bareEntries rest
end

theorem Item.bareItems_eq (items : List Item) : bareItems items = items.map bare := by
  induction items with
  | nil => rfl
  | cons item rest ih => rw [bareItems, ih, List.map_cons]

theorem Item.bareEntries_eq (entries : Entries) :
    bareEntries entries = entries.map fun entry => (⟨entry.1.text, 0, 0⟩, entry.2.bare) := by
  induction entries with
  | nil => rfl
  | cons entry rest ih => rw [bareEntries, ih, List.map_cons]

namespace Entries
variable {entries : Entries} {name : String}

theorem item?_cons (entry : Key × Item) (entries : Entries) (name : String) :
    item? (entry :: entries) name = if entry.1.text = name then some entry.2 else entries.item? name := by
  rw [item?, List.find?_cons]
  by_cases same : entry.1.text = name
  · simp [same]
  · simp [beq_false_of_ne same, same, item?]

theorem item?_of_mem (distinct : (entries.map (·.1.text)).Nodup) {entry : Key × Item} (member : entry ∈ entries) :
    entries.item? entry.1.text = some entry.2 := by
  induction entries with
  | nil => cases member
  | cons first rest ih =>
    obtain ⟨fresh, distinct⟩ := List.nodup_cons.mp distinct
    rw [item?_cons]
    cases member with
    | head => rw [if_pos rfl]
    | tail _ member =>
      have other : first.1.text ≠ entry.1.text := fun same => fresh (List.mem_map.mpr ⟨entry, member, same.symm⟩)
      rw [if_neg other, ih distinct member]

theorem item?_remove {other : String} (different : other ≠ name) :
    (entries.remove name).item? other = entries.item? other := by
  rw [item?, item?, remove, List.find?_filter]
  congr 2
  funext entry
  by_cases same : entry.1.text = other
  · simp [same, different]
  · simp [same]

theorem remove_eq_self (absent : ∀ entry ∈ entries, entry.1.text ≠ name) : entries.remove name = entries :=
  List.filter_eq_self.mpr fun entry member => bne_iff_ne.mpr (absent entry member)

theorem flatMap_perm {α : Type} (distinct : (entries.map (·.1.text)).Nodup) (give : String → Item → List α)
    (name : String) : (entries.flatMap fun entry => give entry.1.text entry.2).Perm
      ((entries.item? name).elim [] (give name) ++
        (entries.remove name).flatMap fun entry => give entry.1.text entry.2) := by
  induction entries with
  | nil => exact .refl []
  | cons first rest ih =>
    obtain ⟨fresh, distinct⟩ := List.nodup_cons.mp distinct
    rw [item?_cons, remove, List.filter_cons]
    by_cases same : first.1.text = name
    · have others : remove rest name = rest := remove_eq_self fun entry member here =>
        fresh (List.mem_map.mpr ⟨entry, member, here.trans same.symm⟩)
      rw [remove] at others
      subst same
      simp [others]
    · have other : (first.1.text != name) = true := bne_iff_ne.mpr same
      rw [if_neg same, if_pos other, List.flatMap_cons, List.flatMap_cons]
      exact ((ih distinct).append_left _).trans (List.perm_append_comm_assoc _ _ _)

end Entries
end PanelMenu.Toml

namespace PanelMenu
open Toml (Item Entries)

namespace Setting
variable {F : Type}

theorem isVoid_bare (item : Item) : isVoid item.bare = isVoid item := by
  cases item with
  | text _ _ | scalar _ _ => rfl
  | array _ items | tables _ items => simp [Item.bare, isVoid, Item.bareItems_eq]
  | table _ _ entries => simp [Item.bare, isVoid, Item.bareEntries_eq]

theorem Kind.denotes_bare (kind : Kind) (item : Item) (value : kind.Value) :
    kind.Denotes item.bare value ↔ kind.Denotes item value := by
  cases kind with
  | word | size | path | flag =>
    match item with
    | .scalar _ (.boolean _) | .scalar _ (.integer _) | .scalar _ (.float _) | .scalar _ .datetime => rfl
    | .text _ _ | .array _ _ | .table _ _ _ | .tables _ _ => rfl
  | level =>
    match item with
    | .text _ _ | .scalar _ _ | .array _ _ | .tables _ _ | .table _ _ [] => rfl
    | .table shape _ ((key, inner) :: others) =>
      have single : Item.bareEntries others = [] ↔ others = [] := by simp [Item.bareEntries_eq]
      have open' : shape.bare ≠ .braced ∧ shape.bare ≠ .bracedDotted ↔ shape ≠ .braced ∧ shape ≠ .bracedDotted := by
        cases shape <;> simp [Toml.Shape.bare]
      simp only [Item.bare, Item.bareEntries, Denotes, isVoid_bare, single, open']

theorem isRecord_bare (item : Item) : IsRecord item.bare ↔ IsRecord item := by
  match item with
  | .text _ _ | .array _ _ | .table _ _ _ | .tables _ _ => rfl
  | .scalar _ (.boolean _) | .scalar _ (.integer _) | .scalar _ (.float _) | .scalar _ .datetime => rfl

theorem members_bare (fields : List (String × F)) (item : Item) :
    members fields item.bare = (members fields item).map (Prod.map id Item.bare) := by
  cases item with
  | text _ _ | scalar _ _ => rfl
  | array _ items | tables _ items =>
    simp only [Item.bare, members, Item.bareItems_eq]
    exact List.zip_map_right
  | table _ _ entries =>
    simp only [Item.bare, members, Item.bareEntries_eq, List.filterMap_map, List.map_filterMap]
    congr 1
    funext entry
    simp [Function.comp_def]

theorem ignored_bare (fields : List (String × F)) (item : Item) :
    (ignored fields (fun _ _ => []) item.bare).map (·.name) = (ignored fields (fun _ _ => []) item).map (·.name) := by
  match item with
  | .text _ _ | .scalar _ (.boolean _) | .scalar _ (.integer _) | .scalar _ (.float _) | .scalar _ .datetime => rfl
  | .array _ items | .tables _ items =>
    have none (parts : List (F × Item)) : parts.flatMap (fun _ => ([] : List Ignored)) = [] :=
      List.flatMap_eq_nil_iff.mpr fun _ _ => rfl
    simp only [Item.bare, ignored, none]
  | .table _ _ entries =>
    simp only [Item.bare, ignored, Item.bareEntries_eq, List.flatMap_map, List.map_flatMap]
    congr 1
    funext entry
    cases fields.lookup entry.1.text <;> rfl

theorem decodes_table {fields : List (String × F)} {Right : F → Item → Prop} {shape : Toml.Shape}
    {span : Option Toml.Span} {entries : Entries} (distinct : (entries.map (·.1.text)).Nodup) :
    Decodes fields Right (.table shape span entries) ↔
      ∀ name field, fields.lookup name = some field → ∀ item ∈ entries.item? name, Right field item := by
  constructor
  · intro decodes name field known item found
    obtain ⟨key, member, rfl⟩ := Toml.Entries.mem_of_item? found
    exact decodes.each (field, item) (List.mem_filterMap.mpr ⟨_, member, by rw [known]; rfl⟩)
  · intro right
    refine ⟨trivial, fun part member => ?_⟩
    obtain ⟨entry, inside, given⟩ := List.mem_filterMap.mp member
    obtain ⟨field, known, rfl⟩ := Option.map_eq_some_iff.mp given
    exact right _ field known _ (Toml.Entries.item?_of_mem distinct inside)

theorem decodes_bare {fields : List (String × F)} {kind : F → Kind} {item : Item} :
    Decodes fields (Denoting kind) item.bare ↔ Decodes fields (Denoting kind) item := by
  have same (part : F × Item) : Denoting kind part.1 part.2.bare ↔ Denoting kind part.1 part.2 :=
    exists_congr fun value => (kind part.1).denotes_bare part.2 value
  constructor
  · rintro ⟨isRecord, each⟩
    rw [members_bare, List.forall_mem_map] at each
    exact ⟨(isRecord_bare item).mp isRecord, fun part member => (same part).mp (each part member)⟩
  · rintro ⟨isRecord, each⟩
    refine ⟨(isRecord_bare item).mpr isRecord, ?_⟩
    rw [members_bare, List.forall_mem_map]
    exact fun part member => (same part).mpr (each part member)

theorem lookup_injective {fields : List (String × F)} (distinct : (fields.map (·.2)).Nodup) {field : F}
    {name other : String} (known : fields.lookup name = some field) (again : fields.lookup other = some field) :
    name = other := by
  obtain ⟨before, after, here, _⟩ := List.lookup_eq_some_iff.mp known
  obtain ⟨before', after', there, _⟩ := List.lookup_eq_some_iff.mp again
  have first : (name, field) ∈ fields := here ▸ List.mem_append_right _ List.mem_cons_self
  have second : (other, field) ∈ fields := there ▸ List.mem_append_right _ List.mem_cons_self
  exact congrArg Prod.fst (List.inj_on_of_nodup_map distinct first second rfl)

section Members
variable [DecidableEq F] {fields : List (String × F)} {field : F}

/-- What an item gives for a field. -/
def member? (fields : List (String × F)) (field : F) (item : Item) : Option Item :=
  ((members fields item).reverse.find? (·.1 = field)).map (·.2)

theorem map_part? (fields : List (String × F)) (field : F) (setting : Setting) :
    (setting.part? fields field).map (·.item) = member? fields field setting.item := by
  have parts : members fields setting.item = (setting.parts fields).map fun part => (part.1, part.2.item) := by
    rw [Setting.parts]
    cases setting.item with
    | text _ _ | scalar _ _ => rfl
    | array _ _ | tables _ _ => simp [members, ofItem, Function.comp_def]
    | table _ _ entries => simp [members, ofEntry, List.map_filterMap, Function.comp_def]
  rw [member?, parts, ← List.map_reverse, List.find?_map, part?, last?, Option.map_map, Option.map_map]
  rfl

theorem member?_bare (item : Item) : member? fields field item.bare = (member? fields field item).map (·.bare) := by
  rw [member?, members_bare, ← List.map_reverse, List.find?_map, member?, Option.map_map, Option.map_map]
  rfl

theorem member?_table (unique : (fields.map (·.2)).Nodup) {name : String} (known : fields.lookup name = some field)
    {shape : Toml.Shape} {span : Option Toml.Span} {entries : Entries} (distinct : (entries.map (·.1.text)).Nodup) :
    member? fields field (.table shape span entries) = entries.item? name := by
  have named : ∀ part ∈ members fields (.table shape span entries),
      part.1 = field → entries.item? name = some part.2 := by
    intro part member same
    obtain ⟨entry, inside, given⟩ := List.mem_filterMap.mp member
    obtain ⟨other, found, rfl⟩ := Option.map_eq_some_iff.mp given
    obtain rfl : other = field := same
    obtain rfl := lookup_injective unique known found
    exact Toml.Entries.item?_of_mem distinct inside
  rw [member?]
  cases chosen : (members fields (.table shape span entries)).reverse.find? (·.1 = field) with
  | some part =>
    have member := List.mem_reverse.mp (List.mem_of_find?_eq_some chosen)
    exact (named part member (by simpa using List.find?_some chosen)).symm
  | none =>
    refine (Option.eq_none_iff_forall_ne_some.mpr fun item found => ?_).symm
    obtain ⟨key, inside, rfl⟩ := Toml.Entries.mem_of_item? found
    have member : (field, item) ∈ members fields (.table shape span entries) :=
      List.mem_filterMap.mpr ⟨_, inside, by rw [known]; rfl⟩
    exact List.find?_eq_none.mp chosen _ (List.mem_reverse.mpr member) (decide_eq_true rfl)

end Members

end Setting
end PanelMenu
