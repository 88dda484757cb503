import Mathlib.Data.List.Nodup
import PanelMenu.Menu.Spec
import PanelMenu.Yaml.Node

/-! Documents that are laid out like menus, those among them that are menus, and what menu they are. None
of it depends on the order in which the parts of an entry are written. -/

namespace PanelMenu

abbrev Yaml.Entries := List (Yaml.Node × Yaml.Node)

namespace Yaml.Node

mutual

/-- How deep collections are nested in a node, which counts if it is one. -/
def nesting : Node → Nat
  | sequence _ items => nestingAll items + 1
  | mapping _ entries => nestingEntries entries + 1
  | nothing _ | scalar _ _ _ _ | reference _ _ | cut => 0

def nestingAll : List Node → Nat
  | [] => 0
  | item :: rest => max item.nesting (nestingAll rest)

def nestingEntries : List (Node × Node) → Nat
  | [] => 0
  | (key, value) :: rest => max (max key.nesting value.nesting) (nestingEntries rest)

end

theorem nesting_item {mark : Mark} {items : List Node} {item : Node} (member : item ∈ items) :
    item.nesting < (sequence mark items).nesting := by
  rw [nesting, Nat.lt_succ_iff]
  induction items with
  | nil => cases member
  | cons head rest ih =>
    rw [nestingAll]
    rcases List.mem_cons.mp member with rfl | later
    · exact Nat.le_max_left _ _
    · exact Nat.le_trans (ih later) (Nat.le_max_right _ _)

theorem nesting_value {mark : Mark} {entries : List (Node × Node)} {entry : Node × Node} (member : entry ∈ entries) :
    entry.2.nesting < (mapping mark entries).nesting := by
  rw [nesting, Nat.lt_succ_iff]
  induction entries with
  | nil => cases member
  | cons head rest ih =>
    rw [nestingEntries]
    rcases List.mem_cons.mp member with rfl | later
    · exact Nat.le_trans (Nat.le_max_right _ _) (Nat.le_max_left _ _)
    · exact Nat.le_trans (ih later) (Nat.le_max_right _ _)

def spelling : Node → String
  | scalar _ _ text _ => text
  | _ => ""

end Yaml.Node

namespace MenuSpec

theorem Field.ofKey?_key (field : Field) : Field.ofKey? field.key = some field := by
  rcases field with _ | hook | _
  · rfl
  · cases hook <;> rfl
  · rfl

theorem Field.key_injective {field other : Field} (same : field.key = other.key) : field = other := by
  have known := field.ofKey?_key
  rw [same, other.ofKey?_key] at known
  exact (Option.some.inj known).symm

def Holds (entries : Yaml.Entries) (key : String) (value : Yaml.Node) : Prop :=
  ∃ entry ∈ entries, entry.1.spelling = key ∧ entry.2 = value

mutual

/-- A mapping whose keys are texts. What stands under the key of a part is written as that part has to be,
but parts may be missing or there twice, and there may be other keys, with anything under them. -/
inductive MenuLike : Yaml.Node → Prop where
  | mapping {mark entries} (parts : ∀ entry ∈ entries, MenuLikePart entry.1 entry.2) :
      MenuLike (.mapping mark entries)

inductive MenuLikePart : Yaml.Node → Yaml.Node → Prop where
  | text {place isPlain mark text} (field : Field) (single : field ≠ .children) :
      MenuLikePart (.scalar place none field.key isPlain) (.scalar mark none text false)
  | children {place isPlain mark items} (each : ∀ item ∈ items, MenuLike item) :
      MenuLikePart (.scalar place none Field.children.key isPlain) (.sequence mark items)
  | other {place isPlain spelled} (unknown : Field.ofKey? spelled = none) (value : Yaml.Node) :
      MenuLikePart (.scalar place none spelled isPlain) value

end

/-- Every mapping that is reached through children has a name, no key twice, and no key that is not that of a
part. -/
inductive Accepted : Yaml.Node → Prop where
  | mapping {mark entries} (named : ∃ value, Holds entries Field.name.key value)
      (distinct : (entries.map (·.1.spelling)).Nodup)
      (known : ∀ entry ∈ entries, ∃ field : Field, entry.1.spelling = field.key)
      (nested : ∀ mark items, Holds entries Field.children.key (.sequence mark items) → ∀ item ∈ items, Accepted item) :
      Accepted (.mapping mark entries)

/-- The menu says what is written under the keys of its parts, in whatever order these come. What is not
written is absent. -/
inductive Mirrors : Yaml.Node → MenuSpec → Prop where
  | mapping {mark entries spec}
      (label : ∃ value, Holds entries Field.name.key value ∧ value.spelling = spec.label)
      (bound : ∀ hook value, Holds entries (Field.binding hook).key value →
        spec.bindings.get hook = some value.spelling)
      (unbound : ∀ hook, (∀ value, ¬ Holds entries (Field.binding hook).key value) → spec.bindings.get hook = none)
      (length_eq : ∀ mark items, Holds entries Field.children.key (.sequence mark items) →
        items.length = spec.children.length)
      (nested : ∀ mark (items : List Yaml.Node), Holds entries Field.children.key (.sequence mark items) →
        ∀ (index : Nat) item child, items[index]? = some item → spec.children[index]? = some child →
          Mirrors item child)
      (childless : (∀ value, ¬ Holds entries Field.children.key value) → spec.children = []) :
      Mirrors (.mapping mark entries) spec

theorem Holds.unique {entries : Yaml.Entries} (distinct : (entries.map (·.1.spelling)).Nodup) {key : String}
    {value other : Yaml.Node} (holds : Holds entries key value) (again : Holds entries key other) : value = other := by
  obtain ⟨entry, member, rfl, rfl⟩ := holds
  obtain ⟨entry', member', same, rfl⟩ := again
  rw [List.inj_on_of_nodup_map distinct member' member same]

theorem Holds.children {entries : Yaml.Entries} (parts : ∀ entry ∈ entries, MenuLikePart entry.1 entry.2)
    {value : Yaml.Node} (holds : Holds entries Field.children.key value) :
    ∃ mark items, value = .sequence mark items ∧ ∀ item ∈ items, MenuLike item := by
  obtain ⟨⟨key, _⟩, member, spelled, rfl⟩ := holds
  cases parts _ member with
  | text field single => exact absurd (Field.key_injective spelled) single
  | children each => exact ⟨_, _, rfl, each⟩
  | @other _ _ text unknown =>
    obtain rfl : text = Field.children.key := spelled
    rw [Field.ofKey?_key] at unknown
    cases unknown

theorem bindings_ext {bindings others : Hooks (Option String)} (same : ∀ hook, bindings.get hook = others.get hook) :
    bindings = others := by
  cases bindings
  cases others
  congr 1
  · exact same .enter
  · exact same .exit
  · exact same .action

theorem Mirrors.unique {node : Yaml.Node} {spec other : MenuSpec} (like : MenuLike node) (accepted : Accepted node)
    (mirrors : Mirrors node spec) (again : Mirrors node other) : other = spec := by
  induction accepted generalizing spec other with
  | @mapping mark entries _ distinct _ _ ih =>
    cases like with
    | mapping parts =>
    cases mirrors with
    | mapping label bound unbound length nested childless =>
    cases again with
    | mapping label' bound' unbound' length' nested' childless' =>
    have labels : other.label = spec.label := by
      obtain ⟨value, holds, spelled⟩ := label
      obtain ⟨value', holds', spelled'⟩ := label'
      rw [← spelled, ← spelled', holds.unique distinct holds']
    have bindings : other.bindings = spec.bindings := by
      apply bindings_ext
      intro hook
      by_cases written : ∃ value, Holds entries (Field.binding hook).key value
      · obtain ⟨value, holds⟩ := written
        rw [bound hook value holds, bound' hook value holds]
      · rw [not_exists] at written
        rw [unbound hook written, unbound' hook written]
    have children : other.children = spec.children := by
      by_cases written : ∃ value, Holds entries Field.children.key value
      · obtain ⟨value, holds⟩ := written
        obtain ⟨mark, items, rfl, each⟩ := holds.children parts
        have size := length mark items holds
        have size' := length' mark items holds
        apply List.ext_getElem (size'.symm.trans size)
        intro index inside' inside
        have within : index < items.length := by omega
        have item := List.getElem_mem within
        apply ih mark items holds _ item (each _ item)
        · exact nested mark items holds index _ _ (List.getElem?_eq_getElem within) (List.getElem?_eq_getElem inside)
        · exact nested' mark items holds index _ _ (List.getElem?_eq_getElem within) (List.getElem?_eq_getElem inside')
      · rw [not_exists] at written
        rw [childless written, childless' written]
    cases spec
    cases other
    simp only at labels bindings children
    rw [labels, bindings, children]

end MenuSpec
end PanelMenu
