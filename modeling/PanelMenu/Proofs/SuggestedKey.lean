import PanelMenu.Config.Warning
import PanelMenu.Proofs.EditTable

/-! Which known key is suggested for one that means nothing: the nearest by the true number of edits of its bytes, the
earliest of several, and none if two edits are not enough. -/

namespace PanelMenu.Warning

theorem bytes_injective {source target : String} (same : bytes source = bytes target) : source = target := by
  apply String.toByteArray_inj.mp
  apply ByteArray.ext
  exact Array.toList_inj.mp same

/-- Equal texts are told apart from others before any table is made, which changes nothing. -/
theorem distance_eq (source target : String) :
    distance source target = Text.levenshtein (bytes source) (bytes target) := by
  rw [distance]
  split
  next same => rw [same, Text.levenshtein_self]
  next => exact Text.editDistance_eq _ _

theorem distance_isLeast (source target : String) :
    IsLeast {number | Text.Edits number (bytes source) (bytes target)} (distance source target) := by
  rw [distance_eq]
  exact Text.levenshtein_isLeast _ _

example : distance "hëïght" "height" = 4 := by decide +kernel

theorem distance_eq_zero_iff (source target : String) : distance source target = 0 ↔ source = target := by
  rw [distance_eq, Text.levenshtein_eq_zero_iff]
  exact ⟨bytes_injective, congrArg bytes⟩

section Nearest
variable {key name : String} {names : List String}

/-- The first of those names that are nearest to a key. -/
def Nearest (key : String) (names : List String) (name : String) : Prop :=
  ∃ before after, names = before ++ name :: after ∧
    (∀ other ∈ before, distance key name < distance key other) ∧
    ∀ other ∈ after, distance key name ≤ distance key other

namespace Nearest

theorem mem (nearest : Nearest key names name) : name ∈ names := by
  obtain ⟨before, after, rfl, -, -⟩ := nearest
  exact List.mem_append_right before List.mem_cons_self

theorem le (nearest : Nearest key names name) {other : String} (among : other ∈ names) :
    distance key name ≤ distance key other := by
  obtain ⟨before, after, rfl, earlier, later⟩ := nearest
  rcases List.mem_append.mp among with among | among
  · exact Nat.le_of_lt (earlier other among)
  rcases List.mem_cons.mp among with rfl | among
  · exact Nat.le_refl _
  · exact later other among

theorem head {first : String} (near : ∀ other ∈ names, distance key first ≤ distance key other) :
    Nearest key (first :: names) first :=
  ⟨[], names, rfl, List.forall_mem_nil _, near⟩

theorem tail {first : String} (nearest : Nearest key names name) (nearer : distance key name < distance key first) :
    Nearest key (first :: names) name := by
  obtain ⟨before, after, rfl, earlier, later⟩ := nearest
  exact ⟨first :: before, after, rfl, List.forall_mem_cons.mpr ⟨nearer, earlier⟩, later⟩

theorem of_cons {first : String} (nearest : Nearest key (first :: names) name) :
    (name = first ∧ ∀ other ∈ names, distance key first ≤ distance key other) ∨
      (distance key name < distance key first ∧ Nearest key names name) := by
  obtain ⟨before, after, same, earlier, later⟩ := nearest
  cases before with
  | nil =>
    obtain ⟨rfl, rfl⟩ := List.cons.inj same
    exact .inl ⟨rfl, later⟩
  | cons head before =>
    obtain ⟨rfl, rfl⟩ := List.cons.inj same
    obtain ⟨nearer, earlier⟩ := List.forall_mem_cons.mp earlier
    exact .inr ⟨nearer, before, after, rfl, earlier, later⟩

theorem unique {other : String} (one : Nearest key names name) (another : Nearest key names other) : name = other := by
  induction names with
  | nil => exact absurd one.mem List.not_mem_nil
  | cons first rest ih =>
    rcases one.of_cons with ⟨rfl, near⟩ | ⟨nearer, later⟩
    · rcases another.of_cons with ⟨rfl, -⟩ | ⟨nearer, later⟩
      · rfl
      · exact absurd nearer (Nat.not_lt_of_le (near other later.mem))
    · rcases another.of_cons with ⟨rfl, near⟩ | ⟨-, later'⟩
      · exact absurd nearer (Nat.not_lt_of_le (near name later.mem))
      · exact ih later later'

end Nearest

theorem nearest_cases (key : String) (names : List String) :
    (names = [] ∧ nearest key names = none) ∨
      ∃ name, nearest key names = some (name, distance key name) ∧ Nearest key names name := by
  induction names with
  | nil => exact .inl ⟨rfl, rfl⟩
  | cons first rest ih =>
    right
    rw [nearest]
    rcases ih with ⟨rfl, nothing⟩ | ⟨name, found, nearest⟩
    · rw [nothing]
      exact ⟨first, rfl, .head (List.forall_mem_nil _)⟩
    · simp only [found]
      split
      next nearer => exact ⟨name, rfl, nearest.tail nearer⟩
      next farther =>
        refine ⟨first, rfl, .head ?_⟩
        intro other among
        exact (Nat.le_of_not_lt farther).trans (nearest.le among)

example : nearest "liph_height" ["line_height", "glyph_height"] = some ("line_height", 2) := by decide +kernel

end Nearest

theorem exists_suggestion (key : String) : ∃ name, Nearest key knownKeys name ∧
    suggestion key = if distance key name ≤ 2 then some name else none := by
  rcases nearest_cases key knownKeys with ⟨nothing, -⟩ | ⟨name, found, nearest⟩
  · cases nothing
  · refine ⟨name, nearest, ?_⟩
    delta suggestion
    rw [found]

theorem suggestion_eq_some_iff (key name : String) :
    suggestion key = some name ↔ Nearest key knownKeys name ∧ distance key name ≤ 2 := by
  obtain ⟨known, nearest, suggested⟩ := exists_suggestion key
  rw [suggested, Option.ite_none_right_eq_some, Option.some_inj]
  constructor
  · rintro ⟨near, rfl⟩
    exact ⟨nearest, near⟩
  · rintro ⟨other, near⟩
    obtain rfl := nearest.unique other
    exact ⟨near, rfl⟩

theorem suggestion_eq_none_iff (key : String) :
    suggestion key = none ↔ ∀ name ∈ knownKeys, 2 < distance key name := by
  obtain ⟨known, nearest, suggested⟩ := exists_suggestion key
  rw [suggested, ite_eq_right_iff, imp_iff_not (Option.some_ne_none known), Nat.not_le]
  constructor
  · intro far name among
    exact Nat.lt_of_lt_of_le far (nearest.le among)
  · intro far
    exact far known nearest.mem

/-- Texts are as far apart as the fewest insertions, deletions and replacements of a byte that lead from one to the
other, which is a metric. The suggestion for a key is the first of the known keys nearest to it, if they are no farther
than two edits, and there is none otherwise. -/
theorem suggestion_nearest (source middle target key name : String) :
    distance source target = Text.levenshtein (bytes source) (bytes target) ∧
    IsLeast {number | Text.Edits number (bytes source) (bytes target)} (distance source target) ∧
    (distance source target = 0 ↔ source = target) ∧
    distance source target = distance target source ∧
    distance source target ≤ distance source middle + distance middle target ∧
    (suggestion key = some name ↔ Nearest key knownKeys name ∧ distance key name ≤ 2) ∧
    (suggestion key = none ↔ ∀ known ∈ knownKeys, 2 < distance key known) := by
  refine ⟨distance_eq source target, distance_isLeast source target, distance_eq_zero_iff source target, ?_, ?_,
    suggestion_eq_some_iff key name, suggestion_eq_none_iff key⟩
  · rw [distance_eq, distance_eq]
    exact Text.levenshtein_comm _ _
  · rw [distance_eq, distance_eq, distance_eq]
    exact Text.levenshtein_triangle _ _ _

end PanelMenu.Warning
