import PanelMenu.Proofs.ColumnCount

/-! What cutting a text to a number of columns comes to. Whatever the measures of texts and characters are, the longest
beginning is left whose characters stay within the columns, so cutting again changes nothing. A text is cut by the
columns of its characters, so what is left can take more than it was cut to, but only because of characters that are
widened: one column for each of them. -/

namespace PanelMenu.Text
open Columns

section Fitting
variable {charWidth : Char → Nat} {columns used : Nat} {text : List Char}

theorem fitting_prefix : fitting charWidth columns used text <+: text := by
  induction text generalizing used with
  | nil => exact List.nil_prefix
  | cons c rest ih =>
    rw [fitting]
    split
    · exact List.cons_prefix_cons.mpr ⟨rfl, ih⟩
    · exact List.nil_prefix

theorem sum_fitting (within : used ≤ columns) :
    used + ((fitting charWidth columns used text).map charWidth).sum ≤ columns := by
  induction text generalizing used with
  | nil => exact within
  | cons c rest ih =>
    rw [fitting]
    split
    next fits =>
      rw [List.map_cons, List.sum_cons, ← Nat.add_assoc]
      exact ih fits
    next => exact within

theorem truncateBy_prefix {textWidth : List Char → Nat} : truncateBy textWidth charWidth text columns <+: text := by
  rw [truncateBy]
  split
  · exact List.prefix_refl _
  · exact fitting_prefix

end Fitting

section Longest
variable {charWidth : Char → Nat} {columns used : Nat} {text : List Char}

/-- However much of a text is read, the widths of its characters do not exceed the columns. -/
def StaysWithin (charWidth : Char → Nat) (columns : Nat) (text : List Char) : Prop :=
  ∀ beginning, beginning <+: text → (beginning.map charWidth).sum ≤ columns

/-- `kept` is the longest beginning of a text that stays within the columns. -/
structure LongestWithin (charWidth : Char → Nat) (columns : Nat) (text kept : List Char) : Prop where
  begins : kept <+: text
  within : StaysWithin charWidth columns kept
  longest : ∀ other, other <+: text → StaysWithin charWidth columns other → other <+: kept

theorem staysWithin_iff : StaysWithin charWidth columns text ↔ (text.map charWidth).sum ≤ columns := by
  constructor
  · intro within
    exact within text (List.prefix_refl text)
  · rintro total beginning ⟨rest, rfl⟩
    rw [List.map_append, List.sum_append] at total
    omega

theorem StaysWithin.wider {wider : Nat} (within : StaysWithin charWidth columns text) (le : columns ≤ wider) :
    StaysWithin charWidth wider text :=
  fun beginning begins => Nat.le_trans (within beginning begins) le

theorem prefix_fitting {other : List Char} (begins : other <+: text)
    (within : used + (other.map charWidth).sum ≤ columns) : other <+: fitting charWidth columns used text := by
  induction text generalizing used other with
  | nil =>
    obtain rfl := List.prefix_nil.mp begins
    exact List.nil_prefix
  | cons c rest ih =>
    cases other with
    | nil => exact List.nil_prefix
    | cons first other =>
      obtain ⟨rfl, restBegins⟩ := List.cons_prefix_cons.mp begins
      rw [List.map_cons, List.sum_cons, ← Nat.add_assoc] at within
      rw [fitting, if_pos (Nat.le_of_add_right_le within)]
      exact List.cons_prefix_cons.mpr ⟨rfl, ih restBegins within⟩

theorem longestWithin_fitting : LongestWithin charWidth columns text (fitting charWidth columns 0 text) where
  begins := fitting_prefix
  within := by
    have spent : 0 + ((fitting charWidth columns 0 text).map charWidth).sum ≤ columns :=
      sum_fitting (Nat.zero_le columns)
    rw [Nat.zero_add] at spent
    exact staysWithin_iff.mpr spent
  longest := by
    intro other begins within
    apply prefix_fitting begins
    rw [Nat.zero_add]
    exact staysWithin_iff.mp within

theorem fitting_eq_self (within : StaysWithin charWidth columns text) : fitting charWidth columns 0 text = text :=
  fitting_prefix.eq_of_length_le (longestWithin_fitting.longest text (List.prefix_refl text) within).length_le

section Measures
variable (textWidth : List Char → Nat) (charWidth : Char → Nat) (text : List Char) (columns : Nat)

theorem truncateBy_eq_self (fits : textWidth text ≤ columns) : truncateBy textWidth charWidth text columns = text :=
  if_pos fits

theorem longestWithin_truncateBy (exceeds : columns < textWidth text) :
    LongestWithin charWidth columns text (truncateBy textWidth charWidth text columns) := by
  rw [truncateBy, if_neg (Nat.not_le_of_lt exceeds)]
  exact longestWithin_fitting

theorem truncateBy_twice :
    truncateBy textWidth charWidth (truncateBy textWidth charWidth text columns) columns =
      truncateBy textWidth charWidth text columns := by
  rcases Nat.lt_or_ge columns (textWidth text) with exceeds | fits
  · have cut := longestWithin_truncateBy textWidth charWidth text columns exceeds
    rw [truncateBy, fitting_eq_self cut.within, ite_self]
  · have whole := truncateBy_eq_self textWidth charWidth text columns fits
    rw [whole, whole]

theorem truncateBy_wider {wider : Nat} (le : columns ≤ wider) :
    truncateBy textWidth charWidth text columns <+: truncateBy textWidth charWidth text wider := by
  rcases Nat.lt_or_ge wider (textWidth text) with exceeds | fits
  · have shorter := longestWithin_truncateBy textWidth charWidth text columns (Nat.lt_of_le_of_lt le exceeds)
    have cut := longestWithin_truncateBy textWidth charWidth text wider exceeds
    exact cut.longest _ shorter.begins (shorter.within.wider le)
  · rw [truncateBy_eq_self textWidth charWidth text wider fits]
    exact truncateBy_prefix

/-- What cutting a text comes to, however whole texts and single characters are measured: the two measures need not
agree. Nothing is lost of a text that fits. Of another, the longest beginning is left that stays within the columns.
Cutting it again changes nothing, even if what is left does not fit, and with more columns no less is left. -/
theorem truncateBy_longest :
    (textWidth text ≤ columns → truncateBy textWidth charWidth text columns = text) ∧
    (columns < textWidth text →
      LongestWithin charWidth columns text (truncateBy textWidth charWidth text columns)) ∧
    truncateBy textWidth charWidth (truncateBy textWidth charWidth text columns) columns =
      truncateBy textWidth charWidth text columns ∧
    ∀ wider, columns ≤ wider →
      truncateBy textWidth charWidth text columns <+: truncateBy textWidth charWidth text wider :=
  ⟨truncateBy_eq_self textWidth charWidth text columns, longestWithin_truncateBy textWidth charWidth text columns,
    truncateBy_twice textWidth charWidth text columns, fun _ => truncateBy_wider textWidth charWidth text columns⟩

end Measures
end Longest

theorem truncateBy_longest_tab :
    1 < textWidth "a\tbc".toList ∧
    LongestWithin Columns.charWidth 1 "a\tbc".toList "a\t".toList ∧
    textWidth "a\t".toList = 2 ∧
    truncateBy textWidth Columns.charWidth "a\t".toList 1 = "a\t".toList ∧
    "a\t".toList <+: truncateBy textWidth Columns.charWidth "a\tbc".toList 2 := by
  have exceeds : 1 < textWidth "a\tbc".toList := by decide +kernel
  have cut : truncateBy textWidth Columns.charWidth "a\tbc".toList 1 = "a\t".toList := by decide +kernel
  obtain ⟨-, longest, again, wider⟩ := truncateBy_longest textWidth Columns.charWidth "a\tbc".toList 1
  rw [cut] at longest again wider
  exact ⟨exceeds, longest exceeds, by decide +kernel, again, wider 2 (by decide)⟩

theorem textWidth_truncateBy (text : List Char) (columns : Nat) :
    textWidth (truncateBy textWidth charWidth text columns) ≤
      columns + widened (truncateBy textWidth charWidth text columns) := by
  rw [truncateBy]
  split
  next fits => exact Nat.le_add_right_of_le fits
  next =>
    have total := textWidth_le (fitting charWidth columns 0 text)
    have spent : 0 + ((fitting charWidth columns 0 text).map charWidth).sum ≤ columns :=
      sum_fitting (Nat.zero_le columns)
    omega

/-- What is left of a text is a beginning of it, and all of it if it fits. It takes no more columns than it was cut
to and those of its characters that are widened. So it fits if no character of the text is widened. -/
theorem truncate_overhangs (text : String) (columns : Nat) :
    (truncate text columns).toList <+: text.toList ∧
    (textWidth text.toList ≤ columns → truncate text columns = text) ∧
    textWidth (truncate text columns).toList ≤ columns + widened (truncate text columns).toList ∧
    (widened text.toList = 0 → textWidth (truncate text columns).toList ≤ columns) := by
  rw [truncate, String.toList_ofList]
  have begins : truncateBy textWidth Columns.charWidth text.toList columns <+: text.toList := truncateBy_prefix
  have overhang := textWidth_truncateBy text.toList columns
  refine ⟨begins, ?_, overhang, ?_⟩
  · intro fits
    rw [truncateBy, if_pos fits, String.ofList_toList]
  · intro none
    obtain ⟨rest, whole⟩ := begins
    have part := widened_append_le (truncateBy textWidth Columns.charWidth text.toList columns) rest
    rw [whole, none] at part
    omega

theorem truncate_fits_name :
    widened "短い名前".toList = 0 ∧ textWidth (truncate "短い名前" 5).toList ≤ 5 ∧
    textWidth "短い名前".toList ≤ 8 ∧ truncate "短い名前" 8 = "短い名前" :=
  have plain : widened "短い名前".toList = 0 := by decide +kernel
  have fits : textWidth "短い名前".toList ≤ 8 := by decide +kernel
  ⟨plain, (truncate_overhangs _ 5).2.2.2 plain, fits, (truncate_overhangs _ 8).2.1 fits⟩

example : textWidth (truncate "日本©\ufe0f" 5).toList = 6 := by decide +kernel

theorem reading_tabs (n : Nat) : reading (List.replicate n '\t') = (↑n, .start) := by
  induction n with
  | zero => rfl
  | succ n ih =>
    have step : beside '\t' .start = (1, .start) := rfl
    simp only [List.replicate_succ, reading, List.foldr_cons] at ih ⊢
    rw [ih, step]
    rfl

/-- There is no limit to what can be left of a text that was cut to no columns at all. -/
theorem truncate_tabs (n : Nat) : textWidth (truncate (String.ofList (List.replicate n '\t')) 0).toList = n := by
  have whole : fitting Columns.charWidth 0 0 (List.replicate n '\t') = List.replicate n '\t' := by
    induction n with
    | zero => rfl
    | succ n ih =>
      have hidden : Columns.charWidth '\t' = 0 := rfl
      rw [List.replicate_succ, fitting, hidden, if_pos (Nat.le_refl 0), ih]
  have cut : truncateBy textWidth Columns.charWidth (List.replicate n '\t') 0 = List.replicate n '\t' := by
    rw [truncateBy, whole, ite_self]
  rw [truncate, String.toList_ofList, String.toList_ofList, cut, textWidth_eq, reading_tabs]
  rfl

end PanelMenu.Text
