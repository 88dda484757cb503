import Mathlib.Algebra.GroupWithZero.Nat
import Mathlib.Data.Bool.Basic
import PanelMenu.Text.Columns

/-! The columns of a text against the columns of its characters. Most characters take as many columns in a text as
they take alone, or fewer. There are three kinds that may take one more: controls, characters that a selector makes
an emoji, and the joiner of Tifinagh letters. -/

namespace PanelMenu.Text.Columns

def isControl (c : Char) : Bool :=
  c.toNat < 0x20 || (0x7F ≤ c.toNat && c.toNat < 0xA0)

def isNarrowEmoji (c : Char) : Bool :=
  inRanges emojiStyleRanges c.toNat && charWidth c < 2

/-- Whether a character may take a column more than it takes alone, in front of `rest`. -/
def isWidened (c : Char) (rest : List Char) : Bool :=
  isControl c || c == '\u2d7f' || (isNarrowEmoji c && rest.head? == some '\ufe0f')

/-- How many characters may take a column more than they take alone. -/
def widened : List Char → Nat
  | [] => 0
  | c :: rest => (isWidened c rest).toNat + widened rest

section Tables
variable {code : Nat}

theorem inRanges_iff {ranges : List (Nat × Nat)} :
    inRanges ranges code = true ↔ ∃ range ∈ ranges, range.1 ≤ code ∧ code ≤ range.2 := by
  simp [inRanges]

def Apart (ranges others : List (Nat × Nat)) : Prop :=
  ∀ range ∈ ranges, ∀ other ∈ others, range.2 < other.1 ∨ other.2 < range.1

instance (ranges others : List (Nat × Nat)) : Decidable (Apart ranges others) :=
  inferInstanceAs (Decidable (∀ range ∈ ranges, ∀ other ∈ others, range.2 < other.1 ∨ other.2 < range.1))

def Within (ranges blocks : List (Nat × Nat)) : Prop :=
  ∀ range ∈ ranges, ∃ block ∈ blocks, block.1 ≤ range.1 ∧ range.2 ≤ block.2

instance (ranges blocks : List (Nat × Nat)) : Decidable (Within ranges blocks) :=
  inferInstanceAs (Decidable (∀ range ∈ ranges, ∃ block ∈ blocks, block.1 ≤ range.1 ∧ range.2 ≤ block.2))

theorem Apart.outside {ranges others : List (Nat × Nat)} (apart : Apart ranges others)
    (inside : inRanges ranges code = true) : inRanges others code = false := by
  obtain ⟨range, member, low, high⟩ := inRanges_iff.mp inside
  rw [Bool.eq_false_iff, Ne, inRanges_iff]
  rintro ⟨other, listed, above, below⟩
  rcases apart range member other listed with before | behind <;> omega

theorem Within.inside {ranges blocks : List (Nat × Nat)} (within : Within ranges blocks)
    (inside : inRanges ranges code = true) : inRanges blocks code = true := by
  obtain ⟨range, member, low, high⟩ := inRanges_iff.mp inside
  obtain ⟨block, listed, start, stop⟩ := within range member
  exact inRanges_iff.mpr ⟨block, listed, Nat.le_trans start low, Nat.le_trans high stop⟩

/-- The characters that take no column alone: selectors, marks and what is ignorable. -/
def emptyRanges : List (Nat × Nat) := (0xFE0E, 0xFE0F) :: zeroRanges

def filledBlocks : List (Nat × Nat) :=
  [(0x20, 0x7E), (0xA0, 0xA0), (0xA9, 0xA9), (0xAE, 0xAE), (0x203C, 0x203C), (0x2049, 0x2049), (0x2122, 0x2B55),
    (0x3030, 0x3030), (0x303D, 0x303D), (0x3297, 0x3299), (0x16D68, 0x16D68), (0x1F004, 0x1F6F3)]

theorem filledBlocks_apart : Apart filledBlocks emptyRanges := by decide +kernel

theorem emojiStyle_visible : Apart emojiStyleRanges [(0x00, 0x1F), (0x7F, 0x9F)] := by decide +kernel

theorem emojiStyle_within : Within emojiStyleRanges filledBlocks := by decide +kernel

theorem textStyle_within : Within textStyleRanges filledBlocks := by decide +kernel

private theorem ite_of {α : Type} {P : α → Prop} {condition : Prop} [Decidable condition] {first second : α}
    (left : condition → P first) (right : P second) : P (if condition then first else second) := by
  split
  next holds => exact left holds
  next => exact right

theorem alone_pos (filled : inRanges filledBlocks code = true) : 1 ≤ (alone code).1 := by
  have outside := filledBlocks_apart.outside filled
  rw [emptyRanges, inRanges, List.any_cons, Bool.or_eq_false_iff] at outside
  obtain ⟨unselecting, unmarked⟩ := outside
  have noText : ¬ (code == 0xFE0E) = true := by intro text; cases eq_of_beq text; cases unselecting
  have noEmoji : ¬ (code == 0xFE0F) = true := by intro emoji; cases eq_of_beq emoji; cases unselecting
  have noMark : ¬ inRanges zeroRanges code = true := Bool.not_eq_true _ ▸ unmarked
  rw [alone, if_neg noText, if_neg noEmoji, if_neg noMark]
  repeat' refine ite_of (P := fun answer : Nat × Context => 1 ≤ answer.1) (fun _ => ?_) ?_
  all_goals exact Nat.le_add_left 1 _

theorem filled_of_flag (flag : isFlagLetter code = true) : inRanges filledBlocks code = true := by
  have bounds : 0x1F1E6 ≤ code ∧ code ≤ 0x1F1FF := by simpa [isFlagLetter] using flag
  exact inRanges_iff.mpr ⟨(0x1F004, 0x1F6F3), by decide, by omega, by omega⟩

end Tables

/-- The columns of flag letters on the left of a joiner come late: after every second letter two are missing. -/
def Following.credit : Following → Int
  | .joinedFlagEven => 2
  | _ => 0

theorem Following.credit_nonneg (following : Following) : 0 ≤ following.credit := by
  cases following <;> simp [credit]

@[simp] theorem Following.credit_join (following : Following) : following.join.credit = following.credit := by
  cases following <;> rfl

section Contexts
variable {code : Nat} {following after : Following} {width : Int} {next : Context}

theorem credit_alone (code : Nat) : (alone code).2.following.credit = 0 := by
  unfold alone
  repeat' refine ite_of (P := fun answer : Nat × Context => answer.2.following.credit = 0) (fun _ => ?_) ?_
  all_goals rfl

theorem selector_of_alone (styled : (alone code).2.emojiStyle = true) : code = 0xFE0F := by
  revert styled
  unfold alone
  repeat'
    refine ite_of (P := fun answer : Nat × Context => answer.2.emojiStyle = true → code = 0xFE0F)
      (fun found => ?_) ?_
  all_goals
    intro styled
    first | contradiction | exact eq_of_beq found

theorem credit_withEmojiStyle : next.withEmojiStyle.following.credit ≤ next.following.credit := by
  rw [Context.withEmojiStyle]
  split
  · exact Int.le_refl _
  · exact next.following.credit_nonneg

theorem credit_withoutEmojiStyle : next.withoutEmojiStyle.following.credit ≤ next.following.credit := by
  rw [Context.withoutEmojiStyle]
  split
  · exact Int.le_refl _
  · exact next.following.credit_nonneg

theorem credit_withTextStyle : next.withTextStyle.following.credit ≤ next.following.credit := by
  rw [Context.withTextStyle]
  split
  · exact Int.le_refl _
  · exact next.following.credit_nonneg

theorem credit_withoutTextStyle : next.withoutTextStyle.following.credit ≤ next.following.credit := by
  rw [Context.withoutTextStyle]
  split
  · exact Int.le_refl _
  · exact next.following.credit_nonneg

theorem paired_le (pairs : paired following code = some (width, after)) :
    width + after.credit ≤ (alone code).1 + (code == 0x2D7F).toNat + following.credit := by
  have flag (letter : isFlagLetter code = true) : 1 ≤ (alone code).1 := alone_pos (filled_of_flag letter)
  have kirat (ai : (code == 0x16D68) = true) : 1 ≤ (alone code).1 := by
    rw [eq_of_beq ai]
    exact alone_pos (by decide)
  have joiner (found : (code == 0x2D7F) = true) : (code == 0x2D7F).toNat = 1 := by rw [found]; rfl
  unfold paired at pairs
  split at pairs
  all_goals grind [Following.credit]

theorem besidePlain_le (code : Nat) (next : Context) :
    (besidePlain code next).1 + (besidePlain code next).2.following.credit ≤
      (alone code).1 + (code == 0x2D7F).toNat + next.following.credit := by
  have credit := next.following.credit_nonneg
  have still := credit_alone code
  have text (style : inRanges textStyleRanges code = true) : 1 ≤ (alone code).1 :=
    alone_pos (textStyle_within.inside style)
  rw [besidePlain]
  split
  next =>
    simp only [still]
    omega
  split
  next =>
    have less : next.withEmojiStyle.following.credit ≤ next.following.credit := credit_withEmojiStyle
    dsimp only
    omega
  split
  next =>
    have less : next.withTextStyle.following.credit ≤ next.following.credit := credit_withTextStyle
    dsimp only
    omega
  split
  next styled =>
    have := text (Bool.and_eq_true_iff.mp styled).2
    change (1 : Int) + 0 ≤ _
    omega
  extract_lets plain
  have less : plain.following.credit ≤ next.following.credit := by
    dsimp only [plain]
    split
    · exact credit_withoutTextStyle
    · exact Int.le_refl _
  split
  next => simp only [Following.credit_join]; omega
  split
  next => simp only []; omega
  split
  next pairs =>
    have := paired_le pairs
    simp only []
    omega
  next =>
    simp only [still]
    omega

theorem selector_of_besidePlain (unstyled : next.emojiStyle = false)
    (styled : (besidePlain code next).2.emojiStyle = true) : code = 0xFE0F := by
  rw [besidePlain] at styled
  split at styled
  next => exact selector_of_alone styled
  split at styled
  next selector => exact eq_of_beq selector
  split at styled
  next =>
    rw [Context.withTextStyle] at styled
    split at styled
    · exact absurd styled (by simp [unstyled])
    · cases styled
  split at styled
  next => cases styled
  extract_lets plain at styled
  have still : plain.emojiStyle = false := by
    dsimp only [plain, Context.withoutTextStyle, Context.start]
    repeat' split
    all_goals first | exact unstyled | rfl
  split at styled
  next => exact absurd styled (by simp [still])
  split at styled
  next => exact absurd styled (by simp [still])
  split at styled
  next => cases styled
  next => exact selector_of_alone styled

end Contexts

section Reading
variable {c : Char} {rest text : List Char} {next : Context}

theorem isControl_iff : isControl c = true ↔ c.toNat < 0x20 ∨ 0x7F ≤ c.toNat ∧ c.toNat < 0xA0 := by
  simp [isControl]

theorem charWidth_eq (visible : isControl c = false) : charWidth c = (alone c.toNat).1 :=
  if_neg (Bool.eq_false_iff.mp visible)

theorem isWidened_of_isControl (control : isControl c = true) : isWidened c rest = true := by
  rw [isWidened, control, Bool.true_or, Bool.true_or]

theorem latin_le (latin : c.toNat ≤ 0xA0) : 1 ≤ charWidth c + (isWidened c rest).toNat := by
  cases control : isControl c with
  | true =>
    rw [isWidened_of_isControl control]
    exact Nat.le_add_left 1 _
  | false =>
    have outside := mt isControl_iff.mpr (Bool.eq_false_iff.mp control)
    have filled : inRanges filledBlocks c.toNat = true := by
      rcases Nat.lt_or_ge 0x7E c.toNat with high | low
      · exact inRanges_iff.mpr ⟨(0xA0, 0xA0), by decide, by omega, by omega⟩
      · exact inRanges_iff.mpr ⟨(0x20, 0x7E), by decide, by omega, by omega⟩
    rw [charWidth_eq control]
    exact Nat.le_add_right_of_le (alone_pos filled)

/-- An emoji of two columns takes two alone, or it takes one and is widened. -/
theorem emoji_le (styled : inRanges emojiStyleRanges c.toNat = true) (selected : rest.head? = some '\ufe0f') :
    2 ≤ charWidth c + (isWidened c rest).toNat := by
  have visible : isControl c = false := by
    have outside := emojiStyle_visible.outside styled
    rw [Bool.eq_false_iff, Ne, isControl_iff]
    intro control
    refine Bool.eq_false_iff.mp outside (inRanges_iff.mpr ?_)
    rcases control with low | ⟨above, below⟩
    · exact ⟨(0x00, 0x1F), by decide, Nat.zero_le _, by omega⟩
    · exact ⟨(0x7F, 0x9F), by decide, above, by omega⟩
  have taken : 1 ≤ charWidth c := charWidth_eq visible ▸ alone_pos (emojiStyle_within.inside styled)
  by_cases narrow : charWidth c < 2
  · have widens : isWidened c rest = true := by simp [isWidened, isNarrowEmoji, styled, narrow, selected]
    rw [widens, Bool.toNat_true]
    omega
  · omega

theorem beside_le (selected : next.emojiStyle = true → rest.head? = some '\ufe0f') :
    (beside c next).1 + (beside c next).2.following.credit ≤
      charWidth c + (isWidened c rest).toNat + next.following.credit := by
  have credit := next.following.credit_nonneg
  rw [beside]
  extract_lets plain
  split
  next styled =>
    obtain ⟨style, inside⟩ := Bool.and_eq_true_iff.mp styled
    have wide := emoji_le inside (selected style)
    have width : (if next.following.isJoined = true then 0 else 2 : Int) ≤ 2 := by split <;> decide
    have spent : Following.emoji.credit = 0 := rfl
    simp only [spent]
    omega
  have less : plain.following.credit ≤ next.following.credit := by
    dsimp only [plain]
    split
    · exact credit_withoutEmojiStyle
    · exact Int.le_refl _
  split
  next latin =>
    have filled : 1 ≤ charWidth c + (isWidened c rest).toNat := latin_le latin
    have spent : Following.lineFeed.credit = 0 ∧ Context.start.following.credit = 0 := ⟨rfl, rfl⟩
    split
    · simp only [spent]
      omega
    · split <;> simp only [spent] <;> omega
  next beyond =>
    have plainly := besidePlain_le c.toNat plain
    have visible : isControl c = false := by
      rw [Bool.eq_false_iff, Ne, isControl_iff]
      omega
    have joiner : (c.toNat == 0x2D7F).toNat ≤ (isWidened c rest).toNat := by
      refine Bool.toNat_le_toNat (Bool.le_iff_imp.mpr fun found => ?_)
      have same : c = '\u2d7f' := Char.toNat_inj.mp (eq_of_beq found)
      simp [isWidened, same]
    rw [charWidth_eq visible]
    omega

theorem selector_of_beside (styled : (beside c next).2.emojiStyle = true) : c = '\ufe0f' := by
  rw [beside] at styled
  extract_lets plain at styled
  split at styled
  next => cases styled
  next other =>
    have unstyled : plain.emojiStyle = false := by
      dsimp only [plain]
      split
      next style =>
        rw [Context.withoutEmojiStyle]
        split <;> rfl
      next style => exact Bool.eq_false_iff.mpr style
    split at styled
    next =>
      split at styled
      next => cases styled
      next => split at styled <;> cases styled
    next => exact Char.toNat_inj.mp (selector_of_besidePlain unstyled styled)

/-- What is known of a text that was read from the right up to its beginning. -/
def reading (text : List Char) : Int × Context :=
  text.foldr (fun c (total, next) => (total + (beside c next).1, (beside c next).2)) (0, .start)

theorem selector_of_reading (styled : (reading text).2.emojiStyle = true) : text.head? = some '\ufe0f' := by
  cases text with
  | nil => cases styled
  | cons c rest => exact congrArg some (selector_of_beside styled)

theorem reading_le (text : List Char) :
    (reading text).1 + (reading text).2.following.credit ≤ (text.map charWidth).sum + widened text := by
  induction text with
  | nil => exact Int.le_refl _
  | cons c rest ih =>
    have selected : (reading rest).2.emojiStyle = true → rest.head? = some '\ufe0f' := selector_of_reading
    have step := beside_le (c := c) selected
    rw [List.map_cons, List.sum_cons, widened]
    simp only [reading, List.foldr_cons] at ih step ⊢
    omega

theorem textWidth_eq (text : List Char) : textWidth text = (reading text).1.toNat := rfl

/-- A text takes no more columns than its characters take alone and those that are widened add. -/
theorem textWidth_le (text : List Char) : textWidth text ≤ (text.map charWidth).sum + widened text := by
  have total := reading_le text
  have credit := (reading text).2.following.credit_nonneg
  rw [textWidth_eq]
  omega

theorem widened_append_le (text rest : List Char) : widened text ≤ widened (text ++ rest) := by
  induction text with
  | nil => exact Nat.zero_le _
  | cons c text ih =>
    rw [List.cons_append, widened, widened]
    refine Nat.add_le_add (Bool.toNat_le_toNat (Bool.le_iff_imp.mpr fun widens => ?_)) ih
    cases text with
    | nil =>
      have alone : isControl c = true ∨ c = '\u2d7f' := by simpa [isWidened] using widens
      simp only [isWidened, Bool.or_eq_true, beq_iff_eq]
      exact .inl alone
    | cons next text => exact widens

end Reading
end PanelMenu.Text.Columns
