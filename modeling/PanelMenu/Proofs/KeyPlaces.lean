import PanelMenu.Proofs.KeyedTables

/-! Where the keys of a document stand. Letters know the bytes before them, so the span of a key gives back the piece of
the text that was read for it, and the line that this piece stands on. -/

namespace PanelMenu.Toml

def bytes (text : List Char) : Nat :=
  (String.ofList text).utf8ByteSize

theorem bytes_cons (c : Char) (text : List Char) : bytes (c :: text) = c.utf8Size + bytes text := by
  rw [bytes, String.ofList_cons, String.utf8ByteSize_append, String.utf8ByteSize_singleton, bytes]

section Letters
variable {content : List Char} {text : Letters} {offset : Nat}

theorem chars_lettersFrom (offset : Nat) (content : List Char) : chars (lettersFrom offset content) = content := by
  induction content generalizing offset with
  | nil => rfl
  | cons c rest ih => exact congrArg (c :: ·) (ih _)

theorem offsetAt_of_suffix (left : text <:+ lettersFrom offset content) : ∃ before, content = before ++ chars text ∧
    offsetAt (offset + bytes content) text = offset + bytes before := by
  induction content generalizing offset with
  | nil =>
    obtain rfl := List.suffix_nil.mp left
    exact ⟨[], rfl, rfl⟩
  | cons c rest ih =>
    rcases List.suffix_cons_iff.mp left with rfl | later
    · refine ⟨[], ?_, rfl⟩
      exact congrArg (c :: ·) (chars_lettersFrom _ rest).symm
    · obtain ⟨before, rfl, same⟩ := ih later
      refine ⟨c :: before, rfl, ?_⟩
      rw [bytes_cons, bytes_cons, ← Nat.add_assoc, ← Nat.add_assoc]
      exact same

theorem takeWhile_lettersFrom (offset : Nat) (before after : List Char) :
    ((lettersFrom offset (before ++ after)).takeWhile fun letter => letter.offset < offset + bytes before) =
      lettersFrom offset before := by
  induction before generalizing offset with
  | nil => cases after <;> simp [lettersFrom, bytes]
  | cons c before ih =>
    have size := c.utf8Size_pos
    have first : offset < offset + bytes (c :: before) := by
      rw [bytes_cons]
      omega
    rw [List.cons_append, lettersFrom, lettersFrom, List.takeWhile_cons_of_pos (by simpa using first), bytes_cons,
      ← Nat.add_assoc, ih]

end Letters

/-- The characters that a key has in the text, which its span marks. -/
def Key.Spelled (content : List Char) (key : Key) (spelled : List Char) : Prop :=
  ∃ before after, content = before ++ spelled ++ after ∧ key.span = ⟨bytes before, bytes (before ++ spelled)⟩

def Key.line (content : List Char) (key : Key) : Nat :=
  (Excerpt.ofSpan content key.span).line + 1

theorem Key.line_eq {key : Key} {before after : List Char} (start : key.span.start = bytes before) :
    key.line (before ++ after) = before.count '\n' + 1 := by
  have taken := takeWhile_lettersFrom 0 before after
  rw [Nat.zero_add] at taken
  have lines : (lettersFrom 0 before).countP (fun letter => letter.char == '\n') = before.count '\n' := by
    have mapped : (chars (lettersFrom 0 before)).count '\n' = _ := List.countP_map
    rw [chars_lettersFrom] at mapped
    exact mapped.symm
  simp only [line, Excerpt.ofSpan, letters, start, taken, lines]

/-- Where a key stands in a text: on one line, and as it is if it is not written with escapes. -/
theorem Key.WrittenIn.spelled {content : List Char} {key : Key}
    (written : key.WrittenIn (bytes content) (letters content)) :
    ∃ before spelled after, content = before ++ (spelled ++ after) ∧
      key.span = ⟨bytes before, bytes (before ++ spelled)⟩ ∧ spelled ≠ [] ∧ '\n' ∉ spelled ∧ '\r' ∉ spelled ∧
      (Plain spelled → key.text.toList <:+: spelled) := by
  obtain ⟨_, rest, within, ⟨spelled, rfl, line, faithful⟩, nonempty, span⟩ := written
  obtain ⟨before, split, start⟩ := offsetAt_of_suffix within
  obtain ⟨upTo, split', stop⟩ := offsetAt_of_suffix ((List.suffix_append spelled rest).trans within)
  rw [Nat.zero_add, Nat.zero_add] at start stop
  have joined : chars (spelled ++ rest) = chars spelled ++ chars rest := List.map_append
  have between : upTo = before ++ chars spelled := by
    rw [split', joined, ← List.append_assoc] at split
    exact List.append_cancel_right split
  have feeds {c : Char} (never : ∀ letter ∈ spelled, letter.char ≠ c) : c ∉ chars spelled := by
    rintro member
    obtain ⟨letter, inside, same⟩ := List.mem_map.mp member
    exact never letter inside same
  refine ⟨before, chars spelled, chars rest, joined ▸ split, ?_, ?_, feeds fun letter member => (line letter member).1,
    feeds fun letter member => (line letter member).2, faithful⟩
  · rw [span, start, stop, between]
  · rintro none
    obtain rfl := List.map_eq_nil_iff.mp none
    exact absurd nonempty (Nat.lt_irrefl _)

end PanelMenu.Toml
