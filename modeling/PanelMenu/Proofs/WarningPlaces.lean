import PanelMenu.Proofs.IgnoredKeys
import PanelMenu.Proofs.KeyPlaces
import PanelMenu.Proofs.RecordStream

/-! Which key a warning names and which line it points at. It names what stands behind the last dot of the key, and it
points at the first line of the text in which these characters occur. The key itself stands there or further below. -/

namespace PanelMenu
namespace Text

theorem contains_iff {text part : List Char} : contains text part = true ↔ part <:+: text := by
  induction text with
  | nil => simp [contains, List.isPrefixOf_iff_prefix]
  | cons c rest ih => rw [contains, Bool.or_eq_true, List.isPrefixOf_iff_prefix, ih, List.infix_cons_iff]

section Pieces
variable {separator : Char} {name : List Char}

theorem pieces_of_not_mem (inside : separator ∉ name) : pieces separator name = [name] := by
  induction name with
  | nil => rfl
  | cons c rest ih =>
    have different : c ≠ separator := fun same => inside (same ▸ List.mem_cons_self)
    rw [pieces, if_neg different, ih (mt (List.mem_cons_of_mem c) inside)]

theorem exists_pieces (separator : Char) (text : List Char) : ∃ first others, pieces separator text = first :: others := by
  cases text with
  | nil => exact ⟨_, _, rfl⟩
  | cons c rest =>
    rw [pieces]
    split
    · exact ⟨_, _, rfl⟩
    · cases pieces separator rest <;> exact ⟨_, _, rfl⟩

theorem pieces_append (front name : List Char) :
    pieces separator (front ++ separator :: name) = pieces separator front ++ pieces separator name := by
  induction front with
  | nil =>
    rw [List.nil_append, pieces.eq_2, if_pos rfl]
    rfl
  | cons c front ih =>
    rw [List.cons_append, pieces, pieces, ih]
    split
    · rfl
    · obtain ⟨first, others, same⟩ := exists_pieces separator front
      rw [same]
      rfl

end Pieces

section Lines
variable {line text part : List Char}

theorem linesFrom_of_not_mem (inside : '\n' ∉ text) {pending : List Char} (nonempty : pending ≠ [] ∨ text ≠ []) :
    linesFrom pending text = [pending.reverse ++ text] := by
  induction text generalizing pending with
  | nil =>
    have some : pending ≠ [] := nonempty.resolve_right (absurd rfl)
    simp [linesFrom, some]
  | cons c rest ih =>
    have different : c ≠ '\n' := fun same => inside (same ▸ List.mem_cons_self)
    rw [linesFrom, ih (mt (List.mem_cons_of_mem c) inside) (.inl (List.cons_ne_nil _ _))]
    · simp
    · exact different

theorem infix_dropReturn (inside : '\r' ∉ part) (here : part <:+: line) : part <:+: dropReturn line := by
  rw [dropReturn]
  split
  next last =>
    obtain ⟨front, rfl⟩ := List.getLast?_eq_some_iff.mp last
    rw [List.dropLast_concat]
    rcases List.infix_concat_iff.mp here with final | here
    · rcases List.suffix_concat_iff.mp final with rfl | ⟨_, rfl, _⟩
      · exact List.nil_infix
      · exact absurd (List.mem_append_right _ List.mem_cons_self) inside
    · exact here
  next => exact here

theorem exists_line (feed : '\n' ∉ part) (carriage : '\r' ∉ part) (nonempty : part ≠ [])
    (pending before after : List Char) :
    ∃ line, (linesFrom pending (before ++ (part ++ after)))[before.count '\n']? = some line ∧ part <:+: line := by
  induction before generalizing pending with
  | nil =>
    have here (tail : List Char) : part <:+: pending.reverse ++ (part ++ tail) :=
      ⟨pending.reverse, tail, List.append_assoc _ _ _⟩
    by_cases more : '\n' ∈ after
    · obtain ⟨tail, rest, rfl, last⟩ := List.eq_append_cons_of_mem more
      have inside : '\n' ∉ part ++ tail := by simp [feed, last]
      rw [List.nil_append, ← List.append_assoc, linesFrom_append inside]
      exact ⟨_, rfl, infix_dropReturn carriage (here tail)⟩
    · have inside : '\n' ∉ part ++ after := by simp [feed, more]
      have some : part ++ after ≠ [] := fun none => nonempty (List.append_eq_nil_iff.mp none).1
      rw [List.nil_append, linesFrom_of_not_mem inside (.inr some)]
      exact ⟨_, rfl, here after⟩
  | cons c before ih =>
    by_cases ends : c = '\n'
    · subst ends
      rw [List.cons_append, linesFrom, List.count_cons_self, List.getElem?_cons_succ]
      exact ih []
    · rw [List.cons_append, linesFrom, List.count_cons_of_ne ends]
      · exact ih (c :: pending)
      · exact ends

end Lines
end Text

/-- What stands behind the last dot of a key, or all of it if it has no dot. -/
def LastPart (text name : String) : Prop :=
  '.' ∉ name.toList ∧ (text = name ∨ ∃ front, text.toList = front ++ '.' :: name.toList)

theorem Setting.lastPart_reported (text : String) : LastPart text (reported text) := by
  by_cases dot : '.' ∈ text.toList
  · obtain ⟨name, front, split, last⟩ := List.eq_append_cons_of_mem (List.mem_reverse.mpr dot)
    have whole : text.toList = front.reverse ++ '.' :: name.reverse := by
      simpa using congrArg List.reverse split
    have inside : '.' ∉ name.reverse := mt List.mem_reverse.mp last
    have same : reported text = .ofList name.reverse := by
      rw [reported, whole, Text.pieces_append, Text.pieces_of_not_mem inside, List.getLastD_concat]
    rw [same, LastPart, String.toList_ofList]
    exact ⟨inside, .inr ⟨_, whole⟩⟩
  · have same : reported text = text := by
      rw [reported, Text.pieces_of_not_mem dot]
      exact String.ofList_toList
    rw [same]
    exact ⟨dot, .inl rfl⟩

theorem LastPart.isInfix {text name : String} (part : LastPart text name) : name.toList <:+: text.toList := by
  rcases part with ⟨_, rfl | ⟨front, split⟩⟩
  · exact List.infix_refl _
  · rw [split]
    exact ((List.suffix_cons _ _).trans (List.suffix_append _ _)).isInfix

namespace Warning

/-- The line with this number, counted from one, has these characters. -/
def OnLine (content name : String) (number : Nat) : Prop :=
  ∃ index line, number = index + 1 ∧ (Text.lines content.toList)[index]? = some line ∧ name.toList <:+: line

/-- The first line that has these characters, if there is one. -/
def FirstLine (content name : String) : Option Nat → Prop
  | some number => OnLine content name number ∧ ∀ other < number, ¬ OnLine content name other
  | none => ∀ number, ¬ OnLine content name number

theorem firstLine_lineOf (content name : String) : FirstLine content name (lineOf content name) := by
  have onLine {number : Nat} : OnLine content name number ↔ ∃ index line, number = index + 1 ∧
      (Text.lines content.toList)[index]? = some line ∧ Text.contains line name.toList = true := by
    simp only [OnLine, Text.contains_iff]
  rw [lineOf]
  cases found : (Text.lines content.toList).findIdx? fun line => Text.contains line name.toList with
  | some index =>
    obtain ⟨short, here, before⟩ := List.findIdx?_eq_some_iff_getElem.mp found
    refine ⟨onLine.mpr ⟨index, _, rfl, List.getElem?_eq_getElem short, here⟩, fun other earlier there => ?_⟩
    obtain ⟨place, line, rfl, at', inside⟩ := onLine.mp there
    obtain ⟨short', rfl⟩ := List.getElem?_eq_some_iff.mp at'
    exact before place (Nat.lt_of_succ_lt_succ earlier) inside
  | none =>
    intro number there
    obtain ⟨index, line, rfl, at', inside⟩ := onLine.mp there
    have outside := List.findIdx?_eq_none_iff.mp found line (List.mem_of_getElem? at')
    exact Bool.false_ne_true (outside.symm.trans inside)

/-- What a warning says about something that has no effect. A key that is written as it is stands on the line of the
warning, unless an earlier line has the same characters. A date has no such key, and its warning names one that nobody
wrote. -/
inductive Points (content file : String) : Ignored → Warning → Prop where
  | key {key : Toml.Key} {spelled : List Char} {name : String} {line : Option Nat}
    (there : key.Spelled content.toList spelled) (part : LastPart key.text name) (first : FirstLine content name line)
    (own : Toml.Plain spelled → ∃ number ∈ line, number ≤ key.line content.toList ∧
      (number = key.line content.toList ↔ ∀ earlier < key.line content.toList, ¬ OnLine content name earlier)) :
    Points content file (.key key) (.unknownKey name file line (suggestion name))
  | date {line : Option Nat} (first : FirstLine content Setting.datetimeKey line) :
    Points content file .date (.unknownKey Setting.datetimeKey file line (suggestion Setting.datetimeKey))

section Keys
variable {content : String} {key : Toml.Key} {spelled : List Char} {name : String}

theorem FirstLine.exists_le {line : Option Nat} {own : Nat} (first : FirstLine content name line)
    (there : OnLine content name own) :
    ∃ number ∈ line, number ≤ own ∧ (number = own ↔ ∀ earlier < own, ¬ OnLine content name earlier) := by
  cases line with
  | none => exact absurd there (first own)
  | some number =>
    obtain ⟨here, before⟩ := first
    have least : number ≤ own := Nat.le_of_not_lt fun earlier => before own earlier there
    refine ⟨number, rfl, least, ?_, ?_⟩
    · rintro rfl
      exact before
    · intro none
      exact Nat.le_antisymm least (Nat.le_of_not_lt fun earlier => none number earlier here)

theorem ofKey_points (file : String)
    (written : key.WrittenIn (Toml.bytes content.toList) (Toml.letters content.toList)) :
    Points content file (.key key) (ofKey content file (Ignored.key key).name) := by
  obtain ⟨before, spelled, after, whole, span, nonempty, feed, carriage, faithful⟩ := written.spelled
  have part := Setting.lastPart_reported key.text
  have first := firstLine_lineOf content (Setting.reported key.text)
  refine .key ⟨before, after, by rw [whole, List.append_assoc], span⟩ part first fun plain => first.exists_le ?_
  obtain ⟨line, here, inside⟩ := Text.exists_line feed carriage nonempty [] before after
  rw [← whole] at here
  have own : key.line content.toList = before.count '\n' + 1 := by
    rw [whole]
    exact Toml.Key.line_eq (congrArg Toml.Span.start span)
  exact ⟨_, line, own, here, part.isInfix.trans ((faithful plain).trans inside)⟩

end Keys
end Warning

section Documents
open Toml (Item Entries)
variable {Good : Toml.Key → Prop} {key : Toml.Key}

theorem Setting.good_of_mem_ignored {F : Type} {fields : List (String × F)} {below : F → Item → List Ignored}
    (inner : ∀ field item, item.Keyed Good → .key key ∈ below field item → Good key) {item : Item}
    (keyed : item.Keyed Good) (member : .key key ∈ ignored fields below item) : Good key := by
  match item with
  | .table _ _ entries =>
    obtain ⟨entry, inside, member⟩ := List.mem_flatMap.mp member
    cases known : fields.lookup entry.1.text with
    | some field =>
      rw [known] at member
      exact inner field entry.2 (keyed.of_table.each entry inside) member
    | none =>
      rw [known] at member
      obtain rfl : key = entry.1 := Ignored.key.inj (List.mem_singleton.mp member)
      exact keyed.of_table.good entry inside
  | .array _ items | .tables _ items =>
    obtain ⟨part, inside, member⟩ := List.mem_flatMap.mp member
    have each : ∀ item ∈ items, item.Keyed Good := by cases keyed; assumption
    exact inner part.1 part.2 (each part.2 (List.of_mem_zip inside).2) member
  | .scalar _ .datetime => cases List.mem_singleton.mp member
  | .scalar _ (.boolean _) | .scalar _ (.integer _) | .scalar _ (.float _) | .text _ _ => cases member

namespace Settings
variable {entries : Entries}

theorem good_of_mem_ignored (keyed : entries.Keyed Good) (member : .key key ∈ ignored entries) : Good key := by
  have nothing (F : Type) (field : F) (item : Item) (_ : item.Keyed Good) (inside : Ignored.key key ∈ []) : Good key :=
    absurd inside List.not_mem_nil
  refine Setting.good_of_mem_ignored (fun field item keyed inside => ?_) (keyed.table .headed none) member
  cases field with
  | display => exact Setting.good_of_mem_ignored (nothing DisplayField) keyed inside
  | output => exact Setting.good_of_mem_ignored (nothing OutputField) keyed inside

/-- Each warning about a file names the last part of a key of the file, and points at the first line that has its
characters. -/
theorem load_points {files : Files} {path content : String} (read : files.readText path = .ok content)
    (document : Toml.read? content.toList = some entries) {settings : Settings} {warnings : List Warning}
    (loaded : load files path = .ok (settings, warnings)) :
    List.Forall₂ (Warning.Points content path) (ignored entries) warnings := by
  have keyed := Toml.read?_keyed document
  obtain ⟨_, rfl⟩ := (load_ok_iff read document).mp loaded
  rw [List.forall₂_map_right_iff, List.forall₂_same]
  intro mark member
  cases mark with
  | key key => exact Warning.ofKey_points path (good_of_mem_ignored keyed member)
  | date => exact .date (Warning.firstLine_lineOf content _)

def mentioned : String := "# widht\n\"a.b\" = 1\n[display]\nwidht = 1\n"

def mentionedEntries : Entries :=
  [(⟨"a.b", 8, 13⟩, .scalar ⟨16, 17⟩ (.integer 1)),
    (⟨"display", 19, 26⟩, .table .headed (some ⟨18, 37⟩) [(⟨"widht", 28, 33⟩, .scalar ⟨36, 37⟩ (.integer 1))])]

/-- The warnings name only a part of one key, and point at the comment for the other. -/
theorem mentioned_points :
    let dotted : Toml.Key := ⟨"a.b", 8, 13⟩
    let misspelt : Toml.Key := ⟨"widht", 28, 33⟩
    let warnings : List Warning := [.unknownKey "b" "/oledmenu.toml" (some 2) none,
      .unknownKey "widht" "/oledmenu.toml" (some 1) (some "width")]
    load (fileOf mentioned) "/oledmenu.toml" = .ok ({}, warnings) ∧
      List.Forall₂ (Warning.Points mentioned "/oledmenu.toml") [.key dotted, .key misspelt] warnings ∧
      dotted.line mentioned.toList = 2 ∧ misspelt.line mentioned.toList = 4 := by
  intro dotted misspelt warnings
  have document : Toml.read? mentioned.toList = some mentionedEntries := by decide +kernel
  have loaded : load (fileOf mentioned) "/oledmenu.toml" = .ok ({}, warnings) := by
    refine (load_ok_iff (readText_fileOf mentioned) document).mpr ⟨⟨_, rfl⟩, ?_⟩
    decide +kernel
  exact ⟨loaded, load_points (readText_fileOf mentioned) document loaded, by decide +kernel, by decide +kernel⟩

end Settings
end Documents
end PanelMenu
