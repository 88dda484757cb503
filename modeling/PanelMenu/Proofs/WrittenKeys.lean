import PanelMenu.Proofs.LettersLeft

/-! Keys as they are written. A reader leaves an end of the text that it was given, so what it has read stands in
one piece where it began, and the span of a key marks this piece. A key is written on one line, and character by
character unless it has escapes. -/

namespace PanelMenu.Toml

def chars (text : Letters) : List Char :=
  text.map (·.char)

def OneLine (text : Letters) : Prop :=
  ∀ letter ∈ text, letter.char ≠ '\n' ∧ letter.char ≠ '\r'

/-- A key is written as it is, which it is unless a backslash stands between double quotes. -/
def Plain (spelled : List Char) : Prop :=
  spelled.head? = some '"' → '\\' ∉ spelled

section Characters
variable {c : Char}

theorem oneLine_of_isCommentChar (allowed : isCommentChar c = true) : c ≠ '\n' ∧ c ≠ '\r' := by
  constructor <;> rintro rfl <;> exact absurd allowed (by decide)

theorem oneLine_of_isBareKeyChar (allowed : isBareKeyChar c = true) : c ≠ '\n' ∧ c ≠ '\r' := by
  constructor <;> rintro rfl <;> exact absurd allowed (by decide)

theorem oneLine_of_addDigit {left value : Nat} {result : (Nat × Nat) ⊕ Char}
    (digit : addDigit left value c = some result) : c ≠ '\n' ∧ c ≠ '\r' := by
  constructor <;> rintro rfl <;> cases digit

theorem oneLine_of_escaped {result : Char} (escape : escaped? c = some result) : c ≠ '\n' ∧ c ≠ '\r' := by
  constructor <;> rintro rfl <;> cases escape

theorem oneLine_of_codeLength {length : Nat} (code : codeLength? c = some length) : c ≠ '\n' ∧ c ≠ '\r' := by
  constructor <;> rintro rfl <;> cases code

end Characters

/-- What was read stands at the beginning of the text, on one line, and `Faithful` is known of its characters. -/
def Begins (Faithful : List Char → Prop) (text rest : Letters) : Prop :=
  ∃ spelled, text = spelled ++ rest ∧ OneLine spelled ∧ Faithful (chars spelled)

section Begins
variable {text rest : Letters} {letter : Letter} {Faithful More : List Char → Prop}

theorem Begins.suffix (begins : Begins Faithful text rest) : rest <:+ text := by
  obtain ⟨spelled, rfl, _⟩ := begins
  exact List.suffix_append spelled rest

theorem Begins.single (line : letter.char ≠ '\n' ∧ letter.char ≠ '\r') (faithful : Faithful [letter.char]) :
    Begins Faithful (letter :: rest) rest :=
  ⟨[letter], rfl, by simpa [OneLine] using line, faithful⟩

theorem Begins.cons (line : letter.char ≠ '\n' ∧ letter.char ≠ '\r') (begins : Begins Faithful text rest)
    (more : ∀ spelled, Faithful spelled → More (letter.char :: spelled)) : Begins More (letter :: text) rest := by
  obtain ⟨spelled, rfl, lines, faithful⟩ := begins
  refine ⟨letter :: spelled, rfl, ?_, more _ faithful⟩
  exact List.forall_mem_cons.mpr ⟨line, lines⟩

end Begins

theorem exists_of_startsWith {c : Char} {text : Letters} (first : startsWith c text = true) :
    ∃ letter rest, text = letter :: rest ∧ letter.char = c := by
  cases text with
  | nil => cases first
  | cons letter rest => exact ⟨letter, rest, rfl, eq_of_beq first⟩

section Quotes
variable {text rest : Letters} {value : String} {read : List Char}

theorem readBasic_begins {code : Option (Nat × Nat)} (ok : readBasic code read text = some (value, rest)) :
    Begins (fun spelled => code = none → '\\' ∉ spelled → value.toList <+: read.reverse ++ spelled) text rest := by
  fun_induction readBasic code read text with
  | case1 | case2 | case6 | case9 | case11 => cases ok
  | case3 _ _ _ _ _ _ _ digit ih => exact (ih ok).cons (oneLine_of_addDigit digit) fun _ _ => nofun
  | case4 _ _ _ _ _ _ _ digit ih => exact (ih ok).cons (oneLine_of_addDigit digit) fun _ _ => nofun
  | case5 read letter _ c quote =>
    obtain ⟨rfl, rfl⟩ := Prod.mk.inj (Option.some.inj ok)
    have closing : letter.char = '"' := eq_of_beq quote
    refine .single (by rw [closing]; decide) fun _ _ => ?_
    rw [String.toList_ofList]
    exact List.prefix_append _ _
  | case7 read letter c _ escape next _ _ known ih =>
    have backslash : letter.char = '\\' := eq_of_beq escape
    have after : Begins (fun _ => True) (next :: _) rest :=
      (ih ok).cons (oneLine_of_escaped known) fun _ _ => trivial
    refine after.cons (by rw [backslash]; decide) fun _ _ _ none => ?_
    exact absurd (backslash ▸ List.mem_cons_self) none
  | case8 read letter c _ escape next _ _ known _ ih =>
    have backslash : letter.char = '\\' := eq_of_beq escape
    have after : Begins (fun _ => True) (next :: _) rest :=
      (ih ok).cons (oneLine_of_codeLength known) fun _ _ => trivial
    refine after.cons (by rw [backslash]; decide) fun _ _ _ none => ?_
    exact absurd (backslash ▸ List.mem_cons_self) none
  | case10 read letter _ c _ _ allowed ih =>
    refine (ih ok).cons (oneLine_of_isCommentChar allowed) fun spelled faithful same none => ?_
    simpa using faithful same (mt (List.mem_cons_of_mem _) none)

theorem readLiteral_begins (ok : readLiteral read text = some (value, rest)) :
    Begins (fun spelled => value.toList <+: read.reverse ++ spelled) text rest := by
  fun_induction readLiteral read text with
  | case1 | case4 => cases ok
  | case2 read letter _ quote =>
    obtain ⟨rfl, rfl⟩ := Prod.mk.inj (Option.some.inj ok)
    have closing : letter.char = '\'' := eq_of_beq quote
    refine .single (by rw [closing]; decide) ?_
    rw [String.toList_ofList]
    exact List.prefix_append _ _
  | case3 read letter _ _ allowed ih =>
    refine (ih ok).cons (oneLine_of_isCommentChar allowed) fun spelled faithful => ?_
    simpa using faithful

theorem readText_suffix (ok : readText text = some (value, rest)) : rest <:+ text := by
  have behind := (dropFirstNewline_suffix (text.drop 3)).trans (List.drop_suffix 3 text)
  have next := List.drop_suffix 1 text
  rw [readText] at ok
  split at ok
  next =>
    split at ok
    · exact (readLongBasic_suffix ok).trans behind
    · exact (readBasic_begins ok).suffix.trans next
  next =>
    split at ok
    · exact (readLongLiteral_suffix ok).trans behind
    · exact (readLiteral_begins ok).suffix.trans next

end Quotes

def word (text : Letters) : Letters :=
  text.takeWhile fun letter => isBareKeyChar letter.char

theorem word_append (text : Letters) : text = word text ++ text.drop (chars (word text)).length := by
  rw [chars, List.length_map]
  exact (List.prefix_iff_eq_append.mp (List.takeWhile_prefix _)).symm

theorem oneLine_word (text : Letters) : OneLine (word text) := fun letter member =>
  oneLine_of_isBareKeyChar (List.all_eq_true.mp List.all_takeWhile letter member)

section Keys
variable {finish : Nat} {text rest : Letters} {key : Key}

/-- What is written for a key. -/
structure Spells (finish : Nat) (text : Letters) (key : Key) (rest : Letters) : Prop where
  begins : Begins (fun spelled => Plain spelled → key.text.toList <:+: spelled) text rest
  nonempty : rest.length < text.length
  span : key.span = ⟨offsetAt finish text, offsetAt finish rest⟩

theorem readSimpleKey_spells (ok : readSimpleKey finish text = some (key, rest)) : Spells finish text key rest := by
  rw [readSimpleKey] at ok
  split at ok
  next quoted =>
    obtain ⟨⟨name, _⟩, read, same⟩ := Option.map_eq_some_iff.mp ok
    obtain ⟨rfl, rfl⟩ := Prod.mk.inj same
    obtain ⟨letter, behind, rfl, double⟩ := exists_of_startsWith quoted
    have begins := readBasic_begins read
    refine ⟨begins.cons (by rw [double]; decide) fun spelled faithful plain => ?_, ?_, rfl⟩
    · have none := plain (by rw [double]; rfl)
      have inside := faithful rfl (mt (List.mem_cons_of_mem _) none)
      exact List.infix_cons inside.isInfix
    · exact Nat.lt_succ_of_le begins.suffix.length_le
  split at ok
  next quoted =>
    obtain ⟨⟨name, _⟩, read, same⟩ := Option.map_eq_some_iff.mp ok
    obtain ⟨rfl, rfl⟩ := Prod.mk.inj same
    obtain ⟨letter, behind, rfl, single⟩ := exists_of_startsWith quoted
    have begins := readLiteral_begins read
    refine ⟨begins.cons (by rw [single]; decide) fun spelled faithful _ => ?_, ?_, rfl⟩
    · exact List.infix_cons faithful.isInfix
    · exact Nat.lt_succ_of_le begins.suffix.length_le
  next =>
    change (if (chars (word text)).isEmpty then none else some _) = _ at ok
    split at ok
    next => cases ok
    next nonempty =>
      obtain ⟨rfl, rfl⟩ := Prod.mk.inj (Option.some.inj ok)
      refine ⟨⟨word text, word_append text, oneLine_word text, fun _ => ?_⟩, ?_, rfl⟩
      · change (String.ofList (chars (word text))).toList <:+: chars (word text)
        simp
      · have long : 0 < (word text).length := by simpa [chars, List.length_pos_iff] using nonempty
        have sizes := congrArg List.length (word_append text)
        rw [List.length_append] at sizes
        change (text.drop (chars (word text)).length).length < text.length
        omega

/-- A key is written somewhere in a text. -/
def Key.WrittenIn (finish : Nat) (all : Letters) (key : Key) : Prop :=
  ∃ text rest, text <:+ all ∧ Spells finish text key rest

section Paths
variable {all : Letters} {keys path : List Key} (within : text <:+ all)
include within

theorem readKeyParts_written {fuel : Nat} (ok : readKeyParts finish fuel text = some (keys, rest)) :
    (∀ key ∈ keys, key.WrittenIn finish all) ∧ rest <:+ text := by
  induction fuel generalizing text keys with
  | zero => cases ok
  | succ fuel ih =>
    rw [readKeyParts] at ok
    obtain ⟨⟨key, behind⟩, read, ok⟩ := Option.bind_eq_some_iff.mp ok
    have spells := readSimpleKey_spells read
    have start := dropBlanks_suffix text
    have left := (dropBlanks_suffix behind).trans (spells.begins.suffix.trans start)
    have here : key.WrittenIn finish all := ⟨_, _, start.trans within, spells⟩
    dsimp only at ok
    split at ok
    next =>
      obtain ⟨⟨others, _⟩, later, same⟩ := Option.bind_eq_some_iff.mp ok
      obtain ⟨rfl, rfl⟩ := Prod.mk.inj (Option.some.inj same)
      have behindDot := (List.drop_suffix 1 _).trans left
      obtain ⟨written, suffix⟩ := ih (behindDot.trans within) later
      exact ⟨List.forall_mem_cons.mpr ⟨here, written⟩, suffix.trans behindDot⟩
    next =>
      obtain ⟨rfl, rfl⟩ := Prod.mk.inj (Option.some.inj ok)
      exact ⟨List.forall_mem_singleton.mpr here, left⟩

theorem readKey_written (ok : readKey finish text = some ((path, key), rest)) :
    (∀ step ∈ path, step.WrittenIn finish all) ∧ key.WrittenIn finish all ∧ rest <:+ text := by
  rw [readKey] at ok
  obtain ⟨⟨keys, _⟩, read, ok⟩ := Option.bind_eq_some_iff.mp ok
  obtain ⟨last, found, same⟩ := Option.bind_eq_some_iff.mp ok
  obtain ⟨parts, rfl⟩ := Prod.mk.inj (Option.some.inj same)
  obtain ⟨rfl, rfl⟩ := Prod.mk.inj parts
  obtain ⟨written, suffix⟩ := readKeyParts_written within read
  exact ⟨fun step member => written step ((List.dropLast_sublist keys).subset member),
    written _ (List.mem_of_getLast? found), suffix⟩

end Paths

end Keys
end PanelMenu.Toml
