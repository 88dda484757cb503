import PanelMenu.Json.Value
import PanelMenu.Number.Decimal

/-! A reader of JSON, as far as there are values for it: numbers are natural. It also takes what `print`
never writes, such as blanks between the tokens and other escapes. What `print` writes it reads back. -/

namespace PanelMenu.Json

def isSpace (c : Char) : Bool :=
  c == ' ' || c == '\t' || c == '\n' || c == '\r'

def skip (text : List Char) : List Char :=
  text.dropWhile isSpace

/-- The character with a code in hexadecimal digits. Halves of pairs are no characters. -/
def charOfHex? (digits : List Char) : Option Char :=
  let code := Number.ofDigits 16 digits
  if digits.all (Number.isDigitOf 16) ∧ (code < 0xD800 ∨ 0xDFFF < code) then some (Char.ofNat code) else none

def unescape? : Char → Option Char
  | '"' => some '"'
  | '\\' => some '\\'
  | '/' => some '/'
  | 'b' => some '\x08'
  | 'f' => some '\x0c'
  | 'n' => some '\n'
  | 'r' => some '\r'
  | 't' => some '\t'
  | _ => none

def readEscape : List Char → Option (Char × List Char)
  | [] => none
  | 'u' :: a :: b :: c :: d :: rest => (charOfHex? [a, b, c, d]).map (·, rest)
  | c :: rest => (unescape? c).map (·, rest)

def readChar : List Char → Option (Char × List Char)
  | [] => none
  | c :: rest =>
    if c = '\\' then readEscape rest
    else if c.toNat < 0x20 then none
    else some (c, rest)

def readString : Nat → List Char → Option (List Char × List Char)
  | 0, _ => none
  | steps + 1, text =>
    if text.head? = some '"' then some ([], text.tail)
    else do
      let (c, rest) ← readChar text
      let (read, rest) ← readString steps rest
      return (c :: read, rest)

def readNumber (text : List Char) : Option (Json × List Char) :=
  let digits := text.takeWhile Char.isDigit
  if digits.head? = some '0' ∧ digits.length ≠ 1 then none
  else some (number (Nat.ofDigitChars 10 digits 0), text.dropWhile Char.isDigit)

mutual

/-- A value from the front of a text. Every step takes a character, so there are enough of them if there are
as many as characters. -/
def readValue : Nat → List Char → Option (Json × List Char)
  | 0, _ => none
  | steps + 1, text =>
    match skip text with
    | [] => none
    | c :: rest =>
      if c.isDigit then readNumber (c :: rest)
      else match c, rest with
        | 'n', 'u' :: 'l' :: 'l' :: rest => some (null, rest)
        | 't', 'r' :: 'u' :: 'e' :: rest => some (boolean true, rest)
        | 'f', 'a' :: 'l' :: 's' :: 'e' :: rest => some (boolean false, rest)
        | '"', rest => (readString steps rest).map fun (read, rest) => (string (.ofList read), rest)
        | '[', rest =>
          match skip rest with
          | ']' :: rest => some (array [], rest)
          | rest => (readItems steps rest).map fun (items, rest) => (array items, rest)
        | '\x7b', rest =>
          match skip rest with
          | '\x7d' :: rest => some (object [], rest)
          | rest => (readMembers steps rest).map fun (members, rest) => (object members, rest)
        | _, _ => none

def readItems : Nat → List Char → Option (List Json × List Char)
  | 0, _ => none
  | steps + 1, text => do
    let (item, rest) ← readValue steps text
    match skip rest with
    | ']' :: rest => return ([item], rest)
    | ',' :: rest =>
      let (items, rest) ← readItems steps rest
      return (item :: items, rest)
    | _ => none

def readMembers : Nat → List Char → Option (List (String × Json) × List Char)
  | 0, _ => none
  | steps + 1, text => do
    let '"' :: rest := skip text | none
    let (name, rest) ← readString steps rest
    let ':' :: rest := skip rest | none
    let (value, rest) ← readValue steps rest
    match skip rest with
    | '\x7d' :: rest => return ([(.ofList name, value)], rest)
    | ',' :: rest =>
      let (members, rest) ← readMembers steps rest
      return ((.ofList name, value) :: members, rest)
    | _ => none

end

def parse? (text : List Char) : Option Json :=
  match readValue text.length text with
  | some (value, rest) => if (skip rest).isEmpty then some value else none
  | none => none

theorem charOfHex?_hexDigit {n : Nat} (control : n < 0x20) :
    charOfHex? ['0', '0', hexDigit (n / 16), hexDigit (n % 16)] = some (Char.ofNat n) := by
  revert n
  decide

theorem readChar_escapeChar (c : Char) (rest : List Char) : readChar (escapeChar c ++ rest) = some (c, rest) := by
  unfold escapeChar
  split
  case h_8 quote backslash _ _ _ _ _ =>
    split
    next control =>
      change (charOfHex? ['0', '0', hexDigit (c.toNat / 16), hexDigit (c.toNat % 16)]).map (·, rest) = some (c, rest)
      rw [charOfHex?_hexDigit control, Char.ofNat_toNat]
      rfl
    next visible => rw [List.singleton_append, readChar, if_neg backslash, if_neg visible]
  all_goals rfl

theorem head?_escapeChar (c : Char) : ∃ first rest, escapeChar c = first :: rest ∧ first ≠ '"' := by
  unfold escapeChar
  split
  case h_8 quote _ _ _ _ _ _ =>
    split
    · exact ⟨_, _, rfl, by decide⟩
    · exact ⟨_, _, rfl, quote⟩
  all_goals exact ⟨_, _, rfl, by decide⟩

theorem readString_quoted {steps : Nat} (text rest : List Char) (enough : text.length < steps) :
    readString steps (text.flatMap escapeChar ++ '"' :: rest) = some (text, rest) := by
  induction text generalizing steps with
  | nil =>
    cases steps with
    | zero => cases enough
    | succ steps => rfl
  | cons c text ih =>
    cases steps with
    | zero => cases enough
    | succ steps =>
      obtain ⟨first, others, escaped, different⟩ := head?_escapeChar c
      have inside : (escapeChar c ++ (text.flatMap escapeChar ++ '"' :: rest)).head? ≠ some '"' := by
        rw [escaped]
        intro same
        exact different (Option.some.inj same)
      rw [List.flatMap_cons, List.append_assoc, readString, if_neg inside, readChar_escapeChar]
      simp only [Option.bind_eq_bind, Option.bind_some, ih (Nat.lt_of_succ_lt_succ enough)]
      rfl

/-- What may follow a number. -/
def Ends (rest : List Char) : Prop :=
  ∀ c ∈ rest.head?, c.isDigit = false

theorem head?_toDigits {n : Nat} (many : (Nat.toDigits 10 n).length ≠ 1) : (Nat.toDigits 10 n).head? ≠ some '0' := by
  induction n using Nat.strongRecOn with
  | ind n ih =>
    rw [Nat.toDigits_eq_if (by decide)] at many ⊢
    split at many
    next small => exact absurd rfl many
    next large =>
      have front : (Nat.toDigits 10 (n / 10) ++ [(n % 10).digitChar]).head? = (Nat.toDigits 10 (n / 10)).head? := by
        cases digits : Nat.toDigits 10 (n / 10) with
        | nil => exact absurd digits Nat.toDigits_ne_nil
        | cons c rest => rfl
      rw [if_neg large, front]
      by_cases single : (Nat.toDigits 10 (n / 10)).length = 1
      · have small : n / 10 < 10 := by
          have bound := (Nat.length_toDigits_le_iff (b := 10) (n := n / 10) (k := 1) (by decide) (by decide)).mp
            (Nat.le_of_eq single)
          rwa [Nat.pow_one] at bound
        rw [Nat.toDigits_of_lt_base small, List.head?_cons, ne_eq, Option.some.injEq, Nat.digitChar_eq_zero]
        omega
      · exact ih (n / 10) (by omega) single

theorem readNumber_toDigits (n : Nat) {rest : List Char} (ends : Ends rest) :
    readNumber (Nat.toDigits 10 n ++ rest) = some (number n, rest) := by
  have digits : ∀ c ∈ Nat.toDigits 10 n, c.isDigit = true :=
    fun c member => Nat.isDigit_of_mem_toDigits (by decide) (by decide) member
  have stop : rest.takeWhile Char.isDigit = [] ∧ rest.dropWhile Char.isDigit = rest := by
    cases rest with
    | nil => exact ⟨rfl, rfl⟩
    | cons c rest =>
      have other := ends c rfl
      simp [other]
  rw [readNumber, List.takeWhile_append_of_pos digits, List.dropWhile_append_of_pos digits, stop.1, stop.2,
    List.append_nil, if_neg, Nat.ofDigitChars_ten_toDigits]
  rintro ⟨leading, many⟩
  exact head?_toDigits many leading

theorem isSpace_of_isDigit {c : Char} (digit : c.isDigit = true) : isSpace c = false := by
  cases space : isSpace c with
  | false => rfl
  | true =>
    simp only [isSpace, Bool.or_eq_true, beq_iff_eq] at space
    rcases space with ((rfl | rfl) | rfl) | rfl
    all_goals cases digit

theorem toDigits_cons (n : Nat) : ∃ c rest, Nat.toDigits 10 n = c :: rest ∧ c.isDigit = true := by
  cases digits : Nat.toDigits 10 n with
  | nil => exact absurd digits Nat.toDigits_ne_nil
  | cons c rest =>
    refine ⟨c, rest, rfl, ?_⟩
    apply Nat.isDigit_of_mem_toDigits (b := 10) (n := n) (by decide) (by decide)
    rw [digits]
    exact List.mem_cons_self

theorem print_head (value : Json) : ∃ c rest, print value = c :: rest ∧ isSpace c = false ∧ c ≠ ']' := by
  cases value with
  | null => exact ⟨_, _, rfl, rfl, by decide⟩
  | boolean value => cases value <;> exact ⟨_, _, rfl, rfl, by decide⟩
  | number n =>
    obtain ⟨c, rest, digits, digit⟩ := toDigits_cons n
    refine ⟨c, rest, by rw [print, digits], isSpace_of_isDigit digit, ?_⟩
    rintro rfl
    cases digit
  | string text => exact ⟨_, _, rfl, rfl, by decide⟩
  | array items => exact ⟨_, _, rfl, rfl, by decide⟩
  | object members => exact ⟨_, _, rfl, rfl, by decide⟩

theorem length_le_flatMap_escapeChar (text : List Char) : text.length ≤ (text.flatMap escapeChar).length := by
  induction text with
  | nil => exact Nat.le_refl 0
  | cons c rest ih =>
    obtain ⟨first, others, escaped, _⟩ := head?_escapeChar c
    rw [List.flatMap_cons, List.length_append, escaped, List.length_cons, List.length_cons]
    omega

theorem readString_quote (steps : Nat) (text : String) (rest : List Char)
    (enough : (quote text).length ≤ steps + 1) :
    ∃ body, quote text ++ rest = '"' :: body ∧ readString steps body = some (text.toList, rest) := by
  refine ⟨text.toList.flatMap escapeChar ++ '"' :: rest, by simp [quote], ?_⟩
  have short := length_le_flatMap_escapeChar text.toList
  apply readString_quoted
  simp only [quote, List.length_append, List.length_cons, List.length_nil] at enough
  omega

theorem printItems_cons (item next : Json) (items : List Json) :
    printItems (item :: next :: items) = print item ++ ',' :: printItems (next :: items) := by
  simp [printItems]

theorem printMembers_cons (name : String) (value : Json) (next : String × Json) (members : List (String × Json)) :
    printMembers ((name, value) :: next :: members) =
      quote name ++ ':' :: (print value ++ ',' :: printMembers (next :: members)) := by
  simp [printMembers]

theorem printItems_head (item : Json) (items : List Json) :
    ∃ c rest, printItems (item :: items) = c :: rest ∧ isSpace c = false ∧ c ≠ ']' := by
  obtain ⟨c, rest, printed, dense, filled⟩ := print_head item
  cases items with
  | nil => exact ⟨c, rest, by rw [printItems, printed], dense, filled⟩
  | cons next items => exact ⟨c, _, by rw [printItems_cons, printed, List.cons_append], dense, filled⟩

theorem printMembers_head (name : String) (value : Json) (members : List (String × Json)) :
    ∃ rest, printMembers ((name, value) :: members) = '"' :: rest := by
  cases members with
  | nil => exact ⟨_, rfl⟩
  | cons member members => exact ⟨_, rfl⟩

theorem skip_eq {c : Char} (dense : isSpace c = false) (rest : List Char) : skip (c :: rest) = c :: rest := by
  rw [skip, List.dropWhile_cons_of_neg (by simp [dense])]

theorem readValue_digit {c : Char} (digit : c.isDigit = true) (steps : Nat) (rest : List Char) :
    readValue (steps + 1) (c :: rest) = readNumber (c :: rest) := by
  rw [readValue, skip_eq (isSpace_of_isDigit digit)]
  exact if_pos digit

theorem readValue_items {c : Char} (dense : isSpace c = false) (filled : c ≠ ']') (steps : Nat) (rest : List Char) :
    readValue (steps + 1) ('[' :: c :: rest) =
      (readItems steps (c :: rest)).map fun (items, rest) => (array items, rest) := by
  have skipped := skip_eq dense rest
  change (match skip (c :: rest) with
    | ']' :: rest => some (array [], rest)
    | rest => (readItems steps rest).map fun (items, rest) => (array items, rest)) = _
  rw [skipped]
  split
  next empty => exact absurd (List.cons.inj empty).1 filled
  next => rfl

/-- What has been written is read in so many steps, if it is no longer than that. -/
structure ReadsBack (steps : Nat) : Prop where
  value : ∀ (value : Json) (rest : List Char), (print value).length ≤ steps → Ends rest →
    readValue steps (print value ++ rest) = some (value, rest)
  items : ∀ (item : Json) (items : List Json) (rest : List Char), (printItems (item :: items)).length < steps →
    readItems steps (printItems (item :: items) ++ ']' :: rest) = some (item :: items, rest)
  members : ∀ (name : String) (value : Json) (members : List (String × Json)) (rest : List Char),
    (printMembers ((name, value) :: members)).length < steps →
    readMembers steps (printMembers ((name, value) :: members) ++ '\x7d' :: rest) =
      some ((name, value) :: members, rest)

namespace ReadsBack
variable {steps : Nat} (reads : ReadsBack steps)
include reads

theorem value_succ (value : Json) (rest : List Char) (enough : (print value).length ≤ steps + 1) (ends : Ends rest) :
    readValue (steps + 1) (print value ++ rest) = some (value, rest) := by
  cases value with
  | null => rfl
  | boolean value => cases value <;> rfl
  | number n =>
    obtain ⟨c, others, digits, digit⟩ := toDigits_cons n
    have number := readNumber_toDigits n ends
    rw [digits] at number
    rw [print, digits, List.cons_append, readValue_digit digit]
    exact number
  | string text =>
    obtain ⟨body, quoted, body_eq⟩ := readString_quote steps text rest enough
    rw [print, quoted]
    change (readString steps body).map _ = _
    simp only [body_eq, Option.map_some, String.ofList_toList]
  | array items =>
    cases items with
    | nil => rfl
    | cons item items =>
      simp only [print, List.length_cons, List.length_append, List.length_nil] at enough
      have rest_eq := reads.items item items rest (by omega)
      obtain ⟨first, more, front, dense, filled⟩ := printItems_head item items
      simp only [print, List.cons_append, List.append_assoc, List.nil_append]
      rw [front, List.cons_append] at rest_eq ⊢
      rw [readValue_items dense filled, rest_eq]
      rfl
  | object members =>
    cases members with
    | nil => rfl
    | cons member members =>
      obtain ⟨name, value⟩ := member
      simp only [print, List.length_cons, List.length_append, List.length_nil] at enough
      have rest_eq := reads.members name value members rest (by omega)
      obtain ⟨more, front⟩ := printMembers_head name value members
      simp only [print, List.cons_append, List.append_assoc, List.nil_append]
      rw [front, List.cons_append] at rest_eq ⊢
      change (readMembers steps _).map _ = _
      rw [rest_eq]
      rfl

theorem items_succ (item : Json) (items : List Json) (rest : List Char)
    (enough : (printItems (item :: items)).length < steps + 1) :
    readItems (steps + 1) (printItems (item :: items) ++ ']' :: rest) = some (item :: items, rest) := by
  cases items with
  | nil =>
    have item_eq := reads.value item (']' :: rest) (Nat.le_of_lt_succ enough) (by rintro _ ⟨⟩; rfl)
    rw [printItems, readItems, item_eq]
    rfl
  | cons next items =>
    simp only [printItems_cons, List.length_append, List.length_cons] at enough
    have item_eq := reads.value item (',' :: (printItems (next :: items) ++ ']' :: rest)) (by omega)
      (by rintro _ ⟨⟩; rfl)
    have items_eq := reads.items next items rest (by omega)
    rw [printItems_cons, List.append_assoc, List.cons_append, readItems, item_eq]
    simp only [Option.bind_eq_bind, Option.bind_some]
    change (readItems steps _).bind _ = _
    rw [items_eq]
    rfl

theorem members_succ (name : String) (value : Json) (members : List (String × Json)) (rest : List Char)
    (enough : (printMembers ((name, value) :: members)).length < steps + 1) :
    readMembers (steps + 1) (printMembers ((name, value) :: members) ++ '\x7d' :: rest) =
      some ((name, value) :: members, rest) := by
  cases members with
  | nil =>
    simp only [printMembers, List.length_append, List.length_cons] at enough
    obtain ⟨body, quoted, name_eq⟩ :=
      readString_quote steps name (':' :: (print value ++ '\x7d' :: rest)) (by omega)
    have value_eq := reads.value value ('\x7d' :: rest) (by omega) (by rintro _ ⟨⟩; rfl)
    rw [printMembers, List.append_assoc, List.cons_append, quoted, readMembers]
    simp only [skip_eq (c := '"') rfl, name_eq, Option.bind_eq_bind, Option.bind_some, skip_eq (c := ':') rfl,
      value_eq, skip_eq (c := '\x7d') rfl, String.ofList_toList]
    rfl
  | cons next members =>
    obtain ⟨nextName, nextValue⟩ := next
    simp only [printMembers_cons, List.length_append, List.length_cons] at enough
    obtain ⟨body, quoted, name_eq⟩ := readString_quote steps name
      (':' :: (print value ++ ',' :: (printMembers ((nextName, nextValue) :: members) ++ '\x7d' :: rest))) (by omega)
    have value_eq := reads.value value (',' :: (printMembers ((nextName, nextValue) :: members) ++ '\x7d' :: rest))
      (by omega) (by rintro _ ⟨⟩; rfl)
    have members_eq := reads.members nextName nextValue members rest (by omega)
    rw [printMembers_cons, List.append_assoc, List.cons_append, List.append_assoc, List.cons_append, quoted,
      readMembers]
    simp only [skip_eq (c := '"') rfl, name_eq, Option.bind_eq_bind, Option.bind_some, skip_eq (c := ':') rfl,
      value_eq, skip_eq (c := ',') rfl, String.ofList_toList]
    rw [members_eq]
    rfl

end ReadsBack

theorem readsBack (steps : Nat) : ReadsBack steps := by
  induction steps with
  | zero =>
    refine ⟨?_, fun _ _ _ enough => absurd enough (Nat.not_lt_zero _),
      fun _ _ _ _ enough => absurd enough (Nat.not_lt_zero _)⟩
    intro value rest enough
    obtain ⟨c, others, printed, _⟩ := print_head value
    rw [printed] at enough
    cases enough
  | succ steps ih => exact ⟨ih.value_succ, ih.items_succ, ih.members_succ⟩

/-- Nothing gets lost in a text, and nothing but the value can be read in it. -/
theorem parse?_print (value : Json) : parse? (print value) = some value := by
  have read := (readsBack (print value).length).value value [] (Nat.le_refl _) (by rintro _ ⟨⟩)
  rw [List.append_nil] at read
  rw [parse?, read]
  rfl

def Visible (text : List Char) : Prop :=
  ∀ c ∈ text, 0x20 ≤ c.toNat

instance (text : List Char) : Decidable (Visible text) :=
  decidable_of_iff (text.all fun c => 0x20 ≤ c.toNat) (by simp [Visible])

namespace Visible
variable {c : Char} {first second : List Char}

theorem cons (shown : 0x20 ≤ c.toNat) (visible : Visible first) : Visible (c :: first) :=
  List.forall_mem_cons.mpr ⟨shown, visible⟩

theorem append (visible : Visible first) (alsoVisible : Visible second) : Visible (first ++ second) :=
  List.forall_mem_append.mpr ⟨visible, alsoVisible⟩

theorem not_mem (visible : Visible first) (control : c.toNat < 0x20) : c ∉ first := by
  intro member
  exact absurd (visible c member) (Nat.not_le.mpr control)

end Visible

theorem visible_escapeChar (c : Char) : Visible (escapeChar c) := by
  unfold escapeChar
  split
  case h_8 =>
    split
    next control =>
      have digits : ∀ n < 0x20, Visible ['\\', 'u', '0', '0', hexDigit (n / 16), hexDigit (n % 16)] := by decide
      exact digits _ control
    next shown => exact .cons (Nat.le_of_not_lt shown) (List.forall_mem_nil _)
  all_goals decide

theorem visible_quote (text : String) : Visible (quote text) := by
  have body : Visible (text.toList.flatMap escapeChar) := by
    intro c member
    obtain ⟨source, _, inside⟩ := List.mem_flatMap.mp member
    exact visible_escapeChar source c inside
  rw [quote]
  exact .append (.cons (by decide) body) (by decide)

mutual

theorem visible_print : ∀ value : Json, Visible (print value)
  | null | boolean true | boolean false => by decide
  | number n => by
    intro c member
    have digit := Nat.isDigit_of_mem_toDigits (b := 10) (n := n) (by decide) (by decide) member
    simp only [Char.isDigit, Bool.and_eq_true, decide_eq_true_eq] at digit
    exact Nat.le_trans (by decide) (UInt32.le_iff_toNat_le.mp digit.1)
  | string text => visible_quote text
  | array items => by
    rw [print]
    exact .append (.cons (by decide) (visible_printItems items)) (.cons (by decide) (List.forall_mem_nil _))
  | object members => by
    rw [print]
    exact .append (.cons (by decide) (visible_printMembers members)) (.cons (by decide) (List.forall_mem_nil _))

theorem visible_printItems : ∀ items : List Json, Visible (printItems items)
  | [] => List.forall_mem_nil _
  | [item] => visible_print item
  | item :: next :: items => by
    rw [printItems_cons]
    exact .append (visible_print item) (.cons (by decide) (visible_printItems (next :: items)))

theorem visible_printMembers : ∀ members : List (String × Json), Visible (printMembers members)
  | [] => List.forall_mem_nil _
  | [(name, value)] => by
    rw [printMembers]
    exact .append (visible_quote name) (.cons (by decide) (visible_print value))
  | (name, value) :: next :: members => by
    rw [printMembers_cons]
    exact .append (visible_quote name) (.cons (by decide)
      (.append (visible_print value) (.cons (by decide) (visible_printMembers (next :: members)))))

end

end PanelMenu.Json
