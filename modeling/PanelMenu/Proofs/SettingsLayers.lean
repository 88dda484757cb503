import Mathlib.Data.List.Basic
import PanelMenu.Proofs.SettingsFallback

/-! Where each setting comes from. Options go before variables, variables before the file, and the file before
what holds when nothing is set. Each setting is decided by itself: none depends on what is said of another. -/

namespace PanelMenu

namespace Number

def Spells (text : List Char) (n : Nat) : Prop :=
  ∃ digits, (text = digits ∨ text = '+' :: digits) ∧ digits ≠ [] ∧ (∀ c ∈ digits, c.isDigit = true) ∧
    Nat.ofDigitChars 10 digits 0 = n

private theorem isDigit_iff (c : Char) : c.isDigit = true ↔ '0'.toNat ≤ c.toNat ∧ c.toNat ≤ '9'.toNat := by
  simp only [Char.isDigit, Bool.and_eq_true, decide_eq_true_eq, ge_iff_le, UInt32.le_iff_toNat_le]
  exact Iff.rfl

private theorem between_iff (c : Char) : ('0' ≤ c && c ≤ '9') = true ↔ c.isDigit = true := by
  rw [isDigit_iff, Bool.and_eq_true, decide_eq_true_eq, decide_eq_true_eq, Char.le_def, Char.le_def,
    UInt32.le_iff_toNat_le, UInt32.le_iff_toNat_le]
  exact Iff.rfl

theorem digitValue_of_isDigit {c : Char} (digit : c.isDigit = true) : digitValue c = c.toNat - '0'.toNat := by
  rw [digitValue, if_pos ((between_iff c).mpr digit)]

theorem isDigitOf_ten (c : Char) : isDigitOf 10 c = c.isDigit := by
  cases digit : c.isDigit with
  | true =>
    obtain ⟨low, high⟩ := (isDigit_iff c).mp digit
    have zero : '0'.toNat = 48 := rfl
    have nine : '9'.toNat = 57 := rfl
    rw [isDigitOf, digitValue_of_isDigit digit, decide_eq_true_iff]
    omega
  | false =>
    have outside : ¬ ('0' ≤ c && c ≤ '9') = true := by rw [between_iff, digit]; exact Bool.false_ne_true
    rw [isDigitOf, digitValue, if_neg outside]
    split
    · simp
    · split <;> simp

theorem ofDigits_ten {digits : List Char} (decimal : ∀ c ∈ digits, c.isDigit = true) :
    ofDigits 10 digits = Nat.ofDigitChars 10 digits 0 := by
  apply List.foldl_ext
  intro total c member
  rw [digitValue_of_isDigit (decimal c member), Nat.mul_comm]

theorem natOf?_ten {text : List Char} {n : Nat} :
    natOf? 10 text = some n ↔
      text ≠ [] ∧ (∀ c ∈ text, c.isDigit = true) ∧ Nat.ofDigitChars 10 text 0 = n := by
  have numeral : (!text.isEmpty && text.all (isDigitOf 10)) = true ↔ text ≠ [] ∧ ∀ c ∈ text, c.isDigit = true := by
    simp [isDigitOf_ten]
  rw [natOf?]
  split
  next written =>
    obtain ⟨nonempty, decimal⟩ := numeral.mp written
    rw [ofDigits_ten decimal, Option.some.injEq]
    exact ⟨fun value => ⟨nonempty, decimal, value⟩, fun numeral => numeral.2.2⟩
  next unwritten =>
    refine ⟨nofun, ?_⟩
    rintro ⟨nonempty, decimal, _⟩
    exact absurd (numeral.mpr ⟨nonempty, decimal⟩) unwritten

theorem unsignedOf?_ten {text : List Char} {n : Nat} : unsignedOf? 10 text = some n ↔ Spells text n := by
  unfold unsignedOf?
  split
  next rest =>
    rw [natOf?_ten]
    constructor
    · rintro ⟨nonempty, decimal, value⟩
      exact ⟨rest, .inr rfl, nonempty, decimal, value⟩
    · rintro ⟨digits, rfl | signed, nonempty, decimal, value⟩
      · exact absurd (decimal '+' List.mem_cons_self) (by decide)
      · obtain rfl := (List.cons.inj signed).2
        exact ⟨nonempty, decimal, value⟩
  next unsigned =>
    rw [natOf?_ten]
    constructor
    · rintro ⟨nonempty, decimal, value⟩
      exact ⟨text, .inl rfl, nonempty, decimal, value⟩
    · rintro ⟨digits, rfl | rfl, nonempty, decimal, value⟩
      · exact ⟨nonempty, decimal, value⟩
      · exact absurd rfl (unsigned digits)

end Number
open Toml (Entries)
open Settings (Slot)

/-- What options set. -/
def Options.Sets (options : Options) : (slot : Slot) → slot.kind.Value → Prop
  | .display .output, path => options.output = some path
  | .display .enabled, enabled => options.noBitmap = true ∧ enabled = false
  | .output .console, console => options.json = true ∧ console = false
  | _, _ => False

/-- What variables set. A name may be written in letters of either case; what is blank, or no number of rows,
sets nothing. -/
def Environment.Sets (environment : Environment) : (slot : Slot) → slot.kind.Value → Prop
  | .display .viewport, rows => ∃ text, environment.lookup "OLEDMENU_VIEWPORT" = some text ∧
    Number.Spells (Text.trim text.toList) rows ∧ rows < UInt64.size
  | .display .output, path => environment.lookup "OLEDMENU_OUTPUT" = some path ∧
    ∃ c ∈ path.toList, Text.isBlank c = false
  | .output .verbosity, verbosity => ∃ text, environment.lookup "OLEDMENU_VERBOSITY" = some text ∧
    text.toList.map Char.toLower = (Verbosity.name verbosity).toList
  | _, _ => False

/-- The verbosity is not set to something that is no name of one. -/
def Environment.Recognised (environment : Environment) : Prop :=
  ∀ text, environment.lookup "OLEDMENU_VERBOSITY" = some text →
    ∃ verbosity : Verbosity, text.toList.map Char.toLower = verbosity.name.toList

namespace Verbosity

def demanded : Nat → Verbosity
  | 0 => quiet
  | 1 => verbose
  | _ => debug

theorem rank_raisedBy (verbosity : Verbosity) (count : Nat) :
    (verbosity.raisedBy count).rank = max verbosity.rank (demanded count).rank := by
  match count with
  | 0 | 1 | _ + 2 => cases verbosity <;> rfl

end Verbosity

namespace Settings

theorem rowsOf?_eq_some_iff {text : String} {rows : Nat} :
    rowsOf? text = some rows ↔ Number.Spells (Text.trim text.toList) rows ∧ rows < UInt64.size := by
  rw [rowsOf?, ← Number.unsignedOf?_ten]
  cases Number.unsignedOf? 10 (Text.trim text.toList) with
  | none => simp
  | some n =>
    simp only [Option.some.injEq, Option.ite_none_right_eq_some]
    constructor
    · rintro ⟨fits, rfl⟩
      exact ⟨rfl, fits⟩
    · rintro ⟨rfl, fits⟩
      exact ⟨fits, rfl⟩

theorem isAllBlank_eq_false_iff {text : List Char} :
    Text.isAllBlank text = false ↔ ∃ c ∈ text, Text.isBlank c = false := by
  simp [Text.isAllBlank]

theorem verbosityOf_eq {text : String} {verbosity : Verbosity}
    (named : text.toList.map Char.toLower = verbosity.name.toList) : verbosityOf text = verbosity := by
  rw [verbosityOf, named, String.ofList_toList]
  cases verbosity <;> rfl

section Overriding
variable {settings : Settings} {environment : Environment} {options : Options} {slot : Slot}

theorem get_overridden_set {value : slot.kind.Value} (set : environment.Sets slot value) :
    (settings.overridden environment).get slot = value := by
  match slot with
  | .display .viewport =>
    obtain ⟨text, found, rows⟩ := set
    change (overridden settings environment).display.viewport = _
    simp only [overridden, found, Option.bind_some, rowsOf?_eq_some_iff.mpr rows]
  | .display .output =>
    obtain ⟨found, visible⟩ := set
    change (overridden settings environment).display.output = _
    simp only [overridden, found, isAllBlank_eq_false_iff.mpr visible, Bool.false_eq_true, if_false]
  | .output .verbosity =>
    obtain ⟨text, found, named⟩ := set
    change (overridden settings environment).output.verbosity = _
    simp only [overridden, found, verbosityOf_eq named]
  | .display .width | .display .height | .display .lineHeight | .display .glyphWidth | .display .glyphHeight
  | .display .enabled | .output .console => exact set.elim

theorem get_overridden_unset (recognised : slot = .output .verbosity → environment.Recognised)
    (unset : ∀ value, ¬ environment.Sets slot value) :
    (settings.overridden environment).get slot = settings.get slot := by
  match slot with
  | .display .viewport =>
    have none : (environment.lookup "OLEDMENU_VIEWPORT").bind rowsOf? = none := by
      rw [Option.bind_eq_none_iff]
      intro text found
      rw [Option.eq_none_iff_forall_ne_some]
      intro rows numeral
      exact unset rows ⟨text, found, rowsOf?_eq_some_iff.mp numeral⟩
    change (overridden settings environment).display.viewport = settings.display.viewport
    simp only [overridden, none]
  | .display .output =>
    change (overridden settings environment).display.output = settings.display.output
    cases found : environment.lookup "OLEDMENU_OUTPUT" with
    | none => simp only [overridden, found]
    | some path =>
      have blank : Text.isAllBlank path.toList = true := by
        by_contra visible
        exact unset path ⟨found, isAllBlank_eq_false_iff.mp (Bool.eq_false_iff.mpr visible)⟩
      simp only [overridden, found, blank, if_true]
  | .output .verbosity =>
    change (overridden settings environment).output.verbosity = settings.output.verbosity
    cases found : environment.lookup "OLEDMENU_VERBOSITY" with
    | none => simp only [overridden, found]
    | some text =>
      obtain ⟨verbosity, named⟩ := recognised rfl text found
      exact absurd ⟨text, found, named⟩ (unset verbosity)
  | .display .width | .display .height | .display .lineHeight | .display .glyphWidth | .display .glyphHeight
  | .display .enabled | .output .console => rfl

theorem get_adjusted_set {value : slot.kind.Value} (set : options.Sets slot value) :
    (settings.adjusted options).get slot = value := by
  match slot with
  | .display .output =>
    change options.output.getD settings.display.output = value
    rw [show options.output = some value from set, Option.getD_some]
  | .display .enabled =>
    obtain ⟨off, rfl⟩ := set
    change (settings.display.enabled && !options.noBitmap) = false
    rw [off, Bool.not_true, Bool.and_false]
  | .output .console =>
    obtain ⟨off, rfl⟩ := set
    change (settings.output.console && !options.json) = false
    rw [off, Bool.not_true, Bool.and_false]
  | .display .viewport | .display .width | .display .height | .display .lineHeight | .display .glyphWidth
  | .display .glyphHeight | .output .verbosity => exact set.elim

theorem get_adjusted_unset (other : slot ≠ .output .verbosity) (unset : ∀ value, ¬ options.Sets slot value) :
    (settings.adjusted options).get slot = settings.get slot := by
  match slot with
  | .display .output =>
    change options.output.getD settings.display.output = settings.display.output
    rw [Option.eq_none_iff_forall_ne_some.mpr unset, Option.getD_none]
  | .display .enabled =>
    have off : options.noBitmap = false := Bool.eq_false_iff.mpr fun off => unset false ⟨off, rfl⟩
    change (settings.display.enabled && !options.noBitmap) = settings.display.enabled
    rw [off, Bool.not_false, Bool.and_true]
  | .output .console =>
    have off : options.json = false := Bool.eq_false_iff.mpr fun off => unset false ⟨off, rfl⟩
    change (settings.output.console && !options.json) = settings.output.console
    rw [off, Bool.not_false, Bool.and_true]
  | .output .verbosity => exact absurd rfl other
  | .display .viewport | .display .width | .display .height | .display .lineHeight | .display .glyphWidth
  | .display .glyphHeight => rfl

end Overriding

theorem sets_unique {options : Options} {slot : Slot} {value other : slot.kind.Value} (set : options.Sets slot value)
    (again : options.Sets slot other) : value = other := by
  have get : (({} : Settings).adjusted options).get slot = value := get_adjusted_set set
  exact get.symm.trans (get_adjusted_set again)

theorem environment_sets_unique {environment : Environment} {slot : Slot} {value other : slot.kind.Value}
    (set : environment.Sets slot value) (again : environment.Sets slot other) : value = other := by
  have get : (({} : Settings).overridden environment).get slot = value := get_overridden_set set
  exact get.symm.trans (get_overridden_set again)

/-- The value of a setting is that of the highest layer that sets it. -/
inductive Highest (options : Options) (environment : Environment) (file : Option Entries) (slot : Slot) :
    slot.kind.Value → Prop where
  | asked {value} (set : options.Sets slot value) : Highest options environment file slot value
  | inherited {value} (unasked : ∀ other, ¬ options.Sets slot other) (set : environment.Sets slot value) :
      Highest options environment file slot value
  | written {value} (unasked : ∀ other, ¬ options.Sets slot other) (unset : ∀ other, ¬ environment.Sets slot other)
      {item} (given : file.bind (given? · slot) = some item) (denotes : slot.kind.Denotes item value) :
      Highest options environment file slot value
  | omitted (unasked : ∀ other, ¬ options.Sets slot other) (unset : ∀ other, ¬ environment.Sets slot other)
      (absent : file.bind (given? · slot) = none) : Highest options environment file slot (({} : Settings).get slot)

/-- The file that counts: the one that is named, or else the first of the others that can be used, if any. -/
inductive Chosen (files : Files) : Option String → List String → Option Entries → Prop where
  | named {path candidates entries settings} (loads : Loads files path entries settings) :
      Chosen files (some path) candidates (some entries)
  | found {before path after entries settings} (unusable : ∀ other ∈ before, ∃ cause, Unusable files other cause)
      (loads : Loads files path entries settings) : Chosen files none (before ++ path :: after) (some entries)
  | nothing {candidates} (unusable : ∀ other ∈ candidates, ∃ cause, Unusable files other cause) :
      Chosen files none candidates none

section Layers
variable {options : Options} {environment : Environment} {file : Option Entries} {slot : Slot}

theorem Highest.unique {value other : slot.kind.Value} (highest : Highest options environment file slot value)
    (again : Highest options environment file slot other) : value = other := by
  cases highest with
  | asked set =>
    cases again with
    | asked too => exact sets_unique set too
    | inherited unasked | written unasked | omitted unasked => exact absurd set (unasked _)
  | inherited unasked set =>
    cases again with
    | asked too => exact absurd too (unasked _)
    | inherited _ too => exact environment_sets_unique set too
    | written _ unset | omitted _ unset => exact absurd set (unset _)
  | written unasked unset given denotes =>
    cases again with
    | asked too => exact absurd too (unasked _)
    | inherited _ too => exact absurd too (unset _)
    | written _ _ found too =>
      obtain rfl := Option.some.inj (given.symm.trans found)
      exact Setting.Kind.denotes_unique denotes too
    | omitted _ _ absent => cases given.symm.trans absent
  | omitted unasked unset absent =>
    cases again with
    | asked too => exact absurd too (unasked _)
    | inherited _ too => exact absurd too (unset _)
    | written _ _ given => cases given.symm.trans absent
    | omitted => rfl

def ReadFrom (settings : Settings) (file : Option Entries) : Prop :=
  ∀ slot : Slot, slot.Reads (file.bind (given? · slot)) (settings.get slot)

theorem Loads.readFrom {files : Files} {path : String} {entries : Entries} {settings : Settings}
    (loads : Loads files path entries settings) : settings.ReadFrom (some entries) := by
  obtain ⟨unknown, decoded⟩ := loads.decoded
  exact reads_of_ofEntries decoded

theorem Highest.of_readFrom {settings : Settings} (readFrom : settings.ReadFrom file)
    (recognised : environment.Recognised) (unasked : ∀ value, ¬ options.Sets slot value) :
    Highest options environment file slot ((settings.overridden environment).get slot) := by
  by_cases set : ∃ value, environment.Sets slot value
  · obtain ⟨value, set⟩ := set
    rw [get_overridden_set set]
    exact .inherited unasked set
  · rw [not_exists] at set
    rw [get_overridden_unset (fun _ => recognised) set]
    have reads := readFrom slot
    cases given : file.bind (given? · slot) with
    | none =>
      rw [given] at reads
      rw [show settings.get slot = ({} : Settings).get slot from reads]
      exact .omitted unasked set given
    | some item =>
      rw [given] at reads
      exact .written unasked set given reads

/-- All settings together. The verbosity may have been raised by options, but is never lowered. -/
structure Layered (options : Options) (environment : Environment) (file : Option Entries) (settings : Settings) :
    Prop where
  highest_iff : ∀ slot : Slot, slot ≠ .output .verbosity →
    ∀ value, Highest options environment file slot value ↔ value = settings.get slot
  verbosity : ∃ chosen, (∀ value, Highest options environment file (.output .verbosity) value ↔ value = chosen) ∧
    settings.output.verbosity.rank = max chosen.rank (Verbosity.demanded options.verbose).rank

theorem layered_of_readFrom {settings : Settings} (readFrom : settings.ReadFrom file)
    (recognised : environment.Recognised) :
    ((settings.overridden environment).adjusted options).Layered options environment file := by
  constructor
  case highest_iff =>
    intro slot other value
    have highest : Highest options environment file slot
        (((settings.overridden environment).adjusted options).get slot) := by
      by_cases set : ∃ value, options.Sets slot value
      · obtain ⟨value, set⟩ := set
        rw [get_adjusted_set set]
        exact .asked set
      · rw [not_exists] at set
        rw [get_adjusted_unset other set]
        exact .of_readFrom readFrom recognised set
    constructor
    · exact fun found => found.unique highest
    · rintro rfl
      exact highest
  case verbosity =>
    have highest : Highest options environment file (.output .verbosity)
        ((settings.overridden environment).get (.output .verbosity)) :=
      .of_readFrom readFrom recognised fun _ => id
    refine ⟨_, fun value => ⟨fun found => found.unique highest, ?_⟩, Verbosity.rank_raisedBy _ _⟩
    rintro rfl
    exact highest

end Layers

section Choosing
variable {files : Files}

theorem FallsBack.chosen {candidates : List String} {settings : Settings} {notices : List Warning.Notice}
    (falls : FallsBack files candidates settings notices) :
    ∃ file, Chosen files none candidates file ∧ settings.ReadFrom file := by
  have unusableAll : ∀ others : List String, (∀ other ∈ others, ∃ cause, load files other = .error cause) →
      ∀ other ∈ others, ∃ cause, Unusable files other cause := by
    intro others failed other member
    obtain ⟨cause, failed⟩ := failed other member
    exact ⟨cause, load_error_iff.mp failed⟩
  cases falls with
  | found split unusable loaded =>
    obtain ⟨entries, loads⟩ := load_ok loaded
    rw [split]
    exact ⟨some entries, .found (unusableAll _ unusable) loads, loads.readFrom⟩
  | nothing unusable => exact ⟨none, .nothing (unusableAll _ unusable), fun _ => rfl⟩

end Choosing

section Resolving
variable {options : Options} {files : Files} {environment : Environment} {workingDirectory userDirectory : Option String}

theorem resolve_eq_error_iff {cause : MenuError} :
    resolve options files environment workingDirectory userDirectory = .error cause ↔
      ∃ path, options.config = some path ∧ Unusable files path cause := by
  rw [resolve]
  cases options.config with
  | none =>
    constructor
    · intro failed
      cases failed
    · rintro ⟨_, named, _⟩
      cases named
  | some path =>
    simp only [Option.some.injEq, exists_eq_left', ← load_error_iff]
    cases load files path with
    | ok result =>
      constructor
      · intro failed
        cases failed
      · intro failed
        cases failed
    | error other => exact Iff.rfl

theorem chosen_of_resolve {settings : Settings} {warnings : List Warning}
    (resolved : resolve options files environment workingDirectory userDirectory = .ok (settings, warnings)) :
    ∃ file base, Chosen files options.config (candidates workingDirectory userDirectory) file ∧
      ReadFrom base file ∧ settings = (base.overridden environment).adjusted options := by
  rw [resolve] at resolved
  cases named : options.config with
  | none =>
    rw [named] at resolved
    obtain ⟨file, chosen, readFrom⟩ :=
      (firstUsable_fallsBack files (candidates workingDirectory userDirectory)).chosen
    exact ⟨file, _, chosen, readFrom, (congrArg Prod.fst (Except.ok.inj resolved)).symm⟩
  | some path =>
    rw [named] at resolved
    obtain ⟨⟨base, known⟩, loaded, same⟩ := Except.of_bind_ok resolved
    obtain ⟨entries, loads⟩ := load_ok loaded
    exact ⟨some entries, base, .named loads, loads.readFrom, (congrArg Prod.fst (Except.ok.inj same)).symm⟩

/-- Settings are layered. They are refused only if a file is named that cannot be used. -/
theorem resolve_layered (recognised : environment.Recognised) :
    (∀ settings warnings, resolve options files environment workingDirectory userDirectory = .ok (settings, warnings) →
      ∃ file, Chosen files options.config (candidates workingDirectory userDirectory) file ∧
        settings.Layered options environment file) ∧
    ∀ cause, resolve options files environment workingDirectory userDirectory = .error cause ↔
      ∃ path, options.config = some path ∧ Unusable files path cause := by
  refine ⟨?_, fun cause => resolve_eq_error_iff⟩
  intro settings warnings resolved
  obtain ⟨file, base, chosen, readFrom, rfl⟩ := chosen_of_resolve resolved
  exact ⟨file, chosen, layered_of_readFrom readFrom recognised⟩

end Resolving
section Example

def narrow : String := "display.width = 5\n"

def narrowFiles : Files where
  entries := [(["oledmenu.toml"], .file narrow.toUTF8.data.toList)]

def narrowEnvironment : Environment := [("OLEDMENU_VIEWPORT", " +7"), ("OLEDMENU_VERBOSITY", "QUIET")]

theorem readText_narrow : narrowFiles.readText "/oledmenu.toml" = .ok narrow :=
  readText_of_find rfl

theorem ofText_narrow : ofText narrow = .ok ({ display := { width := 5 } }, #[]) := by
  have parsed : Toml.read? narrow.toList = some
      [(⟨"display", 0, 7⟩, .table .dotted none [(⟨"width", 8, 13⟩, .scalar ⟨16, 17⟩ (.integer 5))])] := by decide +kernel
  exact ofText_ok_iff.mpr ⟨_, parsed, rfl⟩

theorem load_narrow : load narrowFiles "/oledmenu.toml" = .ok ({ display := { width := 5 } }, []) := by
  rw [load_eq, readText_narrow]
  simp only [ofText_narrow]
  rfl

theorem narrow_layered :
    let options : Options := { noBitmap := true, verbose := 1 }
    let settings : Settings :=
      { display := { width := 5, viewport := 7, enabled := false }, output := { verbosity := .verbose } }
    resolve options narrowFiles narrowEnvironment (some "/") none = .ok (settings, []) ∧
      ∃ file, Chosen narrowFiles none (candidates (some "/") none) file ∧
        settings.Layered options narrowEnvironment file := by
  intro options settings
  have recognised : narrowEnvironment.Recognised := by
    intro text found
    obtain rfl : "QUIET" = text := Option.some.inj found
    exact ⟨.quiet, by decide⟩
  have usable : firstUsable narrowFiles (candidates (some "/") none) =
      ({ display := { width := 5 } }, []) := by
    change firstUsable narrowFiles ["/oledmenu.toml"] = _
    have there : narrowFiles.isThere "/oledmenu.toml" = true := rfl
    simp only [firstUsable, there, load_narrow]
    rfl
  have resolved : resolve options narrowFiles narrowEnvironment (some "/") none = .ok (settings, []) := by
    change (pure (firstUsable narrowFiles (candidates (some "/") none)) >>= _) = _
    rw [usable]
    rfl
  exact ⟨resolved, (resolve_layered recognised).1 _ _ resolved⟩

end Example
end Settings
end PanelMenu
