import Mathlib.Data.List.Induction
import PanelMenu.Config.Lookup
import PanelMenu.Proofs.Outcome

/-! What a file says about each setting. Whatever else is in it, a setting that is given has the value that
is written there, and one that is not given keeps its own default. -/

namespace PanelMenu
open Toml (Item Entries)

theorem Verbosity.name_injective {verbosity other : Verbosity} (same : verbosity.name = other.name) :
    verbosity = other := by
  cases verbosity <;> cases other <;> first | rfl | exact absurd same (by decide)

namespace SettingReader
variable {α β : Type}

/-- The reader can come to this value. -/
def Answers (reader : SettingReader α) (value : α) : Prop :=
  ∃ before after, reader.run before = .ok (value, after)

theorem of_run_pure {value result : α} {before after : Array String}
    (ok : (pure value : SettingReader α).run before = .ok (result, after)) : value = result :=
  congrArg Prod.fst (Except.ok.inj ok)

theorem of_run_bind {reader : SettingReader α} {next : α → SettingReader β} {before after : Array String} {result : β}
    (ok : (reader >>= next).run before = .ok (result, after)) :
    ∃ value between, reader.run before = .ok (value, between) ∧ (next value).run between = .ok (result, after) := by
  rw [StateT.run_bind] at ok
  obtain ⟨⟨value, between⟩, first, rest⟩ := Except.of_bind_ok ok
  exact ⟨value, between, first, rest⟩

theorem of_run_map {reader : SettingReader α} {f : α → β} {before after : Array String} {result : β}
    (ok : (f <$> reader).run before = .ok (result, after)) :
    ∃ value, reader.Answers value ∧ f value = result := by
  rw [map_eq_pure_bind] at ok
  obtain ⟨value, between, first, rest⟩ := of_run_bind ok
  exact ⟨value, ⟨before, between, first⟩, of_run_pure rest⟩

end SettingReader

namespace Setting
variable {F S : Type}

/-- A reader that reads every field by itself, and puts it in its place. -/
structure Fieldwise (read : S → F → Setting → SettingReader S) (Value : F → Type) where
  get : S → ∀ field, Value field
  put : S → ∀ field, Value field → S
  decode : ∀ field, Setting → SettingReader (Value field)
  read_eq : ∀ state field setting, read state field setting = put state field <$> decode field setting
  get_put : ∀ state field value, get (put state field value) field = value
  get_put_of_ne : ∀ state field value other, other ≠ field → get (put state field value) other = get state other

def parts (fields : List (String × F)) (setting : Setting) : List (F × Setting) :=
  match setting.item with
  | .table _ _ entries => entries.filterMap fun entry => (fields.lookup entry.1.text).map (·, ofEntry entry)
  | .array _ items | .tables _ items => ((fields.map (·.2)).zip items).map fun part => (part.1, ofItem part.2)
  | _ => []

/-- If a field is given more than once, the last time counts. -/
def last? [DecidableEq F] (field : F) (parts : List (F × Setting)) : Option Setting :=
  (parts.reverse.find? (·.1 = field)).map (·.2)

def part? [DecidableEq F] (fields : List (String × F)) (setting : Setting) (field : F) : Option Setting :=
  last? field (setting.parts fields)

section Fields
variable [DecidableEq F] {read : S → F → Setting → SettingReader S} {Value : F → Type}
  (shape : Fieldwise read Value)

theorem last?_concat (field : F) (parts : List (F × Setting)) (part : F × Setting) :
    last? field (parts ++ [part]) = if part.1 = field then some part.2 else last? field parts := by
  rw [last?, List.reverse_append, List.reverse_singleton, List.singleton_append, List.find?_cons]
  by_cases same : part.1 = field
  · simp [same]
  · simp [same, last?]

/-- A field that is given has what can be read there, and any other stays as it was. -/
def Fieldwise.Settled (start result : S) (field : F) : Option Setting → Prop
  | some setting => (shape.decode field setting).Answers (shape.get result field)
  | none => shape.get result field = shape.get start field

variable {shape} in
theorem Fieldwise.Settled.put {start state : S} {field other : F} {given : Option Setting} {setting : Setting}
    {value : Value other} (settled : shape.Settled start state field given)
    (answers : (shape.decode other setting).Answers value) :
    shape.Settled start (shape.put state other value) field (if other = field then some setting else given) := by
  by_cases same : other = field
  · subst same
    rw [if_pos rfl, Settled, shape.get_put]
    exact answers
  · rw [if_neg same]
    have kept := shape.get_put_of_ne state other value field (Ne.symm same)
    cases given with
    | none => exact kept.trans settled
    | some part =>
      rw [Settled, kept]
      exact settled

theorem Fieldwise.settled_foldlM {α : Type} {step : S → α → SettingReader S} {part : α → Option (F × Setting)}
    (known : ∀ state item field setting, part item = some (field, setting) → step state item = read state field setting)
    (unknown : ∀ state item before next after, part item = none → (step state item).run before = .ok (next, after) →
      next = state)
    {items : List α} {start result : S} {before after : Array String}
    (ok : (items.foldlM step start).run before = .ok (result, after)) (field : F) :
    shape.Settled start result field (last? field (items.filterMap part)) := by
  induction items using List.reverseRecOn generalizing result after with
  | nil => exact congrArg (shape.get · field) (SettingReader.of_run_pure ok).symm
  | append_singleton items item ih =>
    rw [List.foldlM_append] at ok
    obtain ⟨state, between, earlier, final⟩ := SettingReader.of_run_bind ok
    have settled := ih earlier
    rw [List.foldlM_cons] at final
    obtain ⟨next, later, stepped, done⟩ := SettingReader.of_run_bind final
    obtain rfl : next = result := SettingReader.of_run_pure done
    cases given : part item with
    | none =>
      obtain rfl := unknown _ _ _ _ _ given stepped
      simpa [given] using settled
    | some found =>
      obtain ⟨other, setting⟩ := found
      rw [known _ _ _ _ given, shape.read_eq] at stepped
      obtain ⟨value, answers, rfl⟩ := SettingReader.of_run_map stepped
      rw [List.filterMap_append, List.filterMap_cons_some given, List.filterMap_nil, last?_concat]
      exact settled.put answers

private theorem Fieldwise.settled_items {items : List (F × Item)} {start result : S} {before after : Array String}
    (ok : (items.foldlM (fun state part => read state part.1 (ofItem part.2)) start).run before = .ok (result, after))
    (field : F) :
    shape.Settled start result field (last? field (items.map fun part => (part.1, ofItem part.2))) := by
  rw [← List.filterMap_eq_map]
  refine shape.settled_foldlM ?known ?unknown ok field
  case known =>
    rintro state item _ _ ⟨⟩
    rfl
  case unknown => rintro _ _ _ _ _ ⟨⟩

theorem Fieldwise.settled_record {fields : List (String × F)} {expected : String} {start result : S} {setting : Setting}
    {before after : Array String}
    (ok : (setting.record fields read expected start).run before = .ok (result, after)) (field : F) :
    shape.Settled start result field (setting.part? fields field) := by
  rw [part?, parts]
  rw [record] at ok
  cases item : setting.item with
  | table _ _ entries =>
    rw [item] at ok
    refine shape.settled_foldlM ?known ?unknown ok field
    case known =>
      intro state entry field part given
      obtain ⟨_, known, same⟩ := Option.map_eq_some_iff.mp given
      obtain ⟨rfl, rfl⟩ := Prod.mk.inj same
      simp only [known]
    case unknown =>
      intro state entry before next after given stepped
      simp only [Option.map_eq_none_iff.mp given] at stepped
      exact (SettingReader.of_run_pure stepped).symm
  | array _ items | tables _ items =>
    rw [item] at ok
    exact shape.settled_items ok field
  | scalar _ value =>
    rw [item] at ok
    cases value with
    | datetime => exact congrArg (shape.get · field) (SettingReader.of_run_pure ok).symm
    | boolean _ | integer _ | float _ => cases ok
  | text _ value =>
    rw [item] at ok
    cases ok

end Fields

inductive Kind
  | word
  | size
  | path
  | flag
  | level

abbrev Kind.Value : Kind → Type
  | word => UInt32
  | size => Nat
  | path => String
  | flag => Bool
  | level => Verbosity

def Kind.read : (kind : Kind) → Setting → SettingReader kind.Value
  | word => Setting.word
  | size => natural UInt64.size "usize"
  | path => Setting.path
  | flag => boolean
  | level => verbosity

/-- What is written for a value. The name of a verbosity can be the key of a table too, if it is the only one
between braces and if nothing stands under it. -/
def Kind.Denotes : (kind : Kind) → Item → kind.Value → Prop
  | word, .scalar _ (.integer n), value => n = value.toNat
  | size, .scalar _ (.integer n), value => n = (value : Nat) ∧ value < UInt64.size
  | path, .text _ text, value => text = value
  | flag, .scalar _ (.boolean isSet), value => isSet = value
  | level, .text _ name, value => name = Verbosity.name value
  | level, .table shape _ ((key, item) :: others), value =>
    key.text = Verbosity.name value ∧ isVoid item = true ∧ (others = [] ∨ shape ≠ .braced ∧ shape ≠ .bracedDotted)
  | _, _, _ => False

theorem natural_answers {bound : Nat} {expected : String} {setting : Setting} {value : Nat}
    (answers : (setting.natural bound expected).Answers value) :
    ∃ span, setting.item = .scalar span (.integer value) ∧ value < bound := by
  obtain ⟨before, after, ok⟩ := answers
  rw [natural] at ok
  split at ok
  next span n item =>
    split at ok
    next fits =>
      obtain rfl : n.toNat = value := SettingReader.of_run_pure ok
      refine ⟨span, ?_, by omega⟩
      rw [item, Int.toNat_of_nonneg fits.1]
    next => cases ok
  next => cases ok

theorem verbosityNamed_ok {span : Toml.Span} {name : String} {value : Verbosity} {before after : Array String}
    (ok : (verbosityNamed span name).run before = .ok (value, after)) : name = value.name := by
  rw [verbosityNamed] at ok
  split at ok
  next known =>
    obtain rfl := SettingReader.of_run_pure ok
    have same := List.find?_some known
    exact (eq_of_beq same).symm
  next => cases ok

theorem verbosity_answers {setting : Setting} {value : Verbosity} (answers : setting.verbosity.Answers value) :
    Kind.level.Denotes setting.item value := by
  obtain ⟨before, after, ok⟩ := answers
  rw [verbosity] at ok
  split at ok
  next item =>
    rw [item]
    exact verbosityNamed_ok ok
  next shape _ key inner others item =>
    rw [item]
    split at ok
    next => cases ok
    next single =>
      obtain ⟨found, between, named, rest⟩ := SettingReader.of_run_bind ok
      split at rest
      next void =>
        obtain rfl := SettingReader.of_run_pure rest
        refine ⟨verbosityNamed_ok named, void, ?_⟩
        simpa [or_iff_not_imp_left] using single
      next => cases rest
  next => cases ok

theorem Kind.denotes_of_answers {kind : Kind} {setting : Setting} {value : kind.Value}
    (answers : (kind.read setting).Answers value) : kind.Denotes setting.item value := by
  cases kind with
  | level => exact verbosity_answers answers
  | size =>
    obtain ⟨span, item, fits⟩ := natural_answers answers
    rw [item]
    exact ⟨rfl, fits⟩
  | word =>
    obtain ⟨before, after, ok⟩ := answers
    obtain ⟨n, between, read, rest⟩ := SettingReader.of_run_bind ok
    obtain rfl := SettingReader.of_run_pure rest
    obtain ⟨span, item, fits⟩ := natural_answers ⟨_, _, read⟩
    rw [item]
    exact congrArg Int.ofNat (UInt32.toNat_ofNat_of_lt fits).symm
  | path =>
    obtain ⟨before, after, ok⟩ := answers
    rw [read, Setting.path] at ok
    split at ok
    next item =>
      rw [item]
      exact SettingReader.of_run_pure ok
    next => cases ok
  | flag =>
    obtain ⟨before, after, ok⟩ := answers
    rw [read, boolean] at ok
    split at ok
    next item =>
      rw [item]
      exact SettingReader.of_run_pure ok
    next => cases ok

theorem Kind.denotes_unique {kind : Kind} {item : Item} {value other : kind.Value} (denotes : kind.Denotes item value)
    (again : kind.Denotes item other) : value = other := by
  cases kind with
  | word =>
    match item with
    | .scalar _ (.integer _) => exact UInt32.toNat_inj.mp (Int.ofNat.inj (Eq.trans (Eq.symm denotes) again))
    | .scalar _ (.boolean _) | .scalar _ (.float _) | .scalar _ .datetime => exact denotes.elim
    | .text _ _ | .array _ _ | .table _ _ _ | .tables _ _ => exact denotes.elim
  | size =>
    match item with
    | .scalar _ (.integer _) => exact Int.ofNat.inj (denotes.1.symm.trans again.1)
    | .scalar _ (.boolean _) | .scalar _ (.float _) | .scalar _ .datetime => exact denotes.elim
    | .text _ _ | .array _ _ | .table _ _ _ | .tables _ _ => exact denotes.elim
  | path =>
    match item with
    | .text _ _ => exact Eq.trans (Eq.symm denotes) again
    | .scalar _ _ | .array _ _ | .table _ _ _ | .tables _ _ => exact denotes.elim
  | flag =>
    match item with
    | .scalar _ (.boolean _) => exact Eq.trans (Eq.symm denotes) again
    | .scalar _ (.integer _) | .scalar _ (.float _) | .scalar _ .datetime => exact denotes.elim
    | .text _ _ | .array _ _ | .table _ _ _ | .tables _ _ => exact denotes.elim
  | level =>
    match item with
    | .text _ _ => exact Verbosity.name_injective (Eq.trans (Eq.symm denotes) again)
    | .table _ _ (_ :: _) => exact Verbosity.name_injective (denotes.1.symm.trans again.1)
    | .table _ _ [] | .scalar _ _ | .array _ _ | .tables _ _ => exact denotes.elim

/-- In a record of values, each is what is written for it, or what it was at the start. -/
theorem Fieldwise.denotes_record {F S : Type} [DecidableEq F] {kind : F → Kind}
    {read : S → F → Setting → SettingReader S} (shape : Fieldwise read (kind ·|>.Value))
    (plain : ∀ field, shape.decode field = (kind field).read) {fields : List (String × F)} {expected : String}
    {start result : S} {setting : Setting} (answers : (setting.record fields read expected start).Answers result)
    (field : F) :
    match (setting.part? fields field).map Setting.item with
    | some item => (kind field).Denotes item (shape.get result field)
    | none => shape.get result field = shape.get start field := by
  obtain ⟨before, after, ok⟩ := answers
  have settled := shape.settled_record ok field
  cases given : setting.part? fields field with
  | none =>
    rw [given] at settled
    exact settled
  | some part =>
    rw [given, Fieldwise.Settled, plain] at settled
    exact Kind.denotes_of_answers settled

end Setting

abbrev DisplayField.kind : DisplayField → Setting.Kind
  | .width | .height | .lineHeight | .glyphWidth | .glyphHeight => .word
  | .viewport => .size
  | .output => .path
  | .enabled => .flag

abbrev OutputField.kind : OutputField → Setting.Kind
  | .verbosity => .level
  | .console => .flag

def DisplaySettings.get (settings : DisplaySettings) : (field : DisplayField) → field.kind.Value
  | .width => settings.width
  | .height => settings.height
  | .viewport => settings.viewport
  | .lineHeight => settings.lineHeight
  | .glyphWidth => settings.glyphWidth
  | .glyphHeight => settings.glyphHeight
  | .output => settings.output
  | .enabled => settings.enabled

def DisplaySettings.put (settings : DisplaySettings) : (field : DisplayField) → field.kind.Value → DisplaySettings
  | .width, value => { settings with width := value }
  | .height, value => { settings with height := value }
  | .viewport, value => { settings with viewport := value }
  | .lineHeight, value => { settings with lineHeight := value }
  | .glyphWidth, value => { settings with glyphWidth := value }
  | .glyphHeight, value => { settings with glyphHeight := value }
  | .output, value => { settings with output := value }
  | .enabled, value => { settings with enabled := value }

def DisplaySettings.fieldwise : Setting.Fieldwise DisplaySettings.read (·.kind.Value) where
  get := get
  put := put
  decode field := field.kind.read
  read_eq _ field _ := by cases field <;> exact (map_eq_pure_bind _ _).symm
  get_put _ field _ := by cases field <;> rfl
  get_put_of_ne _ field _ other different := by
    cases field <;> cases other <;> first | rfl | exact absurd rfl different

def OutputSettings.get (settings : OutputSettings) : (field : OutputField) → field.kind.Value
  | .verbosity => settings.verbosity
  | .console => settings.console

def OutputSettings.put (settings : OutputSettings) : (field : OutputField) → field.kind.Value → OutputSettings
  | .verbosity, value => { settings with verbosity := value }
  | .console, value => { settings with console := value }

def OutputSettings.fieldwise : Setting.Fieldwise OutputSettings.read (·.kind.Value) where
  get := get
  put := put
  decode field := field.kind.read
  read_eq _ field _ := by cases field <;> exact (map_eq_pure_bind _ _).symm
  get_put _ field _ := by cases field <;> rfl
  get_put_of_ne _ field _ other different := by
    cases field <;> cases other <;> first | rfl | exact absurd rfl different

namespace Settings

def Field.Part : Field → Type
  | display => DisplaySettings
  | output => OutputSettings

def fieldwise : Setting.Fieldwise read Field.Part where
  get settings
    | .display => settings.display
    | .output => settings.output
  put settings
    | .display, display => { settings with display := display }
    | .output, output => { settings with output := output }
  decode
    | .display => Setting.record DisplaySettings.fields DisplaySettings.read "struct DisplayConfig" {}
    | .output => Setting.record OutputSettings.fields OutputSettings.read "struct OutputConfig" {}
  read_eq _ field _ := by cases field <;> exact (map_eq_pure_bind _ _).symm
  get_put _ field _ := by cases field <;> rfl
  get_put_of_ne _ field _ other different := by
    cases field <;> cases other <;> first | rfl | exact absurd rfl different

inductive Slot
  | display (field : DisplayField)
  | output (field : OutputField)
  deriving DecidableEq, Repr

abbrev Slot.kind : Slot → Setting.Kind
  | display field => field.kind
  | output field => field.kind

def get (settings : Settings) : (slot : Slot) → slot.kind.Value
  | .display field => settings.display.get field
  | .output field => settings.output.get field

/-- The part of a document that is about the panel, or the one that is about the output. -/
def table? (entries : Entries) (field : Field) : Option Setting :=
  Setting.part? fields { item := .table .headed none entries, span := ⟨0, 0⟩ } field

def given? (entries : Entries) : Slot → Option Item
  | .display field => (table? entries .display >>= (·.part? DisplaySettings.fields field)).map Setting.item
  | .output field => (table? entries .output >>= (·.part? OutputSettings.fields field)).map Setting.item

/-- A value is what the item denotes, or the default if there is no item. -/
def Slot.Reads (slot : Slot) (given : Option Item) (value : slot.kind.Value) : Prop :=
  match given with
  | some item => slot.kind.Denotes item value
  | none => value = ({} : Settings).get slot

theorem reads_display {table : Setting} {display : DisplaySettings}
    (answers : (table.record DisplaySettings.fields DisplaySettings.read "struct DisplayConfig" {}).Answers display)
    (field : DisplayField) :
    (Slot.display field).Reads ((table.part? DisplaySettings.fields field).map Setting.item) (display.get field) :=
  DisplaySettings.fieldwise.denotes_record (fun _ => rfl) answers field

theorem reads_output {table : Setting} {output : OutputSettings}
    (answers : (table.record OutputSettings.fields OutputSettings.read "struct OutputConfig" {}).Answers output)
    (field : OutputField) :
    (Slot.output field).Reads ((table.part? OutputSettings.fields field).map Setting.item) (output.get field) :=
  OutputSettings.fieldwise.denotes_record (fun _ => rfl) answers field

/-- A document decides each setting by itself. -/
theorem reads_of_ofEntries {entries : Entries} {settings : Settings} {unknown : Array String}
    (ok : ofEntries entries = .ok (settings, unknown)) (slot : Slot) :
    slot.Reads (given? entries slot) (settings.get slot) := by
  cases slot with
  | display field =>
    have settled := fieldwise.settled_record ok .display
    rw [given?, table?]
    cases given : Setting.part? fields _ .display with
    | none =>
      rw [given] at settled
      exact congrArg (DisplaySettings.get · field) settled
    | some table =>
      rw [given] at settled
      exact reads_display settled field
  | output field =>
    have settled := fieldwise.settled_record ok .output
    rw [given?, table?]
    cases given : Setting.part? fields _ .output with
    | none =>
      rw [given] at settled
      exact congrArg (OutputSettings.get · field) settled
    | some table =>
      rw [given] at settled
      exact reads_output settled field

theorem readText_of_find {files : Files} {path text : String}
    (found : files.find path = .ok (.file text.toUTF8.data.toList)) : files.readText path = .ok text := by
  have decoded : String.fromUTF8? (ByteArray.mk text.toUTF8.data.toList.toArray) = some text := by
    rw [Array.toArray_toList, String.fromUTF8?]
    exact dif_pos text.isValidUTF8
  rw [Files.readText, Files.read, found]
  simp only [bind, Except.bind, decoded]

section Files
variable {files : Files} {path : String}

/-- A file can be read, and its document says what these settings are. -/
structure Loads (files : Files) (path : String) (entries : Entries) (settings : Settings) : Prop where
  document : ∃ content, files.readText path = .ok content ∧ Toml.read? content.toList = some entries
  decoded : ∃ unknown, ofEntries entries = .ok (settings, unknown)

/-- Why a file cannot be used. -/
inductive Unusable (files : Files) (path : String) : MenuError → Prop where
  | unread {fault} (failed : files.readText path = .error fault) : Unusable files path (.files fault)
  | undecoded {content fault} (read : files.readText path = .ok content) (failed : ofText content = .error fault) :
    Unusable files path (.invalidConfig path fault)

theorem ofText_ok_iff {content : String} {settings : Settings} {unknown : Array String} :
    ofText content = .ok (settings, unknown) ↔
      ∃ entries, Toml.read? content.toList = some entries ∧ ofEntries entries = .ok (settings, unknown) := by
  rw [ofText]
  cases Toml.read? content.toList with
  | none => simp
  | some entries =>
    cases decoded : ofEntries entries with
    | ok result => simp [decoded]
    | error fault => cases fault <;> simp [decoded]

theorem load_eq (files : Files) (path : String) :
    load files path = match files.readText path with
      | .error fault => .error (.files fault)
      | .ok content => match ofText content with
        | .error fault => .error (.invalidConfig path fault)
        | .ok (settings, unknown) => .ok (settings, unknown.toList.map (Warning.ofKey content path)) := by
  rw [load]
  cases files.readText path with
  | error fault => rfl
  | ok content =>
    cases made : ofText content with
    | error fault => simp only [made, Except.mapError, bind, Except.bind]
    | ok result =>
      simp only [made, Except.mapError, bind, Except.bind]
      rfl

theorem load_ok {settings : Settings} {warnings : List Warning} (loaded : load files path = .ok (settings, warnings)) :
    ∃ entries, Loads files path entries settings := by
  rw [load_eq] at loaded
  split at loaded
  next => cases loaded
  next content read =>
    split at loaded
    next => cases loaded
    next made =>
      obtain ⟨rfl, _⟩ := Prod.mk.inj (Except.ok.inj loaded)
      obtain ⟨entries, parsed, decoded⟩ := ofText_ok_iff.mp made
      exact ⟨entries, ⟨content, read, parsed⟩, _, decoded⟩

theorem Loads.load_ok {entries : Entries} {settings : Settings} (loads : Loads files path entries settings) :
    ∃ warnings, load files path = .ok (settings, warnings) := by
  obtain ⟨⟨content, read, parsed⟩, unknown, decoded⟩ := loads
  have made : ofText content = .ok (settings, unknown) := ofText_ok_iff.mpr ⟨entries, parsed, decoded⟩
  rw [load_eq]
  simp only [read, made]
  exact ⟨_, rfl⟩

theorem load_error_iff {cause : MenuError} : load files path = .error cause ↔ Unusable files path cause := by
  rw [load_eq]
  constructor
  · intro failed
    split at failed
    next read =>
      obtain rfl := Except.error.inj failed
      exact .unread read
    next content read =>
      split at failed
      next made =>
        obtain rfl := Except.error.inj failed
        exact .undecoded read made
      next => cases failed
  · rintro (read | ⟨read, made⟩)
    · rw [read]
    · simp only [read, made]

theorem unusable_of_not_isThere (absent : files.isThere path = false) :
    ∃ cause, Unusable files path cause := by
  cases found : files.find path with
  | ok entry =>
    rw [Files.isThere, found] at absent
    cases absent
  | error fault =>
    have failed : files.readText path = .error fault := by
      rw [Files.readText, Files.read, found]
      rfl
    exact ⟨_, .unread failed⟩

end Files

end Settings
end PanelMenu
