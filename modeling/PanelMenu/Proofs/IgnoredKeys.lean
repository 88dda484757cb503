import PanelMenu.Proofs.SettingsFile

/-! What reading settings tells: each key that means nothing, in the order in which they stand in the tables, and
nothing else. Whether a document can be read depends on the other keys alone. -/

namespace PanelMenu
open Toml (Item Entries)

namespace SettingReader
variable {α β : Type}

/-- Whatever was told before, the reader comes to this value and tells these names. -/
def Tells (reader : SettingReader α) (value : α) (told : List String) : Prop :=
  ∀ before, reader.run before = .ok (value, before ++ told)

theorem tells_pure (value : α) : Tells (pure value) value [] := fun _ =>
  congrArg (Except.ok ∘ Prod.mk value) Array.appendList_nil.symm

theorem tells_push (name : String) (value : α) : Tells (do modify (·.push name); pure value) value [name] :=
  fun _ => rfl

variable {reader : SettingReader α} {value : α} {told : List String}

theorem Tells.answers (tells : reader.Tells value told) : reader.Answers value :=
  ⟨#[], _, tells #[]⟩

theorem Tells.unique (tells : reader.Tells value told) {before after : Array String} {result : α}
    (ok : reader.run before = .ok (result, after)) : value = result ∧ before ++ told = after :=
  Prod.mk.inj (Except.ok.inj ((tells before).symm.trans ok))

theorem Tells.bind {next : α → SettingReader β} {result : β} {more : List String} (first : reader.Tells value told)
    (second : (next value).Tells result more) : (reader >>= next).Tells result (told ++ more) := by
  intro before
  have joined : before ++ told ++ more = before ++ (told ++ more) := Array.toList_inj.mp (by simp)
  rw [StateT.run_bind, first before, ← joined]
  exact second _

theorem Tells.map (tells : reader.Tells value told) (f : α → β) : (f <$> reader).Tells (f value) told := by
  rw [map_eq_pure_bind, ← List.append_nil told]
  exact tells.bind (tells_pure _)

section Fold
variable {S : Type} {step : S → α → SettingReader S} {items : List α} {start : S}

theorem tells_foldlM {told : α → List String}
    (each : ∀ item ∈ items, ∀ state, ∃ next, (step state item).Tells next (told item)) :
    ∃ result, (items.foldlM step start).Tells result (items.flatMap told) := by
  induction items generalizing start with
  | nil => exact ⟨start, tells_pure start⟩
  | cons item rest ih =>
    obtain ⟨first, others⟩ := List.forall_mem_cons.mp each
    obtain ⟨next, here⟩ := first start
    obtain ⟨result, later⟩ : ∃ result, (rest.foldlM step next).Tells result (rest.flatMap told) := ih others
    rw [List.foldlM_cons, List.flatMap_cons]
    exact ⟨result, here.bind later⟩

theorem answers_of_foldlM {result : S} (answers : (items.foldlM step start).Answers result) :
    ∀ item ∈ items, ∃ state next, (step state item).Answers next := by
  induction items generalizing start with
  | nil => nofun
  | cons item rest ih =>
    obtain ⟨before, after, ok⟩ := answers
    rw [List.foldlM_cons] at ok
    obtain ⟨next, between, first, later⟩ := of_run_bind ok
    exact List.forall_mem_cons.mpr ⟨⟨start, next, before, between, first⟩, ih ⟨between, after, later⟩⟩

end Fold
end SettingReader

open SettingReader

/-- What reading tells: a key that means nothing, or a date in the place of a record. -/
inductive Ignored
  | key (key : Toml.Key)
  | date
  deriving DecidableEq, Repr

def Ignored.name : Ignored → String
  | .key unknown => Setting.reported unknown.text
  | .date => Setting.datetimeKey

namespace Setting
variable {F S : Type}

def IsRecord : Item → Prop
  | .table _ _ _ | .array _ _ | .tables _ _ | .scalar _ .datetime => True
  | _ => False

def ignored (fields : List (String × F)) (below : F → Item → List Ignored) : Item → List Ignored
  | .table _ _ entries => entries.flatMap fun entry =>
    match fields.lookup entry.1.text with
    | some field => below field entry.2
    | none => [.key entry.1]
  | .array _ items | .tables _ items => ((fields.map (·.2)).zip items).flatMap fun part => below part.1 part.2
  | .scalar _ .datetime => [.date]
  | _ => []

def members (fields : List (String × F)) : Item → List (F × Item)
  | .table _ _ entries => entries.filterMap fun entry => (fields.lookup entry.1.text).map (·, entry.2)
  | .array _ items | .tables _ items => (fields.map (·.2)).zip items
  | _ => []

/-- A record whose members are all right. -/
structure Decodes (fields : List (String × F)) (Right : F → Item → Prop) (item : Item) : Prop where
  isRecord : IsRecord item
  each : ∀ part ∈ members fields item, Right part.1 part.2

section Records
variable {read : S → F → Setting → SettingReader S} {Value : F → Type} (shape : Fieldwise read Value)
  {fields : List (String × F)} {expected : String} {start : S} {setting : Setting}
include shape

def Fieldwise.Readable (below : F → Item → List Ignored) (field : F) (item : Item) : Prop :=
  ∀ part : Setting, part.item = item → ∃ value, (shape.decode field part).Tells value ((below field item).map (·.name))

private theorem Fieldwise.items_tells {below : F → Item → List Ignored} {items : List (F × Item)}
    (each : ∀ part ∈ items, shape.Readable below part.1 part.2) :
    ∃ result, (items.foldlM (fun state part => read state part.1 (ofItem part.2)) start).Tells result
      ((items.flatMap fun part => below part.1 part.2).map (·.name)) := by
  rw [List.map_flatMap]
  refine tells_foldlM fun part member state => ?_
  obtain ⟨value, tells⟩ := each part member (ofItem part.2) rfl
  rw [shape.read_eq]
  exact ⟨_, tells.map _⟩

theorem Fieldwise.record_tells {below : F → Item → List Ignored}
    (decodes : Decodes fields (shape.Readable below) setting.item) :
    ∃ result, (setting.record fields read expected start).Tells result
      ((ignored fields below setting.item).map (·.name)) := by
  obtain ⟨isRecord, each⟩ := decodes
  rw [record]
  cases item : setting.item with
  | table _ _ entries =>
    rw [item] at each
    dsimp only [ignored]
    rw [List.map_flatMap]
    refine tells_foldlM fun entry member state => ?_
    cases known : fields.lookup entry.1.text with
    | some field =>
      have given : (field, entry.2) ∈ entries.filterMap fun entry => (fields.lookup entry.1.text).map (·, entry.2) :=
        List.mem_filterMap.mpr ⟨entry, member, by rw [known]; rfl⟩
      obtain ⟨value, tells⟩ := each _ given (ofEntry entry) rfl
      simp only [shape.read_eq]
      exact ⟨_, tells.map _⟩
    | none => exact ⟨state, tells_push (reported entry.1.text) state⟩
  | array _ items | tables _ items =>
    rw [item] at each
    exact shape.items_tells each
  | scalar _ value =>
    rw [item] at isRecord
    cases value with
    | datetime => exact ⟨start, tells_push datetimeKey start⟩
    | boolean _ | integer _ | float _ => exact isRecord.elim
  | text _ _ =>
    rw [item] at isRecord
    exact isRecord.elim

private theorem Fieldwise.items_answers {items : List (F × Item)} {result : S}
    (answers : (items.foldlM (fun state part => read state part.1 (ofItem part.2)) start).Answers result) :
    ∀ part ∈ items, ∃ value, (shape.decode part.1 (ofItem part.2)).Answers value := by
  intro part member
  obtain ⟨state, next, before, after, ok⟩ := answers_of_foldlM answers part member
  rw [shape.read_eq] at ok
  obtain ⟨value, answers, _⟩ := of_run_map ok
  exact ⟨value, answers⟩

/-- The members of a record that was read could be read. -/
theorem Fieldwise.decodes_of_answers {result : S} (answers : (setting.record fields read expected start).Answers result)
    {Right : F → Item → Prop}
    (right : ∀ {field} {part : Setting} {value}, (shape.decode field part).Answers value → Right field part.item) :
    Decodes fields Right setting.item := by
  rw [record] at answers
  have isRecord : IsRecord setting.item := by
    obtain ⟨_, _, ok⟩ := answers
    split at ok
    case h_5 => cases ok
    all_goals simp_all [IsRecord]
  refine ⟨isRecord, ?_⟩
  rintro ⟨field, inner⟩ member
  cases item : setting.item with
  | table _ _ entries =>
    rw [item] at answers member
    obtain ⟨entry, inside, given⟩ := List.mem_filterMap.mp member
    obtain ⟨_, known, same⟩ := Option.map_eq_some_iff.mp given
    obtain ⟨rfl, rfl⟩ := Prod.mk.inj same
    obtain ⟨state, next, before, after, ok⟩ := answers_of_foldlM answers entry inside
    simp only [known, shape.read_eq] at ok
    obtain ⟨value, answers, _⟩ := of_run_map ok
    exact right answers
  | array _ items | tables _ items =>
    rw [item] at answers member
    obtain ⟨value, answers⟩ := shape.items_answers answers _ member
    exact right answers
  | scalar _ _ | text _ _ =>
    rw [item] at member
    cases member

end Records

section Values
variable {setting : Setting}

theorem verbosityNamed_tells (span : Toml.Span) (verbosity : Verbosity) :
    (verbosityNamed span verbosity.name).Tells verbosity [] := by
  have known : Verbosity.ofName? verbosity.name = some verbosity := by cases verbosity <;> decide
  rw [verbosityNamed, known]
  exact tells_pure verbosity

theorem natural_tells {bound value : Nat} {expected : String} {span : Toml.Span}
    (item : setting.item = .scalar span (.integer value)) (fits : value < bound) :
    (setting.natural bound expected).Tells value [] := by
  rw [natural, item]
  dsimp only
  rw [if_pos ⟨Int.natCast_nonneg value, Int.ofNat_lt.mpr fits⟩]
  exact tells_pure value

theorem verbosity_tells {value : Verbosity} (denotes : Kind.level.Denotes setting.item value) :
    setting.verbosity.Tells value [] := by
  rw [verbosity]
  cases item : setting.item with
  | text _ name =>
    rw [item] at denotes
    obtain rfl : name = value.name := denotes
    exact verbosityNamed_tells _ value
  | table shape _ entries =>
    rw [item] at denotes
    cases entries with
    | nil => exact denotes.elim
    | cons entry others =>
      obtain ⟨key, inner⟩ := entry
      obtain ⟨named, void, single⟩ := denotes
      dsimp only
      have allowed : (!others.isEmpty && (shape == .braced || shape == .bracedDotted)) = false := by
        rcases single with rfl | ⟨bare, dotted⟩
        · rfl
        · simp [bare, dotted]
      rw [allowed, named]
      refine (verbosityNamed_tells _ value).bind ?_
      rw [void]
      exact tells_pure value
  | scalar _ _ | array _ _ | tables _ _ =>
    rw [item] at denotes
    exact denotes.elim

theorem exists_integer {kind : Kind} (numeric : kind = .word ∨ kind = .size) {item : Item} {value : kind.Value}
    (denotes : kind.Denotes item value) : ∃ span n, item = .scalar span (.integer n) := by
  rcases numeric with rfl | rfl
  all_goals
    cases item with
    | scalar span value =>
      cases value with
      | integer n => exact ⟨span, n, rfl⟩
      | boolean _ | float _ | datetime => exact denotes.elim
    | text _ _ | array _ _ | table _ _ _ | tables _ _ => exact denotes.elim

theorem exists_text {item : Item} {value : String} (denotes : Kind.path.Denotes item value) :
    ∃ span, item = .text span value := by
  cases item with
  | text span text => exact ⟨span, congrArg _ denotes⟩
  | scalar _ _ | array _ _ | table _ _ _ | tables _ _ => exact denotes.elim

theorem exists_boolean {item : Item} {value : Bool} (denotes : Kind.flag.Denotes item value) :
    ∃ span, item = .scalar span (.boolean value) := by
  cases item with
  | scalar span scalar =>
    cases scalar with
    | boolean isSet => exact ⟨span, congrArg _ (congrArg _ denotes)⟩
    | integer _ | float _ | datetime => exact denotes.elim
  | text _ _ | array _ _ | table _ _ _ | tables _ _ => exact denotes.elim

theorem Kind.tells_of_denotes {kind : Kind} {value : kind.Value} (denotes : kind.Denotes setting.item value) :
    (kind.read setting).Tells value [] := by
  cases kind with
  | level => exact verbosity_tells denotes
  | word =>
    obtain ⟨span, n, item⟩ := exists_integer (.inl rfl) denotes
    rw [item] at denotes
    obtain rfl : n = value.toNat := denotes
    have read : (setting.natural UInt32.size "u32").Tells value.toNat [] :=
      natural_tells item value.toNat_lt_size
    have word := read.map UInt32.ofNat
    rwa [UInt32.ofNat_toNat, map_eq_pure_bind] at word
  | size =>
    obtain ⟨span, n, item⟩ := exists_integer (.inr rfl) denotes
    rw [item] at denotes
    obtain ⟨rfl, fits⟩ := denotes
    exact natural_tells item fits
  | path =>
    obtain ⟨span, item⟩ := exists_text denotes
    rw [read, Setting.path, item]
    exact tells_pure value
  | flag =>
    obtain ⟨span, item⟩ := exists_boolean denotes
    rw [read, boolean, item]
    exact tells_pure value

end Values

def Denoting (kind : F → Kind) (field : F) (item : Item) : Prop :=
  ∃ value, (kind field).Denotes item value

section Values
variable {kind : F → Kind} {read : S → F → Setting → SettingReader S} (shape : Fieldwise read (kind ·|>.Value))
  (plain : ∀ field, shape.decode field = (kind field).read)
  {fields : List (String × F)} {expected : String} {start : S} {setting : Setting}
include plain

theorem Fieldwise.record_of_denoting (decodes : Decodes fields (Denoting kind) setting.item) :
    ∃ result, (setting.record fields read expected start).Tells result
      ((ignored fields (fun _ _ => []) setting.item).map (·.name)) := by
  refine shape.record_tells ⟨decodes.isRecord, fun member given part item => ?_⟩
  obtain ⟨value, denotes⟩ := decodes.each member given
  rw [plain]
  exact ⟨value, Kind.tells_of_denotes (item ▸ denotes)⟩

theorem Fieldwise.denoting_of_answers {result : S}
    (answers : (setting.record fields read expected start).Answers result) :
    Decodes fields (Denoting kind) setting.item := by
  refine shape.decodes_of_answers answers fun {field part value} read => ?_
  rw [plain] at read
  exact ⟨value, Kind.denotes_of_answers read⟩

end Values
end Setting

namespace Settings
open Setting (Decodes Denoting)
variable {entries : Entries}

def Field.Right : Field → Item → Prop
  | display => Decodes DisplaySettings.fields (Denoting DisplayField.kind)
  | output => Decodes OutputSettings.fields (Denoting OutputField.kind)

def Field.ignored : Field → Item → List Ignored
  | display => Setting.ignored DisplaySettings.fields fun _ _ => []
  | output => Setting.ignored OutputSettings.fields fun _ _ => []

/-- A document of settings in which all that is given is right. -/
def Right (entries : Entries) : Prop :=
  Decodes fields Field.Right (.table .headed none entries)

/-- What is ignored in a document of settings. -/
def ignored (entries : Entries) : List Ignored :=
  Setting.ignored fields Field.ignored (.table .headed none entries)

private theorem readable {field : Field} {item : Item} (right : field.Right item) :
    fieldwise.Readable Field.ignored field item := by
  rintro part rfl
  cases field with
  | display => exact DisplaySettings.fieldwise.record_of_denoting (fun _ => rfl) right
  | output => exact OutputSettings.fieldwise.record_of_denoting (fun _ => rfl) right

theorem ofEntries_of_right (right : Right entries) :
    ∃ settings, ofEntries entries = .ok (settings, ((ignored entries).map (·.name)).toArray) := by
  have readable : Decodes fields (fieldwise.Readable Field.ignored) (.table .headed none entries) :=
    ⟨right.isRecord, fun part member => readable (right.each part member)⟩
  obtain ⟨settings, tells⟩ :
      ∃ settings, (Setting.record fields read "struct Config" {} ⟨.table .headed none entries, ⟨0, 0⟩⟩).Tells settings
        ((ignored entries).map (·.name)) := fieldwise.record_tells readable
  have all : (#[] : Array String) ++ (ignored entries).map (·.name) = ((ignored entries).map (·.name)).toArray := by
    simp
  exact ⟨settings, all ▸ tells #[]⟩

theorem right_of_ofEntries {settings : Settings} {unknown : Array String}
    (ok : ofEntries entries = .ok (settings, unknown)) : Right entries := by
  refine fieldwise.decodes_of_answers ⟨_, _, ok⟩ fun {field part value} answers => ?_
  cases field with
  | display => exact DisplaySettings.fieldwise.denoting_of_answers (fun _ => rfl) answers
  | output => exact OutputSettings.fieldwise.denoting_of_answers (fun _ => rfl) answers

/-- What is told of a document is what it ignores. -/
theorem unknown_eq {settings : Settings} {unknown : Array String} (ok : ofEntries entries = .ok (settings, unknown)) :
    unknown.toList = (ignored entries).map (·.name) := by
  obtain ⟨_, same⟩ := ofEntries_of_right (right_of_ofEntries ok)
  rw [ok] at same
  exact congrArg Array.toList (Prod.mk.inj (Except.ok.inj same)).2

/-- Each warning about a file is about something that it says without effect. -/
theorem load_ok_iff {files : Files} {path content : String} {settings : Settings} {warnings : List Warning}
    (read : files.readText path = .ok content) (document : Toml.read? content.toList = some entries) :
    load files path = .ok (settings, warnings) ↔ (∃ unknown, ofEntries entries = .ok (settings, unknown)) ∧
      warnings = (ignored entries).map fun mark => Warning.ofKey content path mark.name := by
  have made (unknown : Array String) : ofText content = .ok (settings, unknown) ↔
      ofEntries entries = .ok (settings, unknown) := by
    rw [ofText_ok_iff, document]
    simp
  have told {unknown : Array String} (ok : ofEntries entries = .ok (settings, unknown)) :
      unknown.toList.map (Warning.ofKey content path) =
        (ignored entries).map fun mark => Warning.ofKey content path mark.name := by
    rw [unknown_eq ok, List.map_map]
    rfl
  constructor
  · intro loaded
    rw [load_eq, read] at loaded
    dsimp only at loaded
    split at loaded
    next => cases loaded
    next ok =>
      obtain ⟨rfl, rfl⟩ := Prod.mk.inj (Except.ok.inj loaded)
      have ok := (made _).mp ok
      exact ⟨⟨_, ok⟩, told ok⟩
  · rintro ⟨⟨unknown, ok⟩, rfl⟩
    rw [load_eq, read, ← told ok]
    simp only [(made unknown).mpr ok]

def fileOf (text : String) : Files where
  entries := [(["oledmenu.toml"], .file text.toUTF8.data.toList)]

theorem readText_fileOf (text : String) : (fileOf text).readText "/oledmenu.toml" = .ok text :=
  readText_of_find rfl

end Settings
end PanelMenu
