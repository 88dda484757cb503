import PanelMenu.Proofs.BareItems

/-! Documents with additional keys that mean nothing. Wherever these keys are put and whatever stands under them, the
settings stay the same, and each of the keys is told once. -/

namespace PanelMenu.Settings
open Toml (Item Entries)
open Setting (Kind Decodes Denoting member? reported)

section Tables
variable {F : Type}

def strays (fields : List (String × F)) (entries : Entries) : List String :=
  (entries.map (·.1.text)).filter fun name => (fields.lookup name).isNone

/-- A table with additional keys that mean nothing. For the keys that mean something, `Same` says how they are kept.
The entries may change their places, as they do when dotted keys come between them. -/
structure Extends (fields : List (String × F)) (Same : F → Option Item → Option Item → Prop) (entries larger : Entries)
    (extra : List String) : Prop where
  known : ∀ name field, fields.lookup name = some field → Same field (entries.item? name) (larger.item? name)
  strays : (strays fields larger).Perm (strays fields entries ++ extra)

abbrev Kept (item other : Option Item) : Prop :=
  item.map (·.bare) = other.map (·.bare)

/-- One part of the settings with additional keys. It is kept, or it is a table with more in it, or a table that was
not there and holds nothing else. -/
inductive Grows (fields : List (String × F)) : Option Item → Option Item → List String → Prop where
  | kept {item other} (same : Kept item other) : Grows fields item other []
  | filled {shape shape' span span' entries larger extra} (more : Extends fields (fun _ => Kept) entries larger extra) :
    Grows fields (some (.table shape span entries)) (some (.table shape' span' larger)) extra
  | opened {shape span larger extra} (more : Extends fields (fun _ => Kept) [] larger extra) :
    Grows fields none (some (.table shape span larger)) extra

variable {fields : List (String × F)} {entries larger : Entries} {item other : Option Item} {extra : List String}

theorem Extends.push {Same : F → Option Item → Option Item → Prop} (same : ∀ field item, Same field item item)
    (entries : Entries) {entry : Toml.Key × Item} (unknown : fields.lookup entry.1.text = none) :
    Extends fields Same entries (entries ++ [entry]) [entry.1.text] := by
  refine ⟨fun name field known => ?_, ?_⟩
  · have other : entry.1.text ≠ name := by
      rintro rfl
      cases unknown.symm.trans known
    have kept : (entries ++ [entry]).item? name = entries.item? name := by
      simp [Toml.Entries.item?, List.find?_append, other]
    exact kept ▸ same field _
  · simp [Settings.strays, unknown]

theorem Kept.refl (item : Option Item) : Kept item item :=
  rfl

theorem Kept.exists (kept : Kept item other) {inner : Item} (found : inner ∈ other) :
    ∃ before ∈ item, before.bare = inner.bare :=
  Option.map_eq_some_iff.mp (kept.trans (congrArg (Option.map (·.bare)) found))

section Values
variable {kind : F → Kind} {Good Good' : Toml.Key → Prop}

theorem Extends.decodes (more : Extends fields (fun _ => Kept) entries larger extra)
    (distinct : (larger.map (·.1.text)).Nodup) {shape : Toml.Shape} {span : Option Toml.Span}
    (right : ∀ name field, fields.lookup name = some field → ∀ item ∈ entries.item? name, Denoting kind field item) :
    Decodes fields (Denoting kind) (.table shape span larger) := by
  refine (Setting.decodes_table distinct).mpr fun name field known item found => ?_
  obtain ⟨before, there, same⟩ := (more.known name field known).exists found
  obtain ⟨value, denotes⟩ := right name field known before there
  exact ⟨value, ((kind field).denotes_bare item value).mp (same ▸ ((kind field).denotes_bare before value).mpr denotes)⟩

theorem Grows.decodes (grows : Grows fields item other extra) (keyed : ∀ inner ∈ item, inner.Keyed Good)
    (keyed' : ∀ inner ∈ other, inner.Keyed Good') (right : ∀ inner ∈ item, Decodes fields (Denoting kind) inner) :
    ∀ inner ∈ other, Decodes fields (Denoting kind) inner := by
  intro inner found
  cases grows with
  | kept same =>
    obtain ⟨before, there, alike⟩ := Kept.exists same found
    exact Setting.decodes_bare.mp (alike ▸ Setting.decodes_bare.mpr (right before there))
  | filled more =>
    obtain rfl := Option.some.inj found
    have old := (keyed _ rfl).of_table.distinct
    exact more.decodes (keyed' _ rfl).of_table.distinct ((Setting.decodes_table old).mp (right _ rfl))
  | opened more =>
    obtain rfl := Option.some.inj found
    exact more.decodes (keyed' _ rfl).of_table.distinct fun _ _ _ _ found => nomatch found

theorem Grows.member? [DecidableEq F] (grows : Grows fields item other extra) (keyed : ∀ inner ∈ item, inner.Keyed Good)
    (keyed' : ∀ inner ∈ other, inner.Keyed Good') (unique : (fields.map (·.2)).Nodup) {name : String} {field : F}
    (known : fields.lookup name = some field) :
    Kept (item.bind (member? fields field)) (other.bind (member? fields field)) := by
  have table {Any : Toml.Key → Prop} {shape : Toml.Shape} {span : Option Toml.Span} {entries : Entries}
      (keyed : Item.Keyed Any (.table shape span entries)) :
      (some (Item.table shape span entries)).bind (Setting.member? fields field) = entries.item? name :=
    Setting.member?_table unique known keyed.of_table.distinct
  cases grows with
  | kept same =>
    have bare (item : Option Item) : (item.bind (Setting.member? fields field)).map (·.bare) =
        (item.map (·.bare)).bind (Setting.member? fields field) := by
      cases item with
      | none => rfl
      | some item => exact (Setting.member?_bare item).symm
    rw [Kept, bare, bare, same]
  | filled more =>
    rw [table (keyed _ rfl), table (keyed' _ rfl)]
    exact more.known name field known
  | opened more =>
    rw [table (keyed' _ rfl)]
    exact more.known name field known

def told (fields : List (String × F)) (item : Option Item) : List String :=
  (item.elim [] (Setting.ignored fields fun _ _ => [])).map (·.name)

theorem told_table (shape : Toml.Shape) (span : Option Toml.Span) (entries : Entries) :
    told fields (some (.table shape span entries)) = (strays fields entries).map reported := by
  dsimp only [told, Option.elim, Setting.ignored]
  induction entries with
  | nil => rfl
  | cons entry rest ih =>
    rw [List.flatMap_cons, List.map_append, ih]
    simp only [strays, List.map_cons, List.filter_cons]
    cases fields.lookup entry.1.text <;> rfl

theorem Grows.told (grows : Grows fields item other extra) :
    (told fields other).Perm (told fields item ++ extra.map reported) := by
  cases grows with
  | kept same =>
    have bare (item : Option Item) : Settings.told fields (item.map (·.bare)) = Settings.told fields item := by
      cases item with
      | none => rfl
      | some item => exact Setting.ignored_bare fields item
    rw [← bare item, same, bare, List.map_nil, List.append_nil]
  | filled more =>
    rw [told_table, told_table, ← List.map_append]
    exact more.strays.map reported
  | opened more =>
    rw [told_table]
    exact more.strays.map reported

end Values
end Tables

section Document
variable {entries larger : Entries}

def Field.Grows : Field → Option Item → Option Item → List String → Prop
  | display => Settings.Grows DisplaySettings.fields
  | output => Settings.Grows OutputSettings.fields

/-- A document with additional keys that mean nothing: those of `extra` at the top, and those that `below` gives in the
parts of the settings. -/
abbrev Extended (entries larger : Entries) (extra : List String) (below : Field → List String) : Prop :=
  Extends fields (fun field item other => field.Grows item other (below field)) entries larger extra

def Known {F : Type} (fields : List (String × F)) (entries : Entries) : Prop :=
  ∀ entry ∈ entries, (fields.lookup entry.1.text).isSome

/-- Every key means something, at the top and in the tables that make the parts of the settings. -/
structure EveryKeyKnown (entries : Entries) : Prop where
  top : Known fields entries
  display : ∀ {shape span inner}, entries.item? "display" = some (.table shape span inner) →
    Known DisplaySettings.fields inner
  output : ∀ {shape span inner}, entries.item? "output" = some (.table shape span inner) →
    Known OutputSettings.fields inner

def IsDate (item : Option Item) : Prop :=
  ∃ span, item = some (.scalar span .datetime)

theorem strays_eq_nil_iff {F : Type} {fields : List (String × F)} :
    strays fields entries = [] ↔ Known fields entries := by
  rw [strays, List.filter_eq_nil_iff, List.forall_mem_map]
  simp only [Option.isNone_iff_eq_none, Known, Option.isSome_iff_ne_none, ne_eq]

theorem told_eq_nil_iff {F : Type} {fields : List (String × F)} {item : Option Item} : told fields item = [] ↔
    (∀ {shape span inner}, item = some (.table shape span inner) → Known fields inner) ∧ ¬ IsDate item := by
  match item with
  | none => simp [told, IsDate]
  | some (.table _ _ inner) =>
    rw [told_table, List.map_eq_nil_iff, strays_eq_nil_iff]
    simp [IsDate]
  | some (.scalar _ .datetime) => simp [told, Setting.ignored, IsDate]
  | some (.scalar _ (.boolean _)) | some (.scalar _ (.integer _)) | some (.scalar _ (.float _)) | some (.text _ _)
  | some (.array _ _) | some (.tables _ _) =>
    simp [told, Setting.ignored, IsDate]

def toldOf (name : String) (item : Item) : List String :=
  match fields.lookup name with
  | some field => (field.ignored item).map (·.name)
  | none => [reported name]

theorem map_name_ignored (entries : Entries) :
    (ignored entries).map (·.name) = entries.flatMap fun entry => toldOf entry.1.text entry.2 := by
  rw [ignored, Setting.ignored, List.map_flatMap]
  congr 1
  funext entry
  rw [toldOf]
  cases fields.lookup entry.1.text <;> rfl

theorem lookup_eq_none_iff {name : String} : fields.lookup name = none ↔ name ≠ "display" ∧ name ≠ "output" := by
  simp [fields, List.lookup_eq_none_iff]

theorem toldOf_others (entries : Entries) :
    ((entries.remove "display").remove "output").flatMap (fun entry => toldOf entry.1.text entry.2) =
      (strays fields entries).map reported := by
  have others : (entries.remove "display").remove "output" =
      entries.filter fun entry => (fields.lookup entry.1.text).isNone := by
    rw [Toml.Entries.remove, Toml.Entries.remove, List.filter_filter]
    refine List.filter_congr fun entry _ => ?_
    rw [Bool.eq_iff_iff, Option.isNone_iff_eq_none, lookup_eq_none_iff]
    simp [and_comm]
  rw [others, strays, List.filter_map, List.map_map, List.map_eq_flatMap]
  refine List.flatMap_congr fun entry member => ?_
  rw [toldOf, Option.isNone_iff_eq_none.mp (List.mem_filter.mp member).2]
  rfl

/-- What is told about a document: its own keys that mean nothing, and what is told about the parts of the settings. -/
theorem ignored_perm (distinct : (entries.map (·.1.text)).Nodup) : ((ignored entries).map (·.name)).Perm
    ((strays fields entries).map reported ++ (told DisplaySettings.fields (entries.item? "display") ++
      told OutputSettings.fields (entries.item? "output"))) := by
  have display : (entries.item? "display").elim [] (toldOf "display") =
      told DisplaySettings.fields (entries.item? "display") := by
    cases entries.item? "display" <;> rfl
  have output : (entries.item? "output").elim [] (toldOf "output") =
      told OutputSettings.fields (entries.item? "output") := by
    cases entries.item? "output" <;> rfl
  have fewer : ((entries.remove "display").map (·.1.text)).Nodup := distinct.sublist (List.filter_sublist.map _)
  have first := Toml.Entries.flatMap_perm distinct toldOf "display"
  have second := Toml.Entries.flatMap_perm fewer toldOf "output"
  rw [display] at first
  rw [Toml.Entries.item?_remove (by decide), output, toldOf_others] at second
  rw [map_name_ignored]
  refine first.trans ((second.append_left _).trans ?_)
  rw [← List.append_assoc]
  exact List.perm_append_comm

theorem eq_display {name : String} (known : fields.lookup name = some .display) : name = "display" :=
  Setting.lookup_injective (by decide) known rfl

theorem eq_output {name : String} (known : fields.lookup name = some .output) : name = "output" :=
  Setting.lookup_injective (by decide) known rfl

theorem right_iff (distinct : (entries.map (·.1.text)).Nodup) : Right entries ↔
    (∀ item ∈ entries.item? "display", Field.Right .display item) ∧
      ∀ item ∈ entries.item? "output", Field.Right .output item := by
  rw [Right, Setting.decodes_table distinct]
  constructor
  · intro right
    exact ⟨right "display" .display rfl, right "output" .output rfl⟩
  · rintro ⟨display, output⟩ name field known
    cases field with
    | display => exact eq_display known ▸ display
    | output => exact eq_output known ▸ output

theorem given?_eq (distinct : (entries.map (·.1.text)).Nodup) (slot : Slot) : given? entries slot =
    match slot with
    | .display field => (entries.item? "display").bind (member? DisplaySettings.fields field)
    | .output field => (entries.item? "output").bind (member? OutputSettings.fields field) := by
  have unique : (fields.map (·.2)).Nodup := by decide
  have part (name : String) (field : Field) (known : fields.lookup name = some field) :
      (table? entries field).map (·.item) = entries.item? name := by
    rw [table?, Setting.map_part?]
    exact Setting.member?_table unique known distinct
  cases slot with
  | display field =>
    dsimp only
    rw [given?, ← part "display" .display rfl]
    cases table? entries .display with
    | none => rfl
    | some setting => exact Setting.map_part? DisplaySettings.fields field setting
  | output field =>
    dsimp only
    rw [given?, ← part "output" .output rfl]
    cases table? entries .output with
    | none => rfl
    | some setting => exact Setting.map_part? OutputSettings.fields field setting

theorem Slot.reads_unique {slot : Slot} {given other : Option Item} {value again : slot.kind.Value}
    (kept : Kept given other) (reads : slot.Reads given value) (reads' : slot.Reads other again) : value = again := by
  match given, other with
  | none, none => exact Eq.trans reads (Eq.symm reads')
  | some item, some inner =>
    have same : item.bare = inner.bare := Option.some.inj kept
    refine Kind.denotes_unique ((slot.kind.denotes_bare item value).mpr reads) ?_
    rw [same]
    exact (slot.kind.denotes_bare inner again).mpr reads'
  | none, some _ | some _, none => cases kept

theorem ext_get {settings other : Settings} (same : ∀ slot, settings.get slot = other.get slot) : settings = other := by
  obtain ⟨⟨_, _, _, _, _, _, _, _⟩, ⟨_, _⟩⟩ := settings
  obtain ⟨⟨_, _, _, _, _, _, _, _⟩, ⟨_, _⟩⟩ := other
  obtain rfl := same (.display .width)
  obtain rfl := same (.display .height)
  obtain rfl := same (.display .viewport)
  obtain rfl := same (.display .lineHeight)
  obtain rfl := same (.display .glyphWidth)
  obtain rfl := same (.display .glyphHeight)
  obtain rfl := same (.display .output)
  obtain rfl := same (.display .enabled)
  obtain rfl := same (.output .verbosity)
  obtain rfl := same (.output .console)
  rfl

theorem exists_displayField (field : DisplayField) : ∃ name, DisplaySettings.fields.lookup name = some field := by
  cases field
  exacts [⟨"width", rfl⟩, ⟨"height", rfl⟩, ⟨"viewport", rfl⟩, ⟨"line_height", rfl⟩, ⟨"glyph_width", rfl⟩,
    ⟨"glyph_height", rfl⟩, ⟨"output", rfl⟩, ⟨"enabled", rfl⟩]

theorem exists_outputField (field : OutputField) : ∃ name, OutputSettings.fields.lookup name = some field := by
  cases field
  exacts [⟨"verbosity", rfl⟩, ⟨"console", rfl⟩]

section Extended
variable {Good Good' : Toml.Key → Prop} {extra : List String} {below : Field → List String}
  (keyed : entries.Keyed Good) (keyed' : larger.Keyed Good') (extended : Extended entries larger extra below)
include extended

theorem grows_display :
    Grows DisplaySettings.fields (entries.item? "display") (larger.item? "display") (below .display) :=
  extended.known "display" .display rfl

theorem grows_output :
    Grows OutputSettings.fields (entries.item? "output") (larger.item? "output") (below .output) :=
  extended.known "output" .output rfl

include keyed keyed'

theorem given?_kept (slot : Slot) : Kept (given? entries slot) (given? larger slot) := by
  rw [given?_eq keyed.distinct, given?_eq keyed'.distinct]
  cases slot with
  | display field =>
    obtain ⟨name, known⟩ := exists_displayField field
    have unique : (DisplaySettings.fields.map (·.2)).Nodup := by decide
    exact (grows_display extended).member? (fun _ => keyed.of_item?) (fun _ => keyed'.of_item?) unique known
  | output field =>
    obtain ⟨name, known⟩ := exists_outputField field
    have unique : (OutputSettings.fields.map (·.2)).Nodup := by decide
    exact (grows_output extended).member? (fun _ => keyed.of_item?) (fun _ => keyed'.of_item?) unique known

theorem right_extended (right : Right entries) : Right larger := by
  obtain ⟨display, output⟩ := (right_iff keyed.distinct).mp right
  exact (right_iff keyed'.distinct).mpr
    ⟨(grows_display extended).decodes (fun _ => keyed.of_item?) (fun _ => keyed'.of_item?) display,
      (grows_output extended).decodes (fun _ => keyed.of_item?) (fun _ => keyed'.of_item?) output⟩

/-- A document with additional keys makes the same settings. -/
theorem ofEntries_extended {settings : Settings} {unknown : Array String}
    (ok : ofEntries entries = .ok (settings, unknown)) : ∃ more, ofEntries larger = .ok (settings, more) := by
  obtain ⟨other, ok'⟩ := ofEntries_of_right (right_extended keyed keyed' extended (right_of_ofEntries ok))
  have same : settings = other := ext_get fun slot =>
    Slot.reads_unique (given?_kept keyed keyed' extended slot) (reads_of_ofEntries ok slot)
      (reads_of_ofEntries ok' slot)
  exact ⟨_, same ▸ ok'⟩

theorem ignored_extended : ((ignored larger).map (·.name)).Perm
    ((ignored entries).map (·.name) ++ (extra ++ (below .display ++ below .output)).map reported) := by
  have parts := (grows_display extended).told.append (grows_output extended).told
  refine (ignored_perm keyed'.distinct).trans (.trans ?_ ((ignored_perm keyed.distinct).append_right _).symm)
  refine ((extended.strays.map reported).append parts).trans ?_
  simp only [List.map_append, List.perm_iff_count, List.count_append]
  omega

end Extended

theorem ignored_eq_nil_iff (distinct : (entries.map (·.1.text)).Nodup) : ignored entries = [] ↔
    EveryKeyKnown entries ∧ ¬ IsDate (entries.item? "display") ∧ ¬ IsDate (entries.item? "output") := by
  have all : ignored entries = [] ↔ strays fields entries = [] ∧
      told DisplaySettings.fields (entries.item? "display") = [] ∧
      told OutputSettings.fields (entries.item? "output") = [] := by
    rw [← List.map_eq_nil_iff, ← List.perm_nil, (ignored_perm distinct).congr_left, List.perm_nil]
    simp
  rw [all, strays_eq_nil_iff, told_eq_nil_iff, told_eq_nil_iff]
  constructor
  · rintro ⟨top, ⟨display, noDate⟩, output, noDate'⟩
    exact ⟨⟨top, display, output⟩, noDate, noDate'⟩
  · rintro ⟨⟨top, display, output⟩, noDate, noDate'⟩
    exact ⟨top, ⟨display, noDate⟩, output, noDate'⟩

end Document

section Files
variable {files later : Files} {path content longer : String} {entries larger : Entries} {extra : List String}
  {below : Field → List String}

/-- Additional keys that mean nothing change no setting, and each of them gives one more warning, whatever stands under
it. There are no warnings if every key means something, unless a date stands in the place of a table. -/
theorem load_extended (read : files.readText path = .ok content) (document : Toml.read? content.toList = some entries)
    (again : later.readText path = .ok longer) (document' : Toml.read? longer.toList = some larger)
    (extended : Extended entries larger extra below) {settings : Settings} {warnings : List Warning}
    (loaded : load files path = .ok (settings, warnings)) :
    (∃ names more : List String, warnings = names.map (Warning.ofKey content path) ∧
        load later path = .ok (settings, more.map (Warning.ofKey longer path)) ∧
        more.Perm (names ++ (extra ++ (below .display ++ below .output)).map reported)) ∧
      (warnings = [] ↔
        EveryKeyKnown entries ∧ ¬ IsDate (entries.item? "display") ∧ ¬ IsDate (entries.item? "output")) := by
  have keyed := Toml.read?_keyed document
  have keyed' := Toml.read?_keyed document'
  obtain ⟨⟨unknown, ok⟩, rfl⟩ := (load_ok_iff read document).mp loaded
  refine ⟨⟨(ignored entries).map (·.name), (ignored larger).map (·.name), ?_, ?_, ?_⟩, ?_⟩
  · rw [List.map_map]
    rfl
  · rw [List.map_map]
    exact (load_ok_iff again document').mpr ⟨ofEntries_extended keyed keyed' extended ok, rfl⟩
  · exact ignored_extended keyed keyed' extended
  · rw [List.map_eq_nil_iff]
    exact ignored_eq_nil_iff keyed.distinct

end Files

section Example

def plain : String := "display.width = 5\n"

def cluttered : String := "display.width = 5\ndisplay.console = 2\nwidth.a = 1\n[output.noise]\nverbosity = 1\n"

def widthEntry : Toml.Key × Item := (⟨"width", 8, 13⟩, .scalar ⟨16, 17⟩ (.integer 5))

def consoleEntry : Toml.Key × Item := (⟨"console", 26, 33⟩, .scalar ⟨36, 37⟩ (.integer 2))

def noiseEntry : Toml.Key × Item :=
  (⟨"noise", 58, 63⟩, .table .headed (some ⟨50, 78⟩) [(⟨"verbosity", 65, 74⟩, .scalar ⟨77, 78⟩ (.integer 1))])

def plainEntries : Entries := [(⟨"display", 0, 7⟩, .table .dotted none [widthEntry])]

def clutteredEntries : Entries :=
  [(⟨"display", 0, 7⟩, .table .dotted none [widthEntry, consoleEntry]),
    (⟨"width", 38, 43⟩, .table .dotted none [(⟨"a", 44, 45⟩, .scalar ⟨48, 49⟩ (.integer 1))]),
    (⟨"output", 51, 57⟩, .table .implied none [noiseEntry])]

def clutter : Field → List String
  | .display => ["console"]
  | .output => ["noise"]

theorem extended_cluttered : Extended plainEntries clutteredEntries ["width"] clutter := by
  refine ⟨fun name field known => ?_, by decide⟩
  cases field with
  | display =>
    obtain rfl := eq_display known
    have more :
        Extends DisplaySettings.fields (fun _ => Kept) [widthEntry] ([widthEntry] ++ [consoleEntry]) ["console"] :=
      .push (fun _ => Kept.refl) _ rfl
    exact .filled more
  | output =>
    obtain rfl := eq_output known
    have more : Extends OutputSettings.fields (fun _ => Kept) [] ([] ++ [noiseEntry]) ["noise"] :=
      .push (fun _ => Kept.refl) _ rfl
    exact .opened more

theorem cluttered_loads :
    let settings : Settings := { display := { width := 5 } }
    load (fileOf plain) "/oledmenu.toml" = .ok (settings, []) ∧
      ∃ more : List String, load (fileOf cluttered) "/oledmenu.toml" =
          .ok (settings, more.map (Warning.ofKey cluttered "/oledmenu.toml")) ∧
        more.Perm ["width", "console", "noise"] := by
  intro settings
  have document : Toml.read? plain.toList = some plainEntries := by decide +kernel
  have document' : Toml.read? cluttered.toList = some clutteredEntries := by decide +kernel
  have loaded : load (fileOf plain) "/oledmenu.toml" = .ok (settings, []) :=
    (load_ok_iff (readText_fileOf plain) document).mpr ⟨⟨_, rfl⟩, rfl⟩
  obtain ⟨⟨names, more, none, same, each⟩, _⟩ :=
    load_extended (readText_fileOf plain) document (readText_fileOf cluttered) document' extended_cluttered loaded
  obtain rfl := List.map_eq_nil_iff.mp none.symm
  exact ⟨loaded, more, same, each⟩

/-- A date in the place of the panel's settings. -/
def dated : String := "display = 1979-05-27\n"

def datedEntries : Entries := [(⟨"display", 0, 7⟩, .scalar ⟨10, 20⟩ .datetime)]

def surplus : String := "display = [1, 2, 3, 4, 5, 6, \"o.bmp\", false, \x7bfoo = 1\x7d]\n"

def surplusEntries : Entries :=
  [(⟨"display", 0, 7⟩, .array ⟨10, 55⟩ [.scalar ⟨11, 12⟩ (.integer 1), .scalar ⟨14, 15⟩ (.integer 2),
    .scalar ⟨17, 18⟩ (.integer 3), .scalar ⟨20, 21⟩ (.integer 4), .scalar ⟨23, 24⟩ (.integer 5),
    .scalar ⟨26, 27⟩ (.integer 6), .text ⟨29, 36⟩ "o.bmp", .scalar ⟨38, 43⟩ (.boolean false),
    .table .braced (some ⟨45, 54⟩) [(⟨"foo", 46, 49⟩, .scalar ⟨52, 53⟩ (.integer 1))]])]

/-- A date counts as a table with a key that means nothing, which nobody wrote. A key that nothing reads is not told. -/
theorem warned_amiss :
    (load (fileOf dated) "/oledmenu.toml" =
        .ok ({}, [.unknownKey Setting.datetimeKey "/oledmenu.toml" none none]) ∧
      Toml.read? dated.toList = some datedEntries ∧ EveryKeyKnown datedEntries) ∧
    ∃ settings, load (fileOf surplus) "/oledmenu.toml" = .ok (settings, []) ∧
      Toml.read? surplus.toList = some surplusEntries ∧ "foo" ∉ Warning.knownKeys := by
  have document : Toml.read? dated.toList = some datedEntries := by decide +kernel
  have document' : Toml.read? surplus.toList = some surplusEntries := by decide +kernel
  have warned : Warning.ofKey dated "/oledmenu.toml" Setting.datetimeKey =
      .unknownKey Setting.datetimeKey "/oledmenu.toml" none none := by decide +kernel
  have known : EveryKeyKnown datedEntries := by
    refine ⟨List.forall_mem_singleton.mpr rfl, ?_, ?_⟩ <;> rintro _ _ _ ⟨⟩
  refine ⟨⟨(load_ok_iff (readText_fileOf dated) document).mpr ⟨⟨_, rfl⟩, ?_⟩, document, known⟩, _,
    (load_ok_iff (readText_fileOf surplus) document').mpr ⟨⟨_, rfl⟩, rfl⟩, document', by decide⟩
  exact congrArg (· :: []) warned.symm

end Example
end PanelMenu.Settings
