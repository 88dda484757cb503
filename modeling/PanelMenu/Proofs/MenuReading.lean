import PanelMenu.Menu.Document
import PanelMenu.Proofs.MenuNodes

/-! Which documents are read as menus. Reading either yields the menu that is written there or fails as a
whole; it never makes do with a part. -/

namespace PanelMenu

namespace Decoder
variable {α β : Type}

/-- The reader reads this, and does not follow an alias for it. -/
def Yields (reader : Decoder α) (value : α) : Prop :=
  ∀ followed, reader.run followed = .ok (value, followed)

def Fails (reader : Decoder α) : Prop :=
  ∀ followed, ∃ fault, reader.run followed = .error fault

theorem yields_pure (value : α) : Yields (pure value) value := fun _ => rfl

theorem fails_throw (fault : DocumentFault) : Fails (throw fault : Decoder α) := fun _ => ⟨fault, rfl⟩

theorem fails_misfit (path : Path) (mark : Yaml.Mark) (mismatch : Mismatch) :
    Fails (misfit path mark mismatch : Decoder α) :=
  fails_throw _

theorem Yields.bind {reader : Decoder α} {next : α → Decoder β} {value : α} {result : β}
    (first : Yields reader value) (rest : Yields (next value) result) : Yields (reader >>= next) result := by
  intro followed
  rw [StateT.run_bind, first followed]
  exact rest followed

theorem Yields.bind_fails {reader : Decoder α} {next : α → Decoder β} {value : α} (first : Yields reader value)
    (rest : Fails (next value)) : Fails (reader >>= next) := by
  intro followed
  rw [StateT.run_bind, first followed]
  exact rest followed

theorem Fails.bind {reader : Decoder α} (first : Fails reader) (next : α → Decoder β) : Fails (reader >>= next) := by
  intro followed
  obtain ⟨fault, failed⟩ := first followed
  rw [StateT.run_bind, failed]
  exact ⟨fault, rfl⟩

/-- The reader reads something good, or fails with good reason. -/
def Decides (reader : Decoder α) (good : α → Prop) (bad : Prop) : Prop :=
  (∃ value, Yields reader value ∧ good value) ∨ Fails reader ∧ bad

theorem Decides.after {reader : Decoder α} {next : α → Decoder β} {value : α} {good : β → Prop} {bad : Prop}
    (first : Yields reader value) (decides : Decides (next value) good bad) : Decides (reader >>= next) good bad := by
  rcases decides with ⟨result, yields, fine⟩ | ⟨fails, reason⟩
  · exact .inl ⟨result, first.bind yields, fine⟩
  · exact .inr ⟨first.bind_fails fails, reason⟩

theorem Decides.unless {reader : Decoder α} {refused : Bool} {path : Path} {mark : Yaml.Mark} {mismatch : Mismatch}
    {good : α → Prop} {bad : Prop} (reason : refused = true → bad)
    (decides : refused = false → Decides reader good bad) :
    Decides (if refused then misfit path mark mismatch else reader) good bad := by
  cases refused with
  | true => exact .inr ⟨fails_misfit path mark mismatch, reason rfl⟩
  | false => exact decides rfl

section Scalars
variable (document : Yaml.Document) (path : Path) (mark : Yaml.Mark) (text : String) (isPlain : Bool)

theorem yields_resolve : Yields (resolve document (.scalar mark none text isPlain)) (.scalar mark none text isPlain) :=
  yields_pure _

theorem yields_text (expected : String) :
    Yields (Decoder.text document expected path (.scalar mark none text isPlain)) text :=
  (yields_resolve document mark text isPlain).bind (yields_pure text)

/-- In quotes even an empty text is bound. -/
theorem yields_binding (entryPath : Path) (entryMark : Yaml.Mark) :
    Yields (binding document entryPath entryMark path (.scalar mark none text false)) (some text) :=
  (yields_resolve document mark text false).bind (yields_pure (some text))

end Scalars
end Decoder

namespace MenuSpec
open Decoder

section Keys
variable (document : Yaml.Document) (path : Path) (mark : Yaml.Mark) (isPlain : Bool)

theorem yields_readKey (field : Field) : Yields (readKey document path (.scalar mark none field.key isPlain)) field := by
  refine (yields_resolve document mark _ isPlain).bind ((yields_text document path mark _ isPlain _).bind ?_)
  rw [Field.ofKey?_key]
  exact yields_pure field

theorem fails_readKey {text : String} (unknown : Field.ofKey? text = none) :
    Fails (readKey document path (.scalar mark none text isPlain)) := by
  refine (yields_resolve document mark _ isPlain).bind_fails ((yields_text document path mark _ isPlain _).bind_fails ?_)
  rw [unknown]
  exact fails_misfit path _ _

end Keys

/-- The reader reads the menu that the node mirrors, or the node is none. -/
abbrev Reads (reader : Decoder MenuSpec) (node : Yaml.Node) : Prop :=
  Decides reader (fun spec => Accepted node ∧ Mirrors node spec) (¬ Accepted node)

abbrev ReadsAll (reader : Decoder (List MenuSpec)) (items : List Yaml.Node) : Prop :=
  Decides reader (fun specs => (∀ item ∈ items, Accepted item) ∧ List.Forall₂ Mirrors items specs)
    (∃ item ∈ items, ¬ Accepted item)

theorem readItems_reads {readItem : Path → Yaml.Node → Decoder MenuSpec} {items : List Yaml.Node}
    (each : ∀ item ∈ items, ∀ path, Reads (readItem path item) item) (path : Path) (index : Nat) :
    ReadsAll (readItems readItem path index items) items := by
  induction items generalizing index with
  | nil => exact .inl ⟨[], yields_pure [], by simp, .nil⟩
  | cons item rest ih =>
    obtain ⟨here, others⟩ := List.forall_mem_cons.mp each
    rw [readItems]
    rcases here (path ++ [.index index]) with ⟨spec, yields, accepted, mirrors⟩ | ⟨fails, refused⟩
    · rcases ih others (index + 1) with ⟨specs, yieldsRest, acceptedRest, mirrorsRest⟩ | ⟨fails, other, member, refused⟩
      · refine .inl ⟨spec :: specs, yields.bind (yieldsRest.bind (yields_pure _)), ?_, .cons mirrors mirrorsRest⟩
        exact List.forall_mem_cons.mpr ⟨accepted, acceptedRest⟩
      · exact .inr ⟨yields.bind_fails (fails.bind _), other, List.mem_cons_of_mem _ member, refused⟩
    · exact .inr ⟨fails.bind _, item, List.mem_cons_self, refused⟩

/-- Entries that are in order as far as they go. -/
structure Sound (entries : Yaml.Entries) : Prop where
  distinct : (entries.map (·.1.spelling)).Nodup
  known : ∀ entry ∈ entries, ∃ field : Field, entry.1.spelling = field.key
  nested : ∀ mark items, Holds entries Field.children.key (.sequence mark items) → ∀ item ∈ items, Accepted item

def Draft.binding? (draft : Draft) : Hook → Option (Option String)
  | .enter => draft.enter
  | .exit => draft.exit
  | .action => draft.action

/-- What a draft knows is what is written in the entries that have been read. -/
structure Draft.Of (draft : Draft) (read : Yaml.Entries) : Prop where
  sound : Sound read
  has_iff : ∀ field, draft.has field = true ↔ ∃ value, Holds read field.key value
  name : ∀ text, draft.name = some text → ∃ value, Holds read Field.name.key value ∧ value.spelling = text
  bindings : ∀ hook bound, draft.binding? hook = some bound →
    ∃ value, Holds read (Field.binding hook).key value ∧ bound = some value.spelling
  children : ∀ specs, draft.children = some specs →
    ∃ mark items, Holds read Field.children.key (.sequence mark items) ∧ List.Forall₂ Mirrors items specs

section Concat
variable {read rest : Yaml.Entries} {entry : Yaml.Node × Yaml.Node}

theorem Holds.append_left {key : String} {value : Yaml.Node} (holds : Holds read key value) (rest : Yaml.Entries) :
    Holds (read ++ rest) key value := by
  obtain ⟨entry, member, here⟩ := holds
  exact ⟨entry, List.mem_append_left rest member, here⟩

theorem holds_concat {key : String} {value : Yaml.Node} :
    Holds (read ++ [entry]) key value ↔ Holds read key value ∨ entry.1.spelling = key ∧ entry.2 = value := by
  simp [Holds, or_and_right, exists_or]

theorem not_sound_again {value : Yaml.Node} (holds : Holds read entry.1.spelling value) :
    ¬ Sound (read ++ entry :: rest) := by
  rintro ⟨distinct, _, _⟩
  rw [List.map_append, List.map_cons] at distinct
  obtain ⟨other, member, same, _⟩ := holds
  have before := List.mem_map_of_mem (f := fun entry : Yaml.Node × Yaml.Node => entry.1.spelling) member
  exact (List.nodup_append.mp distinct).2.2 _ before _ List.mem_cons_self same

theorem not_sound_unknown (unknown : Field.ofKey? entry.1.spelling = none) : ¬ Sound (read ++ entry :: rest) := by
  rintro ⟨_, known, _⟩
  obtain ⟨field, same⟩ := known entry (List.mem_append_right read List.mem_cons_self)
  rw [same, Field.ofKey?_key] at unknown
  cases unknown

theorem Sound.concat {field : Field} (sound : Sound read) (spelled : entry.1.spelling = field.key)
    (fresh : ∀ value, ¬ Holds read field.key value)
    (nested : ∀ mark items, field = .children → entry.2 = .sequence mark items → ∀ item ∈ items, Accepted item) :
    Sound (read ++ [entry]) := by
  refine ⟨?_, ?_, ?_⟩
  · rw [List.map_append, List.map_singleton]
    refine List.nodup_append.mpr ⟨sound.distinct, List.nodup_singleton _, ?_⟩
    rintro _ before _ here same
    obtain ⟨other, member, rfl⟩ := List.mem_map.mp before
    obtain rfl := List.mem_singleton.mp here
    exact fresh other.2 ⟨other, member, same.trans spelled, rfl⟩
  · rintro other member
    rcases List.mem_append.mp member with earlier | here
    · exact sound.known other earlier
    · obtain rfl := List.mem_singleton.mp here
      exact ⟨field, spelled⟩
  · intro mark items holds
    rcases holds_concat.mp holds with earlier | ⟨same, value⟩
    · exact sound.nested mark items earlier
    · exact nested mark items (Field.key_injective (spelled.symm.trans same)) value

theorem Draft.Of.concat {draft after : Draft} {field : Field} (of : draft.Of read)
    (spelled : entry.1.spelling = field.key) (lacks : draft.has field = false)
    (nested : ∀ mark items, field = .children → entry.2 = .sequence mark items → ∀ item ∈ items, Accepted item)
    (has : ∀ other, after.has other = (decide (other = field) || draft.has other))
    (name : ∀ text, after.name = some text → draft.name = some text ∨ field = .name ∧ entry.2.spelling = text)
    (bindings : ∀ hook bound, after.binding? hook = some bound →
      draft.binding? hook = some bound ∨ field = .binding hook ∧ bound = some entry.2.spelling)
    (children : ∀ specs, after.children = some specs → draft.children = some specs ∨
      field = .children ∧ ∃ mark items, entry.2 = .sequence mark items ∧ List.Forall₂ Mirrors items specs) :
    after.Of (read ++ [entry]) := by
  have fresh : ∀ value, ¬ Holds read field.key value := by
    intro value holds
    rw [(of.has_iff field).mpr ⟨value, holds⟩] at lacks
    cases lacks
  have here : Holds (read ++ [entry]) field.key entry.2 := holds_concat.mpr (.inr ⟨spelled, rfl⟩)
  refine ⟨of.sound.concat spelled fresh nested, ?_, ?_, ?_, ?_⟩
  · intro other
    rw [has, Bool.or_eq_true, decide_eq_true_iff, of.has_iff]
    constructor
    · rintro (rfl | ⟨value, holds⟩)
      · exact ⟨entry.2, here⟩
      · exact ⟨value, holds.append_left _⟩
    · rintro ⟨value, holds⟩
      rcases holds_concat.mp holds with earlier | ⟨same, _⟩
      · exact .inr ⟨value, earlier⟩
      · exact .inl (Field.key_injective (same.symm.trans spelled))
  · intro text known
    rcases name text known with earlier | ⟨rfl, same⟩
    · obtain ⟨value, holds, same⟩ := of.name text earlier
      exact ⟨value, holds.append_left _, same⟩
    · exact ⟨entry.2, here, same⟩
  · intro hook bound known
    rcases bindings hook bound known with earlier | ⟨rfl, same⟩
    · obtain ⟨value, holds, same⟩ := of.bindings hook bound earlier
      exact ⟨value, holds.append_left _, same⟩
    · exact ⟨entry.2, here, same⟩
  · intro specs known
    rcases children specs known with earlier | ⟨rfl, mark, items, same, mirrors⟩
    · obtain ⟨mark, items, holds, mirrors⟩ := of.children specs earlier
      exact ⟨mark, items, holds.append_left _, mirrors⟩
    · exact ⟨mark, items, same ▸ here, mirrors⟩

section Parts
variable {draft : Draft} (of : draft.Of read) (place mark : Yaml.Mark) (isPlain : Bool)
include of

private theorem Draft.Of.named (lacks : draft.has .name = false) (text : String) :
    Draft.Of { draft with name := some text }
      (read ++ [(.scalar place none Field.name.key isPlain, .scalar mark none text false)]) := by
  apply of.concat rfl lacks
  case nested => rintro _ _ ⟨⟩
  case has =>
    rintro (_ | hook | _)
    · rfl
    · cases hook <;> rfl
    · rfl
  case name => exact fun _ known => .inr ⟨rfl, Option.some.inj known⟩
  case bindings => exact fun _ _ => .inl
  case children => exact fun _ => .inl

private theorem Draft.Of.hooked (hook : Hook) (lacks : draft.has (.binding hook) = false) (text : String) :
    (draft.bind (some text) hook).Of
      (read ++ [(.scalar place none (Field.binding hook).key isPlain, .scalar mark none text false)]) := by
  apply of.concat rfl lacks
  case nested => rintro _ _ ⟨⟩
  case has =>
    rintro (_ | other | _)
    · cases hook <;> rfl
    · cases hook <;> cases other <;> rfl
    · cases hook <;> rfl
  case name =>
    intro text known
    cases hook <;> exact .inl known
  case bindings =>
    intro other bound known
    by_cases same : other = hook
    · subst same
      refine .inr ⟨rfl, ?_⟩
      cases other <;> exact (Option.some.inj known).symm
    · refine .inl ?_
      cases hook <;> cases other <;> first | exact known | exact absurd rfl same
  case children =>
    intro specs known
    cases hook <;> exact .inl known

private theorem Draft.Of.parented (lacks : draft.has .children = false) {items : List Yaml.Node} {specs : List MenuSpec}
    (accepted : ∀ item ∈ items, Accepted item) (mirrors : List.Forall₂ Mirrors items specs) :
    Draft.Of { draft with children := some specs }
      (read ++ [(.scalar place none Field.children.key isPlain, .sequence mark items)]) := by
  apply of.concat rfl lacks
  case nested =>
    rintro _ _ _ ⟨⟩
    exact accepted
  case has =>
    rintro (_ | hook | _)
    · rfl
    · cases hook <;> rfl
    · rfl
  case name => exact fun _ => .inl
  case bindings => exact fun _ _ => .inl
  case children =>
    rintro _ ⟨⟩
    exact .inr ⟨rfl, mark, items, rfl, mirrors⟩

end Parts
end Concat

section Entries
variable {document : Yaml.Document} {readChildren : Path → Yaml.Node → Decoder (List MenuSpec)}

/-- The reader reads a draft of all the entries, unless they are not in order. -/
abbrev ReadsEntries (reader : Decoder Draft) (entries : Yaml.Entries) : Prop :=
  Decides reader (·.Of entries) (¬ Sound entries)

theorem readEntries_reads (path : Path) (entryMark : Yaml.Mark) {rest read : Yaml.Entries} {draft : Draft}
    (of : draft.Of read) (parts : ∀ entry ∈ rest, MenuLikePart entry.1 entry.2)
    (each : ∀ mark items path, Holds rest Field.children.key (.sequence mark items) →
      ReadsAll (readChildren path (.sequence mark items)) items) :
    ReadsEntries (readEntries document readChildren path entryMark draft rest) (read ++ rest) := by
  induction rest generalizing read draft with
  | nil =>
    rw [List.append_nil]
    exact .inl ⟨draft, yields_pure draft, of⟩
  | cons entry rest ih =>
    obtain ⟨part, parts⟩ := List.forall_mem_cons.mp parts
    have later : ∀ {after : Draft}, after.Of (read ++ [entry]) →
        ReadsEntries (readEntries document readChildren path entryMark after rest) (read ++ entry :: rest) := by
      intro after of
      rw [List.append_cons]
      apply ih of parts
      rintro mark items path ⟨other, member, holds⟩
      exact each mark items path ⟨other, List.mem_cons_of_mem _ member, holds⟩
    have repeated : ∀ field, entry.1.spelling = field.key → draft.has field = true →
        ¬ Sound (read ++ entry :: rest) := by
      intro field spelled has
      obtain ⟨value, holds⟩ := (of.has_iff field).mp has
      exact not_sound_again (spelled ▸ holds)
    rcases entry with ⟨key, value⟩
    rw [readEntries]
    cases part with
    | @text place isPlain mark text field single =>
      refine Decides.after (yields_readKey document path place isPlain field) ?_
      refine Decides.unless (repeated field rfl) fun lacks => ?_
      cases field with
      | name =>
        refine Decides.after (yields_text document _ mark text false "a string") ?_
        exact later (of.named place mark isPlain lacks text)
      | binding hook =>
        refine Decides.after (yields_binding document _ mark text path _) ?_
        exact later (of.hooked place mark isPlain hook lacks text)
      | children => exact absurd rfl single
    | @children place isPlain mark items nested =>
      refine Decides.after (yields_readKey document path place isPlain .children) ?_
      refine Decides.unless (repeated .children rfl) fun lacks => ?_
      have here : Holds ((.scalar place none Field.children.key isPlain, .sequence mark items) :: rest)
          Field.children.key (.sequence mark items) := ⟨_, List.mem_cons_self, rfl, rfl⟩
      rcases each mark items _ here with ⟨specs, yields, accepted, mirrors⟩ | ⟨fails, item, member, refused⟩
      · exact Decides.after yields (later (of.parented place mark isPlain lacks accepted mirrors))
      · refine .inr ⟨fails.bind _, ?_⟩
        rintro ⟨_, _, accepted⟩
        obtain ⟨entry, inside, holds⟩ := here
        exact refused (accepted mark items ⟨entry, List.mem_append_right read inside, holds⟩ item member)
    | other unknown =>
      exact .inr ⟨(fails_readKey document path _ _ unknown).bind _, not_sound_unknown unknown⟩

end Entries

namespace Draft
variable {draft : Draft} {entries : Yaml.Entries}

theorem has_binding (draft : Draft) (hook : Hook) : draft.has (.binding hook) = (draft.binding? hook).isSome := by
  cases hook <;> rfl

theorem get_bindings (draft : Draft) (hook : Hook) :
    (⟨draft.enter.join, draft.exit.join, draft.action.join⟩ : Hooks (Option String)).get hook =
      (draft.binding? hook).join := by
  cases hook <;> rfl

theorem Of.lacks (of : draft.Of entries) {field : Field} (absent : ∀ value, ¬ Holds entries field.key value) :
    draft.has field = false := by
  rw [Bool.eq_false_iff, Ne, of.has_iff]
  rintro ⟨value, holds⟩
  exact absent value holds

theorem Of.bound (of : draft.Of entries) {hook : Hook} {value : Yaml.Node}
    (holds : Holds entries (Field.binding hook).key value) : draft.binding? hook = some (some value.spelling) := by
  have has := (of.has_iff (.binding hook)).mpr ⟨value, holds⟩
  rw [has_binding] at has
  obtain ⟨bound, known⟩ := Option.isSome_iff_exists.mp has
  obtain ⟨other, again, rfl⟩ := of.bindings hook bound known
  rw [known, again.unique of.sound.distinct holds]

theorem Of.parent (of : draft.Of entries) {mark : Yaml.Mark} {items : List Yaml.Node}
    (holds : Holds entries Field.children.key (.sequence mark items)) :
    ∃ specs, draft.children = some specs ∧ List.Forall₂ Mirrors items specs := by
  have has := (of.has_iff .children).mpr ⟨_, holds⟩
  obtain ⟨specs, known⟩ := Option.isSome_iff_exists.mp has
  obtain ⟨_, _, again, mirrors⟩ := of.children specs known
  obtain ⟨rfl, rfl⟩ := Yaml.Node.sequence.inj (again.unique of.sound.distinct holds)
  exact ⟨specs, known, mirrors⟩

theorem Of.mirrors (of : draft.Of entries) {text : String} (named : draft.name = some text) (mark : Yaml.Mark) :
    Mirrors (.mapping mark entries)
      { label := text
        bindings := ⟨draft.enter.join, draft.exit.join, draft.action.join⟩
        children := draft.children.getD [] } := by
  apply Mirrors.mapping
  case label => exact of.name text named
  case bound =>
    intro hook value holds
    rw [get_bindings, of.bound holds]
    rfl
  case unbound =>
    intro hook absent
    have lacks := of.lacks absent
    rw [has_binding, Option.isSome_eq_false_iff, Option.isNone_iff_eq_none] at lacks
    rw [get_bindings, lacks]
    rfl
  case length_eq =>
    intro mark items holds
    obtain ⟨specs, known, mirrors⟩ := of.parent holds
    rw [known]
    exact mirrors.length_eq
  case nested =>
    intro mark items holds index item child chosen below
    obtain ⟨specs, known, mirrors⟩ := of.parent holds
    rw [known, Option.getD_some] at below
    obtain ⟨within, rfl⟩ := List.getElem?_eq_some_iff.mp chosen
    obtain ⟨inside, rfl⟩ := List.getElem?_eq_some_iff.mp below
    exact mirrors.get within inside
  case childless =>
    intro absent
    have lacks := of.lacks absent
    rw [has, Option.isSome_eq_false_iff, Option.isNone_iff_eq_none] at lacks
    rw [lacks]
    rfl

end Draft

theorem finishDraft_reads {draft : Draft} {entries : Yaml.Entries} (of : draft.Of entries) (path : Path)
    (mark : Yaml.Mark) : Reads (finishDraft path mark draft) (.mapping mark entries) := by
  rw [finishDraft, Draft.finish?]
  cases named : draft.name with
  | none =>
    refine .inr ⟨fails_misfit path mark _, ?_⟩
    rintro ⟨written, _⟩
    have has := (of.has_iff .name).mpr written
    rw [Draft.has, named] at has
    cases has
  | some text =>
    obtain ⟨value, holds, _⟩ := of.name text named
    exact .inl ⟨_, yields_pure _, .mapping ⟨value, holds⟩ of.sound.distinct of.sound.known of.sound.nested,
      of.mirrors named mark⟩

theorem Draft.of_nothing : Draft.Of {} [] := by
  have nothing : ∀ {key value}, ¬ Holds [] key value := by simp [Holds]
  refine ⟨⟨.nil, by simp, fun _ _ holds => absurd holds nothing⟩, ?_, ?_, ?_, ?_⟩
  · rintro (_ | hook | _)
    · simp [has, nothing]
    · cases hook <;> simp [has, nothing]
    · simp [has, nothing]
  · rintro _ ⟨⟩
  · intro hook _ known
    cases hook <;> cases known
  · rintro _ ⟨⟩

section Nodes
variable {document : Yaml.Document}

theorem readEntry_reads {readChildren : Path → Yaml.Node → Decoder (List MenuSpec)} {mark : Yaml.Mark}
    {entries : Yaml.Entries} (parts : ∀ entry ∈ entries, MenuLikePart entry.1 entry.2)
    (each : ∀ mark items path, Holds entries Field.children.key (.sequence mark items) →
      ReadsAll (readChildren path (.sequence mark items)) items) (path : Path) :
    Reads (readEntry document (some readChildren) path (.mapping mark entries)) (.mapping mark entries) := by
  have reads : ReadsEntries (readEntries document readChildren path mark {} entries) entries :=
    readEntries_reads path mark Draft.of_nothing parts each
  rw [readEntry]
  refine Decides.after (yields_pure _) ?_
  rcases reads with ⟨draft, yields, of⟩ | ⟨fails, broken⟩
  · exact Decides.after yields (finishDraft_reads of path mark)
  · refine .inr ⟨fails.bind _, ?_⟩
    rintro ⟨_, distinct, known, nested⟩
    exact broken ⟨distinct, known, nested⟩

theorem readSequence_reads {readItem : Path → Yaml.Node → Decoder MenuSpec} {mark : Yaml.Mark} {items : List Yaml.Node}
    (each : ∀ item ∈ items, ∀ path, Reads (readItem path item) item) (path : Path) :
    ReadsAll (readSequence document (some readItem) path (.sequence mark items)) items :=
  Decides.after (yields_pure _) (readItems_reads each path 0)

/-- With room for all that is nested in it, whatever is laid out like a menu is read or refused as a whole. -/
theorem readNested_reads (room : Nat) {node : Yaml.Node} (like : MenuLike node) (fits : node.nesting ≤ room)
    (path : Path) :
    Reads (readNested document room path node) node := by
  induction room using Nat.strongRecOn generalizing node path with
  | ind room ih =>
    cases like with
    | @mapping entryMark entries parts =>
      have shallow : ∀ {value}, Holds entries Field.children.key value → value.nesting < room := by
        rintro _ ⟨entry, member, _, rfl⟩
        exact Nat.lt_of_lt_of_le (Yaml.Node.nesting_value member) fits
      match room with
      | 0 => exact absurd fits (by simp [Yaml.Node.nesting])
      | 1 =>
        apply readEntry_reads parts
        intro mark items _ holds
        exact absurd (shallow holds) (by simp [Yaml.Node.nesting])
      | room + 2 =>
        apply readEntry_reads parts
        intro mark items path holds
        obtain ⟨_, _, same, likes⟩ := holds.children parts
        obtain ⟨rfl, rfl⟩ := Yaml.Node.sequence.inj same
        apply readSequence_reads
        intro item member path
        have deeper : item.nesting < (Yaml.Node.sequence mark items).nesting := Yaml.Node.nesting_item member
        have within := shallow holds
        exact ih room (by omega) (likes item member) (by omega) path

end Nodes

section Documents
variable {document : Yaml.Document} {spec : MenuSpec}

theorem ofDocument_ok (yields : Yields (readNested document maxDepth [] document.root) spec)
    (whole : document.isWhole = true) (last : document.isLast = true) : ofDocument document = .ok spec := by
  rw [ofDocument, yields 0]
  simp only [whole, last]
  rfl

theorem ofDocument_error (fails : Fails (readNested document maxDepth [] document.root)) :
    ∃ fault, ofDocument document = .error fault := by
  obtain ⟨fault, failed⟩ := fails 0
  rw [ofDocument, failed]
  exact ⟨fault, rfl⟩

end Documents

/-- A document that is laid out like a menu, and not too deep, is read if and only if it is one. Then the menu
is the only one that it mirrors; otherwise nothing is read. -/
theorem ofText_decides {text origin : String} {document : Yaml.Document}
    (read : Yaml.Document.read text.toList = document) (whole : document.isWhole = true)
    (last : document.isLast = true) (like : MenuLike document.root) (shallow : document.root.nesting ≤ 128) :
    (Accepted document.root → ∃ spec, ofText text origin = .ok spec ∧ Mirrors document.root spec ∧
      ∀ other, Mirrors document.root other → other = spec) ∧
    (¬ Accepted document.root → ∃ fault, ofText text origin = .error (.invalidMenu origin fault)) := by
  rw [ofText, read]
  have reads : Reads (readNested document maxDepth [] document.root) document.root :=
    readNested_reads maxDepth like shallow []
  rcases reads with ⟨spec, yields, accepted, mirrors⟩ | ⟨fails, refused⟩
  · rw [ofDocument_ok yields whole last]
    refine ⟨fun _ => ⟨spec, rfl, mirrors, ?_⟩, fun refused => absurd accepted refused⟩
    intro other again
    exact mirrors.unique like accepted again
  · obtain ⟨fault, failed⟩ := ofDocument_error fails
    rw [failed]
    exact ⟨fun accepted => absurd accepted refused, fun _ => ⟨fault, rfl⟩⟩

def family (key : String) : Yaml.Document where
  root := .mapping {}
    [ (.scalar {} none "children" true,
        .sequence ⟨10, 1, 0⟩
          [ .mapping ⟨12, 1, 2⟩
              [ (.scalar ⟨12, 1, 2⟩ none key true,
                  .scalar ⟨14 + key.length, 1, 4 + key.length⟩ none "" false) ] ]),
      (.scalar ⟨17 + key.length, 2, 0⟩ none "name" true, .scalar ⟨23 + key.length, 2, 6⟩ none "A" false) ]
  weight := 11
  isWhole := true
  isLast := true

theorem family_like {key : String}
    (part : ∀ place mark, MenuLikePart (.scalar place none key true) (.scalar mark none "" false)) :
    MenuLike (family key).root := by
  refine .mapping (List.forall_mem_cons.mpr ⟨.children ?_, List.forall_mem_singleton.mpr (.text .name nofun)⟩)
  exact List.forall_mem_singleton.mpr (.mapping (List.forall_mem_singleton.mpr (part _ _)))

theorem family_nesting (key : String) : (family key).root.nesting = 3 := by
  simp [family, Yaml.Node.nesting, Yaml.Node.nestingAll, Yaml.Node.nestingEntries]

theorem accepted_family_iff (key : String) : Accepted (family key).root ↔ key = "name" := by
  constructor
  · rintro ⟨_, _, _, nested⟩
    have inner := nested _ _ ⟨_, List.mem_cons_self, rfl, rfl⟩ _ List.mem_cons_self
    obtain ⟨⟨_, _, member, spelled, _⟩, _⟩ := inner
    rw [List.mem_singleton.mp member] at spelled
    exact spelled
  · rintro rfl
    refine .mapping ⟨_, _, List.mem_cons_of_mem _ List.mem_cons_self, rfl, rfl⟩ (by decide) ?_ ?_
    · exact List.forall_mem_cons.mpr ⟨⟨.children, rfl⟩, List.forall_mem_singleton.mpr ⟨.name, rfl⟩⟩
    · intro mark items holds item member
      simp [Holds, Yaml.Node.spelling, Field.key] at holds
      obtain ⟨rfl, rfl⟩ := holds
      obtain rfl := List.mem_singleton.mp member
      refine .mapping ⟨_, _, List.mem_cons_self, rfl, rfl⟩ (by decide) (List.forall_mem_singleton.mpr ⟨.name, rfl⟩) ?_
      simp [Holds, Yaml.Node.spelling, Field.key]

theorem read_family : Yaml.Document.read "children:\n- name: \"\"\nname: \"A\"\n".toList = family "name" := by decide +kernel

theorem read_strange : Yaml.Document.read "children:\n- x: \"\"\nname: \"A\"\n".toList = family "x" := by decide +kernel

theorem family_decided :
    (∃ spec, ofText "children:\n- name: \"\"\nname: \"A\"\n" "menu" = .ok spec ∧ Mirrors (family "name").root spec) ∧
    ∃ fault, ofText "children:\n- x: \"\"\nname: \"A\"\n" "menu" = .error (.invalidMenu "menu" fault) := by
  have like : MenuLike (family "name").root := family_like fun _ _ => .text .name nofun
  have strange : MenuLike (family "x").root := family_like fun _ _ => .other rfl _
  have shallow : ∀ key, (family key).root.nesting ≤ 128 := by simp [family_nesting]
  obtain ⟨spec, read, mirrors, _⟩ :=
    (ofText_decides read_family rfl rfl like (shallow _)).1 ((accepted_family_iff _).mpr rfl)
  refine ⟨⟨spec, read, mirrors⟩, ?_⟩
  exact (ofText_decides read_strange rfl rfl strange (shallow _)).2 (by simp [accepted_family_iff])

end MenuSpec
end PanelMenu
