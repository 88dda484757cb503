import PanelMenu.Menu.Build
import PanelMenu.Menu.Record
import PanelMenu.Proofs.MenuReading

/-! The record of a menu is read as that menu if all its texts are delivered in quotes, whatever they look like. What
the record leaves out is what the reader leaves alone. It takes two collections to nest an entry in another. -/

namespace PanelMenu

mutual

/-- The node delivers the value, with every text in quotes. -/
inductive Quotes : Json → Yaml.Node → Prop where
  | string (mark : Yaml.Mark) (text : String) : Quotes (.string text) (.scalar mark none text false)
  | array {items nodes} (mark : Yaml.Mark) (each : List.Forall₂ Quotes items nodes) :
      Quotes (.array items) (.sequence mark nodes)
  | object {members entries} (mark : Yaml.Mark) (each : List.Forall₂ QuotesMember members entries) :
      Quotes (.object members) (.mapping mark entries)

inductive QuotesMember : String × Json → Yaml.Node × Yaml.Node → Prop where
  | member {value node} (mark : Yaml.Mark) (key : String) (isPlain : Bool) (quotes : Quotes value node) :
      QuotesMember (key, value) (.scalar mark none key isPlain, node)

end

namespace Decoder
variable {α β : Type}

/-- The reader reads this if it fits, and has no other complaint. -/
def YieldsWithin (reader : Decoder α) (value : α) (fits : Prop) : Prop :=
  (fits → Yields reader value) ∧ (¬ fits → ∀ followed, reader.run followed = .error .tooDeep)

section Bind
variable {reader : Decoder α} {next : α → Decoder β} {value : α} {result : β} {fits more : Prop}

theorem yieldsWithin_tooDeep (tight : ¬ fits) : YieldsWithin (throw .tooDeep : Decoder α) value fits :=
  ⟨fun room => absurd room tight, fun _ _ => rfl⟩

theorem YieldsWithin.congr (within : YieldsWithin reader value fits) (same : fits ↔ more) :
    YieldsWithin reader value more := by
  rwa [YieldsWithin, ← same]

theorem Yields.within (yields : Yields reader value) (room : fits) : YieldsWithin reader value fits :=
  ⟨fun _ => yields, fun tight => absurd room tight⟩

theorem YieldsWithin.bind (first : YieldsWithin reader value fits) (rest : YieldsWithin (next value) result more) :
    YieldsWithin (reader >>= next) result (fits ∧ more) := by
  refine ⟨fun ⟨room, left⟩ => (first.1 room).bind (rest.1 left), fun tight followed => ?_⟩
  rw [StateT.run_bind]
  by_cases room : fits
  · rw [first.1 room followed]
    exact rest.2 (fun left => tight ⟨room, left⟩) followed
  · rw [first.2 room followed]
    rfl

theorem YieldsWithin.last (first : YieldsWithin reader value fits) (rest : Yields (next value) result) :
    YieldsWithin (reader >>= next) result fits :=
  (first.bind (rest.within trivial)).congr (iff_of_eq (and_true fits))

theorem YieldsWithin.map (within : YieldsWithin reader value fits) (combine : α → β) :
    YieldsWithin (reader >>= fun value => pure (combine value)) (combine value) fits :=
  within.last (yields_pure (combine value))

theorem Yields.after (first : Yields reader value) (rest : YieldsWithin (next value) result fits) :
    YieldsWithin (reader >>= next) result fits :=
  ((first.within trivial).bind rest).congr (iff_of_eq (true_and fits))

end Bind
end Decoder

namespace MenuSpec
open Decoder

mutual

/-- How many entries there are below each other, at most. -/
def levels : MenuSpec → Nat
  | ⟨_, _, children⟩ => levelsAll children + 1

def levelsAll : List MenuSpec → Nat
  | [] => 0
  | child :: rest => max child.levels (levelsAll rest)

end

theorem levels_eq (spec : MenuSpec) : spec.levels = levelsAll spec.children + 1 := by
  obtain ⟨_, _, _⟩ := spec
  rfl

theorem levels_pos (spec : MenuSpec) : 0 < spec.levels := by
  rw [levels_eq]
  exact Nat.succ_pos _

theorem levelsAll_pos {children : List MenuSpec} (some : children ≠ []) : 0 < levelsAll children := by
  obtain ⟨child, rest, rfl⟩ := List.exists_cons_of_ne_nil some
  exact Nat.lt_of_lt_of_le child.levels_pos (Nat.le_max_left _ _)

def bindingMember (bindings : Hooks (Option String)) (hook : Hook) : List (String × Json) :=
  (bindings.get hook).toList.map fun name => ((Field.binding hook).key, .string name)

theorem bindingMembers_eq (bindings : Hooks (Option String)) :
    bindingMembers bindings =
      bindingMember bindings .enter ++ (bindingMember bindings .exit ++ bindingMember bindings .action) := by
  obtain ⟨enter, exit, action⟩ := bindings
  cases enter <;> cases exit <;> cases action <;> rfl

theorem childrenMember_eq {children : List MenuSpec} (some : children ≠ []) :
    childrenMember (recordAll children) = [(Field.children.key, .array (recordAll children))] := by
  obtain ⟨child, rest, rfl⟩ := List.exists_cons_of_ne_nil some
  rfl

theorem mem_childrenMember {children : List MenuSpec} {member : String × Json}
    (inside : member ∈ childrenMember (recordAll children)) :
    member = (Field.children.key, .array (recordAll children)) := by
  cases children with
  | nil => cases inside
  | cons child rest =>
    rw [childrenMember_eq (List.cons_ne_nil child rest)] at inside
    exact List.mem_singleton.mp inside

def Draft.bound (draft : Draft) (bindings : Hooks (Option String)) (hook : Hook) : Draft :=
  match bindings.get hook with
  | some name => draft.bind (some name) hook
  | none => draft

theorem Draft.has_bound (draft : Draft) (bindings : Hooks (Option String)) {hook : Hook} {field : Field}
    (other : field ≠ .binding hook) : (draft.bound bindings hook).has field = draft.has field := by
  rw [bound]
  cases bindings.get hook with
  | none => rfl
  | some name =>
    rcases field with _ | asked | _
    · cases hook <;> rfl
    · cases hook <;> cases asked <;> first | rfl | exact absurd rfl other
    · cases hook <;> rfl

def Draft.ofSpec : MenuSpec → Draft
  | ⟨label, bindings, children⟩ =>
    { name := some label
      enter := bindings.enter.map some
      exit := bindings.exit.map some
      action := bindings.action.map some
      children := if children = [] then none else some children }

theorem Draft.finish?_ofSpec (spec : MenuSpec) : (Draft.ofSpec spec).finish? = some spec := by
  obtain ⟨label, ⟨enter, exit, action⟩, children⟩ := spec
  have joined : ∀ bound : Option String, (bound.map some).join = bound := by
    rintro (_ | _) <;> rfl
  have rest : (if children = [] then none else some children : Option (List MenuSpec)).getD [] = children := by
    split
    next none => exact none.symm
    next => rfl
  simp only [Draft.finish?, Draft.ofSpec, joined, rest, Option.map_some]

section Entries
variable {document : Yaml.Document} {readChildren : Path → Yaml.Node → Decoder (List MenuSpec)} {path : Path}
  {entryMark mark : Yaml.Mark} {isPlain : Bool} {draft result : Draft} {entries : Yaml.Entries} {fits : Prop}

theorem readEntries_name (lacks : draft.has .name = false) {node : Yaml.Node} {text : String}
    (quotes : Quotes (.string text) node)
    (later : YieldsWithin (readEntries document readChildren path entryMark { draft with name := some text } entries)
      result fits) :
    YieldsWithin (readEntries document readChildren path entryMark draft
      ((.scalar mark none Field.name.key isPlain, node) :: entries)) result fits := by
  cases quotes
  rw [readEntries]
  refine (yields_readKey document path mark isPlain .name).after ?_
  rw [lacks]
  exact (yields_text document _ _ text false "a string").after later

theorem readEntries_binding {hook : Hook} (lacks : draft.has (.binding hook) = false) {node : Yaml.Node}
    {text : String} (quotes : Quotes (.string text) node)
    (later : YieldsWithin (readEntries document readChildren path entryMark (draft.bind (some text) hook) entries)
      result fits) :
    YieldsWithin (readEntries document readChildren path entryMark draft
      ((.scalar mark none (Field.binding hook).key isPlain, node) :: entries)) result fits := by
  cases quotes
  rw [readEntries]
  refine (yields_readKey document path mark isPlain (.binding hook)).after ?_
  rw [lacks]
  exact (yields_binding document _ _ text path entryMark).after later

theorem readEntries_children (lacks : draft.has .children = false) {node : Yaml.Node} {children : List MenuSpec}
    (each : ∀ path, YieldsWithin (readChildren path node) children fits) :
    YieldsWithin (readEntries document readChildren path entryMark draft
      [(.scalar mark none Field.children.key isPlain, node)]) { draft with children := some children } fits := by
  rw [readEntries]
  refine (yields_readKey document path mark isPlain .children).after ?_
  rw [lacks]
  exact (each _).map fun children => { draft with children := some children }

theorem readEntries_bound {bindings : Hooks (Option String)} {hook : Hook}
    (lacks : draft.has (.binding hook) = false) {members : List (String × Json)}
    (quotes : List.Forall₂ QuotesMember (bindingMember bindings hook ++ members) entries)
    (later : ∀ rest, List.Forall₂ QuotesMember members rest →
      YieldsWithin (readEntries document readChildren path entryMark (draft.bound bindings hook) rest) result fits) :
    YieldsWithin (readEntries document readChildren path entryMark draft entries) result fits := by
  rw [bindingMember] at quotes
  rw [Draft.bound] at later
  cases bound : bindings.get hook with
  | none =>
    rw [bound] at quotes later
    exact later entries quotes
  | some text =>
    rw [bound] at quotes later
    cases quotes with
    | cons first rest =>
      cases first with
      | member mark _ isPlain quotes => exact readEntries_binding lacks quotes (later _ rest)

theorem readEntries_nested {children : List MenuSpec} (lacks : draft.has .children = false)
    (quotes : List.Forall₂ QuotesMember (childrenMember (recordAll children)) entries) (leaf : children = [] → fits)
    (each : children ≠ [] → ∀ node, Quotes (.array (recordAll children)) node → ∀ path,
      YieldsWithin (readChildren path node) children fits) :
    YieldsWithin (readEntries document readChildren path entryMark draft entries)
      { draft with children := if children = [] then none else some children } fits := by
  by_cases none : children = []
  · subst none
    cases quotes
    have same : draft.children = .none := Option.isNone_iff_eq_none.mp (Option.isSome_eq_false_iff.mp lacks)
    rw [if_pos rfl, ← same]
    exact (yields_pure draft).within (leaf rfl)
  · rw [childrenMember_eq none] at quotes
    rw [if_neg none]
    cases quotes with
    | cons first rest =>
      cases rest
      cases first with
      | member _ _ _ quotes => exact readEntries_children lacks (each none _ quotes)

theorem Draft.bound_all (label : String) (bindings : Hooks (Option String)) :
    (((Draft.bound { name := some label } bindings .enter).bound bindings .exit).bound bindings .action) =
      .ofSpec ⟨label, bindings, []⟩ := by
  obtain ⟨enter, exit, action⟩ := bindings
  cases enter <;> cases exit <;> cases action <;> rfl

/-- The members of an entry become a draft of it. Its children, if it has any, may not fit. -/
theorem readEntries_ofSpec {label : String} {bindings : Hooks (Option String)} {children : List MenuSpec}
    (quotes : List.Forall₂ QuotesMember
      ((Field.name.key, .string label) :: bindingMembers bindings ++ childrenMember (recordAll children)) entries)
    (leaf : children = [] → fits)
    (each : children ≠ [] → ∀ node, Quotes (.array (recordAll children)) node → ∀ path,
      YieldsWithin (readChildren path node) children fits) :
    YieldsWithin (readEntries document readChildren path entryMark {} entries) (.ofSpec ⟨label, bindings, children⟩)
      fits := by
  let named : Draft := { name := some label }
  have fresh : (named.bound bindings .enter).has (.binding .exit) = false := named.has_bound bindings (by decide)
  have fresher : ((named.bound bindings .enter).bound bindings .exit).has (.binding .action) = false :=
    (Draft.has_bound _ bindings (by decide)).trans (named.has_bound bindings (by decide))
  rw [bindingMembers_eq, List.cons_append, List.append_assoc, List.append_assoc] at quotes
  cases quotes with
  | cons first rest =>
    cases first with
    | member mark _ isPlain text =>
      apply readEntries_name rfl text
      apply readEntries_bound rfl rest
      intro rest quotes
      apply readEntries_bound fresh quotes
      intro rest quotes
      apply readEntries_bound fresher quotes
      intro rest quotes
      rw [Draft.bound_all]
      exact readEntries_nested rfl quotes leaf each

end Entries

section Nodes
variable {document : Yaml.Document}

theorem readEntry_record {readChildren : Path → Yaml.Node → Decoder (List MenuSpec)} {spec : MenuSpec}
    {node : Yaml.Node} {fits : Prop} (quotes : Quotes spec.record node) (leaf : spec.children = [] → fits)
    (each : spec.children ≠ [] → ∀ node, Quotes (.array (recordAll spec.children)) node → ∀ path,
      YieldsWithin (readChildren path node) spec.children fits) (path : Path) :
    YieldsWithin (readEntry document (some readChildren) path node) spec fits := by
  obtain ⟨label, bindings, children⟩ := spec
  rw [record] at quotes
  cases quotes with
  | object mark quotes =>
    rw [readEntry]
    refine Yields.after (yields_pure _) ?_
    have finished :
        Yields (finishDraft path mark (.ofSpec ⟨label, bindings, children⟩)) ⟨label, bindings, children⟩ := by
      rw [finishDraft, Draft.finish?_ofSpec]
      exact yields_pure _
    exact (readEntries_ofSpec quotes leaf each).last finished

theorem readItems_record {readItem : Path → Yaml.Node → Decoder MenuSpec} {room : Nat} {children : List MenuSpec}
    {items : List Yaml.Node} (quotes : List.Forall₂ Quotes (recordAll children) items)
    (each : ∀ child : MenuSpec, ∀ item, Quotes child.record item → ∀ path,
      YieldsWithin (readItem path item) child (2 * child.levels ≤ room + 1)) (path : Path) (index : Nat) :
    YieldsWithin (readItems readItem path index items) children (2 * levelsAll children ≤ room + 1) := by
  induction children generalizing items index with
  | nil =>
    cases quotes
    exact (yields_pure []).within (Nat.zero_le _)
  | cons child rest ih =>
    rw [recordAll] at quotes
    cases quotes with
    | cons first others =>
      rw [readItems]
      refine ((each child _ first _).bind ((ih others (index + 1)).map (child :: ·))).congr ?_
      rw [levelsAll]
      omega

/-- With room for all that is nested in it, an entry is read from its record. It needs room for itself, and with each
level for a sequence and another entry. -/
theorem readNested_record (document : Yaml.Document) (room : Nat) {spec : MenuSpec} {node : Yaml.Node}
    (quotes : Quotes spec.record node) (path : Path) :
    YieldsWithin (readNested document room path node) spec (2 * spec.levels ≤ room + 1) := by
  induction room using Nat.strongRecOn generalizing spec node path with
  | ind room ih =>
    have below := spec.levels_eq
    have single : spec.children = [] → spec.levels = 1 := by
      intro none
      rw [below, none, levelsAll]
    match room with
    | 0 =>
      have tight : ¬ 2 * spec.levels ≤ 0 + 1 := by omega
      obtain ⟨_, _, _⟩ := spec
      rw [record] at quotes
      cases quotes
      exact Yields.after (yields_pure _) (yieldsWithin_tooDeep tight)
    | 1 =>
      apply readEntry_record quotes
      case leaf =>
        intro none
        have height := single none
        omega
      case each =>
        intro some node quotes path
        have deeper := levelsAll_pos some
        cases quotes
        exact Yields.after (yields_pure _) (yieldsWithin_tooDeep (by omega))
    | room + 2 =>
      apply readEntry_record quotes
      case leaf =>
        intro none
        rw [single none]
        omega
      case each =>
        intro _ node quotes path
        cases quotes with
        | array mark quotes =>
          have items := readItems_record quotes (fun _ _ quotes path => ih room (by omega) quotes path) path 0
          exact Yields.after (yields_pure _) (items.congr (by omega))

end Nodes

section Deliveries

theorem exists_quotesMembers {members : List (String × Json)}
    (each : ∀ member ∈ members, ∃ node, Quotes member.2 node) :
    ∃ entries, List.Forall₂ QuotesMember members entries := by
  induction members with
  | nil => exact ⟨[], .nil⟩
  | cons member rest ih =>
    obtain ⟨⟨node, quotes⟩, others⟩ := List.forall_mem_cons.mp each
    obtain ⟨entries, quotesRest⟩ := ih others
    exact ⟨_, .cons (.member {} member.1 true quotes) quotesRest⟩

theorem exists_quotes_binding {bindings : Hooks (Option String)} {member : String × Json}
    (bound : member ∈ bindingMembers bindings) : ∃ node, Quotes member.2 node := by
  obtain ⟨hook, _, here⟩ := List.mem_flatMap.mp bound
  split at here
  next name _ =>
    rw [List.mem_singleton.mp here]
    exact ⟨_, .string {} name⟩
  next => cases here

mutual

/-- Every record can be delivered with its texts in quotes. -/
theorem exists_quotes : (spec : MenuSpec) → ∃ node, Quotes spec.record node
  | ⟨label, bindings, children⟩ => by
    have each : ∀ member ∈ (Field.name.key, .string label) :: bindingMembers bindings ++
        childrenMember (recordAll children), ∃ node, Quotes member.2 node := by
      intro member inside
      rw [List.mem_append, List.mem_cons] at inside
      rcases inside with (rfl | bound) | nested
      · exact ⟨_, .string {} label⟩
      · exact exists_quotes_binding bound
      · obtain ⟨nodes, quotes⟩ := exists_quotesAll children
        rw [mem_childrenMember nested]
        exact ⟨_, .array {} quotes⟩
    obtain ⟨entries, quotes⟩ := exists_quotesMembers each
    exact ⟨_, .object {} quotes⟩

theorem exists_quotesAll : (children : List MenuSpec) → ∃ nodes, List.Forall₂ Quotes (recordAll children) nodes
  | [] => ⟨[], .nil⟩
  | child :: rest => by
    obtain ⟨node, quotes⟩ := exists_quotes child
    obtain ⟨nodes, quotesRest⟩ := exists_quotesAll rest
    exact ⟨node :: nodes, .cons quotes quotesRest⟩

end

theorem record_injective {spec other : MenuSpec} (same : spec.record = other.record) : spec = other := by
  obtain ⟨node, quotes⟩ := exists_quotes spec
  let room := 2 * max spec.levels other.levels
  let document : Yaml.Document := { root := node, isWhole := true, isLast := true }
  have first := (readNested_record document room quotes []).1 (by omega) 0
  have second := (readNested_record document room (same ▸ quotes) []).1 (by omega) 0
  exact congrArg Prod.fst (Except.ok.inj (first.symm.trans second))

end Deliveries

/-- A whole document that delivers the record of a menu. -/
structure Delivers (document : Yaml.Document) (spec : MenuSpec) : Prop where
  root : Quotes spec.record document.root
  isWhole : document.isWhole = true
  isLast : document.isLast = true

theorem Delivers.ofDocument_eq {document : Yaml.Document} {spec : MenuSpec} (delivers : Delivers document spec) :
    ofDocument document = if spec.levels ≤ 64 then .ok spec else .error .tooDeep := by
  obtain ⟨reads, refuses⟩ := readNested_record document maxDepth delivers.root []
  split
  next shallow => exact ofDocument_ok (reads (by rw [maxDepth]; omega)) delivers.isWhole delivers.isLast
  next deep =>
    rw [ofDocument, refuses (by rw [maxDepth]; omega) 0]
    rfl

theorem exists_delivers (spec : MenuSpec) : ∃ document, Delivers document spec := by
  obtain ⟨node, quotes⟩ := exists_quotes spec
  exact ⟨{ root := node, isWhole := true, isLast := true }, quotes, rfl, rfl⟩

/-- No two menus have one record, and each is read from its own unless it is too deep. -/
theorem record_roundtrip (spec : MenuSpec) :
    (∀ other : MenuSpec, other.record = spec.record → other = spec) ∧ (∃ document, Delivers document spec) ∧
      ∀ document, Delivers document spec →
        ofDocument document = (if spec.levels ≤ 64 then .ok spec else .error .tooDeep) ∧
          (spec.levels ≤ 64 →
            (∀ registry, (ofDocument document).map (Tree.build registry) = .ok (Tree.build registry spec)) ∧
              ∀ text origin, Yaml.Document.read text.toList = document → ofText text origin = .ok spec) := by
  refine ⟨fun _ => record_injective, exists_delivers spec, fun document delivers => ⟨delivers.ofDocument_eq, ?_⟩⟩
  intro shallow
  have read := delivers.ofDocument_eq
  rw [if_pos shallow] at read
  refine ⟨fun registry => ?_, fun text origin same => ?_⟩
  · rw [read]
    rfl
  · rw [ofText, same, read]
    rfl

section Lookalikes

/-- Texts that say that there is nothing, or are a number, if they are not in quotes. -/
private def lookalikes : MenuSpec where
  label := ""
  bindings := ⟨some "null", none, none⟩
  children := [{ label := "1" }]

private def lookalikesText : String :=
  "\x7b\"name\":\"\",\"on_enter\":\"null\",\"children\":[\x7b\"name\":\"1\"\x7d]\x7d"

private def inQuotes (index : Nat) (text : String) : Yaml.Node := .scalar ⟨index, 0, index⟩ none text false

private def lookalikesDocument : Yaml.Document where
  root := .mapping {}
    [ (inQuotes 1 "name", inQuotes 8 ""), (inQuotes 11 "on_enter", inQuotes 22 "null"),
      (inQuotes 29 "children", .sequence ⟨40, 0, 40⟩ [.mapping ⟨41, 0, 41⟩ [(inQuotes 42 "name", inQuotes 49 "1")]]) ]
  weight := 13
  isWhole := true
  isLast := true

private theorem read_lookalikes : Yaml.Document.read lookalikesText.toList = lookalikesDocument := by decide +kernel

private theorem delivers_lookalikes : Delivers lookalikesDocument lookalikes := by
  have text : ∀ index text, Quotes (.string text) (inQuotes index text) := fun _ text => .string _ text
  have member : ∀ {value node} index key, Quotes value node → QuotesMember (key, value) (inQuotes index key, node) :=
    fun _ key quotes => .member _ key false quotes
  have child : Quotes (record { label := "1" }) (.mapping ⟨41, 0, 41⟩ [(inQuotes 42 "name", inQuotes 49 "1")]) :=
    .object _ (.cons (member 42 "name" (text 49 "1")) .nil)
  have root : Quotes lookalikes.record lookalikesDocument.root :=
    .object _ (.cons (member 1 "name" (text 8 "")) (.cons (member 11 "on_enter" (text 22 "null"))
      (.cons (member 29 "children" (.array _ (.cons child .nil))) .nil)))
  exact ⟨root, rfl, rfl⟩

theorem record_roundtrip_lookalikes :
    lookalikes.record.text = lookalikesText ∧ ofText lookalikesText "menu" = .ok lookalikes := by
  obtain ⟨-, -, reads⟩ := record_roundtrip lookalikes
  obtain ⟨-, shallow⟩ := reads lookalikesDocument delivers_lookalikes
  exact ⟨by decide +kernel, (shallow (by decide)).2 lookalikesText "menu" read_lookalikes⟩

end Lookalikes

end MenuSpec
end PanelMenu
