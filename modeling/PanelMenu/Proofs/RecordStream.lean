import PanelMenu.Proofs.JsonReading
import PanelMenu.Session.Journal
import PanelMenu.Session.Renderer
import PanelMenu.Text.Lines

/-! The stream of records is a faithful account: whoever reads it line by line gets back every event and
every view, in their order. No label can end a line or pass for something else. -/

namespace PanelMenu

theorem mapM_map_of_inverse {α β : Type} {read : β → Option α} {written : α → β}
    (inverse : ∀ item, read (written item) = some item) (items : List α) :
    (items.map written).mapM read = some items := by
  induction items with
  | nil => rfl
  | cons item rest ih =>
    rw [List.map_cons, List.mapM_cons, inverse, ih]
    rfl

namespace Json

def member? (name : String) : Json → Option Json
  | object members => members.lookup name
  | _ => none

def string? : Json → Option String
  | string text => some text
  | _ => none

def number? : Json → Option Nat
  | number n => some n
  | _ => none

def boolean? : Json → Option Bool
  | boolean value => some value
  | _ => none

def items? : Json → Option (List Json)
  | array items => some items
  | _ => none

end Json

def Binding.ofRecord? : String → Json → Option Binding
  | "default", .null => some .standard
  | "named", .string name => some (.named name)
  | "handler", .null => some .handled
  | _, _ => none

def Hook.ofName? : String → Option Hook
  | "enter" => some .enter
  | "exit" => some .exit
  | "action" => some .action
  | _ => none

def EndReason.ofName? : String → Option EndReason
  | "back_at_root" => some .backAtRoot
  | "input_closed" => some .inputClosed
  | _ => none

def Event.ofRecord? (record : Json) : Option Event := do
  let text (name : String) : Option String := record.member? name >>= Json.string?
  let number (name : String) : Option Nat := record.member? name >>= Json.number?
  match ← text "event" with
  | "session_started" => return .sessionStarted (← number "root") (← text "label")
  | "moved" => return .moved (← number "node") (← number "selected")
  | "entered" => return .entered (← number "from") (← number "to")
  | "ascended" => return .ascended (← number "from") (← number "to")
  | "returned_to_root" => return .returnedToRoot (← number "from") (← number "root")
  | "hook_fired" =>
    let hook ← Hook.ofName? (← text "hook")
    let binding ← Binding.ofRecord? (← text "binding") (← record.member? "callback")
    return .hookFired (← number "node") (← text "label") hook binding
  | "input_ignored" => return .inputIgnored
  | "render_failed" => return .renderFailed (← text "observer") (← text "error")
  | "session_ended" => return .sessionEnded (← EndReason.ofName? (← text "reason")) (← number "steps")
  | _ => none

def View.Item.ofRecord? (record : Json) : Option View.Item := do
  return {
    label := ← record.member? "label" >>= Json.string?
    selected := ← record.member? "selected" >>= Json.boolean?
    hasChildren := ← record.member? "has_children" >>= Json.boolean? }

def View.ofRecord? (record : Json) : Option View := do
  let items ← record.member? "items" >>= Json.items?
  return {
    node := ← record.member? "node" >>= Json.number?
    title := ← record.member? "title" >>= Json.string?
    depth := ← record.member? "depth" >>= Json.number?
    items := ← items.mapM View.Item.ofRecord? }

theorem Event.ofRecord?_record (event : Event) : Event.ofRecord? event.record = some event := by
  cases event with
  | hookFired node label hook binding => cases hook <;> cases binding <;> rfl
  | sessionEnded reason steps => cases reason <;> rfl
  | _ => rfl

theorem View.Item.ofRecord?_record (item : View.Item) : View.Item.ofRecord? item.record = some item :=
  rfl

theorem View.ofRecord?_record (view : View) : View.ofRecord? view.record = some view := by
  change (((view.items.map View.Item.record).mapM View.Item.ofRecord?).bind fun items =>
    some { view with items := items }) = some view
  rw [mapM_map_of_inverse View.Item.ofRecord?_record]
  rfl

/-- What is put on the stream: an event, or a view as a frame. -/
inductive Record
  | event (reported : Event)
  | frame (view : View)
  deriving DecidableEq, Repr

namespace Record

def json : Record → Json
  | event reported => reported.record
  | frame view => view.frame

def ofJson? (value : Json) : Option Record :=
  match value.member? "event" with
  | some (.string "frame") => (value.member? "view" >>= View.ofRecord?).map frame
  | _ => (Event.ofRecord? value).map event

theorem ofJson?_json (record : Record) : ofJson? record.json = some record := by
  cases record with
  | event reported =>
    have other : ofJson? reported.record = (Event.ofRecord? reported.record).map event := by
      cases reported <;> rfl
    rw [json, other, Event.ofRecord?_record]
    rfl
  | frame view =>
    change (View.ofRecord? view.record).map frame = _
    rw [View.ofRecord?_record]
    rfl

/-- Events come from the sink of a session and frames from one of its renderers. Both write to the output. -/
def write (raw : Bool) (world : World) : Record → World
  | event reported => (Journal.records raw).sink reported world
  | frame view => (Observer.render view (Renderer.records raw) world).world

def lineEnd (raw : Bool) : List Char :=
  if raw then ['\r', '\n'] else ['\n']

def stream (raw : Bool) (records : List Record) : List Char :=
  records.flatMap fun record => record.json.print ++ lineEnd raw

/-- Reads a stream, of which it need not be known how lines end. -/
def readAll? (text : List Char) : Option (List Record) :=
  (Text.lines text).mapM fun line => Json.parse? line >>= ofJson?

theorem line_eq (raw : Bool) (record : Record) :
    recordLine raw record.json = .ofList (record.json.print ++ lineEnd raw) := by
  rw [recordLine, Json.text, String.ofList_append]
  cases raw <;> rfl

theorem write_eq (raw : Bool) (world : World) (record : Record) :
    record.write raw world = { world with output := world.output ++ .ofList (record.json.print ++ lineEnd raw) } := by
  rw [← line_eq]
  cases record <;> rfl

theorem foldl_write (raw : Bool) (records : List Record) (world : World) :
    records.foldl (write raw) world = { world with output := world.output ++ .ofList (stream raw records) } := by
  induction records generalizing world with
  | nil =>
    change world = { world with output := world.output ++ "" }
    rw [String.append_empty]
  | cons record rest ih =>
    have joined : String.ofList (stream raw (record :: rest)) =
        .ofList (record.json.print ++ lineEnd raw) ++ .ofList (stream raw rest) := String.ofList_append
    rw [List.foldl_cons, ih, write_eq, joined, ← String.append_assoc]

end Record

namespace Text

theorem linesFrom_append {line : List Char} (inside : '\n' ∉ line) (pending rest : List Char) :
    linesFrom pending (line ++ '\n' :: rest) = dropReturn (pending.reverse ++ line) :: linesFrom [] rest := by
  induction line generalizing pending with
  | nil => rw [List.nil_append, linesFrom, List.append_nil]
  | cons c line ih =>
    have different : c ≠ '\n' := fun same => inside (same ▸ List.mem_cons_self)
    have others : '\n' ∉ line := fun later => inside (List.mem_cons_of_mem c later)
    rw [List.cons_append, linesFrom, ih others, List.reverse_cons, List.append_assoc]
    · rfl
    · exact different

theorem dropReturn_eq {line : List Char} (inside : '\r' ∉ line) : dropReturn line = line := by
  unfold dropReturn
  split
  next last => exact absurd (List.mem_of_getLast? last) inside
  next => rfl

theorem dropReturn_append (line : List Char) : dropReturn (line ++ ['\r']) = line := by
  simp [dropReturn]

end Text

namespace Record

theorem noFeed (record : Record) : '\n' ∉ record.json.print :=
  (Json.visible_print record.json).not_mem (by decide)

theorem noReturn (record : Record) : '\r' ∉ record.json.print :=
  (Json.visible_print record.json).not_mem (by decide)

theorem lines_stream (raw : Bool) (records : List Record) :
    Text.lines (stream raw records) = records.map fun record => record.json.print := by
  induction records with
  | nil => rfl
  | cons record rest ih =>
    rw [Text.lines] at ih
    rw [Text.lines, stream, List.flatMap_cons, List.map_cons, ← ih]
    cases raw with
    | false =>
      rw [lineEnd, if_neg Bool.false_ne_true, List.append_assoc, List.singleton_append,
        Text.linesFrom_append record.noFeed, List.reverse_nil, List.nil_append, Text.dropReturn_eq record.noReturn]
      rfl
    | true =>
      have inside : '\n' ∉ record.json.print ++ ['\r'] := by simp [record.noFeed]
      have split : record.json.print ++ lineEnd true = record.json.print ++ ['\r'] ++ ['\n'] := by simp [lineEnd]
      rw [split, List.append_assoc, List.singleton_append, Text.linesFrom_append inside, List.reverse_nil,
        List.nil_append, Text.dropReturn_append]
      rfl

theorem readAll?_stream (raw : Bool) (records : List Record) : readAll? (stream raw records) = some records := by
  rw [readAll?, lines_stream]
  apply mapM_map_of_inverse
  intro record
  rw [Json.parse?_print]
  exact ofJson?_json record

theorem count_stream (raw : Bool) (records : List Record) :
    (stream raw records).count '\n' = records.length ∧
      (stream raw records).count '\r' = if raw then records.length else 0 := by
  induction records with
  | nil => cases raw <;> exact ⟨rfl, rfl⟩
  | cons record rest ih =>
    obtain ⟨feeds, returns⟩ := ih
    rw [stream, List.flatMap_cons, ← stream, List.count_append, List.count_append, List.count_append,
      List.count_append, feeds, returns, List.count_eq_zero.mpr record.noFeed,
      List.count_eq_zero.mpr record.noReturn, List.length_cons]
    cases raw <;> simp [lineEnd] <;> omega

/-- The sink and the renderer write nothing but the stream. Each record takes up one line, which ends in a
line feed, on a raw terminal after a carriage return, and has no other. Reading the lines gives the records
back, so none can be mistaken for another. -/
theorem stream_readable (raw : Bool) (records : List Record) (world : World) :
    let text := stream raw records
    records.foldl (write raw) world = { world with output := world.output ++ .ofList text } ∧
      (∀ record ∈ records, '\n' ∉ record.json.print ∧ '\r' ∉ record.json.print) ∧
      text.count '\n' = records.length ∧ text.count '\r' = (if raw then records.length else 0) ∧
      readAll? text = some records ∧
      (∀ (mode : Bool) (others : List Record), stream mode others = text → others = records) ∧
      ∀ record other : Record, record.json.text = other.json.text → record = other := by
  intro text
  obtain ⟨feeds, returns⟩ := count_stream raw records
  have read := readAll?_stream raw records
  refine ⟨foldl_write raw records world, fun record _ => ⟨record.noFeed, record.noReturn⟩, feeds, returns, read, ?_, ?_⟩
  · intro mode others same
    have again := readAll?_stream mode others
    rw [same] at again
    exact Option.some.inj (again.symm.trans read)
  · intro record other same
    have printed : record.json.print = other.json.print := String.ofList_injective same
    have value := Json.parse?_print record.json
    rw [printed, Json.parse?_print] at value
    have decoded := ofJson?_json record
    rw [← Option.some.inj value, ofJson?_json] at decoded
    exact (Option.some.inj decoded).symm

end Record
end PanelMenu
