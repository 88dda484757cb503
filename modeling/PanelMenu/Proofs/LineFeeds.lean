import Mathlib.Data.List.Basic
import PanelMenu.Proofs.SessionOutput

/-! Line feeds on a raw terminal, which moves down at them and not back to the left. The screen ends every
line with a carriage return as well, whatever the labels hold. The log does so only at the end of a whole
line: a line feed in a text of an event is written as it is. -/

namespace PanelMenu

namespace Text

/-- Every line feed stands right behind a carriage return. -/
def Returned (text : List Char) : Prop :=
  text.head? ≠ some '\n' ∧ text.IsChain fun before c => c = '\n' → before = '\r'

instance (text : List Char) : Decidable (Returned text) :=
  inferInstanceAs (Decidable (_ ∧ _))

section Returned
variable {text rest : List Char}

theorem returned_of_not_mem (feedless : '\n' ∉ text) : Returned text := by
  refine ⟨fun first => feedless (List.mem_of_head? first), List.isChain_iff_getElem.mpr ?_⟩
  intro index inside feed
  exact absurd (feed ▸ List.getElem_mem inside) feedless

/-- Between two parts there is something to tell only where the second starts with a line feed. -/
theorem returned_append_iff (free : text.getLast? ≠ some '\r' ∨ rest.head? ≠ some '\n') :
    Returned (text ++ rest) ↔ Returned text ∧ Returned rest := by
  rcases text.eq_nil_or_concat with rfl | ⟨front, last, rfl⟩
  · simp [Returned]
  · simp only [Returned, List.isChain_append]
    cases rest with
    | nil => simp
    | cons c rest =>
      simp at free ⊢
      tauto

theorem Returned.append (first : Returned text) (second : Returned rest) : Returned (text ++ rest) :=
  (returned_append_iff (.inr second.1)).mpr ⟨first, second⟩

end Returned

section Parts
variable {α : Type} {part : α → List Char} {c : Char}

theorem head?_append_ne {text rest : List Char} (first : text.head? ≠ some c) (second : rest.head? ≠ some c) :
    (text ++ rest).head? ≠ some c := by
  rw [List.head?_append, Ne, Option.or_eq_some_iff]
  rintro (here | ⟨_, later⟩)
  · exact first here
  · exact second later

theorem head?_flatMap_ne {items : List α} (free : ∀ item ∈ items, (part item).head? ≠ some c) :
    (items.flatMap part).head? ≠ some c := by
  induction items with
  | nil => exact nofun
  | cons item rest ih =>
    rw [List.flatMap_cons]
    obtain ⟨here, others⟩ := List.forall_mem_cons.mp free
    exact head?_append_ne here (ih others)

theorem returned_flatMap_iff {items : List α} (free : ∀ item ∈ items, (part item).head? ≠ some '\n') :
    Returned (items.flatMap part) ↔ ∀ item ∈ items, Returned (part item) := by
  induction items with
  | nil => simp [Returned]
  | cons item rest ih =>
    rw [List.forall_mem_cons] at free
    rw [List.flatMap_cons, returned_append_iff (.inr (head?_flatMap_ne free.2)), ih free.2, List.forall_mem_cons]

end Parts

theorem feedless_linesFrom {pending : List Char} (inside : '\n' ∉ pending) (text : List Char) :
    ∀ line ∈ linesFrom pending text, '\n' ∉ line := by
  induction text generalizing pending with
  | nil =>
    rw [linesFrom]
    split <;> simp [inside]
  | cons c rest ih =>
    by_cases feed : c = '\n'
    · subst feed
      rw [linesFrom]
      refine List.forall_mem_cons.mpr ⟨?_, ih List.not_mem_nil⟩
      rw [dropReturn]
      split
      · exact fun member => inside (List.mem_reverse.mp (List.dropLast_subset _ member))
      · exact fun member => inside (List.mem_reverse.mp member)
    · rw [linesFrom]
      · exact ih (by simp [inside, Ne.symm feed])
      · exact feed

end Text

open Text (Returned)

/-- Whatever the labels hold: the text is taken apart at its line feeds before it is written. -/
theorem View.returned_consoleFrame (view : View) (columns : Option Nat) :
    Returned (view.consoleFrame columns true).toList := by
  have ended : Returned "\r\n".toList := by decide
  have each : ∀ line ∈ Text.lines (view.consoleText columns).toList, Returned (line ++ "\r\n".toList) := by
    intro line member
    have feedless := Text.feedless_linesFrom List.not_mem_nil _ line member
    exact (Text.returned_of_not_mem feedless).append ended
  have frame : (view.consoleFrame columns true).toList =
      (Text.lines (view.consoleText columns).toList).flatMap (· ++ "\r\n".toList) := by
    simp [consoleFrame, String.toList_join, List.flatMap_map]
  rw [frame, Text.returned_flatMap_iff fun line member => (each line member).1]
  exact each

namespace Event

def texts : Event → List String
  | .hookFired _ label _ (.named name) => [name, label]
  | .hookFired _ label _ .handled => [label]
  | .renderFailed observer cause => [observer, cause]
  | .sessionStarted _ label => [label]
  | .hookFired _ _ _ .standard | .moved _ _ | .entered _ _ | .ascended _ _ | .returnedToRoot _ _ | .inputIgnored
  | .sessionEnded _ _ => []

end Event

namespace Text

def Plain (word : List Char) : Prop :=
  word ≠ [] ∧ '\n' ∉ word ∧ '\r' ∉ word

instance (word : List Char) : Decidable (Plain word) :=
  inferInstanceAs (Decidable (_ ∧ _))

/-- A line in which every text has a word before it, and there may be another word at the end. -/
inductive Woven : List Char → List String → Prop where
  | last {word} (feedless : '\n' ∉ word) : Woven word []
  | text {word rest texts} (plain : Plain word) (text : String) (woven : Woven rest texts) :
      Woven (word ++ (text.toList ++ rest)) (text :: texts)

theorem Woven.head?_ne {line : List Char} {texts : List String} (woven : Woven line texts) :
    line.head? ≠ some '\n' := by
  cases woven with
  | last feedless => exact fun first => feedless (List.mem_of_head? first)
  | text plain =>
    rw [List.head?_append_of_ne_nil _ plain.1]
    exact fun first => plain.2.1 (List.mem_of_head? first)

theorem Woven.returned_iff {line : List Char} {texts : List String} (woven : Woven line texts) :
    Returned line ↔ ∀ text ∈ texts, Returned text.toList := by
  induction woven with
  | last feedless => simp [returned_of_not_mem feedless]
  | text plain text woven ih =>
    obtain ⟨_, feedless, returnless⟩ := plain
    rw [returned_append_iff (.inl fun last => returnless (List.mem_of_getLast? last)),
      returned_append_iff (.inr woven.head?_ne), ih, List.forall_mem_cons]
    exact and_iff_right (returned_of_not_mem feedless)

end Text

namespace Event

private theorem feedless_toDigits (n : Nat) : '\n' ∉ Nat.toDigits 10 n := by
  intro member
  cases Nat.isDigit_of_mem_toDigits (by decide) (by decide) member

private theorem exists_tag (hook : Hook) : ∃ front : String, Text.Plain front.toList ∧ ∀ node label name,
    (line (.hookFired node label hook (.named name))).2 =
      front ++ name ++ " (" ++ hook.name ++ " '" ++ label ++ "')" := by
  cases hook with
  | enter | exit => exact ⟨"[INFO] ", by decide, fun _ _ _ => rfl⟩
  | action => exact ⟨"[ACTION] ", by decide, fun _ _ _ => rfl⟩

theorem woven_line (event : Event) : Text.Woven event.line.2.toList event.texts := by
  cases event with
  | hookFired node label hook binding =>
    cases binding with
    | standard =>
      have feedless : '\n' ∉ (line (.hookFired 0 "" hook .standard)).2.toList := by cases hook <;> decide
      exact .last feedless
    | named name =>
      obtain ⟨front, plain, shape⟩ := exists_tag hook
      have middle : Text.Plain (" (" ++ hook.name ++ " '").toList := by cases hook <;> decide
      have woven := Text.Woven.text plain name (.text middle label (.last (show '\n' ∉ "')".toList by decide)))
      simpa [texts, shape] using woven
    | handled =>
      have word : Text.Plain ("[DEBUG] " ++ hook.name ++ " handler ran for '").toList := by cases hook <;> decide
      have woven := Text.Woven.text word label (.last (show '\n' ∉ "'".toList by decide))
      simpa [texts, line, toString] using woven
  | renderFailed observer cause =>
    have first : Text.Plain "[WARN] ".toList := by decide
    have second : Text.Plain " renderer failed: ".toList := by decide
    have woven := Text.Woven.text first observer (.text second cause (.last (show '\n' ∉ [] by decide)))
    simpa [texts, line, toString] using woven
  | sessionStarted root label =>
    have word : Text.Plain "[DEBUG] session started at '".toList := by decide
    have last : '\n' ∉ "' (#".toList ++ Nat.toDigits 10 root ++ ")".toList := by simp [feedless_toDigits]
    have woven := Text.Woven.text word label (.last last)
    simpa [texts, line, toString] using woven
  | inputIgnored => exact .last (by decide)
  | sessionEnded reason steps =>
    refine .last ?_
    cases reason <;> simp [line, toString, feedless_toDigits, EndReason.name]
  | moved | entered | ascended | returnedToRoot => exact .last (by simp [line, toString, feedless_toDigits])

theorem logged_eq (verbosity : Verbosity) (event : Event) :
    event.logged verbosity true = if verbosity.shows event.line.1 then event.line.2 ++ "\r\n" else "" := rfl

/-- Whether a line of the log keeps to the left depends on the texts in it alone. -/
theorem returned_logged_iff (verbosity : Verbosity) (event : Event) :
    Returned (event.logged verbosity true).toList ↔
      (verbosity.shows event.line.1 = true → ∀ text ∈ event.texts, Returned text.toList) := by
  have ended : Returned "\r\n".toList := by decide
  rw [logged_eq]
  split
  next shown =>
    rw [String.toList_append, Text.returned_append_iff (.inr ended.1), event.woven_line.returned_iff]
    simp only [ended, and_true, shown, true_implies]
  next hidden => simp [hidden, Text.returned_of_not_mem]

theorem head?_logged_ne (verbosity : Verbosity) (event : Event) :
    (event.logged verbosity true).toList.head? ≠ some '\n' := by
  rw [logged_eq]
  split
  next =>
    rw [String.toList_append]
    exact Text.head?_append_ne event.woven_line.head?_ne (by decide)
  next => exact nofun

end Event

theorem Renderer.returned_printed (columns : Nat) (request : Request) :
    Returned ((Renderer.screen columns).printed request).toList := by
  have cleared : Returned clearScreen.toList := by decide
  cases request with
  | teardown => exact cleared
  | frame view =>
    rw [printed, String.toList_append]
    exact cleared.append (view.returned_consoleFrame _)

/-- What happens while a terminal is raw: its screen, which has so many columns just then, is asked for something, or
an event is logged. -/
inductive Happening
  | asked (columns : Nat) (request : Request)
  | reported (event : Event)

def World.text (world : World) : Stream → String
  | .output => world.output
  | .errors => world.errors

namespace Happening
variable (verbosity : Verbosity) (log stream : Stream)

def meet (world : World) : Happening → World
  | asked columns request => (request.ask (Renderer.screen columns) world).world
  | reported event => (Journal.lines verbosity true log).sink event world

def written : Happening → String
  | asked columns request => if stream = .output then (Renderer.screen columns).printed request else ""
  | reported event => if stream = log then event.logged verbosity true else ""

theorem text_meet (world : World) (happening : Happening) :
    (happening.meet verbosity log world).text stream =
      world.text stream ++ happening.written verbosity log stream := by
  cases happening with
  | asked columns request =>
    cases stream with
    | output => exact Renderer.ask_output request (.screen columns) world
    | errors => cases request <;> exact String.append_empty.symm
  | reported event => cases log <;> cases stream <;> first | rfl | exact String.append_empty.symm

theorem text_foldl_meet (world : World) (happenings : List Happening) :
    ((happenings.foldl (meet verbosity log) world).text stream).toList =
      (world.text stream).toList ++
        happenings.flatMap fun happening => (happening.written verbosity log stream).toList := by
  induction happenings generalizing world with
  | nil => simp
  | cons happening rest ih => simp [ih, text_meet]

theorem head?_written_ne (happening : Happening) :
    (happening.written verbosity log stream).toList.head? ≠ some '\n' := by
  cases happening with
  | asked columns request =>
    rw [written]
    split
    next => exact (Renderer.returned_printed columns request).1
    next => exact nofun
  | reported event =>
    rw [written]
    split
    next => exact event.head?_logged_ne verbosity
    next => exact nofun

theorem returned_written_iff (happening : Happening) :
    Returned (happening.written verbosity log stream).toList ↔
      ∀ event, happening = .reported event → stream = log → verbosity.shows event.line.1 = true →
        ∀ text ∈ event.texts, Returned text.toList := by
  cases happening with
  | asked columns request =>
    rw [written]
    refine iff_of_true ?_ nofun
    split
    next => exact Renderer.returned_printed columns request
    next => exact Text.returned_of_not_mem List.not_mem_nil
  | reported event =>
    rw [written]
    split
    next here => simp [event.returned_logged_iff, here]
    next elsewhere => simp [elsewhere, Text.returned_of_not_mem]

theorem returned_text_iff (happenings : List Happening) :
    Returned ((happenings.foldl (meet verbosity log) {}).text stream).toList ↔
      (stream = log → ∀ event, .reported event ∈ happenings → verbosity.shows event.line.1 = true →
        ∀ text ∈ event.texts, Returned text.toList) := by
  have blank : (({} : World).text stream).toList = [] := by cases stream <;> rfl
  rw [text_foldl_meet, blank, List.nil_append,
    Text.returned_flatMap_iff fun happening _ => happening.head?_written_ne verbosity log stream]
  simp only [returned_written_iff]
  constructor
  · exact fun each here event member => each _ member event rfl here
  · rintro each _ member event rfl here
    exact each here event member

/-- On a raw terminal the screen never moves down without moving to the left, whatever the views hold. The log
does if and only if a text that it shows has a line feed without a carriage return, and then the screen shares
the harm if it shares the stream. -/
theorem terminal_returned (happenings : List Happening) :
    let world := happenings.foldl (meet verbosity log) {}
    let tidy := ∀ event, .reported event ∈ happenings → verbosity.shows event.line.1 = true →
      ∀ text ∈ event.texts, Returned text.toList
    (∀ (view : View) (columns : Option Nat), Returned (view.consoleFrame columns true).toList) ∧
      (Returned world.output.toList ↔ (log = .output → tidy)) ∧
      (Returned world.errors.toList ↔ (log = .errors → tidy)) := by
  intro world tidy
  refine ⟨View.returned_consoleFrame, ?_, ?_⟩
  · rw [eq_comm (a := log)]
    exact returned_text_iff verbosity log .output happenings
  · rw [eq_comm (a := log)]
    exact returned_text_iff verbosity log .errors happenings

example :
    let event : Event := .hookFired 1 "B" .enter (.named "x\ny")
    event.logged .normal true = "[INFO] x\ny (enter 'B')\r\n" ∧ ¬ Returned (event.logged .normal true).toList := by
  decide

end Happening
end PanelMenu
