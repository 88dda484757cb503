import PanelMenu.Proofs.SessionInvariant
import PanelMenu.Session.Journal

/-! What sessions do to the files when most of their observers can be trusted. What is fair to the files
is left open: any relation will do that holds of a change of nothing and of two changes in a row. -/

namespace PanelMenu

def Sink.Fair (fair : Files → Files → Prop) (sink : Sink World) : Prop :=
  ∀ event world, fair world.files (sink event world).files

section Bystanders
variable {O : Type}

structure Sitting where
  sink : Sink World
  source : InputSource
  navigator : Navigator

def Sitting.hold [Observer O World] (state : List O × World) (sitting : Sitting) : List O × World :=
  let run := runSession sitting.sink sitting.source sitting.navigator state.1 state.2
  (run.observers, run.world)

/-- Observers that do only what is fair to the files, and stay so. -/
structure Bystanders [Observer O World] (fair : Files → Files → Prop) (harmless : O → Prop) : Prop where
  stays : ∀ (request : Request) observer world, harmless observer →
    harmless (request.ask observer world).observer
  fair : ∀ (request : Request) observer world, harmless observer →
    fair world.files (request.ask observer world).world.files

/-- At a place among harmless observers there is one that may do harm. -/
def Seated (harmless : O → Prop) (place : Nat) (observer : O) (observers : List O) : Prop :=
  ∃ before after, before.length = place ∧ observers = before ++ observer :: after ∧
    ∀ other ∈ before ++ after, harmless other

variable [Observer O World] {sink : Sink World} {fair : Files → Files → Prop} {harmless : O → Prop}

def Sink.answered (sink : Sink World) (drawn : Drawn O World) : World :=
  match drawn.complaint with
  | none => drawn.world
  | some complaint => sink complaint.event drawn.world

theorem Sink.Fair.answered (reports : sink.Fair fair) (refl : ∀ files, fair files files) (drawn : Drawn O World) :
    fair drawn.world.files (sink.answered drawn).files := by
  rw [Sink.answered]
  cases drawn.complaint with
  | none => exact refl _
  | some complaint => exact reports _ _

namespace Bystanders
variable (bystanders : Bystanders fair harmless) (refl : ∀ files, fair files files)
  (trans : ∀ {files between later}, fair files between → fair between later → fair files later)
  (reports : sink.Fair fair)
include bystanders refl trans reports

theorem asked (request : Request) {observers : List O} (all : ∀ other ∈ observers, harmless other) (world : World) :
    let asked := Asked.of sink request.ask observers world
    (∀ other ∈ asked.observers, harmless other) ∧ fair world.files asked.world.files := by
  induction observers generalizing world with
  | nil => exact ⟨fun _ member => (List.not_mem_nil member).elim, refl _⟩
  | cons observer rest ih =>
    obtain ⟨here, others⟩ := List.forall_mem_cons.mp all
    have answered := bystanders.fair request observer world here
    have reported := reports.answered refl (request.ask observer world)
    obtain ⟨later, grown⟩ := ih others _
    exact ⟨List.forall_mem_cons.mpr ⟨bystanders.stays request observer world here, later⟩,
      trans answered (trans reported grown)⟩

/-- The one that may do harm is asked after some that do none, and others do none after it. -/
theorem asked_seated (request : Request) {place : Nat} {observer : O} {observers : List O}
    (seated : Seated harmless place observer observers) (world : World) :
    let asked := Asked.of sink request.ask observers world
    ∃ reached, fair world.files reached.files ∧
      Seated harmless place (request.ask observer reached).observer asked.observers ∧
      fair (request.ask observer reached).world.files asked.world.files ∧
      asked.answers[place]? = some (request.ask observer reached).complaint := by
  obtain ⟨before, after, rfl, rfl, all⟩ := seated
  obtain ⟨first, last⟩ := List.forall_mem_append.mp all
  let earlier := Asked.of sink request.ask before world
  let drawn := request.ask observer earlier.world
  have lengths : earlier.observers.length = before.length := Asked.length_observers sink request.ask before world
  have answers : earlier.answers.length = before.length := Asked.length_answers sink request.ask before world
  obtain ⟨harmlessBefore, fairBefore⟩ := bystanders.asked refl trans reports request first world
  obtain ⟨harmlessAfter, fairAfter⟩ :=
    bystanders.asked refl trans reports request last (sink.answered drawn)
  rw [Asked.of_append]
  refine ⟨earlier.world, fairBefore, ?seated, trans (reports.answered refl drawn) fairAfter, ?answer⟩
  case seated => exact ⟨_, _, lengths, rfl, List.forall_mem_append.mpr ⟨harmlessBefore, harmlessAfter⟩⟩
  case answer =>
    simp only [Asked.of]
    rw [List.getElem?_append_right (Nat.le_of_eq answers), answers, Nat.sub_self, List.getElem?_cons_zero]

omit reports

theorem hold {files : Files} {state : List O × World} (all : ∀ other ∈ state.1, harmless other)
    (grown : fair files state.2.files) {sitting : Sitting} (reports : sitting.sink.Fair fair) :
    (∀ other ∈ (sitting.hold state).1, harmless other) ∧ fair files (sitting.hold state).2.files := by
  let holds : List O → World → Prop := fun observers world =>
    (∀ other ∈ observers, harmless other) ∧ fair files world.files
  have asked : ∀ (request : Request) observers world, holds observers world →
      let asked := Asked.of sitting.sink request.ask observers world
      holds asked.observers asked.world := by
    rintro request observers world ⟨all, grown⟩
    obtain ⟨still, further⟩ := bystanders.asked refl trans reports request all world
    exact ⟨still, trans grown further⟩
  have told : ∀ event observers world, holds observers world → holds observers (sitting.sink event world) :=
    fun event _ world held => ⟨held.1, trans held.2 (reports event world)⟩
  have invariant : sitting.sink.Invariant holds := ⟨told, fun view => asked (.frame view)⟩
  exact invariant.run ⟨all, grown⟩ (asked .teardown) sitting.source sitting.navigator

theorem hold_all {observers : List O} (all : ∀ other ∈ observers, harmless other) (world : World)
    {sittings : List Sitting} (reports : ∀ sitting ∈ sittings, sitting.sink.Fair fair) :
    fair world.files (sittings.foldl Sitting.hold (observers, world)).2.files := by
  have held : (∀ other ∈ (sittings.foldl Sitting.hold (observers, world)).1, harmless other) ∧
      fair world.files (sittings.foldl Sitting.hold (observers, world)).2.files := by
    apply List.foldlRecOn (motive := fun state : List O × World =>
      (∀ other ∈ state.1, harmless other) ∧ fair world.files state.2.files)
    · exact ⟨all, refl world.files⟩
    · rintro state ⟨all, grown⟩ sitting member
      exact bystanders.hold refl trans all grown (reports sitting member)
  exact held.2

end Bystanders
end Bystanders

theorem World.write_files (world : World) (text : String) (stream : Stream) :
    (world.write text stream).files = world.files := by
  cases stream <;> rfl

theorem Journal.sink_files (journal : Journal) (event : Event) (world : World) :
    (journal.sink event world).files = world.files := by
  cases journal with
  | none => rfl
  | lines verbosity raw stream => exact world.write_files _ stream
  | records raw => exact world.write_files _ .output

end PanelMenu
