import Mathlib.Logic.Function.Iterate
import PanelMenu.Proofs.BuildGrowth
import PanelMenu.Proofs.Registrations
import PanelMenu.Proofs.TreeMirror

/-! Handlers run exactly when the reports say so. A name is looked up when the menu is built, and every
hook that gives the name gets the same handler, the one that was registered last. From then on a hook
runs what it got, once each time it is reported to fire. -/

namespace PanelMenu

def MenuSpec.entryAt? (spec : MenuSpec) (id : NodeId) : Option MenuSpec :=
  spec.places[id]?.bind spec.reached?

theorem MenuSpec.entryAt?_position {spec entry : MenuSpec} {path : List Nat}
    (found : spec.reached? path = some entry) : spec.entryAt? (spec.position path) = some entry := by
  rw [entryAt?, places_position found]
  exact found

structure Firing where
  node : NodeId
  label : String
  hook : Hook
  binding : Binding
  deriving DecidableEq, Repr

def Event.firing? : Event → Option Firing
  | .hookFired node label hook binding => some ⟨node, label, hook, binding⟩
  | _ => none

/-- The entry that is reported is bound as is reported, and what it is bound to runs. -/
def Registry.Runs (registry : Registry) (spec : MenuSpec) (firing : Firing) (ran : List Handler) : Prop :=
  ∃ entry, spec.entryAt? firing.node = some entry ∧ firing.label = entry.label ∧
    firing.binding = (registry.bound (entry.bindings.get firing.hook)).binding ∧
    ran = (registry.bound (entry.bindings.get firing.hook)).handlers

/-- The firings in order, each with the handlers that it runs, make up all that runs. -/
def Registry.Accounts (registry : Registry) (spec : MenuSpec) (firings : List Firing) (ran : List Handler) : Prop :=
  ∃ runs, List.Forall₂ (registry.Runs spec) firings runs ∧ ran = runs.flatten

namespace Registry.Accounts
variable {registry : Registry} {spec : MenuSpec}

theorem nil : registry.Accounts spec [] [] := ⟨[], .nil, rfl⟩

theorem single {firing : Firing} {ran : List Handler} (runs : registry.Runs spec firing ran) :
    registry.Accounts spec [firing] ran :=
  ⟨[ran], .cons runs .nil, by simp⟩

theorem append {firings later : List Firing} {ran after : List Handler} (first : registry.Accounts spec firings ran)
    (second : registry.Accounts spec later after) : registry.Accounts spec (firings ++ later) (ran ++ after) := by
  obtain ⟨runs, each, rfl⟩ := first
  obtain ⟨others, eachLater, rfl⟩ := second
  exact ⟨runs ++ others, List.rel_append each eachLater, List.flatten_append.symm⟩

end Registry.Accounts

namespace Navigator

def firings (navigator : Navigator) (inputs : List Input) : List Firing :=
  ((navigator.turns inputs).flatMap (·.events)).filterMap Event.firing?

def ran (navigator : Navigator) (inputs : List Input) : List Handler :=
  (navigator.turns inputs).flatMap (·.ran)

section Chained
variable {registry : Registry} {spec : MenuSpec} {tree : Tree} {root : NodeId} {navigator : Navigator}

theorem Chained.inside (present : root < tree.size) (chained : Chained tree root navigator) :
    navigator.current < tree.size := by
  rw [← Tree.same_size chained.cleared_eq] at present ⊢
  cases linked : navigator.currentNode.parent with
  | none => rwa [chained.at_root linked]
  | some parent => exact Tree.inside_of_parent linked

private theorem runs_fired (built : Tree.build registry spec = .ok tree) {later : Tree}
    (same : later.cleared = tree.cleared) {id : NodeId} (inside : id < tree.size) (hook : Hook) :
    registry.Accounts spec ([later.fired id hook].filterMap Event.firing?) (later.answering id hook) := by
  rw [Tree.build_size built] at inside
  obtain ⟨path, entry, found, rfl⟩ := MenuSpec.exists_position inside
  have bound : (later.node (spec.position path)).callbacks.get hook = registry.bound (entry.bindings.get hook) := by
    rw [Tree.callbacks_position built same found]
    cases hook <;> rfl
  apply Registry.Accounts.single
  exact ⟨entry, MenuSpec.entryAt?_position found, Tree.label_position built same found,
    congrArg Callback.binding bound, congrArg Callback.handlers bound⟩

variable (built : Tree.build registry spec = .ok tree) (present : root < tree.size)
  (alone : (tree.node root).parent = none)
include built present

theorem Chained.accounts_turn (chained : Chained tree root navigator) {input : Input} {turn : Turn}
    (takes : navigator.Takes input turn) : registry.Accounts spec (turn.events.filterMap Event.firing?) turn.ran := by
  have here := chained.inside present
  cases takes with
  | late | idle | stuck | moved => exact .nil
  | @entered child _ chosen =>
    have below := Tree.inside_of_parent (chained.linked (Tree.build_grown built) chosen)
    rw [Tree.same_size chained.cleared_eq] at below
    exact runs_fired built chained.cleared_eq below .enter
  | acted => exact runs_fired built chained.cleared_eq here .action
  | ascended | closed => exact runs_fired built chained.cleared_eq here .exit

include alone

theorem Chained.accounts_turns (chained : Chained tree root navigator) (inputs : List Input) :
    registry.Accounts spec (navigator.firings inputs) (navigator.ran inputs) := by
  induction inputs generalizing navigator with
  | nil => exact .nil
  | cons input rest ih =>
    have takes := navigator.handle_takes input
    have first := chained.accounts_turn built present takes
    have later := ih (chained.turn (Tree.build_grown built) alone takes)
    rw [firings, ran, turns, List.flatMap_cons, List.flatMap_cons, List.filterMap_append]
    exact first.append later

end Chained

theorem accounts_of_build {registry : Registry} {spec : MenuSpec} {navigator : Navigator}
    (built : Navigator.build registry spec = .ok navigator) (inputs : List Input) :
    registry.Accounts spec (navigator.firings inputs) (navigator.ran inputs) := by
  have fresh := fresh_of_build built
  obtain ⟨tree, grown, same⟩ := Except.of_bind_ok built
  obtain rfl := Except.ok.inj same
  have top : spec.reached? [] = some spec := rfl
  have present : 0 < tree.size := Tree.position_inside grown top
  exact fresh.chained.accounts_turns grown present fresh.alone inputs

end Navigator

/-- Each registration has a handler with a state of its own, whichever hooks it serves. A run of it
changes that state and no other. -/
def Handler.run {State : Nat → Type} (behave : ∀ place, State place → State place)
    (states : ∀ place, State place) (handler : Handler) : ∀ place, State place :=
  Function.update states handler.registration (behave _ (states handler.registration))

theorem Handler.foldl_run {State : Nat → Type} (behave : ∀ place, State place → State place)
    (handlers : List Handler) (states : ∀ place, State place) (place : Nat) :
    handlers.foldl (run behave) states place =
      (behave place)^[handlers.countP (·.registration = place)] (states place) := by
  induction handlers generalizing states with
  | nil => rfl
  | cons handler rest ih =>
    rw [List.foldl_cons, ih, List.countP_cons, run]
    by_cases here : handler.registration = place
    · subst here
      simp [Function.iterate_succ_apply]
    · have elsewhere : place ≠ handler.registration := Ne.symm here
      simp [here, Function.update_of_ne elsewhere]

namespace Registry
variable {policy : Policy} {names : List String} {name : Option String}

theorem standard_iff : ((ofNames policy names).bound name).binding = .standard ↔ name = none := by
  cases name with
  | none => exact iff_of_true rfl rfl
  | some name =>
    rw [bound]
    cases (ofNames policy names).find? name <;> simp [Callback.binding]

theorem named_iff {given : String} :
    ((ofNames policy names).bound name).binding = .named given ↔ name = some given ∧ given ∉ names := by
  cases name with
  | none => simp [bound, Callback.binding]
  | some name =>
    rw [bound]
    cases found : (ofNames policy names).find? name with
    | none =>
      have unknown := find?_ofNames_none.mp found
      simp only [Callback.binding, Binding.named.injEq, Option.some.injEq]
      exact ⟨fun same => ⟨same, same ▸ unknown⟩, And.left⟩
    | some handler =>
      obtain ⟨rfl, last⟩ := find?_ofNames.mp found
      have known := List.mem_of_getElem? last.registered
      simp only [Callback.binding, reduceCtorEq, Option.some.injEq, false_iff]
      rintro ⟨rfl, unknown⟩
      exact unknown known

theorem handled_iff :
    ((ofNames policy names).bound name).binding = .handled ↔ ∃ given ∈ names, name = some given := by
  cases name with
  | none => simp [bound, Callback.binding]
  | some name =>
    rw [bound]
    cases found : (ofNames policy names).find? name with
    | none => simpa [Callback.binding] using find?_ofNames_none.mp found
    | some handler =>
      obtain ⟨rfl, last⟩ := find?_ofNames.mp found
      simpa [Callback.binding] using List.mem_of_getElem? last.registered

theorem handlers_bound (policy : Policy) (names : List String) (name : Option String) :
    ((ofNames policy names).bound name).binding = .handled ∧
        (∃ handler, ((ofNames policy names).bound name).handlers = [handler] ∧ name = some handler.name ∧
          Last names handler) ∨
      ((ofNames policy names).bound name).binding ≠ .handled ∧ ((ofNames policy names).bound name).handlers = [] := by
  cases name with
  | none => exact .inr ⟨Binding.noConfusion, rfl⟩
  | some name =>
    rw [bound]
    cases found : (ofNames policy names).find? name with
    | none => exact .inr ⟨Binding.noConfusion, rfl⟩
    | some handler =>
      obtain ⟨rfl, last⟩ := find?_ofNames.mp found
      exact .inl ⟨rfl, handler, rfl, rfl, last⟩

end Registry

/-- The handler is the last registration of the name that the menu gives for the hook. -/
def MenuSpec.Names (spec : MenuSpec) (names : List String) (firing : Firing) (handler : Handler) : Prop :=
  ∃ entry, spec.entryAt? firing.node = some entry ∧ entry.bindings.get firing.hook = some handler.name ∧
    Registry.Last names handler

/-- How the bindings of the entry that fired decide what is reported of it. -/
structure MenuSpec.Tells (spec : MenuSpec) (names : List String) (firing : Firing) (entry : MenuSpec) : Prop where
  found : spec.entryAt? firing.node = some entry
  label : firing.label = entry.label
  standard : firing.binding = .standard ↔ entry.bindings.get firing.hook = none
  named : ∀ name, firing.binding = .named name ↔ entry.bindings.get firing.hook = some name ∧ name ∉ names
  handled : firing.binding = .handled ↔ ∃ name ∈ names, entry.bindings.get firing.hook = some name

namespace Registry
variable {policy : Policy} {names : List String} {spec : MenuSpec}

theorem Runs.tells {firing : Firing} {ran : List Handler} (runs : (ofNames policy names).Runs spec firing ran) :
    ∃ entry, spec.Tells names firing entry := by
  obtain ⟨entry, found, label, binding, _⟩ := runs
  refine ⟨entry, found, label, ?_, ?_, ?_⟩
  · rw [binding, standard_iff]
  · intro name
    rw [binding, named_iff]
  · rw [binding, handled_iff]

theorem Accounts.tells {firings : List Firing} {ran : List Handler}
    (accounts : (ofNames policy names).Accounts spec firings ran) :
    ∀ firing ∈ firings, ∃ entry, spec.Tells names firing entry := by
  obtain ⟨runs, each, _⟩ := accounts
  have both := each.imp fun _ _ runs => And.intro runs.tells runs
  exact ((List.forall₂_and_left _ _).mp both).1

theorem Accounts.handlers {firings : List Firing} {ran : List Handler}
    (accounts : (ofNames policy names).Accounts spec firings ran) :
    List.Forall₂ (spec.Names names) (firings.filter (·.binding = .handled)) ran := by
  obtain ⟨runs, each, rfl⟩ := accounts
  induction each with
  | nil => exact .nil
  | @cons firing handlers _ _ runs _ ih =>
    obtain ⟨entry, found, _, binding, rfl⟩ := runs
    rw [List.flatten_cons]
    rcases handlers_bound policy names (entry.bindings.get firing.hook) with
      ⟨handled, handler, alone, named, last⟩ | ⟨other, none⟩
    · rw [List.filter_cons_of_pos (by simpa [binding] using handled), alone]
      exact .cons ⟨entry, found, named, last⟩ ih
    · rw [List.filter_cons_of_neg (by simpa [binding] using other), none]
      exact ih

end Registry

/-- What runs over some inputs, compared with what is reported and with the menu. -/
structure Navigator.Attended (navigator : Navigator) (spec : MenuSpec) (names : List String) (inputs : List Input) :
    Prop where
  tells : ∀ firing ∈ navigator.firings inputs, ∃ entry, spec.Tells names firing entry
  handlers : List.Forall₂ (spec.Names names) ((navigator.firings inputs).filter (·.binding = .handled))
    (navigator.ran inputs)
  states : ∀ (State : Nat → Type) (behave : ∀ place, State place → State place) (states : ∀ place, State place)
    (place : Nat), (navigator.ran inputs).foldl (Handler.run behave) states place =
      (behave place)^[(navigator.ran inputs).countP (·.registration = place)] (states place)

/-- Whatever was registered, in any menu that can be built with it, and over any inputs, handlers run when
the reports say so, in their order, and each is the one that the menu names. -/
theorem Navigator.handlers_attend {policy : Policy} {names : List String} {spec : MenuSpec} {navigator : Navigator}
    (built : Navigator.build (Registry.ofNames policy names) spec = .ok navigator) (inputs : List Input) :
    navigator.Attended spec names inputs := by
  have accounts := accounts_of_build built inputs
  refine ⟨accounts.tells, accounts.handlers, ?_⟩
  intro State behave states place
  exact Handler.foldl_run behave _ states place

def sharing : MenuSpec where
  label := "Top"
  bindings := ⟨none, some "ping", none⟩
  children :=
    [ { label := "First", bindings := ⟨some "ping", some "away", none⟩, children := [{ label := "Inner" }] },
      { label := "Second", bindings := ⟨none, none, some "ping"⟩ } ]

theorem Navigator.sharing_attends :
    ∃ navigator, Navigator.build (Registry.ofNames .announcing ["ping", "spare", "ping"]) sharing = .ok navigator ∧
      navigator.ran [.commit, .back, .down, .commit, .commit, .back] = List.replicate 3 ⟨"ping", 2⟩ ∧
      navigator.Attended sharing ["ping", "spare", "ping"] [.commit, .back, .down, .commit, .commit, .back] :=
  have built : Navigator.build (Registry.ofNames .announcing ["ping", "spare", "ping"]) sharing = .ok _ := rfl
  ⟨_, built, rfl, handlers_attend built _⟩

end PanelMenu
