import PanelMenu.Proofs.BuildGrowth

/-! The hooks that fire are nested like brackets: an entry is opened by its enter hook and closed by its
exit hook, and only the action of a leaf closes all that is open except the root. What is open at any
time is the way from the root down to the current entry. -/

namespace PanelMenu

def Event.hook? : Event → Option (NodeId × Hook)
  | .hookFired node _ hook _ => some (node, hook)
  | _ => none

/-- Read against the stack of open entries, the last opened first, some hooks leave another stack. Nothing
can be read against an empty stack. -/
inductive Tree.Brackets (tree : Tree) (root : NodeId) :
    List NodeId → List (NodeId × Hook) → List NodeId → Prop where
  | done {stack} : Brackets tree root stack [] stack
  | enter {node top below hooks left} (child : node ∈ (tree.node top).children)
      (rest : Brackets tree root (node :: top :: below) hooks left) :
      Brackets tree root (top :: below) ((node, .enter) :: hooks) left
  | exit {node below hooks left} (rest : Brackets tree root below hooks left) :
      Brackets tree root (node :: below) ((node, .exit) :: hooks) left
  | action {node below hooks left} (leaf : (tree.node node).isLeaf = true)
      (rest : Brackets tree root [root] hooks left) :
      Brackets tree root (node :: below) ((node, .action) :: hooks) left

namespace Tree.Brackets
variable {tree : Tree} {root : NodeId} {stack left : List NodeId} {hooks : List (NodeId × Hook)}

theorem append {between : List NodeId} {later : List (NodeId × Hook)}
    (first : tree.Brackets root stack hooks between) (second : tree.Brackets root between later left) :
    tree.Brackets root stack (hooks ++ later) left := by
  induction first with
  | done => exact second
  | enter child _ ih => exact .enter child (ih second)
  | exit _ ih => exact .exit (ih second)
  | action leaf _ ih => exact .action leaf (ih second)

theorem split {first later : List (NodeId × Hook)} (brackets : tree.Brackets root stack (first ++ later) left) :
    ∃ between, tree.Brackets root stack first between ∧ tree.Brackets root between later left := by
  induction first generalizing stack with
  | nil => exact ⟨stack, .done, brackets⟩
  | cons hook first ih =>
    cases brackets with
    | enter child rest =>
      obtain ⟨between, before, after⟩ := ih rest
      exact ⟨between, .enter child before, after⟩
    | exit rest =>
      obtain ⟨between, before, after⟩ := ih rest
      exact ⟨between, .exit before, after⟩
    | action leaf rest =>
      obtain ⟨between, before, after⟩ := ih rest
      exact ⟨between, .action leaf before, after⟩

theorem unentered (topmost : ∀ id, root ∉ (tree.node id).children)
    (brackets : tree.Brackets root stack hooks left) : (root, .enter) ∉ hooks := by
  induction brackets with
  | done => exact List.not_mem_nil
  | enter child _ ih =>
    intro member
    rcases List.mem_cons.mp member with same | later
    · cases same
      exact topmost _ child
    · exact ih later
  | exit _ ih | action _ _ ih =>
    intro member
    rcases List.mem_cons.mp member with same | later
    · cases same
    · exact ih later

theorem kept {node : NodeId} (brackets : tree.Brackets root stack hooks left) (opened : node ∈ stack) :
    node ∈ left ∨ (node, .exit) ∈ hooks ∨ ∃ leaf, (leaf, .action) ∈ hooks := by
  induction brackets with
  | done => exact .inl opened
  | enter _ _ ih =>
    rcases ih (List.mem_cons_of_mem _ opened) with still | closed | ⟨leaf, cut⟩
    · exact .inl still
    · exact .inr (.inl (List.mem_cons_of_mem _ closed))
    · exact .inr (.inr ⟨leaf, List.mem_cons_of_mem _ cut⟩)
  | exit _ ih =>
    rcases List.mem_cons.mp opened with rfl | below
    · exact .inr (.inl List.mem_cons_self)
    · rcases ih below with still | closed | ⟨leaf, cut⟩
      · exact .inl still
      · exact .inr (.inl (List.mem_cons_of_mem _ closed))
      · exact .inr (.inr ⟨leaf, List.mem_cons_of_mem _ cut⟩)
  | action => exact .inr (.inr ⟨_, List.mem_cons_self⟩)

/-- The root is open at the bottom and nowhere else. -/
def Grounded (root : NodeId) (stack : List NodeId) : Prop :=
  stack = [] ∨ ∃ above, stack = above ++ [root] ∧ root ∉ above

theorem grounded (topmost : ∀ id, root ∉ (tree.node id).children)
    (brackets : tree.Brackets root stack hooks left) (ground : Grounded root stack) : Grounded root left := by
  induction brackets with
  | done => exact ground
  | enter child _ ih =>
    apply ih
    rcases ground with none | ⟨above, shape, absent⟩
    · cases none
    · refine .inr ⟨_ :: above, congrArg _ shape, ?_⟩
      intro member
      rcases List.mem_cons.mp member with rfl | higher
      · exact topmost _ child
      · exact absent higher
  | exit _ ih =>
    apply ih
    rcases ground with none | ⟨above, shape, absent⟩
    · cases none
    · cases above with
      | nil => exact .inl (List.cons.inj shape).2
      | cons top above =>
        exact .inr ⟨above, (List.cons.inj shape).2, fun member => absent (List.mem_cons_of_mem _ member)⟩
  | action _ _ ih => exact ih (.inr ⟨[], rfl, List.not_mem_nil⟩)

theorem root_last (topmost : ∀ id, root ∉ (tree.node id).children) (ground : Grounded root stack)
    {before after : List (NodeId × Hook)}
    (brackets : tree.Brackets root stack (before ++ (root, .exit) :: after) left) : after = [] ∧ left = [] := by
  obtain ⟨between, first, second⟩ := brackets.split
  have grounded := first.grounded topmost ground
  cases second with
  | exit rest =>
    rcases grounded with none | ⟨above, shape, absent⟩
    · cases none
    · cases above with
      | nil =>
        obtain rfl := (List.cons.inj shape).2
        cases rest
        exact ⟨rfl, rfl⟩
      | cons top above =>
        obtain rfl := (List.cons.inj shape).1
        exact absurd List.mem_cons_self absent

end Tree.Brackets

namespace Navigator

def hooks (navigator : Navigator) (inputs : List Input) : List (NodeId × Hook) :=
  ((navigator.turns inputs).flatMap (·.events)).filterMap Event.hook?

theorem hooks_append (navigator : Navigator) (first rest : List Input) :
    navigator.hooks (first ++ rest) = navigator.hooks first ++ (navigator.after first).hooks rest := by
  rw [hooks, turns_append, List.flatMap_append, List.filterMap_append]
  rfl

theorem hooks_cons (navigator : Navigator) (input : Input) (rest : List Input) :
    navigator.hooks (input :: rest) =
      (navigator.handle input).events.filterMap Event.hook? ++ (navigator.handle input).navigator.hooks rest := by
  rw [hooks, turns, List.flatMap_cons, List.filterMap_append]
  rfl

/-- What is open: the way up from the current entry, until navigation is over. -/
structure Open (tree : Tree) (navigator : Navigator) (stack : List NodeId) : Prop where
  climbs : navigator.terminated = false → tree.Climbs navigator.current stack
  ended : navigator.terminated = true → stack = []

variable {tree : Tree} {root : NodeId} {navigator : Navigator}

theorem Open.of_climbs {stack : List NodeId} (running : navigator.terminated = false)
    (climbs : tree.Climbs navigator.current stack) : navigator.Open tree stack := by
  refine ⟨fun _ => climbs, fun ended => ?_⟩
  rw [running] at ended
  cases ended

theorem Chained.brackets_turn (grown : tree.Grown) (alone : (tree.node root).parent = none)
    (chained : Chained tree root navigator) {stack : List NodeId} (opened : navigator.Open tree stack)
    {input : Input} {turn : Turn} (takes : navigator.Takes input turn) :
    ∃ left, tree.Brackets root stack (turn.events.filterMap Event.hook?) left ∧ turn.navigator.Open tree left := by
  cases takes with
  | late | idle | stuck => exact ⟨stack, .done, opened⟩
  | moved => exact ⟨stack, .done, opened.climbs, opened.ended⟩
  | @entered child running chosen =>
    have climbs := opened.climbs running
    obtain ⟨above, rfl⟩ := climbs.head
    have listed := chained.listed chosen
    exact ⟨_, .enter listed .done, .of_climbs running (.up (grown.child_parent listed) climbs)⟩
  | acted running unchosen topmost =>
    obtain ⟨above, rfl⟩ := (opened.climbs running).head
    have leaf : (tree.node navigator.current).isLeaf = true := by
      rw [Node.isLeaf, List.isEmpty_iff, ← Tree.same_children chained.cleared_eq]
      exact (chained.ranged _).selectedChild_none.mp unchosen
    rw [chained.rootOf_eq] at topmost
    subst topmost
    exact ⟨_, .action leaf .done, .of_climbs running (.top alone)⟩
  | ascended running linked =>
    rw [currentNode, Tree.same_parent chained.cleared_eq] at linked
    cases opened.climbs running with
    | top parentless =>
      rw [parentless] at linked
      cases linked
    | up relinked rest =>
      obtain rfl := Option.some.inj (relinked.symm.trans linked)
      exact ⟨_, .exit .done, .of_climbs running rest⟩
  | closed running parentless =>
    rw [currentNode, Tree.same_parent chained.cleared_eq] at parentless
    cases opened.climbs running with
    | top =>
      refine ⟨[], .exit .done, ⟨fun unfinished => ?_, fun _ => rfl⟩⟩
      cases unfinished
    | up linked =>
      rw [linked] at parentless
      cases parentless

theorem Chained.brackets_turns (grown : tree.Grown) (alone : (tree.node root).parent = none)
    (chained : Chained tree root navigator) {stack : List NodeId} (opened : navigator.Open tree stack)
    (inputs : List Input) :
    ∃ left, tree.Brackets root stack (navigator.hooks inputs) left ∧ (navigator.after inputs).Open tree left := by
  induction inputs generalizing navigator stack with
  | nil => exact ⟨stack, .done, opened⟩
  | cons input rest ih =>
    have takes := navigator.handle_takes input
    obtain ⟨between, first, opened⟩ := chained.brackets_turn grown alone opened takes
    obtain ⟨left, second, opened⟩ := ih (chained.turn grown alone takes) opened
    refine ⟨left, ?_, opened⟩
    rw [hooks_cons]
    exact first.append second

/-- The discipline of the hooks over some inputs, with the stack that they leave behind. -/
structure Bracketed (navigator : Navigator) (inputs : List Input) (stack : List NodeId) : Prop where
  brackets : navigator.tree.Brackets navigator.root [navigator.root] (navigator.hooks inputs) stack
  way : (navigator.after inputs).terminated = false →
    stack = (navigator.after inputs).tree.lineage (navigator.after inputs).current
  ended : (navigator.after inputs).terminated = true ↔ stack = []
  root_last : ∀ before after, navigator.hooks inputs = before ++ (navigator.root, .exit) :: after →
    after = [] ∧ stack = []
  root_unentered : (navigator.root, .enter) ∉ navigator.hooks inputs
  /-- What was entered is still open, or has been closed by its own hook or by the action of a leaf. -/
  kept : ∀ before node after, navigator.hooks inputs = before ++ (node, .enter) :: after →
    node ∈ stack ∨ (node, .exit) ∈ after ∨ ∃ leaf, (leaf, .action) ∈ after

theorem hooks_bracketed {registry : Registry} {spec : MenuSpec}
    (built : Navigator.build registry spec = .ok navigator) (inputs : List Input) :
    ∃ stack, navigator.Bracketed inputs stack := by
  have fresh := fresh_of_build built
  have topmost : ∀ id, navigator.root ∉ (navigator.tree.node id).children := by
    intro id member
    have linked := fresh.grown.child_parent member
    rw [fresh.alone] at linked
    cases linked
  have opened : navigator.Open navigator.tree [navigator.root] := by
    apply Open.of_climbs fresh.running
    rw [fresh.current]
    exact .top fresh.alone
  obtain ⟨stack, brackets, reached⟩ := fresh.chained.brackets_turns fresh.grown fresh.alone opened inputs
  have later := fresh.chained.after fresh.grown fresh.alone inputs
  refine ⟨stack, ?_⟩
  constructor
  case brackets => exact brackets
  case way =>
    intro running
    exact ((reached.climbs running).transfer later.cleared_eq.symm).lineage_eq.symm
  case ended =>
    refine ⟨reached.ended, ?_⟩
    rintro rfl
    by_contra unfinished
    obtain ⟨above, impossible⟩ := (reached.climbs (by simpa using unfinished)).head
    cases impossible
  case root_last =>
    intro before after split
    exact (split ▸ brackets).root_last topmost (.inr ⟨[], rfl, List.not_mem_nil⟩)
  case root_unentered => exact brackets.unentered topmost
  case kept =>
    intro before node after split
    obtain ⟨between, _, rest⟩ := (split ▸ brackets).split
    cases rest with
    | enter _ rest => exact rest.kept List.mem_cons_self

theorem bracketed_in_demo :
    ∃ navigator, Navigator.build { policy := .announcing } .demo = .ok navigator ∧
      ∃ stack, navigator.Bracketed [.commit, .back, .down, .commit, .commit, .commit, .back] stack :=
  have built : Navigator.build { policy := .announcing } .demo = .ok _ := rfl
  ⟨_, built, hooks_bracketed built _⟩

end Navigator
end PanelMenu
