import Mathlib.Data.List.Basic
import PanelMenu.Files.Writing
import PanelMenu.Proofs.Outcome

/-! What writing a file does to it and to the others. A write that succeeds can be read back, and no file
changes but the one it was meant for. A write that fails changes none, wherever it was stopped: all it may
leave behind are directories. -/

namespace PanelMenu.Files

/-- Where a path leads when all directories on its way are there. -/
def target (files : Files) (path : String) : Place :=
  (parts path).foldl (fun place name => if name == ".." then place.dropLast else place ++ [name])
    (files.startOf path)

/-- Whatever there was is there later, except perhaps for a file at one place. -/
structure Keeps (place : Place) (files later : Files) : Prop where
  workingPlace_eq : later.workingPlace = files.workingPlace
  entries : ∀ other entry, files.entry? other = some entry → entry = .directory ∨ other ≠ place →
    later.entry? other = some entry

namespace Keeps
variable {place : Place} {files between later : Files}

theorem trans (first : Keeps place files between) (second : Keeps place between later) :
    Keeps place files later := by
  refine ⟨second.workingPlace_eq.trans first.workingPlace_eq, ?_⟩
  intro other entry found spared
  exact second.entries other entry (first.entries other entry found spared) spared

theorem startOf_eq (keeps : Keeps place files later) (path : String) : later.startOf path = files.startOf path := by
  rw [startOf, startOf, keeps.workingPlace_eq]

theorem target_eq (keeps : Keeps place files later) (path : String) : later.target path = files.target path := by
  rw [target, target, keeps.startOf_eq]

theorem descend_ok (keeps : Keeps place files later) {start found : Place} {name : String}
    (ok : files.descend start name = .ok found) : later.descend start name = .ok found := by
  unfold descend at ok ⊢
  cases entry : files.entry? start with
  | none =>
    rw [entry] at ok
    cases ok
  | some kind =>
    rw [entry] at ok
    cases kind with
    | file bytes => cases ok
    | directory =>
      rw [keeps.entries start .directory entry (.inl rfl)]
      exact ok

theorem locate_ok (keeps : Keeps place files later) {start found : Place} {names : List String}
    (ok : files.locate start names = .ok found) : later.locate start names = .ok found := by
  unfold locate at ok ⊢
  induction names generalizing start with
  | nil => exact ok
  | cons name rest ih =>
    rw [List.foldlM_cons] at ok ⊢
    obtain ⟨between, next, ok⟩ := Except.of_bind_ok ok
    rw [keeps.descend_ok next]
    exact ih ok

end Keeps

section Put
variable {files : Files} {place : Place}

theorem find?_spared {other : Place} (different : other ≠ place) (entries : List (Place × Entry)) :
    (entries.filter (·.1 != place)).find? (·.1 == other) = entries.find? (·.1 == other) := by
  rw [List.find?_filter]
  congr 1
  funext item
  by_cases here : item.1 = other
  · simp [here, different]
  · simp [here]

theorem entry_put (free : files.entry? place ≠ some .directory) (entry : Entry) (other : Place) :
    Files.entry? (files.put place entry) other = if other = place then some entry else files.entry? other := by
  have outside : place.isPrefixOf files.workingPlace = false := by
    cases above : place.isPrefixOf files.workingPlace with
    | false => rfl
    | true => exact absurd (if_pos above) free
  by_cases same : other = place
  · subst same
    simp [put, Files.entry?, outside]
  · simp [put, Files.entry?, same, Ne.symm same, find?_spared same]

theorem entry_remove {other : Place} (different : other ≠ place) :
    Files.entry? (files.remove place) other = files.entry? other := by
  rw [remove, Files.entry?, Files.entry?, find?_spared different]

theorem Keeps.of_elsewhere {later : Files} (free : files.entry? place ≠ some .directory)
    (working : later.workingPlace = files.workingPlace)
    (elsewhere : ∀ other, other ≠ place → later.entry? other = files.entry? other) : Keeps place files later := by
  refine ⟨working, ?_⟩
  intro other found there spared
  rw [elsewhere other]
  · exact there
  · rintro rfl
    rcases spared with rfl | different
    · exact free there
    · exact different rfl

theorem keeps_put (free : files.entry? place ≠ some .directory) (entry : Entry) :
    Keeps place files (files.put place entry) := by
  refine .of_elsewhere free rfl ?_
  intro other different
  rw [entry_put free, if_neg different]

theorem keeps_remove (free : files.entry? place ≠ some .directory) : Keeps place files (files.remove place) :=
  .of_elsewhere free rfl fun _ => entry_remove

theorem keeps_put_absent (absent : files.entry? place = none) (entry : Entry) (other : Place) :
    Keeps other files (files.put place entry) := by
  refine ⟨rfl, ?_⟩
  intro somewhere found there _
  rw [entry_put (absent.trans_ne nofun), if_neg]
  · exact there
  · rintro rfl
    rw [absent] at there
    cases there

theorem put_put (first second : Entry) : (files.put place first).put place second = files.put place second := by
  simp [put, List.filter_filter]

theorem remove_put (absent : files.entry? place = none) (entry : Entry) :
    (files.put place entry).remove place = files := by
  have unlisted : ∀ item ∈ files.entries, (item.1 != place) = true := by
    unfold Files.entry? at absent
    split at absent
    · cases absent
    · intro item member
      have different := List.find?_eq_none.mp (Option.map_eq_none_iff.mp absent) item member
      simpa using different
  simp [put, remove, List.filter_eq_self.mpr unlisted]

end Put

theorem locate_target {files : Files} {start place : Place} {names : List String}
    (ok : files.locate start names = .ok place) :
    place = names.foldl (fun place name => if name == ".." then place.dropLast else place ++ [name]) start := by
  unfold locate at ok
  induction names generalizing start with
  | nil => exact (Except.ok.inj ok).symm
  | cons name rest ih =>
    rw [List.foldlM_cons] at ok
    obtain ⟨between, next, ok⟩ := Except.of_bind_ok ok
    rw [List.foldl_cons, ih ok]
    congr 1
    unfold descend at next
    split at next
    · cases next
    · cases next
    · split at next
      next up => exact (Except.ok.inj next).symm.trans (if_pos up).symm
      next down =>
        split at next
        · cases next
        · exact (Except.ok.inj next).symm.trans (if_neg down).symm

/-- Nothing is different later, except that there may be more directories. -/
structure Widened (files later : Files) : Prop where
  workingPlace_eq : later.workingPlace = files.workingPlace
  entries : ∀ place, later.entry? place = files.entry? place ∨
    files.entry? place = none ∧ later.entry? place = some .directory

namespace Widened
variable {files between later : Files}

theorem refl (files : Files) : Widened files files :=
  ⟨rfl, fun _ => .inl rfl⟩

theorem trans (first : Widened files between) (second : Widened between later) : Widened files later := by
  refine ⟨second.workingPlace_eq.trans first.workingPlace_eq, ?_⟩
  intro place
  rcases second.entries place with same | ⟨absent, made⟩
  · rw [same]
    exact first.entries place
  · rcases first.entries place with same | ⟨_, there⟩
    · exact .inr ⟨same ▸ absent, made⟩
    · cases there.symm.trans absent

theorem put {place : Place} (absent : files.entry? place = none) : Widened files (files.put place .directory) := by
  refine ⟨rfl, ?_⟩
  intro other
  rw [entry_put (absent.trans_ne nofun)]
  split
  next same => exact .inr ⟨same ▸ absent, rfl⟩
  next => exact .inl rfl

theorem keeps (widened : Widened files later) (place : Place) : Keeps place files later := by
  refine ⟨widened.workingPlace_eq, ?_⟩
  intro other entry found _
  rcases widened.entries other with same | ⟨absent, _⟩
  · rw [same, found]
  · cases found.symm.trans absent

theorem target_eq (widened : Widened files later) (path : String) : later.target path = files.target path :=
  (widened.keeps []).target_eq path

theorem file_iff (widened : Widened files later) (place : Place) (bytes : List UInt8) :
    later.entry? place = some (.file bytes) ↔ files.entry? place = some (.file bytes) := by
  rcases widened.entries place with same | ⟨absent, made⟩
  · rw [same]
  · rw [absent, made]
    exact iff_of_false nofun nofun

end Widened

section Directories
variable {files made : Files} {obstacle : Option Obstacle} {start : Place}

theorem makeDirectory_widened {names : List String} (ok : files.makeDirectory obstacle start names = .ok made) :
    Widened files made := by
  unfold makeDirectory at ok
  obtain ⟨place, _, ok⟩ := Except.of_bind_ok ok
  split at ok
  next => cases ok
  next absent _ =>
    split at ok
    · cases ok
    · exact Except.ok.inj ok ▸ .put absent
  next absent _ _ => exact Except.ok.inj ok ▸ .put absent

theorem makeDirectories_widened (files : Files) (obstacle : Option Obstacle) (start : Place) (names : List String) :
    Widened files (files.makeDirectories obstacle start names).1 := by
  induction names with
  | nil => exact .refl files
  | cons name above ih =>
    rw [makeDirectories]
    split
    next made first => exact makeDirectory_widened first
    next missing =>
      rcases further : files.makeDirectories obstacle start above with ⟨between, failed⟩
      rw [further] at ih
      cases failed with
      | some fault => exact ih
      | none =>
        cases last : between.makeDirectory obstacle start (name :: above).reverse with
        | ok made =>
          simp only [last]
          exact ih.trans (makeDirectory_widened last)
        | error fault =>
          simp only [last]
          exact ih
    next => exact .refl files

end Directories

/-- The path is one of a file, and all directories on its way are there. -/
structure Reaches (files : Files) (path : String) : Prop where
  checked : checkPath path = .ok ()
  plain : (hasTrailingSlash path || hasTrailingDot path) = false
  located : files.locate (files.startOf path) (parts path) = .ok (files.target path)

theorem Keeps.reaches {files later : Files} {place : Place} {path : String} (keeps : Keeps place files later)
    (reaches : files.Reaches path) : later.Reaches path := by
  refine ⟨reaches.checked, reaches.plain, ?_⟩
  rw [keeps.startOf_eq, keeps.target_eq]
  exact keeps.locate_ok reaches.located

section Drafts
variable {files : Files} {path : String} {obstacle : Option Obstacle} {bytes : List UInt8}

/-- A file takes the place of another or of nothing, never of a directory. -/
theorem destination_ok {place : Place} (ok : files.destination path = .ok place) :
    files.Reaches path ∧ place = files.target path ∧ files.entry? place ≠ some .directory := by
  unfold destination at ok
  dsimp only at ok
  split at ok
  · cases ok
  obtain ⟨⟨⟩, checked, ok⟩ := Except.of_bind_ok ok
  obtain ⟨directory, above, ok⟩ := Except.of_bind_ok ok
  split at ok
  · cases ok
  next name last =>
  split at ok
  · cases ok
  obtain ⟨found, next, ok⟩ := Except.of_bind_ok ok
  split at ok
  · split at ok <;> cases ok
  next dotless =>
  split at ok
  · cases ok
  next slashless =>
  have located : files.locate (files.startOf path) (parts path) = .ok found := by
    have split := List.dropLast_append_getLast? name last
    rw [← split, locate, List.foldlM_append]
    unfold locate at above
    rw [above]
    change (files.descend directory name >>= pure) = _
    rw [next]
    rfl
  have same : found = files.target path := locate_target located
  split at ok
  · cases ok
  next free =>
    obtain rfl := Except.ok.inj ok
    subst same
    exact ⟨⟨checked, by simp [dotless, slashless], located⟩, rfl, free⟩

theorem draftPlace_absent {directory draft : Place} {number attempts : Nat}
    (ok : files.draftPlace directory number attempts = .ok draft) : files.entry? draft = none := by
  induction attempts generalizing number with
  | zero => cases ok
  | succ attempts ih =>
    rw [draftPlace] at ok
    obtain ⟨place, _, ok⟩ := Except.of_bind_ok ok
    split at ok
    next free =>
      obtain rfl := Except.ok.inj ok
      exact Option.isNone_iff_eq_none.mp free
    next => exact ih ok

theorem openDraft_ok {opened : Files} {draft : Place} (ok : files.openDraft path obstacle = .ok (opened, draft)) :
    files.entry? draft = none ∧ opened = files.put draft (.file []) := by
  unfold openDraft at ok
  split at ok
  · cases ok
  obtain ⟨directory, _, ok⟩ := Except.of_bind_ok ok
  obtain ⟨place, free, ok⟩ := Except.of_bind_ok ok
  obtain ⟨rfl, rfl⟩ := Prod.mk.inj (Except.ok.inj ok)
  exact ⟨draftPlace_absent free, rfl⟩

theorem fillDraft_cases (files : Files) (draft : Place) (bytes : List UInt8) (obstacle : Option Obstacle) :
    files.fillDraft draft bytes obstacle = (files.put draft (.file bytes), none) ∨
      ∃ part fault, files.fillDraft draft bytes obstacle = (files.put draft (.file part), some fault) := by
  unfold fillDraft
  split
  next => exact .inr ⟨_, _, rfl⟩
  next => exact .inl rfl

theorem moveDraft_ok {draft : Place} {entry : Entry} {moved : Files} (there : files.entry? draft = some entry)
    (ok : files.moveDraft draft path obstacle = .ok moved) :
    files.Reaches path ∧ files.entry? (files.target path) ≠ some .directory ∧
      moved = (files.remove draft).put (files.target path) entry := by
  unfold moveDraft at ok
  split at ok
  · cases ok
  obtain ⟨place, found, ok⟩ := Except.of_bind_ok ok
  obtain ⟨reaches, rfl, free⟩ := destination_ok found
  rw [there] at ok
  exact ⟨reaches, free, (Except.ok.inj ok).symm⟩

/-- Either all is done or nothing, whatever step is the last. Of the draft nothing is left. -/
theorem publish_cases (files : Files) (path : String) (bytes : List UInt8) (obstacle : Option Obstacle) :
    (∃ fault, files.publish path bytes obstacle = (files, some fault)) ∨
      files.Reaches path ∧ files.entry? (files.target path) ≠ some .directory ∧
        files.publish path bytes obstacle = (files.put (files.target path) (.file bytes), none) := by
  unfold publish
  cases opening : files.openDraft path obstacle with
  | error fault => exact .inl ⟨fault, rfl⟩
  | ok result =>
    obtain ⟨opened, draft⟩ := result
    obtain ⟨absent, rfl⟩ := openDraft_ok opening
    simp only
    rcases (files.put draft (.file [])).fillDraft_cases draft bytes obstacle with filled | ⟨part, fault, stopped⟩
    · simp only [filled, put_put]
      have there := entry_put (absent.trans_ne nofun) (.file bytes) draft
      rw [if_pos rfl] at there
      cases moving : (files.put draft (.file bytes)).moveDraft draft path obstacle with
      | error fault =>
        simp only [remove_put absent]
        exact .inl ⟨fault, rfl⟩
      | ok moved =>
        obtain ⟨reaches, untaken, rfl⟩ := moveDraft_ok there moving
        have added := keeps_put_absent absent (.file bytes) []
        have removed := keeps_remove (there.trans_ne nofun)
        rw [remove_put absent] at removed
        rw [added.target_eq] at untaken
        simp only [remove_put absent, added.target_eq]
        exact .inr ⟨removed.reaches reaches, fun taken => untaken (added.entries _ _ taken (.inl rfl)), trivial⟩
    · simp only [stopped, put_put, remove_put absent]
      exact .inl ⟨fault, rfl⟩

end Drafts

theorem find_file_iff {files : Files} {path : String} {bytes : List UInt8} :
    files.find path = .ok (.file bytes) ↔
      files.Reaches path ∧ files.entry? (files.target path) = some (.file bytes) := by
  constructor
  · intro found
    unfold find at found
    obtain ⟨⟨⟩, checked, found⟩ := Except.of_bind_ok found
    obtain ⟨place, located, found⟩ := Except.of_bind_ok found
    have same : place = files.target path := locate_target located
    subst same
    split at found
    · cases found
    next content entry =>
      split at found
      · cases found
      next plain =>
        obtain ⟨rfl⟩ := Except.ok.inj found
        exact ⟨⟨checked, by simpa using plain, located⟩, entry⟩
    · cases found
  · rintro ⟨⟨checked, plain, located⟩, entry⟩
    rw [find, checked, located]
    simp [bind, Except.bind, entry, plain]

theorem read_iff {files : Files} {path : String} {bytes : List UInt8} :
    files.read path = .ok bytes ↔ files.find path = .ok (.file bytes) := by
  unfold read
  cases found : files.find path with
  | error fault => simp [bind, Except.bind]
  | ok entry =>
    cases entry with
    | file content => simp [bind, Except.bind]
    | directory => simp [bind, Except.bind]

theorem write_cases (files : Files) (path : String) (bytes : List UInt8) :
    ∃ between, Widened files between ∧
      ((∃ fault, files.write path bytes = (between, some fault)) ∨
        between.Reaches path ∧ between.entry? (files.target path) ≠ some .directory ∧
          files.write path bytes = (between.put (files.target path) (.file bytes), none)) := by
  have popped : Widened files { files with obstacles := files.obstacles.tail } := ⟨rfl, fun _ => .inl rfl⟩
  generalize others : { files with obstacles := files.obstacles.tail } = fresh at popped
  unfold write
  rw [others, writePast]
  split
  · exact ⟨fresh, popped, .inl ⟨.zeroByte, rfl⟩⟩
  have made := popped.trans (fresh.makeDirectories_widened files.obstacles.head?.join (fresh.startOf path)
    (parts path).dropLast.reverse)
  rcases directories : fresh.makeDirectories files.obstacles.head?.join (fresh.startOf path)
    (parts path).dropLast.reverse with ⟨between, failed⟩
  rw [directories] at made
  refine ⟨between, made, ?_⟩
  cases failed with
  | some fault => exact .inl ⟨fault, rfl⟩
  | none =>
    have published := between.publish_cases path bytes files.obstacles.head?.join
    rwa [made.target_eq] at published

theorem write_keeps (files : Files) (path : String) (bytes : List UInt8) :
    Keeps (files.target path) files (files.write path bytes).1 := by
  obtain ⟨between, made, ⟨fault, failed⟩ | ⟨_, free, done⟩⟩ := files.write_cases path bytes
  · rw [failed]
    exact made.keeps _
  · rw [done]
    exact (made.keeps _).trans (keeps_put free _)

theorem read_write {files : Files} {path : String} {bytes : List UInt8}
    (ok : (files.write path bytes).2 = none) : (files.write path bytes).1.read path = .ok bytes := by
  obtain ⟨between, made, ⟨fault, failed⟩ | ⟨reaches, free, done⟩⟩ := files.write_cases path bytes
  · rw [failed] at ok
    cases ok
  · have keeps := keeps_put free (.file bytes)
    rw [done, read_iff, find_file_iff, keeps.target_eq, made.target_eq, entry_put free, if_pos rfl]
    exact ⟨keeps.reaches reaches, rfl⟩

theorem write_failed {files : Files} {path : String} {bytes : List UInt8}
    (failed : (files.write path bytes).2 ≠ none) : Widened files (files.write path bytes).1 := by
  obtain ⟨between, made, ⟨fault, stopped⟩ | ⟨_, _, done⟩⟩ := files.write_cases path bytes
  · rw [stopped]
    exact made
  · rw [done] at failed
    exact absurd rfl failed

theorem Keeps.read_ok {files later : Files} {place : Place} {path : String} {bytes : List UInt8}
    (keeps : Keeps place files later) (elsewhere : files.target path ≠ place)
    (ok : files.read path = .ok bytes) : later.read path = .ok bytes := by
  rw [read_iff, find_file_iff] at ok ⊢
  obtain ⟨reaches, entry⟩ := ok
  rw [keeps.target_eq]
  exact ⟨keeps.reaches reaches, keeps.entries _ _ entry (.inr elsewhere)⟩

end PanelMenu.Files
