import PanelMenu.Files.Basic

/-! Writing a file as a whole. It is prepared as a draft next to its path and then moved there, so
that nobody finds half of it. Whatever goes wrong, the draft does not stay. -/

namespace PanelMenu.Files

/-- Makes one directory, whose parent has to be there. -/
def makeDirectory (files : Files) (obstacle : Option Obstacle) (start : Place)
    (names : List String) : Except Fault Files := do
  let place ← files.locate start names
  match files.entry? place, obstacle with
  | some _, _ => .error .alreadyExists
  | none, some (.directory blocked fault) =>
    if blocked == place then .error fault else .ok (files.put place .directory)
  | none, _ => .ok (files.put place .directory)

def isDirectory (files : Files) (start : Place) (names : List String) : Bool :=
  match files.locate start names with
  | .ok place => files.entry? place == some .directory
  | .error _ => false

/-- Makes a directory and those above it that are missing. The names come last first. What has been
made stays, even if something fails further down. -/
def makeDirectories (files : Files) (obstacle : Option Obstacle) (start : Place) :
    List String → Files × Option Fault
  | [] => (files, none)
  | name :: above =>
    let names := (name :: above).reverse
    match files.makeDirectory obstacle start names with
    | .ok made => (made, none)
    | .error .notFound =>
      match makeDirectories files obstacle start above with
      | (files, some fault) => (files, some fault)
      | (files, none) =>
        match files.makeDirectory obstacle start names with
        | .ok made => (made, none)
        | .error fault => (files, if files.isDirectory start names then none else some fault)
    | .error fault => (files, if files.isDirectory start names then none else some fault)

/-- The first free place for a draft in a directory, among so many that are tried. -/
def draftPlace (files : Files) (directory : Place) (number : Nat) : Nat → Except Fault Place
  | 0 => .error .alreadyExists
  | attempts + 1 => do
    let place ← files.descend directory s!".tmp{number}"
    if (files.entry? place).isNone then .ok place
    else files.draftPlace directory (number + 1) attempts

/-- Opens an empty draft in the directory of a path. -/
def openDraft (files : Files) (path : String) : Option Obstacle → Except Fault (Files × Place)
  | some (.creation fault) => .error fault
  | _ => do
    let directory ← files.locate (files.startOf path) (parts path).dropLast
    let draft ← files.draftPlace directory 0 65536
    return (files.put draft (.file []), draft)

def fillDraft (files : Files) (draft : Place) (bytes : List UInt8) :
    Option Obstacle → Files × Option Fault
  | some (.filling length fault) => (files.put draft (.file (bytes.take length)), some fault)
  | _ => (files.put draft (.file bytes), none)

/-- The place a file can be moved to by a path: that of another file, or a free one. Here a zero
byte is refused by the system itself. -/
def destination (files : Files) (path : String) : Except Fault Place := do
  if path.toList.contains '\x00' then throw .invalidArgument
  checkPath path
  let directory ← files.locate (files.startOf path) (parts path).dropLast
  match (parts path).getLast? with
  | none => .error .resourceBusy
  | some name =>
    if name == ".." then .error .resourceBusy
    else
      let place ← files.descend directory name
      if hasTrailingDot path then
        match files.entry? place with
        | none => .error .notFound
        | some (.file _) => .error .notADirectory
        | some .directory => .error .resourceBusy
      else if hasTrailingSlash path then .error .notADirectory
      else match files.entry? place with
        | some .directory => .error .isADirectory
        | _ => .ok place

def moveDraft (files : Files) (draft : Place) (path : String) :
    Option Obstacle → Except Fault Files
  | some (.move fault) => .error fault
  | _ => do
    let place ← files.destination path
    match files.entry? draft with
    | some entry => .ok ((files.remove draft).put place entry)
    | none => .error .notFound

/-- Prepares a file in its directory, which is there, and moves it to its place. -/
def publish (files : Files) (path : String) (bytes : List UInt8) (obstacle : Option Obstacle) :
    Files × Option Fault :=
  match files.openDraft path obstacle with
  | .error fault => (files, some fault)
  | .ok (opened, draft) =>
    match opened.fillDraft draft bytes obstacle with
    | (filled, some fault) => (filled.remove draft, some fault)
    | (filled, none) =>
      match filled.moveDraft draft path obstacle with
      | .ok moved => (moved, none)
      | .error fault => (filled.remove draft, some fault)

/-- Writes a file with the directories above it, as far as nothing stands in the way. The path
before its last name is that of the directory. -/
def writePast (files : Files) (path : String) (bytes : List UInt8) (obstacle : Option Obstacle) :
    Files × Option Fault :=
  let above := (parts path).dropLast
  if above.any (·.toList.contains '\x00') then (files, some .zeroByte)
  else
    match files.makeDirectories obstacle (files.startOf path) above.reverse with
    | (files, some fault) => (files, some fault)
    | (files, none) => files.publish path bytes obstacle

/-- The next obstacle is for this write, the others are for later ones. -/
def write (files : Files) (path : String) (bytes : List UInt8) : Files × Option Fault :=
  { files with obstacles := files.obstacles.tail }.writePast path bytes files.obstacles.head?.join

end PanelMenu.Files
