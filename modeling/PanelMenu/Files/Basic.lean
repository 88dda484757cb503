import PanelMenu.Files.Fault
import PanelMenu.Files.Path

/-! A system of files held in memory: which places are files, with their bytes, and which are
directories. A place is the list of names that lead to it from the top. -/

namespace PanelMenu

inductive Files.Entry
  | file (bytes : List UInt8)
  | directory
  deriving DecidableEq, Repr

abbrev Files.Place := List String

/-- What stands in the way of a write, though the paths are in order: a full disk, a directory
that nothing may be added to, and the like. It names the step that fails. -/
inductive Files.Obstacle
  /-- There is none yet at this place, and it cannot be made. -/
  | directory (place : Files.Place) (fault : Files.Fault)
  | creation (fault : Files.Fault)
  /-- No more than this many bytes can be written. -/
  | filling (length : Nat) (fault : Files.Fault)
  | move (fault : Files.Fault)
  deriving DecidableEq, Repr

/-- The top and the working directory are always there; relative paths start at the latter. The
obstacles belong to the writes to come, one to each as long as they last. -/
structure Files where
  workingPlace : Files.Place := []
  entries : List (Files.Place × Files.Entry) := []
  obstacles : List (Option Files.Obstacle) := []
  deriving DecidableEq, Repr

namespace Files

def entry? (files : Files) (place : Place) : Option Entry :=
  if place.isPrefixOf files.workingPlace then some .directory
  else (files.entries.find? (·.1 == place)).map (·.2)

def remove (files : Files) (place : Place) : Files :=
  { files with entries := files.entries.filter (·.1 != place) }

def put (files : Files) (place : Place) (entry : Entry) : Files :=
  { files with entries := (place, entry) :: files.entries.filter (·.1 != place) }

/-- From a directory, one name further. The name itself need not exist. -/
def descend (files : Files) (place : Place) (name : String) : Except Fault Place :=
  match files.entry? place with
  | none => .error .notFound
  | some (.file _) => .error .notADirectory
  | some .directory =>
    if name == ".." then .ok place.dropLast
    else if 255 < name.utf8ByteSize then .error .nameTooLong
    else .ok (place ++ [name])

/-- Where a path leads, as long as all but its last name are directories. -/
def locate (files : Files) (start : Place) (names : List String) : Except Fault Place :=
  names.foldlM files.descend start

/-- The place from which a path counts. -/
def startOf (files : Files) (path : String) : Place :=
  if isAbsolute path then [] else files.workingPlace

/-- Paths that no system of files takes. -/
def checkPath (path : String) : Except Fault Unit :=
  if path.toList.contains '\x00' then .error .zeroByte
  else if path == "" then .error .notFound
  else if 4096 ≤ path.utf8ByteSize then .error .nameTooLong
  else .ok ()

/-- What is at the end of a path. A slash or a dot at its end asks for a directory. -/
def find (files : Files) (path : String) : Except Fault Entry := do
  checkPath path
  let place ← files.locate (files.startOf path) (parts path)
  match files.entry? place with
  | none => .error .notFound
  | some (.file bytes) =>
    if hasTrailingSlash path || hasTrailingDot path then .error .notADirectory
    else .ok (.file bytes)
  | some .directory => .ok .directory

def isThere (files : Files) (path : String) : Bool :=
  (files.find path).isOk

def read (files : Files) (path : String) : Except Fault (List UInt8) := do
  match ← files.find path with
  | .file bytes => .ok bytes
  | .directory => .error .isADirectory

/-- The text of a file, which has to be Unicode in its usual encoding. -/
def readText (files : Files) (path : String) : Except Fault String := do
  match String.fromUTF8? (ByteArray.mk (← files.read path).toArray) with
  | some text => .ok text
  | none => .error .notUnicode

end Files
end PanelMenu
