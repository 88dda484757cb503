import PanelMenu.Text.Lines

/-! Paths as they are written: names between slashes. Empty names and single dots say nothing,
except that they ask for a directory when they come last. -/

namespace PanelMenu.Files

/-- A name, or a step up by two dots, which stands here as a name too. -/
def parts (path : String) : List String :=
  ((Text.pieces '/' path.toList).map String.ofList).filter fun name => name != "" && name != "."

def isAbsolute (path : String) : Bool :=
  path.toList.head? == some '/'

/-- Whether the path ends in a slash. -/
def hasTrailingSlash (path : String) : Bool :=
  path.toList.getLast? == some '/'

/-- Whether the last name of a path is a single dot. -/
def hasTrailingDot (path : String) : Bool :=
  ((Text.pieces '/' path.toList).filter (!·.isEmpty)).getLast? == some ['.']

/-- Puts a slash between two paths unless there is one; an absolute path replaces the first. -/
def join (directory path : String) : String :=
  if isAbsolute path then path
  else if directory == "" || hasTrailingSlash directory then directory ++ path
  else directory ++ "/" ++ path

end PanelMenu.Files
