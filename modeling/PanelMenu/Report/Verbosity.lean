/-! How much is reported. -/

namespace PanelMenu

inductive Verbosity
  | quiet
  | normal
  | verbose
  | debug
  deriving DecidableEq, Repr

namespace Verbosity

def name : Verbosity → String
  | .quiet => "quiet"
  | .normal => "normal"
  | .verbose => "verbose"
  | .debug => "debug"

def all : List Verbosity :=
  [.quiet, .normal, .verbose, .debug]

def ofName? (text : String) : Option Verbosity :=
  all.find? (·.name == text)

def rank : Verbosity → Nat
  | .quiet => 0
  | .normal => 1
  | .verbose => 2
  | .debug => 3

/-- Whether what belongs to `level` is shown. -/
def shows (verbosity level : Verbosity) : Bool :=
  level.rank ≤ verbosity.rank

/-- Asked once, at least verbose; asked more often, debug. Never less than before. -/
def raisedBy (verbosity : Verbosity) : Nat → Verbosity
  | 0 => verbosity
  | 1 => if verbosity.shows .verbose then verbosity else .verbose
  | _ => .debug

end Verbosity
end PanelMenu
