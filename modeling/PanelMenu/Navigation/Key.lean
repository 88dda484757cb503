import PanelMenu.Navigation.Input

/-! Keys of a keyboard and the inputs they stand for. -/

namespace PanelMenu

inductive Key.Code
  | up
  | down
  | left
  | right
  | enter
  | backspace
  | escape
  | letter (c : Char)
  | other
  deriving DecidableEq, Repr

structure Key where
  code : Key.Code
  control : Bool := false
  deriving DecidableEq, Repr

namespace Key

/-- Arrow keys, and the letters that stand for them in some editors. Modifiers do not matter. -/
def input (key : Key) : Input :=
  match key.code with
  | .up | .letter 'k' => .up
  | .down | .letter 'j' => .down
  | .right | .enter | .letter 'l' => .commit
  | .left | .backspace | .escape | .letter 'h' => .back
  | _ => .noop

/-- Control and C close the input instead. -/
def isInterrupt (key : Key) : Bool :=
  key.control && key.code == .letter 'c'

/-- What is typed on a terminal, up to the key that closes it. -/
def inputs (typed : List Key) : List Input :=
  (typed.takeWhile (!·.isInterrupt)).map input

end Key
end PanelMenu
