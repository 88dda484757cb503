import PanelMenu.Decoding.Mismatch
import PanelMenu.Yaml.Mark

/-! Why a document is not a menu. -/

namespace PanelMenu

/-- One step from a node of a document to a node inside it. The key of an entry can be something
other than a text. -/
inductive DocumentStep
  | key (name : String)
  | index (position : Nat)
  | unnamed
  deriving DecidableEq, Repr

inductive DocumentFault
  | malformed
  | ended
  | severalDocuments
  | tooDeep
  | tooManyAliases
  | misfit (path : List DocumentStep) (mismatch : Mismatch) (mark : Yaml.Mark)
  deriving DecidableEq, Repr

namespace DocumentFault

private def extend (path : String) : DocumentStep → String
  | .key name => (if path == "" then "" else path ++ ".") ++ name
  | .index position => (if path == "" then "." else path) ++ s!"[{position}]"
  | .unnamed => (if path == "" then "" else path ++ ".") ++ "?"

def pathText (path : List DocumentStep) : String :=
  path.foldl extend ""

def message : DocumentFault → String
  | malformed => "the document is malformed"
  | ended => "the document ends too early"
  | severalDocuments => "there is more than one document"
  | tooDeep => "collections are nested too deeply"
  | tooManyAliases => "aliases are followed too often"
  | misfit path mismatch mark =>
    (if path.isEmpty then "" else pathText path ++ ": ") ++ mismatch.message ++ mark.suffix

end DocumentFault
end PanelMenu
