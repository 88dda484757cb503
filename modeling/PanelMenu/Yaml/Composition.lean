import PanelMenu.Yaml.Layout
import PanelMenu.Yaml.Node

/-! From tokens to the first document of a text. When the tokens make no sense any more, everything
that was open gets a cut as its last part, so that what came before can still be looked at. -/

namespace PanelMenu.Yaml

/-- The tokens to come and what has been gathered on the way. Names of anchors are kept with their
numbers; numbered nodes wait in the order in which they start. -/
structure Composer where
  tokens : List Token
  tags : List (String × String) := []
  names : List (String × Nat) := []
  numbered : Array (Nat × Node) := #[]
  weight : Nat := 0
  broken : Bool := false

/-- What stands before a node: the place of the whole, a name, and a tag. -/
structure Properties where
  mark : Option Mark := none
  name : Option String := none
  tag : Option String := none

def Properties.isEmpty (properties : Properties) : Bool :=
  properties.mark.isNone

namespace Composer

/-- The kind of the next token. The end of the stream closes everything, and so does a break. -/
def kind (composer : Composer) : Option Token.Kind :=
  composer.tokens.head?.map (·.kind)

def start (composer : Composer) : Mark :=
  (composer.tokens.head?.map (·.start)).getD {}

def stop (composer : Composer) : Mark :=
  (composer.tokens.head?.map (·.stop)).getD {}

def skip (composer : Composer) : Composer :=
  { composer with tokens := composer.tokens.drop 1 }

def fail (composer : Composer) : Composer :=
  { composer with broken := true }

def count (composer : Composer) (amount : Nat) : Composer :=
  { composer with weight := composer.weight + amount }

/-- The next token, if it is one of those that `p` accepts. -/
def sees (composer : Composer) (p : Token.Kind → Bool) : Bool :=
  match composer.kind with
  | some kind => p kind
  | none => false

/-- A name takes the number of different names before it, and a place among the numbered nodes. -/
def register (composer : Composer) (name : String) : Composer :=
  let number := composer.names.length
  { composer with
    names := (name, number) :: composer.names.filter (·.1 != name)
    numbered := composer.numbered.push (number, .cut) }

/-- Fills the place that was taken for a named node. -/
def settle (composer : Composer) (place : Option Nat) (node : Node) : Composer :=
  match place with
  | none => composer
  | some place =>
    { composer with
      numbered := composer.numbered.modify place fun (number, _) => (number, node) }

def empty (composer : Composer) (mark : Mark) : Node × Composer :=
  (.scalar mark none "" true, composer.count 1)

/-- The full tag behind a handle. -/
def resolveTag (composer : Composer) (handle suffix : String) : Option String :=
  if handle == "" then some suffix
  else (composer.tags.find? (·.1 == handle)).map (·.2 ++ suffix)

/-- An anchor and a tag in either order, one of each at most. -/
def properties (composer : Composer) : Properties × Composer :=
  let start := composer.start
  let tagged (name : Option String) (handle suffix : String) (after : Composer) :
      Properties × Composer :=
    match after.resolveTag handle suffix with
    | some tag => (⟨some start, name, some tag⟩, after)
    | none => ({}, after.fail)
  match composer.kind with
  | some (.anchor name) =>
    match composer.skip.kind with
    | some (.tag handle suffix) => tagged (some name) handle suffix composer.skip.skip
    | _ => (⟨some start, some name, none⟩, composer.skip)
  | some (.tag handle suffix) =>
    match composer.skip.kind with
    | some (.anchor name) => tagged (some name) handle suffix composer.skip.skip
    | _ => tagged none handle suffix composer.skip
  | _ => ({}, composer)

/-- What ends an empty entry of a mapping that goes by indentation. -/
def endsBlockPart : Token.Kind → Bool
  | .key | .value | .blockEnd => true
  | _ => false

def endsBlockItem : Token.Kind → Bool
  | .blockEntry | .blockEnd => true
  | _ => false

def endsLooseItem : Token.Kind → Bool
  | .blockEntry | .key | .value | .blockEnd => true
  | _ => false

def endsFlowItem : Token.Kind → Bool
  | .flowEntry | .flowSequenceEnd => true
  | _ => false

def endsFlowPart : Token.Kind → Bool
  | .flowEntry | .flowMappingEnd => true
  | _ => false

/-- A scalar whose tag is a lone exclamation mark has none. -/
def scalarTag (tag : Option String) : Option String :=
  if tag == some "!" then none else tag

mutual

/-- A node. Sequences whose dashes are not indented are looked for only where `loose` says so, and
block collections only where `block` does. -/
def node (block loose : Bool) : Nat → Composer → Node × Composer
  | 0, composer => (.cut, composer.fail)
  | fuel + 1, composer =>
    match composer.kind with
    | none => (.cut, composer.fail)
    | some (.reference name) =>
      match composer.names.find? (·.1 == name) with
      | some (_, number) => (.reference composer.start number, composer.skip.count 1)
      | none => (.cut, composer.fail)
    | some _ =>
      let (properties, composer) := composer.properties
      if composer.broken then (.cut, composer)
      else
        let (place, named) :=
          match properties.name with
          | some name => (some composer.numbered.size, composer.register name)
          | none => (none, composer)
        match content block loose properties fuel named with
        | (.cut, _) => (.cut, composer.fail)
        | (made, after) => (made, after.settle place made)

/-- What follows the properties, with nothing taken if that is no node. Properties alone make an
empty scalar. -/
def content (block loose : Bool) (properties : Properties) : Nat → Composer → Node × Composer
  | 0, composer => (.cut, composer)
  | fuel + 1, composer =>
    let mark := properties.mark.getD composer.start
    match composer.kind, block, loose with
    | none, _, _ => (.cut, composer)
    | some .blockEntry, _, true =>
      let (items, after) := looseItems fuel (composer.count 2)
      (.sequence mark items, after)
    | some (.scalar text isPlain), _, _ =>
      (.scalar mark (scalarTag properties.tag) text isPlain, composer.skip.count 1)
    | some .flowSequenceStart, _, _ =>
      let (items, after) := flowItems true fuel (composer.skip.count 2)
      (.sequence mark items, after)
    | some .flowMappingStart, _, _ =>
      let (entries, after) := flowEntries true fuel (composer.skip.count 2)
      (.mapping mark entries, after)
    | some .blockSequenceStart, true, _ =>
      let (items, after) := blockItems fuel (composer.skip.count 2)
      (.sequence mark items, after)
    | some .blockMappingStart, true, _ =>
      let (entries, after) := blockEntries fuel (composer.skip.count 2)
      (.mapping mark entries, after)
    | _, _, _ =>
      if properties.isEmpty then (.cut, composer)
      else (.scalar mark properties.tag "" true, composer.count 1)

/-- The items of a sequence that goes by indentation. -/
def blockItems : Nat → Composer → List Node × Composer
  | 0, composer => ([.cut], composer.fail)
  | fuel + 1, composer =>
    match composer.kind with
    | some .blockEntry =>
      let mark := composer.stop
      let composer := composer.skip
      let (item, after) :=
        if composer.sees endsBlockItem then composer.empty mark
        else node true false fuel composer
      if after.broken then ([item], after)
      else
        let (items, after) := blockItems fuel after
        (item :: items, after)
    | some .blockEnd => ([], composer.skip)
    | _ => ([.cut], composer.fail)

/-- The items of a sequence whose dashes stand no further in than the key above. -/
def looseItems : Nat → Composer → List Node × Composer
  | 0, composer => ([.cut], composer.fail)
  | fuel + 1, composer =>
    match composer.kind with
    | some .blockEntry =>
      let mark := composer.stop
      let composer := composer.skip
      let (item, after) :=
        if composer.sees endsLooseItem then composer.empty mark
        else node true false fuel composer
      if after.broken then ([item], after)
      else
        let (items, after) := looseItems fuel after
        (item :: items, after)
    | some _ => ([], composer)
    | none => ([.cut], composer.fail)

/-- The entries of a mapping that goes by indentation. -/
def blockEntries : Nat → Composer → List (Node × Node) × Composer
  | 0, composer => ([(.cut, .cut)], composer.fail)
  | fuel + 1, composer =>
    match composer.kind with
    | some .key =>
      let mark := composer.stop
      let composer := composer.skip
      let (key, after) :=
        if composer.sees endsBlockPart then composer.empty mark
        else node true true fuel composer
      if after.broken then ([(key, .cut)], after)
      else
        let (value, after) := blockValue fuel after
        if after.broken then ([(key, value)], after)
        else
          let (entries, after) := blockEntries fuel after
          ((key, value) :: entries, after)
    | some .blockEnd => ([], composer.skip)
    | _ => ([(.cut, .cut)], composer.fail)

def blockValue : Nat → Composer → Node × Composer
  | 0, composer => (.cut, composer.fail)
  | fuel + 1, composer =>
    match composer.kind with
    | some .value =>
      let mark := composer.stop
      let composer := composer.skip
      if composer.sees endsBlockPart then composer.empty mark
      else node true true fuel composer
    | some _ => composer.empty composer.start
    | none => (.cut, composer.fail)

/-- The items of a sequence between brackets. A key among them starts a mapping of one entry. -/
def flowItems (first : Bool) : Nat → Composer → List Node × Composer
  | 0, composer => ([.cut], composer.fail)
  | fuel + 1, composer =>
    match composer.kind with
    | none => ([.cut], composer.fail)
    | some .flowSequenceEnd => ([], composer.skip)
    | some kind =>
      if !first && kind != .flowEntry then ([.cut], composer.fail)
      else
        let composer := if first then composer else composer.skip
        match composer.kind with
        | none => ([.cut], composer.fail)
        | some .flowSequenceEnd => ([], composer.skip)
        | some .key =>
          let mark := composer.start
          let (entry, after) := flowPair fuel (composer.skip.count 2)
          let item := Node.mapping mark [entry]
          if after.broken then ([item], after)
          else
            let (items, after) := flowItems false fuel after
            (item :: items, after)
        | some _ =>
          let (item, after) := node false false fuel composer
          if after.broken then ([item], after)
          else
            let (items, after) := flowItems false fuel after
            (item :: items, after)

/-- The one entry of a mapping inside brackets. Where its key is missing, the token that shows so is
passed over. -/
def flowPair : Nat → Composer → (Node × Node) × Composer
  | 0, composer => ((.cut, .cut), composer.fail)
  | fuel + 1, composer =>
    match composer.kind with
    | none => ((.cut, .cut), composer.fail)
    | some kind =>
      let (key, after) :=
        if kind == .value || endsFlowItem kind then composer.skip.empty composer.stop
        else node false false fuel composer
      if after.broken then ((key, .cut), after)
      else
        let (value, after) := flowValue endsFlowItem fuel after
        ((key, value), after)

/-- The value of an entry between brackets or braces, which may be left out. -/
def flowValue (ends : Token.Kind → Bool) : Nat → Composer → Node × Composer
  | 0, composer => (.cut, composer.fail)
  | fuel + 1, composer =>
    match composer.kind with
    | none => (.cut, composer.fail)
    | some .value =>
      let composer := composer.skip
      match composer.kind with
      | none => (.cut, composer.fail)
      | some kind =>
        if ends kind then composer.empty composer.start else node false false fuel composer
    | some _ => composer.empty composer.start

/-- The entries of a mapping between braces. -/
def flowEntries (first : Bool) : Nat → Composer → List (Node × Node) × Composer
  | 0, composer => ([(.cut, .cut)], composer.fail)
  | fuel + 1, composer =>
    match composer.kind with
    | none => ([(.cut, .cut)], composer.fail)
    | some .flowMappingEnd => ([], composer.skip)
    | some kind =>
      if !first && kind != .flowEntry then ([(.cut, .cut)], composer.fail)
      else
        let composer := if first then composer else composer.skip
        match composer.kind with
        | none => ([(.cut, .cut)], composer.fail)
        | some .flowMappingEnd => ([], composer.skip)
        | some kind =>
          let (entry, after) := flowEntry kind fuel composer
          if after.broken then ([entry], after)
          else
            let (entries, after) := flowEntries false fuel after
            (entry :: entries, after)

/-- One entry between braces. Without the sign of a key there is only a key. -/
def flowEntry (kind : Token.Kind) : Nat → Composer → (Node × Node) × Composer
  | 0, composer => ((.cut, .cut), composer.fail)
  | fuel + 1, composer =>
    if kind != .key then
      let (key, after) := node false false fuel composer
      if after.broken then ((key, .cut), after)
      else match after.kind with
        | none => ((key, .cut), after.fail)
        | some _ =>
          let (value, after) := after.empty after.start
          ((key, value), after)
    else
      let composer := composer.skip
      match composer.kind with
      | none => ((.cut, .cut), composer.fail)
      | some kind =>
        let (key, after) :=
          if kind == .value || endsFlowPart kind then composer.empty composer.start
          else node false false fuel composer
        if after.broken then ((key, .cut), after)
        else
          let (value, after) := flowValue endsFlowPart fuel after
          ((key, value), after)

end

/-- The handles that every document knows, unless it gives them another meaning. -/
def standardTags : List (String × String) :=
  [("!", "!"), ("!!", "tag:yaml.org,2002:")]

/-- The directives before a document. A version may be given once and has to be one of two, and no
handle may be given twice. -/
def directives (versioned : Bool) (tags : List (String × String)) :
    List Token → Option (List (String × String) × List Token)
  | [] => none
  | token :: rest =>
    match token.kind with
    | .version major minor =>
      if versioned || major != 1 || !(minor == 1 || minor == 2) then none
      else directives true tags rest
    | .tagDirective handle start =>
      if tags.any (·.1 == handle) then none
      else directives versioned (tags ++ [(handle, start)]) rest
    | _ => some (tags, token :: rest)

/-- Whether nothing but the end of the text is left. -/
def isOver : List Token → Bool
  | [] => false
  | token :: rest =>
    match token.kind with
    | .documentEnd => isOver rest
    | .streamEnd => true
    | _ => false

def endsDocument : Token.Kind → Bool
  | .version _ _ | .tagDirective _ _ | .documentStart | .documentEnd | .streamEnd => true
  | _ => false

/-- The document behind its directives. -/
def compose (tags : List (String × String)) (tokens : List Token) : Document :=
  let composer : Composer := { tokens := tokens, tags := tags ++ standardTags }
  let explicit := composer.sees fun kind => kind == .documentStart
  let composer := if explicit then composer.skip else composer
  let (root, after) :=
    if explicit && composer.sees endsDocument then composer.empty composer.start
    else node true false (4 * tokens.length + 8) composer
  let isWhole := !after.broken && !after.tokens.isEmpty
  { root := root
    numbered := after.numbered.toList
    weight := after.weight
    isWhole := isWhole
    isLast := isWhole && isOver after.tokens }

end Composer

/-- The first document of a text. -/
def Document.read (text : List Char) : Document :=
  let broken : Document := { root := .cut, isWhole := false, isLast := false }
  match tokens text with
  | [] => broken
  | first :: rest =>
    match first.kind with
    | .streamEnd => { root := .nothing first.start, weight := 1, isWhole := true, isLast := true }
    | .version _ _ | .tagDirective _ _ =>
      match Composer.directives false [] (first :: rest) with
      | none => broken
      | some (tags, after) =>
        if (after.head?.map (·.kind)) == some .documentStart then Composer.compose tags after
        else broken
    | _ => Composer.compose [] (first :: rest)

end PanelMenu.Yaml
