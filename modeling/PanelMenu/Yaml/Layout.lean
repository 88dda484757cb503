import PanelMenu.Yaml.Property
import PanelMenu.Yaml.Scalar

/-! Reading tokens. Indentation opens and closes block collections, and a scalar turns out to be a
key only when its colon comes, so a token can still be put before others that were read already.
-/

namespace PanelMenu.Yaml

/-- Something that may turn out to be a key: its place among the tokens, and whether a colon has to
come because nothing else can stand there. -/
structure KeyCandidate where
  place : Nat
  required : Bool
  mark : Mark
  deriving DecidableEq, Repr

/-- The state of reading. There is one candidate for the block level and one for each flow
collection around, the innermost one first. -/
structure Layout where
  spots : List Spot
  finish : Mark
  tokens : Array Token := #[]
  indent : Int := -1
  outerIndents : List Int := []
  keyAllowed : Bool := true
  candidate : Option KeyCandidate := none
  outerCandidates : List (Option KeyCandidate) := []

namespace Layout

def inFlow (layout : Layout) : Bool :=
  !layout.outerCandidates.isEmpty

def markAt (layout : Layout) (spots : List Spot) : Mark :=
  match spots with
  | [] => layout.finish
  | spot :: _ => spot.mark

def mark (layout : Layout) : Mark :=
  layout.markAt layout.spots

def add (layout : Layout) (kind : Token.Kind) (start stop : Mark) : Layout :=
  { layout with tokens := layout.tokens.push ⟨kind, start, stop⟩ }

/-- Adds the token that runs from here to `rest`. -/
def take (layout : Layout) (kind : Token.Kind) (rest : List Spot) : Layout :=
  { layout.add kind layout.mark (layout.markAt rest) with spots := rest }

/-- Drops blanks, comments and line ends. Tabs are blanks only where no key may start. Outside flow
collections a key may start after a line end. -/
def dropGap (flow allowed inComment : Bool) : List Spot → Bool × List Spot
  | [] => (allowed, [])
  | spot :: rest =>
    let c := spot.char
    if isBreak c then dropGap flow (allowed || !flow) false rest
    else if inComment || c == ' ' || (c == '\t' && (flow || !allowed)) ||
        (c == '\ufeff' && spot.mark.index == 0) then
      dropGap flow allowed inComment rest
    else if c == '#' then dropGap flow allowed true rest
    else (allowed, spot :: rest)

/-- A key stands on one line and has at most 1024 characters. -/
def KeyCandidate.isStale (candidate : KeyCandidate) (here : Mark) : Bool :=
  candidate.mark.line < here.line || candidate.mark.index + 1024 < here.index

/-- Forgets a candidate that is stale, which fails if a colon had to come. -/
def expireAt (here : Mark) : Option KeyCandidate → Option (Option KeyCandidate)
  | none => some none
  | some candidate =>
    if !KeyCandidate.isStale candidate here then some (some candidate)
    else if candidate.required then none
    else some none

def expire (layout : Layout) : Option Layout := do
  let candidate ← expireAt layout.mark layout.candidate
  let outer ← layout.outerCandidates.mapM (expireAt layout.mark)
  return { layout with candidate := candidate, outerCandidates := outer }

/-- Forgets the innermost candidate, because something else follows it. -/
def dropCandidate (layout : Layout) : Option Layout :=
  match layout.candidate with
  | some candidate => if candidate.required then none else some { layout with candidate := none }
  | none => some layout

/-- Closes the block collections that stand further in than `column`. -/
def unrollTo (column : Int) (here : Mark) :
    Int → List Int → Array Token → Int × List Int × Array Token
  | indent, outer :: rest, tokens =>
    if column < indent then unrollTo column here outer rest (tokens.push ⟨.blockEnd, here, here⟩)
    else (indent, outer :: rest, tokens)
  | indent, [], tokens => (indent, [], tokens)

def unroll (layout : Layout) (column : Int) : Layout :=
  if layout.inFlow then layout
  else
    let (indent, outer, tokens) :=
      unrollTo column layout.mark layout.indent layout.outerIndents layout.tokens
    { layout with indent := indent, outerIndents := outer, tokens := tokens }

/-- Opens a block collection if `start` stands further in than the current one. Its token goes to
`place`. -/
def roll (layout : Layout) (kind : Token.Kind) (start : Mark) (place : Nat) : Layout :=
  if layout.inFlow || start.column ≤ layout.indent then layout
  else
    { layout with
      indent := start.column
      outerIndents := layout.indent :: layout.outerIndents
      tokens := layout.tokens.insertIdxIfInBounds place ⟨kind, start, start⟩ }

/-- Remembers that what comes now may be a key, if it may. -/
def saveCandidate (layout : Layout) : Option Layout :=
  if !layout.keyAllowed then some layout
  else do
    let layout ← layout.dropCandidate
    let mark := layout.mark
    let required := !layout.inFlow && layout.indent == (mark.column : Int)
    return { layout with candidate := some ⟨layout.tokens.size, required, mark⟩ }

/-- Ends all block collections, before a directive, a marker or the end of the text. -/
def reset (layout : Layout) : Option Layout := do
  let layout ← (layout.unroll (-1)).dropCandidate
  return { layout with keyAllowed := false }

/-- The end of the text counts as the start of a line. -/
def finishStream (layout : Layout) : Option Layout := do
  let last := layout.finish
  let finish :=
    if last.column == 0 then last else { last with line := last.line + 1, column := 0 }
  let layout ← { layout with finish := finish }.reset
  return layout.add .streamEnd finish finish

def takeMarker (layout : Layout) (kind : Token.Kind) : Option Layout := do
  let layout ← layout.reset
  return layout.take kind (layout.spots.drop 3)

def takeDirective (layout : Layout) (rest : List Spot) : Option Layout := do
  let layout ← layout.reset
  let (kind, rest) ← readDirective rest
  return layout.take kind rest

def openFlow (layout : Layout) (kind : Token.Kind) (rest : List Spot) : Option Layout := do
  let layout ← layout.saveCandidate
  let opened := { layout with
    candidate := none
    outerCandidates := layout.candidate :: layout.outerCandidates
    keyAllowed := true }
  return opened.take kind rest

def closeFlow (layout : Layout) (kind : Token.Kind) (rest : List Spot) : Option Layout := do
  let layout ← layout.dropCandidate
  let closed :=
    match layout.outerCandidates with
    | [] => layout
    | candidate :: outer => { layout with candidate := candidate, outerCandidates := outer }
  return { closed with keyAllowed := false }.take kind rest

def takeFlowEntry (layout : Layout) (rest : List Spot) : Option Layout := do
  let layout ← layout.dropCandidate
  return { layout with keyAllowed := true }.take .flowEntry rest

/-- Opens a block collection here, which takes a place where a key may start. -/
def rollHere (layout : Layout) (kind : Token.Kind) : Option Layout :=
  if layout.inFlow then some layout
  else if layout.keyAllowed then some (layout.roll kind layout.mark layout.tokens.size)
  else none

/-- A dash in a flow collection is wrong, which shows later. -/
def takeBlockEntry (layout : Layout) (rest : List Spot) : Option Layout := do
  let layout ← layout.rollHere .blockSequenceStart
  let layout ← layout.dropCandidate
  return { layout with keyAllowed := true }.take .blockEntry rest

def takeKey (layout : Layout) (rest : List Spot) : Option Layout := do
  let layout ← layout.rollHere .blockMappingStart
  let layout ← layout.dropCandidate
  return { layout with keyAllowed := !layout.inFlow }.take .key rest

/-- A colon makes the candidate a key, and if need be the first one of a mapping. -/
def takeValue (layout : Layout) (rest : List Spot) : Option Layout := do
  match layout.candidate with
  | some candidate =>
    let mark := candidate.mark
    let keyed := { layout with
      tokens := layout.tokens.insertIdxIfInBounds candidate.place ⟨.key, mark, mark⟩ }
    let rolled := keyed.roll .blockMappingStart mark candidate.place
    return { rolled with candidate := none, keyAllowed := false }.take .value rest
  | none =>
    let layout ← layout.rollHere .blockMappingStart
    return { layout with keyAllowed := !layout.inFlow }.take .value rest

def takeName (layout : Layout) (kind : String → Token.Kind) (rest : List Spot) : Option Layout := do
  let layout ← layout.saveCandidate
  let (name, rest) ← readName rest
  return { layout with keyAllowed := false }.take (kind name) rest

def takeTag (layout : Layout) : Option Layout := do
  let layout ← layout.saveCandidate
  let (kind, rest) ← readTag layout.inFlow layout.spots
  return { layout with keyAllowed := false }.take kind rest

def takeBlock (layout : Layout) (literal : Bool) (rest : List Spot) : Option Layout := do
  let layout ← layout.dropCandidate
  let (text, rest) ← readBlock literal layout.indent rest
  return { layout with keyAllowed := true }.take (.scalar (String.ofList text) false) rest

def takeQuoted (layout : Layout) (read : List Spot → Option (List Char × List Spot))
    (rest : List Spot) : Option Layout := do
  let layout ← layout.saveCandidate
  let (text, rest) ← read rest
  return { layout with keyAllowed := false }.take (.scalar (String.ofList text) false) rest

/-- A key may start behind a plain scalar if lines have ended there. -/
def takePlain (layout : Layout) : Option Layout := do
  let layout ← layout.saveCandidate
  let (fold, rest) ← readPlain layout.inFlow (layout.indent + 1).toNat {} layout.spots
  return { layout with keyAllowed := fold.broken }.take
    (.scalar (String.ofList fold.settled) true) rest

/-- The characters with which no plain scalar starts. -/
def isIndicator (c : Char) : Bool :=
  ['-', '?', ':', ',', '[', ']', '\x7b', '\x7d', '#', '&', '*', '!', '|', '>', '\'', '"', '%', '@',
    '\x60'].contains c

/-- Three of the indicators start a plain scalar all the same when no gap follows. -/
def startsPlain (flow : Bool) (c : Char) (rest : List Spot) : Bool :=
  !(isIndicator c || isBlank c || isBreak c) || (c == '-' && !atGap rest) ||
    (!flow && (c == '?' || c == ':') && !atGap rest)

/-- The token that starts with the character `c`. -/
def takeNext (layout : Layout) (c : Char) (rest : List Spot) : Option Layout :=
  let flow := layout.inFlow
  let bound := flow || atGap rest
  if c == '%' && layout.mark.column == 0 then layout.takeDirective rest
  else if atMarker '-' layout.spots then layout.takeMarker .documentStart
  else if atMarker '.' layout.spots then layout.takeMarker .documentEnd
  else if c == '[' then layout.openFlow .flowSequenceStart rest
  else if c == '\x7b' then layout.openFlow .flowMappingStart rest
  else if c == ']' then layout.closeFlow .flowSequenceEnd rest
  else if c == '\x7d' then layout.closeFlow .flowMappingEnd rest
  else if c == ',' then layout.takeFlowEntry rest
  else if c == '-' && atGap rest then layout.takeBlockEntry rest
  else if c == '?' && bound then layout.takeKey rest
  else if c == ':' && bound then layout.takeValue rest
  else if c == '*' then layout.takeName .reference rest
  else if c == '&' then layout.takeName .anchor rest
  else if c == '!' then layout.takeTag
  else if c == '|' && !flow then layout.takeBlock true rest
  else if c == '>' && !flow then layout.takeBlock false rest
  else if c == '\'' then layout.takeQuoted (readSingle {}) rest
  else if c == '"' then layout.takeQuoted (readDouble none {}) rest
  else if startsPlain flow c rest then layout.takePlain
  else none

/-- Reads one more token, and those that it shows to come before it. -/
def advance (layout : Layout) : Option Layout := do
  let (allowed, spots) := dropGap layout.inFlow layout.keyAllowed false layout.spots
  let layout ← { layout with keyAllowed := allowed, spots := spots }.expire
  let layout := layout.unroll layout.mark.column
  let layout ←
    match layout.spots with
    | [] => layout.finishStream
    | spot :: rest => layout.takeNext spot.char rest
  layout.expire

/-- The tokens that are certain: nothing can come before them any more. -/
def certain (layout : Layout) : List Token :=
  let places := (layout.candidate :: layout.outerCandidates).filterMap (·.map (·.place))
  layout.tokens.toList.take (places.foldl min layout.tokens.size)

def isFinished (layout : Layout) : Bool :=
  match layout.tokens.back? with
  | some token => token.kind == .streamEnd
  | none => false

/-- All tokens, or those that are certain when something cannot be read. Every step but the last
takes a character, so `fuel` is their number and a bit. -/
def readAll : Nat → Layout → List Token
  | 0, layout => layout.certain
  | fuel + 1, layout =>
    match layout.advance with
    | none => layout.certain
    | some next => if next.isFinished then next.tokens.toList else readAll fuel next

end Layout

/-- The tokens of a text. If the last one is not the end of the text, what follows is malformed. -/
def tokens (text : List Char) : List Token :=
  if !text.all isAllowed then []
  else
    let (spots, finish) := spotsFrom {} text
    Layout.readAll (spots.length + 2) { spots := spots, finish := finish }

end PanelMenu.Yaml
