import PanelMenu.Text.Columns.Table
import PanelMenu.Text.Truncate

/-! How many columns of a terminal a text takes. Characters are read from the right, because what
follows a character may change its width: a selector makes it an emoji or plain text, a joiner
binds it into one glyph with its neighbour, and some pairs of letters merge. -/

namespace PanelMenu.Text.Columns

/-- What the characters to the right, read so far, have begun. -/
inductive Following
  | ordinary
  | lineFeed
  | emoji
  | skinTone
  | flagLetter
  | flagLetters
  | joined
  | joinedKeycap
  | joinedFlagLetter
  | joinedFlagEven
  | joinedFlagOdd
  | tagEnd
  | tagDigits (count : Nat)
  | tagLetters (count : Nat)
  | khmerLetter
  | bugineseYa (joiner : Bool)
  | bugineseVowelYa
  | hebrewLamed (joiner : Bool)
  | arabicAlef
  | lisuTone
  | turkicI (joiner : Bool)
  | tifinagh (joiner : Bool)
  | tifinaghJoined
  | kiratE
  | kiratAi
  deriving DecidableEq, Repr

/-- A context is what follows, and whether a selector for emoji or for text stands before it. -/
structure Context where
  following : Following := .ordinary
  emojiStyle : Bool := false
  textStyle : Bool := false
  deriving DecidableEq, Repr

def Context.start : Context := {}

/-- Ligatures into which a selector may fall without breaking them. -/
def Following.isLigature : Following → Bool
  | .khmerLetter | .bugineseYa _ | .bugineseVowelYa | .hebrewLamed _ | .arabicAlef | .lisuTone
  | .turkicI _ | .tifinagh _ | .tifinaghJoined | .kiratE | .kiratAi => true
  | _ => false

/-- Ligatures that a joiner or an ignorable mark leaves whole. -/
def Following.isOpenLigature : Following → Bool
  | .arabicAlef => false
  | other => other.isLigature

def Following.isJoined : Following → Bool
  | .joined | .joinedKeycap => true
  | _ => false

/-- Marks a joiner inside a ligature that tells the two apart. -/
def Following.join : Following → Following
  | .bugineseYa _ => .bugineseYa true
  | .hebrewLamed _ => .hebrewLamed true
  | .turkicI _ => .turkicI true
  | .tifinagh _ => .tifinagh true
  | other => other

def Context.withEmojiStyle (context : Context) : Context :=
  if context.following.isLigature || (context.following.isJoined && !context.emojiStyle) then
    { context with emojiStyle := true }
  else { emojiStyle := true }

def Context.withoutEmojiStyle (context : Context) : Context :=
  if context.following.isLigature then { context with emojiStyle := false } else .start

def Context.withTextStyle (context : Context) : Context :=
  if context.following.isLigature then { context with textStyle := true }
  else { textStyle := true }

def Context.withoutTextStyle (context : Context) : Context :=
  if context.following.isLigature then { context with textStyle := false } else .start

private def isDigitTag (code : Nat) : Bool := 0xE0030 ≤ code && code ≤ 0xE0039

private def isLetterTag (code : Nat) : Bool := 0xE0061 ≤ code && code ≤ 0xE007A

def isFlagLetter (code : Nat) : Bool := 0x1F1E6 ≤ code && code ≤ 0x1F1FF

private def isSkinTone (code : Nat) : Bool := 0x1F3FB ≤ code && code ≤ 0x1F3FF

private def isTifinagh (code : Nat) : Bool := (0x2D31 ≤ code && code ≤ 0x2D65) || code == 0x2D6F

private def isArabicLam (code : Nat) : Bool :=
  code == 0x644 || (0x6B5 ≤ code && code ≤ 0x6B8) || code == 0x76A || code == 0x8A6 ||
    code == 0x8C7

private def isArabicAlef (code : Nat) : Bool :=
  code == 0x622 || code == 0x623 || code == 0x625 || code == 0x627 ||
    (0x671 ≤ code && code ≤ 0x673) || code == 0x675 || code == 0x773 || code == 0x774 ||
    (0x870 ≤ code && code ≤ 0x882)

private def isKhmerLetter (code : Nat) : Bool :=
  inRanges [(0x1780, 0x1782), (0x1784, 0x1787), (0x1789, 0x178C), (0x178E, 0x1793),
    (0x1795, 0x1798), (0x179B, 0x179D), (0x17A0, 0x17A0), (0x17A2, 0x17A2), (0x17A7, 0x17A7),
    (0x17AB, 0x17AC), (0x17AF, 0x17AF)] code

private def isEmoji (code : Nat) : Bool := inRanges emojiRanges code

/-- The width of a character with nothing to its right, and what it begins for its left. -/
def alone (code : Nat) : Nat × Context :=
  if code == 0x0A then (1, { following := .lineFeed })
  else if code == 0x5DC then (1, { following := .hebrewLamed false })
  else if isArabicAlef code then (1, { following := .arabicAlef })
  else if isKhmerLetter code then (1, { following := .khmerLetter })
  else if code == 0x17D8 then (3, .start)
  else if code == 0x1A10 then (1, { following := .bugineseYa false })
  else if isTifinagh code then (1, { following := .tifinagh false })
  else if code == 0xA4FC || code == 0xA4FD then (1, { following := .lisuTone })
  else if code == 0xFE0E then (0, { textStyle := true })
  else if code == 0xFE0F then (0, { emojiStyle := true })
  else if code == 0x10C03 then (1, { following := .turkicI false })
  else if code == 0x16D67 then (1, { following := .kiratE })
  else if code == 0x16D68 then (1, { following := .kiratAi })
  else if isFlagLetter code then (1, { following := .flagLetter })
  else if isSkinTone code then (2, { following := .skinTone })
  else if isEmoji code then (2, { following := .emoji })
  else if inRanges zeroRanges code then (0, .start)
  else if inRanges wideRanges code then (2, .start)
  else (1, .start)

/-- The pairs in which the character to the right decides. -/
def paired (following : Following) (code : Nat) : Option (Int × Following) :=
  match following with
  | .arabicAlef =>
    if isArabicLam code then some (0, .ordinary)
    else if (alone code).1 == 0 && !inRanges unjoinedZeroRanges code then some (0, .arabicAlef)
    else none
  | .hebrewLamed true => if code == 0x5D0 then some (0, .ordinary) else none
  | .khmerLetter => if code == 0x17D2 then some (-1, .ordinary) else none
  | .bugineseYa true => if code == 0x1A17 then some (0, .bugineseVowelYa) else none
  | .bugineseVowelYa => if code == 0x1A15 then some (0, .ordinary) else none
  | .tifinagh joiner =>
    if code == 0x2D7F then some (1, .tifinaghJoined)
    else if joiner && isTifinagh code then some (0, .ordinary)
    else none
  | .tifinaghJoined => if isTifinagh code then some (-1, .ordinary) else none
  | .lisuTone => if 0xA4F8 ≤ code && code ≤ 0xA4FB then some (0, .ordinary) else none
  | .turkicI true => if code == 0x10C32 then some (0, .ordinary) else none
  | .skinTone =>
    if inRanges modifierBaseRanges code then some (0, .emoji)
    else if code == 0x200D then some (0, .joined)
    else none
  | .flagLetter => if isFlagLetter code then some (1, .flagLetters) else none
  | .flagLetters =>
    if isFlagLetter code then some (1, .flagLetters)
    else if code == 0x200D then some (0, .joined)
    else none
  | .emoji => if code == 0x200D then some (0, .joined) else none
  | .joined =>
    if code == 0x20E3 then some (0, .joinedKeycap)
    else if isFlagLetter code then some (1, .joinedFlagLetter)
    else if isSkinTone code then some (0, .skinTone)
    else if code == 0xE007F then some (0, .tagEnd)
    else if isEmoji code then some (0, .emoji)
    else none
  | .joinedFlagLetter => if isFlagLetter code then some (-1, .joinedFlagEven) else none
  | .joinedFlagOdd =>
    if isFlagLetter code then some (-1, .joinedFlagEven)
    else if code == 0x200D then some (0, .joined)
    else none
  | .joinedFlagEven =>
    if isFlagLetter code then some (3, .joinedFlagOdd)
    else if code == 0x200D then some (0, .joined)
    else none
  | .tagEnd =>
    if isLetterTag code then some (0, .tagLetters 1)
    else if isDigitTag code then some (0, .tagDigits 1)
    else none
  | .tagLetters count =>
    if isLetterTag code && count < 6 then some (0, .tagLetters (count + 1))
    else if isDigitTag code && count < 5 then some (0, .tagDigits 1)
    else if code == 0x1F3F4 && 3 ≤ count then some (0, .emoji)
    else none
  | .tagDigits count =>
    if isDigitTag code && count < 3 then some (0, .tagDigits (count + 1))
    else if code == 0x1F3F4 && count == 3 then some (0, .emoji)
    else none
  | .kiratE =>
    if code == 0x16D63 || code == 0x16D69 then some (0, .ordinary)
    else if code == 0x16D67 then some (0, .kiratAi)
    else if code == 0x16D68 then some (1, .kiratE)
    else none
  | .kiratAi => if code == 0x16D63 then some (0, .ordinary) else none
  | _ => none

/-- A character before a context without an emoji selector. -/
def besidePlain (code : Nat) (next : Context) : Int × Context :=
  if next == .start then
    let (width, context) := alone code
    (width, context)
  else if code == 0xFE0F then (0, next.withEmojiStyle)
  else if code == 0xFE0E then (0, next.withTextStyle)
  else if next.textStyle && inRanges textStyleRanges code then (1, .start)
  else
    let next := if next.textStyle then next.withoutTextStyle else next
    if next.following.isOpenLigature && code == 0x200D then
      (0, { next with following := next.following.join })
    else if next.following.isOpenLigature && inRanges ligatureTransparentRanges code then
      (0, next)
    else match paired next.following code with
      | some (width, following) => (width, { following := following })
      | none =>
        let (width, context) := alone code
        (width, context)

/-- The width that `c` adds on the left of `next`, and the context for what stands further left.
A width can be negative where two characters merge into fewer columns. -/
def beside (c : Char) (next : Context) : Int × Context :=
  let code := c.toNat
  if next.emojiStyle && inRanges emojiStyleRanges code then
    (if next.following.isJoined then 0 else 2, { following := .emoji })
  else
    let next := if next.emojiStyle then next.withoutEmojiStyle else next
    if code ≤ 0xA0 then
      if code == 0x0A then (1, { following := .lineFeed })
      else if code == 0x0D && next == { following := .lineFeed } then (0, .start)
      else (1, .start)
    else besidePlain code next

/-- The columns of a whole text. -/
def textWidth (text : List Char) : Nat :=
  (text.foldr (fun c (total, next) =>
    let (width, context) := beside c next
    (total + width, context)) ((0 : Int), Context.start)).1.toNat

/-- The columns of a single character; controls take none. -/
def charWidth (c : Char) : Nat :=
  let code := c.toNat
  if code < 0x20 || (0x7F ≤ code && code < 0xA0) then 0 else (alone code).1

end PanelMenu.Text.Columns

namespace PanelMenu.Text

/-- Cuts a line to the columns of a terminal. -/
def truncate (text : String) (columns : Nat) : String :=
  String.ofList (truncateBy Columns.textWidth Columns.charWidth text.toList columns)

end PanelMenu.Text
