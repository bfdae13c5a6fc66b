import LlmTelemetry.Unicode.Emoji
import LlmTelemetry.Unicode.Width
/-!
# Columns of a line

How many columns of a terminal a line takes. Mostly that is the sum of what its characters take, but some
sequences are shown as one: emoji with a style, a skin tone or a joiner, and the ligatures of some
scripts. A line is measured from its end, since what a character takes depends on what follows it.
-/

namespace LlmTelemetry.Unicode

/-! ## Characters that join -/

def joiner : Char := '\u200d'

/-- The selector that asks for the text style of the character before it. -/
def textSelector : Char := '\ufe0e'

/-- The selector that asks for the emoji style of the character before it. -/
def emojiSelector : Char := '\ufe0f'

/-- Whether the character is a mark that is ignored by default; such a mark breaks no ligature. -/
def isIgnoredMark (c : Char) : Bool :=
  Ranges.contains c.toNat
    [(0x34F, 0x34F), (0x17B4, 0x17B5), (0x180B, 0x180D), (0x180F, 0x180F), (0xFE00, 0xFE0F),
      (0xE0100, 0xE01EF)]

def isArabicLam (c : Char) : Bool :=
  Ranges.contains c.toNat
    [(0x644, 0x644), (0x6B5, 0x6B8), (0x76A, 0x76A), (0x8A6, 0x8A6), (0x8C7, 0x8C7)]

def isArabicAlef (c : Char) : Bool :=
  Ranges.contains c.toNat
    [(0x622, 0x623), (0x625, 0x625), (0x627, 0x627), (0x671, 0x673), (0x675, 0x675),
      (0x773, 0x774), (0x870, 0x882)]

/-- The Khmer letters that take no columns below another one. -/
def isKhmerSubscript (c : Char) : Bool :=
  Ranges.contains c.toNat
    [(0x1780, 0x1782), (0x1784, 0x1787), (0x1789, 0x178C), (0x178E, 0x1793), (0x1795, 0x1798),
      (0x179B, 0x179D), (0x17A0, 0x17A0), (0x17A2, 0x17A2), (0x17A7, 0x17A7), (0x17AB, 0x17AC),
      (0x17AF, 0x17AF)]

def isTifinaghConsonant (c : Char) : Bool :=
  Ranges.contains c.toNat [(0x2D31, 0x2D65), (0x2D6F, 0x2D6F)]

def isTagLetter (c : Char) : Bool :=
  0xE0061 ≤ c.toNat && c.toNat ≤ 0xE007A

def isTagDigit (c : Char) : Bool :=
  0xE0030 ≤ c.toNat && c.toNat ≤ 0xE0039

/-! ## What follows a character -/

/-- The end of a ligature. -/
inductive LigatureEnd where
  | hebrewLamed
  | bugineseYa
  | bugineseVowelAndYa
  | tifinaghConsonant
  | tifinaghJoinedConsonant
  | lisuTone
  | turkicI
  | khmerSubscript
  | kiratRaiE
  | kiratRaiAi
deriving DecidableEq

/-- What the rest of a line begins with. A constructor named `joined` stands for a joiner with an emoji behind
it, after what its name tells. -/
inductive Opening where
  | other
  | tone
  | indicator
  | indicators
  | emoji
  | joined
  | joinedKeycap
  | joinedIndicator
  | joinedFlags
  | joinedFlagsAndIndicator
  | joinedTags (letters digits : Nat)
  | arabicAlef
  | ligature (ending : LigatureEnd) (joined : Bool)
deriving DecidableEq

/-- What follows a character: what the rest of the line begins with, and the selectors before that. -/
structure Following where
  opening : Opening := .other
  emojiStyle : Bool := false
  textStyle : Bool := false
deriving DecidableEq

namespace Opening

/-- Whether a selector leaves what follows it as it is. -/
def ignoresSelectors : Opening → Bool
  | .arabicAlef => true
  | .ligature _ _ => true
  | _ => false

/-- Whether an emoji is joined here that a selector may stand before. -/
def joinsStyled : Opening → Bool
  | .joined => true
  | .joinedKeycap => true
  | _ => false

/-- What begins with a character, whatever follows it. -/
def ofChar (c : Char) : Opening :=
  if isTone c then .tone
  else if isRegionalIndicator c then .indicator
  else if isEmoji c then .emoji
  else if isArabicAlef c then .arabicAlef
  else if c = '\u05dc' then .ligature .hebrewLamed false
  else if c = '\u1a10' then .ligature .bugineseYa false
  else if isTifinaghConsonant c then .ligature .tifinaghConsonant false
  else if c = '\ua4fc' ∨ c = '\ua4fd' then .ligature .lisuTone false
  else if c.toNat = 0x10C03 then .ligature .turkicI false
  else if isKhmerSubscript c then .ligature .khmerSubscript false
  else if c.toNat = 0x16D67 then .ligature .kiratRaiE false
  else if c.toNat = 0x16D68 then .ligature .kiratRaiAi false
  else .other

end Opening

/-! ## Measuring -/

/-- What a character adds to the columns of the line, and what the line then begins with. -/
abbrev Step := Int × Following

/-- A character that stands by itself. -/
def alone (c : Char) : Step :=
  ((columns c : Int), { opening := .ofChar c })

/-- A character before the end of a ligature, when the two belong together. -/
def ligate? (c : Char) (joined : Bool) : LigatureEnd → Option (Int × Opening)
  | .hebrewLamed => if joined && c = '\u05d0' then some (0, .other) else none
  | .bugineseYa =>
    if joined && c = '\u1a17' then some (0, .ligature .bugineseVowelAndYa false) else none
  | .bugineseVowelAndYa => if c = '\u1a15' then some (0, .other) else none
  | .tifinaghConsonant =>
    if c = '\u2d7f' then some (1, .ligature .tifinaghJoinedConsonant false)
    else if joined && isTifinaghConsonant c then some (0, .other)
    else none
  | .tifinaghJoinedConsonant => if isTifinaghConsonant c then some (-1, .other) else none
  | .lisuTone => if '\ua4f8' ≤ c ∧ c ≤ '\ua4fb' then some (0, .other) else none
  | .turkicI => if joined && c.toNat = 0x10C32 then some (0, .other) else none
  | .khmerSubscript => if c = '\u17d2' then some (-1, .other) else none
  | .kiratRaiE =>
    if c.toNat = 0x16D63 ∨ c.toNat = 0x16D69 then some (0, .other)
    else if c.toNat = 0x16D67 then some (0, .ligature .kiratRaiAi false)
    else if c.toNat = 0x16D68 then some (1, .ligature .kiratRaiE false)
    else none
  | .kiratRaiAi => if c.toNat = 0x16D63 then some (0, .other) else none

/-- A tag before the tags of a flag. Behind the flag come three to six letters or three digits. -/
def tag? (c : Char) (letters digits : Nat) : Option (Int × Opening) :=
  if isTagLetter c && digits = 0 && letters < 6 then some (0, .joinedTags (letters + 1) 0)
  else if isTagDigit c && digits = 0 && letters < 5 then some (0, .joinedTags 0 1)
  else if isTagDigit c && 0 < digits && digits < 3 then some (0, .joinedTags 0 (digits + 1))
  else if c.toNat = 0x1F3F4 && (3 ≤ letters || digits = 3) then some (0, .emoji)
  else none

/-- A character before what it belongs together with. -/
def join? (c : Char) : Opening → Option (Int × Opening)
  | .other => none
  | .tone =>
    if isToneBase c then some (0, .emoji)
    else if c = joiner then some (0, .joined)
    else none
  | .indicator => if isRegionalIndicator c then some (1, .indicators) else none
  | .indicators =>
    if isRegionalIndicator c then some (1, .indicators)
    else if c = joiner then some (0, .joined)
    else none
  | .emoji => if c = joiner then some (0, .joined) else none
  | .joined =>
    if c = '\u20e3' then some (0, .joinedKeycap)
    else if isRegionalIndicator c then some (1, .joinedIndicator)
    else if isTone c then some (0, .tone)
    else if c.toNat = 0xE007F then some (0, .joinedTags 0 0)
    else if isEmoji c then some (0, .emoji)
    else none
  | .joinedKeycap => none
  | .joinedIndicator => if isRegionalIndicator c then some (-1, .joinedFlags) else none
  | .joinedFlags =>
    if isRegionalIndicator c then some (3, .joinedFlagsAndIndicator)
    else if c = joiner then some (0, .joined)
    else none
  | .joinedFlagsAndIndicator =>
    if isRegionalIndicator c then some (-1, .joinedFlags)
    else if c = joiner then some (0, .joined)
    else none
  | .joinedTags letters digits => tag? c letters digits
  | .arabicAlef =>
    if isArabicLam c then some (0, .other)
    else if isJoinTransparent c then some (0, .arabicAlef)
    else none
  | .ligature ending joined =>
    if c = joiner then some (0, .ligature ending true)
    else if isIgnoredMark c then some (0, .ligature ending joined)
    else ligate? c joined ending

/-- A character before what stands without selectors. -/
def stepPlain (c : Char) (opening : Opening) : Step :=
  match join? c opening with
  | some (added, opening) => (added, { opening := opening })
  | none => alone c

/-- A selector before what follows. -/
def selectStyle (c : Char) (next : Following) : Following :=
  if c = emojiSelector then
    if next.opening.ignoresSelectors || next.opening.joinsStyled then
      { next with emojiStyle := true }
    else { emojiStyle := true }
  else if next.opening.ignoresSelectors then { next with textStyle := true }
  else { textStyle := true }

/-- A character before what follows without a selector for the emoji style. -/
def stepText (c : Char) (next : Following) : Step :=
  if c.toNat ≤ 0xA0 then (1, {})
  else if c = emojiSelector ∨ c = textSelector then (0, selectStyle c next)
  else if next.textStyle && hasNarrowTextStyle c then (1, {})
  else stepPlain c next.opening

/-- A character before what follows. -/
def step (c : Char) (next : Following) : Step :=
  if next.emojiStyle then
    if hasEmojiStyle c then (if next.opening.joinsStyled then 0 else 2, { opening := .emoji })
    else if next.opening.ignoresSelectors then stepText c { next with emojiStyle := false }
    else stepText c {}
  else stepText c next

/-- The columns of a line, and what it begins with. -/
def measure : List Char → Step
  | [] => (0, {})
  | c :: rest =>
    let (total, next) := measure rest
    let (added, next) := step c next
    (total + added, next)

def width (line : List Char) : Nat :=
  (measure line).1.toNat

end LlmTelemetry.Unicode
