import SchemaDesign.Text.DisplayWidth.Runs

/-!
This module contains the number of columns that a text takes on a screen. A text is measured from its end,
because what follows a character decides whether both are drawn as one.
-/

namespace SchemaDesign.Text

/--
What the text after a character starts with, as far as it can be drawn together with that character.
-/
inductive Follower where
  | plain
  | lineFeed
  | emoji
  | skinTone
  | joinedEmoji
  | joinedKeycap
  | flagLetter
  | flagLetters
  | joinedFlagLetter
  | evenFlagLetters
  | oddFlagLetters
  | tagEnd
  | tagDigits (n : Nat)
  | tagLetters (n : Nat)
  | arabicAlef
  | hebrewLamed (joined : Bool)
  | bugineseYa (joined : Bool)
  | bugineseYaWithVowel
  | tifinaghConsonant (joined : Bool)
  | tifinaghJoiner
  | lisuTone
  | orkhonI (joined : Bool)
  | khmerLetter
  | kiratVowelE
  | kiratVowelAi
deriving DecidableEq, Repr

namespace Follower

def isTransparent : Follower → Bool
  | hebrewLamed _ | bugineseYa _ | bugineseYaWithVowel | tifinaghConsonant _ | tifinaghJoiner
  | lisuTone | orkhonI _ | khmerLetter => true
  | _ => false

def isLigature (f : Follower) : Bool :=
  f.isTransparent || f == arabicAlef

def isJoined : Follower → Bool
  | joinedEmoji | joinedKeycap => true
  | _ => false

def join : Follower → Follower
  | hebrewLamed _ => hebrewLamed true
  | bugineseYa _ => bugineseYa true
  | tifinaghConsonant _ => tifinaghConsonant true
  | orkhonI _ => orkhonI true
  | f => f

end Follower

/--
What a character sees of the text after it: what it can be drawn together with, and in which ways it is
asked to be drawn, as an emoji, as text or as wide as an ideograph.
-/
structure Context where
  follower : Follower
  emojiStyle : Bool
  textStyle : Bool
  fullWidth : Bool
deriving DecidableEq, Repr

namespace Context

def plain : Context := ⟨.plain, false, false, false⟩

def ofFollower (f : Follower) : Context := ⟨f, false, false, false⟩

def behindRequest (next : Context) : Context :=
  if next.follower.isLigature then next else plain

def requestEmoji (next : Context) : Context :=
  if next.follower.isJoined then { next with emojiStyle := true }
  else { next.behindRequest with emojiStyle := true }

def requestText (next : Context) : Context :=
  { next.behindRequest with textStyle := true }

def requestFullWidth (next : Context) : Context :=
  { next.behindRequest with fullWidth := true }

/-!
A request that the character before it cannot meet is withdrawn.
-/

def withdrawEmoji (next : Context) : Context :=
  { next.behindRequest with emojiStyle := false }

def withdrawText (next : Context) : Context :=
  { next.behindRequest with textStyle := false }

def withdrawFullWidth (next : Context) : Context :=
  { next.behindRequest with fullWidth := false }

end Context

def isBetween (first last : Nat) (c : Char) : Bool :=
  first ≤ c.toNat && c.toNat ≤ last

def isFlagLetter (c : Char) : Bool := isBetween 0x1F1E6 0x1F1FF c

def isSkinTone (c : Char) : Bool := isBetween 0x1F3FB 0x1F3FF c

def isTifinaghConsonant (c : Char) : Bool := isBetween 0x2D31 0x2D65 c || c == '\u2d6f'

def isArabicLam (c : Char) : Bool :=
  ['\u0644', '\u06b5', '\u06b6', '\u06b7', '\u06b8', '\u076a', '\u08a6', '\u08c7'].contains c

def khmerRuns : List Run :=
  [⟨0x1780, 0x1782, 1⟩, ⟨0x1784, 0x1787, 1⟩, ⟨0x1789, 0x178C, 1⟩, ⟨0x178E, 0x1793, 1⟩,
   ⟨0x1795, 0x1798, 1⟩, ⟨0x179B, 0x179D, 1⟩, ⟨0x17A0, 0x17A2, 2⟩, ⟨0x17A7, 0x17A7, 1⟩,
   ⟨0x17AB, 0x17AC, 1⟩, ⟨0x17AF, 0x17AF, 1⟩]

def isEmoji (c : Char) : Bool := inRuns emojiRuns c

def startsEmojiSequence (c : Char) : Bool :=
  inRuns textEmojiRuns c || inRuns emojiTextRuns c

def startsTextSequence (c : Char) : Bool :=
  -- The squared ideographs keep their two columns.
  inRuns emojiTextRuns c && !isBetween 0x1F200 0x1F2FF c

def isQuotationMark (c : Char) : Bool :=
  isBetween 0x2018 0x2019 c || isBetween 0x201C 0x201D c

def isZeroWidth (c : Char) : Bool := inRuns zeroWidthRuns c

def isAlefTransparent (c : Char) : Bool :=
  isZeroWidth c && !inRuns nonJoiningZeroWidthRuns c

def columns (c : Char) : Nat :=
  if isZeroWidth c then 0
  else if c = '\u17d8' then 3
  else if c = '\u17a4' || inRuns wideRuns c then 2
  else 1

def contextOf (c : Char) : Context :=
  if c = '\ufe0f' then Context.plain.requestEmoji
  else if c = '\ufe0e' then Context.plain.requestText
  else if c = '\ufe01' then Context.plain.requestFullWidth
  else if isSkinTone c then .ofFollower .skinTone
  else if isFlagLetter c then .ofFollower .flagLetter
  else if isEmoji c then .ofFollower .emoji
  else if inRuns arabicAlefRuns c then .ofFollower .arabicAlef
  else if c = '\u05dc' then .ofFollower (.hebrewLamed false)
  else if c = '\u1a10' then .ofFollower (.bugineseYa false)
  else if isTifinaghConsonant c then .ofFollower (.tifinaghConsonant false)
  else if isBetween 0xA4FC 0xA4FD c then .ofFollower .lisuTone
  else if c.toNat = 0x10C03 then .ofFollower (.orkhonI false)
  else if inRuns khmerRuns c then .ofFollower .khmerLetter
  else if c.toNat = 0x16D67 then .ofFollower .kiratVowelE
  else if c.toNat = 0x16D68 then .ofFollower .kiratVowelAi
  else .plain

def ligature? (f : Follower) (c : Char) : Option (Int × Follower) :=
  match f with
  | .arabicAlef =>
    if isArabicLam c then some (0, .plain)
    else if isAlefTransparent c then some (0, .arabicAlef)
    else none
  | .hebrewLamed true => if c = '\u05d0' then some (0, .plain) else none
  | .khmerLetter => if c = '\u17d2' then some (-1, .plain) else none
  | .bugineseYa true => if c = '\u1a17' then some (0, .bugineseYaWithVowel) else none
  | .bugineseYaWithVowel => if c = '\u1a15' then some (0, .plain) else none
  | .tifinaghConsonant joined =>
    if c = '\u2d7f' then some (1, .tifinaghJoiner)
    else if joined && isTifinaghConsonant c then some (0, .plain)
    else none
  | .tifinaghJoiner => if isTifinaghConsonant c then some (-1, .plain) else none
  | .lisuTone => if isBetween 0xA4F8 0xA4FB c then some (0, .plain) else none
  | .orkhonI true => if c.toNat = 0x10C32 then some (0, .plain) else none
  | .kiratVowelE =>
    match c.toNat with
    | 0x16D63 => some (0, .plain)
    | 0x16D67 => some (0, .kiratVowelAi)
    | 0x16D68 => some (1, .kiratVowelE)
    | 0x16D69 => some (0, .plain)
    | _ => none
  | .kiratVowelAi => if c.toNat = 0x16D63 then some (0, .plain) else none
  | _ => none

def emojiSequence? (f : Follower) (c : Char) : Option (Int × Follower) :=
  match f with
  | .skinTone =>
    if inRuns emojiBaseRuns c then some (0, .emoji)
    else if c = '\u200d' then some (0, .joinedEmoji)
    else none
  | .flagLetter => if isFlagLetter c then some (1, .flagLetters) else none
  | .flagLetters =>
    if isFlagLetter c then some (1, .flagLetters)
    else if c = '\u200d' then some (0, .joinedEmoji)
    else none
  | .emoji => if c = '\u200d' then some (0, .joinedEmoji) else none
  | .joinedEmoji =>
    if c = '\u20e3' then some (0, .joinedKeycap)
    else if isFlagLetter c then some (1, .joinedFlagLetter)
    else if isSkinTone c then some (0, .skinTone)
    else if c.toNat = 0xE007F then some (0, .tagEnd)
    else if isEmoji c then some (0, .emoji)
    else none
  | .joinedFlagLetter => if isFlagLetter c then some (-1, .evenFlagLetters) else none
  | .oddFlagLetters =>
    if isFlagLetter c then some (-1, .evenFlagLetters)
    else if c = '\u200d' then some (0, .joinedEmoji)
    else none
  | .evenFlagLetters =>
    if isFlagLetter c then some (3, .oddFlagLetters)
    else if c = '\u200d' then some (0, .joinedEmoji)
    else none
  | .tagEnd =>
    if isBetween 0xE0061 0xE007A c then some (0, .tagLetters 1)
    else if isBetween 0xE0030 0xE0039 c then some (0, .tagDigits 1)
    else none
  | .tagLetters n =>
    if n < 6 && isBetween 0xE0061 0xE007A c then some (0, .tagLetters (n + 1))
    else if n < 5 && isBetween 0xE0030 0xE0039 c then some (0, .tagDigits 1)
    else if n ≥ 3 && c.toNat = 0x1F3F4 then some (0, .emoji)
    else none
  | .tagDigits n =>
    if n < 3 && isBetween 0xE0030 0xE0039 c then some (0, .tagDigits (n + 1))
    else if n = 3 && c.toNat = 0x1F3F4 then some (0, .emoji)
    else none
  | _ => none

def join (c : Char) (next : Context) : Int × Context :=
  if next.follower.isTransparent && c = '\u200d' then
    (0, { next with follower := next.follower.join })
  else if next.follower.isTransparent && inRuns ligatureTransparentRuns c then
    (0, next)
  else if next.fullWidth then
    (columns c, contextOf c)
  else
    match (ligature? next.follower c).or (emojiSequence? next.follower c) with
    | some (n, f) => (n, .ofFollower f)
    | none => (columns c, contextOf c)

def measure (c : Char) (next : Context) : Int × Context :=
  if next.emojiStyle && startsEmojiSequence c then
    (if next.follower.isJoined then 0 else 2, .ofFollower .emoji)
  else
    go (if next.emojiStyle then next.withdrawEmoji else next)
where
  go (next : Context) : Int × Context :=
    if c = '\n' then
      (1, .ofFollower .lineFeed)
    else if c.toNat ≤ 0xA0 then
      (if c = '\r' && next.follower = .lineFeed then 0 else 1, .plain)
    else if next = .plain then
      (columns c, contextOf c)
    else if c = '\ufe0f' then
      (0, next.requestEmoji)
    else if c = '\ufe0e' then
      (0, next.requestText)
    else if c = '\ufe01' then
      (0, next.requestFullWidth)
    else if next.textStyle then
      if startsTextSequence c then (1, .plain) else join c next.withdrawText
    else if next.fullWidth then
      if isQuotationMark c then (2, .plain) else join c next.withdrawFullWidth
    else
      join c next

def displayWidth (cs : List Char) : Nat :=
  (cs.foldr (fun c (total, next) => let (n, here) := measure c next; (total + n, here))
    ((0 : Int), Context.plain)).1.toNat

end SchemaDesign.Text
