import Narrative.Text.Width.Classes

/-!
# Text/Width/Context — characters that change the columns of those before them

A text is measured from its end.  Some characters take other columns in front of certain others:
a joiner makes one pictograph of two, a flag is two letters, and some letters fuse with the next
one.  A **context** is what a character stands in front of, as far as its columns depend on it.

* `Context.ofChar` is the context that a character makes by itself.
* `Context.meet?` is the columns of a character in a context that it reacts with, and the context
  that the two make together.
-/

namespace Narrative.Text.Width

/-- Whether the code point of a character lies between two others. -/
def between (first last : Nat) (c : Char) : Bool := first ≤ c.toNat && c.toNat ≤ last

/-! ## Letters and marks -/

/-- The joiner: the characters around it are shown as one if they can be. -/
def joiner : Char := Char.ofNat 0x200D

/-- The letters that name a flag, two for each flag. -/
def isFlagLetter : Char → Bool := between 0x1F1E6 0x1F1FF

/-- The marks that tone the skin of the pictograph before them. -/
def isSkinTone : Char → Bool := between 0x1F3FB 0x1F3FF

/-- The cursive letters Alef. -/
def alefs : Ranges :=
  [(0x622, 0x623), (0x625, 0x625), (0x627, 0x627), (0x671, 0x673), (0x675, 0x675), (0x773, 0x774),
  (0x870, 0x882)]

/-- The cursive letters Lam, which fuse with an Alef behind them. -/
def lams : Ranges :=
  [(0x644, 0x644), (0x6B5, 0x6B8), (0x76A, 0x76A), (0x8A6, 0x8A6), (0x8C7, 0x8C7)]

/-- The Khmer letters that a sign in front of them puts below the letter before. -/
def subscribable : Ranges :=
  [(0x1780, 0x1782), (0x1784, 0x1787), (0x1789, 0x178C), (0x178E, 0x1793), (0x1795, 0x1798),
  (0x179B, 0x179D), (0x17A0, 0x17A0), (0x17A2, 0x17A2), (0x17A7, 0x17A7), (0x17AB, 0x17AC),
  (0x17AF, 0x17AF)]

/-- The Tifinagh consonants. -/
def consonants : Ranges := [(0x2D31, 0x2D65), (0x2D6F, 0x2D6F)]

/-! ## Contexts -/

/-- **The letters that fuse with the one before them**, when a joiner stands between. -/
inductive Fusing where
  /-- The Hebrew letter Lamed, after Alef. -/
  | lamed
  /-- The Buginese letter Ya, after A and the sign I. -/
  | ya
  /-- A Tifinagh consonant, after another. -/
  | consonant
  /-- The Old Turkic letter I, after a letter of its script. -/
  | orkhonI
  deriving DecidableEq

/-- **What a character stands in front of.** -/
inductive Context where
  /-- Nothing that matters. -/
  | plain
  /-- The end of a line. -/
  | lineEnd
  /-- A letter of a flag. -/
  | flagLetter
  /-- Letters of flags, at least two. -/
  | flagLetters
  /-- A tone of skin. -/
  | skinTone
  /-- A pictograph. -/
  | pictograph
  /-- A joiner and a pictograph. -/
  | joined
  /-- The mark of a keycap, a joiner and a pictograph. -/
  | joinedKeycap
  /-- Letters of flags, a joiner and a pictograph: one letter, or an even or an odd number. -/
  | joinedLetter
  | joinedEven
  | joinedOdd
  /-- The end of a flag's name, so many of its letters, a joiner and a pictograph. -/
  | joinedName (letters : Nat)
  /-- The same with digits at the front. -/
  | joinedDigits (digits : Nat)
  /-- A cursive Alef. -/
  | alef
  /-- A letter that can fuse, and whether a joiner stands in front of it. -/
  | fusing (letter : Fusing) (near : Bool)
  /-- The Buginese sign I, a joiner and Ya. -/
  | signAndYa
  /-- The Tifinagh joiner and a consonant. -/
  | joinedConsonant
  /-- A Khmer letter that can be put below another. -/
  | subscript
  /-- A Lisu tone that can share its column. -/
  | tone
  /-- The Kirat Rai vowel signs E and AI. -/
  | vowelE
  | vowelAI
  deriving DecidableEq

namespace Context

/-- Whether the context is of letters that hidden marks and selectors do not part. -/
def isLetters : Context → Bool
  | .alef | .fusing _ _ | .signAndYa | .joinedConsonant | .subscript | .tone => true
  | _ => false

/-- Whether a pictograph would be joined to the one behind. -/
def isJoined : Context → Bool
  | .joined | .joinedKeycap => true
  | _ => false

/-- The context with a joiner in front. -/
def withJoiner : Context → Context
  | .fusing letter _ => .fusing letter true
  | context => context

/-- The context that a character makes by itself. -/
def ofChar (c : Char) : Context :=
  if c.toNat = 0x0A then .lineEnd
  else if c.toNat = 0x5DC then .fusing .lamed false
  else if alefs.has c then .alef
  else if subscribable.has c then .subscript
  else if c.toNat = 0x1A10 then .fusing .ya false
  else if consonants.has c then .fusing .consonant false
  else if between 0xA4FC 0xA4FD c then .tone
  else if c.toNat = 0x10C03 then .fusing .orkhonI false
  else if c.toNat = 0x16D67 then .vowelE
  else if c.toNat = 0x16D68 then .vowelAI
  else if isFlagLetter c then .flagLetter
  else if isSkinTone c then .skinTone
  else if pictographs.has c then .pictograph
  else .plain

/-- **The columns of a character in front of letters**, if it fuses with them. -/
def meetLetters? (context : Context) (c : Char) : Option (Int × Context) :=
  match context with
  | .alef =>
    if lams.has c then some (0, .plain)
    else if unspaced.has c && !parting.has c then some (0, .alef)
    else none
  | .fusing .lamed true => if c.toNat = 0x5D0 then some (0, .plain) else none
  | .fusing .ya true => if c.toNat = 0x1A17 then some (0, .signAndYa) else none
  | .signAndYa => if c.toNat = 0x1A15 then some (0, .plain) else none
  | .fusing .consonant near =>
    if c.toNat = 0x2D7F then some (1, .joinedConsonant)
    else if near && consonants.has c then some (0, .plain)
    else none
  | .joinedConsonant => if consonants.has c then some (-1, .plain) else none
  | .subscript => if c.toNat = 0x17D2 then some (-1, .plain) else none
  | .tone => if between 0xA4F8 0xA4FB c then some (0, .plain) else none
  | .fusing .orkhonI true => if c.toNat = 0x10C32 then some (0, .plain) else none
  | .vowelE =>
    if c.toNat = 0x16D63 || c.toNat = 0x16D69 then some (0, .plain)
    else if c.toNat = 0x16D67 then some (0, .vowelAI)
    else if c.toNat = 0x16D68 then some (1, .vowelE)
    else none
  | .vowelAI => if c.toNat = 0x16D63 then some (0, .plain) else none
  | _ => none

/-- **The columns of a character in a flag's name** that ends in front of a joiner.  A name begins
with a black flag, and has three to six letters, or three digits and at most four letters. -/
def meetName? (context : Context) (c : Char) : Option (Int × Context) :=
  let letter := between 0xE0061 0xE007A c
  let digit := between 0xE0030 0xE0039 c
  let flag := c.toNat = 0x1F3F4
  match context with
  | .joinedName n =>
    if letter && n < 6 then some (0, .joinedName (n + 1))
    else if digit && n < 5 then some (0, .joinedDigits 1)
    else if flag && 3 ≤ n then some (0, .pictograph)
    else none
  | .joinedDigits n =>
    if digit && n < 3 then some (0, .joinedDigits (n + 1))
    else if flag && n = 3 then some (0, .pictograph)
    else none
  | _ => none

/-- **The columns of a character in front of pictographs**, if it becomes one with them. -/
def meetPictographs? (context : Context) (c : Char) : Option (Int × Context) :=
  match context with
  | .skinTone =>
    if toneable.has c then some (0, .pictograph)
    else if c = joiner then some (0, .joined)
    else none
  | .flagLetter => if isFlagLetter c then some (1, .flagLetters) else none
  | .flagLetters =>
    if isFlagLetter c then some (1, .flagLetters)
    else if c = joiner then some (0, .joined)
    else none
  | .pictograph => if c = joiner then some (0, .joined) else none
  | .joined =>
    if c.toNat = 0x20E3 then some (0, .joinedKeycap)
    else if isFlagLetter c then some (1, .joinedLetter)
    else if isSkinTone c then some (0, .skinTone)
    else if c.toNat = 0xE007F then some (0, .joinedName 0)
    else if pictographs.has c then some (0, .pictograph)
    else none
  | .joinedLetter | .joinedOdd => if isFlagLetter c then some (-1, .joinedEven) else none
  | .joinedEven =>
    if isFlagLetter c then some (3, .joinedOdd)
    else if c = joiner then some (0, .joined)
    else none
  | _ => none

/-- **The columns of a character in a context that it reacts with**, and the context then. -/
def meet? (context : Context) (c : Char) : Option (Int × Context) :=
  (context.meetLetters? c).orElse fun _ =>
    (context.meetName? c).orElse fun _ => context.meetPictographs? c

end Context

end Narrative.Text.Width
