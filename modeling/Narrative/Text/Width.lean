import Narrative.Text.Width.Context

/-!
# Text/Width — the columns that a text takes in a table

In a grid of equal columns most characters take one column, the wide ones of East Asian scripts and
most pictographs take two, and marks that join the character before them take none.

A text takes the columns of its characters, but not always of each by itself: what stands behind a
character can change its columns (`Context`), and so can a **selector** behind it, which asks for one
of the styles that the character has.
-/

namespace Narrative.Text

namespace Width

/-- The columns of a character by itself. -/
def ofChar (c : Char) : Nat :=
  if c.toNat ≤ 0xA0 then 1
  else if c.toNat = 0x17D8 then 3
  else if c.toNat = 0x17A4 then 2
  else if unspaced.has c then 0
  else if wide.has c then 2
  else 1

/-! ## Selectors -/

/-- **A style that a selector asks for.** -/
inductive Style where
  /-- As a pictograph. -/
  | pictograph
  /-- As text. -/
  | text
  /-- As wide as two columns. -/
  | full
  deriving DecidableEq

/-- The style that a character asks for, if it is a selector. -/
def styleOf? (c : Char) : Option Style :=
  if c.toNat = 0xFE0F then some .pictograph
  else if c.toNat = 0xFE0E then some .text
  else if c.toNat = 0xFE01 then some .full
  else none

/-- The columns of a character in a style, if it has the style: pictographs take two, and what is a
pictograph by default takes one as text, except for the squared words.  Quotation marks can be
full. -/
def inStyle? (style : Style) (c : Char) : Option Nat :=
  match style with
  | .pictograph => if twoStyles.has c then some 2 else none
  | .text =>
    if pictographs.has c && twoStyles.has c && !between 0x1F200 0x1F2FF c then some 1 else none
  | .full => if between 0x2018 0x2019 c || between 0x201C 0x201D c then some 2 else none

/-! ## Measuring -/

/-- **What stands behind a character**: selectors, maybe, and a context. -/
structure Behind where
  /-- The styles that are asked for, the nearest selector's first. -/
  styles : List Style := []
  /-- The context, the selectors left out. -/
  context : Context := .plain
  deriving DecidableEq

namespace Behind

/-- The context for a character that has none of the styles asked for.  A selector parts
pictographs; it does not part letters. -/
def unstyled (behind : Behind) : Context :=
  if behind.styles ≠ [] && !behind.context.isLetters then .plain else behind.context

/-- What stands behind when a selector comes in front.  In front of letters, what selectors farther
behind ask for still holds; only a pictograph has to be asked for by the nearest. -/
def styled (style : Style) (behind : Behind) : Behind :=
  if behind.context.isLetters then
    ⟨style :: behind.styles.filter fun other => other ≠ .pictograph && other ≠ style,
      behind.context⟩
  else if style = .pictograph && behind.unstyled.isJoined then ⟨[style], behind.context⟩
  else ⟨[style], .plain⟩

/-- What stands behind when a character that takes columns by itself comes in front. -/
def ofChar (c : Char) : Behind := { context := .ofChar c }

end Behind

/-- The columns of a character that asks for no style and has none, in a context. -/
def measurePlain (c : Char) (context : Context) : Int × Behind :=
  if c.toNat ≤ 0xA0 then
    if c = '\r' && context = .lineEnd then (0, {}) else (1, .ofChar c)
  else if context.isLetters && context ≠ .alef && c = joiner then
    (0, { context := context.withJoiner })
  else if context.isLetters && context ≠ .alef && hiddenMarks.has c then (0, { context })
  else
    match context.meet? c with
    | some (columns, context) => (columns, { context })
    | none => (Width.ofChar c, .ofChar c)

/-- The first of the styles asked for that a character has, and its columns in it. -/
def styleIn? (styles : List Style) (c : Char) : Option (Style × Nat) :=
  styles.findSome? fun style => (inStyle? style c).map fun columns => (style, columns)

/-- **The columns of a character and what then stands behind**, given what stands behind it. -/
def measure (c : Char) (behind : Behind) : Int × Behind :=
  match styleIn? behind.styles c with
  | some (.pictograph, columns) =>
    (if behind.context.isJoined then 0 else columns, { context := .pictograph })
  | some (_, columns) => (columns, {})
  | none =>
    match styleOf? c with
    | some style => (0, behind.styled style)
    | none => measurePlain c behind.unstyled

end Width

/-- **The columns of a text.** -/
def width (text : String) : Nat :=
  (text.toList.foldr (fun c (columns, behind) =>
    let (more, behind) := Width.measure c behind
    (columns + more, behind)) ((0 : Int), ({} : Width.Behind))).1.toNat

end Narrative.Text
