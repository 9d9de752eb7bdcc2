import Narrative.Effect

/-!
# Terminal/Render — effects as terminal output

Each effect becomes some lines.  **Styles** are escape sequences around a text, written only when
colors are on; a sequence inside the text that ends all styles is followed by the style again.
-/

namespace Narrative.Terminal

/-! ## Styles -/

/-- The sequence that ends all styles. -/
def resetSequence : String := "\x1b[0m"

/-- The sequence that begins a style of given codes. -/
def styleSequence (codes : String) : String := "\x1b[" ++ codes ++ "m"

/-- Repeat `again` after every occurrence of `mark`; `fuel` bounds their number. -/
def repeatAfter (mark again : List Char) : Nat → List Char → List Char
  | 0, cs => cs
  | fuel + 1, cs =>
    match Text.cut? mark cs with
    | none => cs
    | some (before, after) => before ++ mark ++ again ++ repeatAfter mark again fuel after

/-- **A styled text.** -/
def paint (color : Bool) (codes text : String) : String :=
  if color then
    let inner :=
      repeatAfter resetSequence.toList (styleSequence codes).toList text.length text.toList
    styleSequence codes ++ String.ofList inner ++ resetSequence
  else text

/-- Bold. -/
def bold : String := "1"

/-- Dimmed. -/
def dimmed : String := "2"

/-- Italic. -/
def italic : String := "3"

/-- Green. -/
def green : String := "32"

/-- Yellow. -/
def yellow : String := "33"

/-- The value of two hexadecimal digits; a plus sign may stand for the first. -/
def channel? (a b : Char) : Option Nat := do
  let low ← Text.Numeral.hexDigit? b
  if a = '+' then return low else return 16 * (← Text.Numeral.hexDigit? a) + low

/-- The red, green and blue of a color written after a hash sign. -/
def rgb? (color : String) : Option (Nat × Nat × Nat) :=
  match color.toList with
  | ['#', a, b, c, d, e, f] => do return (← channel? a b, ← channel? c d, ← channel? e f)
  | _ => none

/-- The style of a speaker's name. -/
def nameStyle (speaker : Speaker) : String :=
  match speaker.color.bind rgb? with
  | some (r, g, b) =>
    bold ++ ";38;2;" ++ Text.Numeral.text r ++ ";" ++ Text.Numeral.text g ++ ";"
      ++ Text.Numeral.text b
  | none => bold

/-! ## Effects -/

/-- A line of a page that is shown again. -/
def pageLine (color : Bool) (line : Line) : String :=
  match line.speaker with
  | some speaker => "    " ++ paint color bold speaker ++ ": " ++ line.text ++ "\n"
  | none => "    " ++ paint color italic line.text ++ "\n"

/-- The options of a menu, numbered from `number` on. -/
def menuLines (color : Bool) (number : Nat) : List MenuEntry → String
  | [] => ""
  | entry :: rest =>
    "  " ++ paint color bold (Text.Numeral.text number ++ ")") ++ " " ++ entry.text ++ "\n"
      ++ menuLines color (number + 1) rest

/-- A remark of the program about the story. -/
def remark (color : Bool) (text : String) : String := "  " ++ paint color dimmed text ++ "\n"

/-- A complaint of the program to the player. -/
def complaint (color : Bool) (text : String) : String := "  " ++ paint color yellow text ++ "\n"

/-- **The output of an effect.** -/
def render (color : Bool) : Effect → String
  | .say speaker text nvl _ =>
    let indent := if nvl then "    " else "  "
    match speaker with
    | some speaker => indent ++ paint color (nameStyle speaker) speaker.name ++ ": " ++ text ++ "\n"
    | none => indent ++ paint color italic text ++ "\n"
  | .centered text _ => "\n          " ++ paint color bold text ++ "\n\n"
  | .clearText => "\n"
  | .removeLastLine => remark color "(line taken back)"
  | .restorePage lines => String.join (lines.map (pageLine color))
  | .showChoices choices => menuLines color 1 choices
  | .particles name _ => remark color ("[particles: " ++ name ++ "]")
  | .stopParticles => remark color "[particles stop]"
  | .custom kind _ => remark color ("[" ++ kind ++ "]")
  | .finishTyping | .hideChoices => ""

/-- The output of effects, one after the other. -/
def renderAll (color : Bool) (effects : List Effect) : String :=
  String.join (effects.map (render color))

end Narrative.Terminal
