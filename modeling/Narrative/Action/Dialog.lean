import Narrative.Action.Page
import Narrative.Character

/-!
# Action/Dialog — spoken, narrated and centered lines

Every text with a word is a line.  Its first word selects the **voice**: a known character, with an
expression after a colon; `centered`, for a text in the middle of the screen; `nvl`, for narration
on the page; anything else is narrated as it stands.

Lines for the page accumulate until another line takes the screen; the page is then remembered, so
that going back can show it again.  A centered line leaves the page alone.
-/

namespace Narrative

/-- **Who or what a line is said by.** -/
inductive Voice where
  /-- A character. -/
  | character (speaker : Speaker)
  /-- The narrator. -/
  | narrator
  /-- A text in the middle of the screen. -/
  | centered
  deriving DecidableEq

/-- **A line to be shown.** -/
structure Say where
  /-- Who or what says it. -/
  voice : Voice
  /-- What is said. -/
  text : String
  /-- Whether it goes to the page. -/
  nvl : Bool
  /-- Whether it is typed out. -/
  animate : Bool
  deriving DecidableEq

namespace Say

/-- The line as the page keeps it. -/
def line (say : Say) : Line :=
  { speaker := match say.voice with
      | .character speaker => some speaker.name
      | .narrator | .centered => none
    text := say.text }

/-- The effect that shows the line. -/
def effect (say : Say) : Effect :=
  match say.voice with
  | .centered => .centered say.text say.animate
  | .character speaker => .say (some speaker) say.text say.nvl say.animate
  | .narrator => .say none say.text say.nvl say.animate

/-- Show the line and note whether it is being typed. -/
def emitLine (say : Say) (before : List Effect) : Play (List Effect) := fun world =>
  .ok (before ++ [say.effect]) (world.withGlobals ({ · with finishedTyping := !say.animate }))

/-- Show a line of the page.  Run again in place, a line that is the newest one already is not shown
twice. -/
def displayOnPage (say : Say) (advance : Bool) : Play (List Effect) := fun world =>
  let opened := !Page.isShowing world
  let world := if opened then Page.display world [] else world
  let effects := if opened then [Effect.clearText] else []
  let lines := Page.lines world
  if !advance && lines.getLast? == some say.line then .ok effects world
  else say.emitLine effects (Page.setLines world (lines ++ [say.line]))

/-- Show a line in place of the page.  The page is remembered if `keepPage`. -/
def displayAlone (say : Say) (keepPage : Bool) : Play (List Effect) := fun world =>
  if Page.isShowing world then
    let kept :=
      if keepPage then world.push Page.stack (Line.pageToJson (Page.lines world)) else world
    say.emitLine [.clearText] (Page.leave kept)
  else say.emitLine [] world

/-- **Put the line on screen.** -/
def display (say : Say) (keepPage advance : Bool) : Play (List Effect) :=
  if say.voice = .centered then say.emitLine []
  else if say.nvl then say.displayOnPage advance
  else say.displayAlone keepPage

/-- Take a line off the page, or show the newest remembered page again. -/
def revertOnPage : Play (List Effect) := fun world =>
  if Page.isShowing world then
    .ok [.removeLastLine] (Page.setLines world (Page.lines world).dropLast)
  else match world.history.peek? Page.stack with
    | none => .error (.rejected "no NVL page to restore") world
    | some value =>
      let popped := world.pop Page.stack
      match Line.pageOfJson? value with
      | none => .error .invalidScript popped
      | some lines => .ok [.restorePage lines] (Page.display popped lines)

/-- The invocation of a line.  Undone, a line that is not on the page is shown itself. -/
def invocation (say : Say) : Invocation :=
  { apply := fun advance => say.display true advance
    didApply := fun _ => pure .wait
    revert := if say.nvl then revertOnPage else say.display false true
    didRevert := pure .wait }

end Say

namespace Dialog

/-- The word for a text in the middle of the screen. -/
def centeredWord : String := "centered"

/-- The word for narration on the page. -/
def pageWord : String := "nvl"

/-- The name and the expression in a first word. -/
def splitVoice (word : String) : String × Option String :=
  match Text.splitOnce? word ":" with
  | some (id, expression) => (id, if expression.isEmpty then none else some expression)
  | none => (word, none)

/-- The line of a character. -/
def characterSay (settings : Settings) (character : Character) (id name : String)
    (expression : Option String) (text : String) : Say :=
  { voice := .character
      { id := id
        name := name
        color := character.color
        image := if character.nvl then none else character.image? expression }
    text := text
    nvl := character.nvl
    animate := settings.typeAnimation && character.typeAnimation.getD true
      && (!character.nvl || settings.nvlTypeAnimation) }

/-- The line of an instruction that no character speaks. -/
def plainSay (settings : Settings) (first : String) (i : Instruction) : Say :=
  if first = centeredWord then
    { voice := .centered
      text := i.body
      nvl := false
      animate := settings.typeAnimation && settings.centeredTypeAnimation }
  else
    let nvl := first == pageWord
    { voice := .narrator
      text := if nvl then i.body else Text.trim i.text
      nvl := nvl
      animate := settings.typeAnimation && settings.narratorTypeAnimation
        && (!nvl || settings.nvlTypeAnimation) }

/-- **The line of an instruction.** -/
def say (characters : Table Character) (book : Playbook) (world : World) (i : Instruction) :
    Except Fault Say :=
  let first := (i.word? 0).getD ""
  let (id, expression) := splitVoice first
  match characters.get? id with
  | some character => do
    let name ← book.substitute world character.name
    return characterSay book.settings character id name expression i.body
  | none => .ok (plainSay book.settings first i)

/-- The line being typed is finished. -/
def finishTyping (world : World) : World :=
  (world.withGlobals ({ · with finishedTyping := true })).emit [.finishTyping]

/-- A line that is still being typed is finished first, instead of moving on. -/
def canProceed (world : World) : Bool × World :=
  if world.globals.finishedTyping then (true, world) else (false, finishTyping world)

/-- A line that is still being typed is finished on the way back. -/
def canRevert (world : World) : Bool × World :=
  (true, if world.globals.finishedTyping then world else finishTyping world)

/-- **The action of lines.**  It handles every text, so it is to be asked last. -/
def action (characters : Table Character) : Action :=
  { id := "dialog"
    handlesWords := fun words => !words.isEmpty
    invoke := fun book world i => (say characters book world i).map Say.invocation
    setup := fun _ => Play.update (·.createStack Page.stack)
    reset := fun _ => Play.update fun world =>
      (Page.leave world).withGlobals ({ · with finishedTyping := true })
    canProceed := fun _ => canProceed
    canRevert := fun _ => canRevert }

end Dialog

end Narrative
