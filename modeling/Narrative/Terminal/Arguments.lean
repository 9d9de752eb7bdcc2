import Narrative.Text.Cut
import Narrative.Text.Numeral

/-!
# Terminal/Arguments — what the program is asked to do

The first argument names a command; the others are options and at most one file.  An option is given
by its long name, or by a letter; its value follows as the next argument or after an equals sign,
and directly after a letter.  No option may be given twice, and two hyphens end the options.
-/

namespace Narrative.Terminal

/-- **An option of a command.** -/
structure OptionSpec where
  /-- The long name. -/
  long : String
  /-- The letter. -/
  letter : Option Char := none
  /-- Whether a value belongs to it. -/
  hasValue : Bool := true

/-- **Arguments, sorted out**: the options by long name, and the others in order. -/
structure Given where
  /-- The options with their values; an option without value has an empty one. -/
  options : List (String × String) := []
  /-- The other arguments. -/
  others : List String := []

/-- Note an option, unless it was given before. -/
def Given.add? (given : Given) (name value : String) : Option Given :=
  if given.options.any (·.1 == name) then none
  else some { given with options := (name, value) :: given.options }

/-- The value of an option. -/
def Given.value? (given : Given) (name : String) : Option String :=
  (given.options.find? (·.1 == name)).map (·.2)

/-- Whether an argument looks like an option, and so cannot be the value of one. -/
def looksLikeOption (argument : String) : Bool :=
  match argument.toList with
  | '-' :: _ :: _ => true
  | _ => false

/-- **Sort the arguments out.**  `pending` is the option whose value comes next. -/
def sortOut? (specs : List OptionSpec) (given : Given) (pending : Option String) :
    List String → Option Given
  | [] => if pending.isSome then none else some { given with others := given.others.reverse }
  | argument :: rest =>
    match pending with
    | some name =>
      if looksLikeOption argument then none
      else (given.add? name argument).bind (sortOut? specs · none rest)
    | none =>
      match argument.toList with
      | ['-', '-'] => some { given with others := given.others.reverse ++ rest }
      | '-' :: '-' :: name =>
        match Text.cut? ['='] name with
        | some (name, value) => do
          let spec ← specs.find? (·.long == String.ofList name)
          if spec.hasValue then
            sortOut? specs (← given.add? spec.long (String.ofList value)) none rest
          else none
        | none => do
          let spec ← specs.find? (·.long == String.ofList name)
          if spec.hasValue then sortOut? specs given (some spec.long) rest
          else sortOut? specs (← given.add? spec.long "") none rest
      | '-' :: letter :: value => do
        let spec ← specs.find? (·.letter == some letter)
        match value with
        | [] => sortOut? specs given (some spec.long) rest
        | '=' :: value => sortOut? specs (← given.add? spec.long (String.ofList value)) none rest
        | _ => sortOut? specs (← given.add? spec.long (String.ofList value)) none rest
      | _ => sortOut? specs { given with others := argument :: given.others } none rest

/-- **How a story is to be played.** -/
structure PlayOptions where
  /-- Start at this label. -/
  label : Option String := none
  /-- Play in this language. -/
  language : Option String := none
  /-- Play automatically, at this many seconds a step. -/
  auto : Option Nat := none

/-- **What the program is asked to do.** -/
inductive Command where
  /-- Play a story, with a directory for saves. -/
  | play (story saves : String) (options : PlayOptions)
  /-- Check a story. -/
  | check (story : String)
  /-- List the slots in a directory. -/
  | saves (directory : String) (auto : Bool)

/-- The directory for saves unless another is given. -/
def defaultSaves : String := "saves"

/-- A path is not empty. -/
def path? (argument : String) : Option String := if argument.isEmpty then none else some argument

/-- The directory for saves. -/
def savesPath? (given : Given) : Option String :=
  match given.value? "saves" with
  | some argument => path? argument
  | none => some defaultSaves

/-- A number of seconds; a zero may have a minus sign. -/
def seconds? (argument : String) : Option Nat :=
  match argument.toList with
  | '-' :: digits => (Text.Numeral.readSome? digits).filter (· == 0)
  | cs => Text.Numeral.read? Text.Numeral.max32 cs

/-- The options of `play`. -/
def playSpecs : List OptionSpec :=
  [{ long := "saves", letter := some 's' }, { long := "label", letter := some 'l' },
    { long := "language" }, { long := "auto" }]

/-- The options of `saves`. -/
def savesSpecs : List OptionSpec :=
  [{ long := "saves", letter := some 's' }, { long := "auto", hasValue := false }]

/-- The arguments of `play`. -/
def playCommand? (arguments : List String) : Option Command := do
  let given ← sortOut? playSpecs {} none arguments
  match given.others with
  | [story] =>
    let auto ← match given.value? "auto" with
      | some argument => (seconds? argument).map some
      | none => some none
    return .play (← path? story) (← savesPath? given)
      { label := given.value? "label", language := given.value? "language", auto := auto }
  | _ => none

/-- **Read the arguments**; none when they are not understood. -/
def Command.ofArguments? : List String → Option Command
  | "play" :: arguments => playCommand? arguments
  | "check" :: arguments => do
    let given ← sortOut? [] {} none arguments
    match given.others with
    | [story] => return .check (← path? story)
    | _ => none
  | "saves" :: arguments => do
    let given ← sortOut? savesSpecs {} none arguments
    if given.others.isEmpty then
      return .saves (← savesPath? given) (given.value? "auto").isSome
    else none
  | _ => none

end Narrative.Terminal
