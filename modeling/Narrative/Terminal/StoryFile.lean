import Narrative.Story

/-!
# Terminal/StoryFile — a story from a file, or what is wrong with it
-/

namespace Narrative.Terminal

/-- Read the story in a file of a given text; without a text the file cannot be read. -/
def readStory (path : String) : Option String → Except String Story
  | none => .error ("cannot read " ++ path ++ ": the file cannot be opened as text")
  | some text =>
    match Story.ofText? text with
    | some story => .ok story
    | none => .error ("invalid story " ++ path ++ ": the text is not a story")

/-- Read the script of a story. -/
def readScript (story : Story) : Except String Script :=
  match story.script? with
  | some script => .ok script
  | none => .error Fault.invalidScript.message

/-- **The game of a story**, with the built-in actions set up. -/
def readyGame (story : Story) : Except String Game := do
  let script ← readScript story
  let game := (Game.create script story.registry story.settings).withStorage ⟨story.storage⟩
  match Game.setup game with
  | .ok _ ready => .ok ready
  | .error fault _ => .error ("setup failed: " ++ fault.message)

end Narrative.Terminal
