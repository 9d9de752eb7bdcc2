import Narrative.Json.Decode
import Narrative.Text.Cut

/-!
# Effect — what a host is told to show

Nothing here draws anything: an **effect** is a command for whatever shows the game.  An effect is
written as an object whose field `effect` names it, and is read from such an object or from the list
of its parts with the name in front.  A transcript gives each effect one line.
-/

namespace Narrative

/-- **Who speaks a line.** -/
structure Speaker where
  /-- The name used in the script. -/
  id : String
  /-- The name shown. -/
  name : String
  /-- The color of the name. -/
  color : Option String
  /-- The image shown beside the line. -/
  image : Option String
  deriving DecidableEq, Inhabited

/-- **A line of a page.** -/
structure Line where
  /-- The name of the speaker; none for narration. -/
  speaker : Option String
  /-- What is said. -/
  text : String
  deriving DecidableEq, Inhabited

/-- **An option of a menu**, as shown. -/
structure MenuEntry where
  /-- The key by which it is picked. -/
  key : String
  /-- What is shown. -/
  text : String
  deriving DecidableEq, Inhabited

/-- **A command for the host.** -/
inductive Effect where
  /-- Show a line, on the page or in place of the text shown before. -/
  | say (speaker : Option Speaker) (text : String) (nvl animate : Bool)
  /-- Show a text in the middle of the screen. -/
  | centered (text : String) (animate : Bool)
  /-- Empty the text box and the page. -/
  | clearText
  /-- Drop the newest line of the page. -/
  | removeLastLine
  /-- Show a page again. -/
  | restorePage (lines : List Line)
  /-- Finish the line being typed. -/
  | finishTyping
  /-- Offer a menu. -/
  | showChoices (choices : List MenuEntry)
  /-- Close the menu. -/
  | hideChoices
  /-- Start a particle system. -/
  | particles (name : String) (config : Json)
  /-- Stop the running particle system. -/
  | stopParticles
  /-- A command of the host's own. -/
  | custom (kind : String) (payload : Json)
  deriving Inhabited

/-- A field that is left out when there is no value. -/
def Json.fieldIfSome (name : String) (value : Option String) : Fields Json :=
  match value with
  | some text => [(name, .str text)]
  | none => []

namespace Speaker

/-- Write a speaker; a missing color or image is left out. -/
def toJson (speaker : Speaker) : Json :=
  .obj ([("id", .str speaker.id), ("name", .str speaker.name)]
    ++ Json.fieldIfSome "color" speaker.color ++ Json.fieldIfSome "image" speaker.image)

/-- Read a speaker. -/
def ofJson? (value : Json) : Option Speaker := do
  match ← value.slots ["id", "name", "color", "image"] with
  | [id, name, color, image] =>
    return {
      id := ← Json.required Json.asText? id
      name := ← Json.required Json.asText? name
      color := ← Json.optional Json.asText? color
      image := ← Json.optional Json.asText? image }
  | _ => none

end Speaker

namespace Line

/-- Write a line; a missing speaker is left out. -/
def toJson (line : Line) : Json :=
  .obj (Json.fieldIfSome "speaker" line.speaker ++ [("text", .str line.text)])

/-- Read a line. -/
def ofJson? (value : Json) : Option Line := do
  match ← value.slots ["speaker", "text"] with
  | [speaker, text] =>
    return {
      speaker := ← Json.optional Json.asText? speaker
      text := ← Json.required Json.asText? text }
  | _ => none

/-- Write a page. -/
def pageToJson (lines : List Line) : Json := .arr (lines.map toJson)

/-- Read a page. -/
def pageOfJson? : Json → Option (List Line) := Json.listOf ofJson?

end Line

namespace MenuEntry

/-- Write an option. -/
def toJson (entry : MenuEntry) : Json := .obj [("key", .str entry.key), ("text", .str entry.text)]

/-- Read an option. -/
def ofJson? (value : Json) : Option MenuEntry := do
  match ← value.slots ["key", "text"] with
  | [key, text] =>
    return ⟨← Json.required Json.asText? key, ← Json.required Json.asText? text⟩
  | _ => none

end MenuEntry

namespace Effect

/-! ## Written form -/

/-- The object of an effect of a given name. -/
def tagged (name : String) (parts : Fields Json) : Json := .obj (("effect", .str name) :: parts)

/-- **Write an effect.** -/
def toJson : Effect → Json
  | say speaker text nvl animate =>
    tagged "say" [("speaker", .ofOption (speaker.map Speaker.toJson)), ("text", .str text),
      ("nvl", .bool nvl), ("animate", .bool animate)]
  | centered text animate => tagged "centered" [("text", .str text), ("animate", .bool animate)]
  | clearText => tagged "clear_text" []
  | removeLastLine => tagged "remove_last_line" []
  | restorePage lines => tagged "restore_page" [("lines", Line.pageToJson lines)]
  | finishTyping => tagged "finish_typing" []
  | showChoices choices =>
    tagged "show_choices" [("choices", .arr (choices.map MenuEntry.toJson))]
  | hideChoices => tagged "hide_choices" []
  | particles name config => tagged "particles" [("name", .str name), ("config", config)]
  | stopParticles => tagged "stop_particles" []
  | custom kind payload => tagged "custom" [("kind", .str kind), ("payload", payload)]

/-- An effect without parts, which a list must not have either. -/
def bare? (effect : Effect) : Json → Option Effect
  | .arr (_ :: _) => none
  | _ => some effect

/-- Read the parts of an effect of a given name. -/
def ofParts? (name : String) (parts : Json) : Option Effect :=
  if name = "say" then do
    match ← parts.slots ["speaker", "text", "nvl", "animate"] with
    | [speaker, text, nvl, animate] =>
      return say (← Json.optional Speaker.ofJson? speaker) (← Json.required Json.asText? text)
        (← Json.required Json.asBool? nvl) (← Json.required Json.asBool? animate)
    | _ => none
  else if name = "centered" then do
    match ← parts.slots ["text", "animate"] with
    | [text, animate] =>
      return centered (← Json.required Json.asText? text) (← Json.required Json.asBool? animate)
    | _ => none
  else if name = "clear_text" then bare? clearText parts
  else if name = "remove_last_line" then bare? removeLastLine parts
  else if name = "restore_page" then do
    match ← parts.slots ["lines"] with
    | [lines] => return restorePage (← Json.required Line.pageOfJson? lines)
    | _ => none
  else if name = "finish_typing" then bare? finishTyping parts
  else if name = "show_choices" then do
    match ← parts.slots ["choices"] with
    | [choices] => return showChoices (← Json.required (Json.listOf MenuEntry.ofJson?) choices)
    | _ => none
  else if name = "hide_choices" then bare? hideChoices parts
  else if name = "particles" then do
    match ← parts.slots ["name", "config"] with
    | [name, config] => return particles (← Json.required Json.asText? name) (← config)
    | _ => none
  else if name = "stop_particles" then bare? stopParticles parts
  else if name = "custom" then do
    match ← parts.slots ["kind", "payload"] with
    | [kind, payload] => return custom (← Json.required Json.asText? kind) (← payload)
    | _ => none
  else none

/-- **Read an effect**: an object with its name under `effect`, or a list with its name in front. -/
def ofJson? : Json → Option Effect
  | .obj fields => do ofParts? (← (← Fields.get? fields "effect").asText?) (.obj fields)
  | .arr (.str name :: parts) => ofParts? name (.arr parts)
  | _ => none

/-! ## Transcript -/

/-- One line that describes an effect. -/
def describe : Effect → String
  | say speaker text nvl _ =>
    let mode := if nvl then "nvl " else ""
    match speaker with
    | some speaker => "say " ++ mode ++ "[" ++ speaker.name ++ "] " ++ text
    | none => "say " ++ mode ++ text
  | centered text _ => "centered " ++ text
  | clearText => "clear"
  | removeLastLine => "remove-line"
  | restorePage lines => "restore-page (" ++ Text.Numeral.text lines.length ++ " lines)"
  | finishTyping => "finish-typing"
  | showChoices choices => "choices [" ++ Text.join ", " (choices.map (·.key)) ++ "]"
  | hideChoices => "hide-choices"
  | particles name _ => "particles " ++ name
  | stopParticles => "stop-particles"
  | custom kind _ => "custom " ++ kind

/-- The descriptions of effects, one a line. -/
def transcript (effects : List Effect) : String := Text.join "\n" (effects.map describe)

end Effect

end Narrative
