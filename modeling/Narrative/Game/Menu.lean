import Narrative.Game
import Narrative.Action.Choice

/-!
# Game/Menu — picking an option

Picking an option closes the menu and runs the option's statement in place.
-/

namespace Narrative.Game

/-- **Pick the option of a key.**  A key that is not offered is rejected. -/
def select (key : String) : Turn Unit := fun game =>
  match (Choice.offered game.world).find? (·.key == key) with
  | none => .error (.rejected ("no option \"" ++ key ++ "\" is offered")) game
  | some item =>
    let closed := game.withWorld fun world => (Choice.close world).emit [.hideChoices]
    match Statement.ofJson? item.action with
    | none => .error .invalidScript closed
    | some statement => run statement false closed

end Narrative.Game
