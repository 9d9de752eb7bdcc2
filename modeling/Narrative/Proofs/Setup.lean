import Narrative.Proofs.Documents
import Narrative.Proofs.Lockstep
import Narrative.Proofs.Look

/-!
# Proofs/Setup — a story set up, and back at its beginning

Setting up the built-in actions creates their stacks and clears the running particle system; it
never fails (`setup_eq`).  A reset leaves the state and the storage of a new game, empty stacks and
nothing on screen (`reset_eq`, `look_blankWorld`).
-/

namespace Narrative

variable {story : Story} {game : Game}

/-- **The game that setting up leaves.** -/
theorem setup_eq (hregistry : game.registry = story.registry) :
    Game.setup game
      = .ok () (Game.rememberFresh (game.withWorld fun world =>
          (Particles.clear (((world.createStack Jump.labelStack).createStack Jump.stack).createStack
            Particles.stack)).createStack Page.stack)) := by
  obtain ⟨book, registry, world, timer, freshState, freshStorage⟩ := game
  obtain rfl : registry = story.registry := hregistry
  rfl

/-- Setting up succeeds. -/
theorem setup_ok_left (hregistry : game.registry = story.registry) :
    Game.setup game = .ok () (Result.left (Game.setup game)) := by
  rw [setup_eq hregistry]
  rfl

/-- The world that a reset leaves. -/
def Game.blankWorld (game : Game) : World :=
  (Page.leave (Choice.close (Particles.clear game.clear.world))).withGlobals
    ({ · with finishedTyping := true })

theorem reset_eq (hregistry : game.registry = story.registry) :
    Game.reset game = .ok () { game.clear with world := game.blankWorld } := by
  obtain ⟨book, registry, world, timer, freshState, freshStorage⟩ := game
  obtain rfl : registry = story.registry := hregistry
  rfl

@[simp] theorem look_blankWorld (game : Game) :
    game.blankWorld.look
      = { game.clear.world.look with
          state := game.freshState.set Particles.runningVar (.str "")
          finishedTyping := true, showing := false, page := [], pending := none } := by
  rw [Game.blankWorld, look_typed, look_leave, look_close, Particles.clear, look_setVar]
  rfl

end Narrative
