import Narrative.Action

/-!
# Action/Next — `next`

`next` goes on without waiting.  Where statements are run again in place, going on would stop right
there, so the step is taken by the statement itself and the next statement is entered.
-/

namespace Narrative.Next

/-- The word that begins the statement. -/
def keyword : String := "next"

/-- Take one step, not beyond the end of the label. -/
def step (book : Playbook) (world : World) : World :=
  if world.cursor.step < book.labelLength world.cursor.label then
    world.moveTo (world.cursor.atStep (world.cursor.step + 1))
  else world

/-- The invocation of `next`. -/
def invocation (book : Playbook) : Invocation :=
  { apply := fun advance world => .ok [] (if advance then world else step book world)
    didApply := fun advance => pure (if advance then .advance else .enter) }

/-- **The action of `next`.** -/
def action : Action :=
  { id := "next"
    handlesWords := fun words => words.head? == some keyword
    invoke := fun book _ _ => .ok (invocation book) }

end Narrative.Next
