import Mathlib.Logic.Function.Basic
import Narrative.Proofs.ReadBack
import Narrative.Story

/-!
# Proofs/Look — what the built-in actions can see of a world

The **look** of a world is what the built-in actions and the guards read: the state, the entries of
every stack, the storage, the flags, the page and the pending menu.  Effects and reports that wait
for delivery are not in it, nor is the form in which the globals happen to be kept.

Every operation on a world is an operation on its look; the equations are simp lemmas, so that a
question about a world after some operations becomes one about the fields of a look.
-/

namespace Narrative

/-- **What the built-in actions can see of a world.** -/
structure Look where
  /-- Where the game is, and its variables. -/
  state : State
  /-- The entries of each stack that exists, newest first. -/
  history : String → Option (List Json)
  /-- The world data. -/
  storage : Storage
  /-- Whether a callback runs. -/
  block : Bool
  /-- Whether a game is in progress. -/
  playing : Bool
  /-- Whether the text box is hidden. -/
  distractionFree : Bool
  /-- Whether the text of the last line is all there. -/
  finishedTyping : Bool
  /-- Whether the page shows. -/
  showing : Bool
  /-- The lines on the page. -/
  page : List Line
  /-- The pending menu, as it is kept. -/
  pending : Option Json

namespace World

/-- The look of a world. -/
def look (world : World) : Look where
  state := world.state
  history := world.history.get?
  storage := world.storage
  block := world.globals.block
  playing := world.globals.playing
  distractionFree := world.globals.distractionFree
  finishedTyping := world.globals.finishedTyping
  showing := Page.isShowing world
  page := Page.lines world
  pending := world.globals.get? Choice.pendingKey

end World

/-- A history is its lookups. -/
theorem History.ext_get? {h k : History} (heq : h.get? = k.get?) : h = k := by
  obtain ⟨s⟩ := h
  obtain ⟨t⟩ := k
  exact congrArg History.mk (Table.ext_get? (congrFun heq))

/-- **The saved part of a world is in its look.** -/
theorem snapshot_eq_of_look_eq {w v : World} (h : w.look = v.look) : w.snapshot = v.snapshot := by
  have hstate : w.state = v.state := congrArg Look.state h
  have hhistory : w.history = v.history := History.ext_get? (congrArg Look.history h)
  have hstorage : w.storage = v.storage := congrArg Look.storage h
  rw [World.snapshot, World.snapshot, hstate, hhistory, hstorage]

/-- **The options offered are in the look.** -/
theorem offered_eq_of_look_eq {w v : World} (h : w.look = v.look) :
    Choice.offered w = Choice.offered v := by
  have hpending : w.globals.get? Choice.pendingKey = v.globals.get? Choice.pendingKey :=
    congrArg Look.pending h
  rw [Choice.offered, Choice.offered, hpending]

/-! ## Stacks, read through the lookup -/

theorem History.get?_push (history : History) (name : String) (entry : Json) :
    (history.push name entry).get?
      = Function.update history.get? name (some (entry :: (history.get? name).getD [])) := by
  funext other
  by_cases h : other = name
  · subst h
    simp [History.push, History.get?, History.entries]
  · simp [History.push, History.get?, h]

theorem History.get?_pop (history : History) (name : String) :
    (history.pop name).get?
      = Function.update history.get? name ((history.get? name).map List.tail) := by
  funext other
  unfold History.pop
  cases hs : history.get? name with
  | none =>
    by_cases h : other = name
    · subst h
      simp [hs]
    · simp [h]
  | some stack =>
    by_cases h : other = name
    · subst h
      simp [History.get?]
    · simp [History.get?, h]

/-! ## The look after an operation -/

section Operations

variable (world : World)

@[simp] theorem look_emit (effects : List Effect) : (world.emit effects).look = world.look := rfl

@[simp] theorem look_moveTo (cursor : Cursor) :
    (world.moveTo cursor).look
      = { world.look with state := { world.look.state with cursor := cursor } } := rfl

@[simp] theorem look_setVar (name : String) (value : Json) :
    (world.setVar name value).look
      = { world.look with state := world.look.state.set name value } := rfl

@[simp] theorem look_push (name : String) (entry : Json) :
    (world.push name entry).look
      = { world.look with
          history := Function.update world.look.history name
            (some (entry :: (world.look.history name).getD [])) } := by
  simp only [World.look, World.push, History.get?_push]
  rfl

@[simp] theorem look_pop (name : String) :
    (world.pop name).look
      = { world.look with
          history := Function.update world.look.history name
            ((world.look.history name).map List.tail) } := by
  simp only [World.look, World.pop, History.get?_pop]
  rfl

@[simp] theorem look_typed (finished : Bool) :
    (world.withGlobals ({ · with finishedTyping := finished })).look
      = { world.look with finishedTyping := finished } := rfl

@[simp] theorem look_setLines (lines : List Line) :
    (Page.setLines world lines).look = { world.look with page := lines } := by
  simp [World.look, Page.setLines, World.withGlobals, Page.isShowing, Page.lines, Globals.get?,
    Globals.set, Page.modeKey, Page.pageKey, Choice.pendingKey]

@[simp] theorem look_display (lines : List Line) :
    (Page.display world lines).look = { world.look with showing := true, page := lines } := by
  rw [Page.display, look_setLines]
  simp [World.look, World.withGlobals, Page.isShowing, Globals.get?, Globals.set, Page.modeKey,
    Choice.pendingKey, Json.asBool?]

@[simp] theorem look_leave :
    (Page.leave world).look = { world.look with showing := false, page := [] } := by
  simp [World.look, Page.leave, World.withGlobals, Page.isShowing, Page.lines, Globals.get?,
    Globals.set, Globals.remove, Page.modeKey, Page.pageKey, Choice.pendingKey, Json.asBool?]

@[simp] theorem look_close : (Choice.close world).look = { world.look with pending := none } := by
  simp [World.look, Choice.close, World.withGlobals, Page.isShowing, Page.lines, Globals.get?,
    Globals.remove, Page.modeKey, Page.pageKey, Choice.pendingKey]

@[simp] theorem look_offer (menu : Json) :
    (world.withGlobals (·.set Choice.pendingKey menu)).look
      = { world.look with pending := some menu } := by
  simp [World.look, World.withGlobals, Page.isShowing, Page.lines, Globals.get?,
    Globals.set, Page.modeKey, Page.pageKey, Choice.pendingKey]

@[simp] theorem look_hide : (Choice.hide world).look = { world.look with pending := none } := by
  unfold Choice.hide Choice.isPending
  cases h : world.globals.get? Choice.pendingKey with
  | none =>
    have hlook : world.look.pending = none := h
    show world.look = { world.look with pending := none }
    rw [← hlook]
  | some menu => simp

end Operations

end Narrative
