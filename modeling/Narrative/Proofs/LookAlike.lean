import Narrative.Proofs.Look
import Narrative.Proofs.Unseen

/-!
# Proofs/LookAlike — the built-in actions see no more than the look

Two worlds **look alike** when their looks are equal.  No built-in action sees by what they differ
(`LookAlike.unseen`): running or undoing a statement, and asking the guards, give the same answers
on worlds that look alike and leave them looking alike.
-/

namespace Narrative

/-- **Two worlds with one look.** -/
def LookAlike (w v : World) : Prop := w.look = v.look

namespace LookAlike

variable {w v : World}

theorem state (h : LookAlike w v) : w.state = v.state := congrArg Look.state h

theorem history (h : LookAlike w v) : w.history = v.history :=
  History.ext_get? (congrArg Look.history h)

theorem showing (h : LookAlike w v) : Page.isShowing w = Page.isShowing v :=
  congrArg Look.showing h

theorem page (h : LookAlike w v) : Page.lines w = Page.lines v := congrArg Look.page h

theorem typed (h : LookAlike w v) (finished : Bool) :
    LookAlike (w.withGlobals ({ · with finishedTyping := finished }))
      (v.withGlobals ({ · with finishedTyping := finished })) := by
  rw [LookAlike, look_typed, look_typed, show w.look = v.look from h]

/-- **Every operation on worlds acts on their looks**, and the built-in actions read no more. -/
theorem unseen : Unseen LookAlike where
  state _ _ h := h.state
  entries _ _ h := congrArg History.entries h.history
  storage _ _ h := congrArg Look.storage h
  showing _ _ h := h.showing
  page _ _ h := h.page
  pending _ _ h := congrArg Look.pending h
  finishedTyping _ _ h := congrArg Look.finishedTyping h
  gatesOpen _ _ h :=
    congrArg (fun look : Look => look.playing && !look.block && !look.distractionFree) h
  emit _ _ h _ := h
  report _ _ h _ := h
  moveTo w v h cursor := by
    rw [LookAlike, look_moveTo, look_moveTo, show w.look = v.look from h]
  push w v h stack entry := by
    rw [LookAlike, look_push, look_push, show w.look = v.look from h]
  pop w v h stack := by
    rw [LookAlike, look_pop, look_pop, show w.look = v.look from h]
  setVar w v h name value := by
    rw [LookAlike, look_setVar, look_setVar, show w.look = v.look from h]
  setLines w v h lines := by
    rw [LookAlike, look_setLines, look_setLines, show w.look = v.look from h]
  display w v h lines := by
    rw [LookAlike, look_display, look_display, show w.look = v.look from h]
  leave w v h := by
    rw [LookAlike, look_leave, look_leave, show w.look = v.look from h]
  offer w v h menu := by
    rw [LookAlike, look_offer, look_offer, show w.look = v.look from h]
  close w v h := by
    rw [LookAlike, look_close, look_close, show w.look = v.look from h]
  typed _ _ h finished := h.typed finished
  playing w v h := by
    show { w.look with playing := true } = { v.look with playing := true }
    rw [show w.look = v.look from h]

/-- **The moves of the player see no more than the look.** -/
theorem moves {characters : Table Character} {presets : Fields Json} {book : Playbook}
    (hbook : book.Callbackless) : Moves LookAlike book (builtinRegistry characters presets) :=
  unseen.moves hbook

end LookAlike

end Narrative
