import Narrative.Proofs.Dispatch
import Narrative.Proofs.Turns

/-!
# Proofs/Unseen — differences that no built-in action sees

Two worlds may differ in what no built-in action reads: the effects and reports that wait for
delivery, the form in which the globals happen to be kept, a stack that exists and is empty.  A
relation of worlds is **unseen** when related worlds are the same in all that is read, and every
operation on worlds keeps them related (`Unseen`).

The built-in actions are in lockstep under such a relation: running and undoing a statement
(`Unseen.perform`, `Unseen.undo`), going forward and back (`Unseen.steps`), and with the guards
every move of the player (`Unseen.moves`).
-/

namespace Narrative

/-- **A relation of worlds that no built-in action sees.** -/
structure Unseen (R : World → World → Prop) : Prop where
  /-- Where the game is, and its variables. -/
  state : ∀ ⦃w v⦄, R w v → w.state = v.state
  /-- The entries of every stack. -/
  entries : ∀ ⦃w v⦄, R w v → w.history.entries = v.history.entries
  /-- The world data. -/
  storage : ∀ ⦃w v⦄, R w v → w.storage = v.storage
  /-- Whether the page shows. -/
  showing : ∀ ⦃w v⦄, R w v → Page.isShowing w = Page.isShowing v
  /-- The lines on the page. -/
  page : ∀ ⦃w v⦄, R w v → Page.lines w = Page.lines v
  /-- The pending menu. -/
  pending : ∀ ⦃w v⦄, R w v →
    w.globals.get? Choice.pendingKey = v.globals.get? Choice.pendingKey
  /-- Whether the text of the last line is all there. -/
  finishedTyping : ∀ ⦃w v⦄, R w v → w.globals.finishedTyping = v.globals.finishedTyping
  /-- Whether the flags let the player continue and go back. -/
  gatesOpen : ∀ ⦃w v⦄, R w v → w.globals.gatesOpen = v.globals.gatesOpen
  /-- Effects wait for the host. -/
  emit : ∀ ⦃w v⦄, R w v → ∀ effects, R (w.emit effects) (v.emit effects)
  /-- A report waits for the author. -/
  report : ∀ ⦃w v⦄, R w v → ∀ report, R (w.report report) (v.report report)
  /-- The cursor moves. -/
  moveTo : ∀ ⦃w v⦄, R w v → ∀ cursor, R (w.moveTo cursor) (v.moveTo cursor)
  /-- An entry is pushed. -/
  push : ∀ ⦃w v⦄, R w v → ∀ stack entry, R (w.push stack entry) (v.push stack entry)
  /-- An entry is popped. -/
  pop : ∀ ⦃w v⦄, R w v → ∀ stack, R (w.pop stack) (v.pop stack)
  /-- A variable is set. -/
  setVar : ∀ ⦃w v⦄, R w v → ∀ name value, R (w.setVar name value) (v.setVar name value)
  /-- Lines are put on the page. -/
  setLines : ∀ ⦃w v⦄, R w v → ∀ lines, R (Page.setLines w lines) (Page.setLines v lines)
  /-- A page is shown. -/
  display : ∀ ⦃w v⦄, R w v → ∀ lines, R (Page.display w lines) (Page.display v lines)
  /-- The page is left. -/
  leave : ∀ ⦃w v⦄, R w v → R (Page.leave w) (Page.leave v)
  /-- A menu is offered. -/
  offer : ∀ ⦃w v⦄, R w v → ∀ menu, R (w.withGlobals (·.set Choice.pendingKey menu))
    (v.withGlobals (·.set Choice.pendingKey menu))
  /-- The menu is closed. -/
  close : ∀ ⦃w v⦄, R w v → R (Choice.close w) (Choice.close v)
  /-- A line is typed, or is all there. -/
  typed : ∀ ⦃w v⦄, R w v → ∀ finished,
    R (w.withGlobals ({ · with finishedTyping := finished }))
      (v.withGlobals ({ · with finishedTyping := finished }))
  /-- A game begins. -/
  playing : ∀ ⦃w v⦄, R w v →
    R (w.withGlobals ({ · with playing := true })) (v.withGlobals ({ · with playing := true }))

/-! ## Reading a statement -/

section Reading

variable {characters : Table Character} {presets : Fields Json} {book : Playbook} {w v : World}

theorem substitute_congr (h : w.storage = v.storage) : book.substitute w = book.substitute v := by
  funext text
  rw [Playbook.substitute, Playbook.substitute, h]

theorem readOption_congr (h : w.storage = v.storage) :
    Choice.readOption book w = Choice.readOption book v := by
  funext key value
  simp only [Choice.readOption, substitute_congr h]

theorem readOptions_congr (h : w.storage = v.storage) (options : Fields Json) :
    Choice.readOptions book w options = Choice.readOptions book v options := by
  induction options with
  | nil => rfl
  | cons option options ih =>
    obtain ⟨key, value⟩ := option
    simp only [Choice.readOptions, readOption_congr h, ih]

theorem say_congr (h : w.storage = v.storage) (i : Instruction) :
    Dialog.say characters book w i = Dialog.say characters book v i := by
  simp only [Dialog.say, substitute_congr h]

theorem particlesInvocation_congr (h : w.history.entries = v.history.entries) (i : Instruction) :
    Particles.invocation presets w i = Particles.invocation presets v i := by
  simp only [Particles.invocation, Particles.previous?, h]

/-- **A statement reads the same where the storage, the entries of the stacks and the position are
the same.** -/
theorem invoke_congr (hcursor : w.cursor = v.cursor)
    (hentries : w.history.entries = v.history.entries) (hstorage : w.storage = v.storage)
    (statement : Statement) :
    (builtinRegistry characters presets).invoke book w statement
      = (builtinRegistry characters presets).invoke book v statement := by
  match statement with
  | .text line =>
    cases hfill : book.substitute v line with
    | error fault =>
      rw [Registry.invoke, Registry.invoke, substitute_congr hstorage, hfill]
      rfl
    | ok text =>
      rw [invoke_text hfill, invoke_text (by rw [substitute_congr hstorage, hfill]),
        particlesInvocation_congr hentries, say_congr hstorage]
  | .record fields =>
    rw [invoke_record, invoke_record]
    simp only [Choice.invoke, readOptions_congr hstorage]
  | .callback run =>
    simp only [Registry.invoke, hcursor]

end Reading

/-- The built-in actions name the origin of a label by the newest jump. -/
theorem origin?_builtin {characters : Table Character} {presets : Fields Json} {book : Playbook}
    (world : World) :
    Rewind.origin? book (builtinRegistry characters presets) world = Jump.revertOrigin world := by
  simp only [Rewind.origin?, builtinRegistry, List.findSome?, Jump.action, Next.action,
    Particles.action, Choice.action, Dialog.action]
  cases Jump.revertOrigin world <;> rfl

/-! ## What the built-in actions do -/

namespace Unseen

section Parts

variable {R : World → World → Prop} {characters : Table Character} {presets : Fields Json}
  {book : Playbook} {w v : World}

theorem cursor (hR : Unseen R) (h : R w v) : w.cursor = v.cursor :=
  congrArg State.cursor (hR.state h)

theorem peek? (hR : Unseen R) (h : R w v) (stack : String) :
    w.history.peek? stack = v.history.peek? stack := by
  rw [History.peek?, History.peek?, hR.entries h]

theorem isPending (hR : Unseen R) (h : R w v) : Choice.isPending w = Choice.isPending v :=
  congrArg Option.isSome (hR.pending h)

theorem offered (hR : Unseen R) (h : R w v) : Choice.offered w = Choice.offered v := by
  rw [Choice.offered, Choice.offered, hR.pending h]

theorem hide (hR : Unseen R) (h : R w v) : R (Choice.hide w) (Choice.hide v) := by
  rw [Choice.hide, Choice.hide, hR.isPending h]
  split
  · exact hR.emit (hR.close h) _
  · exact h

theorem lockstep_emit (hR : Unseen R) (effects : List Effect) : Lockstep R (Play.emit effects) :=
  Play.lockstep_update fun _ _ h => hR.emit h effects

theorem lockstep_jump_revert (hR : Unseen R) : Lockstep R Jump.revert := by
  intro w v h
  simp only [Jump.revert, hR.peek? h]
  cases v.history.peek? Jump.stack with
  | none => exact .error _ h
  | some value =>
    cases hentry : JumpEntry.ofJson? value with
    | none =>
      simp only [hentry]
      exact .error _ (hR.pop h _)
    | some entry =>
      simp only [hentry]
      exact .ok _ (hR.leave (hR.moveTo (hR.pop (hR.pop h _) _) _))

theorem lockstep_jump_didRevert (hR : Unseen R) : Lockstep R (Jump.didRevert book) := by
  intro w v h
  simp only [Jump.didRevert, Playbook.current?, hR.cursor h, substitute_congr (hR.storage h)]
  cases (book.statement? v.cursor).bind Statement.asText? with
  | none => exact .ok _ h
  | some line =>
    cases hfill : book.substitute v line with
    | error fault =>
      simp only [hfill]
      exact .error _ h
    | ok text =>
      simp only [hfill]
      exact .ok _ h

theorem lockstep_emitLine (hR : Unseen R) (say : Say) (before : List Effect) :
    Lockstep R (say.emitLine before) := fun _ _ h => .ok _ (hR.typed h _)

theorem lockstep_displayOnPage (hR : Unseen R) (say : Say) (advance : Bool) :
    Lockstep R (say.displayOnPage advance) := by
  intro w v h
  simp only [Say.displayOnPage, hR.showing h]
  -- Opening the page first leaves related worlds, with one page.
  have hopen : R (if (!Page.isShowing v) = true then Page.display w [] else w)
      (if (!Page.isShowing v) = true then Page.display v [] else v) := by
    split
    · exact hR.display h []
    · exact h
  generalize (if (!Page.isShowing v) = true then Page.display w [] else w) = w' at *
  generalize (if (!Page.isShowing v) = true then Page.display v [] else v) = v' at *
  rw [hR.page hopen]
  split
  · exact .ok _ hopen
  · exact hR.lockstep_emitLine say _ (hR.setLines hopen _)

theorem lockstep_displayAlone (hR : Unseen R) (say : Say) (keepPage : Bool) :
    Lockstep R (say.displayAlone keepPage) := by
  intro w v h
  simp only [Say.displayAlone, hR.showing h, hR.page h]
  split
  · refine hR.lockstep_emitLine say _ (hR.leave ?_)
    split
    · exact hR.push h _ _
    · exact h
  · exact hR.lockstep_emitLine say _ h

theorem lockstep_display (hR : Unseen R) (say : Say) (keepPage advance : Bool) :
    Lockstep R (say.display keepPage advance) := by
  unfold Say.display
  split
  · exact hR.lockstep_emitLine say []
  split
  · exact hR.lockstep_displayOnPage say advance
  · exact hR.lockstep_displayAlone say keepPage

theorem lockstep_revertOnPage (hR : Unseen R) : Lockstep R Say.revertOnPage := by
  intro w v h
  simp only [Say.revertOnPage, hR.showing h, hR.page h, hR.peek? h]
  split
  · exact .ok _ (hR.setLines h _)
  · cases v.history.peek? Page.stack with
    | none => exact .error _ h
    | some value =>
      cases hpage : Line.pageOfJson? value with
      | none =>
        simp only [hpage]
        exact .error _ (hR.pop h _)
      | some lines =>
        simp only [hpage]
        exact .ok _ (hR.display (hR.pop h _) _)

end Parts

end Unseen

/-! ## The stages of an invocation -/

/-- **An invocation in lockstep under a relation**: each of its stages is. -/
structure Invocation.Congruent (R : World → World → Prop) (invocation : Invocation) : Prop where
  /-- Before running. -/
  willApply : Lockstep R invocation.willApply
  /-- Running. -/
  apply : ∀ advance, Lockstep R (invocation.apply advance)
  /-- After running. -/
  didApply : ∀ advance, Lockstep R (invocation.didApply advance)
  /-- Before undoing. -/
  willRevert : Lockstep R invocation.willRevert
  /-- Undoing. -/
  revert : Lockstep R invocation.revert
  /-- After undoing. -/
  didRevert : Lockstep R invocation.didRevert

namespace Unseen

section Stages

variable {R : World → World → Prop} {characters : Table Character} {presets : Fields Json}
  {book : Playbook} {w v : World}

theorem runStages (hR : Unseen R) {invocation : Invocation} (h : invocation.Congruent R)
    (advance : Bool) : Lockstep R (Run.stages invocation advance) :=
  Play.lockstep_stages hR.lockstep_emit h.willApply (h.apply advance) (h.didApply advance)

theorem rewindStages (hR : Unseen R) {invocation : Invocation} (h : invocation.Congruent R) :
    Lockstep R (Rewind.stages invocation) :=
  Play.lockstep_stages hR.lockstep_emit h.willRevert h.revert h.didRevert

theorem congruent_jump (hR : Unseen R) (i : Instruction) :
    (Jump.invocation book i).Congruent R where
  willApply w v h := by
    simp only [Jump.invocation, Jump.willApply, hR.cursor h]
    split
    · exact .ok () h
    · exact .error _ (hR.report h _)
  apply advance w v h := by
    simp only [Jump.invocation, Jump.apply, hR.cursor h]
    exact .ok _ (hR.push (hR.leave (hR.moveTo (hR.push h _ _) _)) _ _)
  didApply _ := Lockstep.pure _
  willRevert := Lockstep.pure ()
  revert := hR.lockstep_jump_revert
  didRevert := hR.lockstep_jump_didRevert

theorem congruent_next (hR : Unseen R) : (Next.invocation book).Congruent R where
  willApply := Lockstep.pure ()
  apply advance w v h := by
    refine .ok _ ?_
    cases advance with
    | true => exact h
    | false =>
      show R (Next.step book w) (Next.step book v)
      simp only [Next.step, hR.cursor h]
      split
      · exact hR.moveTo h _
      · exact h
  didApply advance := Lockstep.pure _
  willRevert := Lockstep.pure ()
  revert := Lockstep.pure []
  didRevert := Lockstep.pure _

theorem congruent_particles (hR : Unseen R) (world : World) (i : Instruction) :
    (Particles.invocation presets world i).Congruent R where
  willApply w v h := by
    simp only [Particles.invocation, Particles.willApply]
    split
    · exact .ok () h
    · exact .error _ (hR.report h _)
  apply advance w v h := by
    simp only [Particles.invocation, Particles.apply]
    cases Fields.get? presets ((i.word? 1).getD "") with
    | none => exact .error _ h
    | some config => exact .ok _ (hR.setVar (hR.push h _ _) _ _)
  didApply _ := Lockstep.pure _
  willRevert := Lockstep.pure ()
  revert w v h := by
    simp only [Particles.invocation, Particles.revert]
    cases Particles.previous? presets world with
    | none => exact .ok _ (hR.setVar (hR.pop h _) _ _)
    | some previous => exact .ok _ (hR.setVar (hR.pop h _) _ _)
  didRevert := Lockstep.pure _

theorem congruent_menu (hR : Unseen R) (options : List (MenuItem × Condition)) :
    (Choice.invocation options).Congruent R where
  willApply := Lockstep.pure ()
  apply advance w v h := by
    simp only [Choice.invocation, Choice.apply, hR.storage h]
    exact .ok _ (hR.offer h _)
  didApply _ := Lockstep.pure _
  willRevert := Lockstep.pure ()
  revert w v h := by
    simp only [Choice.invocation, Choice.revert, hR.isPending h]
    split
    · exact .ok _ (hR.close h)
    · exact .ok _ h
  didRevert := Lockstep.pure _

theorem congruent_say (hR : Unseen R) (say : Say) : say.invocation.Congruent R where
  willApply := Lockstep.pure ()
  apply advance := hR.lockstep_display say true advance
  didApply _ := Lockstep.pure _
  willRevert := Lockstep.pure ()
  revert := by
    show Lockstep R (if say.nvl = true then Say.revertOnPage else say.display false true)
    split
    · exact hR.lockstep_revertOnPage
    · exact hR.lockstep_display say false true
  didRevert := Lockstep.pure _

/-- **Every built-in invocation is in lockstep.** -/
theorem congruent (hR : Unseen R) {world : World} {statement : Statement} {invocation : Invocation}
    (h : Reads characters presets book world statement invocation) : invocation.Congruent R := by
  cases h with
  | jump filled kind => exact hR.congruent_jump _
  | next filled kind => exact hR.congruent_next
  | particles filled kind => exact hR.congruent_particles _ _
  | line filled kind said => exact hR.congruent_say _
  | menu field read => exact hR.congruent_menu _

/-! ## Statements and turns -/

/-- A statement is read alike in related worlds. -/
theorem invoke (hR : Unseen R) (h : R w v) (statement : Statement) :
    (builtinRegistry characters presets).invoke book w statement
      = (builtinRegistry characters presets).invoke book v statement :=
  invoke_congr (hR.cursor h) (hR.entries h) (hR.storage h) statement

/-- **Running a statement**, unless it is a callback, which may see anything. -/
theorem perform (hR : Unseen R) (statement : Statement) (hno : ∀ run, statement ≠ .callback run)
    (advance : Bool) : Lockstep R
      (Run.perform book (builtinRegistry characters presets) statement advance) := by
  intro w v h
  rw [perform_eq hno, perform_eq hno, hR.invoke h]
  cases hok : (builtinRegistry characters presets).invoke book v statement with
  | error fault => exact .error _ h
  | ok invocation => exact hR.runStages (hR.congruent (reads_of_invoke hok)) advance h

/-- **Undoing a statement.** -/
theorem undo (hR : Unseen R) (statement : Statement) : Lockstep R
    (Rewind.undo book (builtinRegistry characters presets) statement) := by
  intro w v h
  simp only [Rewind.undo, hR.invoke h statement]
  split
  · exact .error _ h
  · next invocation hok => exact hR.rewindStages (hR.congruent (reads_of_invoke hok)) h

/-- **Going forward and back.** -/
theorem steps (hR : Unseen R) (hbook : book.Callbackless) :
    Steps R book (builtinRegistry characters presets) where
  cursor _ _ h := hR.cursor h
  moveTo _ _ h cursor := hR.moveTo h cursor
  perform cursor statement hs advance :=
    hR.perform statement (fun run hrun => hbook cursor run (hrun ▸ hs)) advance
  undo := hR.undo
  origin w v h := by
    simp only [origin?_builtin, Jump.revertOrigin, hR.cursor h, hR.peek? h]

end Stages

end Unseen

/-! ## The guards -/

section Guards

variable (characters : Table Character) (presets : Fields Json) (book : Playbook) (world : World)

/-- **What the guards answer to a wish to continue**: no while a menu waits or a line is typed,
which is finished then. -/
theorem askAll_canProceed :
    (builtinRegistry characters presets).askAll (fun action => action.canProceed book) world
      = (!Choice.isPending world && world.globals.finishedTyping,
        if world.globals.finishedTyping then world else Dialog.finishTyping world) := by
  simp only [Registry.askAll, builtinRegistry, List.foldl, Jump.action, Next.action,
    Particles.action, Choice.action, Dialog.action, Dialog.canProceed, Bool.and_self,
    Bool.true_and]
  cases world.globals.finishedTyping <;> simp

/-- **What the guards do about a wish to go back**: they close the menu and finish the line. -/
theorem askAll_canRevert :
    (builtinRegistry characters presets).askAll (fun action => action.canRevert book) world
      = (true, if (Choice.hide world).globals.finishedTyping then Choice.hide world
        else Dialog.finishTyping (Choice.hide world)) := by
  simp only [Registry.askAll, builtinRegistry, List.foldl, Jump.action, Next.action,
    Particles.action, Choice.action, Dialog.action, Dialog.canRevert, Bool.and_self]

end Guards

namespace Unseen

variable {R : World → World → Prop} {characters : Table Character} {presets : Fields Json}
  {book : Playbook} {w v : World}

/-- Finishing the line that is typed, if one is. -/
theorem finish (hR : Unseen R) (h : R w v) :
    R (if w.globals.finishedTyping then w else Dialog.finishTyping w)
      (if v.globals.finishedTyping then v else Dialog.finishTyping v) := by
  rw [hR.finishedTyping h]
  split
  · exact h
  · exact hR.emit (hR.typed h true) _

/-- **The moves of the player.** -/
theorem moves (hR : Unseen R) (hbook : book.Callbackless) :
    Moves R book (builtinRegistry characters presets) where
  toSteps := hR.steps hbook
  playing := hR.playing
  onStart action h := by
    rw [onStart_builtin h]
    exact Lockstep.pure ()
  gates := hR.gatesOpen
  canProceed w v h := by
    rw [askAll_canProceed, askAll_canProceed]
    exact ⟨by rw [hR.isPending h, hR.finishedTyping h], hR.finish h⟩
  canRevert w v h := by
    rw [askAll_canRevert, askAll_canRevert]
    exact ⟨rfl, hR.finish (hR.hide h)⟩
  offered _ _ h := hR.offered h
  pick _ _ h := hR.emit (hR.close h) _
  picked _ _ _ _ _ statement hread :=
    hR.perform statement (Statement.ne_callback_of_ofJson? hread)

end Unseen

end Narrative
