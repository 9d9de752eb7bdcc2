import Narrative.Proofs.Screen

/-!
# Proofs/Screen/Actions — every action draws what it changes

One lemma for each stage of each built-in action: what it changes and what it delivers keep the
screen showing the world.  From these, running and undoing any statement keep it
(`showing_perform`, `showing_undo`), and so does every turn (`showing_steps`).
-/

namespace Narrative

variable {characters : Table Character} {presets : Fields Json} {book : Playbook}
  {screen : Screen}

/-- **An invocation that draws what it changes.** -/
structure Invocation.Draws (presets : Fields Json) (screen : Screen) (invocation : Invocation) :
    Prop where
  /-- Before running. -/
  willApply : Lockstep (Invariant (Showing presets screen)) invocation.willApply
  /-- Running. -/
  apply : ∀ advance, Delivers presets screen (invocation.apply advance)
  /-- After running. -/
  didApply : ∀ advance,
    Lockstep (Invariant (Showing presets screen)) (invocation.didApply advance)
  /-- Before undoing. -/
  willRevert : Lockstep (Invariant (Showing presets screen)) invocation.willRevert
  /-- Undoing. -/
  revert : Delivers presets screen invocation.revert
  /-- After undoing. -/
  didRevert : Lockstep (Invariant (Showing presets screen)) invocation.didRevert

/-! ## Jumps and `next` -/

/-- Dropping the page, whatever else changes that does not show. -/
theorem delivered_leave {world after : World} (h : Showing presets screen world)
    (heffects : after.effects = world.effects) (hpage : after.look.page = [])
    (hpending : after.look.pending = world.look.pending)
    (hvars : after.look.state.vars = world.look.state.vars) :
    Delivered presets screen (.ok [.clearText] after) := by
  refine .ok ?_
  rw [showing_emit_iff, heffects]
  exact (h.withPage []).of_eq hpage hpending hvars

theorem draws_jump (i : Instruction) : (Jump.invocation book i).Draws presets screen where
  willApply := lockstep_invariant fun w h => by
    simp only [Jump.invocation, Jump.willApply]
    split
    · exact h
    · exact h.of_eq rfl rfl rfl rfl
  apply advance w h := delivered_leave h rfl (by simp) (by simp) (by simp)
  didApply _ := Lockstep.pure _
  willRevert := Lockstep.pure ()
  revert w h := by
    simp only [Jump.invocation, Jump.revert]
    cases w.history.peek? Jump.stack with
    | none => exact .error h
    | some value =>
      cases hentry : JumpEntry.ofJson? value with
      | none =>
        simp only [hentry]
        exact .error (h.of_eq rfl (by simp) (by simp) (by simp))
      | some entry =>
        simp only [hentry]
        exact delivered_leave h rfl (by simp) (by simp) (by simp)
  didRevert := lockstep_invariant fun w h => by
    simp only [Jump.invocation, Jump.didRevert]
    cases (book.current? w).bind Statement.asText? with
    | none => exact h
    | some line =>
      cases hfill : book.substitute w line <;> simpa only [hfill, Result.left] using h

theorem draws_next : (Next.invocation book).Draws presets screen where
  willApply := Lockstep.pure ()
  apply advance w h := by
    refine .ok ?_
    cases advance with
    | true => exact h
    | false =>
      show Showing presets screen (Next.step book w)
      unfold Next.step
      split
      · exact h.of_eq rfl rfl rfl rfl
      · exact h
  didApply advance := Lockstep.pure _
  willRevert := Lockstep.pure ()
  revert w h := .ok h
  didRevert := Lockstep.pure _

/-! ## Particles and menus -/

theorem draws_particles (world : World) (line text : String) :
    (Particles.invocation presets world (.ofText (.text line) text)).Draws presets screen where
  willApply := lockstep_invariant fun w h => by
    simp only [Particles.invocation, Particles.willApply]
    split
    · exact h
    · exact h.of_eq rfl rfl rfl rfl
  apply advance w h := by
    simp only [Particles.invocation, Particles.apply, Instruction.word?, Instruction.ofText]
    cases hpreset : Fields.get? presets ((Text.words text)[1]?.getD "") with
    | none =>
      simp only
      exact .error h
    | some config =>
      refine .ok ?_
      have hdefined : Fields.has presets ((Text.words text)[1]?.getD "") = true := by
        rw [Fields.has, hpreset]
        rfl
      rw [showing_emit_iff]
      exact (h.withParticles (congrArg (·[1]?) (Text.words_trim text)) hdefined).of_eq
        (by simp) (by simp) (by simp)
  didApply _ := Lockstep.pure _
  willRevert := Lockstep.pure ()
  revert w h := by
    simp only [Particles.invocation, Particles.revert]
    cases hprevious : Particles.previous? presets world with
    | none =>
      refine .ok ?_
      rw [showing_emit_iff]
      exact h.withoutParticles.of_eq (by simp) (by simp) (by simp)
    | some previous =>
      obtain ⟨statement, effect⟩ := previous
      -- The statement before names a preset, so it is drawn and kept under one name.
      obtain ⟨name, config, hname, hpreset, rfl⟩ := Particles.previous?_eq_some hprevious
      have hdefined : Fields.has presets ((some name).getD "") = true := by
        rw [Fields.has, Option.getD_some, hpreset]
        rfl
      refine .ok ?_
      rw [showing_emit_iff]
      exact (h.withParticles hname hdefined).of_eq (by simp) (by simp) (by simp)
  didRevert := Lockstep.pure _

theorem draws_menu (options : List (MenuItem × Condition)) :
    (Choice.invocation options).Draws presets screen where
  willApply := Lockstep.pure ()
  apply advance w h := by
    refine .ok ?_
    rw [showing_emit_iff]
    exact (h.withMenu (Choice.visible w.storage options)).of_eq (by simp) (by simp) (by simp)
  didApply _ := Lockstep.pure _
  willRevert := Lockstep.pure ()
  revert w h := by
    simp only [Choice.invocation, Choice.revert]
    split
    · refine .ok ?_
      rw [showing_emit_iff]
      exact h.withoutMenu.of_eq (by simp) (by simp) (by simp)
    · exact .ok h
  didRevert := Lockstep.pure _

/-! ## Lines -/

/-- Showing a line after effects that have been made up for.  Only a line for the page is drawn. -/
theorem delivered_emitLine (say : Say) (before : List Effect) {world : World}
    (h : Shown presets (((screen.drawAll world.effects).drawAll before).draw say.effect)
      world.look) :
    Delivered presets screen (say.emitLine before world) := by
  refine .ok ?_
  rw [showing_emit_iff, Screen.drawAll_append]
  exact h.of_eq (by simp) (by simp) (by simp)

/-- A line that does not go to the page leaves the screen alone. -/
theorem draw_effect_of_not_page (say : Say) (h : say.voice = .centered ∨ say.nvl = false) :
    screen.draw say.effect = screen := by
  obtain ⟨voice, text, nvl, animate⟩ := say
  cases voice with
  | centered => rfl
  | narrator | character speaker =>
    obtain rfl : nvl = false := by simpa using h
    rfl

/-- A line that goes to the page is drawn as the page keeps it. -/
theorem draw_effect_of_page (say : Say) (hvoice : say.voice ≠ .centered) (hnvl : say.nvl = true) :
    screen.draw say.effect = { screen with page := screen.page ++ [say.line] } := by
  obtain ⟨voice, text, nvl, animate⟩ := say
  obtain rfl : nvl = true := hnvl
  cases voice with
  | centered => exact absurd rfl hvoice
  | narrator => rfl
  | character speaker => rfl

theorem delivers_displayOnPage (say : Say) (hvoice : say.voice ≠ .centered)
    (hnvl : say.nvl = true) (advance : Bool) :
    Delivers presets screen (say.displayOnPage advance) := by
  intro w h
  simp only [Say.displayOnPage]
  -- The page is opened first, which empties the screen's.
  obtain ⟨w', before, hw', hbefore, hshown⟩ : ∃ w' before,
      (if (!Page.isShowing w) = true then Page.display w [] else w) = w' ∧
      (if (!Page.isShowing w) = true then [Effect.clearText] else []) = before ∧
      Shown presets ((screen.drawAll w'.effects).drawAll before) w'.look := by
    by_cases hshowing : Page.isShowing w = true
    · refine ⟨_, _, rfl, rfl, ?_⟩
      rw [if_neg (by simpa using hshowing), if_neg (by simpa using hshowing)]
      exact h
    · refine ⟨_, _, rfl, rfl, ?_⟩
      rw [if_pos (by simpa using hshowing), if_pos (by simpa using hshowing)]
      exact (h.withPage []).of_eq (by simp) (by simp) (by simp)
  rw [hw', hbefore]
  split
  · exact .ok (showing_emit_iff.2 hshown)
  · refine delivered_emitLine say before ?_
    show Shown presets (((screen.drawAll w'.effects).drawAll before).draw say.effect) _
    rw [draw_effect_of_page say hvoice hnvl, hshown.page]
    exact (hshown.withPage (Page.lines w' ++ [say.line])).of_eq (by simp) (by simp) (by simp)

theorem delivers_displayAlone (say : Say) (hnvl : say.nvl = false) (keepPage : Bool) :
    Delivers presets screen (say.displayAlone keepPage) := by
  intro w h
  simp only [Say.displayAlone]
  split
  · refine delivered_emitLine say _ ?_
    rw [draw_effect_of_not_page say (Or.inr hnvl)]
    split
    · exact (h.withPage []).of_eq (by simp) (by simp) (by simp)
    · exact (h.withPage []).of_eq (by simp) (by simp) (by simp)
  · refine delivered_emitLine say _ ?_
    rw [draw_effect_of_not_page say (Or.inr hnvl)]
    exact h

theorem delivers_display (say : Say) (keepPage advance : Bool) :
    Delivers presets screen (say.display keepPage advance) := by
  unfold Say.display
  split
  · next hvoice =>
    intro w h
    refine delivered_emitLine say _ ?_
    rw [draw_effect_of_not_page say (Or.inl hvoice)]
    exact h
  · next hvoice =>
    split
    · next hnvl => exact delivers_displayOnPage say hvoice hnvl advance
    · next hnvl => exact delivers_displayAlone say (by simpa using hnvl) keepPage

theorem delivers_revertOnPage : Delivers presets screen Say.revertOnPage := by
  intro w h
  simp only [Say.revertOnPage]
  split
  · refine .ok ?_
    rw [showing_emit_iff]
    show Shown presets
      { screen.drawAll w.effects with page := (screen.drawAll w.effects).page.dropLast } _
    rw [h.page]
    exact (h.withPage (Page.lines w).dropLast).of_eq (by simp) (by simp) (by simp)
  · cases w.history.peek? Page.stack with
    | none => exact .error h
    | some value =>
      cases hpage : Line.pageOfJson? value with
      | none =>
        simp only [hpage]
        exact .error (h.of_eq rfl (by simp) (by simp) (by simp))
      | some lines =>
        simp only [hpage]
        refine .ok ?_
        rw [showing_emit_iff]
        exact (h.withPage lines).of_eq (by simp) (by simp) (by simp)

theorem draws_say (say : Say) : say.invocation.Draws presets screen where
  willApply := Lockstep.pure ()
  apply advance := delivers_display say true advance
  didApply _ := Lockstep.pure _
  willRevert := Lockstep.pure ()
  revert := by
    show Delivers presets screen (if say.nvl = true then Say.revertOnPage else _)
    split
    · exact delivers_revertOnPage
    · exact delivers_display say false true
  didRevert := Lockstep.pure _

/-! ## Statements and turns -/

/-- **Every built-in invocation draws what it changes.** -/
theorem Reads.draws {world : World} {statement : Statement} {invocation : Invocation}
    (h : Reads characters presets book world statement invocation) :
    invocation.Draws presets screen := by
  cases h with
  | jump filled kind => exact draws_jump _
  | next filled kind => exact draws_next
  | particles filled kind => exact draws_particles _ _ _
  | line filled kind said => exact draws_say _
  | menu field read => exact draws_menu _

/-- **Running a statement** that is no callback. -/
theorem showing_perform (statement : Statement) (hno : ∀ run, statement ≠ .callback run)
    (advance : Bool) : Lockstep (Invariant (Showing presets screen))
      (Run.perform book (builtinRegistry characters presets) statement advance) := by
  rintro w _ ⟨rfl, h⟩
  rw [perform_eq hno]
  cases hok : (builtinRegistry characters presets).invoke book w statement with
  | error fault => exact .error _ ⟨rfl, h⟩
  | ok invocation =>
    have hdraws : invocation.Draws presets screen := (reads_of_invoke hok).draws
    exact (hdraws.apply advance).lockstep hdraws.willApply (hdraws.didApply advance) ⟨rfl, h⟩

/-- **Undoing a statement.** -/
theorem showing_undo (statement : Statement) : Lockstep (Invariant (Showing presets screen))
    (Rewind.undo book (builtinRegistry characters presets) statement) := by
  rintro w _ ⟨rfl, h⟩
  rw [Rewind.undo]
  cases hok : (builtinRegistry characters presets).invoke book w statement with
  | error fault => exact .error _ ⟨rfl, h⟩
  | ok invocation =>
    have hdraws : invocation.Draws presets screen := (reads_of_invoke hok).draws
    exact hdraws.revert.lockstep hdraws.willRevert hdraws.didRevert ⟨rfl, h⟩

/-- **Every turn keeps the screen showing the world.** -/
theorem showing_steps (hbook : book.Callbackless) :
    Steps (Invariant (Showing presets screen)) book (builtinRegistry characters presets) where
  cursor _ _ h := congrArg World.cursor h.1
  moveTo := by
    rintro w _ ⟨rfl, h⟩ cursor
    exact ⟨rfl, h.of_eq rfl rfl rfl rfl⟩
  perform cursor statement hs advance :=
    showing_perform statement (fun run hrun => hbook cursor run (hrun ▸ hs)) advance
  undo := showing_undo
  origin := by
    rintro w _ ⟨rfl, -⟩
    rfl

/-- Closing the menu, with the effect that says so. -/
theorem Showing.pick {world : World} (h : Showing presets screen world) :
    Showing presets screen ((Choice.close world).emit [.hideChoices]) := by
  rw [showing_emit_iff]
  exact h.withoutMenu.of_eq (by simp) (by simp) (by simp)

theorem Showing.hide {world : World} (h : Showing presets screen world) :
    Showing presets screen (Choice.hide world) := by
  unfold Choice.hide
  split
  · exact h.pick
  · exact h

/-- Finishing the line that is typed draws nothing. -/
theorem Showing.finish {world : World} (h : Showing presets screen world) :
    Showing presets screen
      (if world.globals.finishedTyping then world else Dialog.finishTyping world) := by
  split
  · exact h
  · rw [Dialog.finishTyping, showing_emit_iff]
    exact h.of_eq rfl rfl rfl rfl

/-- **Every move of the player keeps the screen showing the world.** -/
theorem showing_moves (hbook : book.Callbackless) :
    Moves (Invariant (Showing presets screen)) book (builtinRegistry characters presets) where
  toSteps := showing_steps hbook
  playing := by
    rintro w _ ⟨rfl, h⟩
    exact ⟨rfl, h.of_eq rfl rfl rfl rfl⟩
  onStart action h := by
    rw [onStart_builtin h]
    exact Lockstep.pure ()
  gates := by
    rintro w _ ⟨rfl, -⟩
    rfl
  canProceed := by
    rintro w _ ⟨rfl, h⟩
    rw [askAll_canProceed]
    exact ⟨rfl, rfl, h.finish⟩
  canRevert := by
    rintro w _ ⟨rfl, h⟩
    rw [askAll_canRevert]
    exact ⟨rfl, rfl, h.hide.finish⟩
  offered := by
    rintro w _ ⟨rfl, -⟩
    rfl
  pick := by
    rintro w _ ⟨rfl, h⟩
    exact ⟨rfl, h.pick⟩
  picked _ _ _ _ _ statement hread :=
    showing_perform statement (Statement.ne_callback_of_ofJson? hread)

end Narrative
