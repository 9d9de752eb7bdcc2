import Narrative.Proofs.Answers
import Narrative.Proofs.Defects
import Narrative.Proofs.Driven

/-!
# Proofs/OwnData — the actions read what they wrote

Nothing but the actions writes to the stacks and the globals, and each of them writes one form under
a name (`OnStack`, `InGlobals`).  So everything there is as it was written (`SelfWritten`) in every
game that is driven of a story, also after loading (`Driven.selfWritten`), and reads back.

That an entry cannot be read is therefore never the reason why going back fails, and it leaves one
reason why picking an option can: the statement that the script has under `Do`
(`written_reads_back`).
-/

namespace Narrative

/-! ## What the actions write -/

/-- **What the actions put on the stacks**, each in its written form. -/
inductive OnStack : String → Json → Prop
  | jump (entry : JumpEntry) : OnStack Jump.stack entry.toJson
  | label (target : String) : OnStack Jump.labelStack (.str target)
  | page (lines : List Line) : OnStack Page.stack (Line.pageToJson lines)
  | particles (statement : String) : OnStack Particles.stack (.str statement)

/-- **What the actions keep in the globals**, each in its written form. -/
inductive InGlobals : String → Json → Prop
  | showing (showing : Bool) : InGlobals Page.modeKey (.bool showing)
  | page (lines : List Line) : InGlobals Page.pageKey (Line.pageToJson lines)
  | menu (items : List MenuItem) : InGlobals Choice.pendingKey (.arr (items.map MenuItem.toJson))

/-- A value on the stack of jumps is a jump entry. -/
theorem OnStack.eq_jump {value : Json} (h : OnStack Jump.stack value) :
    ∃ entry : JumpEntry, value = entry.toJson := by
  generalize hstack : Jump.stack = stack at h
  cases h with
  | jump entry => exact ⟨entry, rfl⟩
  | label | page | particles => exact absurd hstack (by decide)

/-- A value on the stack of closed pages is a page. -/
theorem OnStack.eq_page {value : Json} (h : OnStack Page.stack value) :
    ∃ lines, value = Line.pageToJson lines := by
  generalize hstack : Page.stack = stack at h
  cases h with
  | page lines => exact ⟨lines, rfl⟩
  | jump | label | particles => exact absurd hstack (by decide)

/-- What is kept of the page is a page. -/
theorem InGlobals.eq_page {value : Json} (h : InGlobals Page.pageKey value) :
    ∃ lines, value = Line.pageToJson lines := by
  generalize hkey : Page.pageKey = key at h
  cases h with
  | page lines => exact ⟨lines, rfl⟩
  | showing | menu => exact absurd hkey (by decide)

/-- What is kept of a menu is a list of options. -/
theorem InGlobals.eq_menu {value : Json} (h : InGlobals Choice.pendingKey value) :
    ∃ items : List MenuItem, value = .arr (items.map MenuItem.toJson) := by
  generalize hkey : Choice.pendingKey = key at h
  cases h with
  | menu items => exact ⟨items, rfl⟩
  | showing | page => exact absurd hkey (by decide)

/-- **A world whose stacks and globals were written by the actions.** -/
structure World.SelfWritten (world : World) : Prop where
  /-- Every entry on a stack. -/
  onStack : ∀ stack, ∀ value ∈ world.history.entries stack, OnStack stack value
  /-- Every value in the globals. -/
  inGlobals : ∀ key value, world.globals.get? key = some value → InGlobals key value

namespace World.SelfWritten

variable {world other : World}

/-- Nothing on the stacks and nothing in the globals. -/
theorem of_empty (hstacks : ∀ stack, world.history.entries stack = [])
    (hglobals : ∀ key, world.globals.get? key = none) : world.SelfWritten where
  onStack stack value hvalue := by
    rw [hstacks] at hvalue
    cases hvalue
  inGlobals key value hvalue := by
    rw [hglobals] at hvalue
    cases hvalue

/-- The other parts of a world do not matter. -/
theorem of_eq (h : world.SelfWritten) (hhistory : other.history = world.history)
    (hvalues : other.globals.values = world.globals.values) : other.SelfWritten where
  onStack := hhistory ▸ h.onStack
  inGlobals key value hvalue := by
    have hsame : other.globals.get? key = world.globals.get? key :=
      congrArg (Table.get? · key) hvalues
    exact h.inGlobals key value (hsame ▸ hvalue)

theorem push (h : world.SelfWritten) {stack : String} {entry : Json}
    (hentry : OnStack stack entry) : (world.push stack entry).SelfWritten where
  onStack name value hvalue := by
    have hpush : value ∈ (world.history.push stack entry).entries name := hvalue
    rw [History.entries_push] at hpush
    split at hpush
    · next hname =>
      obtain rfl | hbefore := List.mem_cons.1 hpush
      · exact hname ▸ hentry
      · exact hname ▸ h.onStack stack value hbefore
    · exact h.onStack name value hpush
  inGlobals := h.inGlobals

theorem pop (h : world.SelfWritten) (stack : String) : (world.pop stack).SelfWritten where
  onStack name value hvalue := by
    have hpop : value ∈ (world.history.pop stack).entries name := hvalue
    rw [History.entries_pop] at hpop
    split at hpop
    · next hname => exact hname ▸ h.onStack stack value (List.mem_of_mem_tail hpop)
    · exact h.onStack name value hpop
  inGlobals := h.inGlobals

theorem set (h : world.SelfWritten) {key : String} {value : Json} (hvalue : InGlobals key value) :
    (world.withGlobals (·.set key value)).SelfWritten where
  onStack := h.onStack
  inGlobals name found hfound := by
    have hinsert : (world.globals.values.insert key value).get? name = some found := hfound
    rw [Table.get?_insert] at hinsert
    split at hinsert
    · next hname => exact hname ▸ Option.some.inj hinsert ▸ hvalue
    · exact h.inGlobals name found hinsert

theorem remove (h : world.SelfWritten) (key : String) :
    (world.withGlobals (·.remove key)).SelfWritten where
  onStack := h.onStack
  inGlobals name found hfound := by
    have herase : (world.globals.values.erase key).get? name = some found := hfound
    rw [Table.get?_erase] at herase
    split at herase
    · cases herase
    · exact h.inGlobals name found herase

theorem moveTo (h : world.SelfWritten) (cursor : Cursor) : (world.moveTo cursor).SelfWritten :=
  h.of_eq rfl rfl

theorem emit (h : world.SelfWritten) (effects : List Effect) : (world.emit effects).SelfWritten :=
  h.of_eq rfl rfl

/-! What the actions do to a world is made of these. -/

theorem leave (h : world.SelfWritten) : (Page.leave world).SelfWritten :=
  (h.set (.showing false)).remove Page.pageKey

theorem display (h : world.SelfWritten) (lines : List Line) :
    (Page.display world lines).SelfWritten :=
  (h.set (.showing true)).set (.page lines)

theorem entered (h : world.SelfWritten) (target : String) :
    (Jump.entered target world).SelfWritten :=
  ((h.push (.jump _)).moveTo _).leave.push (.label target)

theorem returned (h : world.SelfWritten) (back : Cursor) : (Jump.returned back world).SelfWritten :=
  (((h.pop Jump.stack).pop Jump.labelStack).moveTo back).leave

theorem started (h : world.SelfWritten) (statement : String) :
    (Particles.started statement world).SelfWritten :=
  (h.push (.particles statement)).of_eq rfl rfl

/-! ## Reading it -/

/-- **The newest jump reads back**, so the entry is never lost. -/
theorem jump (h : world.SelfWritten) {value : Json}
    (newest : world.history.peek? Jump.stack = some value) :
    ∃ entry : JumpEntry, JumpEntry.ofJson? value = some entry := by
  obtain ⟨entry, rfl⟩ := (h.onStack Jump.stack value (List.mem_of_head? newest)).eq_jump
  exact ⟨entry, JumpEntry.ofJson?_toJson entry⟩

/-- **The newest closed page reads back.** -/
theorem page (h : world.SelfWritten) {value : Json}
    (newest : world.history.peek? Page.stack = some value) :
    ∃ lines, Line.pageOfJson? value = some lines := by
  obtain ⟨lines, rfl⟩ := (h.onStack Page.stack value (List.mem_of_head? newest)).eq_page
  exact ⟨lines, Line.pageOfJson?_pageToJson lines⟩

/-- **What is kept of the page is the page that is read.** -/
theorem eq_lines (h : world.SelfWritten) {value : Json}
    (hvalue : world.globals.get? Page.pageKey = some value) :
    value = Line.pageToJson (Page.lines world) := by
  obtain ⟨lines, rfl⟩ := (h.inGlobals _ value hvalue).eq_page
  simp [Page.lines, hvalue]

/-- **What is kept of a menu is what it offers.** -/
theorem eq_offered (h : world.SelfWritten) {value : Json}
    (hvalue : world.globals.get? Choice.pendingKey = some value) :
    value = .arr ((Choice.offered world).map MenuItem.toJson) := by
  obtain ⟨items, rfl⟩ := (h.inGlobals _ value hvalue).eq_menu
  simp [Choice.offered, hvalue]

end World.SelfWritten

/-! ## Running and undoing -/

/-- A fault other than that of a value that cannot be read. -/
def Fault.Readable (fault : Fault) : Prop := fault ≠ .invalidScript

/-- **A computation that writes in the forms of the actions**, and never fails to read one. -/
abbrev Play.Literate {α : Type} (play : Play α) : Prop :=
  Lockstep (Invariant World.SelfWritten) play Fault.Readable

section Statements

variable {characters : Table Character} {presets : Fields Json} {book : Playbook} {world : World}
  {statement : Statement}

theorem readable_of_isOfStatement {fault : Fault} (h : fault.isOfStatement = true) :
    fault.Readable := by
  rintro rfl
  cases h

theorem literate_emit (effects : List Effect) : (Play.emit effects).Literate := by
  rintro w _ ⟨rfl, h⟩
  exact .ok () ⟨rfl, h.emit effects⟩

/-! ### Lines -/

theorem literate_emitLine (say : Say) (before : List Effect) : (say.emitLine before).Literate := by
  rintro w _ ⟨rfl, h⟩
  exact .ok _ ⟨rfl, h.of_eq rfl rfl⟩

theorem literate_displayOnPage (say : Say) (advance : Bool) :
    (say.displayOnPage advance).Literate := by
  rintro w _ ⟨rfl, h⟩
  simp only [Say.displayOnPage]
  have hopened : (if (!Page.isShowing w) = true then Page.display w [] else w).SelfWritten := by
    split
    · exact h.display []
    · exact h
  generalize (if (!Page.isShowing w) = true then Page.display w [] else w) = opened at *
  split
  · exact .ok _ ⟨rfl, hopened⟩
  · exact literate_emitLine say _ ⟨rfl, hopened.set (.page _)⟩

theorem literate_displayAlone (say : Say) (keepPage : Bool) :
    (say.displayAlone keepPage).Literate := by
  rintro w _ ⟨rfl, h⟩
  simp only [Say.displayAlone]
  split
  · split
    · exact literate_emitLine say _ ⟨rfl, (h.push (.page _)).leave⟩
    · exact literate_emitLine say _ ⟨rfl, h.leave⟩
  · exact literate_emitLine say _ ⟨rfl, h⟩

theorem literate_display (say : Say) (keepPage advance : Bool) :
    (say.display keepPage advance).Literate := by
  unfold Say.display
  split
  · exact literate_emitLine say []
  split
  · exact literate_displayOnPage say advance
  · exact literate_displayAlone say keepPage

/-- **Taking a line off the page** finds a page, if it finds anything. -/
theorem literate_revertOnPage : Say.revertOnPage.Literate := by
  rintro w _ ⟨rfl, h⟩
  simp only [Say.revertOnPage]
  split
  · exact .ok _ ⟨rfl, h.set (.page _)⟩
  · cases hnewest : w.history.peek? Page.stack with
    | none => exact .error _ ⟨rfl, h⟩ Fault.noConfusion
    | some value =>
      obtain ⟨lines, hread⟩ := h.page hnewest
      simp only [hread]
      exact .ok _ ⟨rfl, (h.pop Page.stack).display lines⟩

/-! ### Running -/

/-- **What running a statement leaves** is self-written. -/
theorem Ran.selfWritten {advance : Bool} {result : EStateM.Result Fault World Flow}
    (h : Ran characters presets book world advance statement result)
    (hworld : world.SelfWritten) : (Result.left result).SelfWritten := by
  cases h with
  | unread fault => exact hworld
  | refused fault report => exact hworld.of_eq rfl rfl
  | jumped filled kind label => exact (hworld.entered _).emit _
  | passed onward => exact hworld
  | stepped inPlace =>
    show (Next.step book world).SelfWritten
    unfold Next.step
    split
    · exact hworld.moveTo _
    · exact hworld
  | started effects filled kind defined => exact (hworld.started _).emit effects
  | @shown line text first say effects after filled kind said shows =>
    have hshown := (literate_display say true advance ⟨rfl, hworld⟩).left
    rw [shows] at hshown
    exact hshown.2.emit _
  | offered effects field read => exact (hworld.set (.menu _)).emit effects

/-- **Running a statement** fails with a fault of statements only. -/
theorem literate_perform (hno : ∀ run, statement ≠ .callback run) (advance : Bool) :
    (Run.perform book (builtinRegistry characters presets) statement advance).Literate :=
  lockstep_invariant (fun world hworld => (ran hno advance world).selfWritten hworld)
    fun _ _ _ hfault =>
      readable_of_isOfStatement (isOfStatement_of_perform hno (Result.eq_error hfault))

/-! ### Undoing -/

theorem literate_jump_revert : Jump.revert.Literate := by
  rintro w _ ⟨rfl, h⟩
  simp only [Jump.revert]
  cases hnewest : w.history.peek? Jump.stack with
  | none => exact .error _ ⟨rfl, h⟩ Fault.noConfusion
  | some value =>
    obtain ⟨entry, hread⟩ := h.jump hnewest
    simp only [hread]
    exact .ok _ ⟨rfl, h.returned _⟩

theorem literate_jump_didRevert : (Jump.didRevert book).Literate := by
  rintro w _ ⟨rfl, h⟩
  simp only [Jump.didRevert]
  cases (book.current? w).bind Statement.asText? with
  | none => exact .ok _ ⟨rfl, h⟩
  | some line =>
    cases filled : book.substitute w line with
    | error fault =>
      simp only [filled]
      exact .error fault ⟨rfl, h⟩
        (readable_of_isOfStatement (ofReading_of_substitute filled).isOfStatement)
    | ok text =>
      simp only [filled]
      exact .ok _ ⟨rfl, h⟩

theorem literate_particles_revert (previous : Option (String × Effect)) :
    (Particles.revert previous).Literate := by
  rintro w _ ⟨rfl, h⟩
  have hpopped := h.pop Particles.stack
  cases previous with
  | none => exact .ok _ ⟨rfl, hpopped.of_eq rfl rfl⟩
  | some previous => exact .ok _ ⟨rfl, hpopped.of_eq rfl rfl⟩

theorem literate_menu_revert : Choice.revert.Literate := by
  rintro w _ ⟨rfl, h⟩
  simp only [Choice.revert]
  split
  · exact .ok _ ⟨rfl, h.remove Choice.pendingKey⟩
  · exact .ok _ ⟨rfl, h⟩

/-- **What a statement was read as is undone.** -/
theorem literate_rewind {invocation : Invocation}
    (h : Reads characters presets book world statement invocation) :
    (Rewind.stages invocation).Literate := by
  cases h with
  | jump =>
    exact Play.lockstep_stages literate_emit (.pure _) literate_jump_revert
      literate_jump_didRevert
  | next => exact Play.lockstep_stages literate_emit (.pure _) (.pure _) (.pure _)
  | particles =>
    exact Play.lockstep_stages literate_emit (.pure _) (literate_particles_revert _)
      (.pure _)
  | @line _ _ _ say =>
    refine Play.lockstep_stages literate_emit (.pure _) ?_ (.pure _)
    show (if say.nvl then Say.revertOnPage else say.display false true).Literate
    split
    · exact literate_revertOnPage
    · exact literate_display say false true
  | menu =>
    exact Play.lockstep_stages literate_emit (.pure _) literate_menu_revert (.pure _)

/-- A statement that cannot be read fails with a fault of statements, or is a callback. -/
theorem readable_of_invoke {fault : Fault}
    (h : (builtinRegistry characters presets).invoke book world statement = .error fault) :
    fault.Readable := by
  cases statement with
  | callback run => exact Except.error.inj h ▸ Fault.noConfusion
  | _ => exact readable_of_isOfStatement (ofReading_of_invoke (by simp) h).isOfStatement

variable (characters presets book statement) in
/-- **Undoing a statement** never finds a value that it cannot read. -/
theorem literate_undo :
    (Rewind.undo book (builtinRegistry characters presets) statement).Literate := by
  rintro w _ ⟨rfl, h⟩
  rw [Rewind.undo]
  cases hinvoke : (builtinRegistry characters presets).invoke book w statement with
  | error fault => exact .error fault ⟨rfl, h⟩ (readable_of_invoke hinvoke)
  | ok invocation => exact literate_rewind (reads_of_invoke hinvoke) ⟨rfl, h⟩

/-! ### Going forward and back -/

variable (characters presets) in
/-- **Going forward and back** through a script. -/
theorem literate_steps (hbook : book.Callbackless) :
    Steps (Invariant World.SelfWritten) book (builtinRegistry characters presets)
      Fault.Readable where
  cursor _ _ hsame := congrArg World.cursor hsame.1
  moveTo := by
    rintro w _ ⟨rfl, h⟩ cursor
    exact ⟨rfl, h.moveTo cursor⟩
  perform cursor statement here :=
    literate_perform fun run hrun => hbook cursor run (hrun ▸ here)
  undo := literate_undo characters presets book
  origin := by
    rintro w _ ⟨rfl, -⟩
    rfl
  noStatement _ := Fault.noConfusion
  chainLimit _ _ := Fault.noConfusion

variable (characters presets) in
/-- **Whatever a call runs** leaves a world that is self-written. -/
theorem carries_selfWritten (hbook : book.Callbackless) :
    Carries World.SelfWritten (fun _ => True) characters presets book where
  perform world _ hworld here advance :=
    .of_left ((ran (fun run hrun => hbook _ run (hrun ▸ here)) advance world).selfWritten hworld)
      trivial
  ahead _ hworld _ _ := hworld.moveTo _
  undo _ statement hworld _ _ :=
    .of_left (fun _ hleft _ cursor => hleft.moveTo cursor)
      (literate_undo characters presets book statement ⟨rfl, hworld⟩).left.2 trivial _
  picked _ hworld _ _ _ hread :=
    .of_left ((ran (Statement.ne_callback_of_ofJson? hread) false _).selfWritten
      ((hworld.remove Choice.pendingKey).emit _)) trivial
  emit _ hworld effects := hworld.emit effects
  close _ hworld := hworld.remove Choice.pendingKey
  playing _ hworld := hworld.of_eq rfl rfl
  finished _ hworld := hworld.of_eq rfl rfl
  unprompted _ _ := trivial
  moved _ _ _ := trivial

end Statements

/-! ## Driven games -/

section Driven

variable {story : Story} {languages : String → Prop} {game saved : Game}

/-- A driven game has the actions and a book of its story, and a slot can hold it. -/
theorem Driven.lasts_true (h : Driven story languages game) :
    game.Lasts story languages fun _ => True :=
  h.lasts (fun _ _ => ⟨fun _ _ _ _ => trivial, fun _ _ _ _ => trivial, fun _ _ => trivial,
    fun _ _ _ _ => trivial⟩) trivial

/-- What is driven is carried along by every statement of its book. -/
theorem Driven.carries_selfWritten (h : Driven story languages game) :
    Carries World.SelfWritten (fun _ => True) story.characters story.particles game.book :=
  Narrative.carries_selfWritten _ _ h.lasts_true.book.callbackless

/-- The world of a new game has nothing on its stacks and nothing in its globals. -/
theorem selfWritten_setup {fresh ready : Game} {preferences : Preferences}
    (made : story.gameWith? story.registry = some fresh)
    (setUp : Game.setup (fresh.withPreferences preferences) = .ok () ready) :
    ready.world.SelfWritten := by
  obtain ⟨script, hscript, rfl⟩ := Option.map_eq_some_iff.1 made
  rw [setup_eq rfl] at setUp
  obtain rfl := (EStateM.Result.ok.inj setUp).2
  refine .of_empty (fun stack => ?_) fun key => rfl
  show ((((History.empty.create Jump.labelStack).create Jump.stack).create
    Particles.stack).create Page.stack).entries stack = []
  simp only [History.entries_create]
  rfl

/-- So has the world of a game that begins again, but for the page that does not show. -/
theorem selfWritten_blankWorld (game : Game) : game.blankWorld.SelfWritten := by
  have hclear : game.clear.world.SelfWritten :=
    .of_empty (History.entries_clear game.world.history) fun key => rfl
  have hclosed : (Choice.close (Particles.clear game.clear.world)).SelfWritten :=
    (hclear.of_eq rfl rfl : (Particles.clear game.clear.world).SelfWritten).remove _
  exact hclosed.leave.of_eq rfl rfl

/-- **A slot merged over a new game** has the stacks that were saved. -/
theorem selfWritten_restored {slot : SaveSlot} (hsaved : saved.world.SelfWritten)
    (hhistory : slot.snapshot.history = saved.world.history) :
    (game.restored slot).world.SelfWritten where
  onStack stack value hvalue := by
    have hentries : (game.restored slot).world.history.entries stack
        = saved.world.history.entries stack :=
      hhistory ▸ History.entries_merge_clear game.world.history _ stack
    exact hsaved.onStack stack value (hentries ▸ hvalue)
  inGlobals := (selfWritten_blankWorld game.setPlaying).inGlobals

/-- **Every game that is driven of a story is self-written**, whatever its calls returned.  The
induction is on how the game was reached. -/
theorem Driven.selfWritten (h : Driven story languages game) : game.world.SelfWritten := by
  induction h with
  | setup preferences spoken made setUp => exact selfWritten_setup made setUp
  | call driven call ih => exact driven.carries_selfWritten.call driven.lasts_true.registry ih call
  | next driven ih =>
    rw [Game.next, world_left_ofPlay, driven.lasts_true.registry]
    exact driven.carries_selfWritten.next ih trivial
  | revert driven ih =>
    rw [Game.revert, world_left_ofPlay, driven.lasts_true.registry]
    exact driven.carries_selfWritten.revert ih trivial
  | autoPlay driven enable now ih => exact ih
  | @tick game driven now ih =>
    obtain ⟨timer, htick⟩ := left_tick now game
    rw [htick]
    split
    · exact driven.carries_selfWritten.call driven.lasts_true.registry ih .proceed
    · exact ih
  | @reset game driven ih =>
    rw [reset_eq driven.lasts_true.registry]
    exact selfWritten_blankWorld game
  | @load _ _ _ _ slot game saved driven other state history stored ih ihother =>
    have hlasts := driven.lasts_true
    rw [loadFromSlot_of_stored hlasts.registry (state ▸ other.lasts_true.storable) stored,
      Game.runCurrent, world_left_ofPlay]
    have hrestored : (game.restored slot).world.SelfWritten :=
      selfWritten_restored ihother history
    show (Result.left (Run.runCurrent game.book game.registry _)).SelfWritten
    rw [hlasts.registry]
    exact driven.carries_selfWritten.runCurrent (hrestored.emit _)
  | drain driven ih => exact ih.of_eq rfl rfl

/-! ## Going back and picking -/

/-- Going forward and back in a driven game never finds a value that cannot be read. -/
theorem Driven.literate_steps (h : Driven story languages game) :
    Steps (Invariant World.SelfWritten) game.book game.registry Fault.Readable := by
  rw [h.lasts_true.registry]
  exact Narrative.literate_steps _ _ h.lasts_true.book.callbackless

/-- **Going back never fails for an entry that cannot be read**, past the guards. -/
theorem Driven.readable_revert (h : Driven story languages game) :
    Result.fault? (Game.revert game) ≠ some .invalidScript := by
  have halong : Along game (Invariant World.SelfWritten) game game :=
    ⟨rfl, rfl, rfl, h.selfWritten⟩
  exact fun hfault =>
    (lockstep_ofPlay h.literate_steps.revert halong).raised hfault rfl

/-- **So it is behind the guards.** -/
theorem Driven.readable_rollback (h : Driven story languages game) :
    Result.fault? (Game.rollback game) ≠ some .invalidScript := by
  intro hfault
  by_cases hopen : game.world.globals.gatesOpen = true
  · have hready : game.world.readied.SelfWritten := h.carries_selfWritten.readied h.selfWritten
    have halong : Along game (Invariant World.SelfWritten) { game with world := game.world.readied }
        { game with world := game.world.readied } := ⟨rfl, rfl, rfl, hready⟩
    rw [rollback_eq h.lasts_true.registry hopen] at hfault
    exact (lockstep_granted (lockstep_ofPlay h.literate_steps.revert) halong).raised hfault rfl
  · rw [(moves_closed hopen).2] at hfault
    cases hfault

/-- **Answering with an option fails for a value that cannot be read** only when that is the
statement of the option. -/
theorem Driven.readable_answer (h : Driven story languages game) {item : MenuItem}
    {statement : Statement} (hread : Statement.ofJson? item.action = some statement) :
    Result.fault? (item.answer game) ≠ some .invalidScript := by
  intro hfault
  have hclosed : ((Choice.close game.world).emit [.hideChoices]).SelfWritten :=
    (h.selfWritten.remove Choice.pendingKey).emit _
  have halong : Along game (Invariant World.SelfWritten)
      (game.withWorld fun world => (Choice.close world).emit [.hideChoices])
      (game.withWorld fun world => (Choice.close world).emit [.hideChoices]) :=
    ⟨rfl, rfl, rfl, hclosed⟩
  have hperform : ∀ advance,
      (Run.perform game.book game.registry statement advance).Literate := by
    rw [h.lasts_true.registry]
    exact literate_perform (Statement.ne_callback_of_ofJson? hread)
  rw [MenuItem.answer, hread] at hfault
  exact (lockstep_ofPlay (h.literate_steps.run statement hperform false) halong).raised hfault rfl

end Driven

/-- **A game in which everything that the actions keep reads back**, and in which neither going back
nor picking an option fails for such a value. -/
structure Game.ReadsBack (game : Game) : Prop where
  /-- Nothing else was written to the stacks and the globals. -/
  written : game.world.SelfWritten
  /-- Every entry of a jump. -/
  jumps : ∀ value ∈ game.world.history.entries Jump.stack,
    ∃ entry : JumpEntry, value = entry.toJson ∧ JumpEntry.ofJson? value = some entry
  /-- Every closed page. -/
  pages : ∀ value ∈ game.world.history.entries Page.stack,
    ∃ lines, value = Line.pageToJson lines ∧ Line.pageOfJson? value = some lines
  /-- The page that shows. -/
  page : ∀ value, game.world.globals.get? Page.pageKey = some value →
    Line.pageOfJson? value = some (Page.lines game.world)
  /-- The menu that waits. -/
  menu : ∀ value, game.world.globals.get? Choice.pendingKey = some value →
    Json.listOf MenuItem.ofJson? value = some (Choice.offered game.world)
  /-- Going back past the guards. -/
  revert : Result.fault? (Game.revert game) ≠ some .invalidScript
  /-- Going back. -/
  rollback : Result.fault? (Game.rollback game) ≠ some .invalidScript
  /-- Picking what is offered answers with it, and fails for a value only if it is its statement. -/
  select : ∀ item ∈ Choice.offered game.world, ∃ found,
    Choice.picked? game.world item.key = some found
      ∧ Game.select item.key game = found.answer game
      ∧ ∀ statement, Statement.ofJson? found.action = some statement →
        Result.fault? (Game.select item.key game) ≠ some .invalidScript

/-- **Every game that is driven of a story reads back.** -/
theorem Driven.readsBack {story : Story} {languages : String → Prop} {game : Game}
    (h : Driven story languages game) : game.ReadsBack where
  written := h.selfWritten
  jumps value hvalue := by
    obtain ⟨entry, rfl⟩ := (h.selfWritten.onStack Jump.stack value hvalue).eq_jump
    exact ⟨entry, rfl, JumpEntry.ofJson?_toJson entry⟩
  pages value hvalue := by
    obtain ⟨lines, rfl⟩ := (h.selfWritten.onStack Page.stack value hvalue).eq_page
    exact ⟨lines, rfl, Line.pageOfJson?_pageToJson lines⟩
  page value hvalue := by
    rw [h.selfWritten.eq_lines hvalue]
    exact Line.pageOfJson?_pageToJson _
  menu value hvalue := by
    rw [h.selfWritten.eq_offered hvalue]
    exact MenuItem.listOf_map_toJson _
  revert := h.readable_revert
  rollback := h.readable_rollback
  select item hitem := by
    have hsome : (Choice.picked? game.world item.key).isSome = true :=
      List.find?_isSome.2 ⟨item, hitem, beq_self_eq_true item.key⟩
    obtain ⟨found, hfound⟩ := Option.isSome_iff_exists.1 hsome
    have hselect : Game.select item.key game = found.answer game := select_of_picked hfound
    refine ⟨found, hfound, hselect, fun statement hread => ?_⟩
    rw [hselect]
    exact h.readable_answer hread

/-! ## What is kept at each step -/

section Kept

variable (world : World)

/-- **A page that is closed** is kept line by line. -/
theorem page_of_displayAlone (say : Say) (hshowing : Page.isShowing world = true) :
    ((Result.left (say.displayAlone true world)).history.peek? Page.stack).bind Line.pageOfJson?
      = some (Page.lines world) := by
  have hleft : (Result.left (say.displayAlone true world)).history
      = world.history.push Page.stack (Line.pageToJson (Page.lines world)) := by
    simp only [Say.displayAlone, hshowing, if_true]
    rfl
  simp [hleft, History.peek?]

/-- **A jump** is kept with where it came from. -/
theorem entry_of_apply (target : String) :
    ((Result.left (Jump.apply target world)).history.peek? Jump.stack).bind JumpEntry.ofJson?
      = some ⟨world.cursor.label, target, world.cursor.step⟩ := by
  have hleft : (Result.left (Jump.apply target world)).history
      = (world.history.push Jump.stack
          (JumpEntry.toJson ⟨world.cursor.label, target, world.cursor.step⟩)).push
        Jump.labelStack (.str target) := rfl
  have hne : Jump.stack ≠ Jump.labelStack := by decide
  simp [hleft, History.peek?, hne]

/-- **A menu** offers the options that it was opened with, in order. -/
theorem offered_of_apply (options : List (MenuItem × Condition)) :
    Choice.offered (Result.left (Choice.apply options world))
      = Choice.visible world.storage options := by
  have hpending : (Result.left (Choice.apply options world)).globals.get? Choice.pendingKey
      = some (.arr ((Choice.visible world.storage options).map MenuItem.toJson)) := by
    simp [Choice.apply, Result.left, World.withGlobals, Globals.get?, Globals.set]
  simp [Choice.offered, hpending]

end Kept

/-- **Whatever is written reads back.**  Every effect does, with whatever values it carries; so do
pages, jump entries and menus, as they are kept when a page is put up or closed, a jump is made and
a menu is opened.  And in every game that is driven of a story, whatever its calls returned, all
that is on the stacks and in the globals was written so, so that going back and picking an option
never fail for it. -/
theorem written_reads_back :
    (∀ effect : Effect, Effect.ofJson? effect.toJson = some effect)
      ∧ (∀ lines, Line.pageOfJson? (Line.pageToJson lines) = some lines
        ∧ ∀ world, Page.lines (Page.setLines world lines) = lines)
      ∧ (∀ (say : Say) (world : World), Page.isShowing world = true →
        ((Result.left (say.displayAlone true world)).history.peek? Page.stack).bind
          Line.pageOfJson? = some (Page.lines world))
      ∧ (∀ entry : JumpEntry, JumpEntry.ofJson? entry.toJson = some entry)
      ∧ (∀ target world,
        ((Result.left (Jump.apply target world)).history.peek? Jump.stack).bind JumpEntry.ofJson?
          = some ⟨world.cursor.label, target, world.cursor.step⟩)
      ∧ (∀ items : List MenuItem,
        Json.listOf MenuItem.ofJson? (.arr (items.map MenuItem.toJson)) = some items)
      ∧ (∀ options world, Choice.offered (Result.left (Choice.apply options world))
        = Choice.visible world.storage options)
      ∧ ∀ {story : Story} {languages : String → Prop} {game : Game},
        Driven story languages game → game.ReadsBack :=
  ⟨Effect.ofJson?_toJson,
    fun lines => ⟨Line.pageOfJson?_pageToJson lines, fun world => by
      simp [Page.lines, Page.setLines, World.withGlobals, Globals.get?, Globals.set]⟩,
    fun say world => page_of_displayAlone world say, JumpEntry.ofJson?_toJson,
    fun target world => entry_of_apply world target, MenuItem.listOf_map_toJson,
    fun options world => offered_of_apply world options, Driven.readsBack⟩

/-! ## An evening at the inn -/

/-- A story with a page, a jump, and a menu whose option has nothing to run. -/
def duskStory : Story :=
  { script := .obj
      [("Start", .arr [.str "nvl It is late.", .str "It rains.", .str "jump Inn"]),
        ("Inn", .arr [.obj [("Choice", .obj [("stay", .obj [("Do", .null)])])]])]
    characters := Table.empty
    particles := []
    storage := []
    settings := { typeAnimation := false } }

/-- The story, set up. -/
def duskReady : Game :=
  Result.left (Game.setup (((duskStory.gameWith? duskStory.registry).get
    (by decide +kernel)).withPreferences {}))

/-- The game at its menu. -/
def duskMenu : Game := Call.proceed.left (Call.proceed.left (Call.start.left duskReady))

/-- **The theorem about the menu at the inn**, behind a page that was closed and a jump that was
made.  Its option has a null statement and is offered all the same; that statement, and nothing that
the actions wrote, is what picking it fails for. -/
theorem written_reads_back_dusk :
    Driven duskStory (fun _ => True) duskMenu
      ∧ duskMenu.ReadsBack
      ∧ ((duskMenu.world.history.peek? Page.stack).bind Line.pageOfJson?)
        = some [⟨none, "It is late."⟩]
      ∧ ((duskMenu.world.history.peek? Jump.stack).bind JumpEntry.ofJson?)
        = some ⟨"Start", "Inn", 2⟩
      ∧ (Choice.offered duskMenu.world).map (·.key) = ["stay"]
      ∧ Result.fault? (Game.select "stay" duskMenu) = some .invalidScript := by
  have hdriven : Driven duskStory (fun _ => True) duskMenu :=
    (((Driven.setup {} trivial (Option.some_get _).symm (setup_ok_left rfl)).call .start).call
      .proceed).call .proceed
  obtain ⟨-, -, -, -, -, -, -, hreads⟩ := written_reads_back
  exact ⟨hdriven, hreads hdriven, by decide +kernel, by decide +kernel, by decide +kernel,
    by decide +kernel⟩

end Narrative
