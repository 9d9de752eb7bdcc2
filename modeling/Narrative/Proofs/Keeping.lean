import Narrative.Proofs.Calls
import Narrative.Proofs.Screen.Played

/-!
# Proofs/Keeping — what every call keeps

What running a statement of the built-in actions can come to is listed once (`Ran`), and so is what
undoing one can come to (`Undone`).  An invariant of worlds that both lists keep is carried through
all of going forward and back (`Carries`), and through every call of the host (`Carries.call`),
whatever the call returns.

The invariants may speak of the pending menu and of the statement at the cursor together.  So the
laws are asked for the statement at the cursor only, and the cursor moves only while no menu waits
(`Keeps`).  An invariant that says nothing of the menu has every world free to move.  Neither a text
that is run nor a statement that is undone opens a menu, so either way it is enough to look at the
world that is left (`Ran.kept`, `Undone.kept`).
-/

namespace Narrative

/-! ## What one statement comes to -/

/-- **What running a statement of a script can come to.** -/
inductive Ran (characters : Table Character) (presets : Fields Json) (book : Playbook)
    (world : World) (advance : Bool) : Statement → EStateM.Result Fault World Flow → Prop
  | unread {statement : Statement} (fault : Fault) :
      Ran characters presets book world advance statement (.error fault world)
  | refused {statement : Statement} (fault : Fault) (report : Report) :
      Ran characters presets book world advance statement (.error fault (world.report report))
  | jumped {line text target : String} (filled : book.substitute world line = .ok text)
      (kind : Kind.ofText text = .jump target) (label : book.hasLabel target = true) :
      Ran characters presets book world advance (.text line)
        (.ok .enter ((Jump.entered target world).emit [.clearText]))
  | passed {line text : String} (onward : advance = true)
      (filled : book.substitute world line = .ok text) (kind : Kind.ofText text = .next) :
      Ran characters presets book world advance (.text line) (.ok .advance world)
  | stepped {line text : String} (inPlace : advance = false)
      (filled : book.substitute world line = .ok text) (kind : Kind.ofText text = .next) :
      Ran characters presets book world advance (.text line) (.ok .enter (Next.step book world))
  | started {line text : String} {name : Option String} (effects : List Effect)
      (filled : book.substitute world line = .ok text)
      (kind : Kind.ofText text = .particles name)
      (defined : Fields.has presets (name.getD "") = true) :
      Ran characters presets book world advance (.text line)
        (.ok .advance ((Particles.started (Text.trim text) world).emit effects))
  | shown {line text first : String} {say : Say} {effects : List Effect} {after : World}
      (filled : book.substitute world line = .ok text) (kind : Kind.ofText text = .line first)
      (said : Dialog.say characters book world (.ofText (.text line) text) = .ok say)
      (shows : say.display true advance world = .ok effects after) :
      Ran characters presets book world advance (.text line) (.ok .wait (after.emit effects))
  | offered {fields options : Fields Json} {items : List (MenuItem × Condition)}
      (effects : List Effect)
      (field : (Fields.get? fields Choice.fieldName).bind Json.asFields? = some options)
      (read : Choice.readOptions book world options = .ok items) :
      Ran characters presets book world advance (.record fields)
        (.ok .wait ((world.withGlobals (·.set Choice.pendingKey
          (.arr ((Choice.visible world.storage items).map MenuItem.toJson)))).emit effects))

/-- **What undoing a statement of a script can come to.** -/
inductive Undone (characters : Table Character) (presets : Fields Json) (book : Playbook)
    (world : World) : Statement → EStateM.Result Fault World Flow → Prop
  | unread {statement : Statement} (fault : Fault) :
      Undone characters presets book world statement (.error fault world)
  | lost {line text target : String} {value : Json}
      (newest : world.history.peek? Jump.stack = some value)
      (unread : JumpEntry.ofJson? value = none) (filled : book.substitute world line = .ok text)
      (kind : Kind.ofText text = .jump target) :
      Undone characters presets book world (.text line)
        (.error .invalidScript (world.pop Jump.stack))
  | returned {line : String} {value : Json} {entry : JumpEntry} (effects : List Effect)
      (newest : world.history.peek? Jump.stack = some value)
      (read : JumpEntry.ofJson? value = some entry) {text target : String}
      (filled : book.substitute world line = .ok text) (kind : Kind.ofText text = .jump target) :
      Undone characters presets book world (.text line)
        (Jump.didRevert book ((Jump.returned ⟨entry.source, entry.step⟩ world).emit effects))
  | passed {line text : String} (filled : book.substitute world line = .ok text)
      (kind : Kind.ofText text = .next) :
      Undone characters presets book world (.text line) (.ok .advance world)
  | stopped {line text : String} {name : Option String} (previous : String) (effects : List Effect)
      (filled : book.substitute world line = .ok text)
      (kind : Kind.ofText text = .particles name)
      (before : ((Particles.previous? presets world).map Prod.fst).getD "" = previous) :
      Undone characters presets book world (.text line)
        (.ok .advance (((world.pop Particles.stack).setVar Particles.runningVar
          (.str previous)).emit effects))
  | shown {line text first : String} {say : Say} {result : EStateM.Result Fault World Flow}
      (filled : book.substitute world line = .ok text) (kind : Kind.ofText text = .line first)
      (said : Dialog.say characters book world (.ofText (.text line) text) = .ok say)
      (undoes : Rewind.stages say.invocation world = result) :
      Undone characters presets book world (.text line) result
  | closed {fields : Fields Json} :
      Undone characters presets book world (.record fields) (.ok .enter (Choice.hide world))

section Results

variable {characters : Table Character} {presets : Fields Json} {book : Playbook}
  {world other : World}

/-! Running an action that was read from a statement. -/

theorem ran_jump {line text target : String} (filled : book.substitute world line = .ok text)
    (kind : Kind.ofText text = .jump target) (advance : Bool) :
    Ran characters presets book world advance (.text line)
      (Run.stages (Jump.invocation book (.ofText (.text line) text)) advance world) := by
  have hword := @word?_of_jump (.text line) text target kind
  cases hlabel : book.hasLabel target with
  | false =>
    simp only [Run.stages, Jump.invocation, Jump.willApply, bind, EStateM.bind, hword, hlabel]
    exact .refused _ _
  | true =>
    simp only [Run.stages, Jump.invocation, Jump.willApply, bind, EStateM.bind, hword, hlabel,
      if_true]
    exact .jumped filled kind hlabel

theorem ran_particles {line text : String} {name : Option String}
    (filled : book.substitute world line = .ok text) (kind : Kind.ofText text = .particles name)
    (advance : Bool) :
    Ran characters presets book world advance (.text line)
      (Run.stages (Particles.invocation presets world (.ofText (.text line) text)) advance
        world) := by
  have hword := @word?_of_particles (.text line) text name kind
  cases hconfig : Fields.get? presets (name.getD "") with
  | none =>
    simp only [Run.stages, Particles.invocation, Particles.willApply, bind, EStateM.bind,
      Fields.has, hword, hconfig]
    exact .refused _ _
  | some config =>
    rw [stages_particles kind hconfig]
    exact .started _ filled kind (Option.isSome_iff_exists.2 ⟨config, hconfig⟩)

variable (presets) in
theorem ran_line {line text first : String} {say : Say}
    (filled : book.substitute world line = .ok text) (kind : Kind.ofText text = .line first)
    (said : Dialog.say characters book world (.ofText (.text line) text) = .ok say)
    (advance : Bool) :
    Ran characters presets book world advance (.text line)
      (Run.stages say.invocation advance world) := by
  obtain ⟨effects, after, hdisplay, -⟩ := display_ok presets say true advance world
  have hstages : Run.stages say.invocation advance world = .ok .wait (after.emit effects) := by
    show (say.display true advance >>= _) world = _
    exact Result.bind_eq_ok.2 ⟨effects, after, hdisplay, rfl⟩
  rw [hstages]
  exact .shown filled kind said hdisplay

/-- **Running a statement comes to one of these.** -/
theorem ran {statement : Statement} (hno : ∀ run, statement ≠ .callback run) (advance : Bool)
    (world : World) :
    Ran characters presets book world advance statement
      (Run.perform book (builtinRegistry characters presets) statement advance world) := by
  rw [perform_eq hno]
  cases hinvoke : (builtinRegistry characters presets).invoke book world statement with
  | error fault => exact .unread fault
  | ok invocation =>
    cases reads_of_invoke hinvoke with
    | jump filled kind => exact ran_jump filled kind advance
    | next filled kind =>
      cases advance with
      | true => exact .passed rfl filled kind
      | false => exact .stepped rfl filled kind
    | particles filled kind => exact ran_particles filled kind advance
    | line filled kind said => exact ran_line presets filled kind said advance
    | menu field read => exact .offered _ field read

/-! Undoing such an action. -/

theorem undone_jump {line text target : String} (filled : book.substitute world line = .ok text)
    (kind : Kind.ofText text = .jump target) :
    Undone characters presets book world (.text line)
      (Rewind.stages (Jump.invocation book (.ofText (.text line) text)) world) := by
  simp only [Rewind.stages, Jump.invocation, Jump.revert, bind, EStateM.bind, pure, EStateM.pure]
  cases hnewest : world.history.peek? Jump.stack with
  | none => exact .unread _
  | some value =>
    cases hread : JumpEntry.ofJson? value with
    | none =>
      simp only [hread]
      exact .lost hnewest hread filled kind
    | some entry =>
      simp only [hread]
      exact .returned [.clearText] hnewest hread filled kind

theorem undone_particles {line text : String} {name : Option String}
    (filled : book.substitute world line = .ok text) (kind : Kind.ofText text = .particles name) :
    Undone characters presets book world (.text line)
      (Rewind.stages (Particles.invocation presets world (.ofText (.text line) text)) world) := by
  simp only [Rewind.stages, Particles.invocation]
  cases hprevious : Particles.previous? presets world with
  | none => exact .stopped "" [.stopParticles] filled kind (by rw [hprevious]; rfl)
  | some previous =>
    exact .stopped previous.1 [.stopParticles, previous.2] filled kind (by rw [hprevious]; rfl)

theorem undone_menu {fields : Fields Json} (items : List (MenuItem × Condition)) :
    Undone characters presets book world (.record fields)
      (Rewind.stages (Choice.invocation items) world) := by
  have hstages : Rewind.stages (Choice.invocation items) world
      = .ok .enter (Choice.hide world) := by
    simp only [Rewind.stages, Choice.invocation, Choice.revert, Choice.hide, bind, EStateM.bind,
      pure, EStateM.pure]
    cases Choice.isPending world <;> rfl
  rw [hstages]
  exact .closed

/-- **Undoing a statement comes to one of these**, unless it is a callback. -/
theorem undone {statement : Statement} (hno : ∀ run, statement ≠ .callback run) (world : World) :
    Undone characters presets book world statement
      (Rewind.undo book (builtinRegistry characters presets) statement world) := by
  rw [Rewind.undo]
  cases hinvoke : (builtinRegistry characters presets).invoke book world statement with
  | error fault => exact .unread fault
  | ok invocation =>
    cases reads_of_invoke hinvoke with
    | jump filled kind => exact undone_jump filled kind
    | next filled kind => exact .passed filled kind
    | particles filled kind => exact undone_particles filled kind
    | line filled kind said => exact .shown filled kind said rfl
    | menu field read => exact undone_menu _

variable (book) in
/-- What undoing a jump does after moving back leaves the world alone. -/
theorem left_didRevert (world : World) : Result.left (Jump.didRevert book world) = world := by
  unfold Jump.didRevert
  cases (book.current? world).bind Statement.asText? with
  | none => rfl
  | some line =>
    simp only
    cases book.substitute world line <;> rfl

/-- **At the start of a label**, the statement to undo is the newest jump, which entered the label. -/
theorem target?_of_start {statement : Statement} {world : World}
    (h : Rewind.target? book (builtinRegistry characters presets) world = some statement)
    (hstart : world.cursor.step = 0) :
    ∃ entry, (world.history.peek? Jump.stack).bind JumpEntry.ofJson? = some entry
      ∧ entry.target = world.cursor.label ∧ statement = .text ("jump " ++ entry.target) := by
  rw [Rewind.target?, if_neg (by omega), origin?_builtin, Jump.revertOrigin,
    if_neg (not_not_intro hstart)] at h
  split at h
  · next entry hentry =>
    split at h
    · next hentered => exact ⟨entry, hentry, hentered, (Option.some.inj h).symm⟩
    · cases h
  · cases h

/-- **The statement to undo** stands in the script, or is a jump that leads out of the label. -/
theorem target?_cases {statement : Statement} {world : World}
    (h : Rewind.target? book (builtinRegistry characters presets) world = some statement) :
    (∃ cursor, book.statement? cursor = some statement)
      ∨ ∃ label, statement = .text ("jump " ++ label) := by
  obtain hstart | hstep := Nat.eq_zero_or_pos world.cursor.step
  · obtain ⟨entry, -, -, rfl⟩ := target?_of_start h hstart
    exact Or.inr ⟨_, rfl⟩
  · rw [Rewind.target?, if_pos (Nat.succ_le_of_lt hstep)] at h
    exact Or.inl ⟨_, h⟩

/-- So it is no callback where the script has none. -/
theorem target?_ne_callback {statement : Statement} {world : World} (hbook : book.Callbackless)
    (h : Rewind.target? book (builtinRegistry characters presets) world = some statement)
    (run : Play Unit) : statement ≠ .callback run := by
  rintro rfl
  obtain ⟨cursor, here⟩ | ⟨label, hjump⟩ := target?_cases h
  · exact hbook cursor run here
  · cases hjump

/-! What a line leaves alone, and who opens a menu. -/

/-- Showing a line changes what is on screen, and the stack of closed pages. -/
theorem state_of_display {say : Say} {keepPage advance : Bool} {effects : List Effect}
    (h : say.display keepPage advance world = .ok effects other) : other.state = world.state := by
  unfold Say.display at h
  split at h
  · obtain ⟨-, rfl⟩ := EStateM.Result.ok.inj h
    rfl
  split at h
  · have hopened : (if (!Page.isShowing world) = true then Page.display world [] else world).state
        = world.state := by split <;> rfl
    simp only [Say.displayOnPage] at h
    generalize (if (!Page.isShowing world) = true then Page.display world [] else world) = opened
      at hopened h
    split at h
    · obtain ⟨-, rfl⟩ := EStateM.Result.ok.inj h
      exact hopened
    · obtain ⟨-, rfl⟩ := EStateM.Result.ok.inj h
      exact hopened
  · simp only [Say.displayAlone] at h
    split at h
    · obtain ⟨-, rfl⟩ := EStateM.Result.ok.inj h
      cases keepPage <;> rfl
    · obtain ⟨-, rfl⟩ := EStateM.Result.ok.inj h
      rfl

/-- **What showing a line keeps**: the state, the place and the menu. -/
theorem kept_of_display {say : Say} {keepPage advance : Bool} {effects : List Effect}
    (h : say.display keepPage advance world = .ok effects other) :
    other.state = world.state ∧ other.place = world.place
      ∧ other.prompt.pending = world.prompt.pending := by
  obtain ⟨shown, after, hdisplay, hredrawn⟩ := display_ok [] say keepPage advance world
  obtain ⟨-, rfl⟩ := EStateM.Result.ok.inj (hdisplay.symm.trans h)
  exact ⟨state_of_display h, hredrawn.place, hredrawn.pending⟩

/-- So does taking a line off the page, whether or not it succeeds. -/
theorem kept_of_revertOnPage (world : World) :
    (Result.left (Say.revertOnPage world)).state = world.state
      ∧ (Result.left (Say.revertOnPage world)).place = world.place
      ∧ (Result.left (Say.revertOnPage world)).prompt.pending = world.prompt.pending := by
  unfold Say.revertOnPage
  split
  · exact ⟨rfl, rfl, congrArg Prompt.pending (prompt_setLines world _)⟩
  · cases world.history.peek? Page.stack with
    | none => exact ⟨rfl, rfl, rfl⟩
    | some value =>
      cases hread : Line.pageOfJson? value with
      | none =>
        simp only [hread]
        exact ⟨rfl, place_pop_page world, rfl⟩
      | some lines =>
        simp only [hread]
        exact ⟨rfl, place_pop_page world, congrArg Prompt.pending (prompt_display _ lines)⟩

/-- **Undoing a line keeps them, too.** -/
theorem kept_of_undone {say : Say} {result : EStateM.Result Fault World Flow}
    (h : Rewind.stages say.invocation world = result) :
    (Result.left result).state = world.state ∧ (Result.left result).place = world.place
      ∧ (Result.left result).prompt.pending = world.prompt.pending := by
  have hkept : (Result.left (say.invocation.revert world)).state = world.state
      ∧ (Result.left (say.invocation.revert world)).place = world.place
      ∧ (Result.left (say.invocation.revert world)).prompt.pending = world.prompt.pending := by
    by_cases hnvl : say.nvl = true
    · rw [show say.invocation.revert = Say.revertOnPage from if_pos hnvl]
      exact kept_of_revertOnPage world
    · obtain ⟨effects, after, hdisplay, -⟩ := display_ok [] say false true world
      rw [show say.invocation.revert = say.display false true from if_neg hnvl, hdisplay]
      exact kept_of_display hdisplay
  cases hrevert : say.invocation.revert world with
  | ok effects after =>
    rw [hrevert] at hkept
    obtain rfl := (stages_eq_didRevert rfl hrevert).symm.trans h
    exact hkept
  | error fault after =>
    rw [hrevert] at hkept
    obtain rfl := (stages_eq_error rfl hrevert).symm.trans h
    exact hkept

/-- **Running a text opens no menu.** -/
theorem pending_of_ran {line : String} {advance : Bool} {result : EStateM.Result Fault World Flow}
    (hran : Ran characters presets book world advance (.text line) result) :
    (Result.left result).prompt.pending = world.prompt.pending := by
  cases hran with
  | unread fault => rfl
  | refused fault report => rfl
  | @jumped line text target filled kind label =>
    exact congrArg Prompt.pending (prompt_entered target)
  | passed onward => rfl
  | stepped inPlace =>
    show (Next.step book world).prompt.pending = world.prompt.pending
    unfold Next.step
    split <;> rfl
  | @started line text name effects filled kind defined =>
    exact congrArg Prompt.pending (prompt_started (Text.trim text))
  | shown filled kind said shows => exact (kept_of_display shows).2.2

/-- **Undoing a statement opens no menu.** -/
theorem pending_of_undone {statement : Statement} {result : EStateM.Result Fault World Flow}
    (hundone : Undone characters presets book world statement result)
    (hpending : world.prompt.pending = none) : (Result.left result).prompt.pending = none := by
  cases hundone with
  | unread fault => exact hpending
  | lost newest unread => exact hpending
  | returned effects newest read =>
    rw [left_didRevert, prompt_emit, prompt_returned]
    exact hpending
  | passed => exact hpending
  | stopped previous effects filled kind before => exact hpending
  | shown filled kind said undoes => exact (kept_of_undone undoes).2.2.trans hpending
  | closed => exact pending_hide world

end Results

/-! ## Invariants -/

/-- **What is left of a statement that was run** has the invariant; and if the game goes on from
there, the world is free to move. -/
def KeptIf (I Free : World → Prop) : EStateM.Result Fault World Flow → Prop
  | .ok .wait after => I after
  | .ok _ after => I after ∧ Free after
  | .error _ after => I after

/-- **What is left of a statement that was undone**, once the cursor has moved back, has the
invariant, and the world is free to move; if undoing fails, once the cursor is back at the origin. -/
def KeptBackIf (I Free : World → Prop) (origin : Cursor) : EStateM.Result Fault World Flow → Prop
  | .ok _ after => I (Rewind.settle origin after) ∧ Free after
  | .error _ after => I (after.moveTo origin)

section Left

variable {I Free : World → Prop} {result : EStateM.Result Fault World Flow}

/-- It is enough that what is left has the invariant and is free to move. -/
theorem KeptIf.of_left (h : I (Result.left result)) (hfree : Free (Result.left result)) :
    KeptIf I Free result := by
  rcases result with ⟨_ | _ | _, after⟩ | ⟨fault, after⟩
  all_goals first
    | exact h
    | exact ⟨h, hfree⟩

/-- So it is going back, if the invariant survives a move of the cursor. -/
theorem KeptBackIf.of_left
    (hmove : ∀ ⦃world⦄, I world → Free world → ∀ cursor, I (world.moveTo cursor))
    (h : I (Result.left result)) (hfree : Free (Result.left result)) (origin : Cursor) :
    KeptBackIf I Free origin result := by
  cases result with
  | ok flow after =>
    refine ⟨?_, hfree⟩
    unfold Rewind.settle
    split
    · exact hmove h hfree _
    · exact h
  | error fault after => exact hmove h hfree _

end Left

/-- **What carries an invariant through all that a call may run**, where a world without a menu is
free to move, and others may be: the statement at the cursor, a step on, the statement to undo, and
what the host and the guards do. -/
structure Carries (I Free : World → Prop) (characters : Table Character) (presets : Fields Json)
    (book : Playbook) : Prop where
  /-- Running the statement at the cursor. -/
  perform : ∀ ⦃world statement⦄, I world → book.current? world = some statement → ∀ advance,
    KeptIf I Free (Run.perform book (builtinRegistry characters presets) statement advance world)
  /-- One step on. -/
  ahead : ∀ ⦃world⦄, I world → Free world →
    world.cursor.step < book.labelLength world.cursor.label →
      I (world.moveTo (world.cursor.atStep (world.cursor.step + 1)))
  /-- Undoing the statement to undo. -/
  undo : ∀ ⦃world statement⦄, I world → Free world →
    Rewind.target? book (builtinRegistry characters presets) world = some statement →
      KeptBackIf I Free world.cursor
        (Rewind.undo book (builtinRegistry characters presets) statement world)
  /-- Running the statement of an option that is offered, with the menu closed. -/
  picked : ∀ ⦃world⦄, I world → ∀ item ∈ Choice.offered world, ∀ statement,
    Statement.ofJson? item.action = some statement →
      KeptIf I Free (Run.perform book (builtinRegistry characters presets) statement false
        ((Choice.close world).emit [.hideChoices]))
  /-- Effects wait for the host. -/
  emit : ∀ ⦃world⦄, I world → ∀ effects, I (world.emit effects)
  /-- The menu is closed. -/
  close : ∀ ⦃world⦄, I world → I (Choice.close world)
  /-- A game begins. -/
  playing : ∀ ⦃world⦄, I world → I (world.withGlobals ({ · with playing := true }))
  /-- The text of the line is all there. -/
  finished : ∀ ⦃world⦄, I world → I (world.withGlobals ({ · with finishedTyping := true }))
  /-- Without a menu a world is free to move. -/
  unprompted : ∀ ⦃world⦄, world.prompt.pending = none → Free world := by intros; assumption
  /-- It stays so when it moves. -/
  moved : ∀ ⦃world⦄, Free world → ∀ cursor, Free (world.moveTo cursor) := by intros; assumption

/-- No menu waits. -/
def World.Unprompted (world : World) : Prop := world.prompt.pending = none

/-- What is left of a statement that was run, where the cursor moves only while no menu waits. -/
abbrev Kept (I : World → Prop) : EStateM.Result Fault World Flow → Prop :=
  KeptIf I World.Unprompted

/-- What is left of a statement that was undone, where the cursor moves only while no menu waits. -/
abbrev KeptBack (I : World → Prop) : Cursor → EStateM.Result Fault World Flow → Prop :=
  KeptBackIf I World.Unprompted

section Unprompted

variable {I : World → Prop} {characters : Table Character} {presets : Fields Json}
  {book : Playbook} {world : World} {statement : Statement} {advance : Bool}
  {result : EStateM.Result Fault World Flow}

/-- **A statement that was run** leaves no menu if the game goes on from it: a text opens none, and
after a record the game waits. -/
theorem Ran.kept (hran : Ran characters presets book world advance statement result)
    (htext : ∀ line, statement = .text line → world.prompt.pending = none)
    (hleft : I (Result.left result)) : Kept I result := by
  cases statement with
  | text line => exact .of_left hleft ((pending_of_ran hran).trans (htext line rfl))
  | record fields => cases hran <;> exact hleft
  | callback run => cases hran <;> exact hleft

/-- **A statement that was undone** leaves no menu. -/
theorem Undone.kept (hundone : Undone characters presets book world statement result)
    (hpending : world.prompt.pending = none)
    (hmove : ∀ ⦃world⦄, I world → world.prompt.pending = none → ∀ cursor, I (world.moveTo cursor))
    (hleft : I (Result.left result)) (origin : Cursor) : KeptBack I origin result :=
  .of_left hmove hleft (pending_of_undone hundone hpending) origin

end Unprompted

/-- **What keeps an invariant in all that a call may run**, where the cursor moves only while no
menu waits. -/
abbrev Keeps (I : World → Prop) : Table Character → Fields Json → Playbook → Prop :=
  Carries I World.Unprompted

namespace Carries

variable {I Free : World → Prop} {characters : Table Character} {presets : Fields Json}
  {book : Playbook} {world : World}

/-- One step on, or at the end of the label none. -/
theorem step (h : Carries I Free characters presets book) (hworld : I world)
    (hfree : Free world) : I (Next.step book world) ∧ Free (Next.step book world) := by
  unfold Next.step
  split
  · next hlt => exact ⟨h.ahead hworld hfree hlt, h.moved hfree _⟩
  · exact ⟨hworld, hfree⟩

/-- **A chain**, from a statement that is kept.  The induction is on what the chain may still
run. -/
theorem chain (h : Carries I Free characters presets book) (allowed : Nat) {statement : Statement}
    {advance : Bool} (hworld : I world)
    (hkept : KeptIf I Free
      (Run.perform book (builtinRegistry characters presets) statement advance world)) :
    I (Result.left (Run.chain book (builtinRegistry characters presets) allowed statement advance
      world)) := by
  induction allowed generalizing world statement advance with
  | zero => exact hworld
  | succ allowed ih =>
    have hcurrent : ∀ mid, I mid → I (Result.left (EStateM.bind (Run.current book) (fun next =>
        Run.chain book (builtinRegistry characters presets) allowed next true) mid)) := by
      intro mid hmid
      unfold EStateM.bind Run.current
      cases hnext : book.current? mid with
      | none => exact hmid
      | some next => exact ih hmid (h.perform hmid hnext true)
    show I (Result.left (EStateM.bind _ _ world))
    unfold EStateM.bind
    cases hperform : Run.perform book (builtinRegistry characters presets) statement advance world
      with
    | error fault after =>
      rw [hperform] at hkept
      exact hkept
    | ok flow mid =>
      rw [hperform] at hkept
      cases flow with
      | wait => exact hkept
      | enter => exact hcurrent mid hkept.1
      | advance =>
        cases advance with
        | false => exact hkept.1
        | true => exact hcurrent (Next.step book mid) (h.step hkept.1 hkept.2).1

/-- Running the statement at the cursor and what follows it. -/
theorem runHere (h : Carries I Free characters presets book) (advance : Bool) (hworld : I world) :
    I (Result.left (EStateM.bind (Run.current book)
      (fun statement => Run.run book (builtinRegistry characters presets) statement advance)
        world)) := by
  unfold EStateM.bind Run.current
  cases hnext : book.current? world with
  | none => exact hworld
  | some next => exact h.chain _ hworld (h.perform hworld hnext advance)

theorem runCurrent (h : Carries I Free characters presets book) (hworld : I world) :
    I (Result.left (Run.runCurrent book (builtinRegistry characters presets) world)) :=
  h.runHere true hworld

theorem runInPlace (h : Carries I Free characters presets book) (hworld : I world) :
    I (Result.left (Run.runInPlace book (builtinRegistry characters presets) world)) :=
  h.runHere false hworld

/-- **Going one step on**, where the world is free to. -/
theorem next (h : Carries I Free characters presets book) (hworld : I world)
    (hfree : Free world) :
    I (Result.left (Run.next book (builtinRegistry characters presets) world)) :=
  h.runHere true (h.step hworld hfree).1

/-- **Going back**, at most so many statements, where the world is free to. -/
theorem back (h : Carries I Free characters presets book) (allowed : Nat) (hworld : I world)
    (hfree : Free world) :
    I (Result.left (Rewind.back book (builtinRegistry characters presets) allowed world)) := by
  induction allowed generalizing world with
  | zero => exact hworld
  | succ allowed ih =>
    simp only [Rewind.back]
    cases htarget : Rewind.target? book (builtinRegistry characters presets) world with
    | none => exact h.runInPlace hworld
    | some statement =>
      have hkept := h.undo hworld hfree htarget
      cases hundo : Rewind.undo book (builtinRegistry characters presets) statement world with
      | error fault after =>
        rw [hundo] at hkept
        simp only [hundo, Steps.compensate_eq_left]
        exact h.runInPlace hkept
      | ok flow after =>
        rw [hundo] at hkept
        simp only [hundo]
        cases flow with
        | wait => exact hkept.1
        | enter => exact h.runInPlace hkept.1
        | advance =>
          refine ih hkept.1 ?_
          unfold Rewind.settle
          split
          · exact h.moved hkept.2 _
          · exact hkept.2

theorem revert (h : Carries I Free characters presets book) (hworld : I world)
    (hfree : Free world) :
    I (Result.left (Rewind.revert book (builtinRegistry characters presets) world)) :=
  h.back _ hworld hfree

/-! ## Calls -/

theorem finishTyping (h : Carries I Free characters presets book) (hworld : I world) :
    I (Dialog.finishTyping world) := h.emit (h.finished hworld) _

theorem readied (h : Carries I Free characters presets book) (hworld : I world) : I world.readied := by
  have hhidden : I (Choice.hide world) := by
    unfold Choice.hide
    split
    · exact h.emit (h.close hworld) _
    · exact hworld
  unfold World.readied
  split
  · exact hhidden
  · exact h.finishTyping hhidden

end Carries

section Calls

variable {I Free : World → Prop} {characters : Table Character} {presets : Fields Json}
  {game : Game}

/-- A computation on the world leaves the world that it leaves. -/
theorem world_left_ofPlay {α : Type} (play : Playbook → Registry → Play α) :
    (Result.left (Turn.ofPlay play game)).world
      = Result.left (play game.book game.registry game.world) := by
  unfold Turn.ofPlay
  cases play game.book game.registry game.world <;> rfl

/-- Continuing keeps the invariant: it goes one step on only while no menu waits. -/
theorem Carries.proceed (h : Carries I Free characters presets game.book)
    (hregistry : game.registry = builtinRegistry characters presets) (hworld : I game.world) :
    I (Result.left (Game.proceed game)).world := by
  by_cases hopen : game.world.globals.gatesOpen = true
  · have hask := canProceed_eq hregistry
    rw [if_pos hopen] at hask
    simp only [Game.proceed, bind, EStateM.bind, hask]
    cases htyped : game.world.globals.finishedTyping with
    | false =>
      simp only [Bool.and_false, Bool.false_eq_true, if_false]
      exact h.finishTyping hworld
    | true =>
      cases hpending : Choice.isPending game.world with
      | true => exact hworld
      | false =>
        have hnone : game.world.prompt.pending = none :=
          Option.isNone_iff_eq_none.1 (Option.isSome_eq_false_iff.1 hpending)
        simp only [Bool.not_false, Bool.and_self, if_true]
        rw [left_granted, Game.next, world_left_ofPlay, hregistry]
        exact h.next hworld (h.unprompted hnone)
  · rw [(moves_closed hopen).1]
    exact hworld

/-- Going back keeps the invariant: it closes the menu first. -/
theorem Carries.rollback (h : Carries I Free characters presets game.book)
    (hregistry : game.registry = builtinRegistry characters presets) (hworld : I game.world) :
    I (Result.left (Game.rollback game)).world := by
  by_cases hopen : game.world.globals.gatesOpen = true
  · obtain ⟨-, -, hprompt, -⟩ := readied_parts presets game.world
    rw [rollback_eq hregistry hopen, left_granted, Game.revert, world_left_ofPlay]
    show I (Result.left (Rewind.revert game.book game.registry game.world.readied))
    rw [hregistry]
    exact h.revert (h.readied hworld) (h.unprompted (congrArg Prompt.pending hprompt))
  · rw [(moves_closed hopen).2]
    exact hworld

/-- Picking keeps the invariant. -/
theorem Carries.select (h : Carries I Free characters presets game.book)
    (hregistry : game.registry = builtinRegistry characters presets) (hworld : I game.world)
    (key : String) : I (Result.left (Game.select key game)).world := by
  unfold Game.select
  cases hfind : (Choice.offered game.world).find? (·.key == key) with
  | none => exact hworld
  | some item =>
    have hclosed : I ((Choice.close game.world).emit [.hideChoices]) := h.emit (h.close hworld) _
    cases hread : Statement.ofJson? item.action with
    | none =>
      simp only [hread]
      exact hclosed
    | some statement =>
      simp only [hread]
      rw [Game.run, world_left_ofPlay]
      show I (Result.left (Run.run game.book game.registry statement false
        ((Choice.close game.world).emit [.hideChoices])))
      rw [hregistry]
      exact h.chain _ hclosed (h.picked hworld item (List.mem_of_find?_eq_some hfind) _ hread)

/-- **Every call keeps the invariant**, whatever it returns. -/
theorem Carries.call (h : Carries I Free characters presets game.book)
    (hregistry : game.registry = builtinRegistry characters presets) (hworld : I game.world)
    (call : Call) : I (call.left game).world := by
  cases call with
  | start =>
    show I (Result.left (Game.start game)).world
    rw [start_eq hregistry, Game.runCurrent, world_left_ofPlay]
    show I (Result.left (Run.runCurrent game.book game.registry _))
    rw [hregistry]
    exact h.runCurrent (h.playing hworld)
  | proceed => exact h.proceed hregistry hworld
  | rollback => exact h.rollback hregistry hworld
  | select key => exact h.select hregistry hworld key
  | finishTyping => exact h.finished hworld

/-- **A call changes the world only.** -/
theorem fixed_call (hregistry : game.registry = builtinRegistry characters presets) (call : Call) :
    (call.left game).fixed = game.fixed := by
  cases call with
  | start =>
    show (Result.left (Game.start game)).fixed = game.fixed
    rw [start_eq hregistry, Game.runCurrent, fixed_ofPlay]
    rfl
  | proceed => exact fixed_proceed
  | rollback =>
    show (Result.left (Game.rollback game)).fixed = game.fixed
    by_cases hopen : game.world.globals.gatesOpen = true
    · rw [rollback_eq hregistry hopen, left_granted, Game.revert, fixed_ofPlay]
      rfl
    · rw [(moves_closed hopen).2]
      rfl
  | select key =>
    show (Result.left (Game.select key game)).fixed = game.fixed
    unfold Game.select
    split
    · rfl
    · split
      · rfl
      · rw [Game.run, fixed_ofPlay]
        rfl
  | finishTyping => rfl

end Calls

end Narrative
