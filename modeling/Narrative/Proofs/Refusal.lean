import Narrative.Proofs.Calls

/-!
# Proofs/Refusal — going back that is refused at once

A statement may refuse to be undone: a callback always does, a jump does when none was made, and a
line for the page does when its page is gone.  When the statement before the one that a game rests
on refuses, going back changes nothing that is saved: the statement that the game rests on is run
again where it is.

It is otherwise when statements were undone before one refuses.  They stay undone, and only the
cursor is put back to where the last attempt began.
-/

namespace Narrative

/-- **A statement that refuses to be undone** in a world: it fails and changes nothing. -/
def Refuses (book : Playbook) (registry : Registry) (statement : Statement) (world : World) :
    Prop :=
  ∃ fault, Rewind.undo book registry statement world = .error fault world

section Refusals

variable {characters : Table Character} {presets : Fields Json} {book : Playbook} {world : World}

/-- A callback is never undone. -/
theorem refuses_callback (registry : Registry) (run : Play Unit) :
    Refuses book registry (.callback run) world := ⟨.irreversible world.cursor, rfl⟩

/-- A jump is not undone when none was made. -/
theorem refuses_jump {line text target : String} (filled : book.substitute world line = .ok text)
    (kind : Kind.ofText text = .jump target) (hjumps : world.jumps = 0) :
    Refuses book (builtinRegistry characters presets) (.text line) world := by
  have hpeek : world.history.peek? Jump.stack = none := by
    rw [History.peek?, List.head?_eq_none_iff]
    exact List.eq_nil_of_length_eq_zero hjumps
  have hinvoke : (builtinRegistry characters presets).invoke book world (.text line)
      = .ok (Jump.invocation book (.ofText (.text line) text)) := by
    rw [invoke_text filled, kind]
  have hrevert : Jump.revert world = .error (.rejected "no jump to revert") world := by
    simp only [Jump.revert, hpeek]
  exact ⟨_, undo_eq_error hinvoke rfl hrevert⟩

/-- A line for the page is not undone when its page is gone and none was closed. -/
theorem refuses_line {line text first : String} {say : Say}
    (filled : book.substitute world line = .ok text) (kind : Kind.ofText text = .line first)
    (said : Dialog.say characters book world (.ofText (.text line) text) = .ok say)
    (hnone : say.unshown? world.sheet = none) (hclosed : world.sheet.closed = []) :
    Refuses book (builtinRegistry characters presets) (.text line) world := by
  have hinvoke : (builtinRegistry characters presets).invoke book world (.text line)
      = .ok say.invocation := by
    rw [invoke_text filled, kind]
    simp only [said]
    rfl
  exact ⟨_, undo_eq_error hinvoke rfl (revert_line_error hnone hclosed)⟩

end Refusals

section Rollbacks

variable {characters : Table Character} {presets : Fields Json} {book : Playbook} {world : World}
  {game : Game} {stop : Stop} {statement : Statement}

/-- **A revert that is refused at once** leaves the snapshot as it was. -/
theorem revert_refused (hat : StopAt characters book world stop)
    (hkept : (stop.shown false world.sheet).closed = world.sheet.closed)
    (htarget : Rewind.target? book (builtinRegistry characters presets) world = some statement)
    (hrefuses : Refuses book (builtinRegistry characters presets) statement world) :
    ∃ fault after, Rewind.revert book (builtinRegistry characters presets) world
        = .error fault after ∧ after.snapshot = world.snapshot := by
  obtain ⟨fault, hundo⟩ := hrefuses
  cases hchain : book.settings.maxChain with
  | zero => exact ⟨_, world, by rw [Rewind.revert, hchain, Rewind.back], rfl⟩
  | succ allowed =>
    obtain ⟨after, hrun, landed⟩ := hat.runInPlace presets (hchain ▸ Nat.succ_pos allowed)
    refine ⟨fault, after, ?_, landed.saved hkept⟩
    have hcompensate : Rewind.compensate book (builtinRegistry characters presets) world.cursor
        world = after := by
      have hstay : world.moveTo world.cursor = world := rfl
      rw [Rewind.compensate, hstay, hrun]
    rw [Rewind.revert, hchain]
    simp only [Rewind.back, htarget, hundo, hcompensate]

/-- Readying a world changes nothing that is saved. -/
theorem snapshot_readied (world : World) : world.readied.snapshot = world.snapshot := by
  have hhide : (Choice.hide world).snapshot = world.snapshot := by
    unfold Choice.hide
    split <;> rfl
  unfold World.readied
  split
  · exact hhide
  · exact hhide

/-- The statement to undo depends on what is saved only. -/
theorem target?_readied :
    Rewind.target? book (builtinRegistry characters presets) world.readied
      = Rewind.target? book (builtinRegistry characters presets) world := by
  have hcursor : world.readied.cursor = world.cursor :=
    congrArg (fun snapshot : Snapshot => snapshot.state.cursor) (snapshot_readied world)
  have hhistory : world.readied.history = world.history :=
    congrArg Snapshot.history (snapshot_readied world)
  rw [Rewind.target?, Rewind.target?, origin?_builtin, origin?_builtin, Jump.revertOrigin,
    Jump.revertOrigin, hcursor, hhistory]

/-- The text before the cursor is the statement to undo. -/
theorem target?_of_kindAt? {registry : Registry} {step : Nat} {kind : Kind}
    (hstep : world.cursor.step = step + 1)
    (hkind : kindAt? book world (world.cursor.atStep step) = some kind) :
    ∃ line text, Rewind.target? book registry world = some (.text line)
      ∧ book.substitute world line = .ok text ∧ Kind.ofText text = kind := by
  obtain ⟨line, text, here, filled, hkind⟩ := statement_of_kindAt? hkind
  refine ⟨line, text, ?_, filled, hkind⟩
  rw [Rewind.target?, if_pos (by omega), hstep]
  exact here

/-- **A way back that is refused at once changes nothing that is saved.** -/
theorem rollback_refused (hregistry : game.registry = builtinRegistry characters presets)
    (hat : StopAt characters game.book game.world stop)
    (hpage : ∀ say, lineAt? characters game.book game.world = some say → say.nvl = false →
      say.voice ≠ .centered → Page.isShowing game.world = false)
    (htarget : Rewind.target? game.book game.registry game.world = some statement)
    (hrefuses : Refuses game.book game.registry statement game.world.readied) :
    Result.answer? (Game.rollback game) ≠ some true
      ∧ (Result.left (Game.rollback game)).snapshot = game.snapshot := by
  by_cases hopen : game.world.globals.gatesOpen = true
  · obtain ⟨hplace, hsheet, -, -⟩ := readied_parts presets game.world
    rw [hregistry] at htarget hrefuses
    rw [← target?_readied] at htarget
    have hkept : (stop.shown false game.world.readied.sheet).closed
        = game.world.readied.sheet.closed := by
      rw [hsheet]
      refine stop.closed_shown false fun say hsay hnvl hvoice => hpage say ?_ hnvl hvoice
      rw [hat.lineAt?_eq, hsay]
      rfl
    obtain ⟨fault, after, hrevert, hsame⟩ :=
      revert_refused (hat.of_place hplace) hkept htarget hrefuses
    have hturn : Game.revert { game with world := game.world.readied }
        = .error fault { game with world := after } := by
      simp only [Game.revert, Turn.ofPlay, hregistry, hrevert]
    have hsnapshot : after.snapshot = game.snapshot := hsame.trans (snapshot_readied game.world)
    rw [rollback_eq hregistry hopen, Turn.granted, hturn]
    simp only
    split
    · exact ⟨by simp [Result.answer?], hsnapshot⟩
    · exact ⟨by simp [Result.answer?], hsnapshot⟩
  · have hclosed : Game.rollback game = .ok false game := by
      simp only [Game.rollback, Game.canRevert, Game.ask, bind, EStateM.bind, hopen]
      rfl
    rw [hclosed]
    exact ⟨by simp [Result.answer?], rfl⟩

end Rollbacks

/-! A story with a jump that was not made. -/

/-- A story with a misspelled label. -/
def lostStory : Story :=
  { script := .obj
      [("Start", .arr [.str "Where is the inn?", .str "jump Imn", .str "Nobody knows."])]
    characters := Table.empty
    particles := []
    storage := []
    settings := {} }

/-- The game of the story. -/
def lostMade : Game := (lostStory.gameWith? lostStory.registry).get (by decide +kernel)

/-- The game, set up. -/
def lostReady : Game := Result.left (Game.setup (lostMade.withPreferences {}))

/-- At the first line, with its line typed out. -/
def lostBegun : Game := (Result.left (Game.start lostReady)).finishTyping

/-- At the second line, past the jump. -/
def lostPassed : Game := Result.left (Game.proceed (Result.left (Game.proceed lostBegun)))

/-- The way back over the jump of this story is refused. -/
theorem rollback_refused_lost :
    Result.answer? (Game.rollback lostPassed) ≠ some true
      ∧ (Result.left (Game.rollback lostPassed)).snapshot = lostPassed.snapshot := by
  have hmade : lostStory.gameWith? lostStory.registry = some lostMade := (Option.some_get _).symm
  have hready : Game.setup (lostMade.withPreferences {}) = .ok () lostReady := setup_ok_left rfl
  have hbook : Traceable lostReady.book lostReady.world := traceable_of_traces (by decide +kernel)
  have hstart : Game.start lostReady = .ok () (Result.left (Game.start lostReady)) :=
    Result.eq_ok (by decide +kernel)
  obtain ⟨hbegun, -, -⟩ := begun_parts hmade hready hbook hstart
  have hfirst : (Result.left (Game.proceed lostBegun)).fixed = lostBegun.fixed := fixed_proceed
  have hsecond : lostPassed.fixed = (Result.left (Game.proceed lostBegun)).fixed := fixed_proceed
  have hregistry : lostPassed.registry
      = builtinRegistry lostStory.characters lostStory.particles :=
    (congrArg (·.2.1) (hsecond.trans hfirst)).trans hbegun
  have hstep : lostPassed.world.cursor.step = 1 + 1 := by decide +kernel
  have hjump : kindAt? lostPassed.book lostPassed.world (lostPassed.world.cursor.atStep 1)
      = some (.jump "Imn") := by decide +kernel
  have hjumps : lostPassed.world.readied.jumps = 0 := by decide +kernel
  obtain ⟨line, text, htarget, filled, kind⟩ :
      ∃ line text, Rewind.target? lostPassed.book lostPassed.registry lostPassed.world
          = some (.text line)
        ∧ lostPassed.book.substitute lostPassed.world line = .ok text
        ∧ Kind.ofText text = .jump "Imn" := target?_of_kindAt? hstep hjump
  have hstorage : lostPassed.world.readied.storage = lostPassed.world.storage :=
    congrArg Snapshot.storage (snapshot_readied lostPassed.world)
  rw [← substitute_congr hstorage] at filled
  refine rollback_refused hregistry (stopAt_of_lineAt? (Option.some_get (by decide +kernel)).symm)
    (fun _ _ _ _ => by decide +kernel) htarget ?_
  rw [hregistry]
  exact refuses_jump filled kind hjumps

/-! A story in which the way back is refused after statements were undone. -/

/-- A story with a torn page and snow. -/
def lateStory : Story :=
  { script := .obj
      [("Start", .arr [.str "nvl It was late.", .str "particles snow", .str "jump Inn"]),
        ("Inn", .arr [.str "Good night."])]
    characters := Table.empty
    particles := [("snow", .obj [])]
    storage := []
    settings := { typeAnimation := false } }

/-- The game of the story. -/
def lateMade : Game := (lateStory.gameWith? lateStory.registry).get (by decide +kernel)

/-- At the inn. -/
def lateLeft : Game :=
  Result.left (Game.proceed (Result.left (Game.start
    (Result.left (Game.setup (lateMade.withPreferences {}))))))

/-- The way back from the inn is refused, and ends at neither end. -/
theorem rollback_refused_late :
    Result.answer? (Game.rollback lateLeft) = some false
      ∧ (Result.left (Game.rollback lateLeft)).snapshot ≠ lateLeft.snapshot := by
  refine ⟨by decide +kernel, fun hsnapshot => ?_⟩
  have hcursor : (Result.left (Game.rollback lateLeft)).snapshot.state.cursor
      = lateLeft.snapshot.state.cursor := by rw [hsnapshot]
  exact absurd hcursor (by decide +kernel)

end Narrative
