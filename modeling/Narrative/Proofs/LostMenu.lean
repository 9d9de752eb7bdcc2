import Narrative.Proofs.Defects

/-!
# Proofs/LostMenu — a pick that fails loses the menu

Picking closes the menu first, and only then reads the statement of the option and runs it.  So a
key that is not offered leaves everything as it is, but an option whose statement cannot be executed
is picked in vain: nothing that is saved changes, and the menu is gone, so that the player may
continue past it without an answer (`failed_pick`).

Whether the statement of an option can be executed is told beforehand from how it reads
(`defect?`).
-/

namespace Narrative

/-! ## Picking -/

/-- **Why what stands under `Do` cannot be executed**, if it cannot. -/
def MenuItem.defect? (characters : Table Character) (presets : Fields Json) (book : Playbook)
    (world : World) (item : MenuItem) : Option Fault :=
  match Statement.ofJson? item.action with
  | none => some .invalidScript
  | some statement => statement.defect? characters presets book world

/-- The option that a key picks: the first one offered under it. -/
def Choice.picked? (world : World) (key : String) : Option MenuItem :=
  (offered world).find? (·.key == key)

/-- **A game whose menu was lost**: what a save keeps is the same, but there is no menu, and nothing
keeps the player from continuing any more. -/
structure Game.Unanswered (game after : Game) : Prop where
  /-- What is saved is the same. -/
  snapshot : after.snapshot = game.snapshot
  /-- No option is offered. -/
  offered : Choice.offered after.world = []
  /-- No menu waits. -/
  closed : Choice.isPending after.world = false
  /-- The player may continue, once the line is finished and if no flag is set. -/
  passable : game.world.globals.gatesOpen = true → game.world.globals.finishedTyping = true →
    Game.canProceed after = .ok true after

section Picking

variable {characters : Table Character} {presets : Fields Json} {game : Game} {world : World}

/-- A game that differs from the one with the menu closed in reports and effects only. -/
theorem unanswered_of_parts {after : Game}
    (hregistry : after.registry = builtinRegistry characters presets)
    (hsnapshot : after.snapshot = game.snapshot)
    (hglobals : after.world.globals = (Choice.close game.world).globals) :
    game.Unanswered after := by
  have hnone : after.world.globals.get? Choice.pendingKey = none := by
    rw [hglobals]
    exact pending_close game.world
  have hclosed : Choice.isPending after.world = false :=
    Option.isSome_eq_false_iff.2 (Option.isNone_iff_eq_none.2 hnone)
  refine ⟨hsnapshot, ?_, hclosed, fun hopen htyped => ?_⟩
  · rw [Choice.offered, hnone]
    rfl
  · have hgates : after.world.globals.gatesOpen = true := by
      rw [hglobals]
      exact hopen
    have hfinished : after.world.globals.finishedTyping = true := by
      rw [hglobals]
      exact htyped
    have hask := canProceed_eq hregistry
    simpa only [hgates, hclosed, hfinished, if_true, Bool.not_false, Bool.and_self] using hask

/-- Closing the menu does not change what the statement of an option fails for. -/
theorem fault?_picked {book : Playbook} {item : MenuItem} {statement : Statement}
    (hread : Statement.ofJson? item.action = some statement) :
    Result.fault? (Run.perform book (builtinRegistry characters presets) statement false
        ((Choice.close world).emit [.hideChoices]))
      = item.defect? characters presets book world := by
  have hstorage : ((Choice.close world).emit [.hideChoices]).storage = world.storage := rfl
  rw [fault?_perform (Statement.ne_callback_of_ofJson? hread), defect?_congr hstorage,
    MenuItem.defect?, hread]

/-- **A run that fails at its first statement** changes nothing that is saved, and no globals.  One
that may run no statement at all fails before it comes to the first. -/
theorem run_of_fault {book : Playbook} {statement : Statement} {advance : Bool} {fault : Fault}
    (hno : ∀ run, statement ≠ .callback run)
    (hfault : Result.fault?
      (Run.perform book (builtinRegistry characters presets) statement advance world)
        = some fault) :
    ∃ raised after,
      Run.run book (builtinRegistry characters presets) statement advance world
          = .error raised after
        ∧ (0 < book.settings.maxChain → raised = fault)
        ∧ after.snapshot = world.snapshot ∧ after.globals = world.globals := by
  rw [Run.run]
  cases book.settings.maxChain with
  | zero => exact ⟨_, world, rfl, fun h => absurd h (Nat.lt_irrefl 0), rfl, rfl⟩
  | succ allowed =>
    have hran : Ran characters presets book world advance statement
        (Run.perform book (builtinRegistry characters presets) statement advance world) :=
      Narrative.ran hno advance world
    rw [Result.eq_error hfault] at hran
    exact ⟨fault, _, Result.bind_eq_error.2 (Or.inl (Result.eq_error hfault)), fun _ => rfl,
      parts_of_fault hran⟩

/-- **Picking an option whose statement cannot be executed loses the menu.** -/
theorem unanswered_of_defect (hregistry : game.registry = builtinRegistry characters presets)
    {key : String} {item : MenuItem} {fault : Fault}
    (hpicked : Choice.picked? game.world key = some item)
    (hdefect : item.defect? characters presets game.book game.world = some fault) :
    ∃ raised after, Game.select key game = .error raised after
      ∧ (0 < game.book.settings.maxChain → raised = fault) ∧ game.Unanswered after := by
  have hfind : (Choice.offered game.world).find? (·.key == key) = some item := hpicked
  simp only [Game.select, hfind]
  cases hread : Statement.ofJson? item.action with
  | none =>
    simp only [MenuItem.defect?, hread] at hdefect
    obtain rfl := Option.some.inj hdefect
    exact ⟨_, _, rfl, fun _ => rfl, unanswered_of_parts hregistry rfl rfl⟩
  | some statement =>
    obtain ⟨raised, after, hrun, hraised, hsnapshot, hglobals⟩ :=
      run_of_fault (Statement.ne_callback_of_ofJson? hread)
        ((fault?_picked hread).trans hdefect)
    refine ⟨raised, { game with world := after }, ?_, hraised,
      unanswered_of_parts hregistry hsnapshot hglobals⟩
    simp only [Game.run, Turn.ofPlay, Game.withWorld, hregistry, hrun]

end Picking

/-- **What a failed pick leaves.**  A key that is not offered leaves the game as it is.  An option
whose statement cannot be executed fails with the defect of the statement, and its menu is lost.
The statement of any other option is executed, so that a pick of it fails, if it does, at a later
statement or for their number. -/
theorem failed_pick {characters : Table Character} {presets : Fields Json} {game : Game}
    (hregistry : game.registry = builtinRegistry characters presets) (key : String) :
    (Choice.picked? game.world key = none →
        Game.select key game = .error (.rejected ("no option \"" ++ key ++ "\" is offered")) game)
      ∧ (∀ item fault, Choice.picked? game.world key = some item →
        item.defect? characters presets game.book game.world = some fault →
          ∃ raised after, Game.select key game = .error raised after
            ∧ (0 < game.book.settings.maxChain → raised = fault) ∧ game.Unanswered after)
      ∧ ∀ item, Choice.picked? game.world key = some item →
        item.defect? characters presets game.book game.world = none →
          ∃ statement flow world, Statement.ofJson? item.action = some statement
            ∧ Run.perform game.book game.registry statement false
              ((Choice.close game.world).emit [.hideChoices]) = .ok flow world := by
  refine ⟨fun hnone => ?_, fun item fault => unanswered_of_defect hregistry,
    fun item hpicked hdefect => ?_⟩
  · have hfind : (Choice.offered game.world).find? (·.key == key) = none := hnone
    simp only [Game.select, hfind]
  · cases hread : Statement.ofJson? item.action with
    | none => simp only [MenuItem.defect?, hread, reduceCtorEq] at hdefect
    | some statement =>
      have hfault := (fault?_picked hread).trans hdefect
      rw [hregistry]
      cases hperform : Run.perform game.book (builtinRegistry characters presets) statement false
          ((Choice.close game.world).emit [.hideChoices]) with
      | ok flow world => exact ⟨statement, flow, world, rfl, hperform⟩
      | error fault world =>
        rw [hperform] at hfault
        cases hfault

/-! ## An option that leads nowhere -/

/-- A story whose only option jumps to a label that does not exist. -/
def cliffStory : Story :=
  { script := .obj
      [("Start", .arr
        [.obj [("Choice", .obj [("go", .obj [("Do", .str "jump Nowhere")])])],
          .str "It is late."])]
    characters := Table.empty
    particles := []
    storage := []
    settings := { typeAnimation := false } }

/-- The game of the story. -/
def cliffMade : Game := (cliffStory.gameWith? cliffStory.registry).get (by decide +kernel)

/-- The game at its menu. -/
def cliffMenu : Game :=
  Call.start.left (Result.left (Game.setup (cliffMade.withPreferences {})))

/-- The game after the option was picked. -/
def cliffPicked : Game := Result.left (Game.select "go" cliffMenu)

/-- **The menu of the story is lost** when its option is picked, and kept when another key is. -/
theorem failed_pick_cliff :
    cliffMenu.registry = builtinRegistry cliffStory.characters cliffStory.particles
      ∧ Choice.isPending cliffMenu.world = true
      ∧ (∃ after, Game.select "go" cliffMenu = .error (.unresolvedTarget "Nowhere") after
        ∧ cliffMenu.Unanswered after)
      ∧ Game.select "stay" cliffMenu
        = .error (.rejected ("no option \"" ++ "stay" ++ "\" is offered")) cliffMenu := by
  have hregistry : cliffMenu.registry
      = builtinRegistry cliffStory.characters cliffStory.particles := rfl
  have hdefect : (Choice.picked? cliffMenu.world "go").bind
      (·.defect? cliffStory.characters cliffStory.particles cliffMenu.book cliffMenu.world)
        = some (.unresolvedTarget "Nowhere") := by
    decide +kernel
  obtain ⟨item, hitem, hitemDefect⟩ := Option.bind_eq_some_iff.1 hdefect
  obtain ⟨-, hspoiled, -⟩ := failed_pick hregistry "go"
  obtain ⟨hkept, -⟩ := failed_pick hregistry "stay"
  obtain ⟨raised, after, hselect, hraised, hlost⟩ := hspoiled item _ hitem hitemDefect
  have hmax : 0 < cliffMenu.book.settings.maxChain := by decide +kernel
  obtain rfl := hraised hmax
  have hnone : (Choice.picked? cliffMenu.world "stay").isNone = true := by decide +kernel
  exact ⟨hregistry, by decide +kernel, ⟨after, hselect, hlost⟩,
    hkept (Option.isNone_iff_eq_none.1 hnone)⟩

/-- **After the pick that failed, the player continues past the menu** to the next line. -/
theorem menu_passed_cliff :
    Choice.isPending cliffMenu.world = true
      ∧ Result.fault? (Game.select "go" cliffMenu) = some (.unresolvedTarget "Nowhere")
      ∧ Choice.isPending cliffPicked.world = false
      ∧ Result.answer? (Game.proceed cliffPicked) = some true
      ∧ (Call.proceed.left cliffPicked).cursor = ⟨"Start", 1⟩ := by
  decide +kernel

end Narrative
