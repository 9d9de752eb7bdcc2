import Narrative.Proofs.Setup
import Narrative.Proofs.StepBack

/-!
# Proofs/Calls — what a call of the player does to a game at rest

A game at rest answers the guards in one way, so a call comes down to what it does to the world:
continuing goes one step on (`next_of_proceed`), picking runs the statement of an option
(`run_of_select`), and going back closes the menu and goes one step back (`rollback_eq`).  Both ways
of going on are moves from one stop to another (`moved_of_made?`), and a game is at rest from its
start on (`rested_begun`).
-/

namespace Narrative

/-! ## Calls and the world -/

section Calls

variable {characters : Table Character} {presets : Fields Json} {game after : Game}

/-- A computation on the world that succeeds changes nothing else. -/
theorem ofPlay_eq_ok {α : Type} {play : Playbook → Registry → Play α} {answer : α} :
    Turn.ofPlay play game = .ok answer after
      ↔ ∃ world, play game.book game.registry game.world = .ok answer world
        ∧ after = { game with world := world } := by
  unfold Turn.ofPlay
  cases play game.book game.registry game.world with
  | ok value world =>
    simp only [EStateM.Result.ok.injEq]
    constructor
    · rintro ⟨rfl, rfl⟩
      exact ⟨world, ⟨rfl, rfl⟩, rfl⟩
    · rintro ⟨world, ⟨rfl, rfl⟩, rfl⟩
      exact ⟨rfl, rfl⟩
  | error fault world => simp

/-- One that fails changes nothing else, either. -/
theorem ofPlay_eq_error {α : Type} {play : Playbook → Registry → Play α} {fault : Fault}
    (h : Turn.ofPlay play game = .error fault after) :
    ∃ world, play game.book game.registry game.world = .error fault world
      ∧ after = { game with world := world } := by
  unfold Turn.ofPlay at h
  split at h
  · cases h
  · next failed world hplay =>
    obtain ⟨rfl, rfl⟩ := EStateM.Result.error.inj h
    exact ⟨world, hplay, rfl⟩

theorem granted_eq_ok_true {turn : Turn Unit} :
    turn.granted game = .ok true after ↔ turn game = .ok () after := by
  unfold Turn.granted
  cases turn game with
  | ok value left => simp
  | error fault left =>
    simp only [reduceCtorEq, iff_false]
    split <;> simp

/-- A computation on the world keeps everything else. -/
theorem fixed_ofPlay {α : Type} (play : Playbook → Registry → Play α) :
    (Result.left (Turn.ofPlay play game)).fixed = game.fixed := by
  unfold Turn.ofPlay
  split <;> rfl

theorem left_granted (turn : Turn Unit) :
    Result.left (turn.granted game) = Result.left (turn game) := by
  unfold Turn.granted
  cases turn game with
  | ok answer after => rfl
  | error fault after =>
    simp only
    split <;> rfl

/-- **A guard always answers**, and touches the world only. -/
theorem ask_eq_ok (guard : Action → Playbook → World → Bool × World) (game : Game) :
    ∃ allowed world, Game.ask guard game = .ok allowed { game with world := world } := by
  unfold Game.ask
  split
  · exact ⟨_, _, rfl⟩
  · exact ⟨false, game.world, rfl⟩

/-- Continuing changes the world only. -/
theorem fixed_proceed : (Result.left (Game.proceed game)).fixed = game.fixed := by
  obtain ⟨allowed, world, hasked⟩ := ask_eq_ok Action.canProceed game
  simp only [Game.proceed, Game.canProceed, bind, EStateM.bind, hasked]
  cases allowed with
  | true =>
    show (Result.left (Game.next.granted { game with world := world })).fixed = _
    rw [left_granted, Game.next, fixed_ofPlay]
    rfl
  | false => rfl

/-- The guards of continuing. -/
theorem canProceed_eq (hregistry : game.registry = builtinRegistry characters presets) :
    Game.canProceed game
      = if game.world.globals.gatesOpen then
          .ok (!Choice.isPending game.world && game.world.globals.finishedTyping)
            { game with
              world := if game.world.globals.finishedTyping then game.world
                else Dialog.finishTyping game.world }
        else .ok false game := by
  simp only [Game.canProceed, Game.ask, hregistry, askAll_canProceed]

/-- **While a flag is set, the player cannot move.** -/
theorem moves_closed (hclosed : ¬game.world.globals.gatesOpen = true) :
    Game.proceed game = .ok false game ∧ Game.rollback game = .ok false game := by
  constructor
  · simp only [Game.proceed, Game.canProceed, Game.ask, bind, EStateM.bind, hclosed]
    rfl
  · simp only [Game.rollback, Game.canRevert, Game.ask, bind, EStateM.bind, hclosed]
    rfl

/-- **Continuing, when the answer is yes, goes one step on.** -/
theorem next_of_proceed (hregistry : game.registry = builtinRegistry characters presets)
    (h : Game.proceed game = .ok true after) :
    Choice.isPending game.world = false
      ∧ ∃ world, Run.next game.book game.registry game.world = .ok () world
        ∧ after = { game with world := world } := by
  have hask := canProceed_eq hregistry
  by_cases hopen : game.world.globals.gatesOpen = true
  · rw [if_pos hopen] at hask
    simp only [Game.proceed, bind, EStateM.bind, hask] at h
    cases hpending : Choice.isPending game.world with
    | true =>
      simp [hpending, pure, EStateM.pure] at h
    | false =>
      cases htyped : game.world.globals.finishedTyping with
      | false => simp [hpending, htyped, pure, EStateM.pure] at h
      | true =>
        simp only [hpending, htyped, Bool.not_false, Bool.and_self, if_true] at h
        exact ⟨rfl, ofPlay_eq_ok.1 (granted_eq_ok_true.1 h)⟩
  · rw [if_neg hopen] at hask
    simp [Game.proceed, bind, EStateM.bind, hask, pure, EStateM.pure] at h

/-- **Continuing, when it is refused while the player may move, fails one step on.** -/
theorem next_of_refused (hregistry : game.registry = builtinRegistry characters presets)
    (hopen : game.world.globals.gatesOpen = true) (hprompt : game.world.prompt = ⟨none, true⟩)
    (h : Game.proceed game = .ok false after) :
    ∃ fault left, Run.next game.book game.registry game.world = .error fault left
      ∧ fault.isRejection = true ∧ after = { game with world := left } := by
  have hpending : Choice.isPending game.world = false :=
    congrArg (fun prompt : Prompt => prompt.pending.isSome) hprompt
  have htyped : game.world.globals.finishedTyping = true := congrArg Prompt.finishedTyping hprompt
  have hask := canProceed_eq hregistry
  simp only [hopen, hpending, htyped, if_true, Bool.not_false, Bool.and_self] at hask
  simp only [Game.proceed, bind, EStateM.bind, hask, if_true, Turn.granted, Game.next,
    Turn.ofPlay] at h
  cases hnext : Run.next game.book game.registry game.world with
  | ok value world => simp [hnext] at h
  | error fault left =>
    simp only [hnext] at h
    split at h
    · next hfault => exact ⟨fault, left, rfl, hfault, (EStateM.Result.ok.inj h).2.symm⟩
    · cases h

/-- **Continuing while a line is being typed** finishes the line. -/
theorem finished_of_refused (hregistry : game.registry = builtinRegistry characters presets)
    (hopen : game.world.globals.gatesOpen = true)
    (htyping : game.world.globals.finishedTyping = false) :
    Game.proceed game = .ok false { game with world := Dialog.finishTyping game.world } := by
  have hask := canProceed_eq hregistry
  simp only [hopen, htyping, if_true, Bool.and_false] at hask
  simp only [Game.proceed, bind, EStateM.bind, hask]
  rfl

/-- The world that going back starts from: no menu, and no line that is being typed. -/
def World.readied (world : World) : World :=
  if (Choice.hide world).globals.finishedTyping then Choice.hide world
  else Dialog.finishTyping (Choice.hide world)

/-- Readying a world closes its menu and finishes its line. -/
theorem readied_parts (presets : Fields Json) (world : World) :
    world.readied.place = world.place ∧ world.readied.sheet = world.sheet
      ∧ world.readied.prompt = ⟨none, true⟩
      ∧ (Tidy presets world → Tidy presets world.readied) := by
  have hhide : (Choice.hide world).place = world.place ∧ (Choice.hide world).sheet = world.sheet
      ∧ (Choice.hide world).prompt.pending = none
      ∧ (Tidy presets world → Tidy presets (Choice.hide world)) := by
    unfold Choice.hide
    cases hpending : Choice.isPending world with
    | true =>
      refine ⟨rfl, sheet_close world, ?_, fun h => h.of_eq rfl rfl⟩
      rw [if_pos rfl, prompt_emit, prompt_close]
    | false =>
      exact ⟨rfl, rfl, Option.isNone_iff_eq_none.1 (Option.isSome_eq_false_iff.1 hpending), id⟩
  obtain ⟨hplace, hsheet, hpending, htidy⟩ := hhide
  unfold World.readied
  split
  · next htyped =>
    refine ⟨hplace, hsheet, ?_, htidy⟩
    calc (Choice.hide world).prompt
        = ⟨(Choice.hide world).prompt.pending, (Choice.hide world).globals.finishedTyping⟩ := rfl
      _ = ⟨none, true⟩ := by rw [hpending, htyped]
  · refine ⟨hplace, hsheet, ?_, fun h => (htidy h).of_eq rfl rfl⟩
    calc (Dialog.finishTyping (Choice.hide world)).prompt
        = ⟨(Choice.hide world).prompt.pending, true⟩ := rfl
      _ = ⟨none, true⟩ := by rw [hpending]

/-- The guards of going back let it be, and ready the world. -/
theorem canRevert_eq (hregistry : game.registry = builtinRegistry characters presets) :
    Game.canRevert game
      = if game.world.globals.gatesOpen then .ok true { game with world := game.world.readied }
        else .ok false game := by
  simp only [Game.canRevert, Game.ask, hregistry, askAll_canRevert]
  rfl

/-- **Going back, when the flags are open, readies the world and goes one step back.** -/
theorem rollback_eq (hregistry : game.registry = builtinRegistry characters presets)
    (hopen : game.world.globals.gatesOpen = true) :
    Game.rollback game
      = Game.revert.granted { game with world := game.world.readied } := by
  simp only [Game.rollback, bind, EStateM.bind, canRevert_eq hregistry, hopen, if_true]

/-- **Picking an option runs its statement where the game rests**, with the menu closed. -/
theorem run_of_select {key : String} (h : Game.select key game = .ok () after) :
    ∃ item statement world, item ∈ Choice.offered game.world ∧ item.key = key
      ∧ Statement.ofJson? item.action = some statement
      ∧ Run.run game.book game.registry statement false
          ((Choice.close game.world).emit [.hideChoices]) = .ok () world
      ∧ after = { game with world := world } := by
  unfold Game.select at h
  cases hfind : (Choice.offered game.world).find? (·.key == key) with
  | none =>
    rw [hfind] at h
    cases h
  | some item =>
    rw [hfind] at h
    cases hread : Statement.ofJson? item.action with
    | none =>
      simp only [hread] at h
      cases h
    | some statement =>
      simp only [hread] at h
      obtain ⟨world, hrun, rfl⟩ := ofPlay_eq_ok.1 h
      have hkey := List.find?_some hfind
      exact ⟨item, statement, world, List.mem_of_find?_eq_some hfind, eq_of_beq hkey, hread, hrun,
        rfl⟩

end Calls

/-! ## Moves -/

section Moves

variable {characters : Table Character} {presets : Fields Json} {book : Playbook}
  {world after : World}

/-- **Going one step on** from a statement that is there runs the statement after it. -/
theorem next_eq_run {registry : Registry} {statement next : Statement}
    (here : book.current? world = some statement)
    (hnext : book.current? (world.moveTo (world.cursor.atStep (world.cursor.step + 1)))
      = some next) :
    Run.next book registry world
      = Run.run book registry next true
          (world.moveTo (world.cursor.atStep (world.cursor.step + 1))) := by
  have hstep : Run.stepForward book world
      = .ok next (world.moveTo (world.cursor.atStep (world.cursor.step + 1))) := by
    simp only [Run.stepForward, if_pos (Playbook.step_lt here), Run.current, hnext]
  simp only [Run.next, bind, EStateM.bind, hstep]

/-- At the end of a label there is nothing to run. -/
theorem next_eq_error {registry : Registry} {statement : Statement}
    (here : book.current? world = some statement)
    (hnone : book.current? (world.moveTo (world.cursor.atStep (world.cursor.step + 1))) = none) :
    Run.next book registry world
      = .error (.noStatement (world.cursor.atStep (world.cursor.step + 1)))
          (world.moveTo (world.cursor.atStep (world.cursor.step + 1))) := by
  have hstep : Run.stepForward book world
      = .error (.noStatement (world.cursor.atStep (world.cursor.step + 1)))
          (world.moveTo (world.cursor.atStep (world.cursor.step + 1))) := by
    simp only [Run.stepForward, if_pos (Playbook.step_lt here), Run.current, hnone]
    rfl
  simp only [Run.next, bind, EStateM.bind, hstep]

/-- **Going one step on from a line is a move.** -/
theorem moved_of_next {say : Say} (hbook : Traceable book world)
    (hrested : Rested characters presets book (.line say) world)
    (h : Run.next book (builtinRegistry characters presets) world = .ok () after) :
    ∃ jumped landing, Moved characters presets book (.line say) world jumped landing after := by
  obtain ⟨statement, here, -, -⟩ := hrested.here.invoke presets
  cases hnext : book.current? (world.moveTo (world.cursor.atStep (world.cursor.step + 1))) with
  | none =>
    rw [next_eq_error here hnext] at h
    cases h
  | some next =>
    rw [next_eq_run here hnext] at h
    have hdeparted : Departed presets (.line say) world false
        (world.moveTo (world.cursor.atStep (world.cursor.step + 1))) :=
      ⟨.step rfl, rfl, hrested.prompt, hrested.tidy.of_eq rfl rfl⟩
    exact hdeparted.moved hbook hnext (Nat.le_refl _) h

section Picking

variable {options : List (MenuItem × Condition)} {line text : String} {closed : World}

/-- Running `next` where a menu rests takes the step itself, and is a move. -/
theorem moved_of_pick_next (hbook : Traceable book world)
    (hrested : Rested characters presets book (.menu options) world)
    (hplace : closed.place = world.place) (hsheet : closed.sheet = world.sheet)
    (hprompt : closed.prompt = ⟨none, world.prompt.finishedTyping⟩) (htidy : Tidy presets closed)
    (filled : book.substitute closed line = .ok text) (kind : Kind.ofText text = .next)
    (h : Run.run book (builtinRegistry characters presets) (.text line) false closed
      = .ok () after) :
    ∃ jumped landing,
      Moved characters presets book (.menu options) world jumped landing after := by
  obtain ⟨left, flow, mid, hleft, hperform, -, -, henter⟩ := perform_of_chain h
  obtain ⟨invocation, hinvoke, hstages⟩ := stages_of_perform (fun run => by simp) hperform
  rw [invoke_text filled, kind] at hinvoke
  obtain rfl := Except.ok.inj hinvoke
  obtain ⟨rfl, rfl⟩ := EStateM.Result.ok.inj hstages
  obtain ⟨next, hnext, hrest⟩ := henter rfl
  have hstep : Next.step book closed
      = closed.moveTo (world.cursor.atStep (world.cursor.step + 1)) := by
    obtain ⟨statement, here, -, -⟩ := hrested.here.invoke presets
    rw [Next.step, show closed.cursor = world.cursor from congrArg Place.cursor hplace,
      if_pos (Playbook.step_lt here)]
  have hdeparted : Departed presets (.menu options) world false (Next.step book closed) := by
    rw [hstep]
    refine ⟨.step ?_, hsheet, hprompt, htidy.of_eq rfl rfl⟩
    rw [place_moveTo, hplace]
    rfl
  exact hdeparted.moved hbook hnext (by omega) hrest

/-- Running a jump where a menu rests is a move. -/
theorem moved_of_pick_jump {target : String} (hbook : Traceable book world)
    (hplace : closed.place = world.place) (hsheet : closed.sheet = world.sheet)
    (hprompt : closed.prompt = ⟨none, world.prompt.finishedTyping⟩) (htidy : Tidy presets closed)
    (filled : book.substitute closed line = .ok text) (kind : Kind.ofText text = .jump target)
    (unbraced : Text.occurs Template.openMark target.toList = false)
    (h : Run.run book (builtinRegistry characters presets) (.text line) false closed
      = .ok () after) :
    ∃ jumped landing,
      Moved characters presets book (.menu options) world jumped landing after := by
  obtain ⟨left, flow, mid, hleft, hperform, -, -, henter⟩ := perform_of_chain h
  obtain ⟨invocation, hinvoke, hstages⟩ := stages_of_perform (fun run => by simp) hperform
  rw [invoke_text filled, kind] at hinvoke
  obtain rfl := Except.ok.inj hinvoke
  obtain ⟨rfl, -, rfl⟩ := entered_of_stages hstages
  rw [word?_of_jump kind] at henter
  obtain ⟨next, hnext, hrest⟩ := henter rfl
  have hdeparted : Departed presets (.menu options) world true
      ((Jump.entered target closed).emit [.clearText]) := by
    refine ⟨.jump rfl unbraced ?_, ?_, ?_, (htidy.entered target).of_eq rfl rfl⟩
    · rw [place_emit, place_entered, place_entered, hplace,
        show closed.cursor = world.cursor from congrArg Place.cursor hplace]
    · rw [sheet_emit, sheet_entered, hsheet]
      rfl
    · rw [prompt_emit, prompt_entered, hprompt]
  exact hdeparted.moved hbook hnext (by omega) hrest

end Picking

end Moves

/-! ## The moves of the player -/

/-- **A move of the player.** -/
inductive Move where
  /-- Continue. -/
  | proceed
  /-- Pick the option of a key. -/
  | select (key : String)
  deriving DecidableEq

namespace Move

/-- The game after a move, if it is made: continuing answers yes, or an option is picked. -/
def made? : Move → Game → Option Game
  | proceed, game =>
    match Game.proceed game with
    | .ok true after => some after
    | _ => none
  | select key, game =>
    match Game.select key game with
    | .ok _ after => some after
    | _ => none

theorem proceed_of_made? {game after : Game} (h : proceed.made? game = some after) :
    Game.proceed game = .ok true after := by
  simp only [made?] at h
  split at h
  · next left heq => rw [heq, Option.some.inj h]
  · cases h

theorem select_of_made? {key : String} {game after : Game}
    (h : (select key).made? game = some after) : Game.select key game = .ok () after := by
  simp only [made?] at h
  split at h
  · next left heq => rw [heq, Option.some.inj h]
  · cases h

end Move

/-- Whether a text leads on from a menu: `next`, or a jump to a label that exists and has no braces
of a placeholder. -/
def leadsOn (book : Playbook) (world : World) (line : String) : Bool :=
  match book.substitute world line with
  | .error _ => false
  | .ok text =>
    match Kind.ofText text with
    | .next => true
    | .jump target => book.hasLabel target && !Text.occurs Template.openMark target.toList
    | _ => false

/-- `next` leads on. -/
theorem leadsOn_next (book : Playbook) (world : World) : leadsOn book world "next" = true := by
  have filled : book.substitute world "next" = .ok "next" := by
    rw [Playbook.substitute, Template.fill_of_unbraced _ _ (by decide)]
  have kind : Kind.ofText "next" = .next := by decide
  simp only [leadsOn, filled, kind]

/-- What a text that leads on is. -/
theorem kind_of_leadsOn {book : Playbook} {world : World} {line : String}
    (h : leadsOn book world line = true) :
    ∃ text, book.substitute world line = .ok text
      ∧ (Kind.ofText text = .next ∨ ∃ target, Kind.ofText text = .jump target
        ∧ Text.occurs Template.openMark target.toList = false) := by
  unfold leadsOn at h
  cases filled : book.substitute world line with
  | error fault =>
    rw [filled] at h
    cases h
  | ok text =>
    refine ⟨text, rfl, ?_⟩
    rw [filled] at h
    cases kind : Kind.ofText text with
    | next => exact Or.inl rfl
    | jump target =>
      simp only [kind, Bool.and_eq_true, Bool.not_eq_true'] at h
      exact Or.inr ⟨target, rfl, h.2⟩
    | _ => simp [kind] at h

section Made

variable {characters : Table Character} {presets : Fields Json} {game after : Game} {stop : Stop}

/-- A world at rest offers the options of its stop. -/
theorem offered_of_rested {book : Playbook} {world : World}
    (h : Rested characters presets book stop world) :
    Choice.offered world = stop.items world.storage := by
  have hpending : world.globals.get? Choice.pendingKey = stop.pending world.storage :=
    h.pending
  rw [Choice.offered, hpending]
  cases stop with
  | line say => rfl
  | menu options => simp [Stop.pending, Stop.items]

/-- **Continuing that is granted is a move.** -/
theorem moved_of_proceed (hregistry : game.registry = builtinRegistry characters presets)
    (hbook : Traceable game.book game.world)
    (hrested : Rested characters presets game.book stop game.world)
    (h : Game.proceed game = .ok true after) :
    after.fixed = game.fixed
      ∧ ∃ jumped landing,
        Moved characters presets game.book stop game.world jumped landing after.world := by
  obtain ⟨hpending, world, hnext, rfl⟩ := next_of_proceed hregistry h
  cases stop with
  | menu options =>
    have hopen : Choice.isPending game.world = true := congrArg Option.isSome hrested.pending
    rw [hopen] at hpending
    cases hpending
  | line say =>
    rw [hregistry] at hnext
    exact ⟨rfl, moved_of_next hbook hrested hnext⟩

/-- **Picking an option that leads on is a move.** -/
theorem moved_of_select {key : String}
    (hregistry : game.registry = builtinRegistry characters presets)
    (hbook : Traceable game.book game.world)
    (hrested : Rested characters presets game.book stop game.world)
    (hoptions : ∀ item ∈ Choice.offered game.world, item.key = key →
      item.action.asText?.any (leadsOn game.book game.world) = true)
    (h : Game.select key game = .ok () after) :
    after.fixed = game.fixed
      ∧ ∃ jumped landing,
        Moved characters presets game.book stop game.world jumped landing after.world := by
  obtain ⟨item, statement, world, hitem, hkey, hread, hrun, rfl⟩ := run_of_select h
  have hleads := hoptions item hitem hkey
  rw [offered_of_rested hrested] at hitem
  cases stop with
  | line say => cases hitem
  | menu options =>
    refine ⟨rfl, ?_⟩
    cases haction : item.action with
    | str line =>
      rw [haction] at hleads hread
      obtain rfl : Statement.text line = statement := Option.some.inj hread
      obtain ⟨text, filled, kind⟩ := kind_of_leadsOn (show leadsOn _ _ line = true from hleads)
      have hprompt : ((Choice.close game.world).emit [.hideChoices]).prompt
          = ⟨none, game.world.prompt.finishedTyping⟩ := by
        rw [prompt_emit, prompt_close]
      have hplace : ((Choice.close game.world).emit [.hideChoices]).place = game.world.place :=
        rfl
      have hsheet : ((Choice.close game.world).emit [.hideChoices]).sheet = game.world.sheet :=
        sheet_close game.world
      have htidy : Tidy presets ((Choice.close game.world).emit [.hideChoices]) :=
        hrested.tidy.of_eq rfl rfl
      rw [hregistry] at hrun
      obtain kind | ⟨target, kind, unbraced⟩ := kind
      · exact moved_of_pick_next hbook hrested hplace hsheet hprompt htidy filled kind hrun
      · exact moved_of_pick_jump hbook hplace hsheet hprompt htidy filled kind unbraced
          hrun
    | _ =>
      rw [haction] at hleads
      cases hleads

/-- **A move that is made goes from one stop to another**, when an option that is picked leads
on. -/
theorem moved_of_made? {move : Move}
    (hregistry : game.registry = builtinRegistry characters presets)
    (hbook : Traceable game.book game.world)
    (hrested : Rested characters presets game.book stop game.world)
    (hoptions : ∀ key, move = .select key → ∀ item ∈ Choice.offered game.world, item.key = key →
      item.action.asText?.any (leadsOn game.book game.world) = true)
    (made : move.made? game = some after) :
    after.fixed = game.fixed
      ∧ ∃ jumped landing,
        Moved characters presets game.book stop game.world jumped landing after.world := by
  cases move with
  | proceed => exact moved_of_proceed hregistry hbook hrested (Move.proceed_of_made? made)
  | select key =>
    exact moved_of_select hregistry hbook hrested (hoptions key rfl) (Move.select_of_made? made)

/-- **Going back after a move**, when undoing the stop that was left finds its page. -/
theorem Moved.rollback {jumped : Bool} {landing : Stop}
    (hregistry : game.registry = builtinRegistry characters presets)
    (hrested : Rested characters presets game.book stop game.world)
    (hfixed : after.fixed = game.fixed)
    (h : Moved characters presets game.book stop game.world jumped landing after.world)
    {sheet : Sheet} (hsheet : stop.unshown? (Sheet.leftIf jumped after.world.sheet) = some sheet) :
    ∃ before, Game.rollback after = .ok true before ∧ before.fixed = game.fixed
      ∧ LedBack presets game.book.settings.typeAnimation sheet game.world before.world := by
  have hlanding := h.rested hrested.gates
  obtain ⟨hplace, hready, hprompt, htidy⟩ := readied_parts presets after.world
  obtain ⟨before, hrevert, hled⟩ := h.revert hrested hplace hprompt (htidy hlanding.tidy)
    (hready.symm ▸ hsheet)
  have hbook : after.book = game.book := congrArg Prod.fst hfixed
  have hsame : after.registry = builtinRegistry characters presets :=
    (congrArg (·.2.1) hfixed).trans hregistry
  refine ⟨{ after with world := before }, ?_, hfixed, hled⟩
  rw [rollback_eq hsame hlanding.gates]
  refine granted_eq_ok_true.2 (ofPlay_eq_ok.2 ⟨before, ?_, rfl⟩)
  rw [hbook, hsame]
  exact hrevert

/-- **Going back is refused** when undoing the line that was left finds no page. -/
theorem Moved.rollback_stays {say : Say} {jumped : Bool} {landing : Stop}
    (hregistry : game.registry = builtinRegistry characters presets)
    (hrested : Rested characters presets game.book (.line say) game.world)
    (hfixed : after.fixed = game.fixed)
    (h : Moved characters presets game.book (.line say) game.world jumped landing after.world)
    (hnone : say.unshown? (Sheet.leftIf jumped after.world.sheet) = none)
    (hclosed : after.world.sheet.closed = []) : ∃ left, Game.rollback after = .ok false left := by
  have hlanding := h.rested hrested.gates
  obtain ⟨hplace, hready, -, htidy⟩ := readied_parts presets after.world
  obtain ⟨left, hrevert⟩ := h.revert_error hrested hplace (htidy hlanding.tidy)
    (hready.symm ▸ hnone) (hready.symm ▸ hclosed)
  have hbook : after.book = game.book := congrArg Prod.fst hfixed
  have hsame : after.registry = builtinRegistry characters presets :=
    (congrArg (·.2.1) hfixed).trans hregistry
  refine ⟨{ after with world := left }, ?_⟩
  have hturn : Game.revert { after with world := after.world.readied }
      = .error (.rejected "no NVL page to restore") { after with world := left } := by
    simp only [Game.revert, Turn.ofPlay, hbook, hsame, hrevert]
  rw [rollback_eq hsame hlanding.gates, Turn.granted, hturn]
  rfl

end Made

/-! ## The beginning -/

section Beginning

variable {story : Story} {made ready begun : Game} {preferences : Preferences}

theorem History.isSome_get?_create (history : History) (name other : String) :
    ((history.create name).get? other).isSome = true
      ↔ other = name ∨ (history.get? other).isSome = true := by
  by_cases h : other = name
  · subst h
    simp [History.create, History.get?]
  · simp [History.create, History.get?, h]

/-- **A game that was set up is tidy**, with nothing on its sheet and nothing to wait for. -/
theorem ready_parts (hmade : story.gameWith? story.registry = some made)
    (hready : Game.setup (made.withPreferences preferences) = .ok () ready) :
    ready.registry = builtinRegistry story.characters story.particles
      ∧ ready.world.sheet = ⟨false, [], []⟩ ∧ ready.world.prompt = ⟨none, true⟩
      ∧ Tidy story.particles ready.world
      ∧ ready.world.globals.block = false ∧ ready.world.globals.distractionFree = false := by
  obtain ⟨script, hscript, rfl⟩ := Option.map_eq_some_iff.1 hmade
  rw [setup_eq rfl] at hready
  obtain rfl := (EStateM.Result.ok.inj hready).2
  refine ⟨rfl, rfl, rfl, ⟨fun name => ?_, [], rfl, fun _ h => (nomatch h), rfl⟩, rfl, rfl⟩
  show ((((((History.empty.create Jump.labelStack).create Jump.stack).create
    Particles.stack).create Page.stack)).get? name).isSome = true ↔ _
  simp only [History.isSome_get?_create, List.mem_cons, List.not_mem_nil, or_false]
  have hempty : (History.empty.get? name).isSome = false := by simp [History.empty, History.get?]
  grind

/-- No built-in action has anything to do when a game starts. -/
theorem start_eq {characters : Table Character} {presets : Fields Json} {game : Game}
    (hregistry : game.registry = builtinRegistry characters presets) :
    Game.start game = Game.runCurrent game.setPlaying := by
  obtain ⟨book, registry, world, timer, freshState, freshStorage⟩ := game
  obtain rfl : registry = builtinRegistry characters presets := hregistry
  rfl

/-- **A game that was started is at rest**, and its first stop was shown on an empty sheet. -/
theorem rested_begun (hmade : story.gameWith? story.registry = some made)
    (hready : Game.setup (made.withPreferences preferences) = .ok () ready)
    (hbook : Traceable ready.book ready.world) (hbegun : Game.start ready = .ok () begun) :
    begun.fixed = ready.fixed ∧ begun.world.storage = ready.world.storage
      ∧ (ready.book.settings.typeAnimation = false → begun.world.prompt.finishedTyping = true)
      ∧ ∃ stop, Rested story.characters story.particles ready.book stop begun.world
        ∧ begun.world.sheet = stop.shown true ⟨false, [], []⟩ := by
  obtain ⟨hregistry, hsheet, hprompt, htidy, hblock, hfree⟩ := ready_parts hmade hready
  rw [start_eq hregistry] at hbegun
  obtain ⟨world, hrun, rfl⟩ := ofPlay_eq_ok.1 hbegun
  have hgates : ready.setPlaying.world.globals.gatesOpen = true := by
    show (true && !ready.world.globals.block && !ready.world.globals.distractionFree) = true
    rw [hblock, hfree]
    rfl
  have hrun : Run.runCurrent ready.book ready.registry ready.setPlaying.world = .ok () world := hrun
  obtain ⟨statement, mid, hcurrent, hrest⟩ := Result.bind_eq_ok.1 hrun
  obtain ⟨rfl, here⟩ := Steps.current_found hcurrent
  rw [hregistry] at hrest
  have htraceable : Traceable ready.book ready.setPlaying.world := hbook.of_storage rfl
  obtain ⟨count, jumped, last, landing, -, way⟩ := way_of_chain htraceable here hrest
  have htyped : ready.setPlaying.world.prompt.finishedTyping = true :=
    congrArg Prompt.finishedTyping hprompt
  refine ⟨rfl, way.storage, fun hquiet => way.typed hquiet htyped, landing,
    way.rested hgates (congrArg Prompt.pending hprompt) (htidy.of_eq rfl rfl), ?_⟩
  rw [way.sheet, show ready.setPlaying.world.sheet = ⟨false, [], []⟩ from hsheet]
  cases jumped <;> rfl

/-- **A game that was started** has the actions of its story, can be traced back and is at rest. -/
theorem begun_parts (hmade : story.gameWith? story.registry = some made)
    (hready : Game.setup (made.withPreferences preferences) = .ok () ready)
    (hbook : Traceable ready.book ready.world) (hbegun : Game.start ready = .ok () begun) :
    begun.registry = builtinRegistry story.characters story.particles
      ∧ Traceable begun.book begun.world
      ∧ ∃ stop, Rested story.characters story.particles begun.book stop begun.world := by
  obtain ⟨hfixed, hstorage, -, stop, hrested, -⟩ := rested_begun hmade hready hbook hbegun
  have hsame : begun.book = ready.book := congrArg Prod.fst hfixed
  rw [hsame]
  exact ⟨(congrArg (·.2.1) hfixed).trans (ready_parts hmade hready).1, hbook.of_storage hstorage,
    stop, hrested⟩

end Beginning

end Narrative
