import Narrative.Proofs.Resumable
import Narrative.Proofs.Slots

/-!
# Proofs/Resumed — a saved game is given back by its slot

In a story whose worlds a slot holds all of, a game that is saved on a line or on a menu is given
back by loading the slot, where a store holds it as it was written: the loaded game looks like the
saved one (`look_resumed`).
-/

namespace Narrative

/-- **The games reached from one that was set up**, by calls that succeed.  What is loaded was saved
by a game so reached. -/
inductive Smooth (ready : Game) : Game → Prop
  | setup : Smooth ready ready
  | call {game : Game} (smooth : Smooth ready game) (call : Call)
      (succeeds : call.fault? game = none) : Smooth ready (call.left game)
  | reset {game after : Game} (smooth : Smooth ready game)
      (succeeds : Game.reset game = .ok () after) : Smooth ready after
  | load {σ : Type} [Store σ] {store : σ} {key date : String} {name : Option String}
      {game saved after : Game} (smooth : Smooth ready game) (other : Smooth ready saved)
      (stored : Store.get store key = .ok (saved.toSlot name date).toJson)
      (succeeds : Game.loadFromSlot store key game = .ok () after) : Smooth ready after

/-- **A game that was set up** and whose worlds a slot holds all of. -/
structure Primed (story : Story) (ready : Game) : Prop where
  /-- The actions are the built-in ones. -/
  registry : ready.registry = story.registry
  /-- The story has no pages and no menus inside menus, and types nothing out. -/
  book : Unpaged story.characters ⟨story.storage⟩ ready.book
  /-- The names of the world data are distinct. -/
  distinct : Fields.Distinct story.storage
  /-- A new game has one variable. -/
  vars : ready.freshState.vars = [(Particles.runningVar, .str "")]
  /-- A new game has the world data of the story. -/
  storage : ready.freshStorage = ⟨story.storage⟩
  /-- A slot holds all of the world. -/
  world : Resumable story.characters ⟨story.storage⟩ ready.book ready.world
  /-- No game is in progress. -/
  idle : ready.world.globals.playing = false

section Resumed

variable {story : Story} {ready game saved : Game}

/-- **A story that was set up.** -/
theorem primed_setup {fresh : Game} {preferences : Preferences}
    (hdistinct : Fields.Distinct story.storage)
    (made : story.gameWith? story.registry = some fresh)
    (setUp : Game.setup (fresh.withPreferences preferences) = .ok () ready)
    (hunpaged : ready.book.statements.all (unpaged story.characters ready.book ready.world) = true)
    (hflat : ∀ statement ∈ ready.book.statements, Terminal.isNested statement = false)
    (hquiet : story.settings.typeAnimation = false) : Primed story ready := by
  have callbackless := callbackless_of_gameWith? made preferences
  obtain ⟨hregistry, hsheet, hprompt, htidy, hflags⟩ := ready_parts made setUp
  obtain ⟨script, hscript, rfl⟩ := Option.map_eq_some_iff.1 made
  rw [setup_eq rfl] at setUp
  obtain ⟨-, hready⟩ := EStateM.Result.ok.inj setUp
  have hbook : ready.book = ⟨script, story.settings, preferences⟩ := by
    rw [← hready]
    rfl
  have hstorage : ready.world.storage = ⟨story.storage⟩ := by
    rw [← hready]
    rfl
  have hvars : ready.world.state.vars = [(Particles.runningVar, .str "")] := by
    rw [← hready]
    rfl
  have hbare : ready.world.frame = .bare ⟨story.storage⟩ :=
    bare_of_parts hstorage htidy.exist ⟨congrArg Sheet.showing hsheet, congrArg Sheet.lines hsheet⟩
      (congrArg Prompt.finishedTyping hprompt) hflags
  refine ⟨hregistry, ⟨hbook ▸ callbackless, fun world hworld => ?_, hflat, ?_⟩, hdistinct, ?_, ?_,
    ⟨hbare, ⟨_, hvars⟩, fun kept hkept => ?_⟩, ?_⟩
  · rw [unpaged_congr (hworld.trans hstorage.symm)]
    exact hunpaged
  · rw [hbook]
    exact hquiet
  · rw [← hready]
    rfl
  · rw [← hready]
    rfl
  · rw [hprompt] at hkept
    cases hkept
  · rw [← hready]
    rfl

/-- **A game like the one that was set up**, in a world that a slot holds all of. -/
structure Steady (story : Story) (ready game : Game) : Prop where
  /-- Only the world and the timer differ. -/
  fixed : game.fixed = ready.fixed
  /-- A slot holds all of the world. -/
  world : Resumable story.characters ⟨story.storage⟩ ready.book game.world

namespace Steady

theorem book (h : Steady story ready game) : game.book = ready.book := congrArg Prod.fst h.fixed

theorem registry (h : Steady story ready game) (hready : Primed story ready) :
    game.registry = story.registry := (congrArg (·.2.1) h.fixed).trans hready.registry

/-- The stacks are those of the built-in actions. -/
theorem exist (h : Steady story ready game) (stack : String) :
    (game.world.history.get? stack).isSome = stackNames.contains stack :=
  congrFun (congrArg Frame.exist h.world.frame) stack

/-- **A reset** leaves such a world. -/
theorem blank (h : Steady story ready game) (hready : Primed story ready) :
    Resumable story.characters ⟨story.storage⟩ ready.book game.blankWorld := by
  have hfresh : game.freshState = ready.freshState := congrArg (·.2.2.1) h.fixed
  have hstorage : game.freshStorage = ready.freshStorage := congrArg (·.2.2.2) h.fixed
  have hlook := look_blankWorld game
  have hvars : game.blankWorld.state.vars = [(Particles.runningVar, .str "")] := by
    have hstate : game.blankWorld.state = game.freshState.set Particles.runningVar (.str "") :=
      congrArg Look.state hlook
    rw [hstate, State.set, hfresh, hready.vars]
    simp [Fields.insert]
  have hexist : ∀ name, (game.blankWorld.history.get? name).isSome = true ↔ name ∈ stackNames := by
    intro name
    have hclear : game.blankWorld.history.get? name
        = (game.world.history.get? name).map fun _ => [] :=
      Table.get?_map _ game.world.history.byName name
    rw [hclear, Option.isSome_map, h.exist name, List.contains_iff_mem]
  refine ⟨bare_of_parts (hstorage.trans hready.storage) hexist
    ⟨congrArg Look.showing hlook, congrArg Look.page hlook⟩ (congrArg Look.finishedTyping hlook)
    ⟨rfl, rfl⟩, ⟨_, hvars⟩, fun kept hkept => ?_⟩
  have hnone : game.blankWorld.prompt.pending = none := congrArg Look.pending hlook
  rw [hnone] at hkept
  cases hkept

/-- The world that a reset leaves while a game is in progress. -/
theorem blank_playing (h : Steady story ready game) (hready : Primed story ready) :
    Resumable story.characters ⟨story.storage⟩ ready.book game.setPlaying.blankWorld := by
  have hplaying : Steady story ready game.setPlaying :=
    ⟨h.fixed, h.world.congr h.world.frame h.world.vars (Or.inr ⟨rfl, rfl⟩)⟩
  exact hplaying.blank hready

/-! Merging a slot over a new game leaves the slot. -/

theorem state_restored (h : Steady story ready game) (hready : Primed story ready)
    (hsaved : Steady story ready saved) (name : Option String) (date : String) :
    (game.restored (saved.toSlot name date)).world.state = saved.world.state := by
  obtain ⟨old, hold⟩ := (h.blank_playing hready).vars
  obtain ⟨new, hnew⟩ := hsaved.world.vars
  calc (game.restored (saved.toSlot name date)).world.state
      = ⟨saved.world.state.cursor, Fields.extend game.setPlaying.blankWorld.state.vars
          saved.world.state.vars⟩ := rfl
    _ = ⟨saved.world.state.cursor, [(Particles.runningVar, new)]⟩ := by
        rw [hold, hnew]
        simp [Fields.extend, Fields.insert]
    _ = saved.world.state := by rw [← hnew]

theorem history_restored (h : Steady story ready game) (hsaved : Steady story ready saved)
    (name : Option String) (date : String) :
    (game.restored (saved.toSlot name date)).world.history = saved.world.history := by
  refine History.ext_get? (funext fun stack => ?_)
  have hmerged : (game.restored (saved.toSlot name date)).world.history.get? stack
      = (saved.world.history.get? stack).or ((game.world.history.get? stack).map fun _ => []) :=
    History.get?_merge_clear game.world.history saved.world.history stack
  have hsame := (h.exist stack).trans (hsaved.exist stack).symm
  rw [hmerged]
  cases hfound : saved.world.history.get? stack with
  | some entries => rfl
  | none =>
    rw [hfound, Option.isSome_none, Option.isSome_eq_false_iff, Option.isNone_iff_eq_none] at hsame
    rw [hsame]
    rfl

theorem frame_restored (h : Steady story ready game) (hready : Primed story ready)
    (hsaved : Steady story ready saved) (name : Option String) (date : String) :
    (game.restored (saved.toSlot name date)).world.frame = .bare ⟨story.storage⟩ := by
  have hblank := (h.blank_playing hready).frame
  have hstorage : (game.restored (saved.toSlot name date)).world.storage
      = ⟨Fields.extend game.freshStorage.data saved.world.storage.data⟩ := rfl
  have hfresh : game.freshStorage = ⟨story.storage⟩ :=
    (congrArg (·.2.2.2) h.fixed).trans hready.storage
  refine bare_of_parts ?_ (fun stack => ?_)
    ⟨congrArg Frame.showing hblank, congrArg Frame.page hblank⟩
    (congrArg Frame.finishedTyping hblank) ⟨rfl, rfl⟩
  · rw [hstorage, hfresh, hsaved.world.data, Fields.extend_self hready.distinct]
  · rw [h.history_restored hsaved name date, hsaved.exist stack, List.contains_iff_mem]

/-- **Merging a slot over a new game** leaves a world that a slot holds all of. -/
theorem restored (h : Steady story ready game) (hready : Primed story ready)
    (hsaved : Steady story ready saved) (name : Option String) (date : String) :
    Resumable story.characters ⟨story.storage⟩ ready.book
      (game.restored (saved.toSlot name date)).world :=
  hsaved.world.congr (h.frame_restored hready hsaved name date)
    (by rw [h.state_restored hready hsaved name date]; exact hsaved.world.vars)
    (Or.inl (pending_restored game _))

/-- **It looks like the saved one**, without its menu. -/
theorem look_restored (h : Steady story ready game) (hready : Primed story ready)
    (hsaved : Steady story ready saved) (name : Option String) (date : String) :
    (game.restored (saved.toSlot name date)).world.look
      = { saved.world.look with playing := true, pending := none } := by
  have hpending : (game.restored (saved.toSlot name date)).world.look.pending = none :=
    pending_restored game _
  rw [look_eq_of_frame ((h.frame_restored hready hsaved name date).trans hsaved.world.frame.symm)
    (h.state_restored hready hsaved name date) (h.history_restored hsaved name date), hpending]
  rfl

/-- A slot holds the variables. -/
theorem storable (h : Steady story ready game) : game.world.state.Storable := by
  obtain ⟨value, hvars⟩ := h.world.vars
  refine ⟨?_, ?_, ?_⟩ <;> simp [Fields.Distinct, Fields.keys, hvars, Particles.runningVar]

/-- **A call** leaves such a game. -/
theorem call (h : Steady story ready game) (hready : Primed story ready) (call : Call) :
    Steady story ready (call.left game) := by
  have hregistry := h.registry hready
  have hbook : Unpaged story.characters ⟨story.storage⟩ game.book := by
    rw [h.book]
    exact hready.book
  have hworld : Resumable story.characters ⟨story.storage⟩ game.book game.world := by
    rw [h.book]
    exact h.world
  refine ⟨(fixed_call hregistry call).trans h.fixed, ?_⟩
  rw [← h.book]
  exact (keeps_resumable hbook).call hregistry hworld call

/-- **Loading a slot of such a game** runs the statement at the cursor over what it holds. -/
theorem load_eq {σ : Type} [Store σ] {store : σ} {key date : String} {name : Option String}
    (h : Steady story ready game) (hready : Primed story ready)
    (hsaved : Steady story ready saved)
    (stored : Store.get store key = .ok (saved.toSlot name date).toJson) :
    Game.loadFromSlot store key game
      = Game.runCurrent ((game.restored (saved.toSlot name date)).withWorld
          (Particles.resume story.particles)) := by
  have hstorable : (saved.toSlot name date).snapshot.state.Storable := hsaved.storable
  exact loadFromSlot_of_stored (h.registry hready) hstorable stored

/-- It leaves such a game. -/
theorem load {σ : Type} [Store σ] {store : σ} {key date : String} {name : Option String}
    (h : Steady story ready game) (hready : Primed story ready)
    (hsaved : Steady story ready saved)
    (stored : Store.get store key = .ok (saved.toSlot name date).toJson) :
    Steady story ready (Result.left (Game.loadFromSlot store key game)) := by
  rw [h.load_eq hready hsaved stored]
  refine ⟨(fixed_ofPlay _).trans h.fixed, ?_⟩
  have hresumed := (h.restored hready hsaved name date).resume story.particles
  have hbook : (game.restored (saved.toSlot name date)).book = ready.book := h.book
  have hregistry : (game.restored (saved.toSlot name date)).registry
      = builtinRegistry story.characters story.particles := h.registry hready
  rw [Game.runCurrent, world_left_ofPlay]
  show Resumable _ _ _ (Result.left (Run.runCurrent (game.restored (saved.toSlot name date)).book
    (game.restored (saved.toSlot name date)).registry _))
  rw [hbook, hregistry]
  exact (keeps_resumable hready.book).runCurrent hresumed

end Steady

/-- **Every game so reached is like the one that was set up**, in a world that a slot holds all
of. -/
theorem Smooth.steady (hready : Primed story ready) (h : Smooth ready game) :
    Steady story ready game := by
  induction h with
  | setup => exact ⟨rfl, hready.world⟩
  | call smooth call succeeds ih => exact ih.call hready call
  | reset smooth succeeds ih =>
    rw [reset_eq (ih.registry hready)] at succeeds
    obtain rfl := (EStateM.Result.ok.inj succeeds).2
    exact ⟨ih.fixed, ih.blank hready⟩
  | load smooth other stored succeeds ih ihother =>
    have hleft := ih.load hready ihother stored
    rw [succeeds] at hleft
    exact hleft

/-! ## A game in progress -/

/-- **Where no statement may be run**, running one fails. -/
theorem run_eq_error {book : Playbook} {registry : Registry} (hchain : book.settings.maxChain = 0)
    (statement : Statement) (advance : Bool) (world : World) :
    Run.run book registry statement advance world
      = .error (.chainLimit book.settings.maxChain world.cursor) world := by
  rw [Run.run, hchain, Run.chain, hchain]

/-- So neither starting nor loading a game succeeds. -/
theorem runCurrent_fault (hchain : game.book.settings.maxChain = 0) :
    (Result.fault? (Game.runCurrent game)).isSome = true := by
  cases here : game.book.current? game.world with
  | none =>
    simp only [Game.runCurrent, Turn.ofPlay, Run.runCurrent, bind, EStateM.bind, Run.current, here]
    rfl
  | some statement =>
    simp only [Game.runCurrent, Turn.ofPlay, Run.runCurrent, bind, EStateM.bind, Run.current, here,
      run_eq_error hchain]
    rfl

/-- **A call that succeeds where no statement may be run** does not set the game going. -/
theorem idle_call {characters : Table Character} {presets : Fields Json}
    (hregistry : game.registry = builtinRegistry characters presets)
    (hchain : game.book.settings.maxChain = 0) (hidle : game.world.globals.playing = false)
    (call : Call) (succeeds : call.fault? game = none) :
    (call.left game).world.globals.playing = false := by
  have hclosed : ¬game.world.globals.gatesOpen = true := by
    simp [Globals.gatesOpen, hidle]
  cases call with
  | start =>
    have hfault : (Result.fault? (Game.start game)).isSome = true := by
      rw [start_eq hregistry]
      exact runCurrent_fault hchain
    rw [show Result.fault? (Game.start game) = none from succeeds] at hfault
    cases hfault
  | proceed =>
    show (Result.left (Game.proceed game)).world.globals.playing = false
    rw [(moves_closed hclosed).1]
    exact hidle
  | rollback =>
    show (Result.left (Game.rollback game)).world.globals.playing = false
    rw [(moves_closed hclosed).2]
    exact hidle
  | select key =>
    cases hselect : Game.select key game with
    | ok answer after =>
      obtain ⟨item, statement, world, -, -, -, hrun, -⟩ := run_of_select hselect
      rw [run_eq_error hchain] at hrun
      cases hrun
    | error fault after =>
      have hfault : Result.fault? (Game.select key game) = none := succeeds
      rw [hselect] at hfault
      cases hfault
  | finishTyping => exact hidle

/-- **So no game is in progress** there. -/
theorem Smooth.idle (hready : Primed story ready) (h : Smooth ready game)
    (hzero : ready.book.settings.maxChain = 0) : game.world.globals.playing = false := by
  induction h with
  | setup => exact hready.idle
  | @call game smooth call succeeds ih =>
    have hsteady := smooth.steady hready
    have hnone : game.book.settings.maxChain = 0 := by rw [hsteady.book, hzero]
    exact idle_call (hsteady.registry hready) hnone ih call succeeds
  | @reset game after smooth succeeds ih =>
    rw [reset_eq ((smooth.steady hready).registry hready)] at succeeds
    obtain rfl := (EStateM.Result.ok.inj succeeds).2
    exact (congrArg Look.playing (look_blankWorld game)).trans ih
  | @load σ _ store key date name game saved after smooth other stored succeeds ih ihother =>
    have hsteady := smooth.steady hready
    have hnone : game.book.settings.maxChain = 0 := by rw [hsteady.book, hzero]
    have hfault : (Result.fault? (Game.loadFromSlot store key game)).isSome = true := by
      rw [hsteady.load_eq hready (other.steady hready) stored]
      exact runCurrent_fault hnone
    rw [succeeds] at hfault
    cases hfault

/-- **A game so reached that is in progress** may run statements. -/
theorem Smooth.chain_pos (hready : Primed story ready) (h : Smooth ready game)
    (hplaying : game.world.globals.playing = true) : 0 < ready.book.settings.maxChain := by
  rw [Nat.pos_iff_ne_zero]
  intro hzero
  rw [h.idle hready hzero] at hplaying
  cases hplaying

/-! ## Continuing -/

/-- The answer of a call that has one. -/
def Call.answer? : Call → Game → Option Bool
  | proceed, game => Result.answer? (Game.proceed game)
  | rollback, game => Result.answer? (Game.rollback game)
  | start, _ | select _, _ | finishTyping, _ => none

/-- Calls on games that look alike have one answer, or one fault. -/
theorem Moves.reply {base other : Game} {R : World → World → Prop} {E : Fault → Prop}
    (h : Moves R base.book base.registry E) (halong : Along base R game other) (call : Call) :
    call.answer? game = call.answer? other ∧ call.fault? game = call.fault? other := by
  cases call with
  | start => exact ⟨rfl, (h.start halong).reply.2⟩
  | proceed => exact (h.proceed halong).reply
  | rollback => exact (h.rollback halong).reply
  | select key => exact ⟨rfl, (h.select key halong).reply.2⟩
  | finishTyping => exact ⟨rfl, rfl⟩

/-- **Where a game can be saved and continued**: on a line, or with its menu open. -/
def Game.isResting (characters : Table Character) (game : Game) : Bool :=
  (lineAt? characters game.book game.world).isSome || Choice.isPending game.world

/-- A game that rests is at a stop, and its menu is that of the stop. -/
theorem Steady.stop (h : Steady story ready game)
    (hresting : game.isResting story.characters = true) :
    ∃ stop, StopAt story.characters ready.book game.world stop
      ∧ game.world.prompt.pending = stop.pending game.world.storage := by
  rw [Game.isResting, Bool.or_eq_true, h.book] at hresting
  obtain hline | hpending := hresting
  · obtain ⟨say, hsay⟩ := Option.isSome_iff_exists.1 hline
    have hat := stopAt_of_lineAt? hsay
    refine ⟨.line say, hat, ?_⟩
    cases hat with
    | line here filled kind said => exact h.world.pending_of_text here
  · obtain ⟨kept, hkept⟩ := Option.isSome_iff_exists.1 hpending
    obtain ⟨options, hat, rfl⟩ := h.world.menu kept hkept
    exact ⟨.menu options, hat, hkept⟩

/-- **Loading the slot of a game that rests** gives back a game that looks like it. -/
theorem look_resumed {σ : Type} [Store σ] {store : σ} {key date : String} {name : Option String}
    (hready : Primed story ready) (hsmooth : Smooth ready game)
    (hplaying : game.world.globals.playing = true)
    (hresting : game.isResting story.characters = true)
    (stored : Store.get store key = .ok (game.toSlot name date).toJson) :
    ∃ loaded, Game.loadFromSlot store key ready = .ok () loaded
      ∧ Along ready LookAlike loaded game := by
  have hsteady := hsmooth.steady hready
  have hprimed : Steady story ready ready := Smooth.setup.steady hready
  have hchain := hsmooth.chain_pos hready hplaying
  obtain ⟨stop, hat, hpending⟩ := hsteady.stop hresting
  have hlook := hprimed.look_restored hready hsteady name date
  have hcursor : (ready.restored (game.toSlot name date)).world.cursor = game.world.cursor :=
    congrArg State.cursor (hprimed.state_restored hready hsteady name date)
  have hstorage : (ready.restored (game.toSlot name date)).world.storage = game.world.storage :=
    congrArg Look.storage hlook
  have hnone : (Particles.resume story.particles
      (ready.restored (game.toSlot name date)).world).prompt.pending = none :=
    pending_restored ready (game.toSlot name date)
  have hworld := (hprimed.restored hready hsteady name date).resume story.particles
  obtain ⟨after, hrun, hafter⟩ :=
    hworld.runCurrent story.particles hready.book hchain hnone (hat.congr hcursor hstorage)
  refine ⟨{ ready.restored (game.toSlot name date) with world := after }, ?_, rfl, hsteady.fixed,
    ?_⟩
  · rw [hprimed.load_eq hready hsteady stored]
    refine ofPlay_eq_ok.2 ⟨after, ?_, rfl⟩
    show Run.runCurrent ready.book ready.registry _ = _
    rw [hready.registry]
    exact hrun
  · have hsame : game.world.look.playing = true := hplaying
    have hmenu : stop.pending (ready.restored (game.toSlot name date)).world.storage
        = game.world.look.pending := by
      rw [hstorage]
      exact hpending.symm
    calc after.look
        = { (ready.restored (game.toSlot name date)).world.look with
            pending := stop.pending (ready.restored (game.toSlot name date)).world.storage } :=
          hafter
      _ = { game.world.look with playing := true, pending := game.world.look.pending } := by
          rw [hlook, hmenu]
      _ = game.world.look := by rw [← hsame]

end Resumed

/-! ## A game saved at a menu -/

/-- A story with an inn. -/
def innStory : Story :=
  { script := .obj
      [("Start", .arr
        [.str "particles rain",
          .str "It rains.",
          .obj [("Choice", .obj
            [("enter", .obj [("Do", .str "jump Inn")]),
              ("wait", .obj [("Do", .str "It still rains.")])])]]),
        ("Inn", .arr [.str "It is warm."])]
    characters := Table.empty
    particles := [("rain", .obj [])]
    storage := [("guests", .ofNat 3)]
    settings := { typeAnimation := false } }

/-- The game of the story. -/
def innMade : Game := (innStory.gameWith? innStory.registry).get (by decide +kernel)

/-- The game, set up. -/
def innReady : Game := Result.left (Game.setup (innMade.withPreferences {}))

/-- At the menu, in the rain. -/
def innMenu : Game := Call.proceed.left (Call.start.left innReady)

/-- A store with the slot of the game at its menu. -/
def innStore : MemoryStore :=
  ⟨Table.empty.insert "Save_1" (innMenu.toSlot none "today").toJson⟩

end Narrative
