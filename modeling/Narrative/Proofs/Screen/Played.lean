import Narrative.Game.Saves
import Narrative.Proofs.Screen.Actions
import Narrative.Proofs.Setup

/-!
# Proofs/Screen/Played — the effects of a game determine the screen

A story is **played** by a host that makes calls and takes the effects after each (`Played`).  A new
game and a loaded one begin with a blank screen; from there on, drawing the effects gives what the
game keeps of the screen, whatever is called and whatever comes of it.

There is one exception, and the theorem says when it occurs: the particle system of the empty name,
which a statement without a second word runs and no variable names.
-/

namespace Narrative

variable {story : Story} {screen : Screen} {game : Game}

/-! ## Runs -/

/-- **A call of the host.** -/
inductive Call where
  /-- Start. -/
  | start
  /-- Continue. -/
  | proceed
  /-- Go back. -/
  | rollback
  /-- Pick the option of a key. -/
  | select (key : String)
  /-- The text of the line is all there. -/
  | finishTyping

/-- The game that a call leaves, whatever the answer or the fault. -/
def Call.left : Call → Game → Game
  | start, game => Result.left (Game.start game)
  | proceed, game => Result.left (Game.proceed game)
  | rollback, game => Result.left (Game.rollback game)
  | select key, game => Result.left (Game.select key game)
  | finishTyping, game => game.finishTyping

/-- **A call keeps what its moves keep.** -/
theorem Moves.call {base game other : Game} {R : World → World → Prop} {E : Fault → Prop}
    (h : Moves R base.book base.registry E)
    (hfinish : ∀ ⦃w v⦄, R w v → R (w.withGlobals ({ · with finishedTyping := true }))
      (v.withGlobals ({ · with finishedTyping := true }))) (call : Call)
    (halong : Along base R game other) : Along base R (call.left game) (call.left other) := by
  cases call with
  | start => exact (h.start halong).left
  | proceed => exact (h.proceed halong).left
  | rollback => exact (h.rollback halong).left
  | select key => exact (h.select key halong).left
  | finishTyping => exact ⟨halong.fixed, halong.fixed', hfinish halong.world⟩

/-- **The games played of a story**, each with the effects since it was set up, last reset or last
loaded.  The host takes the effects after every call; what is loaded was saved by a game played of
the same story. -/
inductive Played (story : Story) : Game → List Effect → Prop
  | setup {fresh ready : Game} (preferences : Preferences)
      (made : story.gameWith? story.registry = some fresh)
      (setUp : Game.setup (fresh.withPreferences preferences) = .ok () ready) :
      Played story ready.drainEffects.2 ready.drainEffects.1
  | call {game : Game} {effects : List Effect} (played : Played story game effects) (call : Call) :
      Played story (call.left game).drainEffects.2 (effects ++ (call.left game).drainEffects.1)
  | reset {game : Game} {effects : List Effect} (played : Played story game effects) :
      Played story (Result.left (Game.reset game)).drainEffects.2
        (Result.left (Game.reset game)).drainEffects.1
  | load {σ : Type} [Store σ] {store : σ} {key date : String} {name : Option String}
      {game saved after : Game} {effects others : List Effect} (played : Played story game effects)
      (other : Played story saved others)
      (stored : Store.get store key = .ok (saved.toSlot name date).toJson)
      (loaded : Game.loadFromSlot store key game = .ok () after) :
      Played story after.drainEffects.2 after.drainEffects.1

/-! ## The invariant -/

/-- **A game on a screen**, which shows the world once the effects that wait are drawn.  What a new
game starts from names no preset that is not there. -/
structure OnScreen (story : Story) (screen : Screen) (game : Game) : Prop where
  /-- The actions are the built-in ones. -/
  registry : game.registry = story.registry
  /-- No statement is a callback. -/
  callbackless : game.book.Callbackless
  /-- A new game names presets only. -/
  fresh : Known story.particles game.freshState.vars
  /-- The screen shows the world. -/
  showing : Showing story.particles screen game.world

/-- **Taking the effects draws them.** -/
theorem OnScreen.drain (h : OnScreen story screen game) :
    OnScreen story (screen.drawAll game.drainEffects.1) game.drainEffects.2 :=
  ⟨h.registry, h.callbackless, h.fresh, h.showing⟩

/-- What keeps the screen along, leaves the game on it. -/
theorem OnScreen.along {after : Game} (h : OnScreen story screen game)
    (hafter : Along game (Invariant (Showing story.particles screen)) after after) :
    OnScreen story screen after where
  registry := hafter.registry.1.trans h.registry
  callbackless := by
    rw [hafter.book.1]
    exact h.callbackless
  fresh := by
    have hfresh : after.freshState = game.freshState := congrArg (·.2.2.1) hafter.fixed
    rw [hfresh]
    exact h.fresh
  showing := hafter.world.2

theorem OnScreen.self (h : OnScreen story screen game) :
    Along game (Invariant (Showing story.particles screen)) game game :=
  ⟨rfl, rfl, rfl, h.showing⟩

theorem OnScreen.moves (h : OnScreen story screen game) :
    Moves (Invariant (Showing story.particles screen)) game.book game.registry := by
  rw [h.registry]
  exact showing_moves h.callbackless

/-- **A call leaves the game on the screen.** -/
theorem OnScreen.call (h : OnScreen story screen game) (call : Call) :
    OnScreen story screen (call.left game) := by
  refine h.along (h.moves.call ?_ call h.self)
  rintro w _ ⟨rfl, hshowing⟩
  exact ⟨rfl, hshowing.of_eq rfl rfl rfl rfl⟩

/-! ## Beginnings -/

theorem known_nil : Known story.particles [] := fun _ _ h => nomatch h

theorem known_clear {vars : Fields Json} (h : Known story.particles vars) :
    Known story.particles (Fields.insert vars Particles.runningVar (.str "")) :=
  h.insert fun name hname => by
    have hnone : (Text.words "")[1]? = none := rfl
    rw [hnone] at hname
    cases hname

/-- **A blank screen shows a look** with an empty page, no menu and no particle system. -/
theorem shown_blank {look : Look} (hpage : look.page = []) (hpending : look.pending = none)
    (hrunning : look.running = none) (hknown : Known story.particles look.state.vars) :
    Shown story.particles Screen.blank look where
  page := hpage.symm
  menu := by rw [Look.menu, hpending]; rfl
  particles := hrunning.symm
  defined _ h := nomatch h
  known := hknown

theorem onScreen_setup {fresh ready : Game} {preferences : Preferences}
    (made : story.gameWith? story.registry = some fresh)
    (setUp : Game.setup (fresh.withPreferences preferences) = .ok () ready) :
    OnScreen story Screen.blank ready := by
  have hbook := callbackless_of_gameWith? made preferences
  obtain ⟨script, hscript, rfl⟩ := Option.map_eq_some_iff.1 made
  rw [setup_eq rfl] at setUp
  obtain rfl := (EStateM.Result.ok.inj setUp).2
  have hknown : Known story.particles [(Particles.runningVar, .str "")] :=
    known_clear known_nil
  exact ⟨rfl, hbook, hknown, shown_blank rfl rfl rfl hknown⟩

/-- **A reset leaves the game on a blank screen**, when no effects wait. -/
theorem OnScreen.reset (h : OnScreen story screen game) (hqueue : game.world.queue = []) :
    OnScreen story Screen.blank (Result.left (Game.reset game)) := by
  rw [reset_eq h.registry]
  refine ⟨h.registry, h.callbackless, h.fresh, ?_⟩
  have heffects : game.blankWorld.effects = [] := by
    show game.world.queue.reverse = []
    rw [hqueue]
    rfl
  show Showing story.particles Screen.blank game.blankWorld
  rw [Showing, heffects, look_blankWorld]
  exact shown_blank rfl rfl (Shown.running_clear rfl) (known_clear h.fresh)

/-! ## Loading -/

/-- Whether a name is that of no part of the cursor. -/
def State.isFree (name : String) : Bool := name ≠ "label" && name ≠ "step"

/-- **The variables that are read** are the fields that are no part of the cursor. -/
theorem State.vars_of_ofJson? {value : Json} {read : State} (h : State.ofJson? value = some read) :
    ∃ fields, value = .obj fields ∧ read.vars = fields.filter (State.isFree ·.1) := by
  cases value with
  | obj fields =>
    obtain ⟨label, -, h⟩ := Option.bind_eq_some_iff.1 h
    obtain ⟨name, -, h⟩ := Option.bind_eq_some_iff.1 h
    obtain ⟨step, -, h⟩ := Option.bind_eq_some_iff.1 h
    obtain ⟨place, -, h⟩ := Option.bind_eq_some_iff.1 h
    obtain rfl := Option.some.inj h
    exact ⟨fields, rfl, rfl⟩
  | _ => cases h

/-- The variables of a saved state are read back; others are not. -/
theorem State.mem_vars_of_ofJson? {state read : State}
    (h : State.ofJson? state.toJson = some read) {field : String × Json}
    (hmem : field ∈ read.vars) : field ∈ state.vars := by
  obtain ⟨fields, hfields, hvars⟩ := State.vars_of_ofJson? h
  obtain rfl := Json.obj.inj hfields
  obtain ⟨hfield, hname⟩ := List.mem_filter.1 (hvars ▸ hmem)
  rcases Fields.mem_extend hfield with hfield | hfield
  · rcases List.mem_cons.1 hfield with rfl | hfield
    · cases hname
    · obtain rfl := List.mem_singleton.1 hfield
      cases hname
  · exact hfield

/-- **The state of a snapshot** is read from a part of the value. -/
theorem Snapshot.state_of_ofJson? {value : Json} {read : Snapshot}
    (h : Snapshot.ofJson? value = some read) :
    ∃ history written storage,
      value.slots ["history", "state", "storage"] = some [history, some written, storage]
        ∧ State.ofJson? written = some read.state := by
  obtain ⟨parts, hparts, h⟩ := Option.bind_eq_some_iff.1 h
  split at h
  · next history state storage =>
    obtain ⟨found, -, h⟩ := Option.bind_eq_some_iff.1 h
    obtain ⟨place, hstate, h⟩ := Option.bind_eq_some_iff.1 h
    obtain ⟨data, -, h⟩ := Option.bind_eq_some_iff.1 h
    obtain rfl := Option.some.inj h
    obtain ⟨written, rfl, hread⟩ := Option.bind_eq_some_iff.1 hstate
    exact ⟨history, written, storage, hparts, hread⟩
  · cases h

/-- **The snapshot of a slot** is read from a part of the value. -/
theorem SaveSlot.snapshot_of_ofJson? {value : Json} {read : SaveSlot}
    (h : SaveSlot.ofJson? value = some read) :
    ∃ name date image written,
      value.slots ["name", "date", "image", "snapshot"] = some [name, date, image, some written]
        ∧ Snapshot.ofJson? written = some read.snapshot := by
  obtain ⟨parts, hparts, h⟩ := Option.bind_eq_some_iff.1 h
  split at h
  · next name date image snapshot =>
    obtain ⟨title, -, h⟩ := Option.bind_eq_some_iff.1 h
    obtain ⟨day, -, h⟩ := Option.bind_eq_some_iff.1 h
    obtain ⟨scene, -, h⟩ := Option.bind_eq_some_iff.1 h
    obtain ⟨found, hsnapshot, h⟩ := Option.bind_eq_some_iff.1 h
    obtain rfl := Option.some.inj h
    obtain ⟨written, rfl, hread⟩ := Option.bind_eq_some_iff.1 hsnapshot
    exact ⟨name, date, image, written, hparts, hread⟩
  · cases h

/-- The state of a slot is read from the state that was written. -/
theorem SaveSlot.state_of_ofJson? {slot read : SaveSlot}
    (h : SaveSlot.ofJson? slot.toJson = some read) :
    State.ofJson? slot.snapshot.state.toJson = some read.snapshot.state := by
  obtain ⟨name, date, image, snapshot, hslots, hsnapshot⟩ := SaveSlot.snapshot_of_ofJson? h
  cases hslots
  obtain ⟨history, state, storage, hparts, hstate⟩ := Snapshot.state_of_ofJson? hsnapshot
  cases hparts
  exact hstate

/-- Starting again the particle system that the variable names. -/
def Particles.resume (presets : Fields Json) (world : World) : World :=
  world.emit
    (Particles.effect? presets ((world.state.getText? Particles.runningVar).getD "")).toList

theorem Particles.onLoad_eq (presets : Fields Json) (world : World) :
    Particles.onLoad presets world = .ok () (Particles.resume presets world) := by
  unfold Particles.onLoad Particles.resume
  cases Particles.effect? presets ((world.state.getText? Particles.runningVar).getD "") <;> rfl

theorem onLoad_eq (hregistry : game.registry = story.registry) :
    Game.eachAction Action.onLoad game
      = .ok () (game.withWorld (Particles.resume story.particles)) := by
  simp [Game.eachAction, Turn.ofPlay, hregistry, Registry.each, Story.registry, builtinRegistry,
    Jump.action, Next.action, Particles.action, Choice.action, Dialog.action, bind, EStateM.bind,
    pure, EStateM.pure, Particles.onLoad_eq, Game.withWorld]

/-- A slot merged over a new game. -/
def Game.restored (game : Game) (slot : SaveSlot) : Game :=
  { game.setPlaying.clear with world := game.setPlaying.blankWorld.restore slot.snapshot }

/-- **Loading runs the statement of the slot**, over a new game. -/
theorem loadFromSlot_eq {σ : Type} [Store σ] {store : σ} {key : String} {slot : SaveSlot}
    (hregistry : game.registry = story.registry) (hread : Game.readSlot store key = .ok slot) :
    Game.loadFromSlot store key game
      = Game.runCurrent ((game.restored slot).withWorld (Particles.resume story.particles)) := by
  have hreset : Game.reset game.setPlaying
      = .ok () { game.setPlaying.clear with world := game.setPlaying.blankWorld } :=
    reset_eq hregistry
  have hload : Game.eachAction Action.onLoad
      (Game.withWorld { game.setPlaying.clear with world := game.setPlaying.blankWorld }
        fun world => world.restore slot.snapshot)
      = .ok () ((game.restored slot).withWorld (Particles.resume story.particles)) :=
    onLoad_eq hregistry
  simp only [Game.loadFromSlot, hread, bind, EStateM.bind, Turn.update, hreset, hload]

/-- The variable that names a particle system is a text, since it has a second word. -/
theorem statement_of_running {look : Look} {name : String} (h : look.running = some name) :
    ∃ statement, (Particles.runningVar, Json.str statement) ∈ look.state.vars
      ∧ (Text.words statement)[1]? = some name := by
  rw [Look.running, State.getText?, State.get?] at h
  cases hget : Fields.get? look.state.vars Particles.runningVar with
  | none =>
    rw [hget] at h
    cases h
  | some value =>
    rw [hget] at h
    cases value with
    | str statement => exact ⟨statement, Fields.mem_of_get? hget, h⟩
    | _ => cases h

/-- A blank screen shows a world whose particle system has been started again. -/
theorem showing_resume {world : World} (hqueue : world.queue = []) (hpage : world.look.page = [])
    (hpending : world.look.pending = none) (hknown : Known story.particles world.look.state.vars) :
    Showing story.particles Screen.blank (Particles.resume story.particles world) := by
  have heffects : world.effects = [] := by rw [World.effects, hqueue]; rfl
  have heffect : Particles.effect? story.particles
      ((world.state.getText? Particles.runningVar).getD "")
        = world.look.running.bind fun name =>
            (Fields.get? story.particles name).map (Effect.particles name) :=
    Particles.effect?_eq _
  rw [Particles.resume, heffect, showing_emit_iff, heffects]
  cases hrunning : world.look.running with
  | none => exact shown_blank hpage hpending hrunning hknown
  | some name =>
    obtain ⟨statement, hmem, hname⟩ := statement_of_running hrunning
    obtain ⟨config, hconfig⟩ := Option.isSome_iff_exists.1 (hknown statement name hmem hname)
    have hne : name ≠ "" := Text.ne_empty_of_mem_words (List.mem_of_getElem? hname)
    rw [Option.bind_some, hconfig]
    refine ⟨hpage.symm, by rw [Look.menu, hpending]; rfl, ?_, ?_, hknown⟩
    · show (some name).filter (· ≠ "") = _
      rw [hrunning]
      simp [hne]
    · rintro other hother
      obtain rfl : name = other := Option.some.inj hother
      exact hknown statement name hmem hname

/-- **Loading reads the slot that was stored.** -/
theorem slot_of_load {σ : Type} [Store σ] {store : σ} {key : String} {document : Json}
    {after : Game} (stored : Store.get store key = .ok document)
    (loaded : Game.loadFromSlot store key game = .ok () after) :
    ∃ slot, Game.readSlot store key = .ok slot ∧ SaveSlot.ofJson? document = some slot := by
  cases hread : Game.readSlot store key with
  | error fault =>
    rw [Game.loadFromSlot, hread] at loaded
    cases loaded
  | ok slot =>
    have hvalue : Game.fromStore (Store.get store key) = .ok document := by
      rw [stored]
      rfl
    rw [Game.readSlot, hvalue] at hread
    refine ⟨slot, rfl, ?_⟩
    cases hslot : SaveSlot.ofJson? document with
    | none => simp [bind, Except.bind, hslot] at hread
    | some read => simpa [bind, Except.bind, hslot] using hread

/-- **Loading a slot of the story leaves the game on a blank screen**, when no effects wait. -/
theorem OnScreen.load {σ : Type} [Store σ] {store : σ} {key date : String} {name : Option String}
    {saved after : Game} (h : OnScreen story screen game)
    (hqueue : game.world.queue = []) (hsaved : Known story.particles saved.world.state.vars)
    (stored : Store.get store key = .ok (saved.toSlot name date).toJson)
    (loaded : Game.loadFromSlot store key game = .ok () after) :
    OnScreen story Screen.blank after := by
  obtain ⟨slot, hread, hslot⟩ := slot_of_load stored loaded
  have hknown : Known story.particles slot.snapshot.state.vars :=
    hsaved.mono fun field hfield =>
      State.mem_vars_of_ofJson? (SaveSlot.state_of_ofJson? hslot) hfield
  -- The statement is run on a blank screen.
  have hresumed : OnScreen story Screen.blank
      ((game.restored slot).withWorld (Particles.resume story.particles)) := by
    refine ⟨h.registry, h.callbackless, h.fresh, showing_resume hqueue ?_ ?_ ?_⟩
    · exact congrArg Look.page (look_blankWorld game.setPlaying)
    · exact congrArg Look.pending (look_blankWorld game.setPlaying)
    · exact (known_clear h.fresh).extend hknown
  rw [loadFromSlot_eq h.registry hread] at loaded
  have hrun := (lockstep_ofPlay hresumed.moves.runCurrent hresumed.self).left
  have hleft : Result.left (Turn.ofPlay Run.runCurrent
      ((game.restored slot).withWorld (Particles.resume story.particles))) = after :=
    congrArg Result.left loaded
  rw [hleft] at hrun
  exact hresumed.along hrun

/-! ## The screen of a game -/

theorem Played.onScreen {effects : List Effect} (h : Played story game effects) :
    OnScreen story (Screen.blank.drawAll effects) game ∧ game.world.queue = [] := by
  induction h with
  | setup preferences made setUp => exact ⟨(onScreen_setup made setUp).drain, rfl⟩
  | call played call ih =>
    rw [Screen.drawAll_append]
    exact ⟨(ih.1.call call).drain, rfl⟩
  | reset played ih => exact ⟨(ih.1.reset ih.2).drain, rfl⟩
  | load played other stored loaded ih ihother =>
    exact ⟨(ih.1.load ih.2 ihother.1.showing.known stored loaded).drain, rfl⟩

/-- **The effects of a game determine its screen.**  Drawn from a blank one, they give the page and
the menu that the game keeps, and the particle system, unless a system of the empty name was
started last; this takes a preset of that name. -/
theorem screen_of_effects {effects : List Effect} (h : Played story game effects) :
    (Screen.blank.drawAll effects).page = (Screen.ofWorld game.world).page
      ∧ (Screen.blank.drawAll effects).menu = (Screen.ofWorld game.world).menu
      ∧ (Screen.blank.drawAll effects = Screen.ofWorld game.world
          ↔ (Screen.blank.drawAll effects).particles ≠ some "")
      ∧ ((Screen.blank.drawAll effects).particles = some "" →
          Fields.has story.particles "" = true) := by
  obtain ⟨honscreen, hqueue⟩ := h.onScreen
  have hshown : Shown story.particles (Screen.blank.drawAll effects) game.world.look := by
    have hshowing := honscreen.showing
    rwa [Showing, World.effects, hqueue] at hshowing
  rw [Screen.ofWorld_eq]
  refine ⟨hshown.page, hshown.menu, ⟨fun heq hempty => ?_, fun hne => ?_⟩, hshown.defined ""⟩
  · have hrunning : game.world.look.running = some "" := by
      rw [← hempty, heq]
    have hfilter := hshown.particles
    rw [hempty, hrunning] at hfilter
    cases hfilter
  · have hfilter : (Screen.blank.drawAll effects).particles.filter (· ≠ "")
        = (Screen.blank.drawAll effects).particles := by
      cases hparticles : (Screen.blank.drawAll effects).particles with
      | none => rfl
      | some name => simp [show name ≠ "" from fun hname => hne (hname ▸ hparticles)]
    rw [← hshown.page, ← hshown.menu, ← hshown.particles, hfilter]

/-! ## The system of the empty name -/

/-- A story whose one preset has the empty name, and which starts it. -/
def namelessStory : Story :=
  { script := .obj [("Start", .arr [.str "particles", .str "The snow falls."])]
    characters := Table.empty
    particles := [("", .obj [])]
    storage := []
    settings := {} }

/-- The story, set up. -/
def namelessGame : Game :=
  Result.left (Game.setup (((namelessStory.gameWith? namelessStory.registry).get
    (by decide +kernel)).withPreferences {}))

/-- The story, started. -/
def namelessStart : Game := Call.start.left namelessGame

theorem played_namelessStart :
    Played namelessStory namelessStart.drainEffects.2
      (namelessGame.drainEffects.1 ++ namelessStart.drainEffects.1) :=
  (Played.setup {} (Option.some_get _).symm (setup_ok_left rfl)).call .start

/-- The theorem about the start of the story. -/
theorem screen_of_effects_namelessStart :
    Played namelessStory namelessStart.drainEffects.2
        (namelessGame.drainEffects.1 ++ namelessStart.drainEffects.1)
      ∧ (Screen.blank.drawAll
          (namelessGame.drainEffects.1 ++ namelessStart.drainEffects.1)).particles = some ""
      ∧ Fields.has namelessStory.particles "" = true := by
  have hempty : (Screen.blank.drawAll
      (namelessGame.drainEffects.1 ++ namelessStart.drainEffects.1)).particles = some "" := by
    decide +kernel
  exact ⟨played_namelessStart, hempty, (screen_of_effects played_namelessStart).2.2.2 hempty⟩

/-- **The screen runs a system that the game does not name.** -/
theorem screen_ne_of_nameless :
    ∃ game effects, Played namelessStory game effects
      ∧ Screen.blank.drawAll effects ≠ Screen.ofWorld game.world :=
  ⟨_, _, played_namelessStart, by decide +kernel⟩

end Narrative
