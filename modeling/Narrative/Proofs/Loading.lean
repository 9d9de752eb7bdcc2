import Narrative.Proofs.Defects
import Narrative.Proofs.Erased

/-!
# Proofs/Loading — what loading a slot leaves

A load that comes to rest on a line or a menu leaves the slot merged over a new game, and nothing
else (`snapshot_loaded`): what the slot lacks is what a new game has (`loaded_data`).

A load that fails leaves the running game alone when the slot cannot be read.  When the slot can be
read but not continued, the running game has been replaced already, and what is left is a new game
with the slot merged over it, somewhere on the way from the slot's position (`failed_load`).  The
fault tells which of the two it was.
-/

namespace Narrative

variable {σ : Type} [Store σ] {story : Story} {store : σ} {key : String} {slot : SaveSlot}
  {game after : Game}

/-! ## A load that comes to rest -/

/-- **The snapshot after a load** that comes to rest where the slot stopped. -/
theorem snapshot_loaded {stop : Stop} (hregistry : game.registry = story.registry)
    (hread : Game.readSlot store key = .ok slot)
    (hat : StopAt story.characters game.book (game.restored slot).world stop)
    (hload : Game.loadFromSlot store key game = .ok () after) :
    after.snapshot = (game.restored slot).snapshot := by
  rw [loadFromSlot_eq hregistry hread] at hload
  have hchain : 0 < game.book.settings.maxChain := by
    rw [Nat.pos_iff_ne_zero]
    intro hzero
    have hfault : (Result.fault? (Game.runCurrent
        ((game.restored slot).withWorld (Particles.resume story.particles)))).isSome = true :=
      runCurrent_fault hzero
    rw [hload] at hfault
    cases hfault
  obtain ⟨world, hrun, rfl⟩ := ofPlay_eq_ok.1 hload
  have hresumed : StopAt story.characters game.book
      (Particles.resume story.particles (game.restored slot).world) stop := hat.congr rfl rfl
  obtain ⟨rested, hrested, hlanded⟩ := hresumed.runCurrent story.particles hchain
  rw [← show game.registry = builtinRegistry story.characters story.particles from hregistry]
    at hrested
  obtain rfl : rested = world := (EStateM.Result.ok.inj (hrested.symm.trans hrun)).2
  have hhidden : (Particles.resume story.particles (game.restored slot).world).sheet.showing
      = false := congrArg Look.showing (look_blankWorld game.setPlaying)
  exact hlanded.saved (Stop.closed_shown stop true fun _ _ _ _ => hhidden)

/-- The state that a slot leaves over a new game. -/
theorem state_restored (game : Game) (slot : SaveSlot) :
    (game.restored slot).snapshot.state
      = (game.freshState.set Particles.runningVar (.str "")).merge slot.snapshot.state := by
  have hblank : game.setPlaying.blankWorld.state
      = game.freshState.set Particles.runningVar (.str "") :=
    congrArg Look.state (look_blankWorld game.setPlaying)
  exact congrArg (State.merge · slot.snapshot.state) hblank

/-- **One lookup over another** changes nothing where the lower one finds nothing new. -/
theorem forall_or_eq_iff {α : Type} {upper lower : String → Option α} :
    (∀ name, (upper name).or (lower name) = upper name)
      ↔ ∀ name, upper name = none → lower name = none := by
  refine forall_congr' fun name => ?_
  cases upper name <;> simp

/-- A story about a purse. -/
def purseStory : Story :=
  { script := .obj [("Start", .arr [.str "A purse."])]
    characters := Table.empty
    particles := []
    storage := [("gold", .ofNat 1)]
    settings := {} }

/-- The game of the story. -/
def purseMade : Game := (purseStory.gameWith? purseStory.registry).get (by decide +kernel)

/-- The game, set up and started. -/
def purseStart : Game := Call.start.left (Result.left (Game.setup (purseMade.withPreferences {})))

/-- The host has taken the gold away. -/
def purseEmpty : Game :=
  purseStart.withWorld fun world => { world with storage := world.storage.remove "gold" }

/-- The slot of the game without gold. -/
def purseSlot : SaveSlot := purseEmpty.toSlot none "today"

/-- A store with the slot. -/
def purseStore : MemoryStore := ⟨Table.empty.insert "Save_1" purseSlot.toJson⟩

/-- The game, loaded. -/
def purseLoaded : Game := Result.left (Game.loadFromSlot purseStore "Save_1" purseEmpty)

theorem readSlot_purseStore : Game.readSlot purseStore "Save_1" = .ok purseSlot := by
  have hnames : Fields.keys purseSlot.snapshot.state.vars = [Particles.runningVar] := by
    decide +kernel
  have hstorable : purseSlot.snapshot.state.Storable := by
    refine ⟨?_, ?_, ?_⟩ <;> simp [Fields.Distinct, hnames, Particles.runningVar]
  have hstored : Store.set MemoryStore.empty "Save_1" purseSlot.toJson = .ok purseStore := rfl
  exact readSlot_of_stored hstorable (Store.Lawful.get_of_set hstored)

theorem load_purseStore :
    Game.loadFromSlot purseStore "Save_1" purseEmpty = .ok () purseLoaded :=
  Result.eq_ok (by decide +kernel)

theorem stopAt_purseSlot :
    ∃ stop, StopAt purseStory.characters purseEmpty.book (purseEmpty.restored purseSlot).world
      stop := by
  have hline : (lineAt? purseStory.characters purseEmpty.book
      (purseEmpty.restored purseSlot).world).isSome = true := by decide +kernel
  obtain ⟨say, hsay⟩ := Option.isSome_iff_exists.1 hline
  exact ⟨.line say, stopAt_of_lineAt? hsay⟩

/-- Whether a fault is one of a slot, which cannot be found or read. -/
def Fault.isOfSlot : Fault → Bool
  | .store _ | .invalidSnapshot => true
  | _ => false

/-- Reading a slot fails with a fault of the slot. -/
theorem isOfSlot_of_readSlot {fault : Fault} (h : Game.readSlot store key = .error fault) :
    fault.isOfSlot = true := by
  unfold Game.readSlot Game.fromStore at h
  cases hget : Store.get store key with
  | error failed =>
    rw [hget] at h
    obtain rfl : Fault.store failed = fault := Except.error.inj h
    rfl
  | ok value =>
    simp only [hget, Except.mapError, bind, Except.bind] at h
    split at h
    · cases h
    · obtain rfl := Except.error.inj h
      rfl

/-- A fault of a statement is none of a slot. -/
theorem Fault.isOfSlot_of_isOfStatement {fault : Fault} (h : fault.isOfStatement = true) :
    fault.isOfSlot = false := by
  cases fault with
  | store _ | invalidSnapshot => cases h
  | _ => rfl

/-! ## A load that fails on the way -/

/-- **What a load that fails on the way has left**: world data, flags and a screen with nothing of
the game that was running. -/
structure Replaced (storage : Storage) (world : World) : Prop where
  /-- The world data are these. -/
  storage : world.storage = storage
  /-- A game is in progress; all other flags are those of a new game. -/
  flags : { world.globals with values := Table.empty } = { Globals.fresh with playing := true }
  /-- No page shows. -/
  showing : Page.isShowing world = false
  /-- The page is empty. -/
  page : Page.lines world = []
  /-- No menu waits. -/
  pending : Choice.isPending world = false

/-- **What is left of a statement that fails or goes on** has the invariant. -/
def Passing (I : World → Prop) : EStateM.Result Fault World Flow → Prop
  | .ok .wait _ => True
  | .ok _ after => I after
  | .error _ after => I after

namespace Replaced

variable {characters : Table Character} {presets : Fields Json} {book : Playbook}
  {world left : World} {storage : Storage}

theorem report (h : Replaced storage world) (report : Report) :
    Replaced storage (world.report report) := ⟨h.storage, h.flags, h.showing, h.page, h.pending⟩

theorem emit (h : Replaced storage world) (effects : List Effect) :
    Replaced storage (world.emit effects) := ⟨h.storage, h.flags, h.showing, h.page, h.pending⟩

theorem moveTo (h : Replaced storage world) (cursor : Cursor) :
    Replaced storage (world.moveTo cursor) := ⟨h.storage, h.flags, h.showing, h.page, h.pending⟩

theorem step (h : Replaced storage world) (book : Playbook) :
    Replaced storage (Next.step book world) := by
  unfold Next.step
  split
  · exact h.moveTo _
  · exact h

theorem started (h : Replaced storage world) (statement : String) :
    Replaced storage (Particles.started statement world) :=
  ⟨h.storage, h.flags, h.showing, h.page, h.pending⟩

theorem entered (h : Replaced storage world) (target : String) :
    Replaced storage (Jump.entered target world) := by
  have hsheet : (Jump.entered target world).sheet = world.sheet.left := sheet_entered target
  have hprompt : (Jump.entered target world).prompt = world.prompt := prompt_entered target
  have hpending : Choice.isPending (Jump.entered target world) = Choice.isPending world :=
    congrArg (fun prompt : Prompt => prompt.pending.isSome) hprompt
  exact ⟨h.storage, h.flags, congrArg Sheet.showing hsheet, congrArg Sheet.lines hsheet,
    hpending.trans h.pending⟩

/-- **One statement** that fails or goes on shows nothing. -/
theorem ran {statement : Statement} {advance : Bool} {result : EStateM.Result Fault World Flow}
    (h : Replaced storage world)
    (hran : Ran characters presets book world advance statement result) :
    Passing (Replaced storage) result := by
  cases hran with
  | unread fault => exact h
  | refused fault report => exact h.report report
  | jumped filled kind label => exact (h.entered _).emit _
  | passed onward => exact h
  | stepped inPlace => exact h.step book
  | started effects filled kind defined => exact (h.started _).emit effects
  | shown filled kind said shows => trivial
  | offered effects field read => trivial

/-- **Going on from the statement at the cursor**: without one, that fails on the spot. -/
theorem current_bind {fault : Fault} {more : Statement → Play Unit} (h : Replaced storage world)
    (hmore : ∀ statement, book.current? world = some statement →
      more statement world = .error fault left → fault.isOfSlot = false ∧ Replaced storage left)
    (hfail : (Run.current book >>= more) world = .error fault left) :
    fault.isOfSlot = false ∧ Replaced storage left := by
  obtain hnone | ⟨statement, mid, hcurrent, hrun⟩ := Result.bind_eq_error.1 hfail
  · unfold Run.current at hnone
    split at hnone
    · cases hnone
    · obtain ⟨rfl, rfl⟩ := EStateM.Result.error.inj hnone
      exact ⟨rfl, h⟩
  · obtain ⟨rfl, here⟩ := Steps.current_found hcurrent
    exact hmore statement here hrun

/-- **A chain that fails** shows nothing, and its fault is none of a slot.  The induction is on what
the chain may still run; a step on is a step and the statement there. -/
theorem chain (hbook : book.Callbackless) (h : Replaced storage world) {allowed : Nat}
    {fault : Fault}
    (hfail : (Run.current book >>= fun statement =>
      Run.chain book (builtinRegistry characters presets) allowed statement true) world
        = .error fault left) :
    fault.isOfSlot = false ∧ Replaced storage left := by
  induction allowed generalizing world with
  | zero =>
    refine h.current_bind (fun statement _ hrun => ?_) hfail
    obtain ⟨rfl, rfl⟩ := EStateM.Result.error.inj hrun
    exact ⟨rfl, h⟩
  | succ allowed ih =>
    refine h.current_bind (fun statement here hrun => ?_) hfail
    have hno : ∀ run, statement ≠ .callback run := fun run heq => hbook _ run (heq ▸ here)
    have hpassing : Passing (Replaced storage)
        (Run.perform book (builtinRegistry characters presets) statement true world) :=
      h.ran (Narrative.ran hno true world)
    rw [Run.chain] at hrun
    obtain hperform | ⟨flow, next, hperform, hrest⟩ := Result.bind_eq_error.1 hrun
    · rw [hperform] at hpassing
      exact ⟨Fault.isOfSlot_of_isOfStatement (isOfStatement_of_perform hno hperform), hpassing⟩
    rw [hperform] at hpassing
    cases flow with
    | wait => cases hrest
    | advance => exact ih (hpassing.step book) hrest
    | enter => exact ih hpassing hrest

/-- Merging a slot over a new game. -/
theorem restored (game : Game) (slot : SaveSlot) :
    Replaced (game.freshStorage.merge slot.snapshot.storage) (game.restored slot).world := by
  have hlook := look_blankWorld game.setPlaying
  have hpending : (game.restored slot).world.globals.get? Choice.pendingKey = none :=
    pending_restored game slot
  exact ⟨rfl, rfl, congrArg Look.showing hlook, congrArg Look.page hlook,
    congrArg Option.isSome hpending⟩

end Replaced

/-- **A load that fails.**  If the slot cannot be read, the fault says so, and the game is what it
was.  If the slot can be read, the running game has been replaced: the timer has stopped, and in a
story without callbacks the fault is none of a slot, the world data are those of the slot over those
of a new game, the flags are those of a new game in progress, and neither a page nor a menu is
left. -/
theorem failed_load {fault : Fault} (hregistry : game.registry = story.registry)
    (hfail : Game.loadFromSlot store key game = .error fault after) :
    (Game.readSlot store key = .error fault ∧ fault.isOfSlot = true ∧ after = game)
      ∨ ∃ slot, Game.readSlot store key = .ok slot
        ∧ after.fixed = game.fixed ∧ after.timer = game.timer.stop
        ∧ (game.book.Callbackless → fault.isOfSlot = false
          ∧ Replaced (game.freshStorage.merge slot.snapshot.storage) after.world) := by
  cases hread : Game.readSlot store key with
  | error failed =>
    rw [Game.loadFromSlot, hread] at hfail
    obtain ⟨rfl, rfl⟩ := EStateM.Result.error.inj hfail
    exact Or.inl ⟨rfl, isOfSlot_of_readSlot hread, rfl⟩
  | ok slot =>
    rw [loadFromSlot_eq hregistry hread] at hfail
    obtain ⟨left, hrun, rfl⟩ := ofPlay_eq_error hfail
    refine Or.inr ⟨slot, rfl, rfl, rfl, fun hbook => ?_⟩
    have hbuiltin : ((game.restored slot).withWorld (Particles.resume story.particles)).registry
        = builtinRegistry story.characters story.particles := hregistry
    rw [hbuiltin] at hrun
    exact ((Replaced.restored game slot).emit _).chain hbook hrun

/-! ## A slot of a label that is gone -/

/-- A slot whose label no story here has. -/
def goneSlot : SaveSlot :=
  { name := "attic"
    date := "today"
    image := none
    snapshot := ⟨History.empty, State.start "Attic", Storage.empty⟩ }

/-- A store with the slot. -/
def goneStore : MemoryStore := ⟨Table.empty.insert "Save_1" goneSlot.toJson⟩

/-- What is left at the inn of a load of the slot. -/
def innGone : Game := Result.left (Game.loadFromSlot goneStore "Save_1" innMenu)

theorem load_goneStore :
    Game.loadFromSlot goneStore "Save_1" innMenu
      = .error (.noStatement ⟨"Attic", 0⟩) innGone :=
  Result.eq_error (by decide +kernel)

/-- The menu of the inn is replaced by a new game without a statement. -/
theorem failed_load_inn :
    innMenu.book.Callbackless
      ∧ Replaced (innMenu.freshStorage.merge Storage.empty) innGone.world := by
  have hmade : innStory.gameWith? innStory.registry = some innMade := (Option.some_get _).symm
  have hready : innReady.IsOf innStory {} := ⟨_, _, hmade, setup_ok_left rfl, rfl⟩
  have hmenu : innMenu.IsOf innStory {} := (hready.call .start).call .proceed
  have hstorable : goneSlot.snapshot.state.Storable :=
    ⟨List.nodup_nil, List.not_mem_nil, List.not_mem_nil⟩
  have hstored : Store.set MemoryStore.empty "Save_1" goneSlot.toJson = .ok goneStore := rfl
  have hslot : Game.readSlot goneStore "Save_1" = .ok goneSlot :=
    readSlot_of_stored hstorable (Store.Lawful.get_of_set hstored)
  refine ⟨hmenu.callbackless, ?_⟩
  obtain ⟨hunread, -⟩ | ⟨slot, hread, -, -, hleft⟩ := failed_load hmenu.registry load_goneStore
  · rw [hslot] at hunread
    cases hunread
  · obtain rfl := Except.ok.inj (hslot.symm.trans hread)
    exact (hleft hmenu.callbackless).2

/-- **A load that fails can close the menu of the running game**, and move it. -/
theorem failed_load_closes_menu :
    Game.loadFromSlot goneStore "Save_1" innMenu = .error (.noStatement ⟨"Attic", 0⟩) innGone
      ∧ Choice.isPending innMenu.world = true ∧ Choice.isPending innGone.world = false
      ∧ innGone.cursor ≠ innMenu.cursor :=
  ⟨load_goneStore, by decide +kernel, by decide +kernel, by decide +kernel⟩

end Narrative
