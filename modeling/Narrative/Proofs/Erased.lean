import Narrative.Proofs.Resumed
import Narrative.Store.Directory

/-!
# Proofs/Erased — a new or loaded game has no past

Two games of one story may have come to anything.  After a reset and a start, or after loading one
slot, they are **twins** (`Twins`): what they keep is the same, up to stacks without entries and to
reports that wait for the author.  No built-in action sees these (`Twins.unseen`), so whatever a
host asks of both from then on, it sees the same (`past_erased`).

Automatic saves write the stacks, empty ones too, so the stores of twins differ in what they hold.
The slots that can be written do not depend on it (`Store.Indifferent`).
-/

namespace Narrative

/-! ## Twins -/

/-- **Two worlds that differ in empty stacks and in reports only.** -/
structure Twins (w v : World) : Prop where
  /-- Both are at one place, with the same variables. -/
  state : w.state = v.state
  /-- The stacks have the same entries. -/
  entries : w.history.entries = v.history.entries
  /-- The world data are the same. -/
  storage : w.storage = v.storage
  /-- So is what is not saved. -/
  globals : w.globals = v.globals
  /-- The same effects wait for the host. -/
  queue : w.queue = v.queue

namespace Twins

variable {w v : World}

theorem withGlobals (h : Twins w v) (change : Globals → Globals) :
    Twins (w.withGlobals change) (v.withGlobals change) :=
  ⟨h.state, h.entries, h.storage, congrArg change h.globals, h.queue⟩

theorem emit (h : Twins w v) (effects : List Effect) : Twins (w.emit effects) (v.emit effects) :=
  ⟨h.state, h.entries, h.storage, h.globals, congrArg (effects.reverse ++ ·) h.queue⟩

theorem withState (h : Twins w v) (change : State → State) :
    Twins { w with state := change w.state } { v with state := change v.state } :=
  ⟨congrArg change h.state, h.entries, h.storage, h.globals, h.queue⟩

theorem push (h : Twins w v) (stack : String) (entry : Json) :
    Twins (w.push stack entry) (v.push stack entry) := by
  refine ⟨h.state, funext fun name => ?_, h.storage, h.globals, h.queue⟩
  simp only [World.push, History.entries_push, h.entries]

theorem pop (h : Twins w v) (stack : String) : Twins (w.pop stack) (v.pop stack) := by
  refine ⟨h.state, funext fun name => ?_, h.storage, h.globals, h.queue⟩
  simp only [World.pop, History.entries_pop, h.entries]

/-- **No built-in action tells twins apart.** -/
theorem unseen : Unseen Twins where
  state _ _ h := h.state
  entries _ _ h := h.entries
  storage _ _ h := h.storage
  showing _ _ h := by rw [Page.isShowing, Page.isShowing, h.globals]
  page _ _ h := by rw [Page.lines, Page.lines, h.globals]
  pending _ _ h := by rw [h.globals]
  finishedTyping _ _ h := by rw [h.globals]
  gatesOpen _ _ h := by rw [h.globals]
  emit _ _ h := h.emit
  report _ _ h _ := ⟨h.state, h.entries, h.storage, h.globals, h.queue⟩
  moveTo _ _ h cursor := h.withState ({ · with cursor := cursor })
  push _ _ h := h.push
  pop _ _ h := h.pop
  setVar _ _ h name value := h.withState (·.set name value)
  setLines _ _ h _ := h.withGlobals _
  display w v h lines := (h.withGlobals (·.set Page.modeKey (.bool true))).withGlobals
    (·.set Page.pageKey (Line.pageToJson lines))
  leave _ _ h := h.withGlobals _
  offer _ _ h _ := h.withGlobals _
  close _ _ h := h.withGlobals _
  typed _ _ h _ := h.withGlobals _
  playing _ _ h := h.withGlobals _

/-- **Merging one snapshot** over twins leaves twins. -/
theorem restore (h : Twins w v) (snapshot : Snapshot) :
    Twins (w.restore snapshot) (v.restore snapshot) where
  state := congrArg (State.merge · snapshot.state) h.state
  entries := funext fun name => by
    have hentries : w.history.entries name = v.history.entries name := congrFun h.entries name
    simp only [World.restore, History.entries_merge, hentries]
  storage := congrArg (Storage.merge · snapshot.storage) h.storage
  globals := h.globals
  queue := h.queue

/-- The particle system that starts again is the same. -/
theorem resume (h : Twins w v) (presets : Fields Json) :
    Twins (Particles.resume presets w) (Particles.resume presets v) := by
  rw [Particles.resume, Particles.resume, h.state]
  exact h.emit _

/-- Taking the effects of both. -/
theorem drain (h : Twins w v) : Twins { w with queue := [] } { v with queue := [] } :=
  ⟨h.state, h.entries, h.storage, h.globals, rfl⟩

end Twins

/-! ## Beginnings -/

/-- A new game in progress, before its first statement is run. -/
def Game.renewed (game : Game) : Game :=
  { game.setPlaying.clear with world := game.setPlaying.blankWorld }

/-- **What a new or loaded game begins with**: the beginning, or a slot. -/
inductive Opening where
  /-- Reset the game and start it. -/
  | anew
  /-- Load the slot of a key. -/
  | load (key : String)

/-- **The games of a story**, set up with some preferences, whatever has become of their worlds and
their timers since. -/
def Game.IsOf (story : Story) (preferences : Preferences) (game : Game) : Prop :=
  ∃ fresh ready, story.gameWith? story.registry = some fresh
    ∧ Game.setup (fresh.withPreferences preferences) = .ok () ready ∧ game.fixed = ready.fixed

section Beginnings

variable {σ : Type} [Store σ] {story : Story} {preferences : Preferences} {game other base : Game}
  {store : σ} {key : String} {slot : SaveSlot}

namespace Opening

/-- The turn of a beginning. -/
def turn (store : σ) : Opening → Turn Unit
  | anew => do
    Game.reset
    Game.start
  | load key => Game.loadFromSlot store key

/-- Whether the slot, if it is one, can be read. -/
def Readable (store : σ) : Opening → Prop
  | anew => True
  | load key => ∃ slot, Game.readSlot store key = .ok slot

end Opening

namespace Game.IsOf

/-- What happens to the world and to the timer does not matter. -/
theorem congr {after : Game} (h : game.IsOf story preferences) (hafter : after.fixed = game.fixed) :
    after.IsOf story preferences := by
  obtain ⟨fresh, ready, made, setUp, hfixed⟩ := h
  exact ⟨fresh, ready, made, setUp, hafter.trans hfixed⟩

/-- Taking the effects. -/
theorem drain (h : game.IsOf story preferences) : game.drainEffects.2.IsOf story preferences :=
  h.congr rfl

theorem registry (h : game.IsOf story preferences) : game.registry = story.registry := by
  obtain ⟨fresh, ready, made, setUp, hfixed⟩ := h
  exact (congrArg (·.2.1) hfixed).trans (ready_parts made setUp).1

/-- A call. -/
theorem call (h : game.IsOf story preferences) (call : Call) :
    (call.left game).IsOf story preferences := h.congr (fixed_call h.registry call)

/-- The script is that of the story. -/
theorem script (h : game.IsOf story preferences) : story.script? = some game.book.script := by
  obtain ⟨fresh, ready, made, setUp, hfixed⟩ := h
  obtain ⟨script, hscript, rfl⟩ := Option.map_eq_some_iff.1 made
  rw [setup_eq rfl] at setUp
  obtain rfl := (EStateM.Result.ok.inj setUp).2
  have hbook : game.book.script = script := congrArg (·.1.script) hfixed
  rw [hbook]
  exact hscript

theorem callbackless (h : game.IsOf story preferences) : game.book.Callbackless :=
  fun cursor run => Script.ne_callback_of_ofJson? h.script _ cursor run

/-- **Two games of a story** differ in their worlds and their timers only. -/
theorem fixed_eq (h : game.IsOf story preferences) (hother : other.IsOf story preferences) :
    game.fixed = other.fixed := by
  obtain ⟨fresh, ready, made, setUp, hfixed⟩ := h
  obtain ⟨fresh', ready', made', setUp', hfixed'⟩ := hother
  obtain rfl := Option.some.inj (made.symm.trans made')
  obtain rfl := (EStateM.Result.ok.inj (setUp.symm.trans setUp')).2
  exact hfixed.trans hfixed'.symm

end Game.IsOf

/-- Starting after a reset runs the first statement of a new game. -/
theorem anew_eq (hregistry : game.registry = story.registry) :
    Opening.anew.turn store game = Game.runCurrent game.renewed := by
  have hreset : Game.reset game = .ok () { game.clear with world := game.blankWorld } :=
    reset_eq hregistry
  have hcleared : Game.registry { game.clear with world := game.blankWorld } = story.registry :=
    hregistry
  simp only [Opening.turn, bind, EStateM.bind, hreset, start_eq hcleared]
  rfl

/-- **New games are twins**, when no effects wait. -/
theorem twins_renewed (hfixed : game.fixed = other.fixed)
    (hqueue : game.world.queue = other.world.queue) :
    Twins game.renewed.world other.renewed.world := by
  have hstate : game.freshState = other.freshState := congrArg (·.2.2.1) hfixed
  have hstorage : game.freshStorage = other.freshStorage := congrArg (·.2.2.2) hfixed
  have hcleared : Twins game.setPlaying.clear.world other.setPlaying.clear.world :=
    ⟨hstate, funext fun name => (History.entries_clear _ name).trans
      (History.entries_clear _ name).symm, hstorage, rfl, hqueue⟩
  have hblank := Twins.unseen.close (Twins.unseen.setVar hcleared Particles.runningVar (.str ""))
  exact Twins.unseen.typed (Twins.unseen.leave hblank) true

/-- **A beginning runs a statement of twins.** -/
theorem opening_twins (opening : Opening) (hgame : game.registry = story.registry)
    (hfixed : game.fixed = other.fixed) (hqueue : game.world.queue = other.world.queue)
    (hreadable : opening.Readable store) :
    ∃ begun begun', opening.turn store game = Game.runCurrent begun
      ∧ opening.turn store other = Game.runCurrent begun' ∧ Along game Twins begun begun' := by
  have hother : other.registry = story.registry := (congrArg (·.2.1) hfixed).symm.trans hgame
  have htwins := twins_renewed hfixed hqueue
  cases opening with
  | anew =>
    exact ⟨_, _, anew_eq hgame, anew_eq hother, rfl, hfixed.symm, htwins⟩
  | load key =>
    obtain ⟨slot, hread⟩ := hreadable
    exact ⟨_, _, loadFromSlot_eq hgame hread, loadFromSlot_eq hother hread, rfl, hfixed.symm,
      (htwins.restore slot.snapshot).resume story.particles⟩

end Beginnings

/-! ## Stores -/

/-- **Two results of storing agree**: both are stores that are the same in some respect, or both
are one fault. -/
inductive Stored {σ : Type} (Same : σ → σ → Prop) :
    Except StoreFault σ → Except StoreFault σ → Prop
  | ok {store other : σ} (same : Same store other) : Stored Same (.ok store) (.ok other)
  | error (fault : StoreFault) : Stored Same (.error fault) (.error fault)

/-- **A store that takes one value like another**: what can be stored, now and later, depends on
the keys alone. -/
class Store.Indifferent (σ : Type) [Store σ] where
  /-- Stores that may differ in their values. -/
  Same : σ → σ → Prop
  /-- A store is the same as itself. -/
  refl : ∀ store, Same store store
  /-- Storing under one key leaves stores the same. -/
  set : ∀ {store other : σ}, Same store other → ∀ (key : String) (value value' : Json),
    Stored Same (Store.set store key value) (Store.set other key value')

instance : Store.Indifferent MemoryStore where
  Same _ _ := True
  refl _ := trivial
  set _ _ _ _ := .ok trivial

/-- Whether an entry is a directory. -/
def DirEntry.isFolder : DirEntry → Bool
  | .file _ => false
  | .folder => true

namespace DirStore

/-- **Two directories that differ in the texts of their files only.** -/
structure SameNames (store other : DirStore) : Prop where
  /-- The paths are as long. -/
  lead : store.lead = other.lead
  /-- A name stands for a file in both, or for a directory. -/
  entries : ∀ name, (store.entries.get? name).map DirEntry.isFolder
    = (other.entries.get? name).map DirEntry.isFolder

namespace SameNames

variable {store other : DirStore}

/-- Writing one file leaves the names the same. -/
theorem insert (h : SameNames store other) (name text text' : String) :
    SameNames { store with entries := store.entries.insert name (.file text) }
      { other with entries := other.entries.insert name (.file text') } := by
  refine ⟨h.lead, fun found => ?_⟩
  simp only [Table.get?_insert]
  split
  · rfl
  · exact h.entries found

/-- A key leads to a file in both, or to the same fault. -/
theorem entry? (h : SameNames store other) (key : String) :
    (store.entry? key).map (Option.map DirEntry.isFolder)
      = (other.entry? key).map (Option.map DirEntry.isFolder) := by
  have hreaches : store.reaches (fileName key) = other.reaches (fileName key) := by
    rw [reaches, reaches, h.lead]
  simp only [DirStore.entry?, hreaches]
  split
  · split
    · exact congrArg Except.ok (h.entries _)
    · rfl
  · rfl

/-- **Writing under one key** succeeds for both, or is the same fault. -/
theorem set (h : SameNames store other) (key : String) (value value' : Json) :
    Stored SameNames (Store.set store key value) (Store.set other key value') := by
  have hentry := h.entry? key
  have hwritten := Stored.ok (h.insert (fileName key) value.prettyText value'.prettyText)
  rw [set_def, set_def]
  unfold DirStore.set
  generalize store.entry? key = found at hentry
  generalize other.entry? key = found' at hentry
  match found, found', hentry with
  | .error fault, .error _, rfl => exact .error fault
  | .ok none, .ok none, _ => exact hwritten
  | .ok (some (.file _)), .ok (some (.file _)), _ => exact hwritten
  | .ok (some .folder), .ok (some .folder), _ => exact .error _

end SameNames

end DirStore

instance : Store.Indifferent DirStore where
  Same := DirStore.SameNames
  refl _ := ⟨rfl, fun _ => rfl⟩
  set h := h.set

/-! ## What a host asks, and what it sees -/

/-- **What a host asks of a game in progress.** -/
inductive Errand where
  /-- A call. -/
  | call (call : Call)
  /-- An automatic save, at a date. -/
  | autoSave (date : String)

/-- **What an errand comes to**, if it comes to anything. -/
structure Reply where
  /-- The answer of a move. -/
  answer : Option Bool := none
  /-- The key of the slot that was written. -/
  written : Option String := none
  /-- The fault. -/
  fault : Option Fault := none

/-- **What a host sees of a game.**  A stack without entries is seen like one that is not there. -/
structure View where
  /-- The effects that wait for it. -/
  effects : List Effect
  /-- Where the game is, and its variables. -/
  state : State
  /-- The entries of each stack, newest first. -/
  entries : String → List Json
  /-- The world data. -/
  storage : Storage
  /-- The options offered. -/
  offered : List MenuItem
  /-- Whether the page shows. -/
  showing : Bool
  /-- The lines on the page. -/
  page : List Line

/-- What a host sees of a game. -/
def Game.view (game : Game) : View where
  effects := game.world.effects
  state := game.snapshot.state
  entries := game.snapshot.history.entries
  storage := game.snapshot.storage
  offered := Choice.offered game.world
  showing := Page.isShowing game.world
  page := Page.lines game.world

section Watching

variable {σ : Type} [Store σ]

/-- **An errand**, with the game and the store that it leaves. -/
def Errand.run (game : Game) (store : σ) : Errand → Reply × Game × σ
  | call made => ({ answer := made.answer? game, fault := made.fault? game }, made.left game, store)
  | autoSave date =>
    match game.autoSave store date with
    | .ok (written, after, store) => ({ written := written }, after, store)
    | .error fault => ({ fault := some fault }, game, store)

/-- **What a host sees of errands**, one after the other.  It takes the effects after each. -/
def Errand.watch (game : Game) (store : σ) : List Errand → List (Reply × View)
  | [] => []
  | errand :: errands =>
    let outcome := errand.run game store
    (outcome.1, outcome.2.1.view) :: watch outcome.2.1.drainEffects.2 outcome.2.2 errands

/-- **What a host sees of a beginning and of errands after it.** -/
def Opening.watch (opening : Opening) (store : σ) (errands : List Errand) (game : Game) :
    List (Reply × View) :=
  let result := opening.turn store game
  ({ fault := Result.fault? result }, (Result.left result).view)
    :: Errand.watch (Result.left result).drainEffects.2 store errands

variable {base game other : Game} {store store' : σ}

/-- Twins are seen alike. -/
theorem Twins.view (h : Twins game.world other.world) : game.view = other.view := by
  have heffects : game.world.effects = other.world.effects := by
    rw [World.effects, World.effects, h.queue]
  simp only [Game.view, Game.snapshot, World.snapshot, heffects, h.state, h.entries, h.storage,
    Twins.unseen.offered h, Twins.unseen.showing h, Twins.unseen.page h]

/-- Taking the effects of games whose worlds are twins. -/
theorem Along.drain (h : Along base Twins game other) :
    Along base Twins game.drainEffects.2 other.drainEffects.2 :=
  ⟨h.fixed, h.fixed', h.world.drain⟩

/-- The next slot takes its turn. -/
def Game.turned (game : Game) : Game :=
  game.withWorld (·.withGlobals fun globals =>
    { globals with
      autoSaveSlot := Game.nextAutoSlot game.book.settings.slots globals.autoSaveSlot })

theorem Along.turned (h : Along base Twins game other) :
    Along base Twins game.turned other.turned := by
  have hbook : game.book = other.book := h.book.1.trans h.book.2.symm
  refine ⟨h.fixed, h.fixed', ?_⟩
  rw [Game.turned, hbook]
  exact h.world.withGlobals fun globals =>
    { globals with
      autoSaveSlot := Game.nextAutoSlot other.book.settings.slots globals.autoSaveSlot }

/-- **An automatic save** writes the slot whose turn it is, if a game is in progress. -/
theorem run_autoSave (game : Game) (store : σ) (date : String) :
    (Errand.autoSave date).run game store
      = if game.world.globals.playing then
          let key := slotKey game.book.settings.autoSaveLabel game.world.globals.autoSaveSlot
          match Store.set store key (game.toSlot none date).toJson with
          | .ok after => ({ written := some key }, game.turned, after)
          | .error fault => ({ fault := some (.store fault) }, game, store)
        else ({}, game, store) := by
  by_cases hplaying : game.world.globals.playing = true
  · simp only [Errand.run, Game.autoSave, Game.saveTo, if_pos hplaying, SlotKind.label,
      Option.getD_some, Game.fromStore]
    cases Store.set store (slotKey game.book.settings.autoSaveLabel
      game.world.globals.autoSaveSlot) (game.toSlot none date).toJson <;> rfl
  · simp only [Errand.run, Game.autoSave, Game.saveTo, if_neg hplaying]
    rfl

/-- **Two outcomes of an errand that a host cannot tell apart**, now or later. -/
structure Same [Store.Indifferent σ] (base : Game) (x y : Reply × Game × σ) : Prop where
  /-- The replies are the same. -/
  reply : x.1 = y.1
  /-- The worlds are twins. -/
  left : Along base Twins x.2.1 y.2.1
  /-- The same can be stored. -/
  store : Store.Indifferent.Same x.2.2 y.2.2

variable [Store.Indifferent σ]

/-- **Automatic saves of games whose worlds are twins** come to the same. -/
theorem autoSave_twins (h : Along base Twins game other)
    (hstore : Store.Indifferent.Same store store') (date : String) :
    Same base ((Errand.autoSave date).run game store)
      ((Errand.autoSave date).run other store') := by
  have hbook : game.book = other.book := h.book.1.trans h.book.2.symm
  rw [run_autoSave, run_autoSave, hbook, h.world.globals]
  by_cases hplaying : other.world.globals.playing = true
  · simp only [if_pos hplaying]
    have hset := Store.Indifferent.set hstore
      (slotKey other.book.settings.autoSaveLabel other.world.globals.autoSaveSlot)
      (game.toSlot none date).toJson (other.toSlot none date).toJson
    revert hset
    generalize Store.set store _ (game.toSlot none date).toJson = result
    generalize Store.set store' _ (other.toSlot none date).toJson = result'
    rintro (same | fault)
    · exact ⟨rfl, h.turned, same⟩
    · exact ⟨rfl, h, hstore⟩
  · simp only [if_neg hplaying]
    exact ⟨rfl, h, hstore⟩

/-- **An errand comes to the same** for games whose worlds are twins. -/
theorem Errand.run_twins (hmoves : Moves Twins base.book base.registry)
    (h : Along base Twins game other) (hstore : Store.Indifferent.Same store store')
    (errand : Errand) : Same base (errand.run game store) (errand.run other store') := by
  cases errand with
  | call made =>
    obtain ⟨hanswer, hfault⟩ := hmoves.reply h made
    refine ⟨?_, hmoves.call (fun _ _ htwins => Twins.unseen.typed htwins true) made h, hstore⟩
    simp only [Errand.run, hanswer, hfault]
  | autoSave date => exact autoSave_twins h hstore date

/-- **Errands are seen alike** in games whose worlds are twins.  The induction is on the errands:
each leaves such games, and stores in which the same slots can be written. -/
theorem Errand.watch_twins (hmoves : Moves Twins base.book base.registry)
    (h : Along base Twins game other) (hstore : Store.Indifferent.Same store store')
    (errands : List Errand) :
    Errand.watch game store errands = Errand.watch other store' errands := by
  induction errands generalizing game other store store' with
  | nil => rfl
  | cons errand errands ih =>
    have hsame := Errand.run_twins hmoves h hstore errand
    simp only [Errand.watch, hsame.reply, hsame.left.world.view, ih hsame.left.drain hsame.store]

/-- **The past is erased.**  Of two games of a story in which no effects wait, whatever has happened
in them, let both be reset and started, or let both load one slot that can be read from one store.
A host sees the same of both: whether it comes to a fault, the effects, the state, the stacks, the
world data, the options offered and the page.  And so it does of everything that it asks of both
from then on, be it moves, picks, finished lines or automatic saves. -/
theorem past_erased {story : Story} {preferences : Preferences}
    (hgame : game.IsOf story preferences) (hother : other.IsOf story preferences)
    (hquiet : game.world.queue = []) (hquiet' : other.world.queue = []) {opening : Opening}
    (hreadable : opening.Readable store) (errands : List Errand) :
    opening.watch store errands game = opening.watch store errands other := by
  obtain ⟨begun, begun', hturn, hturn', halong⟩ :=
    opening_twins opening hgame.registry (hgame.fixed_eq hother) (hquiet.trans hquiet'.symm)
      hreadable
  have hmoves : Moves Twins game.book game.registry := by
    rw [hgame.registry]
    exact Twins.unseen.moves hgame.callbackless
  have hrun := lockstep_ofPlay hmoves.runCurrent halong
  simp only [Opening.watch, hturn, hturn']
  have hleft : Along game Twins (Result.left (Game.runCurrent begun))
      (Result.left (Game.runCurrent begun')) := hrun.left
  have hfault : Result.fault? (Game.runCurrent begun) = Result.fault? (Game.runCurrent begun') :=
    hrun.reply.2
  rw [hfault, hleft.world.view,
    Errand.watch_twins hmoves hleft.drain (Store.Indifferent.refl store) errands]

end Watching

/-! ## Two guests of the inn -/

/-- One who entered, in the rain. -/
def innEntered : Game := (Call.left (.select "enter") innMenu).drainEffects.2

/-- One who only came. -/
def innArrived : Game := (Call.start.left innReady).drainEffects.2

/-- Both load the slot of the game at its menu, or begin anew, and see the same. -/
theorem past_erased_inn :
    innEntered.cursor.label = "Inn" ∧ innArrived.cursor.label = "Start"
      ∧ ∀ errands, (Opening.load "Save_1").watch innStore errands innEntered
          = (Opening.load "Save_1").watch innStore errands innArrived
        ∧ Opening.anew.watch innStore errands innEntered
          = Opening.anew.watch innStore errands innArrived := by
  have hmade : innStory.gameWith? innStory.registry = some innMade := (Option.some_get _).symm
  have hready : innReady.IsOf innStory {} := ⟨_, _, hmade, setup_ok_left rfl, rfl⟩
  have harrived : innArrived.IsOf innStory {} := (hready.call .start).drain
  have hentered : innEntered.IsOf innStory {} :=
    (((hready.call .start).call .proceed).call (.select "enter")).drain
  have hnames : Fields.keys innMenu.world.state.vars = [Particles.runningVar] := by decide +kernel
  have hstorable : (innMenu.toSlot none "today").snapshot.state.Storable := by
    refine ⟨?_, ?_, ?_⟩ <;> simp [Game.toSlot, Game.snapshot, World.snapshot, Fields.Distinct,
      hnames, Particles.runningVar]
  have hstored : Store.set MemoryStore.empty "Save_1" (innMenu.toSlot none "today").toJson
      = .ok innStore := rfl
  have hslot : (Opening.load "Save_1").Readable innStore :=
    ⟨_, readSlot_of_stored hstorable (Store.Lawful.get_of_set hstored)⟩
  have hanew : Opening.anew.Readable innStore := trivial
  exact ⟨by decide +kernel, by decide +kernel, fun errands =>
    ⟨past_erased hentered harrived rfl rfl hslot errands,
      past_erased hentered harrived rfl rfl hanew errands⟩⟩

end Narrative
