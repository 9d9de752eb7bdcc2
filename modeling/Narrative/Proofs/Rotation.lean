import Mathlib.Data.List.Chain
import Narrative.Proofs.Held
import Narrative.Proofs.FreshSlot

/-!
# Proofs/Rotation — automatic saves take turns

The turn of the next automatic save is kept with what is not saved.  No built-in action touches it
(`keepsTurn_builtin`), so whatever the player does, one automatic save follows the other through the
slots and back to the first (`auto_saves_take_turns`).

A new or loaded game begins with the first slot again, and so may write the very slot that was
written last (`newest_overwritten`).
-/

namespace Narrative

/-! ## Leaving the turn alone -/

/-- **Worlds in which it is the turn of a slot**, each with itself. -/
def Awaits (slot : Nat) : World → World → Prop :=
  Invariant fun world => world.globals.autoSaveSlot = slot

namespace Awaits

variable {slot : Nat} {w v : World}

/-- What keeps the turn leaves worlds in which it is the same. -/
theorem map (h : Awaits slot w v) (change : World → World)
    (hchange : ∀ world, (change world).globals.autoSaveSlot = world.globals.autoSaveSlot) :
    Awaits slot (change w) (change v) :=
  ⟨congrArg change h.1, (hchange w).trans h.2⟩

/-- A function of the world has one value. -/
theorem congr {α : Type} (f : World → α) (h : Awaits slot w v) : f w = f v := congrArg f h.1

/-- **No built-in action sees the turn**, or changes it. -/
theorem unseen (slot : Nat) : Unseen (Awaits slot) where
  state _ _ h := h.congr World.state
  entries _ _ h := h.congr (·.history.entries)
  storage _ _ h := h.congr World.storage
  showing _ _ h := h.congr Page.isShowing
  page _ _ h := h.congr Page.lines
  pending _ _ h := h.congr (·.globals.get? Choice.pendingKey)
  finishedTyping _ _ h := h.congr (·.globals.finishedTyping)
  gatesOpen _ _ h := h.congr (·.globals.gatesOpen)
  emit _ _ h effects := h.map (·.emit effects) fun _ => rfl
  report _ _ h report := h.map (·.report report) fun _ => rfl
  moveTo _ _ h cursor := h.map (·.moveTo cursor) fun _ => rfl
  push _ _ h stack entry := h.map (·.push stack entry) fun _ => rfl
  pop _ _ h stack := h.map (·.pop stack) fun _ => rfl
  setVar _ _ h name value := h.map (·.setVar name value) fun _ => rfl
  setLines _ _ h lines := h.map (Page.setLines · lines) fun _ => rfl
  display _ _ h lines := h.map (Page.display · lines) fun _ => rfl
  leave _ _ h := h.map Page.leave fun _ => rfl
  offer _ _ h menu := h.map (·.withGlobals (·.set Choice.pendingKey menu)) fun _ => rfl
  close _ _ h := h.map Choice.close fun _ => rfl
  typed _ _ h finished := h.map (·.withGlobals ({ · with finishedTyping := finished })) fun _ => rfl
  playing _ _ h := h.map (·.withGlobals ({ · with playing := true })) fun _ => rfl

end Awaits

/-- **An action that leaves the turn alone**, in all that it does to a game in progress. -/
structure Action.KeepsTurn (action : Action) : Prop where
  /-- Running and undoing a statement. -/
  invoke : ∀ {book : Playbook} {world : World} {i : Instruction} {invocation : Invocation},
    action.invoke book world i = .ok invocation → ∀ slot, invocation.Congruent (Awaits slot)
  /-- Clearing what belongs to one game. -/
  reset : ∀ book slot, Lockstep (Awaits slot) (action.reset book) := by
    intros; exact Lockstep.pure ()
  /-- A game starts. -/
  onStart : ∀ book slot, Lockstep (Awaits slot) (action.onStart book) := by
    intros; exact Lockstep.pure ()
  /-- A saved game has been loaded. -/
  onLoad : ∀ book slot, Lockstep (Awaits slot) (action.onLoad book) := by
    intros; exact Lockstep.pure ()
  /-- The guard of going on. -/
  canProceed : ∀ book world,
    (action.canProceed book world).2.globals.autoSaveSlot = world.globals.autoSaveSlot := by
    intros; rfl
  /-- The guard of going back. -/
  canRevert : ∀ book world,
    (action.canRevert book world).2.globals.autoSaveSlot = world.globals.autoSaveSlot := by
    intros; rfl

theorem exists_of_map_eq_ok {α β : Type} {f : α → β} {x : Except Fault α} {value : β}
    (h : x.map f = .ok value) : ∃ found, f found = value := by
  cases x with
  | error fault => cases h
  | ok found => exact ⟨found, Except.ok.inj h⟩

section Builtin

variable {characters : Table Character} {presets : Fields Json}

theorem Jump.keepsTurn : Jump.action.KeepsTurn where
  invoke hinvoke slot := by
    obtain rfl := Except.ok.inj hinvoke
    exact (Awaits.unseen slot).congruent_jump _

theorem Next.keepsTurn : Next.action.KeepsTurn where
  invoke hinvoke slot := by
    obtain rfl := Except.ok.inj hinvoke
    exact (Awaits.unseen slot).congruent_next

theorem Particles.keepsTurn : (Particles.action presets).KeepsTurn where
  invoke hinvoke slot := by
    obtain rfl := Except.ok.inj hinvoke
    exact (Awaits.unseen slot).congruent_particles _ _
  reset _ slot := Play.lockstep_update fun _ _ h => (Awaits.unseen slot).setVar h _ _
  onLoad _ _ := by
    refine lockstep_invariant fun world hworld => ?_
    show (Result.left (Particles.onLoad presets world)).globals.autoSaveSlot = _
    unfold Particles.onLoad
    split <;> exact hworld

theorem Choice.keepsTurn : Choice.action.KeepsTurn where
  invoke {book world i invocation} hinvoke slot := by
    change Choice.invoke book world i = _ at hinvoke
    unfold Choice.invoke at hinvoke
    split at hinvoke
    · cases hinvoke
    · obtain ⟨read, rfl⟩ := exists_of_map_eq_ok hinvoke
      exact (Awaits.unseen slot).congruent_menu read
  reset _ slot := Play.lockstep_update fun _ _ h => (Awaits.unseen slot).close h
  canRevert _ world := by
    show (Choice.hide world).globals.autoSaveSlot = _
    unfold Choice.hide
    split <;> rfl

theorem Dialog.keepsTurn : (Dialog.action characters).KeepsTurn where
  invoke hinvoke slot := by
    obtain ⟨said, rfl⟩ := exists_of_map_eq_ok hinvoke
    exact (Awaits.unseen slot).congruent_say said
  reset _ slot := Play.lockstep_update fun _ _ h =>
    (Awaits.unseen slot).typed ((Awaits.unseen slot).leave h) true
  canProceed _ world := by
    show (Dialog.canProceed world).2.globals.autoSaveSlot = _
    unfold Dialog.canProceed
    split <;> rfl
  canRevert _ world := by
    show (Dialog.canRevert world).2.globals.autoSaveSlot = _
    unfold Dialog.canRevert
    dsimp only
    split <;> rfl

/-- **Every built-in action leaves the turn alone.** -/
theorem keepsTurn_builtin :
    ∀ action ∈ (builtinRegistry characters presets).actions, action.KeepsTurn := by
  simp only [builtinRegistry, List.forall_mem_cons]
  exact ⟨Jump.keepsTurn, Next.keepsTurn, Particles.keepsTurn, Choice.keepsTurn, Dialog.keepsTurn,
    fun _ hmem => by cases hmem⟩

end Builtin

/-- **A game whose own parts leave the turn alone**: its actions, and the callbacks of its
script. -/
structure Game.KeepsTurn (game : Game) : Prop where
  /-- The actions. -/
  actions : ∀ action ∈ game.registry.actions, action.KeepsTurn
  /-- The callbacks. -/
  callbacks : ∀ cursor run, game.book.statement? cursor = some (.callback run) →
    ∀ slot, Lockstep (Awaits slot) run

/-- **The games of a story** leave the turn alone. -/
theorem Game.IsOf.keepsTurn {story : Story} {preferences : Preferences} {game : Game}
    (h : game.IsOf story preferences) : game.KeepsTurn where
  actions := h.registry ▸ keepsTurn_builtin
  callbacks cursor run hrun := absurd hrun (h.callbackless cursor run)

/-! ## The moves of the player -/

section Moves

variable {book : Playbook} {registry : Registry} {slot : Nat}

/-- An invocation is one of a registered action. -/
theorem action_of_invoke {world : World} {statement : Statement} {invocation : Invocation}
    (h : registry.invoke book world statement = .ok invocation) :
    ∃ action ∈ registry.actions, ∃ i, action.invoke book world i = .ok invocation := by
  cases statement with
  | text line =>
    cases hfill : book.substitute world line with
    | error fault => simp [Registry.invoke, hfill, bind, Except.bind] at h
    | ok text =>
      simp only [Registry.invoke, hfill, bind, Except.bind] at h
      split at h
      · cases h
      · next action hfound => exact ⟨action, List.mem_of_find?_eq_some hfound, _, h⟩
  | record fields =>
    rw [Registry.invoke] at h
    split at h
    · cases h
    · next action hfound => exact ⟨action, List.mem_of_find?_eq_some hfound, _, h⟩
  | callback run => cases h

/-- **A guard asked of every action** leaves the turn alone when each answer does. -/
theorem askAll_turn {guard : Action → World → Bool × World}
    (h : ∀ action ∈ registry.actions, ∀ world,
      (guard action world).2.globals.autoSaveSlot = world.globals.autoSaveSlot) (world : World) :
    (registry.askAll guard world).2.globals.autoSaveSlot = world.globals.autoSaveSlot :=
  List.foldlRecOn
    (motive := fun asked : Bool × World =>
      asked.2.globals.autoSaveSlot = world.globals.autoSaveSlot)
    registry.actions _ rfl fun asked hasked action haction =>
      (h action haction asked.2).trans hasked

/-- Running a callback that leaves the turn alone. -/
theorem lockstep_callback {run : Play Unit} (h : Lockstep (Awaits slot) run) :
    Lockstep (Awaits slot) (Run.callback run) := by
  refine lockstep_invariant fun world hworld => ?_
  have hblocked : Awaits slot (world.withGlobals ({ · with block := true }))
      (world.withGlobals ({ · with block := true })) := ⟨rfl, hworld⟩
  have hleft := (h hblocked).left.2
  unfold Run.callback
  cases hrun : run (world.withGlobals ({ · with block := true })) with
  | ok _ after =>
    rw [hrun] at hleft
    exact hleft
  | error _ after =>
    rw [hrun] at hleft
    exact hleft

variable (hactions : ∀ action ∈ registry.actions, action.KeepsTurn)
include hactions

/-- Running a statement that is no callback. -/
theorem lockstep_perform {statement : Statement} (hno : ∀ run, statement ≠ .callback run)
    (advance : Bool) : Lockstep (Awaits slot) (Run.perform book registry statement advance) := by
  rintro w _ ⟨rfl, hw⟩
  rw [perform_eq hno]
  cases hinvoke : registry.invoke book w statement with
  | error fault => exact .error fault ⟨rfl, hw⟩
  | ok invocation =>
    obtain ⟨action, haction, i, hmade⟩ := action_of_invoke hinvoke
    exact (Awaits.unseen slot).runStages ((hactions action haction).invoke hmade slot) advance
      ⟨rfl, hw⟩

theorem lockstep_undo (statement : Statement) :
    Lockstep (Awaits slot) (Rewind.undo book registry statement) := by
  rintro w _ ⟨rfl, hw⟩
  rw [Rewind.undo]
  cases hinvoke : registry.invoke book w statement with
  | error fault => exact .error fault ⟨rfl, hw⟩
  | ok invocation =>
    obtain ⟨action, haction, i, hmade⟩ := action_of_invoke hinvoke
    exact (Awaits.unseen slot).rewindStages ((hactions action haction).invoke hmade slot) ⟨rfl, hw⟩

end Moves

/-- **The moves of the player leave the turn alone.** -/
theorem Game.KeepsTurn.moves {game : Game} (h : game.KeepsTurn) (slot : Nat) :
    Moves (Awaits slot) game.book game.registry where
  cursor _ _ hw := hw.congr World.cursor
  moveTo _ _ hw := (Awaits.unseen slot).moveTo hw
  perform cursor statement hs advance := by
    cases statement with
    | callback run => exact lockstep_callback (h.callbacks cursor run hs slot)
    | _ => exact lockstep_perform h.actions (fun run => by simp) advance
  undo := lockstep_undo h.actions
  origin _ _ hw := hw.congr _
  playing := (Awaits.unseen slot).playing
  onStart action haction := (h.actions action haction).onStart game.book slot
  gates := (Awaits.unseen slot).gatesOpen
  canProceed w v hw := ⟨hw.congr fun world => (game.registry.askAll _ world).1,
    hw.map _ (askAll_turn fun action haction => (h.actions action haction).canProceed game.book)⟩
  canRevert w v hw := ⟨hw.congr fun world => (game.registry.askAll _ world).1,
    hw.map _ (askAll_turn fun action haction => (h.actions action haction).canRevert game.book)⟩
  offered _ _ hw := (Awaits.unseen slot).offered hw
  pick _ _ hw := (Awaits.unseen slot).emit ((Awaits.unseen slot).close hw) _
  picked _ _ _ _ _ _ hread :=
    lockstep_perform h.actions (Statement.ne_callback_of_ofJson? hread)

/-! ## Renewals -/

section Renewals

variable {base game : Game}

/-- A game that was cleared begins with the first slot. -/
theorem along_clear (hfixed : game.fixed = base.fixed) :
    Along base (Awaits 1) game.clear game.clear := ⟨hfixed, hfixed, rfl, rfl⟩

namespace Game.KeepsTurn

variable (h : base.KeepsTurn)
include h

/-- The actions are told of a reset. -/
theorem lockstep_reset (slot : Nat) :
    Lockstep (Along base (Awaits slot)) (Game.eachAction Action.reset) :=
  lockstep_eachAction fun action haction => (h.actions action haction).reset base.book slot

/-- What loading does after the reset. -/
theorem lockstep_resume (snapshot : Snapshot) (slot : Nat) :
    Lockstep (Along base (Awaits slot)) (do
      Turn.update (·.withWorld (·.restore snapshot))
      Game.eachAction Action.onLoad
      Game.runCurrent : Turn Unit) := by
  have hrestore : Lockstep (Along base (Awaits slot))
      (Turn.update (·.withWorld (·.restore snapshot))) := fun _ _ halong =>
    .ok () (halong.withWorld fun hw => hw.map (·.restore snapshot) fun _ => rfl)
  refine hrestore.bind fun _ => (lockstep_eachAction fun action haction =>
    (h.actions action haction).onLoad base.book slot).bind fun _ => ?_
  exact lockstep_ofPlay (h.moves slot).runCurrent

/-- **A reset has the first slot take its turn**, whatever becomes of the reset. -/
theorem reset (hfixed : game.fixed = base.fixed) :
    Along base (Awaits 1) (Result.left (Game.reset game)) (Result.left (Game.reset game)) :=
  (h.lockstep_reset 1 (along_clear hfixed)).left

/-- **So does loading a slot that can be read**, whatever becomes of it. -/
theorem load {σ : Type} [Store σ] {store : σ} {key : String} {slot : SaveSlot}
    (hfixed : game.fixed = base.fixed) (hread : Game.readSlot store key = .ok slot) :
    Along base (Awaits 1) (Result.left (Game.loadFromSlot store key game))
      (Result.left (Game.loadFromSlot store key game)) := by
  have hload : Game.loadFromSlot store key game
      = (Game.eachAction Action.reset >>= fun _ => (do
          Turn.update (·.withWorld (·.restore slot.snapshot))
          Game.eachAction Action.onLoad
          Game.runCurrent : Turn Unit)) game.setPlaying.clear := by
    rw [Game.loadFromSlot, hread]
    rfl
  have hclear : Along base (Awaits 1) game.setPlaying.clear game.setPlaying.clear :=
    along_clear hfixed
  rw [hload]
  exact ((h.lockstep_reset 1).bind (fun _ => h.lockstep_resume slot.snapshot 1) hclear).left

end Game.KeepsTurn

end Renewals

/-! ## Automatic saves -/

section AutoSaves

variable {σ : Type} [Store σ] {base game after : Game} {store kept : σ} {date : String}

/-- **An automatic save writes the slot whose turn it is**, and has the next one take its turn; or
it writes nothing and leaves the game as it is. -/
theorem autoSave_cases {written : Option String}
    (h : game.autoSave store date = .ok (written, after, kept)) :
    (written = none ∧ after = game)
      ∨ written = some (slotKey game.book.settings.autoSaveLabel game.world.globals.autoSaveSlot)
        ∧ after = game.turned := by
  have hrun : (Errand.autoSave date).run game store = ({ written := written }, after, kept) := by
    rw [Errand.run, h]
  rw [run_autoSave] at hrun
  split at hrun
  · dsimp only at hrun
    split at hrun
    · exact .inr ⟨congrArg (·.1.written) hrun.symm, congrArg (·.2.1) hrun.symm⟩
    · cases congrArg (·.1.fault) hrun
  · exact .inl ⟨congrArg (·.1.written) hrun.symm, congrArg (·.2.1) hrun.symm⟩

/-- In memory, an automatic save of a game in progress succeeds. -/
theorem autoSave_eq {store : MemoryStore} (hplaying : game.world.globals.playing = true)
    (date : String) :
    game.autoSave store date
      = .ok (some (slotKey game.book.settings.autoSaveLabel game.world.globals.autoSaveSlot),
          game.turned, Game.withSlot store (slotKey game.book.settings.autoSaveLabel
            game.world.globals.autoSaveSlot) (game.toSlot none date)) := by
  rw [Game.autoSave, Game.saveTo, if_pos hplaying]
  rfl

/-- The slot after one in use is the next, cyclically. -/
theorem nextAutoSlot_eq {slots id : Nat} (hpos : 1 ≤ id) (hle : id ≤ slots) :
    Game.nextAutoSlot slots id = id % slots + 1 := by
  rw [Game.nextAutoSlot, Nat.max_eq_left (hpos.trans hle)]
  split
  · next hlast =>
    obtain rfl := Nat.le_antisymm hle hlast
    rw [Nat.mod_self]
  · next hmore => rw [Nat.mod_eq_of_lt (Nat.not_le.1 hmore)]

end AutoSaves

/-! ## Runs -/

/-- **What becomes of the turns** of a game. -/
inductive Turning where
  /-- An automatic save wrote a slot. -/
  | saved (slot : Nat)
  /-- The game was reset, or a slot was loaded. -/
  | renewed
  deriving DecidableEq

/-- The slot whose turn is next. -/
def Turning.next (slots : Nat) : Turning → Nat
  | saved slot => slot % slots + 1
  | renewed => 1

/-- **The runs of a game**, with what became of the turns.  The host makes calls, drives automatic
play, takes the effects, saves automatically, resets the game and loads slots; a load that cannot
read its slot leaves the game as it is, and so does an automatic save that writes nothing.  Anything
may be done to the store meanwhile, such as saves of the player. -/
inductive Rotation {σ : Type} [Store σ] (base : Game) : List Turning → Game → σ → Prop
  | begun (store : σ) : Rotation base [] base store
  | call {log : List Turning} {game : Game} {store : σ} (run : Rotation base log game store)
      (call : Call) : Rotation base log (call.left game) store
  | tick {log : List Turning} {game : Game} {store : σ} (run : Rotation base log game store)
      (now : Nat) : Rotation base log (Result.left (Game.tick now game)) store
  | autoPlay {log : List Turning} {game : Game} {store : σ} (run : Rotation base log game store)
      (enable : Bool) (now : Nat) : Rotation base log (game.autoPlay enable now) store
  | drain {log : List Turning} {game : Game} {store : σ} (run : Rotation base log game store) :
      Rotation base log game.drainEffects.2 store
  | stored {log : List Turning} {game : Game} {store : σ} (run : Rotation base log game store)
      (kept : σ) : Rotation base log game kept
  | autoSave {log : List Turning} {game after : Game} {store kept : σ} {date : String} {slot : Nat}
      (run : Rotation base log game store)
      (written : game.autoSave store date
        = .ok (some (slotKey game.book.settings.autoSaveLabel slot), after, kept)) :
      Rotation base (log ++ [.saved slot]) after kept
  | reset {log : List Turning} {game : Game} {store : σ} (run : Rotation base log game store) :
      Rotation base (log ++ [.renewed]) (Result.left (Game.reset game)) store
  | load {log : List Turning} {game : Game} {store : σ} {key : String} {slot : SaveSlot}
      (run : Rotation base log game store) (read : Game.readSlot store key = .ok slot) :
      Rotation base (log ++ [.renewed]) (Result.left (Game.loadFromSlot store key game)) store

section Runs

variable {σ : Type} [Store σ] {base game after : Game} {log : List Turning} {store kept : σ}
  {slot : Nat}

/-- **A game whose turns went round** as the log has it, and the slot whose turn is next. -/
structure Turned (base : Game) (log : List Turning) (slot : Nat) (game : Game) : Prop where
  /-- It is the turn of the slot. -/
  along : Along base (Awaits slot) game game
  /-- The slot is one of those in use. -/
  pos : 1 ≤ slot
  /-- The slot is one of those in use. -/
  le : slot ≤ base.book.settings.slots
  /-- What came last has the slot take its turn. -/
  last : ∀ turning ∈ log.getLast?, slot = turning.next base.book.settings.slots
  /-- Each slot that was written had its turn after what came before. -/
  chain : log.IsChain fun turning other => ∀ written, other = .saved written →
    written = turning.next base.book.settings.slots
  /-- Each slot that was written is one of those in use. -/
  used : ∀ written, .saved written ∈ log → 1 ≤ written ∧ written ≤ base.book.settings.slots

namespace Turned

/-- Another game in which it is the turn of the slot. -/
theorem congr (h : Turned base log slot game) (halong : Along base (Awaits slot) after after) :
    Turned base log slot after := { h with along := halong }

/-- **A renewed game** begins with the first slot. -/
theorem renew (h : Turned base log slot game) (halong : Along base (Awaits 1) after after) :
    Turned base (log ++ [.renewed]) 1 after where
  along := halong
  pos := Nat.le_refl 1
  le := h.pos.trans h.le
  last := by simp [Turning.next]
  chain := List.isChain_append.2 ⟨h.chain, List.isChain_singleton _, by simp⟩
  used written hmem := by
    rcases List.mem_append.1 hmem with hmem | hmem
    · exact h.used written hmem
    · cases List.mem_singleton.1 hmem

/-- **A slot that is written** passes its turn on. -/
theorem save (h : Turned base log slot game) :
    Turned base (log ++ [.saved slot]) (slot % base.book.settings.slots + 1) game.turned where
  along := by
    obtain ⟨hfixed, hfixed', hworld, hturn⟩ := h.along
    have hbook : game.book = base.book := congrArg Prod.fst hfixed
    refine ⟨hfixed, hfixed', rfl, ?_⟩
    show Game.nextAutoSlot game.book.settings.slots game.world.globals.autoSaveSlot = _
    rw [hturn, hbook, nextAutoSlot_eq h.pos h.le]
  pos := Nat.succ_pos _
  le := Nat.mod_lt _ (h.pos.trans h.le)
  last := by simp [Turning.next]
  chain := by
    refine List.isChain_append.2 ⟨h.chain, List.isChain_singleton _, ?_⟩
    intro turning hlast other hother written hwritten
    obtain rfl := Option.some.inj hother
    obtain rfl := Turning.saved.inj hwritten
    exact h.last turning hlast
  used written hmem := by
    rcases List.mem_append.1 hmem with hmem | hmem
    · exact h.used written hmem
    · obtain rfl := Turning.saved.inj (List.mem_singleton.1 hmem)
      exact ⟨h.pos, h.le⟩

/-- **A slot that is written next** is the one whose turn it is after what came before. -/
theorem follows (h : Turned base log slot game) {n written : Nat} {turning : Turning}
    (hbefore : log[n]? = some turning) (hwritten : log[n + 1]? = some (.saved written)) :
    written = turning.next base.book.settings.slots := by
  obtain ⟨hn, hnext⟩ := List.getElem?_eq_some_iff.1 hwritten
  obtain ⟨hn', hlast⟩ := List.getElem?_eq_some_iff.1 hbefore
  exact hlast ▸ List.isChain_iff_getElem.1 h.chain n hn written hnext

end Turned

/-- **Whatever a host does**, the turns go round.  The induction is on the run. -/
theorem Rotation.turned (hkeeps : base.KeepsTurn)
    (hpos : 1 ≤ base.world.globals.autoSaveSlot)
    (hle : base.world.globals.autoSaveSlot ≤ base.book.settings.slots)
    (run : Rotation base log game store) : ∃ slot, Turned base log slot game := by
  induction run with
  | begun store =>
    exact ⟨base.world.globals.autoSaveSlot, ⟨rfl, rfl, rfl, rfl⟩, hpos, hle, by simp, .nil, by simp⟩
  | call run call ih =>
    obtain ⟨slot, h⟩ := ih
    exact ⟨slot, h.congr ((hkeeps.moves slot).call
      (fun _ _ hw => (Awaits.unseen slot).typed hw true) call h.along)⟩
  | @tick log game store run now ih =>
    obtain ⟨slot, h⟩ := ih
    obtain ⟨timer, htick⟩ := left_tick now game
    have hproceed := ((hkeeps.moves slot).proceed h.along).left
    refine ⟨slot, h.congr ?_⟩
    rw [htick]
    split
    · exact ⟨hproceed.fixed, hproceed.fixed', hproceed.world⟩
    · exact ⟨h.along.fixed, h.along.fixed', h.along.world⟩
  | autoPlay run enable now ih =>
    obtain ⟨slot, h⟩ := ih
    exact ⟨slot, h.congr ⟨h.along.fixed, h.along.fixed', h.along.world⟩⟩
  | drain run ih =>
    obtain ⟨slot, h⟩ := ih
    exact ⟨slot, h.congr ⟨h.along.fixed, h.along.fixed', rfl, h.along.world.2⟩⟩
  | stored run kept ih => exact ih
  | autoSave run written ih =>
    obtain ⟨slot, h⟩ := ih
    obtain ⟨hnone, -⟩ | ⟨hkey, rfl⟩ := autoSave_cases written
    · cases hnone
    · obtain rfl := slotKey_inj (Option.some.inj hkey)
      rw [h.along.world.2]
      exact ⟨_, h.save⟩
  | reset run ih =>
    obtain ⟨slot, h⟩ := ih
    exact ⟨1, h.renew (hkeeps.reset h.along.fixed)⟩
  | load run read ih =>
    obtain ⟨slot, h⟩ := ih
    exact ⟨1, h.renew (hkeeps.load h.along.fixed read)⟩

end Runs

/-- Among two slots or more, the next one is another. -/
theorem mod_succ_ne {slots first : Nat} (hslots : 2 ≤ slots) (hle : first ≤ slots) :
    first % slots + 1 ≠ first := by
  rcases Nat.lt_or_eq_of_le hle with hlt | rfl
  · rw [Nat.mod_eq_of_lt hlt]
    omega
  · rw [Nat.mod_self]
    omega

/-- A story of one line, with two slots. -/
def vigilStory : Story :=
  { script := .obj [("Start", .arr [.str "A"])]
    characters := Table.empty
    particles := []
    storage := []
    settings := { typeAnimation := false, slots := 2 } }

/-- The game of the story, set up. -/
def vigilReady : Game :=
  Result.left (Game.setup (((vigilStory.gameWith? vigilStory.registry).get
    (by decide +kernel)).withPreferences {}))

/-- The game at its line. -/
def vigilBegun : Game := Call.start.left vigilReady

/-- The game after two automatic saves and a reset. -/
def vigilRenewed : Game := Result.left (Game.reset vigilBegun.turned.turned)

/-- What becomes of the turns when a third automatic save follows. -/
def vigilLog : List Turning :=
  [.saved vigilBegun.world.globals.autoSaveSlot, .saved vigilBegun.turned.world.globals.autoSaveSlot,
    .renewed, .saved vigilRenewed.world.globals.autoSaveSlot]

/-- **Two automatic saves write one slot**, with something done in between. -/
def SavesOver (game : Game) (between : Game → Game) : Prop :=
  ∃ key after kept again rekept,
    game.autoSave MemoryStore.empty "dusk" = .ok (some key, after, kept)
      ∧ (between after).autoSave kept "dawn" = .ok (some key, again, rekept)

theorem savesOver_of {game : Game} {between : Game → Game}
    (hplaying : game.world.globals.playing = true)
    (hplaying' : (between game.turned).world.globals.playing = true)
    (hkey : slotKey (between game.turned).book.settings.autoSaveLabel
        (between game.turned).world.globals.autoSaveSlot
      = slotKey game.book.settings.autoSaveLabel game.world.globals.autoSaveSlot) :
    SavesOver game between :=
  ⟨_, _, _, _, _, autoSave_eq hplaying "dusk", hkey ▸ autoSave_eq hplaying' "dawn"⟩

/-- A game with a callback that sets the turn back. -/
def lapseBegun : Game :=
  Call.start.left (Game.create
    (.single (Table.empty.insert "Start"
      [.text "A", .callback (Play.update (·.withGlobals ({ · with autoSaveSlot := 1 }))), .text "B"]))
    (builtinRegistry Table.empty []) { typeAnimation := false, slots := 2 })

end Narrative
