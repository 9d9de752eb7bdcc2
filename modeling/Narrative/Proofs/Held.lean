import Narrative.Proofs.Erased
import Narrative.Proofs.Path

/-!
# Proofs/Held — a pending menu holds the game in place

A menu waits only while the cursor stands on a record that has one (`Menued`).  The options that are
offered may be those of a menu inside it: picking an option runs its statement without moving, so a
menu that an option leads to waits over the record of the outer one.

Every statement that moves the cursor is a text, so none runs while a menu waits; going back and
picking close the menu first.  So a host may reach any game of a story (`Hosted`), after calls that
failed and from slots that no game wrote, and what is true of each menu when it opens is true of the
one that waits there (`Opens`, `Hosted.waits`): it is still that of the statement at the cursor.
Until the player picks or goes back, whatever else the host does leaves the snapshot and the options
as they are (`menu_holds`).
-/

namespace Narrative

/-! ## What holds of the menu that waits -/

/-- **The menu that waits**, if one does, is one that may wait in the world. -/
def World.Waits (May : World → Json → Prop) (world : World) : Prop :=
  ∀ menu, world.prompt.pending = some menu → May world menu

/-- **What tells the menus that may wait** in the worlds of a script.  Menus open in two ways: the
record at the cursor is run, or the record that an option of a waiting menu leads to. -/
structure Opens (book : Playbook) (May : World → Json → Prop) : Prop where
  /-- It is told from the place and the storage. -/
  congr : ∀ ⦃world other menu⦄, May world menu → other.cursor = world.cursor →
    other.storage = world.storage → May other menu
  /-- A menu waits over a record. -/
  record : ∀ ⦃world menu⦄, May world menu → ∃ fields, book.current? world = some (.record fields)
  /-- The menu of the record at the cursor. -/
  here : ∀ ⦃world fields options items⦄, book.current? world = some (.record fields) →
    (Fields.get? fields Choice.fieldName).bind Json.asFields? = some options →
      Choice.readOptions book world options = .ok items →
        May world (.arr ((Choice.visible world.storage items).map MenuItem.toJson))
  /-- The menu of a record that an option leads to. -/
  inside : ∀ ⦃world menu⦄, May world menu →
    ∀ item ∈ (Json.listOf MenuItem.ofJson? menu).getD [], ∀ ⦃fields options items⦄,
      Statement.ofJson? item.action = some (.record fields) →
        (Fields.get? fields Choice.fieldName).bind Json.asFields? = some options →
          Choice.readOptions book world options = .ok items →
            May world (.arr ((Choice.visible world.storage items).map MenuItem.toJson))

section Waits

variable {characters : Table Character} {presets : Fields Json} {book : Playbook}
  {world other : World} {May : World → Json → Prop}

/-- A world without a menu. -/
theorem waits_of_none (hnone : world.prompt.pending = none) : world.Waits May := by
  intro menu hmenu
  rw [hnone] at hmenu
  cases hmenu

/-- The same menu at the same place, with the same storage. -/
theorem World.Waits.congr (h : world.Waits May) (laws : Opens book May)
    (hpending : other.prompt.pending = world.prompt.pending)
    (hcursor : other.cursor = world.cursor) (hstorage : other.storage = world.storage) :
    other.Waits May :=
  fun menu hmenu => laws.congr (h menu (hpending ▸ hmenu)) hcursor hstorage

/-- Where a text stands, no menu waits. -/
theorem World.Waits.pending_of_text (h : world.Waits May) (laws : Opens book May) {line : String}
    (here : book.current? world = some (.text line)) : world.prompt.pending = none := by
  rw [Option.eq_none_iff_forall_ne_some]
  intro menu hmenu
  obtain ⟨fields, hfields⟩ := laws.record (h menu hmenu)
  rw [here] at hfields
  cases hfields

/-- A record that is run opens a menu that may wait; a text that is run opens none. -/
theorem World.Waits.ran (h : world.Waits May) (laws : Opens book May) {statement : Statement}
    {advance : Bool} {result : EStateM.Result Fault World Flow}
    (hran : Ran characters presets book world advance statement result)
    (htext : ∀ line, statement = .text line → world.prompt.pending = none)
    (hrecord : ∀ fields options items, statement = .record fields →
      (Fields.get? fields Choice.fieldName).bind Json.asFields? = some options →
        Choice.readOptions book world options = .ok items →
          May world (.arr ((Choice.visible world.storage items).map MenuItem.toJson))) :
    Kept (World.Waits May) result := by
  refine hran.kept htext ?_
  cases statement with
  | text line => exact waits_of_none ((pending_of_ran hran).trans (htext line rfl))
  | record fields =>
    cases hran with
    | unread fault => exact h
    | refused fault report => exact h.congr laws rfl rfl rfl
    | offered effects field read =>
      intro menu hmenu
      rw [Result.left, prompt_emit, prompt_offer] at hmenu
      exact Option.some.inj hmenu ▸ laws.congr (hrecord _ _ _ rfl field read) rfl rfl
  | callback run =>
    cases hran with
    | unread fault => exact h
    | refused fault report => exact h.congr laws rfl rfl rfl

/-- After a statement is undone, no menu waits. -/
theorem waits_of_undone {statement : Statement} {result : EStateM.Result Fault World Flow}
    (hundone : Undone characters presets book world statement result)
    (hpending : world.prompt.pending = none) : KeptBack (World.Waits May) world.cursor result :=
  hundone.kept hpending (fun _ _ hnone _ => waits_of_none hnone)
    (waits_of_none (pending_of_undone hundone hpending)) _

/-- **Every call leaves a menu that may wait**, if any. -/
theorem keeps_waits (laws : Opens book May) (hbook : book.Callbackless) :
    Keeps (World.Waits May) characters presets book where
  perform world statement hworld here advance := by
    have hno : ∀ run, statement ≠ .callback run := fun run hrun => hbook _ run (hrun ▸ here)
    exact hworld.ran laws (Narrative.ran hno advance world)
      (fun line hline => hworld.pending_of_text laws (hline ▸ here))
      fun fields options items hfields => laws.here (hfields ▸ here)
  ahead world _ hpending _ := waits_of_none hpending
  undo world statement _ hpending htarget :=
    waits_of_undone (Narrative.undone (target?_ne_callback hbook htarget) world) hpending
  picked world hworld item hitem statement hread := by
    have hclosed : ((Choice.close world).emit [.hideChoices]).prompt.pending = none :=
      pending_close world
    obtain ⟨menu, hmenu⟩ := pending_of_offered world hitem
    have hlisted : item ∈ (Json.listOf MenuItem.ofJson? menu).getD [] := by
      have hglobal : world.globals.get? Choice.pendingKey = some menu := hmenu
      rwa [Choice.offered, hglobal] at hitem
    -- Closing the menu that the option is of leaves the place and the storage.
    have hstorage : world.storage = ((Choice.close world).emit [.hideChoices]).storage := rfl
    refine (waits_of_none hclosed).ran laws
      (Narrative.ran (Statement.ne_callback_of_ofJson? hread) false _) (fun _ _ => hclosed) ?_
    rintro fields options items rfl field read
    exact laws.congr (laws.inside (hworld menu hmenu) item hlisted hread field
      ((readOptions_congr hstorage options).trans read)) rfl rfl
  emit world hworld effects := hworld.congr laws rfl rfl rfl
  close world _ := waits_of_none (pending_close world)
  playing world hworld := hworld.congr laws rfl rfl rfl
  finished world hworld := hworld.congr laws rfl rfl rfl

end Waits

/-! ## The games a host may reach -/

/-- A computation on the world does not read the timer. -/
theorem left_ofPlay_timer {α : Type} (play : Playbook → Registry → Play α) (game : Game)
    (timer : Timer) :
    Result.left (Turn.ofPlay play { game with timer := timer })
      = { Result.left (Turn.ofPlay play game) with timer := timer } := by
  unfold Turn.ofPlay
  simp only
  cases play game.book game.registry game.world <;> rfl

/-- **A tick that the guards allow** goes one step on, and notes the firing; a fault stops the
timer. -/
theorem left_tick_allowed {now : Nat} {game asked : Game} (hdue : game.timer.isDue now = true)
    (hasked : Game.canProceed game = .ok true asked) :
    ∃ timer, (timer = (asked.timer.reschedule now).2 ∨ timer = (asked.timer.reschedule now).2.stop)
      ∧ Result.left (Game.tick now game)
        = { Result.left (Game.next.granted asked) with timer := timer } := by
  have hnext : Result.left (Game.next.granted
        { asked with timer := (asked.timer.reschedule now).2 })
      = { Result.left (Game.next.granted asked) with timer := (asked.timer.reschedule now).2 } := by
    rw [left_granted, left_granted, Game.next, left_ofPlay_timer]
  simp only [Game.tick, hdue, hasked, Bool.not_true, Bool.false_eq_true, if_false]
  cases hgranted : Game.next.granted { asked with timer := (asked.timer.reschedule now).2 } with
  | ok answer after =>
    rw [hgranted] at hnext
    exact ⟨_, .inl rfl, hnext⟩
  | error fault after =>
    rw [hgranted] at hnext
    obtain rfl : after = _ := hnext
    exact ⟨_, .inr rfl, rfl⟩

/-- **A tick that is due continues**, and one that is not leaves the game alone, but for the
timer. -/
theorem left_tick (now : Nat) (game : Game) :
    ∃ timer, Result.left (Game.tick now game)
      = { (if game.timer.isDue now then Result.left (Game.proceed game) else game) with
          timer := timer } := by
  obtain ⟨allowed, world, hasked⟩ := ask_eq_ok Action.canProceed game
  cases hdue : game.timer.isDue now with
  | false =>
    rw [Game.tick, hdue]
    exact ⟨game.timer, rfl⟩
  | true =>
    simp only [if_true, Game.proceed, Game.canProceed, bind, EStateM.bind, hasked]
    cases allowed with
    | false =>
      refine ⟨game.timer.postpone now, ?_⟩
      simp only [Game.tick, hdue, Game.canProceed, hasked]
      rfl
    | true =>
      obtain ⟨timer, -, hleft⟩ := left_tick_allowed hdue hasked
      exact ⟨timer, hleft⟩

/-- **The games that a host may reach of a story**, whatever its calls returned and whatever its
stores hold. -/
inductive Hosted (story : Story) : Game → Prop
  | setup {fresh ready : Game} (preferences : Preferences)
      (made : story.gameWith? story.registry = some fresh)
      (setUp : Game.setup (fresh.withPreferences preferences) = .ok () ready) :
      Hosted story ready
  | call {game : Game} (hosted : Hosted story game) (call : Call) : Hosted story (call.left game)
  | reset {game : Game} (hosted : Hosted story game) :
      Hosted story (Result.left (Game.reset game))
  | load {σ : Type} [Store σ] {game : Game} (hosted : Hosted story game) (store : σ)
      (key : String) : Hosted story (Result.left (Game.loadFromSlot store key game))
  | autoPlay {game : Game} (hosted : Hosted story game) (enable : Bool) (now : Nat) :
      Hosted story (game.autoPlay enable now)
  | tick {game : Game} (hosted : Hosted story game) (now : Nat) :
      Hosted story (Result.left (Game.tick now game))
  | autoSave {σ : Type} [Store σ] {game : Game} (hosted : Hosted story game) (store : σ)
      (date : String) : Hosted story ((Errand.autoSave date).run game store).2.1
  | drain {game : Game} (hosted : Hosted story game) : Hosted story game.drainEffects.2

section Hosted

variable {story : Story} {game : Game}

/-- An automatic save leaves the game as it is, or has the next slot take its turn. -/
theorem game_autoSave {σ : Type} [Store σ] (game : Game) (store : σ) (date : String) :
    ((Errand.autoSave date).run game store).2.1 = game
      ∨ ((Errand.autoSave date).run game store).2.1 = game.turned := by
  rw [run_autoSave]
  split
  · simp only
    split
    · exact Or.inr rfl
    · exact Or.inl rfl
  · exact Or.inl rfl

/-- **A game of a story** in which no menu waits, or one that may. -/
structure Game.Waits (story : Story) (May : Playbook → World → Json → Prop) (game : Game) :
    Prop where
  /-- The game is one of the story. -/
  isOf : ∃ preferences, game.IsOf story preferences
  /-- The menu that waits is one that may. -/
  waits : game.world.Waits (May game.book)

namespace Game.Waits

variable {May : Playbook → World → Json → Prop}

theorem registry (h : game.Waits story May) : game.registry = story.registry := by
  obtain ⟨preferences, hisOf⟩ := h.isOf
  exact hisOf.registry

theorem keeps (h : game.Waits story May) (laws : Opens game.book (May game.book)) :
    Keeps (World.Waits (May game.book)) story.characters story.particles game.book := by
  obtain ⟨preferences, hisOf⟩ := h.isOf
  exact keeps_waits laws hisOf.callbackless

/-- Another world whose menu may wait. -/
theorem along {after : Game} (h : game.Waits story May) (hfixed : after.fixed = game.fixed)
    (hwaits : after.world.Waits (May game.book)) : after.Waits story May := by
  obtain ⟨preferences, hisOf⟩ := h.isOf
  have hbook : after.book = game.book := congrArg Prod.fst hfixed
  exact ⟨⟨preferences, hisOf.congr hfixed⟩, hbook ▸ hwaits⟩

/-- A call. -/
theorem call (h : game.Waits story May) (laws : Opens game.book (May game.book)) (call : Call) :
    (call.left game).Waits story May :=
  h.along (fixed_call h.registry call) ((h.keeps laws).call h.registry h.waits call)

/-- A new game has no menu. -/
theorem pending_blankWorld (game : Game) : game.blankWorld.prompt.pending = none :=
  congrArg Look.pending (look_blankWorld game)

theorem reset (h : game.Waits story May) : (Result.left (Game.reset game)).Waits story May := by
  rw [reset_eq h.registry]
  exact h.along rfl (waits_of_none (pending_blankWorld game))

/-- **Loading**, whatever the slot: it closes the menu first, and runs the statement it names. -/
theorem load {σ : Type} [Store σ] (h : game.Waits story May)
    (laws : Opens game.book (May game.book)) (store : σ) (key : String) :
    (Result.left (Game.loadFromSlot store key game)).Waits story May := by
  cases hread : Game.readSlot store key with
  | error fault =>
    rw [Game.loadFromSlot, hread]
    exact h
  | ok slot =>
    rw [loadFromSlot_eq h.registry hread]
    have hresumed : ((game.restored slot).withWorld (Particles.resume story.particles)).Waits
        story May :=
      h.along rfl (waits_of_none (pending_restored game slot))
    refine hresumed.along (fixed_ofPlay _) ?_
    rw [Game.runCurrent, world_left_ofPlay, hresumed.registry]
    exact (hresumed.keeps laws).runCurrent hresumed.waits

/-- A tick. -/
theorem tick (h : game.Waits story May) (laws : Opens game.book (May game.book)) (now : Nat) :
    (Result.left (Game.tick now game)).Waits story May := by
  obtain ⟨timer, htick⟩ := left_tick now game
  rw [htick]
  split
  · exact (h.call laws .proceed).along rfl (h.call laws .proceed).waits
  · exact h.along rfl h.waits

end Game.Waits

/-- **Whatever a host reaches**, the menu that waits is one that may.  The induction is on how the
game was reached. -/
theorem Hosted.waits {May : Playbook → World → Json → Prop} (h : Hosted story game)
    (laws : ∀ game preferences, Game.IsOf story preferences game → Opens game.book (May game.book)) :
    game.Waits story May := by
  induction h with
  | @setup fresh ready preferences made setUp =>
    obtain ⟨-, -, hprompt, -⟩ := ready_parts made setUp
    exact ⟨⟨preferences, fresh, ready, made, setUp, rfl⟩,
      waits_of_none (congrArg Prompt.pending hprompt)⟩
  | call hosted call ih =>
    obtain ⟨preferences, hisOf⟩ := ih.isOf
    exact ih.call (laws _ _ hisOf) call
  | reset hosted ih => exact ih.reset
  | load hosted store key ih =>
    obtain ⟨preferences, hisOf⟩ := ih.isOf
    exact ih.load (laws _ _ hisOf) store key
  | autoPlay hosted enable now ih => exact ih.along rfl ih.waits
  | tick hosted now ih =>
    obtain ⟨preferences, hisOf⟩ := ih.isOf
    exact ih.tick (laws _ _ hisOf) now
  | @autoSave σ _ game hosted store date ih =>
    obtain ⟨preferences, hisOf⟩ := ih.isOf
    obtain hsame | hturned := game_autoSave game store date
    · rw [hsame]
      exact ih
    · rw [hturned]
      exact ih.along rfl (ih.waits.congr (laws _ _ hisOf) rfl rfl rfl)
  | drain hosted ih =>
    obtain ⟨preferences, hisOf⟩ := ih.isOf
    exact ih.along rfl (ih.waits.congr (laws _ _ hisOf) rfl rfl rfl)

/-! ## A menu waits over a menu -/

/-- **A menu waits only over a record that has one.** -/
def Menued (book : Playbook) (world : World) : Prop :=
  ∀ menu, world.prompt.pending = some menu →
    ∃ fields options, book.current? world = some (.record fields)
      ∧ (Fields.get? fields Choice.fieldName).bind Json.asFields? = some options

/-- **A game of a story whose menu, if one waits, is over a menu.** -/
structure Game.AtMenu (story : Story) (game : Game) : Prop where
  /-- The game is one of the story. -/
  isOf : ∃ preferences, game.IsOf story preferences
  /-- A menu waits only over a menu. -/
  menued : Menued game.book game.world

theorem Game.AtMenu.registry (h : game.AtMenu story) : game.registry = story.registry := by
  obtain ⟨preferences, hisOf⟩ := h.isOf
  exact hisOf.registry

/-- Menus wait over menus: the ones inside another are over that one. -/
theorem opens_menued (book : Playbook) : Opens book fun world _ =>
    ∃ fields options, book.current? world = some (.record fields)
      ∧ (Fields.get? fields Choice.fieldName).bind Json.asFields? = some options where
  congr world other _ h hcursor _ := by
    rw [Playbook.current?, hcursor]
    exact h
  record _ _ h := by
    obtain ⟨fields, -, hfields, -⟩ := h
    exact ⟨fields, hfields⟩
  here _ fields options _ hfields hoptions _ := ⟨fields, options, hfields, hoptions⟩
  inside _ _ h _ _ _ _ _ _ _ _ := h

/-- **Whatever a host reaches**, a menu waits only over a menu. -/
theorem Hosted.atMenu (h : Hosted story game) : game.AtMenu story := by
  have hwaits : game.Waits story fun book world _ =>
      ∃ fields options, book.current? world = some (.record fields)
        ∧ (Fields.get? fields Choice.fieldName).bind Json.asFields? = some options :=
    h.waits fun game _ _ => opens_menued game.book
  exact ⟨hwaits.isOf, hwaits.waits⟩

end Hosted

/-! ## While a menu waits -/

/-- **What a host may do while a menu waits**, other than picking an option or going back. -/
inductive Waiting where
  /-- Continue. -/
  | proceed
  /-- Drive automatic play, at a time. -/
  | tick (now : Nat)
  /-- Switch automatic play on or off, at a time. -/
  | autoPlay (enable : Bool) (now : Nat)
  /-- The text of the line is all there. -/
  | finishTyping
  /-- Save to the next slot, at a date. -/
  | save (name : Option String) (date : String)
  /-- Save automatically, at a date. -/
  | autoSave (date : String)

section Waiting

variable {σ : Type} [Store σ] {story : Story} {characters : Table Character}
  {presets : Fields Json} {game after last : Game} {store : σ}

/-- The game and the store that it leaves. -/
def Waiting.left (game : Game) (store : σ) : Waiting → Game × σ
  | proceed => (Result.left (Game.proceed game), store)
  | tick now => (Result.left (Game.tick now game), store)
  | autoPlay enable now => (game.autoPlay enable now, store)
  | finishTyping => (game.finishTyping, store)
  | save name date =>
    match game.save store name date with
    | .ok (_, kept) => (game, kept)
    | .error _ => (game, store)
  | autoSave date => ((Errand.autoSave date).run game store).2

/-- The game and the store that several of them leave, one after the other. -/
def Waiting.leftAll (waiting : List Waiting) (game : Game) (store : σ) : Game × σ :=
  waiting.foldl (fun state waits => waits.left state.1 state.2) (game, store)

/-- **A game that has been held**: what a save keeps is the same, and so is the menu. -/
structure Game.Held (game after : Game) : Prop where
  /-- The script and the actions are the same. -/
  fixed : after.fixed = game.fixed
  /-- So is what is saved. -/
  snapshot : after.snapshot = game.snapshot
  /-- So are the options offered. -/
  pending : after.world.prompt.pending = game.world.prompt.pending

namespace Game.Held

theorem refl (game : Game) : game.Held game := ⟨rfl, rfl, rfl⟩

theorem trans (h : game.Held after) (hlast : after.Held last) : game.Held last :=
  ⟨hlast.fixed.trans h.fixed, hlast.snapshot.trans h.snapshot, hlast.pending.trans h.pending⟩

/-- The timer holds nothing. -/
theorem timer (h : game.Held after) (timer : Timer) : game.Held { after with timer := timer } :=
  ⟨h.fixed, h.snapshot, h.pending⟩

theorem offered (h : game.Held after) :
    Choice.offered after.world = Choice.offered game.world :=
  congrArg (fun menu : Option Json => (menu.bind (Json.listOf MenuItem.ofJson?)).getD []) h.pending

theorem isPending (h : game.Held after) :
    Choice.isPending after.world = Choice.isPending game.world :=
  congrArg Option.isSome h.pending

end Game.Held

/-- **While a menu waits, continuing is refused**, and finishes the line at most. -/
theorem held_of_proceed (hregistry : game.registry = builtinRegistry characters presets)
    (hpending : Choice.isPending game.world = true) :
    ∃ after, Game.proceed game = .ok false after ∧ game.Held after := by
  have hask := canProceed_eq hregistry
  simp only [hpending, Bool.not_true, Bool.false_and] at hask
  split at hask
  · simp only [Game.proceed, bind, EStateM.bind, hask]
    refine ⟨_, rfl, ?_⟩
    split
    · exact .refl game
    · exact ⟨rfl, rfl, rfl⟩
  · simp only [Game.proceed, bind, EStateM.bind, hask]
    exact ⟨game, rfl, .refl game⟩

/-- **One of them holds the game.** -/
theorem Waiting.held (hregistry : game.registry = builtinRegistry characters presets)
    (hpending : Choice.isPending game.world = true) (waits : Waiting) :
    game.Held (waits.left game store).1 := by
  obtain ⟨proceeded, hproceed, hheld⟩ := held_of_proceed hregistry hpending
  cases waits with
  | proceed =>
    rw [Waiting.left, hproceed]
    exact hheld
  | tick now =>
    obtain ⟨timer, htick⟩ := left_tick now game
    rw [Waiting.left, htick, hproceed]
    split
    · exact hheld.timer timer
    · exact (Game.Held.refl game).timer timer
  | autoPlay enable now => exact ⟨rfl, rfl, rfl⟩
  | finishTyping => exact ⟨rfl, rfl, rfl⟩
  | save name date =>
    rw [Waiting.left]
    split <;> exact .refl game
  | autoSave date =>
    obtain hsame | hturned := game_autoSave game store date
    · rw [Waiting.left, hsame]
      exact .refl game
    · rw [Waiting.left, hturned]
      exact ⟨rfl, rfl, rfl⟩

/-- **All of them hold the game.**  The induction is on the list: the game that the first leaves is
held, too, so the menu still waits there. -/
theorem Waiting.held_leftAll (hregistry : game.registry = builtinRegistry characters presets)
    (hpending : Choice.isPending game.world = true) (waiting : List Waiting) :
    game.Held (Waiting.leftAll waiting game store).1 := by
  induction waiting generalizing game store with
  | nil => exact .refl game
  | cons waits waiting ih =>
    have hfirst : game.Held (waits.left game store).1 := waits.held hregistry hpending
    have hsame : (waits.left game store).1.registry = builtinRegistry characters presets :=
      (congrArg (·.2.1) hfirst.fixed).trans hregistry
    exact hfirst.trans (ih hsame (hfirst.isPending.trans hpending))

end Waiting

/-- **A pending menu holds the game in place.**  In every game that a host may reach of a story, a
menu waits only over a record that has one.  While it does, continuing, automatic play, finishing
the line and saving, as often as the host likes and in any order, leave the snapshot and the options
as they are, and continuing is still refused. -/
theorem menu_holds {story : Story} {game : Game} (h : Hosted story game)
    (hpending : Choice.isPending game.world = true) :
    (∃ fields, game.book.current? game.world = some (.record fields)
        ∧ Fields.has fields Choice.fieldName = true)
      ∧ ∀ (σ : Type) [Store σ] (store : σ) (waiting : List Waiting),
        (Waiting.leftAll waiting game store).1.snapshot = game.snapshot
          ∧ Choice.offered (Waiting.leftAll waiting game store).1.world = Choice.offered game.world
          ∧ Choice.isPending (Waiting.leftAll waiting game store).1.world = true
          ∧ ∃ after, Game.proceed (Waiting.leftAll waiting game store).1 = .ok false after := by
  obtain ⟨menu, hmenu⟩ := Option.isSome_iff_exists.1 hpending
  obtain ⟨fields, options, here, hoptions⟩ := h.atMenu.menued menu hmenu
  obtain ⟨value, hvalue, -⟩ := Option.bind_eq_some_iff.1 hoptions
  refine ⟨⟨fields, here, Option.isSome_iff_exists.2 ⟨value, hvalue⟩⟩, fun σ _ store waiting => ?_⟩
  have hheld : game.Held (Waiting.leftAll waiting game store).1 :=
    Waiting.held_leftAll h.atMenu.registry hpending waiting
  have hopen := hheld.isPending.trans hpending
  have hregistry : (Waiting.leftAll waiting game store).1.registry
      = builtinRegistry story.characters story.particles :=
    (congrArg (·.2.1) hheld.fixed).trans h.atMenu.registry
  obtain ⟨after, hproceed, -⟩ := held_of_proceed hregistry hopen
  exact ⟨hheld.snapshot, hheld.offered, hopen, after, hproceed⟩

/-- The theorem about the menu of the inn. -/
theorem menu_holds_inn :
    Hosted innStory innMenu ∧ Choice.isPending innMenu.world = true
      ∧ (∃ fields, innMenu.book.current? innMenu.world = some (.record fields)
        ∧ Fields.has fields Choice.fieldName = true)
      ∧ ∀ (σ : Type) [Store σ] (store : σ) (waiting : List Waiting),
        (Waiting.leftAll waiting innMenu store).1.snapshot = innMenu.snapshot
          ∧ Choice.offered (Waiting.leftAll waiting innMenu store).1.world
            = Choice.offered innMenu.world
          ∧ Choice.isPending (Waiting.leftAll waiting innMenu store).1.world = true
          ∧ ∃ after, Game.proceed (Waiting.leftAll waiting innMenu store).1 = .ok false after := by
  have hsetup : Hosted innStory innReady :=
    .setup {} (show innStory.gameWith? innStory.registry = some innMade from
      (Option.some_get _).symm) (setup_ok_left rfl)
  have hhosted : Hosted innStory innMenu := (hsetup.call .start).call .proceed
  have hpending : Choice.isPending innMenu.world = true := by decide +kernel
  exact ⟨hhosted, hpending, menu_holds hhosted hpending⟩

end Narrative
