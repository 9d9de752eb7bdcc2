import Narrative.Proofs.Held

/-!
# Proofs/Driven — what lasts in every game of a story

The **trail** of a world is where it is, its variables, and the stacks that going back reads, without
that of the closed pages.  Running a statement changes the trail in one of three ways (`Onward`), and
undoing one in one of three others (`Backward`).  What each of these keeps, and what a step within
the label keeps, **lasts** (`Lasting`): it holds in every game that a host may drive of a story
(`Driven`), also past the guards, and after calls that failed (`Driven.lasts`).

A slot holds the trail, so loading leaves a game on the trail of the slot before its statement is
run.  For this the variables have to be read back as they were; the built-in actions write one
variable only (`Trail.Plain`).
-/

namespace Narrative

/-! ## Trails -/

/-- **Where a world is, its variables, and what it keeps to go back**, closed pages apart. -/
@[ext] structure Trail where
  /-- Where the game is. -/
  cursor : Cursor
  /-- The variables. -/
  vars : Fields Json
  /-- The entries of each stack, newest first, with no page closed. -/
  entries : String → List Json

namespace Trail

/-- The trail of a new game. -/
def start (label : String) : Trail :=
  ⟨Cursor.start label, [(Particles.runningVar, .str "")], fun _ => []⟩

/-- Move to a position. -/
def moveTo (trail : Trail) (cursor : Cursor) : Trail := { trail with cursor := cursor }

/-- Put an entry on a stack. -/
def push (trail : Trail) (stack : String) (entry : Json) : Trail :=
  { trail with entries := Function.update trail.entries stack (entry :: trail.entries stack) }

/-- Take the newest entry off a stack. -/
def pop (trail : Trail) (stack : String) : Trail :=
  { trail with entries := Function.update trail.entries stack (trail.entries stack).tail }

/-- Name the running particle system. -/
def running (trail : Trail) (statement : String) : Trail :=
  { trail with vars := Fields.insert trail.vars Particles.runningVar (.str statement) }

/-- The statement of the particle system before the newest one, if its preset is still there; else
an empty text. -/
def previous (presets : Fields Json) (trail : Trail) : String :=
  (((trail.entries Particles.stack)[1]?.bind Json.asText?).filter
    fun statement => (Particles.effect? presets statement).isSome).getD ""

@[simp] theorem entries_moveTo (trail : Trail) (cursor : Cursor) :
    (trail.moveTo cursor).entries = trail.entries := rfl

@[simp] theorem entries_running (trail : Trail) (statement : String) :
    (trail.running statement).entries = trail.entries := rfl

@[simp] theorem entries_push (trail : Trail) (stack name : String) (entry : Json) :
    (trail.push stack entry).entries name
      = if name = stack then entry :: trail.entries stack else trail.entries name :=
  Function.update_apply ..

@[simp] theorem entries_pop (trail : Trail) (stack name : String) :
    (trail.pop stack).entries name
      = if name = stack then (trail.entries stack).tail else trail.entries name :=
  Function.update_apply ..

/-- **What running a statement does to a trail.** -/
inductive Onward (presets : Fields Json) (book : Playbook) (trail : Trail) : Trail → Prop
  | stayed : Onward presets book trail trail
  | jumped (target : String) :
      Onward presets book trail
        (((trail.push Jump.stack
            (JumpEntry.toJson ⟨trail.cursor.label, target, trail.cursor.step⟩)).moveTo
          (Cursor.start target)).push Jump.labelStack (.str target))
  | stepped (inside : trail.cursor.step < book.labelLength trail.cursor.label) :
      Onward presets book trail (trail.moveTo (trail.cursor.atStep (trail.cursor.step + 1)))
  | started {text : String} {name : Option String} (kind : Kind.ofText text = .particles name)
      (defined : Fields.has presets (name.getD "") = true) :
      Onward presets book trail
        ((trail.push Particles.stack (.str (Text.trim text))).running (Text.trim text))

/-- **What undoing a statement does to a trail**, before the cursor moves back. -/
inductive Backward (presets : Fields Json) (trail : Trail) : Trail → Prop
  | stayed : Backward presets trail trail
  | lost : Backward presets trail (trail.pop Jump.stack)
  | returned {value : Json} {entry : JumpEntry}
      (newest : (trail.entries Jump.stack).head? = some value)
      (read : JumpEntry.ofJson? value = some entry) :
      Backward presets trail
        (((trail.pop Jump.stack).pop Jump.labelStack).moveTo ⟨entry.source, entry.step⟩)
  | stopped : Backward presets trail ((trail.pop Particles.stack).running (trail.previous presets))

/-- **The one variable is that of the running particle system.** -/
def Plain (trail : Trail) : Prop :=
  ∃ statement, trail.vars = [(Particles.runningVar, .str statement)]

theorem plain_running {trail : Trail} (h : trail.Plain) (statement : String) :
    (trail.running statement).vars = [(Particles.runningVar, .str statement)] := by
  obtain ⟨before, hvars⟩ := h
  rw [running, hvars]
  rfl

end Trail

/-! ## The trail of a world -/

/-- The trail of a world. -/
def World.trail (world : World) : Trail where
  cursor := world.cursor
  vars := world.state.vars
  entries := Function.update world.history.entries Page.stack []

section Trails

variable {world other : World}

/-- The trail is read off the state and the place. -/
theorem trail_eq (hstate : other.state = world.state) (hplace : other.place = world.place) :
    other.trail = world.trail :=
  Trail.ext (congrArg State.cursor hstate) (congrArg State.vars hstate)
    (congrArg Place.entries hplace)

/-- Nothing on the stacks, and no other variable: the trail of a new game. -/
theorem trail_of_blank {label : String}
    (hstate : world.state = (State.start label).set Particles.runningVar (.str ""))
    (hempty : ∀ name, world.history.entries name = []) : world.trail = Trail.start label := by
  refine Trail.ext (congrArg State.cursor hstate) (congrArg State.vars hstate) ?_
  show Function.update world.history.entries Page.stack [] = fun _ => []
  rw [funext hempty]
  exact Function.update_eq_self Page.stack fun _ => []

@[simp] theorem trail_emit (world : World) (effects : List Effect) :
    (world.emit effects).trail = world.trail := rfl

@[simp] theorem trail_moveTo (world : World) (cursor : Cursor) :
    (world.moveTo cursor).trail = world.trail.moveTo cursor := rfl

@[simp] theorem trail_setVar (world : World) (statement : String) :
    (world.setVar Particles.runningVar (.str statement)).trail = world.trail.running statement :=
  rfl

theorem trail_push {stack : String} (hne : stack ≠ Page.stack) (entry : Json) :
    (world.push stack entry).trail = world.trail.push stack entry := by
  refine Trail.ext rfl rfl (funext fun name => ?_)
  by_cases hpage : name = Page.stack
  · simp [World.trail, World.push, Trail.push, hpage, hne.symm]
  · by_cases hname : name = stack <;> simp [World.trail, World.push, Trail.push, hpage, hname, hne]

theorem trail_pop {stack : String} (hne : stack ≠ Page.stack) :
    (world.pop stack).trail = world.trail.pop stack := by
  refine Trail.ext rfl rfl (funext fun name => ?_)
  by_cases hpage : name = Page.stack
  · simp [World.trail, World.pop, Trail.pop, hpage, hne.symm]
  · by_cases hname : name = stack <;> simp [World.trail, World.pop, Trail.pop, hpage, hname, hne]

theorem entries_trail {stack : String} (hne : stack ≠ Page.stack) :
    world.trail.entries stack = world.history.entries stack :=
  Function.update_of_ne hne _ _

theorem trail_entered (target : String) :
    (Jump.entered target world).trail
      = ((world.trail.push Jump.stack
          (JumpEntry.toJson ⟨world.cursor.label, target, world.cursor.step⟩)).moveTo
        (Cursor.start target)).push Jump.labelStack (.str target) := by
  rw [← trail_push (by decide), ← trail_moveTo, ← trail_push (by decide)]
  rfl

theorem trail_returned (back : Cursor) :
    (Jump.returned back world).trail
      = ((world.trail.pop Jump.stack).pop Jump.labelStack).moveTo back := by
  rw [← trail_pop (by decide), ← trail_pop (by decide), ← trail_moveTo]
  rfl

theorem trail_started (statement : String) :
    (Particles.started statement world).trail
      = (world.trail.push Particles.stack (.str statement)).running statement := by
  rw [← trail_push (by decide), ← trail_setVar]
  rfl

/-- The system before the newest one is read off the trail. -/
theorem previous_trail (presets : Fields Json) (world : World) :
    ((Particles.previous? presets world).map Prod.fst).getD "" = world.trail.previous presets := by
  rw [Particles.previous?, Trail.previous, entries_trail (by decide)]
  cases hsecond : (world.history.entries Particles.stack)[1]? with
  | none => rfl
  | some value =>
    cases htext : value.asText? with
    | none => simp [htext]
    | some statement =>
      cases heffect : Particles.effect? presets statement <;>
        simp [htext, heffect, Option.filter]

end Trails

section Steps

variable {characters : Table Character} {presets : Fields Json} {book : Playbook} {world : World}
  {statement : Statement} {result : EStateM.Result Fault World Flow}

/-- **Running a statement takes the trail onward**, whether or not it succeeds. -/
theorem Ran.onward {advance : Bool}
    (h : Ran characters presets book world advance statement result) :
    world.trail.Onward presets book (Result.left result).trail := by
  cases h with
  | unread fault => exact .stayed
  | refused fault report => exact .stayed
  | @jumped line text target filled kind label =>
    show world.trail.Onward presets book (Jump.entered target world).trail
    rw [trail_entered]
    exact .jumped target
  | passed onward => exact .stayed
  | stepped inPlace =>
    show world.trail.Onward presets book (Next.step book world).trail
    unfold Next.step
    split
    · next inside => exact .stepped inside
    · exact .stayed
  | @started line text name effects filled kind defined =>
    show world.trail.Onward presets book (Particles.started (Text.trim text) world).trail
    rw [trail_started]
    exact .started kind defined
  | @shown line text first say effects after filled kind said shows =>
    obtain ⟨hstate, hplace, -⟩ := kept_of_display shows
    show world.trail.Onward presets book after.trail
    rw [trail_eq hstate hplace]
    exact .stayed
  | offered effects field read => exact .stayed

/-- **Undoing a statement takes the trail backward**, whether or not it succeeds. -/
theorem Undone.backward (h : Undone characters presets book world statement result) :
    world.trail.Backward presets (Result.left result).trail := by
  cases h with
  | unread fault => exact .stayed
  | lost newest unread =>
    show world.trail.Backward presets (world.pop Jump.stack).trail
    rw [trail_pop (by decide)]
    exact .lost
  | @returned line value entry effects newest read =>
    rw [left_didRevert, trail_emit, trail_returned]
    have htrail : (world.trail.entries Jump.stack).head? = some value := by
      rw [entries_trail (by decide)]
      exact newest
    exact .returned htrail read
  | passed => exact .stayed
  | stopped previous effects filled kind before =>
    show world.trail.Backward presets
      ((world.pop Particles.stack).setVar Particles.runningVar (.str previous)).trail
    rw [trail_setVar, trail_pop (by decide), ← before, previous_trail]
    exact .stopped
  | shown filled kind said undoes =>
    obtain ⟨hstate, hplace, -⟩ := kept_of_undone undoes
    rw [trail_eq hstate hplace]
    exact .stayed
  | closed =>
    show world.trail.Backward presets (Choice.hide world).trail
    unfold Choice.hide
    split <;> exact .stayed

end Steps

/-! ## What lasts -/

/-- **What every step of a game keeps of its trail.** -/
structure Lasting (presets : Fields Json) (book : Playbook) (I : Trail → Prop) : Prop where
  /-- Running a statement. -/
  onward : ∀ ⦃trail next⦄, I trail → trail.Onward presets book next → I next
  /-- Undoing a statement. -/
  backward : ∀ ⦃trail next⦄, I trail → trail.Backward presets next → I next
  /-- One step back, after a statement was undone. -/
  behind : ∀ ⦃trail⦄, I trail → I (trail.moveTo (trail.cursor.atStep (trail.cursor.step - 1)))
  /-- Back to where undoing began, after it failed. -/
  home : ∀ ⦃trail next⦄, I trail → I next → I (next.moveTo trail.cursor)

namespace Lasting

variable {characters : Table Character} {presets : Fields Json} {book : Playbook}
  {I J : Trail → Prop}

/-- Two things that last, last together. -/
theorem and (h : Lasting presets book I) (hother : Lasting presets book J) :
    Lasting presets book fun trail => I trail ∧ J trail where
  onward _ _ htrail hnext := ⟨h.onward htrail.1 hnext, hother.onward htrail.2 hnext⟩
  backward _ _ htrail hnext := ⟨h.backward htrail.1 hnext, hother.backward htrail.2 hnext⟩
  behind _ htrail := ⟨h.behind htrail.1, hother.behind htrail.2⟩
  home _ _ htrail hnext := ⟨h.home htrail.1 hnext.1, hother.home htrail.2 hnext.2⟩

variable (presets book) in
/-- No step writes another variable. -/
theorem plain : Lasting presets book Trail.Plain where
  onward trail next htrail hnext := by
    cases hnext with
    | stayed => exact htrail
    | jumped target => exact htrail
    | stepped inside => exact htrail
    | started kind defined => exact ⟨_, Trail.plain_running htrail _⟩
  backward trail next htrail hnext := by
    cases hnext with
    | stayed => exact htrail
    | lost => exact htrail
    | returned newest read => exact htrail
    | stopped => exact ⟨_, Trail.plain_running htrail _⟩
  behind _ htrail := htrail
  home _ _ _ hnext := hnext

/-- **What lasts is carried through all that a call may run**, menus or not. -/
theorem carries (h : Lasting presets book I) (hbook : book.Callbackless) :
    Carries (fun world => I world.trail) (fun _ => True) characters presets book where
  perform world statement hworld here advance := by
    have hno : ∀ run, statement ≠ .callback run := fun run hrun => hbook _ run (hrun ▸ here)
    exact .of_left (h.onward hworld (ran hno advance world).onward) trivial
  ahead world hworld _ inside := h.onward hworld (.stepped inside)
  undo world statement hworld _ htarget := by
    have hundone : Undone characters presets book world statement
        (Rewind.undo book (builtinRegistry characters presets) statement world) :=
      undone (target?_ne_callback hbook htarget) world
    have hleft := h.backward hworld hundone.backward
    cases hresult : Rewind.undo book (builtinRegistry characters presets) statement world with
    | ok flow after =>
      rw [hresult] at hleft
      refine ⟨?_, trivial⟩
      show I (Rewind.settle world.cursor after).trail
      unfold Rewind.settle
      split
      · next hstays =>
        rw [trail_moveTo, ← hstays.1]
        exact h.behind hleft
      · exact hleft
    | error fault after =>
      rw [hresult] at hleft
      exact h.home hworld hleft
  picked world hworld item hitem statement hread := by
    have hno : ∀ run, statement ≠ .callback run := Statement.ne_callback_of_ofJson? hread
    exact .of_left (h.onward hworld
      (ran hno false ((Choice.close world).emit [.hideChoices])).onward) trivial
  emit _ hworld _ := hworld
  close _ hworld := hworld
  playing _ hworld := hworld
  finished _ hworld := hworld
  unprompted _ _ := trivial
  moved _ _ _ := trivial

end Lasting

/-! ## The games that a host drives -/

/-- **The games that a host drives of a story**, in some of its languages, whatever the calls
return.  What is loaded has the state and the stacks of a game driven of the same story. -/
inductive Driven (story : Story) (languages : String → Prop) : Game → Prop
  | setup {fresh ready : Game} (preferences : Preferences)
      (spoken : languages preferences.language)
      (made : story.gameWith? story.registry = some fresh)
      (setUp : Game.setup (fresh.withPreferences preferences) = .ok () ready) :
      Driven story languages ready
  | call {game : Game} (driven : Driven story languages game) (call : Call) :
      Driven story languages (call.left game)
  | next {game : Game} (driven : Driven story languages game) :
      Driven story languages (Result.left (Game.next game))
  | revert {game : Game} (driven : Driven story languages game) :
      Driven story languages (Result.left (Game.revert game))
  | autoPlay {game : Game} (driven : Driven story languages game) (enable : Bool) (now : Nat) :
      Driven story languages (game.autoPlay enable now)
  | tick {game : Game} (driven : Driven story languages game) (now : Nat) :
      Driven story languages (Result.left (Game.tick now game))
  | reset {game : Game} (driven : Driven story languages game) :
      Driven story languages (Result.left (Game.reset game))
  | load {σ : Type} [Store σ] {store : σ} {key : String} {slot : SaveSlot} {game saved : Game}
      (driven : Driven story languages game) (other : Driven story languages saved)
      (state : slot.snapshot.state = saved.world.state)
      (history : slot.snapshot.history = saved.world.history)
      (stored : Store.get store key = .ok slot.toJson) :
      Driven story languages (Result.left (Game.loadFromSlot store key game))
  | drain {game : Game} (driven : Driven story languages game) :
      Driven story languages game.drainEffects.2

/-- A book of a story, in one of its languages. -/
structure Playbook.Tells (story : Story) (languages : String → Prop) (book : Playbook) : Prop where
  /-- The script is that of the story. -/
  script : story.script? = some book.script
  /-- So are the settings. -/
  settings : book.settings = story.settings
  /-- The language is one of those that are played. -/
  spoken : languages book.preferences.language

theorem Playbook.Tells.callbackless {story : Story} {languages : String → Prop} {book : Playbook}
    (h : book.Tells story languages) : book.Callbackless :=
  fun cursor run => Script.ne_callback_of_ofJson? h.script _ cursor run

/-- **A game of a story whose trail is as it should be.** -/
structure Game.Lasts (story : Story) (languages : String → Prop) (I : Trail → Prop) (game : Game) :
    Prop where
  /-- The actions are the built-in ones. -/
  registry : game.registry = story.registry
  /-- The book is one of the story. -/
  book : game.book.Tells story languages
  /-- A new game starts at the start label. -/
  fresh : game.freshState
    = (State.start story.settings.startLabel).set Particles.runningVar (.str "")
  /-- No other variable was written. -/
  plain : game.world.trail.Plain
  /-- The trail is as it should be. -/
  trail : I game.world.trail

namespace Game.Lasts

variable {story : Story} {languages : String → Prop} {I : Trail → Prop} {game other saved : Game}

/-- Another trail that is as it should be. -/
theorem along (h : game.Lasts story languages I) (hfixed : other.fixed = game.fixed)
    (htrail : other.world.trail.Plain ∧ I other.world.trail) : other.Lasts story languages I := by
  have hbook : other.book = game.book := congrArg Prod.fst hfixed
  have hregistry : other.registry = game.registry := congrArg (·.2.1) hfixed
  have hfresh : other.freshState = game.freshState := congrArg (·.2.2.1) hfixed
  exact ⟨hregistry.trans h.registry, hbook ▸ h.book, hfresh.trans h.fresh, htrail.1, htrail.2⟩

/-- A slot can hold variables of which no other was written. -/
theorem storable (h : game.Lasts story languages I) : game.world.state.Storable := by
  obtain ⟨statement, hvars⟩ := h.plain
  have hvars : game.world.state.vars = [(Particles.runningVar, .str statement)] := hvars
  refine ⟨?_, ?_, ?_⟩ <;> simp [hvars, Fields.Distinct, Fields.keys, Particles.runningVar]

/-- A game that has been set up is on the trail of a new game. -/
theorem setup {fresh ready : Game} {preferences : Preferences}
    (hstart : I (Trail.start story.settings.startLabel)) (spoken : languages preferences.language)
    (made : story.gameWith? story.registry = some fresh)
    (setUp : Game.setup (fresh.withPreferences preferences) = .ok () ready) :
    ready.Lasts story languages I := by
  obtain ⟨script, hscript, rfl⟩ := Option.map_eq_some_iff.1 made
  rw [setup_eq rfl] at setUp
  obtain rfl := (EStateM.Result.ok.inj setUp).2
  refine ⟨rfl, ⟨hscript, rfl, spoken⟩, rfl, ⟨_, rfl⟩, ?_⟩
  convert hstart using 1
  refine trail_of_blank rfl fun name => ?_
  show ((((History.empty.create Jump.labelStack).create Jump.stack).create
    Particles.stack).create Page.stack).entries name = []
  simp only [History.entries_create]
  rfl

/-- So is the blank world of such a game. -/
theorem trail_blankWorld (h : game.Lasts story languages I) :
    game.blankWorld.trail = Trail.start story.settings.startLabel := by
  have hstate : game.blankWorld.state = game.freshState.set Particles.runningVar (.str "") :=
    congrArg Look.state (look_blankWorld game)
  rw [h.fresh] at hstate
  exact trail_of_blank hstate (History.entries_clear game.world.history)

/-- A game that has been reset is on the trail of a new game again. -/
theorem reset (h : game.Lasts story languages I)
    (hstart : I (Trail.start story.settings.startLabel)) :
    (Result.left (Game.reset game)).Lasts story languages I := by
  rw [reset_eq h.registry]
  have htrail := h.trail_blankWorld
  refine h.along rfl ⟨⟨"", congrArg Trail.vars htrail⟩, ?_⟩
  exact htrail.symm ▸ hstart

/-- **A slot merged over a new game** is on the trail that was saved. -/
theorem trail_restored (h : game.Lasts story languages I) (hsaved : saved.Lasts story languages I)
    {slot : SaveSlot} (hstate : slot.snapshot.state = saved.world.state)
    (hhistory : slot.snapshot.history = saved.world.history) :
    (game.restored slot).world.trail = saved.world.trail := by
  have hplaying : game.setPlaying.Lasts story languages I := h.along rfl ⟨h.plain, h.trail⟩
  obtain ⟨statement, hvars⟩ := hsaved.plain
  have hvars : saved.world.state.vars = [(Particles.runningVar, .str statement)] := hvars
  have hblank : game.setPlaying.blankWorld.state.vars = [(Particles.runningVar, .str "")] :=
    congrArg Trail.vars hplaying.trail_blankWorld
  refine Trail.ext ?_ ?_ ?_
  · have hcursor : slot.snapshot.state.cursor = saved.world.state.cursor :=
      congrArg State.cursor hstate
    exact hcursor
  · show Fields.extend game.setPlaying.blankWorld.state.vars slot.snapshot.state.vars
      = saved.world.state.vars
    rw [hstate, hvars, hblank]
    rfl
  · have hentries : (game.restored slot).world.history.entries = saved.world.history.entries := by
      rw [← hhistory]
      exact funext fun name => History.entries_merge_clear game.world.history _ name
    exact congrArg (Function.update · Page.stack []) hentries

/-- What lasts is carried along by every statement of the book of such a game. -/
theorem carries (h : game.Lasts story languages I)
    (hlasts : ∀ ⦃book⦄, book.Tells story languages → Lasting story.particles book I) :
    Carries (fun world => world.trail.Plain ∧ I world.trail) (fun _ => True) story.characters
      story.particles game.book :=
  ((Lasting.plain _ _).and (hlasts h.book)).carries h.book.callbackless

/-- **A game into which a slot was loaded** goes on from the trail that was saved. -/
theorem load {σ : Type} [Store σ] {store : σ} {key : String} {slot : SaveSlot}
    (h : game.Lasts story languages I) (hsaved : saved.Lasts story languages I)
    (hlasts : ∀ ⦃book⦄, book.Tells story languages → Lasting story.particles book I)
    (hstate : slot.snapshot.state = saved.world.state)
    (hhistory : slot.snapshot.history = saved.world.history)
    (stored : Store.get store key = .ok slot.toJson) :
    (Result.left (Game.loadFromSlot store key game)).Lasts story languages I := by
  have hstorable : slot.snapshot.state.Storable := hstate ▸ hsaved.storable
  rw [loadFromSlot_of_stored h.registry hstorable stored]
  have htrail : (game.restored slot).world.trail = saved.world.trail :=
    h.trail_restored hsaved hstate hhistory
  have hresumed : ((game.restored slot).withWorld (Particles.resume story.particles)).Lasts
      story languages I := by
    refine h.along rfl ?_
    show (game.restored slot).world.trail.Plain ∧ I (game.restored slot).world.trail
    rw [htrail]
    exact ⟨hsaved.plain, hsaved.trail⟩
  refine hresumed.along (fixed_ofPlay _) ?_
  rw [Game.runCurrent, world_left_ofPlay, hresumed.registry]
  exact (hresumed.carries hlasts).runCurrent ⟨hresumed.plain, hresumed.trail⟩

end Game.Lasts

section Driven

variable {story : Story} {languages : String → Prop} {I : Trail → Prop} {game : Game}

/-- **What lasts holds in every game driven of a story**, if new games have it.  The induction is on
how the game was reached. -/
theorem Driven.lasts
    (hlasts : ∀ ⦃book⦄, book.Tells story languages → Lasting story.particles book I)
    (hstart : I (Trail.start story.settings.startLabel)) (h : Driven story languages game) :
    game.Lasts story languages I := by
  induction h with
  | setup preferences spoken made setUp => exact .setup hstart spoken made setUp
  | call driven call ih =>
    exact ih.along (fixed_call ih.registry call)
      ((ih.carries hlasts).call ih.registry ⟨ih.plain, ih.trail⟩ call)
  | next driven ih =>
    refine ih.along (fixed_ofPlay _) ?_
    rw [Game.next, world_left_ofPlay, ih.registry]
    exact (ih.carries hlasts).next ⟨ih.plain, ih.trail⟩ trivial
  | revert driven ih =>
    refine ih.along (fixed_ofPlay _) ?_
    rw [Game.revert, world_left_ofPlay, ih.registry]
    exact (ih.carries hlasts).revert ⟨ih.plain, ih.trail⟩ trivial
  | autoPlay driven enable now ih => exact ih.along rfl ⟨ih.plain, ih.trail⟩
  | @tick game driven now ih =>
    obtain ⟨timer, htick⟩ := left_tick now game
    rw [htick]
    split
    · exact ih.along (fixed_call ih.registry .proceed)
        ((ih.carries hlasts).call ih.registry ⟨ih.plain, ih.trail⟩ .proceed)
    · exact ih.along rfl ⟨ih.plain, ih.trail⟩
  | reset driven ih => exact ih.reset hstart
  | load driven other state history stored ih ihother =>
    exact ih.load ihother hlasts state history stored
  | drain driven ih => exact ih.along rfl ⟨ih.plain, ih.trail⟩

end Driven

end Narrative
