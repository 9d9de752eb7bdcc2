import Narrative.Proofs.Driven

/-!
# Proofs/Running — the variable names the newest particle system

The running particle system is kept twice: as a variable, which is saved and from which loading
starts it again, and as the newest entry of a stack, which going back takes off.  Starting a system
writes both.  Undoing one takes the newest entry off, and writes the one before it to the variable if
its preset can be started again.

The two agree in every game driven of a story (`World.Mirrored`), but for one thing: a statement
without a second word starts the preset of the empty name, and is never started again.  Where it is
the newest entry after an undo, the variable is empty (`World.Dropped`); nothing else tells the two
apart (`running_mirrored`).
-/

namespace Narrative

open Text (words)

/-! ## Statements on the stack -/

/-- **A statement that starts a particle system** whose preset is defined. -/
structure Particles.Begun (presets : Fields Json) (statement : String) : Prop where
  /-- It begins with the word of particles. -/
  keyword : (words statement).head? = some Particles.keyword
  /-- The preset that it names is defined. -/
  defined : Fields.has presets ((words statement)[1]?.getD "") = true

namespace Particles.Begun

variable {presets : Fields Json} {statement : String}

theorem of_kind {text : String} {name : Option String} (kind : Kind.ofText text = .particles name)
    (defined : Fields.has presets (name.getD "") = true) : Begun presets (Text.trim text) := by
  obtain ⟨rest, hwords, rfl⟩ := Kind.words_of_particles kind
  refine ⟨?_, ?_⟩
  · rw [Text.words_trim, hwords, List.head?_cons]
  · rwa [Text.words_trim, hwords, List.getElem?_cons_succ, ← List.head?_eq_getElem?]

theorem ne_empty (h : Begun presets statement) : statement ≠ "" := by
  rintro rfl
  cases h.keyword

/-- **It can be started again**, or it has no second word and starts the preset of the empty
name. -/
theorem effect?_or (h : Begun presets statement) :
    (Particles.effect? presets statement).isSome = true
      ∨ words statement = [Particles.keyword] ∧ Fields.has presets "" = true := by
  obtain ⟨rest, hwords⟩ := List.head?_eq_some_iff.1 h.keyword
  have hdefined := h.defined
  rw [hwords, List.getElem?_cons_succ, ← List.head?_eq_getElem?] at hdefined
  rw [Particles.effect?_eq, hwords, List.getElem?_cons_succ, ← List.head?_eq_getElem?]
  cases rest with
  | nil => exact Or.inr ⟨rfl, hdefined⟩
  | cons name rest =>
    obtain ⟨config, hconfig⟩ := Option.isSome_iff_exists.1 hdefined
    have hconfig : Fields.get? presets name = some config := hconfig
    refine Or.inl ?_
    rw [List.head?_cons, Option.bind_some, hconfig]
    rfl

end Particles.Begun

/-! ## Along a trail -/

/-- **The statements on the stack are those of systems that were started, and the variable is the
newest one**, or empty where the newest one has no second word. -/
structure Trail.Systems (presets : Fields Json) (statements : List String) (trail : Trail) : Prop
    where
  /-- The stack. -/
  stack : trail.entries Particles.stack = statements.map .str
  /-- Its statements started systems. -/
  begun : ∀ statement ∈ statements, Particles.Begun presets statement
  /-- The variable. -/
  vars : trail.vars = [(Particles.runningVar, .str (statements.head?.getD ""))]
    ∨ trail.vars = [(Particles.runningVar, .str "")]
      ∧ ∃ statement, statements.head? = some statement ∧ words statement = [Particles.keyword]

namespace Trail.Systems

variable {presets : Fields Json} {book : Playbook} {statements : List String} {trail next : Trail}

theorem plain (h : trail.Systems presets statements) : trail.Plain := by
  obtain hvars | ⟨hvars, -⟩ := h.vars
  · exact ⟨_, hvars⟩
  · exact ⟨_, hvars⟩

/-- Other stacks and the cursor do not matter. -/
theorem congr (h : trail.Systems presets statements)
    (hstack : next.entries Particles.stack = trail.entries Particles.stack)
    (hvars : next.vars = trail.vars) : next.Systems presets statements :=
  ⟨hstack.trans h.stack, h.begun, hvars ▸ h.vars⟩

/-- **A system that is started** is the newest one. -/
theorem started (h : trail.Systems presets statements) {statement : String}
    (begun : Particles.Begun presets statement) :
    ((trail.push Particles.stack (.str statement)).running statement).Systems presets
      (statement :: statements) where
  stack := by rw [entries_running, entries_push, if_pos rfl, h.stack, List.map_cons]
  begun := List.forall_mem_cons.2 ⟨begun, h.begun⟩
  vars := Or.inl (plain_running h.plain statement)

/-- The statement to start again is the one before the newest, if it can be. -/
theorem previous_eq (h : trail.Systems presets statements) :
    trail.previous presets
      = (statements.tail.head?.filter
          fun statement => (Particles.effect? presets statement).isSome).getD "" := by
  have hsecond : (trail.entries Particles.stack)[1]?.bind Json.asText? = statements.tail.head? := by
    rw [h.stack, List.getElem?_map, List.head?_tail]
    cases statements[1]? <;> rfl
  rw [previous, hsecond]

/-- **A system that is stopped** gives way to the one before it. -/
theorem stopped (h : trail.Systems presets statements) :
    ((trail.pop Particles.stack).running (trail.previous presets)).Systems presets
      statements.tail where
  stack := by rw [entries_running, entries_pop, if_pos rfl, h.stack, List.map_tail]
  begun statement hstatement := h.begun statement (List.mem_of_mem_tail hstatement)
  vars := by
    have hplain : (trail.pop Particles.stack).Plain := h.plain
    rw [plain_running hplain, h.previous_eq]
    cases hnewest : statements.tail.head? with
    | none => exact Or.inl rfl
    | some statement =>
      have hmem : statement ∈ statements := List.mem_of_mem_tail (List.mem_of_mem_head? hnewest)
      cases heffect : (Particles.effect? presets statement).isSome with
      | true =>
        rw [Option.filter_some, if_pos heffect]
        exact Or.inl rfl
      | false =>
        obtain hsome | ⟨hwords, -⟩ := (h.begun statement hmem).effect?_or
        · rw [heffect] at hsome
          cases hsome
        · rw [Option.filter_some, if_neg (by simp [heffect])]
          exact Or.inr ⟨rfl, statement, rfl, hwords⟩

variable (presets book) in
/-- **The agreement lasts.** -/
theorem lasting :
    Lasting presets book fun trail => ∃ statements, trail.Systems presets statements where
  onward trail next htrail hnext := by
    obtain ⟨statements, hsystems⟩ := htrail
    cases hnext with
    | stayed => exact ⟨_, hsystems⟩
    | jumped target =>
      refine ⟨_, hsystems.congr ?_ rfl⟩
      rw [entries_push, if_neg (by decide), entries_moveTo, entries_push, if_neg (by decide)]
    | stepped inside => exact ⟨_, hsystems.congr rfl rfl⟩
    | started kind defined => exact ⟨_, hsystems.started (.of_kind kind defined)⟩
  backward trail next htrail hnext := by
    obtain ⟨statements, hsystems⟩ := htrail
    cases hnext with
    | stayed => exact ⟨_, hsystems⟩
    | lost =>
      refine ⟨_, hsystems.congr ?_ rfl⟩
      rw [entries_pop, if_neg (by decide)]
    | returned newest read =>
      refine ⟨_, hsystems.congr ?_ rfl⟩
      rw [entries_moveTo, entries_pop, if_neg (by decide), entries_pop, if_neg (by decide)]
    | stopped => exact ⟨_, hsystems.stopped⟩
  behind _ htrail := htrail.imp fun _ hsystems => hsystems.congr rfl rfl
  home _ _ _ hnext := hnext.imp fun _ hsystems => hsystems.congr rfl rfl

/-- No system has been started in a new game. -/
theorem start (label : String) : (Trail.start label).Systems presets [] :=
  ⟨rfl, fun _ hmem => absurd hmem List.not_mem_nil, Or.inl rfl⟩

end Trail.Systems

/-! ## In a world -/

/-- **The variable is the newest entry of the stack**, and it is empty exactly if the stack is. -/
def World.Mirrored (world : World) : Prop :=
  world.state.get? Particles.runningVar
      = some ((world.history.peek? Particles.stack).getD (.str ""))
    ∧ (world.state.get? Particles.runningVar = some (.str "")
        ↔ world.history.entries Particles.stack = [])

/-- **The variable is empty though there is a newest entry**, the word of particles alone. -/
def World.Dropped (world : World) : Prop :=
  world.state.get? Particles.runningVar = some (.str "")
    ∧ ∃ statement, world.history.peek? Particles.stack = some (.str statement)
        ∧ words statement = [Particles.keyword]

section Running

variable {story : Story} {languages : String → Prop} {presets : Fields Json} {game : Game}
  {world : World} {statements : List String}

/-- The newest entry of the stack. -/
theorem peek?_of_systems (h : world.trail.Systems presets statements) :
    world.history.peek? Particles.stack = statements.head?.map .str := by
  rw [History.peek?, ← entries_trail (by decide), h.stack, List.head?_map]

/-- Where the variable is the newest statement, the two agree. -/
theorem mirrored_of_systems (h : world.trail.Systems presets statements)
    (hvars : world.trail.vars = [(Particles.runningVar, .str (statements.head?.getD ""))]) :
    world.Mirrored ∧ ¬world.Dropped := by
  have hget : world.state.get? Particles.runningVar = some (.str (statements.head?.getD "")) := by
    rw [State.get?, show world.state.vars = _ from hvars]
    rfl
  have hstack : world.history.entries Particles.stack = statements.map .str := by
    rw [← entries_trail (by decide), h.stack]
  rw [World.Mirrored, World.Dropped, hget, peek?_of_systems h, hstack, List.map_eq_nil_iff]
  cases hstatements : statements with
  | nil => exact ⟨⟨rfl, by simp⟩, by simp⟩
  | cons newest older =>
    have hne : newest ≠ "" := (h.begun newest (by simp [hstatements])).ne_empty
    exact ⟨⟨rfl, by simp [hne]⟩, by simp [hne]⟩

/-- Where the variable is empty and the newest statement has no second word, they do not. -/
theorem dropped_of_systems (h : world.trail.Systems presets statements) {statement : String}
    (hvars : world.trail.vars = [(Particles.runningVar, .str "")])
    (hnewest : statements.head? = some statement) (hwords : words statement = [Particles.keyword]) :
    world.Dropped ∧ ¬world.Mirrored ∧ Fields.has presets "" = true := by
  have hget : world.state.get? Particles.runningVar = some (.str "") := by
    rw [State.get?, show world.state.vars = _ from hvars]
    rfl
  have hpeek : world.history.peek? Particles.stack = some (.str statement) := by
    rw [peek?_of_systems h, hnewest, Option.map_some]
  have hbegun : Particles.Begun presets statement := h.begun statement (List.mem_of_mem_head? hnewest)
  refine ⟨⟨hget, statement, hpeek, hwords⟩, fun hmirrored => ?_, ?_⟩
  · have hempty := hget.symm.trans hmirrored.1
    rw [hpeek, Option.getD_some] at hempty
    exact hbegun.ne_empty (Json.str.inj (Option.some.inj hempty)).symm
  · have hdefined := hbegun.defined
    rwa [hwords] at hdefined

/-- **The variable mirrors the stack of particle systems**, unless a system without a name was
reached by going back; this takes a preset of the empty name. -/
theorem running_mirrored (h : Driven story languages game) :
    (game.world.Mirrored ↔ ¬game.world.Dropped)
      ∧ (game.world.Dropped → Fields.has story.particles "" = true) := by
  have hlasts := h.lasts (fun book _ => Trail.Systems.lasting story.particles book)
    ⟨[], .start story.settings.startLabel⟩
  obtain ⟨statements, hsystems⟩ := hlasts.trail
  obtain hvars | ⟨hvars, statement, hnewest, hwords⟩ := hsystems.vars
  · obtain ⟨hmirrored, hnot⟩ := mirrored_of_systems hsystems hvars
    exact ⟨iff_of_true hmirrored hnot, fun hdropped => absurd hdropped hnot⟩
  · obtain ⟨hdropped, hnot, hdefined⟩ := dropped_of_systems hsystems hvars hnewest hwords
    exact ⟨iff_of_false hnot (not_not_intro hdropped), fun _ => hdefined⟩

end Running

/-! ## The system without a name -/

/-- A story that starts a system of the empty name and then another one. -/
def lullStory : Story :=
  { script := .obj
      [("Start", .arr [.str "particles", .str "A", .str "particles snow", .str "B"])]
    characters := Table.empty
    particles := [("", .obj []), ("snow", .obj [])]
    storage := []
    settings := { typeAnimation := false } }

/-- The story, set up. -/
def lullReady : Game :=
  Result.left (Game.setup (((lullStory.gameWith? lullStory.registry).get
    (by decide +kernel)).withPreferences {}))

/-- The story, back at its first line from its second one. -/
def lullBack : Game := Call.rollback.left (Call.proceed.left (Call.start.left lullReady))

theorem driven_lullBack : Driven lullStory (fun _ => True) lullBack :=
  (((Driven.setup {} trivial (Option.some_get _).symm (setup_ok_left rfl)).call .start).call
    .proceed).call .rollback

theorem dropped_lullBack : lullBack.world.Dropped := by
  have hget : lullBack.world.state.getText? Particles.runningVar = some "" := by decide +kernel
  have hpeek : (lullBack.world.history.peek? Particles.stack).bind Json.asText?
      = some "particles" := by
    decide +kernel
  obtain ⟨value, hvalue, htext⟩ := Option.bind_eq_some_iff.1 hpeek
  obtain rfl := Json.eq_str_of_asText? htext
  exact ⟨State.get?_of_getText? hget, "particles", hvalue, by decide +kernel⟩

/-- The theorem about the way back over the second system. -/
theorem running_mirrored_lull :
    Driven lullStory (fun _ => True) lullBack ∧ ¬lullBack.world.Mirrored
      ∧ Fields.has lullStory.particles "" = true := by
  obtain ⟨hiff, hdefined⟩ := running_mirrored driven_lullBack
  exact ⟨driven_lullBack, fun hmirrored => hiff.1 hmirrored dropped_lullBack,
    hdefined dropped_lullBack⟩

/-- **The variable is empty though a system is on the stack.** -/
theorem running_dropped :
    ∃ game, Driven lullStory (fun _ => True) game
      ∧ game.world.state.get? Particles.runningVar = some (.str "")
      ∧ game.world.history.entries Particles.stack ≠ [] := by
  refine ⟨lullBack, driven_lullBack, dropped_lullBack.1, ?_⟩
  decide +kernel

end Narrative
