import Narrative.Proofs.LookAlike
import Narrative.Proofs.Words

/-!
# Proofs/Screen — what the effects draw is what the game keeps

A host keeps a **screen**: the page, the menu that is open and the particle system that runs.  Each
effect changes it (`Screen.draw`), and the game keeps the same three in its world
(`Screen.ofWorld`).  An action changes the world in one place and returns its effects in another;
`Shown` relates the two, every stage of every built-in action keeps it (`Delivers`), and so does
every turn (`showing_steps`).

The relation is not equality: a particle statement without a second word runs the preset of the
empty name, and what the game keeps does not name it.  `Shown.particles` says that this is the one
difference.
-/

namespace Narrative

/-! ## Screens -/

/-- **What a host shows.** -/
structure Screen where
  /-- The lines of the page. -/
  page : List Line
  /-- The menu, if one is open. -/
  menu : Option (List MenuEntry)
  /-- The preset of the running particle system. -/
  particles : Option String
  deriving DecidableEq

namespace Screen

/-- Nothing on it. -/
def blank : Screen := ⟨[], none, none⟩

/-- **The screen after an effect.**  Only a line for the page is kept on it. -/
def draw (screen : Screen) : Effect → Screen
  | .say speaker text true _ =>
    { screen with page := screen.page ++ [⟨speaker.map Speaker.name, text⟩] }
  | .clearText => { screen with page := [] }
  | .removeLastLine => { screen with page := screen.page.dropLast }
  | .restorePage lines => { screen with page := lines }
  | .showChoices choices => { screen with menu := some choices }
  | .hideChoices => { screen with menu := none }
  | .particles name _ => { screen with particles := some name }
  | .stopParticles => { screen with particles := none }
  | .say _ _ false _ | .centered _ _ | .finishTyping | .custom _ _ => screen

/-- The screen after effects, one after the other. -/
def drawAll (screen : Screen) (effects : List Effect) : Screen := effects.foldl draw screen

theorem drawAll_append (screen : Screen) (first second : List Effect) :
    screen.drawAll (first ++ second) = (screen.drawAll first).drawAll second :=
  List.foldl_append

/-- **What the game keeps of the screen**: the page, the options offered while a menu waits, and
the second word of the particle statement that runs. -/
def ofWorld (world : World) : Screen where
  page := Page.lines world
  menu := if Choice.isPending world then some ((Choice.offered world).map MenuItem.entry) else none
  particles := (Text.words ((world.state.getText? Particles.runningVar).getD ""))[1]?

end Screen

namespace Look

/-- The entries of the pending menu. -/
def menu (look : Look) : Option (List MenuEntry) :=
  look.pending.map fun written =>
    ((Json.listOf MenuItem.ofJson? written).getD []).map MenuItem.entry

/-- The second word of the particle statement that runs. -/
def running (look : Look) : Option String :=
  (Text.words ((look.state.getText? Particles.runningVar).getD ""))[1]?

end Look

/-- The game's own view is in the look. -/
theorem Screen.ofWorld_eq (world : World) :
    Screen.ofWorld world = ⟨world.look.page, world.look.menu, world.look.running⟩ := by
  have hmenu : (if Choice.isPending world = true then
      some ((Choice.offered world).map MenuItem.entry) else none) = world.look.menu := by
    split
    · next hpending =>
      obtain ⟨written, hwritten⟩ := Option.isSome_iff_exists.1 hpending
      simp [Look.menu, World.look, Choice.offered, hwritten]
    · next hpending =>
      have hnone := Option.not_isSome_iff_eq_none.1 hpending
      simp [Look.menu, World.look, hnone]
  rw [Screen.ofWorld, hmenu]
  rfl

/-! ## A look that is shown -/

/-- **Every particle statement among the variables names a preset**, if it names anything. -/
def Known (presets : Fields Json) (vars : Fields Json) : Prop :=
  ∀ statement name, (Particles.runningVar, Json.str statement) ∈ vars →
    (Text.words statement)[1]? = some name → Fields.has presets name = true

/-- **A screen shows a look.** -/
structure Shown (presets : Fields Json) (screen : Screen) (look : Look) : Prop where
  /-- The pages are the same. -/
  page : screen.page = look.page
  /-- The menus are the same. -/
  menu : screen.menu = look.menu
  /-- So are the particle systems, but for one of the empty name. -/
  particles : screen.particles.filter (· ≠ "") = look.running
  /-- What runs is a preset. -/
  defined : ∀ name, screen.particles = some name → Fields.has presets name = true
  /-- What the variables name is a preset. -/
  known : Known presets look.state.vars

section Fields

variable {α : Type}

theorem Fields.mem_insert {fields : Fields α} {name : String} {value : α} {field : String × α}
    (h : field ∈ Fields.insert fields name value) : field = (name, value) ∨ field ∈ fields := by
  induction fields with
  | nil => exact Or.inl (List.mem_singleton.1 h)
  | cons first rest ih =>
    obtain ⟨other, found⟩ := first
    rw [Fields.insert] at h
    split at h
    · next heq =>
      rcases List.mem_cons.1 h with h | h
      · exact Or.inl (heq ▸ h)
      · exact Or.inr (List.mem_cons_of_mem _ h)
    · rcases List.mem_cons.1 h with h | h
      · exact Or.inr (h ▸ List.mem_cons_self)
      · exact (ih h).imp_right (List.mem_cons_of_mem _)

theorem Fields.mem_extend {fields more : Fields α} {field : String × α}
    (h : field ∈ Fields.extend fields more) : field ∈ fields ∨ field ∈ more := by
  induction more generalizing fields with
  | nil => exact Or.inl h
  | cons first more ih =>
    rcases ih h with h | h
    · rcases Fields.mem_insert h with rfl | h
      · exact Or.inr List.mem_cons_self
      · exact Or.inl h
    · exact Or.inr (List.mem_cons_of_mem _ h)

end Fields

section Known

variable {presets vars more : Fields Json}

theorem Known.insert (h : Known presets vars) {statement : String}
    (hs : ∀ name, (Text.words statement)[1]? = some name → Fields.has presets name = true) :
    Known presets (Fields.insert vars Particles.runningVar (.str statement)) := by
  intro other name hmem hname
  rcases Fields.mem_insert hmem with heq | hmem
  · obtain rfl : other = statement := Json.str.inj (Prod.mk.inj heq).2
    exact hs name hname
  · exact h other name hmem hname

theorem Known.extend (h : Known presets vars) (hmore : Known presets more) :
    Known presets (Fields.extend vars more) := fun statement name hmem =>
  (Fields.mem_extend hmem).elim (h statement name) (hmore statement name)

theorem Known.mono (h : Known presets more) (hsub : ∀ field ∈ vars, field ∈ more) :
    Known presets vars := fun statement name hmem => h statement name (hsub _ hmem)

/-- The effect of a statement is there exactly when it names a preset. -/
theorem Particles.effect?_eq (statement : String) :
    Particles.effect? presets statement
      = (Text.words statement)[1]?.bind fun name =>
          (Fields.get? presets name).map (Effect.particles name) := by
  unfold Particles.effect?
  cases (Text.words statement)[1]? with
  | none => rfl
  | some name => cases hpreset : Fields.get? presets name <;> simp [hpreset]

/-- The effect of the statement before names that statement's preset. -/
theorem Particles.previous?_eq_some {world : World} {statement : String} {effect : Effect}
    (h : Particles.previous? presets world = some (statement, effect)) :
    ∃ name config, (Text.words statement)[1]? = some name
      ∧ Fields.get? presets name = some config ∧ effect = .particles name config := by
  unfold Particles.previous? at h
  obtain ⟨entry, -, h⟩ := Option.bind_eq_some_iff.1 h
  obtain ⟨written, -, h⟩ := Option.bind_eq_some_iff.1 h
  obtain ⟨found, heffect, h⟩ := Option.bind_eq_some_iff.1 h
  obtain ⟨rfl, rfl⟩ := Prod.mk.inj (Option.some.inj h)
  rw [Particles.effect?_eq] at heffect
  obtain ⟨name, hname, hpreset⟩ := Option.bind_eq_some_iff.1 heffect
  obtain ⟨config, hconfig, rfl⟩ := Option.map_eq_some_iff.1 hpreset
  exact ⟨name, config, hname, hconfig, rfl⟩

end Known

namespace Shown

variable {presets : Fields Json} {screen : Screen} {look after : Look}

/-- A look shows by its page, its menu and its variables. -/
theorem of_eq (h : Shown presets screen look) (hpage : after.page = look.page)
    (hpending : after.pending = look.pending) (hvars : after.state.vars = look.state.vars) :
    Shown presets screen after where
  page := h.page.trans hpage.symm
  menu := by rw [h.menu, Look.menu, Look.menu, hpending]
  particles := by
    rw [h.particles, Look.running, Look.running, State.getText?, State.getText?, State.get?,
      State.get?, hvars]
  defined := h.defined
  known := hvars ▸ h.known

/-- One page in place of another. -/
theorem withPage (h : Shown presets screen look) (lines : List Line) :
    Shown presets { screen with page := lines } { look with page := lines } :=
  ⟨rfl, h.menu, h.particles, h.defined, h.known⟩

/-- A menu opens. -/
theorem withMenu (h : Shown presets screen look) (items : List MenuItem) :
    Shown presets { screen with menu := some (items.map MenuItem.entry) }
      { look with pending := some (.arr (items.map MenuItem.toJson)) } where
  page := h.page
  menu := by simp [Look.menu]
  particles := h.particles
  defined := h.defined
  known := h.known

/-- The menu closes. -/
theorem withoutMenu (h : Shown presets screen look) :
    Shown presets { screen with menu := none } { look with pending := none } :=
  ⟨h.page, rfl, h.particles, h.defined, h.known⟩

theorem running_of_state {state : State} {statement : String}
    (h : look.state = state.set Particles.runningVar (.str statement)) :
    look.running = (Text.words statement)[1]? := by
  simp [Look.running, h, State.getText?, State.get?, State.set, Json.asText?]

theorem running_clear {state : State}
    (h : look.state = state.set Particles.runningVar (.str "")) : look.running = none := by
  rw [running_of_state h]
  rfl

/-- **A particle system starts.**  Without a second word it is the preset of the empty name, which
the variable does not name. -/
theorem withParticles (h : Shown presets screen look) {statement : String} {word : Option String}
    (hword : (Text.words statement)[1]? = word)
    (hdefined : Fields.has presets (word.getD "") = true) :
    Shown presets { screen with particles := some (word.getD "") }
      { look with state := look.state.set Particles.runningVar (.str statement) } where
  page := h.page
  menu := h.menu
  particles := by
    rw [running_of_state rfl, hword]
    cases hw : word with
    | none => rfl
    | some name =>
      have hne : name ≠ "" :=
        Text.ne_empty_of_mem_words (List.mem_of_getElem? (hword.trans hw))
      simp [hne]
  defined name hname := Option.some.inj hname ▸ hdefined
  known := h.known.insert fun name hname => by
    rwa [← hword, hname] at hdefined

/-- The particle system stops. -/
theorem withoutParticles (h : Shown presets screen look) :
    Shown presets { screen with particles := none }
      { look with state := look.state.set Particles.runningVar (.str "") } where
  page := h.page
  menu := h.menu
  particles := (running_clear rfl).symm
  defined _ hname := nomatch hname
  known := h.known.insert fun name hname => by
    have hnone : (Text.words "")[1]? = none := rfl
    rw [hnone] at hname
    cases hname

end Shown

/-! ## A world that is shown -/

/-- **The screen shows the world**, once the effects that wait are drawn. -/
def Showing (presets : Fields Json) (screen : Screen) (world : World) : Prop :=
  Shown presets (screen.drawAll world.effects) world.look

/-- **A result that shows**: with its effects emitted, or, when it is a fault, as it is. -/
inductive Delivered (presets : Fields Json) (screen : Screen) :
    EStateM.Result Fault World (List Effect) → Prop
  | ok {effects : List Effect} {after : World}
      (shows : Showing presets screen (after.emit effects)) :
      Delivered presets screen (.ok effects after)
  | error {fault : Fault} {after : World} (shows : Showing presets screen after) :
      Delivered presets screen (.error fault after)

/-- **A computation delivers effects** that make up for what it changes. -/
def Delivers (presets : Fields Json) (screen : Screen) (play : Play (List Effect)) : Prop :=
  ∀ ⦃world⦄, Showing presets screen world → Delivered presets screen (play world)

section Showing

variable {presets : Fields Json} {screen : Screen} {world after : World}

theorem showing_emit_iff {effects : List Effect} :
    Showing presets screen (world.emit effects)
      ↔ Shown presets ((screen.drawAll world.effects).drawAll effects) world.look := by
  rw [Showing, World.effects_emit, Screen.drawAll_append, look_emit]

/-- What shows is left alone, and so are the effects that wait. -/
theorem Showing.of_eq (h : Showing presets screen world) (heffects : after.effects = world.effects)
    (hpage : after.look.page = world.look.page)
    (hpending : after.look.pending = world.look.pending)
    (hvars : after.look.state.vars = world.look.state.vars) : Showing presets screen after := by
  rw [Showing, heffects]
  exact Shown.of_eq h hpage hpending hvars

/-- **The stages of a run**: what the middle one delivers is emitted before the last one. -/
theorem Delivers.lockstep {before : Play Unit} {play : Play (List Effect)} {last : Play Flow}
    (hbefore : Lockstep (Invariant (Showing presets screen)) before)
    (hplay : Delivers presets screen play)
    (hlast : Lockstep (Invariant (Showing presets screen)) last) :
    Lockstep (Invariant (Showing presets screen))
      (do before; let effects ← play; Play.emit effects; last) := by
  refine hbefore.bind fun _ => ?_
  rintro w _ ⟨rfl, h⟩
  have hdelivers := hplay h
  show Agree _ _ (EStateM.bind play _ w) (EStateM.bind play _ w)
  unfold EStateM.bind
  cases hrun : play w with
  | ok effects after =>
    rw [hrun] at hdelivers
    cases hdelivers with
    | ok shows => exact hlast ⟨rfl, shows⟩
  | error fault after =>
    rw [hrun] at hdelivers
    cases hdelivers with
    | error shows => exact .error fault ⟨rfl, shows⟩

end Showing

end Narrative
