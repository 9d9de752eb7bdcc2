import Narrative.Game.Menu
import Narrative.Proofs.Documents
import Narrative.Proofs.Lockstep

/-!
# Proofs/Turns — one call on two related games

A call of the host changes the world and the timer of a game and nothing else.  Two games that
agree on all else are related **along** a relation of their worlds (`Along`), and a call is in
lockstep along a relation that its statements, its guards and its menus respect (`Moves`).
-/

namespace Narrative

namespace Game

/-- What no call changes. -/
def fixed (game : Game) : Playbook × Registry × State × Storage :=
  (game.book, game.registry, game.freshState, game.freshStorage)

end Game

/-- **Games that differ from one game, and from each other, in the world and the timer only**, with
related worlds. -/
structure Along (base : Game) (R : World → World → Prop) (game other : Game) : Prop where
  /-- The first is like the base. -/
  fixed : game.fixed = base.fixed
  /-- So is the second. -/
  fixed' : other.fixed = base.fixed
  /-- The worlds are related. -/
  world : R game.world other.world

section Along

variable {base game other : Game} {R : World → World → Prop} {E : Fault → Prop} {α : Type}

namespace Along

theorem book (h : Along base R game other) : game.book = base.book ∧ other.book = base.book :=
  ⟨congrArg Prod.fst h.fixed, congrArg Prod.fst h.fixed'⟩

theorem registry (h : Along base R game other) :
    game.registry = base.registry ∧ other.registry = base.registry :=
  ⟨congrArg (·.2.1) h.fixed, congrArg (·.2.1) h.fixed'⟩

theorem withWorld {change : World → World} (h : Along base R game other)
    (hchange : R game.world other.world → R (change game.world) (change other.world)) :
    Along base R (game.withWorld change) (other.withWorld change) :=
  ⟨h.fixed, h.fixed', hchange h.world⟩

end Along

/-! ## Constructions of a call -/

theorem lockstep_ofPlay {play : Playbook → Registry → Play α}
    (h : Lockstep R (play base.book base.registry) E) :
    Lockstep (Along base R) (Turn.ofPlay play) E := by
  intro game other halong
  have hplay : play game.book game.registry = play base.book base.registry := by
    rw [halong.book.1, halong.registry.1]
  have hplay' : play other.book other.registry = play base.book base.registry := by
    rw [halong.book.2, halong.registry.2]
  simp only [Turn.ofPlay, hplay, hplay']
  obtain ⟨answer, w, v, hw, hv, after⟩ | ⟨fault, w, v, hw, hv, after, raised⟩ :=
    (h halong.world).cases
  · rw [hw, hv]
    exact .ok answer ⟨halong.fixed, halong.fixed', after⟩
  · rw [hw, hv]
    exact .error fault ⟨halong.fixed, halong.fixed', after⟩ raised

theorem lockstep_granted {turn : Turn Unit} (h : Lockstep (Along base R) turn E) :
    Lockstep (Along base R) turn.granted E := by
  intro game other halong
  simp only [Turn.granted]
  obtain ⟨_, w, v, hw, hv, after⟩ | ⟨fault, w, v, hw, hv, after, raised⟩ := (h halong).cases
  · rw [hw, hv]
    exact .ok true after
  · rw [hw, hv]
    by_cases hfault : fault.isRejection = true
    · simp only [hfault, if_true]
      exact .ok false after
    · simp only [hfault]
      exact .error fault after raised

theorem lockstep_eachAction {hook : Action → Playbook → Play Unit}
    (h : ∀ action ∈ base.registry.actions, Lockstep R (hook action base.book) E) :
    Lockstep (Along base R) (Game.eachAction hook) E :=
  lockstep_ofPlay (Lockstep.forM h)

/-- A guard is asked in lockstep when the flags and every answer are the same. -/
theorem lockstep_ask {guard : Action → Playbook → World → Bool × World}
    (hgates : ∀ ⦃w v⦄, R w v → w.globals.gatesOpen = v.globals.gatesOpen)
    (hask : ∀ ⦃w v⦄, R w v →
      (base.registry.askAll (fun action => guard action base.book) w).1
          = (base.registry.askAll (fun action => guard action base.book) v).1
        ∧ R (base.registry.askAll (fun action => guard action base.book) w).2
          (base.registry.askAll (fun action => guard action base.book) v).2) :
    Lockstep (Along base R) (Game.ask guard) E := by
  intro game other halong
  obtain ⟨hanswer, hafter⟩ := hask halong.world
  have hguards : game.registry.askAll (fun action => guard action game.book)
      = base.registry.askAll (fun action => guard action base.book) := by
    rw [halong.book.1, halong.registry.1]
  have hguards' : other.registry.askAll (fun action => guard action other.book)
      = base.registry.askAll (fun action => guard action base.book) := by
    rw [halong.book.2, halong.registry.2]
  simp only [Game.ask, hguards, hguards', hgates halong.world, hanswer]
  split
  · exact .ok _ ⟨halong.fixed, halong.fixed', hafter⟩
  · exact .ok false halong

end Along

/-! ## The moves of the player -/

/-- **What passes lockstep through the moves of the player**: beside the steps, the guards, and
picking an option, with the statement that it runs. -/
structure Moves (R : World → World → Prop) (book : Playbook) (registry : Registry)
    (E : Fault → Prop := fun _ => True) : Prop
    extends Steps R book registry E where
  /-- A game begins. -/
  playing : ∀ ⦃w v⦄, R w v →
    R (w.withGlobals ({ · with playing := true })) (v.withGlobals ({ · with playing := true }))
  /-- The actions are told of it. -/
  onStart : ∀ action ∈ registry.actions, Lockstep R (action.onStart book) E
  /-- The flags are the same. -/
  gates : ∀ ⦃w v⦄, R w v → w.globals.gatesOpen = v.globals.gatesOpen
  /-- The guards of going on. -/
  canProceed : ∀ ⦃w v⦄, R w v →
    (registry.askAll (fun action => action.canProceed book) w).1
        = (registry.askAll (fun action => action.canProceed book) v).1
      ∧ R (registry.askAll (fun action => action.canProceed book) w).2
        (registry.askAll (fun action => action.canProceed book) v).2
  /-- The guards of going back. -/
  canRevert : ∀ ⦃w v⦄, R w v →
    (registry.askAll (fun action => action.canRevert book) w).1
        = (registry.askAll (fun action => action.canRevert book) v).1
      ∧ R (registry.askAll (fun action => action.canRevert book) w).2
        (registry.askAll (fun action => action.canRevert book) v).2
  /-- The options offered are the same. -/
  offered : ∀ ⦃w v⦄, R w v → Choice.offered w = Choice.offered v
  /-- Picking one closes the menu. -/
  pick : ∀ ⦃w v⦄, R w v →
    R ((Choice.close w).emit [.hideChoices]) ((Choice.close v).emit [.hideChoices])
  /-- Running the statement of an option that is offered. -/
  picked : ∀ ⦃w v⦄, R w v → ∀ item ∈ Choice.offered v, ∀ statement,
    Statement.ofJson? item.action = some statement → ∀ advance,
      Lockstep R (Run.perform book registry statement advance) E
  /-- Picking what is not offered. -/
  rejected : ∀ reason, E (.rejected reason) := by intro; trivial
  /-- Picking an option whose statement cannot be read. -/
  invalidScript : E .invalidScript := by trivial

namespace Moves

variable {base : Game} {R : World → World → Prop} {E : Fault → Prop}

theorem start (h : Moves R base.book base.registry E) :
    Lockstep (Along base R) Game.start E := by
  have hplaying : Lockstep (Along base R) (Turn.update Game.setPlaying) E :=
    fun _ _ halong => .ok () (halong.withWorld fun hr => h.playing hr)
  exact hplaying.bind fun _ => (lockstep_eachAction h.onStart).bind fun _ =>
    lockstep_ofPlay h.runCurrent

/-- **Continuing.** -/
theorem proceed (h : Moves R base.book base.registry E) :
    Lockstep (Along base R) Game.proceed E := by
  refine (lockstep_ask h.gates h.canProceed).bind fun allowed => ?_
  cases allowed with
  | true => exact lockstep_granted (lockstep_ofPlay h.next)
  | false => exact Lockstep.pure false

/-- **Going back.** -/
theorem rollback (h : Moves R base.book base.registry E) :
    Lockstep (Along base R) Game.rollback E := by
  refine (lockstep_ask h.gates h.canRevert).bind fun allowed => ?_
  cases allowed with
  | true => exact lockstep_granted (lockstep_ofPlay h.revert)
  | false => exact Lockstep.pure false

/-- **Picking an option.** -/
theorem select (h : Moves R base.book base.registry E) (key : String) :
    Lockstep (Along base R) (Game.select key) E := by
  intro game other halong
  simp only [Game.select, h.offered halong.world]
  cases hfind : (Choice.offered other.world).find? (·.key == key) with
  | none => exact .error _ halong (h.rejected _)
  | some item =>
    have hclosed : Along base R
        (game.withWorld fun world => (Choice.close world).emit [.hideChoices])
        (other.withWorld fun world => (Choice.close world).emit [.hideChoices]) :=
      halong.withWorld fun hr => h.pick hr
    cases hread : Statement.ofJson? item.action with
    | none =>
      simp only [hread]
      exact .error _ hclosed h.invalidScript
    | some statement =>
      simp only [hread]
      have hpicked := h.picked halong.world item (List.mem_of_find?_eq_some hfind) statement hread
      exact lockstep_ofPlay (h.run statement hpicked false) hclosed

end Moves

end Narrative
