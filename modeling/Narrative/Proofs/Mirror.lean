import Narrative.Proofs.Engine

/-!
# Proofs/Mirror — going back mirrors going forward, whatever the actions

For the built-in actions one can look up what undoes what.  Here the actions are any actions at all,
with hooks that may change anything.  It is asked of them that no invocation moves the cursor, fails
on the way back, or changes the world data, the statements, the reading of placeholders, the limit
or the actions, and that a statement waits in one direction exactly when it waits in the other
(`Engine.Mirrors`).  Then going back as often as one went forward undoes, in reverse order, the
statements that were run from the first rest on, without the last one, and each is undone by the
action that ran it (`mirror`).  An action that takes itself off the list as it runs cannot be undone
(`mirror_broken`).

A chain forward includes the statement it stops at, and a chain back the one it returns to: the two
are shifted by one statement, and each counts as many statements as the other
(`Engine.Mirrors.retrace`).
-/

namespace Narrative

/-- **Which way a game goes.** -/
inductive Heading where
  /-- The statement at the cursor is to be run. -/
  | onward
  /-- A statement waits. -/
  | resting
  /-- The statement before the cursor is to be undone. -/
  | homeward
  deriving DecidableEq

/-- How a statement goes on that waits or does not. -/
def Flow.ofWaits (waits : Bool) : Flow := if waits then .wait else .advance

theorem Flow.wait_eq_ofWaits {waits : Bool} : Flow.wait = Flow.ofWaits waits ↔ waits = true := by
  cases waits <;> decide

theorem Flow.enter_ne_ofWaits (waits : Bool) : Flow.enter ≠ Flow.ofWaits waits := by
  cases waits <;> decide

/-- What a world remembers beside its position and the world data. -/
def World.memory (world : World) : History × Fields Json := (world.history, world.state.vars)

/-- What is saved of a world: its position, the world data, and what it remembers beside. -/
theorem snapshot_of_memory {world other : World} (hcursor : other.cursor = world.cursor)
    (hstorage : other.storage = world.storage) (hmemory : other.memory = world.memory) :
    other.snapshot = world.snapshot := by
  obtain ⟨⟨cursor, vars⟩, history, storage, globals, queue, reports⟩ := world
  obtain ⟨⟨cursor', vars'⟩, history', storage', globals', queue', reports'⟩ := other
  obtain ⟨rfl, rfl⟩ := Prod.mk.inj (hmemory : (history', vars') = (history, vars))
  obtain rfl : cursor' = cursor := hcursor
  obtain rfl : storage' = storage := hstorage
  rfl

namespace Engine

variable {σ : Type}

/-! ## Actions that mirror -/

section Definitions

variable (engine : Engine σ)

/-- The statement before the cursor, in its label. -/
def before? (s : σ) : Option (Statement σ) :=
  if 1 ≤ (engine.cursor s).step then
    (engine.book s).statement? ((engine.cursor s).atStep ((engine.cursor s).step - 1))
  else none

/-- **What an invocation is to leave as it was**: the position, the world data, and what else tells
which statement is due, which action it goes to and how far a chain may run. -/
structure Keeps (s after : σ) : Prop where
  /-- The position. -/
  cursor : engine.cursor after = engine.cursor s
  /-- The world data. -/
  storage : (engine.world after).storage = (engine.world s).storage
  /-- The statements, in the language that is played. -/
  statements : (engine.book after).statement? = (engine.book s).statement?
  /-- What stands for a placeholder whose path leads nowhere. -/
  unresolved : (engine.book after).settings.unresolved = (engine.book s).settings.unresolved
  /-- The limit on a chain. -/
  limit : engine.limit after = engine.limit s
  /-- The actions. -/
  registry : engine.registry after = engine.registry s

/-- **The states that going forward and back come to**, from the one in which the first statement is
to be run. -/
inductive Roams (start : σ) : Heading → σ → Prop
  | start : Roams start .onward start
  | rest {s after : σ} {statement : Statement σ} (roams : Roams start .onward s)
      (here : engine.current? s = some statement)
      (runs : engine.perform statement true s = .ok .wait after) : Roams start .resting after
  | advance {s after : σ} {statement : Statement σ} (roams : Roams start .onward s)
      (here : engine.current? s = some statement)
      (runs : engine.perform statement true s = .ok .advance after) :
      Roams start .onward (engine.step after)
  | leave {s : σ} (roams : Roams start .resting s) : Roams start .onward (engine.step s)
  | retreat {heading : Heading} {s after : σ} {statement : Statement σ}
      (roams : Roams start heading s) (stopped : heading ≠ .onward)
      (before : engine.before? s = some statement)
      (undoes : engine.undo statement s = .ok .advance after) :
      Roams start .homeward (engine.settle (engine.cursor s) after)
  | settle {heading : Heading} {s after : σ} {statement : Statement σ}
      (roams : Roams start heading s) (stopped : heading ≠ .onward)
      (before : engine.before? s = some statement)
      (undoes : engine.undo statement s = .ok .wait after) :
      Roams start .resting (engine.settle (engine.cursor s) after)

/-- **Actions that mirror**: the flow of a statement depends on its position, and is one in both
directions; no invocation moves the cursor or changes the world data, or what of the script, the
settings, the preferences and the actions tells how the player's calls go (`Keeps`); and none fails
on the way back.  This is asked only where the game can come to. -/
structure Mirrors (start : σ) (waits : Cursor → Bool) : Prop where
  /-- Running the statement at the cursor, if it succeeds. -/
  run : ∀ ⦃s statement flow after⦄, engine.Roams start .onward s →
    engine.current? s = some statement → engine.perform statement true s = .ok flow after →
      flow = Flow.ofWaits (waits (engine.cursor s)) ∧ engine.Keeps s after
  /-- Undoing the statement before the cursor. -/
  undo : ∀ ⦃heading s statement⦄, engine.Roams start heading s → heading ≠ .onward →
    engine.before? s = some statement →
      ∃ after, engine.undo statement s = .ok
          (Flow.ofWaits (waits ((engine.cursor s).atStep ((engine.cursor s).step - 1)))) after
        ∧ engine.Keeps s after

/-- **Actions that undo what they did**: a statement that waits remembers nothing, in either
direction, and undoing a statement that does not wait, where the world remembers what running it
left, leaves what the world remembered before. -/
structure Undoing (start : σ) : Prop where
  /-- Running a statement that waits. -/
  rest : ∀ ⦃s statement after⦄, engine.Roams start .onward s →
    engine.current? s = some statement → engine.perform statement true s = .ok .wait after →
      (engine.world after).memory = (engine.world s).memory
  /-- Undoing a statement that waits. -/
  settle : ∀ ⦃heading s statement after⦄, engine.Roams start heading s → heading ≠ .onward →
    engine.before? s = some statement → engine.undo statement s = .ok .wait after →
      (engine.world after).memory = (engine.world s).memory
  /-- Undoing a statement that does not wait. -/
  retreat : ∀ ⦃s statement after heading left undone⦄, engine.Roams start .onward s →
    engine.current? s = some statement → engine.perform statement true s = .ok .advance after →
    engine.Roams start heading left → heading ≠ .onward →
    engine.cursor left = engine.cursor (engine.step after) →
    (engine.world left).memory = (engine.world after).memory →
    engine.undo statement left = .ok .advance undone →
      (engine.world undone).memory = (engine.world s).memory

end Definitions

variable {engine : Engine σ} {start s after other : σ} {waits : Cursor → Bool}
  {statement : Statement σ}

/-! ## Steps that change the position only -/

namespace Keeps

theorem refl (s : σ) : engine.Keeps s s := ⟨rfl, rfl, rfl, rfl, rfl, rfl⟩

theorem trans (h : engine.Keeps s after) (h' : engine.Keeps after other) : engine.Keeps s other :=
  ⟨h'.cursor.trans h.cursor, h'.storage.trans h.storage, h'.statements.trans h.statements,
    h'.unresolved.trans h.unresolved, h'.limit.trans h.limit, h'.registry.trans h.registry⟩

theorem current? (h : engine.Keeps s after) : engine.current? after = engine.current? s := by
  show (engine.book after).statement? (engine.cursor after) = _
  rw [h.statements, h.cursor]
  rfl

theorem deed (h : engine.Keeps s after) (cursor : Cursor) (statement : Statement σ) :
    engine.deed after cursor statement = engine.deed s cursor statement := by
  rw [Engine.deed, Engine.deed, Deed.of, Deed.of, h.registry,
    handler?_congr h.unresolved h.storage]

/-- What is kept of the state one step on is kept of the state itself, once the position is its
own. -/
theorem returned (h : engine.Keeps (engine.step s) after) :
    engine.Keeps s (engine.change (·.moveTo (engine.cursor s)) after) where
  cursor := by
    rw [Engine.cursor, world_change]
    rfl
  storage := by
    rw [world_change]
    exact h.storage.trans (storage_step engine s)
  statements := by
    rw [book_change, h.statements, book_step]
  unresolved := by
    rw [book_change, h.unresolved, book_step]
  limit := by
    rw [Engine.limit, book_change]
    exact h.limit.trans (limit_step engine s)
  registry := by
    rw [registry_change, h.registry, registry_step]

end Keeps

@[simp] theorem memory_step (engine : Engine σ) (s : σ) :
    (engine.world (engine.step s)).memory = (engine.world s).memory := by
  unfold step
  split
  · rw [world_change]
    rfl
  · rfl

@[simp] theorem memory_settle (engine : Engine σ) (origin : Cursor) (s : σ) :
    (engine.world (engine.settle origin s)).memory = (engine.world s).memory := by
  unfold settle
  split
  · rw [world_change]
    rfl
  · rfl

/-! ## One statement there and back -/

/-- **A state on the way back that is like one on the way forward.** -/
structure Echoes (engine : Engine σ) (start s echo : σ) : Prop where
  /-- It is come to on the way back, or rests. -/
  roams : ∃ heading, heading ≠ .onward ∧ engine.Roams start heading echo
  /-- The position, the world data and all that calls are made by are the same. -/
  keeps : engine.Keeps s echo
  /-- If the actions undo what they did, the world remembers the same. -/
  memory : engine.Undoing start → (engine.world echo).memory = (engine.world s).memory

/-- Behind a statement, it is the one before the cursor. -/
theorem before?_moved (here : engine.current? s = some statement)
    (hstatements : (engine.book other).statement? = (engine.book s).statement?)
    (hcursor : engine.cursor other = (engine.cursor s).atStep ((engine.cursor s).step + 1)) :
    engine.before? other = some statement ∧ engine.target? other = some statement := by
  have hstep : 1 ≤ (engine.cursor other).step := hcursor ▸ Nat.le_add_left _ _
  have hfound : (engine.book other).statement?
      ((engine.cursor other).atStep ((engine.cursor other).step - 1)) = some statement := by
    rw [hstatements, hcursor]
    exact here
  exact ⟨(if_pos hstep).trans hfound, (if_pos hstep).trans hfound⟩

/-- **Undoing the statement before the cursor**, where it was passed or left. -/
theorem Mirrors.undone (hmirrors : engine.Mirrors start waits)
    (here : engine.current? s = some statement)
    (hecho : engine.Echoes start (engine.step s) other) :
    ∃ undone, engine.undo statement other = .ok (Flow.ofWaits (waits (engine.cursor s))) undone
      ∧ engine.Keeps s (engine.settle (engine.cursor other) undone)
      ∧ engine.before? other = some statement ∧ engine.target? other = some statement
      ∧ engine.deedBack other statement = engine.deed s (engine.cursor s) statement := by
  have hbehind : engine.Keeps (engine.step s) other := hecho.keeps
  have hcursor := hbehind.cursor.trans (cursor_step here)
  have hstatements := hbehind.statements.trans
    (congrArg Playbook.statement? (book_step engine s))
  obtain ⟨hbefore, htarget⟩ := before?_moved here hstatements hcursor
  have hprevious : (engine.cursor other).atStep ((engine.cursor other).step - 1)
      = engine.cursor s := by
    rw [hcursor]
    rfl
  obtain ⟨heading, hstopped, hroams⟩ := hecho.roams
  obtain ⟨undone, hundo, hkeeps⟩ := hmirrors.undo hroams hstopped hbefore
  rw [hprevious] at hundo
  have hsettle : engine.settle (engine.cursor other) undone
      = engine.change (·.moveTo (engine.cursor s)) undone := by
    rw [settle_eq hkeeps.cursor (hcursor ▸ Nat.le_add_left _ _), hprevious]
  refine ⟨undone, hundo, hsettle ▸ (hbehind.trans hkeeps).returned, hbefore, htarget, ?_⟩
  rw [deedBack, hprevious, hbehind.deed, Engine.deed, Engine.deed, Deed.of, Deed.of,
    registry_step, handler?_congr (congrArg (·.settings.unresolved) (book_step engine s))
      (storage_step engine s)]

/-- **Going back over a statement** that was passed. -/
theorem Mirrors.retreat (hmirrors : engine.Mirrors start waits)
    (hroams : engine.Roams start .onward s) (here : engine.current? s = some statement)
    (hruns : engine.perform statement true s = .ok .advance after)
    (hecho : engine.Echoes start (engine.step after) other) :
    ∃ undone, engine.Echoes start s undone
      ∧ ∀ ⦃count deeds result⦄, count < engine.limit s →
        engine.Backs (count + 1) undone deeds result →
        engine.Backs count other (engine.deed s (engine.cursor s) statement :: deeds) result := by
  obtain ⟨hflow, hkeeps⟩ := hmirrors.run hroams here hruns
  obtain ⟨undone, hundo, hleft, hbefore, htarget, hdeed⟩ :=
    hmirrors.undone (hkeeps.current?.trans here) hecho
  rw [hkeeps.cursor, ← hflow] at hundo
  obtain ⟨heading, hstopped, hother⟩ := hecho.roams
  refine ⟨engine.settle (engine.cursor other) undone, ⟨⟨.homeward, by decide,
    .retreat hother hstopped hbefore hundo⟩, hkeeps.trans hleft, fun hundoing => ?_⟩, ?_⟩
  · rw [memory_settle]
    exact hundoing.retreat hroams here hruns hother hstopped hecho.keeps.cursor
      ((hecho.memory hundoing).trans (memory_step engine after)) hundo
  · intro count deeds result hlt hrest
    have hlimit : engine.limit other = engine.limit s :=
      hecho.keeps.limit.trans ((limit_step engine after).trans hkeeps.limit)
    have hback := Backs.advance (hlimit ▸ hlt) htarget hundo hrest
    rwa [hdeed, hkeeps.deed, hkeeps.cursor] at hback

/-- **A state that rests on a statement.** -/
structure Poised (engine : Engine σ) (start : σ) (waits : Cursor → Bool) (s : σ)
    (statement : Statement σ) : Prop where
  /-- It rests. -/
  roams : engine.Roams start .resting s
  /-- The statement is at the cursor. -/
  here : engine.current? s = some statement
  /-- The statement waits. -/
  waits : waits (engine.cursor s) = true

/-- **A statement that waits is one that the game rests on.** -/
theorem Mirrors.poised (hmirrors : engine.Mirrors start waits)
    (hroams : engine.Roams start .onward s) (here : engine.current? s = some statement)
    (hruns : engine.perform statement true s = .ok .wait after) :
    engine.Poised start waits after statement := by
  obtain ⟨hflow, hkeeps⟩ := hmirrors.run hroams here hruns
  refine ⟨.rest hroams here hruns, hkeeps.current?.trans here, ?_⟩
  rw [hkeeps.cursor]
  exact Flow.wait_eq_ofWaits.1 hflow

/-- **Going back to a statement** that the game rested on. -/
theorem Mirrors.settle (hmirrors : engine.Mirrors start waits)
    (hpoised : engine.Poised start waits s statement)
    (hecho : engine.Echoes start (engine.step s) other) :
    ∃ undone, engine.Echoes start s undone
      ∧ ∀ ⦃count⦄, count < engine.limit s →
        engine.Backs count other [engine.deed s (engine.cursor s) statement] (.ok () undone) := by
  obtain ⟨undone, hundo, hleft, hbefore, htarget, hdeed⟩ := hmirrors.undone hpoised.here hecho
  rw [hpoised.waits] at hundo
  obtain ⟨heading, hstopped, hother⟩ := hecho.roams
  refine ⟨engine.settle (engine.cursor other) undone, ⟨⟨.resting, by decide,
    .settle hother hstopped hbefore hundo⟩, hleft, fun hundoing => ?_⟩, fun count hlt => ?_⟩
  · calc (engine.world (engine.settle (engine.cursor other) undone)).memory
        = (engine.world undone).memory := memory_settle engine _ _
      _ = (engine.world other).memory := hundoing.settle hother hstopped hbefore hundo
      _ = (engine.world (engine.step s)).memory := hecho.memory hundoing
      _ = (engine.world s).memory := memory_step engine s
  · have hlimit : engine.limit other = engine.limit s :=
      hecho.keeps.limit.trans (limit_step engine s)
    exact hdeed ▸ Backs.wait (hlimit ▸ hlt) htarget hundo

/-! ## A chain there and back -/

/-- **Going back from where a chain led to where it began**, over the statements that it passed. -/
def Retraces (engine : Engine σ) (start s last : σ) (passed : List (Deed σ)) : Prop :=
  ∀ other, engine.Echoes start last other →
    ∃ undone, engine.Echoes start s undone
      ∧ ∀ ⦃count deeds result⦄, count + passed.length ≤ engine.limit s →
        engine.Backs (count + passed.length) undone deeds result →
        engine.Backs count other (passed.reverse ++ deeds) result

/-- Nothing is passed where a statement waits. -/
theorem Mirrors.retraces_nil (hmirrors : engine.Mirrors start waits)
    (hroams : engine.Roams start .onward s) (here : engine.current? s = some statement)
    (hruns : engine.perform statement true s = .ok .wait after) :
    engine.Retraces start s after [] := by
  obtain ⟨-, hkeeps⟩ := hmirrors.run hroams here hruns
  intro other hecho
  refine ⟨other, ⟨hecho.roams, hkeeps.trans hecho.keeps, fun hundoing => ?_⟩,
    fun count deeds result _ hback => hback⟩
  exact (hecho.memory hundoing).trans (hundoing.rest hroams here hruns)

/-- One statement more is passed. -/
theorem Mirrors.retraces_cons (hmirrors : engine.Mirrors start waits)
    (hroams : engine.Roams start .onward s) (here : engine.current? s = some statement)
    (hruns : engine.perform statement true s = .ok .advance after) {last : σ}
    {passed : List (Deed σ)} (h : engine.Retraces start (engine.step after) last passed) :
    engine.Retraces start s last (engine.deed s (engine.cursor s) statement :: passed) := by
  have hlimit : engine.limit (engine.step after) = engine.limit s :=
    (limit_step engine after).trans (hmirrors.run hroams here hruns).2.limit
  intro other hecho
  obtain ⟨mid, hmid, hrest⟩ := h other hecho
  obtain ⟨undone, hundone, hone⟩ := hmirrors.retreat hroams here hruns hmid
  refine ⟨undone, hundone, fun count deeds result hle hback => ?_⟩
  rw [List.length_cons, ← Nat.add_assoc] at hle hback
  rw [List.reverse_cons, List.append_assoc, List.singleton_append]
  exact hrest (hlimit ▸ Nat.le_of_succ_le hle) (hone hle hback)

/-- **A chain is retraced.**  A chain that succeeds passes some statements and comes to rest on one
more; going back from there leads over the statements that it passed to where it began.  The
induction is on the chain. -/
theorem Mirrors.retrace (hmirrors : engine.Mirrors start waits) {count : Nat} {advance : Bool}
    {deeds : List (Deed σ)} {result : EStateM.Result Fault σ Unit}
    (h : engine.Runs count statement advance s deeds result) (hadvance : advance = true)
    (hresult : result = .ok () after) (hroams : engine.Roams start .onward s)
    (here : engine.current? s = some statement) :
    ∃ passed last, engine.Poised start waits after last
      ∧ deeds = passed ++ [engine.deed after (engine.cursor after) last]
      ∧ count + passed.length < engine.limit s ∧ engine.Retraces start s after passed := by
  induction h with
  | cut full => cases hresult
  | failed room linked => cases hresult
  | @ends count statement advance s left room link =>
    obtain rfl := hadvance
    obtain ⟨-, rfl⟩ := EStateM.Result.ok.inj hresult
    cases stops_of_link link with
    | wait hruns =>
      obtain ⟨-, hkeeps⟩ := hmirrors.run hroams here hruns
      refine ⟨[], statement, hmirrors.poised hroams here hruns, ?_, room,
        hmirrors.retraces_nil hroams here hruns⟩
      rw [hkeeps.cursor, hkeeps.deed, List.nil_append]
  | @goes count statement next advance s mid deeds result room link rest ih =>
    obtain rfl := hadvance
    cases goes_of_link link with
    | advance hruns hnext =>
      have hkeeps := (hmirrors.run hroams here hruns).2
      obtain ⟨passed, last, hpoised, hdeeds, hlength, hretraces⟩ :=
        ih rfl hresult (.advance hroams here hruns) hnext
      refine ⟨_ :: passed, last, hpoised, congrArg _ hdeeds, ?_,
        hmirrors.retraces_cons hroams here hruns hretraces⟩
      rw [List.length_cons]
      rw [limit_step, hkeeps.limit] at hlength
      omega
    | enter hruns _ => exact absurd (hmirrors.run hroams here hruns).1 (Flow.enter_ne_ofWaits _)

/-! ## Calls there and back -/

/-- **Going one step on is retraced by going one step back.** -/
theorem Mirrors.next (hmirrors : engine.Mirrors start waits) {deeds : List (Deed σ)}
    (hpoised : engine.Poised start waits s statement)
    (hnext : engine.Nexts s deeds (.ok () after)) :
    ∃ passed last, engine.Poised start waits after last
      ∧ deeds = passed ++ [engine.deed after (engine.cursor after) last]
      ∧ ∀ other, engine.Echoes start after other →
        ∃ undone, engine.Echoes start s undone
          ∧ engine.Reverts other
            (passed.reverse ++ [engine.deed s (engine.cursor s) statement]) (.ok () undone) := by
  cases nexts_iff.1 hnext with
  | runs fetched runs =>
    obtain ⟨rfl, here⟩ := current_found fetched
    obtain ⟨passed, last, hlast, hdeeds, hlength, hretraces⟩ :=
      hmirrors.retrace runs rfl rfl (.leave hpoised.roams) here
    rw [Nat.zero_add] at hlength
    refine ⟨passed, last, hlast, hdeeds, fun other hecho => ?_⟩
    obtain ⟨mid, hmid, hback⟩ := hretraces other hecho
    obtain ⟨undone, hundone, hsettle⟩ := hmirrors.settle hpoised hmid
    refine ⟨undone, hundone, hback ?_ ?_⟩
    · rw [Nat.zero_add]
      exact Nat.le_of_lt hlength
    · rw [Nat.zero_add]
      exact hsettle (limit_step engine s ▸ hlength)

/-- **Going on so many times is retraced by going back as often.**  The induction is on how often;
the first step on is the last one back. -/
theorem Mirrors.repeated (hmirrors : engine.Mirrors start waits) {count : Nat}
    {deeds : List (Deed σ)} (hpoised : engine.Poised start waits s statement)
    (hnext : Repeats engine.Nexts count s deeds after) :
    ∃ last, engine.Poised start waits after last
      ∧ ∀ other, engine.Echoes start after other →
        ∃ undone, engine.Echoes start s undone
          ∧ Repeats engine.Reverts count other
            (engine.deed s (engine.cursor s) statement :: deeds).dropLast.reverse undone := by
  induction hnext generalizing statement with
  | zero s => exact ⟨statement, hpoised, fun other hecho => ⟨other, hecho, .zero other⟩⟩
  | succ made rest ih =>
    obtain ⟨passed, stop, hstop, rfl, hback⟩ := hmirrors.next hpoised made
    obtain ⟨last, hlast, hreturn⟩ := ih hstop
    refine ⟨last, hlast, fun other hecho => ?_⟩
    obtain ⟨turned, hturned, hreverts⟩ := hreturn other hecho
    obtain ⟨undone, hecho, hrevert⟩ := hback turned hturned
    refine ⟨undone, hecho, ?_⟩
    have hall := hreverts.concat hrevert
    rwa [List.append_assoc, List.singleton_append, ← List.cons_append,
      List.dropLast_append_of_ne_nil (List.cons_ne_nil _ _), List.reverse_append,
      List.reverse_cons]

end Engine

/-! ## A game there and back -/

/-- **The mirror law.**  Let the actions be any that mirror, by hooks that may read and change
anything.  If starting and going on so many times succeed, so does going back as often, and what it
undoes, in order, is what was run from the first rest on, last first and without the last: each
statement at its position, undone by the action that ran it.  The position, the world data, the
script, the settings, the preferences and the actions are what they were at the first rest; and if
the actions undo what they did, all that is saved is as it was then. -/
theorem mirror {σ : Type} {engine : Engine σ} {s begun reached : σ} {waits : Cursor → Bool}
    {count : Nat} {first more : List (Deed σ)}
    (hmirrors : engine.Mirrors (engine.prepared s) waits)
    (hstart : engine.Starts s first (.ok () begun))
    (hnext : Engine.Repeats engine.Nexts count begun more reached) :
    ∃ undone back, Engine.Repeats engine.Reverts count reached undone back
      ∧ undone = (first.getLast?.toList ++ more).dropLast.reverse
      ∧ (∀ deed ∈ undone, deed.action.isSome = true)
      ∧ engine.Keeps begun back
      ∧ (engine.Undoing (engine.prepared s) →
        (engine.world back).snapshot = (engine.world begun).snapshot) := by
  cases hstart with
  | runs told runs =>
    have hprepared := congrArg Result.left told
    cases runs with
    | runs fetched runs =>
      obtain ⟨rfl, here⟩ := Engine.current_found fetched
      obtain rfl : engine.prepared s = _ := hprepared
      obtain ⟨passed, statement, hpoised, rfl, -, -⟩ := hmirrors.retrace runs rfl rfl .start here
      obtain ⟨last, hlast, hreturn⟩ := hmirrors.repeated hpoised hnext
      obtain ⟨back, hecho, hreverts⟩ := hreturn reached
        ⟨⟨.resting, by decide, hlast.roams⟩, .refl reached, fun _ => rfl⟩
      refine ⟨_, back, hreverts, ?_, Engine.handled_of_repeats hreverts, hecho.keeps, ?_⟩
      · rw [List.getLast?_concat, Option.toList_some, List.singleton_append]
      · exact fun hundoing => snapshot_of_memory hecho.keeps.cursor hecho.keeps.storage
          (hecho.memory hundoing)

/-! ## A game of counting

An action that counts and remembers, and one that waits, neither of them built in. -/

namespace Counting

/-- The stack of what was counted. -/
def stack : String := "counted"

/-- The variable that says how much was counted. -/
def total : String := "total"

/-- How much was counted. -/
def counted (world : World) : Nat := (world.history.entries stack).length

/-- The variable says how much was counted. -/
def totalled (world : World) : World := world.setVar total (.ofNat (counted world))

/-- **An action that counts**, and takes back what it counted. -/
def tally : Action where
  id := "tally"
  handlesWords := (· == ["count"])
  invoke := fun _ _ _ => .ok {
    apply := fun _ world => .ok [] (totalled (world.push stack .null))
    revert := fun world => .ok [] (totalled (world.pop stack)) }
  setup := fun _ => Play.update fun world => totalled (world.createStack stack)

/-- **An action that waits**, either way. -/
def pause : Action where
  id := "pause"
  handlesWords := fun _ => true
  invoke := fun _ _ _ => .ok { didApply := fun _ => pure .wait, didRevert := pure .wait }

/-- The two actions. -/
def registry : Registry := ⟨[tally, pause]⟩

/-- A script of one label, with counts between its lines. -/
def script : Script := .single (Table.empty.insert "Start"
  [.text "count", .text "Look.", .text "count", .text "count", .text "Look.", .text "Look.",
    .text "count"])

/-- The game of the script, set up. -/
def ready : Game := Result.left (Game.setup (Game.create script registry {}))

/-- The game at its first line. -/
def begun : Game := Result.left (Game.start ready)

/-- The game at its last line. -/
def ended : Game := Result.left (repeated Game.next 2 begun)

/-- The engine of the game. -/
def engine : Engine World := .fixed ready.book registry

/-- Which statements wait. -/
def waits (cursor : Cursor) : Bool :=
  (ready.book.statement? cursor).bind Statement.asText? == some "Look."

variable {world after : World} {statement : Statement} {cursor : Cursor} {flow : Flow}

/-- There are two statements. -/
theorem statement_cases (h : ready.book.statement? cursor = some statement) :
    statement = .text "count" ∧ waits cursor = false
      ∨ statement = .text "Look." ∧ waits cursor = true := by
  obtain ⟨statements, hlabel, hstep⟩ := Option.bind_eq_some_iff.1 h
  have hfound : (Table.empty.insert "Start" _).get? cursor.label = some statements := hlabel
  rw [Table.get?_insert] at hfound
  split at hfound
  · obtain rfl := Option.some.inj hfound
    have hmem := List.mem_of_getElem? hstep
    simp only [List.mem_cons, List.not_mem_nil, or_false] at hmem
    rcases hmem with rfl | rfl | rfl | rfl | rfl | rfl | rfl <;> simp [waits, h, Statement.asText?]
  · cases hfound

/-- Counting, and taking back what was counted. -/
theorem count_steps (world : World) :
    engine.perform (.text "count") true world
        = .ok .advance (totalled (world.push stack .null))
      ∧ engine.undo (.text "count") world = .ok .advance (totalled (world.pop stack)) := by
  have hwords : Text.words "count" = ["count"] := by decide +kernel
  have hfind : registry.forWords? (Text.words "count") = some tally := by
    simp [hwords, Registry.forWords?, registry, tally]
  exact engine.text_steps world (by decide +kernel) hfind rfl true

/-- Waiting. -/
theorem look_steps (world : World) :
    engine.perform (.text "Look.") true world = .ok .wait world
      ∧ engine.undo (.text "Look.") world = .ok .wait world := by
  have hwords : Text.words "Look." = ["Look."] := by decide +kernel
  have hfind : registry.forWords? (Text.words "Look.") = some pause := by
    simp [hwords, Registry.forWords?, registry, tally, pause]
  exact engine.text_steps world (by decide +kernel) hfind rfl true

/-- **What running a statement does**, if it stands in the script. -/
theorem run_cases (here : engine.current? world = some statement)
    (hruns : engine.perform statement true world = .ok flow after) :
    flow = .advance ∧ waits world.cursor = false ∧ after = totalled (world.push stack .null)
      ∨ flow = .wait ∧ waits world.cursor = true ∧ after = world := by
  rcases statement_cases here with ⟨rfl, hwaits⟩ | ⟨rfl, hwaits⟩
  · rw [(count_steps world).1] at hruns
    obtain ⟨rfl, rfl⟩ := EStateM.Result.ok.inj hruns
    exact .inl ⟨rfl, hwaits, rfl⟩
  · rw [(look_steps world).1] at hruns
    obtain ⟨rfl, rfl⟩ := EStateM.Result.ok.inj hruns
    exact .inr ⟨rfl, hwaits, rfl⟩

/-- **What undoing a statement does**, which succeeds. -/
theorem undo_cases (before : engine.before? world = some statement) :
    waits (world.cursor.atStep (world.cursor.step - 1)) = false
        ∧ engine.undo statement world = .ok .advance (totalled (world.pop stack))
      ∨ waits (world.cursor.atStep (world.cursor.step - 1)) = true
        ∧ engine.undo statement world = .ok .wait world := by
  obtain ⟨-, found⟩ := Option.ite_none_right_eq_some.1 before
  rcases statement_cases found with ⟨rfl, hwaits⟩ | ⟨rfl, hwaits⟩
  · exact .inl ⟨hwaits, (count_steps world).2⟩
  · exact .inr ⟨hwaits, (look_steps world).2⟩

/-- **The two actions mirror.** -/
theorem mirrors : engine.Mirrors (engine.prepared ready.world) waits where
  run _ _ _ _ _ here hruns := by
    obtain ⟨rfl, hwaits, rfl⟩ | ⟨rfl, hwaits, rfl⟩ := run_cases here hruns
    · exact ⟨(congrArg Flow.ofWaits hwaits).symm, rfl, rfl, rfl, rfl, rfl, rfl⟩
    · exact ⟨(congrArg Flow.ofWaits hwaits).symm, rfl, rfl, rfl, rfl, rfl, rfl⟩
  undo _ world _ _ _ before := by
    show ∃ after, _ = EStateM.Result.ok
      (Flow.ofWaits (waits (world.cursor.atStep (world.cursor.step - 1)))) after ∧ _
    obtain ⟨hwaits, hundo⟩ | ⟨hwaits, hundo⟩ := undo_cases before
    · rw [hwaits]
      exact ⟨_, hundo, rfl, rfl, rfl, rfl, rfl, rfl⟩
    · rw [hwaits]
      exact ⟨_, hundo, rfl, rfl, rfl, rfl, rfl, rfl⟩

/-- **The stack is there, and the variable says how much is on it.** -/
structure Kept (world : World) : Prop where
  /-- The stack was created. -/
  created : ∃ entries, world.history.get? stack = some entries
  /-- The variable agrees with it. -/
  agrees : Fields.get? world.state.vars total = some (.ofNat (counted world))

theorem Kept.of_created (h : ∃ entries, world.history.get? stack = some entries) :
    Kept (totalled world) := ⟨h, Fields.get?_insert_self _ _ _⟩

theorem Kept.pushed (h : Kept world) : Kept (totalled (world.push stack .null)) := by
  obtain ⟨entries, hentries⟩ := h.created
  refine .of_created ⟨.null :: entries, ?_⟩
  show (world.history.push stack .null).get? stack = _
  rw [History.get?_push, Function.update_self, hentries, Option.getD_some]

theorem Kept.popped (h : Kept world) : Kept (totalled (world.pop stack)) := by
  obtain ⟨entries, hentries⟩ := h.created
  refine .of_created ⟨entries.tail, ?_⟩
  show (world.history.pop stack).get? stack = _
  rw [History.get?_pop, Function.update_self, hentries, Option.map_some]

theorem Kept.of_memory (h : Kept world) (hmemory : after.memory = world.memory) : Kept after := by
  obtain ⟨hhistory, hvars⟩ := Prod.mk.inj hmemory
  refine ⟨hhistory ▸ h.created, ?_⟩
  rw [hvars, counted, hhistory]
  exact h.agrees

/-- **Wherever the game goes**, the variable says how much is on the stack. -/
theorem kept_of_roams {heading : Heading}
    (h : engine.Roams (engine.prepared ready.world) heading world) : Kept world := by
  induction h with
  | start => exact ⟨⟨[], rfl⟩, rfl⟩
  | rest _ here runs ih =>
    obtain ⟨hflow, -⟩ | ⟨-, -, rfl⟩ := run_cases here runs
    · cases hflow
    · exact ih
  | advance _ here runs ih =>
    obtain ⟨-, -, rfl⟩ | ⟨hflow, -⟩ := run_cases here runs
    · exact ih.pushed.of_memory (Engine.memory_step engine _)
    · cases hflow
  | leave _ ih => exact ih.of_memory (Engine.memory_step engine _)
  | retreat _ _ before undoes ih =>
    obtain ⟨-, hundo⟩ | ⟨-, hundo⟩ := undo_cases before
    · obtain ⟨-, rfl⟩ := EStateM.Result.ok.inj (undoes.symm.trans hundo)
      exact ih.popped.of_memory (Engine.memory_settle engine _ _)
    · cases undoes.symm.trans hundo
  | settle _ _ before undoes ih =>
    obtain ⟨-, hundo⟩ | ⟨-, hundo⟩ := undo_cases before
    · cases undoes.symm.trans hundo
    · obtain ⟨-, rfl⟩ := EStateM.Result.ok.inj (undoes.symm.trans hundo)
      exact ih.of_memory (Engine.memory_settle engine _ _)

/-- Taking back what was counted leaves what was remembered before. -/
theorem memory_uncounted (h : Kept world)
    (hmemory : after.memory = (totalled (world.push stack .null)).memory) :
    (totalled (after.pop stack)).memory = world.memory := by
  obtain ⟨entries, hentries⟩ := h.created
  obtain ⟨hhistory, hvars⟩ := Prod.mk.inj hmemory
  have hback : after.history.pop stack = world.history := by
    rw [hhistory]
    show (world.history.push stack .null).pop stack = world.history
    refine History.ext_get? ?_
    rw [History.get?_pop, History.get?_push, Function.update_self, Function.update_idem, hentries]
    exact Function.update_eq_self_iff.2 hentries.symm
  have hcounted : counted (after.pop stack) = counted world := by
    rw [counted, counted]
    exact congrArg (fun history => (History.entries history stack).length) hback
  refine Prod.ext hback ?_
  show Fields.insert after.state.vars total (.ofNat (counted (after.pop stack))) = world.state.vars
  rw [hvars, hcounted]
  exact (Fields.insert_insert _ _ _ _).trans (Fields.insert_get? h.agrees)

/-- **The two actions undo what they did.** -/
theorem undoing : engine.Undoing (engine.prepared ready.world) where
  rest _ _ _ _ here hruns := by
    obtain ⟨hflow, -⟩ | ⟨-, -, rfl⟩ := run_cases here hruns
    · cases hflow
    · rfl
  settle _ _ _ _ _ _ before hundoes := by
    obtain ⟨-, hundo⟩ | ⟨-, hundo⟩ := undo_cases before
    · cases hundoes.symm.trans hundo
    · obtain ⟨-, rfl⟩ := EStateM.Result.ok.inj (hundoes.symm.trans hundo)
      rfl
  retreat world statement _ _ left _ hroams here hruns _ _ hcursor hmemory hundoes := by
    obtain ⟨-, hwaits, rfl⟩ | ⟨hflow, -⟩ := run_cases here hruns
    · have hmoved : engine.cursor left
          = (engine.cursor world).atStep ((engine.cursor world).step + 1) :=
        hcursor.trans (Engine.cursor_step here)
      have hstatements : (engine.book left).statement? = (engine.book world).statement? := rfl
      have before := (Engine.before?_moved here hstatements hmoved).1
      obtain ⟨-, hundo⟩ | ⟨-, hundo⟩ := undo_cases before
      · obtain ⟨-, rfl⟩ := EStateM.Result.ok.inj (hundoes.symm.trans hundo)
        exact memory_uncounted (kept_of_roams hroams) hmemory
      · cases hundoes.symm.trans hundo
    · cases hflow

end Counting

/-- Two steps there and two back: the game is as it was at its first line, and what was undone is
what was run between. -/
theorem mirror_counting :
    ∃ undone back, Engine.Repeats Counting.engine.Reverts 2 Counting.ended.world undone back
      ∧ undone.map (·.cursor.step) = [4, 3, 2, 1]
      ∧ repeated Game.revert 2 Counting.ended = .ok () { Counting.begun with world := back }
      ∧ back.snapshot = Counting.begun.world.snapshot := by
  have hstart : Game.start Counting.ready = .ok () Counting.begun :=
    Result.eq_ok (by decide +kernel)
  have hnext : repeated Game.next 2 Counting.begun = .ok () Counting.ended :=
    Result.eq_ok (by decide +kernel)
  obtain ⟨hstarts, hbook, hregistry⟩ := Engine.starts_of_start hstart
  obtain ⟨world, hworld, hended⟩ := repeated_ofPlay.1 hnext
  rw [hbook, hregistry] at hworld
  obtain ⟨undone, back, hreverts, hundone, -, -, hsnapshot⟩ :=
    mirror Counting.mirrors hstarts (Engine.repeats_nexts hworld)
  have hback : repeated Game.revert 2 { Counting.begun with world := world }
      = .ok () { Counting.begun with world := back } := by
    refine repeated_ofPlay.2 ⟨back, ?_, rfl⟩
    show repeated (Rewind.revert Counting.begun.book Counting.begun.registry) 2 world = _
    rw [hbook, hregistry]
    exact Engine.repeated_of_reverts hreverts
  rw [hended]
  refine ⟨undone, back, hreverts, ?_, hback, hsnapshot Counting.undoing⟩
  rw [hundone]
  decide +kernel

/-! ## An action that takes itself off the list -/

namespace Farewell

/-- A world, and whether one of the actions is still there. -/
structure Desk where
  /-- The world. -/
  world : World
  /-- Whether the action is there. -/
  staffed : Bool

/-- **An action that takes itself off the list** as it runs; it waits, either way. -/
def leaving : Action Desk where
  id := "leaving"
  handlesWords := (· == ["Goodbye."])
  invoke := fun _ _ _ => .ok {
    apply := fun _ desk => .ok [] { desk with staffed := false }
    didApply := fun _ => pure .wait
    didRevert := pure .wait }

/-- An action that stays, and waits, either way. -/
def staying : Action Desk where
  id := "staying"
  handlesWords := (· == ["Look."])
  invoke := fun _ _ _ => .ok { didApply := fun _ => pure .wait, didRevert := pure .wait }

/-- The engine of the two actions and of a script with a line for each. -/
def engine : Engine Desk where
  book _ := { script := .single (Table.empty.insert "Start" [.text "Goodbye.", .text "Look."]) }
  registry desk := if desk.staffed then ⟨[leaving, staying]⟩ else ⟨[staying]⟩
  world := Desk.world
  withWorld desk new := { desk with world := new }
  world_withWorld _ _ := rfl
  book_withWorld _ _ := rfl
  registry_withWorld _ _ := rfl

/-- At the first line, with both actions. -/
def opened : Desk := ⟨{ state := State.start "Start" }, true⟩

/-- **No invocation moves the cursor, changes the world data or fails**, and every one waits, either
way. -/
theorem unmoved {desk : Desk} {action : Action Desk} {book : Playbook Desk}
    {instruction : Instruction Desk} {invocation : Invocation Desk}
    (hmem : action ∈ (engine.registry desk).actions)
    (hmade : action.invoke book desk instruction = .ok invocation) (s : Desk) (advance : Bool) :
    (∃ after, engine.stages invocation advance s = .ok .wait after
        ∧ engine.cursor after = engine.cursor s ∧ after.world.storage = s.world.storage)
      ∧ ∃ after, engine.stagesBack invocation s = .ok .wait after
        ∧ engine.cursor after = engine.cursor s ∧ after.world.storage = s.world.storage := by
  have haction : action = leaving ∨ action = staying := by
    obtain ⟨world, _ | _⟩ := desk
    · exact .inr (List.mem_singleton.1 hmem)
    · exact List.mem_pair.1 hmem
  rcases haction with rfl | rfl
  · obtain rfl := Except.ok.inj hmade
    exact ⟨⟨_, rfl, rfl, rfl⟩, _, rfl, rfl, rfl⟩
  · obtain rfl := Except.ok.inj hmade
    exact ⟨⟨_, rfl, rfl, rfl⟩, _, rfl, rfl, rfl⟩

/-- The first line is run while its action is there, and takes it off the list. -/
theorem perform_goodbye (world : World) (advance : Bool) :
    engine.perform (.text "Goodbye.") advance ⟨world, true⟩ = .ok .wait ⟨world, false⟩ := by
  have hwords : Text.words "Goodbye." = ["Goodbye."] := by decide +kernel
  have hfind : (engine.registry ⟨world, true⟩).forWords? (Text.words "Goodbye.")
      = some leaving := by
    simp [hwords, engine, Registry.forWords?, leaving]
  exact (engine.text_steps _ (by decide +kernel) hfind rfl advance).1

/-- The second line is run without that action. -/
theorem perform_look (world : World) (advance : Bool) :
    engine.perform (.text "Look.") advance ⟨world, false⟩ = .ok .wait ⟨world, false⟩ := by
  have hwords : Text.words "Look." = ["Look."] := by decide +kernel
  have hfind : (engine.registry ⟨world, false⟩).forWords? (Text.words "Look.")
      = some staying := by
    simp [hwords, engine, Registry.forWords?, staying]
  exact (engine.text_steps _ (by decide +kernel) hfind rfl advance).1

/-- Without its action, the first line cannot be undone. -/
theorem undo_goodbye (world : World) :
    engine.undo (.text "Goodbye.") ⟨world, false⟩
      = .error (.noMatch "Goodbye.") ⟨world, false⟩ := by
  have hwords : Text.words "Goodbye." = ["Goodbye."] := by decide +kernel
  have hnone : (engine.registry ⟨world, false⟩).forWords? (Text.words "Goodbye.") = none := by
    simp [hwords, engine, Registry.forWords?, staying]
  exact engine.undo_of_noMatch _ (by decide +kernel) hnone

end Farewell

/-- **An action that changes the actions cannot be mirrored**, though no invocation moves the
cursor, changes the world data or fails, and every one waits, either way.  Starting and going on
succeed; then going back does not. -/
theorem mirror_broken :
    (∀ desk action book instruction invocation, action ∈ (Farewell.engine.registry desk).actions →
      action.invoke book desk instruction = .ok invocation → ∀ s advance,
        (∃ after, Farewell.engine.stages invocation advance s = .ok .wait after
          ∧ Farewell.engine.cursor after = Farewell.engine.cursor s
          ∧ after.world.storage = s.world.storage)
        ∧ ∃ after, Farewell.engine.stagesBack invocation s = .ok .wait after
          ∧ Farewell.engine.cursor after = Farewell.engine.cursor s
          ∧ after.world.storage = s.world.storage)
      ∧ ∃ first begun more reached, Farewell.engine.Starts Farewell.opened first (.ok () begun)
        ∧ Farewell.engine.Nexts begun more (.ok () reached)
        ∧ (∃ deeds left, Farewell.engine.Reverts reached deeds (.error (.noMatch "Goodbye.") left))
        ∧ ¬ ∃ deeds back, Farewell.engine.Reverts reached deeds (.ok () back) := by
  refine ⟨fun _ _ _ _ _ => Farewell.unmoved, ?_⟩
  let playing : World := (Farewell.engine.setPlaying Farewell.opened).world
  let moved : World := playing.moveTo ⟨"Start", 1⟩
  have hstart : Farewell.engine.Starts Farewell.opened _ (.ok () ⟨playing, false⟩) :=
    .runs rfl (.runs rfl (.ends (by decide +kernel)
      (Engine.link_of_wait (Farewell.perform_goodbye playing true))))
  have hnext : Farewell.engine.Nexts ⟨playing, false⟩ _ (.ok () ⟨moved, false⟩) :=
    .runs rfl (.ends (by decide +kernel) (Engine.link_of_wait (Farewell.perform_look moved true)))
  have hrevert : Farewell.engine.Reverts ⟨moved, false⟩ _ (.error (.noMatch "Goodbye.") _) :=
    .failed (by decide +kernel) rfl (Farewell.undo_goodbye moved)
      (.runs rfl (.ends (by decide +kernel)
        (Engine.link_of_wait (Farewell.perform_look moved false))))
  refine ⟨_, _, _, _, hstart, hnext, ⟨_, _, hrevert⟩, ?_⟩
  rintro ⟨deeds, back, hback⟩
  cases (hrevert.unique hback).2

end Narrative
