import Narrative.Proofs.Beginning
import Narrative.Proofs.Deeds
import Narrative.Proofs.Limit

/-!
# Proofs/Stretch — the statements before the first stop, some of them left out

In a script of one label the first statements pass, one after another, until one waits: they are a
`Stretch`.  A jump among them would lead back to the first one, and the chain would never end
(`stretch_of_chain`).

Some of the statements of a stretch may be left out, and only stepped over (`Run.skipping`).  The
position and the world data are the same at every step, whatever is left out, so the others are run
as they are when nothing is left out (`Stretch.standing`, `Stretch.leads`).  What is left out tells
at the end exactly if it started a particle system (`Stretch.snapshot_iff`).
-/

namespace Narrative

/-! ## Statements that pass -/

/-- **A statement that passes** neither waits nor jumps: it is `next`, or starts a particle system
that is defined. -/
def Passes (presets : Fields Json) (book : Playbook) (world : World) (cursor : Cursor) : Prop :=
  kindAt? book world cursor = some .next
    ∨ ∃ name, kindAt? book world cursor = some (.particles name)
      ∧ Fields.has presets (name.getD "") = true

/-- One step on from a statement. -/
theorem cursor_step {book : Playbook} {world after : World} {statement : Statement}
    (here : book.current? world = some statement) (hsame : after.cursor = world.cursor) :
    (Next.step book after).cursor = world.cursor.atStep (world.cursor.step + 1) := by
  rw [Next.step, hsame, if_pos (Playbook.step_lt here)]
  rfl

@[simp] theorem storage_step (book : Playbook) (world : World) :
    (Next.step book world).storage = world.storage := by
  unfold Next.step
  split <;> rfl

/-- How many particle systems were started and not undone. -/
def World.systems (world : World) : Nat := (world.place.entries Particles.stack).length

/-- The statement at a position where there is one. -/
def Playbook.statementAt (book : Playbook) (cursor : Cursor) : Statement :=
  (book.statement? cursor).getD (.text "")

/-- The statement at the cursor, due. -/
def Due.here (book : Playbook) (world : World) : Due :=
  ⟨book.statementAt world.cursor, true, world⟩

/-- What the statement at the cursor leaves when it is run. -/
def Run.performed (book : Playbook) (registry : Registry) (world : World) : World :=
  Result.left (Run.perform book registry (book.statementAt world.cursor) true world)

/-- **The world at a step, with some statements left out**: those are stepped over, and the others
are run. -/
def Run.skipping (book : Playbook) (registry : Registry) (skipped : Nat → Bool) (start : World) :
    Nat → World
  | 0 => start
  | step + 1 =>
    let world := skipping book registry skipped start step
    Next.step book (if skipped step then world else performed book registry world)

/-- **What a statement that passes does.** -/
structure Passed (book : Playbook) (world after : World) : Prop where
  /-- The position is the same. -/
  cursor : after.cursor = world.cursor
  /-- So are the world data. -/
  storage : after.storage = world.storage
  /-- `next` does nothing. -/
  idle : kindAt? book world world.cursor = some .next → after = world
  /-- Any other one starts a particle system. -/
  systems : kindAt? book world world.cursor ≠ some .next → after.systems = world.systems + 1

section Passing

variable {characters : Table Character} {presets : Fields Json} {book : Playbook}
  {start world after : World} {statement : Statement}

theorem Playbook.statement?_eq {cursor : Cursor} (h : book.statement? cursor = some statement) :
    book.statement? cursor = some (book.statementAt cursor) := by
  rw [statementAt, h, Option.getD_some]

theorem systems_of_place (h : after.place = world.place) : after.systems = world.systems := by
  rw [World.systems, h, World.systems]

@[simp] theorem systems_step (book : Playbook) (world : World) :
    (Next.step book world).systems = world.systems := by
  unfold Next.step
  split
  · rw [World.systems, place_moveTo]
    rfl
  · rfl

theorem Passes.congr (h : Passes presets book world after.cursor)
    (hstorage : after.storage = world.storage) : Passes presets book after after.cursor := by
  rw [Passes, kindAt?_congr hstorage]
  exact h

variable (characters) in
/-- **Running a statement that passes** asks to go on. -/
theorem Passes.perform (h : Passes presets book world world.cursor) :
    ∃ statement after, book.current? world = some statement
      ∧ Run.perform book (builtinRegistry characters presets) statement true world
        = .ok .advance after
      ∧ Passed book world after := by
  obtain hnext | ⟨name, hparticles, hdefined⟩ := h
  · obtain ⟨line, text, here, filled, kind⟩ := statement_of_kindAt? hnext
    refine ⟨.text line, world, here, ?_, rfl, rfl, fun _ => rfl, fun hne => absurd hnext hne⟩
    rw [perform_eq (by simp), invoke_text filled, kind]
    rfl
  · obtain ⟨line, text, here, filled, kind⟩ := statement_of_kindAt? hparticles
    obtain ⟨config, hconfig⟩ := Option.isSome_iff_exists.1 hdefined
    refine ⟨.text line, (Particles.started (Text.trim text) world).emit
      [.particles (name.getD "") config], here, ?_, rfl, rfl, fun hnext => ?_, fun _ => ?_⟩
    · rw [perform_eq (by simp), invoke_text filled, kind]
      exact stages_particles kind hconfig world true world
    · rw [hparticles] at hnext
      cases hnext
    · simp [World.systems, place_started]

variable (characters) in
/-- Running the statement at the cursor, if it passes. -/
theorem Passes.performed (h : Passes presets book world world.cursor) :
    book.current? world = some (book.statementAt world.cursor)
      ∧ Run.perform book (builtinRegistry characters presets) (book.statementAt world.cursor) true
          world
        = .ok .advance (Run.performed book (builtinRegistry characters presets) world)
      ∧ Passed book world (Run.performed book (builtinRegistry characters presets) world) := by
  obtain ⟨statement, after, here, hperform, hpassed⟩ := h.perform characters
  obtain rfl : book.statementAt world.cursor = statement :=
    Option.some.inj ((Playbook.statement?_eq here).symm.trans here)
  rw [Run.performed, hperform]
  exact ⟨here, rfl, hpassed⟩

/-- **What a statement that succeeds does**: it waits at a stop, passes, or jumps to a label that is
there. -/
theorem passes_of_perform (here : book.current? world = some statement)
    (hno : ∀ run, statement ≠ .callback run) {flow : Flow}
    (h : Run.perform book (builtinRegistry characters presets) statement true world
      = .ok flow after) :
    flow = .wait ∧ (∃ stop, StopAt characters book world stop)
      ∨ flow = .advance ∧ Passes presets book world world.cursor ∧ after.cursor = world.cursor
        ∧ after.storage = world.storage
      ∨ flow = .enter ∧ (∃ target, book.hasLabel target = true ∧ after.cursor = .start target)
        ∧ after.storage = world.storage := by
  obtain ⟨invocation, hinvoke, hstages⟩ := stages_of_perform hno h
  have hstop : ∀ stop, invocation = Stop.invocation stop → StopAt characters book world stop →
      flow = .wait := by
    rintro stop rfl hat
    obtain ⟨rested, hrest, -⟩ := hat.stages presets true world
    rw [hrest] at hstages
    exact (EStateM.Result.ok.inj hstages).1.symm
  cases reads_of_invoke hinvoke with
  | line filled kind said =>
    have hat : StopAt characters book world (.line _) := .line here filled kind said
    exact .inl ⟨hstop _ rfl hat, _, hat⟩
  | menu field read =>
    have hat : StopAt characters book world (.menu _) := .menu here field read
    exact .inl ⟨hstop _ rfl hat, _, hat⟩
  | next filled kind =>
    obtain ⟨rfl, rfl⟩ := EStateM.Result.ok.inj hstages
    exact .inr (.inl ⟨rfl, .inl (kind ▸ kindAt?_eq here filled), rfl, rfl⟩)
  | particles filled kind =>
    obtain ⟨rfl, hdefined, effects, rfl⟩ := started_of_stages hstages
    rw [word?_of_particles kind] at hdefined
    exact .inr (.inl ⟨rfl, .inr ⟨_, kind ▸ kindAt?_eq here filled, hdefined⟩, rfl, rfl⟩)
  | jump filled kind =>
    obtain ⟨rfl, hlabel, rfl⟩ := entered_of_stages hstages
    exact .inr (.inr ⟨rfl, ⟨_, hlabel, rfl⟩, rfl⟩)

end Passing

/-! ## A stretch -/

/-- **A stretch**: from the first statement of a label on, statements that pass, and then a stop. -/
structure Stretch (characters : Table Character) (presets : Fields Json) (book : Playbook)
    (start : World) (rest : Nat) (stop : Stop) : Prop where
  /-- It begins where the label does. -/
  begins : start.cursor.step = 0
  /-- The statements before the stop pass. -/
  passes : ∀ step, step < rest → Passes presets book start (start.cursor.atStep step)
  /-- The stop. -/
  stops : StopAt characters book (start.moveTo (start.cursor.atStep rest)) stop

section Stretches

variable {characters : Table Character} {presets : Fields Json} {book : Playbook}
  {start world after : World} {statement : Statement} {rest step count : Nat} {stop : Stop}
  {skipped : Nat → Bool}

/-- **A chain that ends, in a script of one label, runs a stretch.**  The induction is on what the
chain may still run.  A jump begins the stretch anew, with less of it left. -/
theorem stretch_of_chain (hbook : book.Callbackless)
    (hone : ∀ label, book.hasLabel label = true → label = start.cursor.label)
    (hstart : start.cursor.step = 0) {allowed : Nat}
    (hcursor : world.cursor = start.cursor.atStep step) (hstorage : world.storage = start.storage)
    (hpasses : ∀ earlier, earlier < step →
      Passes presets book start (start.cursor.atStep earlier))
    (here : book.current? world = some statement)
    (h : Run.chain book (builtinRegistry characters presets) allowed statement true world
      = .ok () after) :
    ∃ rest stop, Stretch characters presets book start rest stop := by
  induction allowed generalizing world step statement with
  | zero => cases h
  | succ allowed ih =>
    obtain ⟨left, flow, mid, hleft, hperform, -, hadvance, henter⟩ := perform_of_chain h
    obtain rfl : allowed = left := Nat.succ.inj hleft
    obtain ⟨rfl, stop, hat⟩ | ⟨rfl, hpass, hsame, hkept⟩
      | ⟨rfl, ⟨target, hlabel, hentered⟩, hkept⟩ :=
      passes_of_perform here (fun run hrun => hbook _ run (hrun ▸ here)) hperform
    · exact ⟨step, stop, hstart, hpasses, hat.congr hcursor.symm hstorage.symm⟩
    · obtain ⟨next, moved, hstep, hrest⟩ := hadvance rfl rfl
      obtain ⟨rfl, hnext⟩ := moved_of_stepForward here hstep hsame
      have hmoved : (mid.moveTo (world.cursor.atStep (world.cursor.step + 1))).cursor
          = start.cursor.atStep (step + 1) :=
        congrArg (fun cursor => cursor.atStep (cursor.step + 1)) hcursor
      refine ih hmoved (hkept.trans hstorage) (fun earlier hearlier => ?_) hnext
        hrest
      obtain hlt | rfl := Nat.lt_succ_iff_lt_or_eq.1 hearlier
      · exact hpasses earlier hlt
      · rw [Passes, ← hcursor, ← kindAt?_congr hstorage]
        exact hpass
    · obtain ⟨next, hnext, hrest⟩ := henter rfl
      have hagain : mid.cursor = start.cursor.atStep 0 := by
        rw [hentered, hone target hlabel]
        rfl
      exact ih hagain (hkept.trans hstorage) (fun earlier hearlier => absurd hearlier
        (Nat.not_lt_zero earlier)) hnext hrest

/-! The world at each step, whatever is left out. -/

variable (skipped) in
/-- **Whatever is left out**, the position and the world data at a step are the same. -/
theorem Stretch.standing (h : Stretch characters presets book start rest stop)
    (hle : step ≤ rest) :
    (Run.skipping book (builtinRegistry characters presets) skipped start step).cursor
        = start.cursor.atStep step
      ∧ (Run.skipping book (builtinRegistry characters presets) skipped start step).storage
        = start.storage := by
  induction step with
  | zero => exact ⟨congrArg start.cursor.atStep h.begins, rfl⟩
  | succ step ih =>
    obtain ⟨hcursor, hstorage⟩ := ih (Nat.le_of_succ_le hle)
    have hpass := h.passes step hle
    rw [← hcursor] at hpass
    obtain ⟨here, -, hpassed⟩ := (hpass.congr hstorage).performed characters
    generalize hworld : Run.skipping book (builtinRegistry characters presets) skipped start step
      = world at *
    have hmid : (if skipped step then world
        else Run.performed book (builtinRegistry characters presets) world).cursor = world.cursor
          ∧ (if skipped step then world
            else Run.performed book (builtinRegistry characters presets) world).storage
              = world.storage := by
      split
      · exact ⟨rfl, rfl⟩
      · exact ⟨hpassed.cursor, hpassed.storage⟩
    rw [Run.skipping, hworld, cursor_step here hmid.1, storage_step, hcursor, hmid.2]
    exact ⟨rfl, hstorage⟩

variable (skipped) in
theorem Stretch.passes_skipping (h : Stretch characters presets book start rest stop)
    (hlt : step < rest) :
    Passes presets book (Run.skipping book (builtinRegistry characters presets) skipped start step)
      (Run.skipping book (builtinRegistry characters presets) skipped start step).cursor := by
  obtain ⟨hcursor, hstorage⟩ := h.standing skipped (Nat.le_of_lt hlt)
  have hpass := h.passes step hlt
  rw [← hcursor] at hpass
  exact hpass.congr hstorage

variable (skipped) in
theorem Stretch.stops_skipping (h : Stretch characters presets book start rest stop) :
    StopAt characters book
      (Run.skipping book (builtinRegistry characters presets) skipped start rest) stop := by
  obtain ⟨hcursor, hstorage⟩ := h.standing skipped (Nat.le_refl rest)
  exact h.stops.congr hcursor hstorage

variable (skipped) in
/-- There is a statement at every step of a stretch. -/
theorem Stretch.here (h : Stretch characters presets book start rest stop) (hle : step ≤ rest) :
    book.current? (Run.skipping book (builtinRegistry characters presets) skipped start step)
      = some (book.statementAt
        (Run.skipping book (builtinRegistry characters presets) skipped start step).cursor) := by
  obtain hlt | rfl := Nat.lt_or_eq_of_le hle
  · exact ((h.passes_skipping skipped hlt).performed characters).1
  · obtain ⟨statement, -, here, -⟩ := (h.stops_skipping skipped).perform presets true
    exact Playbook.statement?_eq here

/-- **A statement that is not left out** has the next one run. -/
theorem Stretch.goes (h : Stretch characters presets book start rest stop) (hlt : step < rest)
    (hrun : skipped step = false) :
    (Engine.fixed book (builtinRegistry characters presets)).Goes
      (.here book (Run.skipping book (builtinRegistry characters presets) skipped start step))
      (.here book
        (Run.skipping book (builtinRegistry characters presets) skipped start (step + 1))) := by
  obtain ⟨-, hperform, -⟩ := (h.passes_skipping skipped hlt).performed characters
  have hnext := h.here skipped hlt
  simp only [Run.skipping, hrun, Bool.false_eq_true, if_false] at hnext ⊢
  exact .advance ((congrFun (Engine.perform_fixed _ _) _).trans hperform) hnext

/-- **So many statements, none of them left out**, are run one after another. -/
theorem Stretch.leads (h : Stretch characters presets book start rest stop)
    (hle : step + count ≤ rest)
    (hrun : ∀ other, step ≤ other → other < step + count → skipped other = false) :
    (Engine.fixed book (builtinRegistry characters presets)).Leads
      (.here book (Run.skipping book (builtinRegistry characters presets) skipped start step))
      ((List.range' step count).map fun other =>
        .here book (Run.skipping book (builtinRegistry characters presets) skipped start other))
      (.here book (Run.skipping book (builtinRegistry characters presets) skipped start
        (step + count))) := by
  induction count generalizing step with
  | zero => exact .nil _
  | succ count ih =>
    have hfirst := h.goes (by omega) (hrun step (Nat.le_refl step) (by omega))
    have hrest := @ih (step + 1) (by omega) fun other hafter hbefore =>
      hrun other (by omega) (by omega)
    rw [Nat.add_right_comm] at hrest
    exact .cons hfirst hrest

variable (skipped) in
/-- **The stop**, where the statements before it were run or left out. -/
theorem Stretch.ends (h : Stretch characters presets book start rest stop) :
    (Engine.fixed book (builtinRegistry characters presets)).Stops
        (.here book (Run.skipping book (builtinRegistry characters presets) skipped start rest))
        (.ok () (Run.performed book (builtinRegistry characters presets)
          (Run.skipping book (builtinRegistry characters presets) skipped start rest)))
      ∧ (Run.performed book (builtinRegistry characters presets)
          (Run.skipping book (builtinRegistry characters presets) skipped start rest)).place
        = (Run.skipping book (builtinRegistry characters presets) skipped start rest).place := by
  obtain ⟨statement, after, here, hperform, hlanded⟩ :=
    (h.stops_skipping skipped).perform presets true
  obtain rfl := Option.some.inj ((Playbook.statement?_eq here).symm.trans here)
  have hafter : Run.performed book (builtinRegistry characters presets)
      (Run.skipping book (builtinRegistry characters presets) skipped start rest) = after :=
    congrArg Result.left hperform
  rw [hafter]
  exact ⟨.wait ((congrFun (Engine.perform_fixed _ _) _).trans hperform), hlanded.place⟩

/-! ## What is left out -/

/-- **If only `next` is left out**, nothing is. -/
theorem Stretch.skipping_eq (h : Stretch characters presets book start rest stop)
    (hle : step ≤ rest)
    (hidle : ∀ other, other < step → skipped other = true →
      kindAt? book start (start.cursor.atStep other) = some .next) :
    Run.skipping book (builtinRegistry characters presets) skipped start step
      = Run.skipping book (builtinRegistry characters presets) (fun _ => false) start step := by
  induction step with
  | zero => rfl
  | succ step ih =>
    have hsame := ih (Nat.le_of_succ_le hle) fun other hlt => hidle other (Nat.lt_succ_of_lt hlt)
    obtain ⟨hcursor, hstorage⟩ := h.standing skipped (Nat.le_of_succ_le hle)
    obtain ⟨-, -, hpassed⟩ := (h.passes_skipping skipped hle).performed characters
    rw [Run.skipping, Run.skipping, ← hsame]
    cases hskipped : skipped step with
    | false => rfl
    | true =>
      have hnext := hidle step (Nat.lt_succ_self step) hskipped
      rw [← hcursor, ← kindAt?_congr hstorage] at hnext
      simp only [if_true, Bool.false_eq_true, if_false, hpassed.idle hnext]

/-- A step starts a particle system, unless it is left out or is `next`. -/
theorem Stretch.systems_succ (h : Stretch characters presets book start rest stop)
    (hlt : step < rest) :
    (Run.skipping book (builtinRegistry characters presets) skipped start (step + 1)).systems
      = (Run.skipping book (builtinRegistry characters presets) skipped start step).systems
        + if skipped step = true
            ∨ kindAt? book start (start.cursor.atStep step) = some .next then 0 else 1 := by
  obtain ⟨hcursor, hstorage⟩ := h.standing skipped (Nat.le_of_lt hlt)
  obtain ⟨-, -, hpassed⟩ := (h.passes_skipping skipped hlt).performed characters
  rw [Run.skipping, systems_step, ← hcursor, ← kindAt?_congr hstorage]
  cases skipped step with
  | true => simp
  | false =>
    by_cases hnext : kindAt? book
        (Run.skipping book (builtinRegistry characters presets) skipped start step)
        (Run.skipping book (builtinRegistry characters presets) skipped start step).cursor
          = some .next
    · simp [hnext, hpassed.idle hnext]
    · simp [hnext, hpassed.systems hnext]

/-- **Whatever is left out that is not `next`** is a particle system less. -/
theorem Stretch.systems_skipping (h : Stretch characters presets book start rest stop)
    (hle : step ≤ rest) :
    (Run.skipping book (builtinRegistry characters presets) skipped start step).systems
        ≤ (Run.skipping book (builtinRegistry characters presets) (fun _ => false) start
          step).systems
      ∧ ∀ other, other < step → skipped other = true →
        kindAt? book start (start.cursor.atStep other) ≠ some .next →
          (Run.skipping book (builtinRegistry characters presets) skipped start step).systems
            < (Run.skipping book (builtinRegistry characters presets) (fun _ => false) start
              step).systems := by
  induction step with
  | zero => exact ⟨Nat.le_refl _, fun other hlt => absurd hlt (Nat.not_lt_zero other)⟩
  | succ step ih =>
    obtain ⟨hfewer, hlost⟩ := ih (Nat.le_of_succ_le hle)
    rw [h.systems_succ hle, h.systems_succ hle]
    have hstep : (if skipped step = true
          ∨ kindAt? book start (start.cursor.atStep step) = some .next then 0 else 1)
        ≤ if false = true
          ∨ kindAt? book start (start.cursor.atStep step) = some .next then 0 else 1 := by
      cases skipped step <;> simp
    refine ⟨Nat.add_le_add hfewer hstep, fun other hlt hskipped hne => ?_⟩
    obtain hlt | rfl := Nat.lt_succ_iff_lt_or_eq.1 hlt
    · exact Nat.add_lt_add_of_lt_of_le (hlost other hlt hskipped hne) hstep
    · simp only [hskipped, true_or, if_true, Bool.false_eq_true, hne, or_self, if_false]
      exact Nat.lt_succ_of_le hfewer

/-- **What is left out tells at the stop** exactly if it is not all `next`. -/
theorem Stretch.snapshot_iff (h : Stretch characters presets book start rest stop) :
    (Run.performed book (builtinRegistry characters presets)
        (Run.skipping book (builtinRegistry characters presets) skipped start rest)).snapshot
      = (Run.performed book (builtinRegistry characters presets)
        (Run.skipping book (builtinRegistry characters presets) (fun _ => false) start
          rest)).snapshot
      ↔ ∀ step, step < rest → skipped step = true →
        kindAt? book start (start.cursor.atStep step) = some .next := by
  constructor
  · intro hsnapshot step hlt hskipped
    by_contra hne
    have hless := (h.systems_skipping (Nat.le_refl rest)).2 step hlt hskipped hne
    rw [← systems_of_place (h.ends skipped).2, ← systems_of_place (h.ends fun _ => false).2]
      at hless
    simp only [World.systems, particles_place] at hless
    have hsame := congrArg (fun saved => (saved.history.entries Particles.stack).length) hsnapshot
    exact absurd hsame (Nat.ne_of_lt hless)
  · intro hidle
    rw [h.skipping_eq (Nat.le_refl rest) hidle]

/-! ## The statements of a stretch -/

/-- The statement at a step of a stretch, with its position and its action. -/
def Deed.atStep (book : Playbook) (registry : Registry) (start : World) (step : Nat) : Deed :=
  .of book registry start (start.cursor.atStep step) (book.statementAt (start.cursor.atStep step))

/-- **What a chain runs in a stretch**: one statement after another, up to the stop. -/
theorem Stretch.deeds (h : Stretch characters presets book start rest stop) {allowed : Nat}
    (hle : step ≤ rest)
    (hrun : ∀ other, step ≤ other → other < step + allowed → skipped other = false) :
    Run.deeds book (builtinRegistry characters presets) allowed
        (Run.skipping book (builtinRegistry characters presets) skipped start step)
      = (List.range' step (min allowed (rest + 1 - step))).map
        (Deed.atStep book (builtinRegistry characters presets) start) := by
  induction allowed generalizing step with
  | zero => rw [Nat.zero_min, List.range'_zero, List.map_nil, Run.deeds]
  | succ allowed ih =>
    obtain ⟨hcursor, hstorage⟩ := h.standing skipped hle
    have hdeed : Deed.of book (builtinRegistry characters presets)
          (Run.skipping book (builtinRegistry characters presets) skipped start step)
          (Run.skipping book (builtinRegistry characters presets) skipped start step).cursor
          (book.statementAt
            (Run.skipping book (builtinRegistry characters presets) skipped start step).cursor)
        = Deed.atStep book (builtinRegistry characters presets) start step := by
      rw [Deed.of, handler?_congr rfl hstorage, hcursor]
      rfl
    rw [Run.deeds, h.here skipped hle]
    simp only [hdeed]
    obtain hlt | rfl := Nat.lt_or_eq_of_le hle
    · obtain ⟨-, hperform, -⟩ := (h.passes_skipping skipped hlt).performed characters
      have hnext := ih hlt fun other hafter hbefore => hrun other (by omega) (by omega)
      have hskipped := hrun step (Nat.le_refl step) (by omega)
      simp only [Run.skipping, hskipped, Bool.false_eq_true, if_false] at hnext
      have hcount : min (allowed + 1) (rest + 1 - step)
          = min allowed (rest + 1 - (step + 1)) + 1 := by omega
      rw [hperform, hcount, List.range'_succ, List.map_cons]
      exact congrArg _ hnext
    · obtain ⟨statement, after, here, hperform, -⟩ :=
        (h.stops_skipping skipped).perform presets true
      obtain rfl := Option.some.inj ((Playbook.statement?_eq here).symm.trans here)
      have hcount : min (allowed + 1) (step + 1 - step) = 1 := by omega
      rw [hperform, hcount]
      rfl

end Stretches

end Narrative
