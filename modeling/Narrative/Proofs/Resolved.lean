import Narrative.Proofs.LookAlike
import Narrative.Proofs.Words

/-!
# Proofs/Resolved — statements whose names are there report nothing

A statement is **resolved** when it has no placeholder and the label or the preset that it names is
there; a menu is, when each of its options runs a resolved statement that is no menu.  Only a jump
to a missing label and a particle statement with a missing preset are reported, and only the jump
fails with an unresolved target.  A story of resolved statements does neither: nothing is reported
and every option offered is resolved (`Sober`), and every move of the player keeps it so
(`sober_moves`).
-/

namespace Narrative

/-! ## Resolved statements -/

/-- **Whether the name in a text is there**: the text has no placeholder, the label of a jump
exists, and the preset of a particle statement is defined. -/
def resolvesText (presets : Fields Json) (book : Playbook) (line : String) : Bool :=
  !Text.occurs Template.openMark line.toList &&
    match Kind.ofText line with
    | .jump target => book.hasLabel target
    | .particles name => Fields.has presets (name.getD "")
    | .blank | .next | .line _ => true

/-- Whether an option may run a statement: a resolved text, or a record that is no menu. -/
def resolvesAlone (presets : Fields Json) (book : Playbook) : Statement → Bool
  | .text line => resolvesText presets book line
  | .record fields => !Fields.has fields Choice.fieldName
  | .callback _ => false

/-- **Whether the names in a statement are there**, those in the options of a menu included. -/
def resolves (presets : Fields Json) (book : Playbook) : Statement → Bool
  | .text line => resolvesText presets book line
  | .record fields =>
    match (Fields.get? fields Choice.fieldName).bind Json.asFields? with
    | none => true
    | some options => (Fields.values options).all fun option =>
        ((option.field? "Do").bind Statement.ofJson?).all (resolvesAlone presets book)
  | .callback _ => false

/-- Whether a fault is an unresolved target. -/
def Fault.isUnresolved : Fault → Bool
  | unresolvedTarget _ => true
  | _ => false

/-- A fault that is no unresolved target. -/
def Fault.Resolved (fault : Fault) : Prop := fault.isUnresolved = false

section Reading

variable {characters : Table Character} {presets : Fields Json} {book : Playbook} {world : World}

theorem resolves_of_resolvesAlone {statement : Statement}
    (h : resolvesAlone presets book statement = true) : resolves presets book statement = true := by
  cases statement with
  | text line => exact h
  | record fields =>
    have hnone : Fields.get? fields Choice.fieldName = none := by
      simpa [resolvesAlone, Fields.has] using h
    simp [resolves, hnone]
  | callback run => cases h

/-! ## Reading a statement fails with no unresolved target -/

theorem Fault.OfReading.resolved {fault : Fault} (h : fault.OfReading) : fault.Resolved := by
  cases h <;> rfl

/-- **A statement that cannot be read** does not fail for the label that it names. -/
theorem invoke_resolved {statement : Statement} {fault : Fault}
    (h : (builtinRegistry characters presets).invoke book world statement = .error fault) :
    fault.Resolved := by
  cases statement with
  | callback run => exact Except.error.inj h ▸ rfl
  | _ => exact (ofReading_of_invoke (by simp) h).resolved

end Reading

/-! ## The stages of an invocation -/

/-- **A game that has reported nothing**, and whose menu offers resolved statements only. -/
structure Sober (presets : Fields Json) (book : Playbook) (world : World) : Prop where
  /-- Nothing was reported. -/
  silent : world.reports = []
  /-- The statements on offer are resolved. -/
  offers : ∀ item ∈ Choice.offered world, ∀ statement,
    Statement.ofJson? item.action = some statement → resolvesAlone presets book statement = true

/-- **A result that leaves the reports and the menu alone**, and is no unresolved target. -/
inductive Calm {α : Type} (world : World) : EStateM.Result Fault World α → Prop
  | ok {answer : α} {after : World} (reports : after.reports = world.reports)
      (pending : after.look.pending = world.look.pending) : Calm world (.ok answer after)
  | error {fault : Fault} {after : World} (resolved : fault.Resolved)
      (reports : after.reports = world.reports)
      (pending : after.look.pending = world.look.pending) : Calm world (.error fault after)

section Stages

variable {characters : Table Character} {presets : Fields Json} {book : Playbook} {α : Type}

theorem Sober.of_eq {world after : World} (h : Sober presets book world)
    (hreports : after.reports = world.reports)
    (hpending : after.look.pending = world.look.pending) : Sober presets book after where
  silent := hreports.trans h.silent
  offers := by
    have hglobal : after.globals.get? Choice.pendingKey = world.globals.get? Choice.pendingKey :=
      hpending
    rw [Choice.offered, hglobal]
    exact h.offers

/-- A closed menu offers nothing. -/
theorem Sober.closed {world after : World} (h : Sober presets book world)
    (hreports : after.reports = world.reports) (hpending : after.look.pending = none) :
    Sober presets book after where
  silent := hreports.trans h.silent
  offers item hitem := by
    have hglobal : after.globals.get? Choice.pendingKey = none := hpending
    rw [Choice.offered, hglobal] at hitem
    cases hitem

/-- What is calm keeps the game sober. -/
theorem lockstep_calm {run : Play α} (h : ∀ world, Calm world (run world)) :
    Lockstep (Invariant (Sober presets book)) run Fault.Resolved := by
  rintro w _ ⟨rfl, hsober⟩
  have hcalm := h w
  cases hrun : run w with
  | ok answer after =>
    rw [hrun] at hcalm
    cases hcalm with
    | ok reports pending => exact .ok answer ⟨rfl, hsober.of_eq reports pending⟩
  | error fault after =>
    rw [hrun] at hcalm
    cases hcalm with
    | error resolved reports pending =>
      exact .error fault ⟨rfl, hsober.of_eq reports pending⟩ resolved

theorem lockstep_stages {before : Play Unit} {play : Play (List Effect)} {last : Play Flow}
    (hbefore : Lockstep (Invariant (Sober presets book)) before Fault.Resolved)
    (hplay : Lockstep (Invariant (Sober presets book)) play Fault.Resolved)
    (hlast : Lockstep (Invariant (Sober presets book)) last Fault.Resolved) :
    Lockstep (Invariant (Sober presets book))
      (do before; let effects ← play; Play.emit effects; last) Fault.Resolved :=
  Play.lockstep_stages (fun _ => lockstep_calm fun _ => .ok rfl rfl) hbefore hplay hlast

/-! ### Running -/

theorem calm_emitLine (say : Say) (before : List Effect) (world : World) :
    Calm world (say.emitLine before world) := .ok rfl rfl

theorem calm_displayOnPage (say : Say) (advance : Bool) (world : World) :
    Calm world (say.displayOnPage advance world) := by
  simp only [Say.displayOnPage]
  -- Opening the page reports nothing and leaves the menu alone.
  have hopen : (if (!Page.isShowing world) = true then Page.display world [] else world).reports
        = world.reports
      ∧ (if (!Page.isShowing world) = true then Page.display world [] else world).look.pending
        = world.look.pending := by
    split
    · exact ⟨rfl, by simp⟩
    · exact ⟨rfl, rfl⟩
  generalize (if (!Page.isShowing world) = true then Page.display world [] else world) = opened
    at *
  split
  · exact .ok hopen.1 hopen.2
  · refine .ok hopen.1 ?_
    simpa using hopen.2

theorem calm_displayAlone (say : Say) (keepPage : Bool) (world : World) :
    Calm world (say.displayAlone keepPage world) := by
  simp only [Say.displayAlone]
  split
  · split
    · exact .ok rfl (by simp)
    · exact .ok rfl (by simp)
  · exact calm_emitLine say [] world

theorem calm_display (say : Say) (keepPage advance : Bool) (world : World) :
    Calm world (say.display keepPage advance world) := by
  unfold Say.display
  split
  · exact calm_emitLine say [] world
  split
  · exact calm_displayOnPage say advance world
  · exact calm_displayAlone say keepPage world

/-- The options that a resolved menu offers are resolved. -/
theorem offers_of_resolves {fields options : Fields Json} {items : List (MenuItem × Condition)}
    {origin world : World} (h : resolves presets book (.record fields) = true)
    (field : (Fields.get? fields Choice.fieldName).bind Json.asFields? = some options)
    (read : Choice.readOptions book origin options = .ok items) :
    ∀ item ∈ Choice.visible world.storage items, ∀ statement,
      Statement.ofJson? item.action = some statement →
        resolvesAlone presets book statement = true := by
  intro item hitem statement hstatement
  obtain ⟨option, hoption, rfl⟩ := List.mem_map.1 hitem
  obtain ⟨value, hvalue, hdo⟩ := mem_readOptions read (List.mem_filter.1 hoption).1
  simp only [resolves, field, List.all_eq_true] at h
  simpa [hdo, hstatement] using h value hvalue

theorem lockstep_menu {options : List (MenuItem × Condition)}
    (h : ∀ (world : World), ∀ item ∈ Choice.visible world.storage options, ∀ statement,
      Statement.ofJson? item.action = some statement →
        resolvesAlone presets book statement = true) :
    Lockstep (Invariant (Sober presets book)) (Choice.apply options) Fault.Resolved := by
  rintro w _ ⟨rfl, hsober⟩
  refine .ok _ ⟨rfl, hsober.silent, ?_⟩
  have hoffered : Choice.offered (w.withGlobals (·.set Choice.pendingKey
      (.arr ((Choice.visible w.storage options).map MenuItem.toJson))))
        = Choice.visible w.storage options := by
    simp [Choice.offered, World.withGlobals, Globals.get?, Globals.set]
  rw [hoffered]
  exact h w

/-- A resolved text has no placeholder, so it is filled in as it is. -/
theorem eq_of_resolvesText {world : World} {line text : String}
    (h : resolvesText presets book line = true) (filled : book.substitute world line = .ok text) :
    line = text := by
  simp only [resolvesText, Bool.and_eq_true, Bool.not_eq_true'] at h
  rw [Playbook.substitute, Template.fill_of_unbraced _ _ h.1] at filled
  exact Except.ok.inj filled

/-- A jump to a label that is there. -/
theorem sober_jump {line target : String} (h : resolvesText presets book line = true)
    (kind : Kind.ofText line = .jump target) (advance : Bool) :
    Lockstep (Invariant (Sober presets book))
      (Run.stages (Jump.invocation book (.ofText (.text line) line)) advance) Fault.Resolved := by
  have hlabel : book.hasLabel target = true := by
    simp only [resolvesText, kind, Bool.and_eq_true] at h
    exact h.2
  refine lockstep_stages (lockstep_calm fun world => ?_) (lockstep_calm fun world => ?_)
    (Lockstep.pure _)
  · simp only [Jump.invocation, Jump.willApply, word?_of_jump kind, hlabel, if_true]
    exact .ok rfl rfl
  · exact .ok rfl (by simp)

/-- A particle statement whose preset is defined. -/
theorem sober_particles {line : String} {name : Option String} (origin : World)
    (h : resolvesText presets book line = true) (kind : Kind.ofText line = .particles name)
    (advance : Bool) : Lockstep (Invariant (Sober presets book))
      (Run.stages (Particles.invocation presets origin (.ofText (.text line) line)) advance)
      Fault.Resolved := by
  have hdefined : Fields.has presets (name.getD "") = true := by
    simp only [resolvesText, kind, Bool.and_eq_true] at h
    exact h.2
  refine lockstep_stages (lockstep_calm fun world => ?_) (lockstep_calm fun world => ?_)
    (Lockstep.pure _)
  · simp only [Particles.invocation, Particles.willApply, word?_of_particles kind, hdefined,
      if_true]
    exact .ok rfl rfl
  · simp only [Particles.invocation, Particles.apply]
    split
    · exact .error rfl rfl rfl
    · exact .ok rfl (by simp)

theorem sober_next (advance : Bool) : Lockstep (Invariant (Sober presets book))
    (Run.stages (Next.invocation book) advance) Fault.Resolved := by
  refine lockstep_stages (Lockstep.pure _) (lockstep_calm fun world => ?_) (Lockstep.pure _)
  have hstep : (Next.step book world).reports = world.reports
      ∧ (Next.step book world).look.pending = world.look.pending := by
    unfold Next.step
    split <;> exact ⟨rfl, rfl⟩
  cases advance with
  | true => exact .ok rfl rfl
  | false => exact .ok hstep.1 hstep.2

/-- **A resolved statement runs without a report.** -/
theorem sober_perform {statement : Statement} (h : resolves presets book statement = true)
    (advance : Bool) : Lockstep (Invariant (Sober presets book))
      (Run.perform book (builtinRegistry characters presets) statement advance)
      Fault.Resolved := by
  have hno : ∀ run, statement ≠ .callback run := by
    rintro run rfl
    cases h
  rintro w _ ⟨rfl, hsober⟩
  rw [perform_eq hno]
  cases hok : (builtinRegistry characters presets).invoke book w statement with
  | error fault => exact .error fault ⟨rfl, hsober⟩ (invoke_resolved hok)
  | ok invocation =>
    cases reads_of_invoke hok with
    | jump filled kind =>
      obtain rfl := eq_of_resolvesText h filled
      exact sober_jump h kind advance ⟨rfl, hsober⟩
    | next filled kind => exact sober_next advance ⟨rfl, hsober⟩
    | particles filled kind =>
      obtain rfl := eq_of_resolvesText h filled
      exact sober_particles w h kind advance ⟨rfl, hsober⟩
    | line filled kind said =>
      exact lockstep_stages (Lockstep.pure _) (lockstep_calm (calm_display _ true advance))
        (Lockstep.pure _) ⟨rfl, hsober⟩
    | menu field read =>
      exact lockstep_stages (Lockstep.pure _)
        (lockstep_menu fun world => offers_of_resolves h field read) (Lockstep.pure _)
        ⟨rfl, hsober⟩

/-! ### Undoing -/

theorem calm_jump_revert (world : World) : Calm world (Jump.revert world) := by
  simp only [Jump.revert]
  cases world.history.peek? Jump.stack with
  | none => exact .error rfl rfl rfl
  | some value =>
    cases hentry : JumpEntry.ofJson? value with
    | none =>
      simp only [hentry]
      exact .error rfl rfl (by simp)
    | some entry =>
      simp only [hentry]
      exact .ok rfl (by simp)

theorem calm_jump_didRevert (world : World) : Calm world (Jump.didRevert book world) := by
  simp only [Jump.didRevert]
  cases (book.current? world).bind Statement.asText? with
  | none => exact .ok rfl rfl
  | some line =>
    cases hfill : book.substitute world line with
    | error fault =>
      simp only [hfill]
      exact .error (ofReading_of_substitute hfill).resolved rfl rfl
    | ok text =>
      simp only [hfill]
      exact .ok rfl rfl

theorem calm_particles_revert (previous : Option (String × Effect)) (world : World) :
    Calm world (Particles.revert previous world) := by
  cases previous with
  | none => exact .ok rfl (by simp)
  | some previous => exact .ok rfl (by simp)

theorem calm_revertOnPage (world : World) : Calm world (Say.revertOnPage world) := by
  simp only [Say.revertOnPage]
  split
  · exact .ok rfl (by simp)
  · cases world.history.peek? Page.stack with
    | none => exact .error rfl rfl rfl
    | some value =>
      cases hpage : Line.pageOfJson? value with
      | none =>
        simp only [hpage]
        exact .error rfl rfl (by simp)
      | some lines =>
        simp only [hpage]
        exact .ok rfl (by simp)

theorem lockstep_menu_revert :
    Lockstep (Invariant (Sober presets book)) Choice.revert Fault.Resolved := by
  rintro w _ ⟨rfl, hsober⟩
  simp only [Choice.revert]
  split
  · exact .ok _ ⟨rfl, hsober.closed rfl (by simp)⟩
  · exact .ok _ ⟨rfl, hsober⟩

/-- **Any statement is undone without a report.** -/
theorem sober_undo (statement : Statement) : Lockstep (Invariant (Sober presets book))
    (Rewind.undo book (builtinRegistry characters presets) statement) Fault.Resolved := by
  rintro w _ ⟨rfl, hsober⟩
  rw [Rewind.undo]
  cases hok : (builtinRegistry characters presets).invoke book w statement with
  | error fault => exact .error fault ⟨rfl, hsober⟩ (invoke_resolved hok)
  | ok invocation =>
    cases reads_of_invoke hok with
    | jump filled kind =>
      exact lockstep_stages (Lockstep.pure _) (lockstep_calm calm_jump_revert)
        (lockstep_calm calm_jump_didRevert) ⟨rfl, hsober⟩
    | next filled kind =>
      exact lockstep_stages (Lockstep.pure _) (Lockstep.pure _) (Lockstep.pure _) ⟨rfl, hsober⟩
    | particles filled kind =>
      exact lockstep_stages (Lockstep.pure _) (lockstep_calm (calm_particles_revert _))
        (Lockstep.pure _) ⟨rfl, hsober⟩
    | @line _ _ _ say filled kind said =>
      refine lockstep_stages (Lockstep.pure _) (lockstep_calm fun world => ?_) (Lockstep.pure _)
        ⟨rfl, hsober⟩
      show Calm world ((if say.nvl = true then Say.revertOnPage else say.display false true) world)
      split
      · exact calm_revertOnPage world
      · exact calm_display say false true world
    | menu field read =>
      exact lockstep_stages (Lockstep.pure _) lockstep_menu_revert (Lockstep.pure _)
        ⟨rfl, hsober⟩

end Stages

/-! ## Moves -/

section Moves

variable {characters : Table Character} {presets : Fields Json} {book : Playbook} {world : World}

theorem Sober.finish (h : Sober presets book world) :
    Sober presets book
      (if world.globals.finishedTyping then world else Dialog.finishTyping world) := by
  split
  · exact h
  · exact h.of_eq rfl rfl

theorem Sober.hide (h : Sober presets book world) : Sober presets book (Choice.hide world) := by
  refine h.closed ?_ (by simp)
  unfold Choice.hide
  split <;> rfl

/-- **Every move of the player in a story of resolved statements** keeps the game sober and fails
with no unresolved target. -/
theorem sober_moves
    (h : ∀ cursor statement, book.statement? cursor = some statement →
      resolves presets book statement = true) :
    Moves (Invariant (Sober presets book)) book (builtinRegistry characters presets)
      Fault.Resolved where
  cursor _ _ hsame := congrArg World.cursor hsame.1
  moveTo := by
    rintro w _ ⟨rfl, hsober⟩ cursor
    exact ⟨rfl, hsober.of_eq rfl rfl⟩
  perform cursor statement here := sober_perform (h cursor statement here)
  undo := sober_undo
  origin := by
    rintro w _ ⟨rfl, -⟩
    rfl
  noStatement _ := rfl
  chainLimit _ _ := rfl
  playing := by
    rintro w _ ⟨rfl, hsober⟩
    exact ⟨rfl, hsober.of_eq rfl rfl⟩
  onStart action hmem := by
    rw [onStart_builtin hmem]
    exact Lockstep.pure ()
  gates := by
    rintro w _ ⟨rfl, -⟩
    rfl
  canProceed := by
    rintro w _ ⟨rfl, hsober⟩
    rw [askAll_canProceed]
    exact ⟨rfl, rfl, hsober.finish⟩
  canRevert := by
    rintro w _ ⟨rfl, hsober⟩
    rw [askAll_canRevert]
    exact ⟨rfl, rfl, hsober.hide.finish⟩
  offered := by
    rintro w _ ⟨rfl, -⟩
    rfl
  pick := by
    rintro w _ ⟨rfl, hsober⟩
    exact ⟨rfl, hsober.closed rfl (by simp)⟩
  picked := by
    rintro w _ ⟨rfl, hsober⟩ item hitem statement hread
    exact sober_perform (resolves_of_resolvesAlone (hsober.offers item hitem statement hread))
  rejected _ := rfl
  invalidScript := rfl

end Moves

end Narrative
