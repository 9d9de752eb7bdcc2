import Narrative.Proofs.LostMenu

/-!
# Proofs/Untouched — a statement that fails leaves the world alone

A statement is read before anything is changed: its placeholders are filled in, an action takes it,
and the action may still refuse it.  Whatever it fails for stands in the way at one of these stages
(`Statement.defect?`), so a statement is executed as a whole or not at all.  All that a failed one
leaves is the report of a label or a preset that does not exist (`Statement.complaint?`).
-/

namespace Narrative

/-- **The report on a statement**, if it names a label or a preset that does not exist. -/
def Statement.complaint? (presets : Fields Json) (book : Playbook) (world : World) :
    Statement → Option Report
  | .text line =>
    match book.substitute world line with
    | .error _ => none
    | .ok filled =>
      match Kind.ofText filled with
      | .jump target =>
        if book.hasLabel target then none
        else some (Jump.report book world.cursor target filled)
      | .particles name =>
        if Fields.has presets (name.getD "") then none
        else some (Particles.report presets (name.getD "") (Text.trim filled))
      | .blank | .next | .line _ => none
  | .record _ | .callback _ => none

/-- Pass a report on to the author, if there is one. -/
def World.complain (world : World) (complaint : Option Report) : World :=
  { world with reports := world.reports ++ complaint.toList }

@[simp] theorem World.complain_none (world : World) : world.complain none = world := by
  simp [World.complain]

@[simp] theorem World.complain_some (world : World) (report : Report) :
    world.complain (some report) = world.report report := rfl

section Untouched

variable {characters : Table Character} {presets : Fields Json} {book : Playbook} {world after : World}
  {line text : String} {advance : Bool} {fault : Fault}

/-! What an action leaves that refuses the statement it was read from. -/

theorem complain_jump {target : String} (kind : Kind.ofText text = .jump target)
    (h : Run.stages (Jump.invocation book (.ofText (.text line) text)) advance world
      = .error fault after) :
    book.hasLabel target = false ∧ after = world.report (Jump.report book world.cursor target text)
    := by
  simp only [Run.stages, Jump.invocation, Jump.willApply, bind, EStateM.bind,
    word?_of_jump kind] at h
  cases hlabel : book.hasLabel target with
  | true =>
    simp only [hlabel, if_true] at h
    cases h
  | false =>
    simp only [hlabel, Bool.false_eq_true, if_false] at h
    exact ⟨rfl, (EStateM.Result.error.inj h).2.symm⟩

theorem complain_particles {name : Option String} (kind : Kind.ofText text = .particles name)
    (h : Run.stages (Particles.invocation presets world (.ofText (.text line) text)) advance world
      = .error fault after) :
    Fields.has presets (name.getD "") = false
      ∧ after = world.report (Particles.report presets (name.getD "") (Text.trim text)) := by
  cases hconfig : Fields.get? presets (name.getD "") with
  | some config =>
    rw [stages_particles kind hconfig] at h
    cases h
  | none =>
    have hmissing : Fields.has presets (name.getD "") = false := by rw [Fields.has, hconfig]; rfl
    simp only [Run.stages, Particles.invocation, Particles.willApply, bind, EStateM.bind,
      word?_of_particles kind, hmissing, Bool.false_eq_true, if_false] at h
    exact ⟨hmissing, (EStateM.Result.error.inj h).2.symm⟩

/-- A text that fails leaves its report.  It fails unread, or by one of the two actions that look a
name up. -/
theorem complain_text
    (h : Run.perform book (builtinRegistry characters presets) (.text line) advance world
      = .error fault after) :
    after = world.complain (Statement.complaint? presets book world (.text line)) := by
  rw [perform_eq (by simp)] at h
  rw [Statement.complaint?]
  cases filled : book.substitute world line with
  | error unresolved =>
    rw [Registry.invoke, filled] at h
    simpa using (EStateM.Result.error.inj h).2.symm
  | ok text =>
    rw [invoke_text filled] at h
    cases kind : Kind.ofText text with
    | blank =>
      simp only [kind] at h ⊢
      simpa using (EStateM.Result.error.inj h).2.symm
    | jump target =>
      simp only [kind] at h ⊢
      obtain ⟨hlabel, hafter⟩ := complain_jump kind h
      simpa [hlabel] using hafter
    | next =>
      simp only [kind] at h
      cases h
    | particles name =>
      simp only [kind] at h ⊢
      obtain ⟨hmissing, hafter⟩ := complain_particles kind h
      simpa [hmissing] using hafter
    | line first =>
      simp only [kind] at h ⊢
      cases said : Dialog.say characters book world (.ofText (.text line) text) with
      | error unresolved =>
        rw [said] at h
        simpa using (EStateM.Result.error.inj h).2.symm
      | ok say =>
        rw [said] at h
        have hnone : Result.fault? (Run.stages say.invocation advance world) = none :=
          fault?_line say advance
        rw [show Run.stages say.invocation advance world = .error fault after from h] at hnone
        cases hnone

/-- A record that fails leaves nothing: a menu that can be read is offered. -/
theorem complain_record {fields : Fields Json}
    (h : Run.perform book (builtinRegistry characters presets) (.record fields) advance world
      = .error fault after) : after = world := by
  rw [perform_eq (by simp)] at h
  cases hinvoke : (builtinRegistry characters presets).invoke book world (.record fields) with
  | error unread =>
    rw [hinvoke] at h
    exact (EStateM.Result.error.inj h).2.symm
  | ok invocation =>
    rw [hinvoke] at h
    cases reads_of_invoke hinvoke with
    | menu field read => cases h

end Untouched

/-- **A statement is executed as a whole or not at all.**  If executing a text or a record fails,
the state, the history, the storage, the globals and the waiting effects are what they were: the
world that is left differs in its reports at most, by the one on a name that does not exist.  The
fault is the one that was in the statement from the start. -/
theorem failed_statement {characters : Table Character} {presets : Fields Json} {book : Playbook}
    {world after : World} {statement : Statement} {advance : Bool} {fault : Fault}
    (hno : ∀ run, statement ≠ .callback run)
    (h : Run.perform book (builtinRegistry characters presets) statement advance world
      = .error fault after) :
    after = { world with
        reports := world.reports ++ (statement.complaint? presets book world).toList }
      ∧ statement.defect? characters presets book world = some fault := by
  have hdefect : Result.fault? (Run.perform book (builtinRegistry characters presets) statement
      advance world) = statement.defect? characters presets book world := fault?_perform hno advance
  rw [h] at hdefect
  refine ⟨?_, hdefect.symm⟩
  cases statement with
  | text line => exact complain_text h
  | record fields => exact (complain_record h).trans (World.complain_none world).symm
  | callback run => exact absurd rfl (hno run)

/-- A jump to a label that does not exist, run while a menu waits: the menu still waits, and the
author is told. -/
theorem failed_statement_cliff :
    (∀ run, (.text "jump Nowhere" : Statement) ≠ .callback run)
      ∧ ∃ after,
        Run.perform cliffMenu.book (builtinRegistry cliffStory.characters cliffStory.particles)
            (.text "jump Nowhere") false cliffMenu.world
          = .error (.unresolvedTarget "Nowhere") after
        ∧ after = { cliffMenu.world with
            reports := cliffMenu.world.reports
              ++ (Statement.complaint? cliffStory.particles cliffMenu.book cliffMenu.world
                (.text "jump Nowhere")).toList }
        ∧ Choice.isPending after = true
        ∧ after.reports.map Report.title = ["Label not found"] := by
  have hno : ∀ run, (.text "jump Nowhere" : Statement) ≠ .callback run := fun run => by simp
  have hfault : Result.fault? (Run.perform cliffMenu.book
      (builtinRegistry cliffStory.characters cliffStory.particles) (.text "jump Nowhere") false
        cliffMenu.world) = some (.unresolvedTarget "Nowhere") := by
    decide +kernel
  have hfailed := Result.eq_error hfault
  exact ⟨hno, _, hfailed, (failed_statement hno hfailed).1, by decide +kernel, by decide +kernel⟩

end Narrative
