import Narrative.Proofs.Keeping

/-!
# Proofs/Defects — why a statement cannot be executed

Whether a statement can be executed by the built-in actions is told beforehand from how it reads,
and so is the fault it fails with (`Statement.defect?`, `fault?_perform`).  The fault is one of four
kinds (`Fault.isOfStatement`): no action takes the statement, a label does not exist, a placeholder
leads nowhere, or an action refuses it.  Nothing but a report is left of a statement that failed
(`parts_of_fault`).
-/

namespace Narrative

/-! ## Defects -/

/-- **Why a statement cannot be executed**, if it cannot.  Of a callback that is not known. -/
def Statement.defect? (characters : Table Character) (presets : Fields Json) (book : Playbook)
    (world : World) : Statement → Option Fault
  | .text line =>
    match book.substitute world line with
    | .error fault => some fault
    | .ok filled =>
      match Kind.ofText filled with
      | .blank => some (.noMatch filled)
      | .jump target => if book.hasLabel target then none else some (.unresolvedTarget target)
      | .next => none
      | .particles name =>
        if Fields.has presets (name.getD "") then none
        else some (.rejected ("unknown particles \"" ++ name.getD "" ++ "\""))
      | .line _ =>
        match Dialog.say characters book world (.ofText (.text line) filled) with
        | .error fault => some fault
        | .ok _ => none
  | .record fields =>
    if Fields.has fields Choice.fieldName then
      match (Fields.get? fields Choice.fieldName).bind Json.asFields? with
      | none => some (.rejected "a choice needs an object of options")
      | some options =>
        match Choice.readOptions book world options with
        | .error fault => some fault
        | .ok _ => none
    else some (.noMatch (Statement.describe (.record fields : Statement)))
  | .callback _ => none

section Defects

variable {characters : Table Character} {presets : Fields Json} {book : Playbook}
  {world other : World}

/-! What running an action that was read from a statement fails with. -/

theorem fault?_jump {line text target : String} (kind : Kind.ofText text = .jump target)
    (advance : Bool) :
    Result.fault? (Run.stages (Jump.invocation book (.ofText (.text line) text)) advance world)
      = if book.hasLabel target then none else some (.unresolvedTarget target) := by
  simp only [Run.stages, Jump.invocation, Jump.willApply, bind, EStateM.bind, word?_of_jump kind]
  cases book.hasLabel target <;> rfl

theorem fault?_particles {line text : String} {name : Option String}
    (kind : Kind.ofText text = .particles name) (advance : Bool) :
    Result.fault? (Run.stages (Particles.invocation presets world (.ofText (.text line) text))
        advance world)
      = if Fields.has presets (name.getD "") then none
        else some (.rejected ("unknown particles \"" ++ name.getD "" ++ "\"")) := by
  cases hconfig : Fields.get? presets (name.getD "") with
  | none =>
    simp only [Run.stages, Particles.invocation, Particles.willApply, bind, EStateM.bind,
      word?_of_particles kind, Fields.has, hconfig]
    rfl
  | some config =>
    rw [stages_particles kind hconfig, Fields.has, hconfig]
    rfl

theorem fault?_line (say : Say) (advance : Bool) :
    Result.fault? (Run.stages say.invocation advance world) = none := by
  obtain ⟨after, hstages, -⟩ := stages_say [] say advance world
  rw [hstages]
  rfl

theorem fault?_text (line : String) (advance : Bool) :
    Result.fault? (Run.perform book (builtinRegistry characters presets) (.text line) advance world)
      = Statement.defect? characters presets book world (.text line) := by
  rw [perform_eq (by simp), Statement.defect?]
  cases filled : book.substitute world line with
  | error fault =>
    rw [Registry.invoke, filled]
    rfl
  | ok text =>
    rw [invoke_text filled]
    cases kind : Kind.ofText text with
    | blank =>
      simp only [kind]
      rfl
    | jump target =>
      simp only [kind]
      exact fault?_jump kind advance
    | next =>
      simp only [kind]
      rfl
    | particles name =>
      simp only [kind]
      exact fault?_particles kind advance
    | line first =>
      simp only [kind]
      cases said : Dialog.say characters book world (.ofText (.text line) text) with
      | error fault => rfl
      | ok say => exact fault?_line say advance

theorem fault?_record (fields : Fields Json) (advance : Bool) :
    Result.fault?
        (Run.perform book (builtinRegistry characters presets) (.record fields) advance world)
      = Statement.defect? characters presets book world (.record fields) := by
  rw [perform_eq (by simp), invoke_record, Statement.defect?]
  by_cases hmenu : Fields.has fields Choice.fieldName = true
  · simp only [if_pos hmenu, Choice.invoke, Instruction.fields?, Instruction.ofRecord,
      Statement.asRecord?, Option.bind_some]
    cases (Fields.get? fields Choice.fieldName).bind Json.asFields? with
    | none => rfl
    | some options =>
      simp only
      cases Choice.readOptions book world options <;> rfl
  · simp only [if_neg hmenu]
    rfl

/-- **Running a statement fails for its defect**, and only then. -/
theorem fault?_perform {statement : Statement} (hno : ∀ run, statement ≠ .callback run)
    (advance : Bool) :
    Result.fault? (Run.perform book (builtinRegistry characters presets) statement advance world)
      = statement.defect? characters presets book world := by
  cases statement with
  | text line => exact fault?_text line advance
  | record fields => exact fault?_record fields advance
  | callback run => exact absurd rfl (hno run)

/-- A defect is told from the storage. -/
theorem defect?_congr (hstorage : other.storage = world.storage) (statement : Statement) :
    statement.defect? characters presets book other
      = statement.defect? characters presets book world := by
  cases statement <;> simp only [Statement.defect?, substitute_congr hstorage, say_congr hstorage,
    readOptions_congr hstorage]

/-- **A statement that fails changes nothing**, but that it may be reported. -/
theorem parts_of_fault {statement : Statement} {advance : Bool} {fault : Fault} {after : World}
    (hran : Ran characters presets book world advance statement (.error fault after)) :
    after.snapshot = world.snapshot ∧ after.globals = world.globals := by
  cases hran with
  | unread => exact ⟨rfl, rfl⟩
  | refused fault report => exact ⟨rfl, rfl⟩

end Defects

/-! ## The faults of statements -/

/-- Whether a fault is that of a statement that cannot be executed. -/
def Fault.isOfStatement : Fault → Bool
  | .rejected _ | .unresolvedTarget _ | .noMatch _ | .unresolvedPath _ => true
  | _ => false

/-- **A reading that fails with a fault of a statement**, if it fails. -/
def Playable {α : Type} (result : Except Fault α) : Prop :=
  ∀ fault, result = .error fault → fault.isOfStatement = true

section Faults

variable {characters : Table Character} {presets : Fields Json} {book : Playbook}
  {world : World} {fault : Fault}

theorem Fault.OfReading.isOfStatement (h : fault.OfReading) : fault.isOfStatement = true := by
  cases h <;> rfl

variable (book world) in
theorem playable_substitute (line : String) : Playable (book.substitute world line) :=
  fun _ h => (ofReading_of_substitute h).isOfStatement

variable (characters book world) in
theorem playable_say (i : Instruction) : Playable (Dialog.say characters book world i) :=
  fun _ h => (ofReading_of_say h).isOfStatement

variable (book world) in
theorem playable_readOptions (options : Fields Json) :
    Playable (Choice.readOptions book world options) :=
  fun _ h => (ofReading_of_readOptions h).isOfStatement

/-- **A defect is a fault of a statement.** -/
theorem isOfStatement_of_defect? {statement : Statement}
    (h : statement.defect? characters presets book world = some fault) :
    fault.isOfStatement = true := by
  cases statement with
  | text line =>
    rw [Statement.defect?] at h
    split at h
    · next raised filled =>
      exact Option.some.inj h ▸ playable_substitute book world line raised filled
    · next text filled =>
      split at h
      · exact Option.some.inj h ▸ rfl
      · split at h
        · cases h
        · exact Option.some.inj h ▸ rfl
      · cases h
      · split at h
        · cases h
        · exact Option.some.inj h ▸ rfl
      · split at h
        · next raised said =>
          exact Option.some.inj h ▸ playable_say characters book world _ raised said
        · cases h
  | record fields =>
    rw [Statement.defect?] at h
    split at h
    · split at h
      · exact Option.some.inj h ▸ rfl
      · next options field =>
        split at h
        · next raised read =>
          exact Option.some.inj h ▸ playable_readOptions book world options raised read
        · cases h
    · exact Option.some.inj h ▸ rfl
  | callback run => cases h

/-- **Running a statement fails with a fault of a statement**, unless it is a callback. -/
theorem isOfStatement_of_perform {statement : Statement}
    (hno : ∀ run, statement ≠ .callback run) {advance : Bool} {left : World}
    (h : Run.perform book (builtinRegistry characters presets) statement advance world
      = .error fault left) : fault.isOfStatement = true := by
  have hfault : Result.fault? (Run.perform book (builtinRegistry characters presets) statement
      advance world) = some fault := by
    rw [h]
    rfl
  exact isOfStatement_of_defect? ((fault?_perform hno advance).symm.trans hfault)

end Faults

end Narrative
