import Narrative.Proofs.Defects
import Narrative.Proofs.Engine

/-!
# Proofs/Within — actions on the world, within a state that holds more

The built-in actions are on the world.  Within the state of an engine they do to the world what they
do to a world by itself, and nothing to the rest (`Action.within`).  An action runs no statement, so
of a callback it sees only that there is one (`Statement.seen`).

Running a statement by such an action shows the world what running it by itself shows
(`Engine.perform_within`); and where the state is the world, the built-in actions are what they were
(`perform_world`).
-/

namespace Narrative

variable {σ τ α β : Type}

/-! ## What an action on the world sees -/

/-- A statement as an action on the world sees it: of a callback, that there is one. -/
def Statement.seen : Statement σ → Statement
  | text line => .text line
  | record fields => .record fields
  | callback _ => .callback (pure ())

theorem Statement.seen_ne_callback (statement : Statement σ)
    (hno : ∀ run, statement ≠ .callback run) (run : Play Unit) :
    statement.seen ≠ .callback run := by
  cases statement with
  | text line | record fields => rintro ⟨⟩
  | callback run => exact absurd rfl (hno run)

theorem Statement.callback_or (statement : Statement σ) :
    (∃ run, statement = .callback run) ∨ ∀ run, statement ≠ .callback run := by
  cases statement with
  | callback run => exact .inl ⟨run, rfl⟩
  | text line | record fields =>
    right
    rintro run ⟨⟩

/-- Labels as an action on the world sees them. -/
def Labels.seen (labels : Labels σ) : Labels := labels.map (·.map Statement.seen)

/-- A script as an action on the world sees it. -/
def Script.seen : Script σ → Script
  | single labels => .single labels.seen
  | multi languages => .multi (languages.map Labels.seen)

/-- A playbook as an action on the world sees it. -/
def Playbook.seen (book : Playbook σ) : Playbook :=
  { script := book.script.seen, settings := book.settings, preferences := book.preferences }

/-- An instruction as an action on the world sees it. -/
def Instruction.seen (i : Instruction σ) : Instruction := ⟨i.statement.seen, i.text, i.words⟩

theorem Script.label?_seen (script : Script σ) (language name : String) :
    script.seen.label? language name
      = (script.label? language name).map fun statements => statements.map Statement.seen := by
  cases script with
  | single labels => exact Table.get?_map _ labels name
  | multi languages =>
    have hlabels : (languages.map Labels.seen).get? language
        = (languages.get? language).map Labels.seen := Table.get?_map _ languages language
    show ((languages.map Labels.seen).get? language).bind _ = _
    rw [hlabels, label?, labels?]
    cases languages.get? language with
    | none => rfl
    | some labels => exact Table.get?_map _ labels name

theorem Playbook.label?_seen (book : Playbook σ) (name : String) :
    book.seen.label? name
      = (book.label? name).map fun statements => statements.map Statement.seen :=
  Script.label?_seen _ _ _

@[simp] theorem Playbook.hasLabel_seen (book : Playbook σ) (name : String) :
    book.seen.hasLabel name = book.hasLabel name := by
  rw [hasLabel, label?_seen, Option.isSome_map, hasLabel]

@[simp] theorem Playbook.labelLength_seen (book : Playbook σ) (name : String) :
    book.seen.labelLength name = book.labelLength name := by
  rw [labelLength, label?_seen, labelLength]
  cases book.label? name with
  | none => rfl
  | some statements => exact List.length_map _

@[simp] theorem Playbook.labelNames_seen (book : Playbook σ) :
    book.seen.labelNames = book.labelNames := by
  show book.script.seen.labelNames book.language = book.script.labelNames book.language
  cases book.script with
  | single labels => exact labels.keys_map _
  | multi languages =>
    have hlabels : (languages.map Labels.seen).get? book.language
        = (languages.get? book.language).map Labels.seen := Table.get?_map _ _ _
    show (((languages.map Labels.seen).get? book.language).map Table.keys).getD [] = _
    rw [hlabels, Script.labelNames, Script.labels?]
    cases languages.get? book.language with
    | none => rfl
    | some labels => exact labels.keys_map _

theorem Playbook.current?_seen (book : Playbook σ) (world : World) :
    book.seen.current? world = (book.current? world).map Statement.seen := by
  show (book.seen.label? _).bind _ = ((book.label? _).bind _).map _
  rw [label?_seen]
  cases book.label? world.cursor.label with
  | none => rfl
  | some statements => exact List.getElem?_map

/-! ## Within a state -/

/-- A computation on the world, within a state. -/
def Engine.within (engine : Engine σ) (play : Play α) : EStateM Fault σ α := fun s =>
  match play (engine.world s) with
  | .ok value after => .ok value (engine.withWorld s after)
  | .error fault after => .error fault (engine.withWorld s after)

/-- A statement whose callback is on the world. -/
def Statement.within (engine : Engine σ) : Statement → Statement σ
  | text line => .text line
  | record fields => .record fields
  | callback run => .callback (engine.within run)

/-- An invocation that changes no more than the world. -/
def Invocation.within (engine : Engine σ) (invocation : Invocation) : Invocation σ where
  willApply := engine.within invocation.willApply
  apply advance := engine.within (invocation.apply advance)
  didApply advance := engine.within (invocation.didApply advance)
  willRevert := engine.within invocation.willRevert
  revert := engine.within invocation.revert
  didRevert := engine.within invocation.didRevert

/-- **An action on the world, within a state**: it reads and changes the world that the state
holds. -/
def Action.within (engine : Engine σ) (action : Action) : Action σ where
  id := action.id
  handlesWords := action.handlesWords
  handlesRecord := action.handlesRecord
  invoke book s i := (action.invoke book.seen (engine.world s) i.seen).map (·.within engine)
  setup book := engine.within (action.setup book.seen)
  bind book := engine.within (action.bind book.seen)
  init book := engine.within (action.init book.seen)
  reset book := engine.within (action.reset book.seen)
  onStart book := engine.within (action.onStart book.seen)
  onLoad book := engine.within (action.onLoad book.seen)
  canProceed book s :=
    let (allowed, after) := action.canProceed book.seen (engine.world s)
    (allowed, engine.withWorld s after)
  canRevert book s :=
    let (allowed, after) := action.canRevert book.seen (engine.world s)
    (allowed, engine.withWorld s after)
  revertOrigin book s := (action.revertOrigin book.seen (engine.world s)).map (·.within engine)

/-- Actions on the world, within a state. -/
def Registry.within (engine : Engine σ) (registry : Registry) : Registry σ :=
  ⟨registry.actions.map (·.within engine)⟩

theorem Registry.forWords?_within (engine : Engine σ) (registry : Registry) (words : List String) :
    (registry.within engine).forWords? words
      = (registry.forWords? words).map (·.within engine) :=
  List.find?_map

theorem Registry.forRecord?_within (engine : Engine σ) (registry : Registry)
    (fields : Fields Json) :
    (registry.within engine).forRecord? fields
      = (registry.forRecord? fields).map (·.within engine) :=
  List.find?_map

/-! ## What the world is shown -/

/-- The same result, of another state. -/
def Result.onState (f : σ → τ) : EStateM.Result Fault σ α → EStateM.Result Fault τ α
  | .ok value s => .ok value (f s)
  | .error fault s => .error fault (f s)

namespace Engine

variable {engine : Engine σ} {registry : Registry} {s : σ} {statement : Statement σ}

/-- **A computation that does to the world what another one does to it by itself.** -/
def Shows (engine : Engine σ) (run : EStateM Fault σ α) (play : Play α) : Prop :=
  ∀ s, Result.onState engine.world (run s) = play (engine.world s)

theorem shows_within (engine : Engine σ) (play : Play α) :
    engine.Shows (engine.within play) play := by
  intro s
  unfold within
  cases play (engine.world s) with
  | ok value after => exact congrArg _ (engine.world_withWorld s after)
  | error fault after => exact congrArg _ (engine.world_withWorld s after)

theorem shows_emit (engine : Engine σ) (effects : List Effect) :
    engine.Shows (engine.emit effects) (Play.emit effects) := fun s =>
  congrArg _ (engine.world_change (·.emit effects) s)

theorem Shows.bind {run : EStateM Fault σ α} {play : Play α} {runs : α → EStateM Fault σ β}
    {plays : α → Play β} (h : engine.Shows run play)
    (hrest : ∀ value, engine.Shows (runs value) (plays value)) :
    engine.Shows (run >>= runs) (play >>= plays) := by
  intro s
  have hfirst := h s
  show Result.onState _ (EStateM.bind run runs s) = EStateM.bind play plays _
  unfold EStateM.bind
  rw [← hfirst]
  cases run s with
  | ok value after => exact hrest value after
  | error fault after => rfl

theorem shows_stages (engine : Engine σ) (invocation : Invocation) (advance : Bool) :
    engine.Shows (engine.stages (invocation.within engine) advance)
      (Run.stages invocation advance) :=
  (shows_within engine _).bind fun _ => (shows_within engine _).bind fun effects =>
    (shows_emit engine effects).bind fun _ => shows_within engine _

/-- Running a statement that is no callback is making its invocation and taking the stages. -/
theorem perform_eq (hno : ∀ run, statement ≠ .callback run) (advance : Bool) :
    engine.perform statement advance s
      = match engine.invoke s statement with
        | .error fault => .error fault s
        | .ok invocation => engine.stages invocation advance s := by
  cases statement with
  | text line => rfl
  | record fields => rfl
  | callback run => exact absurd rfl (hno run)

/-- The invocation of a statement by actions on the world. -/
theorem invoke_within (hregistry : engine.registry s = registry.within engine)
    (hno : ∀ run, statement ≠ .callback run) :
    engine.invoke s statement
      = (registry.invoke (engine.book s).seen (engine.world s) statement.seen).map
        (·.within engine) := by
  cases statement with
  | text line =>
    have hfill : (engine.book s).seen.substitute (engine.world s) line
        = (engine.book s).substitute (engine.world s) line := rfl
    simp only [invoke, Registry.invoke, Statement.seen, hfill, hregistry,
      Registry.forWords?_within, bind, Except.bind]
    cases (engine.book s).substitute (engine.world s) line with
    | error fault => rfl
    | ok text =>
      simp only [Instruction.ofText]
      cases registry.forWords? (Text.words text) <;> rfl
  | record fields =>
    simp only [invoke, Registry.invoke, Statement.seen, hregistry, Registry.forRecord?_within]
    cases registry.forRecord? fields <;> rfl
  | callback run => exact absurd rfl (hno run)

/-- **Running a statement by actions on the world** shows the world what running it by itself
does. -/
theorem perform_within (hregistry : engine.registry s = registry.within engine)
    (hno : ∀ run, statement ≠ .callback run) (advance : Bool) :
    Result.onState engine.world (engine.perform statement advance s)
      = Run.perform (engine.book s).seen registry statement.seen advance (engine.world s) := by
  rw [Narrative.perform_eq (statement.seen_ne_callback hno), Engine.perform_eq hno,
    invoke_within hregistry hno]
  cases registry.invoke (engine.book s).seen (engine.world s) statement.seen with
  | error fault => rfl
  | ok invocation => exact shows_stages engine invocation advance s

/-! ## Where the state is the world -/

variable {book : Playbook} {actions : Registry}

theorem within_fixed (play : Play α) : (fixed book actions).within play = play := by
  funext world
  show (match play world with | .ok value after => _ | .error fault after => _) = play world
  cases play world <;> rfl

end Engine

section World

variable {characters : Table Character} {presets : Fields Json} {book other : Playbook}
  {actions : Registry}

theorem Invocation.within_fixed (invocation : Invocation) :
    invocation.within (.fixed book actions) = invocation := by
  simp only [Invocation.within, Engine.within_fixed]

theorem Jump.invocation_seen (i : Instruction) :
    Jump.invocation book.seen i = Jump.invocation book i := by
  have hreport : ∀ cursor target line,
      Jump.report book.seen cursor target line = Jump.report book cursor target line := by
    intro cursor target line
    simp only [Jump.report, Playbook.labelNames_seen]
  have hdone : Jump.didRevert book.seen = Jump.didRevert book := by
    funext world
    have hline : (book.seen.current? world).bind Statement.asText?
        = (book.current? world).bind Statement.asText? := by
      rw [Playbook.current?_seen]
      rcases book.current? world with _ | _ | _ | _ <;> rfl
    unfold Jump.didRevert
    rw [hline]
    rfl
  have hbefore : ∀ target line, Jump.willApply book.seen target line
      = Jump.willApply book target line := by
    intro target line
    funext world
    unfold Jump.willApply
    rw [Playbook.hasLabel_seen, hreport]
  simp only [Jump.invocation, hbefore, hdone]

theorem Next.invocation_seen : Next.invocation book.seen = Next.invocation book := by
  simp only [Next.invocation, Next.step, Playbook.labelLength_seen]

theorem Choice.readOptions_seen (world : World) (options : Fields Json) :
    Choice.readOptions book.seen world options = Choice.readOptions book world options := by
  induction options with
  | nil => rfl
  | cons field rest ih =>
    obtain ⟨key, value⟩ := field
    have hfirst : Choice.readOption book.seen world key value
        = Choice.readOption book world key value := rfl
    rw [readOptions_cons, readOptions_cons, hfirst, ih]

/-- **No built-in action looks into a callback.** -/
theorem invoke_seen (world : World) (statement : Statement) :
    (builtinRegistry characters presets).invoke book.seen world statement.seen
      = (builtinRegistry characters presets).invoke book world statement := by
  cases statement with
  | text line =>
    show (builtinRegistry characters presets).invoke book.seen world (.text line) = _
    cases filled : book.substitute world line with
    | error fault =>
      have hsame : book.seen.substitute world line = .error fault := filled
      rw [Registry.invoke, Registry.invoke, filled, hsame]
      rfl
    | ok text =>
      have hsame : book.seen.substitute world line = .ok text := filled
      rw [invoke_text filled, invoke_text hsame, Jump.invocation_seen, Next.invocation_seen]
      rfl
  | record fields =>
    show (builtinRegistry characters presets).invoke book.seen world (.record fields) = _
    rw [invoke_record, invoke_record]
    simp only [Choice.invoke, Choice.readOptions_seen]
  | callback run => rfl

/-- **Where the state is the world, the built-in actions are what they are.** -/
theorem perform_world (statement : Statement) (advance : Bool) :
    Run.perform book ((builtinRegistry characters presets).within (.fixed other actions)) statement
        advance
      = Run.perform book (builtinRegistry characters presets) statement advance := by
  funext world
  obtain ⟨run, rfl⟩ | hno := statement.callback_or
  · rfl
  · have hinvoke : ((builtinRegistry characters presets).within (.fixed other actions)).invoke book
          world statement
        = (builtinRegistry characters presets).invoke book world statement := by
      rw [← Engine.invoke_fixed, Engine.invoke_within rfl hno]
      show ((builtinRegistry characters presets).invoke book.seen world statement.seen).map _ = _
      rw [invoke_seen]
      cases (builtinRegistry characters presets).invoke book world statement with
      | error fault => rfl
      | ok invocation => exact congrArg _ invocation.within_fixed
    rw [perform_eq hno, perform_eq hno, hinvoke]

end World

end Narrative
