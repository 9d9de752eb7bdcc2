import Narrative.Story

/-!
# Proofs/Dispatch — what the built-in actions take a statement for

The first word of a text decides which built-in action handles it, and the second one is the name
that a jump or a particle system goes by.  `Kind` says so in one place; `invoke_text` and
`invoke_record` are the invocation of any statement, and `Reads` lists the invocations there are.
A statement has none for one of three reasons (`Fault.OfReading`), if it is no callback.
-/

namespace Narrative

open Text (words)

/-! ## The kind of a text -/

/-- **What the built-in actions take a text for.** -/
inductive Kind where
  /-- A text without a word, which no action handles. -/
  | blank
  /-- A jump to a label; without a second word the label's name is empty. -/
  | jump (target : String)
  /-- `next`. -/
  | next
  /-- A particle system; none when there is no second word. -/
  | particles (name : Option String)
  /-- A line that begins with this word. -/
  | line (first : String)
  deriving DecidableEq

namespace Kind

/-- The kind of a text of these words. -/
def ofWords : List String → Kind
  | [] => blank
  | first :: rest =>
    if first = Jump.keyword then jump (rest.head?.getD "")
    else if first = Next.keyword then next
    else if first = Particles.keyword then particles rest.head?
    else line first

/-- The kind of a text. -/
def ofText (text : String) : Kind := ofWords (words text)

theorem words_of_jump {text target : String} (h : ofText text = jump target) :
    ∃ rest, words text = Jump.keyword :: rest ∧ rest.head?.getD "" = target := by
  unfold ofText at h
  cases hw : words text with
  | nil => simp [hw, ofWords] at h
  | cons first rest => grind [ofWords]

theorem words_of_particles {text : String} {name : Option String}
    (h : ofText text = particles name) :
    ∃ rest, words text = Particles.keyword :: rest ∧ rest.head? = name := by
  unfold ofText at h
  cases hw : words text with
  | nil => simp [hw, ofWords] at h
  | cons first rest => grind [ofWords]

/-- A text begins with the word of a jump exactly when it is one. -/
theorem firstWord?_eq_keyword_iff {text : String} :
    Text.firstWord? text = some Jump.keyword ↔ ∃ target, ofText text = jump target := by
  unfold ofText Text.firstWord?
  cases words text with
  | nil => simp [ofWords]
  | cons first rest =>
    by_cases hfirst : first = Jump.keyword
    · simp [ofWords, hfirst]
    · simp only [List.head?_cons, Option.some.injEq, hfirst, ofWords, if_false, false_iff]
      rintro ⟨target, h⟩
      split at h
      · simp at h
      · split at h <;> simp at h

end Kind

/-- The label of a jump is its second word. -/
theorem word?_of_jump {statement : Statement} {text target : String}
    (kind : Kind.ofText text = .jump target) :
    ((Instruction.ofText statement text).word? 1).getD "" = target := by
  obtain ⟨rest, hwords, rfl⟩ := Kind.words_of_jump kind
  simp [Instruction.word?, Instruction.ofText, hwords, List.head?_eq_getElem?]

/-- So is the preset of a particle statement. -/
theorem word?_of_particles {statement : Statement} {text : String} {name : Option String}
    (kind : Kind.ofText text = .particles name) :
    (Instruction.ofText statement text).word? 1 = name := by
  obtain ⟨rest, hwords, rfl⟩ := Kind.words_of_particles kind
  simp [Instruction.word?, Instruction.ofText, hwords, List.head?_eq_getElem?]

/-! ## The invocation of a statement -/

/-- Running a statement that is no callback is making its invocation and taking the stages. -/
theorem perform_eq {book : Playbook} {registry : Registry} {statement : Statement}
    (hno : ∀ run, statement ≠ .callback run) (advance : Bool) (world : World) :
    Run.perform book registry statement advance world
      = match registry.invoke book world statement with
        | .error fault => .error fault world
        | .ok invocation => Run.stages invocation advance world := by
  cases statement with
  | text line => rfl
  | record fields => rfl
  | callback run => exact absurd rfl (hno run)

section Builtin

variable {characters : Table Character} {presets : Fields Json} {book : Playbook}

/-- No built-in action has anything to do when a game starts. -/
theorem onStart_builtin {action : Action}
    (h : action ∈ (builtinRegistry characters presets).actions) :
    action.onStart book = pure () := by
  simp only [builtinRegistry, List.mem_cons, List.not_mem_nil, or_false] at h
  rcases h with rfl | rfl | rfl | rfl | rfl <;> rfl

/-- A text goes to the first action that handles its words. -/
theorem invoke_of_forWords? {registry : Registry} {world : World} {line text : String}
    {action : Action} (h : book.substitute world line = .ok text)
    (hfind : registry.forWords? (words text) = some action) :
    registry.invoke book world (.text line)
      = action.invoke book world (.ofText (.text line) text) := by
  have hwords : registry.forWords? (Instruction.ofText (.text line : Statement) text).words
      = some action := hfind
  simp only [Registry.invoke, h, bind, Except.bind, hwords]

/-- **The invocation of a text**, by its kind. -/
theorem invoke_text {world : World} {line text : String}
    (h : book.substitute world line = .ok text) :
    (builtinRegistry characters presets).invoke book world (.text line)
      = match Kind.ofText text with
        | .blank => .error (.noMatch text)
        | .jump _ => .ok (Jump.invocation book (.ofText (.text line) text))
        | .next => .ok (Next.invocation book)
        | .particles _ => .ok (Particles.invocation presets world (.ofText (.text line) text))
        | .line _ =>
          (Dialog.say characters book world (.ofText (.text line) text)).map Say.invocation := by
  unfold Kind.ofText
  cases hw : words text with
  | nil =>
    have hwords : (Instruction.ofText (.text line : Statement) text).words = [] := hw
    simp only [Registry.invoke, h, bind, Except.bind, hwords]
    rfl
  | cons first rest =>
    have hfound {action : Action}
        (hfind : (builtinRegistry characters presets).forWords? (first :: rest) = some action) :=
      invoke_of_forWords? h (hw.symm ▸ hfind)
    by_cases hjump : first = Jump.keyword
    · subst hjump
      exact hfound rfl
    by_cases hnext : first = Next.keyword
    · subst hnext
      exact hfound rfl
    by_cases hparticles : first = Particles.keyword
    · subst hparticles
      exact hfound rfl
    · have hfind : (builtinRegistry characters presets).forWords? (first :: rest)
          = some (Dialog.action characters) := by
        simp [Registry.forWords?, builtinRegistry, Jump.action, Next.action, Particles.action,
          Choice.action, Dialog.action, hjump, hnext, hparticles]
      rw [hfound hfind]
      simp [Kind.ofWords, hjump, hnext, hparticles, Dialog.action]

/-- **The invocation of a record**: a menu, if it has the field of one. -/
theorem invoke_record (world : World) (fields : Fields Json) :
    (builtinRegistry characters presets).invoke book world (.record fields)
      = if Fields.has fields Choice.fieldName then
          Choice.invoke book world (.ofRecord (.record fields))
        else .error (.noMatch (Statement.describe (.record fields : Statement))) := by
  by_cases h : Fields.has fields Choice.fieldName = true
  · simp [Registry.invoke, Registry.forRecord?, builtinRegistry, List.find?, Jump.action,
      Next.action, Particles.action, Choice.action, h]
  · simp [Registry.invoke, Registry.forRecord?, builtinRegistry, List.find?, Jump.action,
      Next.action, Particles.action, Choice.action, Dialog.action, h]

/-- **The invocations there are**, and the statements that they are of. -/
inductive Reads (characters : Table Character) (presets : Fields Json) (book : Playbook)
    (world : World) : Statement → Invocation → Prop
  | jump {line text target : String} (filled : book.substitute world line = .ok text)
      (kind : Kind.ofText text = .jump target) :
      Reads characters presets book world (.text line)
        (Jump.invocation book (.ofText (.text line) text))
  | next {line text : String} (filled : book.substitute world line = .ok text)
      (kind : Kind.ofText text = .next) :
      Reads characters presets book world (.text line) (Next.invocation book)
  | particles {line text : String} {name : Option String}
      (filled : book.substitute world line = .ok text)
      (kind : Kind.ofText text = .particles name) :
      Reads characters presets book world (.text line)
        (Particles.invocation presets world (.ofText (.text line) text))
  | line {line text first : String} {say : Say} (filled : book.substitute world line = .ok text)
      (kind : Kind.ofText text = .line first)
      (said : Dialog.say characters book world (.ofText (.text line) text) = .ok say) :
      Reads characters presets book world (.text line) say.invocation
  | menu {fields options : Fields Json} {items : List (MenuItem × Condition)}
      (field : (Fields.get? fields Choice.fieldName).bind Json.asFields? = some options)
      (read : Choice.readOptions book world options = .ok items) :
      Reads characters presets book world (.record fields) (Choice.invocation items)

/-- A text is invoked as it reads. -/
theorem reads_of_invoke_text {world : World} {line : String} {invocation : Invocation}
    (h : (builtinRegistry characters presets).invoke book world (.text line) = .ok invocation) :
    Reads characters presets book world (.text line) invocation := by
  cases hfill : book.substitute world line with
  | error fault =>
    rw [Registry.invoke, hfill] at h
    cases h
  | ok text =>
    rw [invoke_text hfill] at h
    cases hkind : Kind.ofText text with
    | blank => simp [hkind] at h
    | jump target =>
      rw [hkind] at h
      cases h
      exact .jump hfill hkind
    | next =>
      rw [hkind] at h
      cases h
      exact .next hfill hkind
    | particles name =>
      rw [hkind] at h
      cases h
      exact .particles hfill hkind
    | line first =>
      rw [hkind] at h
      cases hsay : Dialog.say characters book world (.ofText (.text line) text) with
      | error fault => simp [hsay, Except.map] at h
      | ok say =>
        simp only [hsay, Except.map, Except.ok.injEq] at h
        subst h
        exact .line hfill hkind hsay

/-- A record is invoked as a menu, if it reads as one. -/
theorem reads_of_invoke_record {world : World} {fields : Fields Json} {invocation : Invocation}
    (h : (builtinRegistry characters presets).invoke book world (.record fields)
      = .ok invocation) :
    Reads characters presets book world (.record fields) invocation := by
  rw [invoke_record] at h
  split at h
  · unfold Choice.invoke at h
    split at h
    · cases h
    · next options hoptions =>
      cases hread : Choice.readOptions book world options with
      | error fault => simp [hread, Except.map] at h
      | ok items =>
        simp only [hread, Except.map, Except.ok.injEq] at h
        subst h
        exact .menu hoptions hread
  · cases h

/-- **A statement is invoked as it reads**, and in no other way. -/
theorem reads_of_invoke {world : World} {statement : Statement} {invocation : Invocation}
    (h : (builtinRegistry characters presets).invoke book world statement = .ok invocation) :
    Reads characters presets book world statement invocation := by
  cases statement with
  | text line => exact reads_of_invoke_text h
  | record fields => exact reads_of_invoke_record h
  | callback run => cases h

end Builtin

/-! ## The options of a menu -/

namespace Choice

/-- The condition of an option; there is none if it cannot be read. -/
def condition? (value : Json) : Option Condition :=
  match value.field? "Condition" with
  | none => some .always
  | some written => Condition.ofJson? written

/-- The text of an option as written; its key, if it has none. -/
def caption (key : String) (value : Json) : String :=
  ((value.field? "Text").bind Json.asText?).getD key

end Choice

section Options

variable {book : Playbook} {world : World}

/-- **How an option is read**, by its parts. -/
theorem readOption_eq (book : Playbook) (world : World) (key : String) (value : Json) :
    Choice.readOption book world key value
      = match value.field? "Do", Choice.condition? value with
        | none, _ => .ok none
        | some _, none => .error (.rejected ("invalid condition on option \"" ++ key ++ "\""))
        | some action, some condition =>
          (book.substitute world (Choice.caption key value)).map fun text =>
            some (⟨key, text, action⟩, condition) := by
  cases value with
  | obj fields =>
    simp only [Choice.readOption, Json.field?, Choice.condition?, Choice.caption]
    cases Fields.get? fields "Do" with
    | none => rfl
    | some action =>
      cases Fields.get? fields "Condition" with
      | none => rfl
      | some written =>
        simp only
        cases Condition.ofJson? written <;> rfl
  | _ => rfl

/-- An option is skipped, or rejected for its condition, or read with what stands under `Do`, once
the placeholders of its text are filled in. -/
theorem readOption_cases (book : Playbook) (world : World) (key : String) (value : Json) :
    Choice.readOption book world key value = .ok none
      ∨ (∃ reason, Choice.readOption book world key value = .error (.rejected reason))
      ∨ ∃ text action condition, value.field? "Do" = some action
        ∧ Choice.readOption book world key value
          = (book.substitute world text).map fun text => some (⟨key, text, action⟩, condition) := by
  rw [readOption_eq]
  cases value.field? "Do" with
  | none => exact Or.inl rfl
  | some action =>
    cases Choice.condition? value with
    | none => exact Or.inr (Or.inl ⟨_, rfl⟩)
    | some condition => exact Or.inr (Or.inr ⟨_, action, condition, rfl, rfl⟩)

/-- The first option is read, then the others. -/
theorem readOptions_cons (key : String) (value : Json) (rest : Fields Json) :
    Choice.readOptions book world ((key, value) :: rest)
      = (Choice.readOption book world key value).bind fun option =>
          (Choice.readOptions book world rest).map (option.toList ++ ·) := by
  rw [Choice.readOptions]
  cases Choice.readOption book world key value with
  | error fault => rfl
  | ok option =>
    cases Choice.readOptions book world rest with
    | error fault => rfl
    | ok options => cases option <;> rfl

/-- An option that was read runs what stands under `Do`. -/
theorem action_of_readOption {key : String} {value : Json} {option : MenuItem × Condition}
    (h : Choice.readOption book world key value = .ok (some option)) :
    value.field? "Do" = some option.1.action := by
  obtain hskipped | ⟨reason, hrejected⟩ | ⟨text, action, condition, hdo, hread⟩ :=
    readOption_cases book world key value
  · rw [hskipped] at h
    cases h
  · rw [hrejected] at h
    cases h
  · rw [hread] at h
    cases hfill : book.substitute world text with
    | error fault =>
      rw [hfill] at h
      cases h
    | ok filled =>
      rw [hfill] at h
      rw [hdo, ← Option.some.inj (Except.ok.inj h)]

/-- Every option that was read stands in the menu. -/
theorem mem_readOptions {options : Fields Json} {items : List (MenuItem × Condition)}
    (h : Choice.readOptions book world options = .ok items) {option : MenuItem × Condition}
    (hmem : option ∈ items) :
    ∃ value ∈ Fields.values options, value.field? "Do" = some option.1.action := by
  induction options generalizing items with
  | nil =>
    obtain rfl : [] = items := Except.ok.inj h
    cases hmem
  | cons field rest ih =>
    obtain ⟨key, written⟩ := field
    rw [readOptions_cons] at h
    cases hoption : Choice.readOption book world key written with
    | error fault =>
      rw [hoption] at h
      cases h
    | ok first =>
      cases hrest : Choice.readOptions book world rest with
      | error fault =>
        rw [hoption, hrest] at h
        cases h
      | ok more =>
        rw [hoption, hrest] at h
        obtain rfl := Except.ok.inj h
        rcases List.mem_append.1 hmem with hfirst | hmore
        · rw [Option.mem_toList.1 hfirst] at hoption
          exact ⟨written, List.mem_cons_self, action_of_readOption hoption⟩
        · obtain ⟨value, hvalue, hdo⟩ := ih hrest hmore
          exact ⟨value, List.mem_cons_of_mem _ hvalue, hdo⟩

end Options

/-! ## Why a statement cannot be read -/

/-- **Why a statement cannot be read**, unless it is a callback. -/
inductive Fault.OfReading : Fault → Prop
  /-- A placeholder leads nowhere. -/
  | unresolvedPath (path : String) : OfReading (.unresolvedPath path)
  /-- An action refuses it as it is written. -/
  | rejected (reason : String) : OfReading (.rejected reason)
  /-- No action takes it. -/
  | noMatch (statement : String) : OfReading (.noMatch statement)

section Faults

variable {characters : Table Character} {presets : Fields Json} {book : Playbook} {world : World}
  {fault : Fault}

theorem ofReading_of_substitute {line : String} (h : book.substitute world line = .error fault) :
    fault.OfReading := by
  unfold Playbook.substitute at h
  split at h
  · cases h
  · exact Except.error.inj h ▸ .unresolvedPath _

theorem ofReading_of_readOption {key : String} {value : Json}
    (h : Choice.readOption book world key value = .error fault) : fault.OfReading := by
  obtain hskipped | ⟨reason, hrejected⟩ | ⟨text, action, condition, -, hread⟩ :=
    readOption_cases book world key value
  · rw [hskipped] at h
    cases h
  · rw [hrejected] at h
    exact Except.error.inj h ▸ .rejected reason
  · rw [hread] at h
    cases hfill : book.substitute world text with
    | ok filled =>
      rw [hfill] at h
      cases h
    | error other =>
      rw [hfill] at h
      exact Except.error.inj h ▸ ofReading_of_substitute hfill

theorem ofReading_of_readOptions {options : Fields Json}
    (h : Choice.readOptions book world options = .error fault) : fault.OfReading := by
  induction options with
  | nil => cases h
  | cons field rest ih =>
    obtain ⟨key, written⟩ := field
    rw [readOptions_cons] at h
    cases hoption : Choice.readOption book world key written with
    | error other =>
      rw [hoption] at h
      exact Except.error.inj h ▸ ofReading_of_readOption hoption
    | ok first =>
      cases hrest : Choice.readOptions book world rest with
      | error other =>
        rw [hoption, hrest] at h
        obtain rfl : other = fault := Except.error.inj h
        exact ih hrest
      | ok more =>
        rw [hoption, hrest] at h
        cases h

/-- A line fails to be read only for a placeholder in the name of its character. -/
theorem ofReading_of_say {i : Instruction}
    (h : Dialog.say characters book world i = .error fault) : fault.OfReading := by
  unfold Dialog.say at h
  simp only at h
  split at h
  · next character found =>
    cases hname : book.substitute world character.name with
    | ok name =>
      rw [hname] at h
      cases h
    | error other =>
      rw [hname] at h
      exact Except.error.inj h ▸ ofReading_of_substitute hname
  · cases h

theorem ofReading_of_invoke_text {line : String}
    (h : (builtinRegistry characters presets).invoke book world (.text line) = .error fault) :
    fault.OfReading := by
  cases hfill : book.substitute world line with
  | error other =>
    rw [Registry.invoke, hfill] at h
    exact Except.error.inj h ▸ ofReading_of_substitute hfill
  | ok text =>
    rw [invoke_text hfill] at h
    cases hkind : Kind.ofText text with
    | blank =>
      simp only [hkind] at h
      exact Except.error.inj h ▸ .noMatch text
    | line first =>
      simp only [hkind] at h
      cases hsay : Dialog.say characters book world (.ofText (.text line) text) with
      | ok say => simp [hsay, Except.map] at h
      | error other =>
        rw [hsay] at h
        exact Except.error.inj h ▸ ofReading_of_say hsay
    | _ => simp [hkind] at h

theorem ofReading_of_invoke_record {fields : Fields Json}
    (h : (builtinRegistry characters presets).invoke book world (.record fields) = .error fault) :
    fault.OfReading := by
  rw [invoke_record] at h
  split at h
  · unfold Choice.invoke at h
    split at h
    · exact Except.error.inj h ▸ .rejected _
    · next options hoptions =>
      cases hread : Choice.readOptions book world options with
      | ok items => simp [hread, Except.map] at h
      | error other =>
        rw [hread] at h
        exact Except.error.inj h ▸ ofReading_of_readOptions hread
  · exact Except.error.inj h ▸ .noMatch _

/-- **A statement that cannot be read** fails with a fault of reading, unless it is a callback. -/
theorem ofReading_of_invoke {statement : Statement} (hno : ∀ run, statement ≠ .callback run)
    (h : (builtinRegistry characters presets).invoke book world statement = .error fault) :
    fault.OfReading := by
  cases statement with
  | text line => exact ofReading_of_invoke_text h
  | record fields => exact ofReading_of_invoke_record h
  | callback run => exact absurd rfl (hno run)

end Faults

end Narrative
