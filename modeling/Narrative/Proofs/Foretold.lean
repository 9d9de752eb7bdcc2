import Narrative.Proofs.Driven
import Narrative.Proofs.Deeds

/-!
# Proofs/Foretold — a statement is undone by the action that ran it

Nothing records which action ran a statement; going back fills in its text and reads the words once
more, with the storage of that moment.  The built-in actions look at the first word only.  So a text
whose first word has no placeholder, as it is written, goes to the same action whenever it is read,
and so does a record (`handler?_of_foretold`).  Each action pushes to stacks of its own and pops them
(`Action.stacks`).

What a host continues over, while it writes to the storage as it likes between its calls, is noted in
a diary (`Diary`).  Whatever it then goes back over is undone by the action that ran it, and the
stacks that were pushed to are those popped (`undone_as_run`), unless the first word of the text has
a placeholder: then another action may undo it, and leave an entry behind (`undone_by_another`).
-/

namespace Narrative

/-! ## The action that the script tells -/

/-- **Whether the script tells the action of a statement**: the first word of a text has no opening
braces as it is written. -/
def Statement.foretold : Statement → Bool
  | .text line => (Text.firstWord? line).all fun word => !Text.occurs Template.openMark word.toList
  | _ => true

/-- The action of a statement as it is written. -/
def Registry.written? (registry : Registry) : Statement → Option Action
  | .text line => registry.forWords? (Text.words line)
  | .record fields => registry.forRecord? fields
  | .callback _ => none

section Handlers

variable {characters : Table Character} {presets : Fields Json} {book : Playbook} {world : World}
  {statement : Statement} {action : Action}

/-- The action of a kind of text. -/
def Kind.action? (characters : Table Character) (presets : Fields Json) : Kind → Option Action
  | .blank => none
  | .jump _ => some Jump.action
  | .next => some Next.action
  | .particles _ => some (Particles.action presets)
  | .line _ => some (Dialog.action characters)

/-- **Words go to the action of their kind.** -/
theorem forWords?_eq (words : List String) :
    (builtinRegistry characters presets).forWords? words
      = (Kind.ofWords words).action? characters presets := by
  cases words with
  | nil => rfl
  | cons first rest =>
    unfold Kind.ofWords
    by_cases hjump : first = Jump.keyword
    · simp [Registry.forWords?, builtinRegistry, Jump.action, Kind.action?, hjump]
    by_cases hnext : first = Next.keyword
    · subst hnext
      rfl
    by_cases hparticles : first = Particles.keyword
    · subst hparticles
      rfl
    · simp [Registry.forWords?, builtinRegistry, Jump.action, Next.action, Particles.action,
        Choice.action, Dialog.action, Kind.action?, hjump, hnext, hparticles]

/-- **The first word decides.** -/
theorem forWords?_congr {first second : List String} (h : first.head? = second.head?) :
    (builtinRegistry characters presets).forWords? first
      = (builtinRegistry characters presets).forWords? second := by
  rw [forWords?_eq, forWords?_eq]
  cases first with
  | nil =>
    obtain rfl := List.head?_eq_none_iff.1 h.symm
    rfl
  | cons word rest =>
    obtain ⟨more, rfl⟩ := List.head?_eq_some_iff.1 h.symm
    simp only [Kind.ofWords]
    repeat' split
    all_goals rfl

/-- A text goes to the action of its kind. -/
theorem handler?_text {line text : String} (filled : book.substitute world line = .ok text) :
    (builtinRegistry characters presets).handler? book world (.text line)
      = (Kind.ofText text).action? characters presets := by
  simp only [Registry.handler?, filled]
  exact forWords?_eq _

/-- **A statement whose action the script tells goes to that action**, whatever the storage. -/
theorem handler?_of_foretold (foretold : statement.foretold = true)
    (handled : (builtinRegistry characters presets).handler? book world statement = some action) :
    (builtinRegistry characters presets).written? statement = some action := by
  cases statement with
  | text line =>
    cases hfill : book.substitute world line with
    | error fault => simp [Registry.handler?, hfill] at handled
    | ok text =>
      simp only [Registry.handler?, hfill] at handled
      have hfilled : Template.fill world.storage book.settings.unresolved line = .ok text := by
        unfold Playbook.substitute at hfill
        split at hfill
        · next found hfound => rw [hfound, Except.ok.inj hfill]
        · cases hfill
      have hfirst : Text.firstWord? text = Text.firstWord? line :=
        Template.firstWord?_of_fill hfilled fun word hword => by
          simpa [Statement.foretold, hword] using foretold
      rw [← handled]
      exact forWords?_congr hfirst.symm
  | record fields => exact handled
  | callback run => exact handled

/-- The script tells the action of a jump to any label. -/
theorem foretold_jump (label : String) : (Statement.text ("jump " ++ label)).foretold = true := by
  obtain ⟨rest, hwords⟩ := words_jump label
  have hword : Text.occurs Template.openMark Jump.keyword.toList = false := by decide
  rw [Statement.foretold, Text.firstWord?, hwords, List.head?_cons, Option.all_some, hword]
  rfl

/-- **A jump goes to the action of jumps.** -/
theorem handler?_jump {label : String}
    (handled : (builtinRegistry characters presets).handler? book world
      (.text ("jump " ++ label)) = some action) : action = Jump.action := by
  have hwritten := handler?_of_foretold (foretold_jump label) handled
  obtain ⟨rest, hwords⟩ := words_jump label
  rw [Registry.written?, hwords, forWords?_eq] at hwritten
  exact (Option.some.inj hwritten).symm

end Handlers

/-! ## The stacks of an action -/

/-- **The stacks that an action pushes to and pops.** -/
def Action.stacks (action : Action) : List String :=
  if action.id = "jump" then [Jump.stack, Jump.labelStack]
  else if action.id = "particles" then [Particles.stack]
  else if action.id = "dialog" then [Page.stack]
  else []

/-- **What running a statement does to the stacks**: those of other actions keep their entries, and
once a statement other than a line has been run, each stack of its action has one entry more. -/
structure Action.Pushed (action : Action) (world : World) (result : EStateM.Result Fault World Flow) :
    Prop where
  /-- The stacks of other actions. -/
  others : ∀ stack, stack ∉ action.stacks →
    (Result.left result).history.entries stack = world.history.entries stack
  /-- The stacks of the action. -/
  own : ∀ flow after, result = .ok flow after → action.id ≠ "dialog" → ∀ stack ∈ action.stacks,
    ∃ entry, after.history.entries stack = entry :: world.history.entries stack

/-- **What undoing a statement does to the stacks**: those of other actions keep their entries, and
once a statement other than a line has been undone, each stack of its action has one entry less. -/
structure Action.Popped (action : Action) (world : World) (result : EStateM.Result Fault World Flow) :
    Prop where
  /-- The stacks of other actions. -/
  others : ∀ stack, stack ∉ action.stacks →
    (Result.left result).history.entries stack = world.history.entries stack
  /-- The stacks of the action. -/
  own : ∀ flow after, result = .ok flow after → action.id ≠ "dialog" → ∀ stack ∈ action.stacks,
    after.history.entries stack = (world.history.entries stack).tail

section Stacks

variable {characters : Table Character} {presets : Fields Json} {book : Playbook} {world : World}
  {statement : Statement} {action : Action} {result : EStateM.Result Fault World Flow}

@[simp] theorem stacks_jump : Jump.action.stacks = [Jump.stack, Jump.labelStack] := rfl

@[simp] theorem stacks_next : Next.action.stacks = [] := rfl

@[simp] theorem stacks_choice : Choice.action.stacks = [] := rfl

@[simp] theorem stacks_particles : (Particles.action presets).stacks = [Particles.stack] := rfl

@[simp] theorem stacks_dialog : (Dialog.action characters).stacks = [Page.stack] := rfl

/-- A record goes to the action of menus. -/
theorem handler?_record {fields : Fields Json}
    (handled : (builtinRegistry characters presets).handler? book world (.record fields)
      = some action) : action = Choice.action := by
  have hfound : (builtinRegistry characters presets).forRecord? fields = some action := handled
  simp only [Registry.forRecord?, builtinRegistry, List.find?, Jump.action, Next.action,
    Particles.action, Dialog.action] at hfound
  split at hfound
  · exact (Option.some.inj hfound).symm
  · cases hfound

/-- The action of a text, by its kind. -/
theorem action_of_kind {line text : String} {kind : Kind}
    (handled : (builtinRegistry characters presets).handler? book world (.text line) = some action)
    (filled : book.substitute world line = .ok text) (hkind : Kind.ofText text = kind) :
    kind.action? characters presets = some action := by
  rw [handler?_text filled, hkind] at handled
  exact handled

/-- **What an action pushes, stack by stack**: an entry on each of its own, and nothing else. -/
theorem Action.Pushed.of_entries (entry : String → Json)
    (hentries : ∀ stack, (Result.left result).history.entries stack
      = if stack ∈ action.stacks then entry stack :: world.history.entries stack
        else world.history.entries stack) :
    action.Pushed world result where
  others stack hstack := (hentries stack).trans (if_neg hstack)
  own flow after hok _ stack hstack := by
    subst hok
    exact ⟨entry stack, (hentries stack).trans (if_pos hstack)⟩

/-- **What an action pops, stack by stack**: an entry of each of its own, and nothing else. -/
theorem Action.Popped.of_entries
    (hentries : ∀ stack, (Result.left result).history.entries stack
      = if stack ∈ action.stacks then (world.history.entries stack).tail
        else world.history.entries stack) :
    action.Popped world result where
  others stack hstack := (hentries stack).trans (if_neg hstack)
  own flow after hok _ stack hstack := by
    subst hok
    exact (hentries stack).trans (if_pos hstack)

/-- An action without stacks pushes to none. -/
theorem Action.Pushed.of_no_stacks (hstacks : action.stacks = [])
    (hsame : ∀ stack, (Result.left result).history.entries stack = world.history.entries stack) :
    action.Pushed world result :=
  .of_entries (fun _ => .null) fun stack => by rw [hsame, hstacks, if_neg List.not_mem_nil]

/-- An action without stacks pops none. -/
theorem Action.Popped.of_no_stacks (hstacks : action.stacks = [])
    (hsame : ∀ stack, (Result.left result).history.entries stack = world.history.entries stack) :
    action.Popped world result :=
  .of_entries fun stack => by rw [hsame, hstacks, if_neg List.not_mem_nil]

/-- What a jump pushes. -/
theorem Jump.entries_entered (target : String) (world : World) (stack : String) :
    (Jump.entered target world).history.entries stack
      = if stack ∈ Jump.action.stacks then
          (if stack = Jump.labelStack then .str target
            else JumpEntry.toJson ⟨world.cursor.label, target, world.cursor.step⟩)
            :: world.history.entries stack
        else world.history.entries stack := by
  show ((world.history.push Jump.stack _).push Jump.labelStack _).entries stack = _
  have hne : Jump.labelStack ≠ Jump.stack := by decide
  by_cases hlabel : stack = Jump.labelStack
  · simp [hlabel, hne]
  by_cases hjump : stack = Jump.stack
  · simp [hjump, hne.symm]
  · simp [hlabel, hjump]

/-- What a jump pops when it is undone, with whatever that reports. -/
theorem Jump.entries_didRevert (book : Playbook) (source : Cursor) (world : World)
    (effects : List Effect) (stack : String) :
    (Result.left (Jump.didRevert book ((Jump.returned source world).emit effects))).history.entries
        stack
      = if stack ∈ Jump.action.stacks then (world.history.entries stack).tail
        else world.history.entries stack := by
  rw [left_didRevert]
  show ((world.history.pop Jump.stack).pop Jump.labelStack).entries stack = _
  have hne : Jump.labelStack ≠ Jump.stack := by decide
  by_cases hlabel : stack = Jump.labelStack
  · simp [hlabel, hne]
  by_cases hjump : stack = Jump.stack
  · simp [hjump, hne.symm]
  · simp [hlabel, hjump]

/-- **Running a statement pushes to the stacks of its action.** -/
theorem Ran.pushed {advance : Bool}
    (h : Ran characters presets book world advance statement result)
    (handled : (builtinRegistry characters presets).handler? book world statement = some action) :
    action.Pushed world result := by
  cases h with
  | unread fault => exact ⟨fun _ _ => rfl, fun _ _ hok => nomatch hok⟩
  | refused fault report => exact ⟨fun _ _ => rfl, fun _ _ hok => nomatch hok⟩
  | @jumped line text target filled kind label =>
    obtain rfl := Option.some.inj (action_of_kind handled filled kind)
    exact .of_entries _ (Jump.entries_entered target world)
  | passed onward filled kind =>
    obtain rfl := Option.some.inj (action_of_kind handled filled kind)
    exact .of_no_stacks rfl fun _ => rfl
  | stepped inPlace filled kind =>
    obtain rfl := Option.some.inj (action_of_kind handled filled kind)
    refine .of_no_stacks rfl fun stack => ?_
    show (Next.step book world).history.entries stack = world.history.entries stack
    unfold Next.step
    split <;> rfl
  | @started line text name effects filled kind defined =>
    obtain rfl := Option.some.inj (action_of_kind handled filled kind)
    refine .of_entries (fun _ => .str (Text.trim text)) fun stack =>
      (History.entries_push ..).trans ?_
    by_cases hstack : stack = Particles.stack <;> simp [hstack]
  | @shown line text first say effects after filled kind said shows =>
    obtain rfl := Option.some.inj (action_of_kind handled filled kind)
    refine ⟨fun stack hstack => ?_, fun _ _ _ hdialog => absurd rfl hdialog⟩
    obtain ⟨-, hplace, -⟩ := kept_of_display shows
    exact entries_of_place (by simpa using hstack) hplace
  | offered effects field read =>
    obtain rfl := handler?_record handled
    exact .of_no_stacks rfl fun _ => rfl

/-- **Undoing a statement pops the stacks of its action.** -/
theorem Undone.popped (h : Undone characters presets book world statement result)
    (handled : (builtinRegistry characters presets).handler? book world statement = some action) :
    action.Popped world result := by
  cases h with
  | unread fault => exact ⟨fun _ _ => rfl, fun _ _ hok => nomatch hok⟩
  | lost newest unread filled kind =>
    -- The entry of the jump is taken, that of the label stays: nothing is said of those two stacks.
    obtain rfl := Option.some.inj (action_of_kind handled filled kind)
    refine ⟨fun stack hstack => ?_, fun _ _ hok => nomatch hok⟩
    show (world.history.pop Jump.stack).entries stack = _
    simp only [stacks_jump, List.mem_cons, List.not_mem_nil, or_false, not_or] at hstack
    rw [History.entries_pop, if_neg hstack.1]
  | @returned line value entry effects newest read text target filled kind =>
    obtain rfl := Option.some.inj (action_of_kind handled filled kind)
    exact .of_entries (Jump.entries_didRevert book ⟨entry.source, entry.step⟩ world effects)
  | passed filled kind =>
    obtain rfl := Option.some.inj (action_of_kind handled filled kind)
    exact .of_no_stacks rfl fun _ => rfl
  | stopped previous effects filled kind before =>
    obtain rfl := Option.some.inj (action_of_kind handled filled kind)
    refine .of_entries fun stack => (History.entries_pop ..).trans ?_
    by_cases hstack : stack = Particles.stack <;> simp [hstack]
  | shown filled kind said undoes =>
    obtain rfl := Option.some.inj (action_of_kind handled filled kind)
    refine ⟨fun stack hstack => ?_, fun _ _ _ hdialog => absurd rfl hdialog⟩
    obtain ⟨-, hplace, -⟩ := kept_of_undone undoes
    exact entries_of_place (by simpa using hstack) hplace
  | closed =>
    obtain rfl := handler?_record handled
    refine .of_no_stacks rfl fun stack => ?_
    show (Choice.hide world).history.entries stack = world.history.entries stack
    unfold Choice.hide
    split <;> rfl

end Stacks

/-! ## Where statements are run and undone -/

section Visits

variable (book : Playbook) (registry : Registry)

/-- **The worlds in which a chain runs a statement**, at most `allowed` of them. -/
def Run.visits : Nat → World → List World
  | 0, _ => []
  | allowed + 1, world =>
    match book.current? world with
    | none => []
    | some statement =>
      world :: match Run.perform book registry statement true world with
        | .ok .advance after => visits allowed (Next.step book after)
        | .ok .enter after => visits allowed after
        | _ => []

/-- **The worlds in which going back undoes a statement**, at most `allowed` of them. -/
def Rewind.visits : Nat → World → List World
  | 0, _ => []
  | allowed + 1, world =>
    match target? book registry world with
    | none => []
    | some statement =>
      world :: match undo book registry statement world with
        | .ok .advance after => visits allowed (settle world.cursor after)
        | _ => []

variable {book registry}

/-- **Going back undoes a statement wherever it visits**, and if it succeeds, then by an action. -/
theorem handled_of_visits {allowed : Nat} {world now : World}
    (h : now ∈ Rewind.visits book registry allowed world) :
    ∃ statement, Rewind.target? book registry now = some statement
      ∧ ∀ after, Rewind.back book registry allowed world = .ok () after →
          (registry.handler? book now statement).isSome = true := by
  induction allowed generalizing world with
  | zero => cases h
  | succ allowed ih =>
    rw [Rewind.visits] at h
    unfold Rewind.back
    cases htarget : Rewind.target? book registry world with
    | none =>
      rw [htarget] at h
      cases h
    | some statement =>
      simp only [htarget] at h ⊢
      cases hundo : Rewind.undo book registry statement world with
      | error fault left =>
        simp only [hundo, List.mem_singleton] at h
        subst h
        refine ⟨statement, htarget, fun after hback => ?_⟩
        cases hback
      | ok flow left =>
        rcases List.mem_cons.1 h with rfl | h
        · exact ⟨statement, htarget, fun after _ => handled_of_undo hundo⟩
        · simp only [hundo] at h ⊢
          cases flow with
          | advance => exact ih h
          | wait => cases h
          | enter => cases h

end Visits

/-- The worlds in which continuing runs a statement. -/
def Game.proceedVisits (game : Game) : List World :=
  match Game.canProceed game with
  | .ok true asked =>
    Run.visits asked.book asked.registry asked.book.settings.maxChain
      (Next.step asked.book asked.world)
  | _ => []

/-- The worlds in which going back undoes a statement. -/
def Game.rollbackVisits (game : Game) : List World :=
  match Game.canRevert game with
  | .ok true asked =>
    Rewind.visits asked.book asked.registry asked.book.settings.maxChain asked.world
  | _ => []

/-! ## The diary of a host -/

/-- **What was continued over so far**, while the host wrote to the storage between its calls.  The
diary holds the worlds in which continuing ran a statement; the script may be any. -/
inductive Diary (story : Story) (book : Playbook) : List World → Game → Prop
  | begin {game : Game} (script : game.book = book) (actions : game.registry = story.registry) :
      Diary story book [] game
  | proceed {log : List World} {game : Game} (diary : Diary story book log game) :
      Diary story book (log ++ game.proceedVisits) (Call.proceed.left game)
  | call {log : List World} {game : Game} (diary : Diary story book log game) (call : Call) :
      Diary story book log (call.left game)
  | write {log : List World} {game : Game} (diary : Diary story book log game)
      (change : Storage → Storage) :
      Diary story book log
        (game.withWorld fun world => { world with storage := change world.storage })
  | reset {log : List World} {game : Game} (diary : Diary story book log game) :
      Diary story book log (Result.left (Game.reset game))
  | load {σ : Type} [Store σ] {log : List World} {game : Game} (diary : Diary story book log game)
      (store : σ) (key : String) : Diary story book log (Result.left (Game.loadFromSlot store key game))

/-- A world at a statement, and a world that going back goes over it from. -/
def World.Before (past now : World) : Prop :=
  ∃ step, now.cursor.step = step + 1 ∧ past.cursor = now.cursor.atStep step

/-- **A statement is undone by the action that ran it**, which pops what it pushed. -/
structure UndoneAsRun (book : Playbook) (registry : Registry) (log : List World) (now : World)
    (statement : Statement) (action : Action) : Prop where
  /-- Undoing it pops the stacks of the action. -/
  popped : action.Popped now (Rewind.undo book registry statement now)
  /-- What leads out of a label is undone as the jump that entered it. -/
  jump : now.cursor.step = 0 → action = Jump.action
    ∧ ∃ entry, (now.history.peek? Jump.stack).bind JumpEntry.ofJson? = some entry
      ∧ entry.target = now.cursor.label
  /-- Wherever it was run, it was run by the action, which pushed to its stacks. -/
  ran : ∀ past ∈ log, past.Before now → book.current? past = some statement
    ∧ ∀ flow after, Run.perform book registry statement true past = .ok flow after →
        registry.handler? book past statement = some action
          ∧ action.Pushed past (.ok flow after)

section Diary

variable {story : Story} {book : Playbook} {log : List World} {game : Game}

/-- **The script and the actions are the same all along.** -/
theorem Diary.parts (h : Diary story book log game) :
    game.book = book ∧ game.registry = story.registry := by
  have along : ∀ {game after : Game}, game.book = book ∧ game.registry = story.registry →
      after.fixed = game.fixed → after.book = book ∧ after.registry = story.registry :=
    fun h hfixed => ⟨(congrArg Prod.fst hfixed).trans h.1, (congrArg (·.2.1) hfixed).trans h.2⟩
  induction h with
  | begin script actions => exact ⟨script, actions⟩
  | proceed diary ih => exact along ih (fixed_call ih.2 .proceed)
  | call diary call ih => exact along ih (fixed_call ih.2 call)
  | write diary change ih => exact ih
  | reset diary ih =>
    rw [reset_eq ih.2]
    exact ih
  | load diary store key ih =>
    cases hread : Game.readSlot store key with
    | error fault =>
      rw [Game.loadFromSlot, hread]
      exact ih
    | ok slot =>
      rw [loadFromSlot_eq ih.2 hread]
      exact along ih (fixed_ofPlay _)

/-- What was run was run by an action, if it was no callback. -/
theorem handled_of_perform {statement : Statement} {advance : Bool} {world after : World}
    {flow : Flow} (hno : ∀ run, statement ≠ .callback run)
    (h : Run.perform book story.registry statement advance world = .ok flow after) :
    (story.registry.handler? book world statement).isSome = true := by
  rw [perform_eq hno] at h
  cases hinvoke : story.registry.invoke book world statement with
  | error fault =>
    rw [hinvoke] at h
    cases h
  | ok invocation =>
    obtain ⟨action, -, hfound, -⟩ := handler?_of_invoke hinvoke
    rw [hfound]
    rfl

/-- **Going over one statement**: the action that undoes it is the one that ran it. -/
theorem undoneAsRun {now : World} {statement : Statement} {action : Action}
    (htarget : Rewind.target? book story.registry now = some statement)
    (foretold : statement.foretold = true)
    (handled : story.registry.handler? book now statement = some action) :
    UndoneAsRun book story.registry log now statement action := by
  have hno : ∀ run, statement ≠ .callback run := by
    rintro run rfl
    cases handled
  refine ⟨(undone hno now).popped handled, fun hstart => ?_, fun past hpast hbefore => ?_⟩
  · obtain ⟨entry, hentry, hentered, rfl⟩ := target?_of_start htarget hstart
    exact ⟨handler?_jump handled, entry, hentry, hentered⟩
  · obtain ⟨step, hstep, hcursor⟩ := hbefore
    have hcurrent : book.current? past = some statement := by
      rw [Rewind.target?, if_pos (by omega), hstep, Nat.add_sub_cancel, ← hcursor] at htarget
      exact htarget
    refine ⟨hcurrent, fun flow after hperform => ?_⟩
    obtain ⟨executor, hexecutor⟩ := Option.isSome_iff_exists.1 (handled_of_perform hno hperform)
    obtain rfl : executor = action := Option.some.inj
      ((handler?_of_foretold foretold hexecutor).symm.trans (handler?_of_foretold foretold handled))
    exact ⟨hexecutor, hperform ▸ (ran hno true past).pushed hexecutor⟩

/-- **What was run is what is undone**, even if the storage changes: each statement that a rollback
goes back over is undone by the action that ran it, and if the rollback succeeds, by one, as long as
the first word of the statement has no placeholder in the script. -/
theorem undone_as_run (h : Diary story book log game) {now : World}
    (visited : now ∈ game.rollbackVisits) :
    ∃ statement, Rewind.target? book story.registry now = some statement
      ∧ (∀ after, Game.rollback game = .ok true after →
          (story.registry.handler? book now statement).isSome = true)
      ∧ ∀ action, story.registry.handler? book now statement = some action →
          statement.foretold = true →
            UndoneAsRun book story.registry log now statement action := by
  obtain ⟨rfl, hactions⟩ := h.parts
  have hopen : game.world.globals.gatesOpen = true := by
    by_contra hclosed
    rw [Game.rollbackVisits, canRevert_eq hactions, if_neg hclosed] at visited
    cases visited
  rw [Game.rollbackVisits, canRevert_eq hactions, if_pos hopen] at visited
  obtain ⟨statement, htarget, hhandled⟩ := handled_of_visits visited
  have htarget : Rewind.target? game.book game.registry now = some statement := htarget
  rw [hactions] at htarget
  refine ⟨statement, htarget, fun after hrollback => ?_, fun action handled foretold =>
    undoneAsRun htarget foretold handled⟩
  rw [rollback_eq hactions hopen] at hrollback
  obtain ⟨world, hback, -⟩ := ofPlay_eq_ok.1 (granted_eq_ok_true.1 hrollback)
  have hhandled : (game.registry.handler? game.book now statement).isSome = true :=
    hhandled world hback
  rwa [hactions] at hhandled

end Diary

/-! ## Changes of the weather -/

/-- A story with a statement between two lines, and the weather in its storage. -/
def weatherStory (statement weather : String) : Story :=
  { script := .obj [("Start", .arr [.str "A", .str statement, .str "B"])]
    characters := Table.empty
    particles := [("snow", .obj []), ("rain", .obj [])]
    storage := [("weather", .str weather)]
    settings := { typeAnimation := false } }

/-- The weather changes. -/
def Game.withWeather (game : Game) (weather : String) : Game :=
  game.withWorld fun world => { world with storage := world.storage.set "weather" (.str weather) }

/-- A story that starts the particle system of the weather. -/
def driftStory : Story := weatherStory "particles \x7b\x7bweather\x7d\x7d" "snow"

/-- The story, set up. -/
def driftReady : Game :=
  Result.left (Game.setup (((driftStory.gameWith? driftStory.registry).get
    (by decide +kernel)).withPreferences {}))

/-- The story at its first line. -/
def driftStarted : Game := Call.start.left driftReady

/-- The story at its second line, once the weather has changed. -/
def driftChanged : Game := (Call.proceed.left driftStarted).withWeather "rain"

/-- Continuing is noted, and then the weather changes. -/
theorem Diary.weather {story : Story} {book : Playbook} {log : List World} {game : Game}
    (h : Diary story book log game) (weather : String) :
    Diary story book (log ++ game.proceedVisits) ((Call.proceed.left game).withWeather weather) :=
  h.proceed.write (·.set "weather" (.str weather))

theorem diary_driftChanged :
    Diary driftStory driftReady.book ([] ++ driftStarted.proceedVisits) driftChanged := by
  have hready : driftReady.IsOf driftStory {} :=
    ⟨_, _, (Option.some_get _).symm, setup_ok_left rfl, rfl⟩
  exact ((Diary.begin rfl hready.registry).call .start).weather "rain"

/-- Where the story is as its second statement is run, and as it is undone. -/
theorem visits_drift :
    (∃ past ∈ driftStarted.proceedVisits, past.cursor = ⟨"Start", 1⟩)
      ∧ ∃ now ∈ driftChanged.rollbackVisits, now.cursor = ⟨"Start", 2⟩
        ∧ ((Rewind.target? driftReady.book driftStory.registry now).map Statement.foretold)
            = some true := by
  have hpast : driftStarted.proceedVisits.any (fun past => past.cursor = ⟨"Start", 1⟩) = true := by
    decide +kernel
  have hnow : driftChanged.rollbackVisits.any (fun now => now.cursor = ⟨"Start", 2⟩
      ∧ ((Rewind.target? driftReady.book driftStory.registry now).map Statement.foretold)
          = some true) = true := by
    decide +kernel
  simpa [List.any_eq_true] using And.intro hpast hnow

/-- The theorem about the way back over the system that was started. -/
theorem undone_as_run_drift :
    Diary driftStory driftReady.book ([] ++ driftStarted.proceedVisits) driftChanged
      ∧ ∃ past ∈ driftStarted.proceedVisits, ∃ now ∈ driftChanged.rollbackVisits, past.Before now
        ∧ ∃ statement action,
            Rewind.target? driftReady.book driftStory.registry now = some statement
              ∧ UndoneAsRun driftReady.book driftStory.registry
                  ([] ++ driftStarted.proceedVisits) now statement action := by
  obtain ⟨⟨past, hpast, hcursor⟩, now, hnow, hhere, hforetold⟩ := visits_drift
  obtain ⟨statement, htarget, hhandled, hundone⟩ := undone_as_run diary_driftChanged hnow
  have hrollback : Result.answer? (Game.rollback driftChanged) = some true := by decide +kernel
  obtain ⟨action, haction⟩ := Option.isSome_iff_exists.1 (hhandled _ (Result.eq_ok hrollback))
  rw [htarget] at hforetold
  exact ⟨diary_driftChanged, past, hpast, now, hnow, ⟨1, by rw [hhere], by rw [hcursor, hhere]; rfl⟩,
    statement, action, htarget, hundone action haction (Option.some.inj hforetold)⟩

/-- A story whose second statement is the weather. -/
def gustStory : Story := weatherStory "\x7b\x7bweather\x7d\x7d" "particles snow"

/-- The story, set up. -/
def gustReady : Game :=
  Result.left (Game.setup (((gustStory.gameWith? gustStory.registry).get
    (by decide +kernel)).withPreferences {}))

/-- The story at its first line. -/
def gustStarted : Game := Call.start.left gustReady

/-- The story at its second line, once the weather has changed. -/
def gustChanged : Game := (Call.proceed.left gustStarted).withWeather "next"

/-- **Another action undoes the statement**: what started a particle system is passed over as if it
had only gone on, and the system stays. -/
theorem undone_by_another :
    (∃ book log, Diary gustStory book log gustChanged
      ∧ ∃ past ∈ log, ∃ now ∈ gustChanged.rollbackVisits, past.Before now
        ∧ ((book.current? past).bind (gustStory.registry.handler? book past)).map Action.id
            = some "particles"
        ∧ ((Rewind.target? book gustStory.registry now).bind
            (gustStory.registry.handler? book now)).map Action.id = some "next")
      ∧ gustStarted.world.history.entries Particles.stack = []
      ∧ (Call.rollback.left gustChanged).cursor = gustStarted.cursor
      ∧ (Call.rollback.left gustChanged).world.history.entries Particles.stack ≠ [] := by
  have hready : gustReady.IsOf gustStory {} :=
    ⟨_, _, (Option.some_get _).symm, setup_ok_left rfl, rfl⟩
  have hdiary : Diary gustStory gustReady.book ([] ++ gustStarted.proceedVisits) gustChanged :=
    ((Diary.begin rfl hready.registry).call .start).weather "next"
  have hpast : gustStarted.proceedVisits.any (fun past => past.cursor = ⟨"Start", 1⟩
      ∧ ((gustReady.book.current? past).bind
          (gustStory.registry.handler? gustReady.book past)).map Action.id = some "particles")
      = true := by
    decide +kernel
  have hnow : gustChanged.rollbackVisits.any (fun now => now.cursor = ⟨"Start", 2⟩
      ∧ ((Rewind.target? gustReady.book gustStory.registry now).bind
          (gustStory.registry.handler? gustReady.book now)).map Action.id = some "next")
      = true := by
    decide +kernel
  obtain ⟨past, hmem, hpast⟩ := List.any_eq_true.1 hpast
  obtain ⟨now, hvisited, hnow⟩ := List.any_eq_true.1 hnow
  obtain ⟨hcursor, hran⟩ := of_decide_eq_true hpast
  obtain ⟨hhere, hundone⟩ := of_decide_eq_true hnow
  refine ⟨⟨gustReady.book, _, hdiary, past, hmem, now, hvisited, ⟨1, by rw [hhere], ?_⟩, hran,
    hundone⟩, by decide +kernel, by decide +kernel, by decide +kernel⟩
  rw [hcursor, hhere]
  rfl

end Narrative
