import Narrative.Proofs.Resolved
import Narrative.Proofs.Screen.Played
import Narrative.Terminal.Check

/-!
# Proofs/Checked — what checking a story promises

Checking looks at the second word of every command.  It passes over a command without one, which in
play names the empty label or the empty preset, and over a menu that an option opens.  A story
without placeholders that has neither, and in which no problem is found, reports nothing when it is
played, in any language, and no call of the host fails with an unresolved target.
-/

namespace Narrative

/-! ## What checking passes over -/

namespace Terminal

/-- Whether a command that has to name something names nothing. -/
def isBare (command : String) : Bool :=
  Text.words command == [Jump.keyword] || Text.words command == [Particles.keyword]

/-- Whether an option of a menu opens a menu itself. -/
def isNested : Statement → Bool
  | .record fields =>
    match (Fields.get? fields Choice.fieldName).bind Json.asFields? with
    | none => false
    | some options => (Fields.values options).any fun option =>
        ((option.field? "Do").bind Json.asFields?).any (Fields.has · Choice.fieldName)
  | .text _ | .callback _ => false

/-- The statements of all languages. -/
def statementsIn (script : Script) : List Statement := (allLabels script).flatten

/-- The commands of all languages: the texts, and what the options of menus run. -/
def commandsIn (script : Script) : List String := (statementsIn script).flatMap commandsOf

end Terminal

/-! ## A statement without a problem -/

section Statements

variable {presets : Fields Json} {book : Playbook}

/-- **A command without a problem is resolved**, when the labels looked at are there. -/
theorem resolvesText_of_commandProblem? {labels : List String} {place command : String}
    (hlabels : ∀ name ∈ labels, book.hasLabel name = true)
    (closed : Terminal.isOpen command = false) (named : Terminal.isBare command = false)
    (h : Terminal.commandProblem? labels (Fields.keys presets) place command = none) :
    resolvesText presets book command = true := by
  have hclosed : ∀ name ∈ Text.words command, Terminal.isOpen name = false :=
    fun name hname => Text.occurs_of_mem_words hname closed
  have hopen : Text.occurs Template.openMark command.toList = false := closed
  simp only [resolvesText, hopen, Bool.not_false, Bool.true_and]
  cases hkind : Kind.ofText command with
  | jump target =>
    obtain ⟨rest, hwords, hhead⟩ := Kind.words_of_jump hkind
    cases rest with
    | nil => simp [Terminal.isBare, hwords] at named
    | cons name more =>
      obtain rfl : name = target := hhead
      have hname := hclosed name (by simp [hwords])
      simp only [Terminal.commandProblem?, hwords, hname] at h
      exact hlabels name (by simpa using h)
  | particles name =>
    obtain ⟨rest, hwords, hhead⟩ := Kind.words_of_particles hkind
    cases rest with
    | nil => simp [Terminal.isBare, hwords] at named
    | cons first more =>
      obtain rfl : some first = name := hhead
      have hname := hclosed first (by simp [hwords])
      have hkeyword : Particles.keyword ≠ Jump.keyword := by decide
      simp only [Terminal.commandProblem?, hwords, hname, hkeyword] at h
      exact Fields.has_iff_mem_keys.2 (by simpa using h)
  | _ => rfl

/-- **A statement is resolved when its commands are**, unless an option of it opens a menu. -/
theorem resolves_of_commandsOf {statement : Statement} (hno : ∀ run, statement ≠ .callback run)
    (flat : Terminal.isNested statement = false)
    (h : ∀ command ∈ Terminal.commandsOf statement, resolvesText presets book command = true) :
    resolves presets book statement = true := by
  cases statement with
  | text line => exact h line List.mem_cons_self
  | callback run => exact absurd rfl (hno run)
  | record fields =>
    cases hoptions : (Fields.get? fields Choice.fieldName).bind Json.asFields? with
    | none => simp [resolves, hoptions]
    | some options =>
      simp only [Terminal.commandsOf, hoptions] at h
      simp only [Terminal.isNested, hoptions, List.any_eq_false] at flat
      simp only [resolves, hoptions, List.all_eq_true]
      intro option hoption
      cases hdo : option.field? "Do" with
      | none => rfl
      | some action =>
        cases action with
        | str line =>
          exact h line (List.mem_filterMap.2 ⟨option, hoption, by rw [hdo]; rfl⟩)
        | obj inner =>
          have hinner := flat option hoption
          rw [hdo] at hinner
          simpa [Statement.ofJson?, resolvesAlone, Json.asFields?] using hinner
        | _ => rfl

end Statements

/-! ## A story without a problem -/

section Stories

variable {story : Story} {script : Script}

theorem commandProblem?_of_labelProblems {labels presets : List String} {within label : String}
    {step : Nat} {statements : List Statement} {statement : Statement} {command : String}
    (h : Terminal.labelProblems labels presets within label step statements = [])
    (hstatement : statement ∈ statements) (hcommand : command ∈ Terminal.commandsOf statement) :
    ∃ place, Terminal.commandProblem? labels presets place command = none := by
  induction statements generalizing step with
  | nil => cases hstatement
  | cons first rest ih =>
    obtain ⟨hfirst, hrest⟩ := List.append_eq_nil_iff.1 h
    rcases List.mem_cons.1 hstatement with rfl | hstatement
    · exact ⟨_, List.filterMap_eq_nil_iff.1 hfirst command hcommand⟩
    · exact ih hrest hstatement

/-- The labels of every language are looked at. -/
theorem checked_of_labels? {language : String} {labels : Labels}
    (h : script.labels? language = some labels) :
    ∃ checked ∈ Terminal.checkedLanguages script, script.labels? checked = some labels := by
  cases script with
  | single found => exact ⟨"", List.mem_cons_self, h⟩
  | multi languages =>
    refine ⟨language, ?_, h⟩
    exact Fields.has_iff_mem_keys.1 (by rw [Fields.has]; exact Option.isSome_of_eq_some h)

/-- **Every statement of a story without problems is resolved**, in every language, when checking
passes over nothing. -/
theorem resolves_of_problems {book : Playbook} (hbook : book.script = script)
    (callbackless : book.Callbackless)
    (closed : ∀ command ∈ Terminal.commandsIn script, Terminal.isOpen command = false)
    (named : ∀ command ∈ Terminal.commandsIn script, Terminal.isBare command = false)
    (flat : ∀ statement ∈ Terminal.statementsIn script, Terminal.isNested statement = false)
    (checked : Terminal.problems story script = []) {cursor : Cursor} {statement : Statement}
    (here : book.statement? cursor = some statement) :
    resolves story.particles book statement = true := by
  have hno : ∀ run, statement ≠ .callback run := fun run hrun =>
    callbackless cursor run (hrun ▸ here)
  rw [Playbook.statement?, hbook] at here
  obtain ⟨labels, statements, hlabels, hget, hstep⟩ := Script.labels_of_statement? here
  obtain ⟨language, hlanguage, hsame⟩ := checked_of_labels? hlabels
  have hmem : statement ∈ statements := List.mem_of_getElem? hstep
  have hentry : (cursor.label, statements) ∈ labels.entries := Fields.mem_of_get? hget
  have hin : statement ∈ Terminal.statementsIn script := by
    refine List.mem_flatten.2 ⟨statements, List.mem_flatMap.2 ⟨language, hlanguage, ?_⟩, hmem⟩
    rw [hsame]
    exact List.mem_map.2 ⟨_, hentry, rfl⟩
  have hfound : Terminal.languageProblems story script language = [] :=
    List.flatMap_eq_nil_iff.1 checked language hlanguage
  obtain ⟨-, hbody⟩ := List.append_eq_nil_iff.1 hfound
  rw [hsame] at hbody
  refine resolves_of_commandsOf hno (flat statement hin) fun command hcommand => ?_
  have hcommands : command ∈ Terminal.commandsIn script :=
    List.mem_flatMap.2 ⟨statement, hin, hcommand⟩
  obtain ⟨place, hproblem⟩ := commandProblem?_of_labelProblems
    (List.flatMap_eq_nil_iff.1 hbody _ hentry) hmem hcommand
  refine resolvesText_of_commandProblem? (fun name hname => ?_) (closed command hcommands)
    (named command hcommands) hproblem
  -- The names that were looked at are the labels of the language that is played.
  rw [Script.labelNames, hsame] at hname
  rw [Playbook.hasLabel, Playbook.label?, hbook, Script.label?, hlabels]
  exact Fields.has_iff_mem_keys.2 hname

end Stories

/-! ## Runs -/

/-- The game that calls leave, one after the other. -/
def Call.leftAll (calls : List Call) (game : Game) : Game :=
  calls.foldl (fun game call => call.left game) game

/-- The fault that a call fails with, if it does. -/
def Call.fault? : Call → Game → Option Fault
  | start, game => Result.fault? (Game.start game)
  | proceed, game => Result.fault? (Game.proceed game)
  | rollback, game => Result.fault? (Game.rollback game)
  | select key, game => Result.fault? (Game.select key game)
  | finishTyping, _ => none

section Runs

variable {base game other : Game} {R : World → World → Prop} {E : Fault → Prop}

/-- **The faults of a call** are among those that its moves allow. -/
theorem Moves.fault (h : Moves R base.book base.registry E) (halong : Along base R game game)
    {call : Call} {fault : Fault} (hfault : call.fault? game = some fault) : E fault := by
  cases call with
  | start => exact (h.start halong).raised hfault
  | proceed => exact (h.proceed halong).raised hfault
  | rollback => exact (h.rollback halong).raised hfault
  | select key => exact (h.select key halong).raised hfault
  | finishTyping => cases hfault

/-- **Calls keep what their moves keep**, one after the other. -/
theorem Moves.leftAll (h : Moves R base.book base.registry E)
    (hfinish : ∀ ⦃w v⦄, R w v → R (w.withGlobals ({ · with finishedTyping := true }))
      (v.withGlobals ({ · with finishedTyping := true }))) (calls : List Call)
    (halong : Along base R game other) :
    Along base R (Call.leftAll calls game) (Call.leftAll calls other) := by
  induction calls generalizing game other with
  | nil => exact halong
  | cons call calls ih => exact ih (h.call hfinish call halong)

end Runs

section Checked

variable {story : Story} {script : Script} {fresh ready : Game}

/-- **A story that was set up** is played by its own book and the built-in actions, and has neither
reported nor offered anything. -/
theorem sober_setup {preferences : Preferences} (read : story.script? = some script)
    (made : story.gameWith? story.registry = some fresh)
    (setUp : Game.setup (fresh.withPreferences preferences) = .ok () ready) :
    ready.registry = story.registry ∧ ready.book.script = script ∧ ready.book.Callbackless
      ∧ Sober story.particles ready.book ready.world := by
  have callbackless := callbackless_of_gameWith? made preferences
  obtain ⟨found, hfound, rfl⟩ := Option.map_eq_some_iff.1 made
  obtain rfl : found = script := Option.some.inj (hfound.symm.trans read)
  rw [setup_eq rfl] at setUp
  obtain rfl := (EStateM.Result.ok.inj setUp).2
  exact ⟨rfl, rfl, callbackless, rfl, fun item hitem => nomatch hitem⟩

/-- **A checked story reports nothing**, and no call of the host fails with an unresolved target,
whatever was called before.  A particle statement that is rejected for its preset is reported, so
none is.  Beside placeholders, what checking passes over is left out: commands that name nothing,
and menus that options open. -/
theorem resolved_of_checked {preferences : Preferences} (read : story.script? = some script)
    (closed : ∀ command ∈ Terminal.commandsIn script, Terminal.isOpen command = false)
    (named : ∀ command ∈ Terminal.commandsIn script, Terminal.isBare command = false)
    (flat : ∀ statement ∈ Terminal.statementsIn script, Terminal.isNested statement = false)
    (checked : Terminal.problems story script = [])
    (made : story.gameWith? story.registry = some fresh)
    (setUp : Game.setup (fresh.withPreferences preferences) = .ok () ready) (calls : List Call) :
    (Call.leftAll calls ready).world.reports = []
      ∧ ∀ (call : Call) label,
        call.fault? (Call.leftAll calls ready) ≠ some (.unresolvedTarget label) := by
  obtain ⟨hregistry, hscript, callbackless, hsober⟩ := sober_setup read made setUp
  have hmoves : Moves (Invariant (Sober story.particles ready.book)) ready.book ready.registry
      Fault.Resolved := by
    rw [hregistry]
    exact sober_moves fun cursor statement here =>
      resolves_of_problems hscript callbackless closed named flat checked here
  have hplayed : Along ready (Invariant (Sober story.particles ready.book))
      (Call.leftAll calls ready) (Call.leftAll calls ready) := by
    refine hmoves.leftAll ?_ calls ⟨rfl, rfl, rfl, hsober⟩
    rintro w _ ⟨rfl, hw⟩
    exact ⟨rfl, hw.of_eq rfl rfl⟩
  refine ⟨hplayed.world.2.silent, fun call label hfault => ?_⟩
  have hresolved : Fault.Resolved (.unresolvedTarget label) := hmoves.fault hplayed hfault
  cases hresolved

/-! ## A checked story -/

/-- A story in two languages with a menu, a jump and a particle system. -/
def ferryStory : Story :=
  { script := .obj
      [("de", .obj
        [("Start", .arr [.obj [("Choice", .obj
          [("fahren", .obj [("Do", .str "jump Ufer")]), ("warten", .obj [("Do", .str "next")])])],
          .str "Nebel."]),
        ("Ufer", .arr [.str "particles fog", .str "Das andere Ufer."])]),
      ("en", .obj [("Start", .arr [.str "The ferry has left."])])]
    characters := Table.empty
    particles := [("fog", .obj [])]
    storage := []
    settings := { multiLanguage := true } }

/-- The story in its first language, set up. -/
def ferryGame : Game :=
  Result.left (Game.setup (((ferryStory.gameWith? ferryStory.registry).get
    (by decide +kernel)).withPreferences { language := "de" }))

/-- The theorem about taking the ferry and going back. -/
theorem resolved_of_checked_ferry :
    (Call.leftAll [.start, .select "fahren", .rollback] ferryGame).world.reports = []
      ∧ ∀ (call : Call) label,
        call.fault? (Call.leftAll [.start, .select "fahren", .rollback] ferryGame)
          ≠ some (.unresolvedTarget label) := by
  have read : ferryStory.script? = some (ferryStory.script?.get (by decide +kernel)) :=
    (Option.some_get _).symm
  have made : ferryStory.gameWith? ferryStory.registry
      = some ((ferryStory.gameWith? ferryStory.registry).get (by decide +kernel)) :=
    (Option.some_get _).symm
  have setUp : Game.setup (((ferryStory.gameWith? ferryStory.registry).get
      (by decide +kernel)).withPreferences { language := "de" }) = .ok () ferryGame :=
    setup_ok_left rfl
  have closed : (Terminal.commandsIn (ferryStory.script?.get (by decide +kernel))).all
      (fun command => !Terminal.isOpen command) = true := by decide +kernel
  have named : (Terminal.commandsIn (ferryStory.script?.get (by decide +kernel))).all
      (fun command => !Terminal.isBare command) = true := by decide +kernel
  have flat : (Terminal.statementsIn (ferryStory.script?.get (by decide +kernel))).all
      (fun statement => !Terminal.isNested statement) = true := by decide +kernel
  have checked :
      Terminal.problems ferryStory (ferryStory.script?.get (by decide +kernel)) = [] := by
    decide +kernel
  exact resolved_of_checked read
    (fun command hcommand => by simpa using List.all_eq_true.1 closed command hcommand)
    (fun command hcommand => by simpa using List.all_eq_true.1 named command hcommand)
    (fun statement hstatement => by simpa using List.all_eq_true.1 flat statement hstatement)
    checked made setUp [.start, .select "fahren", .rollback]

/-! ## A menu in an option -/

/-- A story whose menu opens another, which jumps to a label that does not exist. -/
def mazeStory : Story :=
  { script := .obj [("Start", .arr [.obj [("Choice", .obj [("a", .obj [("Do",
      .obj [("Choice", .obj [("b", .obj [("Do", .str "jump Nowhere")])])])])])]])]
    characters := Table.empty
    particles := []
    storage := []
    settings := {} }

/-- The story, set up. -/
def mazeGame : Game :=
  Result.left (Game.setup (((mazeStory.gameWith? mazeStory.registry).get
    (by decide +kernel)).withPreferences {}))

/-- **Checking finds no problem in the maze**, which has no placeholder, and the second option
picked leads nowhere. -/
theorem unresolved_of_checked_maze :
    ∃ script, mazeStory.script? = some script ∧ Terminal.problems mazeStory script = []
      ∧ (∀ command ∈ Terminal.commandsIn script, Terminal.isOpen command = false)
      ∧ Call.fault? (.select "b") (Call.leftAll [.start, .select "a"] mazeGame)
        = some (.unresolvedTarget "Nowhere") := by
  have read : mazeStory.script? = some (mazeStory.script?.get (by decide +kernel)) :=
    (Option.some_get _).symm
  have closed : (Terminal.commandsIn (mazeStory.script?.get (by decide +kernel))).all
      (fun command => !Terminal.isOpen command) = true := by decide +kernel
  exact ⟨_, read, by decide +kernel,
    fun command hcommand => by simpa using List.all_eq_true.1 closed command hcommand,
    by decide +kernel⟩

end Checked

end Narrative
