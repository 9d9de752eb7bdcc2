import Narrative.Proofs.LookAlike
import Narrative.Proofs.Place
import Narrative.Proofs.Words

/-!
# Proofs/Stops — what a game rests on

A statement that is run does something to each of the three parts of a look, and the page is where
they differ most (`Say.shown`).  A game rests on a line or a menu (`Stop`): `StopAt` says which one
stands at the position of a world, `Landed` what running it does, and `kindAt?` and `lineAt?` read
it off.
-/

namespace Narrative

/-! ## Statements as functions on worlds -/

/-- The world after a jump. -/
def Jump.entered (target : String) (world : World) : World :=
  (Page.leave ((world.push Jump.stack
    (JumpEntry.toJson ⟨world.cursor.label, target, world.cursor.step⟩)).moveTo
      (Cursor.start target))).push Jump.labelStack (.str target)

/-- The world after a particle statement. -/
def Particles.started (statement : String) (world : World) : World :=
  (world.push Particles.stack (.str statement)).setVar Particles.runningVar (.str statement)

/-- A page that shows: a new one if none does. -/
def Sheet.opened (sheet : Sheet) : Sheet :=
  if sheet.showing then sheet else { sheet with showing := true, lines := [] }

/-- The sheet after a line is put on screen. -/
def Say.shown (say : Say) (keepPage advance : Bool) (sheet : Sheet) : Sheet :=
  if say.voice = .centered then sheet
  else if say.nvl then
    if !advance && sheet.opened.lines.getLast? == some say.line then sheet.opened
    else { sheet.opened with lines := sheet.opened.lines ++ [say.line] }
  else if sheet.showing then
    if keepPage then { sheet.left with closed := Line.pageToJson sheet.lines :: sheet.closed }
    else sheet.left
  else sheet

section Shown

variable {sheet : Sheet} {say : Say}

/-- Without pages a line leaves the sheet alone. -/
theorem Say.shown_of_hidden (hnvl : say.nvl = false) (hhidden : sheet.showing = false)
    (keepPage advance : Bool) : say.shown keepPage advance sheet = sheet := by
  simp [Say.shown, hnvl, hhidden]

/-- A page that opened has the line that was shown on it. -/
theorem Say.shown_onPage (hvoice : say.voice ≠ .centered) (hnvl : say.nvl = true)
    (keepPage : Bool) (sheet : Sheet) :
    say.shown keepPage true sheet
      = { sheet with
          showing := true
          lines := (if sheet.showing then sheet.lines else []) ++ [say.line] } := by
  cases hshowing : sheet.showing <;> simp [Say.shown, hvoice, hnvl, Sheet.opened, hshowing]

/-- A line in place of the page closes it. -/
theorem Say.shown_alone (hvoice : say.voice ≠ .centered) (hnvl : say.nvl = false)
    (keepPage : Bool) (sheet : Sheet) :
    say.shown keepPage true sheet
      = if sheet.showing then
          { sheet.left with
            closed := if keepPage then Line.pageToJson sheet.lines :: sheet.closed
              else sheet.closed }
        else sheet := by
  cases hshowing : sheet.showing <;> cases keepPage <;>
    simp [Say.shown, hvoice, hnvl, hshowing, Sheet.left]

/-- A page that is not kept is not closed. -/
theorem Say.closed_shown (say : Say) (advance : Bool) (sheet : Sheet) :
    (say.shown false advance sheet).closed = sheet.closed := by
  have hopened : sheet.opened.closed = sheet.closed := by
    unfold Sheet.opened
    split <;> rfl
  unfold Say.shown
  split
  · rfl
  split
  · split <;> exact hopened
  · split <;> rfl

end Shown

section Statements

variable {presets : Fields Json} {world : World}

theorem place_entered (target : String) :
    (Jump.entered target world).place
      = { world.place with
          cursor := Cursor.start target
          entries := Function.update
            (Function.update world.place.entries Jump.stack
              (JumpEntry.toJson ⟨world.cursor.label, target, world.cursor.step⟩
                :: world.place.entries Jump.stack))
            Jump.labelStack (.str target :: world.place.entries Jump.labelStack) } := by
  have hjump : Jump.stack ≠ Page.stack := by decide
  have hlabel : Jump.labelStack ≠ Page.stack := by decide
  have hne : Jump.labelStack ≠ Jump.stack := by decide
  simp [Jump.entered, place_push, hjump, hlabel, hne]

theorem sheet_entered (target : String) :
    (Jump.entered target world).sheet = world.sheet.left := by
  have hjump : Jump.stack ≠ Page.stack := by decide
  have hlabel : Jump.labelStack ≠ Page.stack := by decide
  simp [Jump.entered, sheet_push, hjump, hlabel]

@[simp] theorem prompt_entered (target : String) :
    (Jump.entered target world).prompt = world.prompt := by
  simp [Jump.entered]

theorem Tidy.entered (h : Tidy presets world) (target : String) :
    Tidy presets (Jump.entered target world) := by
  refine Tidy.push ?_ (List.mem_cons_of_mem _ List.mem_cons_self) (.str target)
  exact (h.push List.mem_cons_self _).of_eq rfl rfl

theorem place_started (statement : String) :
    (Particles.started statement world).place
      = { world.place with
          entries := Function.update world.place.entries Particles.stack
            (.str statement :: world.place.entries Particles.stack) } := by
  have hne : Particles.stack ≠ Page.stack := by decide
  simp [Particles.started, place_push, hne]

theorem sheet_started (statement : String) :
    (Particles.started statement world).sheet = world.sheet := by
  have hne : Particles.stack ≠ Page.stack := by decide
  simp [Particles.started, sheet_push, hne]

@[simp] theorem prompt_started (statement : String) :
    (Particles.started statement world).prompt = world.prompt := by
  simp [Particles.started]

end Statements

/-! ## Stops -/

/-- **What a game rests on.** -/
inductive Stop where
  /-- A line. -/
  | line (say : Say)
  /-- A menu, with the options that it may offer. -/
  | menu (options : List (MenuItem × Condition))

namespace Stop

/-- The invocation of a stop. -/
def invocation : Stop → Invocation
  | line say => say.invocation
  | menu options => Choice.invocation options

/-- The sheet after a stop. -/
def shown (advance : Bool) : Stop → Sheet → Sheet
  | line say => say.shown true advance
  | menu _ => id

/-- Only a line that takes the screen from a page that shows closes it. -/
theorem closed_shown {sheet : Sheet} (stop : Stop) (advance : Bool)
    (hhidden : ∀ say, stop = line say → say.nvl = false → say.voice ≠ .centered →
      sheet.showing = false) : (stop.shown advance sheet).closed = sheet.closed := by
  cases stop with
  | menu options => rfl
  | line say =>
    show (say.shown true advance sheet).closed = sheet.closed
    have hopened : sheet.opened.closed = sheet.closed := by
      unfold Sheet.opened
      split <;> rfl
    unfold Say.shown
    split
    · rfl
    split
    · split <;> exact hopened
    · next hvoice hnvl => simp [hhidden say rfl (Bool.eq_false_iff.2 hnvl) hvoice]

/-- The line of a stop, if it is one. -/
def say? : Stop → Option Say
  | line say => some say
  | menu _ => none

/-- The options that a stop offers. -/
def items (storage : Storage) : Stop → List MenuItem
  | line _ => []
  | menu options => Choice.visible storage options

/-- The menu that a stop leaves pending. -/
def pending (storage : Storage) : Stop → Option Json
  | line _ => none
  | menu options => some (.arr ((Choice.visible storage options).map MenuItem.toJson))

end Stop

/-- **A world with another sheet**: at the same place, with the same menu, and tidy if it was.  A
line may be typed out on it if `animate`. -/
structure Redrawn (presets : Fields Json) (animate : Bool) (drawn : Sheet) (world after : World) :
    Prop where
  /-- The place is the same. -/
  place : after.place = world.place
  /-- The sheet is this one. -/
  sheet : after.sheet = drawn
  /-- The menu is the same. -/
  pending : after.prompt.pending = world.prompt.pending
  /-- Without animation no line is being typed. -/
  typed : animate = false → world.prompt.finishedTyping = true → after.prompt.finishedTyping = true
  /-- The snapshot is the same, unless the closed pages are not. -/
  saved : drawn.closed = world.sheet.closed → after.snapshot = world.snapshot
  /-- The world is as tidy. -/
  tidy : Tidy presets world → Tidy presets after

section Stops

variable {presets : Fields Json}

/-- A line that is not typed out is all there. -/
theorem Redrawn.typedOut {animate : Bool} {sheet : Sheet} {world after : World}
    (h : Redrawn presets animate sheet world after) :
    Redrawn presets animate sheet world
      (after.withGlobals ({ · with finishedTyping := !animate })) where
  place := h.place
  sheet := h.sheet
  pending := h.pending
  typed hquiet _ := by rw [prompt_typed, hquiet, Bool.not_false]
  saved := h.saved
  tidy htidy := (h.tidy htidy).of_eq rfl rfl

variable (presets) in
/-- The page is opened, unless it shows. -/
theorem redrawn_opened (animate : Bool) (world : World) :
    Redrawn presets animate world.sheet.opened world
      (if (!Page.isShowing world) = true then Page.display world [] else world) := by
  have hshowing : world.sheet.showing = Page.isShowing world := rfl
  unfold Sheet.opened
  rw [hshowing]
  cases Page.isShowing world with
  | true => exact ⟨rfl, rfl, rfl, fun _ => id, fun _ => rfl, id⟩
  | false =>
    have hprompt : (Page.display world []).prompt = world.prompt := prompt_display ..
    exact ⟨place_display .., sheet_display .., congrArg Prompt.pending hprompt,
      fun _ htyped => hprompt ▸ htyped, fun _ => rfl, fun h => h.of_eq rfl rfl⟩

variable (presets) in
theorem displayOnPage_ok (say : Say) (advance : Bool) (world : World) :
    ∃ effects after, say.displayOnPage advance world = .ok effects after
      ∧ Redrawn presets say.animate
          (if !advance && world.sheet.opened.lines.getLast? == some say.line then
            world.sheet.opened
          else { world.sheet.opened with lines := world.sheet.opened.lines ++ [say.line] })
          world after := by
  have hopened := redrawn_opened presets say.animate world
  simp only [Say.displayOnPage]
  generalize (if (!Page.isShowing world) = true then Page.display world [] else world) = opened
    at hopened ⊢
  have hlines : Page.lines opened = world.sheet.opened.lines :=
    congrArg Sheet.lines hopened.sheet
  rw [hlines]
  split
  · exact ⟨_, _, rfl, hopened⟩
  · have hprompt : ∀ lines, (Page.setLines opened lines).prompt = opened.prompt :=
      prompt_setLines opened
    refine ⟨_, _, rfl, Redrawn.typedOut ⟨hopened.place, ?_, ?_, fun hquiet h => ?_, hopened.saved,
      fun h => ?_⟩⟩
    · rw [sheet_setLines, hopened.sheet]
    · rw [hprompt, hopened.pending]
    · rw [hprompt, hopened.typed hquiet h]
    · exact (hopened.tidy h).of_eq rfl rfl

variable (presets) in
theorem displayAlone_ok (say : Say) (keepPage : Bool) (world : World) :
    ∃ effects after, say.displayAlone keepPage world = .ok effects after
      ∧ Redrawn presets say.animate
          (if world.sheet.showing then
            if keepPage then
              { world.sheet.left with
                closed := Line.pageToJson world.sheet.lines :: world.sheet.closed }
            else world.sheet.left
          else world.sheet) world after := by
  have hshowing : Page.isShowing world = world.sheet.showing := rfl
  have hlines : Page.lines world = world.sheet.lines := rfl
  have hprompt : ∀ other : World, (Page.leave other).prompt = other.prompt := prompt_leave
  simp only [Say.displayAlone, hshowing, hlines]
  cases world.sheet.showing with
  | false => exact ⟨_, _, rfl, Redrawn.typedOut ⟨rfl, rfl, rfl, fun _ => id, fun _ => rfl, id⟩⟩
  | true =>
    cases keepPage with
    | false =>
      refine ⟨_, _, rfl, Redrawn.typedOut ⟨place_leave .., sheet_leave .., ?_, fun _ h => ?_,
        fun _ => rfl, fun h => h.of_eq rfl rfl⟩⟩
      · exact congrArg Prompt.pending (hprompt world)
      · exact (congrArg Prompt.finishedTyping (hprompt world)).trans h
    | true =>
      refine ⟨_, _, rfl, Redrawn.typedOut ⟨?_, ?_, ?_, fun _ h => ?_,
        fun h => absurd h (List.cons_ne_self _ _), fun h => ?_⟩⟩
      · simp
      · simp [Sheet.left]
      · exact congrArg Prompt.pending (hprompt _)
      · exact (congrArg Prompt.finishedTyping (hprompt _)).trans h
      · exact (h.push (by simp) _).of_eq rfl rfl

variable (presets) in
/-- **What showing a line does**: no fault, and nothing but to the sheet. -/
theorem display_ok (say : Say) (keepPage advance : Bool) (world : World) :
    ∃ effects after, say.display keepPage advance world = .ok effects after
      ∧ Redrawn presets say.animate (say.shown keepPage advance world.sheet) world after := by
  unfold Say.display Say.shown
  split
  · exact ⟨_, _, rfl, Redrawn.typedOut ⟨rfl, rfl, rfl, fun _ => id, fun _ => rfl, id⟩⟩
  split
  · exact displayOnPage_ok presets say advance world
  · exact displayAlone_ok presets say keepPage world

end Stops

/-! ## Resting -/

/-- **What a world rests on**: the statement at its position, as it reads. -/
inductive StopAt (characters : Table Character) (book : Playbook) (world : World) : Stop → Prop
  | line {line text first : String} {say : Say} (here : book.current? world = some (.text line))
      (filled : book.substitute world line = .ok text) (kind : Kind.ofText text = .line first)
      (said : Dialog.say characters book world (.ofText (.text line) text) = .ok say) :
      StopAt characters book world (.line say)
  | menu {fields options : Fields Json} {items : List (MenuItem × Condition)}
      (here : book.current? world = some (.record fields))
      (field : (Fields.get? fields Choice.fieldName).bind Json.asFields? = some options)
      (read : Choice.readOptions book world options = .ok items) :
      StopAt characters book world (.menu items)

/-- **A world that rests on a stop**, which was run from another world.  A line of it may be typed
out if `animate`. -/
structure Landed (presets : Fields Json) (animate advance : Bool) (stop : Stop)
    (world after : World) : Prop where
  /-- The place is the same. -/
  place : after.place = world.place
  /-- The stop is on the sheet. -/
  sheet : after.sheet = stop.shown advance world.sheet
  /-- The player is waited for with the stop. -/
  pending : world.prompt.pending = none → after.prompt.pending = stop.pending world.storage
  /-- Without animation no line is being typed. -/
  typed : animate = false → world.prompt.finishedTyping = true → after.prompt.finishedTyping = true
  /-- The snapshot is the same, unless the closed pages are not. -/
  saved : (stop.shown advance world.sheet).closed = world.sheet.closed →
    after.snapshot = world.snapshot
  /-- The world is as tidy. -/
  tidy : Tidy presets world → Tidy presets after

section Resting

variable {characters : Table Character} {presets : Fields Json} {book : Playbook} {world : World}

/-- **A line that was read** is said by no character or by one. -/
theorem Dialog.say_cases {i : Instruction} {say : Say}
    (h : Dialog.say characters book world i = .ok say) :
    (∃ first, say = Dialog.plainSay book.settings first i)
      ∨ ∃ character id name expression text,
        say = Dialog.characterSay book.settings character id name expression text := by
  unfold Dialog.say at h
  cases hcharacter : characters.get? (Dialog.splitVoice ((i.word? 0).getD "")).1 with
  | none =>
    simp only [hcharacter, Except.ok.injEq] at h
    exact Or.inl ⟨_, h.symm⟩
  | some character =>
    simp only [hcharacter] at h
    cases hname : book.substitute world character.name with
    | error fault => simp [hname, bind, Except.bind] at h
    | ok name =>
      simp only [hname, bind, Except.bind, pure, Except.pure, Except.ok.injEq] at h
      exact Or.inr ⟨_, _, _, _, _, h.symm⟩

/-- Without animation no line is typed out. -/
theorem animate_of_say {i : Instruction} {say : Say} (hquiet : book.settings.typeAnimation = false)
    (h : Dialog.say characters book world i = .ok say) : say.animate = false := by
  obtain ⟨first, rfl⟩ | ⟨character, id, name, expression, text, rfl⟩ := Dialog.say_cases h
  · unfold Dialog.plainSay
    split <;> simp [hquiet]
  · simp [Dialog.characterSay, hquiet]

/-- A line for the page is not centered. -/
theorem voice_of_nvl {i : Instruction} {say : Say}
    (h : Dialog.say characters book world i = .ok say) (hnvl : say.nvl = true) :
    say.voice ≠ .centered := by
  obtain ⟨first, rfl⟩ | ⟨character, id, name, expression, text, rfl⟩ := Dialog.say_cases h
  · unfold Dialog.plainSay at hnvl ⊢
    split
    · next hcentered => simp [hcentered] at hnvl
    · simp
  · simp [Dialog.characterSay]

variable (presets) in
/-- A stop is invoked as it reads, wherever the storage is the same. -/
theorem StopAt.invoke {stop : Stop} (h : StopAt characters book world stop) :
    ∃ statement, book.current? world = some statement ∧ (∀ run, statement ≠ .callback run)
      ∧ ∀ other : World, other.storage = world.storage →
        (builtinRegistry characters presets).invoke book other statement = .ok stop.invocation := by
  cases h with
  | line here filled kind said =>
    refine ⟨_, here, fun _ => by simp, fun other hstorage => ?_⟩
    rw [← substitute_congr hstorage] at filled
    rw [← say_congr hstorage] at said
    rw [invoke_text filled, kind]
    simp only [said]
    rfl
  | @menu fields options items here field read =>
    refine ⟨_, here, fun _ => by simp, fun other hstorage => ?_⟩
    have hfield : Fields.has fields Choice.fieldName = true := by
      obtain ⟨written, hwritten, -⟩ := Option.bind_eq_some_iff.1 field
      exact Option.isSome_iff_exists.2 ⟨written, hwritten⟩
    rw [← readOptions_congr hstorage] at read
    rw [invoke_record, if_pos hfield]
    simp only [Choice.invoke, Instruction.fields?, Instruction.ofRecord, Statement.asRecord?,
      Option.bind_some, field, read]
    rfl

variable (presets) in
/-- **Running a line** shows it and waits. -/
theorem stages_say (say : Say) (advance : Bool) (start : World) :
    ∃ after, Run.stages say.invocation advance start = .ok .wait after
      ∧ Redrawn presets say.animate (say.shown true advance start.sheet) start after := by
  obtain ⟨effects, after, hdisplay, hafter⟩ := display_ok presets say true advance start
  refine ⟨after.emit effects, ?_, hafter.place, hafter.sheet, hafter.pending, hafter.typed,
    hafter.saved, fun h => (hafter.tidy h).of_eq rfl rfl⟩
  show (say.display true advance >>= _) start = _
  exact Result.bind_eq_ok.2 ⟨effects, after, hdisplay, rfl⟩

variable (presets) in
/-- **Running a stop** waits there. -/
theorem StopAt.stages {stop : Stop} (h : StopAt characters book world stop) (advance : Bool)
    (start : World) :
    ∃ after, Run.stages stop.invocation advance start = .ok .wait after
      ∧ Landed presets book.settings.typeAnimation advance stop start after := by
  cases h with
  | @line line text first say here filled kind said =>
    obtain ⟨after, hstages, hafter⟩ := stages_say presets say advance start
    exact ⟨after, hstages, hafter.place, hafter.sheet, fun h => hafter.pending.trans h,
      fun hquiet => hafter.typed (animate_of_say hquiet said), hafter.saved, hafter.tidy⟩
  | menu here field read =>
    refine ⟨_, rfl, rfl, sheet_offer _ _, fun _ => ?_, fun _ h => h, fun _ => rfl,
      fun h => h.of_eq rfl rfl⟩
    rw [prompt_emit, prompt_offer]
    rfl

end Resting

/-! ## What stands somewhere -/

/-- The kind of the text at a position, if there is a text that can be filled in. -/
def kindAt? (book : Playbook) (world : World) (cursor : Cursor) : Option Kind :=
  match (book.statement? cursor).bind Statement.asText? with
  | none => none
  | some line =>
    match book.substitute world line with
    | .error _ => none
    | .ok text => some (Kind.ofText text)

/-- The line that a world rests on, if it rests on one. -/
def lineAt? (characters : Table Character) (book : Playbook) (world : World) : Option Say :=
  match (book.current? world).bind Statement.asText? with
  | none => none
  | some line =>
    match book.substitute world line with
    | .error _ => none
    | .ok text =>
      match Kind.ofText text, Dialog.say characters book world (.ofText (.text line) text) with
      | .line _, .ok say => some say
      | _, _ => none

section Reading

variable {characters : Table Character} {book : Playbook}
  {world : World} {stop : Stop}

theorem kindAt?_eq {line text : String} (here : book.current? world = some (.text line))
    (filled : book.substitute world line = .ok text) :
    kindAt? book world world.cursor = some (Kind.ofText text) := by
  have hline : (book.statement? world.cursor).bind Statement.asText? = some line := by
    rw [← Playbook.current?, here]
    rfl
  rw [kindAt?, hline]
  simp only [filled]

theorem kindAt?_congr {other : World} (hstorage : other.storage = world.storage)
    (cursor : Cursor) : kindAt? book other cursor = kindAt? book world cursor := by
  simp only [kindAt?, substitute_congr hstorage]

/-- The statement that stands where a text has a kind. -/
theorem statement_of_kindAt? {cursor : Cursor} {kind : Kind}
    (h : kindAt? book world cursor = some kind) :
    ∃ line text, book.statement? cursor = some (.text line)
      ∧ book.substitute world line = .ok text ∧ Kind.ofText text = kind := by
  unfold kindAt? at h
  cases hstatement : book.statement? cursor with
  | none =>
    rw [hstatement] at h
    cases h
  | some statement =>
    cases statement with
    | text line =>
      simp only [hstatement, Option.bind_some, Statement.asText?] at h
      cases filled : book.substitute world line with
      | error fault =>
        rw [filled] at h
        cases h
      | ok text =>
        rw [filled] at h
        exact ⟨line, text, rfl, filled, Option.some.inj h⟩
    | record fields =>
      rw [hstatement] at h
      cases h
    | callback run =>
      rw [hstatement] at h
      cases h

theorem Stop.eq_line {say : Say} (h : stop.say? = some say) : stop = .line say := by
  cases stop with
  | line other => rw [Option.some.inj h]
  | menu options => cases h

/-- **The line of a stop** is the one that its world rests on. -/
theorem StopAt.lineAt?_eq (h : StopAt characters book world stop) :
    lineAt? characters book world = stop.say? := by
  cases h with
  | line here filled kind said =>
    simp only [lineAt?, here, Option.bind_some, Statement.asText?, filled, kind, said, Stop.say?]
  | menu here field read =>
    simp only [lineAt?, here, Option.bind_some, Statement.asText?, Stop.say?]

/-- Where a line can be read off there is a stop. -/
theorem stopAt_of_lineAt? {say : Say} (h : lineAt? characters book world = some say) :
    StopAt characters book world (.line say) := by
  unfold lineAt? at h
  cases hstatement : book.current? world with
  | none =>
    rw [hstatement] at h
    cases h
  | some statement =>
    cases statement with
    | record fields =>
      rw [hstatement] at h
      cases h
    | callback run =>
      rw [hstatement] at h
      cases h
    | text line =>
      simp only [hstatement, Option.bind_some, Statement.asText?] at h
      cases filled : book.substitute world line with
      | error fault =>
        rw [filled] at h
        cases h
      | ok text =>
        simp only [filled] at h
        split at h
        · next first found kind said =>
          obtain rfl := Option.some.inj h
          exact .line hstatement filled kind said
        · cases h

/-- A text that is rested on is a line. -/
theorem StopAt.kind_eq (h : StopAt characters book world stop) {kind : Kind}
    (hkind : kindAt? book world world.cursor = some kind) : ∃ first, kind = .line first := by
  cases h with
  | line here filled line said =>
    rw [kindAt?_eq here filled, line] at hkind
    exact ⟨_, (Option.some.inj hkind).symm⟩
  | menu here field read =>
    have hnone : (book.statement? world.cursor).bind Statement.asText? = none := by
      rw [← Playbook.current?, here]
      rfl
    rw [kindAt?, hnone] at hkind
    cases hkind

end Reading

end Narrative
