import Narrative.Proofs.Passage

/-!
# Proofs/Retrace — going back over what was passed

Undoing a link of a passage leads from the place after it to the place before it, one statement at
a time (`Link.back`), and so does going back over a whole passage (`Passage.back`): what was passed
is found again from the stacks alone.  The page is not: it is left again wherever a jump is undone.
At the end of the way the stop before the passage is undone itself (`back_line`, `back_menu`).
-/

namespace Narrative

/-! ## The statement that leads out of a label -/

/-- It begins with the word of a jump. -/
theorem words_jump (target : String) :
    ∃ rest, Text.words ("jump " ++ target) = Jump.keyword :: rest := by
  have hlist : ("jump " ++ target).toList = 'j' :: 'u' :: 'm' :: 'p' :: ' ' :: target.toList := by
    rw [String.toList_append]
    rfl
  have hruns : Text.runs ('j' :: 'u' :: 'm' :: 'p' :: ' ' :: target.toList)
      = ['j', 'u', 'm', 'p'] :: Text.runs (' ' :: target.toList) := rfl
  refine ⟨(Text.runs (' ' :: target.toList)).map String.ofList, ?_⟩
  rw [Text.words, hlist, hruns]
  rfl

/-- It has no opening braces when the label has none. -/
theorem occurs_jump {target : String} (h : Text.occurs Template.openMark target.toList = false) :
    Text.occurs Template.openMark ("jump " ++ target).toList = false := by
  have hlist : ("jump " ++ target).toList = 'j' :: 'u' :: 'm' :: 'p' :: ' ' :: target.toList := by
    rw [String.toList_append]
    rfl
  have hcut : Text.cut? Template.openMark target.toList = none := by
    simpa [Text.occurs] using h
  simpa [hlist, Text.occurs, Text.cut?, Text.dropMark?, Template.openMark] using hcut

/-! ## Undoing a statement that does not wait -/

/-- **A world that was led back** from one world to the place of another: the page is left if a jump
was undone. -/
structure Traced (presets : Fields Json) (jumped : Bool) (origin world after : World) : Prop where
  /-- The place is that of the origin. -/
  place : after.place = origin.place
  /-- The page is left if a jump was undone. -/
  sheet : after.sheet = Sheet.leftIf jumped world.sheet
  /-- The prompt is the same. -/
  prompt : after.prompt = world.prompt
  /-- The world is tidy. -/
  tidy : Tidy presets after

section Undoing

variable {characters : Table Character} {presets : Fields Json} {book : Playbook}
  {origin world : World}

/-- A statement that reads as an invocation is undone by its stages. -/
theorem undo_of_invoke {registry : Registry} {statement : Statement} {invocation : Invocation}
    (h : registry.invoke book world statement = .ok invocation) :
    Rewind.undo book registry statement world = Rewind.stages invocation world := by
  rw [Rewind.undo, h]

section Stages

variable {registry : Registry} {statement : Statement} {invocation : Invocation} {after : World}

/-- **An invocation that can be undone** emits its effects and asks how to go on. -/
theorem stages_eq_didRevert {effects : List Effect} (hallowed : invocation.willRevert = pure ())
    (hrevert : invocation.revert world = .ok effects after) :
    Rewind.stages invocation world = invocation.didRevert (after.emit effects) := by
  rw [Rewind.stages, hallowed]
  show (invocation.revert >>= _) world = _
  simp only [bind, EStateM.bind, hrevert]
  rfl

/-- **An invocation that cannot be undone** fails. -/
theorem stages_eq_error {fault : Fault} (hallowed : invocation.willRevert = pure ())
    (hrevert : invocation.revert world = .error fault after) :
    Rewind.stages invocation world = .error fault after := by
  rw [Rewind.stages, hallowed]
  exact Result.bind_eq_error.2 (Or.inr ⟨(), world, rfl, Result.bind_eq_error.2 (Or.inl hrevert)⟩)

/-- **Undoing a statement that can be undone** emits its effects and asks how to go on. -/
theorem undo_eq_ok {effects : List Effect}
    (h : registry.invoke book world statement = .ok invocation)
    (hallowed : invocation.willRevert = pure ())
    (hrevert : invocation.revert world = .ok effects after) :
    Rewind.undo book registry statement world = invocation.didRevert (after.emit effects) := by
  rw [undo_of_invoke h, stages_eq_didRevert hallowed hrevert]

/-- **Undoing a statement that cannot be undone** fails like it. -/
theorem undo_eq_error {fault : Fault}
    (h : registry.invoke book world statement = .ok invocation)
    (hallowed : invocation.willRevert = pure ())
    (hrevert : invocation.revert world = .error fault after) :
    Rewind.undo book registry statement world = .error fault after := by
  rw [undo_of_invoke h, stages_eq_error hallowed hrevert]

end Stages

theorem undo_next {line text : String} (filled : book.substitute world line = .ok text)
    (kind : Kind.ofText text = .next) :
    Rewind.undo book (builtinRegistry characters presets) (.text line) world
      = .ok .advance world := by
  have hinvoke : (builtinRegistry characters presets).invoke book world (.text line)
      = .ok (Next.invocation book) := by
    rw [invoke_text filled, kind]
  rw [undo_of_invoke hinvoke]
  rfl

/-- The particle statement before the newest one, as undoing finds it. -/
theorem Tidy.previous? (h : Tidy presets world) :
    ((Particles.previous? presets world).map Prod.fst).getD ""
      = ((world.history.entries Particles.stack)[1]?.bind Json.asText?).getD "" := by
  obtain ⟨statements, hstack, heffects, -⟩ := h.running
  unfold Particles.previous?
  rw [hstack, List.getElem?_map]
  cases hsecond : statements[1]? with
  | none => rfl
  | some statement =>
    obtain ⟨effect, heffect⟩ := Option.isSome_iff_exists.1
      (heffects statement (List.mem_of_getElem? hsecond))
    simp [Json.asText?, heffect]

variable (characters) in
/-- **Undoing a particle statement** takes it off its stack and starts the one before it. -/
theorem undo_particles {line text name : String} (filled : book.substitute world line = .ok text)
    (kind : Kind.ofText text = .particles (some name)) (htidy : Tidy presets world) :
    ∃ before effects, Rewind.undo book (builtinRegistry characters presets) (.text line) world
        = .ok .advance (((world.pop Particles.stack).setVar Particles.runningVar
            (.str before)).emit effects)
      ∧ ((world.history.entries Particles.stack)[1]?.bind Json.asText?).getD "" = before := by
  have hinvoke : (builtinRegistry characters presets).invoke book world (.text line)
      = .ok (Particles.invocation presets world (.ofText (.text line) text)) := by
    rw [invoke_text filled, kind]
  rw [undo_of_invoke hinvoke, ← htidy.previous?]
  cases hprevious : Particles.previous? presets world with
  | none =>
    refine ⟨"", [.stopParticles], ?_, rfl⟩
    simp only [Rewind.stages, Particles.invocation, hprevious]
    rfl
  | some previous =>
    refine ⟨previous.1, [.stopParticles, previous.2], ?_, rfl⟩
    simp only [Rewind.stages, Particles.invocation, hprevious]
    rfl

/-- The newest jump, in a world at the place that the jump led to. -/
theorem peek?_entered {target : String}
    (hplace : world.place = (Jump.entered target origin).place) :
    world.history.entries Jump.stack
      = JumpEntry.toJson ⟨origin.cursor.label, target, origin.cursor.step⟩
        :: origin.history.entries Jump.stack := by
  have hne : Jump.stack ≠ Page.stack := by decide
  have hne' : Jump.stack ≠ Jump.labelStack := by decide
  have hentries := congrFun (congrArg Place.entries hplace) Jump.stack
  rw [place_entered] at hentries
  simpa [World.place, hne, hne'] using hentries

/-- **A label that was entered is left by its jump.** -/
theorem target?_entered {target : String}
    (hplace : world.place = (Jump.entered target origin).place) :
    Rewind.target? book (builtinRegistry characters presets) world
      = some (.text ("jump " ++ target)) := by
  have hcursor : world.cursor = Cursor.start target := congrArg Place.cursor hplace
  have hpeek : (world.history.peek? Jump.stack).bind JumpEntry.ofJson?
      = some ⟨origin.cursor.label, target, origin.cursor.step⟩ := by
    rw [History.peek?, peek?_entered hplace, List.head?_cons, Option.bind_some,
      JumpEntry.ofJson?_toJson]
  have hstep : ¬ 1 ≤ world.cursor.step := by
    rw [hcursor]
    exact Nat.not_succ_le_zero 0
  have hlabel : world.cursor.label = target := congrArg Cursor.label hcursor
  rw [Rewind.target?, if_neg hstep, origin?_builtin, Jump.revertOrigin,
    if_neg (by omega : ¬ world.cursor.step ≠ 0), hpeek]
  simp [hlabel]

/-- The world after a jump is undone. -/
def Jump.returned (cursor : Cursor) (world : World) : World :=
  Page.leave (((world.pop Jump.stack).pop Jump.labelStack).moveTo cursor)

@[simp] theorem prompt_returned (cursor : Cursor) (world : World) :
    (Jump.returned cursor world).prompt = world.prompt := by
  simp [Jump.returned]

/-- **Undoing a jump leads back to where it was made.** -/
theorem traced_returned {target : String}
    (hplace : world.place = (Jump.entered target origin).place) (htidy : Tidy presets world)
    (effects : List Effect) :
    Traced presets true origin world ((Jump.returned origin.cursor world).emit effects) := by
  have hjump : Jump.stack ≠ Page.stack := by decide
  have hlabel : Jump.labelStack ≠ Page.stack := by decide
  have hne : Jump.labelStack ≠ Jump.stack := by decide
  refine ⟨?_, ?_, ?_, ?_⟩
  · -- The entries pushed last are those that are popped.
    have hentries : ∀ (entries : String → List Json) (entry name : Json),
        Function.update (Function.update (Function.update (Function.update entries Jump.stack
          (entry :: entries Jump.stack)) Jump.labelStack (name :: entries Jump.labelStack))
            Jump.stack (entries Jump.stack)) Jump.labelStack (entries Jump.labelStack)
          = entries := by
      intro entries entry name
      rw [Function.update_comm hne, Function.update_idem, Function.update_idem,
        Function.update_comm hne.symm, Function.update_eq_self, Function.update_eq_self]
    rw [place_entered] at hplace
    have hreturned : ((Jump.returned origin.cursor world).emit effects).place
        = { origin.place with
            entries := Function.update (Function.update (Function.update (Function.update
              origin.place.entries Jump.stack
                (JumpEntry.toJson ⟨origin.cursor.label, target, origin.cursor.step⟩
                  :: origin.place.entries Jump.stack))
              Jump.labelStack (.str target :: origin.place.entries Jump.labelStack))
              Jump.stack (origin.place.entries Jump.stack))
              Jump.labelStack (origin.place.entries Jump.labelStack) } := by
      simp [Jump.returned, place_pop, hjump, hlabel, hplace, hne, hne.symm, place_cursor]
    rw [hreturned, hentries]
  · simp [Jump.returned, sheet_pop, hjump, hlabel]
  · simp
  · have hparticles : Particles.stack ≠ Jump.stack := by decide
    have hparticles' : Particles.stack ≠ Jump.labelStack := by decide
    exact ((htidy.pop hparticles).pop hparticles').of_eq rfl rfl

variable (characters book) in
/-- **Undoing the jump that led to a label** leads back to where it was made. -/
theorem undo_jump {target : String}
    (unbraced : Text.occurs Template.openMark target.toList = false)
    (hplace : world.place = (Jump.entered target origin).place) (htidy : Tidy presets world) :
    ∃ after, Rewind.undo book (builtinRegistry characters presets) (.text ("jump " ++ target)) world
        = Jump.didRevert book after ∧ Traced presets true origin world after := by
  have filled : book.substitute world ("jump " ++ target) = .ok ("jump " ++ target) := by
    rw [Playbook.substitute, Template.fill_of_unbraced _ _ (occurs_jump unbraced)]
  obtain ⟨rest, hwords⟩ := words_jump target
  have kind : Kind.ofText ("jump " ++ target) = .jump (rest.head?.getD "") := by
    rw [Kind.ofText, hwords]
    rfl
  have hinvoke : (builtinRegistry characters presets).invoke book world (.text ("jump " ++ target))
      = .ok (Jump.invocation book (.ofText (.text ("jump " ++ target)) ("jump " ++ target))) := by
    rw [invoke_text filled, kind]
  have hrevert : Jump.revert world
      = .ok [.clearText] (Jump.returned origin.cursor world) := by
    simp only [Jump.revert, History.peek?, peek?_entered hplace, List.head?_cons,
      JumpEntry.ofJson?_toJson]
    rfl
  exact ⟨_, undo_eq_ok hinvoke rfl hrevert, traced_returned hplace htidy [.clearText]⟩

/-- At a jump, going back goes on. -/
theorem didRevert_jump {line text target : String}
    (here : book.current? world = some (.text line))
    (filled : book.substitute world line = .ok text) (kind : Kind.ofText text = .jump target) :
    Jump.didRevert book world = .ok .advance world := by
  have hfirst : Text.firstWord? text = some Jump.keyword :=
    Kind.firstWord?_eq_keyword_iff.2 ⟨target, kind⟩
  simp only [Jump.didRevert, here, Option.bind_some, Statement.asText?, filled, hfirst, if_true]

/-- At a menu, the menu is run again. -/
theorem didRevert_menu {fields : Fields Json} (here : book.current? world = some (.record fields)) :
    Jump.didRevert book world = .ok .enter world := by
  simp only [Jump.didRevert, here, Option.bind_some, Statement.asText?]

/-! ## Going back over a passage -/

/-- The statement before the cursor is the one to undo. -/
theorem target?_moved {registry : Registry} {statement : Statement}
    (here : book.current? origin = some statement)
    (hcursor : world.cursor = origin.cursor.atStep (origin.cursor.step + 1)) :
    Rewind.target? book registry world = some statement := by
  have hstep : 1 ≤ (origin.cursor.atStep (origin.cursor.step + 1)).step := Nat.le_add_left _ _
  rw [Rewind.target?, hcursor, if_pos hstep]
  exact here

/-- From one step on, going back leads to the step. -/
theorem settle_moved (hcursor : world.cursor = origin.cursor.atStep (origin.cursor.step + 1))
    (after : World) (hsame : after.cursor = world.cursor) :
    Rewind.settle world.cursor after = after.moveTo origin.cursor := by
  rw [Rewind.settle, if_pos ⟨hsame, by rw [hcursor]; exact Nat.le_add_left _ _⟩, hcursor]
  rfl

/-- At the start of a label the cursor is left where it was put. -/
theorem settle_start {after : World} (h : world.cursor.step = 0) :
    Rewind.settle world.cursor after = after := by
  rw [Rewind.settle, if_neg (by omega)]

/-- **A retreat**: going back over this many statements, with what shows left alone. -/
structure Retreat (characters : Table Character) (presets : Fields Json) (book : Playbook)
    (world : World) (count : Nat) (before : World) : Prop where
  /-- The page is the same. -/
  sheet : before.sheet = world.sheet
  /-- The prompt is the same. -/
  prompt : before.prompt = world.prompt
  /-- The world is tidy. -/
  tidy : Tidy presets before
  /-- Going on back from the world goes on from there. -/
  back : ∀ allowed, Rewind.back book (builtinRegistry characters presets) (count + allowed) world
    = Rewind.back book (builtinRegistry characters presets) allowed before

/-- One retreat after another. -/
theorem Retreat.trans {mid before : World} {count more : Nat}
    (first : Retreat characters presets book world count mid)
    (rest : Retreat characters presets book mid more before) :
    Retreat characters presets book world (count + more) before :=
  ⟨rest.sheet.trans first.sheet, rest.prompt.trans first.prompt, rest.tidy, fun allowed => by
    rw [Nat.add_assoc, first.back, rest.back]⟩

/-- **Going back over `next`** leads to the step before. -/
theorem back_next {line text : String} (here : book.current? origin = some (.text line))
    (filled : book.substitute origin line = .ok text) (kind : Kind.ofText text = .next)
    (hcursor : world.cursor = origin.cursor.atStep (origin.cursor.step + 1))
    (hstorage : world.storage = origin.storage) (htidy : Tidy presets world) :
    Retreat characters presets book world 1 (world.moveTo origin.cursor) := by
  rw [← substitute_congr hstorage] at filled
  refine ⟨rfl, rfl, htidy.of_eq rfl rfl, fun allowed => ?_⟩
  rw [Nat.add_comm]
  simp only [Rewind.back, target?_moved here hcursor, undo_next filled kind,
    settle_moved hcursor world rfl]

/-- **Going back over a particle statement** leads to the step before and takes the newest entry off
the stack of particles, whether or not the statement put one there. -/
theorem back_particles {line text name : String} (here : book.current? origin = some (.text line))
    (filled : book.substitute origin line = .ok text)
    (kind : Kind.ofText text = .particles (some name))
    (hcursor : world.cursor = origin.cursor.atStep (origin.cursor.step + 1))
    (hstorage : world.storage = origin.storage) (htidy : Tidy presets world) :
    ∃ before, before.place
        = { world.place with
            cursor := origin.cursor
            entries := Function.update world.place.entries Particles.stack
              (world.place.entries Particles.stack).tail }
      ∧ Retreat characters presets book world 1 before := by
  have hne : Particles.stack ≠ Page.stack := by decide
  rw [← substitute_congr hstorage] at filled
  obtain ⟨previous, effects, hundo, hprevious⟩ := undo_particles characters filled kind htidy
  refine ⟨(((world.pop Particles.stack).setVar Particles.runningVar (.str previous)).emit
    effects).moveTo origin.cursor, ?_, ?_, ?_, (htidy.stop hprevious).of_eq rfl rfl,
    fun allowed => ?_⟩
  · simp [place_pop, hne]
  · simp [sheet_pop, hne]
  · simp
  · rw [Nat.add_comm]
    simp only [Rewind.back, target?_moved here hcursor, hundo]
    exact congrArg (Rewind.back book _ allowed) (settle_moved hcursor _ rfl)

/-- **A link is undone**: going back leads from the place after it to the place before it. -/
theorem Link.back {jumped : Bool} {next : World} (h : Link presets book origin jumped next)
    (hplace : world.place = next.place) (htidy : Tidy presets world) :
    ∃ after, Traced presets jumped origin world after
      ∧ ∀ allowed, Rewind.back book (builtinRegistry characters presets) (1 + allowed) world
          = Rewind.back book (builtinRegistry characters presets) allowed after := by
  have hstorage : world.storage = origin.storage :=
    (congrArg Place.storage hplace).trans h.carried.storage
  cases h with
  | next here filled kind =>
    have hcursor : world.cursor = origin.cursor.atStep (origin.cursor.step + 1) :=
      congrArg Place.cursor hplace
    have retreat : Retreat characters presets book world 1 (world.moveTo origin.cursor) :=
      back_next here filled kind hcursor hstorage htidy
    refine ⟨_, ⟨?_, retreat.sheet, retreat.prompt, retreat.tidy⟩, retreat.back⟩
    rw [place_moveTo, hplace]
    rfl
  | particles here filled kind defined =>
    have hcursor : world.cursor = origin.cursor.atStep (origin.cursor.step + 1) :=
      congrArg Place.cursor hplace
    obtain ⟨before, hbefore, retreat⟩ :=
      back_particles here filled kind hcursor hstorage htidy
    refine ⟨before, ⟨?_, retreat.sheet, retreat.prompt, retreat.tidy⟩, retreat.back⟩
    rw [place_moveTo, place_emit, place_started] at hplace
    rw [hbefore, hplace]
    simp [← place_cursor]
  | jump here filled kind unbraced =>
    obtain ⟨after, hundo, htraced⟩ := undo_jump characters book unbraced hplace htidy
    have hafter : after.storage = origin.storage := congrArg Place.storage htraced.place
    have hcursor : after.cursor = origin.cursor := congrArg Place.cursor htraced.place
    have hstart : world.cursor.step = 0 := congrArg (fun place => place.cursor.step) hplace
    rw [← substitute_congr hafter] at filled
    rw [Playbook.current?, ← hcursor] at here
    refine ⟨after, htraced, fun allowed => ?_⟩
    rw [Nat.add_comm]
    simp only [Rewind.back, target?_entered hplace, hundo, didRevert_jump here filled kind,
      settle_start hstart]

/-- **A passage is undone**, its last link first. -/
theorem Passage.back {count : Nat} {jumped : Bool} {last : World}
    (h : Passage presets book origin count jumped last) (hplace : world.place = last.place)
    (htidy : Tidy presets world) :
    ∃ after, Traced presets jumped origin world after
      ∧ ∀ allowed, Rewind.back book (builtinRegistry characters presets) (count + allowed) world
          = Rewind.back book (builtinRegistry characters presets) allowed after := by
  induction h with
  | rest origin =>
    exact ⟨world, ⟨hplace, rfl, rfl, htidy⟩, fun allowed => by rw [Nat.zero_add]⟩
  | @link origin next last count jumped more first rest ih =>
    obtain ⟨mid, hmid, hrest⟩ := ih hplace
    obtain ⟨after, hafter, hfirst⟩ := first.back hmid.place hmid.tidy
    refine ⟨after, ⟨hafter.place, ?_, hafter.prompt.trans hmid.prompt, hafter.tidy⟩, ?_⟩
    · rw [hafter.sheet, hmid.sheet, Sheet.leftIf_leftIf, Bool.or_comm]
    · intro allowed
      rw [Nat.add_assoc, hrest, hfirst]

/-! ## Undoing a stop -/

/-- A stop reads the same wherever the position and the world data are the same. -/
theorem StopAt.congr {stop : Stop} (h : StopAt characters book origin stop)
    (hcursor : world.cursor = origin.cursor) (hstorage : world.storage = origin.storage) :
    StopAt characters book world stop := by
  cases h with
  | line here filled kind said =>
    refine .line ?_ (substitute_congr hstorage ▸ filled) kind (say_congr hstorage _ ▸ said)
    rwa [Playbook.current?, hcursor]
  | menu here field read =>
    refine .menu ?_ field (readOptions_congr hstorage _ ▸ read)
    rwa [Playbook.current?, hcursor]

/-- A stop reads the same in a world at the same place. -/
theorem StopAt.of_place {stop : Stop} (h : StopAt characters book origin stop)
    (hplace : world.place = origin.place) : StopAt characters book world stop :=
  h.congr (congrArg Place.cursor hplace) (congrArg Place.storage hplace)

end Undoing

/-- **The sheet after a line is undone**: without its last line, with the newest closed page, or
without a page; none if there is no closed page to show again. -/
def Say.unshown? (say : Say) (sheet : Sheet) : Option Sheet :=
  if say.nvl then
    if sheet.showing then some { sheet with lines := sheet.lines.dropLast }
    else sheet.closed.head?.bind fun page =>
      (Line.pageOfJson? page).map fun lines => ⟨true, lines, sheet.closed.tail⟩
  else some (say.shown false true sheet)

section Stops

variable {characters : Table Character} {presets : Fields Json} {book : Playbook}
  {origin world : World} {say : Say}

variable (presets) in
/-- **Undoing a line.** -/
theorem revert_line {sheet : Sheet} (h : say.unshown? world.sheet = some sheet) :
    ∃ effects after, say.invocation.revert world = .ok effects after
      ∧ Redrawn presets say.animate sheet world after := by
  unfold Say.unshown? at h
  by_cases hnvl : say.nvl = true
  · rw [if_pos hnvl] at h
    have hrevert : say.invocation.revert = Say.revertOnPage := if_pos hnvl
    have hshowing : Page.isShowing world = world.sheet.showing := rfl
    have hlines : Page.lines world = world.sheet.lines := rfl
    have hpeek : world.history.peek? Page.stack = world.sheet.closed.head? := rfl
    rw [hrevert]
    simp only [Say.revertOnPage, hshowing, hlines, hpeek]
    split at h
    · next hshows =>
      obtain rfl := Option.some.inj h
      rw [if_pos hshows]
      have hprompt := prompt_setLines world world.sheet.lines.dropLast
      exact ⟨_, _, rfl, rfl, sheet_setLines .., congrArg Prompt.pending hprompt,
        fun _ => (congrArg Prompt.finishedTyping hprompt).trans, fun _ => rfl,
        fun h => h.of_eq rfl rfl⟩
    · next hhidden =>
      obtain ⟨page, hpage, h⟩ := Option.bind_eq_some_iff.1 h
      obtain ⟨lines, hread, rfl⟩ := Option.map_eq_some_iff.1 h
      rw [if_neg hhidden, hpage]
      simp only [hread]
      have hprompt := prompt_display (world.pop Page.stack) lines
      refine ⟨_, _, rfl, ?_, ?_, congrArg Prompt.pending hprompt,
        fun _ => (congrArg Prompt.finishedTyping hprompt).trans, fun hsame => ?_, fun h => ?_⟩
      · simp
      · simp
      · cases hclosed : world.sheet.closed <;> simp_all
      · exact (h.pop (by decide)).of_eq rfl rfl
  · rw [if_neg hnvl] at h
    obtain rfl := Option.some.inj h
    have hrevert : say.invocation.revert = say.display false true := if_neg hnvl
    rw [hrevert]
    exact display_ok presets say false true world

/-- **A line for the page is not undone** when its page is gone and none was closed. -/
theorem revert_line_error (hnone : say.unshown? world.sheet = none)
    (hclosed : world.sheet.closed = []) :
    say.invocation.revert world = .error (.rejected "no NVL page to restore") world := by
  unfold Say.unshown? at hnone
  by_cases hnvl : say.nvl = true
  · rw [if_pos hnvl] at hnone
    have hrevert : say.invocation.revert = Say.revertOnPage := if_pos hnvl
    have hshowing : Page.isShowing world = world.sheet.showing := rfl
    have hpeek : world.history.peek? Page.stack = world.sheet.closed.head? := rfl
    rw [hrevert]
    simp only [Say.revertOnPage, hshowing, hpeek]
    split at hnone
    · cases hnone
    · next hhidden =>
      rw [if_neg hhidden, hclosed]
      rfl
  · rw [if_neg hnvl] at hnone
    cases hnone

/-- A menu that is closed is undone without an effect. -/
theorem revert_menu {options : List (MenuItem × Condition)}
    (hpending : world.prompt.pending = none) :
    (Choice.invocation options).revert world = .ok [] world := by
  have hclosed : Choice.isPending world = false := by
    rw [Choice.isPending]
    exact congrArg Option.isSome hpending
  simp only [Choice.invocation, Choice.revert, hclosed]
  rfl

variable (presets) in
/-- **Running the stop that a world is at** waits there. -/
theorem StopAt.perform {stop : Stop} (h : StopAt characters book world stop) (advance : Bool) :
    ∃ statement after, book.current? world = some statement
      ∧ Run.perform book (builtinRegistry characters presets) statement advance world
        = .ok .wait after
      ∧ Landed presets book.settings.typeAnimation advance stop world after := by
  obtain ⟨statement, here, hno, hinvoke⟩ := h.invoke presets
  obtain ⟨after, hstages, hlanded⟩ := h.stages presets advance world
  refine ⟨statement, after, here, ?_, hlanded⟩
  rw [perform_eq hno, hinvoke world rfl]
  exact hstages

variable (presets) in
/-- **Running the stop that a world is at** ends the chain. -/
theorem StopAt.runHere {stop : Stop} (h : StopAt characters book world stop) (advance : Bool)
    (hchain : 0 < book.settings.maxChain) :
    ∃ after, EStateM.bind (Run.current book)
        (fun statement => Run.run book (builtinRegistry characters presets) statement advance) world
          = .ok () after
      ∧ Landed presets book.settings.typeAnimation advance stop world after := by
  obtain ⟨statement, after, here, hperform, hlanded⟩ := h.perform presets advance
  refine ⟨after, ?_, hlanded⟩
  obtain ⟨left, hleft⟩ := Nat.exists_eq_add_one_of_ne_zero (Nat.ne_of_gt hchain)
  have hcurrent : Run.current book world = .ok statement world := by
    rw [Run.current, here]
  refine Result.bind_eq_ok.2 ⟨statement, world, hcurrent, ?_⟩
  rw [Run.run, hleft]
  exact Result.bind_eq_ok.2 ⟨.wait, after, hperform, rfl⟩

variable (presets) in
/-- **Running a stop again where the game rests.** -/
theorem StopAt.runInPlace {stop : Stop} (h : StopAt characters book world stop)
    (hchain : 0 < book.settings.maxChain) :
    ∃ after, Run.runInPlace book (builtinRegistry characters presets) world = .ok () after
      ∧ Landed presets book.settings.typeAnimation false stop world after :=
  h.runHere presets false hchain

variable (presets) in
/-- **Running a stop where a game begins.** -/
theorem StopAt.runCurrent {stop : Stop} (h : StopAt characters book world stop)
    (hchain : 0 < book.settings.maxChain) :
    ∃ after, Run.runCurrent book (builtinRegistry characters presets) world = .ok () after
      ∧ Landed presets book.settings.typeAnimation true stop world after :=
  h.runHere presets true hchain

variable (presets) in
/-- **Going back to a line** from the statement after it undoes the line. -/
theorem back_line (hat : StopAt characters book origin (.line say))
    (hcursor : world.cursor = origin.cursor.atStep (origin.cursor.step + 1))
    (hstorage : world.storage = origin.storage) {sheet : Sheet}
    (hsheet : say.unshown? world.sheet = some sheet) :
    ∃ shown, Redrawn presets say.animate sheet world shown
      ∧ ∀ allowed, Rewind.back book (builtinRegistry characters presets) (allowed + 1) world
          = .ok () (shown.moveTo origin.cursor) := by
  obtain ⟨statement, here, -, hinvoke⟩ := hat.invoke presets
  obtain ⟨effects, shown, hrevert, hshown⟩ := revert_line presets hsheet
  have hundo : Rewind.undo book (builtinRegistry characters presets) statement world
      = .ok .wait (shown.emit effects) := undo_eq_ok (hinvoke world hstorage) rfl hrevert
  have hsame : (shown.emit effects).cursor = world.cursor := congrArg Place.cursor hshown.place
  refine ⟨shown.emit effects, ⟨hshown.place, hshown.sheet, hshown.pending, hshown.typed,
    hshown.saved, fun h => (hshown.tidy h).of_eq rfl rfl⟩, fun allowed => ?_⟩
  simp only [Rewind.back, target?_moved here hcursor, hundo]
  exact congrArg (EStateM.Result.ok ()) (settle_moved hcursor _ hsame)

/-- **Going back to a line is refused** when its page is gone and none was closed. -/
theorem back_line_error (hat : StopAt characters book origin (.line say))
    (hcursor : world.cursor = origin.cursor.atStep (origin.cursor.step + 1))
    (hstorage : world.storage = origin.storage)
    (hnone : say.unshown? world.sheet = none) (hclosed : world.sheet.closed = [])
    (allowed : Nat) :
    Rewind.back book (builtinRegistry characters presets) (allowed + 1) world
      = .error (.rejected "no NVL page to restore")
          (Rewind.compensate book (builtinRegistry characters presets) world.cursor world) := by
  obtain ⟨statement, here, -, hinvoke⟩ := hat.invoke presets
  have hundo : Rewind.undo book (builtinRegistry characters presets) statement world
      = .error (.rejected "no NVL page to restore") world :=
    undo_eq_error (hinvoke world hstorage) rfl (revert_line_error hnone hclosed)
  simp only [Rewind.back, target?_moved here hcursor, hundo]

/-- **Going back to a menu** from the statement after it runs the menu again. -/
theorem back_menu {options : List (MenuItem × Condition)}
    (hat : StopAt characters book origin (.menu options))
    (hcursor : world.cursor = origin.cursor.atStep (origin.cursor.step + 1))
    (hstorage : world.storage = origin.storage)
    (hpending : world.prompt.pending = none) (allowed : Nat) :
    Rewind.back book (builtinRegistry characters presets) (allowed + 1) world
      = Run.runInPlace book (builtinRegistry characters presets) (world.moveTo origin.cursor) := by
  obtain ⟨statement, here, -, hinvoke⟩ := hat.invoke presets
  have hundo : Rewind.undo book (builtinRegistry characters presets) statement world
      = .ok .enter world := undo_eq_ok (hinvoke world hstorage) rfl (revert_menu hpending)
  simp only [Rewind.back, target?_moved here hcursor, hundo]
  exact congrArg (Run.runInPlace book _) (settle_moved hcursor _ rfl)

end Stops

end Narrative
