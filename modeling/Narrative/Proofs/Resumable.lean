import Narrative.Proofs.Checked
import Narrative.Proofs.Keeping
import Narrative.Proofs.Picked

/-!
# Proofs/Resumable — worlds that a slot holds all of

A slot holds the history, the state and the storage.  In a story without pages and without menus
inside menus, in which nothing is typed out, the rest of a world is always the same: the page is
empty, no flag is set, and a menu waits only if it is that of the statement at the cursor
(`Resumable`).  Every call keeps a world so (`keeps_resumable`).

Running the statement at the cursor then gives back what the slot does not hold, the waiting menu
(`Resumable.perform_look`).
-/

namespace Narrative

/-! ## The frame of a world -/

/-- **What all worlds of such a story have in common.** -/
structure Frame where
  /-- The world data. -/
  storage : Storage
  /-- Which stacks exist. -/
  exist : String → Bool
  /-- Whether the page shows. -/
  showing : Bool
  /-- The lines on the page. -/
  page : List Line
  /-- Whether the text of the last line is all there. -/
  finishedTyping : Bool
  /-- Whether a callback runs. -/
  block : Bool
  /-- Whether the text box is hidden. -/
  distractionFree : Bool

/-- The frame of a look. -/
def Look.frame (look : Look) : Frame where
  storage := look.storage
  exist := fun name => (look.history name).isSome
  showing := look.showing
  page := look.page
  finishedTyping := look.finishedTyping
  block := look.block
  distractionFree := look.distractionFree

/-- The frame of a world. -/
def World.frame (world : World) : Frame := world.look.frame

/-- The names of the stacks of the built-in actions. -/
def stackNames : List String := [Jump.stack, Jump.labelStack, Particles.stack, Page.stack]

/-- **The frame with nothing in it** but the stacks and the world data. -/
def Frame.bare (storage : Storage) : Frame :=
  ⟨storage, fun name => stackNames.contains name, false, [], true, false, false⟩

/-- Worlds with one frame differ in what a slot holds, in the menu, and in whether a game is in
progress. -/
theorem look_eq_of_frame {w v : World} (hframe : w.frame = v.frame) (hstate : w.state = v.state)
    (hhistory : w.history = v.history) :
    w.look = { v.look with playing := w.look.playing, pending := w.look.pending } := by
  have hstorage : w.look.storage = v.look.storage := congrArg Frame.storage hframe
  have hblock : w.look.block = v.look.block := congrArg Frame.block hframe
  have hfree : w.look.distractionFree = v.look.distractionFree :=
    congrArg Frame.distractionFree hframe
  have htyped : w.look.finishedTyping = v.look.finishedTyping :=
    congrArg Frame.finishedTyping hframe
  have hshowing : w.look.showing = v.look.showing := congrArg Frame.showing hframe
  have hpage : w.look.page = v.look.page := congrArg Frame.page hframe
  have hstateLook : w.look.state = v.look.state := hstate
  have hhistoryLook : w.look.history = v.look.history := congrArg History.get? hhistory
  show w.look = ⟨v.look.state, v.look.history, v.look.storage, v.look.block, w.look.playing,
    v.look.distractionFree, v.look.finishedTyping, v.look.showing, v.look.page, w.look.pending⟩
  rw [← hstorage, ← hblock, ← hfree, ← htyped, ← hshowing, ← hpage, ← hstateLook, ← hhistoryLook]

section Frames

variable (world : World)

@[simp] theorem frame_close : (Choice.close world).frame = world.frame := by
  simp [World.frame, Look.frame]

@[simp] theorem frame_offer (menu : Json) :
    (world.withGlobals (·.set Choice.pendingKey menu)).frame = world.frame := by
  simp [World.frame, Look.frame]

/-- A stack may shrink. -/
@[simp] theorem frame_pop (name : String) : (world.pop name).frame = world.frame := by
  have hexists : ∀ other, (Function.update world.look.history name
      ((world.look.history name).map List.tail) other).isSome
        = (world.look.history other).isSome := by
    intro other
    rw [Function.update_apply]
    split
    · next heq => rw [heq, Option.isSome_map]
    · rfl
  simp [World.frame, Look.frame, hexists]

end Frames

section Bare

variable {world : World} {storage : Storage}

theorem bare_of_parts (hstorage : world.storage = storage)
    (hexist : ∀ name, (world.history.get? name).isSome = true ↔ name ∈ stackNames)
    (hsheet : world.sheet.showing = false ∧ world.sheet.lines = [])
    (htyped : world.prompt.finishedTyping = true)
    (hflags : world.globals.block = false ∧ world.globals.distractionFree = false) :
    world.frame = .bare storage := by
  have hexists : (fun name => (world.history.get? name).isSome)
      = fun name => stackNames.contains name := by
    funext name
    rw [Bool.eq_iff_iff, hexist, List.contains_iff_mem]
  have hframe : world.frame = ⟨world.storage, fun name => (world.history.get? name).isSome,
      world.sheet.showing, world.sheet.lines, world.prompt.finishedTyping, world.globals.block,
      world.globals.distractionFree⟩ := rfl
  rw [hframe, hstorage, hexists, hsheet.1, hsheet.2, htyped, hflags.1, hflags.2]
  rfl

/-- A stack that exists may grow. -/
theorem bare_push (h : world.frame = .bare storage) {name : String} (hname : name ∈ stackNames)
    (entry : Json) : (world.push name entry).frame = .bare storage := by
  have hexists : (world.look.history name).isSome = true := by
    have hbare : world.frame.exist name = stackNames.contains name :=
      congrFun (congrArg Frame.exist h) name
    exact hbare.trans (List.contains_iff_mem.2 hname)
  have hsame : ∀ other, (Function.update world.look.history name
      (some (entry :: (world.look.history name).getD [])) other).isSome
        = (world.look.history other).isSome := by
    intro other
    rw [Function.update_apply]
    split
    · next heq =>
      rw [heq]
      exact hexists.symm
    · rfl
  rw [← h]
  simp [World.frame, Look.frame, hsame]

/-- Leaving a page that does not show changes nothing. -/
theorem bare_leave (h : world.frame = .bare storage) :
    (Page.leave world).frame = .bare storage := by
  have hshowing : world.look.showing = false := congrArg Frame.showing h
  have hpage : world.look.page = [] := congrArg Frame.page h
  rw [← h]
  simp [World.frame, Look.frame, hshowing, hpage]

/-- Nothing is being typed. -/
theorem bare_typed (h : world.frame = .bare storage) :
    (world.withGlobals ({ · with finishedTyping := true })).frame = .bare storage := by
  have htyped : world.look.finishedTyping = true := congrArg Frame.finishedTyping h
  rw [← h]
  simp [World.frame, Look.frame, htyped]

end Bare

/-! ## Stories whose worlds a slot holds -/

/-- **A story without pages and without menus inside menus**, in which nothing is typed out. -/
structure Unpaged (characters : Table Character) (storage : Storage) (book : Playbook) : Prop where
  /-- No statement is a callback. -/
  callbackless : book.Callbackless
  /-- No line is for the page. -/
  unpaged : ∀ world : World, world.storage = storage →
    book.statements.all (unpaged characters book world) = true
  /-- No option opens a menu. -/
  flat : ∀ statement ∈ book.statements, Terminal.isNested statement = false
  /-- Nothing is typed out. -/
  quiet : book.settings.typeAnimation = false

/-- **A world that a slot holds all of**, but for the menu of the statement at the cursor. -/
structure Resumable (characters : Table Character) (storage : Storage) (book : Playbook)
    (world : World) : Prop where
  /-- There is nothing else in the world. -/
  frame : world.frame = .bare storage
  /-- The one variable is that of the running particle system. -/
  vars : ∃ value, world.state.vars = [(Particles.runningVar, value)]
  /-- A menu that waits is that of the statement at the cursor. -/
  menu : ∀ kept, world.prompt.pending = some kept → ∃ options,
    StopAt characters book world (.menu options)
      ∧ kept = .arr ((Choice.visible world.storage options).map MenuItem.toJson)

section Resumable

variable {characters : Table Character} {presets : Fields Json} {storage : Storage}
  {book : Playbook} {world other : World}

/-- A line that is not for the page is only shown, while no page shows. -/
theorem Say.display_of_hidden {say : Say} (hnvl : say.nvl = false)
    (hhidden : Page.isShowing world = false) (keepPage advance : Bool) :
    say.display keepPage advance world
      = .ok [say.effect] (world.withGlobals ({ · with finishedTyping := !say.animate })) := by
  unfold Say.display
  split
  · rfl
  · rw [if_neg (Bool.eq_false_iff.1 hnvl)]
    unfold Say.displayAlone
    rw [if_neg (Bool.eq_false_iff.1 hhidden)]
    rfl

namespace Resumable

theorem data (h : Resumable characters storage book world) : world.storage = storage :=
  congrArg Frame.storage h.frame

theorem hidden (h : Resumable characters storage book world) : Page.isShowing world = false :=
  congrArg Frame.showing h.frame

/-- While a text is at the cursor no menu waits. -/
theorem pending_of_text (h : Resumable characters storage book world) {line : String}
    (here : book.current? world = some (.text line)) : world.prompt.pending = none := by
  rw [Option.eq_none_iff_forall_ne_some]
  intro kept hkept
  obtain ⟨options, hat, -⟩ := h.menu kept hkept
  cases hat with
  | menu hrecord field read =>
    rw [here] at hrecord
    cases hrecord

/-- Another world with the same frame, and with no other menu. -/
theorem congr (h : Resumable characters storage book world) (hframe : other.frame = .bare storage)
    (hvars : ∃ value, other.state.vars = [(Particles.runningVar, value)])
    (hpending : other.prompt.pending = none
      ∨ other.prompt.pending = world.prompt.pending ∧ other.cursor = world.cursor) :
    Resumable characters storage book other where
  frame := hframe
  vars := hvars
  menu kept hkept := by
    have hstorage : other.storage = world.storage :=
      (congrArg Frame.storage hframe).trans h.data.symm
    obtain hnone | ⟨hsame, hcursor⟩ := hpending
    · rw [hnone] at hkept
      cases hkept
    · obtain ⟨options, hat, hmenu⟩ := h.menu kept (hsame ▸ hkept)
      exact ⟨options, hat.congr hcursor hstorage, hstorage ▸ hmenu⟩

/-- Effects wait for the host. -/
theorem emit (h : Resumable characters storage book world) (effects : List Effect) :
    Resumable characters storage book (world.emit effects) :=
  h.congr h.frame h.vars (Or.inr ⟨rfl, rfl⟩)

/-- Nothing is being typed. -/
theorem typed (h : Resumable characters storage book world) :
    Resumable characters storage book (world.withGlobals ({ · with finishedTyping := true })) :=
  h.congr (bare_typed h.frame) h.vars (Or.inr ⟨rfl, rfl⟩)

/-- A stack of the built-in actions grows. -/
theorem push (h : Resumable characters storage book world) {name : String}
    (hname : name ∈ stackNames) (entry : Json) :
    Resumable characters storage book (world.push name entry) :=
  h.congr (bare_push h.frame hname entry) h.vars (Or.inr ⟨rfl, rfl⟩)

/-- A stack shrinks. -/
theorem pop (h : Resumable characters storage book world) (name : String) :
    Resumable characters storage book (world.pop name) :=
  h.congr ((frame_pop world name).trans h.frame) h.vars (Or.inr ⟨rfl, rfl⟩)

/-- Another particle system runs. -/
theorem setRunning (h : Resumable characters storage book world) (text : String) :
    Resumable characters storage book (world.setVar Particles.runningVar (.str text)) := by
  obtain ⟨value, hvars⟩ := h.vars
  have hset : (world.setVar Particles.runningVar (.str text)).state.vars
      = [(Particles.runningVar, .str text)] := by
    show Fields.insert world.state.vars _ _ = _
    rw [hvars]
    simp [Fields.insert]
  exact h.congr h.frame ⟨_, hset⟩ (Or.inr ⟨rfl, rfl⟩)

/-- The particle system is started again. -/
theorem resume (h : Resumable characters storage book world) (presets : Fields Json) :
    Resumable characters storage book (Particles.resume presets world) := h.emit _

/-- The menu is closed. -/
theorem close (h : Resumable characters storage book world) :
    Resumable characters storage book (Choice.close world) :=
  h.congr ((frame_close world).trans h.frame) h.vars (Or.inl (pending_close world))

/-- The menu is closed, if one is open. -/
theorem hide (h : Resumable characters storage book world) :
    Resumable characters storage book (Choice.hide world) := by
  unfold Choice.hide
  split
  · exact h.close.emit _
  · exact h

/-- While no menu waits, the cursor may move. -/
theorem moveTo (h : Resumable characters storage book world)
    (hpending : world.prompt.pending = none) (cursor : Cursor) :
    Resumable characters storage book (world.moveTo cursor) :=
  h.congr h.frame h.vars (Or.inl hpending)

/-- A jump moves the cursor and leaves no page. -/
theorem entered (h : Resumable characters storage book world)
    (hpending : world.prompt.pending = none) (target : String) :
    Resumable characters storage book (Jump.entered target world) := by
  have hnone : (Jump.entered target world).prompt.pending = none := by
    rw [prompt_entered, hpending]
  have hpushed := h.push (by decide : Jump.stack ∈ stackNames)
    (JumpEntry.toJson ⟨world.cursor.label, target, world.cursor.step⟩)
  have hmoved := hpushed.moveTo hpending (Cursor.start target)
  exact h.congr (bare_push (bare_leave hmoved.frame) (by decide) _) h.vars (Or.inl hnone)

/-- So does undoing one. -/
theorem returned (h : Resumable characters storage book world)
    (hpending : world.prompt.pending = none) (cursor : Cursor) :
    Resumable characters storage book (Jump.returned cursor world) := by
  have hnone : (Jump.returned cursor world).prompt.pending = none := by
    rw [prompt_returned, hpending]
  have hmoved := ((h.pop Jump.stack).pop Jump.labelStack).moveTo hpending cursor
  exact h.congr (bare_leave hmoved.frame) h.vars (Or.inl hnone)

/-- **Running a statement keeps a world so**: a text that has no use for the page, while no menu
waits, and the record at the cursor. -/
theorem ran (h : Resumable characters storage book world)
    (hquiet : book.settings.typeAnimation = false) {statement : Statement} {advance : Bool}
    {result : EStateM.Result Fault World Flow}
    (hran : Ran characters presets book world advance statement result)
    (htext : ∀ line, statement = .text line →
      world.prompt.pending = none ∧ forPage characters book world line = false)
    (hrecord : ∀ fields, statement = .record fields → Fields.has fields Choice.fieldName = true →
      book.current? world = some (.record fields)) :
    Kept (Resumable characters storage book) result := by
  refine hran.kept (fun line hline => (htext line hline).1) ?_
  cases hran with
  | unread fault => exact h
  | refused fault report => exact h.congr h.frame h.vars (Or.inr ⟨rfl, rfl⟩)
  | @jumped line text target filled kind label =>
    exact (h.entered (htext _ rfl).1 target).emit [.clearText]
  | passed onward => exact h
  | stepped inPlace =>
    show Resumable characters storage book (Next.step book world)
    unfold Next.step
    split
    · exact h.moveTo (htext _ rfl).1 _
    · exact h
  | @started line text name effects filled kind defined =>
    have hstarted : Resumable characters storage book
        (Particles.started (Text.trim text) world) :=
      (h.push (by decide) _).setRunning _
    exact hstarted.emit effects
  | shown filled kind said shows =>
    obtain ⟨hpending, hpage⟩ := htext _ rfl
    rw [Say.display_of_hidden (nvl_of_forPage hpage filled kind said) h.hidden,
      animate_of_say hquiet said] at shows
    obtain ⟨-, rfl⟩ := EStateM.Result.ok.inj shows
    exact h.typed.emit _
  | @offered fields options items effects field read =>
    have hfield : Fields.has fields Choice.fieldName = true := by
      obtain ⟨written, hwritten, -⟩ := Option.bind_eq_some_iff.1 field
      exact Option.isSome_iff_exists.2 ⟨written, hwritten⟩
    have here := hrecord fields rfl hfield
    refine ⟨(frame_offer ..).trans h.frame, h.vars, fun kept hkept => ?_⟩
    have hoffered : (some (Json.arr ((Choice.visible world.storage items).map MenuItem.toJson)))
        = some kept := (congrArg Prompt.pending (prompt_offer world _)).symm.trans hkept
    exact ⟨items, (StopAt.menu here field read).congr rfl rfl, (Option.some.inj hoffered).symm⟩

/-- **Undoing a statement keeps a world so**, while no menu waits. -/
theorem undone (h : Resumable characters storage book world)
    (hquiet : book.settings.typeAnimation = false) (hpending : world.prompt.pending = none)
    {statement : Statement} {result : EStateM.Result Fault World Flow}
    (hundone : Undone characters presets book world statement result)
    (htext : ∀ line, statement = .text line → forPage characters book world line = false) :
    KeptBack (Resumable characters storage book) world.cursor result := by
  refine hundone.kept hpending (fun _ hleft hnone cursor => hleft.moveTo hnone cursor) ?_ _
  cases hundone with
  | unread fault => exact h
  | lost newest unread => exact h.pop Jump.stack
  | returned effects newest read =>
    rw [left_didRevert]
    exact (h.returned hpending _).emit effects
  | passed => exact h
  | stopped previous effects filled kind before =>
    exact ((h.pop Particles.stack).setRunning previous).emit effects
  | @shown line text first say result filled kind said undoes =>
    have hnvl := nvl_of_forPage (htext _ rfl) filled kind said
    have hrevert : say.invocation.revert world
        = .ok [say.effect] (world.withGlobals ({ · with finishedTyping := true })) := by
      rw [show say.invocation.revert = say.display false true from if_neg (by rw [hnvl]; simp),
        Say.display_of_hidden hnvl h.hidden, animate_of_say hquiet said]
      rfl
    obtain rfl := (stages_eq_didRevert rfl hrevert).symm.trans undoes
    exact h.typed.emit _
  | closed => exact h.hide

end Resumable

/-- A jump that leads out of a label is no line, however its label is filled in. -/
theorem forPage_jump (label : String) :
    forPage characters book world ("jump " ++ label) = false := by
  unfold forPage
  cases filled : book.substitute world ("jump " ++ label) with
  | error fault => rfl
  | ok text =>
    obtain ⟨more, rfl⟩ : ∃ more, text = "jump " ++ more := by
      unfold Playbook.substitute at filled
      cases hfill : Template.fill world.storage book.settings.unresolved ("jump " ++ label) with
      | error path =>
        rw [hfill] at filled
        cases filled
      | ok found =>
        rw [hfill] at filled
        obtain rfl := Except.ok.inj filled
        exact Template.prefix_of_fill (by decide) hfill
    obtain ⟨rest, hwords⟩ := words_jump more
    have kind : Kind.ofText ("jump " ++ more) = .jump (rest.head?.getD "") := by
      rw [Kind.ofText, hwords, Kind.ofWords, if_pos rfl]
    simp only [kind]

/-- **An option that is offered** opens no menu. -/
theorem not_menu_of_visible
    (hflat : ∀ statement ∈ book.statements, Terminal.isNested statement = false)
    {options : List (MenuItem × Condition)} (hat : StopAt characters book world (.menu options))
    {item : MenuItem} (hitem : item ∈ Choice.visible world.storage options)
    {fields : Fields Json} (hdo : item.action = .obj fields) :
    Fields.has fields Choice.fieldName = false := by
  cases hat with
  | @menu menu written items here field read =>
    obtain ⟨option, hoption, rfl⟩ := List.mem_map.1 hitem
    obtain ⟨value, hvalue, haction⟩ := mem_readOptions read (List.mem_filter.1 hoption).1
    have hmenu := hflat _ (Playbook.mem_statements here)
    simp only [Terminal.isNested, field] at hmenu
    have hnested := List.any_eq_false.1 hmenu value hvalue
    rw [haction, hdo] at hnested
    simpa [Json.asFields?] using hnested

/-- An option is offered by the menu at the cursor. -/
theorem Resumable.visible (h : Resumable characters storage book world) {item : MenuItem}
    (hitem : item ∈ Choice.offered world) :
    ∃ options, StopAt characters book world (.menu options)
      ∧ item ∈ Choice.visible world.storage options := by
  obtain ⟨kept, hkept⟩ := pending_of_offered world hitem
  obtain ⟨options, hat, rfl⟩ := h.menu kept hkept
  have hwaits : world.globals.get? Choice.pendingKey
      = some (.arr ((Choice.visible world.storage options).map MenuItem.toJson)) := hkept
  rw [Choice.offered, hwaits] at hitem
  exact ⟨options, hat, by simpa using hitem⟩

/-- **Every call keeps a world so.** -/
theorem keeps_resumable (h : Unpaged characters storage book) :
    Keeps (Resumable characters storage book) characters presets book where
  perform world statement hworld here advance := by
    have hno : ∀ run, statement ≠ .callback run := fun run hrun =>
      h.callbackless _ run (hrun ▸ here)
    refine hworld.ran h.quiet (Narrative.ran hno advance world) (fun line hline => ?_)
      fun fields hfields _ => hfields ▸ here
    subst hline
    exact ⟨hworld.pending_of_text here, forPage_of_unpaged (h.unpaged world hworld.data) here⟩
  ahead world hworld hpending _ := hworld.moveTo hpending _
  undo world statement hworld hpending htarget := by
    have hno := target?_ne_callback h.callbackless htarget
    refine hworld.undone h.quiet hpending (Narrative.undone hno world) fun line hline => ?_
    subst hline
    obtain ⟨cursor, here⟩ | ⟨label, hjump⟩ := target?_cases htarget
    · exact forPage_of_unpaged (h.unpaged world hworld.data) here
    · obtain rfl := Statement.text.inj hjump
      exact forPage_jump label
  picked world hworld item hitem statement hread := by
    obtain ⟨options, hat, hvisible⟩ := hworld.visible hitem
    have hclosed := hworld.close.emit [.hideChoices]
    refine hclosed.ran h.quiet (Narrative.ran (Statement.ne_callback_of_ofJson? hread) false _)
      (fun line hline => ⟨pending_close world, ?_⟩) fun fields hfields hmenu => ?_
    · have hdo := Statement.eq_str_of_ofJson? (hline ▸ hread)
      exact forPage_of_visible (h.unpaged _ hclosed.data) hat hvisible hdo
    · have hdo := Statement.eq_obj_of_ofJson? (hfields ▸ hread)
      rw [not_menu_of_visible h.flat hat hvisible hdo] at hmenu
      cases hmenu
  emit world hworld effects := hworld.emit effects
  close world hworld := hworld.close
  playing world hworld := hworld.congr hworld.frame hworld.vars (Or.inr ⟨rfl, rfl⟩)
  finished world hworld := hworld.typed

/-- **Running a stop that changes nothing else** leaves its menu waiting. -/
theorem Landed.look_eq {advance : Bool} {stop : Stop} {after : World}
    (h : Landed presets false advance stop world after)
    (hsheet : stop.shown advance world.sheet = world.sheet)
    (hprompt : world.prompt = ⟨none, true⟩) :
    after.look = { world.look with pending := stop.pending world.storage } := by
  have hsnapshot := h.saved (congrArg Sheet.closed hsheet)
  have hsame := h.sheet.trans hsheet
  have hstate : after.state = world.state := congrArg Snapshot.state hsnapshot
  have hhistory : after.history = world.history := congrArg Snapshot.history hsnapshot
  have hstorage : after.storage = world.storage := congrArg Place.storage h.place
  have hblock : after.globals.block = world.globals.block := congrArg Place.block h.place
  have hplaying : after.globals.playing = world.globals.playing := congrArg Place.playing h.place
  have hfree : after.globals.distractionFree = world.globals.distractionFree :=
    congrArg Place.distractionFree h.place
  have hshowing : Page.isShowing after = Page.isShowing world := congrArg Sheet.showing hsame
  have hlines : Page.lines after = Page.lines world := congrArg Sheet.lines hsame
  have hpending : after.globals.get? Choice.pendingKey = stop.pending world.storage :=
    h.pending (congrArg Prompt.pending hprompt)
  have htyped : world.globals.finishedTyping = true := congrArg Prompt.finishedTyping hprompt
  have htyped' : after.globals.finishedTyping = true := h.typed rfl htyped
  simp only [World.look, hstate, hhistory, hstorage, hblock, hplaying, hfree, hshowing, hlines,
    hpending, htyped, htyped']

variable (presets) in
/-- **Running the stop at the cursor gives back its menu**, and nothing else. -/
theorem Resumable.runCurrent (hbook : Unpaged characters storage book)
    (hchain : 0 < book.settings.maxChain) (h : Resumable characters storage book world)
    (hpending : world.prompt.pending = none) {stop : Stop}
    (hat : StopAt characters book world stop) :
    ∃ after, Run.runCurrent book (builtinRegistry characters presets) world = .ok () after
      ∧ after.look = { world.look with pending := stop.pending world.storage } := by
  obtain ⟨after, hrun, hlanded⟩ := hat.runCurrent presets hchain
  rw [hbook.quiet] at hlanded
  have hnvl : ∀ say, stop = .line say → say.nvl = false := by
    rintro say rfl
    exact hat.nvl_eq_false (hbook.unpaged world h.data) rfl
  have htyped : world.prompt.finishedTyping = true := congrArg Frame.finishedTyping h.frame
  have hprompt : world.prompt = ⟨none, true⟩ := by
    rw [← hpending, ← htyped]
  exact ⟨after, hrun, hlanded.look_eq (Stop.shown_of_hidden hnvl h.hidden true) hprompt⟩

end Resumable

end Narrative
