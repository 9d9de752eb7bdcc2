import Narrative.Proofs.Refusal

/-!
# Proofs/Picked — options that stay where they are picked

An option may show a line or start a particle system without leaving its menu: the menu is closed,
and the game **stands** on it (`Stands`).  In a story without pages every way on from there is a
move, and going back as often as the player went on comes back to where the menu was picked from
and offers it again (`Climbed.ascent`).

Going back meets the statements of the script only.  What the option did is not one of them, so it
is not undone: the game comes back to what picking left, which is what was there before only if the
option was a line.
-/

namespace Narrative

/-! ## Stories without pages -/

/-- Whether a text is a line for the page. -/
def forPage (characters : Table Character) (book : Playbook) (world : World) (line : String) :
    Bool :=
  match book.substitute world line with
  | .error _ => false
  | .ok text =>
    match Kind.ofText text, Dialog.say characters book world (.ofText (.text line) text) with
    | .line _, .ok say => say.nvl
    | _, _ => false

/-- **Whether a statement has no use for the page**: neither it nor an option of it is a line for
the page. -/
def unpaged (characters : Table Character) (book : Playbook) (world : World) : Statement → Bool
  | .text line => !forPage characters book world line
  | .record fields =>
    ((Fields.get? fields Choice.fieldName).bind Json.asFields?).all fun options =>
      (Fields.values options).all fun option =>
        ((option.field? "Do").bind Json.asText?).all (!forPage characters book world ·)
  | .callback _ => true

section Unpaged

variable {characters : Table Character} {presets : Fields Json} {book : Playbook} {world : World}

theorem forPage_congr {other : World} (hstorage : other.storage = world.storage) :
    forPage characters book other = forPage characters book world := by
  funext line
  simp only [forPage, substitute_congr hstorage, say_congr hstorage]

theorem unpaged_congr {other : World} (hstorage : other.storage = world.storage) :
    unpaged characters book other = unpaged characters book world := by
  funext statement
  cases statement <;> simp only [unpaged, forPage_congr hstorage]

/-- A line that is read from a text without use for the page is not for the page. -/
theorem nvl_of_forPage {line text first : String} {say : Say}
    (h : forPage characters book world line = false)
    (filled : book.substitute world line = .ok text) (kind : Kind.ofText text = .line first)
    (said : Dialog.say characters book world (.ofText (.text line) text) = .ok say) :
    say.nvl = false := by
  simpa only [forPage, filled, kind, said] using h

/-- A text of a story without pages has no use for the page. -/
theorem forPage_of_unpaged (h : book.statements.all (unpaged characters book world) = true)
    {cursor : Cursor} {line : String} (here : book.statement? cursor = some (.text line)) :
    forPage characters book world line = false := by
  simpa only [unpaged, Bool.not_eq_true'] using
    List.all_eq_true.1 h _ (Playbook.mem_statements here)

/-- **A story without pages has no stop for the page.** -/
theorem StopAt.nvl_eq_false
    (h : book.statements.all (unpaged characters book world) = true) {other : World} {say : Say}
    (hat : StopAt characters book other (.line say)) (hstorage : other.storage = world.storage) :
    say.nvl = false := by
  cases hat with
  | line here filled kind said =>
    rw [substitute_congr hstorage] at filled
    rw [say_congr hstorage] at said
    exact nvl_of_forPage (forPage_of_unpaged h here) filled kind said

/-- **Nor does it offer a line for the page.** -/
theorem forPage_of_visible (h : book.statements.all (unpaged characters book world) = true)
    {other : World} {options : List (MenuItem × Condition)}
    (hat : StopAt characters book other (.menu options)) {item : MenuItem}
    (hitem : item ∈ Choice.visible other.storage options) {line : String}
    (hdo : item.action = .str line) : forPage characters book world line = false := by
  cases hat with
  | @menu fields written items here field read =>
    obtain ⟨option, hoption, rfl⟩ := List.mem_map.1 hitem
    obtain ⟨value, hvalue, haction⟩ := mem_readOptions read (List.mem_filter.1 hoption).1
    have hmenu := List.all_eq_true.1 h _ (Playbook.mem_statements here)
    simp only [unpaged, field, Option.all_some] at hmenu
    have hoption := List.all_eq_true.1 hmenu value hvalue
    rw [haction, hdo] at hoption
    simpa only [Option.bind_some, Json.asText?, Option.all_some, Bool.not_eq_true'] using hoption

/-- Nor does a world at rest. -/
theorem forPage_of_offered (h : book.statements.all (unpaged characters book world) = true)
    {stop : Stop} {other : World} (hrested : Rested characters presets book stop other)
    {item : MenuItem} (hitem : item ∈ Choice.offered other) {line : String}
    (hdo : item.action = .str line) : forPage characters book world line = false := by
  rw [offered_of_rested hrested] at hitem
  cases stop with
  | line say => cases hitem
  | menu options => exact forPage_of_visible h hrested.here hitem hdo

/-- Without pages a stop leaves a sheet on which nothing shows alone. -/
theorem Stop.shown_of_hidden {stop : Stop} {sheet : Sheet}
    (hnvl : ∀ say, stop = .line say → say.nvl = false) (hhidden : sheet.showing = false)
    (advance : Bool) : stop.shown advance sheet = sheet := by
  cases stop with
  | line say => exact say.shown_of_hidden (hnvl say rfl) hhidden true advance
  | menu options => rfl

/-- So does undoing it. -/
theorem Stop.unshown?_of_hidden {stop : Stop} {sheet : Sheet}
    (hnvl : ∀ say, stop = .line say → say.nvl = false) (hhidden : sheet.showing = false) :
    stop.unshown? sheet = some sheet := by
  cases stop with
  | line say =>
    have hline := hnvl say rfl
    rw [Stop.unshown?, Say.unshown?, if_neg (Bool.eq_false_iff.1 hline),
      say.shown_of_hidden hline hhidden]
  | menu options => rfl

theorem Sheet.showing_leftIf {sheet : Sheet} (h : sheet.showing = false) (jumped : Bool) :
    (Sheet.leftIf jumped sheet).showing = false := by
  cases jumped with
  | false => exact h
  | true => rfl

end Unpaged

/-! ## Standing on a stop -/

/-- **A world that stands on a stop** of a story without pages; if it is a menu, it may have been
closed. -/
structure Stands (characters : Table Character) (presets : Fields Json) (book : Playbook)
    (stop : Stop) (world : World) : Prop where
  /-- The stop is the statement at its position. -/
  here : StopAt characters book world stop
  /-- No flag keeps the player from moving. -/
  gates : world.globals.gatesOpen = true
  /-- No page shows. -/
  hidden : world.sheet.showing = false
  /-- The stacks and the running particle system are in order. -/
  tidy : Tidy presets world

/-- The world with the menu of the stop open, if it is one. -/
def Stop.prompted (stop : Stop) (world : World) : World :=
  match stop.pending world.storage with
  | none => Choice.close world
  | some kept => world.withGlobals (·.set Choice.pendingKey kept)

/-- **Two worlds level with each other**, where no page shows: what is saved is the same. -/
structure Level (presets : Fields Json) (world other : World) : Prop where
  /-- The place is the same. -/
  place : other.place = world.place
  /-- No page shows. -/
  hidden : other.sheet.showing = false
  /-- The pages that were closed are the same. -/
  closed : other.sheet.closed = world.sheet.closed
  /-- The stacks and the running particle system are in order. -/
  tidy : Tidy presets other

section Standing

variable {characters : Table Character} {presets : Fields Json} {book : Playbook}
  {stop landing : Stop} {jumped : Bool} {world after shown : World}

theorem prompted_parts (presets : Fields Json) (stop : Stop) (world : World) :
    (stop.prompted world).place = world.place ∧ (stop.prompted world).sheet = world.sheet
      ∧ (stop.prompted world).prompt
        = ⟨stop.pending world.storage, world.prompt.finishedTyping⟩
      ∧ (Tidy presets world → Tidy presets (stop.prompted world)) := by
  unfold Stop.prompted
  cases stop.pending world.storage with
  | none => exact ⟨rfl, sheet_close .., prompt_close .., fun h => h.of_eq rfl rfl⟩
  | some menu => exact ⟨rfl, sheet_offer .., prompt_offer .., fun h => h.of_eq rfl rfl⟩

/-- A world that stands on a stop rests on it once its menu is open. -/
theorem Stands.rested (h : Stands characters presets book stop world) :
    Rested characters presets book stop (stop.prompted world) := by
  obtain ⟨hplace, -, hprompt, htidy⟩ := prompted_parts presets stop world
  have hstorage : (stop.prompted world).storage = world.storage := congrArg Place.storage hplace
  exact ⟨h.here.of_place hplace, (gatesOpen_of_place hplace).trans h.gates,
    by rw [hprompt, hstorage], htidy h.tidy⟩

/-- A world at rest stands on its stop. -/
theorem Rested.stands (h : Rested characters presets book stop world)
    (hhidden : world.sheet.showing = false) : Stands characters presets book stop world :=
  ⟨h.here, h.gates, hhidden, h.tidy⟩

theorem Level.snapshot_eq (h : Level presets world after) (htidy : Tidy presets world) :
    after.snapshot = world.snapshot :=
  h.tidy.snapshot_eq htidy h.place h.closed

/-- A world that is level with one that stands on a stop stands on it. -/
theorem Stands.of_level (h : Stands characters presets book stop world)
    (hlevel : Level presets world after) : Stands characters presets book stop after :=
  ⟨h.here.of_place hlevel.place, (gatesOpen_of_place hlevel.place).trans h.gates, hlevel.hidden,
    hlevel.tidy⟩

/-- **Going one step on from where a world stands is a move**, when no menu waits. -/
theorem Stands.moved (h : Stands characters presets book stop world) (hbook : Traceable book world)
    (hpending : world.prompt.pending = none)
    (hnext : Run.next book (builtinRegistry characters presets) world = .ok () after) :
    ∃ jumped landing,
      Moved characters presets book stop (stop.prompted world) jumped landing after := by
  obtain ⟨statement, here, -, -⟩ := h.here.invoke presets
  obtain ⟨hplace, hsheet, hprompt, -⟩ := prompted_parts presets stop world
  cases hstatement : book.current? (world.moveTo (world.cursor.atStep (world.cursor.step + 1))) with
  | none =>
    rw [next_eq_error here hstatement] at hnext
    cases hnext
  | some next =>
    rw [next_eq_run here hstatement] at hnext
    have hstart : (world.moveTo (world.cursor.atStep (world.cursor.step + 1))).prompt
        = ⟨none, (stop.prompted world).prompt.finishedTyping⟩ := by
      rw [hprompt, prompt_moveTo, ← hpending]
    have hdeparted : Departed presets stop (stop.prompted world) false
        (world.moveTo (world.cursor.atStep (world.cursor.step + 1))) := by
      refine ⟨.step ?_, hsheet.symm, hstart, h.tidy.of_eq rfl rfl⟩
      rw [place_moveTo, place_moveTo, hplace, ← place_cursor, ← place_cursor, hplace]
    exact hdeparted.moved (hbook.of_storage (congrArg Place.storage hplace)) hstatement
      (Nat.le_refl _) hnext

/-- **Such a move stands where it ends**, on the sheet it began with, left if it was by a jump. -/
theorem Stands.landed (h : Stands characters presets book stop world)
    (hunpaged : book.statements.all (unpaged characters book world) = true)
    (hmoved : Moved characters presets book stop (stop.prompted world) jumped landing after) :
    after.storage = world.storage ∧ after.sheet = Sheet.leftIf jumped world.sheet
      ∧ Stands characters presets book landing after := by
  obtain ⟨hplace, hsheet, -, -⟩ := prompted_parts presets stop world
  have hstorage : after.storage = world.storage :=
    hmoved.storage_eq.trans (congrArg Place.storage hplace)
  have hnvl : ∀ say, landing = .line say → say.nvl = false := by
    rintro say rfl
    exact hmoved.stopAt.nvl_eq_false hunpaged hstorage
  have hleft : (Sheet.leftIf jumped world.sheet).showing = false :=
    Sheet.showing_leftIf h.hidden jumped
  have hafter : after.sheet = Sheet.leftIf jumped world.sheet := by
    rw [hmoved.sheet_eq, hsheet, Stop.shown_of_hidden hnvl hleft]
  exact ⟨hstorage, hafter, (hmoved.rested h.rested.gates).stands (hafter ▸ hleft)⟩

/-- **It is undone from wherever is level with its end**, and the menu of the stop is open then. -/
theorem Stands.revert (h : Stands characters presets book stop world)
    (hunpaged : book.statements.all (unpaged characters book world) = true)
    (hmoved : Moved characters presets book stop (stop.prompted world) jumped landing after)
    (hlevel : Level presets after shown) :
    ∃ before, Rewind.revert book (builtinRegistry characters presets) shown.readied = .ok () before
      ∧ Level presets world before
      ∧ before.prompt.pending = stop.pending world.storage := by
  obtain ⟨-, hafter, -⟩ := h.landed hunpaged hmoved
  obtain ⟨hplace, -, hprompt, -⟩ := prompted_parts presets stop world
  obtain ⟨hready, hreadySheet, hreadyPrompt, hreadyTidy⟩ := readied_parts presets shown
  have hnvl : ∀ say, stop = .line say → say.nvl = false := by
    rintro say rfl
    exact h.here.nvl_eq_false hunpaged rfl
  have hleft : (Sheet.leftIf jumped shown.sheet).showing = false :=
    Sheet.showing_leftIf hlevel.hidden jumped
  have hundone : stop.unshown? (Sheet.leftIf jumped shown.readied.sheet)
      = some (Sheet.leftIf jumped shown.sheet) := by
    rw [hreadySheet]
    exact Stop.unshown?_of_hidden hnvl hleft
  obtain ⟨before, hrevert, hled⟩ := hmoved.revert h.rested (hready.trans hlevel.place)
    hreadyPrompt (hreadyTidy hlevel.tidy) hundone
  have hclosed : before.sheet.closed = world.sheet.closed := by
    rw [hled.sheet, Sheet.closed_leftIf, hlevel.closed, hafter, Sheet.closed_leftIf]
  have hpending : before.prompt.pending = stop.pending world.storage := by
    rw [hled.pending, hprompt]
  exact ⟨before, hrevert, ⟨hled.place.trans hplace, hled.sheet ▸ hleft, hclosed, hled.tidy⟩,
    hpending⟩

end Standing

/-! ## Going on and back -/

/-- **The games reached by continuing** so many times, each time with the answer yes.  A line that
is being typed may be finished. -/
inductive Climbed (game : Game) : Nat → Game → Prop
  | start : Climbed game 0 game
  | finish {count : Nat} {last : Game} (climbed : Climbed game count last) :
      Climbed game count last.finishTyping
  | proceed {count : Nat} {last after : Game} (climbed : Climbed game count last)
      (granted : Game.proceed last = .ok true after) : Climbed game (count + 1) after

/-- **The game after going back so many times**, if the answer is yes each time. -/
def Game.backs? : Nat → Game → Option Game
  | 0, game => some game
  | count + 1, game =>
    match Game.rollback game with
    | .ok true before => before.backs? count
    | _ => none

section Climbing

variable {characters : Table Character} {presets : Fields Json} {stop : Stop}
  {game last after : Game}

/-- **Continuing from where a game stands is undone by going back**, from wherever is level with
the game after. -/
theorem Stands.proceed (hregistry : game.registry = builtinRegistry characters presets)
    (hbook : Traceable game.book game.world)
    (hunpaged : game.book.statements.all (unpaged characters game.book game.world) = true)
    (h : Stands characters presets game.book stop game.world)
    (hproceed : Game.proceed game = .ok true after) :
    after.fixed = game.fixed ∧ after.world.storage = game.world.storage
      ∧ (∃ landing, Stands characters presets game.book landing after.world)
      ∧ ∀ shown : Game, shown.fixed = game.fixed → Level presets after.world shown.world →
        ∃ before, Game.rollback shown = .ok true before ∧ before.fixed = game.fixed
          ∧ Level presets game.world before.world
          ∧ before.world.prompt.pending = stop.pending game.world.storage := by
  obtain ⟨hpending, world, hnext, rfl⟩ := next_of_proceed hregistry hproceed
  have hnone : game.world.prompt.pending = none :=
    Option.isNone_iff_eq_none.1 (Option.isSome_eq_false_iff.1 hpending)
  rw [hregistry] at hnext
  obtain ⟨jumped, landing, hmoved⟩ := h.moved hbook hnone hnext
  obtain ⟨hstorage, -, hlanding⟩ := h.landed hunpaged hmoved
  refine ⟨rfl, hstorage, ⟨landing, hlanding⟩, fun shown hshown hlevel => ?_⟩
  obtain ⟨before, hrevert, hbefore, hmenu⟩ := h.revert hunpaged hmoved hlevel
  have hgates : shown.world.globals.gatesOpen = true :=
    (gatesOpen_of_place hlevel.place).trans hlanding.gates
  have hsame : shown.book = game.book := congrArg Prod.fst hshown
  have hregistry' : shown.registry = builtinRegistry characters presets :=
    (congrArg (·.2.1) hshown).trans hregistry
  refine ⟨{ shown with world := before }, ?_, hshown, hbefore, hmenu⟩
  rw [rollback_eq hregistry' hgates]
  refine granted_eq_ok_true.2 (ofPlay_eq_ok.2 ⟨before, ?_, rfl⟩)
  rw [hsame, hregistry']
  exact hrevert

/-- **A way up from where a game stands**, which can be gone back. -/
structure Ascent (characters : Table Character) (presets : Fields Json) (stop : Stop)
    (game : Game) (count : Nat) (last : Game) : Prop where
  /-- Only the world differs. -/
  fixed : last.fixed = game.fixed
  /-- The storage is the same. -/
  storage : last.world.storage = game.world.storage
  /-- The last game stands on a stop, and on the first one if the way is empty. -/
  stands : ∃ landing, Stands characters presets game.book landing last.world
    ∧ (count = 0 → landing = stop)
  /-- Wherever is level with the end, going back as often comes to where the game stood, with the
  menu open. -/
  back : ∀ shown : Game, shown.fixed = game.fixed → Level presets last.world shown.world →
    (count = 0 → shown.world.prompt.pending = stop.pending game.world.storage) →
    ∃ back, shown.backs? count = some back ∧ Level presets game.world back.world
      ∧ back.world.prompt.pending = stop.pending game.world.storage

namespace Ascent

/-- The empty way. -/
theorem start (h : Stands characters presets game.book stop game.world) :
    Ascent characters presets stop game 0 game where
  fixed := rfl
  storage := rfl
  stands := ⟨stop, h, fun _ => rfl⟩
  back shown _ hlevel hpending := ⟨shown, rfl, hlevel, hpending rfl⟩

/-- A line that is being typed may be finished. -/
theorem finish {count : Nat} (h : Ascent characters presets stop game count last) :
    Ascent characters presets stop game count last.finishTyping where
  fixed := h.fixed
  storage := h.storage
  stands := by
    obtain ⟨landing, hstands, hlanding⟩ := h.stands
    exact ⟨landing,
      hstands.of_level ⟨rfl, hstands.hidden, rfl, hstands.tidy.of_eq rfl rfl⟩, hlanding⟩
  back shown hshown hlevel :=
    h.back shown hshown ⟨hlevel.place, hlevel.hidden, hlevel.closed, hlevel.tidy⟩

/-- The player goes on. -/
theorem proceed {count : Nat} (h : Ascent characters presets stop game count last)
    (hregistry : game.registry = builtinRegistry characters presets)
    (hbook : Traceable game.book game.world)
    (hunpaged : game.book.statements.all (unpaged characters game.book game.world) = true)
    (granted : Game.proceed last = .ok true after) :
    Ascent characters presets stop game (count + 1) after := by
  obtain ⟨landing, hstands, hlanding⟩ := h.stands
  have hsame : last.book = game.book := congrArg Prod.fst h.fixed
  have hregistry' : last.registry = builtinRegistry characters presets :=
    (congrArg (·.2.1) h.fixed).trans hregistry
  have hbook' : Traceable last.book last.world := hsame ▸ hbook.of_storage h.storage
  have hunpaged' : last.book.statements.all (unpaged characters last.book last.world) = true := by
    rw [hsame, unpaged_congr h.storage]
    exact hunpaged
  rw [← hsame] at hstands
  obtain ⟨hafter, hstorage, ⟨next, hnext⟩, hundo⟩ :=
    hstands.proceed hregistry' hbook' hunpaged' granted
  refine ⟨hafter.trans h.fixed, hstorage.trans h.storage,
    ⟨next, hsame ▸ hnext, fun hzero => absurd hzero (Nat.succ_ne_zero count)⟩,
    fun shown hshown hlevel _ => ?_⟩
  obtain ⟨before, hrollback, hbefore, hbeforeLevel, hpending⟩ :=
    hundo shown (hshown.trans h.fixed.symm) hlevel
  obtain ⟨back, hbacks, hback⟩ := h.back before (hbefore.trans h.fixed) hbeforeLevel
    fun hzero => by rw [hpending, hlanding hzero, h.storage]
  refine ⟨back, ?_, hback⟩
  rw [Game.backs?, hrollback]
  exact hbacks

end Ascent

/-- **Going back as often as the player went on** comes back to where the game stood, and offers
its menu again. -/
theorem Climbed.ascent (hregistry : game.registry = builtinRegistry characters presets)
    (hbook : Traceable game.book game.world)
    (hunpaged : game.book.statements.all (unpaged characters game.book game.world) = true)
    (h : Stands characters presets game.book stop game.world) {count : Nat}
    (hclimbed : Climbed game count last) : Ascent characters presets stop game count last := by
  induction hclimbed with
  | start => exact .start h
  | finish climbed ih => exact ih.finish
  | proceed climbed granted ih => exact ih.proceed hregistry hbook hunpaged granted

end Climbing

/-! ## Picking -/

section Picking

variable {characters : Table Character} {presets : Fields Json} {stop : Stop}
  {game picked after : Game} {key line text : String} {item : MenuItem}

/-- The text that the option of a key runs, if it runs one. -/
def Choice.textOf? (world : World) (key : String) : Option String :=
  ((offered world).find? (·.key == key)).bind (·.action.asText?)

/-- Picking an option that is a text runs the text with the menu closed. -/
theorem run_of_select_text (hline : Choice.textOf? game.world key = some line)
    (hselect : Game.select key game = .ok () picked) :
    ∃ item world, item ∈ Choice.offered game.world ∧ item.action = .str line
      ∧ Run.run game.book game.registry (.text line) false
          ((Choice.close game.world).emit [.hideChoices]) = .ok () world
      ∧ picked = { game with world := world } := by
  obtain ⟨item, hfind, htext⟩ := Option.bind_eq_some_iff.1 hline
  have hdo : item.action = .str line := by
    cases haction : item.action with
    | str text =>
      rw [haction] at htext
      exact congrArg Json.str (Option.some.inj htext)
    | _ =>
      rw [haction] at htext
      cases htext
  simp only [Game.select, hfind, hdo, Statement.ofJson?] at hselect
  obtain ⟨world, hrun, hpicked⟩ := ofPlay_eq_ok.1 hselect
  exact ⟨item, world, List.mem_of_find?_eq_some hfind, hdo, hrun, hpicked⟩

/-- **Picking a line** leaves the snapshot as it was. -/
theorem picked_line {book : Playbook} {world closed after : World} {first : String}
    (hplace : closed.place = world.place) (hsheet : closed.sheet = world.sheet)
    (htidy : Tidy presets closed) (hhidden : world.sheet.showing = false)
    (filled : book.substitute closed line = .ok text) (kind : Kind.ofText text = .line first)
    (hpage : forPage characters book closed line = false)
    (hrun : Run.run book (builtinRegistry characters presets) (.text line) false closed
      = .ok () after) : Level presets world after := by
  obtain ⟨flow, mid, hperform, hends⟩ := performed_in_place hrun
  obtain ⟨invocation, hinvoke, hstages⟩ := stages_of_perform (fun run => by simp) hperform
  rw [invoke_text filled, kind] at hinvoke
  cases said : Dialog.say characters book closed (.ofText (.text line) text) with
  | error fault =>
    simp only [said] at hinvoke
    cases hinvoke
  | ok say =>
    simp only [said] at hinvoke
    obtain rfl : say.invocation = invocation := Except.ok.inj hinvoke
    have hnvl : say.nvl = false := by simpa only [forPage, filled, kind, said] using hpage
    obtain ⟨shown, hshown, hredrawn⟩ := stages_say presets say false closed
    obtain ⟨rfl, rfl⟩ := EStateM.Result.ok.inj (hshown.symm.trans hstages)
    obtain rfl := hends (by simp)
    have hsame : after.sheet = world.sheet := by
      rw [hredrawn.sheet, hsheet, say.shown_of_hidden hnvl hhidden]
    exact ⟨hredrawn.place.trans hplace, hsame ▸ hhidden, by rw [hsame], hredrawn.tidy htidy⟩

/-- **Picking a particle system** starts it. -/
theorem picked_particles {book : Playbook} {world closed after : World} {name : String}
    (hplace : closed.place = world.place) (hsheet : closed.sheet = world.sheet)
    (htidy : Tidy presets closed) (hhidden : world.sheet.showing = false)
    (filled : book.substitute closed line = .ok text)
    (kind : Kind.ofText text = .particles (some name))
    (hrun : Run.run book (builtinRegistry characters presets) (.text line) false closed
      = .ok () after) :
    Level presets (Particles.started (Text.trim text) world) after := by
  obtain ⟨flow, mid, hperform, hends⟩ := performed_in_place hrun
  obtain ⟨invocation, hinvoke, hstages⟩ := stages_of_perform (fun run => by simp) hperform
  rw [invoke_text filled, kind] at hinvoke
  obtain rfl := Except.ok.inj hinvoke
  obtain ⟨rfl, hdefined, effects, rfl⟩ := started_of_stages hstages
  rw [word?_of_particles kind] at hdefined
  obtain rfl := hends (by simp)
  refine ⟨?_, ?_, ?_, ?_⟩
  · rw [place_emit, place_started, place_started, hplace]
    rfl
  · rw [sheet_emit, sheet_started, hsheet, hhidden]
  · rw [sheet_emit, sheet_started, sheet_started, hsheet]
  · exact (htidy.start (Particles.effect?_of_named kind hdefined)).of_eq rfl rfl

/-- The options offered are those of the pending menu. -/
theorem offered_of_pending {world other : World}
    (h : other.prompt.pending = world.prompt.pending) :
    Choice.offered other = Choice.offered world := by
  have hmenu : other.globals.get? Choice.pendingKey = world.globals.get? Choice.pendingKey := h
  simp only [Choice.offered, hmenu]

/-- **What picking such an option leaves**: a world that stands on the menu, with the snapshot from
before only if the option was a line. -/
theorem stands_picked {world : World} (hunpaged : game.book.statements.all
      (unpaged characters game.book game.world) = true)
    (hrested : Rested characters presets game.book stop game.world)
    (hpage : Page.isShowing game.world = false) (hitem : item ∈ Choice.offered game.world)
    (hdo : item.action = .str line) (filled : game.book.substitute game.world line = .ok text)
    (hstays : (∃ first, Kind.ofText text = .line first)
      ∨ ∃ name, Kind.ofText text = .particles (some name))
    (hrun : Run.run game.book (builtinRegistry characters presets) (.text line) false
      ((Choice.close game.world).emit [.hideChoices]) = .ok () world) :
    Stands characters presets game.book stop world
      ∧ world.cursor = game.world.cursor ∧ world.storage = game.world.storage
      ∧ (world.snapshot = game.world.snapshot ↔ ∃ first, Kind.ofText text = .line first) := by
  have hstands := hrested.stands hpage
  have hplace : ((Choice.close game.world).emit [.hideChoices]).place = game.world.place := rfl
  have hsheet : ((Choice.close game.world).emit [.hideChoices]).sheet = game.world.sheet :=
    sheet_close game.world
  have htidy : Tidy presets ((Choice.close game.world).emit [.hideChoices]) :=
    hrested.tidy.of_eq rfl rfl
  obtain ⟨first, kind⟩ | ⟨name, kind⟩ := hstays
  · have hforPage := forPage_of_offered hunpaged hrested hitem hdo
    have hlevel := picked_line hplace hsheet htidy hpage filled kind hforPage hrun
    have hsnapshot := hlevel.snapshot_eq hrested.tidy
    exact ⟨hstands.of_level hlevel, congrArg Place.cursor hlevel.place,
      congrArg Place.storage hlevel.place, fun _ => ⟨first, kind⟩, fun _ => hsnapshot⟩
  · have hlevel := picked_particles hplace hsheet htidy hpage filled kind hrun
    have hcursor : world.cursor = game.world.cursor := congrArg Place.cursor hlevel.place
    have hstorage : world.storage = game.world.storage := congrArg Place.storage hlevel.place
    have hgates : world.globals.gatesOpen = true :=
      (gatesOpen_of_place hlevel.place).trans hrested.gates
    refine ⟨⟨hrested.here.congr hcursor hstorage, hgates, hlevel.hidden, hlevel.tidy⟩, hcursor,
      hstorage, fun hsame => ?_, fun ⟨first, hline⟩ => ?_⟩
    · have hne : Particles.stack ≠ Page.stack := by decide
      have hentries : world.history.entries Particles.stack
          = .str (Text.trim text) :: game.world.history.entries Particles.stack := by
        have h := congrFun (congrArg Place.entries hlevel.place) Particles.stack
        simpa [World.place, Particles.started, World.push, World.setVar, hne] using h
      have hhistory : world.history = game.world.history := congrArg Snapshot.history hsame
      rw [hhistory] at hentries
      exact absurd hentries.symm (List.cons_ne_self _ _)
    · rw [kind] at hline
      cases hline

/-- **Going back to a menu does not undo the option that was picked where it stands.**  In a story
without pages, after a line or a particle system was picked and the player went on, going back as
often leads to the same menu at the same position; what is saved is what picking left, and so it is
what was there before only if a line was picked. -/
theorem rollback_to_picked {count : Nat}
    (hregistry : game.registry = builtinRegistry characters presets)
    (hbook : Traceable game.book game.world)
    (hunpaged : game.book.statements.all (unpaged characters game.book game.world) = true)
    (hrested : Rested characters presets game.book stop game.world)
    (hpage : Page.isShowing game.world = false)
    (hline : Choice.textOf? game.world key = some line)
    (filled : game.book.substitute game.world line = .ok text)
    (hstays : (∃ first, Kind.ofText text = .line first)
      ∨ ∃ name, Kind.ofText text = .particles (some name))
    (hselect : Game.select key game = .ok () picked)
    (hclimbed : Climbed picked (count + 1) after) :
    ∃ back, after.backs? (count + 1) = some back
      ∧ back.cursor = game.cursor
      ∧ Choice.offered back.world = Choice.offered game.world
      ∧ back.snapshot = picked.snapshot
      ∧ (back.snapshot = game.snapshot ↔ ∃ first, Kind.ofText text = .line first) := by
  obtain ⟨item, world, hitem, hdo, hrun, rfl⟩ := run_of_select_text hline hselect
  rw [hregistry] at hrun
  obtain ⟨hpicked, hcursor, hstorage, hsnapshot⟩ :=
    stands_picked hunpaged hrested hpage hitem hdo filled hstays hrun
  have hunpaged' : game.book.statements.all (unpaged characters game.book world) = true := by
    rw [unpaged_congr hstorage]
    exact hunpaged
  have hregistry' : ({ game with world := world } : Game).registry
      = builtinRegistry characters presets := hregistry
  have hascent := hclimbed.ascent hregistry' (hbook.of_storage hstorage) hunpaged' hpicked
  obtain ⟨landing, hlanding, -⟩ := hascent.stands
  have hlevel : Level presets after.world after.world := ⟨rfl, hlanding.hidden, rfl, hlanding.tidy⟩
  obtain ⟨back, hbacks, hbackLevel, hpending⟩ := hascent.back after hascent.fixed hlevel
    fun hzero => absurd hzero (Nat.succ_ne_zero count)
  have hsame : back.snapshot = world.snapshot := hbackLevel.snapshot_eq hpicked.tidy
  refine ⟨back, hbacks, (congrArg Place.cursor hbackLevel.place).trans hcursor,
    offered_of_pending ?_, hsame, ?_⟩
  · rw [hpending, hrested.pending, ← hstorage]
  · rw [hsame]
    exact hsnapshot

end Picking

/-! A story with a menu from which snow can be picked. -/

/-- A story with a window. -/
def windowStory : Story :=
  { script := .obj
      [("Start", .arr
        [.str "Is it snowing?",
          .obj [("Choice", .obj
            [("look", .obj [("Do", .str "particles snow")]),
              ("wait", .obj [("Do", .str "next")])])],
          .str "Night falls."])]
    characters := Table.empty
    particles := [("snow", .obj [])]
    storage := []
    settings := { typeAnimation := false } }

/-- The game of the story. -/
def windowMade : Game := (windowStory.gameWith? windowStory.registry).get (by decide +kernel)

/-- The game, set up. -/
def windowReady : Game := Result.left (Game.setup (windowMade.withPreferences {}))

/-- At the first line. -/
def windowBegun : Game := Result.left (Game.start windowReady)

/-- At the menu. -/
def windowMenu : Game := Result.left (Game.proceed windowBegun)

/-- At the menu, with snow. -/
def windowPicked : Game := Result.left (Game.select "look" windowMenu)

/-- At the second line. -/
def windowPassed : Game := Result.left (Game.proceed windowPicked)

/-- Back at the menu it still snows. -/
theorem rollback_to_picked_window :
    ∃ back, windowPassed.backs? 1 = some back ∧ back.cursor = windowMenu.cursor
      ∧ Choice.offered back.world = Choice.offered windowMenu.world
      ∧ back.snapshot = windowPicked.snapshot ∧ back.snapshot ≠ windowMenu.snapshot := by
  have hmade : windowStory.gameWith? windowStory.registry = some windowMade :=
    (Option.some_get _).symm
  have hready : Game.setup (windowMade.withPreferences {}) = .ok () windowReady := setup_ok_left rfl
  have hbook : Traceable windowReady.book windowReady.world :=
    traceable_of_traces (by decide +kernel)
  have hbegun : Game.start windowReady = .ok () windowBegun := Result.eq_ok (by decide +kernel)
  obtain ⟨hregistry, htraceable, stop, hrested⟩ := begun_parts hmade hready hbook hbegun
  have hmenu : Game.proceed windowBegun = .ok true windowMenu := Result.eq_ok (by decide +kernel)
  obtain ⟨hfixed, jumped, landing, hmoved⟩ :=
    moved_of_proceed hregistry htraceable hrested hmenu
  have hsameBook : windowMenu.book = windowBegun.book := congrArg Prod.fst hfixed
  have hregistry' : windowMenu.registry
      = builtinRegistry windowStory.characters windowStory.particles :=
    (congrArg (·.2.1) hfixed).trans hregistry
  have hbook' : Traceable windowMenu.book windowMenu.world := by
    rw [hsameBook]
    exact htraceable.of_storage hmoved.storage_eq
  have hrested' : Rested windowStory.characters windowStory.particles windowMenu.book landing
      windowMenu.world := by
    rw [hsameBook]
    exact hmoved.rested hrested.gates
  have hpicked : Game.select "look" windowMenu = .ok () windowPicked :=
    Result.eq_ok (by decide +kernel)
  have hpassed : Game.proceed windowPicked = .ok true windowPassed :=
    Result.eq_ok (by decide +kernel)
  have hline : Choice.textOf? windowMenu.world "look" = some "particles snow" := by decide +kernel
  have filled : windowMenu.book.substitute windowMenu.world "particles snow"
      = .ok "particles snow" := by decide +kernel
  have kind : Kind.ofText "particles snow" = .particles (some "snow") := by decide +kernel
  obtain ⟨back, hbacks, hcursor, hoffered, hsame, hsnapshot⟩ := rollback_to_picked hregistry' hbook'
    (by decide +kernel) hrested' (by decide +kernel) hline filled (Or.inr ⟨"snow", kind⟩) hpicked
    (.proceed .start hpassed)
  refine ⟨back, hbacks, hcursor, hoffered, hsame, fun hundone => ?_⟩
  obtain ⟨first, hline⟩ := hsnapshot.1 hundone
  rw [kind] at hline
  cases hline

end Narrative
