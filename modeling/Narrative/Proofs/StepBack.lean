import Narrative.Proofs.Retrace

/-!
# Proofs/StepBack — one move, and going back once

A game rests on a stop (`Rested`).  A move leaves it, by one step on or by a jump from a menu
(`Leaves`), passes some statements and comes to rest on another stop (`Moved`).  Going back once
from there undoes the whole move: the place and the prompt are as before (`Moved.revert`).  The page
is what the two stops and the jumps between them make of it: it is as before whenever undoing the
first stop undoes what the second one and the jumps did to the sheet.
-/

namespace Narrative

/-- **A world at rest on a stop.** -/
structure Rested (characters : Table Character) (presets : Fields Json) (book : Playbook)
    (stop : Stop) (world : World) : Prop where
  /-- The stop is the statement at its position. -/
  here : StopAt characters book world stop
  /-- No flag keeps the player from moving. -/
  gates : world.globals.gatesOpen = true
  /-- The player is waited for with the stop. -/
  pending : world.prompt.pending = stop.pending world.storage
  /-- The stacks and the running particle system are in order. -/
  tidy : Tidy presets world

/-- The flags are part of the place. -/
theorem gatesOpen_of_place {w v : World} (h : w.place = v.place) :
    w.globals.gatesOpen = v.globals.gatesOpen :=
  congrArg (fun place : Place => place.playing && !place.block && !place.distractionFree) h

/-- Another world at the place and with the menu of a world at rest is at rest. -/
theorem Rested.of_place {characters : Table Character} {presets : Fields Json} {book : Playbook}
    {stop : Stop} {world other : World} (h : Rested characters presets book stop world)
    (hplace : other.place = world.place) (hpending : other.prompt.pending = world.prompt.pending)
    (htidy : Tidy presets other) : Rested characters presets book stop other where
  here := h.here.of_place hplace
  gates := (gatesOpen_of_place hplace).trans h.gates
  pending := by
    have hstorage : other.storage = world.storage := congrArg Place.storage hplace
    rw [hpending, h.pending, hstorage]
  tidy := htidy

/-- The prompt of a world at rest. -/
theorem Rested.prompt {characters : Table Character} {presets : Fields Json} {book : Playbook}
    {stop : Stop} {world : World} (h : Rested characters presets book stop world) :
    world.prompt = ⟨stop.pending world.storage, world.prompt.finishedTyping⟩ := by
  rw [← h.pending]

/-- **A way comes to rest**, when it starts where the player may move and no menu waits. -/
theorem Way.rested {characters : Table Character} {presets : Fields Json} {book : Playbook}
    {landing : Stop} {start last after : World} {count : Nat} {jumped : Bool}
    (h : Way characters presets book start count jumped last landing after)
    (hgates : start.globals.gatesOpen = true) (hpending : start.prompt.pending = none)
    (htidy : Tidy presets start) : Rested characters presets book landing after where
  here := h.here.of_place h.landed.place
  gates := (gatesOpen_of_place h.landed.place).trans (h.passage.carried.gates.trans hgates)
  pending := by
    have hlast : last.prompt.pending = none :=
      (congrArg Prompt.pending h.passage.carried.prompt).trans hpending
    have hstorage : after.storage = last.storage := congrArg Place.storage h.landed.place
    rw [hstorage]
    exact h.landed.pending hlast
  tidy := h.landed.tidy (h.passage.carried.tidy htidy)

/-- **How a stop is left**: by one step on, or by a jump from a menu. -/
inductive Leaves (stop : Stop) (world : World) : Bool → World → Prop
  | step {start : World}
      (place : start.place = (world.moveTo (world.cursor.atStep (world.cursor.step + 1))).place) :
      Leaves stop world false start
  | jump {options : List (MenuItem × Condition)} {target : String} {start : World}
      (menu : stop = .menu options)
      (unbraced : Text.occurs Template.openMark target.toList = false)
      (place : start.place = (Jump.entered target world).place) : Leaves stop world true start

/-- **A world that has just left a stop.** -/
structure Departed (presets : Fields Json) (stop : Stop) (world : World) (leap : Bool)
    (start : World) : Prop where
  /-- Where it is. -/
  leaves : Leaves stop world leap start
  /-- A jump has left the page. -/
  sheet : start.sheet = Sheet.leftIf leap world.sheet
  /-- No menu waits, and the line is typed out as far as it was. -/
  prompt : start.prompt = ⟨none, world.prompt.finishedTyping⟩
  /-- The stacks and the running particle system are in order. -/
  tidy : Tidy presets start

/-- **One move** from a world at rest on a stop to one at rest on another, and whether it jumped. -/
inductive Moved (characters : Table Character) (presets : Fields Json) (book : Playbook)
    (stop : Stop) (world : World) : Bool → Stop → World → Prop
  | mk {leap more : Bool} {count : Nat} {landing : Stop} {start last after : World}
      (departed : Departed presets stop world leap start) (allowed : count < book.settings.maxChain)
      (way : Way characters presets book start count more last landing after) :
      Moved characters presets book stop world (leap || more) landing after

section Departed

variable {characters : Table Character} {presets : Fields Json} {book : Playbook}
  {stop : Stop} {world start : World} {leap : Bool}

theorem Departed.gatesOpen (h : Departed presets stop world leap start) :
    start.globals.gatesOpen = world.globals.gatesOpen := by
  cases h.leaves with
  | step place => exact (gatesOpen_of_place place).trans rfl
  | jump menu unbraced place => exact (gatesOpen_of_place place).trans rfl

theorem Departed.storage (h : Departed presets stop world leap start) :
    start.storage = world.storage := by
  cases h.leaves with
  | step place => exact (congrArg Place.storage place).trans rfl
  | jump menu unbraced place => exact (congrArg Place.storage place).trans rfl

/-- **A chain that succeeds after leaving a stop is a move.** -/
theorem Departed.moved {after : World} {allowed : Nat} {next : Statement}
    (h : Departed presets stop world leap start) (hbook : Traceable book world)
    (hnext : book.current? start = some next) (hallowed : allowed ≤ book.settings.maxChain)
    (hrun : Run.chain book (builtinRegistry characters presets) allowed next true start
      = .ok () after) :
    ∃ jumped landing, Moved characters presets book stop world jumped landing after := by
  obtain ⟨count, more, last, landing, hcount, way⟩ :=
    way_of_chain (hbook.of_storage h.storage) hnext hrun
  exact ⟨leap || more, landing, .mk h (Nat.lt_of_lt_of_le hcount hallowed) way⟩

end Departed

namespace Moved

variable {characters : Table Character} {presets : Fields Json} {book : Playbook}
  {stop landing : Stop} {world after : World} {jumped : Bool}

/-- **A move comes to rest.** -/
theorem rested (h : Moved characters presets book stop world jumped landing after)
    (hgates : world.globals.gatesOpen = true) :
    Rested characters presets book landing after := by
  obtain ⟨departed, -, way⟩ := h
  exact way.rested (departed.gatesOpen.trans hgates) (congrArg Prompt.pending departed.prompt)
    departed.tidy

/-- Without animation no line is being typed after a move, if none was before. -/
theorem typed (h : Moved characters presets book stop world jumped landing after)
    (hquiet : book.settings.typeAnimation = false) (htyped : world.prompt.finishedTyping = true) :
    after.prompt.finishedTyping = true := by
  obtain ⟨departed, -, way⟩ := h
  exact way.typed hquiet ((congrArg Prompt.finishedTyping departed.prompt).trans htyped)

/-- A move changes no world data. -/
theorem storage_eq (h : Moved characters presets book stop world jumped landing after) :
    after.storage = world.storage := by
  obtain ⟨departed, -, way⟩ := h
  exact way.storage.trans departed.storage

/-- A move comes to rest on a stop of the story. -/
theorem stopAt (h : Moved characters presets book stop world jumped landing after) :
    StopAt characters book after landing := by
  obtain ⟨departed, -, way⟩ := h
  exact way.here.of_place way.landed.place

/-- **The sheet after a move.** -/
theorem sheet_eq (h : Moved characters presets book stop world jumped landing after) :
    after.sheet = landing.shown true (Sheet.leftIf jumped world.sheet) := by
  obtain ⟨departed, -, way⟩ := h
  rw [way.sheet, departed.sheet, Sheet.leftIf_leftIf]

/-- **A move whose first statement is a jump** has jumped. -/
theorem jumped_of_kindAt? {say : Say} {target : String}
    (h : Moved characters presets book (.line say) world jumped landing after)
    (hjump : kindAt? book world (world.cursor.atStep (world.cursor.step + 1))
      = some (.jump target)) : jumped = true := by
  obtain @⟨leap, more, count, landing, start, last, after, departed, -, way⟩ := h
  cases departed.leaves with
  | step place =>
    have hcursor : start.cursor = world.cursor.atStep (world.cursor.step + 1) :=
      congrArg Place.cursor place
    rw [← hcursor, ← kindAt?_congr departed.storage] at hjump
    rw [way.passage.jumped_of_kindAt? way.here hjump, Bool.or_true]
  | jump menu unbraced place => cases menu

/-- **A move that made no jump.** -/
theorem straight_of_jumps (h : Moved characters presets book stop world jumped landing after)
    (hjumps : after.jumps = world.jumps) : jumped = false := by
  obtain @⟨leap, more, count, landing, start, last, after, departed, -, way⟩ := h
  have hlast := way.passage.jumps
  rw [← jumps_of_place way.landed.place, hjumps] at hlast
  cases departed.leaves with
  | step place =>
    rw [jumps_of_place place] at hlast
    cases more with
    | false => rfl
    | true => exact absurd hlast (Nat.not_succ_le_self world.jumps)
  | jump menu unbraced place =>
    rw [jumps_of_place place, jumps_entered] at hlast
    omega

end Moved

/-- **The sheet after a stop is undone**; a menu leaves it alone. -/
def Stop.unshown? : Stop → Sheet → Option Sheet
  | line say => say.unshown?
  | menu _ => some

section Reverting

variable {characters : Table Character} {presets : Fields Json} {book : Playbook}
  {stop landing : Stop} {world after shown : World} {jumped : Bool}

/-- **A world that was led back** to the place of another, with that one's menu and with this
sheet.  A line may be typed out on it if `animate`. -/
structure LedBack (presets : Fields Json) (animate : Bool) (sheet : Sheet) (world before : World) :
    Prop where
  /-- The place is the same. -/
  place : before.place = world.place
  /-- The sheet is this one. -/
  sheet : before.sheet = sheet
  /-- The menu is the same. -/
  pending : before.prompt.pending = world.prompt.pending
  /-- Without animation no line is being typed. -/
  typed : animate = false → before.prompt.finishedTyping = true
  /-- The world is tidy. -/
  tidy : Tidy presets before

/-- **A menu that is run again** where it was offered leaves the world as it was, except for the
page. -/
theorem runInPlace_menu {options : List (MenuItem × Condition)}
    (hrested : Rested characters presets book (.menu options) world)
    (hchain : 0 < book.settings.maxChain)
    (hplace : shown.place = world.place) (hprompt : shown.prompt = ⟨none, true⟩)
    (htidy : Tidy presets shown) :
    ∃ before, Run.runInPlace book (builtinRegistry characters presets) shown = .ok () before
      ∧ LedBack presets book.settings.typeAnimation shown.sheet world before := by
  have hstorage : shown.storage = world.storage := congrArg Place.storage hplace
  obtain ⟨before, hrun, hlanded⟩ := (hrested.here.of_place hplace).runInPlace presets hchain
  have hpending : before.prompt.pending = world.prompt.pending := by
    rw [hlanded.pending (by rw [hprompt]), hrested.pending, hstorage]
  exact ⟨before, hrun, hlanded.place.trans hplace, hlanded.sheet, hpending,
    fun hquiet => hlanded.typed hquiet (by rw [hprompt]), hlanded.tidy htidy⟩

/-- Going back to a line that was left shows it again. -/
theorem back_to_line {say : Say} (hrested : Rested characters presets book (.line say) world)
    (hplace : shown.place = (world.moveTo (world.cursor.atStep (world.cursor.step + 1))).place)
    (hprompt : shown.prompt = ⟨none, true⟩) (htidy : Tidy presets shown) {sheet : Sheet}
    (hsheet : say.unshown? shown.sheet = some sheet) (allowed : Nat) :
    ∃ before, Rewind.back book (builtinRegistry characters presets) (allowed + 1) shown
        = .ok () before
      ∧ LedBack presets book.settings.typeAnimation sheet world before := by
  have hanimate : book.settings.typeAnimation = false → say.animate = false := by
    cases hrested.here with
    | line here filled kind said => exact fun hquiet => animate_of_say hquiet said
  obtain ⟨redrawn, hredrawn, hback⟩ := back_line presets hrested.here
    (congrArg Place.cursor hplace) (congrArg Place.storage hplace) hsheet
  refine ⟨_, hback allowed, ?_, hredrawn.sheet, ?_, fun hquiet => ?_,
    (hredrawn.tidy htidy).of_eq rfl rfl⟩
  · rw [place_moveTo, hredrawn.place, hplace]
    rfl
  · show redrawn.prompt.pending = _
    rw [hredrawn.pending, hprompt, hrested.pending]
    rfl
  · exact hredrawn.typed (hanimate hquiet) (by rw [hprompt])

/-- Going back to a menu that was left by a step runs it again. -/
theorem back_to_menu {options : List (MenuItem × Condition)}
    (hrested : Rested characters presets book (.menu options) world)
    (hchain : 0 < book.settings.maxChain)
    (hplace : shown.place = (world.moveTo (world.cursor.atStep (world.cursor.step + 1))).place)
    (hprompt : shown.prompt = ⟨none, true⟩) (htidy : Tidy presets shown) (allowed : Nat) :
    ∃ before, Rewind.back book (builtinRegistry characters presets) (allowed + 1) shown
        = .ok () before
      ∧ LedBack presets book.settings.typeAnimation shown.sheet world before := by
  rw [back_menu hrested.here (congrArg Place.cursor hplace) (congrArg Place.storage hplace)
    (by rw [hprompt])]
  refine runInPlace_menu hrested hchain ?_ hprompt (htidy.of_eq rfl rfl)
  rw [place_moveTo, hplace]
  rfl

/-- Going back over a jump that was picked from a menu leaves the page and runs the menu again. -/
theorem back_to_pick {options : List (MenuItem × Condition)} {target : String}
    (hrested : Rested characters presets book (.menu options) world)
    (hchain : 0 < book.settings.maxChain)
    (unbraced : Text.occurs Template.openMark target.toList = false)
    (hplace : shown.place = (Jump.entered target world).place)
    (hprompt : shown.prompt = ⟨none, true⟩) (htidy : Tidy presets shown) (allowed : Nat) :
    ∃ before, Rewind.back book (builtinRegistry characters presets) (allowed + 1) shown
        = .ok () before
      ∧ LedBack presets book.settings.typeAnimation shown.sheet.left world before := by
  obtain ⟨mid, hundo, hmid⟩ := undo_jump characters book unbraced hplace htidy
  have hstart : shown.cursor.step = 0 := congrArg (fun place => place.cursor.step) hplace
  have henter : Jump.didRevert book mid = .ok .enter mid := by
    cases hrested.here.of_place hmid.place with
    | menu here field read => exact didRevert_menu here
  have hback : Rewind.back book (builtinRegistry characters presets) (allowed + 1) shown
      = Run.runInPlace book (builtinRegistry characters presets) mid := by
    simp only [Rewind.back, target?_entered hplace, hundo, henter, settle_start hstart]
  rw [hback, ← show mid.sheet = shown.sheet.left from hmid.sheet]
  exact runInPlace_menu hrested hchain hmid.place (hmid.prompt.trans hprompt) hmid.tidy

/-- **Going back to the stop that was left.** -/
theorem back_stop {leap : Bool} {start : World}
    (hrested : Rested characters presets book stop world) (hchain : 0 < book.settings.maxChain)
    (hleaves : Leaves stop world leap start) (hplace : shown.place = start.place)
    (hprompt : shown.prompt = ⟨none, true⟩) (htidy : Tidy presets shown) {sheet : Sheet}
    (hsheet : stop.unshown? (Sheet.leftIf leap shown.sheet) = some sheet) (allowed : Nat) :
    ∃ before, Rewind.back book (builtinRegistry characters presets) (allowed + 1) shown
        = .ok () before
      ∧ LedBack presets book.settings.typeAnimation sheet world before := by
  cases hleaves with
  | step place =>
    cases stop with
    | line say => exact back_to_line hrested (hplace.trans place) hprompt htidy hsheet allowed
    | menu options =>
      obtain rfl : shown.sheet = sheet := Option.some.inj hsheet
      exact back_to_menu hrested hchain (hplace.trans place) hprompt htidy allowed
  | jump menu unbraced place =>
    subst menu
    obtain rfl : shown.sheet.left = sheet := Option.some.inj hsheet
    exact back_to_pick hrested hchain unbraced (hplace.trans place) hprompt htidy allowed

/-- **Going back once undoes a move.**  Place and menu are as before; the sheet is what undoing the
stop makes of it. -/
theorem Moved.revert (h : Moved characters presets book stop world jumped landing after)
    (hrested : Rested characters presets book stop world) (hplace : shown.place = after.place)
    (hprompt : shown.prompt = ⟨none, true⟩) (htidy : Tidy presets shown) {sheet : Sheet}
    (hsheet : stop.unshown? (Sheet.leftIf jumped shown.sheet) = some sheet) :
    ∃ before, Rewind.revert book (builtinRegistry characters presets) shown = .ok () before
      ∧ LedBack presets book.settings.typeAnimation sheet world before := by
  obtain @⟨leap, more, count, landing, start, last, after, departed, allowed, way⟩ := h
  obtain ⟨mid, hmid, hback⟩ := way.passage.back (hplace.trans way.landed.place) htidy
  obtain ⟨left, hleft⟩ := Nat.exists_eq_add_of_lt allowed
  have hchain : book.settings.maxChain = count + (left + 1) := hleft
  have hsheet' : stop.unshown? (Sheet.leftIf leap mid.sheet) = some sheet := by
    rw [hmid.sheet, Sheet.leftIf_leftIf, Bool.or_comm, hsheet]
  obtain ⟨before, hbefore, hled⟩ := back_stop hrested (by omega) departed.leaves hmid.place
    (hmid.prompt.trans hprompt) hmid.tidy hsheet' left
  exact ⟨before, by rw [Rewind.revert, hchain, hback, hbefore], hled⟩

/-- **Going back to a line whose page is gone** is refused, after what was passed is undone. -/
theorem Moved.revert_error {say : Say}
    (h : Moved characters presets book (.line say) world jumped landing after)
    (hrested : Rested characters presets book (.line say) world)
    (hplace : shown.place = after.place) (htidy : Tidy presets shown)
    (hnone : say.unshown? (Sheet.leftIf jumped shown.sheet) = none)
    (hclosed : shown.sheet.closed = []) :
    ∃ left, Rewind.revert book (builtinRegistry characters presets) shown
      = .error (.rejected "no NVL page to restore") left := by
  obtain @⟨leap, more, count, landing, start, last, after, departed, allowed, way⟩ := h
  obtain ⟨mid, hmid, hback⟩ := way.passage.back (hplace.trans way.landed.place) htidy
  obtain ⟨left, hleft⟩ := Nat.exists_eq_add_of_lt allowed
  have hchain : book.settings.maxChain = count + (left + 1) := hleft
  cases departed.leaves with
  | jump menu unbraced place => cases menu
  | step place =>
    have hnone' : say.unshown? mid.sheet = none := by
      rw [hmid.sheet]
      exact hnone
    have hclosed' : mid.sheet.closed = [] := by rw [hmid.sheet, Sheet.closed_leftIf, hclosed]
    have hmoved := hmid.place.trans place
    rw [Rewind.revert, hchain, hback, back_line_error hrested.here (congrArg Place.cursor hmoved)
      (congrArg Place.storage hmoved) hnone' hclosed']
    exact ⟨_, rfl⟩

end Reverting

end Narrative
