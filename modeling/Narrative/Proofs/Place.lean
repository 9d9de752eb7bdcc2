import Mathlib.Data.List.Basic
import Narrative.Proofs.Look

/-!
# Proofs/Place — where a world stands in its story, and what it keeps of the page

The look of a world falls into parts that going forward and back treat differently.  Its **place**
is the position, the variables, the stacks and the storage, without the running particle system and
without the closed pages; undoing what a statement did to the place is what going back is for.  Its
**sheet** is the page with the pages closed before it.  Its **prompt** is what the player is waited
for with: the pending menu, and whether the line is all there.

A world is **tidy** when the running particle system is the newest on its stack and the stacks are
those of the built-in actions; then the three parts determine the look (`Tidy.look_eq`).
-/

namespace Narrative

/-! ## The parts of a look -/

/-- **Where a world stands in its story.** -/
structure Place where
  /-- Where the game is. -/
  cursor : Cursor
  /-- The variables, with no particle system running. -/
  vars : Fields Json
  /-- The entries of each stack, newest first, with no page closed. -/
  entries : String → List Json
  /-- The world data. -/
  storage : Storage
  /-- Whether a callback runs. -/
  block : Bool
  /-- Whether a game is in progress. -/
  playing : Bool
  /-- Whether the text box is hidden. -/
  distractionFree : Bool

/-- **What a world keeps of the page.** -/
structure Sheet where
  /-- Whether the page shows. -/
  showing : Bool
  /-- Its lines, oldest first. -/
  lines : List Line
  /-- The pages closed before, as they are kept, newest first. -/
  closed : List Json

/-- **What the player is waited for with.** -/
structure Prompt where
  /-- The pending menu, as it is kept. -/
  pending : Option Json
  /-- Whether the text of the last line is all there. -/
  finishedTyping : Bool

namespace Sheet

/-- The page is left, and its lines are dropped. -/
def left (sheet : Sheet) : Sheet := { sheet with showing := false, lines := [] }

/-- The page is left if `leave` says so. -/
def leftIf (leave : Bool) (sheet : Sheet) : Sheet := if leave then sheet.left else sheet

@[simp] theorem leftIf_true (sheet : Sheet) : leftIf true sheet = sheet.left := rfl

@[simp] theorem leftIf_false (sheet : Sheet) : leftIf false sheet = sheet := rfl

theorem leftIf_leftIf (first second : Bool) (sheet : Sheet) :
    leftIf second (leftIf first sheet) = leftIf (first || second) sheet := by
  cases first <;> cases second <;> rfl

@[simp] theorem closed_leftIf (leave : Bool) (sheet : Sheet) :
    (leftIf leave sheet).closed = sheet.closed := by
  cases leave <;> rfl

end Sheet

namespace World

/-- The place of a world. -/
def place (world : World) : Place where
  cursor := world.cursor
  vars := Fields.insert world.state.vars Particles.runningVar (.str "")
  entries := Function.update world.history.entries Page.stack []
  storage := world.storage
  block := world.globals.block
  playing := world.globals.playing
  distractionFree := world.globals.distractionFree

/-- The sheet of a world. -/
def sheet (world : World) : Sheet :=
  ⟨Page.isShowing world, Page.lines world, world.history.entries Page.stack⟩

/-- The prompt of a world. -/
def prompt (world : World) : Prompt :=
  ⟨world.globals.get? Choice.pendingKey, world.globals.finishedTyping⟩

end World

/-! ## Fields written twice -/

section Fields

variable {α : Type}

/-- Of two values written under one name, the second stays. -/
theorem Fields.insert_insert (fields : Fields α) (name : String) (first second : α) :
    Fields.insert (Fields.insert fields name first) name second
      = Fields.insert fields name second := by
  induction fields with
  | nil => simp [Fields.insert]
  | cons field rest ih =>
    obtain ⟨other, value⟩ := field
    by_cases h : other = name <;> simp [Fields.insert, h, ih]

/-- Writing what is there changes nothing. -/
theorem Fields.insert_get? {fields : Fields α} {name : String} {value : α}
    (h : Fields.get? fields name = some value) : Fields.insert fields name value = fields := by
  induction fields with
  | nil => cases h
  | cons field rest ih =>
    obtain ⟨other, found⟩ := field
    rw [Fields.get?_cons] at h
    rw [Fields.insert]
    split at h
    · next heq =>
      obtain rfl := Option.some.inj h
      rw [if_pos heq, heq]
    · next hne => rw [if_neg hne, ih h]

/-- Fields that agree up to a value, and in that value, are the same. -/
theorem Fields.eq_of_insert_eq {fields others : Fields α} {name : String} {value blank : α}
    (hinsert : Fields.insert fields name blank = Fields.insert others name blank)
    (hget : Fields.get? fields name = some value) (hget' : Fields.get? others name = some value) :
    fields = others := by
  have hwritten : Fields.insert fields name value = Fields.insert others name value := by
    rw [← Fields.insert_insert fields name blank, hinsert, Fields.insert_insert]
  rwa [Fields.insert_get? hget, Fields.insert_get? hget'] at hwritten

end Fields

/-- A value that is read as a text is that text. -/
theorem Json.eq_str_of_asText? {value : Json} {text : String} (h : value.asText? = some text) :
    value = .str text := by
  cases value <;> simp_all [Json.asText?]

/-- A variable that holds a text, as it is kept. -/
theorem State.get?_of_getText? {state : State} {name text : String}
    (h : state.getText? name = some text) : Fields.get? state.vars name = some (.str text) := by
  obtain ⟨value, hvalue, htext⟩ := Option.bind_eq_some_iff.1 h
  exact hvalue.trans (congrArg some (Json.eq_str_of_asText? htext))

/-! ## The parts after an operation -/

theorem History.entries_push_eq (history : History) (name : String) (entry : Json) :
    (history.push name entry).entries
      = Function.update history.entries name (entry :: history.entries name) := by
  funext other
  rw [History.entries_push, Function.update_apply]

theorem History.entries_pop_eq (history : History) (name : String) :
    (history.pop name).entries
      = Function.update history.entries name (history.entries name).tail := by
  funext other
  rw [History.entries_pop, Function.update_apply]

section Operations

variable (world : World)

theorem place_cursor : world.place.cursor = world.cursor := rfl

@[simp] theorem place_emit (effects : List Effect) : (world.emit effects).place = world.place := rfl

@[simp] theorem place_report (report : Report) : (world.report report).place = world.place := rfl

@[simp] theorem place_moveTo (cursor : Cursor) :
    (world.moveTo cursor).place = { world.place with cursor := cursor } := rfl

@[simp] theorem place_setRunning (value : Json) :
    (world.setVar Particles.runningVar value).place = world.place := by
  simp [World.place, World.setVar, State.set, Fields.insert_insert, World.cursor]

theorem place_push {name : String} (h : name ≠ Page.stack) (entry : Json) :
    (world.push name entry).place
      = { world.place with
          entries := Function.update world.place.entries name
            (entry :: world.place.entries name) } := by
  simp only [World.place, World.push, History.entries_push_eq]
  rw [Function.update_comm h.symm, Function.update_of_ne h]
  rfl

theorem place_pop {name : String} (h : name ≠ Page.stack) :
    (world.pop name).place
      = { world.place with
          entries := Function.update world.place.entries name
            (world.place.entries name).tail } := by
  simp only [World.place, World.pop, History.entries_pop_eq]
  rw [Function.update_comm h.symm, Function.update_of_ne h]
  rfl

@[simp] theorem place_push_page (entry : Json) :
    (world.push Page.stack entry).place = world.place := by
  simp only [World.place, World.push, History.entries_push_eq, Function.update_idem]
  rfl

@[simp] theorem place_pop_page : (world.pop Page.stack).place = world.place := by
  simp only [World.place, World.pop, History.entries_pop_eq, Function.update_idem]
  rfl

@[simp] theorem place_leave : (Page.leave world).place = world.place := rfl

@[simp] theorem place_display (lines : List Line) :
    (Page.display world lines).place = world.place := rfl

/-- The sheet is in the look. -/
theorem sheet_eq : world.sheet
    = ⟨world.look.showing, world.look.page, (world.look.history Page.stack).getD []⟩ := rfl

@[simp] theorem sheet_emit (effects : List Effect) : (world.emit effects).sheet = world.sheet := rfl

@[simp] theorem sheet_moveTo (cursor : Cursor) : (world.moveTo cursor).sheet = world.sheet := rfl

@[simp] theorem sheet_setVar (name : String) (value : Json) :
    (world.setVar name value).sheet = world.sheet := rfl

theorem sheet_push {name : String} (h : name ≠ Page.stack) (entry : Json) :
    (world.push name entry).sheet = world.sheet := by
  simp [sheet_eq, h.symm]

theorem sheet_pop {name : String} (h : name ≠ Page.stack) :
    (world.pop name).sheet = world.sheet := by
  simp [sheet_eq, h.symm]

@[simp] theorem sheet_push_page (entry : Json) :
    (world.push Page.stack entry).sheet
      = { world.sheet with closed := entry :: world.sheet.closed } := by
  simp [sheet_eq]

@[simp] theorem sheet_pop_page :
    (world.pop Page.stack).sheet = { world.sheet with closed := world.sheet.closed.tail } := by
  cases h : world.look.history Page.stack <;> simp [sheet_eq, h]

@[simp] theorem sheet_leave : (Page.leave world).sheet = world.sheet.left := by
  simp [sheet_eq, Sheet.left]

@[simp] theorem sheet_display (lines : List Line) :
    (Page.display world lines).sheet
      = { world.sheet with showing := true, lines := lines } := by
  simp [sheet_eq]

@[simp] theorem sheet_setLines (lines : List Line) :
    (Page.setLines world lines).sheet = { world.sheet with lines := lines } := by
  simp [sheet_eq]

@[simp] theorem sheet_close : (Choice.close world).sheet = world.sheet := by
  simp [sheet_eq]

@[simp] theorem sheet_offer (menu : Json) :
    (world.withGlobals (·.set Choice.pendingKey menu)).sheet = world.sheet := by
  simp [sheet_eq]

/-- The prompt is in the look. -/
theorem prompt_eq : world.prompt = ⟨world.look.pending, world.look.finishedTyping⟩ := rfl

@[simp] theorem prompt_emit (effects : List Effect) : (world.emit effects).prompt = world.prompt :=
  rfl

@[simp] theorem prompt_moveTo (cursor : Cursor) : (world.moveTo cursor).prompt = world.prompt := rfl

@[simp] theorem prompt_setVar (name : String) (value : Json) :
    (world.setVar name value).prompt = world.prompt := rfl

@[simp] theorem prompt_push (name : String) (entry : Json) :
    (world.push name entry).prompt = world.prompt := rfl

@[simp] theorem prompt_pop (name : String) : (world.pop name).prompt = world.prompt := rfl

@[simp] theorem prompt_leave : (Page.leave world).prompt = world.prompt := by
  simp [prompt_eq]

@[simp] theorem prompt_display (lines : List Line) :
    (Page.display world lines).prompt = world.prompt := by
  simp [prompt_eq]

@[simp] theorem prompt_setLines (lines : List Line) :
    (Page.setLines world lines).prompt = world.prompt := by
  simp [prompt_eq]

@[simp] theorem prompt_typed (finished : Bool) :
    (world.withGlobals ({ · with finishedTyping := finished })).prompt
      = { world.prompt with finishedTyping := finished } := rfl

@[simp] theorem prompt_close :
    (Choice.close world).prompt = { world.prompt with pending := none } := by
  simp [prompt_eq]

/-- An option is offered only while a menu waits. -/
theorem pending_of_offered {item : MenuItem} (hitem : item ∈ Choice.offered world) :
    ∃ menu, world.prompt.pending = some menu := by
  cases hpending : world.globals.get? Choice.pendingKey with
  | some menu => exact ⟨menu, hpending⟩
  | none =>
    rw [Choice.offered, hpending] at hitem
    cases hitem

theorem pending_close : (Choice.close world).prompt.pending = none := by rw [prompt_close]

theorem pending_hide : (Choice.hide world).prompt.pending = none := by
  rw [prompt_eq, look_hide]

@[simp] theorem prompt_offer (menu : Json) :
    (world.withGlobals (·.set Choice.pendingKey menu)).prompt
      = { world.prompt with pending := some menu } := by
  simp [prompt_eq]

end Operations

/-! ## Tidy worlds -/

/-- **The stacks are those of the built-in actions, and the running particle system is the newest
on its stack**, each of whose statements names a preset. -/
structure Tidy (presets : Fields Json) (world : World) : Prop where
  /-- These stacks exist, and no others. -/
  exist : ∀ name, (world.history.get? name).isSome = true
    ↔ name ∈ [Jump.stack, Jump.labelStack, Particles.stack, Page.stack]
  /-- The running statement heads the statements on the stack. -/
  running : ∃ statements : List String,
    world.history.entries Particles.stack = statements.map .str
      ∧ (∀ statement ∈ statements, (Particles.effect? presets statement).isSome = true)
      ∧ world.state.getText? Particles.runningVar = some (statements.head?.getD "")

namespace Tidy

variable {presets : Fields Json} {w v : World}

theorem of_eq (h : Tidy presets w) (hhistory : v.history = w.history)
    (hvars : v.state.vars = w.state.vars) : Tidy presets v where
  exist := hhistory ▸ h.exist
  running := by
    obtain ⟨statements, hstack, heffects, hvar⟩ := h.running
    exact ⟨statements, hhistory ▸ hstack, heffects, by
      rw [State.getText?, State.get?, hvars]; exact hvar⟩

theorem exist_push (h : Tidy presets w) {name : String}
    (hname : name ∈ [Jump.stack, Jump.labelStack, Particles.stack, Page.stack]) (entry : Json)
    (other : String) : ((w.push name entry).history.get? other).isSome = true
      ↔ other ∈ [Jump.stack, Jump.labelStack, Particles.stack, Page.stack] := by
  have hpush : (w.push name entry).history.get? = _ := History.get?_push w.history name entry
  rw [hpush, Function.update_apply]
  split
  · next heq => simpa [heq] using hname
  · exact h.exist other

theorem exist_pop (h : Tidy presets w) (name other : String) :
    ((w.pop name).history.get? other).isSome = true
      ↔ other ∈ [Jump.stack, Jump.labelStack, Particles.stack, Page.stack] := by
  have hpop : (w.pop name).history.get? = _ := History.get?_pop w.history name
  rw [hpop, Function.update_apply]
  split
  · next heq => rw [Option.isSome_map, heq, h.exist]
  · exact h.exist other

/-- An entry on a stack of its own, not of particles. -/
theorem push (h : Tidy presets w) {name : String}
    (hname : name ∈ [Jump.stack, Jump.labelStack, Page.stack]) (entry : Json) :
    Tidy presets (w.push name entry) where
  exist := h.exist_push (by
    rcases List.mem_cons.1 hname with rfl | hname
    · simp
    · rcases List.mem_cons.1 hname with rfl | hname
      · simp
      · simp [List.mem_singleton.1 hname]) entry
  running := by
    obtain ⟨statements, hstack, heffects, hvar⟩ := h.running
    refine ⟨statements, ?_, heffects, hvar⟩
    have hne : Particles.stack ≠ name := by rintro rfl; revert hname; decide
    rw [← hstack]
    exact (History.entries_push ..).trans (if_neg hne)

/-- …and off it. -/
theorem pop (h : Tidy presets w) {name : String} (hne : Particles.stack ≠ name) :
    Tidy presets (w.pop name) where
  exist := h.exist_pop name
  running := by
    obtain ⟨statements, hstack, heffects, hvar⟩ := h.running
    refine ⟨statements, ?_, heffects, hvar⟩
    rw [← hstack]
    exact (History.entries_pop ..).trans (if_neg hne)

/-- **A particle system starts.** -/
theorem start (h : Tidy presets w) {statement : String}
    (heffect : (Particles.effect? presets statement).isSome = true) :
    Tidy presets ((w.push Particles.stack (.str statement)).setVar Particles.runningVar
      (.str statement)) where
  exist := h.exist_push (by simp) (.str statement)
  running := by
    obtain ⟨statements, hstack, heffects, -⟩ := h.running
    refine ⟨statement :: statements, ?_, ?_, ?_⟩
    · rw [List.map_cons, ← hstack]
      exact (History.entries_push ..).trans (if_pos rfl)
    · exact List.forall_mem_cons.2 ⟨heffect, heffects⟩
    · simp [World.setVar, State.getText?, State.get?, State.set, Json.asText?]

/-- **It stops**, and the one before it runs again. -/
theorem stop (h : Tidy presets w) {statement : String}
    (hbefore : ((w.history.entries Particles.stack)[1]?.bind Json.asText?).getD "" = statement) :
    Tidy presets ((w.pop Particles.stack).setVar Particles.runningVar (.str statement)) where
  exist := h.exist_pop Particles.stack
  running := by
    obtain ⟨statements, hstack, heffects, -⟩ := h.running
    refine ⟨statements.tail, ?_, fun other hother => heffects other (List.mem_of_mem_tail hother),
      ?_⟩
    · rw [List.map_tail, ← hstack]
      exact (History.entries_pop ..).trans (if_pos rfl)
    · have hhead : statements.tail.head?.getD "" = statement := by
        rw [← hbefore, hstack]
        rcases statements with _ | ⟨first, _ | ⟨second, rest⟩⟩ <;> rfl
      rw [hhead]
      simp [World.setVar, State.getText?, State.get?, State.set, Json.asText?]

/-- **Tidy worlds at one place with the same closed pages have one snapshot.** -/
theorem snapshot_eq (hw : Tidy presets w) (hv : Tidy presets v) (hplace : w.place = v.place)
    (hclosed : w.sheet.closed = v.sheet.closed) : w.snapshot = v.snapshot := by
  have hentries : w.history.entries = v.history.entries := by
    funext name
    by_cases hname : name = Page.stack
    · rw [hname]
      exact hclosed
    · simpa [World.place, hname] using congrFun (congrArg Place.entries hplace) name
  have hhistory : w.history = v.history := by
    refine History.ext_get? (funext fun name => ?_)
    have hentry : (w.history.get? name).getD [] = (v.history.get? name).getD [] :=
      congrFun hentries name
    have hexist : (w.history.get? name).isSome = (v.history.get? name).isSome :=
      Bool.eq_iff_iff.2 ((hw.exist name).trans (hv.exist name).symm)
    cases hget : w.history.get? name <;> cases hget' : v.history.get? name <;> simp_all
  have hvars : w.state.vars = v.state.vars := by
    obtain ⟨statements, hstack, -, hvar⟩ := hw.running
    obtain ⟨others, hstack', -, hvar'⟩ := hv.running
    obtain rfl : statements = others := by
      rw [hentries, hstack'] at hstack
      exact (List.map_injective_iff.mpr (fun _ _ h => Json.str.inj h) hstack).symm
    exact Fields.eq_of_insert_eq (congrArg Place.vars hplace) (State.get?_of_getText? hvar)
      (State.get?_of_getText? hvar')
  have hstate : w.state = v.state := by
    have hcursor : w.state.cursor = v.state.cursor := congrArg Place.cursor hplace
    calc w.state = ⟨w.state.cursor, w.state.vars⟩ := rfl
      _ = ⟨v.state.cursor, v.state.vars⟩ := by rw [hcursor, hvars]
      _ = v.state := rfl
  have hstorage : w.storage = v.storage := congrArg Place.storage hplace
  rw [World.snapshot, World.snapshot, hhistory, hstate, hstorage]

/-- **Tidy worlds at one place with one sheet and one prompt have one look.** -/
theorem look_eq (hw : Tidy presets w) (hv : Tidy presets v) (hplace : w.place = v.place)
    (hsheet : w.sheet = v.sheet) (hprompt : w.prompt = v.prompt) : w.look = v.look := by
  have hsnapshot := hw.snapshot_eq hv hplace (congrArg Sheet.closed hsheet)
  have hstate : w.state = v.state := congrArg Snapshot.state hsnapshot
  have hhistory : w.history = v.history := congrArg Snapshot.history hsnapshot
  have hstorage : w.storage = v.storage := congrArg Place.storage hplace
  have hblock : w.globals.block = v.globals.block := congrArg Place.block hplace
  have hplaying : w.globals.playing = v.globals.playing := congrArg Place.playing hplace
  have hfree : w.globals.distractionFree = v.globals.distractionFree :=
    congrArg Place.distractionFree hplace
  have hshowing : Page.isShowing w = Page.isShowing v := congrArg Sheet.showing hsheet
  have hlines : Page.lines w = Page.lines v := congrArg Sheet.lines hsheet
  have hmenu : w.globals.get? Choice.pendingKey = v.globals.get? Choice.pendingKey :=
    congrArg Prompt.pending hprompt
  have htyped : w.globals.finishedTyping = v.globals.finishedTyping :=
    congrArg Prompt.finishedTyping hprompt
  simp only [World.look, hstate, hhistory, hstorage, hblock, hplaying, hfree, htyped, hshowing,
    hlines, hmenu]

end Tidy

end Narrative
