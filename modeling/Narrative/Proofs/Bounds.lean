import Narrative.Proofs.Driven

/-!
# Proofs/Bounds — the cursor stays within its label

A step goes at most to the end of the label, and a jump goes to the start of one.  Undoing a jump
goes back to where its entry says, so the bound on the cursor lasts only together with the bound on
the entries (`Trail.InBounds`); the entries are made from the cursor, so this one lasts only
together with the first.  Whatever a host does in one language, the cursor is at a statement of its
label or at the end of it, and so is every place that a jump can be undone to (`cursor_in_bounds`).
-/

namespace Narrative

/-- The number of statements that a label of a story has in a language; a missing one has none. -/
def Story.labelLength (story : Story) (language name : String) : Nat :=
  ((story.script?.bind fun script =>
    script.label? (if story.settings.multiLanguage then language else "") name).map
      List.length).getD 0

theorem Playbook.Tells.labelLength {story : Story} {language : String} {book : Playbook}
    (h : book.Tells story (· = language)) : book.labelLength = story.labelLength language := by
  funext name
  rw [Playbook.labelLength, Playbook.label?, Playbook.language, Story.labelLength, h.script,
    h.settings, h.spoken, Option.bind_some]

/-- **The cursor, and every place that a jump can be undone to**, is at most at the end of its
label. -/
structure Trail.InBounds (length : String → Nat) (trail : Trail) : Prop where
  /-- The cursor. -/
  cursor : trail.cursor.step ≤ length trail.cursor.label
  /-- Where the jumps were made from. -/
  jumps : ∀ value ∈ trail.entries Jump.stack,
    ∃ entry : JumpEntry, value = entry.toJson ∧ entry.step ≤ length entry.source

namespace Trail.InBounds

variable {length : String → Nat} {presets : Fields Json} {book : Playbook} {trail next : Trail}

/-- Another cursor within its label, and no other jumps. -/
theorem congr (h : trail.InBounds length) (hcursor : next.cursor.step ≤ length next.cursor.label)
    (hjumps : ∀ value ∈ next.entries Jump.stack, value ∈ trail.entries Jump.stack) :
    next.InBounds length :=
  ⟨hcursor, fun value hvalue => h.jumps value (hjumps value hvalue)⟩

/-- Taking the newest jump off leaves jumps that were there. -/
theorem mem_pop {value : Json} (h : value ∈ (trail.pop Jump.stack).entries Jump.stack) :
    value ∈ trail.entries Jump.stack := by
  rw [entries_pop, if_pos rfl] at h
  exact List.mem_of_mem_tail h

/-- **A jump** is remembered with the place that it was made from. -/
theorem jumped (h : trail.InBounds length) (target : String) :
    (((trail.push Jump.stack
        (JumpEntry.toJson ⟨trail.cursor.label, target, trail.cursor.step⟩)).moveTo
      (Cursor.start target)).push Jump.labelStack (.str target)).InBounds length := by
  refine ⟨Nat.zero_le _, fun value hvalue => ?_⟩
  rw [entries_push, if_neg (by decide), entries_moveTo, entries_push, if_pos rfl] at hvalue
  obtain rfl | hvalue := List.mem_cons.1 hvalue
  · exact ⟨_, rfl, h.cursor⟩
  · exact h.jumps value hvalue

/-- **Undoing a jump** goes to where it was made from. -/
theorem returned (h : trail.InBounds length) {value : Json} {entry : JumpEntry}
    (newest : (trail.entries Jump.stack).head? = some value)
    (read : JumpEntry.ofJson? value = some entry) :
    (((trail.pop Jump.stack).pop Jump.labelStack).moveTo ⟨entry.source, entry.step⟩).InBounds
      length := by
  refine h.congr ?_ fun other hother => ?_
  · obtain ⟨made, rfl, hstep⟩ := h.jumps value (List.mem_of_mem_head? newest)
    obtain rfl : made = entry := Option.some.inj ((JumpEntry.ofJson?_toJson made).symm.trans read)
    exact hstep
  · rw [entries_moveTo, entries_pop, if_neg (by decide)] at hother
    exact mem_pop hother

/-- **The bounds last**, in a book whose labels have these lengths. -/
theorem lasting (hlength : book.labelLength = length) :
    Lasting presets book (Trail.InBounds length) where
  onward trail next htrail hnext := by
    cases hnext with
    | stayed => exact htrail
    | jumped target => exact htrail.jumped target
    | stepped inside =>
      rw [hlength] at inside
      exact htrail.congr inside fun _ hvalue => hvalue
    | started kind defined =>
      refine htrail.congr htrail.cursor fun value hvalue => ?_
      rwa [entries_running, entries_push, if_neg (by decide)] at hvalue
  backward trail next htrail hnext := by
    cases hnext with
    | stayed => exact htrail
    | lost => exact htrail.congr htrail.cursor fun value hvalue => mem_pop hvalue
    | returned newest read => exact htrail.returned newest read
    | stopped =>
      refine htrail.congr htrail.cursor fun value hvalue => ?_
      rwa [entries_running, entries_pop, if_neg (by decide)] at hvalue
  behind trail htrail :=
    htrail.congr (Nat.le_trans (Nat.sub_le _ 1) htrail.cursor) fun _ hvalue => hvalue
  home trail next htrail hnext := hnext.congr htrail.cursor fun _ hvalue => hvalue

/-- A new game is at the start of a label, and has made no jumps. -/
theorem start (label : String) : (Trail.start label).InBounds length :=
  ⟨Nat.zero_le _, fun _ hvalue => absurd hvalue List.not_mem_nil⟩

end Trail.InBounds

/-- Within its label, a cursor without a statement is at the end. -/
theorem Playbook.step_eq {book : Playbook} {cursor : Cursor} (hnone : book.statement? cursor = none)
    (hbound : cursor.step ≤ book.labelLength cursor.label) :
    cursor.step = book.labelLength cursor.label := by
  refine Nat.le_antisymm hbound ?_
  rw [Playbook.labelLength]
  cases hlabel : book.label? cursor.label with
  | none => exact Nat.zero_le _
  | some statements =>
    have hstep : statements[cursor.step]? = none := by
      have hbind : (book.label? cursor.label).bind (·[cursor.step]?) = none := hnone
      rwa [hlabel, Option.bind_some] at hbind
    exact List.getElem?_eq_none_iff.1 hstep

section Bounds

variable {story : Story} {language : String} {game : Game}

/-- **The cursor is at a statement of its label or at the end of it**, and every jump that can be
undone was made from within its label or from the end of it, whatever the host did and whatever came
of it. -/
theorem cursor_in_bounds (h : Driven story (· = language) game) :
    game.cursor.step ≤ game.book.labelLength game.cursor.label
      ∧ (game.book.current? game.world = none →
          game.cursor.step = game.book.labelLength game.cursor.label)
      ∧ ∀ value ∈ game.world.history.entries Jump.stack,
          ∃ entry : JumpEntry, value = entry.toJson
            ∧ entry.step ≤ game.book.labelLength entry.source := by
  have hlasts : game.Lasts story (· = language) (Trail.InBounds (story.labelLength language)) :=
    h.lasts (fun _ hbook => Trail.InBounds.lasting hbook.labelLength) (.start _)
  have hbounds : game.world.trail.InBounds game.book.labelLength := by
    rw [hlasts.book.labelLength]
    exact hlasts.trail
  refine ⟨hbounds.cursor, fun hnone => Playbook.step_eq hnone hbounds.cursor, fun value hvalue => ?_⟩
  rw [← entries_trail (by decide)] at hvalue
  exact hbounds.jumps value hvalue

end Bounds

/-! ## Beyond the last statement -/

/-- A story that ends one statement after a jump. -/
def brinkStory : Story :=
  { script := .obj [("Start", .arr [.str "A", .str "jump Cliff"]), ("Cliff", .arr [.str "B"])]
    characters := Table.empty
    particles := []
    storage := []
    settings := { typeAnimation := false } }

/-- The story, set up. -/
def brinkReady : Game :=
  Result.left (Game.setup (((brinkStory.gameWith? brinkStory.registry).get
    (by decide +kernel)).withPreferences {}))

/-- The story, after going on past its last statement. -/
def brinkPassed : Game := Call.proceed.left (Call.proceed.left (Call.start.left brinkReady))

/-- The theorem about the end of the story: the cursor is past the last statement, and the jump can
be undone. -/
theorem cursor_in_bounds_brink :
    Driven brinkStory (· = ({} : Preferences).language) brinkPassed
      ∧ brinkPassed.book.current? brinkPassed.world = none
      ∧ brinkPassed.cursor = ⟨"Cliff", 1⟩
      ∧ brinkPassed.cursor.step = brinkPassed.book.labelLength brinkPassed.cursor.label
      ∧ ∀ value ∈ brinkPassed.world.history.entries Jump.stack,
          ∃ entry : JumpEntry, value = entry.toJson
            ∧ entry.step ≤ brinkPassed.book.labelLength entry.source := by
  have hready : Driven brinkStory (· = ({} : Preferences).language) brinkReady :=
    .setup {} rfl (Option.some_get _).symm (setup_ok_left rfl)
  have hpassed : Driven brinkStory (· = ({} : Preferences).language) brinkPassed :=
    ((hready.call .start).call .proceed).call .proceed
  have hnone : (brinkPassed.book.current? brinkPassed.world).isNone = true := by decide +kernel
  obtain ⟨-, hend, hjumps⟩ := cursor_in_bounds hpassed
  have hnone := Option.isNone_iff_eq_none.1 hnone
  exact ⟨hpassed, hnone, by decide +kernel, hend hnone, hjumps⟩

end Narrative
