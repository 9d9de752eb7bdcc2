import Narrative.Proofs.Calls

/-!
# Proofs/PageEdges — where going back does not restore the page

Going back undoes the place of a move, but the page only where both stops treat it alike.  Two kinds
of moves do not:

* a jump drops a page that going back expects among the closed ones, so a line for the page that was
  left by a jump is never restored;
* centered lines and menus leave the page alone, and a line for the page takes its line off or puts
  it on regardless: from a line for the page to a centered line going back loses a line, and from a
  centered line or a menu to a line for the page going back leaves one too many.
-/

namespace Narrative

/-! ## A page that a jump drops -/

section Jumps

variable {characters : Table Character} {presets : Fields Json} {game after : Game} {stop : Stop}
  {say : Say}

/-- Undoing a line for the page after a jump looks for the page among the closed ones. -/
theorem unshown?_after_jump {sheet : Sheet} {pages : List (List Line)} (hnvl : say.nvl = true)
    (hclosed : sheet.closed = pages.map Line.pageToJson) :
    say.unshown? (Sheet.leftIf true sheet)
      = pages.head?.map fun older => ⟨true, older, pages.tail.map Line.pageToJson⟩ := by
  have hleft : (Sheet.leftIf true sheet).closed = pages.map Line.pageToJson := hclosed
  have hhidden : (Sheet.leftIf true sheet).showing = false := rfl
  rw [Say.unshown?, if_pos hnvl, if_neg (by rw [hhidden]; exact Bool.false_ne_true), hleft]
  cases pages <;> simp

/-- Going back over a jump from a page shows the page that was closed last. -/
theorem Moved.rollback_older {landing : Stop} {older : List Line} {rest : List (List Line)}
    (h : Moved characters presets game.book (.line say) game.world true landing after.world)
    (hregistry : game.registry = builtinRegistry characters presets)
    (hrested : Rested characters presets game.book (.line say) game.world)
    (hfixed : after.fixed = game.fixed) (hnvl : say.nvl = true)
    (hclosed : after.world.sheet.closed = (older :: rest).map Line.pageToJson) :
    ∃ before, Game.rollback after = .ok true before
      ∧ before.cursor = game.cursor ∧ Page.isShowing before.world = true
      ∧ Page.lines before.world = older
      ∧ before.world.history.entries Page.stack = rest.map Line.pageToJson := by
  obtain ⟨before, hbefore, -, hled⟩ :=
    h.rollback hregistry hrested hfixed (unshown?_after_jump hnvl hclosed)
  exact ⟨before, hbefore, congrArg Place.cursor hled.place, congrArg Sheet.showing hled.sheet,
    congrArg Sheet.lines hled.sheet, congrArg Sheet.closed hled.sheet⟩

/-- **A jump from a page is not undone.**  Going back is refused when no page was closed before, and
otherwise shows the page that was closed last in place of the one that was left; in no case is the
snapshot as it was. -/
theorem rollback_jump_from_page {target : String} {pages : List (List Line)}
    (hregistry : game.registry = builtinRegistry characters presets)
    (hbook : Traceable game.book game.world)
    (hrested : Rested characters presets game.book stop game.world)
    (hline : lineAt? characters game.book game.world = some say) (hnvl : say.nvl = true)
    (hclosed : game.world.history.entries Page.stack = pages.map Line.pageToJson)
    (hjump : kindAt? game.book game.world
      (game.cursor.atStep (game.cursor.step + 1)) = some (.jump target))
    (hproceed : Game.proceed game = .ok true after) :
    (pages = [] → ∃ left, Game.rollback after = .ok false left)
      ∧ (∀ older rest, pages = older :: rest → ∃ before, Game.rollback after = .ok true before
        ∧ before.cursor = game.cursor ∧ Page.isShowing before.world = true
        ∧ Page.lines before.world = older
        ∧ before.world.history.entries Page.stack = rest.map Line.pageToJson)
      ∧ ∀ before, Game.rollback after = .ok true before → before.snapshot ≠ game.snapshot := by
  obtain rfl : stop = .line say := by
    rw [hrested.here.lineAt?_eq] at hline
    exact Stop.eq_line hline
  obtain ⟨hfixed, jumped, landing, hmoved⟩ :=
    moved_of_proceed hregistry hbook hrested hproceed
  obtain rfl := hmoved.jumped_of_kindAt? hjump
  -- The jump left the page, and no page was closed since.
  have hsheet : after.world.sheet.closed = pages.map Line.pageToJson := by
    rw [hmoved.sheet_eq]
    exact (landing.closed_shown true fun _ _ _ _ => rfl).trans hclosed
  cases pages with
  | nil =>
    obtain ⟨left, hleft⟩ := hmoved.rollback_stays hregistry hrested hfixed
      (unshown?_after_jump hnvl hsheet) hsheet
    refine ⟨fun _ => ⟨left, hleft⟩, fun older rest h => by simp at h, fun before h => ?_⟩
    rw [hleft] at h
    simp at h
  | cons older rest =>
    obtain ⟨before, hbefore, hcursor, hshows, hlines, hpages⟩ :=
      hmoved.rollback_older hregistry hrested hfixed hnvl hsheet
    refine ⟨fun h => by simp at h, fun first more h => ?_, fun other h hsnapshot => ?_⟩
    · obtain ⟨rfl, rfl⟩ := List.cons.inj h
      exact ⟨before, hbefore, hcursor, hshows, hlines, hpages⟩
    · -- One closed page is missing.
      rw [hbefore] at h
      obtain rfl := (EStateM.Result.ok.inj h).2
      have hhistory : before.world.history = game.world.history :=
        congrArg Snapshot.history hsnapshot
      rw [hhistory, hclosed] at hpages
      simpa using congrArg List.length hpages

end Jumps

/-! A story in which a jump leaves the first page. -/

/-- A story with a torn page. -/
def tornStory : Story :=
  { script := .obj
      [("Start", .arr [.str "nvl It was late.", .str "jump Inn"]),
        ("Inn", .arr [.str "Good night."])]
    characters := Table.empty
    particles := []
    storage := []
    settings := {} }

/-- The game of the story. -/
def tornMade : Game := (tornStory.gameWith? tornStory.registry).get (by decide +kernel)

/-- The game, set up. -/
def tornReady : Game := Result.left (Game.setup (tornMade.withPreferences {}))

/-- On the page, with its line typed out. -/
def tornBegun : Game := (Result.left (Game.start tornReady)).finishTyping

/-- At the inn. -/
def tornLeft : Game := Result.left (Game.proceed tornBegun)

/-- The jump of this story is not undone. -/
theorem rollback_jump_from_page_torn :
    (∃ left, Game.rollback tornLeft = .ok false left)
      ∧ ∀ before, Game.rollback tornLeft = .ok true before →
        before.snapshot ≠ tornBegun.snapshot := by
  have hmade : tornStory.gameWith? tornStory.registry = some tornMade := (Option.some_get _).symm
  have hready : Game.setup (tornMade.withPreferences {}) = .ok () tornReady := setup_ok_left rfl
  have hbook : Traceable tornReady.book tornReady.world := traceable_of_traces (by decide +kernel)
  obtain ⟨hregistry, htraceable, stop, hrested⟩ :=
    begun_parts hmade hready hbook (Result.eq_ok (by decide +kernel))
  have htyped : Rested tornStory.characters tornStory.particles tornBegun.book stop
      tornBegun.world := hrested.of_place rfl rfl (hrested.tidy.of_eq rfl rfl)
  have hsame : Traceable tornBegun.book tornBegun.world := htraceable.of_storage rfl
  have hclosed : tornBegun.world.history.entries Page.stack
      = ([] : List (List Line)).map Line.pageToJson := List.isEmpty_iff.1 (by decide +kernel)
  obtain ⟨hrefused, -, hnever⟩ := rollback_jump_from_page
    (show tornBegun.registry = _ from hregistry) hsame htyped
    (Option.some_get (by decide +kernel)).symm (by decide +kernel) hclosed
    (show _ = some (Kind.jump "Inn") by decide +kernel) (Result.eq_ok (by decide +kernel))
  exact ⟨hrefused rfl, hnever⟩

/-! ## A page that goes back too far or not far enough -/

section Crossings

variable {characters : Table Character} {presets : Fields Json} {game after : Game} {stop : Stop}
  {next : Say}

/-- **Going back from one stop to another without a jump**, when undoing the first leaves the closed
pages alone. -/
theorem Moved.rollback_straight {landing : Stop} {sheet : Sheet}
    (h : Moved characters presets game.book stop game.world false landing after.world)
    (hregistry : game.registry = builtinRegistry characters presets)
    (hrested : Rested characters presets game.book stop game.world)
    (hfixed : after.fixed = game.fixed) (hsheet : stop.unshown? after.world.sheet = some sheet)
    (hclosed : sheet.closed = game.world.sheet.closed) :
    ∃ before, Game.rollback after = .ok true before ∧ before.snapshot = game.snapshot
      ∧ Page.isShowing before.world = sheet.showing ∧ Page.lines before.world = sheet.lines := by
  obtain ⟨before, hbefore, -, hled⟩ := h.rollback hregistry hrested hfixed hsheet
  have hsame : before.world.sheet.closed = game.world.sheet.closed :=
    (congrArg Sheet.closed hled.sheet).trans hclosed
  exact ⟨before, hbefore, hled.tidy.snapshot_eq hrested.tidy hled.place hsame,
    congrArg Sheet.showing hled.sheet, congrArg Sheet.lines hled.sheet⟩

/-- **From a line for the page to a centered line**: going back takes the last line off the page. -/
theorem Moved.rollback_from_page {say : Say}
    (h : Moved characters presets game.book (.line say) game.world false (.line next) after.world)
    (hregistry : game.registry = builtinRegistry characters presets)
    (hrested : Rested characters presets game.book (.line say) game.world)
    (hfixed : after.fixed = game.fixed) (hnvl : say.nvl = true)
    (hshowing : Page.isShowing game.world = true) (hvoice : next.voice = .centered) :
    ∃ before, Game.rollback after = .ok true before ∧ before.snapshot = game.snapshot
      ∧ Page.isShowing before.world = true
      ∧ Page.lines before.world = (Page.lines game.world).dropLast := by
  have hshown : after.world.sheet = next.shown true true game.world.sheet := h.sheet_eq
  rw [Say.shown, if_pos hvoice] at hshown
  have hpage : game.world.sheet.showing = true := hshowing
  have hunshown : Stop.unshown? (.line say) after.world.sheet
      = some { game.world.sheet with lines := game.world.sheet.lines.dropLast } := by
    simp [Stop.unshown?, Say.unshown?, hnvl, hshown, hpage]
  obtain ⟨before, hbefore, hsnapshot, hshows, hlines⟩ :=
    h.rollback_straight hregistry hrested hfixed hunshown rfl
  exact ⟨before, hbefore, hsnapshot, hshows.trans hpage, hlines⟩

/-- **From a centered line or a menu to a line for the page**: going back leaves the line on it. -/
theorem Moved.rollback_onto_page
    (h : Moved characters presets game.book stop game.world false (.line next) after.world)
    (hregistry : game.registry = builtinRegistry characters presets)
    (hrested : Rested characters presets game.book stop game.world)
    (hfixed : after.fixed = game.fixed)
    (hcentered : ∀ say, stop = .line say → say.voice = .centered) (hnvl : next.nvl = true) :
    ∃ before, Game.rollback after = .ok true before ∧ before.snapshot = game.snapshot
      ∧ Page.isShowing before.world = true
      ∧ Page.lines before.world
        = (if Page.isShowing game.world then Page.lines game.world else []) ++ [next.line] := by
  have hvoice : next.voice ≠ .centered := by
    cases h.stopAt with
    | line here filled kind said => exact voice_of_nvl said hnvl
  have hshown : after.world.sheet = next.shown true true game.world.sheet := h.sheet_eq
  rw [Say.shown_onPage hvoice hnvl] at hshown
  have hunshown : stop.unshown? after.world.sheet = some after.world.sheet := by
    cases stop with
    | menu options => rfl
    | line say =>
      have hvoice := hcentered say rfl
      have hnvl : say.nvl = false := by
        cases hrested.here with
        | line here filled kind said =>
          exact Bool.eq_false_iff.2 fun hnvl => voice_of_nvl said hnvl hvoice
      simp [Stop.unshown?, Say.unshown?, hnvl, Say.shown, hvoice]
  obtain ⟨before, hbefore, hsnapshot, hshows, hlines⟩ :=
    h.rollback_straight hregistry hrested hfixed hunshown (by rw [hshown])
  rw [hshown] at hshows hlines
  exact ⟨before, hbefore, hsnapshot, hshows, hlines⟩

/-- **Around centered lines and menus going back leaves the page one line short or one line long.**
From a line for the page to a centered line the page loses its last line; from a centered line or a
menu to a line for the page that line stays on it.  The snapshot is as it was in both cases. -/
theorem rollback_around_page {move : Move}
    (hregistry : game.registry = builtinRegistry characters presets)
    (hbook : Traceable game.book game.world)
    (hrested : Rested characters presets game.book stop game.world)
    (hmade : move.made? game = some after)
    (hpick : ∀ key, move = .select key → ∀ item ∈ Choice.offered game.world, item.key = key →
      item.action = .str "next")
    (hjumps : after.world.jumps = game.world.jumps)
    (hnext : lineAt? characters game.book after.world = some next) :
    (∀ say, lineAt? characters game.book game.world = some say → say.nvl = true →
        Page.isShowing game.world = true → next.voice = .centered →
      ∃ before, Game.rollback after = .ok true before ∧ before.snapshot = game.snapshot
        ∧ Page.isShowing before.world = true
        ∧ Page.lines before.world = (Page.lines game.world).dropLast)
      ∧ ((∀ say, lineAt? characters game.book game.world = some say → say.voice = .centered) →
        next.nvl = true →
      ∃ before, Game.rollback after = .ok true before ∧ before.snapshot = game.snapshot
        ∧ Page.isShowing before.world = true
        ∧ Page.lines before.world
          = (if Page.isShowing game.world then Page.lines game.world else []) ++ [next.line]) := by
  have hoptions : ∀ key, move = .select key → ∀ item ∈ Choice.offered game.world, item.key = key →
      item.action.asText?.any (leadsOn game.book game.world) = true := by
    intro key hmove item hitem hkey
    rw [hpick key hmove item hitem hkey]
    exact leadsOn_next game.book game.world
  obtain ⟨hfixed, jumped, landing, hmoved⟩ := moved_of_made? hregistry hbook hrested hoptions hmade
  obtain rfl := hmoved.straight_of_jumps hjumps
  rw [hmoved.stopAt.lineAt?_eq] at hnext
  obtain rfl := Stop.eq_line hnext
  rw [hrested.here.lineAt?_eq]
  refine ⟨fun say hsay hnvl hshowing hvoice => ?_, fun hcentered hnvl => ?_⟩
  · obtain rfl := Stop.eq_line hsay
    exact hmoved.rollback_from_page hregistry hrested hfixed hnvl hshowing hvoice
  · refine hmoved.rollback_onto_page hregistry hrested hfixed (fun say hsay => ?_) hnvl
    subst hsay
    exact hcentered say rfl

end Crossings

/-! A story with a centered line between two lines for the page. -/

/-- A story with a page and a title. -/
def titleStory : Story :=
  { script := .obj
      [("Start", .arr [.str "nvl It was late.", .str "centered The inn", .str "nvl Snow fell."])]
    characters := Table.empty
    particles := []
    storage := []
    settings := { typeAnimation := false } }

/-- The game of the story. -/
def titleMade : Game := (titleStory.gameWith? titleStory.registry).get (by decide +kernel)

/-- The game, set up. -/
def titleReady : Game := Result.left (Game.setup (titleMade.withPreferences {}))

/-- On the page. -/
def titleBegun : Game := Result.left (Game.start titleReady)

/-- At the title. -/
def titleShown : Game := (Move.proceed.made? titleBegun).get (by decide +kernel)

/-- Going back from the title empties the page. -/
theorem rollback_around_page_title :
    ∃ before, Game.rollback titleShown = .ok true before
      ∧ before.snapshot = titleBegun.snapshot ∧ Page.isShowing before.world = true
      ∧ Page.lines before.world = (Page.lines titleBegun.world).dropLast := by
  have hmade : titleStory.gameWith? titleStory.registry = some titleMade :=
    (Option.some_get _).symm
  have hready : Game.setup (titleMade.withPreferences {}) = .ok () titleReady := setup_ok_left rfl
  have hbook : Traceable titleReady.book titleReady.world :=
    traceable_of_traces (by decide +kernel)
  have hbegun : Game.start titleReady = .ok () titleBegun := Result.eq_ok (by decide +kernel)
  obtain ⟨hregistry, htraceable, stop, hrested⟩ := begun_parts hmade hready hbook hbegun
  have hmove : Move.proceed.made? titleBegun = some titleShown := (Option.some_get _).symm
  obtain ⟨hlost, -⟩ := rollback_around_page hregistry htraceable hrested hmove
    (fun key h => by cases h) (by decide +kernel) (Option.some_get (by decide +kernel)).symm
  exact hlost _ (Option.some_get (by decide +kernel)).symm (by decide +kernel) (by decide +kernel)
    (by decide +kernel)

end Narrative
