import Mathlib.Data.List.Induction
import Narrative.Proofs.Plain

/-!
# Proofs/RoundTrip — moves and ways back cancel

A player makes moves and goes back, never further than the start (`Reached`).  In a story of plain
statements going back undoes the latest move that remains, and what is left is the game in which
only the remaining moves were made: the same snapshot, the same menu, the same page.

The proof follows the moves that remain.  On their way every game is at rest (`AtRest`), one move
and one way back is the identity up to the look (`AtRest.move`), and what is done after looks the
same (`LookAlike.moves`).
-/

namespace Narrative

/-! ## Moves and ways back -/

namespace Move

/-- The game after moves, each of which is made. -/
def replay? (moves : List Move) (game : Game) : Option Game :=
  moves.foldlM (fun game move => move.made? game) game

end Move

/-- **The games reached from a beginning** by moves that are made and by going back, with the moves
that remain: going back takes off the latest one. -/
inductive Reached (begun : Game) : List Move → Game → Prop
  | start : Reached begun [] begun
  | move {moves : List Move} {game after : Game} {move : Move} (reached : Reached begun moves game)
      (made : move.made? game = some after) : Reached begun (moves ++ [move]) after
  | back {moves : List Move} {game : Game} {move : Move}
      (reached : Reached begun (moves ++ [move]) game) :
      Reached begun moves (Result.left (Game.rollback game))

/-! ## Games at rest -/

/-- **A game at rest**, of the story that is ready, on a sheet that fits. -/
structure AtRest (paged : Bool) (characters : Table Character) (presets : Fields Json)
    (ready game : Game) : Prop where
  /-- What no call changes is as it was. -/
  fixed : game.fixed = ready.fixed
  /-- The world data is as it was. -/
  storage : game.world.storage = ready.world.storage
  /-- No line is being typed. -/
  typed : game.world.prompt.finishedTyping = true
  /-- The world rests on a stop, and the sheet fits it. -/
  rested : ∃ stop, Rested characters presets ready.book stop game.world
    ∧ Fits paged stop game.world.sheet

section AtRest

variable {paged : Bool} {characters : Table Character} {presets : Fields Json}
  {ready game after : Game}

/-- **A game at rest that makes a move** goes to a stop of the story, and jumps only in a story
without pages. -/
theorem AtRest.moved {move : Move}
    (hregistry : ready.registry = builtinRegistry characters presets)
    (hplain : ready.book.statements.all
      (plain paged characters presets ready.book ready.world) = true)
    (h : AtRest paged characters presets ready game) (made : move.made? game = some after) :
    after.fixed = game.fixed
      ∧ ∃ stop jumped landing, Rested characters presets game.book stop game.world
        ∧ Fits paged stop game.world.sheet
        ∧ Moved characters presets game.book stop game.world jumped landing after.world
        ∧ landing.Suits paged ∧ (paged = true → jumped = false) := by
  obtain ⟨stop, hrested, hfits⟩ := h.rested
  have hbook : game.book = ready.book := congrArg Prod.fst h.fixed
  have hsame : game.registry = builtinRegistry characters presets :=
    (congrArg (·.2.1) h.fixed).trans hregistry
  have htraceable : Traceable game.book game.world :=
    hbook ▸ (traceable_of_plain hplain).of_storage h.storage
  have hoptions := leadsOn_of_plain hplain hrested h.storage
  rw [← hbook] at hrested hoptions hplain
  obtain ⟨hfixed, jumped, landing, hmoved⟩ :=
    moved_of_made? hsame htraceable hrested
      (fun _ _ item hitem _ => List.all_eq_true.1 hoptions item hitem) made
  have hstorage : after.world.storage = ready.world.storage := hmoved.storage_eq.trans h.storage
  refine ⟨hfixed, stop, jumped, landing, hrested, hfits, hmoved,
    hmoved.stopAt.suits hplain hstorage, ?_⟩
  rintro rfl
  exact hmoved.straight hplain hfits.suits h.storage

/-- **After a move the game is at rest again, and going back undoes the move**, up to the look. -/
theorem AtRest.move {move : Move}
    (hregistry : ready.registry = builtinRegistry characters presets)
    (hquiet : ready.book.settings.typeAnimation = false)
    (hplain : ready.book.statements.all
      (plain paged characters presets ready.book ready.world) = true)
    (h : AtRest paged characters presets ready game) (made : move.made? game = some after) :
    AtRest paged characters presets ready after
      ∧ ∃ before, Game.rollback after = .ok true before ∧ before.fixed = ready.fixed
        ∧ LookAlike before.world game.world := by
  obtain ⟨hfixed, stop, jumped, landing, hrested, hfits, hmoved, hsuits, hstraight⟩ :=
    h.moved hregistry hplain made
  have hbook : game.book = ready.book := congrArg Prod.fst h.fixed
  have hsame : game.registry = builtinRegistry characters presets :=
    (congrArg (·.2.1) h.fixed).trans hregistry
  rw [← hbook] at hquiet
  constructor
  · refine ⟨hfixed.trans h.fixed, hmoved.storage_eq.trans h.storage, hmoved.typed hquiet h.typed,
      landing, hbook ▸ hmoved.rested hrested.gates, ?_⟩
    rw [hmoved.sheet_eq]
    exact hfits.next hsuits
  · have hundone : stop.unshown? (Sheet.leftIf jumped after.world.sheet)
        = some game.world.sheet := by
      rw [hmoved.sheet_eq]
      exact hfits.unshown? hsuits hstraight
    obtain ⟨before, hrollback, hbefore, hled⟩ := hmoved.rollback hsame hrested hfixed hundone
    have hprompt : before.world.prompt = game.world.prompt := by
      calc before.world.prompt
          = ⟨before.world.prompt.pending, before.world.prompt.finishedTyping⟩ := rfl
        _ = ⟨game.world.prompt.pending, game.world.prompt.finishedTyping⟩ := by
          rw [hled.pending, hled.typed hquiet, h.typed]
    exact ⟨before, hrollback, hbefore.trans h.fixed,
      hled.tidy.look_eq hrested.tidy hled.place hled.sheet hprompt⟩

end AtRest

/-! ## The round trip -/

section RoundTrip

variable {paged : Bool} {characters : Table Character} {presets : Fields Json}
  {story : Story} {made ready begun game : Game} {preferences : Preferences} {moves : List Move}

/-- **A game that was started is at rest**, if its story is plain. -/
theorem atRest_begun (hmade : story.gameWith? story.registry = some made)
    (hready : Game.setup (made.withPreferences preferences) = .ok () ready)
    (hquiet : ready.book.settings.typeAnimation = false)
    (hplain : ready.book.statements.all
      (plain paged story.characters story.particles ready.book ready.world) = true)
    (hbegun : Game.start ready = .ok () begun) :
    AtRest paged story.characters story.particles ready begun := by
  obtain ⟨hfixed, hstorage, htyped, stop, hrested, hsheet⟩ :=
    rested_begun hmade hready (traceable_of_plain hplain) hbegun
  refine ⟨hfixed, hstorage, htyped hquiet, stop, hrested, ?_⟩
  rw [hsheet]
  exact .shown (hrested.here.suits hplain hstorage) (fun _ => rfl) (fun _ => rfl)

theorem Move.replay?_concat (moves : List Move) (move : Move) (game : Game) :
    Move.replay? (moves ++ [move]) game = (Move.replay? moves game).bind move.made? := by
  simp [Move.replay?, List.foldlM_append]

/-- **Replayed moves come to rest.** -/
theorem AtRest.replay (hregistry : ready.registry = builtinRegistry characters presets)
    (hquiet : ready.book.settings.typeAnimation = false)
    (hplain : ready.book.statements.all
      (plain paged characters presets ready.book ready.world) = true)
    (h : AtRest paged characters presets ready begun)
    (hreplay : Move.replay? moves begun = some game) :
    AtRest paged characters presets ready game := by
  induction moves using List.reverseRecOn generalizing game with
  | nil =>
    obtain rfl : begun = game := Option.some.inj hreplay
    exact h
  | append_singleton moves move ih =>
    rw [Move.replay?_concat] at hreplay
    obtain ⟨before, hbefore, hmade⟩ := Option.bind_eq_some_iff.1 hreplay
    exact ((ih hbefore).move hregistry hquiet hplain hmade).1

/-- A move is made by two games that look alike, or by neither. -/
theorem Move.made?_congr {other after : Game} {move : Move}
    (hmoves : Narrative.Moves LookAlike ready.book ready.registry)
    (h : Along ready LookAlike game other) (made : move.made? game = some after) :
    ∃ replayed, move.made? other = some replayed ∧ Along ready LookAlike after replayed := by
  cases move with
  | proceed =>
    have hagree := hmoves.proceed h
    rw [Move.proceed_of_made? made] at hagree
    generalize hresult : Game.proceed other = result at hagree
    cases hagree with
    | ok answer hafter => exact ⟨_, by simp only [Move.made?, hresult], hafter⟩
  | select key =>
    have hagree := hmoves.select key h
    rw [Move.select_of_made? made] at hagree
    generalize hresult : Game.select key other = result at hagree
    cases hagree with
    | ok answer hafter => exact ⟨_, by simp only [Move.made?, hresult], hafter⟩

/-- **Going back from a game that looks like a replay** undoes the latest move of the replay. -/
theorem AtRest.back_replay (hregistry : ready.registry = builtinRegistry characters presets)
    (hquiet : ready.book.settings.typeAnimation = false)
    (hplain : ready.book.statements.all
      (plain paged characters presets ready.book ready.world) = true)
    (hmoves : Narrative.Moves LookAlike ready.book ready.registry)
    (hrest : AtRest paged characters presets ready begun) {move : Move} {replayed : Game}
    (hreplay : Move.replay? (moves ++ [move]) begun = some replayed)
    (halong : Along ready LookAlike game replayed) :
    ∃ before earlier, Game.rollback game = .ok true before
      ∧ Move.replay? moves begun = some earlier ∧ Along ready LookAlike before earlier := by
  rw [Move.replay?_concat] at hreplay
  obtain ⟨earlier, hearlier, hmade⟩ := Option.bind_eq_some_iff.1 hreplay
  have hrested := hrest.replay hregistry hquiet hplain hearlier
  obtain ⟨-, before, hrollback, hfixed, hlook⟩ := hrested.move hregistry hquiet hplain hmade
  have hagree := hmoves.rollback halong
  rw [hrollback] at hagree
  generalize hresult : Game.rollback game = result at hagree
  cases hagree with
  | ok answer hafter =>
    exact ⟨_, earlier, rfl, hearlier, hafter.fixed, hrested.fixed, hafter.world.trans hlook⟩

/-- **A game that was reached looks like the replay of the moves that remain**, and going back
succeeds as long as one does. -/
theorem Reached.replay (hregistry : ready.registry = builtinRegistry characters presets)
    (hquiet : ready.book.settings.typeAnimation = false)
    (hplain : ready.book.statements.all
      (plain paged characters presets ready.book ready.world) = true)
    (hrest : AtRest paged characters presets ready begun) (h : Reached begun moves game) :
    (∃ replayed, Move.replay? moves begun = some replayed ∧ Along ready LookAlike game replayed)
      ∧ (moves ≠ [] → ∃ before, Game.rollback game = .ok true before) := by
  have hmoves : Narrative.Moves LookAlike ready.book ready.registry := by
    rw [hregistry]
    exact LookAlike.moves (traceable_of_plain hplain).callbackless
  have halong : ∃ replayed, Move.replay? moves begun = some replayed
      ∧ Along ready LookAlike game replayed := by
    induction h with
    | start => exact ⟨begun, rfl, hrest.fixed, hrest.fixed, rfl⟩
    | move reached made ih =>
      obtain ⟨replayed, hreplay, halong⟩ := ih
      obtain ⟨after, hafter, halong⟩ := Move.made?_congr hmoves halong made
      exact ⟨after, by rw [Move.replay?_concat, hreplay]; exact hafter, halong⟩
    | back reached ih =>
      obtain ⟨replayed, hreplay, halong⟩ := ih
      obtain ⟨before, earlier, hrollback, hearlier, halong⟩ :=
        hrest.back_replay hregistry hquiet hplain hmoves hreplay halong
      rw [hrollback]
      exact ⟨earlier, hearlier, halong⟩
  refine ⟨halong, fun hne => ?_⟩
  obtain ⟨replayed, hreplay, halong⟩ := halong
  obtain ⟨earlier, move, rfl⟩ := List.eq_nil_or_concat' moves |>.resolve_left hne
  obtain ⟨before, -, hrollback, -⟩ :=
    hrest.back_replay hregistry hquiet hplain hmoves hreplay halong
  exact ⟨before, hrollback⟩

/-- **Moves and ways back cancel** in a plain story without pages: what is left is the snapshot and
the menu of the moves that remain, and going back succeeds as long as one does. -/
theorem roundTrip (hmade : story.gameWith? story.registry = some made)
    (hready : Game.setup (made.withPreferences preferences) = .ok () ready)
    (hquiet : ready.book.settings.typeAnimation = false)
    (hplain : ready.book.statements.all
      (plain false story.characters story.particles ready.book ready.world) = true)
    (hbegun : Game.start ready = .ok () begun) (h : Reached begun moves game) :
    (∃ replayed, Move.replay? moves begun = some replayed
        ∧ game.snapshot = replayed.snapshot
        ∧ Choice.offered game.world = Choice.offered replayed.world)
      ∧ (moves ≠ [] → ∃ before, Game.rollback game = .ok true before) := by
  have hrest := atRest_begun hmade hready hquiet hplain hbegun
  obtain ⟨⟨replayed, hreplay, halong⟩, hback⟩ :=
    h.replay (ready_parts hmade hready).1 hquiet hplain hrest
  exact ⟨⟨replayed, hreplay, snapshot_eq_of_look_eq halong.world,
    offered_eq_of_look_eq halong.world⟩, hback⟩

end RoundTrip

/-! A story with a menu that leads to an inn, by one way or the other. -/

/-- A story with a fork. -/
def forkStory : Story :=
  { script := .obj
      [("Start", .arr
        [.str "Where to?",
          .obj [("Choice", .obj
            [("walk", .obj [("Do", .str "next")]), ("ride", .obj [("Do", .str "jump Inn")])])],
          .str "particles snow", .str "next", .str "jump Inn"]),
      ("Inn", .arr [.str "centered The inn", .str "particles rain", .str "Good night."])]
    characters := Table.empty
    particles := [("snow", .obj []), ("rain", .obj [])]
    storage := []
    settings := { typeAnimation := false } }

/-- The game of the story. -/
def forkMade : Game := (forkStory.gameWith? forkStory.registry).get (by decide +kernel)

/-- The game, set up. -/
def forkReady : Game := Result.left (Game.setup (forkMade.withPreferences {}))

/-- The game, started. -/
def forkBegun : Game := Result.left (Game.start forkReady)

/-- At the menu. -/
def forkMenu : Game := (Move.proceed.made? forkBegun).get (by decide +kernel)

/-- At the inn, on foot. -/
def forkWalked : Game := ((Move.select "walk").made? forkMenu).get (by decide +kernel)

/-- At the menu again, and from there at the inn on horseback. -/
def forkRode : Game :=
  ((Move.select "ride").made? (Result.left (Game.rollback forkWalked))).get (by decide +kernel)

theorem reached_forkRode : Reached forkBegun [.proceed, .select "ride"] forkRode := by
  have hmenu : Reached forkBegun [.proceed] forkMenu := .move .start (Option.some_get _).symm
  have hwalked : Reached forkBegun [.proceed, .select "walk"] forkWalked :=
    .move hmenu (Option.some_get _).symm
  have hback : Reached forkBegun [.proceed] (Result.left (Game.rollback forkWalked)) :=
    .back (show Reached forkBegun ([.proceed] ++ [.select "walk"]) forkWalked from hwalked)
  exact .move hback (Option.some_get _).symm

/-- The round trip about this story. -/
theorem roundTrip_forkRode :
    (∃ replayed, Move.replay? [.proceed, .select "ride"] forkBegun = some replayed
        ∧ forkRode.snapshot = replayed.snapshot
        ∧ Choice.offered forkRode.world = Choice.offered replayed.world)
      ∧ ∃ before, Game.rollback forkRode = .ok true before := by
  have hmade : forkStory.gameWith? forkStory.registry = some forkMade := (Option.some_get _).symm
  have hready : Game.setup (forkMade.withPreferences {}) = .ok () forkReady := setup_ok_left rfl
  obtain ⟨hreplay, hback⟩ := roundTrip hmade hready (by decide +kernel) (by decide +kernel)
    (Result.eq_ok (by decide +kernel)) reached_forkRode
  exact ⟨hreplay, hback (by simp)⟩

section RoundTrip

variable {characters : Table Character} {presets : Fields Json}
  {story : Story} {made ready begun game : Game} {preferences : Preferences} {moves : List Move}

/-- **A story with pages has no menus**, so every move continues. -/
theorem AtRest.eq_proceed {after : Game} {move : Move}
    (h : AtRest true characters presets ready game) (made : move.made? game = some after) :
    move = .proceed := by
  cases move with
  | proceed => rfl
  | select key =>
    obtain ⟨item, -, -, hitem, -, -⟩ := run_of_select (Move.select_of_made? made)
    obtain ⟨stop, hrested, hfits⟩ := h.rested
    rw [offered_of_rested hrested] at hitem
    cases stop with
    | line say => cases hitem
    | menu options => cases hfits.suits

theorem AtRest.replay_eq_replicate (hregistry : ready.registry = builtinRegistry characters presets)
    (hquiet : ready.book.settings.typeAnimation = false)
    (hplain : ready.book.statements.all
      (plain true characters presets ready.book ready.world) = true)
    (h : AtRest true characters presets ready begun)
    (hreplay : Move.replay? moves begun = some game) :
    moves = List.replicate moves.length .proceed := by
  induction moves using List.reverseRecOn generalizing game with
  | nil => rfl
  | append_singleton moves move ih =>
    rw [Move.replay?_concat] at hreplay
    obtain ⟨before, hbefore, hmade⟩ := Option.bind_eq_some_iff.1 hreplay
    have hrested := h.replay hregistry hquiet hplain hbefore
    rw [hrested.eq_proceed hmade, List.length_append, List.length_singleton,
      List.replicate_succ', ← ih hbefore]

/-- **Moves and ways back cancel** in a plain story with pages: what is left is the snapshot, the
mode and the page after as many moves as remain, and going back succeeds as long as one does. -/
theorem roundTrip_paged (hmade : story.gameWith? story.registry = some made)
    (hready : Game.setup (made.withPreferences preferences) = .ok () ready)
    (hquiet : ready.book.settings.typeAnimation = false)
    (hplain : ready.book.statements.all
      (plain true story.characters story.particles ready.book ready.world) = true)
    (hbegun : Game.start ready = .ok () begun) (h : Reached begun moves game) :
    (∃ replayed, Move.replay? (List.replicate moves.length .proceed) begun = some replayed
        ∧ game.snapshot = replayed.snapshot
        ∧ Page.isShowing game.world = Page.isShowing replayed.world
        ∧ Page.lines game.world = Page.lines replayed.world)
      ∧ (moves ≠ [] → ∃ before, Game.rollback game = .ok true before) := by
  have hregistry := (ready_parts hmade hready).1
  have hrest := atRest_begun hmade hready hquiet hplain hbegun
  obtain ⟨⟨replayed, hreplay, halong⟩, hback⟩ := h.replay hregistry hquiet hplain hrest
  have hmoves := hrest.replay_eq_replicate hregistry hquiet hplain hreplay
  refine ⟨⟨replayed, hmoves ▸ hreplay, snapshot_eq_of_look_eq halong.world, halong.world.showing,
    halong.world.page⟩, hback⟩

end RoundTrip

/-! A story of one label, with two pages. -/

/-- A story with pages. -/
def pagesStory : Story :=
  { script := .obj
      [("Start", .arr [.str "nvl It was late.", .str "particles snow", .str "nvl Snow fell.",
        .str "next", .str "Who is there?", .str "nvl Nobody answered."])]
    characters := Table.empty
    particles := [("snow", .obj [])]
    storage := []
    settings := { typeAnimation := false } }

/-- The game of the story. -/
def pagesMade : Game := (pagesStory.gameWith? pagesStory.registry).get (by decide +kernel)

/-- The game, set up. -/
def pagesReady : Game := Result.left (Game.setup (pagesMade.withPreferences {}))

/-- The game, started. -/
def pagesBegun : Game := Result.left (Game.start pagesReady)

/-- On the first page. -/
def pagesFirst : Game := (Move.proceed.made? pagesBegun).get (by decide +kernel)

/-- Off the page. -/
def pagesSecond : Game := (Move.proceed.made? pagesFirst).get (by decide +kernel)

theorem reached_pagesBack :
    Reached pagesBegun [.proceed] (Result.left (Game.rollback pagesSecond)) := by
  have hfirst : Reached pagesBegun [.proceed] pagesFirst := .move .start (Option.some_get _).symm
  have hsecond : Reached pagesBegun ([.proceed] ++ [.proceed]) pagesSecond :=
    .move hfirst (Option.some_get _).symm
  exact .back hsecond

/-- The round trip about this story: the first page is there again. -/
theorem roundTrip_pagesBack :
    (∃ replayed, Move.replay? [.proceed] pagesBegun = some replayed
        ∧ (Result.left (Game.rollback pagesSecond)).snapshot = replayed.snapshot
        ∧ Page.isShowing (Result.left (Game.rollback pagesSecond)).world
          = Page.isShowing replayed.world
        ∧ Page.lines (Result.left (Game.rollback pagesSecond)).world
          = Page.lines replayed.world)
      ∧ ∃ before, Game.rollback (Result.left (Game.rollback pagesSecond)) = .ok true before := by
  have hmade : pagesStory.gameWith? pagesStory.registry = some pagesMade :=
    (Option.some_get _).symm
  have hready : Game.setup (pagesMade.withPreferences {}) = .ok () pagesReady := setup_ok_left rfl
  obtain ⟨hreplay, hback⟩ := roundTrip_paged hmade hready (by decide +kernel) (by decide +kernel)
    (Result.eq_ok (by decide +kernel)) reached_pagesBack
  exact ⟨hreplay, hback (by simp)⟩

end Narrative
