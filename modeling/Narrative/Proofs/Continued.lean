import Narrative.Proofs.Preferences
import Narrative.Proofs.Resumed

/-!
# Proofs/Continued — a saved game continues like the original, if its slot comes back

Saving writes the slot of a game into a store.  A table in memory gives every slot back as it was
written; a directory gives back every slot that its text tells exactly (`Json.Rereadable`).  Where
the slot comes back, loading it in a game of the same story gives a game that answers every call as
the saved one does, and remains like it (`resumed_like_saved`).

A number with a fraction may come back from a file as another one, and then the loaded game differs
from the saved one (`resumed_toll`).
-/

namespace Narrative

section Continued

variable {story : Story} {ready game : Game} {σ : Type} [Store σ] {store kept : σ}
  {kind : SlotKind} {id : Option Nat} {key date : String} {name : Option String}

/-- **A slot that was written**: a game was in progress, and the slot was stored under the key. -/
theorem set_of_saveTo (h : game.saveTo store kind id name date = .ok (some key, kept)) :
    game.world.globals.playing = true
      ∧ Store.set store key (game.toSlot name date).toJson = .ok kept := by
  unfold Game.saveTo at h
  split at h
  · next hplaying =>
    refine ⟨hplaying, ?_⟩
    simp only [Game.fromStore] at h
    cases hset : Store.set store (slotKey (kind.label game.book.settings)
        (id.getD (Game.maxSlotId game.book.settings store kind + 1)))
        (game.toSlot name date).toJson with
    | error fault =>
      rw [hset] at h
      cases h
    | ok after =>
      rw [hset] at h
      obtain ⟨hkey, rfl⟩ := Prod.mk.inj (Except.ok.inj h)
      obtain rfl := Option.some.inj hkey
      exact hset
  · cases h

/-- **A saved game continues exactly like the original.**  In a story without pages and without
menus inside menus, in which nothing is typed out, let a game be saved on a line or with its menu
open, after calls that all succeeded.  Let its slot be one that every faithful store gives back, or
one that this store gives back at any rate.  Loading the slot in a game of the story that was only
set up succeeds.  Whatever is called then on both games, they have the same snapshot and offer the
same options, and the next call has the same answer on both or fails on both in the same way. -/
theorem resumed_like_saved [Store.Faithful σ] {fresh : Game} {preferences : Preferences}
    (hdistinct : Fields.Distinct story.storage)
    (made : story.gameWith? story.registry = some fresh)
    (setUp : Game.setup (fresh.withPreferences preferences) = .ok () ready)
    (hunpaged : ready.book.statements.all (unpaged story.characters ready.book ready.world) = true)
    (hflat : ∀ statement ∈ ready.book.statements, Terminal.isNested statement = false)
    (hquiet : story.settings.typeAnimation = false) (hsmooth : Smooth ready game)
    (hresting : game.isResting story.characters = true)
    (hsaved : game.saveTo store kind id name date = .ok (some key, kept))
    (hback : (game.toSlot name date).toJson.Rereadable
      ∨ Store.get kept key = .ok (game.toSlot name date).toJson) :
    ∃ loaded, Game.loadFromSlot kept key ready = .ok () loaded
      ∧ ∀ calls : List Call,
        (Call.leftAll calls loaded).snapshot = (Call.leftAll calls game).snapshot
          ∧ Choice.offered (Call.leftAll calls loaded).world
            = Choice.offered (Call.leftAll calls game).world
          ∧ ∀ call : Call,
            call.answer? (Call.leftAll calls loaded) = call.answer? (Call.leftAll calls game)
              ∧ call.fault? (Call.leftAll calls loaded)
                = call.fault? (Call.leftAll calls game) := by
  have hready := primed_setup hdistinct made setUp hunpaged hflat hquiet
  obtain ⟨hplaying, hset⟩ := set_of_saveTo hsaved
  have stored : Store.get kept key = .ok (game.toSlot name date).toJson :=
    hback.elim (fun hslot => Store.Faithful.get_of_set hslot hset) fun hgiven => hgiven
  obtain ⟨loaded, hloaded, halong⟩ := look_resumed hready hsmooth hplaying hresting stored
  have hmoves : Moves LookAlike ready.book ready.registry := by
    rw [hready.registry]
    exact LookAlike.moves hready.book.callbackless
  refine ⟨loaded, hloaded, fun calls => ?_⟩
  have hleft := hmoves.leftAll (fun _ _ h => h.typed true) calls halong
  exact ⟨snapshot_eq_of_look_eq hleft.world, offered_eq_of_look_eq hleft.world,
    fun call => hmoves.reply hleft call⟩

/-- **The first slot in an empty directory** is written into a file of its own. -/
theorem saveTo_first (hplaying : game.world.globals.playing = true)
    (hkey : slotKey (SlotKind.manual.label game.book.settings) 1 = "Save_1") :
    game.saveTo DirStore.empty .manual (some 1) name date
      = .ok (some "Save_1", DirStore.empty.written "Save_1" (game.toSlot name date).toJson) := by
  have hfree : DirStore.refusal? (Store.get DirStore.empty "Save_1") = none := by decide +kernel
  rw [Game.saveTo, if_pos hplaying]
  dsimp only [Option.getD_some]
  rw [hkey, DirStore.set_eq, hfree]
  rfl

end Continued

/-! ## A game saved at a menu, in a directory -/

/-- A directory with the slot of the game at its menu. -/
def innShelf : DirStore := DirStore.empty.written "Save_1" (innMenu.toSlot none "today").toJson

/-- The game that was saved at its menu can be loaded, and continues like the original. -/
theorem resumed_like_saved_inn :
    ∃ loaded, Game.loadFromSlot innShelf "Save_1" innReady = .ok () loaded
      ∧ ∀ calls : List Call,
        (Call.leftAll calls loaded).snapshot = (Call.leftAll calls innMenu).snapshot
          ∧ Choice.offered (Call.leftAll calls loaded).world
            = Choice.offered (Call.leftAll calls innMenu).world
          ∧ ∀ call : Call,
            call.answer? (Call.leftAll calls loaded) = call.answer? (Call.leftAll calls innMenu)
              ∧ call.fault? (Call.leftAll calls loaded)
                = call.fault? (Call.leftAll calls innMenu) := by
  have hdistinct : Fields.Distinct innStory.storage := by
    simp [Fields.Distinct, Fields.keys, innStory]
  have hmade : innStory.gameWith? innStory.registry = some innMade := (Option.some_get _).symm
  have hready : Game.setup (innMade.withPreferences {}) = .ok () innReady := setup_ok_left rfl
  have hsmooth : Smooth innReady innMenu :=
    (Smooth.setup.call .start (by decide +kernel)).call .proceed (by decide +kernel)
  have hsaved : innMenu.saveTo DirStore.empty .manual (some 1) none "today"
      = .ok (some "Save_1", innShelf) := saveTo_first (by decide +kernel) (by decide +kernel)
  have hslot : (innMenu.toSlot none "today").toJson.Rereadable := by decide +kernel
  exact resumed_like_saved hdistinct hmade hready (by decide +kernel) (by decide +kernel) rfl
    hsmooth (by decide +kernel) hsaved (.inl hslot)

/-! ## A game saved with a number that drifts -/

/-- A story of one line, with a number as it is read from a script. -/
def tollStory : Story :=
  { script := .obj [("Start", .arr [.str "The toll is {{toll}}."])]
    characters := Table.empty
    particles := []
    storage := [("toll", (Json.read? "90665864235.380630").getD .null)]
    settings := { typeAnimation := false } }

/-- The game of the story. -/
def tollMade : Game := (tollStory.gameWith? tollStory.registry).get (by decide +kernel)

/-- The game, set up. -/
def tollReady : Game := Result.left (Game.setup (tollMade.withPreferences {}))

/-- At the line. -/
def tollGate : Game := Call.start.left tollReady

/-- A directory with the slot of the game at its line. -/
def tollShelf : DirStore := DirStore.empty.written "Save_1" (tollGate.toSlot none "today").toJson

/-- The game that the slot is loaded into, after it. -/
def tollLoaded : Game := Result.left (Game.loadFromSlot tollShelf "Save_1" tollReady)

/-- The number in a snapshot, as text. -/
def tollText (snapshot : Snapshot) : Option String :=
  (Fields.get? snapshot.storage.data "toll").map Json.text

/-- **A number with a fraction may come back as another.**  The story has neither pages nor menus
inside menus, and nothing is typed out; the game is saved at its line into a file, and loading the
slot in a game that was only set up succeeds.  But the two games have different snapshots. -/
theorem resumed_toll :
    (Fields.Distinct tollStory.storage
      ∧ tollStory.gameWith? tollStory.registry = some tollMade
      ∧ Game.setup (tollMade.withPreferences {}) = .ok () tollReady
      ∧ tollReady.book.statements.all
        (unpaged tollStory.characters tollReady.book tollReady.world) = true
      ∧ (∀ statement ∈ tollReady.book.statements, Terminal.isNested statement = false)
      ∧ tollStory.settings.typeAnimation = false)
    ∧ Smooth tollReady tollGate ∧ tollGate.isResting tollStory.characters = true
    ∧ tollGate.saveTo DirStore.empty .manual (some 1) none "today" = .ok (some "Save_1", tollShelf)
    ∧ Game.loadFromSlot tollShelf "Save_1" tollReady = .ok () tollLoaded
    ∧ tollText tollGate.snapshot = some "90665864235.38063"
    ∧ tollLoaded.snapshot ≠ tollGate.snapshot := by
  have hsaid : tollText tollGate.snapshot = some "90665864235.38063" := by decide +kernel
  have hread : tollText tollLoaded.snapshot = some "90665864235.38065" := by decide +kernel
  refine ⟨⟨?_, (Option.some_get _).symm, setup_ok_left rfl, by decide +kernel, by decide +kernel,
    rfl⟩, Smooth.setup.call .start (by decide +kernel), by decide +kernel,
    saveTo_first (by decide +kernel) (by decide +kernel), Result.eq_ok (by decide +kernel), hsaid,
    fun hsame => ?_⟩
  · simp [Fields.Distinct, Fields.keys, tollStory]
  · rw [hsame, hsaid] at hread
    exact absurd hread (by decide)

end Narrative
