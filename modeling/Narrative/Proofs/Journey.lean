import Narrative.Proofs.Path

/-!
# Proofs/Journey — the games of a story are on the path of their jumps

A game of a story is set up, called, reset, and loaded with slots that other games of the story
saved (`Visited`).  Each of these keeps the game on the path of its jumps, whatever it returns, so
that the stacks are those of a path from the start label to the label the game is in
(`jumps_path`), and at the start of a label that was jumped to there is always a way back.

The slots are to be read in the language in which they were saved, unless no text is refused for its
placeholders.  Otherwise a jump may be undone and found to have been made from a text that cannot be
filled in; its entry is gone, and the game stays where it is (`jumps_path_lost`).
-/

namespace Narrative

/-- **The games visited of a story**, played in some of its languages.  What is loaded was saved by
a game visited of the same story. -/
inductive Visited (story : Story) (languages : String → Prop) : Game → Prop
  | setup {fresh ready : Game} (preferences : Preferences)
      (spoken : languages preferences.language)
      (made : story.gameWith? story.registry = some fresh)
      (setUp : Game.setup (fresh.withPreferences preferences) = .ok () ready) :
      Visited story languages ready
  | call {game : Game} (visited : Visited story languages game) (call : Call) :
      Visited story languages (call.left game)
  | reset {game : Game} (visited : Visited story languages game) :
      Visited story languages (Result.left (Game.reset game))
  | load {σ : Type} [Store σ] {store : σ} {key date : String} {name : Option String}
      {game saved : Game} (visited : Visited story languages game)
      (other : Visited story languages saved)
      (stored : Store.get store key = .ok (saved.toSlot name date).toJson) :
      Visited story languages (Result.left (Game.loadFromSlot store key game))

/-- **The two stacks of jumps are one path** from the start label to the label the game is in, and
if a game at the start of a label has made jumps, then there is one that leads out of it. -/
def Tracked (story : Story) (game : Game) : Prop :=
  ∃ entries : List JumpEntry,
    game.world.history.entries Jump.stack = entries.map JumpEntry.toJson
      ∧ game.world.history.entries Jump.labelStack = entries.map (.str ·.target)
      ∧ Path story.settings.startLabel entries game.cursor.label
      ∧ (game.cursor.step = 0 → entries ≠ [] →
          (Rewind.origin? game.book game.registry game.world).isSome = true)

/-- **A text that can be filled in for one game of the story can be for another**: none is refused,
or the games are in one language. -/
def Alike (story : Story) (languages : String → Prop) : Prop :=
  story.settings.unresolved ≠ .fail ∨ story.settings.multiLanguage = false
    ∨ ∀ first second, languages first → languages second → first = second

/-- **A game of a story that is on the path of its jumps.** -/
structure Journey (story : Story) (languages : String → Prop) (game : Game) : Prop where
  /-- The actions are the built-in ones. -/
  registry : game.registry = story.registry
  /-- The script is that of the story. -/
  script : story.script? = some game.book.script
  /-- So are the settings. -/
  settings : game.book.settings = story.settings
  /-- The language is one of those that are played. -/
  spoken : languages game.book.preferences.language
  /-- A slot can hold the variables of a new game. -/
  fresh : game.freshState.Storable
  /-- A new game starts at the start label. -/
  start : game.freshState.cursor = Cursor.start story.settings.startLabel
  /-- A new game has the world data of the story. -/
  storage : game.freshStorage = ⟨story.storage⟩
  /-- The world is on the path. -/
  onPath : OnPath story.settings.startLabel ⟨story.storage⟩ game.book game.world

section Journey

variable {story : Story} {languages : String → Prop} {game other saved : Game}

namespace Journey

theorem callbackless (h : Journey story languages game) : game.book.Callbackless :=
  fun cursor run => Script.ne_callback_of_ofJson? h.script _ cursor run

/-- Another world on the path. -/
theorem along (h : Journey story languages game) (hfixed : other.fixed = game.fixed)
    (honPath : OnPath story.settings.startLabel ⟨story.storage⟩ game.book other.world) :
    Journey story languages other := by
  have hbook : other.book = game.book := congrArg Prod.fst hfixed
  have hregistry : other.registry = game.registry := congrArg (·.2.1) hfixed
  have hfresh : other.freshState = game.freshState := congrArg (·.2.2.1) hfixed
  have hstorage : other.freshStorage = game.freshStorage := congrArg (·.2.2.2) hfixed
  exact ⟨hregistry.trans h.registry, hbook ▸ h.script, hbook ▸ h.settings, hbook ▸ h.spoken,
    hfresh ▸ h.fresh, hfresh ▸ h.start, hstorage.trans h.storage, hbook ▸ honPath⟩

/-- **A game that has been set up** has made no jumps. -/
theorem setup {fresh ready : Game} {preferences : Preferences}
    (spoken : languages preferences.language)
    (made : story.gameWith? story.registry = some fresh)
    (setUp : Game.setup (fresh.withPreferences preferences) = .ok () ready) :
    Journey story languages ready := by
  obtain ⟨script, hscript, rfl⟩ := Option.map_eq_some_iff.1 made
  rw [setup_eq rfl] at setUp
  obtain rfl := (EStateM.Result.ok.inj setUp).2
  have hstorable : (State.start story.settings.startLabel).Storable :=
    ⟨List.nodup_nil, by simp [State.start, Fields.keys], by simp [State.start, Fields.keys]⟩
  refine ⟨rfl, hscript, rfl, spoken, hstorable.set _, rfl, rfl, rfl, hstorable.set _,
    ⟨[], rfl, rfl, rfl, by simp⟩, fun menu hmenu => ?_⟩
  cases hmenu

/-- **A call** keeps the game on the path. -/
theorem call (h : Journey story languages game) (call : Call) :
    Journey story languages (call.left game) :=
  h.along (fixed_call h.registry call)
    ((keeps_onPath h.callbackless).call h.registry h.onPath call)

/-- The world that a reset leaves. -/
theorem onPath_blankWorld (h : Journey story languages game) :
    OnPath story.settings.startLabel ⟨story.storage⟩ game.book game.blankWorld := by
  have hstate : game.blankWorld.state = game.freshState.set Particles.runningVar (.str "") :=
    congrArg Look.state (look_blankWorld game)
  have hpending : game.blankWorld.prompt.pending = none :=
    congrArg Look.pending (look_blankWorld game)
  have hempty : ∀ name, game.blankWorld.history.entries name = [] := fun name =>
    History.entries_clear game.world.history name
  refine ⟨h.storage, hstate ▸ h.fresh.set _, ⟨[], hempty _, hempty _, ?_, by simp⟩, ?_⟩
  · have hcursor : game.blankWorld.cursor = Cursor.start story.settings.startLabel :=
      (congrArg State.cursor hstate).trans h.start
    exact congrArg Cursor.label hcursor
  · intro menu hmenu
    rw [hpending] at hmenu
    cases hmenu

/-- **A reset** leaves no jumps. -/
theorem reset (h : Journey story languages game) :
    Journey story languages (Result.left (Game.reset game)) := by
  rw [reset_eq h.registry]
  exact h.along rfl h.onPath_blankWorld

/-- A text that could be filled in where a slot was saved can be where it is loaded. -/
theorem readable (h : Journey story languages game) (hsaved : Journey story languages saved)
    (halike : Alike story languages) {cursor : Cursor}
    (hreadable : Readable saved.book ⟨story.storage⟩ cursor) :
    Readable game.book ⟨story.storage⟩ cursor := by
  intro line here
  obtain hpolicy | hlanguages := halike
  · rw [h.settings]
    exact Template.fill_of_ne_fail hpolicy ⟨story.storage⟩ line
  · have hscript : saved.book.script = game.book.script :=
      Option.some.inj (hsaved.script.symm.trans h.script)
    have hlanguage : saved.book.language = game.book.language := by
      rw [Playbook.language, Playbook.language, h.settings, hsaved.settings]
      obtain hsingle | hone := hlanguages
      · simp [hsingle]
      · rw [hone _ _ hsaved.spoken h.spoken]
    have hthere : saved.book.statement? cursor = some (.text line) := by
      rw [Playbook.statement?, hscript, hlanguage]
      exact here
    rw [h.settings, ← hsaved.settings]
    exact hreadable line hthere

/-- **A slot merged over a new game** is on the path of the slot. -/
theorem onPath_restored (hdistinct : Fields.Distinct story.storage)
    (h : Journey story languages game) (hsaved : Journey story languages saved)
    (name : Option String) (date : String) (halike : Alike story languages) :
    OnPath story.settings.startLabel ⟨story.storage⟩ game.book
      (game.restored (saved.toSlot name date)).world := by
  have hplaying : Journey story languages game.setPlaying :=
    h.along rfl (h.onPath.congr rfl h.onPath.storable rfl rfl rfl (Or.inr ⟨rfl, rfl⟩))
  have hmerged : (game.restored (saved.toSlot name date)).world.storage
      = ⟨Fields.extend game.freshStorage.data saved.world.storage.data⟩ := rfl
  obtain ⟨entries, hentries, hlabels, hpath, hall⟩ := hsaved.onPath.path
  refine ⟨?_, hplaying.onPath_blankWorld.storable.merge hsaved.onPath.storable,
    ⟨entries, ?_, ?_, hpath, fun entry hentry => h.readable hsaved halike (hall entry hentry)⟩,
    fun menu hmenu => ?_⟩
  · rw [hmerged, h.storage, hsaved.onPath.data, Fields.extend_self hdistinct]
  · exact (History.entries_merge_clear game.world.history _ _).trans hentries
  · exact (History.entries_merge_clear game.world.history _ _).trans hlabels
  · rw [pending_restored] at hmenu
    cases hmenu

/-- **Loading** leaves the path of the slot. -/
theorem load {σ : Type} [Store σ] {store : σ} {key date : String} {name : Option String}
    (hdistinct : Fields.Distinct story.storage) (h : Journey story languages game)
    (hsaved : Journey story languages saved)
    (stored : Store.get store key = .ok (saved.toSlot name date).toJson)
    (halike : Alike story languages) :
    Journey story languages (Result.left (Game.loadFromSlot store key game)) := by
  have hstorable : (saved.toSlot name date).snapshot.state.Storable := hsaved.onPath.storable
  rw [loadFromSlot_of_stored h.registry hstorable stored]
  have hresumed : Journey story languages
      ((game.restored (saved.toSlot name date)).withWorld (Particles.resume story.particles)) :=
    h.along rfl ((h.onPath_restored hdistinct hsaved name date halike).emit _)
  refine hresumed.along (fixed_ofPlay _) ?_
  rw [Game.runCurrent, world_left_ofPlay, hresumed.registry]
  exact (keeps_onPath hresumed.callbackless).runCurrent hresumed.onPath

end Journey

/-- **A game visited is on the path of its jumps.**  The induction is on how it was reached; each
call keeps the path whether or not it succeeds. -/
theorem Visited.journey (hdistinct : Fields.Distinct story.storage) (halike : Alike story languages)
    (h : Visited story languages game) : Journey story languages game := by
  induction h with
  | setup preferences spoken made setUp => exact .setup spoken made setUp
  | call visited call ih => exact ih.call call
  | reset visited ih => exact ih.reset
  | load visited other stored ih ihother => exact .load hdistinct ih ihother stored halike

/-- **The jumps are the path to the current label**, whatever the calls returned. -/
theorem jumps_path (hdistinct : Fields.Distinct story.storage) (halike : Alike story languages)
    (h : Visited story languages game) : Tracked story game := by
  have hjourney := h.journey hdistinct halike
  obtain ⟨entries, hentries, hlabels, hpath, -⟩ := hjourney.onPath.path
  refine ⟨entries, hentries, hlabels, hpath, fun hstep hne => ?_⟩
  obtain ⟨entry, older, rfl⟩ := List.exists_cons_of_ne_nil hne
  have hnewest : (game.world.history.peek? Jump.stack).bind JumpEntry.ofJson? = some entry := by
    rw [History.peek?, hentries]
    exact JumpEntry.ofJson?_toJson entry
  have hregistry : game.registry = builtinRegistry story.characters story.particles :=
    hjourney.registry
  have horigin : Jump.revertOrigin game.world = some (.text ("jump " ++ entry.target)) := by
    have hstart : ¬game.world.cursor.step ≠ 0 := not_not_intro hstep
    rw [Jump.revertOrigin, if_neg hstart, hnewest]
    exact if_pos hpath.1
  rw [hregistry, origin?_builtin, horigin]
  rfl

end Journey

/-! ## A story in two languages -/

/-- A story whose second language has a placeholder where the first has a jump. -/
def abroadStory : Story :=
  { script := .obj
      [("Deutsch", .obj [("Start", .arr [.str "A", .str "jump L"]), ("L", .arr [.str "B"])]),
        ("English", .obj [("Start", .arr [.str "A", .str "\x7b\x7bnope\x7d\x7d"]),
          ("L", .arr [.str "B"])])]
    characters := Table.empty
    particles := []
    storage := []
    settings := { typeAnimation := false, multiLanguage := true, unresolved := .fail } }

/-- The story in a language, set up. -/
def abroadReady (language : String) : Game :=
  Result.left (Game.setup (((abroadStory.gameWith? abroadStory.registry).get
    (by decide +kernel)).withPreferences { language := language }))

/-- The story in the first language, after its jump. -/
def abroadJumped : Game := Call.proceed.left (Call.start.left (abroadReady "Deutsch"))

/-- A store with the slot of the story after its jump. -/
def abroadStore : MemoryStore :=
  ⟨Table.empty.insert "Save_1" (abroadJumped.toSlot (some "n") "d").toJson⟩

/-- The slot loaded in a language. -/
def abroadLoaded (language : String) : Game :=
  Result.left (Game.loadFromSlot abroadStore "Save_1" (abroadReady language))

theorem visited_abroadReady {languages : String → Prop} {language : String}
    (spoken : languages language) : Visited abroadStory languages (abroadReady language) :=
  .setup { language := language } spoken (Option.some_get _).symm (setup_ok_left rfl)

theorem stored_abroadStore :
    Store.get abroadStore "Save_1" = .ok (abroadJumped.toSlot (some "n") "d").toJson := by
  have hset : Store.set MemoryStore.empty "Save_1" (abroadJumped.toSlot (some "n") "d").toJson
      = .ok abroadStore := rfl
  exact Store.Lawful.get_of_set hset

theorem visited_abroadLoaded {languages : String → Prop} {language : String}
    (home : languages "Deutsch") (spoken : languages language) :
    Visited abroadStory languages (abroadLoaded language) :=
  .load (visited_abroadReady spoken) (((visited_abroadReady home).call .start).call .proceed)
    stored_abroadStore

/-- The theorem about the slot loaded in the language in which it was saved. -/
theorem jumps_path_abroad :
    Fields.Distinct abroadStory.storage ∧ Alike abroadStory (· = "Deutsch")
      ∧ Visited abroadStory (· = "Deutsch") (abroadLoaded "Deutsch")
      ∧ Tracked abroadStory (abroadLoaded "Deutsch") := by
  have hdistinct : Fields.Distinct abroadStory.storage := List.nodup_nil
  have halike : Alike abroadStory (· = "Deutsch") :=
    Or.inr (Or.inr fun _ _ hfirst hsecond => hfirst.trans hsecond.symm)
  have hvisited : Visited abroadStory (· = "Deutsch") (abroadLoaded "Deutsch") :=
    visited_abroadLoaded rfl rfl
  exact ⟨hdistinct, halike, hvisited, jumps_path hdistinct halike hvisited⟩

/-- **In another language the path is lost**: the rollback takes the jump's entry off, fails at the
text that the jump was made from, and leaves the game in the label that was jumped to. -/
theorem jumps_path_lost :
    ∃ game, Visited abroadStory (fun _ => True) game ∧ ¬Tracked abroadStory game := by
  refine ⟨Call.rollback.left (abroadLoaded "English"),
    (visited_abroadLoaded trivial trivial).call .rollback, ?_⟩
  rintro ⟨entries, hentries, -, hpath, -⟩
  have hempty : (Call.rollback.left (abroadLoaded "English")).world.history.entries Jump.stack
      = [] := by
    decide +kernel
  have hlabel : (Call.rollback.left (abroadLoaded "English")).cursor.label
      ≠ abroadStory.settings.startLabel := by
    decide +kernel
  rw [hempty] at hentries
  obtain rfl := List.map_eq_nil_iff.1 hentries.symm
  exact hlabel hpath

end Narrative
