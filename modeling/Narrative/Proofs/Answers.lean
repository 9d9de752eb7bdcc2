import Mathlib.Data.List.Nodup
import Narrative.Proofs.Held
import Narrative.Proofs.LostMenu
import Narrative.Proofs.Options
import Narrative.Proofs.Shadowed

/-!
# Proofs/Answers — what a waiting menu can be answered with

A menu that waits is that of the record at the cursor, or one that an option inside it leads to
(`Choice.Within`).  It offers just the options that are open to the player, each under a key of its
own, so that a key picks the one option it stands for (`waiting_menu`).

Nothing asks for an option to be open.  A menu without one waits all the same, and then no key picks
anything and continuing is refused, until the player goes back or another game begins
(`stuck_of_offered_nil`, `waiting_menu_empty`).
-/

namespace Narrative

open Choice (isOffered offer)

/-- **The menus of a record**: its own, and those of the records that their options lead to. -/
inductive Choice.Within (fields : Fields Json) : Fields Json → Prop
  | own {options : Fields Json}
      (field : (Fields.get? fields fieldName).bind Json.asFields? = some options) :
      Within fields options
  | inside {options inner more : Fields Json} {option : String × Json}
      (outer : Within fields options) (among : option ∈ options)
      (action : option.2.field? "Do" = some (.obj inner))
      (field : (Fields.get? inner fieldName).bind Json.asFields? = some more) :
      Within fields more

/-- **A menu of the record at the cursor**, with what is offered of it. -/
def Choice.Offers (book : Playbook) (world : World) (menu : Json) : Prop :=
  ∃ fields options items, book.current? world = some (.record fields)
    ∧ Choice.Within fields options ∧ offer book world options = .ok items
    ∧ menu = .arr (items.map MenuItem.toJson)

/-- **Answer with an option**: close the menu, and run what stands under `Do`. -/
def MenuItem.answer (item : MenuItem) : Turn Unit := fun game =>
  let closed := game.withWorld fun world => (Choice.close world).emit [.hideChoices]
  match Statement.ofJson? item.action with
  | none => .error .invalidScript closed
  | some statement => Game.run statement false closed

section Answers

variable {book : Playbook} {world other : World} {game : Game}

/-! ## The options that wait -/

/-- What a menu offers is told from the storage. -/
theorem offer_congr (h : other.storage = world.storage) (options : Fields Json) :
    offer book other options = offer book world options := by
  rw [offer, offer, readOptions_congr h, h]

/-- **What waits is a menu of the record at the cursor.** -/
theorem opens_offers (book : Playbook) : Opens book (Choice.Offers book) where
  congr world other menu h hcursor hstorage := by
    obtain ⟨fields, options, items, here, within, hitems, rfl⟩ := h
    refine ⟨fields, options, items, ?_, within, (offer_congr hstorage options).trans hitems, rfl⟩
    rw [Playbook.current?, hcursor]
    exact here
  record world menu h := by
    obtain ⟨fields, options, items, here, -⟩ := h
    exact ⟨fields, here⟩
  here world fields options items here field read := by
    have hitems : offer book world options = .ok (Choice.visible world.storage items) := by
      rw [offer, read]
      rfl
    exact ⟨fields, options, _, here, .own field, hitems, rfl⟩
  inside world menu h item hitem inner more found hread field read := by
    obtain ⟨fields, options, items, here, within, hitems, rfl⟩ := h
    rw [Json.listOf_map MenuItem.ofJson?_toJson] at hitem
    obtain ⟨option, hoption, hof⟩ := mem_offer hitems hitem
    have haction : option.2.field? "Do" = some (.obj inner) :=
      hof.action.trans (congrArg some (Statement.eq_obj_of_ofJson? hread))
    have hmore : offer book world more = .ok (Choice.visible world.storage found) := by
      rw [offer, read]
      rfl
    exact ⟨fields, more, _, here, .inside within hoption haction field, hmore, rfl⟩

/-- What waits is what is offered. -/
theorem offered_of_offers {menu : Json} (hpending : world.prompt.pending = some menu)
    (h : Choice.Offers book world menu) :
    ∃ fields options, book.current? world = some (.record fields) ∧ Choice.Within fields options
      ∧ offer book world options = .ok (Choice.offered world) := by
  obtain ⟨fields, options, items, here, within, hitems, rfl⟩ := h
  have hglobal : world.globals.get? Choice.pendingKey = some (.arr (items.map MenuItem.toJson)) :=
    hpending
  refine ⟨fields, options, here, within, ?_⟩
  rw [Choice.offered, hglobal, hitems]
  simp

/-! ## The keys -/

/-- Well-formed values hand their form down. -/
theorem Json.inherited_wellFormed : Json.Inherited Json.WellFormed :=
  ⟨fun _ h _ => wellFormed_of_mem_fields h.2, fun _ h _ => wellFormed_of_mem_items h⟩

/-- What is found in a well-formed record is well formed. -/
theorem wellFormed_of_asFields? {fields options : Fields Json} {name : String}
    (h : (Json.obj fields).WellFormed)
    (hfield : (Fields.get? fields name).bind Json.asFields? = some options) :
    (Json.obj options).WellFormed := by
  obtain ⟨value, hvalue, hoptions⟩ := Option.bind_eq_some_iff.1 hfield
  have hwellFormed := Json.wellFormed_of_mem_fields h.2 (Fields.mem_of_get? hvalue)
  cases value with
  | obj _ => exact Option.some.inj hoptions ▸ hwellFormed
  | _ => cases hoptions

/-- **Menus inside a well-formed record are well formed.** -/
theorem Choice.Within.wellFormed {fields options : Fields Json} (h : Choice.Within fields options)
    (hfields : (Json.obj fields).WellFormed) : (Json.obj options).WellFormed := by
  induction h with
  | own field => exact wellFormed_of_asFields? hfields field
  | @inside options inner more option outer among action field ih =>
    have hoption : option.2.WellFormed := Json.wellFormed_of_mem_fields ih.2 among
    cases hvalue : option.2 with
    | obj parts =>
      rw [hvalue] at action hoption
      exact wellFormed_of_asFields?
        (Json.wellFormed_of_mem_fields hoption.2 (Fields.mem_of_get? action)) field
    | _ =>
      rw [hvalue] at action
      cases action

/-- **The keys of what is offered are distinct**, where those of the options are. -/
theorem nodup_keys_offer {options : Fields Json} {items : List MenuItem}
    (h : offer book world options = .ok items) (hdistinct : Fields.Distinct options) :
    (items.map (·.key)).Nodup := by
  rw [keys_offer h]
  exact hdistinct.filter _

/-- **A key picks the one option that is offered under it.** -/
theorem picked?_eq_some_iff (hnodup : ((Choice.offered world).map (·.key)).Nodup) {key : String}
    {item : MenuItem} :
    Choice.picked? world key = some item ↔ item ∈ Choice.offered world ∧ item.key = key := by
  unfold Choice.picked?
  constructor
  · intro hfind
    exact ⟨List.mem_of_find?_eq_some hfind, by simpa using List.find?_some hfind⟩
  · rintro ⟨hmem, rfl⟩
    have hsome : ((Choice.offered world).find? (·.key == item.key)).isSome = true :=
      List.find?_isSome.2 ⟨item, hmem, beq_self_eq_true item.key⟩
    obtain ⟨found, hfound⟩ := Option.isSome_iff_exists.1 hsome
    have hkey : found.key = item.key := by simpa using List.find?_some hfound
    rw [hfound, List.inj_on_of_nodup_map hnodup (List.mem_of_find?_eq_some hfound) hmem hkey]

/-- Picking answers with the option that the key picks. -/
theorem select_of_picked {key : String} {item : MenuItem}
    (h : Choice.picked? game.world key = some item) : Game.select key game = item.answer game := by
  have hfind : (Choice.offered game.world).find? (·.key == key) = some item := h
  rw [Game.select, hfind]
  rfl

/-- A key that is not offered is rejected. -/
theorem select_of_not_offered {key : String}
    (h : ∀ item ∈ Choice.offered game.world, item.key ≠ key) :
    Game.select key game
      = .error (.rejected ("no option \"" ++ key ++ "\" is offered")) game := by
  have hfind : (Choice.offered game.world).find? (·.key == key) = none :=
    List.find?_eq_none.2 fun item hitem => by simpa using h item hitem
  rw [Game.select, hfind]

/-- **Something is offered exactly if an option is open.** -/
theorem offer_ne_nil_iff {options : Fields Json} {items : List MenuItem}
    (h : offer book world options = .ok items) :
    items ≠ [] ↔ ∃ option ∈ options, isOffered world.storage option.2 = true := by
  have hempty : items = [] ↔ options.filter (isOffered world.storage ·.2) = [] := by
    rw [← List.map_eq_nil_iff, keys_offer h, Fields.keys, List.map_eq_nil_iff]
  rw [Ne, hempty, List.filter_eq_nil_iff]
  simp

/-- **A menu with nothing to pick holds the game for good**: whatever else the host does, other than
going back, continuing is refused and so is every key. -/
theorem stuck_of_offered_nil {story : Story} (hregistry : game.registry = story.registry)
    (hpending : Choice.isPending game.world = true) (hnil : Choice.offered game.world = [])
    {σ : Type} [Store σ] (store : σ) (waiting : List Waiting) :
    (∃ after, Game.proceed (Waiting.leftAll waiting game store).1 = .ok false after)
      ∧ ∀ key, Game.select key (Waiting.leftAll waiting game store).1
        = .error (.rejected ("no option \"" ++ key ++ "\" is offered"))
            (Waiting.leftAll waiting game store).1 := by
  have hheld : game.Held (Waiting.leftAll waiting game store).1 :=
    Waiting.held_leftAll hregistry hpending waiting
  have hsame : (Waiting.leftAll waiting game store).1.registry = story.registry :=
    (congrArg (·.2.1) hheld.fixed).trans hregistry
  obtain ⟨after, hproceed, -⟩ := held_of_proceed hsame (hheld.isPending.trans hpending)
  refine ⟨⟨after, hproceed⟩, fun key => select_of_not_offered fun item hitem => ?_⟩
  rw [hheld.offered, hnil] at hitem
  cases hitem

end Answers

/-- **What a waiting menu can be answered with.**  In every game that a host may reach of a story,
whose script has no name twice in an object, a menu that waits is one of the record at the cursor,
and continuing is refused.  It offers just the options that have a statement and whose condition
holds, in order, so that something is offered exactly if there is such an option.  Each key picks
the one option that is offered under it, and runs its statement; any other key is rejected.  If
nothing is offered, continuing and picking stay refused, however long the menu waits. -/
theorem waiting_menu {story : Story} {game : Game} (hscript : story.script.WellFormed)
    (h : Hosted story game) (hpending : Choice.isPending game.world = true) :
    (∃ after, Game.proceed game = .ok false after)
      ∧ (∃ fields options, game.book.current? game.world = some (.record fields)
        ∧ Choice.Within fields options
        ∧ (Choice.offered game.world).map (·.key)
          = Fields.keys (options.filter (isOffered game.world.storage ·.2))
        ∧ (Choice.offered game.world ≠ []
          ↔ ∃ option ∈ options, isOffered game.world.storage option.2 = true)
        ∧ ∀ item ∈ Choice.offered game.world,
          ∃ option ∈ options, item.IsOf game.book game.world option)
      ∧ (∀ key,
        (∀ item, Choice.picked? game.world key = some item
          ↔ item ∈ Choice.offered game.world ∧ item.key = key)
        ∧ (∀ item ∈ Choice.offered game.world, item.key = key →
          Game.select key game = item.answer game)
        ∧ ((∀ item ∈ Choice.offered game.world, item.key ≠ key) →
          Game.select key game
            = .error (.rejected ("no option \"" ++ key ++ "\" is offered")) game))
      ∧ (Choice.offered game.world = [] →
        ∀ (σ : Type) [Store σ] (store : σ) (waiting : List Waiting),
          (∃ after, Game.proceed (Waiting.leftAll waiting game store).1 = .ok false after)
            ∧ ∀ key, Game.select key (Waiting.leftAll waiting game store).1
              = .error (.rejected ("no option \"" ++ key ++ "\" is offered"))
                  (Waiting.leftAll waiting game store).1) := by
  obtain ⟨⟨preferences, hisOf⟩, hwaits⟩ := h.waits fun game _ _ => opens_offers game.book
  obtain ⟨menu, hmenu⟩ := Option.isSome_iff_exists.1 hpending
  obtain ⟨fields, options, here, within, hoffer⟩ := offered_of_offers hmenu (hwaits menu hmenu)
  have hrecord : (Json.obj fields).WellFormed := by
    obtain ⟨value, hvalue, hread⟩ :=
      Script.read_of_ofJson? Json.inherited_wellFormed hscript hisOf.script here
    exact Statement.eq_obj_of_ofJson? hread ▸ hvalue
  have hnodup := nodup_keys_offer hoffer (within.wellFormed hrecord).1
  obtain ⟨after, hproceed, -⟩ := held_of_proceed hisOf.registry hpending
  refine ⟨⟨after, hproceed⟩, ⟨fields, options, here, within, keys_offer hoffer,
    offer_ne_nil_iff hoffer, fun item => mem_offer hoffer⟩, fun key => ⟨fun item =>
      picked?_eq_some_iff hnodup, fun item hitem hkey => ?_, select_of_not_offered⟩,
    fun hnil σ _ => stuck_of_offered_nil hisOf.registry hpending hnil⟩
  exact select_of_picked ((picked?_eq_some_iff hnodup).2 ⟨hitem, hkey⟩)

/-! ## A gate for those who have a coat -/

/-- A story with a menu whose only option takes a coat. -/
def gateStory (coat : Bool) : Story :=
  { script := .obj
      [("Start", .arr
        [.obj [("Choice", .obj [("go", .obj [("Do", .str "next"), ("Condition", .str "coat")])])],
          .str "It is warm."])]
    characters := Table.empty
    particles := []
    storage := [("coat", .bool coat)]
    settings := { typeAnimation := false } }

/-- The game of the story. -/
def gateMade (coat : Bool) : Game :=
  ((gateStory coat).gameWith? (gateStory coat).registry).get (by cases coat <;> decide +kernel)

/-- The game at its menu. -/
def gateMenu (coat : Bool) : Game :=
  Call.start.left (Result.left (Game.setup ((gateMade coat).withPreferences {})))

theorem hosted_gateMenu (coat : Bool) : Hosted (gateStory coat) (gateMenu coat) := by
  have hmade : (gateStory coat).gameWith? (gateStory coat).registry = some (gateMade coat) :=
    (Option.some_get _).symm
  have hregistry : ((gateMade coat).withPreferences {}).registry = (gateStory coat).registry := rfl
  exact (Hosted.setup {} hmade (setup_ok_left hregistry)).call .start

/-- **The theorem about the menu at the gate**, for a player with a coat. -/
theorem waiting_menu_gate :
    (gateStory true).script.WellFormed ∧ Hosted (gateStory true) (gateMenu true)
      ∧ Choice.isPending (gateMenu true).world = true
      ∧ (∃ after, Game.proceed (gateMenu true) = .ok false after)
      ∧ (Choice.offered (gateMenu true).world).map (·.key) = ["go"]
      ∧ (∃ item ∈ Choice.offered (gateMenu true).world,
        Choice.picked? (gateMenu true).world "go" = some item
          ∧ Game.select "go" (gateMenu true) = item.answer (gateMenu true))
      ∧ Game.select "stay" (gateMenu true)
        = .error (.rejected ("no option \"" ++ "stay" ++ "\" is offered")) (gateMenu true) := by
  have hscript : (gateStory true).script.WellFormed := by
    simp [gateStory, Json.WellFormed, Json.WellFormedItems, Json.WellFormedFields, Fields.Distinct,
      Fields.keys]
  have hpending : Choice.isPending (gateMenu true).world = true := by decide +kernel
  have hkeys : (Choice.offered (gateMenu true).world).map (·.key) = ["go"] := by decide +kernel
  obtain ⟨hproceed, -, hanswers, -⟩ := waiting_menu hscript (hosted_gateMenu true) hpending
  obtain ⟨item, hitem, hkey⟩ := List.mem_map.1 (hkeys ▸ List.mem_singleton_self "go")
  obtain ⟨hpicks, hselects, -⟩ := hanswers "go"
  obtain ⟨-, -, hrejects⟩ := hanswers "stay"
  have hother : ∀ item ∈ Choice.offered (gateMenu true).world, item.key ≠ "stay" := by
    intro other hmem heq
    have hstay : "stay" ∈ (Choice.offered (gateMenu true).world).map (·.key) :=
      List.mem_map.2 ⟨other, hmem, heq⟩
    simp [hkeys] at hstay
  exact ⟨hscript, hosted_gateMenu true, hpending, hproceed, hkeys,
    ⟨item, hitem, (hpicks item).2 ⟨hitem, hkey⟩, hselects item hitem hkey⟩, hrejects hother⟩

/-- **The menu at the gate cannot be answered without a coat**: it waits and refuses to go on, with
nothing to pick. -/
theorem waiting_menu_empty :
    Hosted (gateStory false) (gateMenu false)
      ∧ Choice.isPending (gateMenu false).world = true
      ∧ (Choice.offered (gateMenu false).world).map (·.key) = []
      ∧ Result.answer? (Game.proceed (gateMenu false)) = some false
      ∧ Result.fault? (Game.select "go" (gateMenu false))
        = some (.rejected "no option \"go\" is offered") :=
  ⟨hosted_gateMenu false, by decide +kernel, by decide +kernel, by decide +kernel,
    by decide +kernel⟩

end Narrative
