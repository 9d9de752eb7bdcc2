import Narrative.Game
import Narrative.Store

/-!
# Game/Saves — save slots and stored preferences

Slots come in two families, one for the player's saves and one for automatic ones.  A slot is stored
under the name of its family and its number, with an underscore between them.  The player's saves
get a new number each; automatic saves take turns in a fixed number of slots.

Loading reads the slot first, and only then returns to the beginning, merges the slot over it, tells
the actions, and runs the statement at the cursor.
-/

namespace Narrative

/-- **A family of slots.** -/
inductive SlotKind where
  /-- Saved by the player. -/
  | manual
  /-- Saved automatically. -/
  | auto
  deriving DecidableEq, Inhabited

namespace SlotKind

/-- The name of a family. -/
def label (settings : Settings) : SlotKind → String
  | manual => settings.saveLabel
  | auto => settings.autoSaveLabel

end SlotKind

/-- **The key of a slot.** -/
def slotKey (label : String) (id : Nat) : String := label ++ "_" ++ Text.Numeral.text id

/-- **The number of the slot of a key**, if the key belongs to the family. -/
def slotId? (label key : String) : Option Nat := do
  let rest ← Text.dropMark? label.toList key.toList
  let digits ← Text.dropMark? ['_'] rest
  Text.Numeral.read? Text.Numeral.max32 digits

/-- **A slot and where it is stored.** -/
structure SlotEntry where
  /-- The number of the slot. -/
  id : Nat
  /-- Its key. -/
  key : String
  /-- What it holds. -/
  slot : SaveSlot
  deriving Inhabited

namespace Game

variable {σ : Type} [Store σ]

/-- A value from a store, or its fault. -/
def fromStore {α : Type} (result : Except StoreFault α) : Except Fault α :=
  result.mapError .store

/-! ## Listing -/

/-- The greatest number in use in a family; zero if there is none. -/
def maxSlotId (settings : Settings) (store : σ) (kind : SlotKind) : Nat :=
  ((Store.keys store).filterMap (slotId? (kind.label settings))).foldl max 0

/-- The slot of a key. -/
def readSlot (store : σ) (key : String) : Except Fault SaveSlot := do
  match SaveSlot.ofJson? (← fromStore (Store.get store key)) with
  | some slot => .ok slot
  | none => .error .invalidSnapshot

/-- Put an entry behind those of no greater number. -/
def insertById (entry : SlotEntry) : List SlotEntry → List SlotEntry
  | [] => [entry]
  | other :: rest =>
    if entry.id ≤ other.id then entry :: other :: rest else other :: insertById entry rest

/-- The entries of a family among the keys, in the order of the keys. -/
def readSlots (label : String) (store : σ) : List String → Except Fault (List SlotEntry)
  | [] => .ok []
  | key :: keys =>
    match slotId? label key with
    | none => readSlots label store keys
    | some id => do
      let slot ← readSlot store key
      let entries ← readSlots label store keys
      return ⟨id, key, slot⟩ :: entries

/-- **The slots of a family**, by number; equal numbers stay in the order of their keys. -/
def listSlots (settings : Settings) (store : σ) (kind : SlotKind) :
    Except Fault (List SlotEntry) :=
  (readSlots (kind.label settings) store (Store.keys store)).map (·.foldr insertById [])

/-! ## Saving -/

/-- The name of a slot: the player's, without blanks around it, or else the date. -/
def slotName (name : Option String) (date : String) : String :=
  match name.map Text.trim with
  | some name => if name.isEmpty then date else name
  | none => date

/-- The image of the scene: the second word of the variable `scene`. -/
def sceneImage? (world : World) : Option String :=
  (world.state.getText? "scene").bind fun scene => (Text.words scene)[1]?

/-- The slot of the game as it is. -/
def toSlot (game : Game) (name : Option String) (date : String) : SaveSlot :=
  { name := slotName name date
    date := date
    image := sceneImage? game.world
    snapshot := game.snapshot }

/-- **Save the game**, if one is in progress, under a number or the next free one.  The answer is
the key. -/
def saveTo (game : Game) (store : σ) (kind : SlotKind) (id : Option Nat) (name : Option String)
    (date : String) : Except Fault (Option String × σ) :=
  if game.world.globals.playing then
    let settings := game.book.settings
    let number := id.getD (maxSlotId settings store kind + 1)
    let key := slotKey (kind.label settings) number
    (fromStore (Store.set store key (game.toSlot name date).toJson)).map (some key, ·)
  else .ok (none, store)

/-- Save to the player's next slot. -/
def save (game : Game) (store : σ) (name : Option String) (date : String) :
    Except Fault (Option String × σ) :=
  game.saveTo store .manual none name date

/-- The slot after a given one, among `slots` of them. -/
def nextAutoSlot (slots id : Nat) : Nat := if max slots 1 ≤ id then 1 else id + 1

/-- **Save automatically**, and have the next slot take its turn. -/
def autoSave (game : Game) (store : σ) (date : String) :
    Except Fault (Option String × Game × σ) := do
  let id := game.world.globals.autoSaveSlot
  match ← game.saveTo store .auto (some id) none date with
  | (none, store) => return (none, game, store)
  | (some key, store) =>
    let turned := game.withWorld (·.withGlobals
      ({ · with autoSaveSlot := nextAutoSlot game.book.settings.slots id }))
    return (some key, turned, store)

/-! ## Loading -/

/-- **Load a slot** and run the statement it stopped at. -/
def loadFromSlot (store : σ) (key : String) : Turn Unit := fun game =>
  match readSlot store key with
  | .error fault => .error fault game
  | .ok slot =>
    (do
      Turn.update setPlaying
      reset
      Turn.update (·.withWorld (·.restore slot.snapshot))
      eachAction Action.onLoad
      runCurrent : Turn Unit) game

/-! ## Preferences -/

/-- The key of the stored preferences. -/
def preferencesKey : String := "Settings"

/-- Store the preferences. -/
def savePreferences (game : Game) (store : σ) : Except Fault σ :=
  fromStore (Store.set store preferencesKey game.book.preferences.toJson)

/-- The preferences with those fields replaced that a stored object has. -/
def mergePreferences? (current : Preferences) (stored : Json) : Option Preferences :=
  match stored with
  | .obj fields => Preferences.ofJson? (.obj (Fields.extend current.toFields fields))
  | _ => some current

/-- Store the preferences of a game; a write that fails may leave the store changed. -/
def storePreferences : EStateM Fault (Game × σ) Unit := fun (game, store) =>
  match Store.write preferencesKey game.book.preferences.toJson store with
  | .ok _ kept => .ok () (game, kept)
  | .error fault left => .error (.store fault) (game, left)

/-- **Load the preferences**, on a game and a store that change as it goes: stored ones are merged
over the current ones; when nothing is stored yet, the current ones are. -/
def loadSteps : EStateM Fault (Game × σ) Unit := do
  let (game, store) ← get
  match Store.get store preferencesKey with
  | .ok stored =>
    match mergePreferences? game.book.preferences stored with
    | some preferences => set (game.setPreferences preferences, store)
    | none => throw .invalidScript
  | .error (.notFound _) => storePreferences
  | .error fault => throw (.store fault)

/-- **Load the preferences**: the game and the store after it, unless that fails. -/
def loadPreferences (game : Game) (store : σ) : Except Fault (Game × σ) :=
  match loadSteps (game, store) with
  | .ok _ after => .ok after
  | .error fault _ => .error fault

end Game

end Narrative
