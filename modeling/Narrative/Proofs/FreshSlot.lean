import Narrative.Proofs.Numeral
import Narrative.Proofs.Resumed
import Narrative.Proofs.Shadowed

/-!
# Proofs/FreshSlot — a save of the player overwrites nothing

The key of a slot is read back as the number it was made from (`slotId?_slotKey`), though several
keys may be read as the same number.  So the key of a number that no key is read as is not in the
store: the next free number, one above all that are in use, has such a key.

The new slot is listed behind all others, as its number is greater, and the others are listed as
before (`save_appends`).
-/

namespace Narrative

/-! ## Numbers in keys -/

/-- **The number of a slot reads back from its key.** -/
theorem slotId?_slotKey (label : String) {id : Nat} (h : id ≤ Text.Numeral.max32) :
    slotId? label (slotKey label id) = some id := by
  have hkey : (slotKey label id).toList
      = label.toList ++ (['_'] ++ (Text.Numeral.text id).toList) := by
    simp [slotKey]
  have hrest := Text.dropMark?_eq_some.2 hkey
  have hdigits : Text.dropMark? ['_'] (['_'] ++ (Text.Numeral.text id).toList)
      = some (Text.Numeral.text id).toList := Text.dropMark?_eq_some.2 rfl
  rw [slotId?, hrest, Option.bind_eq_bind, Option.bind_some, hdigits, Option.bind_some,
    Text.Numeral.read?_text h]

/-- **Keys tell numbers apart**, of whatever size. -/
theorem slotKey_inj {label : String} {id other : Nat} (h : slotKey label id = slotKey label other) :
    id = other := by
  have htext : Text.Numeral.text id = Text.Numeral.text other := (String.append_right_inj _).1 h
  have hread := Text.Numeral.read?_text (Nat.le_max_left id other)
  rw [htext, Text.Numeral.read?_text (Nat.le_max_right id other)] at hread
  exact (Option.some.inj hread).symm

/-! ## Keys of a table -/

namespace Table

variable {α : Type}

theorem keys_place {key : String} {entries : Fields α} (new : α) (h : key ∉ Fields.keys entries) :
    ∃ before after, Fields.keys entries = before ++ after
      ∧ Fields.keys (place key new entries) = before ++ key :: after := by
  induction entries with
  | nil => exact ⟨[], [], rfl, rfl⟩
  | cons entry rest ih =>
    obtain ⟨name, value⟩ := entry
    obtain ⟨hne, hrest⟩ := not_or.1 fun hmem => h (List.mem_cons.2 hmem)
    rw [place, if_neg hne]
    split
    · exact ⟨[], name :: Fields.keys rest, rfl, rfl⟩
    · obtain ⟨before, after, hkeys, hplaced⟩ := ih hrest
      exact ⟨name :: before, after, congrArg _ hkeys, congrArg _ hplaced⟩

/-- **A new name** goes somewhere between the others. -/
theorem keys_insert {table : Table α} {key : String} (new : α) (h : key ∉ table.keys) :
    ∃ before after, table.keys = before ++ after
      ∧ (table.insert key new).keys = before ++ key :: after :=
  keys_place new h

end Table

/-! ## Listing -/

namespace Game

section Listing

variable {σ : Type} [Store σ] {store other : σ} {label key : String} {keys more : List String}
  {entries : List SlotEntry} {entry : SlotEntry} {settings : Settings} {kind : SlotKind}

theorem mem_insertById {found : SlotEntry} :
    found ∈ insertById entry entries ↔ found = entry ∨ found ∈ entries := by
  induction entries with
  | nil => simp [insertById]
  | cons first rest ih =>
    rw [insertById]
    split
    · exact List.mem_cons
    · simp only [List.mem_cons, ih, or_left_comm]

theorem mem_sorted {found : SlotEntry} :
    found ∈ entries.foldr insertById [] ↔ found ∈ entries := by
  induction entries with
  | nil => exact Iff.rfl
  | cons first rest ih => rw [List.foldr_cons, mem_insertById, ih, List.mem_cons]

/-- **An entry of the greatest number** is put last. -/
theorem insertById_last (h : ∀ found ∈ entries, found.id < entry.id) :
    insertById entry entries = entries ++ [entry] := by
  induction entries with
  | nil => rfl
  | cons first rest ih =>
    obtain ⟨hfirst, hrest⟩ := List.forall_mem_cons.1 h
    rw [insertById, if_neg (Nat.not_le.2 hfirst), ih hrest, List.cons_append]

/-- An entry is put before one of no smaller number. -/
theorem insertById_concat {last : SlotEntry} (h : entry.id ≤ last.id) :
    insertById entry (entries ++ [last]) = insertById entry entries ++ [last] := by
  induction entries with
  | nil => exact if_pos h
  | cons first rest ih =>
    rw [List.cons_append, insertById, insertById]
    split
    · rfl
    · rw [ih, List.cons_append]

/-- **An entry of the greatest number** is sorted behind the others, wherever it stands. -/
theorem sorted_insert {before after : List SlotEntry}
    (h : ∀ found ∈ before ++ after, found.id < entry.id) :
    (before ++ entry :: after).foldr insertById [] =
      (before ++ after).foldr insertById [] ++ [entry] := by
  induction before with
  | nil => exact insertById_last fun found hfound => h found (mem_sorted.1 hfound)
  | cons first rest ih =>
    obtain ⟨hfirst, hrest⟩ := List.forall_mem_cons.1 h
    rw [List.cons_append, List.foldr_cons, ih hrest, insertById_concat (Nat.le_of_lt hfirst)]
    rfl

/-- The entry of a key, if it belongs to the family and its slot can be read. -/
def entryOf? (label : String) (store : σ) (key : String) : Option SlotEntry :=
  (slotId? label key).bind fun id => (readSlot store key).toOption.map fun slot => ⟨id, key, slot⟩

/-- **The slots of a family can be read**, those of some keys at least. -/
def Legible (label : String) (store : σ) (keys : List String) : Prop :=
  ∀ key ∈ keys, (slotId? label key).isSome → ∃ slot, readSlot store key = .ok slot

/-- **What is listed** of slots that can be read: the entries of the keys. -/
theorem readSlots_eq (h : Legible label store keys) :
    readSlots label store keys = .ok (keys.filterMap (entryOf? label store)) := by
  induction keys with
  | nil => rfl
  | cons key keys ih =>
    obtain ⟨hkey, hkeys⟩ := List.forall_mem_cons.1 h
    rw [readSlots, ih hkeys, List.filterMap_cons, entryOf?]
    cases hid : slotId? label key with
    | none => rfl
    | some id =>
      obtain ⟨slot, hslot⟩ := hkey (hid ▸ rfl)
      rw [hslot]
      rfl

theorem listSlots_eq (h : Legible (kind.label settings) store (Store.keys store)) :
    listSlots settings store kind = .ok
      (((Store.keys store).filterMap (entryOf? (kind.label settings) store)).foldr insertById
        []) := by
  rw [listSlots, readSlots_eq h]
  rfl

/-- An entry has the number of its key. -/
theorem slotId?_of_entryOf? (h : entryOf? label store key = some entry) :
    slotId? label key = some entry.id := by
  obtain ⟨id, hid, h⟩ := Option.bind_eq_some_iff.1 h
  obtain ⟨slot, -, rfl⟩ := Option.map_eq_some_iff.1 h
  exact hid

/-- **No number in use** exceeds the greatest. -/
theorem le_maxSlotId {id : Nat} (hkey : key ∈ Store.keys store)
    (hid : slotId? (kind.label settings) key = some id) : id ≤ maxSlotId settings store kind := by
  rw [maxSlotId, List.foldl_max, Nat.zero_max]
  exact List.le_max?_getD_of_mem (List.mem_filterMap.2 ⟨key, hkey, hid⟩)

/-- The key of the next free number is not in the store. -/
theorem next_key_fresh (hmax : maxSlotId settings store kind < Text.Numeral.max32) :
    slotKey (kind.label settings) (maxSlotId settings store kind + 1) ∉ Store.keys store :=
  fun hmem => Nat.not_succ_le_self _ (le_maxSlotId hmem (slotId?_slotKey _ hmax))

/-- A key that holds the same in two stores has the same slot in both. -/
theorem readSlot_congr (h : Store.get other key = Store.get store key) :
    readSlot other key = readSlot store key := by
  rw [readSlot, readSlot, h]

end Listing

/-! ## Saving -/

section Saving

variable {game : Game} {store : MemoryStore} {key label : String} {slot : SaveSlot} {id : Nat}
  {settings : Settings} {kind : SlotKind}

/-- A store with one more slot. -/
def withSlot (store : MemoryStore) (key : String) (slot : SaveSlot) : MemoryStore :=
  ⟨store.values.insert key slot.toJson⟩

theorem get_withSlot_ne {other : String} (h : other ≠ key) :
    Store.get (withSlot store key slot) other = Store.get store other := by
  simp only [Store.get, withSlot, Table.get?_insert, if_neg h]

theorem contains_withSlot : Store.contains (withSlot store key slot) key = true := by
  simp [Store.contains, withSlot, Table.has]

theorem mem_keys_iff_contains : key ∈ Store.keys store ↔ Store.contains store key = true := by
  show key ∈ Fields.keys store.values.entries ↔ (Fields.get? store.values.entries key).isSome = true
  rw [Option.isSome_iff_ne_none, Ne, Fields.get?_eq_none_iff, not_not]

/-- **The new slot can be read.** -/
theorem readSlot_withSlot (h : slot.snapshot.state.Storable) :
    readSlot (withSlot store key slot) key = .ok slot :=
  readSlot_of_stored h (Store.Lawful.get_of_set rfl)

theorem readSlot_withSlot_ne {other : String} (h : other ≠ key) :
    readSlot (withSlot store key slot) other = readSlot store other :=
  readSlot_congr (get_withSlot_ne h)

/-- **The new key** stands somewhere between the others. -/
theorem keys_withSlot (slot : SaveSlot) (h : key ∉ Store.keys store) :
    ∃ before after, Store.keys store = before ++ after
      ∧ Store.keys (withSlot store key slot) = before ++ key :: after :=
  Table.keys_insert slot.toJson h

theorem legible_withSlot (hreads : Legible label store (Store.keys store))
    (hslot : slot.snapshot.state.Storable) (hfresh : key ∉ Store.keys store) :
    Legible label (withSlot store key slot) (Store.keys (withSlot store key slot)) := by
  obtain ⟨before, after, hkeys, hadded⟩ := keys_withSlot slot hfresh
  intro other hother hsome
  rw [hadded, List.mem_append, List.mem_cons, or_left_comm, ← List.mem_append, ← hkeys] at hother
  rcases hother with rfl | hother
  · exact ⟨slot, readSlot_withSlot hslot⟩
  · have hne : other ≠ key := fun heq => hfresh (heq ▸ hother)
    rw [readSlot_withSlot_ne hne]
    exact hreads other hother hsome

/-- **The new entry** stands somewhere between the others, which stay. -/
theorem entries_withSlot (hslot : slot.snapshot.state.Storable) (hfresh : key ∉ Store.keys store)
    (hid : slotId? label key = some id) :
    ∃ before after, (Store.keys store).filterMap (entryOf? label store) = before ++ after
      ∧ (Store.keys (withSlot store key slot)).filterMap (entryOf? label (withSlot store key slot))
        = before ++ ⟨id, key, slot⟩ :: after := by
  obtain ⟨before, after, hkeys, hadded⟩ := keys_withSlot slot hfresh
  have hnew : entryOf? label (withSlot store key slot) key = some ⟨id, key, slot⟩ := by
    rw [entryOf?, hid, readSlot_withSlot hslot]
    rfl
  have hsame : ∀ other ∈ Store.keys store,
      entryOf? label (withSlot store key slot) other = entryOf? label store other := by
    intro other hother
    have hne : other ≠ key := fun heq => hfresh (heq ▸ hother)
    rw [entryOf?, entryOf?, readSlot_withSlot_ne hne]
  rw [hkeys] at hsame
  obtain ⟨hbefore, hafter⟩ := List.forall_mem_append.1 hsame
  refine ⟨before.filterMap (entryOf? label store), after.filterMap (entryOf? label store), ?_, ?_⟩
  · rw [hkeys, List.filterMap_append]
  · rw [hadded, List.filterMap_append, List.filterMap_cons, hnew, List.filterMap_congr hbefore,
      List.filterMap_congr hafter]

/-- **A slot under a new key** of the greatest number is listed behind all others. -/
theorem listSlots_withSlot
    (hreads : Legible (kind.label settings) store (Store.keys store))
    (hslot : slot.snapshot.state.Storable) (hfresh : key ∉ Store.keys store)
    (hid : slotId? (kind.label settings) key = some id)
    (hlast : maxSlotId settings store kind < id) :
    ∃ before, listSlots settings store kind = .ok before
      ∧ (∀ entry ∈ before, entry.id < id)
      ∧ listSlots settings (withSlot store key slot) kind = .ok (before ++ [⟨id, key, slot⟩]) := by
  obtain ⟨before, after, hentries, hadded⟩ := entries_withSlot hslot hfresh hid
  have hids : ∀ entry ∈ before ++ after, entry.id < id := by
    intro entry hentry
    obtain ⟨other, hother, hread⟩ := List.mem_filterMap.1 (hentries ▸ hentry)
    exact Nat.lt_of_le_of_lt (le_maxSlotId hother (slotId?_of_entryOf? hread)) hlast
  refine ⟨(before ++ after).foldr insertById [], ?_, fun entry hentry => ?_, ?_⟩
  · rw [listSlots_eq hreads, hentries]
  · exact hids entry (mem_sorted.1 hentry)
  · rw [listSlots_eq (legible_withSlot hreads hslot hfresh), hadded, sorted_insert hids]

theorem storable_toSlot (h : game.world.state.Storable) (name : Option String) (date : String) :
    (game.toSlot name date).snapshot.state.Storable := h

/-- What a game in progress saves to. -/
theorem save_eq {name : Option String} {date : String}
    (hplaying : game.world.globals.playing = true) :
    game.save store name date
      = .ok (some (slotKey (SlotKind.manual.label game.book.settings)
            (maxSlotId game.book.settings store .manual + 1)),
          withSlot store (slotKey (SlotKind.manual.label game.book.settings)
            (maxSlotId game.book.settings store .manual + 1)) (game.toSlot name date)) := by
  rw [save, saveTo, if_pos hplaying]
  rfl

end Saving

end Game

/-- **A save of the player overwrites nothing.**  Let a game be in progress whose variables have
other names than the parts of the cursor, and let a store in memory hold slots of the player that
can all be read, whatever their keys, with numbers below the greatest.  Then saving writes a key
that was not in the store, and leaves the values of all others.  Listed, the new slot stands behind
those that were listed before; its number is greater than theirs, and it holds the game as it is. -/
theorem save_appends {game : Game} {store : MemoryStore} {name : Option String} {date : String}
    (hplaying : game.world.globals.playing = true)
    (hdistinct : Fields.Distinct game.world.state.vars)
    (hunshadowed : game.world.state.Unshadowed)
    (hmax : Game.maxSlotId game.book.settings store .manual < Text.Numeral.max32)
    (hreads : ∀ key ∈ Store.keys store, (slotId? game.book.settings.saveLabel key).isSome →
      ∃ slot, Game.readSlot store key = .ok slot) :
    ∃ key kept before entry,
      game.save store name date = .ok (some key, kept)
        ∧ Store.contains store key = false ∧ Store.contains kept key = true
        ∧ (∀ other, other ≠ key → Store.get kept other = Store.get store other)
        ∧ Game.listSlots game.book.settings store .manual = .ok before
        ∧ Game.listSlots game.book.settings kept .manual = .ok (before ++ [entry])
        ∧ entry.key = key ∧ (∀ other ∈ before, other.id < entry.id)
        ∧ entry.slot.snapshot = game.snapshot := by
  have hfresh := Game.next_key_fresh hmax
  have hlegible : Game.Legible (SlotKind.manual.label game.book.settings) store (Store.keys store) :=
    hreads
  have hslot := Game.storable_toSlot ((State.storable_iff hdistinct).2 hunshadowed) name date
  obtain ⟨before, hbefore, hids, hafter⟩ := Game.listSlots_withSlot hlegible hslot hfresh
    (slotId?_slotKey _ hmax) (Nat.lt_succ_self _)
  refine ⟨_, _, before, _, Game.save_eq hplaying, ?_, ?_, fun other => Game.get_withSlot_ne,
    hbefore, hafter, rfl, hids, rfl⟩
  · rw [← Bool.not_eq_true, ← Game.mem_keys_iff_contains]
    exact hfresh
  · exact Game.contains_withSlot

/-- A store with slots whose numbers are not written like those of new keys. -/
def oddStore : MemoryStore :=
  Game.withSlot (Game.withSlot MemoryStore.empty "Save_+3" (innMenu.toSlot none "today")) "Save_07"
    (innMenu.toSlot none "tomorrow")

/-- The game at its menu is saved behind the slots of odd keys. -/
theorem save_appends_inn :
    ∃ key kept before entry,
      innMenu.save oddStore (some "inn") "today" = .ok (some key, kept)
        ∧ Store.contains oddStore key = false ∧ Store.contains kept key = true
        ∧ (∀ other, other ≠ key → Store.get kept other = Store.get oddStore other)
        ∧ Game.listSlots innMenu.book.settings oddStore .manual = .ok before
        ∧ Game.listSlots innMenu.book.settings kept .manual = .ok (before ++ [entry])
        ∧ entry.key = key ∧ (∀ other ∈ before, other.id < entry.id)
        ∧ entry.slot.snapshot = innMenu.snapshot := by
  have hdistinct : (Fields.keys innMenu.world.state.vars).Nodup := by decide +kernel
  have hlabel : (innMenu.world.state.get? "label").isNone = true := by decide +kernel
  have hstep : (innMenu.world.state.get? "step").isNone = true := by decide +kernel
  have hunshadowed : innMenu.world.state.Unshadowed :=
    ⟨Option.isNone_iff_eq_none.1 hlabel, Option.isNone_iff_eq_none.1 hstep⟩
  have hslot := Game.storable_toSlot ((State.storable_iff hdistinct).2 hunshadowed) none
  have hkeys : Store.keys oddStore = ["Save_+3", "Save_07"] := by decide +kernel
  refine save_appends (by decide +kernel) hdistinct hunshadowed (by decide +kernel) ?_
  rw [hkeys]
  intro key hkey _
  rcases List.mem_pair.1 hkey with rfl | rfl
  · exact ⟨_, (Game.readSlot_withSlot_ne (by decide)).trans (Game.readSlot_withSlot (hslot _))⟩
  · exact ⟨_, Game.readSlot_withSlot (hslot _)⟩

end Narrative
