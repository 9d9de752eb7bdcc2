import Mathlib.Data.List.Sort
import Narrative.Proofs.Erased
import Narrative.Proofs.Listed

/-!
# Proofs/Families — slots of one family have nothing to do with those of another

No spelling of a number has an underscore.  So the last underscore of the key of a slot is the one
that ends the name of its family (`family?`), and a key belongs to one family at most, whatever
underscores and digits stand in the names.

A store keeps its keys **apart** (`Store.Apart`) if storing under one key leaves what stands under
the others, and depends on nothing that does; both stores are such.  Then a save in one family
leaves the slots of the others (`SameSlots.of_saveTo`), and comes to the same whatever they are
(`Saving.run_congr`).  So of saves made one after the other, those in one family come to the same
as if no others had been made (`families_never_mix`).
-/

namespace Narrative

/-! ## The family of a key -/

namespace Text.Numeral

/-- **No spelling of a number has an underscore.** -/
theorem underscore_notMem {limit n : Nat} {cs : List Char} (h : read? limit cs = some n) :
    '_' ∉ cs := by
  have hdecimal : ∀ {ds : List Char}, IsDecimal n ds → '_' ∉ ds :=
    fun hds hmem => absurd (hds.isDigit '_' hmem) (by decide)
  rcases (read?_eq_some_iff.1 h).1 with hcs | ⟨ds, rfl, hds⟩
  · exact hdecimal hcs
  · exact List.not_mem_cons_of_ne_of_not_mem (by decide) (hdecimal hds)

end Text.Numeral

/-- **The family that a key names**: what stands before its last underscore. -/
def family? (key : String) : Option String :=
  (Text.cut? ['_'] key.toList.reverse).map fun (_, stem) => String.ofList stem.reverse

section Families

variable {label other key : String} {digits : List Char}

/-- The last underscore is the one with none behind it. -/
theorem family?_eq (hkey : key.toList = label.toList ++ '_' :: digits) (h : '_' ∉ digits) :
    family? key = some label := by
  rw [family?, hkey, List.reverse_append, List.reverse_cons, List.append_assoc,
    List.singleton_append, Text.cut?_append _ (by rwa [List.mem_reverse])]
  simp

/-- **A key with a number in a family** names this family. -/
theorem family?_of_slotId? (h : (slotId? label key).isSome = true) : family? key = some label := by
  obtain ⟨id, h⟩ := Option.isSome_iff_exists.1 h
  obtain ⟨rest, hrest, h⟩ := Option.bind_eq_some_iff.1 h
  obtain ⟨digits, hdigits, hread⟩ := Option.bind_eq_some_iff.1 h
  obtain rfl := Text.dropMark?_eq_some.1 hdigits
  exact family?_eq (Text.dropMark?_eq_some.1 hrest) (Text.Numeral.underscore_notMem hread)

/-- **The key of a slot** names its family, however great its number. -/
theorem family?_slotKey (label : String) (id : Nat) : family? (slotKey label id) = some label := by
  have hkey : (slotKey label id).toList
      = label.toList ++ '_' :: (Text.Numeral.text id).toList := by
    simp [slotKey]
  exact family?_eq hkey (Text.Numeral.underscore_notMem (Text.Numeral.read?_text le_rfl))

/-- **A key belongs to one family at most.** -/
theorem label_unique (h : (slotId? label key).isSome = true)
    (hother : (slotId? other key).isSome = true) : label = other :=
  Option.some.inj ((family?_of_slotId? h).symm.trans (family?_of_slotId? hother))

end Families

/-! ## Stores that keep their keys apart -/

/-- Stores that are the same in one respect are so in another that follows from what was stored. -/
theorem Stored.imp {σ : Type} {Same Same' : σ → σ → Prop} {result result' : Except StoreFault σ}
    (h : Stored Same result result')
    (himp : ∀ {store other}, result = .ok store → result' = .ok other → Same store other →
      Same' store other) : Stored Same' result result' := by
  cases h with
  | ok same => exact .ok (himp rfl rfl same)
  | error fault => exact .error fault

/-- **Two stores match at a key**: it holds the same in both, and both list it or neither does. -/
structure Store.Match {σ : Type} [Store σ] (key : String) (store other : σ) : Prop where
  /-- The key holds the same. -/
  get : Store.get store key = Store.get other key
  /-- It is listed alike. -/
  listed : key ∈ Store.keys store ↔ key ∈ Store.keys other

/-- **A store that keeps its keys apart.** -/
class Store.Apart (σ : Type) [Store σ] : Prop where
  /-- The keys are listed in order, each once. -/
  sorted : ∀ store : σ, (Store.keys store).Pairwise (· < ·)
  /-- Storing under one key leaves the others as they are. -/
  others : ∀ {store after : σ} {key found : String} {value : Json},
    Store.set store key value = .ok after → found ≠ key → Match found store after
  /-- What it comes to depends on this key alone. -/
  set : ∀ {store other : σ} {key : String}, Match key store other → ∀ value,
    Stored (Match key) (Store.set store key value) (Store.set other key value)

namespace Store.Match

variable {σ : Type} [Store σ] {key : String} {store other third : σ}

theorem symm (h : Match key store other) : Match key other store :=
  ⟨h.get.symm, h.listed.symm⟩

theorem trans (h : Match key store other) (hthird : Match key other third) :
    Match key store third :=
  ⟨h.get.trans hthird.get, h.listed.trans hthird.listed⟩

end Store.Match

instance : Store.Apart MemoryStore where
  sorted store := List.pairwise_map.2 store.values.sorted
  others {store after key found value} h hne := by
    obtain rfl := Except.ok.inj h
    refine ⟨?_, ?_⟩
    · simp only [Store.get, Table.get?_insert, if_neg hne]
    · rw [Game.mem_keys_iff_contains, Game.mem_keys_iff_contains]
      simp only [Store.contains, Table.has, Table.get?_insert, if_neg hne]
  set {store other key} _ value := .ok
    { get := by simp only [Store.get, Table.get?_insert, if_pos]
      listed := by
        rw [Game.mem_keys_iff_contains, Game.mem_keys_iff_contains]
        simp only [Store.contains, Table.has, Table.get?_insert, if_pos] }

namespace DirStore

variable {dir after : DirStore} {key found : String} {value : Json}

/-- A fault of reading that is one of writing, too. -/
def refusal? : Except StoreFault Json → Option StoreFault
  | .error .fileAccess => some .fileAccess
  | .error (.invalidKey key) => some (.invalidKey key)
  | _ => none

/-- A directory with one file written. -/
def written (dir : DirStore) (key : String) (value : Json) : DirStore :=
  { dir with entries := dir.entries.insert (fileName key) (.file value.prettyText) }

/-- **Writing a file** is refused where reading it is, and only there. -/
theorem set_eq (dir : DirStore) (key : String) (value : Json) :
    Store.set dir key value = match refusal? (Store.get dir key) with
      | some fault => .error fault
      | none => .ok (dir.written key value) := by
  have hget : Store.get dir key = dir.get key := rfl
  rw [set_def, hget, DirStore.set, DirStore.get]
  cases hentry : dir.entry? key with
  | error fault =>
    rw [DirStore.entry?] at hentry
    split at hentry
    · split at hentry
      · cases hentry
      · obtain rfl := Except.error.inj hentry
        rfl
    · obtain rfl := Except.error.inj hentry
      rfl
  | ok entry =>
    rcases entry with _ | text | _
    · rfl
    · dsimp only
      cases Json.read? text <;> rfl
    · rfl

/-- A key whose file can be read or written is served. -/
theorem serves_of_refusal? (h : refusal? (Store.get dir key) = none) : dir.Serves key := by
  rcases get_cases dir key with ⟨-, hget⟩ | ⟨-, -, hget⟩ | ⟨hserves, -⟩ | ⟨hserves, -⟩
  · rw [hget] at h
    cases h
  · rw [hget] at h
    cases h
  · exact hserves
  · exact hserves

/-- What stands under another key is the same after a file was written. -/
theorem match_written (hne : found ≠ key) : Store.Match found dir (dir.written key value) := by
  have hname : fileName found ≠ fileName key := fun h => hne (fileName_inj.1 h)
  have hentry : DirStore.entry? (dir.written key value) found = dir.entry? found := by
    simp only [DirStore.entry?, written, reaches, Table.get?_insert, if_neg hname]
    rfl
  refine ⟨?_, ?_⟩
  · show dir.get found = (dir.written key value).get found
    rw [DirStore.get, DirStore.get, hentry]
  · simp only [mem_keys, written, Table.has, Table.get?_insert, if_neg hname]

/-- What was written is read back as what its text says. -/
theorem get_written (h : dir.Serves key) :
    Store.get (dir.written key value) key
      = match Json.read? value.prettyText with
        | some value => .ok value
        | none => .error .notJson := by
  have hentry : DirStore.entry? (dir.written key value) key
      = .ok (some (.file value.prettyText)) := by
    have hreach : (dir.written key value).reaches (fileName key) = true := h.2
    rw [DirStore.entry?, if_pos h.1, if_pos hreach, written, Table.get?_insert, if_pos rfl]
  show (dir.written key value).get key = _
  cases hread : Json.read? value.prettyText <;> simp only [DirStore.get, hentry, hread]

/-- What was written is listed. -/
theorem mem_keys_written (h : dir.Serves key) : key ∈ Store.keys (dir.written key value) := by
  refine mem_keys.2 ⟨?_, ?_⟩
  · rintro rfl
    exact absurd h.1 (by decide)
  · simp [written, Table.has]

end DirStore

instance : Store.Apart DirStore where
  sorted _ := DirStore.keys_sorted
  others {store after key found value} h hne := by
    rw [DirStore.set_eq] at h
    split at h
    · cases h
    · obtain rfl := Except.ok.inj h
      exact DirStore.match_written hne
  set {store other key} hmatch value := by
    rw [DirStore.set_eq, DirStore.set_eq, ← hmatch.get]
    cases hrefusal : DirStore.refusal? (Store.get store key) with
    | some fault => exact .error fault
    | none =>
      have hserves := DirStore.serves_of_refusal? hrefusal
      have hother := DirStore.serves_of_refusal? (hmatch.get ▸ hrefusal)
      exact .ok ⟨(DirStore.get_written hserves).trans (DirStore.get_written hother).symm,
        iff_of_true (DirStore.mem_keys_written hserves) (DirStore.mem_keys_written hother)⟩

/-! ## The slots of a family -/

section Slots

variable {σ : Type} [Store σ] {label key : String} {store other third : σ}
  {settings : Settings} {kind : SlotKind}

/-- **Two stores have the same slots in a family**: they match at every key that names it. -/
def SameSlots (label : String) (store other : σ) : Prop :=
  ∀ key, family? key = some label → Store.Match key store other

namespace SameSlots

theorem refl (label : String) (store : σ) : SameSlots label store store :=
  fun _ _ => ⟨rfl, Iff.rfl⟩

theorem symm (h : SameSlots label store other) : SameSlots label other store :=
  fun key hkey => (h key hkey).symm

theorem trans (h : SameSlots label store other) (hthird : SameSlots label other third) :
    SameSlots label store third :=
  fun key hkey => (h key hkey).trans (hthird key hkey)

/-- The keys of the family are read alike. -/
theorem readSlots (h : SameSlots label store other) (keys : List String) :
    Game.readSlots label store keys
      = Game.readSlots label other (keys.filter fun key => (slotId? label key).isSome) := by
  induction keys with
  | nil => rfl
  | cons key keys ih =>
    rw [Game.readSlots, List.filter_cons]
    cases hid : slotId? label key with
    | none => exact ih
    | some id =>
      have hfamily := family?_of_slotId? (Option.isSome_of_eq_some hid)
      have hslot : Game.readSlot store key = Game.readSlot other key :=
        Game.readSlot_congr (h key hfamily).get
      simp only [Option.isSome_some, if_true, Game.readSlots, hid, hslot, ih]

variable [Store.Apart σ]

/-- The keys of the family are listed alike, and in the same order. -/
theorem keys (h : SameSlots label store other) :
    (Store.keys store).filter (fun key => (slotId? label key).isSome)
      = (Store.keys other).filter fun key => (slotId? label key).isSome := by
  refine List.Pairwise.eq_of_mem_iff ((Store.Apart.sorted store).filter _)
    ((Store.Apart.sorted other).filter _) fun key => ?_
  rw [List.mem_filter, List.mem_filter]
  exact and_congr_left fun hid => (h key (family?_of_slotId? hid)).listed

/-- **The listing** sees the slots of the family alone. -/
theorem listSlots (h : SameSlots (kind.label settings) store other) :
    Game.listSlots settings store kind = Game.listSlots settings other kind := by
  rw [Game.listSlots, Game.listSlots, h.readSlots, h.keys, ← (refl _ other).readSlots]

/-- **The greatest number in use** is one of the family alone. -/
theorem maxSlotId (h : SameSlots (kind.label settings) store other) :
    Game.maxSlotId settings store kind = Game.maxSlotId settings other kind := by
  have hids : ∀ keys : List String, keys.filterMap (slotId? (kind.label settings))
      = (keys.filter fun key => (slotId? (kind.label settings) key).isSome).filterMap
          (slotId? (kind.label settings)) := by
    intro keys
    rw [List.filterMap_filter]
    refine List.filterMap_congr fun key _ => ?_
    cases slotId? (kind.label settings) key <;> rfl
  rw [Game.maxSlotId, Game.maxSlotId, hids, h.keys, ← hids]

/-- **Storing under a key of the family** comes to the same in both stores, and leaves the slots of
the family the same. -/
theorem set (h : SameSlots label store other) (hkey : family? key = some label) (value : Json) :
    Stored (SameSlots label) (Store.set store key value) (Store.set other key value) := by
  refine (Store.Apart.set (h key hkey) value).imp fun {after after'} hstore hother same => ?_
  intro found hfound
  by_cases hne : found = key
  · exact hne ▸ same
  · have hbefore := Store.Apart.others hstore hne
    have hafter := Store.Apart.others hother hne
    exact hbefore.symm.trans ((h found hfound).trans hafter)

/-- **Storing under a key of another family** leaves the slots of this one. -/
theorem of_set {after : σ} {value : Json} (hkey : family? key ≠ some label)
    (h : Store.set store key value = .ok after) : SameSlots label store after := by
  intro found hfound
  refine Store.Apart.others h ?_
  rintro rfl
  exact hkey hfound

end SameSlots

end Slots

/-! ## Saves made one after the other -/

/-- **A save of a game**, at a date. -/
inductive Saving where
  /-- In the next slot of the player. -/
  | save (game : Game) (name : Option String) (date : String)
  /-- In the automatic slot whose turn it is. -/
  | autoSave (game : Game) (date : String)
  /-- In a slot of either family, of a number or the next free one. -/
  | saveTo (game : Game) (kind : SlotKind) (id : Option Nat) (name : Option String) (date : String)

namespace Saving

/-- The game that is saved. -/
def game : Saving → Game
  | save game _ _ => game
  | autoSave game _ => game
  | saveTo game _ _ _ _ => game

/-- The family of the slot. -/
def kind : Saving → SlotKind
  | save _ _ _ => .manual
  | autoSave _ _ => .auto
  | saveTo _ kind _ _ _ => kind

/-- The name of the family. -/
def label (saving : Saving) : String := saving.kind.label saving.game.book.settings

variable {σ : Type} [Store σ] {store other : σ}

/-- What the game answers. -/
def result (store : σ) : Saving → Except Fault (Option String × σ)
  | save game name date => game.save store name date
  | autoSave game date =>
    (game.autoSave store date).map fun (written, _, kept) => (written, kept)
  | saveTo game kind id name date => game.saveTo store kind id name date

/-- **What a save comes to**: the key that was written, or the fault, and the store after it. -/
def run (store : σ) (saving : Saving) : Except Fault (Option String) × σ :=
  match saving.result store with
  | .ok (written, kept) => (.ok written, kept)
  | .error fault => (.error fault, store)

/-- **What saves come to**, one after the other, and the store after them. -/
def runAll (store : σ) : List Saving → List (Saving × Except Fault (Option String)) × σ
  | [] => ([], store)
  | saving :: savings =>
    let outcome := saving.run store
    let outcomes := runAll outcome.2 savings
    ((saving, outcome.1) :: outcomes.1, outcomes.2)

/-- Every save is one to a slot of its family. -/
theorem result_eq (saving : Saving) : ∃ id name date, ∀ store : σ,
    saving.result store = saving.game.saveTo store saving.kind id name date := by
  cases saving with
  | save game name date => exact ⟨none, name, date, fun _ => rfl⟩
  | autoSave game date =>
    refine ⟨some game.world.globals.autoSaveSlot, none, date, fun store => ?_⟩
    show Except.map _ (Game.autoSave game store date) = game.saveTo store .auto _ none date
    rw [Game.autoSave]
    generalize game.saveTo store .auto _ none date = result
    rcases result with fault | ⟨_ | key, kept⟩ <;> rfl
  | saveTo game kind id name date => exact ⟨id, name, date, fun _ => rfl⟩

/-- **A save stores one value** under a key of its family, or nothing. -/
theorem run_eq (saving : Saving) : ∃ (value : Json) (id : Option Nat), ∀ store : σ,
    saving.run store
      = if saving.game.world.globals.playing then
          let key := slotKey saving.label
            (id.getD (Game.maxSlotId saving.game.book.settings store saving.kind + 1))
          match Store.set store key value with
          | .ok kept => (.ok (some key), kept)
          | .error fault => (.error (.store fault), store)
        else (.ok none, store) := by
  obtain ⟨id, name, date, hresult⟩ := saving.result_eq (σ := σ)
  refine ⟨(saving.game.toSlot name date).toJson, id, fun store => ?_⟩
  rw [run, hresult, Game.saveTo]
  by_cases hplaying : saving.game.world.globals.playing = true
  · simp only [if_pos hplaying, label]
    cases Store.set store _ (saving.game.toSlot name date).toJson <;> rfl
  · simp only [if_neg hplaying]

variable [Store.Apart σ] {label : String}

/-- **A save in one family leaves the slots of another.** -/
theorem sameSlots_of_run {saving : Saving} (hne : saving.label ≠ label) (store : σ) :
    SameSlots label store (saving.run store).2 := by
  obtain ⟨value, id, hrun⟩ := saving.run_eq (σ := σ)
  rw [hrun]
  split
  · dsimp only
    split
    · next kept hset =>
      refine SameSlots.of_set ?_ hset
      rw [family?_slotKey]
      exact fun h => hne (Option.some.inj h)
    · exact SameSlots.refl label store
  · exact SameSlots.refl label store

/-- **A save sees the slots of its family alone**: whatever else is stored, it comes to the same and
leaves the same slots. -/
theorem run_congr (saving : Saving) (h : SameSlots saving.label store other) :
    (saving.run store).1 = (saving.run other).1
      ∧ SameSlots saving.label (saving.run store).2 (saving.run other).2 := by
  obtain ⟨value, id, hrun⟩ := saving.run_eq (σ := σ)
  have hnext : Game.maxSlotId saving.game.book.settings store saving.kind
      = Game.maxSlotId saving.game.book.settings other saving.kind := h.maxSlotId
  rw [hrun, hrun, hnext]
  split
  · dsimp only
    have hset := h.set (family?_slotKey saving.label
      (id.getD (Game.maxSlotId saving.game.book.settings other saving.kind + 1))) value
    revert hset
    generalize Store.set store _ value = result
    generalize Store.set other _ value = result'
    rintro (same | fault)
    · exact ⟨rfl, same⟩
    · exact ⟨rfl, h⟩
  · exact ⟨rfl, h⟩

/-- **Saves in one family come to the same as if no others were made.**  The induction is on the
saves: both runs leave the same slots of the family behind. -/
theorem runAll_filter {own : Saving → Bool} {savings : List Saving}
    (h : SameSlots label store other)
    (hown : ∀ saving ∈ savings, own saving = true ↔ saving.label = label) :
    (runAll store savings).1.filter (own ·.1) = (runAll other (savings.filter own)).1
      ∧ SameSlots label (runAll store savings).2 (runAll other (savings.filter own)).2 := by
  induction savings generalizing store other with
  | nil => exact ⟨rfl, h⟩
  | cons saving savings ih =>
    obtain ⟨hfirst, hrest⟩ := List.forall_mem_cons.1 hown
    by_cases hsaving : own saving = true
    · have hsame := hfirst.1 hsaving ▸ h
      obtain ⟨hanswer, hkept⟩ := saving.run_congr hsame
      obtain ⟨hanswers, hleft⟩ := ih (hfirst.1 hsaving ▸ hkept) hrest
      rw [List.filter_cons_of_pos hsaving]
      simp only [runAll, List.filter_cons, hsaving, if_true, hanswer, hanswers, true_and]
      exact hleft
    · have hkept := sameSlots_of_run (fun hlabel => hsaving (hfirst.2 hlabel)) store
      obtain ⟨hanswers, hleft⟩ := ih (hkept.symm.trans h) hrest
      rw [List.filter_cons_of_neg hsaving]
      simp only [runAll, List.filter_cons, hsaving, hanswers]
      exact ⟨rfl, hleft⟩

end Saving

/-- **What is listed** belongs to the family, under the number that it is listed with. -/
theorem Game.slotId?_of_listSlots {σ : Type} [Store σ] {store : σ} {settings : Settings}
    {kind : SlotKind} {entries : List SlotEntry}
    (h : listSlots settings store kind = .ok entries) :
    ∀ entry ∈ entries, slotId? (kind.label settings) entry.key = some entry.id := by
  intro entry hentry
  rcases readSlots_cases (kind.label settings) store (Store.keys store) with
    ⟨hlegible, -⟩ | ⟨fault, -, -, -, hread⟩
  · rw [listSlots_eq hlegible] at h
    obtain rfl := Except.ok.inj h
    obtain ⟨key, -, hof⟩ := List.mem_filterMap.1 (mem_sorted.1 hentry)
    obtain ⟨id, hid, hslot⟩ := Option.bind_eq_some_iff.1 hof
    obtain ⟨slot, -, rfl⟩ := Option.map_eq_some_iff.1 hslot
    exact hid
  · rw [listSlots, hread] at h
    cases h

/-- **Slot families never mix.**  The number of a slot reads back from its key, and no key belongs
to two families.

Let the two families of the settings have different names, whatever these are, and let two stores
have the same slots in one family.  What is listed of this family belongs to it and to no other.
Make any saves one after the other in the one store, of any games with these settings, and in the
other only those of the family.  These come to the same keys or faults, and leave the same slots of
the family, the same listing and the same greatest number in use; nothing else in the stores is seen
or overwritten. -/
theorem families_never_mix {σ : Type} [Store σ] [Store.Apart σ] :
    (∀ label id, id ≤ Text.Numeral.max32 → slotId? label (slotKey label id) = some id)
    ∧ (∀ label other key, (slotId? label key).isSome = true → (slotId? other key).isSome = true →
        label = other)
    ∧ ∀ settings : Settings, settings.saveLabel ≠ settings.autoSaveLabel →
      ∀ (kind : SlotKind) (store other : σ), SameSlots (kind.label settings) store other →
        (∀ entries, Game.listSlots settings store kind = .ok entries → ∀ entry ∈ entries,
          slotId? (kind.label settings) entry.key = some entry.id
            ∧ ∀ kind', kind' ≠ kind → slotId? (kind'.label settings) entry.key = none)
        ∧ ∀ savings : List Saving, (∀ saving ∈ savings, saving.game.book.settings = settings) →
          let all := Saving.runAll store savings
          let own := Saving.runAll other (savings.filter (·.kind = kind))
          all.1.filter (·.1.kind = kind) = own.1
            ∧ SameSlots (kind.label settings) all.2 own.2
            ∧ Game.listSlots settings all.2 kind = Game.listSlots settings own.2 kind
            ∧ Game.maxSlotId settings all.2 kind = Game.maxSlotId settings own.2 kind := by
  refine ⟨fun label id => slotId?_slotKey label, fun _ _ _ => label_unique, ?_⟩
  intro settings hlabels kind store other hsame
  have hkind : ∀ kind' : SlotKind, kind' = kind ↔ kind'.label settings = kind.label settings := by
    intro kind'
    cases kind' <;> cases kind <;> simp [SlotKind.label, hlabels, hlabels.symm]
  refine ⟨fun entries hlisted entry hentry => ?_, fun savings hsettings => ?_⟩
  · have hid := Game.slotId?_of_listSlots hlisted entry hentry
    refine ⟨hid, fun kind' hne => ?_⟩
    by_contra hsome
    have hother := Option.isSome_iff_ne_none.2 hsome
    exact hne ((hkind kind').2 (label_unique hother (Option.isSome_of_eq_some hid)))
  · have hown : ∀ saving ∈ savings,
        decide (saving.kind = kind) = true ↔ saving.label = kind.label settings := by
      intro saving hmem
      rw [decide_eq_true_iff, hkind, Saving.label, hsettings saving hmem]
    obtain ⟨hanswers, hleft⟩ := Saving.runAll_filter hsame hown
    exact ⟨hanswers, hleft, hleft.listSlots, hleft.maxSlotId⟩

/-- The guest at the menu, in a game whose automatic slots are named like a slot of the player. -/
def nestedMenu : Game :=
  { innMenu with book := { innMenu.book with
      settings := { innMenu.book.settings with autoSaveLabel := "Save_1" } } }

/-- Saves in both families by turns. -/
def nestedSavings : List Saving :=
  [.autoSave nestedMenu "today", .save nestedMenu none "today",
    .saveTo nestedMenu .auto (some 12) none "today", .save nestedMenu none "today"]

/-- The player's slots are listed as if there were no automatic ones. -/
theorem families_never_mix_nested :
    Store.keys (Saving.runAll MemoryStore.empty nestedSavings).2
        = ["Save_1", "Save_1_1", "Save_1_12", "Save_2"]
      ∧ Game.listSlots nestedMenu.book.settings
          (Saving.runAll MemoryStore.empty nestedSavings).2 .manual
        = Game.listSlots nestedMenu.book.settings
          (Saving.runAll MemoryStore.empty
            (nestedSavings.filter (·.kind = .manual))).2 .manual := by
  have hlabels : nestedMenu.book.settings.saveLabel ≠ nestedMenu.book.settings.autoSaveLabel := by
    decide +kernel
  have hsettings : ∀ saving ∈ nestedSavings,
      saving.game.book.settings = nestedMenu.book.settings := by
    simp [nestedSavings, Saving.game]
  have hsame := families_never_mix.2.2 _ hlabels .manual MemoryStore.empty MemoryStore.empty
    (SameSlots.refl _ _)
  exact ⟨by decide +kernel, (hsame.2 nestedSavings hsettings).2.2.1⟩

end Narrative
