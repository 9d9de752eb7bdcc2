import Narrative.Proofs.FreshSlot
import Narrative.Proofs.Interchange

/-!
# Proofs/Listed — what a directory lists and what it can read

A directory lists a key for every file of its ending that is not all ending (`DirStore.mem_keys`).
Only some texts are keys that the store reads: reading any other is refused before a file is looked
for.  So a key that is listed is found when it is read, exactly if it is such a key
(`DirStore.contains_iff_found`); a file that the store did not write may have a name that is not.

A listing of slots reads the keys of the family one by one, and fails with the fault of a key that
cannot be read (`Game.stops_of_listSlots`).  It never misses a file that it has listed, but it may
be refused one for its name (`listed_iff_found`).
-/

namespace Narrative

/-! ## Faults of a listing -/

namespace Game

variable {σ : Type} [Store σ] {store : σ} {label key : String} {fault : Fault}
  {settings : Settings} {kind : SlotKind}

/-- **A key that stops a listing**: it belongs to the family, and reading it has this fault. -/
def Stops (label : String) (store : σ) (fault : Fault) (key : String) : Prop :=
  (slotId? label key).isSome = true ∧ readSlot store key = .error fault

/-- **Keys are read** up to one that stops the listing, or all of them. -/
theorem readSlots_cases (label : String) (store : σ) (keys : List String) :
    (Legible label store keys ∧ ∃ entries, readSlots label store keys = .ok entries)
      ∨ ∃ fault, ∃ key ∈ keys, Stops label store fault key
        ∧ readSlots label store keys = .error fault := by
  induction keys with
  | nil => exact .inl ⟨List.forall_mem_nil _, [], rfl⟩
  | cons first keys ih =>
    rw [readSlots]
    cases hid : slotId? label first with
    | none =>
      rcases ih with ⟨hlegible, hread⟩ | ⟨fault, key, hmem, hstops, hread⟩
      · refine .inl ⟨List.forall_mem_cons.2 ⟨fun hsome => ?_, hlegible⟩, hread⟩
        rw [hid] at hsome
        cases hsome
      · exact .inr ⟨fault, key, List.mem_cons_of_mem _ hmem, hstops, hread⟩
    | some id =>
      cases hslot : readSlot store first with
      | error fault =>
        exact .inr ⟨fault, first, List.mem_cons_self, ⟨Option.isSome_of_eq_some hid, hslot⟩, rfl⟩
      | ok slot =>
        rcases ih with ⟨hlegible, entries, hread⟩ | ⟨fault, key, hmem, hstops, hread⟩
        · rw [hread]
          exact .inl ⟨List.forall_mem_cons.2 ⟨fun _ => ⟨slot, hslot⟩, hlegible⟩, _, rfl⟩
        · rw [hread]
          exact .inr ⟨fault, key, List.mem_cons_of_mem _ hmem, hstops, rfl⟩

/-- **A listing that fails** was stopped by a key that it found itself. -/
theorem stops_of_listSlots (h : listSlots settings store kind = .error fault) :
    ∃ key ∈ Store.keys store, Stops (kind.label settings) store fault key := by
  rw [listSlots] at h
  rcases readSlots_cases (kind.label settings) store (Store.keys store) with
    ⟨-, entries, hread⟩ | ⟨refusal, key, hmem, hstops, hread⟩
  · rw [hread] at h
    cases h
  · rw [hread] at h
    obtain rfl := Except.error.inj h
    exact ⟨key, hmem, hstops⟩

/-- **A key that stops it** makes the listing fail. -/
theorem listSlots_of_stops (hmem : key ∈ Store.keys store)
    (hstops : Stops (kind.label settings) store fault key) :
    ∃ refusal, listSlots settings store kind = .error refusal := by
  rw [listSlots]
  rcases readSlots_cases (kind.label settings) store (Store.keys store) with
    ⟨hlegible, -⟩ | ⟨refusal, -, -, -, hread⟩
  · obtain ⟨slot, hslot⟩ := hlegible key hmem hstops.1
    cases hslot.symm.trans hstops.2
  · exact ⟨refusal, by rw [hread]; rfl⟩

/-- A fault of the store is one of reading the key. -/
theorem readSlot_eq_store {refusal : StoreFault} :
    readSlot store key = .error (.store refusal) ↔ Store.get store key = .error refusal := by
  rw [readSlot, fromStore]
  cases Store.get store key with
  | error other => simp [bind, Except.bind, Except.mapError]
  | ok value =>
    cases hslot : SaveSlot.ofJson? value <;> simp [bind, Except.bind, Except.mapError, hslot]

end Game

namespace DirStore

/-! ## Keys that are listed and keys that are found -/

variable {dir : DirStore} {key other : String}

/-- **A key is listed** if its file stands in the directory; no file is all ending. -/
theorem mem_keys : key ∈ Store.keys dir ↔ key ≠ "" ∧ dir.entries.has (fileName key) = true := by
  have hlisted : key ∈ Store.keys dir ↔ key ∈ dir.entries.keys.filterMap keyOf? := by
    show key ∈ Fields.keys (Table.ofFields _).entries ↔ _
    rw [← Fields.has_iff_mem_keys]
    show ((Table.ofFields _).get? key).isSome = true ↔ _
    rw [Table.get?_ofNames]
    split <;> simp_all
  rw [hlisted, List.mem_filterMap]
  constructor
  · rintro ⟨name, hname, hkey⟩
    obtain ⟨hne, rfl⟩ := keyOf?_eq_some_iff.1 hkey
    exact ⟨hne, Fields.has_iff_mem_keys.2 hname⟩
  · rintro ⟨hne, hhas⟩
    exact ⟨fileName key, Fields.has_iff_mem_keys.1 hhas, keyOf?_eq_some_iff.2 ⟨hne, rfl⟩⟩

/-- The keys come in order, each once. -/
theorem keys_sorted : (Store.keys dir).Pairwise (· < ·) :=
  List.pairwise_map.2 (Table.sorted _)

theorem contains_iff_mem_keys : Store.contains dir key = true ↔ key ∈ Store.keys dir :=
  List.contains_iff_mem

/-- **What reading a key comes to**: no key is refused for any other reason than its text, and no
key is said to be missing whose file stands in the directory. -/
theorem get_cases (dir : DirStore) (key : String) :
    isKey key = false ∧ Store.get dir key = .error (.invalidKey key)
      ∨ isKey key = true ∧ dir.reaches (fileName key) = false
        ∧ Store.get dir key = .error .fileAccess
      ∨ dir.Serves key ∧ dir.entries.has (fileName key) = false
        ∧ Store.get dir key = .error (.notFound key)
      ∨ dir.Serves key ∧ dir.entries.has (fileName key) = true
        ∧ (Store.get dir key = .error .fileAccess ∨ Store.get dir key = .error .notJson
          ∨ ∃ value, Store.get dir key = .ok value) := by
  have hget : Store.get dir key = dir.get key := rfl
  rw [hget, DirStore.get, entry?]
  cases hkey : isKey key with
  | false => exact .inl ⟨rfl, rfl⟩
  | true =>
    cases hreach : dir.reaches (fileName key) with
    | false => exact .inr (.inl ⟨rfl, rfl, rfl⟩)
    | true =>
      refine .inr (.inr ?_)
      cases hentry : dir.entries.get? (fileName key) with
      | none => exact .inl ⟨⟨hkey, hreach⟩, by rw [Table.has, hentry]; rfl, by simp⟩
      | some entry =>
        refine .inr ⟨⟨hkey, hreach⟩, by rw [Table.has, hentry]; rfl, ?_⟩
        cases entry with
        | folder => simp
        | file text => cases htext : Json.read? text <;> simp [htext]

/-- **A key is found** if reading it does not say that nothing is there, or that it is no key. -/
def Found (dir : DirStore) (key : String) : Prop :=
  ∀ other, Store.get dir key ≠ .error (.notFound other)
    ∧ Store.get dir key ≠ .error (.invalidKey other)

/-- **What is found**: keys whose file stands in the directory, or is out of reach. -/
theorem found_iff :
    dir.Found key ↔ isKey key = true
      ∧ (dir.reaches (fileName key) = true → dir.entries.has (fileName key) = true) := by
  unfold Found
  rcases get_cases dir key with ⟨hkey, hget⟩ | ⟨hkey, hreach, hget⟩ | ⟨hserves, hhas, hget⟩
    | ⟨hserves, hhas, hget⟩
  · simp [hkey, hget]
  · simp [hkey, hreach, hget]
  · simp [hserves.1, hserves.2, hhas, hget]
  · rcases hget with hget | hget | ⟨value, hget⟩ <;> simp [hserves.1, hhas, hget]

/-- **A key is there when it is found**, except for two kinds: one that is listed though it is none,
and one whose file is out of reach. -/
theorem contains_iff_found :
    (Store.contains dir key = true ↔ dir.Found key)
      ↔ (Store.contains dir key = true → isKey key = true)
        ∧ (isKey key = true →
          dir.reaches (fileName key) = true ∨ Store.contains dir key = true) := by
  have hne : isKey key = true → key ≠ "" := by
    rintro hkey rfl
    exact absurd hkey (by decide)
  rw [contains_iff_mem_keys, mem_keys, found_iff]
  tauto

/-- No key that is listed is said to be missing. -/
theorem get_ne_notFound (h : key ∈ Store.keys dir) (other : String) :
    Store.get dir key ≠ .error (.notFound other) := by
  have hhas := (mem_keys.1 h).2
  rcases get_cases dir key with ⟨-, hget⟩ | ⟨-, -, hget⟩ | ⟨-, hmissing, -⟩ | ⟨-, -, hget⟩
  · simp [hget]
  · simp [hget]
  · simp [hhas] at hmissing
  · rcases hget with hget | hget | ⟨value, hget⟩ <;> simp [hget]

/-- **What is refused for its text** is no key. -/
theorem get_eq_invalidKey :
    Store.get dir key = .error (.invalidKey other) ↔ isKey key = false ∧ other = key := by
  rcases get_cases dir key with ⟨hkey, hget⟩ | ⟨hkey, -, hget⟩ | ⟨hserves, -, hget⟩
    | ⟨hserves, -, hget⟩
  · simp [hkey, hget, eq_comm]
  · simp [hkey, hget]
  · simp [hserves.1, hget]
  · rcases hget with hget | hget | ⟨value, hget⟩ <;> simp [hserves.1, hget]

end DirStore

/-- **A directory lists the keys that it can read, and any others that a file is named by.**  The
keys come in order, each once, and a key is there if it is listed.  It is there exactly if it is
found when it is read, unless it is listed and no key, or it is a key whose file is out of reach.
A listing of slots never misses a key that it has found; it is refused one only for its text, and it
fails if there is one in the family that is no key. -/
theorem listed_iff_found (dir : DirStore) :
    (Store.keys dir).Pairwise (· < ·)
      ∧ (∀ key, key ∈ Store.keys dir ↔ Store.contains dir key = true)
      ∧ (∀ key, (Store.contains dir key = true ↔ dir.Found key)
          ↔ (Store.contains dir key = true → DirStore.isKey key = true)
            ∧ (DirStore.isKey key = true → dir.reaches (DirStore.fileName key) = true
              ∨ Store.contains dir key = true))
      ∧ ∀ settings kind key,
          Game.listSlots settings dir kind ≠ .error (.store (.notFound key))
            ∧ (Game.listSlots settings dir kind = .error (.store (.invalidKey key)) →
              Store.contains dir key = true ∧ DirStore.isKey key = false)
            ∧ (Store.contains dir key = true → DirStore.isKey key = false →
              (slotId? (kind.label settings) key).isSome = true →
                ∃ fault, Game.listSlots settings dir kind = .error fault) := by
  refine ⟨DirStore.keys_sorted, fun key => DirStore.contains_iff_mem_keys.symm,
    fun key => DirStore.contains_iff_found, fun settings kind key => ⟨fun h => ?_, fun h => ?_,
      fun hthere hkey hid => ?_⟩⟩
  · obtain ⟨found, hmem, -, hread⟩ := Game.stops_of_listSlots h
    exact DirStore.get_ne_notFound hmem key (Game.readSlot_eq_store.1 hread)
  · obtain ⟨found, hmem, -, hread⟩ := Game.stops_of_listSlots h
    obtain ⟨hkey, rfl⟩ := DirStore.get_eq_invalidKey.1 (Game.readSlot_eq_store.1 hread)
    exact ⟨DirStore.contains_iff_mem_keys.2 hmem, hkey⟩
  · have hget : Store.get dir key = .error (.invalidKey key) :=
      DirStore.get_eq_invalidKey.2 ⟨hkey, rfl⟩
    exact Game.listSlots_of_stops (DirStore.contains_iff_mem_keys.1 hthere)
      ⟨hid, Game.readSlot_eq_store.2 hget⟩

/-- A directory with a file of the store, a hidden file, a directory, a file of another ending, and
a file whose name is read as a number but is not written like one. -/
def attic : DirStore :=
  { entries := Table.ofFields [(".hidden.json", .file "1"), ("Save_+3.json", .file "\x7b\x7d"),
      ("Settings.json", .file "\x7b\x7d"), ("cellar.json", .folder), ("notes.txt", .file "")] }

/-- Two files are listed that cannot be read for their names, and one of them stops the listing of
slots; the directory is there and found, though it cannot be read. -/
theorem listed_iff_found_attic :
    Store.keys attic = [".hidden", "Save_+3", "Settings", "cellar"]
      ∧ ¬(Store.contains attic ".hidden" = true ↔ attic.Found ".hidden")
      ∧ (Store.contains attic "cellar" = true ↔ attic.Found "cellar")
      ∧ (Store.contains attic "notes" = true ↔ attic.Found "notes")
      ∧ ∃ fault, Game.listSlots {} attic .manual = .error fault := by
  obtain ⟨-, -, hfound, hlist⟩ := listed_iff_found attic
  refine ⟨by decide +kernel, fun h => ?_, (hfound "cellar").2 (by decide +kernel),
    (hfound "notes").2 (by decide +kernel), ?_⟩
  · exact absurd (((hfound ".hidden").1 h).1 (by decide +kernel)) (by decide +kernel)
  · exact (hlist {} .manual "Save_+3").2.2 (by decide +kernel) (by decide +kernel)
      (by decide +kernel)

/-- **A key that is there may be refused**, and so may one that a listing has found itself. -/
theorem listed_unread :
    Store.contains attic "Save_+3" = true
      ∧ Store.get attic "Save_+3" = .error (.invalidKey "Save_+3")
      ∧ Game.listSlots {} attic .manual = .error (.store (.invalidKey "Save_+3")) :=
  ⟨by decide +kernel, rfl, rfl⟩

end Narrative
