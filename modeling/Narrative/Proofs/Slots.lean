import Narrative.Game.Saves
import Narrative.Proofs.Calls
import Narrative.Proofs.ReadBack
import Narrative.Proofs.Screen.Played

/-!
# Proofs/Slots — a slot reads back, and what loading it leaves

Every part of a slot reads back as it was written (`SaveSlot.ofJson?_toJson`); of the variables it
takes that they have distinct names and that none is named like a part of the cursor.  Loading
merges the slot over a new game: what is left of the stacks is what the slot has on them
(`History.entries_merge_clear`).
-/

namespace Narrative

/-! ## Fields and tables -/

section Fields

variable {α β : Type}

/-- A present value is found under its name when the names are distinct. -/
theorem Fields.get?_of_mem {fields : Fields α} (h : Fields.Distinct fields) {name : String}
    {value : α} (hmem : (name, value) ∈ fields) : Fields.get? fields name = some value := by
  induction fields with
  | nil => cases hmem
  | cons field rest ih =>
    obtain ⟨first, found⟩ := field
    obtain ⟨hfresh, hrest⟩ := List.nodup_cons.1 h
    rw [Fields.get?_cons]
    rcases List.mem_cons.1 hmem with heq | hmem
    · obtain ⟨rfl, rfl⟩ := Prod.mk.inj heq
      rw [if_pos rfl]
    · have hne : first ≠ name := by
        rintro rfl
        exact hfresh (List.mem_map.2 ⟨_, hmem, rfl⟩)
      rw [if_neg hne]
      exact ih hrest hmem

/-- Fields that are there already change nothing. -/
theorem Fields.extend_of_get? {fields more : Fields α}
    (h : ∀ field ∈ more, Fields.get? fields field.1 = some field.2) :
    Fields.extend fields more = fields := by
  induction more with
  | nil => rfl
  | cons field more ih =>
    have hfield : Fields.insert fields field.1 field.2 = fields :=
      Fields.insert_get? (h field List.mem_cons_self)
    show Fields.extend (Fields.insert fields field.1 field.2) more = fields
    rw [hfield]
    exact ih fun other hother => h other (List.mem_cons_of_mem _ hother)

/-- **An object merged over itself** is itself. -/
theorem Fields.extend_self {fields : Fields α} (h : Fields.Distinct fields) :
    Fields.extend fields fields = fields :=
  Fields.extend_of_get? fun _ hfield => Fields.get?_of_mem h hfield

/-- A new name is written last. -/
theorem Fields.insert_of_fresh {fields : Fields α} {name : String} (value : α)
    (h : name ∉ Fields.keys fields) :
    Fields.insert fields name value = fields ++ [(name, value)] := by
  induction fields with
  | nil => rfl
  | cons field rest ih =>
    obtain ⟨first, found⟩ := field
    have hne : first ≠ name := fun heq => h (heq ▸ List.mem_cons_self)
    rw [Fields.insert, if_neg hne, ih fun hmem => h (List.mem_cons_of_mem _ hmem)]
    rfl

/-- **New fields are written last**, in order. -/
theorem Fields.extend_of_fresh {fields more : Fields α} (h : Fields.Distinct (fields ++ more)) :
    Fields.extend fields more = fields ++ more := by
  induction more generalizing fields with
  | nil => exact (List.append_nil fields).symm
  | cons field more ih =>
    have hfresh : field.1 ∉ Fields.keys fields := by
      intro hmem
      have hnodup : (Fields.keys fields ++ Fields.keys (field :: more)).Nodup := by
        have hkeys : Fields.keys (fields ++ field :: more)
            = Fields.keys fields ++ Fields.keys (field :: more) := List.map_append
        exact hkeys ▸ h
      exact (List.nodup_append.1 hnodup).2.2 _ hmem _ List.mem_cons_self rfl
    show Fields.extend (Fields.insert fields field.1 field.2) more = _
    rw [Fields.insert_of_fresh field.2 hfresh, ih (by rw [List.append_assoc]; exact h),
      List.append_assoc]
    rfl

/-- Merging objects keeps the names distinct. -/
theorem Fields.Distinct.extend {fields : Fields α} (h : Distinct fields) (more : Fields α) :
    Distinct (Fields.extend fields more) := by
  induction more generalizing fields with
  | nil => exact h
  | cons field more ih => exact ih (h.insert field.1 field.2)

/-- **A name that neither object has** is not in the merged one. -/
theorem Fields.not_mem_keys_extend {fields more : Fields α} {name : String}
    (h : name ∉ Fields.keys fields) (hmore : name ∉ Fields.keys more) :
    name ∉ Fields.keys (Fields.extend fields more) := by
  induction more generalizing fields with
  | nil => exact h
  | cons field more ih =>
    obtain ⟨hne, hrest⟩ := not_or.1 (fun hmem => hmore (List.mem_cons.2 hmem))
    refine ih ?_ hrest
    rw [← Fields.get?_eq_none_iff] at h ⊢
    rw [Fields.get?_insert, if_neg hne, h]

/-- **Fields stored one after the other**, read through the lookup: one of the new fields, or else
what was there.  It holds of whatever stores one field under its name. -/
theorem Fields.lookup_foldl {fields : Fields α} (h : Distinct fields)
    {lookup : β → String → Option α} {store : β → String → α → β}
    (hstore : ∀ kept key value name, lookup (store kept key value) name
      = if name = key then some value else lookup kept name) (kept : β) (name : String) :
    lookup (fields.foldl (fun kept field => store kept field.1 field.2) kept) name
      = (Fields.get? fields name).or (lookup kept name) := by
  induction fields generalizing kept with
  | nil => rfl
  | cons field rest ih =>
    obtain ⟨first, value⟩ := field
    obtain ⟨hfresh, hrest⟩ := List.nodup_cons.1 h
    rw [List.foldl_cons, ih hrest, hstore, Fields.get?_cons]
    by_cases hname : name = first
    · subst hname
      rw [(Fields.get?_eq_none_iff rest name).2 hfresh, if_pos rfl, if_pos rfl]
      rfl
    · rw [if_neg hname, if_neg (Ne.symm hname)]

/-- **A merged object, read through the lookup**: a field of the newer one, or else of the older. -/
theorem Fields.get?_extend {more : Fields α} (h : Distinct more) (fields : Fields α)
    (name : String) :
    Fields.get? (Fields.extend fields more) name
      = (Fields.get? more name).or (Fields.get? fields name) :=
  Fields.lookup_foldl h (fun kept key value other => Fields.get?_insert kept key other value)
    fields name

/-- **Entries written one after the other**, read through the lookup. -/
theorem Table.get?_foldl_insert {fields : Fields α} (h : Fields.Distinct fields) (table : Table α)
    (name : String) :
    (fields.foldl (fun acc entry => acc.insert entry.1 entry.2) table).get? name
      = (Fields.get? fields name).or (table.get? name) :=
  Fields.lookup_foldl h Table.get?_insert table name

/-- The names of a table are distinct. -/
theorem Table.distinct (table : Table α) : Fields.Distinct table.entries := by
  refine List.pairwise_map.2 (table.sorted.imp fun {a b} hlt heq => ?_)
  rw [heq] at hlt
  exact String.lt_irrefl _ hlt

/-- **A union, read through the lookup.** -/
theorem Table.get?_union (table more : Table α) (name : String) :
    (table.union more).get? name = (more.get? name).or (table.get? name) :=
  Table.get?_foldl_insert more.distinct table name

theorem Table.ofFields_entries (table : Table α) : Table.ofFields table.entries = table :=
  Table.ext_get? fun name => by
    rw [Table.ofFields, Table.get?_foldl_insert table.distinct, Table.get?_empty, Option.or_none]
    rfl

/-- **A table reads back** when its values do. -/
theorem Json.tableOf_ofTable {decode : Json → Option α} {encode : α → Json}
    (h : ∀ value, decode (encode value) = some value) (table : Table α) :
    Json.tableOf decode (Json.ofTable encode table) = some table := by
  have hfields : ∀ fields : Fields α,
      Json.decodeFields decode (fields.map fun field => (field.1, encode field.2))
        = some fields := by
    intro fields
    induction fields with
    | nil => rfl
    | cons field rest ih =>
      rw [Json.decodeFields] at ih
      simp [Json.decodeFields, List.mapM_cons, h, ih]
  show (Json.decodeFields decode _).map Table.ofFields = some table
  rw [hfields, Option.map_some, Table.ofFields_entries]

end Fields

/-! ## The parts of a slot -/

/-- **Variables that a slot can hold**: their names are distinct, and none is that of a part of the
cursor. -/
structure State.Storable (state : State) : Prop where
  /-- The names are distinct. -/
  distinct : Fields.Distinct state.vars
  /-- No variable is named like the label. -/
  label : "label" ∉ Fields.keys state.vars
  /-- No variable is named like the step. -/
  step : "step" ∉ Fields.keys state.vars

/-- Variables merged over others. -/
theorem State.Storable.merge {state newer : State} (h : state.Storable) (hnewer : newer.Storable) :
    (state.merge newer).Storable where
  distinct := h.distinct.extend newer.vars
  label := Fields.not_mem_keys_extend h.label hnewer.label
  step := Fields.not_mem_keys_extend h.step hnewer.step

/-- **A state reads back.** -/
theorem State.ofJson?_toJson {state : State} (h : state.Storable) :
    State.ofJson? state.toJson = some state := by
  obtain ⟨⟨label, step⟩, vars⟩ := state
  obtain ⟨hdistinct, hlabel, hstep⟩ := h
  have hfields : Fields.extend [("label", .str label), ("step", .ofNat step)] vars
      = [("label", .str label), ("step", .ofNat step)] ++ vars := by
    refine Fields.extend_of_fresh ?_
    refine List.nodup_cons.2 ⟨fun hmem => ?_, List.nodup_cons.2 ⟨hstep, hdistinct⟩⟩
    exact (List.mem_cons.1 hmem).elim (fun heq => absurd heq (by simp)) hlabel
  have hvars : ∀ name value, (name, value) ∈ vars → ¬name = "label" ∧ ¬name = "step" := by
    intro name value hmem
    have hkey : name ∈ Fields.keys vars := List.mem_map.2 ⟨_, hmem, rfl⟩
    exact ⟨fun heq => hlabel (heq ▸ hkey), fun heq => hstep (heq ▸ hkey)⟩
  simpa [State.toJson, hfields, State.ofJson?, Fields.get?_cons, Json.asText?] using hvars

/-- **A history reads back**, stack by stack. -/
theorem History.ofJson?_toJson (history : History) :
    History.ofJson? history.toJson = some history := by
  have hstack : ∀ stack : List Json,
      (fun value : Json => value.asItems?.map List.reverse) (.arr stack.reverse) = some stack := by
    intro stack
    simp [Json.asItems?]
  rw [History.ofJson?, History.toJson, Json.tableOf_ofTable hstack]
  rfl

/-- **A snapshot reads back.** -/
theorem Snapshot.ofJson?_toJson {snapshot : Snapshot} (h : snapshot.state.Storable) :
    Snapshot.ofJson? snapshot.toJson = some snapshot := by
  have hslots : snapshot.toJson.slots ["history", "state", "storage"]
      = some [some snapshot.history.toJson, some snapshot.state.toJson,
          some snapshot.storage.toJson] := rfl
  simp [Snapshot.ofJson?, hslots, Json.required, History.ofJson?_toJson, State.ofJson?_toJson h,
    Storage.ofJson?, Storage.toJson, Json.asFields?]

/-- **A slot reads back.** -/
theorem SaveSlot.ofJson?_toJson {slot : SaveSlot} (h : slot.snapshot.state.Storable) :
    SaveSlot.ofJson? slot.toJson = some slot := by
  obtain ⟨name, date, image, snapshot⟩ := slot
  have himage : Json.optional Json.asText? (some (Json.ofOption (image.map Json.str)))
      = some image := by
    cases image <;> rfl
  have hslots : (SaveSlot.toJson ⟨name, date, image, snapshot⟩).slots
        ["name", "date", "image", "snapshot"]
      = some [some (.str name), some (.str date), some (.ofOption (image.map .str)),
          some snapshot.toJson] := rfl
  simp [SaveSlot.ofJson?, hslots, Json.required, Json.asText?, himage, Snapshot.ofJson?_toJson h]

/-! ## Stores -/

/-- **A store that gives back what was put into it.** -/
class Store.Lawful (σ : Type) [Store σ] : Prop where
  /-- What was put under a key is found there. -/
  get_of_set : ∀ {store after : σ} {key : String} {value : Json},
    Store.set store key value = .ok after → Store.get after key = .ok value

instance : Store.Lawful MemoryStore where
  get_of_set {store after key value} h := by
    obtain rfl : MemoryStore.mk (store.values.insert key value) = after := Except.ok.inj h
    have hget : (store.values.insert key value).get? key = some value := by simp
    simp only [Store.get, hget]

/-! ## Loading -/

section Loading

variable {story : Story} {σ : Type} [Store σ] {store : σ} {key : String} {game saved : Game}
  {slot : SaveSlot}

/-- **A slot that is stored is read.** -/
theorem readSlot_of_stored (h : slot.snapshot.state.Storable)
    (stored : Store.get store key = .ok slot.toJson) : Game.readSlot store key = .ok slot := by
  have hvalue : Game.fromStore (Store.get store key) = .ok slot.toJson := by
    rw [stored]
    rfl
  rw [Game.readSlot, hvalue]
  simp only [bind, Except.bind, SaveSlot.ofJson?_toJson h]

/-- A new game has nothing on its stacks. -/
theorem History.entries_clear (history : History) (name : String) :
    history.clear.entries name = [] := by
  have hclear : history.clear.get? name = (history.get? name).map fun _ => [] :=
    Table.get?_map _ history.byName name
  rw [History.entries, hclear]
  cases history.get? name <;> rfl

/-- **A slot merged over a new game**: its stacks, over those of the new game, which are empty. -/
theorem History.get?_merge_clear (history newer : History) (name : String) :
    (history.clear.merge newer).get? name
      = (newer.get? name).or ((history.get? name).map fun _ => []) := by
  show (Table.union _ _).get? name = _
  rw [Table.get?_union]
  exact congrArg (Option.or (newer.byName.get? name)) (Table.get?_map _ history.byName name)

/-- Merging histories takes the entries of each stack that the newer one has. -/
theorem History.entries_merge (history newer : History) (name : String) :
    (history.merge newer).entries name = (newer.get? name).getD (history.entries name) := by
  show ((history.byName.union newer.byName).get? name).getD [] = _
  rw [Table.get?_union, Option.getD_or]
  rfl

/-- The entries are those of the slot. -/
theorem History.entries_merge_clear (history newer : History) (name : String) :
    (history.clear.merge newer).entries name = newer.entries name := by
  rw [History.entries_merge, History.entries_clear, History.entries]

/-- **Loading a slot that is stored** runs its statement over a new game. -/
theorem loadFromSlot_of_stored (hregistry : game.registry = story.registry)
    (h : slot.snapshot.state.Storable) (stored : Store.get store key = .ok slot.toJson) :
    Game.loadFromSlot store key game
      = Game.runCurrent ((game.restored slot).withWorld (Particles.resume story.particles)) :=
  loadFromSlot_eq hregistry (readSlot_of_stored h stored)

/-- No menu waits over what was loaded. -/
theorem pending_restored (game : Game) (slot : SaveSlot) :
    (game.restored slot).world.prompt.pending = none :=
  congrArg Look.pending (look_blankWorld game.setPlaying)

end Loading

end Narrative
