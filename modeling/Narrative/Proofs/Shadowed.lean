import Narrative.Proofs.Slots

/-!
# Proofs/Shadowed — a variable named like a part of the cursor

The written form of a state is one flat object: the cursor, with the variables over it.  A variable
named `label` or `step` stands there in the place of the cursor's own value.  Read back, it *is*
that value, if it can be one, and no variable any more (`State.ofJson?_toJson_eq`).  So a save reads
back exactly when no variable has such a name.

What was read from a document has no such variable, whatever the document is, so a save that was
read once is never lost again.
-/

namespace Narrative

/-! ## Fields told apart by their names -/

namespace Fields

variable {α : Type} {keeps : String → Bool}

/-- A field that is written is among those chosen when its name is. -/
theorem filter_insert (fields : Fields α) (key : String) (new : α) :
    (insert fields key new).filter (keeps ·.1)
      = if keeps key then insert (fields.filter (keeps ·.1)) key new
        else fields.filter (keeps ·.1) := by
  induction fields with
  | nil => simp [insert, List.filter_cons]
  | cons field rest ih =>
    obtain ⟨name, value⟩ := field
    by_cases hname : name = key
    · subst hname
      by_cases hkeeps : keeps name = true <;> simp [insert, hkeeps]
    · by_cases hkey : keeps key = true <;> by_cases hkeeps : keeps name = true <;>
        simp [insert, hname, hkey, hkeeps, ih]

/-- **Choosing fields by their names**, before or after merging. -/
theorem filter_extend (fields more : Fields α) :
    (extend fields more).filter (keeps ·.1)
      = extend (fields.filter (keeps ·.1)) (more.filter (keeps ·.1)) := by
  induction more generalizing fields with
  | nil => rfl
  | cons field more ih =>
    show (extend (insert fields field.1 field.2) more).filter (keeps ·.1) = _
    rw [ih, filter_insert, List.filter_cons]
    split <;> rfl

theorem Distinct.filter {fields : Fields α} (h : Distinct fields) (keeps : String × α → Bool) :
    Distinct (fields.filter keeps) :=
  List.Nodup.sublist (List.filter_sublist.map Prod.fst) h

end Fields

/-! ## States -/

namespace State

/-- **No variable is named like a part of the cursor.** -/
def Unshadowed (state : State) : Prop := state.get? "label" = none ∧ state.get? "step" = none

theorem storable_iff {state : State} (h : Fields.Distinct state.vars) :
    state.Storable ↔ state.Unshadowed := by
  simp only [Unshadowed, get?, Fields.get?_eq_none_iff]
  exact ⟨fun hstorable => ⟨hstorable.label, hstorable.step⟩, fun hfree => ⟨h, hfree.1, hfree.2⟩⟩

/-- **What is read of a state**: the cursor, each part of it from the variable of its name if there
is one, and the other variables. -/
theorem ofJson?_toJson_eq {state : State} (h : Fields.Distinct state.vars) :
    ofJson? state.toJson = do
      let label ← ((state.get? "label").getD (.str state.cursor.label)).asText?
      let step ← ((state.get? "step").getD (.ofNat state.cursor.step)).asNat64?
      return ⟨⟨label, step⟩, state.vars.filter (isFree ·.1)⟩ := by
  have hget := Fields.get?_extend h [("label", .str state.cursor.label),
    ("step", .ofNat state.cursor.step)]
  have hvars : (Fields.extend [("label", .str state.cursor.label),
        ("step", .ofNat state.cursor.step)] state.vars).filter (isFree ·.1)
      = state.vars.filter (isFree ·.1) := by
    rw [Fields.filter_extend]
    exact Fields.extend_of_fresh (h.filter _)
  rw [toJson, ofJson?, hget, hget]
  show (do
    let label ← (← (Fields.get? state.vars "label").or (some (.str state.cursor.label))).asText?
    let step ← (← (Fields.get? state.vars "step").or (some (.ofNat state.cursor.step))).asNat64?
    return State.mk ⟨label, step⟩ (List.filter (isFree ·.1) (Fields.extend _ state.vars))) = _
  rw [hvars, Option.or_some, Option.or_some]
  rfl

/-- **A state that was read has no variable named like a part of the cursor**, whatever it was read
from. -/
theorem unshadowed_of_ofJson? {value : Json} {read : State} (h : ofJson? value = some read) :
    read.Unshadowed := by
  obtain ⟨fields, -, hvars⟩ := vars_of_ofJson? h
  have hfree : ∀ name, isFree name = false → read.get? name = none := by
    intro name hname
    rw [get?, hvars, Fields.get?_eq_none_iff]
    intro hmem
    obtain ⟨field, hfield, rfl⟩ := List.mem_map.1 hmem
    rw [(List.mem_filter.1 hfield).2] at hname
    cases hname
  exact ⟨hfree "label" rfl, hfree "step" rfl⟩

/-- **A state that was read from a value can be stored.** -/
theorem storable_of_ofJson? {value : Json} (hvalue : value.WellFormed) {read : State}
    (h : ofJson? value = some read) : read.Storable := by
  obtain ⟨fields, rfl, hvars⟩ := vars_of_ofJson? h
  have hdistinct : Fields.Distinct read.vars := hvars ▸ hvalue.1.filter _
  exact (storable_iff hdistinct).2 (unshadowed_of_ofJson? h)

/-- **A state reads back exactly when no variable is named like a part of the cursor.** -/
theorem ofJson?_toJson_iff {state : State} (h : Fields.Distinct state.vars) :
    ofJson? state.toJson = some state ↔ state.Unshadowed :=
  ⟨unshadowed_of_ofJson?, fun hfree => ofJson?_toJson ((storable_iff h).2 hfree)⟩

end State

/-! ## Records in both forms -/

namespace Json

theorem wellFormed_of_mem_items {items : List Json} (h : WellFormedItems items) {item : Json}
    (hmem : item ∈ items) : item.WellFormed := by
  induction items with
  | nil => cases hmem
  | cons first rest ih =>
    rcases List.mem_cons.1 hmem with rfl | hmem
    · exact h.1
    · exact ih h.2 hmem

theorem wellFormed_of_mem_fields {fields : Fields Json} (h : WellFormedFields fields)
    {field : String × Json} (hmem : field ∈ fields) : field.2.WellFormed := by
  induction fields with
  | nil => cases hmem
  | cons first rest ih =>
    rcases List.mem_cons.1 hmem with rfl | hmem
    · exact h.1
    · exact ih h.2 hmem

/-- **The parts of a record are well formed** when it is, as an object and as a list. -/
theorem WellFormed.of_slots {value : Json} (h : value.WellFormed) {names : List String}
    {parts : List (Option Json)} (hparts : value.slots names = some parts) {part : Json}
    (hmem : some part ∈ parts) : part.WellFormed := by
  cases value with
  | obj fields =>
    obtain rfl := Option.some.inj hparts
    obtain ⟨name, -, hname⟩ := List.mem_map.1 hmem
    exact wellFormed_of_mem_fields h.2 (Fields.mem_of_get? hname)
  | arr items =>
    obtain ⟨-, hsome⟩ := Option.ite_none_right_eq_some.1 hparts
    obtain rfl := Option.some.inj hsome
    rcases List.mem_append.1 hmem with hmem | hmem
    · obtain ⟨item, hitem, heq⟩ := List.mem_map.1 hmem
      exact Option.some.inj heq ▸ wellFormed_of_mem_items h hitem
    · cases List.eq_of_mem_replicate hmem
  | _ => cases hparts

end Json

/-! ## Snapshots and slots -/

/-- **Of a snapshot only the state can be lost.** -/
theorem Snapshot.ofJson?_toJson_eq (snapshot : Snapshot) :
    Snapshot.ofJson? snapshot.toJson
      = (State.ofJson? snapshot.state.toJson).map ({ snapshot with state := · }) := by
  have hslots : snapshot.toJson.slots ["history", "state", "storage"]
      = some [some snapshot.history.toJson, some snapshot.state.toJson,
          some snapshot.storage.toJson] := rfl
  cases hstate : State.ofJson? snapshot.state.toJson <;>
    simp [ofJson?, hslots, Json.required, History.ofJson?_toJson, hstate, Storage.ofJson?,
      Storage.toJson, Json.asFields?]

/-- **Of a slot only the snapshot can be lost.** -/
theorem SaveSlot.ofJson?_toJson_eq (slot : SaveSlot) :
    SaveSlot.ofJson? slot.toJson
      = (Snapshot.ofJson? slot.snapshot.toJson).map ({ slot with snapshot := · }) := by
  have himage : Json.optional Json.asText? (some (Json.ofOption (slot.image.map Json.str)))
      = some slot.image := by
    cases slot.image <;> rfl
  have hslots : slot.toJson.slots ["name", "date", "image", "snapshot"]
      = some [some (.str slot.name), some (.str slot.date),
          some (.ofOption (slot.image.map .str)), some slot.snapshot.toJson] := rfl
  cases hsnapshot : Snapshot.ofJson? slot.snapshot.toJson <;>
    simp [ofJson?, hslots, Json.required, Json.asText?, himage, hsnapshot]

/-- **What was read of a snapshot can be stored.** -/
theorem Snapshot.storable_of_ofJson? {value : Json} (hvalue : value.WellFormed) {read : Snapshot}
    (h : Snapshot.ofJson? value = some read) : read.state.Storable := by
  obtain ⟨history, written, storage, hparts, hread⟩ := state_of_ofJson? h
  exact State.storable_of_ofJson? (hvalue.of_slots hparts (by simp)) hread

theorem SaveSlot.storable_of_ofJson? {value : Json} (hvalue : value.WellFormed) {read : SaveSlot}
    (h : SaveSlot.ofJson? value = some read) : read.snapshot.state.Storable := by
  obtain ⟨name, date, image, written, hparts, hread⟩ := snapshot_of_ofJson? h
  exact Snapshot.storable_of_ofJson? (hvalue.of_slots hparts (by simp)) hread

/-- A snapshot reads back exactly when its state does. -/
theorem Snapshot.ofJson?_toJson_iff {snapshot : Snapshot}
    (h : Fields.Distinct snapshot.state.vars) :
    Snapshot.ofJson? snapshot.toJson = some snapshot ↔ snapshot.state.Unshadowed := by
  rw [← State.ofJson?_toJson_iff h, ofJson?_toJson_eq, Option.map_eq_some_iff]
  constructor
  · rintro ⟨state, hread, heq⟩
    rw [hread, ← congrArg Snapshot.state heq]
  · exact fun hread => ⟨_, hread, rfl⟩

/-- A slot reads back exactly when its snapshot does. -/
theorem SaveSlot.ofJson?_toJson_iff {slot : SaveSlot}
    (h : Fields.Distinct slot.snapshot.state.vars) :
    SaveSlot.ofJson? slot.toJson = some slot ↔ slot.snapshot.state.Unshadowed := by
  rw [← Snapshot.ofJson?_toJson_iff h, ofJson?_toJson_eq, Option.map_eq_some_iff]
  constructor
  · rintro ⟨snapshot, hread, heq⟩
    rw [hread, ← congrArg SaveSlot.snapshot heq]
  · exact fun hread => ⟨_, hread, rfl⟩

/-- What is read of a snapshot has no variable named like a part of the cursor. -/
theorem Snapshot.unshadowed_of_ofJson? {value : Json} {read : Snapshot}
    (h : Snapshot.ofJson? value = some read) : read.state.Unshadowed := by
  obtain ⟨_, _, _, -, hread⟩ := state_of_ofJson? h
  exact State.unshadowed_of_ofJson? hread

theorem SaveSlot.unshadowed_of_ofJson? {value : Json} {read : SaveSlot}
    (h : SaveSlot.ofJson? value = some read) : read.snapshot.state.Unshadowed := by
  obtain ⟨_, _, _, _, -, hread⟩ := snapshot_of_ofJson? h
  exact Snapshot.unshadowed_of_ofJson? hread

/-- **Saves can be read exactly when no variable shadows the cursor.**  A snapshot, its variables
told apart by their names, reads back as it was if and only if none of them is named `label` or
`step`; what is read of any other has lost the variable.  The same holds of a slot and its snapshot.
And whatever value a snapshot or a slot was read from, an object or a list, with other fields or
without, it reads back as it was. -/
theorem reads_back_iff_unshadowed :
    (∀ snapshot : Snapshot, Fields.Distinct snapshot.state.vars →
      (Snapshot.ofJson? snapshot.toJson = some snapshot ↔ snapshot.state.Unshadowed)
        ∧ ∀ read, Snapshot.ofJson? snapshot.toJson = some read → read.state.Unshadowed)
      ∧ (∀ slot : SaveSlot, Fields.Distinct slot.snapshot.state.vars →
        (SaveSlot.ofJson? slot.toJson = some slot ↔ slot.snapshot.state.Unshadowed)
          ∧ ∀ read, SaveSlot.ofJson? slot.toJson = some read → read.snapshot.state.Unshadowed)
      ∧ ∀ value : Json, value.WellFormed →
        (∀ snapshot, Snapshot.ofJson? value = some snapshot →
            Snapshot.ofJson? snapshot.toJson = some snapshot)
          ∧ ∀ slot, SaveSlot.ofJson? value = some slot →
            SaveSlot.ofJson? slot.toJson = some slot := by
  refine ⟨fun snapshot h => ⟨Snapshot.ofJson?_toJson_iff h, fun read => ?_⟩,
    fun slot h => ⟨SaveSlot.ofJson?_toJson_iff h, fun read => ?_⟩,
    fun value hvalue => ⟨fun snapshot hread => ?_, fun slot hread => ?_⟩⟩
  · exact Snapshot.unshadowed_of_ofJson?
  · exact SaveSlot.unshadowed_of_ofJson?
  · exact Snapshot.ofJson?_toJson (Snapshot.storable_of_ofJson? hvalue hread)
  · exact SaveSlot.ofJson?_toJson (SaveSlot.storable_of_ofJson? hvalue hread)

/-- A snapshot with a variable in the place of the label. -/
def misplaced : Snapshot :=
  ⟨History.empty, (State.start "Start").set "label" (.str "Inn"), Storage.empty⟩

/-- The list form of a snapshot. -/
def listedSnapshot : Json :=
  .arr [.obj [("jump", .arr [.str "Start"])],
    .obj [("step", .ofNat 2), ("gold", .ofNat 5), ("label", .str "Inn")], .obj []]

/-- The misplaced snapshot does not read back, in a slot or by itself; what is read of a list
does. -/
theorem reads_back_iff_unshadowed_misplaced :
    Snapshot.ofJson? misplaced.toJson ≠ some misplaced
      ∧ SaveSlot.ofJson? (SaveSlot.toJson ⟨"inn", "today", none, misplaced⟩)
        ≠ some ⟨"inn", "today", none, misplaced⟩
      ∧ ∃ snapshot, Snapshot.ofJson? listedSnapshot = some snapshot
        ∧ Snapshot.ofJson? snapshot.toJson = some snapshot := by
  have hdistinct : Fields.Distinct misplaced.state.vars := List.pairwise_singleton _ _
  have hshadowed : ¬ misplaced.state.Unshadowed := fun hfree =>
    Option.isSome_iff_ne_none.1 (by decide +kernel) hfree.1
  have hwellFormed : listedSnapshot.WellFormed := by
    simp [listedSnapshot, Json.WellFormed, Json.WellFormedItems, Json.WellFormedFields,
      Fields.Distinct, Fields.keys, Json.ofNat]
  have hread : (Snapshot.ofJson? listedSnapshot).isSome := by decide +kernel
  obtain ⟨hsnapshots, hslots, hvalues⟩ := reads_back_iff_unshadowed
  refine ⟨fun hback => hshadowed ((hsnapshots misplaced hdistinct).1.1 hback),
    fun hback => hshadowed ((hslots _ hdistinct).1.1 hback), ?_⟩
  obtain ⟨snapshot, hsnapshot⟩ := Option.isSome_iff_exists.1 hread
  exact ⟨snapshot, hsnapshot, (hvalues _ hwellFormed).1 snapshot hsnapshot⟩

end Narrative
