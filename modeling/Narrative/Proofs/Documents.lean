import Narrative.Story

/-!
# Proofs/Documents — a script that was read has no callbacks

A document holds texts and records, so a script read from one has no callback anywhere
(`callbackless_of_gameWith?`).  Everything a table was read from is in it, and nothing else.
-/

namespace Narrative

/-- **No statement of the script is a callback.** -/
def Playbook.Callbackless (book : Playbook) : Prop :=
  ∀ cursor run, book.statement? cursor ≠ some (.callback run)

/-- **A statement stands somewhere in the labels of its language.** -/
theorem Script.labels_of_statement? {script : Script} {language : String} {cursor : Cursor}
    {statement : Statement} (h : script.statement? language cursor = some statement) :
    ∃ labels statements, script.labels? language = some labels
      ∧ labels.get? cursor.label = some statements
      ∧ statements[cursor.step]? = some statement := by
  obtain ⟨statements, hlabel, hstep⟩ := Option.bind_eq_some_iff.1 h
  obtain ⟨labels, hlabels, hget⟩ := Option.bind_eq_some_iff.1 hlabel
  exact ⟨labels, statements, hlabels, hget, hstep⟩

/-- What is found under a name is among the fields. -/
theorem Fields.mem_of_get? {α : Type} {fields : Fields α} {name : String} {value : α}
    (h : Fields.get? fields name = some value) : (name, value) ∈ fields := by
  induction fields with
  | nil => cases h
  | cons field rest ih =>
    obtain ⟨first, found⟩ := field
    rw [Fields.get?_cons] at h
    split at h
    · next heq =>
      obtain rfl := heq
      obtain rfl := Option.some.inj h
      exact List.mem_cons_self
    · exact List.mem_cons_of_mem _ (ih h)

theorem Fields.has_iff_mem_keys {α : Type} {fields : Fields α} {name : String} :
    Fields.has fields name = true ↔ name ∈ Fields.keys fields := by
  rw [Fields.has, Option.isSome_iff_ne_none, ne_eq, Fields.get?_eq_none_iff, Decidable.not_not]

/-- A label that exists is among the names of the labels. -/
theorem Playbook.mem_labelNames {book : Playbook} {label : String}
    (h : book.hasLabel label = true) : label ∈ book.labelNames := by
  obtain ⟨statements, hlabel⟩ := Option.isSome_iff_exists.1 h
  obtain ⟨labels, hlabels, hget⟩ := Option.bind_eq_some_iff.1 hlabel
  rw [labelNames, Script.labelNames, hlabels]
  exact Fields.has_iff_mem_keys.1 (Option.isSome_of_eq_some hget)

/-! ## What a table was read from -/

theorem Table.mem_ofFields {α : Type} {fields : Fields α} {entry : String × α}
    (h : entry ∈ (Table.ofFields fields).entries) : entry ∈ fields := by
  -- The table grows field by field; what was put in earlier is part of the invariant.
  suffices hgrow : ∀ (fields : Fields α) (table : Table α),
      entry ∈ (fields.foldl (fun acc field => acc.insert field.1 field.2) table).entries →
        entry ∈ table.entries ∨ entry ∈ fields by
    exact (hgrow fields Table.empty h).resolve_left (by simp [Table.empty])
  intro fields
  induction fields with
  | nil => exact fun table h => Or.inl h
  | cons field fields ih =>
    intro table h
    rcases ih _ h with h | h
    · rcases Table.mem_place h with rfl | h
      · exact Or.inr List.mem_cons_self
      · exact Or.inl h
    · exact Or.inr (List.mem_cons_of_mem _ h)

/-- The items of a list that was read are read one by one. -/
theorem Json.mem_of_mapM {α β : Type} {read : α → Option β} {items : List α} {found : List β}
    (h : items.mapM read = some found) {value : β} (hmem : value ∈ found) :
    ∃ item ∈ items, read item = some value := by
  induction items generalizing found with
  | nil =>
    obtain rfl : [] = found := by simpa using h
    cases hmem
  | cons item items ih =>
    rw [List.mapM_cons] at h
    obtain ⟨first, hfirst, h⟩ := Option.bind_eq_some_iff.1 h
    obtain ⟨rest, hrest, h⟩ := Option.bind_eq_some_iff.1 h
    obtain rfl : first :: rest = found := by simpa using h
    rcases List.mem_cons.1 hmem with rfl | hmem
    · exact ⟨item, List.mem_cons_self, hfirst⟩
    · obtain ⟨other, hother, hread⟩ := ih hrest hmem
      exact ⟨other, List.mem_cons_of_mem _ hother, hread⟩

/-- **A property of values that their parts inherit.** -/
structure Json.Inherited (Good : Json → Prop) : Prop where
  /-- From an object. -/
  fields : ∀ ⦃fields⦄, Good (.obj fields) → ∀ field ∈ fields, Good field.2
  /-- From a list. -/
  items : ∀ ⦃items⦄, Good (.arr items) → ∀ item ∈ items, Good item

/-- Every value does. -/
theorem Json.inherited_true : Json.Inherited fun _ => True :=
  ⟨fun _ _ _ _ => trivial, fun _ _ _ _ => trivial⟩

/-- **Every value of a table that was read is one that was read**, from a part of the document. -/
theorem Json.read_of_tableOf {Good : Json → Prop} (hinherited : Json.Inherited Good) {α : Type}
    {decode : Json → Option α} {document : Json} (hgood : Good document) {table : Table α}
    (h : Json.tableOf decode document = some table) {name : String} {value : α}
    (hget : table.get? name = some value) :
    ∃ written, Good written ∧ decode written = some value := by
  cases document with
  | obj fields =>
    obtain ⟨found, hfound, rfl⟩ := Option.map_eq_some_iff.1 h
    obtain ⟨field, hmem, hfield⟩ :=
      Json.mem_of_mapM hfound (Table.mem_ofFields (Fields.mem_of_get? hget))
    obtain ⟨read, hread, heq⟩ := Option.map_eq_some_iff.1 hfield
    exact ⟨field.2, hinherited.fields hgood field hmem, by rw [hread, (Prod.mk.inj heq).2]⟩
  | _ => cases h

/-! ## Scripts -/

theorem Statement.ne_callback_of_ofJson? {value : Json} {statement : Statement}
    (h : Statement.ofJson? value = some statement) (run : Play Unit) :
    statement ≠ .callback run := by
  rintro rfl
  cases value <;> simp [Statement.ofJson?] at h

/-- A text is read from a text. -/
theorem Statement.eq_str_of_ofJson? {value : Json} {line : String}
    (h : Statement.ofJson? value = some (.text line)) : value = .str line := by
  cases value <;> simp_all [Statement.ofJson?]

/-- A record is read from a record. -/
theorem Statement.eq_obj_of_ofJson? {value : Json} {fields : Fields Json}
    (h : Statement.ofJson? value = some (.record fields)) : value = .obj fields := by
  cases value <;> simp_all [Statement.ofJson?]

/-- Every statement of labels that were read is one that was read. -/
theorem Labels.read_of_ofJson? {Good : Json → Prop} (hinherited : Json.Inherited Good)
    {document : Json} (hgood : Good document) {labels : Labels}
    (h : Labels.ofJson? document = some labels) {name : String} {statements : List Statement}
    (hget : labels.get? name = some statements) {statement : Statement}
    (hmem : statement ∈ statements) :
    ∃ value, Good value ∧ Statement.ofJson? value = some statement := by
  obtain ⟨written, hwritten, hread⟩ := Json.read_of_tableOf hinherited hgood h hget
  cases written with
  | arr items =>
    obtain ⟨item, hitem, hstatement⟩ := Json.mem_of_mapM hread hmem
    exact ⟨item, hinherited.items hwritten item hitem, hstatement⟩
  | _ => cases hread

/-- **Every statement of a script that was read is one that was read**, from a part of the
document. -/
theorem Script.read_of_ofJson? {Good : Json → Prop} (hinherited : Json.Inherited Good)
    {multiLanguage : Bool} {document : Json} (hgood : Good document) {script : Script}
    (h : Script.ofJson? multiLanguage document = some script) {language : String} {cursor : Cursor}
    {statement : Statement} (hs : script.statement? language cursor = some statement) :
    ∃ value, Good value ∧ Statement.ofJson? value = some statement := by
  obtain ⟨labels, statements, hlabels, hget, hstep⟩ := Script.labels_of_statement? hs
  have hread : ∃ written, Good written ∧ Labels.ofJson? written = some labels := by
    unfold Script.ofJson? at h
    split at h
    · obtain ⟨languages, hlanguages, rfl⟩ := Option.map_eq_some_iff.1 h
      exact Json.read_of_tableOf hinherited hgood hlanguages hlabels
    · obtain ⟨found, hfound, rfl⟩ := Option.map_eq_some_iff.1 h
      obtain rfl := Option.some.inj hlabels
      exact ⟨document, hgood, hfound⟩
  obtain ⟨written, hwritten, hlabelsRead⟩ := hread
  exact Labels.read_of_ofJson? hinherited hwritten hlabelsRead hget (List.mem_of_getElem? hstep)

theorem Script.ne_callback_of_ofJson? {multiLanguage : Bool} {document : Json} {script : Script}
    (h : Script.ofJson? multiLanguage document = some script) (language : String)
    (cursor : Cursor) (run : Play Unit) : script.statement? language cursor ≠ some (.callback run)
    := by
  intro hs
  obtain ⟨value, -, hvalue⟩ := Script.read_of_ofJson? Json.inherited_true trivial h hs
  exact Statement.ne_callback_of_ofJson? hvalue run rfl

/-- **A story has no callbacks**, whatever the actions and the preferences. -/
theorem callbackless_of_gameWith? {story : Story} {registry : Registry} {game : Game}
    (h : story.gameWith? registry = some game) (preferences : Preferences) :
    Playbook.Callbackless { game.book with preferences := preferences } := by
  obtain ⟨script, hscript, rfl⟩ := Option.map_eq_some_iff.1 h
  intro cursor run
  exact Script.ne_callback_of_ofJson? hscript _ cursor run

end Narrative
