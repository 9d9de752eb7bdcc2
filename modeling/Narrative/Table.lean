import Narrative.Fields

/-!
# Table — finite maps from names, kept in the order of their names

A **table** lists its entries by strictly increasing name, compared character by character.  The
order is part of the type, so a table *is* its lookup: two tables with the same lookups are equal
(`Table.ext_get?`), whatever the order of the insertions that built them.
-/

namespace Narrative

/-- **A finite map from names**, its entries by strictly increasing name. -/
structure Table (α : Type) where
  /-- The entries in order. -/
  entries : Fields α
  /-- The names increase strictly. -/
  sorted : entries.Pairwise (fun a b => a.1 < b.1)

namespace Table

variable {α β : Type}

/-! ## Operations on sorted entries -/

/-- Put a value at the place its name belongs, replacing a value of that name. -/
def place (key : String) (new : α) : Fields α → Fields α
  | [] => [(key, new)]
  | (name, value) :: rest =>
    if key < name then (key, new) :: (name, value) :: rest
    else if key = name then (key, new) :: rest
    else (name, value) :: place key new rest

theorem mem_place {key : String} {new : α} {entry : String × α} {entries : Fields α}
    (h : entry ∈ place key new entries) : entry = (key, new) ∨ entry ∈ entries := by
  induction entries with
  | nil => simpa [place] using h
  | cons head rest ih =>
    obtain ⟨name, value⟩ := head
    rw [place] at h
    split at h
    · simpa using h
    · split at h
      · rcases List.mem_cons.1 h with h | h
        · exact Or.inl h
        · exact Or.inr (List.mem_cons_of_mem _ h)
      · rcases List.mem_cons.1 h with h | h
        · exact Or.inr (h ▸ List.mem_cons_self)
        · exact (ih h).imp_right (List.mem_cons_of_mem _)

theorem lt_of_not_lt_of_ne {a b : String} (h : ¬ a < b) (hne : a ≠ b) : b < a :=
  Decidable.byContradiction fun hb =>
    hne (String.le_antisymm (String.not_lt.1 hb) (String.not_lt.1 h))

theorem place_sorted (key : String) (new : α) {entries : Fields α}
    (h : entries.Pairwise (fun a b => a.1 < b.1)) :
    (place key new entries).Pairwise (fun a b => a.1 < b.1) := by
  induction entries with
  | nil => simp [place]
  | cons head rest ih =>
    obtain ⟨name, value⟩ := head
    obtain ⟨hhead, hrest⟩ := List.pairwise_cons.1 h
    rw [place]
    split
    · next hlt =>
      refine List.pairwise_cons.2 ⟨fun e he => ?_, h⟩
      rcases List.mem_cons.1 he with rfl | he
      · exact hlt
      · exact String.lt_trans hlt (hhead e he)
    · next hnlt =>
      split
      · next heq => subst heq; exact List.pairwise_cons.2 ⟨hhead, hrest⟩
      · next hne =>
        refine List.pairwise_cons.2 ⟨fun e he => ?_, ih hrest⟩
        rcases mem_place he with rfl | he
        · exact lt_of_not_lt_of_ne hnlt hne
        · exact hhead e he

/-! ## The map -/

/-- No entries. -/
def empty : Table α := ⟨[], List.Pairwise.nil⟩

instance : Inhabited (Table α) := ⟨empty⟩
instance : EmptyCollection (Table α) := ⟨empty⟩

/-- **The lookup.** -/
def get? (table : Table α) (key : String) : Option α := table.entries.get? key

/-- Whether a name is present. -/
def has (table : Table α) (key : String) : Bool := (table.get? key).isSome

/-- The names in order. -/
def keys (table : Table α) : List String := table.entries.keys

/-- The values in the order of their names. -/
def values (table : Table α) : List α := table.entries.values

/-- The number of entries. -/
def size (table : Table α) : Nat := table.entries.length

/-- Write a value under a name. -/
def insert (table : Table α) (key : String) (new : α) : Table α :=
  ⟨place key new table.entries, place_sorted key new table.sorted⟩

/-- Take a name out. -/
def erase (table : Table α) (key : String) : Table α :=
  ⟨table.entries.filter (·.1 ≠ key), table.sorted.filter _⟩

/-- Write every entry of `more`; its entries win. -/
def union (table more : Table α) : Table α :=
  more.entries.foldl (fun acc entry => acc.insert entry.1 entry.2) table

/-- The table of a list of named values; a later value of a name wins. -/
def ofFields (fields : Fields α) : Table α :=
  fields.foldl (fun acc entry => acc.insert entry.1 entry.2) empty

/-- Apply a function to every value. -/
def map (f : α → β) (table : Table α) : Table β :=
  ⟨table.entries.map (fun entry => (entry.1, f entry.2)), by
    rw [List.pairwise_map]; exact table.sorted⟩

/-! ## What the operations do to the lookup -/

/-- A name below every entry is not present. -/
theorem get?_eq_none_of_lt {entries : Fields α} {key : String} (h : ∀ e ∈ entries, key < e.1) :
    entries.get? key = none := by
  rw [Fields.get?_eq_none_iff]
  intro hmem
  obtain ⟨e, he, rfl⟩ := List.mem_map.1 hmem
  exact String.lt_irrefl _ (h e he)

theorem get?_place (key : String) (new : α) {entries : Fields α}
    (h : entries.Pairwise (fun a b => a.1 < b.1)) (other : String) :
    (place key new entries).get? other
      = if other = key then some new else entries.get? other := by
  induction entries with
  | nil => by_cases ho : other = key <;> simp [place, Fields.get?, ho, Ne.symm]
  | cons head rest ih =>
    obtain ⟨name, value⟩ := head
    obtain ⟨hhead, hrest⟩ := List.pairwise_cons.1 h
    rw [place]
    split
    · next hlt =>
      by_cases ho : other = key
      · subst ho; simp [Fields.get?]
      · simp [Fields.get?, ho, Ne.symm ho]
    · next hnlt =>
      split
      · next heq =>
        subst heq
        by_cases ho : other = key
        · subst ho; simp [Fields.get?]
        · simp [Fields.get?, ho, Ne.symm ho]
      · next hne =>
        rw [Fields.get?_cons, ih hrest]
        by_cases hn : name = other
        · subst hn; simp [Fields.get?, Ne.symm hne]
        · simp [Fields.get?, hn]

/-- **Insertion, read through the lookup.** -/
@[simp] theorem get?_insert (table : Table α) (key : String) (new : α) (other : String) :
    (table.insert key new).get? other = if other = key then some new else table.get? other :=
  get?_place key new table.sorted other

@[simp] theorem get?_empty (key : String) : (empty : Table α).get? key = none := rfl

/-- **Removal, read through the lookup.** -/
@[simp] theorem get?_erase (table : Table α) (key other : String) :
    (table.erase key).get? other = if other = key then none else table.get? other := by
  obtain ⟨entries, hsorted⟩ := table
  simp only [erase, get?]
  clear hsorted
  induction entries with
  | nil => simp
  | cons head rest ih =>
    obtain ⟨name, value⟩ := head
    by_cases hk : name = key
    · subst hk
      by_cases ho : other = name
      · subst ho; simpa using ih
      · simp [Fields.get?, ho, Ne.symm ho] at ih ⊢; exact ih
    · by_cases ho : other = key
      · subst ho; simp [hk, Fields.get?] at ih ⊢; exact ih
      · simp [hk, Fields.get?, ho] at ih ⊢
        split
        · rfl
        · exact ih

/-- A name below the first entry is not present. -/
theorem get?_cons_eq_none_of_lt {entries : Fields α} {key name : String} {value : α}
    (hhead : ∀ e ∈ entries, name < e.1) (hlt : key < name) :
    Fields.get? ((name, value) :: entries) key = none :=
  get?_eq_none_of_lt fun e he => by
    rcases List.mem_cons.1 he with rfl | he
    · exact hlt
    · exact String.lt_trans hlt (hhead e he)

/-- Sorted entries are determined by their lookup: the first names are the least ones. -/
theorem entries_eq_of_get?_eq {xs ys : Fields α}
    (hx : xs.Pairwise (fun a b => a.1 < b.1)) (hy : ys.Pairwise (fun a b => a.1 < b.1))
    (h : ∀ key, xs.get? key = ys.get? key) : xs = ys := by
  induction xs generalizing ys with
  | nil =>
    cases ys with
    | nil => rfl
    | cons y ys => simpa [Fields.get?] using h y.1
  | cons x xs ih =>
    obtain ⟨k, v⟩ := x
    cases ys with
    | nil => simpa [Fields.get?] using h k
    | cons y ys =>
      obtain ⟨k', v'⟩ := y
      obtain ⟨hxh, hxs⟩ := List.pairwise_cons.1 hx
      obtain ⟨hyh, hys⟩ := List.pairwise_cons.1 hy
      have hle : ¬ k < k' := fun hlt => by
        simpa [Fields.get?] using (h k).trans (get?_cons_eq_none_of_lt hyh hlt)
      have hge : ¬ k' < k := fun hlt => by
        simpa [Fields.get?] using (h k').symm.trans (get?_cons_eq_none_of_lt hxh hlt)
      obtain rfl : k = k' := String.le_antisymm (String.not_lt.1 hge) (String.not_lt.1 hle)
      obtain rfl : v = v' := by simpa [Fields.get?] using h k
      refine congrArg _ (ih hxs hys fun key => ?_)
      by_cases hkey : k = key
      · subst hkey
        rw [get?_eq_none_of_lt hxh, get?_eq_none_of_lt hyh]
      · simpa [Fields.get?, hkey] using h key

/-- **A function applied to every value, read through the lookup.** -/
theorem get?_map (f : α → β) (table : Table α) (name : String) :
    (table.map f).get? name = (table.get? name).map f := by
  have hfields : ∀ fields : Fields α,
      Fields.get? (fields.map fun entry => (entry.1, f entry.2)) name
        = (Fields.get? fields name).map f := by
    intro fields
    induction fields with
    | nil => rfl
    | cons field rest ih =>
      obtain ⟨first, value⟩ := field
      rw [List.map_cons, Fields.get?_cons, Fields.get?_cons, ih]
      split <;> rfl
  exact hfields table.entries

theorem keys_map (f : α → β) (table : Table α) : (table.map f).keys = table.keys := List.map_map

/-- **A table is its lookup.** -/
theorem ext_get? {s t : Table α} (h : ∀ key, s.get? key = t.get? key) : s = t := by
  obtain ⟨xs, hx⟩ := s
  obtain ⟨ys, hy⟩ := t
  obtain rfl : xs = ys := entries_eq_of_get?_eq hx hy h
  rfl

end Table

end Narrative
