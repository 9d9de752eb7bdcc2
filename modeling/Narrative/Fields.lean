/-!
# Fields — named values in the order in which they were first written

An object of a document is a list of named values.  Four operations act on it, and each is told
apart by what it does to the **lookup** `get?` and to the order of the names:

* `insert` replaces a named value where it stands and puts a new name last;
* `erase` takes a named value out and moves the last one into its place;
* `extend` inserts the fields of another object, one after the other;
* `keys` and `values` read the object in order.

The names of an object are meant to be distinct (`Distinct`); `insert` and `erase` keep them so.
-/

namespace Narrative

/-- **Named values in order of first mention.** -/
abbrev Fields (α : Type) := List (String × α)

namespace Fields

variable {α β : Type}

/-- **The lookup**: the value under the first entry of that name. -/
def get? : Fields α → String → Option α
  | [], _ => none
  | (name, value) :: rest, key => if name = key then some value else get? rest key

/-- Whether a name is present. -/
def has (fields : Fields α) (key : String) : Bool := (get? fields key).isSome

/-- The names, in order. -/
def keys (fields : Fields α) : List String := fields.map (·.1)

/-- The values, in order. -/
def values (fields : Fields α) : List α := fields.map (·.2)

/-- Write a value under a name: in place if the name is present, last otherwise. -/
def insert : Fields α → String → α → Fields α
  | [], key, new => [(key, new)]
  | (name, value) :: rest, key, new =>
    if name = key then (name, new) :: rest else (name, value) :: insert rest key new

/-- Take a name out.  The last entry moves into the gap, so that the others keep their places. -/
def erase : Fields α → String → Fields α
  | [], _ => []
  | (name, value) :: rest, key =>
    if name = key then
      match rest.getLast? with
      | none => []
      | some last => last :: rest.dropLast
    else (name, value) :: erase rest key

/-- Insert every field of `more`, in order. -/
def extend (fields more : Fields α) : Fields α :=
  more.foldl (fun acc field => insert acc field.1 field.2) fields

/-- Distinct names: what every object built by the operations satisfies. -/
def Distinct (fields : Fields α) : Prop := (keys fields).Nodup

/-! ## What the operations do to the lookup -/

@[simp] theorem get?_nil (key : String) : get? ([] : Fields α) key = none := rfl

theorem get?_cons (name : String) (value : α) (rest : Fields α) (key : String) :
    get? ((name, value) :: rest) key = if name = key then some value else get? rest key := rfl

@[simp] theorem get?_insert_self (fields : Fields α) (key : String) (new : α) :
    get? (insert fields key new) key = some new := by
  induction fields with
  | nil => simp [insert, get?]
  | cons field rest ih =>
    obtain ⟨name, value⟩ := field
    by_cases h : name = key <;> simp [insert, get?, h, ih]

theorem get?_insert_of_ne (fields : Fields α) {key other : String} (new : α) (h : other ≠ key) :
    get? (insert fields key new) other = get? fields other := by
  induction fields with
  | nil => simp [insert, get?, Ne.symm h]
  | cons field rest ih =>
    obtain ⟨name, value⟩ := field
    by_cases hn : name = key
    · simp [insert, get?, hn, Ne.symm h]
    · rw [insert, if_neg hn, get?_cons, get?_cons, ih]

/-- **Insertion, read through the lookup.** -/
theorem get?_insert (fields : Fields α) (key other : String) (new : α) :
    get? (insert fields key new) other = if other = key then some new else get? fields other := by
  by_cases h : other = key
  · subst h; simp
  · simp [h, get?_insert_of_ne fields new h]

theorem get?_eq_none_iff (fields : Fields α) (key : String) :
    get? fields key = none ↔ key ∉ keys fields := by
  induction fields with
  | nil => simp [keys]
  | cons field rest ih =>
    obtain ⟨name, value⟩ := field
    by_cases h : name = key
    · simp [get?, keys, h]
    · have : ¬ key = name := fun e => h e.symm
      simpa [get?, keys, h, this] using ih

/-- Inserting under a present name keeps the names; under a new one it appends it. -/
theorem keys_insert (fields : Fields α) (key : String) (new : α) :
    keys (insert fields key new)
      = if key ∈ keys fields then keys fields else keys fields ++ [key] := by
  induction fields with
  | nil => simp [insert, keys]
  | cons field rest ih =>
    obtain ⟨name, value⟩ := field
    by_cases h : name = key
    · simp [insert, keys, h]
    · have : ¬ key = name := fun e => h e.symm
      by_cases hm : key ∈ keys rest <;> simp_all [insert, keys]

/-- Insertion keeps the names distinct. -/
theorem Distinct.insert {fields : Fields α} (h : Distinct fields) (key : String) (new : α) :
    Distinct (Fields.insert fields key new) := by
  unfold Distinct at *
  rw [keys_insert]
  split
  · exact h
  · next hm => exact List.nodup_append.2 ⟨h, by simp, by
      intro a ha b hb e
      obtain rfl := List.mem_singleton.1 hb
      exact hm (e ▸ ha)⟩

end Fields

end Narrative
