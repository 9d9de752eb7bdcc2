import Narrative.Proofs.Numeral
import Narrative.Storage

/-!
# Proofs/Dotted — where a longer path leads

A path is split at every point, so the segments of two paths with a point between them are those of
the one and then those of the other (`Storage.segments_dotted`).  A walk goes through an object by
the name of a field and through a list by a numeral (`Json.Leads`), and it goes on from where its
first part leads.

So a longer path leads on from where its beginning leads: as in a storage made of that object, or
from the item of that list that its next segment selects; and from anything else it leads nowhere
(`resolve?_dotted`).
-/

namespace Narrative

namespace Text

/-! ## Splitting and joining -/

variable {separator : Char}

theorem stretches_eq_splitOn (cs : List Char) : stretches separator cs = cs.splitOn separator := by
  induction cs with
  | nil => rfl
  | cons c cs ih =>
    obtain ⟨first, more, hcs⟩ := List.exists_cons_of_ne_nil (stretches_ne_nil separator cs)
    rw [List.splitOn_cons_eq_if_modifyHead, ← ih, stretches, hcs]
    simp only [beq_iff_eq, List.modifyHead_cons]

/-- A stretch goes from one separating character to the next. -/
theorem notMem_of_mem_stretches {cs stretch : List Char} (h : stretch ∈ stretches separator cs) :
    separator ∉ stretch := by
  induction cs generalizing stretch with
  | nil =>
    rw [List.mem_singleton.1 h]
    exact List.not_mem_nil
  | cons c cs ih =>
    obtain ⟨first, more, hcs⟩ := List.exists_cons_of_ne_nil (stretches_ne_nil separator cs)
    rw [stretches, hcs] at h
    rw [hcs] at ih
    by_cases hc : c = separator
    · rw [if_pos hc] at h
      rcases List.mem_cons.1 h with rfl | h
      · exact List.not_mem_nil
      · exact ih h
    · rw [if_neg hc] at h
      rcases List.mem_cons.1 h with rfl | h
      · exact List.not_mem_cons_of_ne_of_not_mem (Ne.symm hc) (ih List.mem_cons_self)
      · exact ih (List.mem_cons_of_mem _ h)

theorem toList_join (mark : String) (texts : List String) :
    (join mark texts).toList = mark.toList.intercalate (texts.map String.toList) := by
  induction texts with
  | nil => rfl
  | cons text more ih =>
    cases more with
    | nil => rw [join, List.map_singleton, List.intercalate_singleton]
    | cons next more =>
      simp only [List.map_cons, List.intercalate_cons_cons] at ih ⊢
      rw [join, String.toList_append, String.toList_append, ih]
      exact List.cons_ne_nil next more

/-- **Two texts** with a separating character between them. -/
theorem splitAt_append (before after : String) :
    splitAt (before ++ String.singleton separator ++ after) separator
      = splitAt before separator ++ splitAt after separator := by
  rw [splitAt, String.toList_append, String.toList_append, String.toList_singleton,
    List.append_assoc, List.singleton_append, stretches_eq_splitOn, List.splitOn_append_cons_self,
    List.map_append, ← stretches_eq_splitOn, ← stretches_eq_splitOn]
  rfl

theorem notMem_of_mem_splitAt {text part : String} (h : part ∈ splitAt text separator) :
    separator ∉ part.toList := by
  obtain ⟨stretch, hstretch, rfl⟩ := List.mem_map.1 h
  rw [String.toList_ofList]
  exact notMem_of_mem_stretches hstretch

/-- **A text split and joined** is the text. -/
theorem join_splitAt (text : String) (separator : Char) :
    join (String.singleton separator) (splitAt text separator) = text := by
  have hparts : (splitAt text separator).map String.toList = text.toList.splitOn separator := by
    rw [splitAt, List.map_map, ← stretches_eq_splitOn]
    exact List.map_id'' (fun cs => String.toList_ofList) _
  rw [← String.toList_inj, toList_join, hparts, String.toList_singleton, List.intercalate_splitOn]

theorem splitAt_ne_nil (text : String) (separator : Char) : splitAt text separator ≠ [] := fun h =>
  stretches_ne_nil separator text.toList (List.map_eq_nil_iff.1 h)

end Text

/-! ## Walks -/

namespace Json

/-- **The item that a segment selects**: its place in the list, written as a numeral. -/
def Selects (items : List Json) (segment : String) (item : Json) : Prop :=
  ∃ n, Text.Numeral.IsNumeral n segment.toList ∧ n ≤ Text.Numeral.max64 ∧ items[n]? = some item

/-- **Where segments lead** from a value: through an object by the name of a field, and through a
list by an item that the segment selects. -/
inductive Leads : Json → List String → Json → Prop
  | here (value : Json) : Leads value [] value
  | field {fields : Fields Json} {name : String} {next found : Json} {more : List String}
      (h : Fields.get? fields name = some next) (hmore : Leads next more found) :
      Leads (.obj fields) (name :: more) found
  | item {items : List Json} {segment : String} {next found : Json} {more : List String}
      (h : Selects items segment next) (hmore : Leads next more found) :
      Leads (.arr items) (segment :: more) found

/-- **A step through a list** is to the item that the segment selects. -/
theorem child?_arr_eq_some_iff {items : List Json} {segment : String} {item : Json} :
    (Json.arr items).child? segment = some item ↔ Selects items segment item := by
  simp only [child?, Text.Numeral.ofText?, Option.bind_eq_some_iff, Text.Numeral.read?_eq_some_iff,
    Selects, and_assoc]

theorem walk?_cons_eq_some_iff {value found : Json} {segment : String} {more : List String} :
    value.walk? (segment :: more) = some found
      ↔ ∃ next, value.child? segment = some next ∧ next.walk? more = some found :=
  Option.bind_eq_some_iff

/-- **A walk arrives** where its segments lead. -/
theorem walk?_eq_some_iff {value found : Json} {segments : List String} :
    value.walk? segments = some found ↔ Leads value segments found := by
  constructor
  · intro h
    induction segments generalizing value with
    | nil =>
      have hfound : value = found := Option.some.inj h
      exact hfound ▸ .here value
    | cons segment more ih =>
      obtain ⟨next, hnext, hmore⟩ := walk?_cons_eq_some_iff.1 h
      cases value with
      | obj fields => exact .field hnext (ih hmore)
      | arr items => exact .item (child?_arr_eq_some_iff.1 hnext) (ih hmore)
      | _ => cases hnext
  · intro h
    induction h with
    | here _ => rfl
    | field h _ ih => exact walk?_cons_eq_some_iff.2 ⟨_, h, ih⟩
    | item h _ ih => exact walk?_cons_eq_some_iff.2 ⟨_, child?_arr_eq_some_iff.2 h, ih⟩

end Json

/-! ## Longer paths -/

/-- **The segments of a longer path** are those of its two parts. -/
theorem Storage.segments_dotted (p q : String) :
    segments (p ++ "." ++ q) = segments p ++ segments q :=
  Text.splitAt_append p q

/-- **A longer path** is walked from where its beginning leads. -/
theorem Storage.resolve?_append (storage : Storage) (p q : String) :
    storage.resolve? (p ++ "." ++ q) = (storage.resolve? p).bind (·.walk? (segments q)) := by
  rw [resolve?, segments_dotted, Json.walk?_append]
  rfl

/-- **Where a longer path leads.**  It has at least one more segment than its beginning.  From an
object it leads where those segments lead in a storage made of that object; from a list it goes on
through the item that the first of them selects; and from any other value, and when the beginning
leads nowhere, it leads nowhere. -/
theorem resolve?_dotted (storage : Storage) (p q : String) :
    ∃ first more,
      q = Text.join "." (first :: more) ∧ (∀ segment ∈ first :: more, '.' ∉ segment.toList) ∧
        match storage.resolve? p with
        | some (.obj fields) =>
          storage.resolve? (p ++ "." ++ q) = (Storage.ofJson (.obj fields)).resolve? q
        | some (.arr items) =>
          ∀ found, storage.resolve? (p ++ "." ++ q) = some found
            ↔ ∃ item, Json.Selects items first item ∧ Json.Leads item more found
        | _ => storage.resolve? (p ++ "." ++ q) = none := by
  obtain ⟨first, more, hq⟩ := List.exists_cons_of_ne_nil (Text.splitAt_ne_nil q '.')
  refine ⟨first, more, ?_, ?_, ?_⟩
  · rw [← hq]
    exact (Text.join_splitAt q '.').symm
  · rw [← hq]
    exact fun segment hsegment => Text.notMem_of_mem_splitAt hsegment
  rw [storage.resolve?_append, Storage.segments, hq]
  cases storage.resolve? p with
  | none => rfl
  | some value =>
    rw [Option.bind_some]
    cases value with
    | obj fields =>
      rw [← hq]
      rfl
    | arr items =>
      intro found
      rw [Json.walk?_cons_eq_some_iff]
      simp only [Json.child?_arr_eq_some_iff, Json.walk?_eq_some_iff]
    | _ => rfl

-- The second item is selected by `+01`; an object has a field of the same name, and a text has none.
example :
    let bag := Json.arr [.str "key", .obj [("+01", .str "lamp")]]
    let storage : Storage := ⟨[("", .obj [("bag", bag)])]⟩
    [".bag.+01.+01", ".bag.+01.", ".bag.0.+01"].map storage.resolve?
      = [some (.str "lamp"), none, none] :=
  rfl

end Narrative
