import Narrative.Proofs.Interchange
import Narrative.Proofs.Slots
import Narrative.Script

/-!
# Proofs/Merge — what a script looks up once another is merged over it

Two scripts of one kind merge into a **right-biased union**: in every language, under every name,
stand the statements of the newer script if it has any there, and those of the older otherwise.
Where the kinds differ, the older one says what languages there are:

* a script for one language gives way to one for several as a whole (`Script.merge_single_multi`),
  and what only the older one had is gone;
* a script for several languages takes the labels of one for a single language into each language
  that is there, and gets no language from it (`Script.languages_merge_multi_single`).

`Script.labels?_merge` says it of the labels of a language, and `Script.label?_merge` of a label.
Between languages the law is one of tables: entries that are stored one after the other, each
combined with what was there (`Table.get?_foldl_combine`).
-/

namespace Narrative

/-! ## Tables that are combined -/

section Tables

variable {α β : Type}

/-- **Entries combined one after the other** with what a table has under their names, read through
the lookup: each name is combined once, as the names are distinct. -/
theorem Table.get?_foldl_combine {fields : Fields α} (h : Fields.Distinct fields)
    (combine : Option β → α → β) (table : Table β) (name : String) :
    (fields.foldl (fun acc entry => acc.insert entry.1 (combine (acc.get? entry.1) entry.2))
        table).get? name
      = match Fields.get? fields name with
        | none => table.get? name
        | some value => some (combine (table.get? name) value) := by
  induction fields generalizing table with
  | nil => rfl
  | cons field rest ih =>
    obtain ⟨first, value⟩ := field
    obtain ⟨hfresh, hrest⟩ := List.nodup_cons.1 h
    rw [List.foldl_cons, ih hrest, Table.get?_insert, Fields.get?_cons]
    by_cases hname : name = first
    · -- the entry that has just been stored is not met again
      subst hname
      rw [(Fields.get?_eq_none_iff rest name).2 hfresh, if_pos rfl, if_pos rfl]
    · rw [if_neg hname, if_neg (Ne.symm hname)]

end Tables

namespace Script

variable {older newer : Script}

/-! ## Scripts of different kinds -/

/-- **A script for one language is replaced** by one for several. -/
theorem merge_single_multi (h : older.isMulti = false) (hnewer : newer.isMulti = true) :
    older.merge newer = newer := by
  match older, newer, h, hnewer with
  | single _, multi _, _, _ => rfl

/-- **A script for one language brings no language** to one for several. -/
theorem languages_merge_multi_single (h : older.isMulti = true)
    (hnewer : newer.isMulti = false) : (older.merge newer).languages = older.languages := by
  match older, newer, h, hnewer with
  | multi languages, single labels, _, _ => exact Table.keys_map (·.union labels) languages

/-! ## The labels of a language -/

variable (older newer) (language name : String)

/-- What labels there are of a language, once those of another script are merged over them. -/
def mergeLabels (mine theirs : Option Labels) : Option Labels :=
  match theirs with
  | none => mine
  | some labels => some ((mine.getD Table.empty).union labels)

/-- **Merged labels, read through the lookup.** -/
theorem get?_mergeLabels (mine theirs : Option Labels) :
    (mergeLabels mine theirs).bind (·.get? name)
      = (theirs.bind (·.get? name)).or (mine.bind (·.get? name)) := by
  cases theirs with
  | none => rfl
  | some labels =>
    show ((mine.getD Table.empty).union labels).get? name = _
    rw [Table.get?_union]
    cases mine <;> rfl

/-- **The labels of a language after a merge**, by the kinds of the two scripts. -/
theorem labels?_merge :
    (older.merge newer).labels? language
      = if !older.isMulti && newer.isMulti then newer.labels? language
        else if older.isMulti && !newer.isMulti && (older.labels? language).isNone then none
        else mergeLabels (older.labels? language) (newer.labels? language) := by
  match older, newer with
  | single _, single _ => rfl
  | single _, multi _ => rfl
  | multi mine, multi theirs =>
    refine (Table.get?_foldl_combine theirs.distinct
      (fun found labels => (found.getD Table.empty).union labels) mine language).trans ?_
    show _ = mergeLabels (mine.get? language) (theirs.entries.get? language)
    cases theirs.entries.get? language <;> rfl
  | multi mine, single theirs =>
    show (mine.map (·.union theirs)).get? language = _
    rw [Table.get?_map]
    cases hmine : mine.get? language <;> simp [isMulti, labels?, hmine, mergeLabels]

/-- **A label after a merge**, by the kinds of the two scripts. -/
theorem label?_merge :
    (older.merge newer).label? language name
      = if !older.isMulti && newer.isMulti then newer.label? language name
        else if older.isMulti && !newer.isMulti && (older.labels? language).isNone then none
        else (newer.label? language name).or (older.label? language name) := by
  rw [label?, labels?_merge]
  split
  · rfl
  · split
    · rfl
    · exact get?_mergeLabels name (older.labels? language) (newer.labels? language)

/-! ## The union -/

/-- **Merging scripts is a right-biased union**, but for scripts of different kinds.  Under a name
in a language stand the newer script's statements, or else the older one's; a script for several
languages replaces one for a single language, and a script for a single language says nothing of
the languages that the older one does not have.  So a label that the newer script does not define
stays, unless the whole script is replaced. -/
theorem merge_right_biased :
    ((older.merge newer).label? language name
        = if !older.isMulti && newer.isMulti then newer.label? language name
          else if older.isMulti && !newer.isMulti && (older.labels? language).isNone then none
          else (newer.label? language name).or (older.label? language name))
      ∧ (older.isMulti = true ∨ newer.isMulti = false →
          ∀ statements, older.label? language name = some statements →
            newer.label? language name = none →
              (older.merge newer).label? language name = some statements)
      ∧ (older.isMulti = false → newer.isMulti = true → older.merge newer = newer)
      ∧ (older.isMulti = true → newer.isMulti = false →
          (older.merge newer).languages = older.languages) := by
  refine ⟨label?_merge older newer language name, fun hkinds statements hold hnew => ?_,
    merge_single_multi, languages_merge_multi_single⟩
  have hreplaced : (!older.isMulti && newer.isMulti) = false := by
    rcases hkinds with h | h <;> simp [h]
  -- the language is there, as the older script has a label in it
  have hthere : (older.labels? language).isNone = false := by
    cases hlabels : older.labels? language with
    | none => rw [label?, hlabels] at hold; cases hold
    | some _ => rfl
  rw [label?_merge, hreplaced, hthere, hold, hnew]
  simp

/-- The script of one chapter, for a single language. -/
def draft : Script :=
  single (Table.ofFields [("Keep", [.text "k"]), ("Start", [.text "a"])])

/-- The same chapter begun in English. -/
def translated : Script :=
  multi (Table.ofFields [("English", Table.ofFields [("Start", [.text "b"])])])

/-- Drafts merge into a union; over a translation, the draft's labels join its only language. -/
theorem merge_right_biased_draft :
    (translated.merge draft).label? "English" "Keep" = some [.text "k"]
      ∧ (draft.merge (single (Table.ofFields [("Start", [.text "c"])]))).label? "English" "Keep"
        = some [.text "k"]
      ∧ (translated.merge draft).languages = ["English"] := by
  refine ⟨?_, ?_, ?_⟩
  · exact (merge_right_biased translated draft "English" "Keep").1.trans rfl
  · exact (merge_right_biased draft _ "English" "Keep").2.1 (.inr rfl) _ rfl rfl
  · exact (merge_right_biased translated draft "English" "Keep").2.2.2 rfl rfl

/-- **A label that the newer script does not define may be gone**, and one that it defines may not
be there: a draft is replaced by the translation, and a draft merged over the translation says
nothing in a language the translation does not have. -/
theorem merge_not_union :
    draft.label? "English" "Keep" = some [.text "k"]
      ∧ translated.label? "English" "Keep" = none
      ∧ (draft.merge translated).label? "English" "Keep" = none
      ∧ draft.label? "Deutsch" "Keep" = some [.text "k"]
      ∧ (translated.merge draft).label? "Deutsch" "Keep" = none :=
  ⟨rfl, rfl, rfl, rfl, rfl⟩

end Script

end Narrative
