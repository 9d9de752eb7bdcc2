import Narrative.Proofs.Documents
import Narrative.Proofs.PrintedText
import Narrative.Store.Directory

/-!
# Proofs/Interchange — the two stores give the same answers

A store is asked for values, for changes and for its keys, one request after the other
(`Store.Request`, `Store.answers`).  A directory that begins empty and a new table in memory give
the same answers to every list of requests, faults and the order of the keys included
(`DirStore.interchangeable`).

The directory **mirrors** the table: under the name of the file of each key stands the indented
text of its value.  That is kept by every request (`DirStore.Mirrors.reply`), and it rests on two
round trips: the key is what its file name says (`DirStore.keyOf?_eq_some_iff`), and the value is
what its text reads back as (`Json.read?_prettyText`).
-/

namespace Narrative

/-! ## Requests and answers -/

namespace Store

/-- **What a store is asked.** -/
inductive Request where
  /-- The value under a key. -/
  | get (key : String)
  /-- To store a value under a key. -/
  | set (key : String) (value : Json)
  /-- To remove a key. -/
  | remove (key : String)
  /-- Whether a key is there. -/
  | contains (key : String)
  /-- All keys. -/
  | keys

/-- **What a store answers.** -/
inductive Answer where
  /-- A value. -/
  | value (value : Json)
  /-- A change was made. -/
  | done
  /-- Whether a key is there. -/
  | truth (found : Bool)
  /-- The keys in order. -/
  | names (keys : List String)
  /-- A fault. -/
  | fault (fault : StoreFault)

variable {σ : Type} [Store σ]

/-- The answer to a request for a value. -/
def Answer.ofGet : Except StoreFault Json → Answer
  | .ok found => .value found
  | .error refusal => .fault refusal

/-- The answer to a request for a change, and the store that the change left. -/
def Answer.ofChange : EStateM.Result StoreFault σ Unit → Answer × σ
  | .ok _ after => (.done, after)
  | .error refusal after => (.fault refusal, after)

/-- **One request**: the answer, and the store after it. -/
def reply (store : σ) : Request → Answer × σ
  | .get key => (.ofGet (get store key), store)
  | .set key value => Answer.ofChange (write key value store)
  | .remove key => Answer.ofChange (erase key store)
  | .contains key => (.truth (contains store key), store)
  | .keys => (.names (keys store), store)

/-- **The answers** to requests made one after the other. -/
def answers : σ → List Request → List Answer
  | _, [] => []
  | store, request :: requests =>
    (reply store request).1 :: answers (reply store request).2 requests

end Store

/-! ## Tables of names -/

/-- **A table made of names** has these names. -/
theorem Table.get?_ofNames (names : List String) (name : String) :
    (Table.ofFields (names.map (·, ()))).get? name = if name ∈ names then some () else none := by
  suffices hgrow : ∀ table : Table Unit,
      ((names.map (·, ())).foldl (fun acc entry => acc.insert entry.1 entry.2) table).get? name
        = if name ∈ names then some () else table.get? name from hgrow Table.empty
  induction names with
  | nil => exact fun _ => rfl
  | cons first names ih =>
    intro table
    rw [List.map_cons, List.foldl_cons, ih, Table.get?_insert]
    by_cases hmem : name ∈ names
    · rw [if_pos hmem, if_pos (List.mem_cons_of_mem _ hmem)]
    · simp [hmem]

/-- **A cut at a character** is made where it first stands. -/
theorem Text.cut?_append {mark : Char} {before : List Char} (after : List Char)
    (h : mark ∉ before) : cut? [mark] (before ++ mark :: after) = some (before, after) := by
  induction before with
  | nil => simp [cut?, dropMark?]
  | cons c cs ih =>
    obtain ⟨hc, hcs⟩ := not_or.1 fun hmem => h (List.mem_cons.2 hmem)
    simp [cut?, dropMark?, hc, ih hcs]

namespace DirStore

/-! ## Keys and the names of their files -/

theorem toList_fileName (key : String) :
    (fileName key).toList = key.toList ++ '.' :: extension.toList := by
  rw [fileName, String.toList_append, String.toList_append, List.append_assoc]
  rfl

/-- **Different keys name different files.** -/
theorem fileName_inj {key other : String} : fileName key = fileName other ↔ key = other := by
  refine ⟨fun h => ?_, congrArg fileName⟩
  have hlist := congrArg String.toList h
  rw [toList_fileName, toList_fileName] at hlist
  exact String.toList_inj.1 (List.append_cancel_right hlist)

/-- The last point of the name of a file is the one that the ending follows. -/
theorem cutExtension?_append (stem ending : List Char) (h : '.' ∉ ending) :
    cutExtension? (stem ++ '.' :: ending) = some (ending, stem) := by
  rw [cutExtension?, List.reverse_append, List.reverse_cons, List.append_assoc,
    List.singleton_append, Text.cut?_append _ (by rwa [List.mem_reverse])]
  simp

theorem eq_of_cutExtension? {name ending stem : List Char}
    (h : cutExtension? name = some (ending, stem)) : name = stem ++ '.' :: ending := by
  obtain ⟨⟨before, after⟩, hcut, heq⟩ := Option.map_eq_some_iff.1 h
  obtain ⟨rfl, rfl⟩ := Prod.mk.inj heq
  have hname := congrArg List.reverse (Text.cut?_eq_some hcut)
  simpa using hname

/-- **The key of a file** is the one that names it; no file has the empty key. -/
theorem keyOf?_eq_some_iff {name key : String} :
    keyOf? name = some key ↔ key ≠ "" ∧ name = fileName key := by
  constructor
  · intro h
    rw [keyOf?] at h
    split at h
    · next ending stem hcut =>
      split at h
      · next hparts =>
        obtain ⟨rfl, hstem⟩ := hparts
        obtain rfl := Option.some.inj h
        refine ⟨fun hempty => hstem (by simpa using hempty), String.toList_inj.1 ?_⟩
        rw [toList_fileName, String.toList_ofList, eq_of_cutExtension? hcut]
      · cases h
    · cases h
  · rintro ⟨hkey, rfl⟩
    have hstem : key.toList ≠ [] := fun hnil => hkey (String.toList_inj.1 hnil)
    rw [keyOf?, toList_fileName, cutExtension?_append _ _ (by decide)]
    simp [hstem]

/-! ## A directory that mirrors a table -/

/-- **A key that names a file within reach.** -/
def Serves (dir : DirStore) (key : String) : Prop :=
  isKey key = true ∧ dir.reaches (fileName key) = true

instance (dir : DirStore) (key : String) : Decidable (dir.Serves key) :=
  inferInstanceAs (Decidable (_ ∧ _))

/-- **What a directory holds of a table**: under the name of the file of each key the text of its
value.  The table has values and keys that a directory can keep. -/
structure Mirrors (dir : DirStore) (memory : MemoryStore) : Prop where
  /-- Each file holds the text of the value of its key. -/
  files : ∀ key, dir.entries.get? (fileName key)
    = (memory.values.get? key).map fun value => .file value.prettyText
  /-- Each key names a file, and its value reads back. -/
  kept : ∀ {key value}, memory.values.get? key = some value →
    isKey key = true ∧ value.Rereadable

namespace Mirrors

variable {dir : DirStore} {memory : MemoryStore} {key : String}

/-- An empty directory mirrors a new table. -/
theorem empty (h : dir.entries = Table.empty) : dir.Mirrors MemoryStore.empty :=
  ⟨fun _ => by rw [h]; rfl, fun hkept => by cases hkept⟩

/-- What stands under the name of the file of a key that is served. -/
theorem entry? (h : dir.Mirrors memory) (hkey : dir.Serves key) :
    dir.entry? key = .ok ((memory.values.get? key).map fun value => .file value.prettyText) := by
  rw [DirStore.entry?, if_pos hkey.1, if_pos hkey.2, h.files]

/-- **The same value** is found, or the same fault. -/
theorem get (h : dir.Mirrors memory) (hkey : dir.Serves key) :
    Store.get dir key = Store.get memory key := by
  show dir.get key = _
  rw [DirStore.get, h.entry? hkey]
  cases hvalue : memory.values.get? key with
  | none => simp only [Store.get, hvalue, Option.map_none]
  | some value =>
    simp only [Store.get, hvalue, Option.map_some, Json.read?_prettyText (h.kept hvalue).2]

/-- A file written under the name of a key mirrors the value stored under the key. -/
theorem insert (h : dir.Mirrors memory) (hkey : isKey key = true) {value : Json}
    (hvalue : value.Rereadable) :
    Mirrors { dir with entries := dir.entries.insert (fileName key) (.file value.prettyText) }
      ⟨memory.values.insert key value⟩ := by
  refine ⟨fun other => ?_, fun {other found} hfound => ?_⟩
  · simp only [Table.get?_insert, fileName_inj]
    split
    · rfl
    · exact h.files other
  · rw [Table.get?_insert] at hfound
    split at hfound
    · next heq =>
      subst heq
      obtain rfl := Option.some.inj hfound
      exact ⟨hkey, hvalue⟩
    · exact h.kept hfound

/-- A file deleted under the name of a key mirrors the removal of the key. -/
theorem erase (h : dir.Mirrors memory) (key : String) :
    Mirrors { dir with entries := dir.entries.erase (fileName key) }
      ⟨memory.values.erase key⟩ := by
  refine ⟨fun other => ?_, fun {other found} hfound => ?_⟩
  · simp only [Table.get?_erase, fileName_inj]
    split
    · rfl
    · exact h.files other
  · rw [Table.get?_erase] at hfound
    split at hfound
    · cases hfound
    · exact h.kept hfound

/-- **A value is stored**, whatever stood under its key. -/
theorem set (h : dir.Mirrors memory) (hkey : dir.Serves key) (value : Json) :
    Store.write key value dir
      = .ok () { dir with entries := dir.entries.insert (fileName key) (.file value.prettyText) } := by
  show Store.wholly (fun dir : DirStore => dir.set key value) dir = _
  rw [Store.wholly, DirStore.set, h.entry? hkey]
  cases memory.values.get? key <;> rfl

/-- **A key is removed** if the table has it; a missing one is the fault that it is there. -/
theorem remove (h : dir.Mirrors memory) (hkey : dir.Serves key) :
    Store.erase key dir
      = if memory.values.has key then
          .ok () { dir with entries := dir.entries.erase (fileName key) }
        else .error (.notFound key) dir := by
  show Store.wholly (fun dir : DirStore => dir.remove key) dir = _
  rw [Store.wholly, DirStore.remove, h.entry? hkey, Table.has]
  cases memory.values.get? key <;> rfl

/-- A key is listed by the directory if the table has it. -/
theorem mem_keys (h : dir.Mirrors memory) (key : String) :
    key ∈ dir.entries.keys.filterMap keyOf? ↔ (memory.values.get? key).isSome = true := by
  have hfile : fileName key ∈ dir.entries.keys ↔ (memory.values.get? key).isSome = true := by
    have hfiles := congrArg Option.isSome (h.files key)
    rw [Option.isSome_map] at hfiles
    rw [← hfiles]
    exact Fields.has_iff_mem_keys.symm
  constructor
  · intro hmem
    obtain ⟨name, hname, hkey⟩ := List.mem_filterMap.1 hmem
    obtain ⟨-, rfl⟩ := keyOf?_eq_some_iff.1 hkey
    exact hfile.1 hname
  · intro hfound
    obtain ⟨value, hvalue⟩ := Option.isSome_iff_exists.1 hfound
    have hempty : key ≠ "" := by
      rintro rfl
      exact absurd (h.kept hvalue).1 (by decide)
    exact List.mem_filterMap.2 ⟨_, hfile.2 hfound, keyOf?_eq_some_iff.2 ⟨hempty, rfl⟩⟩

/-- **The same keys** are listed, in the same order. -/
theorem keys (h : dir.Mirrors memory) : Store.keys dir = Store.keys memory := by
  have htable : Table.ofFields ((dir.entries.keys.filterMap keyOf?).map (·, ()))
      = memory.values.map fun _ => () := Table.ext_get? fun key => by
    rw [Table.get?_ofNames, Table.get?_map]
    cases hvalue : memory.values.get? key with
    | none => rw [if_neg (by rw [h.mem_keys, hvalue]; exact Bool.false_ne_true)]; rfl
    | some value => rw [if_pos (by rw [h.mem_keys, hvalue]; rfl)]; rfl
  show (Table.ofFields _).keys = memory.values.keys
  rw [htable, Table.keys_map]

/-- **The same keys** are there. -/
theorem contains (h : dir.Mirrors memory) (key : String) :
    Store.contains dir key = Store.contains memory key := by
  show (Store.keys dir).contains key = memory.values.has key
  rw [h.keys]
  exact Bool.eq_iff_iff.2 (List.contains_iff_mem.trans Fields.has_iff_mem_keys.symm)

end Mirrors

end DirStore

/-! ## Runs -/

/-- **A request that a directory serves**: its key names a file within reach, so that no operation
on the file fails, and the value that it stores reads back. -/
def Store.Request.Fits (dir : DirStore) : Store.Request → Prop
  | .get key => dir.Serves key
  | .set key value => dir.Serves key ∧ value.Rereadable
  | .remove key => dir.Serves key
  | .contains _ => True
  | .keys => True

namespace DirStore

variable {dir : DirStore} {memory : MemoryStore}

/-- **One request** gets the same answer from both, and the directory mirrors the table again. -/
theorem Mirrors.reply (h : dir.Mirrors memory) {request : Store.Request}
    (hfits : request.Fits dir) :
    (Store.reply dir request).1 = (Store.reply memory request).1
    ∧ (Store.reply dir request).2.Mirrors (Store.reply memory request).2
    ∧ (Store.reply dir request).2.lead = dir.lead := by
  cases request with
  | get key => exact ⟨congrArg Store.Answer.ofGet (h.get hfits), h, rfl⟩
  | set key value =>
    rw [Store.reply, h.set hfits.1]
    exact ⟨rfl, h.insert hfits.1.1 hfits.2, rfl⟩
  | remove key =>
    have hmemory : Store.erase key memory
        = if memory.values.has key then .ok () ⟨memory.values.erase key⟩
          else .error (.notFound key) memory := rfl
    rw [Store.reply, Store.reply, h.remove hfits, hmemory]
    split
    · exact ⟨rfl, h.erase key, rfl⟩
    · exact ⟨rfl, h, rfl⟩
  | contains key => exact ⟨congrArg Store.Answer.truth (h.contains key), h, rfl⟩
  | keys => exact ⟨congrArg Store.Answer.names h.keys, h, rfl⟩

/-- What a directory serves depends on the length of its path alone. -/
theorem fits_of_lead {other : DirStore} (h : other.lead = dir.lead) {request : Store.Request}
    (hfits : request.Fits dir) : request.Fits other := by
  have hserves : ∀ {key}, dir.Serves key → other.Serves key := fun hkey =>
    ⟨hkey.1, by rw [reaches, h]; exact hkey.2⟩
  cases request with
  | get key => exact hserves hfits
  | set key value => exact ⟨hserves hfits.1, hfits.2⟩
  | remove key => exact hserves hfits
  | contains key => trivial
  | keys => trivial

/-- **A directory answers as the table that it mirrors**, to one request after the other. -/
theorem Mirrors.answers (h : dir.Mirrors memory) {requests : List Store.Request}
    (hfits : ∀ request ∈ requests, request.Fits dir) :
    Store.answers dir requests = Store.answers memory requests := by
  induction requests generalizing dir memory with
  | nil => rfl
  | cons request requests ih =>
    obtain ⟨hanswer, hmirrors, hlead⟩ := h.reply (hfits request List.mem_cons_self)
    have hrest := ih hmirrors fun other hother =>
      fits_of_lead hlead (hfits other (List.mem_cons_of_mem _ hother))
    rw [Store.answers, Store.answers, hanswer, hrest]

/-- **The two stores are interchangeable**: a directory that begins empty answers every list of
requests as a new table in memory does. -/
theorem interchangeable (hempty : dir.entries = Table.empty) {requests : List Store.Request}
    (hfits : ∀ request ∈ requests, request.Fits dir) :
    Store.answers dir requests = Store.answers MemoryStore.empty requests :=
  (Mirrors.empty hempty).answers hfits

/-- An object with an escaped text, an empty list and an empty object. -/
def page : Json := .obj [("z", .arr []), ("q", .str "\"\n\\\x01"), ("b", .obj [])]

/-- A list with the least number. -/
def column : Json := .arr [.int (-9223372036854775808), .null]

/-- Requests under two keys, whose files come in another order than the keys. -/
def ledger : List Store.Request :=
  [.set "a" page, .set "a-b.c" column, .keys, .get "a", .get "a-b.c", .contains "a-b",
    .remove "a-b.c", .get "a-b.c", .remove "a-b.c", .keys]

theorem interchangeable_ledger :
    (∀ request ∈ ledger, request.Fits DirStore.empty)
    ∧ Store.answers DirStore.empty ledger
      = [.done, .done, .names ["a", "a-b.c"], .value page, .value column, .truth false, .done,
        .fault (.notFound "a-b.c"), .fault (.notFound "a-b.c"), .names ["a"]] := by
  have hpage : page.Rereadable := by
    refine ⟨?_, ?_, by decide⟩
    · simp [page, Json.WellFormed, Json.WellFormedFields, Json.WellFormedItems, Fields.Distinct,
        Fields.keys]
    · simp [page, Json.Integral, Json.IntegralFields, Json.IntegralItems]
  have hcolumn : column.Rereadable := by
    refine ⟨?_, ?_, by decide⟩
    · simp [column, Json.WellFormed, Json.WellFormedItems]
    · simp [column, Json.Integral, Json.IntegralItems, Json.Reader.maxNegated,
        Text.Numeral.max64]
  have hshort : DirStore.empty.Serves "a" := by decide +kernel
  have hlong : DirStore.empty.Serves "a-b.c" := by decide +kernel
  have hfits : ∀ request ∈ ledger, request.Fits DirStore.empty := by
    simp only [ledger, List.forall_mem_cons, Store.Request.Fits]
    simp [hpage, hcolumn, hshort, hlong]
  exact ⟨hfits, (interchangeable rfl hfits).trans rfl⟩

end DirStore

end Narrative
