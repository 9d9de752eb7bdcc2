import Mathlib.Data.List.Perm.Subperm
import Narrative.Condition
import Narrative.Proofs.Shadowed

/-!
# Proofs/Conditions — conditions are read by their grammar and mean what they say

`Condition.Grammar` generates the values that are conditions, and `Condition.Holds` says what such a
value means, by recursion on the value and without the conditions that it is read as.  Reading
accepts the values of the grammar and no others, and evaluating what was read decides the meaning
(`reads_grammar_with_meaning`).

One item that is no condition spoils the list that it stands in, and so every condition around it.
Values are compared as values of documents, in which an object has its names in any order
(`Json.Equal`, `Json.same_iff_equal`).
-/

namespace Narrative

/-! ## Equality -/

namespace Json

/-- **Equality of values**: objects are equal if they have the same names, with equal values under
each, and doubles if they are equal as numbers. -/
inductive Equal : Json → Json → Prop
  | null : Equal .null .null
  | bool (b : Bool) : Equal (.bool b) (.bool b)
  | int (n : Int) : Equal (.int n) (.int n)
  | float {x y : Double} (h : x = y ∨ x.isZero = true ∧ y.isZero = true) :
      Equal (.float x) (.float y)
  | str (text : String) : Equal (.str text) (.str text)
  | arr {xs ys : List Json} (items : List.Forall₂ Equal xs ys) : Equal (.arr xs) (.arr ys)
  | obj {xs ys : Fields Json} (names : ∀ name, name ∈ Fields.keys xs ↔ name ∈ Fields.keys ys)
      (values : ∀ name x y, Fields.get? xs name = some x → Fields.get? ys name = some y →
        Equal x y) : Equal (.obj xs) (.obj ys)

/-- Objects of distinct names have the same names if there are as many and those of one are among
those of the other. -/
theorem mem_keys_iff_of_subset {xs ys : Fields Json} (hxs : Fields.Distinct xs)
    (hsubset : Fields.keys xs ⊆ Fields.keys ys) (hlength : xs.length = ys.length) (name : String) :
    name ∈ Fields.keys xs ↔ name ∈ Fields.keys ys := by
  have hlengths : (Fields.keys ys).length ≤ (Fields.keys xs).length := by
    simp [Fields.keys, hlength]
  exact ((List.subperm_of_subset hxs hsubset).perm_of_length_le hlengths).mem_iff

/-- **Objects of distinct names are equal** if they have as many fields and each field of one has an
equal value in the other. -/
theorem equal_obj_iff {xs ys : Fields Json} (hxs : Fields.Distinct xs) (hys : Fields.Distinct ys) :
    Equal (.obj xs) (.obj ys) ↔ xs.length = ys.length
      ∧ ∀ field ∈ xs, ∃ y, Fields.get? ys field.1 = some y ∧ Equal field.2 y := by
  constructor
  · rintro (_ | _ | _ | _ | _ | _ | ⟨names, values⟩)
    have hperm := (List.perm_ext_iff_of_nodup hxs hys).2 names
    refine ⟨by simpa [Fields.keys] using hperm.length_eq, fun field hfield => ?_⟩
    have hname := (names field.1).1 (List.mem_map_of_mem hfield)
    obtain ⟨y, hy⟩ := Option.isSome_iff_exists.1 (Fields.has_iff_mem_keys.2 hname)
    exact ⟨y, hy, values field.1 field.2 y (Fields.get?_of_mem hxs hfield) hy⟩
  · rintro ⟨hlength, hfields⟩
    refine .obj (mem_keys_iff_of_subset hxs (fun name hname => ?_) hlength) ?_
    · obtain ⟨field, hfield, rfl⟩ := List.mem_map.1 hname
      obtain ⟨y, hy, -⟩ := hfields field hfield
      exact Fields.has_iff_mem_keys.1 (Option.isSome_of_eq_some hy)
    · intro name x y hx hy
      obtain ⟨found, hfound, hequal⟩ := hfields (name, x) (Fields.mem_of_get? hx)
      exact Option.some.inj (hfound.symm.trans hy) ▸ hequal

mutual

/-- **Comparing values decides their equality**, where no object has a name twice. -/
theorem same_iff_equal : ∀ (x y : Json), x.WellFormed → y.WellFormed →
    (x.same y = true ↔ Equal x y)
  | .null, y, _, _ => by
    cases y with
    | null => exact iff_of_true rfl .null
    | _ => exact iff_of_false Bool.false_ne_true nofun
  | .bool a, y, _, _ => by
    cases y with
    | bool b =>
      rw [same, beq_iff_eq]
      exact ⟨fun h => h ▸ .bool a, fun h => by cases h; rfl⟩
    | _ => exact iff_of_false Bool.false_ne_true nofun
  | .int a, y, _, _ => by
    cases y with
    | int b =>
      rw [same, beq_iff_eq]
      exact ⟨fun h => h ▸ .int a, fun h => by cases h; rfl⟩
    | _ => exact iff_of_false Bool.false_ne_true nofun
  | .float a, y, _, _ => by
    cases y with
    | float b =>
      rw [same, Double.same, Bool.or_eq_true, beq_iff_eq, Bool.and_eq_true]
      exact ⟨.float, fun h => by cases h; assumption⟩
    | _ => exact iff_of_false Bool.false_ne_true nofun
  | .str a, y, _, _ => by
    cases y with
    | str b =>
      rw [same, beq_iff_eq]
      exact ⟨fun h => h ▸ .str a, fun h => by cases h; rfl⟩
    | _ => exact iff_of_false Bool.false_ne_true nofun
  | .arr xs, y, hx, hy => by
    cases y with
    | arr ys =>
      rw [same, sameItems_iff xs ys hx hy]
      exact ⟨.arr, fun h => by cases h; assumption⟩
    | _ => exact iff_of_false Bool.false_ne_true nofun
  | .obj xs, y, hx, hy => by
    cases y with
    | obj ys =>
      rw [same, Bool.and_eq_true, beq_iff_eq, sameFields_iff xs ys hx.2 hy.2,
        equal_obj_iff hx.1 hy.1]
    | _ => exact iff_of_false Bool.false_ne_true nofun

/-- Comparing lists decides whether their items are equal, one by one. -/
theorem sameItems_iff : ∀ (xs ys : List Json), WellFormedItems xs → WellFormedItems ys →
    (sameItems xs ys = true ↔ List.Forall₂ Equal xs ys)
  | [], [], _, _ => iff_of_true rfl .nil
  | [], _ :: _, _, _ => iff_of_false Bool.false_ne_true nofun
  | _ :: _, [], _, _ => iff_of_false Bool.false_ne_true nofun
  | x :: xs, y :: ys, hx, hy => by
    rw [sameItems, Bool.and_eq_true, same_iff_equal x y hx.1 hy.1, sameItems_iff xs ys hx.2 hy.2,
      List.forall₂_cons]

/-- Comparing the fields of one object with another decides whether each has an equal value
there. -/
theorem sameFields_iff : ∀ (xs ys : Fields Json), WellFormedFields xs → WellFormedFields ys →
    (sameFields xs ys = true ↔ ∀ field ∈ xs, ∃ y, Fields.get? ys field.1 = some y
      ∧ Equal field.2 y)
  | [], _, _, _ => iff_of_true rfl (List.forall_mem_nil _)
  | (name, x) :: xs, ys, hx, hy => by
    rw [sameFields, Bool.and_eq_true, sameFields_iff xs ys hx.2 hy, List.forall_mem_cons]
    refine and_congr_left fun _ => ?_
    cases hfound : Fields.get? ys name with
    | none => simp
    | some y =>
      have hvalue : y.WellFormed := Json.wellFormed_of_mem_fields hy (Fields.mem_of_get? hfound)
      simp [same_iff_equal x y hx.1 hvalue]

end

end Json

namespace Condition

/-! ## The grammar -/

/-- **The values that are conditions.** -/
inductive Grammar : Json → Prop
  /-- A truth value. -/
  | bool (b : Bool) : Grammar (.bool b)
  /-- A path, or a negated one. -/
  | path (text : String) : Grammar (.str text)
  /-- A negation. -/
  | not {value : Json} (h : Grammar value) : Grammar (.obj [("not", value)])
  /-- A conjunction. -/
  | all {items : List Json} (h : ∀ item ∈ items, Grammar item) :
      Grammar (.obj [("all", .arr items)])
  /-- A disjunction. -/
  | any {items : List Json} (h : ∀ item ∈ items, Grammar item) :
      Grammar (.obj [("any", .arr items)])
  /-- A comparison. -/
  | equals (path : String) (value : Json) : Grammar (.obj [("equals", .arr [.str path, value])])

/-! ## The meaning -/

/-- **A zero**: an integer or a double of either sign. -/
def IsZero (value : Json) : Prop :=
  value = .int 0 ∨ ∃ x : Double, value = .float x ∧ x.isZero = true

/-- **A path is truthy** if it leads to something other than null, false, a zero and the empty
text. -/
def Truthy (storage : Storage) (path : String) : Prop :=
  ∃ value, storage.resolve? path = some value
    ∧ value ≠ .null ∧ value ≠ .bool false ∧ ¬IsZero value ∧ value ≠ .str ""

mutual

/-- **What a value means** as a condition on the storage. -/
def Holds (storage : Storage) : Json → Prop
  | .bool b => b = true
  | .str text =>
    match text.toList with
    | '!' :: rest => ¬Truthy storage (String.ofList rest)
    | _ => Truthy storage text
  | .obj [("not", value)] => ¬Holds storage value
  | .obj [("all", .arr items)] => AllHold storage items
  | .obj [("any", .arr items)] => AnyHolds storage items
  | .obj [("equals", .arr [.str path, value])] =>
    ∃ found, storage.resolve? path = some found ∧ found.same value = true
  | _ => False

/-- Every item holds. -/
def AllHold (storage : Storage) : List Json → Prop
  | [] => True
  | item :: items => Holds storage item ∧ AllHold storage items

/-- Some item holds. -/
def AnyHolds (storage : Storage) : List Json → Prop
  | [] => False
  | item :: items => Holds storage item ∨ AnyHolds storage items

end

section Evaluation

variable {storage : Storage} {value : Json} {condition : Condition} {items : List Json}

theorem isTruthy_iff : isTruthy value = true
    ↔ value ≠ .null ∧ value ≠ .bool false ∧ ¬IsZero value ∧ value ≠ .str "" := by
  cases value <;> simp [isTruthy, IsZero]

theorem evaluate_truthy {path : String} :
    (truthy path).evaluate storage = true ↔ Truthy storage path := by
  rw [evaluate, Option.any_eq_true]
  exact exists_congr fun value => and_congr_right fun _ => isTruthy_iff

theorem evaluate_equals {path : String} : (equals path value).evaluate storage = true
    ↔ Holds storage (.obj [("equals", .arr [.str path, value])]) := by
  rw [evaluate, Option.any_eq_true, Holds]

/-- **A text** means its path, negated behind an exclamation mark. -/
theorem evaluate_ofPath (text : String) :
    (ofPath text).evaluate storage = true ↔ Holds storage (.str text) := by
  rw [Holds]
  split
  · next rest hrest =>
    have hstrip : Text.stripStart? text "!" = some (String.ofList rest) := by
      rw [Text.stripStart?, hrest]
      rfl
    rw [ofPath, hstrip, evaluate, Bool.not_eq_true', ← Bool.not_eq_true, evaluate_truthy]
  · next hplain =>
    have hstrip : Text.stripStart? text "!" = none := by
      rw [Text.stripStart?, Option.map_eq_none_iff, Option.eq_none_iff_forall_ne_some]
      exact fun rest hrest => hplain rest (Text.dropMark?_eq_some.1 hrest)
    rw [ofPath, hstrip, evaluate_truthy]

/-- **A conjunction** means that every item does. -/
theorem allHold_iff : AllHold storage items ↔ ∀ item ∈ items, Holds storage item := by
  induction items with
  | nil => simp [AllHold]
  | cons item items ih => rw [AllHold, ih, List.forall_mem_cons]

/-- **A disjunction** means that some item does. -/
theorem anyHolds_iff : AnyHolds storage items ↔ ∃ item ∈ items, Holds storage item := by
  induction items with
  | nil => simp [AnyHolds]
  | cons item items ih => rw [AnyHolds, ih, List.exists_mem_cons_iff]

end Evaluation

/-! ## Reading -/

/-- **A condition decides what a value means**, whatever is stored. -/
def Decides (condition : Condition) (value : Json) : Prop :=
  ∀ storage, condition.evaluate storage = true ↔ Holds storage value

section Reading

variable {value : Json} {condition : Condition} {items : List Json}

/-- **Items that are conditions** are read, and combined they mean what the items do. -/
theorem exists_ofItems?
    (h : ∀ item ∈ items, ∃ condition, ofJson? item = some condition ∧ condition.Decides item) :
    ∃ conditions, ofItems? items = some conditions ∧ ∀ storage,
      (evaluateAll storage conditions = true ↔ AllHold storage items)
        ∧ (evaluateAny storage conditions = true ↔ AnyHolds storage items) := by
  induction items with
  | nil => exact ⟨[], rfl, fun storage => by simp [evaluateAll, evaluateAny, AllHold, AnyHolds]⟩
  | cons item items ih =>
    obtain ⟨⟨condition, hread, hdecides⟩, hitems⟩ := List.forall_mem_cons.1 h
    obtain ⟨conditions, hreads, hmeans⟩ := ih hitems
    refine ⟨condition :: conditions, by simp [ofItems?, hread, hreads], fun storage => ⟨?_, ?_⟩⟩
    · rw [evaluateAll, Bool.and_eq_true, hdecides storage, (hmeans storage).1, AllHold]
    · rw [evaluateAny, Bool.or_eq_true, hdecides storage, (hmeans storage).2, AnyHolds]

/-- **A value of the grammar is read**, as a condition that decides what it means.  The induction is
on how the value was generated. -/
theorem Grammar.reads (h : Grammar value) :
    ∃ condition, ofJson? value = some condition ∧ condition.Decides value := by
  induction h with
  | bool b =>
    cases b
    · exact ⟨_, rfl, fun storage => by simp [evaluate, Holds]⟩
    · exact ⟨_, rfl, fun storage => by simp [evaluate, Holds]⟩
  | path text => exact ⟨_, rfl, fun storage => evaluate_ofPath text⟩
  | not _ ih =>
    obtain ⟨condition, hread, hdecides⟩ := ih
    refine ⟨.not condition, by simp [ofJson?, hread], fun storage => ?_⟩
    rw [evaluate, Bool.not_eq_true', ← Bool.not_eq_true, hdecides storage, Holds]
  | all _ ih =>
    obtain ⟨conditions, hreads, hmeans⟩ := exists_ofItems? ih
    refine ⟨.all conditions, by simp [ofJson?, ofList?, hreads], fun storage => ?_⟩
    rw [evaluate, (hmeans storage).1, Holds]
  | any _ ih =>
    obtain ⟨conditions, hreads, hmeans⟩ := exists_ofItems? ih
    refine ⟨.any conditions, by simp [ofJson?, ofList?, hreads], fun storage => ?_⟩
    rw [evaluate, (hmeans storage).2, Holds]
  | equals path value => exact ⟨_, by simp [ofJson?, ofPair?], fun storage => evaluate_equals⟩

/-- What is read as a list of conditions is a list. -/
theorem exists_of_ofList? {conditions : List Condition} (h : ofList? value = some conditions) :
    ∃ items, value = .arr items ∧ ofItems? items = some conditions := by
  cases value with
  | arr items => exact ⟨items, rfl, h⟩
  | _ => cases h

/-- What is read as a comparison is a list of a path and a value. -/
theorem exists_of_ofPair? (h : ofPair? value = some condition) :
    ∃ path expected, value = .arr [.str path, expected] := by
  unfold ofPair? at h
  split at h
  · next path expected => exact ⟨path, expected, rfl⟩
  · cases h

mutual

/-- **What is read is a value of the grammar.** -/
theorem grammar_of_ofJson? : ∀ {value : Json} {condition : Condition},
    ofJson? value = some condition → Grammar value
  | .bool b, _, _ => .bool b
  | .str text, _, _ => .path text
  | .obj [(name, value)], condition, h => by
    rw [ofJson?] at h
    split at h
    · next hname =>
      obtain ⟨inner, hread, -⟩ := Option.map_eq_some_iff.1 h
      exact hname ▸ .not (grammar_of_ofJson? hread)
    · split at h
      · next hname =>
        obtain ⟨conditions, hread, -⟩ := Option.map_eq_some_iff.1 h
        obtain ⟨items, rfl, hreads⟩ := exists_of_ofList? hread
        exact hname ▸ .all (grammar_of_ofItems? hreads)
      · split at h
        · next hname =>
          obtain ⟨conditions, hread, -⟩ := Option.map_eq_some_iff.1 h
          obtain ⟨items, rfl, hreads⟩ := exists_of_ofList? hread
          exact hname ▸ .any (grammar_of_ofItems? hreads)
        · split at h
          · next hname =>
            obtain ⟨path, expected, rfl⟩ := exists_of_ofPair? h
            exact hname ▸ .equals path expected
          · cases h
  | .null, _, h => by cases h
  | .int _, _, h => by cases h
  | .float _, _, h => by cases h
  | .arr _, _, h => by cases h
  | .obj [], _, h => by cases h
  | .obj (_ :: _ :: _), _, h => by cases h

/-- What is read as a list has items of the grammar. -/
theorem grammar_of_ofItems? : ∀ {items : List Json} {conditions : List Condition},
    ofItems? items = some conditions → ∀ item ∈ items, Grammar item
  | [], _, _ => List.forall_mem_nil _
  | item :: items, conditions, h => by
    obtain ⟨condition, hread, hrest⟩ := Option.bind_eq_some_iff.1 h
    obtain ⟨rest, hreads, -⟩ := Option.bind_eq_some_iff.1 hrest
    exact List.forall_mem_cons.2 ⟨grammar_of_ofJson? hread, grammar_of_ofItems? hreads⟩

end

end Reading

/-- **Conditions are read by their grammar and mean what they say.**  A value is read as a condition
if the grammar generates it, and only then.  Whatever is stored, evaluating the condition decides
what the value means.  What stands behind `equals` is compared by the equality of values. -/
theorem reads_grammar_with_meaning (value : Json) :
    ((∃ condition, ofJson? value = some condition) ↔ Grammar value)
      ∧ (∀ condition, ofJson? value = some condition → ∀ storage : Storage,
        condition.evaluate storage = true ↔ Holds storage value)
      ∧ ∀ found expected : Json, found.WellFormed → expected.WellFormed →
        (found.same expected = true ↔ Json.Equal found expected) := by
  refine ⟨⟨fun ⟨condition, hread⟩ => grammar_of_ofJson? hread, fun h => ?_⟩, ?_,
    Json.same_iff_equal⟩
  · obtain ⟨condition, hread, -⟩ := h.reads
    exact ⟨condition, hread⟩
  · intro condition hread
    obtain ⟨found, hfound, hdecides⟩ := (grammar_of_ofJson? hread).reads
    obtain rfl := Option.some.inj (hfound.symm.trans hread)
    exact hdecides

/-- Whoever has no coat, or a guide who is not the owner's. -/
def coatless : Json :=
  .obj [("any", .arr [.str "!coat",
    .obj [("all", .arr [.str "guide.name",
      .obj [("not", .obj [("equals", .arr [.str "guide.name", .str "Ada"])])]])]])]

/-- A guest in a coat with another guide may pass; and a guide is the same whichever of the fields
comes first. -/
theorem reads_grammar_with_meaning_coatless :
    Grammar coatless
      ∧ Holds ⟨[("coat", .int 1), ("guide", .obj [("name", .str "Bo")])]⟩ coatless
      ∧ ¬Holds ⟨[("coat", .int 1), ("guide", .obj [("name", .str "Ada")])]⟩ coatless
      ∧ Json.Equal (.obj [("name", .str "Bo"), ("coat", .null)])
          (.obj [("coat", .null), ("name", .str "Bo")]) := by
  obtain ⟨condition, hread⟩ : ∃ condition, ofJson? coatless = some condition := ⟨_, rfl⟩
  obtain ⟨hgrammar, hmeans, hequal⟩ := reads_grammar_with_meaning coatless
  refine ⟨hgrammar.1 ⟨condition, hread⟩, (hmeans condition hread _).1 ?_, fun h => ?_,
    (hequal _ _ ?_ ?_).1 ?_⟩
  · obtain rfl := Option.some.inj hread
    decide +kernel
  · have hevaluate := (hmeans condition hread _).2 h
    obtain rfl := Option.some.inj hread
    exact absurd hevaluate (by decide +kernel)
  · simp [Json.WellFormed, Json.WellFormedFields, Fields.Distinct, Fields.keys]
  · simp [Json.WellFormed, Json.WellFormedFields, Fields.Distinct, Fields.keys]
  · decide +kernel

end Condition

end Narrative
