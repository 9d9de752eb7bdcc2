/-!
# Text/Cut — finding a mark in a text and cutting at it

Texts are cut at the first occurrence of a **mark**, and split at every occurrence of a separating
character.  The lists returned lose nothing: `cut?_eq_some` puts the two sides back together.
-/

namespace Narrative.Text

/-- What follows `mark` when the characters begin with it. -/
def dropMark? : List Char → List Char → Option (List Char)
  | [], cs => some cs
  | _ :: _, [] => none
  | m :: mark, c :: cs => if m = c then dropMark? mark cs else none

/-- **The cut**: what stands before the first occurrence of `mark`, and what stands after it. -/
def cut? (mark : List Char) : List Char → Option (List Char × List Char)
  | [] => (dropMark? mark []).map fun after => ([], after)
  | c :: cs =>
    match dropMark? mark (c :: cs) with
    | some after => some ([], after)
    | none => (cut? mark cs).map fun (before, after) => (c :: before, after)

/-- Whether `mark` occurs. -/
def occurs (mark cs : List Char) : Bool := (cut? mark cs).isSome

/-- Whether one text occurs in another. -/
def contains (text mark : String) : Bool := occurs mark.toList text.toList

/-- What follows `mark` when the text begins with it. -/
def stripStart? (text mark : String) : Option String :=
  (dropMark? mark.toList text.toList).map String.ofList

/-- The text before and after the first occurrence of `mark`. -/
def splitOnce? (text mark : String) : Option (String × String) :=
  (cut? mark.toList text.toList).map fun (before, after) =>
    (String.ofList before, String.ofList after)

/-- The stretches between the occurrences of a separating character; there is always one. -/
def stretches (separator : Char) : List Char → List (List Char)
  | [] => [[]]
  | c :: cs =>
    if c = separator then [] :: stretches separator cs
    else match stretches separator cs with
      | [] => [[c]]
      | first :: more => (c :: first) :: more

/-- A text split at every occurrence of a character. -/
def splitAt (text : String) (separator : Char) : List String :=
  (stretches separator text.toList).map String.ofList

/-- Texts put one after the other, with `separator` between them. -/
def join (separator : String) : List String → String
  | [] => ""
  | [text] => text
  | text :: more => text ++ separator ++ join separator more

/-! ## Small laws -/

theorem dropMark?_eq_some {mark cs after : List Char} :
    dropMark? mark cs = some after ↔ cs = mark ++ after := by
  induction mark generalizing cs with
  | nil => simp [dropMark?, eq_comm]
  | cons m mark ih =>
    cases cs with
    | nil => simp [dropMark?]
    | cons c cs =>
      by_cases h : m = c
      · subst h; simp [dropMark?, ih]
      · simp [dropMark?, h, Ne.symm h]

/-- **A cut loses nothing but the mark.** -/
theorem cut?_eq_some {mark cs before after : List Char} (h : cut? mark cs = some (before, after)) :
    cs = before ++ mark ++ after := by
  induction cs generalizing before with
  | nil =>
    obtain ⟨a, ha, hb⟩ := Option.map_eq_some_iff.1 h
    obtain ⟨rfl, rfl⟩ := Prod.mk.inj hb
    simpa using dropMark?_eq_some.1 ha
  | cons c cs ih =>
    rw [cut?] at h
    split at h
    · next a ha =>
      obtain ⟨rfl, rfl⟩ := Prod.mk.inj (Option.some.inj h)
      simpa using dropMark?_eq_some.1 ha
    · obtain ⟨⟨b, a⟩, hr, hb⟩ := Option.map_eq_some_iff.1 h
      obtain ⟨rfl, rfl⟩ := Prod.mk.inj hb
      simp [ih hr]

theorem stretches_ne_nil (separator : Char) (cs : List Char) : stretches separator cs ≠ [] := by
  cases cs with
  | nil => simp [stretches]
  | cons c cs =>
    rw [stretches]
    split
    · simp
    · split <;> simp

end Narrative.Text
