/-!
# Text/Blank — blank characters, words and trimming

A line of a script is read as **words**: its maximal runs of characters that are not blank.  A
character is blank when the character database gives it the property *White_Space*; the zero-width
space and the byte-order mark are not among them.

Functions on texts are stated on lists of characters, where they recurse, and lifted to strings.
-/

namespace Narrative.Text

/-- **Blank characters**: the property *White_Space*. -/
def isBlank (c : Char) : Bool :=
  let n := c.toNat
  (9 ≤ n && n ≤ 13) || n == 0x20 || n == 0x85 || n == 0xA0 || n == 0x1680
    || (0x2000 ≤ n && n ≤ 0x200A) || n == 0x2028 || n == 0x2029 || n == 0x202F || n == 0x205F
    || n == 0x3000

/-! ## Words -/

/-- Put a character in front of the first word. -/
def lead (c : Char) : List (List Char) → List (List Char)
  | [] => [[c]]
  | word :: words => (c :: word) :: words

/-- **The words of a list of characters**: its maximal runs without a blank. -/
def runs : List Char → List (List Char)
  | [] => []
  | [c] => if isBlank c then [] else [[c]]
  | c :: next :: rest =>
    if isBlank c then runs (next :: rest)
    else if isBlank next then [c] :: runs (next :: rest)
    else lead c (runs (next :: rest))

/-- The words of a text. -/
def words (text : String) : List String := (runs text.toList).map String.ofList

/-- The first word of a text, if it has one. -/
def firstWord? (text : String) : Option String := (words text).head?

/-! ## Trimming -/

/-- A text without its leading blanks. -/
def trimStart (text : String) : String := String.ofList (text.toList.dropWhile isBlank)

/-- A list of characters without its trailing blanks. -/
def dropBlankEnd (cs : List Char) : List Char := (cs.reverse.dropWhile isBlank).reverse

/-- A text without its leading and trailing blanks. -/
def trim (text : String) : String :=
  String.ofList (dropBlankEnd (text.toList.dropWhile isBlank))

/-! ## Small laws -/

theorem forall_mem_lead {p : List Char → Prop} {c : Char} {words : List (List Char)}
    (hc : p [c]) (hcons : ∀ word, p word → p (c :: word)) (h : ∀ word ∈ words, p word) :
    ∀ word ∈ lead c words, p word := by
  cases words with
  | nil => simpa [lead] using hc
  | cons w ws =>
    intro word hw
    rcases List.mem_cons.1 hw with rfl | hw
    · exact hcons w (h w List.mem_cons_self)
    · exact h word (List.mem_cons_of_mem _ hw)

/-- **A word is a nonempty run without a blank.** -/
theorem of_mem_runs {cs word : List Char} (hw : word ∈ runs cs) :
    word ≠ [] ∧ ∀ c ∈ word, isBlank c = false := by
  revert word
  fun_induction runs cs with
  | case1 => simp
  | case2 => simp
  | case3 c hb => simpa using hb
  | case4 c next rest hb ih => exact fun {word} hw => ih hw
  | case5 c next rest hb hn ih =>
    intro word hw
    rcases List.mem_cons.1 hw with rfl | hw
    · simpa using hb
    · exact ih hw
  | case6 c next rest hb hn ih =>
    intro word hw
    refine forall_mem_lead (p := fun w => w ≠ [] ∧ ∀ c ∈ w, isBlank c = false)
      (by simpa using hb) ?_ (fun w hw => ih hw) word hw
    rintro w ⟨-, h⟩
    refine ⟨by simp, fun d hd => ?_⟩
    rcases List.mem_cons.1 hd with rfl | hd
    · simpa using hb
    · exact h d hd

end Narrative.Text
