import Narrative.Proofs.Words

/-!
# Proofs/OnePass — literals and placeholders are filled in in one pass

A text may be put together from **literals**, with a placeholder between every two of them
(`assemble`).  Filling it in puts the value of each path in the place of its placeholder, and leaves
the literals and the inserted values as they are (`fill_assemble`).

The text is read by looking for the leftmost opening braces and, from there, for the leftmost
closing ones.  Braces may stand in a literal or a path one by one.  What keeps the reading in step
is that no pair of braces begins inside (`Text.Clear`): a literal that ends with an opening brace
would lend it to the placeholder behind it, and a path that ends with a closing one would be cut too
early.
-/

namespace Narrative

namespace Text

/-! ## No pair begins -/

/-- **No pair of a character begins in a list**, whatever stands behind it: the list has no such
pair, and does not end with the character. -/
def Clear (c : Char) (cs : List Char) : Prop := ¬[c, c] <:+: cs ∧ cs.getLast? ≠ some c

instance (c : Char) (cs : List Char) : Decidable (Clear c cs) := inferInstanceAs (Decidable (_ ∧ _))

section Clear

variable {c d : Char} {cs : List Char}

theorem Clear.tail (h : Clear c (d :: cs)) : Clear c cs := by
  refine ⟨fun hpair => h.1 (hpair.trans (List.suffix_cons d cs).isInfix), fun hlast => h.2 ?_⟩
  rw [List.getLast?_cons, hlast, Option.getD_some]

/-- A pair neither stands at the front nor is completed by what stands behind. -/
theorem Clear.dropMark?_eq_none (h : Clear c (d :: cs)) (rest : List Char) :
    dropMark? [c, c] (d :: (cs ++ rest)) = none := by
  rw [Option.eq_none_iff_forall_ne_some]
  intro after hafter
  obtain ⟨rfl, hmore⟩ := List.cons.inj (dropMark?_eq_some.1 hafter)
  cases cs with
  | nil => exact h.2 rfl
  | cons e cs =>
    obtain ⟨rfl, -⟩ := List.cons.inj hmore
    exact h.1 ⟨[], cs, rfl⟩

/-- **The first pair behind such a list** is the one that stands right there. -/
theorem Clear.cut?_append (h : Clear c cs) (rest : List Char) :
    cut? [c, c] (cs ++ ([c, c] ++ rest)) = some (cs, rest) := by
  induction cs with
  | nil =>
    have hmark : dropMark? [c, c] (c :: c :: rest) = some rest := dropMark?_eq_some.2 rfl
    show cut? [c, c] (c :: c :: rest) = _
    rw [cut?, hmark]
  | cons d cs ih =>
    rw [List.cons_append, cut?, h.dropMark?_eq_none, ih h.tail]
    rfl

end Clear

end Text

namespace Template

/-! ## One literal and one placeholder -/

section Pieces

variable {storage : Storage} {policy : UnresolvedPolicy}

/-- Characters that are dealt with are skipped. -/
theorem fillFrom_eq_drop (skip : Nat) (cs : List Char) :
    fillFrom storage policy skip cs = fillFrom storage policy 0 (cs.drop skip) := by
  induction cs generalizing skip with
  | nil => cases skip <;> rfl
  | cons c cs ih =>
    cases skip with
    | zero => rfl
    | succ skip => rw [fillFrom, ih, List.drop_succ_cons]

/-- **A literal is copied**, and reading goes on behind it. -/
theorem fillFrom_literal {literal : List Char} (h : Text.Clear '{' literal) (rest : List Char) :
    fillFrom storage policy 0 (literal ++ rest)
      = (fillFrom storage policy 0 rest).map (literal ++ ·) := by
  induction literal with
  | nil =>
    rw [List.nil_append]
    cases fillFrom storage policy 0 rest <;> rfl
  | cons c literal ih =>
    rw [List.cons_append, fillFrom_cons (h.dropMark?_eq_none rest), ih h.tail]
    cases fillFrom storage policy 0 rest <;> rfl

/-- **A placeholder is read up to its own closing braces**, and reading goes on behind them. -/
theorem fillFrom_placeholder {path : List Char} (hpath : isPath path = true)
    (h : Text.Clear '}' path) (rest : List Char) :
    fillFrom storage policy 0 (openMark ++ (path ++ (closeMark ++ rest)))
      = (fillPath storage policy path).bind fun value =>
          (fillFrom storage policy 0 rest).map (value ++ ·) := by
  have hfront : front ('{' :: '{' :: (path ++ (closeMark ++ rest))) = .insert path := by
    have hopen : Text.dropMark? openMark ('{' :: '{' :: (path ++ (closeMark ++ rest)))
        = some (path ++ (closeMark ++ rest)) := Text.dropMark?_eq_some.2 rfl
    have hcut : Text.cut? closeMark (path ++ (closeMark ++ rest)) = some (path, rest) :=
      h.cut?_append rest
    simp only [front, hopen, hcut, hpath, if_true]
  have hdrop : ('{' :: (path ++ (closeMark ++ rest))).drop (path.length + 3) = rest := by
    rw [List.drop_succ_cons, ← List.drop_drop, List.drop_left]
    rfl
  show fillFrom storage policy 0 ('{' :: '{' :: (path ++ (closeMark ++ rest))) = _
  rw [fillFrom, hfront]
  cases hvalue : fillPath storage policy path with
  | error unresolved => simp only [hvalue, Except.bind]
  | ok value => simp only [hvalue, Except.bind, fillFrom_eq_drop (path.length + 3), hdrop]

end Pieces

/-! ## Texts of several pieces -/

/-- **Literals with something between them** for each path, from the first literal on. -/
def assemble (between : String → String) (first : String) : List (String × String) → String
  | [] => first
  | (path, literal) :: more => first ++ (between path ++ assemble between literal more)

/-- A path between double braces. -/
def placeholder (path : String) : String :=
  String.ofList openMark ++ (path ++ String.ofList closeMark)

/-- **What is shown for a path**: a text without its quotes, the text of any other value, or the
word `undefined`. -/
def shown (storage : Storage) (path : String) : String :=
  match storage.resolve? path with
  | some (.str text) => text
  | some value => value.text
  | none => "undefined"

/-- **A literal**: it has no opening braces, and does not end with one. -/
def IsLiteral (text : String) : Prop := Text.Clear '{' text.toList

/-- **What can be named in a placeholder**: it is not empty, has no blank and no closing braces, and
does not end with one. -/
def IsName (path : String) : Prop :=
  path ≠ "" ∧ (∀ c ∈ path.toList, Text.isBlank c = false) ∧ Text.Clear '}' path.toList

instance (text : String) : Decidable (IsLiteral text) :=
  inferInstanceAs (Decidable (Text.Clear ..))

instance (path : String) : Decidable (IsName path) :=
  -- The characters of the path are looked through, not all characters.
  letI : Decidable (∀ c ∈ path.toList, Text.isBlank c = false) := List.decidableBAll ..
  inferInstanceAs (Decidable (_ ∧ _))

theorem IsName.isPath {path : String} (h : IsName path) : isPath path.toList = true := by
  have hne : path.toList ≠ [] := by simpa using h.1
  simp only [Template.isPath, Bool.and_eq_true, Bool.not_eq_true', List.isEmpty_eq_false_iff,
    List.any_eq_false, Bool.not_eq_true]
  exact ⟨hne, h.2.1⟩

/-- The characters inserted for a path are those that are shown. -/
theorem fillPath_word (storage : Storage) (path : String) :
    fillPath storage .word path.toList = .ok (shown storage path).toList := by
  unfold fillPath shown
  rw [String.ofList_toList]
  cases storage.resolve? path with
  | none => rfl
  | some value => cases value <;> simp [inserted, Json.text]

/-- **A text of literals and placeholders is filled in in one pass**: what is shown for each path
takes the place of its placeholder, and neither the literals nor what was inserted is read again.
The induction is on the pieces: behind a literal and its placeholder the reading starts anew. -/
theorem fill_assemble (storage : Storage) {first : String} {pieces : List (String × String)}
    (hliterals : ∀ literal ∈ first :: pieces.map Prod.snd, IsLiteral literal)
    (hnames : ∀ path ∈ pieces.map Prod.fst, IsName path) :
    fill storage .word (assemble placeholder first pieces)
      = .ok (assemble (shown storage) first pieces) := by
  have hfill : fillFrom storage .word 0 (assemble placeholder first pieces).toList
      = .ok (assemble (shown storage) first pieces).toList := by
    induction pieces generalizing first with
    | nil =>
      have hfirst := hliterals first List.mem_cons_self
      have hcopied : fillFrom storage .word 0 (first.toList ++ [])
          = (fillFrom storage .word 0 []).map (first.toList ++ ·) := fillFrom_literal hfirst []
      simpa [assemble, fillFrom, Except.map] using hcopied
    | cons piece pieces ih =>
      obtain ⟨path, literal⟩ := piece
      obtain ⟨hfirst, hothers⟩ := List.forall_mem_cons.1 hliterals
      obtain ⟨hpath, hpaths⟩ := List.forall_mem_cons.1 hnames
      simp only [assemble, placeholder, String.toList_append, String.toList_ofList,
        List.append_assoc]
      rw [fillFrom_literal hfirst, fillFrom_placeholder hpath.isPath hpath.2.2, fillPath_word,
        ih hothers hpaths]
      rfl
  rw [fill, hfill]
  simp [Except.map]

/-- A storage in which one text holds a placeholder. -/
def ledger : Storage := ⟨[("note", .str "see \x7b\x7bgold\x7d\x7d"), ("gold", .int 7)]⟩

/-- Braces one by one, between placeholders that lead to a text with a placeholder, to a number and
to nothing. -/
theorem fill_assemble_ledger :
    (∀ literal ∈ ["\x7d\x7d a", "\x7b b", "\x7d", ""], IsLiteral literal)
      ∧ (∀ path ∈ ["note", "gold", "\x7bgold"], IsName path)
      ∧ fill ledger .word
          "\x7d\x7d a\x7b\x7bnote\x7d\x7d\x7b b\x7b\x7bgold\x7d\x7d\x7d\x7b\x7b\x7bgold\x7d\x7d"
        = .ok "\x7d\x7d asee \x7b\x7bgold\x7d\x7d\x7b b7\x7dundefined" := by
  have hliterals : ∀ literal ∈ ["\x7d\x7d a", "\x7b b", "\x7d", ""], IsLiteral literal := by decide
  have hnames : ∀ path ∈ ["note", "gold", "\x7bgold"], IsName path := by decide
  exact ⟨hliterals, hnames, @fill_assemble ledger "\x7d\x7d a"
    [("note", "\x7b b"), ("gold", "\x7d"), ("\x7bgold", "")] hliterals hnames⟩

end Template

end Narrative
