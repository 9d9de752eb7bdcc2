import Mathlib.Data.List.TakeWhile
import Narrative.Action
import Narrative.Proofs.Words

/-!
# Proofs/Tail — the text after the first word

How a text falls into words is told by how it is put together (`Text.Spaced`): words without a
blank, with blanks between them, and blanks at either end.  The words that a text is read as are the
only ones it is put together from (`Text.spaced_iff`).

The first word is passed over by its length in bytes, which is that of the characters it stands for
(`Instruction.dropBytes?_append`): whatever characters they are, nothing of what follows is lost.
What is left, without its leading blanks, begins with the second word.  So it is a tail of the text,
and its words are those of the text but the first (`body_from_second_word`).
-/

namespace Narrative

namespace Text

/-! ## Words and the blanks between them -/

/-- **Blanks only.** -/
def Blanks (cs : List Char) : Prop := ∀ c ∈ cs, isBlank c = true

/-- **A word**: it is not empty, and has no blank. -/
def IsWord (word : String) : Prop := word ≠ "" ∧ ∀ c ∈ word.toList, isBlank c = false

/-- **A text put together from words**: there may be blanks before the first and behind the last, and
there are some between every two. -/
inductive Spaced : List String → List Char → Prop
  | blanks {gap : List Char} : Blanks gap → Spaced [] gap
  | word {gap rest : List Char} {word : String} {more : List String} :
    Blanks gap → IsWord word → (∀ c ∈ rest.head?, isBlank c = true) → Spaced more rest →
      Spaced (word :: more) (gap ++ (word.toList ++ rest))

theorem blanks_takeWhile (cs : List Char) : Blanks (cs.takeWhile isBlank) :=
  fun _ => List.mem_takeWhile_imp

section Spaced

variable {gap rest cs : List Char} {word : String} {tokens : List String}

/-- Leading blanks are passed over. -/
theorem Blanks.dropWhile_append (h : Blanks gap) (rest : List Char) :
    (gap ++ rest).dropWhile isBlank = rest.dropWhile isBlank :=
  List.dropWhile_append_of_pos h

theorem IsWord.exists_cons (h : IsWord word) :
    ∃ c cs, word.toList = c :: cs ∧ isBlank c = false := by
  obtain ⟨c, cs, hcs⟩ := List.exists_cons_of_ne_nil (mt String.toList_eq_nil_iff.1 h.1)
  exact ⟨c, cs, hcs, h.2 c (hcs ▸ List.mem_cons_self)⟩

/-- Nothing is passed over before a word. -/
theorem IsWord.dropWhile_append (h : IsWord word) (rest : List Char) :
    (word.toList ++ rest).dropWhile isBlank = word.toList ++ rest := by
  obtain ⟨c, cs, hcs, hc⟩ := h.exists_cons
  rw [hcs, List.cons_append, List.dropWhile_cons_of_neg (by simp [hc])]

/-- **A word at the front** is read as the first one. -/
theorem IsWord.runs_append (h : IsWord word) (hrest : ∀ c ∈ rest.head?, isBlank c = true) :
    runs (word.toList ++ rest) = word.toList :: runs rest := by
  have hword : ∀ c ∈ word.toList, (!isBlank c) = true := fun c hc => by simp [h.2 c hc]
  have huntil : untilBlank rest = [] ∧ fromBlank rest = rest := by
    cases rest with
    | nil => exact ⟨rfl, rfl⟩
    | cons d rest => simp [untilBlank, fromBlank, hrest d rfl]
  have hfirst : untilBlank (word.toList ++ rest) = word.toList := by
    rw [untilBlank, List.takeWhile_append_of_pos hword, ← untilBlank, huntil.1, List.append_nil]
  have hothers : fromBlank (word.toList ++ rest) = rest := by
    rw [fromBlank, List.dropWhile_append_of_pos hword, ← fromBlank, huntil.2]
  obtain ⟨c, cs, hcs, hc⟩ := h.exists_cons
  rw [hcs, List.cons_append, runs_cons hc, ← List.cons_append, ← hcs, hfirst, hothers]

/-- **A text is read as the words it is put together from.** -/
theorem Spaced.eq_runs (h : Spaced tokens cs) : tokens = (runs cs).map String.ofList := by
  induction h with
  | blanks hgap =>
    rw [← runs_dropWhile, List.dropWhile_eq_nil_iff.2 hgap]
    rfl
  | word hgap hword hrest _ ih =>
    rw [← runs_dropWhile, hgap.dropWhile_append, runs_dropWhile, hword.runs_append hrest,
      List.map_cons, ← ih, String.ofList_toList]

/-- Behind its leading blanks, a list ends or has a character that is not blank. -/
theorem dropWhile_cases (cs : List Char) :
    cs.dropWhile isBlank = []
      ∨ ∃ c rest, cs.dropWhile isBlank = c :: rest ∧ isBlank c = false := by
  have hhead := List.head?_dropWhile_not isBlank cs
  cases hcs : cs.dropWhile isBlank with
  | nil => exact Or.inl rfl
  | cons c rest => exact Or.inr ⟨c, rest, rfl, by simpa [hcs] using hhead⟩

/-- What stands before the first blank of a list that begins with a word is that word. -/
theorem isWord_untilBlank {c : Char} (hc : isBlank c = false) (cs : List Char) :
    IsWord (String.ofList (untilBlank (c :: cs))) := by
  refine ⟨fun h => ?_, fun d hd => ?_⟩
  · simp [untilBlank_cons hc] at h
  · rw [String.toList_ofList] at hd
    simpa using List.mem_takeWhile_imp hd

theorem head?_fromBlank (cs : List Char) : ∀ c ∈ (fromBlank cs).head?, isBlank c = true := by
  intro c hc
  have hhead := List.head?_dropWhile_not (!isBlank ·) cs
  rw [← fromBlank, hc] at hhead
  simpa using hhead

/-- **A text is put together from the words it is read as.**  The induction is on these words: what
stands from the first blank behind the first one has one word less. -/
theorem spaced_runs (cs : List Char) : Spaced ((runs cs).map String.ofList) cs := by
  generalize hruns : runs cs = tokens
  induction tokens generalizing cs with
  | nil =>
    refine .blanks (List.dropWhile_eq_nil_iff.1 ((dropWhile_cases cs).resolve_right ?_))
    rintro ⟨c, rest, hcs, hc⟩
    rw [← runs_dropWhile, hcs, runs_cons hc] at hruns
    exact List.cons_ne_nil _ _ hruns
  | cons first more ih =>
    rcases dropWhile_cases cs with hcs | ⟨c, rest, hcs, hc⟩
    · rw [← runs_dropWhile, hcs] at hruns
      cases hruns
    · rw [← runs_dropWhile, hcs, runs_cons hc] at hruns
      obtain ⟨rfl, hmore⟩ := List.cons.inj hruns
      have hparts : cs.takeWhile isBlank
          ++ ((String.ofList (untilBlank (c :: rest))).toList ++ fromBlank (c :: rest)) = cs := by
        rw [String.toList_ofList, untilBlank, fromBlank, List.takeWhile_append_dropWhile, ← hcs,
          List.takeWhile_append_dropWhile]
      have hspaced := Spaced.word (blanks_takeWhile cs) (isWord_untilBlank hc rest)
        (head?_fromBlank (c :: rest)) (ih _ hmore)
      rwa [hparts] at hspaced

/-- **The words of a text** are those it is put together from. -/
theorem spaced_iff {text : String} : Spaced tokens text.toList ↔ tokens = words text :=
  ⟨Spaced.eq_runs, fun h => h ▸ spaced_runs text.toList⟩

/-- A text with a word begins with it, behind blanks. -/
theorem Spaced.exists_of_cons (h : Spaced (word :: tokens) cs) :
    ∃ gap rest, cs = gap ++ (word.toList ++ rest) ∧ Blanks gap ∧ IsWord word
      ∧ (∀ c ∈ rest.head?, isBlank c = true) ∧ Spaced tokens rest := by
  cases h with
  | word hgap hword hrest hmore => exact ⟨_, _, rfl, hgap, hword, hrest, hmore⟩

/-- A text without words is passed over. -/
theorem Spaced.dropWhile_eq_nil (h : Spaced [] cs) : cs.dropWhile isBlank = [] := by
  cases h with
  | blanks hgap => exact List.dropWhile_eq_nil_iff.2 hgap

/-- Leading blanks do not matter. -/
theorem Spaced.dropWhile (h : Spaced tokens cs) : Spaced tokens (cs.dropWhile isBlank) := by
  rw [h.eq_runs, ← runs_dropWhile]
  exact spaced_runs _

end Spaced

end Text

namespace Instruction

/-! ## Passing over the first word -/

/-- **Characters are passed over by the bytes they take**, whatever follows them. -/
theorem dropBytes?_append (cs rest : List Char) :
    dropBytes? (String.ofList cs).utf8ByteSize (cs ++ rest) = some rest := by
  induction cs with
  | nil => cases rest <;> rfl
  | cons c cs ih =>
    have hbytes : (String.ofList (c :: cs)).utf8ByteSize
        = c.utf8Size + (String.ofList cs).utf8ByteSize := by
      rw [String.ofList_cons, String.utf8ByteSize_append, String.utf8ByteSize_singleton]
    obtain ⟨size, hsize⟩ := Nat.exists_eq_add_one.2 c.utf8Size_pos
    rw [hbytes, hsize, Nat.add_right_comm, List.cons_append, dropBytes?, hsize,
      if_pos (Nat.succ_le_succ (Nat.le_add_right _ _)), Nat.add_right_comm, Nat.add_sub_cancel_left,
      ih]

/-- Without words there is nothing after the first. -/
theorem body_eq_empty {i : Instruction} (h : i.words = []) : i.body = "" := by rw [body, h]

/-- **The text after the first word**: what stands behind the word and the blanks that follow it. -/
theorem body_eq {i : Instruction} {gap rest : List Char} {first : String} {more : List String}
    (hwords : i.words = first :: more) (htext : i.text.toList = gap ++ (first.toList ++ rest))
    (hgap : Text.Blanks gap) (hfirst : Text.IsWord first) :
    i.body = String.ofList (rest.dropWhile Text.isBlank) := by
  have hstart : (Text.trimStart i.text).toList = first.toList ++ rest := by
    rw [Text.trimStart, String.toList_ofList, htext, hgap.dropWhile_append,
      hfirst.dropWhile_append]
  have hdrop : dropBytes? first.utf8ByteSize (first.toList ++ rest) = some rest := by
    simpa using dropBytes?_append first.toList rest
  simp only [body, hwords, hstart, hdrop]
  rw [Text.trimStart, String.toList_ofList]

/-! ## The words of what is left -/

section Tail

variable {statement : Statement} {text : String}

/-- **With at most one word** there is nothing after the first. -/
theorem body_of_length_words_le_one (h : (Text.words text).length ≤ 1) :
    (ofText statement text).body = "" := by
  have hspaced : Text.Spaced (Text.words text) text.toList := Text.spaced_iff.2 rfl
  cases hwords : Text.words text with
  | nil => exact body_eq_empty hwords
  | cons first more =>
    rw [hwords] at hspaced h
    obtain rfl : more = [] := by simpa using h
    obtain ⟨lead, rest, htext, hlead, hfirst, -, hmore⟩ := hspaced.exists_of_cons
    rw [body_eq hwords htext hlead hfirst, hmore.dropWhile_eq_nil]

/-- **With two words or more**, the text after the first begins with the second, and stands behind
the first and the blanks around it. -/
theorem body_of_words_cons_cons {first second : String} {more : List String}
    (h : Text.words text = first :: second :: more) :
    ∃ lead gap after, text = lead ++ first ++ gap ++ (ofText statement text).body
      ∧ Text.Blanks lead.toList ∧ Text.Blanks gap.toList ∧ gap ≠ ""
      ∧ (ofText statement text).body = second ++ after := by
  have hspaced : Text.Spaced (first :: second :: more) text.toList := Text.spaced_iff.2 h.symm
  obtain ⟨lead, rest, htext, hlead, hfirst, hhead, hmore⟩ := hspaced.exists_of_cons
  obtain ⟨gap, after, hrest, hgap, hsecond, -, -⟩ := hmore.exists_of_cons
  have hbody : (ofText statement text).body = String.ofList (second.toList ++ after) := by
    rw [body_eq h htext hlead hfirst, hrest, hgap.dropWhile_append, hsecond.dropWhile_append]
  have hne : gap ≠ [] := by
    -- What follows the first word begins with a blank, and the second word does not.
    rintro rfl
    obtain ⟨c, cs, hcs, hc⟩ := hsecond.exists_cons
    rw [hrest, hcs] at hhead
    exact absurd (hhead c rfl) (by simp [hc])
  refine ⟨String.ofList lead, String.ofList gap, String.ofList after, ?_, ?_, ?_, ?_, ?_⟩
  · rw [← String.toList_inj, hbody, htext, hrest]
    simp
  · rwa [String.toList_ofList]
  · rwa [String.toList_ofList]
  · simpa using hne
  · rw [hbody, String.ofList_append, String.ofList_toList]

/-- **The words of the text after the first word** are the words of the text but the first. -/
theorem words_body (statement : Statement) (text : String) :
    Text.words (ofText statement text).body = (Text.words text).tail := by
  have hspaced : Text.Spaced (Text.words text) text.toList := Text.spaced_iff.2 rfl
  cases hwords : Text.words text with
  | nil =>
    rw [body_eq_empty hwords, List.tail_nil]
    rfl
  | cons first more =>
    rw [hwords] at hspaced
    obtain ⟨lead, rest, htext, hlead, hfirst, -, hmore⟩ := hspaced.exists_of_cons
    refine (Text.spaced_iff.1 ?_).symm
    rw [body_eq hwords htext hlead hfirst, String.toList_ofList]
    exact hmore.dropWhile

end Tail

end Instruction

/-- **The text after the first word is a tail of the text.**  The words of a text are those it is put
together from.  With at most one word, the text after the first word is empty.  With more, it stands
behind blanks, the first word and the blanks that follow it, begins with the second word, and keeps
its own spacing.  Either way its words are those of the text but the first; with single blanks
between them they are the words from the second on. -/
theorem body_from_second_word (statement : Statement) (text : String) :
    (∀ tokens, Text.Spaced tokens text.toList ↔ tokens = Text.words text)
      ∧ ((Text.words text).length ≤ 1 → (Instruction.ofText statement text).body = "")
      ∧ (∀ first second more, Text.words text = first :: second :: more →
          ∃ lead gap after, text = lead ++ first ++ gap ++ (Instruction.ofText statement text).body
            ∧ Text.Blanks lead.toList ∧ Text.Blanks gap.toList ∧ gap ≠ ""
            ∧ (Instruction.ofText statement text).body = second ++ after)
      ∧ Text.words (Instruction.ofText statement text).body = (Text.words text).tail
      ∧ Text.join " " (Text.words (Instruction.ofText statement text).body)
        = (Instruction.ofText statement text).wordsFrom 1 := by
  have hwords := Instruction.words_body statement text
  refine ⟨fun _ => Text.spaced_iff, Instruction.body_of_length_words_le_one,
    fun _ _ _ h => Instruction.body_of_words_cons_cons h, hwords, ?_⟩
  rw [hwords, Instruction.wordsFrom, List.drop_one]
  rfl

/-- A first word of several bytes a character, and blanks that are not ASCII. -/
example : (Instruction.ofText (.text "" : Statement) "\u3000Ёж:\u00a0\u2003Well,  then ").body
    = "Well,  then " := by
  decide +kernel

end Narrative
