import Narrative.Storage.Template

/-!
# Proofs/Words — the words of a text, and the marks in it

`words` reads the maximal runs without a blank, so a blank at either end is in none of them:
trimming a text (`words_trim`) keeps its words, and no word is empty (`ne_empty_of_mem_words`).

A word stands in its text as it is, so a mark that does not occur in the text occurs in none of its
words (`occurs_of_mem_words`); a text without the mark of a placeholder is filled in as it is
(`fill_of_unbraced`).
-/

namespace Narrative.Text

/-! ## Blanks at the ends -/

theorem runs_cons_of_isBlank {c : Char} (h : isBlank c = true) (cs : List Char) :
    runs (c :: cs) = runs cs := by
  cases cs with
  | nil => simp [runs, h]
  | cons next rest => simp [runs, h]

theorem runs_append_blank {b : Char} (h : isBlank b = true) (cs : List Char) :
    runs (cs ++ [b]) = runs cs := by
  fun_induction runs cs with
  | case1 => simp [runs, h]
  | case2 c hb => simp [runs, h, hb]
  | case3 c hb => simp [runs, h, hb]
  | case4 c next rest hb ih => simpa [runs, hb] using ih
  | case5 c next rest hb hn ih => simpa [runs, hb, hn] using ih
  | case6 c next rest hb hn ih =>
    have hstep : runs (c :: next :: rest ++ [b]) = lead c (runs (next :: (rest ++ [b]))) := by
      simp [runs, hb, hn]
    rw [hstep]
    exact congrArg (lead c) ih

theorem runs_dropWhile (cs : List Char) : runs (cs.dropWhile isBlank) = runs cs := by
  induction cs with
  | nil => rfl
  | cons c cs ih =>
    by_cases h : isBlank c = true
    · rw [List.dropWhile_cons_of_pos h, ih, runs_cons_of_isBlank h]
    · rw [List.dropWhile_cons_of_neg h]

theorem runs_dropBlankEnd (cs : List Char) : runs (dropBlankEnd cs) = runs cs := by
  -- Stated on the reversed list, the blanks to drop stand in front.
  suffices h : ∀ ds : List Char, runs (ds.dropWhile isBlank).reverse = runs ds.reverse by
    simpa [dropBlankEnd] using h cs.reverse
  intro ds
  induction ds with
  | nil => rfl
  | cons d ds ih =>
    by_cases h : isBlank d = true
    · rw [List.dropWhile_cons_of_pos h, ih, List.reverse_cons, runs_append_blank h]
    · rw [List.dropWhile_cons_of_neg h]

/-! ## Words of a text -/

/-- **Trimming keeps the words.** -/
@[simp] theorem words_trim (text : String) : words (trim text) = words text := by
  simp only [words, trim, String.toList_ofList, runs_dropBlankEnd, runs_dropWhile]

/-- **No word is empty.** -/
theorem ne_empty_of_mem_words {text word : String} (h : word ∈ words text) : word ≠ "" := by
  obtain ⟨cs, hcs, rfl⟩ := List.mem_map.1 h
  intro hempty
  have hnil : cs = [] := by simpa using congrArg String.toList hempty
  exact (of_mem_runs hcs).1 hnil

/-- What stands before the first blank. -/
def untilBlank (cs : List Char) : List Char := cs.takeWhile (!isBlank ·)

theorem untilBlank_cons {c : Char} (hc : isBlank c = false) (cs : List Char) :
    untilBlank (c :: cs) = c :: untilBlank cs := by
  simp [untilBlank, hc]

theorem untilBlank_cons_blank {c : Char} (hc : isBlank c = true) (cs : List Char) :
    untilBlank (c :: cs) = [] := by
  simp [untilBlank, hc]

/-- What stands from the first blank on. -/
def fromBlank (cs : List Char) : List Char := cs.dropWhile (!isBlank ·)

/-- **The words of a list that does not begin with a blank**: what stands before its first blank, and
the words of what stands from there on. -/
theorem runs_cons {c : Char} (hc : isBlank c = false) (cs : List Char) :
    runs (c :: cs) = untilBlank (c :: cs) :: runs (fromBlank (c :: cs)) := by
  induction cs generalizing c with
  | nil => simp [runs, hc, untilBlank, fromBlank]
  | cons next rest ih =>
    by_cases hnext : isBlank next = true
    · simp [runs, hc, hnext, untilBlank, fromBlank]
    · have hnext : isBlank next = false := by simpa using hnext
      have hfrom : fromBlank (c :: next :: rest) = fromBlank (next :: rest) := by
        simp [fromBlank, hc]
      rw [untilBlank_cons hc, hfrom, runs, if_neg (by simp [hc]), if_neg (by simp [hnext]),
        ih hnext, lead]

/-- **The first word of a list that does not begin with a blank** is what stands before its first
blank. -/
theorem head?_runs {c : Char} (hc : isBlank c = false) (cs : List Char) :
    (runs (c :: cs)).head? = some (untilBlank (c :: cs)) := by
  rw [runs_cons hc, List.head?_cons]

/-! ## Marks -/

/-- **A mark occurs in the characters that it is a stretch of.** -/
theorem occurs_iff_infix {mark cs : List Char} : occurs mark cs = true ↔ mark <:+: cs := by
  constructor
  · intro h
    obtain ⟨⟨before, after⟩, hcut⟩ := Option.isSome_iff_exists.1 h
    exact ⟨before, after, (cut?_eq_some hcut).symm⟩
  · intro h
    unfold occurs
    induction cs with
    | nil =>
      obtain rfl := List.infix_nil.1 h
      rfl
    | cons c cs ih =>
      rw [cut?]
      cases hdrop : dropMark? mark (c :: cs) with
      | some after => rfl
      | none =>
        rcases List.infix_cons_iff.1 h with ⟨after, hprefix⟩ | hinfix
        · rw [dropMark?_eq_some.2 hprefix.symm] at hdrop
          cases hdrop
        · simpa using ih hinfix

/-- A list that does not begin with a blank begins with its first word. -/
theorem prefix_of_head?_runs {c : Char} {cs word : List Char} (hc : isBlank c = false)
    (h : (runs (c :: cs)).head? = some word) : word <+: c :: cs := by
  induction cs generalizing c word with
  | nil =>
    obtain rfl : [c] = word := by simpa [runs, hc] using h
    exact List.prefix_rfl
  | cons next rest ih =>
    by_cases hnext : isBlank next = true
    · obtain rfl : [c] = word := by simpa [runs, hc, hnext] using h
      exact ⟨next :: rest, rfl⟩
    · have hnext' : isBlank next = false := by simpa using hnext
      cases hruns : runs (next :: rest) with
      | nil =>
        obtain rfl : [c] = word := by simpa [runs, hc, hnext', hruns, lead] using h
        exact ⟨next :: rest, rfl⟩
      | cons first more =>
        obtain rfl : c :: first = word := by simpa [runs, hc, hnext', hruns, lead] using h
        exact (List.prefix_cons_inj c).2 (ih hnext' (by rw [hruns]; rfl))

/-- **A word is a stretch of its text.** -/
theorem infix_of_mem_runs {cs word : List Char} (h : word ∈ runs cs) : word <:+: cs := by
  revert word
  fun_induction runs cs with
  | case1 => simp
  | case2 => simp
  | case3 c hb => simp
  | case4 c next rest hb ih => exact fun h => (ih h).trans (List.suffix_cons _ _).isInfix
  | case5 c next rest hb hn ih =>
    intro word h
    rcases List.mem_cons.1 h with rfl | h
    · exact (List.prefix_append [c] (next :: rest)).isInfix
    · exact (ih h).trans (List.suffix_cons _ _).isInfix
  | case6 c next rest hb hn ih =>
    intro word h
    have hnext : isBlank next = false := by simpa using hn
    cases hruns : runs (next :: rest) with
    | nil =>
      obtain rfl : word = [c] := by simpa [hruns, lead] using h
      exact (List.prefix_append [c] (next :: rest)).isInfix
    | cons first more =>
      rw [hruns] at h ih
      rcases List.mem_cons.1 h with rfl | h
      · -- The first word goes on to the left, so it has to stand at the front.
        have hfirst := prefix_of_head?_runs hnext (by rw [hruns]; rfl)
        exact ((List.prefix_cons_inj c).2 hfirst).isInfix
      · exact (ih (List.mem_cons_of_mem _ h)).trans (List.suffix_cons _ _).isInfix

/-- **What does not occur in a text occurs in none of its words.** -/
theorem occurs_of_mem_words {mark : List Char} {text word : String} (hword : word ∈ words text)
    (h : occurs mark text.toList = false) : occurs mark word.toList = false := by
  obtain ⟨cs, hcs, rfl⟩ := List.mem_map.1 hword
  rw [Bool.eq_false_iff, Ne, occurs_iff_infix] at *
  rw [String.toList_ofList]
  exact fun hmark => h (hmark.trans (infix_of_mem_runs hcs))

end Narrative.Text

namespace Narrative.Template

/-- A character with which no placeholder begins is copied. -/
theorem fillFrom_cons {storage : Storage} {policy : UnresolvedPolicy} {c : Char} {cs : List Char}
    (h : Text.dropMark? openMark (c :: cs) = none) :
    fillFrom storage policy 0 (c :: cs) = (fillFrom storage policy 0 cs).map (c :: ·) := by
  have hfront : front (c :: cs) = .copyOne := by rw [front, h]
  rw [fillFrom, hfront]

/-- **A text without opening braces is filled in as it is.** -/
theorem fill_of_unbraced (storage : Storage) (policy : UnresolvedPolicy) {text : String}
    (h : Text.occurs openMark text.toList = false) :
    fill storage policy text = .ok text := by
  have hfill : ∀ cs : List Char, Text.occurs openMark cs = false →
      fillFrom storage policy 0 cs = .ok cs := by
    intro cs
    induction cs with
    | nil => exact fun _ => rfl
    | cons c cs ih =>
      intro h
      unfold Text.occurs Text.cut? at h
      cases hdrop : Text.dropMark? openMark (c :: cs) with
      | some after =>
        rw [hdrop] at h
        cases h
      | none =>
        rw [hdrop] at h
        have hrest : Text.occurs openMark cs = false := by
          simpa [Text.occurs] using h
        rw [fillFrom_cons hdrop, ih hrest]
        rfl
  rw [fill, hfill _ h]
  simp [Except.map]

/-- **What stands before the first brace** stays where it is. -/
theorem prefix_of_fill {storage : Storage} {policy : UnresolvedPolicy} {front rest text : String}
    (h : '{' ∉ front.toList) (filled : fill storage policy (front ++ rest) = .ok text) :
    ∃ more, text = front ++ more := by
  have hfill : ∀ cs ds : List Char, '{' ∉ cs →
      fillFrom storage policy 0 (cs ++ ds) = (fillFrom storage policy 0 ds).map (cs ++ ·) := by
    intro cs ds hcs
    induction cs with
    | nil =>
      rw [List.nil_append]
      cases fillFrom storage policy 0 ds <;> rfl
    | cons c cs ih =>
      obtain ⟨hc, hrest⟩ := not_or.1 (fun hmem => hcs (List.mem_cons.2 hmem))
      have hdrop : Text.dropMark? openMark (c :: (cs ++ ds)) = none := by
        simp [Text.dropMark?, openMark, hc]
      rw [List.cons_append, fillFrom_cons hdrop, ih hrest]
      cases fillFrom storage policy 0 ds <;> rfl
  rw [fill, String.toList_append, hfill _ _ h] at filled
  cases hmore : fillFrom storage policy 0 rest.toList with
  | error path =>
    rw [hmore] at filled
    cases filled
  | ok more =>
    rw [hmore] at filled
    exact ⟨String.ofList more, by simpa [Except.map] using (Except.ok.inj filled).symm⟩

/-- No placeholder begins with a blank. -/
theorem dropMark?_of_isBlank {c : Char} (hc : Text.isBlank c = true) (cs : List Char) :
    Text.dropMark? openMark (c :: cs) = none := by
  rw [Option.eq_none_iff_forall_ne_some]
  intro after hafter
  obtain ⟨rfl, -⟩ := List.cons.inj (Text.dropMark?_eq_some.1 hafter)
  revert hc
  decide

/-- No placeholder begins where a word without opening braces does. -/
theorem dropMark?_of_untilBlank {cs : List Char}
    (h : Text.occurs openMark (Text.untilBlank cs) = false) :
    Text.dropMark? openMark cs = none := by
  rw [Option.eq_none_iff_forall_ne_some]
  intro after hafter
  rw [Bool.eq_false_iff, Ne, Text.occurs_iff_infix] at h
  have hbrace : Text.isBlank '{' = false := by decide
  refine h ⟨[], Text.untilBlank after, ?_⟩
  rw [Text.dropMark?_eq_some.1 hafter]
  exact (Text.untilBlank_cons hbrace _).symm ▸ (Text.untilBlank_cons hbrace after).symm ▸ rfl

section Copied

variable {storage : Storage} {policy : UnresolvedPolicy} {c : Char} {cs filled : List Char}

/-- What is left to fill in after a character that is copied. -/
theorem copied_of_fillFrom (hdrop : Text.dropMark? openMark (c :: cs) = none)
    (hfill : fillFrom storage policy 0 (c :: cs) = .ok filled) :
    ∃ rest, fillFrom storage policy 0 cs = .ok rest ∧ filled = c :: rest := by
  rw [fillFrom_cons hdrop] at hfill
  cases hrest : fillFrom storage policy 0 cs with
  | error path =>
    rw [hrest] at hfill
    cases hfill
  | ok rest =>
    rw [hrest] at hfill
    exact ⟨rest, rfl, (Except.ok.inj hfill).symm⟩

/-- **What stands before the first blank** is copied, if it has no opening braces. -/
theorem untilBlank_of_fillFrom (hfill : fillFrom storage policy 0 cs = .ok filled)
    (h : Text.occurs openMark (Text.untilBlank cs) = false) :
    Text.untilBlank filled = Text.untilBlank cs := by
  induction cs generalizing filled with
  | nil =>
    rw [fillFrom] at hfill
    rw [← Except.ok.inj hfill]
  | cons c cs ih =>
    obtain ⟨rest, hrest, rfl⟩ := copied_of_fillFrom (dropMark?_of_untilBlank h) hfill
    by_cases hc : Text.isBlank c = true
    · rw [Text.untilBlank_cons_blank hc, Text.untilBlank_cons_blank hc]
    · have hc : Text.isBlank c = false := by simpa using hc
      rw [Text.untilBlank_cons hc] at h ⊢
      rw [Text.untilBlank_cons hc, ih hrest ?_]
      rw [Bool.eq_false_iff, Ne, Text.occurs_iff_infix] at h ⊢
      exact fun hwithin => h (hwithin.trans (List.suffix_cons c _).isInfix)

/-- **So is the first word**, which stands after blanks. -/
theorem head?_runs_of_fillFrom (hfill : fillFrom storage policy 0 cs = .ok filled)
    (h : ∀ word, (Text.runs cs).head? = some word → Text.occurs openMark word = false) :
    (Text.runs filled).head? = (Text.runs cs).head? := by
  induction cs generalizing filled with
  | nil =>
    rw [fillFrom] at hfill
    rw [← Except.ok.inj hfill]
  | cons c cs ih =>
    by_cases hc : Text.isBlank c = true
    · obtain ⟨rest, hrest, rfl⟩ := copied_of_fillFrom (dropMark?_of_isBlank hc cs) hfill
      rw [Text.runs_cons_of_isBlank hc] at h ⊢
      rw [Text.runs_cons_of_isBlank hc]
      exact ih hrest h
    · have hc : Text.isBlank c = false := by simpa using hc
      have hunbraced := h _ (Text.head?_runs hc cs)
      obtain ⟨rest, -, rfl⟩ := copied_of_fillFrom (dropMark?_of_untilBlank hunbraced) hfill
      rw [Text.head?_runs hc, Text.head?_runs hc, untilBlank_of_fillFrom hfill hunbraced]

end Copied

/-- **A first word without opening braces is not filled in**, whatever the storage. -/
theorem firstWord?_of_fill {storage : Storage} {policy : UnresolvedPolicy} {line text : String}
    (filled : fill storage policy line = .ok text)
    (h : ∀ word, Text.firstWord? line = some word → Text.occurs openMark word.toList = false) :
    Text.firstWord? text = Text.firstWord? line := by
  have hfirst : ∀ text : String,
      Text.firstWord? text = (Text.runs text.toList).head?.map String.ofList :=
    fun text => List.head?_map
  rw [hfirst line] at h ⊢
  rw [fill] at filled
  cases hrest : fillFrom storage policy 0 line.toList with
  | error path =>
    rw [hrest] at filled
    cases filled
  | ok rest =>
    rw [hrest] at filled
    obtain rfl : String.ofList rest = text := Except.ok.inj filled
    rw [hfirst, String.toList_ofList, head?_runs_of_fillFrom hrest fun word hword => ?_]
    simpa using h (String.ofList word) (by rw [hword, Option.map_some])

/-- Every path has a value when one that leads nowhere may stay. -/
theorem fillPath_of_ne_fail {policy : UnresolvedPolicy} (h : policy ≠ .fail) (storage : Storage)
    (path : List Char) : ∃ value, fillPath storage policy path = .ok value := by
  unfold fillPath
  cases storage.resolve? (String.ofList path) with
  | some value => exact ⟨_, rfl⟩
  | none =>
    cases policy with
    | word => exact ⟨_, rfl⟩
    | blank => exact ⟨_, rfl⟩
    | fail => exact absurd rfl h

/-- So has what is left of a text.  The induction is on what is left, for every number of characters
that a placeholder has taken. -/
theorem fillFrom_of_ne_fail {policy : UnresolvedPolicy} (h : policy ≠ .fail) (storage : Storage)
    (cs : List Char) (skip : Nat) : ∃ filled, fillFrom storage policy skip cs = .ok filled := by
  induction cs generalizing skip with
  | nil => exact ⟨[], by rw [fillFrom]⟩
  | cons c cs ih =>
    cases skip with
    | succ skip =>
      obtain ⟨filled, hfilled⟩ := ih skip
      exact ⟨filled, by rw [fillFrom, hfilled]⟩
    | zero =>
      rw [fillFrom]
      cases front (c :: cs) with
      | copyAll => exact ⟨_, rfl⟩
      | copyBraces =>
        obtain ⟨filled, hfilled⟩ := ih 1
        exact ⟨_, by simp only [hfilled]; rfl⟩
      | insert path =>
        obtain ⟨value, hvalue⟩ := fillPath_of_ne_fail h storage path
        obtain ⟨filled, hfilled⟩ := ih (path.length + 3)
        exact ⟨_, by simp only [hvalue, hfilled]; rfl⟩
      | copyOne =>
        obtain ⟨filled, hfilled⟩ := ih 0
        exact ⟨_, by simp only [hfilled]; rfl⟩

/-- **Every text is filled in** when a path that leads nowhere may stay. -/
theorem fill_of_ne_fail {policy : UnresolvedPolicy} (h : policy ≠ .fail) (storage : Storage)
    (text : String) : ∃ filled, fill storage policy text = .ok filled := by
  obtain ⟨filled, hfilled⟩ := fillFrom_of_ne_fail h storage text.toList 0
  exact ⟨String.ofList filled, by rw [fill, hfilled]; rfl⟩

end Narrative.Template
