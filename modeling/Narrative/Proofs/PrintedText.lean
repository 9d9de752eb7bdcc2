import Narrative.Json.Reader
import Narrative.Json.Writer
import Narrative.Proofs.Slots

/-!
# Proofs/PrintedText — what the indented text of a value reads back as

The reader takes the indented text of a value off the front of whatever stands behind it
(`Json.Reader.value_indented`), so long as its numbers are integers of 64 bits, its lists and
objects are not nested too deep for the reader, and what stands behind it is no part of a number.
A whole document is then read back as the value it was written from, the order of the fields
included (`Json.read?_prettyText`).

Each form of text has its own law: the characters of a quoted text one by one, the digits of an
integer, the items and the fields up to their closing bracket.
-/

namespace Narrative

namespace Json

/-! ## What the reader keeps -/

mutual

/-- **How deep the lists and objects of a value are nested.** -/
def nesting : Json → Nat
  | .arr items => nestingItems items + 1
  | .obj fields => nestingFields fields + 1
  | _ => 0

/-- The deepest nesting of the items. -/
def nestingItems : List Json → Nat
  | [] => 0
  | item :: items => max item.nesting (nestingItems items)

/-- The deepest nesting of the values of the fields. -/
def nestingFields : List (String × Json) → Nat
  | [] => 0
  | (_, value) :: fields => max value.nesting (nestingFields fields)

end

mutual

/-- **Every number of the value is an integer** between the least signed and the greatest unsigned
number of 64 bits. -/
def Integral : Json → Prop
  | .int n => -(Reader.maxNegated : Int) ≤ n ∧ n ≤ (Text.Numeral.max64 : Int)
  | .float _ => False
  | .arr items => IntegralItems items
  | .obj fields => IntegralFields fields
  | _ => True

/-- Every number of the items is an integer. -/
def IntegralItems : List Json → Prop
  | [] => True
  | item :: items => item.Integral ∧ IntegralItems items

/-- Every number of the fields is an integer. -/
def IntegralFields : List (String × Json) → Prop
  | [] => True
  | (_, value) :: fields => value.Integral ∧ IntegralFields fields

end

mutual

/-- **A value with distinct names is settled.** -/
theorem settle_of_wellFormed : (value : Json) → value.WellFormed → value.settle = value
  | .null, _ => rfl
  | .bool _, _ => rfl
  | .int _, _ => rfl
  | .float _, _ => rfl
  | .str _, _ => rfl
  | .arr items, h => by
    rw [settle, settleItems_of_wellFormed items h]
  | .obj fields, h => by
    rw [settle, settleFields_of_wellFormed fields h.2,
      Fields.extend_of_fresh (List.nil_append fields ▸ h.1), List.nil_append]

theorem settleItems_of_wellFormed :
    (items : List Json) → WellFormedItems items → settleItems items = items
  | [], _ => rfl
  | item :: items, h => by
    rw [settleItems, settle_of_wellFormed item h.1, settleItems_of_wellFormed items h.2]

theorem settleFields_of_wellFormed :
    (fields : List (String × Json)) → WellFormedFields fields → settleFields fields = fields
  | [], _ => rfl
  | (name, value) :: fields, h => by
    rw [settleFields, settle_of_wellFormed value h.1, settleFields_of_wellFormed fields h.2]

end

namespace Reader

/-! ## Blanks -/

/-- A text that begins with no blank keeps all its characters. -/
theorem skipSpaces_of_head {c : Char} (cs : List Char) (h : isSpace c = false) :
    skipSpaces (c :: cs) = c :: cs := by
  rw [skipSpaces, List.dropWhile_cons_of_neg (by simp [h])]

/-- A new line is skipped, with its indentation. -/
theorem skipSpaces_newLine (level : Nat) (cs : List Char) :
    skipSpaces (newLine level ++ cs) = skipSpaces cs := by
  rw [skipSpaces, skipSpaces, List.dropWhile_append_of_pos]
  intro c hc
  rcases List.mem_cons.1 hc with rfl | hc
  · decide
  · rw [List.eq_of_mem_replicate hc]
    decide

/-! ## Quoted texts -/

theorem hexDigit?_hexDigit : ∀ n < 16, Text.Numeral.hexDigit? (hexDigit n) = some n := by decide

/-- The numbered form of a control character. -/
theorem numbered_control {c : Char} (h : c.toNat < 32) (cs : List Char) :
    numbered ('0' :: '0' :: hexDigit (c.toNat / 16) :: hexDigit (c.toNat % 16) :: cs)
      = some (c, cs) := by
  have hhigh := hexDigit?_hexDigit (c.toNat / 16) (by omega)
  have hlow := hexDigit?_hexDigit (c.toNat % 16) (by omega)
  have hzero : Text.Numeral.hexDigit? '0' = some 0 := by decide
  have hsum : ((0 * 16 + 0) * 16 + c.toNat / 16) * 16 + c.toNat % 16 = c.toNat := by omega
  have hquad : hexQuad ('0' :: '0' :: hexDigit (c.toNat / 16) :: hexDigit (c.toNat % 16) :: cs)
      = some (c.toNat, cs) := by
    simp only [hexQuad, hzero, hhigh, hlow, Option.bind_eq_bind, Option.bind_some, hsum,
      Option.pure_def]
  have hnotLow : ¬ (0xDC00 ≤ c.toNat ∧ c.toNat ≤ 0xDFFF) := by omega
  have hnotHigh : ¬ (0xD800 ≤ c.toNat ∧ c.toNat ≤ 0xDBFF) := by omega
  simp only [numbered, hquad, Option.bind_eq_bind, Option.bind_some, if_neg hnotLow,
    if_neg hnotHigh, Option.pure_def, Char.ofNat_toNat]

/-- An escape by one letter. -/
theorem quoted_letter {e d : Char} (he : simpleEscape? e = some d) (fuel : Nat) (cs : List Char) :
    quoted (fuel + 1) ('\\' :: e :: cs)
      = (quoted fuel cs).map fun (ds, rest) => (d :: ds, rest) := by
  have hu : e ≠ 'u' := by
    rintro rfl
    simp [simpleEscape?] at he
  cases hrest : quoted fuel cs <;> simp [quoted, he, hrest]

/-- **A character reads back from its escape**, or from itself. -/
theorem quoted_quoteChar (c : Char) (fuel : Nat) (cs : List Char) :
    quoted (fuel + 1) (quoteChar c ++ cs)
      = (quoted fuel cs).map fun (ds, rest) => (c :: ds, rest) := by
  rw [quoteChar]
  -- The escapes by a letter come first, in the order in which the writer tries them.
  iterate 7
    split
    · subst_vars
      exact quoted_letter (by decide) fuel cs
  split
  · next hcontrol =>
    cases hrest : quoted fuel cs <;>
      simp [quoted, numbered_control hcontrol, hrest]
  · next hquote hslash _ _ _ _ _ hcontrol =>
    cases hrest : quoted fuel cs <;> simp [quoted, hquote, hslash, hcontrol, hrest]

/-- **A quoted text reads back.** -/
theorem quoted_flatMap (cs rest : List Char) {fuel : Nat} (h : cs.length < fuel) :
    quoted fuel (cs.flatMap quoteChar ++ '"' :: rest) = some (cs, rest) := by
  induction cs generalizing fuel with
  | nil =>
    obtain ⟨fuel, rfl⟩ := Nat.exists_eq_add_one.2 h
    simp [quoted]
  | cons c cs ih =>
    obtain ⟨fuel, rfl⟩ := Nat.exists_eq_add_one.2 (Nat.zero_lt_of_lt h)
    rw [List.flatMap_cons, List.append_assoc, quoted_quoteChar,
      ih (Nat.lt_of_succ_lt_succ h), Option.map_some]

/-! ## Integers -/

/-- **What stands behind a number ends it**: it is no digit, point or exponent letter. -/
def EndsNumber (rest : List Char) : Prop :=
  ∀ c ∈ rest.head?, c.isDigit = false ∧ c ≠ '.' ∧ c ≠ 'e' ∧ c ≠ 'E'

theorem le_ofDigitChars (ds : List Char) (start : Nat) : start ≤ Nat.ofDigitChars 10 ds start := by
  induction ds generalizing start with
  | nil => exact Nat.le_refl start
  | cons d ds ih =>
    rw [Nat.ofDigitChars_cons]
    exact Nat.le_trans (by omega) (ih (10 * start + (d.toNat - '0'.toNat)))

/-- **The digits of a number of 64 bits** are all taken. -/
theorem accumulate_of_le {ds : List Char} {start : Nat}
    (h : Nat.ofDigitChars 10 ds start ≤ Text.Numeral.max64) :
    accumulate start (ds.map fun c => c.toNat - 48) = (Nat.ofDigitChars 10 ds start, []) := by
  induction ds generalizing start with
  | nil => rfl
  | cons d ds ih =>
    rw [Nat.ofDigitChars_cons] at h ⊢
    have hfits : 10 * start + (d.toNat - 48) ≤ Text.Numeral.max64 :=
      Nat.le_trans (le_ofDigitChars ds _) h
    rw [List.map_cons, accumulate, if_pos hfits]
    exact ih h

theorem accumulate_toDigits {n : Nat} (h : n ≤ Text.Numeral.max64) :
    accumulate 0 ((Nat.toDigits 10 n).map fun c => c.toNat - 48) = (n, []) := by
  have hvalue : Nat.ofDigitChars 10 (Nat.toDigits 10 n) 0 = n :=
    Nat.ofDigitChars_toDigits (by decide) (by decide)
  rw [accumulate_of_le (by rw [hvalue]; exact h), hvalue]

/-- A numeral begins with a digit. -/
theorem toDigits_cons (n : Nat) :
    ∃ c cs, Nat.toDigits 10 n = c :: cs ∧ c.isDigit = true := by
  obtain ⟨c, cs, hcons⟩ := List.exists_cons_of_ne_nil (Nat.toDigits_ne_nil (b := 10) (n := n))
  exact ⟨c, cs, hcons, Nat.isDigit_of_mem_toDigits (b := 10) (n := n) (by decide) (by decide)
    (hcons ▸ List.mem_cons_self)⟩

/-- **No numeral begins with a zero**, but that of zero. -/
theorem eq_zero_of_toDigits {n : Nat} {ds : List Char} (h : Nat.toDigits 10 n = '0' :: ds) :
    n = 0 := by
  induction n using Nat.strongRecOn generalizing ds with
  | ind n ih =>
    rw [Nat.toDigits_eq_if (by decide)] at h
    split at h
    · exact Nat.digitChar_eq_zero.1 (List.cons.inj h).1
    · cases hfront : Nat.toDigits 10 (n / 10) with
      | nil => exact absurd hfront Nat.toDigits_ne_nil
      | cons d front =>
        rw [hfront] at h
        obtain rfl : d = '0' := (List.cons.inj h).1
        have := ih (n / 10) (by omega) hfront
        omega

/-- A leading zero is the only digit. -/
theorem map_toDigits_ne (n d : Nat) (ds : List Nat) :
    (Nat.toDigits 10 n).map (fun c => c.toNat - 48) ≠ 0 :: d :: ds := by
  intro h
  obtain ⟨c, cs, hdigits, hdigit⟩ := toDigits_cons n
  rw [hdigits, List.map_cons] at h
  obtain ⟨hzero, hmore⟩ := List.cons.inj h
  have hc : c = '0' := by
    obtain ⟨hleast, -⟩ := Char.isDigit_iff_toNat.1 hdigit
    have hvalue : '0'.toNat = c.toNat := Nat.le_antisymm hleast (Nat.le_of_sub_eq_zero hzero)
    exact (Char.toNat_inj.1 hvalue).symm
  obtain rfl := eq_zero_of_toDigits (hc ▸ hdigits)
  rw [Nat.toDigits_of_lt_base (by decide)] at hdigits
  obtain rfl := (List.cons.inj hdigits).2
  exact List.cons_ne_nil _ _ hmore.symm

/-- The digits of a number, off the front of what ends it. -/
theorem digits_toDigits (n : Nat) {rest : List Char} (h : EndsNumber rest) :
    digits (Nat.toDigits 10 n ++ rest) = ((Nat.toDigits 10 n).map fun c => c.toNat - 48, rest) := by
  have hdigits : ∀ c ∈ Nat.toDigits 10 n, c.isDigit = true := fun c hc =>
    Nat.isDigit_of_mem_toDigits (by decide) (by decide) hc
  have hrest : rest.takeWhile Char.isDigit = [] ∧ rest.dropWhile Char.isDigit = rest := by
    cases rest with
    | nil => exact ⟨rfl, rfl⟩
    | cons c rest =>
      have hc := (h c rfl).1
      exact ⟨List.takeWhile_cons_of_neg (by simp [hc]), List.dropWhile_cons_of_neg (by simp [hc])⟩
  rw [digits, List.takeWhile_append_of_pos hdigits, List.dropWhile_append_of_pos hdigits, hrest.1,
    hrest.2, List.append_nil]

/-- **The number of a numeral**, an integer unless its negation does not fit. -/
theorem unsignedNumber_toDigits (negative : Bool) {n : Nat} (h : n ≤ Text.Numeral.max64)
    {rest : List Char} (hrest : EndsNumber rest) :
    unsignedNumber negative (Nat.toDigits 10 n ++ rest)
      = if !negative then some (.int n, rest)
        else if 0 < n ∧ n ≤ maxNegated then some (.int (-(n : Int)), rest)
        else (double negative n 0).map (·, rest) := by
  obtain ⟨d, ds, hds, -⟩ := toDigits_cons n
  rw [unsignedNumber, digits_toDigits n hrest]
  split
  · next hnone => simp [hds] at hnone
  · next hzero => exact absurd (Prod.mk.inj hzero).1 (map_toDigits_ne n _ _)
  · next heq =>
    obtain ⟨rfl, rfl⟩ := Prod.mk.inj heq
    rw [accumulate_toDigits h]
    cases rest with
    | nil => simp
    | cons c rest =>
      obtain ⟨-, hpoint, hsmall, hcapital⟩ := hrest c rfl
      simp [hpoint, hsmall, hcapital]

theorem toList_signedText_ofNat (n : Nat) :
    (Text.Numeral.signedText n).toList = Nat.toDigits 10 n := Nat.toList_repr

theorem toList_signedText_negSucc (n : Nat) :
    (Text.Numeral.signedText (.negSucc n)).toList = '-' :: Nat.toDigits 10 (n + 1) := by
  have hdigits : (Text.Numeral.text (n + 1)).toList = Nat.toDigits 10 (n + 1) := Nat.toList_repr
  rw [Text.Numeral.signedText, String.toList_append, hdigits]
  rfl

/-- **An integer begins with a digit or a minus sign**, and so with no other character. -/
theorem signedText_cons (n : Int) : ∃ c cs, (Text.Numeral.signedText n).toList = c :: cs
    ∧ ∀ d : Char, d.isDigit = false → d ≠ '-' → c ≠ d := by
  cases n with
  | ofNat n =>
    obtain ⟨c, cs, hcons, hdigit⟩ := toDigits_cons n
    refine ⟨c, cs, (toList_signedText_ofNat n).trans hcons, ?_⟩
    rintro d hother - rfl
    simp [hdigit] at hother
  | negSucc n =>
    exact ⟨'-', _, toList_signedText_negSucc n, fun d _ hminus => hminus.symm⟩

/-- **An integer of 64 bits reads back.** -/
theorem number_signedText {n : Int} (h : (Json.int n).Integral) {rest : List Char}
    (hrest : EndsNumber rest) :
    number ((Text.Numeral.signedText n).toList ++ rest) = some (.int n, rest) := by
  obtain ⟨hleast, hgreatest⟩ := h
  cases n with
  | ofNat n =>
    have hread := unsignedNumber_toDigits false (Int.ofNat_le.1 hgreatest) hrest
    obtain ⟨c, cs, hcons, hdigit⟩ := toDigits_cons n
    have hminus : c ≠ '-' := by
      rintro rfl
      exact absurd hdigit (by decide)
    rw [Int.ofNat_eq_natCast, toList_signedText_ofNat]
    rw [hcons, List.cons_append] at hread ⊢
    rw [number]
    · exact hread
    · exact fun _ heq => hminus (List.cons.inj heq).1
  | negSucc n =>
    have hfits : n + 1 ≤ maxNegated := by omega
    have hmax : maxNegated ≤ Text.Numeral.max64 := by decide
    rw [toList_signedText_negSucc, List.cons_append, number,
      unsignedNumber_toDigits true (Nat.le_trans hfits hmax) hrest]
    simp only [Bool.not_true, Bool.false_eq_true, if_false, if_pos (And.intro n.succ_pos hfits)]
    rfl

/-! ## Values without parts -/

theorem value_of_ne {c : Char} (hlist : c ≠ '[') (hobject : c ≠ '{') (fuel depth : Nat)
    (cs : List Char) : value fuel depth (c :: cs) = scalar fuel (c :: cs) := by
  cases depth <;> simp [value, hlist, hobject]

theorem scalar_of_ne {c : Char} (hnull : c ≠ 'n') (htrue : c ≠ 't') (hfalse : c ≠ 'f')
    (hquote : c ≠ '"') (fuel : Nat) (cs : List Char) :
    scalar fuel (c :: cs) = number (c :: cs) := by
  simp [scalar, hnull, htrue, hfalse, hquote]

theorem value_int {n : Int} (h : (Json.int n).Integral) (fuel depth : Nat) {rest : List Char}
    (hrest : EndsNumber rest) :
    value fuel depth ((Text.Numeral.signedText n).toList ++ rest) = some (.int n, rest) := by
  have hread := number_signedText h hrest
  obtain ⟨c, cs, hcons, hne⟩ := signedText_cons n
  rw [hcons, List.cons_append] at hread ⊢
  rw [value_of_ne (hne _ (by decide) (by decide)) (hne _ (by decide) (by decide)),
    scalar_of_ne (hne _ (by decide) (by decide)) (hne _ (by decide) (by decide))
      (hne _ (by decide) (by decide)) (hne _ (by decide) (by decide)), hread]

/-- A text in quotes is longer than the text. -/
theorem length_lt_quote (s : String) : s.toList.length + 1 < (quote s).length := by
  have hlong : ∀ cs : List Char, cs.length ≤ (cs.flatMap quoteChar).length := by
    intro cs
    induction cs with
    | nil => exact Nat.le_refl 0
    | cons c cs ih =>
      have hone : 0 < (quoteChar c).length := by
        unfold quoteChar
        repeat' split
        all_goals exact Nat.zero_lt_succ _
      rw [List.flatMap_cons, List.length_append, List.length_cons]
      omega
  have := hlong s.toList
  simp only [quote, List.cons_append, List.length_cons, List.length_append, List.length_nil]
  omega

/-- **A text in quotes reads back.** -/
theorem quoted_quote (s : String) {fuel : Nat} (hfuel : (quote s).length ≤ fuel)
    (rest : List Char) :
    ∃ cs, quote s ++ rest = '"' :: cs ∧ quoted fuel cs = some (s.toList, rest) := by
  refine ⟨s.toList.flatMap quoteChar ++ '"' :: rest, ?_, quoted_flatMap _ _ ?_⟩
  · simp [quote]
  · have := length_lt_quote s
    omega

theorem value_str (s : String) {fuel : Nat} (hfuel : (quote s).length ≤ fuel) (depth : Nat)
    (rest : List Char) : value fuel depth (quote s ++ rest) = some (.str s, rest) := by
  obtain ⟨cs, hcons, hread⟩ := quoted_quote s hfuel rest
  rw [hcons, value_of_ne (by decide) (by decide), scalar, hread]
  simp only [Option.map_some, String.ofList_toList]

/-! ## Lists and objects -/

/-- **The first character of a value** is no blank and closes no list. -/
theorem indented_cons {v : Json} (h : v.Integral) (level : Nat) :
    ∃ c cs, v.indented level = c :: cs ∧ isSpace c = false ∧ c ≠ ']' := by
  cases v with
  | null => exact ⟨_, _, rfl, by decide, by decide⟩
  | bool b => cases b <;> exact ⟨_, _, rfl, by decide, by decide⟩
  | int n =>
    obtain ⟨c, cs, hcons, hne⟩ := signedText_cons n
    refine ⟨c, cs, hcons, ?_, hne _ (by decide) (by decide)⟩
    simp [isSpace, hne ' ' (by decide) (by decide), hne '\n' (by decide) (by decide),
      hne '\t' (by decide) (by decide), hne '\r' (by decide) (by decide)]
  | float x => exact h.elim
  | str s => exact ⟨_, _, rfl, by decide, by decide⟩
  | arr items => cases items <;> exact ⟨_, _, rfl, by decide, by decide⟩
  | obj fields => cases fields <;> exact ⟨_, _, rfl, by decide, by decide⟩

/-- No blank stands before a value. -/
theorem skipSpaces_indented {v : Json} (h : v.Integral) (level : Nat) (rest : List Char) :
    skipSpaces (v.indented level ++ rest) = v.indented level ++ rest := by
  obtain ⟨c, cs, hcons, hspace, -⟩ := indented_cons h level
  rw [hcons, List.cons_append, skipSpaces_of_head _ hspace]

/-- What stands behind an item or a field of a list or an object ends a number. -/
theorem endsNumber_items (level outer : Nat) (items : List Json) (cs : List Char) :
    EndsNumber (indentedItems level items ++ (newLine outer ++ cs)) := by
  intro c hc
  cases items <;> cases hc <;> decide

theorem endsNumber_fields (level outer : Nat) (fields : List (String × Json)) (cs : List Char) :
    EndsNumber (indentedFields level fields ++ (newLine outer ++ cs)) := by
  intro c hc
  cases fields with
  | nil => cases hc; decide
  | cons field fields => obtain ⟨name, value⟩ := field; cases hc; decide

/-- **A further item**, off the front. -/
theorem moreItems_cons {item : Nat → Scan Json} {fuel place : Nat} {v : Json} {values : List Json}
    {level : Nat} (hv : v.Integral) {more rest : List Char}
    (hitem : item place (v.indented level ++ more) = some (v, more))
    (hmore : moreItems item fuel (place + 1) more = some (values, rest)) :
    moreItems item (fuel + 1) place (',' :: (newLine level ++ (v.indented level ++ more)))
      = some (v :: values, rest) := by
  rw [moreItems, skipSpaces_of_head _ (by decide)]
  simp only [skipSpaces_newLine, skipSpaces_indented hv, hitem, hmore, Option.bind_eq_bind,
    Option.bind_some, Option.pure_def]

theorem moreItems_nil (item : Nat → Scan Json) (fuel place level : Nat) (rest : List Char) :
    moreItems item (fuel + 1) place (newLine level ++ ']' :: rest) = some ([], rest) := by
  rw [moreItems, skipSpaces_newLine, skipSpaces_of_head _ (by decide)]
  rfl

/-- **A list with items**, after its opening bracket. -/
theorem list_cons {item : Nat → Scan Json} {fuel : Nat} {v : Json} {values : List Json}
    {level : Nat} (hv : v.Integral) {more rest : List Char}
    (hitem : item 0 (v.indented level ++ more) = some (v, more))
    (hmore : moreItems item fuel 1 more = some (values, rest)) :
    list item fuel (newLine level ++ (v.indented level ++ more))
      = some (.arr (v :: values), rest) := by
  obtain ⟨c, cs, hcons, -, hclose⟩ := indented_cons hv level
  rw [list, skipSpaces_newLine, skipSpaces_indented hv]
  rw [hcons, List.cons_append] at hitem ⊢
  split
  · next heq => exact absurd (List.cons.inj heq).1 hclose
  · simp only [hitem, hmore, Option.bind_eq_bind, Option.bind_some, Option.pure_def]

/-- **A field**: its name, the colon and its value. -/
theorem namedValue_quote {item : String → Scan Json} {fuel : Nat} {name : String} {v : Json}
    {level : Nat} (hv : v.Integral) (hfuel : (quote name).length ≤ fuel) {more : List Char}
    (hitem : item name (v.indented level ++ more) = some (v, more)) :
    namedValue item fuel (quote name ++ ':' :: ' ' :: (v.indented level ++ more))
      = some ((name, v), more) := by
  obtain ⟨cs, hcons, hread⟩ :=
    quoted_quote name hfuel (':' :: ' ' :: (v.indented level ++ more))
  have hblank : skipSpaces (' ' :: (v.indented level ++ more)) = v.indented level ++ more :=
    skipSpaces_indented hv level more
  rw [hcons, namedValue]
  simp only [hread, Option.bind_eq_bind, Option.bind_some]
  rw [skipSpaces_of_head _ (by decide)]
  simp only [hblank, String.ofList_toList, hitem, Option.bind_some, Option.pure_def]

/-- **A further field**, off the front. -/
theorem moreFields_cons {item : String → Scan Json} {textFuel fuel : Nat} {name : String}
    {v : Json} {fields : List (String × Json)} {level : Nat} (hv : v.Integral)
    (hfuel : (quote name).length ≤ textFuel) {more rest : List Char}
    (hitem : item name (v.indented level ++ more) = some (v, more))
    (hmore : moreFields item textFuel fuel more = some (fields, rest)) :
    moreFields item textFuel (fuel + 1)
        (',' :: (newLine level ++ (quote name ++ ':' :: ' ' :: (v.indented level ++ more))))
      = some ((name, v) :: fields, rest) := by
  have hopen : ∀ cs, skipSpaces (quote name ++ cs) = quote name ++ cs := fun cs =>
    skipSpaces_of_head _ (by decide)
  rw [moreFields, skipSpaces_of_head _ (by decide)]
  simp only [skipSpaces_newLine, hopen, namedValue_quote hv hfuel hitem, hmore,
    Option.bind_eq_bind, Option.bind_some, Option.pure_def]

theorem moreFields_nil (item : String → Scan Json) (textFuel fuel level : Nat)
    (rest : List Char) :
    moreFields item textFuel (fuel + 1) (newLine level ++ '}' :: rest) = some ([], rest) := by
  rw [moreFields, skipSpaces_newLine, skipSpaces_of_head _ (by decide)]
  rfl

/-- **An object with fields**, after its opening brace. -/
theorem object_cons {item : String → Scan Json} {fuel : Nat} {name : String} {v : Json}
    {fields : List (String × Json)} {level : Nat} (hv : v.Integral)
    (hfuel : (quote name).length ≤ fuel) {more rest : List Char}
    (hitem : item name (v.indented level ++ more) = some (v, more))
    (hmore : moreFields item fuel fuel more = some (fields, rest)) :
    object item fuel
        (newLine level ++ (quote name ++ ':' :: ' ' :: (v.indented level ++ more)))
      = some (.obj ((name, v) :: fields), rest) := by
  have hfield := namedValue_quote hv hfuel hitem
  obtain ⟨cs, hcons, -⟩ := quoted_quote name hfuel (':' :: ' ' :: (v.indented level ++ more))
  rw [hcons] at hfield ⊢
  rw [object, Reader.fields, skipSpaces_newLine, skipSpaces_of_head _ (by decide)]
  show Option.map _ ((namedValue item fuel ('"' :: cs)).bind _) = _
  simp only [hfield, hmore, Option.bind_eq_bind, Option.bind_some, Option.pure_def,
    Option.map_some]

/-! ## Values

Two amounts of fuel are at work.  That of the texts and values stays as it is on the way down, and
the whole text is no longer than it; that of the items and fields is used up by one for each, and
each has at least its comma. -/

mutual

/-- **The indented text of a value reads back**, whatever stands behind it. -/
theorem value_indented : (v : Json) → v.Integral → ∀ {fuel depth level : Nat} {rest : List Char},
    v.nesting ≤ depth → (v.indented level).length ≤ fuel → EndsNumber rest →
    value fuel depth (v.indented level ++ rest) = some (v, rest)
  | .null, _, _, _, _, _, _, _, _ => value_of_ne (by decide) (by decide) _ _ _
  | .bool true, _, _, _, _, _, _, _, _ => value_of_ne (by decide) (by decide) _ _ _
  | .bool false, _, _, _, _, _, _, _, _ => value_of_ne (by decide) (by decide) _ _ _
  | .int n, h, _, _, _, _, _, _, hrest => value_int h _ _ hrest
  | .float x, h, _, _, _, _, _, _, _ => h.elim
  | .str s, _, _, _, _, _, _, hfuel, _ => value_str s hfuel _ _
  | .arr [], _, _, _ + 1, _, _, _, _, _ => rfl
  | .arr (item :: items), h, fuel, depth + 1, level, rest, hdepth, hfuel, _ => by
    obtain ⟨hitem, hitems⟩ := Nat.max_le.1 (Nat.le_of_succ_le_succ hdepth)
    simp only [indented, List.length_append, List.length_cons] at hfuel
    simp only [indented, List.cons_append, List.append_assoc, List.nil_append, value]
    exact list_cons h.1
      (value_indented item h.1 hitem (by omega) (endsNumber_items (level + 1) level items _))
      (moreItems_indented items h.2 hitems (by omega) (by omega))
  | .obj [], _, _, _ + 1, _, _, _, _, _ => rfl
  | .obj ((name, v) :: fields), h, fuel, depth + 1, level, rest, hdepth, hfuel, _ => by
    obtain ⟨hv, hfields⟩ := Nat.max_le.1 (Nat.le_of_succ_le_succ hdepth)
    simp only [indented, List.length_append, List.length_cons] at hfuel
    simp only [indented, List.cons_append, List.append_assoc, List.nil_append, value]
    exact object_cons h.1 (by omega)
      (value_indented v h.1 hv (by omega) (endsNumber_fields (level + 1) level fields _))
      (moreFields_indented fields h.2 hfields (by omega) (by omega))

/-- The items after the first read back, up to the closing bracket. -/
theorem moreItems_indented : (items : List Json) → IntegralItems items →
    ∀ {textFuel fuel depth place level outer : Nat} {rest : List Char},
    nestingItems items ≤ depth → (indentedItems level items).length ≤ textFuel →
    (indentedItems level items).length < fuel →
    moreItems (fun _ => value textFuel depth) fuel place
        (indentedItems level items ++ (newLine outer ++ ']' :: rest)) = some (items, rest)
  | [], _, _, fuel + 1, _, _, _, _, _, _, _, _ => moreItems_nil _ _ _ _ _
  | item :: items, h, textFuel, fuel + 1, depth, place, level, outer, rest, hdepth, htext,
      hfuel => by
    obtain ⟨hitem, hitems⟩ := Nat.max_le.1 hdepth
    simp only [indentedItems, List.length_append, List.length_cons] at htext hfuel
    simp only [indentedItems, List.cons_append, List.append_assoc]
    exact moreItems_cons h.1
      (value_indented item h.1 hitem (by omega) (endsNumber_items level outer items _))
      (moreItems_indented items h.2 hitems (by omega) (by omega))

/-- The fields after the first read back, up to the closing brace. -/
theorem moreFields_indented : (fields : List (String × Json)) → IntegralFields fields →
    ∀ {textFuel fuel depth level outer : Nat} {rest : List Char},
    nestingFields fields ≤ depth → (indentedFields level fields).length ≤ textFuel →
    (indentedFields level fields).length < fuel →
    moreFields (fun _ => value textFuel depth) textFuel fuel
        (indentedFields level fields ++ (newLine outer ++ '}' :: rest)) = some (fields, rest)
  | [], _, _, fuel + 1, _, _, _, _, _, _, _ => moreFields_nil _ _ _ _ _
  | (name, v) :: fields, h, textFuel, fuel + 1, depth, level, outer, rest, hdepth, htext,
      hfuel => by
    obtain ⟨hv, hfields⟩ := Nat.max_le.1 hdepth
    simp only [indentedFields, List.length_append, List.length_cons] at htext hfuel
    simp only [indentedFields, List.cons_append, List.append_assoc]
    exact moreFields_cons h.1 (by omega)
      (value_indented v h.1 hv (by omega) (endsNumber_fields level outer fields _))
      (moreFields_indented fields h.2 hfields (by omega) (by omega))

end

end Reader

/-- **A value that the reader keeps**: its names are distinct, its numbers are integers of 64 bits,
and it is not nested too deep. -/
structure Rereadable (value : Json) : Prop where
  /-- Every object has distinct names. -/
  names : value.WellFormed
  /-- Every number is an integer that is kept exactly. -/
  numbers : value.Integral
  /-- Lists and objects are nested within the limit of the reader. -/
  depth : value.nesting ≤ Reader.maxNesting

mutual

/-- Whether a value is well formed can be computed. -/
def decWellFormed : (value : Json) → Decidable value.WellFormed
  | .null | .bool _ | .int _ | .float _ | .str _ => .isTrue trivial
  | .arr items => decWellFormedItems items
  | .obj fields =>
    have := decWellFormedFields fields
    have : Decidable (Fields.Distinct fields) := inferInstanceAs (Decidable (List.Nodup _))
    inferInstanceAs (Decidable (Fields.Distinct fields ∧ WellFormedFields fields))

/-- Whether all items are well formed can be computed. -/
def decWellFormedItems : (items : List Json) → Decidable (WellFormedItems items)
  | [] => .isTrue trivial
  | item :: items =>
    have := decWellFormed item
    have := decWellFormedItems items
    inferInstanceAs (Decidable (item.WellFormed ∧ WellFormedItems items))

/-- Whether the values of all fields are well formed can be computed. -/
def decWellFormedFields : (fields : List (String × Json)) → Decidable (WellFormedFields fields)
  | [] => .isTrue trivial
  | (_, value) :: fields =>
    have := decWellFormed value
    have := decWellFormedFields fields
    inferInstanceAs (Decidable (value.WellFormed ∧ WellFormedFields fields))

end

mutual

/-- Whether all numbers of a value are integers can be computed. -/
def decIntegral : (value : Json) → Decidable value.Integral
  | .null | .bool _ | .str _ => .isTrue trivial
  | .int n => inferInstanceAs
      (Decidable (-(Reader.maxNegated : Int) ≤ n ∧ n ≤ (Text.Numeral.max64 : Int)))
  | .float _ => .isFalse id
  | .arr items => decIntegralItems items
  | .obj fields => decIntegralFields fields

/-- Whether all numbers of the items are integers can be computed. -/
def decIntegralItems : (items : List Json) → Decidable (IntegralItems items)
  | [] => .isTrue trivial
  | item :: items =>
    have := decIntegral item
    have := decIntegralItems items
    inferInstanceAs (Decidable (item.Integral ∧ IntegralItems items))

/-- Whether all numbers of the fields are integers can be computed. -/
def decIntegralFields : (fields : List (String × Json)) → Decidable (IntegralFields fields)
  | [] => .isTrue trivial
  | (_, value) :: fields =>
    have := decIntegral value
    have := decIntegralFields fields
    inferInstanceAs (Decidable (value.Integral ∧ IntegralFields fields))

end

instance (value : Json) : Decidable value.Rereadable :=
  have := decWellFormed value
  have := decIntegral value
  decidable_of_iff (value.WellFormed ∧ value.Integral ∧ value.nesting ≤ Reader.maxNesting)
    ⟨fun h => ⟨h.1, h.2.1, h.2.2⟩, fun h => ⟨h.names, h.numbers, h.depth⟩⟩

/-- **A value is read back from its indented text**, the order of the fields included. -/
theorem read?_prettyText {value : Json} (h : value.Rereadable) :
    Json.read? value.prettyText = some value := by
  have hend : Reader.EndsNumber [] := fun _ hc => by cases hc
  have hread := Reader.value_indented value h.numbers h.depth
    (Nat.le_succ (value.indented 0).length) hend
  have hskip := Reader.skipSpaces_indented h.numbers 0 []
  rw [List.append_nil] at hread hskip
  simp only [read?, prettyText, String.toList_ofList, Reader.document, hskip, hread]
  simp [Reader.skipSpaces, settle_of_wellFormed value h.names]

end Json

end Narrative
