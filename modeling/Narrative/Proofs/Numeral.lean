import Mathlib.Data.List.Induction
import Narrative.Text.Numeral

/-!
# Proofs/Numeral — what is read as a number

A run of digits is read as the number of which it is the decimal, with any number of zeros in front
(`readSome?_eq_some_iff`).  So characters are read as a number exactly if they are a **numeral** of
it, with or without a plus sign, and the number is not above the limit (`read?_eq_some_iff`).
-/

namespace Narrative.Text.Numeral

/-! ## Digits -/

theorem digit?_of_isDigit {c : Char} (h : c.isDigit = true) :
    digit? c = some (c.toNat - '0'.toNat) := by
  rw [Char.isDigit, Bool.and_eq_true, decide_eq_true_eq, decide_eq_true_eq] at h
  exact if_pos h

theorem isDigit_of_digit? {c : Char} {d : Nat} (h : digit? c = some d) : c.isDigit = true := by
  rw [digit?] at h
  split at h
  · next hc =>
    rw [Char.isDigit, Bool.and_eq_true, decide_eq_true_eq, decide_eq_true_eq]
    exact hc
  · cases h

/-- **A run of digits** has the value of its digits. -/
theorem readDigits?_eq {ds : List Char} (h : ∀ d ∈ ds, d.isDigit = true) (start : Nat) :
    readDigits? start ds = some (Nat.ofDigitChars 10 ds start) := by
  induction ds generalizing start with
  | nil => rfl
  | cons d ds ih =>
    obtain ⟨hd, hds⟩ := List.forall_mem_cons.1 h
    rw [readDigits?, digit?_of_isDigit hd, Option.bind_some, ih hds, Nat.ofDigitChars_cons]

/-- Nothing but digits is read. -/
theorem isDigit_of_readDigits? {cs : List Char} {start n : Nat}
    (h : readDigits? start cs = some n) : ∀ c ∈ cs, c.isDigit = true := by
  induction cs generalizing start with
  | nil => exact fun c hc => absurd hc List.not_mem_nil
  | cons c cs ih =>
    obtain ⟨d, hd, hcs⟩ := Option.bind_eq_some_iff.1 h
    exact List.forall_mem_cons.2 ⟨isDigit_of_digit? hd, ih hcs⟩

/-! ## Decimals -/

/-- **The decimal of a number**, with any number of zeros in front. -/
def IsDecimal (n : Nat) (cs : List Char) : Prop :=
  ∃ zeros, cs = List.replicate zeros '0' ++ (text n).toList

theorem toList_text (n : Nat) : (text n).toList = Nat.toDigits 10 n := Nat.toList_repr

theorem IsDecimal.isDigit {n : Nat} {cs : List Char} (h : IsDecimal n cs) :
    ∀ c ∈ cs, c.isDigit = true := by
  obtain ⟨zeros, rfl⟩ := h
  intro c hc
  rcases List.mem_append.1 hc with hc | hc
  · rw [List.eq_of_mem_replicate hc]
    rfl
  · rw [toList_text] at hc
    exact Nat.isDigit_of_mem_toDigits (by decide) (by decide) hc

/-- The digits have the value of the number. -/
theorem IsDecimal.ofDigitChars_eq {n : Nat} {cs : List Char} (h : IsDecimal n cs) :
    Nat.ofDigitChars 10 cs 0 = n := by
  obtain ⟨zeros, rfl⟩ := h
  rw [toList_text, Nat.ofDigitChars_append, Nat.ofDigitChars_replicate_zero, Nat.mul_zero,
    Nat.ofDigitChars_toDigits (by decide) (by decide)]

theorem digit_lt {d : Char} (h : d.isDigit = true) : d.toNat - '0'.toNat < 10 := by
  have hle : d.toNat ≤ 57 := (Char.isDigit_iff_toNat.1 h).2
  have hzero : '0'.toNat = 48 := rfl
  omega

/-- A digit is the decimal of its value. -/
theorem toDigits_of_isDigit {d : Char} (h : d.isDigit = true) :
    Nat.toDigits 10 (d.toNat - '0'.toNat) = [d] := by
  have hchar : ∀ n < 10, Nat.digitChar n = Char.ofNat ('0'.toNat + n) := by decide
  rw [Nat.toDigits_of_lt_base (digit_lt h), hchar _ (digit_lt h),
    Nat.add_sub_cancel' (Char.isDigit_iff_toNat.1 h).1, Char.ofNat_toNat]

/-- **Digits are the decimal of their value.**  The induction is on the last digit: behind zeros
alone it stands for itself, and behind another decimal it is the last digit of a longer one. -/
theorem isDecimal_ofDigitChars {ds : List Char} (hne : ds ≠ []) (h : ∀ d ∈ ds, d.isDigit = true) :
    IsDecimal (Nat.ofDigitChars 10 ds 0) ds := by
  induction ds using List.reverseRecOn with
  | nil => exact absurd rfl hne
  | append_singleton ds d ih =>
    obtain ⟨hds, hd⟩ := List.forall_mem_append.1 h
    have hlast := toDigits_of_isDigit (hd d List.mem_cons_self)
    have hlt := digit_lt (hd d List.mem_cons_self)
    have hvalue : Nat.ofDigitChars 10 (ds ++ [d]) 0
        = 10 * Nat.ofDigitChars 10 ds 0 + (d.toNat - '0'.toNat) := by
      rw [Nat.ofDigitChars_append, Nat.ofDigitChars_cons, Nat.ofDigitChars_nil]
    rw [hvalue]
    by_cases hnil : ds = []
    · subst hnil
      exact ⟨0, by rw [toList_text, Nat.ofDigitChars_nil, Nat.mul_zero, Nat.zero_add, hlast]; rfl⟩
    · obtain ⟨zeros, hzeros⟩ := ih hnil hds
      rw [toList_text] at hzeros
      rcases Nat.eq_zero_or_pos (Nat.ofDigitChars 10 ds 0) with hzero | hpos
      · refine ⟨zeros + 1, ?_⟩
        rw [hzero, Nat.toDigits_zero] at hzeros
        rw [toList_text, hzero, Nat.mul_zero, Nat.zero_add, hlast, List.replicate_succ', ← hzeros]
      · refine ⟨zeros, ?_⟩
        rw [toList_text, ← Nat.toDigits_append_toDigits (by decide) hpos hlt, hlast,
          ← List.append_assoc, ← hzeros]

theorem IsDecimal.ne_nil {n : Nat} {cs : List Char} (h : IsDecimal n cs) : cs ≠ [] := by
  obtain ⟨zeros, rfl⟩ := h
  rw [toList_text]
  exact List.append_ne_nil_of_right_ne_nil _ Nat.toDigits_ne_nil

/-- **What is read as a number** is its decimal, with any number of zeros in front. -/
theorem readSome?_eq_some_iff {n : Nat} {cs : List Char} :
    readSome? cs = some n ↔ IsDecimal n cs := by
  have hsome : ∀ {cs : List Char}, cs ≠ [] → readSome? cs = readDigits? 0 cs := by
    intro cs hne
    cases cs with
    | nil => exact absurd rfl hne
    | cons c cs => rfl
  constructor
  · intro h
    have hne : cs ≠ [] := by
      rintro rfl
      cases h
    rw [hsome hne] at h
    have hdigits := isDigit_of_readDigits? h
    rw [readDigits?_eq hdigits] at h
    exact Option.some.inj h ▸ isDecimal_ofDigitChars hne hdigits
  · intro h
    rw [hsome h.ne_nil, readDigits?_eq h.isDigit, h.ofDigitChars_eq]

/-! ## Numerals -/

/-- **A numeral of a number**: its decimal with any number of zeros in front, and perhaps a plus sign
before them. -/
def IsNumeral (n : Nat) (cs : List Char) : Prop :=
  IsDecimal n cs ∨ ∃ ds, cs = '+' :: ds ∧ IsDecimal n ds

/-- **What is read as a number** is a numeral of it, up to the limit. -/
theorem read?_eq_some_iff {limit n : Nat} {cs : List Char} :
    read? limit cs = some n ↔ IsNumeral n cs ∧ n ≤ limit := by
  unfold read?
  rw [Option.filter_eq_some_iff, decide_eq_true_iff]
  refine and_congr_left fun _ => ?_
  split
  · next ds =>
    -- A decimal does not begin with a plus sign.
    have hplus : ¬IsDecimal n ('+' :: ds) := fun h =>
      absurd (h.isDigit '+' List.mem_cons_self) (by decide)
    rw [readSome?_eq_some_iff, IsNumeral, or_iff_right hplus]
    simp
  · next hcs =>
    have hplus : ¬∃ ds, cs = '+' :: ds ∧ IsDecimal n ds := fun ⟨ds, hds, _⟩ => hcs ds hds
    rw [readSome?_eq_some_iff, IsNumeral, or_iff_left hplus]

/-- **A number reads back from its decimal.** -/
theorem read?_text {limit n : Nat} (h : n ≤ limit) : read? limit (text n).toList = some n :=
  read?_eq_some_iff.2 ⟨Or.inl ⟨0, rfl⟩, h⟩

end Narrative.Text.Numeral
