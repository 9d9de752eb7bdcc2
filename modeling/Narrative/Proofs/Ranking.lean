import Mathlib.Data.List.Pairwise
import Narrative.Proofs.FloatOrder
import Narrative.Proofs.Words
import Narrative.Suggestion

/-!
# Proofs/Ranking — suggested names come in tiers

Names are suggested by one number, their score, and by one sort of all of them.  What sorting comes
to is told by what it keeps (`ByDegree`): degrees fall along the list, and the entries of one degree
stand as they were given.  Only one list is like that (`ByDegree.unique`).

The scores lie in three bands, `2`, `1.5` and the similarities, which are at most `1`.  Lists sorted
within the bands are one after the other sorted as a whole (`ByDegree.append`), so the names that
start with the given one come first, then those that only contain it, then those that are similar;
and no name is left out by the limit while one of a lower rank is suggested (`ranked_by_tier`).

Scores are machine numbers, whose order is not linear.  But what is at most `1` is a number, and so
the sort is one by the rungs of the scores (`FloatOrder.rung`), which are linearly ordered.
-/

namespace Narrative

/-! ## Sorted by degree -/

/-- **Sorted by degree**: degrees fall along the list, and the entries of each degree are the given
ones, in the order in which they were given. -/
structure ByDegree {K β : Type} [LE K] [BEq K] (degree : β → K) (given sorted : List β) :
    Prop where
  /-- Degrees fall along the list. -/
  falls : sorted.Pairwise fun a b => degree b ≤ degree a
  /-- The entries of a degree are the given ones. -/
  fibre : ∀ d, sorted.filter (degree · == d) = given.filter (degree · == d)

namespace ByDegree

variable {K β γ : Type} [LinearOrder K] {degree : β → K} {given sorted other : List β}

theorem mem_iff (h : ByDegree degree given sorted) {entry : β} :
    entry ∈ sorted ↔ entry ∈ given := by
  have hfibre : entry ∈ sorted.filter (degree · == degree entry)
      ↔ entry ∈ given.filter (degree · == degree entry) := by rw [h.fibre]
  simpa using hfibre

theorem count_eq [BEq β] [LawfulBEq β] (h : ByDegree degree given sorted) (entry : β) :
    sorted.count entry = given.count entry := by
  have hcount : ∀ entries : List β,
      (entries.filter (degree · == degree entry)).count entry = entries.count entry :=
    fun entries => List.count_filter (beq_iff_eq.2 rfl)
  rw [← hcount sorted, h.fibre, hcount]

/-- The first entry has the highest degree. -/
theorem le_head {first : β} {more : List β} (h : ByDegree degree given (first :: more)) {entry : β}
    (hentry : entry ∈ given) : degree entry ≤ degree first := by
  rcases List.mem_cons.1 (h.mem_iff.2 hentry) with rfl | hmore
  · exact le_rfl
  · exact (List.pairwise_cons.1 h.falls).1 entry hmore

/-- **Only one list is sorted by degree.**  The induction is on the list: the heads have the highest
degree, so they are the first given entry of that degree. -/
theorem unique (h : ByDegree degree given sorted) (h' : ByDegree degree given other) :
    sorted = other := by
  induction sorted generalizing given other with
  | nil =>
    refine (List.eq_nil_iff_forall_not_mem.2 fun entry hentry => ?_).symm
    exact List.not_mem_nil (h.mem_iff.2 (h'.mem_iff.1 hentry))
  | cons first rest ih =>
    cases other with
    | nil => exact absurd (h'.mem_iff.2 (h.mem_iff.1 List.mem_cons_self)) List.not_mem_nil
    | cons first' more =>
      have hle : degree first ≤ degree first' := h'.le_head (h.mem_iff.1 List.mem_cons_self)
      have hge : degree first' ≤ degree first := h.le_head (h'.mem_iff.1 List.mem_cons_self)
      have hfibre : ∀ d, (first :: rest).filter (degree · == d)
          = (first' :: more).filter (degree · == d) := fun d => (h.fibre d).trans (h'.fibre d).symm
      have hheads := hfibre (degree first)
      simp only [List.filter_cons, beq_self_eq_true, if_true, le_antisymm hge hle,
        List.cons.injEq] at hheads
      obtain rfl := hheads.1
      have hrest : ∀ d, more.filter (degree · == d) = rest.filter (degree · == d) := by
        intro d
        have hd := hfibre d
        simp only [List.filter_cons] at hd
        split at hd
        · exact (List.cons.inj hd).2.symm
        · exact hd.symm
      have htail : ByDegree degree rest rest := ⟨h.falls.of_cons, fun _ => rfl⟩
      rw [ih htail ⟨h'.falls.of_cons, hrest⟩]

/-- Entries of one degree are sorted as they stand. -/
theorem of_constant {d : K} (h : ∀ entry ∈ given, degree entry = d) :
    ByDegree degree given given := by
  refine ⟨List.Pairwise.imp_of_mem (fun ha hb _ => ?_) (List.pairwise_of_forall fun _ _ => trivial),
    fun _ => rfl⟩
  rw [h _ ha, h _ hb]

/-- What counts is the degree of the given entries. -/
theorem congr {degree' : β → K} (h : ByDegree degree given sorted)
    (hsame : ∀ entry ∈ given, degree entry = degree' entry) : ByDegree degree' given sorted := by
  have hsorted : ∀ entry ∈ sorted, degree entry = degree' entry :=
    fun entry hentry => hsame entry (h.mem_iff.1 hentry)
  refine ⟨h.falls.imp_of_mem fun ha hb hle => ?_, fun d => ?_⟩
  · rwa [← hsorted _ ha, ← hsorted _ hb]
  · calc sorted.filter (degree' · == d)
        = sorted.filter (degree · == d) :=
          List.filter_congr fun entry hentry => by rw [hsorted entry hentry]
      _ = given.filter (degree · == d) := h.fibre d
      _ = given.filter (degree' · == d) :=
          List.filter_congr fun entry hentry => by rw [hsame entry hentry]

/-- Entries may be sorted by the degree of what they stand for. -/
theorem map {f : β → γ} {degree : γ → K}
    (h : ByDegree (fun entry => degree (f entry)) given sorted) :
    ByDegree degree (given.map f) (sorted.map f) := by
  refine ⟨List.pairwise_map.2 h.falls, fun d => ?_⟩
  rw [List.filter_map, List.filter_map]
  exact congrArg (List.map f) (h.fibre d)

/-- **Two bands**: where the entries of one have higher degrees than all others, the two can be
sorted apart. -/
theorem append {p : β → Prop} [DecidablePred p] {upper lower : List β}
    (hupper : ByDegree degree (given.filter (p ·)) upper)
    (hlower : ByDegree degree (given.filter (¬p ·)) lower)
    (habove : ∀ a ∈ given, ∀ b ∈ given, p a → ¬p b → degree b < degree a) :
    ByDegree degree given (upper ++ lower) := by
  have hin : ∀ entry, entry ∈ upper ↔ entry ∈ given ∧ p entry := fun entry => by
    rw [hupper.mem_iff, List.mem_filter, decide_eq_true_iff]
  have hout : ∀ entry, entry ∈ lower ↔ entry ∈ given ∧ ¬p entry := fun entry => by
    rw [hlower.mem_iff, List.mem_filter, decide_eq_true_iff]
  refine ⟨List.pairwise_append.2 ⟨hupper.falls, hlower.falls, fun a ha b hb => ?_⟩, fun d => ?_⟩
  · obtain ⟨ha, hpa⟩ := (hin a).1 ha
    obtain ⟨hb, hpb⟩ := (hout b).1 hb
    exact le_of_lt (habove a ha b hb hpa hpb)
  · rw [List.filter_append, hupper.fibre, hlower.fibre, List.filter_filter, List.filter_filter]
    -- A degree is found in one band only.
    by_cases hmet : ∃ a ∈ given, degree a = d ∧ p a
    · obtain ⟨a, ha, rfl, hpa⟩ := hmet
      have hall : ∀ b ∈ given, degree b = degree a → p b := fun b hb heq =>
        by_contra fun hpb => absurd heq (ne_of_lt (habove a ha b hb hpa hpb))
      have hnone : given.filter (fun b => (degree b == degree a) && decide (¬p b)) = [] :=
        List.filter_eq_nil_iff.2 fun b hb => by simpa using hall b hb
      rw [hnone, List.append_nil]
      exact List.filter_congr fun b hb => by simpa using hall b hb
    · have hall : ∀ b ∈ given, degree b = d → ¬p b := fun b hb heq hpb => hmet ⟨b, hb, heq, hpb⟩
      have hnone : given.filter (fun b => (degree b == d) && decide (p b)) = [] :=
        List.filter_eq_nil_iff.2 fun b hb => by simpa using hall b hb
      rw [hnone, List.nil_append]
      exact List.filter_congr fun b hb => by simpa using hall b hb

/-- **Where a list is cut short**, an entry of a higher degree than one that is kept is kept each
time that it was given. -/
theorem count_take [BEq β] [LawfulBEq β] (h : ByDegree degree given sorted) {limit : Nat}
    {higher kept : β} (hkept : kept ∈ sorted.take limit) (hlt : degree kept < degree higher) :
    (sorted.take limit).count higher = given.count higher := by
  have hfalls := h.falls
  rw [← List.take_append_drop limit sorted, List.pairwise_append] at hfalls
  have hdrop : higher ∉ sorted.drop limit := fun hmem =>
    absurd (hfalls.2.2 kept hkept higher hmem) (not_le.2 hlt)
  rw [← h.count_eq higher, ← Nat.add_zero (List.count _ _), ← List.count_eq_zero.2 hdrop,
    ← List.count_append, List.take_append_drop]

end ByDegree

theorem filter_filter_of_iff {β : Type} {p q r : β → Prop} [DecidablePred p] [DecidablePred q]
    [DecidablePred r] (h : ∀ entry, q entry ∧ p entry ↔ r entry) (entries : List β) :
    (entries.filter (p ·)).filter (q ·) = entries.filter (r ·) := by
  rw [List.filter_filter]
  exact List.filter_congr fun entry _ => by rw [Bool.eq_iff_iff]; simpa using h entry

namespace Text

theorem lowerChar_ne_nil (c : Char) : lowerChar c ≠ [] := by
  unfold lowerChar
  dsimp only
  split
  · exact List.cons_ne_nil _ _
  · split <;> exact List.cons_ne_nil _ _

/-- **Only the empty text is empty in lower case.** -/
theorem lower_eq_nil_iff {cs : List Char} : lower cs = [] ↔ cs = [] := by
  cases cs with
  | nil => exact iff_of_true rfl rfl
  | cons c cs =>
    refine iff_of_false ?_ (List.cons_ne_nil c cs)
    rw [lower, lowerFrom]
    split
    · exact List.cons_ne_nil _ _
    · exact fun h => lowerChar_ne_nil c (List.append_eq_nil_iff.1 h).1

end Text

namespace Suggestion

open FloatOrder

/-! ## What sorting does -/

section Sorting

variable {α β K : Type} [LinearOrder K] {before : α → α → Bool} {degree : α → K}
  {entry found : α × β} {entries : List (α × β)}

theorem mem_place : found ∈ place before entry entries ↔ found = entry ∨ found ∈ entries := by
  induction entries with
  | nil => exact List.mem_cons
  | cons other rest ih =>
    rw [place]
    split
    · rw [List.mem_cons, ih, List.mem_cons, or_left_comm]
    · exact List.mem_cons

theorem mem_sort : found ∈ sort before entries ↔ found ∈ entries := by
  induction entries with
  | nil => exact Iff.rfl
  | cons entry rest ih => rw [sort, List.foldr_cons, mem_place, List.mem_cons, ← sort, ih]

theorem filter_place
    (hbefore : ∀ other ∈ entries, before other.1 entry.1 = decide (degree entry.1 < degree other.1))
    (d : K) : (place before entry entries).filter (degree ·.1 == d)
      = (entry :: entries).filter (degree ·.1 == d) := by
  induction entries with
  | nil => rfl
  | cons other rest ih =>
    obtain ⟨hother, hrest⟩ := List.forall_mem_cons.1 hbefore
    rw [place]
    split
    · next hpassed =>
      -- An entry that is passed by has another degree.
      have hne : degree entry.1 ≠ degree other.1 :=
        ne_of_lt (of_decide_eq_true (hother.symm.trans hpassed))
      rw [List.filter_cons, ih hrest]
      by_cases hd : degree entry.1 = d
      · simp [hd, Ne.symm (hd ▸ hne)]
      · simp [List.filter_cons, hd]
    · rfl

theorem falls_place
    (hbefore : ∀ other ∈ entries, before other.1 entry.1 = decide (degree entry.1 < degree other.1))
    (h : entries.Pairwise fun a b => degree b.1 ≤ degree a.1) :
    (place before entry entries).Pairwise fun a b => degree b.1 ≤ degree a.1 := by
  induction entries with
  | nil => exact List.pairwise_singleton _ _
  | cons other rest ih =>
    obtain ⟨hother, hrest⟩ := List.pairwise_cons.1 h
    obtain ⟨htells, hmore⟩ := List.forall_mem_cons.1 hbefore
    rw [place]
    split
    · next hpassed =>
      refine List.pairwise_cons.2 ⟨fun found hfound => ?_, ih hmore hrest⟩
      rcases mem_place.1 hfound with rfl | hfound
      · exact le_of_lt (of_decide_eq_true (htells.symm.trans hpassed))
      · exact hother found hfound
    · next hpassed =>
      have hle : degree other.1 ≤ degree entry.1 :=
        not_lt.1 fun hlt => hpassed (htells.trans (decide_eq_true hlt))
      refine List.pairwise_cons.2 ⟨fun found hfound => ?_, h⟩
      rcases List.mem_cons.1 hfound with rfl | hfound
      · exact hle
      · exact le_trans (hother found hfound) hle

/-- **Sorting sorts by degree**, where degrees tell what comes before what. -/
theorem byDegree_sort (hbefore : ∀ a ∈ entries, ∀ b ∈ entries,
    before a.1 b.1 = decide (degree b.1 < degree a.1)) :
    ByDegree (fun entry => degree entry.1) entries (sort before entries) := by
  induction entries with
  | nil => exact ⟨List.Pairwise.nil, fun _ => rfl⟩
  | cons entry rest ih =>
    have hsorted := ih fun a ha b hb =>
      hbefore a (List.mem_cons_of_mem _ ha) b (List.mem_cons_of_mem _ hb)
    have hrest : ∀ other ∈ sort before rest,
        before other.1 entry.1 = decide (degree entry.1 < degree other.1) := fun other hother =>
      hbefore other (List.mem_cons_of_mem _ (mem_sort.1 hother)) entry List.mem_cons_self
    refine ⟨falls_place hrest hsorted.falls, fun d => ?_⟩
    rw [sort, List.foldr_cons, ← sort, filter_place hrest, List.filter_cons, List.filter_cons]
    exact congrArg (fun more => if (degree entry.1 == d) = true then entry :: more else more)
      (hsorted.fibre d)

/-- Entries that carry their values are sorted by the degrees of these. -/
theorem byDegree_sort_map (degree : α → K) (value : β → α) {given : List β}
    (hbefore : ∀ a ∈ given, ∀ b ∈ given,
      before (value a) (value b) = decide (degree (value b) < degree (value a))) :
    ByDegree (fun entry => degree (value entry)) given
      ((sort before (given.map fun entry => (value entry, entry))).map Prod.snd) := by
  have hsort : ByDegree (fun entry : α × β => degree entry.1)
      (given.map fun entry => (value entry, entry)) _ :=
    byDegree_sort (by simpa using hbefore)
  have hcarried : ∀ entry ∈ given.map fun entry => (value entry, entry),
      degree entry.1 = degree (value entry.2) := by
    rintro entry hentry
    obtain ⟨found, -, rfl⟩ := List.mem_map.1 hentry
    rfl
  have hgiven : (given.map fun entry => (value entry, entry)).map Prod.snd = given := by
    simp [Function.comp_def]
  have hmapped : ByDegree (fun entry => degree (value entry)) _ _ :=
    ByDegree.map (f := Prod.snd) (hsort.congr hcarried)
  rwa [hgiven] at hmapped

/-- Numbers are sorted by their rungs. -/
theorem byDegree_sort_numbers {value : β → Float} (hnumber : ∀ entry, IsNumber (value entry))
    (given : List β) :
    ByDegree (fun entry => rung (value entry)) given
      ((sort (fun a b => decide (b < a)) (given.map fun entry => (value entry, entry))).map
        Prod.snd) :=
  byDegree_sort_map rung value fun a _ b _ =>
    decide_eq_decide.2 (lt_iff (hnumber b) (hnumber a))

/-- **To be sorted by machine numbers** is to be sorted by their rungs. -/
theorem byDegree_rung_iff {value : β → Float} (hnumber : ∀ entry, IsNumber (value entry))
    {given sorted : List β} :
    ByDegree (fun entry => rung (value entry)) given sorted ↔ ByDegree value given sorted := by
  have hfibre : ∀ (v : Float) (hv : IsNumber v) (entries : List β),
      entries.filter (value · == v) = entries.filter fun entry => rung (value entry) == rung v :=
    fun v hv entries => List.filter_congr fun entry _ => by
      rw [Bool.eq_iff_iff, beq_iff (hnumber entry) hv, beq_iff_eq]
  constructor
  · refine fun h => ⟨h.falls.imp fun hle => (le_iff (hnumber _) (hnumber _)).2 hle, fun v => ?_⟩
    by_cases hv : IsNumber v
    · rw [hfibre v hv, hfibre v hv, h.fibre]
    · have hnone : ∀ entries : List β, entries.filter (value · == v) = [] := fun entries =>
        List.filter_eq_nil_iff.2 fun entry _ heq => hv (isNumber_of_beq heq).2
      rw [hnone, hnone]
  · refine fun h => ⟨h.falls.imp fun hle => (le_iff (hnumber _) (hnumber _)).1 hle, fun d => ?_⟩
    by_cases hmet : ∃ entry, rung (value entry) = d
    · obtain ⟨entry, rfl⟩ := hmet
      rw [← hfibre _ (hnumber entry), ← hfibre _ (hnumber entry), h.fibre]
    · have hnone : ∀ entries : List β,
          (entries.filter fun entry => rung (value entry) == d) = [] := fun entries =>
        List.filter_eq_nil_iff.2 fun entry _ heq => hmet ⟨entry, beq_iff_eq.1 heq⟩
      rw [hnone, hnone]

end Sorting

/-! ## Bands of scores -/

section Bands

variable {similarity : Measure} {name candidate : String}

/-- **A candidate starts with a name**, case disregarded. -/
def StartsWith (name candidate : String) : Prop :=
  Text.lower name.toList <+: Text.lower candidate.toList

/-- **A candidate contains a name**, case disregarded. -/
def Contains (name candidate : String) : Prop :=
  Text.lower name.toList <:+: Text.lower candidate.toList

instance (name candidate : String) : Decidable (StartsWith name candidate) :=
  inferInstanceAs (Decidable (_ <+: _))

instance (name candidate : String) : Decidable (Contains name candidate) :=
  inferInstanceAs (Decidable (_ <:+: _))

theorem StartsWith.contains (h : StartsWith name candidate) : Contains name candidate := h.isInfix

/-- **How alike two names are**, case disregarded. -/
def alike (similarity : Measure) (name candidate : String) : Float :=
  similarity (Text.lower name.toList) (Text.lower candidate.toList)

/-- The score of a candidate, case disregarded. -/
def scoreOf (similarity : Measure) (name candidate : String) : Float :=
  score similarity (Text.lower name.toList) (Text.lower candidate.toList)

theorem scoreOf_empty (similarity : Measure) (candidate : String) :
    scoreOf similarity "" candidate = 0.0 := rfl

/-- **The score of a candidate** for a name that is not empty. -/
theorem scoreOf_eq (hname : name ≠ "") :
    scoreOf similarity name candidate
      = if StartsWith name candidate then 2.0
        else if Contains name candidate then 1.5
        else alike similarity name candidate := by
  have hlower : (Text.lower name.toList).isEmpty = false := by
    simpa [Text.lower_eq_nil_iff] using hname
  have hstart : (Text.lower name.toList).isPrefixOf (Text.lower candidate.toList)
      = decide (StartsWith name candidate) := by
    rw [Bool.eq_iff_iff, List.isPrefixOf_iff_prefix, decide_eq_true_iff, StartsWith]
  have hcontains : Text.occurs (Text.lower name.toList) (Text.lower candidate.toList)
      = decide (Contains name candidate) := by
    rw [Bool.eq_iff_iff, Text.occurs_iff_infix, decide_eq_true_iff, Contains]
  simp [scoreOf, score, hlower, hstart, hcontains, alike]

theorem scoreOf_of_startsWith (hname : name ≠ "") (h : StartsWith name candidate) :
    scoreOf similarity name candidate = 2.0 := by
  rw [scoreOf_eq hname, if_pos h]

theorem scoreOf_of_contains (hname : name ≠ "") (h : Contains name candidate)
    (hstart : ¬StartsWith name candidate) : scoreOf similarity name candidate = 1.5 := by
  rw [scoreOf_eq hname, if_neg hstart, if_pos h]

theorem scoreOf_of_not_contains (hname : name ≠ "") (h : ¬Contains name candidate) :
    scoreOf similarity name candidate = alike similarity name candidate := by
  rw [scoreOf_eq hname, if_neg fun hstart => h hstart.contains, if_neg h]

/-- **A candidate contains a name elsewhere** than at its start. -/
def OnlyContains (name candidate : String) : Prop :=
  Contains name candidate ∧ ¬StartsWith name candidate

/-- **A candidate is similar enough** to a name that it does not contain. -/
def OnlySimilar (similarity : Measure) (name candidate : String) : Prop :=
  ¬Contains name candidate ∧ 0.6 ≤ alike similarity name candidate

/-- **A candidate qualifies**: it contains the name, or is similar enough to it. -/
def Qualifies (similarity : Measure) (name candidate : String) : Prop :=
  Contains name candidate ∨ 0.6 ≤ alike similarity name candidate

/-- **One candidate outranks another**: it starts with the name and the other does not, or it
contains the name and the other does not, or neither does and it is more similar. -/
def Outranks (similarity : Measure) (name better worse : String) : Prop :=
  StartsWith name better ∧ ¬StartsWith name worse
    ∨ Contains name better ∧ ¬Contains name worse
    ∨ ¬Contains name better ∧ ¬Contains name worse
      ∧ alike similarity name worse < alike similarity name better

instance (name candidate : String) : Decidable (OnlyContains name candidate) :=
  inferInstanceAs (Decidable (_ ∧ _))

instance (similarity : Measure) (name candidate : String) :
    Decidable (OnlySimilar similarity name candidate) :=
  inferInstanceAs (Decidable (_ ∧ _))

instance (similarity : Measure) (name candidate : String) :
    Decidable (Qualifies similarity name candidate) :=
  inferInstanceAs (Decidable (_ ∨ _))

/-- **What qualifies has a score that is high enough.** -/
theorem threshold_le_iff (hname : name ≠ "") :
    threshold ≤ scoreOf similarity name candidate ↔ Qualifies similarity name candidate := by
  unfold Qualifies
  by_cases hcontains : Contains name candidate
  · refine iff_of_true ?_ (Or.inl hcontains)
    by_cases hstart : StartsWith name candidate
    · rw [scoreOf_of_startsWith hname hstart]
      decide +kernel
    · rw [scoreOf_of_contains hname hcontains hstart]
      decide +kernel
  · rw [scoreOf_of_not_contains hname hcontains, or_iff_right hcontains, threshold]

variable (hunit : ∀ a b, similarity a b ≤ 1.0)

include hunit

theorem isNumber_alike (name candidate : String) : IsNumber (alike similarity name candidate) :=
  (isNumber_of_le (hunit _ _)).1

theorem isNumber_scoreOf (name candidate : String) :
    IsNumber (scoreOf similarity name candidate) := by
  have hconstants : (0.0 : Float) ≤ 1.5 ∧ (1.5 : Float) ≤ 2.0 := by decide +kernel
  by_cases hname : name = ""
  · rw [hname, scoreOf_empty]
    exact (isNumber_of_le hconstants.1).1
  · rw [scoreOf_eq hname]
    split_ifs
    · exact (isNumber_of_le hconstants.2).2
    · exact (isNumber_of_le hconstants.2).1
    · exact isNumber_alike hunit name candidate

/-- **The names that are suggested** are the first of those whose score is high enough, sorted by
score. -/
theorem exists_suggest_eq_take (name : String) (candidates : List String) :
    ∃ ranked, ByDegree (fun candidate => rung (scoreOf similarity name candidate))
        (candidates.filter fun candidate => threshold ≤ scoreOf similarity name candidate) ranked
      ∧ ∀ limit, suggest name candidates limit similarity = ranked.take limit := by
  refine ⟨_, byDegree_sort_numbers (isNumber_scoreOf hunit name) _, fun limit => ?_⟩
  have hscored : (candidates.filterMap fun candidate =>
        if threshold ≤ scoreOf similarity name candidate
        then some (scoreOf similarity name candidate, candidate) else none)
      = (candidates.filter fun candidate => threshold ≤ scoreOf similarity name candidate).map
        fun candidate => (scoreOf similarity name candidate, candidate) := by
    rw [← List.filterMap_eq_map', List.filterMap_filter]
    simp only [decide_eq_true_eq]
  rw [← List.map_take, ← hscored]
  rfl

/-- **The bands do not overlap**: a candidate that outranks another has a higher score. -/
theorem Outranks.scoreOf_lt (hname : name ≠ "") {better worse : String}
    (h : Outranks similarity name better worse) :
    scoreOf similarity name worse < scoreOf similarity name better := by
  have hbands : (1.0 : Float) < 1.5 ∧ (1.0 : Float) < 2.0 ∧ (1.5 : Float) < 2.0 := by
    decide +kernel
  have hsimilar : alike similarity name worse ≤ 1.0 := hunit _ _
  rcases h with ⟨hbetter, hworse⟩ | ⟨hbetter, hworse⟩ | ⟨hbetter, hworse, hlt⟩
  · rw [scoreOf_of_startsWith hname hbetter, scoreOf_eq hname, if_neg hworse]
    split_ifs
    · exact hbands.2.2
    · exact FloatOrder.lt_of_le_of_lt hsimilar hbands.2.1
  · rw [scoreOf_of_not_contains hname hworse]
    by_cases hstart : StartsWith name better
    · rw [scoreOf_of_startsWith hname hstart]
      exact FloatOrder.lt_of_le_of_lt hsimilar hbands.2.1
    · rw [scoreOf_of_contains hname hbetter hstart]
      exact FloatOrder.lt_of_le_of_lt hsimilar hbands.1
  · rwa [scoreOf_of_not_contains hname hworse, scoreOf_of_not_contains hname hbetter]

/-- The bands do not overlap among the rungs. -/
theorem Outranks.rung_lt (hname : name ≠ "") {better worse : String}
    (h : Outranks similarity name better worse) :
    rung (scoreOf similarity name worse) < rung (scoreOf similarity name better) :=
  (lt_iff (isNumber_scoreOf hunit name worse) (isNumber_scoreOf hunit name better)).1
    (h.scoreOf_lt hunit hname)

omit hunit in
theorem filter_threshold (hname : name ≠ "") (candidates : List String) :
    (candidates.filter fun candidate => threshold ≤ scoreOf similarity name candidate)
      = candidates.filter (Qualifies similarity name ·) :=
  List.filter_congr fun _ _ => by rw [Bool.eq_iff_iff]; simpa using threshold_le_iff hname

/-- For the empty name nothing is suggested. -/
theorem suggest_empty (candidates : List String) (limit : Nat) :
    suggest "" candidates limit similarity = [] := by
  obtain ⟨ranked, hranked, htake⟩ := exists_suggest_eq_take hunit "" candidates
  have hlow : ¬threshold ≤ 0.0 := by decide +kernel
  have hnone : ranked = [] := by
    refine List.eq_nil_iff_forall_not_mem.2 fun candidate hcandidate => ?_
    have hmem := (List.mem_filter.1 (hranked.mem_iff.1 hcandidate)).2
    rw [scoreOf_empty] at hmem
    exact hlow (of_decide_eq_true hmem)
  rw [htake, hnone, List.take_nil]

/-- **The three tiers, one after the other,** are sorted by score: each has a band of its own. -/
theorem byDegree_tiers (hname : name ≠ "") {candidates similar : List String}
    (hsimilar : ByDegree (fun candidate => rung (alike similarity name candidate))
      (candidates.filter (OnlySimilar similarity name ·)) similar) :
    ByDegree (fun candidate => rung (scoreOf similarity name candidate))
      (candidates.filter (Qualifies similarity name ·))
      (candidates.filter (StartsWith name ·)
        ++ (candidates.filter (OnlyContains name ·) ++ similar)) := by
  let qualified := candidates.filter (Qualifies similarity name ·)
  have hstarts : qualified.filter (StartsWith name ·) = candidates.filter (StartsWith name ·) :=
    filter_filter_of_iff (fun _ => and_iff_left_of_imp fun h => Or.inl h.contains) _
  have hothers : qualified.filter (¬StartsWith name ·)
      = candidates.filter fun candidate =>
        ¬StartsWith name candidate ∧ Qualifies similarity name candidate :=
    filter_filter_of_iff (fun _ => Iff.rfl) _
  have hcontains : (qualified.filter (¬StartsWith name ·)).filter (Contains name ·)
      = candidates.filter (OnlyContains name ·) := by
    rw [hothers]
    refine filter_filter_of_iff (fun candidate => and_congr_right fun h => ?_) _
    exact and_iff_left (Or.inl h)
  have hsimilars : (qualified.filter (¬StartsWith name ·)).filter (¬Contains name ·)
      = candidates.filter (OnlySimilar similarity name ·) := by
    rw [hothers]
    refine filter_filter_of_iff (fun candidate => and_congr_right fun h => ?_) _
    exact (and_iff_right fun hstart => h hstart.contains).trans (or_iff_right h)
  refine .append (p := (StartsWith name ·)) ?_ ?_ fun better _ worse _ hbetter hworse =>
    Outranks.rung_lt hunit hname (Or.inl ⟨hbetter, hworse⟩)
  · rw [hstarts]
    exact .of_constant fun candidate h =>
      congrArg rung (scoreOf_of_startsWith hname (of_decide_eq_true (List.mem_filter.1 h).2))
  · refine .append (p := (Contains name ·)) ?_ ?_ fun better _ worse _ hbetter hworse =>
      Outranks.rung_lt hunit hname (Or.inr (Or.inl ⟨hbetter, hworse⟩))
    · rw [hcontains]
      refine .of_constant (d := rung 1.5) fun candidate h => ?_
      obtain ⟨hin, hstart⟩ := of_decide_eq_true (List.mem_filter.1 h).2
      exact congrArg rung (scoreOf_of_contains hname hin hstart)
    · rw [hsimilars]
      refine hsimilar.congr fun candidate h => ?_
      obtain ⟨hout, -⟩ := of_decide_eq_true (List.mem_filter.1 h).2
      exact congrArg rung (scoreOf_of_not_contains hname hout).symm

end Bands

/-- **Suggestions are ranked by tier, and stably.**  Let similarity be any measure that is at most
one.  For the empty name nothing is suggested.  For any other, there is a list of the candidates in
three tiers, and the suggestions are its first ones, as many as the limit allows: those that start
with the name, then those that contain it elsewhere, in their given order; then those that are
similar enough, the more similar ones first, and equally similar ones in their given order.  So
while a candidate is suggested, none that outranks it and qualifies is left out, however often it is
given. -/
theorem ranked_by_tier {similarity : Measure} (hunit : ∀ a b, similarity a b ≤ 1.0) (name : String)
    (candidates : List String) :
    (name = "" → ∀ limit, suggest name candidates limit similarity = [])
      ∧ (name ≠ "" → ∃ similar,
          ByDegree (alike similarity name) (candidates.filter (OnlySimilar similarity name ·)) similar
            ∧ ∀ limit, suggest name candidates limit similarity
              = (candidates.filter (StartsWith name ·)
                  ++ (candidates.filter (OnlyContains name ·) ++ similar)).take limit)
      ∧ ∀ limit better worse, worse ∈ suggest name candidates limit similarity →
          Qualifies similarity name better → Outranks similarity name better worse →
          (suggest name candidates limit similarity).count better = candidates.count better := by
  obtain ⟨ranked, hranked, htake⟩ := exists_suggest_eq_take hunit name candidates
  refine ⟨?_, fun hname => ?_, fun limit better worse hworse hqualifies houtranks => ?_⟩
  · rintro rfl
    exact suggest_empty hunit candidates
  · have hsimilar := byDegree_sort_numbers (isNumber_alike hunit name)
      (candidates.filter (OnlySimilar similarity name ·))
    refine ⟨_, (byDegree_rung_iff (isNumber_alike hunit name)).1 hsimilar, fun limit => ?_⟩
    have htiers := byDegree_tiers hunit hname hsimilar
    rw [← filter_threshold hname] at htiers
    rw [htake, hranked.unique htiers]
  · rw [htake] at hworse ⊢
    have hname : name ≠ "" := by
      rintro rfl
      rw [← htake, suggest_empty hunit] at hworse
      exact List.not_mem_nil hworse
    rw [hranked.count_take hworse (houtranks.rung_lt hunit hname), List.count_filter]
    exact decide_eq_true ((threshold_le_iff hname).2 hqualifies)

/-- The similarity of two words where it is at most one, and otherwise nothing. -/
def capped (a b : List Char) : Float :=
  if Similarity.score a b ≤ 1.0 then Similarity.score a b else 0.0

theorem capped_le_one (a b : List Char) : capped a b ≤ 1.0 := by
  unfold capped
  split_ifs with h
  · exact h
  · decide +kernel

/-- Labels of a story, one of them given twice. -/
def signposts : List String := ["Forts", "Fort", "Forest", "Start", "Before", "Fort", "foretell"]

/-- Two labels start with the name, one contains it, and three are similar, one of them less. -/
theorem ranked_by_tier_signposts :
    (∀ a b, capped a b ≤ 1.0)
      ∧ (∀ limit, suggest "FORE" signposts limit capped
        = ["Forest", "foretell", "Before", "Fort", "Fort", "Forts"].take limit)
      ∧ "Forts" ∈ suggest "FORE" signposts 6 capped ∧ Outranks capped "FORE" "Fort" "Forts"
      ∧ (suggest "FORE" signposts 6 capped).count "Fort" = signposts.count "Fort" := by
  obtain ⟨-, htiers, hcount⟩ := ranked_by_tier capped_le_one "FORE" signposts
  obtain ⟨similar, hsimilar, hsuggest⟩ := htiers (by decide)
  have hsorted : similar = ["Fort", "Fort", "Forts"] := by
    have hnumber := isNumber_alike capped_le_one "FORE"
    rw [((byDegree_rung_iff hnumber).2 hsimilar).unique (byDegree_sort_numbers hnumber _)]
    decide +kernel
  have hstarts : signposts.filter (StartsWith "FORE" ·) = ["Forest", "foretell"] := by
    decide +kernel
  have hcontains : signposts.filter (OnlyContains "FORE" ·) = ["Before"] := by decide +kernel
  rw [hstarts, hcontains, hsorted] at hsuggest
  have hkept : "Forts" ∈ suggest "FORE" signposts 6 capped := by
    rw [hsuggest]
    decide
  have houtranks : Outranks capped "FORE" "Fort" "Forts" :=
    Or.inr (Or.inr ⟨by decide +kernel, by decide +kernel, by decide +kernel⟩)
  exact ⟨capped_le_one, hsuggest, hkept, houtranks,
    hcount 6 "Fort" "Forts" hkept (by decide +kernel) houtranks⟩

end Suggestion

end Narrative
