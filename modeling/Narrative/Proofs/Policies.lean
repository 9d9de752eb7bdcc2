import Narrative.Proofs.OnePass

/-!
# Proofs/Policies — what the policies for unresolved paths agree on

A text falls into **pieces**: characters that are copied, and paths between double braces.  How it
does depends on the text alone (`pieces`), and the pieces put together are the text again
(`flatMap_written_pieces`).  Filling in goes through the pieces in order (`fillFrom_eq_fillPieces`),
and the policies differ only at a path that leads nowhere: two of them put characters in its place,
the third refuses the text.

So the two that put characters differ in length by as many words as paths lead nowhere
(`length_flatMap_filled`), and give the same text exactly if the third gives one, which is then the
same as theirs (`policies_agree`).
-/

namespace Narrative

namespace Text

/-- **No pair begins before the first one.** -/
theorem clear_of_cut? {c : Char} {cs before after : List Char}
    (h : cut? [c, c] cs = some (before, after)) : Clear c before := by
  induction cs generalizing before with
  | nil => cases h
  | cons d cs ih =>
    rw [cut?] at h
    cases hdrop : dropMark? [c, c] (d :: cs) with
    | some rest =>
      rw [hdrop] at h
      obtain ⟨rfl, -⟩ := Prod.mk.inj (Option.some.inj h)
      exact ⟨by simp, by simp⟩
    | none =>
      rw [hdrop] at h
      obtain ⟨⟨rest, following⟩, hcut, heq⟩ := Option.map_eq_some_iff.1 h
      obtain ⟨rfl, rfl⟩ := Prod.mk.inj heq
      have hrest := ih hcut
      have hcs : cs = rest ++ ([c, c] ++ following) := by simpa using cut?_eq_some hcut
      have hfront : ∀ more, d :: cs ≠ [c, c] ++ more := fun more hmore => by
        rw [dropMark?_eq_some.2 hmore] at hdrop
        cases hdrop
      refine ⟨fun hpair => ?_, fun hlast => ?_⟩
      · rcases List.infix_cons_iff.1 hpair with ⟨more, hmore⟩ | hinfix
        · refine hfront (more ++ ([c, c] ++ following)) ?_
          rw [hcs, ← List.cons_append, ← hmore, List.append_assoc]
        · exact hrest.1 hinfix
      · cases rest with
        | nil =>
          obtain rfl : d = c := by simpa using hlast
          exact hfront (d :: following) (by rw [hcs]; rfl)
        | cons e rest => exact hrest.2 (by simpa using hlast)

end Text

namespace Template

/-! ## Pieces of a text -/

/-- **A piece of a text.** -/
inductive Piece where
  /-- Characters that are copied. -/
  | copied (cs : List Char)
  /-- A path between double braces. -/
  | braced (path : List Char)

namespace Piece

/-- A piece as it stands in the text. -/
def written : Piece → List Char
  | copied cs => cs
  | braced path => openMark ++ (path ++ closeMark)

/-- The path of a piece, if it leads nowhere. -/
def lost? (storage : Storage) : Piece → Option (List Char)
  | copied _ => none
  | braced path =>
    match storage.resolve? (String.ofList path) with
    | some _ => none
    | none => some path

/-- What takes the place of a piece, if `missing` is to take that of a path that leads nowhere. -/
def filled (storage : Storage) (missing : List Char) : Piece → List Char
  | copied cs => cs
  | braced path =>
    match storage.resolve? (String.ofList path) with
    | some value => inserted value
    | none => missing

/-- What takes the place of a piece under a policy, or the path that the policy refuses. -/
def fill (storage : Storage) (policy : UnresolvedPolicy) : Piece → Except String (List Char)
  | copied cs => .ok cs
  | braced path => fillPath storage policy path

end Piece

/-- **The pieces of what is left** after skipping `skip` characters that are in a piece already. -/
def piecesFrom : Nat → List Char → List Piece
  | _, [] => []
  | skip + 1, _ :: cs => piecesFrom skip cs
  | 0, c :: cs =>
    match front (c :: cs) with
    | .copyAll => [.copied (c :: cs)]
    | .copyBraces => .copied openMark :: piecesFrom 1 cs
    | .insert path => .braced path :: piecesFrom (path.length + 3) cs
    | .copyOne => .copied [c] :: piecesFrom 0 cs

/-- **The pieces of a text.** -/
def pieces (text : String) : List Piece := piecesFrom 0 text.toList

/-- Fill in one piece after the other, up to a path that is refused. -/
def fillPieces (storage : Storage) (policy : UnresolvedPolicy) :
    List Piece → Except String (List Char)
  | [] => .ok []
  | piece :: more =>
    match piece.fill storage policy with
    | .error unresolved => .error unresolved
    | .ok value => (fillPieces storage policy more).map (value ++ ·)

theorem fillFrom_eq_fillPieces (storage : Storage) (policy : UnresolvedPolicy) (skip : Nat)
    (cs : List Char) :
    fillFrom storage policy skip cs = fillPieces storage policy (piecesFrom skip cs) := by
  induction cs generalizing skip with
  | nil => rw [fillFrom, piecesFrom, fillPieces]
  | cons c cs ih =>
    cases skip with
    | succ skip => rw [fillFrom, piecesFrom, ih]
    | zero =>
      rw [fillFrom, piecesFrom]
      cases front (c :: cs) with
      | copyAll => simp [fillPieces, Piece.fill, Except.map]
      | copyBraces => simp only [fillPieces, Piece.fill, ih]
      | insert path =>
        cases hpath : fillPath storage policy path with
        | error unresolved => simp only [fillPieces, Piece.fill, hpath]
        | ok value => simp only [fillPieces, Piece.fill, hpath, ih]
      | copyOne => simp only [fillPieces, Piece.fill, ih, List.singleton_append]

/-- **A text is filled in piece by piece.** -/
theorem fill_eq_fillPieces (storage : Storage) (policy : UnresolvedPolicy) (text : String) :
    fill storage policy text
      = (fillPieces storage policy (pieces text)).map String.ofList := by
  rw [fill, fillFrom_eq_fillPieces, pieces]

/-! ## The pieces make up the text -/

section Front

variable {cs path : List Char}

/-- Opening braces are copied where they stand. -/
theorem eq_of_front_copyBraces (h : front cs = .copyBraces) :
    ∃ after, cs = openMark ++ after := by
  unfold front at h
  cases hopen : Text.dropMark? openMark cs with
  | none => simp [hopen] at h
  | some after => exact ⟨after, Text.dropMark?_eq_some.1 hopen⟩

/-- **A path that is filled in** stands between double braces, and is one that can be named. -/
theorem eq_of_front_insert (h : front cs = .insert path) :
    IsName (String.ofList path) ∧ ∃ after, cs = openMark ++ (path ++ (closeMark ++ after)) := by
  unfold front at h
  cases hopen : Text.dropMark? openMark cs with
  | none => simp [hopen] at h
  | some within =>
    cases hclose : Text.cut? closeMark within with
    | none => simp [hopen, hclose] at h
    | some found =>
      obtain ⟨named, after⟩ := found
      obtain ⟨hnamed, rfl⟩ : isPath named = true ∧ named = path := by
        cases hnamed : isPath named <;> simp_all
      obtain ⟨hne, hblank⟩ : named ≠ [] ∧ ∀ c ∈ named, Text.isBlank c = false := by
        simpa [isPath] using hnamed
      refine ⟨⟨by simpa using hne, by simpa using hblank, ?_⟩, after, ?_⟩
      · rw [String.toList_ofList]
        exact Text.clear_of_cut? hclose
      · rw [Text.dropMark?_eq_some.1 hopen, Text.cut?_eq_some hclose, List.append_assoc]

end Front

/-- **The pieces are what is left of the text**, in order. -/
theorem flatMap_written_piecesFrom (skip : Nat) (cs : List Char) :
    (piecesFrom skip cs).flatMap Piece.written = cs.drop skip := by
  induction cs generalizing skip with
  | nil => rw [piecesFrom, List.drop_nil, List.flatMap_nil]
  | cons c cs ih =>
    cases skip with
    | succ skip => rw [piecesFrom, ih, List.drop_succ_cons]
    | zero =>
      rw [piecesFrom, List.drop_zero]
      cases hfront : front (c :: cs) with
      | copyAll => exact List.append_nil _
      | copyBraces =>
        obtain ⟨after, hafter⟩ := eq_of_front_copyBraces hfront
        show openMark ++ (piecesFrom 1 cs).flatMap Piece.written = c :: cs
        rw [ih, hafter, (List.cons.inj hafter).2]
        rfl
      | insert path =>
        obtain ⟨-, after, hafter⟩ := eq_of_front_insert hfront
        have hdrop : cs.drop (path.length + 3) = after := by
          rw [← List.drop_succ_cons (a := c), hafter]
          simp [openMark, closeMark, List.drop_append]
        show openMark ++ (path ++ closeMark) ++ (piecesFrom _ cs).flatMap Piece.written = c :: cs
        rw [ih, hdrop, hafter, List.append_assoc, List.append_assoc]
      | copyOne =>
        show c :: (piecesFrom 0 cs).flatMap Piece.written = c :: cs
        rw [ih, List.drop_zero]

/-- **A text is its pieces put together.** -/
theorem flatMap_written_pieces (text : String) :
    (pieces text).flatMap Piece.written = text.toList := flatMap_written_piecesFrom 0 text.toList

/-- **Every path between braces** can be named. -/
theorem isName_of_mem_piecesFrom {skip : Nat} {cs path : List Char}
    (h : Piece.braced path ∈ piecesFrom skip cs) : IsName (String.ofList path) := by
  induction cs generalizing skip with
  | nil =>
    rw [piecesFrom] at h
    cases h
  | cons c cs ih =>
    cases skip with
    | succ skip =>
      rw [piecesFrom] at h
      exact ih h
    | zero =>
      rw [piecesFrom] at h
      cases hfront : front (c :: cs) with
      | copyAll => simp [hfront] at h
      | copyBraces => exact ih (by simpa [hfront] using h)
      | insert named =>
        rw [hfront] at h
        rcases List.mem_cons.1 h with heq | h
        · obtain rfl := Piece.braced.inj heq
          exact (eq_of_front_insert hfront).1
        · exact ih h
      | copyOne => exact ih (by simpa [hfront] using h)

/-- A path of a piece stands in the text between double braces. -/
theorem eq_append_of_mem_pieces {text : String} {path : List Char}
    (h : Piece.braced path ∈ pieces text) :
    ∃ before after, text = before ++ (placeholder (String.ofList path) ++ after) := by
  obtain ⟨before, after, hsplit⟩ := List.append_of_mem h
  refine ⟨String.ofList (before.flatMap Piece.written), String.ofList (after.flatMap Piece.written),
    String.toList_inj.1 ?_⟩
  rw [← flatMap_written_pieces text, hsplit]
  simp [Piece.written, placeholder]

/-! ## Paths that lead nowhere -/

/-- **What a policy puts in the place of a path that leads nowhere**, unless it refuses the text. -/
def standIn? : UnresolvedPolicy → Option (List Char)
  | .word => some undefinedWord
  | .blank => some []
  | .fail => none

section Lost

variable {storage : Storage} {policy : UnresolvedPolicy} {piece : Piece} {missing path : List Char}

/-- **A piece that is not lost** becomes the same under every policy. -/
theorem Piece.of_lost?_eq_none (h : piece.lost? storage = none) :
    ∃ value, (∀ policy, piece.fill storage policy = .ok value)
      ∧ ∀ missing, piece.filled storage missing = value := by
  cases piece with
  | copied cs => exact ⟨cs, fun _ => rfl, fun _ => rfl⟩
  | braced path =>
    cases hresolve : storage.resolve? (String.ofList path) with
    | some value =>
      exact ⟨inserted value, fun _ => by simp only [fill, fillPath, hresolve],
        fun _ => by simp only [filled, hresolve]⟩
    | none => simp [lost?, hresolve] at h

/-- **A piece that is lost** is a path that leads nowhere; the policy says what becomes of it. -/
theorem Piece.of_lost?_eq_some (h : piece.lost? storage = some path) :
    piece = .braced path ∧ storage.resolve? (String.ofList path) = none
      ∧ piece.fill storage .fail = .error (String.ofList path)
      ∧ (∀ policy missing, standIn? policy = some missing →
          piece.fill storage policy = .ok missing)
      ∧ ∀ missing, piece.filled storage missing = missing := by
  cases piece with
  | copied cs => cases h
  | braced named =>
    cases hresolve : storage.resolve? (String.ofList named) with
    | some value => simp [lost?, hresolve] at h
    | none =>
      obtain rfl : named = path := by simpa [lost?, hresolve] using h
      refine ⟨rfl, hresolve, by simp only [fill, fillPath, hresolve], fun policy _ hput => ?_,
        fun missing => by simp only [filled, hresolve]⟩
      cases policy <;> simp_all [fill, fillPath, standIn?]

/-- A policy that puts characters in the place of such a path fills in every text. -/
theorem fillPieces_of_standIn (h : standIn? policy = some missing) (ps : List Piece) :
    fillPieces storage policy ps = .ok (ps.flatMap (Piece.filled storage missing)) := by
  induction ps with
  | nil => rfl
  | cons piece ps ih =>
    have hpiece : piece.fill storage policy = .ok (piece.filled storage missing) := by
      cases hlost : piece.lost? storage with
      | none =>
        obtain ⟨value, hfill, hfilled⟩ := Piece.of_lost?_eq_none hlost
        rw [hfill, hfilled]
      | some path =>
        obtain ⟨-, -, -, hfill, hfilled⟩ := Piece.of_lost?_eq_some hlost
        rw [hfill policy missing h, hfilled]
    rw [fillPieces, hpiece, ih, List.flatMap_cons]
    rfl

/-- **The third policy** refuses a text for the first of its paths that leads nowhere, and fills it
in otherwise, so that it does not matter what would take the place of such a path. -/
theorem fillPieces_fail (storage : Storage) (missing : List Char) (ps : List Piece) :
    fillPieces storage .fail ps
      = match ps.findSome? (Piece.lost? storage) with
        | some path => .error (String.ofList path)
        | none => .ok (ps.flatMap (Piece.filled storage missing)) := by
  induction ps with
  | nil => rfl
  | cons piece ps ih =>
    rw [fillPieces, List.findSome?_cons, List.flatMap_cons]
    cases hlost : piece.lost? storage with
    | none =>
      obtain ⟨value, hfill, hfilled⟩ := Piece.of_lost?_eq_none hlost
      rw [hfill, hfilled, ih]
      cases ps.findSome? (Piece.lost? storage) <;> rfl
    | some path =>
      obtain ⟨-, -, hfill, -⟩ := Piece.of_lost?_eq_some hlost
      rw [hfill]

/-- **How much longer a text becomes** by what takes the place of the paths that lead nowhere. -/
theorem length_flatMap_filled (storage : Storage) (missing : List Char) (ps : List Piece) :
    (ps.flatMap (Piece.filled storage missing)).length
      = (ps.flatMap (Piece.filled storage [])).length
        + (ps.filterMap (Piece.lost? storage)).length * missing.length := by
  induction ps with
  | nil => simp
  | cons piece ps ih =>
    rw [List.flatMap_cons, List.flatMap_cons, List.length_append, List.length_append, ih]
    cases hlost : piece.lost? storage with
    | none =>
      obtain ⟨value, -, hfilled⟩ := Piece.of_lost?_eq_none hlost
      rw [List.filterMap_cons_none hlost, hfilled, hfilled, Nat.add_assoc]
    | some path =>
      obtain ⟨-, -, -, -, hfilled⟩ := Piece.of_lost?_eq_some hlost
      rw [List.filterMap_cons_some hlost, hfilled, hfilled, List.length_cons, Nat.succ_mul,
        List.length_nil]
      omega

/-- **Different lengths** unless no path is lost. -/
theorem flatMap_filled_eq_iff (h : missing ≠ []) (ps : List Piece) :
    ps.flatMap (Piece.filled storage missing) = ps.flatMap (Piece.filled storage [])
      ↔ ps.findSome? (Piece.lost? storage) = none := by
  constructor
  · intro heq
    have hlength := length_flatMap_filled storage missing ps
    rw [heq, Nat.left_eq_add, Nat.mul_eq_zero, List.length_eq_zero_iff,
      List.length_eq_zero_iff] at hlength
    rw [List.findSome?_eq_none_iff]
    exact List.filterMap_eq_nil_iff.1 (hlength.resolve_right h)
  · intro hnone
    -- Both are what the third policy fills in.
    have hmissing := fillPieces_fail storage missing ps
    have hblank := fillPieces_fail storage [] ps
    rw [hnone] at hmissing hblank
    exact Except.ok.inj (hmissing.symm.trans hblank)

end Lost

/-- **The policies agree wherever they can.**  The two that put something in the place of a path
that leads nowhere fill in every text.  The third fills in a text exactly if these two give the
same, and then it gives the same too.  Otherwise it fails with a path that can be named, leads
nowhere, and stands in the text between double braces. -/
theorem policies_agree (storage : Storage) (text : String) :
    ∃ worded blanked, fill storage .word text = .ok worded
      ∧ fill storage .blank text = .ok blanked
      ∧ ((∃ filled, fill storage .fail text = .ok filled) ↔ worded = blanked)
      ∧ (∀ filled, fill storage .fail text = .ok filled → filled = worded ∧ filled = blanked)
      ∧ ∀ path, fill storage .fail text = .error path →
          IsName path ∧ storage.resolve? path = none
            ∧ ∃ before after, text = before ++ (placeholder path ++ after) := by
  have hword : fillPieces storage .word (pieces text)
      = .ok ((pieces text).flatMap (Piece.filled storage undefinedWord)) :=
    fillPieces_of_standIn rfl (pieces text)
  have hblank : fillPieces storage .blank (pieces text)
      = .ok ((pieces text).flatMap (Piece.filled storage [])) :=
    fillPieces_of_standIn rfl (pieces text)
  have hsame : (pieces text).flatMap (Piece.filled storage undefinedWord)
        = (pieces text).flatMap (Piece.filled storage [])
      ↔ (pieces text).findSome? (Piece.lost? storage) = none :=
    flatMap_filled_eq_iff (by decide) (pieces text)
  simp only [fill_eq_fillPieces, hword, hblank, fillPieces_fail storage [] (pieces text)]
  refine ⟨_, _, rfl, rfl, ?_⟩
  rw [String.ofList_inj, hsame]
  cases hlost : (pieces text).findSome? (Piece.lost? storage) with
  | none =>
    rw [hsame.2 hlost]
    simp [Except.map]
  | some path =>
    obtain ⟨piece, hmem, hpiece⟩ := List.exists_of_findSome?_eq_some hlost
    obtain ⟨rfl, hnowhere, -⟩ := Piece.of_lost?_eq_some hpiece
    refine ⟨by simp [Except.map], fun _ hok => (by cases hok), fun unresolved herror => ?_⟩
    obtain rfl : String.ofList path = unresolved := Except.error.inj herror
    exact ⟨isName_of_mem_piecesFrom hmem, hnowhere, eq_append_of_mem_pieces hmem⟩

/-- Braces that are copied, a path that leads nowhere, and one that leads to a number. -/
def torn : String := "\x7b\x7b \x7b\x7bgone\x7d\x7d \x7b\x7bgold\x7d\x7d"

/-- The text is refused for the path that the other two policies treat differently. -/
theorem policies_agree_torn :
    fill ledger .word torn = .ok "\x7b\x7b undefined 7"
      ∧ fill ledger .blank torn = .ok "\x7b\x7b  7"
      ∧ fill ledger .fail torn = .error "gone"
      ∧ IsName "gone" ∧ ledger.resolve? "gone" = none
      ∧ ∃ before after, torn = before ++ (placeholder "gone" ++ after) := by
  have hfail : fill ledger .fail torn = .error "gone" := rfl
  obtain ⟨worded, blanked, -, -, -, -, hrefused⟩ := policies_agree ledger torn
  exact ⟨rfl, rfl, hfail, hrefused "gone" hfail⟩

end Template

end Narrative
