import Narrative.Game

/-!
# Proofs/Lockstep — one computation on two related worlds

Two worlds may differ in what a computation neither reads nor answers.  A computation is **in
lockstep** under a relation of states when, from related states, it gives the same answer or fails
with the same fault, and leaves related states.  Lockstep passes through every construction of a
`Play` or a `Turn` (`Lockstep.bind`), and `Steps` says what it takes for it to pass through the
whole of going forward and back: a law for each statement, and a relation that sees the cursor.

An invariant is a relation of a world with itself (`Invariant`), so each law below is one of
invariants too.  Where the faults matter, lockstep also says which ones a computation may fail with.
-/

namespace Narrative

/-- **Two results agree** under a relation of states: the same answer, or the same fault, which is
one of `E`. -/
inductive Agree {σ α : Type} (E : Fault → Prop) (R : σ → σ → Prop) :
    EStateM.Result Fault σ α → EStateM.Result Fault σ α → Prop
  | ok (answer : α) {s t : σ} (after : R s t) : Agree E R (.ok answer s) (.ok answer t)
  | error (fault : Fault) {s t : σ} (after : R s t) (raised : E fault := by trivial) :
      Agree E R (.error fault s) (.error fault t)

/-- **A computation in lockstep** under a relation of states, with faults of `E` only. -/
def Lockstep {σ α : Type} (R : σ → σ → Prop) (run : EStateM Fault σ α)
    (E : Fault → Prop := fun _ => True) : Prop :=
  ∀ ⦃s t : σ⦄, R s t → Agree E R (run s) (run t)

/-- The answer of a result, if it is no fault. -/
def Result.answer? {σ α : Type} : EStateM.Result Fault σ α → Option α
  | .ok answer _ => some answer
  | .error _ _ => none

/-- The fault of a result, if it is one. -/
def Result.fault? {σ α : Type} : EStateM.Result Fault σ α → Option Fault
  | .ok _ _ => none
  | .error fault _ => some fault

section Results

variable {σ α β : Type} {R : σ → σ → Prop} {E : Fault → Prop}

/-- A result with an answer is that answer and the state it leaves. -/
theorem Result.eq_ok {x : EStateM.Result Fault σ α} {answer : α}
    (h : Result.answer? x = some answer) : x = .ok answer (Result.left x) := by
  cases x with
  | ok found state => rw [Option.some.inj (h : some found = some answer), Result.left]
  | error fault state => cases h

/-- A result with a fault is that fault and the state it leaves. -/
theorem Result.eq_error {x : EStateM.Result Fault σ α} {fault : Fault}
    (h : Result.fault? x = some fault) : x = .error fault (Result.left x) := by
  cases x with
  | ok found state => cases h
  | error found state => rw [Option.some.inj (h : some found = some fault), Result.left]

/-- **One computation after another succeeds** when both do. -/
theorem Result.bind_eq_ok {first : EStateM Fault σ α} {more : α → EStateM Fault σ β} {s t : σ}
    {answer : β} :
    (first >>= more) s = .ok answer t
      ↔ ∃ found mid, first s = .ok found mid ∧ more found mid = .ok answer t := by
  show EStateM.bind first more s = _ ↔ _
  unfold EStateM.bind
  cases first s with
  | ok found mid => simp [and_assoc]
  | error fault mid => simp

/-- **One computation after another fails** when the first fails, or when the second does. -/
theorem Result.bind_eq_error {first : EStateM Fault σ α} {more : α → EStateM Fault σ β} {s t : σ}
    {fault : Fault} :
    (first >>= more) s = .error fault t
      ↔ first s = .error fault t
        ∨ ∃ found mid, first s = .ok found mid ∧ more found mid = .error fault t := by
  show EStateM.bind first more s = _ ↔ _
  unfold EStateM.bind
  cases first s with
  | ok found mid => simp [and_assoc]
  | error fault mid => simp

/-- The two ways of agreeing, with the states they leave. -/
theorem Agree.cases {x y : EStateM.Result Fault σ α} (h : Agree E R x y) :
    (∃ answer s t, x = .ok answer s ∧ y = .ok answer t ∧ R s t)
      ∨ ∃ fault s t, x = .error fault s ∧ y = .error fault t ∧ R s t ∧ E fault := by
  cases h with
  | ok answer after => exact Or.inl ⟨answer, _, _, rfl, rfl, after⟩
  | error fault after raised => exact Or.inr ⟨fault, _, _, rfl, rfl, after, raised⟩

theorem Agree.left {x y : EStateM.Result Fault σ α} (h : Agree E R x y) :
    R (Result.left x) (Result.left y) := by
  cases h with
  | ok _ after => exact after
  | error _ after raised => exact after

/-- Results that agree have one answer, or one fault. -/
theorem Agree.reply {x y : EStateM.Result Fault σ α} (h : Agree E R x y) :
    Result.answer? x = Result.answer? y ∧ Result.fault? x = Result.fault? y := by
  cases h with
  | ok _ after => exact ⟨rfl, rfl⟩
  | error _ after raised => exact ⟨rfl, rfl⟩

/-- The fault of a result that agrees is one of those allowed. -/
theorem Agree.raised {x y : EStateM.Result Fault σ α} (h : Agree E R x y) {fault : Fault}
    (hfault : Result.fault? x = some fault) : E fault := by
  cases h with
  | ok _ after => cases hfault
  | error raised after holds => exact Option.some.inj hfault ▸ holds

namespace Lockstep

theorem pure (answer : α) : Lockstep R (Pure.pure answer : EStateM Fault σ α) E :=
  fun _ _ h => .ok answer h

/-- **One computation after another.** -/
theorem bind {first : EStateM Fault σ α} {more : α → EStateM Fault σ β}
    (hfirst : Lockstep R first E) (hmore : ∀ answer, Lockstep R (more answer) E) :
    Lockstep R (first >>= more) E := by
  intro s t h
  show Agree E R (EStateM.bind first more s) (EStateM.bind first more t)
  unfold EStateM.bind
  obtain ⟨answer, s', t', hs, ht, after⟩ | ⟨fault, s', t', hs, ht, after, raised⟩ :=
    (hfirst h).cases
  · rw [hs, ht]
    exact hmore answer after
  · rw [hs, ht]
    exact .error fault after raised

/-- A list of computations, one after the other. -/
theorem forM {items : List β} {run : β → EStateM Fault σ Unit}
    (h : ∀ item ∈ items, Lockstep R (run item) E) : Lockstep R (items.forM run) E := by
  induction items with
  | nil => exact Lockstep.pure ()
  | cons item items ih =>
    exact (h item List.mem_cons_self).bind fun _ =>
      ih fun other hother => h other (List.mem_cons_of_mem _ hother)

end Lockstep

/-- **The stages of an invocation**, in either direction. -/
theorem Play.lockstep_stages {R : World → World → Prop} {before : Play Unit}
    {play : Play (List Effect)} {last : Play Flow}
    (hemit : ∀ effects, Lockstep R (Play.emit effects) E) (hbefore : Lockstep R before E)
    (hplay : Lockstep R play E) (hlast : Lockstep R last E) :
    Lockstep R (do before; let effects ← play; Play.emit effects; last) E :=
  hbefore.bind fun _ => hplay.bind fun effects => (hemit effects).bind fun _ => hlast

theorem Play.lockstep_update {R : World → World → Prop} {change : World → World}
    (h : ∀ ⦃w v⦄, R w v → R (change w) (change v)) : Lockstep R (Play.update change) E :=
  fun _ _ hr => .ok () (h hr)

/-- **An invariant as a relation**: a state that has it, with itself. -/
def Invariant (I : σ → Prop) (s t : σ) : Prop := s = t ∧ I s

/-- A computation that keeps an invariant is in lockstep under it. -/
theorem lockstep_invariant {I : σ → Prop} {run : EStateM Fault σ α}
    (h : ∀ s, I s → I (Result.left (run s)))
    (hfault : ∀ s, I s → ∀ fault, Result.fault? (run s) = some fault → E fault := by
      intros; trivial) : Lockstep (Invariant I) run E := by
  rintro s _ ⟨rfl, hs⟩
  have hleft := h s hs
  have hraised := hfault s hs
  cases hrun : run s with
  | ok answer after =>
    rw [hrun] at hleft
    exact .ok answer ⟨rfl, hleft⟩
  | error fault after =>
    rw [hrun] at hleft hraised
    exact .error fault ⟨rfl, hleft⟩ (hraised fault rfl)

end Results

/-! ## Going forward and back -/

/-- **What passes lockstep through a script**: the relation sees the cursor and survives its moves,
and so does every statement that may be run, in either direction. -/
structure Steps (R : World → World → Prop) (book : Playbook) (registry : Registry)
    (E : Fault → Prop := fun _ => True) : Prop where
  /-- Related worlds are at one position. -/
  cursor : ∀ ⦃w v⦄, R w v → w.cursor = v.cursor
  /-- Moving both keeps them related. -/
  moveTo : ∀ ⦃w v⦄, R w v → ∀ cursor, R (w.moveTo cursor) (v.moveTo cursor)
  /-- Running a statement of the script. -/
  perform : ∀ (cursor : Cursor) (statement : Statement), book.statement? cursor = some statement →
    ∀ advance, Lockstep R (Run.perform book registry statement advance) E
  /-- Undoing a statement. -/
  undo : ∀ statement, Lockstep R (Rewind.undo book registry statement) E
  /-- The statement that led to the start of a label. -/
  origin : ∀ ⦃w v⦄, R w v → Rewind.origin? book registry w = Rewind.origin? book registry v
  /-- Coming to a place without a statement. -/
  noStatement : ∀ cursor, E (.noStatement cursor) := by intro; trivial
  /-- Running too many statements. -/
  chainLimit : ∀ limit cursor, E (.chainLimit limit cursor) := by intros; trivial

namespace Steps

variable {R : World → World → Prop} {book : Playbook} {registry : Registry}
  {E : Fault → Prop}

theorem current (h : Steps R book registry E) : Lockstep R (Run.current book) E := by
  intro w v hr
  have hcursor := h.cursor hr
  simp only [Run.current, Playbook.current?, hcursor]
  cases book.statement? v.cursor with
  | none => exact .error _ hr (h.noStatement _)
  | some statement => exact .ok statement hr

theorem stepForward (h : Steps R book registry E) : Lockstep R (Run.stepForward book) E := by
  intro w v hr
  have hcursor := h.cursor hr
  simp only [Run.stepForward, hcursor]
  split
  · exact h.current (h.moveTo hr _)
  · exact h.current hr

/-- A computation that goes on with the statement it finds, which is one of the script. -/
theorem bind_statement {α : Type} {find : Play Statement} {more : Statement → Play α}
    (hfind : Lockstep R find E)
    (hfound : ∀ w statement after, find w = .ok statement after →
      book.statement? after.cursor = some statement)
    (hmore : ∀ (cursor : Cursor) (statement : Statement),
      book.statement? cursor = some statement → Lockstep R (more statement) E) :
    Lockstep R (find >>= more) E := by
  intro w v hr
  show Agree E R (EStateM.bind find more w) (EStateM.bind find more v)
  unfold EStateM.bind
  obtain ⟨statement, w', v', hw, hv, after⟩ | ⟨fault, w', v', hw, hv, after, raised⟩ :=
    (hfind hr).cases
  · rw [hw, hv]
    exact hmore _ statement (hfound w statement w' hw) after
  · rw [hw, hv]
    exact .error fault after raised

theorem current_found {w after : World} {statement : Statement}
    (h : Run.current book w = .ok statement after) :
    after = w ∧ book.statement? w.cursor = some statement := by
  unfold Run.current Playbook.current? at h
  cases hs : book.statement? w.cursor with
  | none => simp [hs] at h
  | some found =>
    simp only [hs, EStateM.Result.ok.injEq] at h
    exact ⟨h.2.symm, by rw [h.1]⟩

theorem stepForward_found {w after : World} {statement : Statement}
    (h : Run.stepForward book w = .ok statement after) :
    book.statement? after.cursor = some statement := by
  obtain ⟨rfl, hs⟩ := current_found h
  exact hs

/-- **A chain**, from a statement of the script.  The induction is on what the chain may still
run. -/
theorem chain (h : Steps R book registry E) (allowed : Nat) (statement : Statement)
    (hperform : ∀ advance, Lockstep R (Run.perform book registry statement advance) E)
    (advance : Bool) : Lockstep R (Run.chain book registry allowed statement advance) E := by
  induction allowed generalizing statement advance with
  | zero =>
    intro w v hr
    simp only [Run.chain, h.cursor hr]
    exact .error _ hr (h.chainLimit _ _)
  | succ allowed ih =>
    refine (hperform advance).bind fun flow => ?_
    match flow, advance with
    | .wait, _ => exact Lockstep.pure ()
    | .advance, false => exact Lockstep.pure ()
    | .advance, true =>
      exact bind_statement h.stepForward (fun _ _ _ => stepForward_found)
        fun cursor next hnext => ih next (h.perform cursor next hnext) true
    | .enter, _ =>
      exact bind_statement h.current (fun w s after hok => by
          obtain ⟨rfl, hs⟩ := current_found hok
          exact hs)
        fun cursor next hnext => ih next (h.perform cursor next hnext) true

/-- Running a statement given from outside the script. -/
theorem run (h : Steps R book registry E) (statement : Statement)
    (hperform : ∀ advance, Lockstep R (Run.perform book registry statement advance) E)
    (advance : Bool) : Lockstep R (Run.run book registry statement advance) E :=
  h.chain _ statement hperform advance

theorem runHere (h : Steps R book registry E) (advance : Bool) :
    Lockstep R (Run.current book >>= fun statement => Run.run book registry statement advance) E :=
  bind_statement h.current (fun w s after hok => by
      obtain ⟨rfl, hs⟩ := current_found hok
      exact hs)
    fun cursor statement hs => h.run statement (h.perform cursor statement hs) advance

theorem runCurrent (h : Steps R book registry E) : Lockstep R (Run.runCurrent book registry) E :=
  h.runHere true

theorem runInPlace (h : Steps R book registry E) : Lockstep R (Run.runInPlace book registry) E :=
  h.runHere false

/-- **Going one step on.** -/
theorem next (h : Steps R book registry E) : Lockstep R (Run.next book registry) E :=
  bind_statement h.stepForward (fun _ _ _ => stepForward_found)
    fun cursor statement hs => h.run statement (h.perform cursor statement hs) true

theorem target? (h : Steps R book registry E) ⦃w v : World⦄ (hr : R w v) :
    Rewind.target? book registry w = Rewind.target? book registry v := by
  simp only [Rewind.target?, h.cursor hr, h.origin hr]

theorem settle (h : Steps R book registry E) (origin : Cursor) ⦃w v : World⦄ (hr : R w v) :
    R (Rewind.settle origin w) (Rewind.settle origin v) := by
  simp only [Rewind.settle, h.cursor hr]
  split
  · exact h.moveTo hr _
  · exact hr

theorem compensate_eq_left (origin : Cursor) (w : World) :
    Rewind.compensate book registry origin w
      = Result.left (Run.runInPlace book registry (w.moveTo origin)) := by
  rw [Rewind.compensate]
  cases Run.runInPlace book registry (w.moveTo origin) with
  | ok _ after => rfl
  | error _ after => rfl

theorem compensate (h : Steps R book registry E) (origin : Cursor) ⦃w v : World⦄ (hr : R w v) :
    R (Rewind.compensate book registry origin w) (Rewind.compensate book registry origin v) := by
  rw [compensate_eq_left, compensate_eq_left]
  exact (h.runInPlace (h.moveTo hr origin)).left

/-- **Going back**, at most so many statements. -/
theorem back (h : Steps R book registry E) (allowed : Nat) :
    Lockstep R (Rewind.back book registry allowed) E := by
  induction allowed with
  | zero =>
    intro w v hr
    simp only [Rewind.back, h.cursor hr]
    exact .error _ hr (h.chainLimit _ _)
  | succ allowed ih =>
    intro w v hr
    simp only [Rewind.back, h.target? hr, h.cursor hr]
    cases Rewind.target? book registry v with
    | none => exact h.runInPlace hr
    | some statement =>
      obtain ⟨flow, w', v', hw, hv, after⟩ | ⟨fault, w', v', hw, hv, after, raised⟩ :=
        (h.undo statement hr).cases
      · simp only [hw, hv]
        have hsettled := h.settle v.cursor after
        cases flow with
        | wait => exact .ok () hsettled
        | enter => exact h.runInPlace hsettled
        | advance => exact ih hsettled
      · simp only [hw, hv]
        exact .error fault (h.compensate _ after) raised

/-- **Going one step back.** -/
theorem revert (h : Steps R book registry E) : Lockstep R (Rewind.revert book registry) E :=
  h.back _

end Steps

end Narrative
