import Narrative.Proofs.Deeds

/-!
# Proofs/Engine — what an engine does, where only the world changes

What a call of an engine comes to, and what it runs or undoes, is determined (`Runs.unique`,
`Backs.unique`).  A statement of a chain either has another one run or ends the call, and each in
a few ways (`Goes`, `Stops`).  If hooks leave all but the world alone, each call comes to an end,
and to what a game makes of it (`starts_fixed`, `runs_fixed`, `nexts_fixed`, `revert_of_reverts`):
an engine adds nothing but the hooks that change more.
-/

namespace Narrative

/-- A statement that is **due**: what is to be run next, and from where. -/
structure Due (σ : Type := World) where
  /-- The statement. -/
  statement : Statement σ
  /-- Whether it was come to, or is run in place. -/
  advance : Bool
  /-- The state in which it is to be run. -/
  state : σ

namespace Engine

variable {σ : Type} {engine : Engine σ} {s : σ} {count : Nat} {statement : Statement σ}
  {advance : Bool} {deeds deeds' : List (Deed σ)} {result result' : EStateM.Result Fault σ Unit}

/-! ## One step on, and one back -/

@[simp] theorem book_step (engine : Engine σ) (s : σ) :
    engine.book (engine.step s) = engine.book s := by
  unfold step
  split <;> simp

@[simp] theorem registry_step (engine : Engine σ) (s : σ) :
    engine.registry (engine.step s) = engine.registry s := by
  unfold step
  split <;> simp

@[simp] theorem storage_step (engine : Engine σ) (s : σ) :
    (engine.world (engine.step s)).storage = (engine.world s).storage := by
  unfold step
  split
  · rw [world_change]
    rfl
  · rfl

@[simp] theorem limit_step (engine : Engine σ) (s : σ) :
    engine.limit (engine.step s) = engine.limit s := by
  rw [limit, book_step, limit]

/-- One step on from a statement. -/
theorem cursor_step (here : engine.current? s = some statement) :
    engine.cursor (engine.step s) = (engine.cursor s).atStep ((engine.cursor s).step + 1) := by
  have hlt : (engine.cursor s).step < (engine.book s).labelLength (engine.cursor s).label :=
    Playbook.step_lt here
  rw [step, if_pos hlt, cursor, world_change]
  rfl

/-- Going back to a position is what undoing the statement there leaves. -/
theorem settle_eq {origin : Cursor} (hcursor : engine.cursor s = origin)
    (hstep : 1 ≤ origin.step) :
    engine.settle origin s = engine.change (·.moveTo (origin.atStep (origin.step - 1))) s :=
  if_pos ⟨hcursor, hstep⟩

/-- The state in which the first statement is to be run: a game is in progress, and every action
was told that it starts. -/
def prepared (engine : Engine σ) (s : σ) : σ :=
  Result.left (engine.each Action.onStart (engine.setPlaying s))

/-! ## A line -/

/-- A text without placeholders goes to the first action that handles its words. -/
theorem invoke_unbraced (engine : Engine σ) (s : σ) {line : String}
    (unbraced : Text.occurs Template.openMark line.toList = false) :
    engine.invoke s (.text line)
      = match (engine.registry s).forWords? (Text.words line) with
        | none => .error (.noMatch line)
        | some action => action.invoke (engine.book s) s (.ofText (.text line) line) := by
  have hfill : (engine.book s).substitute (engine.world s) line = .ok line := by
    rw [Playbook.substitute, Template.fill_of_unbraced _ _ unbraced]
  simp only [invoke, hfill, bind, Except.bind]
  rfl

/-- It is run and undone by that action. -/
theorem text_steps (engine : Engine σ) (s : σ) {line : String} {action : Action σ}
    {invocation : Invocation σ} (unbraced : Text.occurs Template.openMark line.toList = false)
    (hfind : (engine.registry s).forWords? (Text.words line) = some action)
    (hmade : action.invoke (engine.book s) s (.ofText (.text line) line) = .ok invocation)
    (advance : Bool) :
    engine.perform (.text line) advance s = engine.stages invocation advance s
      ∧ engine.undo (.text line) s = engine.stagesBack invocation s := by
  have hinvoke : engine.invoke s (.text line) = .ok invocation := by
    rw [engine.invoke_unbraced s unbraced, hfind]
    exact hmade
  constructor
  · unfold perform
    simp only [hinvoke]
  · simp only [undo, hinvoke]

/-- It cannot be undone where no action handles its words. -/
theorem undo_of_noMatch (engine : Engine σ) (s : σ) {line : String}
    (unbraced : Text.occurs Template.openMark line.toList = false)
    (hnone : (engine.registry s).forWords? (Text.words line) = none) :
    engine.undo (.text line) s = .error (.noMatch line) s := by
  have hinvoke : engine.invoke s (.text line) = .error (.noMatch line) := by
    rw [engine.invoke_unbraced s unbraced, hnone]
  simp only [undo, hinvoke]

/-! ## What a call comes to is determined -/

/-- **What a chain comes to, and what it runs, is determined.**  The induction is on the chain: each
statement of it, once it may be run, leads to one end or to one more statement. -/
theorem Runs.unique (h : engine.Runs count statement advance s deeds result)
    (h' : engine.Runs count statement advance s deeds' result') :
    deeds' = deeds ∧ result' = result := by
  induction h generalizing deeds' result' with
  | cut full =>
    cases h' with
    | cut => exact ⟨rfl, rfl⟩
    | failed room | ends room | goes room => exact absurd full (Nat.not_le.2 room)
  | failed room linked =>
    cases h' with
    | cut full => exact absurd full (Nat.not_le.2 room)
    | failed _ linked' => cases linked.symm.trans linked'; exact ⟨rfl, rfl⟩
    | ends _ linked' | goes _ linked' => cases linked.symm.trans linked'
  | ends room linked =>
    cases h' with
    | cut full => exact absurd full (Nat.not_le.2 room)
    | ends _ linked' => cases linked.symm.trans linked'; exact ⟨rfl, rfl⟩
    | failed _ linked' | goes _ linked' => cases linked.symm.trans linked'
  | goes room linked rest ih =>
    cases h' with
    | cut full => exact absurd full (Nat.not_le.2 room)
    | goes _ linked' rest' =>
      cases linked.symm.trans linked'
      obtain ⟨rfl, rfl⟩ := ih rest'
      exact ⟨rfl, rfl⟩
    | failed _ linked' | ends _ linked' => cases linked.symm.trans linked'

theorem Fetches.unique {fetch : EStateM Fault σ (Statement σ)}
    (h : engine.Fetches fetch advance s deeds result)
    (h' : engine.Fetches fetch advance s deeds' result') : deeds' = deeds ∧ result' = result := by
  cases h with
  | lost fetched =>
    cases h' with
    | lost fetched' => cases fetched.symm.trans fetched'; exact ⟨rfl, rfl⟩
    | runs fetched' => cases fetched.symm.trans fetched'
  | runs fetched runs =>
    cases h' with
    | lost fetched' => cases fetched.symm.trans fetched'
    | runs fetched' runs' =>
      cases fetched.symm.trans fetched'
      exact runs.unique runs'

theorem Starts.unique (h : engine.Starts s deeds result) (h' : engine.Starts s deeds' result') :
    deeds' = deeds ∧ result' = result := by
  cases h with
  | refused told =>
    cases h' with
    | refused told' => cases told.symm.trans told'; exact ⟨rfl, rfl⟩
    | runs told' => cases told.symm.trans told'
  | runs told runs =>
    cases h' with
    | refused told' => cases told.symm.trans told'
    | runs told' runs' =>
      cases told.symm.trans told'
      exact runs.unique runs'

/-- **What going back comes to, and what it undoes, is determined.**  The induction is on the
statements that are undone. -/
theorem Backs.unique (h : engine.Backs count s deeds result)
    (h' : engine.Backs count s deeds' result') : deeds' = deeds ∧ result' = result := by
  induction h generalizing deeds' result' with
  | cut full =>
    cases h' with
    | cut => exact ⟨rfl, rfl⟩
    | nothing room | failed room | wait room | enter room | advance room =>
      exact absurd full (Nat.not_le.2 room)
  | nothing room found again =>
    cases h' with
    | cut full => exact absurd full (Nat.not_le.2 room)
    | nothing _ _ again' =>
      obtain ⟨-, rfl⟩ := again.unique again'
      exact ⟨rfl, rfl⟩
    | failed _ found' | wait _ found' | enter _ found' | advance _ found' =>
      cases found.symm.trans found'
  | failed room found undone again =>
    cases h' with
    | cut full => exact absurd full (Nat.not_le.2 room)
    | nothing _ found' => cases found.symm.trans found'
    | failed _ found' undone' again' =>
      cases found.symm.trans found'
      cases undone.symm.trans undone'
      obtain ⟨-, rfl⟩ := again.unique again'
      exact ⟨rfl, rfl⟩
    | wait _ found' undone' | enter _ found' undone' | advance _ found' undone' =>
      cases found.symm.trans found'
      cases undone.symm.trans undone'
  | wait room found undone =>
    cases h' with
    | cut full => exact absurd full (Nat.not_le.2 room)
    | nothing _ found' => cases found.symm.trans found'
    | wait _ found' undone' =>
      cases found.symm.trans found'
      cases undone.symm.trans undone'
      exact ⟨rfl, rfl⟩
    | failed _ found' undone' | enter _ found' undone' | advance _ found' undone' =>
      cases found.symm.trans found'
      cases undone.symm.trans undone'
  | enter room found undone again =>
    cases h' with
    | cut full => exact absurd full (Nat.not_le.2 room)
    | nothing _ found' => cases found.symm.trans found'
    | enter _ found' undone' again' =>
      cases found.symm.trans found'
      cases undone.symm.trans undone'
      obtain ⟨-, rfl⟩ := again.unique again'
      exact ⟨rfl, rfl⟩
    | failed _ found' undone' | wait _ found' undone' | advance _ found' undone' =>
      cases found.symm.trans found'
      cases undone.symm.trans undone'
  | advance room found undone rest ih =>
    cases h' with
    | cut full => exact absurd full (Nat.not_le.2 room)
    | nothing _ found' => cases found.symm.trans found'
    | advance _ found' undone' rest' =>
      cases found.symm.trans found'
      cases undone.symm.trans undone'
      obtain ⟨rfl, rfl⟩ := ih rest'
      exact ⟨rfl, rfl⟩
    | failed _ found' undone' | wait _ found' undone' | enter _ found' undone' =>
      cases found.symm.trans found'
      cases undone.symm.trans undone'

/-! ## How a chain goes on -/

/-- **A statement that is run has another one run**: the one after it, or the one that it moved the
cursor to. -/
inductive Goes (engine : Engine σ) : Due σ → Due σ → Prop
  | advance {statement next : Statement σ} {s mid : σ}
      (performed : engine.perform statement true s = .ok .advance mid)
      (found : engine.current? (engine.step mid) = some next) :
      Goes engine ⟨statement, true, s⟩ ⟨next, true, engine.step mid⟩
  | enter {statement next : Statement σ} {advance : Bool} {s mid : σ}
      (performed : engine.perform statement advance s = .ok .enter mid)
      (found : engine.current? mid = some next) :
      Goes engine ⟨statement, advance, s⟩ ⟨next, true, mid⟩

/-- **A statement that is run ends the call**, and what the call comes to. -/
inductive Stops (engine : Engine σ) : Due σ → EStateM.Result Fault σ Unit → Prop
  | wait {due : Due σ} {after : σ}
      (performed : engine.perform due.statement due.advance due.state = .ok .wait after) :
      Stops engine due (.ok () after)
  | inPlace {statement : Statement σ} {s after : σ}
      (performed : engine.perform statement false s = .ok .advance after) :
      Stops engine ⟨statement, false, s⟩ (.ok () after)
  | failed {due : Due σ} {fault : Fault} {after : σ}
      (performed : engine.perform due.statement due.advance due.state = .error fault after) :
      Stops engine due (.error fault after)
  | endOfLabel {statement : Statement σ} {s mid : σ}
      (performed : engine.perform statement true s = .ok .advance mid)
      (none : engine.current? (engine.step mid) = none) :
      Stops engine ⟨statement, true, s⟩
        (.error (.noStatement (engine.cursor (engine.step mid))) (engine.step mid))
  | nowhere {due : Due σ} {mid : σ}
      (performed : engine.perform due.statement due.advance due.state = .ok .enter mid)
      (none : engine.current? mid = none) :
      Stops engine due (.error (.noStatement (engine.cursor mid)) mid)

/-- A link of a chain after which none is due. -/
def unlinked : EStateM.Result Fault σ Unit → EStateM.Result Fault σ (Option (Statement σ))
  | .ok _ after => .ok none after
  | .error fault after => .error fault after

/-- **A statement has another one run or ends the call.** -/
theorem goes_or_stops (engine : Engine σ) (due : Due σ) :
    (∃ next, engine.Goes due next) ∨ ∃ result, engine.Stops due result := by
  obtain ⟨statement, advance, s⟩ := due
  cases performed : engine.perform statement advance s with
  | error fault after => exact .inr ⟨_, .failed performed⟩
  | ok flow mid =>
    cases flow with
    | wait => exact .inr ⟨_, .wait performed⟩
    | enter =>
      cases found : engine.current? mid with
      | none => exact .inr ⟨_, .nowhere performed found⟩
      | some next => exact .inl ⟨_, .enter performed found⟩
    | advance =>
      cases advance with
      | false => exact .inr ⟨_, .inPlace performed⟩
      | true =>
        cases found : engine.current? (engine.step mid) with
        | none => exact .inr ⟨_, .endOfLabel performed found⟩
        | some next => exact .inl ⟨_, .advance performed found⟩

/-- The statement that is due next stands at the cursor, and was come to. -/
theorem current_of_goes {due next : Due σ} (h : engine.Goes due next) :
    engine.current? next.state = some next.statement ∧ next.advance = true := by
  cases h with
  | advance performed found | enter performed found => exact ⟨found, rfl⟩

/-- The link of a statement that has another one run. -/
theorem link_of_goes {due next : Due σ} (h : engine.Goes due next) :
    engine.link due.statement due.advance due.state = .ok (some next.statement) next.state := by
  cases h with
  | advance performed found | enter performed found =>
    simp only [link, bind, EStateM.bind, performed, if_true, stepForward, current, found]
    rfl

/-- The link of a statement that ends the call. -/
theorem link_of_stops {due : Due σ} (h : engine.Stops due result) :
    engine.link due.statement due.advance due.state = unlinked result := by
  cases h with
  | failed performed => simp only [link, bind, EStateM.bind, performed, unlinked]
  | wait performed | inPlace performed =>
    simp only [link, bind, EStateM.bind, performed]
    rfl
  | endOfLabel performed none | nowhere performed none =>
    simp only [link, bind, EStateM.bind, performed, if_true, stepForward, current, none, unlinked]

theorem goes_of_link {next : Statement σ} {mid : σ}
    (h : engine.link statement advance s = .ok (some next) mid) :
    engine.Goes ⟨statement, advance, s⟩ ⟨next, true, mid⟩ := by
  obtain ⟨⟨next', advance', mid'⟩, goes⟩ | ⟨result, stops⟩ :=
    goes_or_stops engine ⟨statement, advance, s⟩
  · obtain rfl : advance' = true := (current_of_goes goes).2
    cases (link_of_goes goes).symm.trans h
    exact goes
  · have hlink := (link_of_stops stops).symm.trans h
    cases result <;> cases hlink

theorem stops_of_link {after : σ} (h : engine.link statement advance s = .ok none after) :
    engine.Stops ⟨statement, advance, s⟩ (.ok () after) := by
  obtain ⟨next, goes⟩ | ⟨result, stops⟩ := goes_or_stops engine ⟨statement, advance, s⟩
  · cases (link_of_goes goes).symm.trans h
  · have hlink := (link_of_stops stops).symm.trans h
    cases result with
    | error fault left => cases hlink
    | ok value left =>
      cases hlink
      exact stops

/-- What was fetched is at the cursor. -/
theorem current_found {after : σ} (h : engine.current s = .ok statement after) :
    after = s ∧ engine.current? s = some statement := by
  unfold current at h
  split at h
  · next found here =>
    obtain ⟨rfl, rfl⟩ := EStateM.Result.ok.inj h
    exact ⟨rfl, here⟩
  · cases h

theorem current_of_found (here : engine.current? s = some statement) :
    engine.current s = .ok statement s := by
  simp only [current, here]

theorem current_of_none (none : engine.current? s = none) :
    engine.current s = .error (.noStatement (engine.cursor s)) s := by
  simp only [current, none]

/-- Going one step on is running what is there. -/
theorem nexts_iff :
    engine.Nexts s deeds result
      ↔ engine.Fetches engine.current true (engine.step s) deeds result := by
  constructor
  · rintro (fetched | ⟨fetched, runs⟩)
    · exact .lost fetched
    · exact .runs fetched runs
  · rintro (fetched | ⟨fetched, runs⟩)
    · exact .lost fetched
    · exact .runs fetched runs

/-- A statement that waits has none run after it. -/
theorem link_of_wait {after : σ} (h : engine.perform statement advance s = .ok .wait after) :
    engine.link statement advance s = .ok none after :=
  link_of_stops (.wait h : engine.Stops ⟨statement, advance, s⟩ _)

/-! ## So many calls -/

/-- A call once more, last. -/
theorem Repeats.concat {call : σ → List (Deed σ) → EStateM.Result Fault σ Unit → Prop}
    {count : Nat} {deeds more : List (Deed σ)} (h : Repeats call count s deeds after)
    (hlast : call after more (.ok () other)) :
    Repeats call (count + 1) s (deeds ++ more) other := by
  induction h with
  | zero s => simpa using Repeats.succ hlast (.zero other)
  | succ made rest ih =>
    rw [List.append_assoc]
    exact .succ made (ih hlast)

/-! What is undone is undone by an action. -/

theorem handled_of_backs {count : Nat} {deeds : List (Deed σ)}
    {result : EStateM.Result Fault σ Unit} (h : engine.Backs count s deeds result)
    (hresult : result = .ok () after) : ∀ deed ∈ deeds, deed.action.isSome = true := by
  induction h with
  | cut | nothing => exact List.forall_mem_nil _
  | failed => cases hresult
  | wait room found undone | enter room found undone =>
    exact List.forall_mem_singleton.2 (handled_of_undo undone)
  | advance room found undone rest ih =>
    exact List.forall_mem_cons.2 ⟨handled_of_undo undone, ih hresult⟩

theorem handled_of_repeats {count : Nat} {deeds : List (Deed σ)}
    (h : Repeats engine.Reverts count s deeds after) :
    ∀ deed ∈ deeds, deed.action.isSome = true := by
  induction h with
  | zero => exact List.forall_mem_nil _
  | succ made rest ih => exact List.forall_mem_append.2 ⟨handled_of_backs made rfl, ih⟩

/-! ## Where only the world changes -/

section Fixed

variable {book : Playbook} {registry : Registry} {world : World} {statement : Statement}
  {deeds : List Deed} {result : EStateM.Result Fault World Unit}

theorem current_fixed : (fixed book registry).current = Run.current book := by
  funext world
  simp only [current, current?, Run.current, fixed, id]
  cases book.current? world <;> rfl

theorem step_fixed : (fixed book registry).step = Next.step book := rfl

theorem stepForward_fixed : (fixed book registry).stepForward = Run.stepForward book := by
  funext world
  rw [stepForward, current_fixed, step_fixed]
  rfl

/-- A chain of `Run`, link by link. -/
theorem chain_fixed (allowed : Nat) (statement : Statement) (advance : Bool) (world : World) :
    Run.chain book registry (allowed + 1) statement advance world
      = match (fixed book registry).link statement advance world with
        | .ok none after => .ok () after
        | .ok (some next) mid => Run.chain book registry allowed next true mid
        | .error fault after => .error fault after := by
  rw [Run.chain]
  simp only [link, perform_fixed, stepForward_fixed, current_fixed, bind, EStateM.bind]
  cases Run.perform book registry statement advance world with
  | error fault after => rfl
  | ok flow mid =>
    cases flow with
    | wait => rfl
    | advance =>
      cases advance with
      | false => rfl
      | true =>
        simp only [if_true, EStateM.bind]
        cases Run.stepForward book mid <;> rfl
    | enter =>
      simp only [EStateM.bind]
      cases Run.current book mid <;> rfl

/-- What a chain of `Run` runs from the statement at the cursor, link by link. -/
theorem deeds_fixed (allowed : Nat) (here : book.current? world = some statement) :
    Run.deeds book registry (allowed + 1) world
      = (fixed book registry).deed world world.cursor statement ::
        match (fixed book registry).link statement true world with
        | .ok (some _) mid => Run.deeds book registry allowed mid
        | _ => [] := by
  have hnone : ∀ {mid : World}, book.current? mid = none →
      Run.deeds book registry allowed mid = [] := by
    intro mid hmid
    cases allowed <;> simp [Run.deeds, hmid]
  simp only [Run.deeds, here, ← perform_fixed]
  obtain ⟨next, goes⟩ | ⟨result, stops⟩ :=
    goes_or_stops (fixed book registry) ⟨statement, true, world⟩
  · rw [link_of_goes goes]
    cases goes with
    | advance performed found | enter performed found =>
      simp only [performed]
      rfl
  · rw [link_of_stops stops]
    cases stops with
    | wait performed | failed performed =>
      simp only [performed]
      rfl
    | endOfLabel performed none | nowhere performed none =>
      simp only [performed]
      exact congrArg _ (hnone none)

/-- **A chain comes to what it comes to in `Run`**, and if it is that of the statement at the
cursor, it runs the same statements.  The induction is on how many it may still run. -/
theorem runs_fixed {allowed : Nat} (hallowed : book.settings.maxChain - count = allowed)
    (statement : Statement) (advance : Bool) (world : World) :
    ∃ deeds, (fixed book registry).Runs count statement advance world deeds
        (Run.chain book registry allowed statement advance world)
      ∧ (advance = true → book.current? world = some statement →
        deeds = Run.deeds book registry allowed world) := by
  induction allowed generalizing count statement advance world with
  | zero => exact ⟨[], .cut (Nat.le_of_sub_eq_zero hallowed), fun _ _ => rfl⟩
  | succ allowed ih =>
    have room : count < book.settings.maxChain := by omega
    rw [chain_fixed]
    cases linked : (fixed book registry).link statement advance world with
    | error fault after =>
      refine ⟨_, .failed room linked, ?_⟩
      rintro rfl here
      rw [deeds_fixed allowed here, linked]
      rfl
    | ok found after =>
      cases found with
      | none =>
        refine ⟨_, .ends room linked, ?_⟩
        rintro rfl here
        rw [deeds_fixed allowed here, linked]
        rfl
      | some next =>
        have hmore : book.settings.maxChain - (count + 1) = allowed := by omega
        obtain ⟨deeds, hruns, hdeeds⟩ := ih hmore next true after
        refine ⟨_, .goes room linked hruns, ?_⟩
        rintro rfl here
        have hnext : book.current? after = some next := (current_of_goes (goes_of_link linked)).1
        rw [deeds_fixed allowed here, linked, hdeeds rfl hnext]
        rfl

/-- Running what is at the cursor. -/
theorem fetches_fixed (advance : Bool) (world : World) :
    ∃ deeds, (fixed book registry).Fetches (fixed book registry).current advance world deeds
        ((Run.current book >>= fun statement => Run.run book registry statement advance) world)
      ∧ (advance = true → deeds = Run.deeds book registry book.settings.maxChain world) := by
  simp only [current_fixed, bind, EStateM.bind]
  cases here : book.current? world with
  | none =>
    have hlost : Run.current book world = .error (.noStatement world.cursor) world := by
      simp only [Run.current, here]
    rw [hlost]
    refine ⟨[], .lost hlost, fun _ => ?_⟩
    cases book.settings.maxChain <;> simp [Run.deeds, here]
  | some statement =>
    have hfound : Run.current book world = .ok statement world := by
      simp only [Run.current, here]
    rw [hfound]
    obtain ⟨deeds, hruns, hdeeds⟩ := runs_fixed (Nat.sub_zero _) statement advance world
    exact ⟨deeds, .runs hfound hruns, fun hadvance => hdeeds hadvance here⟩

/-- **Going one step on comes to what it comes to in `Run`**, and runs the same statements. -/
theorem nexts_fixed (world : World) :
    (fixed book registry).Nexts world
      (Run.deeds book registry book.settings.maxChain (Next.step book world))
      (Run.next book registry world) := by
  obtain ⟨deeds, hfetches, hdeeds⟩ := fetches_fixed true (Next.step book world)
  exact nexts_iff.2 (hdeeds rfl ▸ hfetches)

/-- **Undoing statements comes to what it comes to in `Rewind`.**  The induction is on how many may
still be undone. -/
theorem backs_fixed {allowed : Nat} (hallowed : book.settings.maxChain - count = allowed)
    (world : World) :
    ∃ deeds, (fixed book registry).Backs count world deeds
      (Rewind.back book registry allowed world) := by
  induction allowed generalizing count world with
  | zero => exact ⟨[], .cut (Nat.le_of_sub_eq_zero hallowed)⟩
  | succ allowed ih =>
    have room : count < book.settings.maxChain := by omega
    cases found : (fixed book registry).target? world with
    | none =>
      have htarget : Rewind.target? book registry world = none := found
      obtain ⟨deeds, again, -⟩ := fetches_fixed false world
      simp only [Rewind.back, htarget]
      exact ⟨_, .nothing room found again⟩
    | some statement =>
      have htarget : Rewind.target? book registry world = some statement := found
      cases undone : (fixed book registry).undo statement world with
      | error fault left =>
        have hundo := (congrFun (undo_fixed statement) world).symm.trans undone
        obtain ⟨deeds, again, -⟩ := fetches_fixed false (left.moveTo world.cursor)
        simp only [Rewind.back, htarget, hundo, Steps.compensate_eq_left]
        exact ⟨_, .failed room found undone again⟩
      | ok flow after =>
        have hundo := (congrFun (undo_fixed statement) world).symm.trans undone
        simp only [Rewind.back, htarget, hundo]
        cases flow with
        | wait => exact ⟨_, .wait room found undone⟩
        | enter =>
          obtain ⟨deeds, again, -⟩ := fetches_fixed false (Rewind.settle world.cursor after)
          exact ⟨_, .enter room found undone again⟩
        | advance =>
          have hmore : book.settings.maxChain - (count + 1) = allowed := by omega
          obtain ⟨deeds, rest⟩ := ih hmore (Rewind.settle world.cursor after)
          exact ⟨_, .advance room found undone rest⟩

/-- **Going one step back comes to what it comes to in `Rewind`.** -/
theorem revert_of_reverts (h : (fixed book registry).Reverts world deeds result) :
    Rewind.revert book registry world = result := by
  obtain ⟨undone, hbacks⟩ := backs_fixed (Nat.sub_zero _) world
  exact (h.unique hbacks).2

/-- **Starting comes to what it comes to in a game**, and when it succeeds, it runs the same
statements. -/
theorem starts_fixed (game : Game) :
    ∃ deeds result, (fixed game.book game.registry).Starts game.world deeds result
      ∧ Game.start game = Turn.ofPlay (fun _ _ _ => result) game
      ∧ ∀ after, result = .ok () after →
        deeds = Run.deeds game.book game.registry game.book.settings.maxChain
          game.prepared.world := by
  simp only [Game.start, Game.prepared, bind, EStateM.bind, Turn.update, Game.eachAction,
    Turn.ofPlay]
  cases told : game.setPlaying.registry.each (fun action => action.onStart game.setPlaying.book)
      game.setPlaying.world with
  | error fault after =>
    refine ⟨[], _, .refused told, rfl, ?_⟩
    rintro left ⟨⟩
  | ok answer mid =>
    obtain ⟨deeds, hfetches, hdeeds⟩ := fetches_fixed true mid
    refine ⟨deeds, _, .runs told hfetches, ?_, fun _ _ => hdeeds rfl⟩
    simp only [Run.runCurrent]
    rfl

/-- A game that was started; the script, the settings and the actions are what they were. -/
theorem starts_of_start {game begun : Game} (h : Game.start game = .ok () begun) :
    (fixed game.book game.registry).Starts game.world
        (Run.deeds game.book game.registry game.book.settings.maxChain game.prepared.world)
        (.ok () begun.world)
      ∧ begun.book = game.book ∧ begun.registry = game.registry := by
  obtain ⟨deeds, result, hstarts, hgame, hdeeds⟩ := starts_fixed game
  obtain ⟨world, rfl, rfl⟩ := ofPlay_eq_ok.1 (hgame.symm.trans h)
  exact ⟨hdeeds world rfl ▸ hstarts, rfl, rfl⟩

/-- Going one step on, so many times. -/
theorem repeats_nexts {after : World}
    (h : repeated (Run.next book registry) count world = .ok () after) :
    Repeats (fixed book registry).Nexts count world (Run.nextDeeds book registry count world)
      after := by
  induction count generalizing world with
  | zero =>
    obtain ⟨-, rfl⟩ := EStateM.Result.ok.inj h
    exact .zero world
  | succ count ih =>
    obtain ⟨_, mid, hfirst, hrest⟩ := Result.bind_eq_ok.1 h
    rw [Run.nextDeeds, hfirst]
    exact .succ (hfirst ▸ nexts_fixed world) (ih hrest)

/-- Going one step back, so many times. -/
theorem repeated_of_reverts {after : World}
    (h : Repeats (fixed book registry).Reverts count world deeds after) :
    repeated (Rewind.revert book registry) count world = .ok () after := by
  induction h with
  | zero => rfl
  | succ made rest ih => exact Result.bind_eq_ok.2 ⟨(), _, revert_of_reverts made, ih⟩

end Fixed

end Engine

end Narrative
