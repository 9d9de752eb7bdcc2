import Narrative.Proofs.Calls

/-!
# Proofs/Skipped — going back over statements that were refused

A particle statement whose preset is not defined is refused: continuing stops at it, and continuing
again steps over it.  It put nothing on the stack of particles, but going back undoes it like one
that did, and takes the newest entry off the stack.

`Walk` lists what is passed and what is stepped over on the way from one line to the next
(`walked_of_refused`), and going back over it leads to the line again, with one entry less for every
statement that was refused (`Walk.back`).
-/

namespace Narrative

/-! ## Walks -/

/-- A place with the newest entries taken off the stack of particles. -/
def Place.dropped (place : Place) (count : Nat) : Place :=
  { place with
    entries := Function.update place.entries Particles.stack
      ((place.entries Particles.stack).drop count) }

/-- **What is passed and stepped over**: how many statements there are, how many of them were
refused, and whether a jump is among them. -/
inductive Walk (presets : Fields Json) (book : Playbook) (start : World) :
    Nat → Nat → Bool → World → Prop
  | rest : Walk presets book start 0 0 false start
  | pass {count refused : Nat} {jumped more : Bool} {mid last : World}
      (before : Walk presets book start count refused jumped mid)
      (link : Link presets book mid more last) :
      Walk presets book start (count + 1) refused (jumped || more) last
  | skip {count refused : Nat} {jumped : Bool} {mid : World} {line text name : String}
      {report : Report} (before : Walk presets book start count refused jumped mid)
      (here : book.current? mid = some (.text line))
      (filled : book.substitute mid line = .ok text)
      (kind : Kind.ofText text = .particles (some name))
      (undefined : Fields.has presets name = false) :
      Walk presets book start (count + 1) (refused + 1) jumped
        ((mid.report report).moveTo (mid.cursor.atStep (mid.cursor.step + 1)))

section Walks

variable {characters : Table Character} {presets : Fields Json} {book : Playbook}
  {start world last : World} {count refused : Nat} {jumped : Bool}

theorem Place.dropped_zero (place : Place) : place.dropped 0 = place := by
  rw [Place.dropped, List.drop_zero, Function.update_eq_self]

/-- **What a walk keeps.** -/
theorem Walk.carried (h : Walk presets book start count refused jumped last) :
    Carried presets jumped start last := by
  induction h with
  | rest => exact ⟨rfl, rfl, rfl, rfl, id⟩
  | pass before link ih =>
    have hlink := link.carried
    refine ⟨hlink.storage.trans ih.storage, hlink.gates.trans ih.gates, ?_,
      hlink.prompt.trans ih.prompt, fun h => hlink.tidy (ih.tidy h)⟩
    rw [hlink.sheet, ih.sheet, Sheet.leftIf_leftIf]
  | skip before here filled kind undefined ih =>
    exact ⟨ih.storage, ih.gates, ih.sheet, ih.prompt, fun h => (ih.tidy h).of_eq rfl rfl⟩

/-- Jumps are counted on a walk, too. -/
theorem Walk.jumps (h : Walk presets book start count refused jumped last) :
    start.jumps + jumped.toNat ≤ last.jumps := by
  induction h with
  | rest => exact Nat.le_refl _
  | @pass count refused jumped more mid last before link ih =>
    calc start.jumps + (jumped || more).toNat
        ≤ start.jumps + jumped.toNat + more.toNat := by cases jumped <;> cases more <;> simp
      _ ≤ mid.jumps + more.toNat := Nat.add_le_add_right ih _
      _ = last.jumps := link.jumps.symm
  | skip before here filled kind undefined ih => exact ih

/-- **Without a jump, a walk takes one step for every statement.** -/
theorem Walk.cursor (h : Walk presets book start count refused jumped last)
    (hstraight : jumped = false) :
    last.cursor = start.cursor.atStep (start.cursor.step + count) := by
  induction h with
  | rest => rfl
  | pass before link ih =>
    obtain ⟨rfl, rfl⟩ := Bool.or_eq_false_iff.1 hstraight
    have hlink : ∀ {mid next : World}, Link presets book mid false next →
        next.cursor = mid.cursor.atStep (mid.cursor.step + 1) := by
      intro mid next link
      cases link <;> rfl
    rw [hlink link, ih rfl]
    rfl
  | skip before here filled kind undefined ih =>
    show (World.cursor _).atStep _ = _
    rw [ih hstraight]
    rfl

/-- A walk goes on with a passage. -/
theorem Walk.extend {more : Bool} {passed : Nat}
    (h : Walk presets book start count refused jumped world)
    (passage : Passage presets book world passed more last) :
    Walk presets book start (count + passed) refused (jumped || more) last := by
  induction passage generalizing count jumped with
  | rest world =>
    rw [Bool.or_false]
    exact h
  | @link world next last passed more further first rest ih =>
    have hrest := ih (h.pass first)
    rw [Bool.or_assoc] at hrest
    rw [Nat.add_comm passed 1, ← Nat.add_assoc]
    exact hrest

/-- **Going back over a link** that is no jump leads to where it was passed, however many entries
were dropped from the stack of particles. -/
theorem Link.retreat {mid : World} {extra : Nat} (h : Link presets book mid false last)
    (hplace : world.place = last.place.dropped extra) (htidy : Tidy presets world) :
    ∃ before, before.place = mid.place.dropped extra
      ∧ Retreat characters presets book world 1 before := by
  have hstorage : world.storage = mid.storage :=
    (congrArg Place.storage hplace).trans h.carried.storage
  cases h with
  | next here filled kind =>
    refine ⟨_, ?_, back_next here filled kind (congrArg Place.cursor hplace) hstorage htidy⟩
    rw [place_moveTo, hplace]
    rfl
  | particles here filled kind defined =>
    obtain ⟨before, hbefore, retreat⟩ :=
      back_particles here filled kind (congrArg Place.cursor hplace) hstorage htidy
    refine ⟨before, ?_, retreat⟩
    rw [place_moveTo, place_emit, place_started] at hplace
    rw [hbefore, hplace]
    simp [Place.dropped, ← place_cursor]

variable (characters) in
/-- **Going back over a walk** leads to its start, with one entry less on the stack of particles for
every statement that was refused.  Each particle statement takes one entry off, and only those that
ran had put one on. -/
theorem Walk.back (h : Walk presets book start count refused jumped last)
    (hstraight : jumped = false) {extra : Nat} (hplace : world.place = last.place.dropped extra)
    (htidy : Tidy presets world) :
    ∃ before, before.place = start.place.dropped (extra + refused)
      ∧ Retreat characters presets book world count before := by
  induction h generalizing world extra with
  | rest => exact ⟨world, hplace, rfl, rfl, htidy, fun allowed => by rw [Nat.zero_add]⟩
  | @pass count refused jumped more mid last before link ih =>
    obtain ⟨rfl, rfl⟩ := Bool.or_eq_false_iff.1 hstraight
    obtain ⟨undone, hundone, retreat⟩ := link.retreat hplace htidy
    obtain ⟨first, hfirst, further⟩ := ih rfl hundone retreat.tidy
    exact ⟨first, hfirst, Nat.add_comm count 1 ▸ retreat.trans further⟩
  | @skip count refused jumped mid line text name report before here filled kind undefined ih =>
    obtain ⟨undone, hundone, retreat⟩ := back_particles here filled kind
      (congrArg Place.cursor hplace) (congrArg Place.storage hplace) htidy
    have hmid : undone.place = mid.place.dropped (extra + 1) := by
      rw [place_moveTo, place_report] at hplace
      rw [hundone, hplace]
      simp [Place.dropped, ← place_cursor]
    obtain ⟨first, hfirst, further⟩ := ih hstraight hmid retreat.tidy
    refine ⟨first, ?_, Nat.add_comm count 1 ▸ retreat.trans further⟩
    rw [hfirst, Nat.add_right_comm, Nat.add_assoc]

end Walks

/-! ## Being refused -/

/-- Whether a particle statement with an undefined preset stands at the position of a world. -/
def undefinedAt (presets : Fields Json) (book : Playbook) (world : World) : Bool :=
  match kindAt? book world world.cursor with
  | some (.particles (some name)) => !Fields.has presets name
  | _ => false

/-- **A game in which continuing was refused**, this many times in a row, each time at a particle
statement with an undefined preset. -/
inductive Refused (presets : Fields Json) (game : Game) : Nat → Game → Prop
  | none : Refused presets game 0 game
  | more {count : Nat} {mid after : Game} (before : Refused presets game count mid)
      (refused : Game.proceed mid = .ok false after)
      (here : undefinedAt presets after.book after.world = true) :
      Refused presets game (count + 1) after

section Refusals

variable {characters : Table Character} {presets : Fields Json} {book : Playbook}
  {world after left : World}

theorem statement_of_undefinedAt (h : undefinedAt presets book world = true) :
    ∃ line text name, book.current? world = some (.text line)
      ∧ book.substitute world line = .ok text ∧ Kind.ofText text = .particles (some name)
      ∧ Fields.has presets name = false := by
  unfold undefinedAt at h
  split at h
  · next name hkind =>
    obtain ⟨line, text, here, filled, kind⟩ := statement_of_kindAt? hkind
    exact ⟨line, text, name, here, filled, kind, by simpa using h⟩
  · cases h

/-- **A jump that fails** leaves a report. -/
theorem reported_of_stages_jump {i : Instruction} {advance : Bool} {fault : Fault}
    (h : Run.stages (Jump.invocation book i) advance world = .error fault left) :
    ∃ report, left = world.report report := by
  by_cases hlabel : book.hasLabel ((i.word? 1).getD "") = true
  · simp only [Run.stages, Jump.invocation, Jump.willApply, bind, EStateM.bind, hlabel,
      if_true] at h
    cases h
  · simp only [Run.stages, Jump.invocation, Jump.willApply, bind, EStateM.bind, hlabel] at h
    obtain ⟨-, rfl⟩ := EStateM.Result.error.inj h
    exact ⟨_, rfl⟩

/-- **A particle statement that fails** leaves a report. -/
theorem reported_of_stages_particles {i : Instruction} {origin : World} {advance : Bool}
    {fault : Fault}
    (h : Run.stages (Particles.invocation presets origin i) advance world = .error fault left) :
    ∃ report, left = world.report report := by
  by_cases hdefined : Fields.has presets ((i.word? 1).getD "") = true
  · obtain ⟨config, hconfig⟩ := Option.isSome_iff_exists.1 hdefined
    simp only [Run.stages, Particles.invocation, Particles.willApply, Particles.apply, bind,
      EStateM.bind, hdefined, if_true, hconfig] at h
    cases h
  · simp only [Run.stages, Particles.invocation, Particles.willApply, bind, EStateM.bind,
      hdefined] at h
    obtain ⟨-, rfl⟩ := EStateM.Result.error.inj h
    exact ⟨_, rfl⟩

variable (characters) in
/-- A particle statement is always invoked, defined or not. -/
theorem invoked_of_undefinedAt {statement : Statement} (here : book.current? world = some statement)
    (h : undefinedAt presets book world = true) :
    ∃ invocation,
      (builtinRegistry characters presets).invoke book world statement = .ok invocation := by
  obtain ⟨line, text, name, hline, filled, kind, -⟩ := statement_of_undefinedAt h
  obtain rfl : statement = .text line := Option.some.inj (here.symm.trans hline)
  exact ⟨_, by rw [invoke_text filled, kind]⟩

/-- **A statement that fails at a particle statement** was refused, and left a report. -/
theorem refused_of_perform (hbook : Traceable book world) {statement : Statement} {fault : Fault}
    (here : book.current? world = some statement)
    (h : Run.perform book (builtinRegistry characters presets) statement true world
      = .error fault left) (hleft : undefinedAt presets book left = true) :
    ∃ report, left = world.report report := by
  rw [perform_eq fun run hrun => hbook.callbackless _ run (hrun ▸ here)] at h
  cases hinvoke : (builtinRegistry characters presets).invoke book world statement with
  | error failed =>
    rw [hinvoke] at h
    obtain ⟨rfl, rfl⟩ := EStateM.Result.error.inj h
    obtain ⟨invocation, hinvoked⟩ := invoked_of_undefinedAt characters here hleft
    rw [hinvoke] at hinvoked
    cases hinvoked
  | ok invocation =>
    simp only [hinvoke] at h
    have hstop : ∀ stop, invocation = Stop.invocation stop → StopAt characters book world stop →
        ∃ report, left = world.report report := by
      rintro stop rfl hat
      obtain ⟨rested, hrest, -⟩ := hat.stages presets true world
      rw [hrest] at h
      cases h
    cases reads_of_invoke hinvoke with
    | line filled kind said => exact hstop (.line _) rfl (.line here filled kind said)
    | menu field read => exact hstop (.menu _) rfl (.menu here field read)
    | next filled kind => cases h
    | particles filled kind => exact reported_of_stages_particles h
    | jump filled kind => exact reported_of_stages_jump h

/-- Where there is no statement nothing is refused. -/
theorem isRejection_of_current {fault : Fault} (h : Run.current book world = .error fault left) :
    fault.isRejection = false := by
  unfold Run.current at h
  cases hcurrent : book.current? world with
  | none =>
    rw [hcurrent] at h
    obtain ⟨rfl, -⟩ := EStateM.Result.error.inj h
    rfl
  | some statement =>
    rw [hcurrent] at h
    cases h

theorem isRejection_of_stepForward {fault : Fault}
    (h : Run.stepForward book world = .error fault left) : fault.isRejection = false :=
  isRejection_of_current h

/-- **A chain that is refused** was refused at its first statement or later. -/
theorem perform_of_chain_refused {registry : Registry} {allowed : Nat} {statement : Statement}
    {fault : Fault} (h : Run.chain book registry (allowed + 1) statement true world
      = .error fault left) (hfault : fault.isRejection = true) :
    Run.perform book registry statement true world = .error fault left
      ∨ (∃ mid next moved, Run.perform book registry statement true world = .ok .advance mid
        ∧ Run.stepForward book mid = .ok next moved
        ∧ Run.chain book registry allowed next true moved = .error fault left)
      ∨ ∃ mid next moved, Run.perform book registry statement true world = .ok .enter mid
        ∧ Run.current book mid = .ok next moved
        ∧ Run.chain book registry allowed next true moved = .error fault left := by
  rw [Run.chain] at h
  obtain hperform | ⟨flow, mid, hperform, h⟩ := Result.bind_eq_error.1 h
  · exact Or.inl hperform
  refine Or.inr ?_
  cases flow with
  | wait => cases h
  | advance =>
    obtain hstep | ⟨next, moved, hstep, hrest⟩ := Result.bind_eq_error.1 h
    · rw [isRejection_of_stepForward hstep] at hfault
      cases hfault
    · exact Or.inl ⟨mid, next, moved, hperform, hstep, hrest⟩
  | enter =>
    obtain hcurrent | ⟨next, moved, hcurrent, hrest⟩ := Result.bind_eq_error.1 h
    · rw [isRejection_of_current hcurrent] at hfault
      cases hfault
    · exact Or.inr ⟨mid, next, moved, hperform, hcurrent, hrest⟩

/-- **A chain that is refused at a particle statement** is a passage to the statement.  The
induction is on what the chain may still run. -/
theorem passage_of_refused (hbook : Traceable book world) {allowed : Nat} {statement : Statement}
    {fault : Fault} (here : book.current? world = some statement)
    (h : Run.chain book (builtinRegistry characters presets) allowed statement true world
      = .error fault left) (hfault : fault.isRejection = true)
    (hleft : undefinedAt presets book left = true) :
    ∃ count jumped last report, Passage presets book world count jumped last
      ∧ left = last.report report := by
  induction allowed generalizing world statement with
  | zero =>
    obtain ⟨rfl, rfl⟩ := EStateM.Result.error.inj h
    cases hfault
  | succ allowed ih =>
    -- The rest of the chain goes on from a link.
    have hlink : ∀ jumped next moved, Link presets book world jumped moved →
        book.current? moved = some next →
        Run.chain book (builtinRegistry characters presets) allowed next true moved
            = .error fault left →
        ∃ count jumped last report, Passage presets book world count jumped last
          ∧ left = last.report report := by
      intro jumped next moved first hnext hrest
      obtain ⟨count, more, last, report, rest, hlast⟩ :=
        ih (hbook.of_storage first.carried.storage) hnext hrest
      exact ⟨count + 1, jumped || more, last, report, .link first rest, hlast⟩
    obtain hperform | ⟨mid, next, moved, hperform, hstep, hrest⟩
      | ⟨mid, next, moved, hperform, hcurrent, hrest⟩ := perform_of_chain_refused h hfault
    · obtain ⟨report, hreport⟩ := refused_of_perform hbook here hperform hleft
      exact ⟨0, false, world, report, .rest world, hreport⟩
    · cases performed_of_perform hbook here hperform with
      | advance cursor link =>
        obtain ⟨rfl, hnext⟩ := moved_of_stepForward here hstep cursor
        exact hlink false next _ link hnext hrest
    · cases performed_of_perform hbook here hperform with
      | enter link =>
        obtain ⟨rfl, hnext⟩ := Steps.current_found hcurrent
        exact hlink true next _ link hnext hrest

end Refusals

/-! ## Going back over what was refused -/

/-- **A game under way**: it stands at a statement, and stepping over it has walked from a start. -/
structure Underway (presets : Fields Json) (book : Playbook) (start : World) (refused : Nat)
    (world : World) : Prop where
  /-- A statement stands at its position. -/
  here : ∃ statement, book.current? world = some statement
  /-- The way to the step after it. -/
  walk : ∃ count jumped, Walk presets book start count refused jumped
    (world.moveTo (world.cursor.atStep (world.cursor.step + 1)))

section Rollbacks

variable {characters : Table Character} {presets : Fields Json}
  {game stuck after : Game} {stop : Stop} {refused : Nat}

/-- What being under way keeps. -/
theorem Underway.carried {book : Playbook} {start world : World}
    (h : Underway presets book start refused world) :
    ∃ jumped, Carried presets jumped start world := by
  obtain ⟨count, jumped, walk⟩ := h.walk
  have hmoved := walk.carried
  exact ⟨jumped, hmoved.storage, hmoved.gates, hmoved.sheet, hmoved.prompt,
    fun h => (hmoved.tidy h).of_eq rfl rfl⟩

/-- **Being refused once more** is a passage to the statement that was refused. -/
theorem Underway.refuse {start : World} {count : Nat}
    (h : Underway presets game.book start count game.world)
    (hregistry : game.registry = builtinRegistry characters presets)
    (hbook : Traceable game.book game.world) (hopen : game.world.globals.gatesOpen = true)
    (hprompt : game.world.prompt = ⟨none, true⟩) (hrefused : Game.proceed game = .ok false after)
    (hleft : undefinedAt presets after.book after.world = true) :
    after.fixed = game.fixed ∧ Underway presets game.book start (count + 1) after.world := by
  obtain ⟨fault, left, hnext, hfault, rfl⟩ := next_of_refused hregistry hopen hprompt hrefused
  rw [hregistry] at hnext
  have hleft : undefinedAt presets game.book left = true := hleft
  obtain ⟨statement, here⟩ := h.here
  cases hstatement : game.book.current?
      (game.world.moveTo (game.world.cursor.atStep (game.world.cursor.step + 1))) with
  | none =>
    rw [next_eq_error here hstatement] at hnext
    obtain ⟨rfl, -⟩ := EStateM.Result.error.inj hnext
    cases hfault
  | some next =>
    rw [next_eq_run here hstatement] at hnext
    have hmoved : Traceable game.book
        (game.world.moveTo (game.world.cursor.atStep (game.world.cursor.step + 1))) :=
      hbook.of_storage rfl
    obtain ⟨passed, more, last, report, passage, rfl⟩ :=
      passage_of_refused hmoved hstatement hnext hfault hleft
    obtain ⟨line, text, name, hline, filled, kind, undefined⟩ := statement_of_undefinedAt hleft
    obtain ⟨walked, jumped, walk⟩ := h.walk
    exact ⟨rfl, ⟨_, hline⟩, _, _, (walk.extend passage).skip hline filled kind undefined⟩

/-- **The first refusal** comes when no line is being typed: continuing would finish the line, and
the game would stay at it. -/
theorem typed_of_refused (hregistry : game.registry = builtinRegistry characters presets)
    (hrested : Rested characters presets game.book stop game.world)
    (hrefused : Game.proceed game = .ok false after)
    (hleft : undefinedAt presets after.book after.world = true) :
    game.world.prompt.finishedTyping = true := by
  by_contra hne
  rw [finished_of_refused hregistry hrested.gates (Bool.not_eq_true _ ▸ hne)] at hrefused
  obtain rfl := (EStateM.Result.ok.inj hrefused).2
  obtain ⟨line, text, name, hline, filled, kind, -⟩ := statement_of_undefinedAt hleft
  have hkind : kindAt? game.book game.world game.world.cursor = some (Kind.ofText text) :=
    kindAt?_eq hline filled
  rw [kind] at hkind
  obtain ⟨first, hfirst⟩ := hrested.here.kind_eq hkind
  cases hfirst

/-- **A game in which continuing was refused is under way.** -/
theorem underway_of_refused (hregistry : game.registry = builtinRegistry characters presets)
    (hbook : Traceable game.book game.world)
    (hrested : Rested characters presets game.book stop game.world)
    (hpending : game.world.prompt.pending = none) (h : Refused presets game refused stuck) :
    stuck.fixed = game.fixed
      ∧ Underway presets game.book
          (game.world.moveTo (game.world.cursor.atStep (game.world.cursor.step + 1))) refused
          stuck.world
      ∧ (0 < refused → game.world.prompt.finishedTyping = true) := by
  induction h with
  | none =>
    obtain ⟨statement, here, -, -⟩ := hrested.here.invoke presets
    exact ⟨rfl, ⟨⟨statement, here⟩, 0, false, .rest⟩, fun h => absurd h (Nat.lt_irrefl 0)⟩
  | @more count mid after before hrefused hleft ih =>
    obtain ⟨hfixed, hunderway, htyped⟩ := ih
    obtain ⟨jumped, hcarried⟩ := hunderway.carried
    have hsame : mid.book = game.book := congrArg Prod.fst hfixed
    have hregistry' : mid.registry = builtinRegistry characters presets :=
      (congrArg (·.2.1) hfixed).trans hregistry
    have hgates : mid.world.globals.gatesOpen = true := hcarried.gates.trans hrested.gates
    have hprompt : mid.world.prompt = game.world.prompt := hcarried.prompt
    have hbook' : Traceable mid.book mid.world := hsame ▸ hbook.of_storage hcarried.storage
    have hfinished : game.world.prompt.finishedTyping = true := by
      cases before with
      | none => exact typed_of_refused hregistry hrested hrefused hleft
      | more before hrefused hleft => exact htyped (Nat.succ_pos _)
    have hready : mid.world.prompt = ⟨none, true⟩ := by
      rw [hprompt, ← hpending, ← hfinished]
    rw [← hsame] at hunderway
    obtain ⟨hafter, hmore⟩ :=
      hunderway.refuse hregistry' hbook' hgates hready hrefused hleft
    exact ⟨hafter.trans hfixed, hsame ▸ hmore, fun _ => hfinished⟩

/-- **Coming to rest** after being refused. -/
theorem Underway.proceed {start : World} (h : Underway presets game.book start refused game.world)
    (hregistry : game.registry = builtinRegistry characters presets)
    (hbook : Traceable game.book game.world) (hproceed : Game.proceed game = .ok true after) :
    after.fixed = game.fixed
      ∧ ∃ total jumped last landing, Walk presets game.book start total refused jumped last
        ∧ Landed presets game.book.settings.typeAnimation true landing last after.world := by
  obtain ⟨-, world, hnext, rfl⟩ := next_of_proceed hregistry hproceed
  rw [hregistry] at hnext
  obtain ⟨statement, here⟩ := h.here
  cases hstatement : game.book.current?
      (game.world.moveTo (game.world.cursor.atStep (game.world.cursor.step + 1))) with
  | none =>
    rw [next_eq_error here hstatement] at hnext
    cases hnext
  | some next =>
    rw [next_eq_run here hstatement] at hnext
    have hmoved : Traceable game.book
        (game.world.moveTo (game.world.cursor.atStep (game.world.cursor.step + 1))) :=
      hbook.of_storage rfl
    obtain ⟨passed, more, last, landing, -, way⟩ := way_of_chain hmoved hstatement hnext
    obtain ⟨walked, jumped, walk⟩ := h.walk
    exact ⟨rfl, _, _, last, landing, walk.extend way.passage, way.landed⟩

/-- **A game that comes to rest after being refused** has walked there. -/
theorem walked_of_refused (hregistry : game.registry = builtinRegistry characters presets)
    (hbook : Traceable game.book game.world)
    (hrested : Rested characters presets game.book stop game.world)
    (hpending : game.world.prompt.pending = none) (hrefused : Refused presets game refused stuck)
    (hproceed : Game.proceed stuck = .ok true after) :
    after.fixed = game.fixed
      ∧ ∃ total jumped last landing, Walk presets game.book
          (game.world.moveTo (game.world.cursor.atStep (game.world.cursor.step + 1))) total refused
          jumped last
        ∧ Landed presets game.book.settings.typeAnimation true landing last after.world := by
  obtain ⟨hstuck, hunderway, -⟩ := underway_of_refused hregistry hbook hrested hpending hrefused
  obtain ⟨more, hcarried⟩ := hunderway.carried
  have hsame : stuck.book = game.book := congrArg Prod.fst hstuck
  have hregistry' : stuck.registry = builtinRegistry characters presets :=
    (congrArg (·.2.1) hstuck).trans hregistry
  have hbook' : Traceable stuck.book stuck.world := hsame ▸ hbook.of_storage hcarried.storage
  obtain ⟨hafter, hwalk⟩ := (hsame.symm ▸ hunderway).proceed hregistry' hbook' hproceed
  rw [hsame] at hwalk
  exact ⟨hafter.trans hstuck, hwalk⟩

/-- **Going back over a walk and the line before it.** -/
theorem Walk.revert {book : Playbook} {start world last : World} {say : Say} {count : Nat}
    (walk : Walk presets book (start.moveTo (start.cursor.atStep (start.cursor.step + 1)))
      count refused false last)
    (hat : StopAt characters book start (.line say)) (hnvl : say.nvl = false)
    (hplace : world.place = last.place) (htidy : Tidy presets world)
    (hchain : count < book.settings.maxChain) :
    ∃ before, Rewind.revert book (builtinRegistry characters presets) world = .ok () before
      ∧ before.place = start.place.dropped refused
      ∧ before.sheet = say.shown false true world.sheet ∧ Tidy presets before := by
  rw [← last.place.dropped_zero] at hplace
  obtain ⟨mid, hmid, retreat⟩ := walk.back characters rfl hplace htidy
  rw [Nat.zero_add] at hmid
  have hunshown : say.unshown? mid.sheet = some (say.shown false true world.sheet) := by
    rw [Say.unshown?, if_neg (Bool.eq_false_iff.1 hnvl), retreat.sheet]
  obtain ⟨shown, hshown, hline⟩ := back_line presets hat (congrArg Place.cursor hmid)
    (congrArg Place.storage hmid) hunshown
  obtain ⟨left, hleft⟩ := Nat.exists_eq_add_of_lt hchain
  have hallowed : book.settings.maxChain = count + (left + 1) := hleft
  refine ⟨shown.moveTo start.cursor, ?_, ?_, hshown.sheet,
    (hshown.tidy retreat.tidy).of_eq rfl rfl⟩
  · rw [Rewind.revert, hallowed, retreat.back, hline]
  · rw [place_moveTo, hshown.place, hmid]
    rfl

/-- **Going back after a walk to a line that is not on the page**, where no page shows: only the
stack of particles differs. -/
theorem Walk.rollback {say : Say} {last : World} {landing : Stop} {total : Nat}
    (walk : Walk presets game.book
      (game.world.moveTo (game.world.cursor.atStep (game.world.cursor.step + 1))) total refused
      false last)
    (hregistry : game.registry = builtinRegistry characters presets)
    (hrested : Rested characters presets game.book (.line say) game.world)
    (hnvl : say.nvl = false) (hpage : Page.isShowing game.world = false)
    (hfixed : after.fixed = game.fixed)
    (landed : Landed presets game.book.settings.typeAnimation true landing last after.world)
    (hchain : total < game.book.settings.maxChain) :
    ∃ before, Game.rollback after = .ok true before
      ∧ before.world.place = game.world.place.dropped refused
      ∧ before.world.sheet.closed = game.world.sheet.closed ∧ Tidy presets before.world := by
  have hbook : after.book = game.book := congrArg Prod.fst hfixed
  have hregistry' : after.registry = builtinRegistry characters presets :=
    (congrArg (·.2.1) hfixed).trans hregistry
  have hopen : after.world.globals.gatesOpen = true :=
    (gatesOpen_of_place landed.place).trans (walk.carried.gates.trans hrested.gates)
  have htidy : Tidy presets after.world :=
    landed.tidy (walk.carried.tidy (hrested.tidy.of_eq rfl rfl))
  obtain ⟨hplace, hsheet, -, hready⟩ := readied_parts presets after.world
  obtain ⟨before, hrevert, hbefore, hshown, hbeforeTidy⟩ :=
    walk.revert hrested.here hnvl (hplace.trans landed.place) (hready htidy) hchain
  refine ⟨{ after with world := before }, ?_, hbefore, ?_, hbeforeTidy⟩
  · rw [rollback_eq hregistry' hopen]
    refine granted_eq_ok_true.2 (ofPlay_eq_ok.2 ⟨before, ?_, rfl⟩)
    rw [hbook, hregistry']
    exact hrevert
  · have hstart : last.sheet = game.world.sheet := walk.carried.sheet
    show before.sheet.closed = game.world.sheet.closed
    rw [hshown, Say.closed_shown, hsheet, landed.sheet, hstart]
    exact landing.closed_shown true fun _ _ _ _ => hpage

/-- **A walk on which no more jumps were made than before** is straight. -/
theorem Walk.straight {book : Playbook} {start last : World} {count : Nat} {jumped : Bool}
    (walk : Walk presets book start count refused jumped last) (hjumps : last.jumps = start.jumps) :
    jumped = false := by
  have hcount := walk.jumps
  rw [hjumps] at hcount
  cases jumped with
  | false => rfl
  | true => exact absurd hcount (Nat.not_succ_le_self start.jumps)

/-- **Two snapshots differ by the entries that were dropped**, and by nothing else. -/
theorem snapshot_dropped_iff {before world : World}
    (hplace : before.place = world.place.dropped refused)
    (hclosed : before.sheet.closed = world.sheet.closed) (hbefore : Tidy presets before)
    (htidy : Tidy presets world) :
    before.snapshot = world.snapshot
      ↔ refused = 0 ∨ world.history.entries Particles.stack = [] := by
  have hne : Particles.stack ≠ Page.stack := by decide
  constructor
  · intro hsnapshot
    have hhistory : before.history = world.history := congrArg Snapshot.history hsnapshot
    have hentries : before.history.entries Particles.stack
        = (world.history.entries Particles.stack).drop refused := by
      have h := congrFun (congrArg Place.entries hplace) Particles.stack
      simpa [World.place, Place.dropped, hne] using h
    rw [hhistory] at hentries
    have hlength := congrArg List.length hentries
    rw [List.length_drop] at hlength
    cases refused with
    | zero => exact Or.inl rfl
    | succ count => exact Or.inr (List.eq_nil_of_length_eq_zero (by omega))
  · intro hnone
    have hsame : world.place.dropped refused = world.place := by
      obtain rfl | hempty := hnone
      · exact Place.dropped_zero _
      · have hempty : world.place.entries Particles.stack = [] := by
          simpa [World.place, hne] using hempty
        rw [Place.dropped, hempty, List.drop_nil, ← hempty, Function.update_eq_self]
    exact hbefore.snapshot_eq htidy (hplace.trans hsame) hclosed

/-- **Going back over what was refused takes one particle statement off its stack for each that was
refused.**  Everything else is as it was; so the snapshot is as it was only if nothing was refused,
or if there was nothing to take off. -/
theorem rollback_past_refused {say : Say}
    (hregistry : game.registry = builtinRegistry characters presets)
    (hbook : Traceable game.book game.world)
    (hrested : Rested characters presets game.book stop game.world)
    (hline : lineAt? characters game.book game.world = some say) (hnvl : say.nvl = false)
    (hpage : Page.isShowing game.world = false) (hrefused : Refused presets game refused stuck)
    (hproceed : Game.proceed stuck = .ok true after)
    (hjumps : after.world.jumps = game.world.jumps)
    (hchain : after.cursor.step ≤ game.cursor.step + game.book.settings.maxChain) :
    ∃ before, Game.rollback after = .ok true before
      ∧ before.world.place = game.world.place.dropped refused
      ∧ (before.snapshot = game.snapshot
        ↔ refused = 0 ∨ game.world.history.entries Particles.stack = []) := by
  obtain rfl : stop = .line say := by
    rw [hrested.here.lineAt?_eq] at hline
    exact Stop.eq_line hline
  obtain ⟨hfixed, total, jumped, last, landing, walk, landed⟩ :=
    walked_of_refused hregistry hbook hrested hrested.pending hrefused hproceed
  obtain rfl : jumped = false :=
    walk.straight ((jumps_of_place landed.place).symm.trans hjumps)
  -- No jump was made, so the cursor counts the statements.
  have htotal : total < game.book.settings.maxChain := by
    have hcursor : after.world.cursor = last.cursor := congrArg Place.cursor landed.place
    have hstep : after.world.cursor.step = game.world.cursor.step + 1 + total := by
      rw [hcursor, walk.cursor rfl]
      rfl
    have hlimit : after.world.cursor.step ≤ game.world.cursor.step + game.book.settings.maxChain :=
      hchain
    omega
  obtain ⟨before, hrollback, hplace, hclosed, htidy⟩ :=
    walk.rollback hregistry hrested hnvl hpage hfixed landed htotal
  exact ⟨before, hrollback, hplace, snapshot_dropped_iff hplace hclosed htidy hrested.tidy⟩

end Rollbacks

/-! A story with a misspelled particle system. -/

/-- A story with a particle system that is not defined. -/
def hailStory : Story :=
  { script := .obj
      [("Start", .arr [.str "particles snow", .str "Snow falls.", .str "particles hail",
        .str "It is quiet."])]
    characters := Table.empty
    particles := [("snow", .obj [])]
    storage := []
    settings := { typeAnimation := false } }

/-- The game of the story. -/
def hailMade : Game := (hailStory.gameWith? hailStory.registry).get (by decide +kernel)

/-- The game, set up. -/
def hailReady : Game := Result.left (Game.setup (hailMade.withPreferences {}))

/-- At the first line. -/
def hailBegun : Game := Result.left (Game.start hailReady)

/-- At the statement that was refused. -/
def hailStuck : Game := Result.left (Game.proceed hailBegun)

/-- At the second line. -/
def hailPassed : Game := Result.left (Game.proceed hailStuck)

/-- Going back over the second particle statement of this story stops the first. -/
theorem rollback_past_refused_hail :
    ∃ before, Game.rollback hailPassed = .ok true before
      ∧ before.world.place = hailBegun.world.place.dropped 1
      ∧ before.snapshot ≠ hailBegun.snapshot := by
  have hmade : hailStory.gameWith? hailStory.registry = some hailMade := (Option.some_get _).symm
  have hready : Game.setup (hailMade.withPreferences {}) = .ok () hailReady := setup_ok_left rfl
  have hbook : Traceable hailReady.book hailReady.world := traceable_of_traces (by decide +kernel)
  have hbegun : Game.start hailReady = .ok () hailBegun := Result.eq_ok (by decide +kernel)
  obtain ⟨hregistry, htraceable, stop, hrested⟩ := begun_parts hmade hready hbook hbegun
  have hstuck : Game.proceed hailBegun = .ok false hailStuck := Result.eq_ok (by decide +kernel)
  have hpassed : Game.proceed hailStuck = .ok true hailPassed := Result.eq_ok (by decide +kernel)
  have hrefused : Refused hailStory.particles hailBegun 1 hailStuck :=
    .more .none hstuck (by decide +kernel)
  have hchain : hailPassed.cursor.step
      ≤ hailBegun.cursor.step + hailBegun.book.settings.maxChain := by
    have hpassed : hailPassed.cursor.step = 3 := by decide +kernel
    have hlimit : hailBegun.book.settings.maxChain = 10000 := by decide +kernel
    omega
  obtain ⟨before, hbefore, hplace, hsnapshot⟩ := rollback_past_refused hregistry htraceable hrested
    (Option.some_get (by decide +kernel)).symm (by decide +kernel) (by decide +kernel) hrefused
    hpassed (by decide +kernel) hchain
  refine ⟨before, hbefore, hplace, fun hsame => ?_⟩
  have hentries : hailBegun.world.history.entries Particles.stack ≠ [] :=
    fun hempty => absurd (List.isEmpty_iff.2 hempty) (by decide +kernel)
  exact (hsnapshot.1 hsame).elim (Nat.succ_ne_zero 0) hentries

end Narrative
