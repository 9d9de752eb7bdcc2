import Narrative.Proofs.Stops

/-!
# Proofs/Passage — what going forward passes

A chain of statements passes some that do not wait (`next`, particle systems and jumps) and comes to
rest on a stop.  `Passage` lists what a chain passes, with the world between any two statements, and
`passage_of_chain` says that a chain which succeeds is a passage followed by a stop.

A passage holds only statements that can be traced back by what they leave on the stacks: particle
statements that name their preset, and jumps to labels without the braces of a placeholder
(`Traceable`).
-/

namespace Narrative

/-! ## Passages -/

/-- **A story that can be traced back**, as it reads with the storage of a world: it has no
callbacks, its particle statements name their presets, and no jump goes to a label with the braces
of a placeholder, which would be filled in when the jump is undone. -/
structure Traceable (book : Playbook) (world : World) : Prop where
  /-- No statement is a callback. -/
  callbackless : book.Callbackless
  /-- Particle statements have a second word. -/
  named : ∀ cursor line text name, book.statement? cursor = some (.text line) →
    book.substitute world line = .ok text → Kind.ofText text = .particles name → name.isSome = true
  /-- Labels have no braces. -/
  unbraced : ∀ cursor line text target, book.statement? cursor = some (.text line) →
    book.substitute world line = .ok text → Kind.ofText text = .jump target →
      Text.occurs Template.openMark target.toList = false

/-- Every statement of the script, in the language being played. -/
def Playbook.statements (book : Playbook) : List Statement :=
  ((book.script.labels? book.language).map fun labels => labels.values.flatten).getD []

theorem Playbook.mem_statements {book : Playbook} {cursor : Cursor} {statement : Statement}
    (h : book.statement? cursor = some statement) : statement ∈ book.statements := by
  obtain ⟨labels, statements, hlabels, hget, hstep⟩ := Script.labels_of_statement? h
  have hmem : statements ∈ labels.values :=
    List.mem_map.2 ⟨_, Fields.mem_of_get? hget, rfl⟩
  rw [Playbook.statements, hlabels]
  exact List.mem_flatten.2 ⟨statements, hmem, List.mem_of_getElem? hstep⟩

/-- Whether one statement can be traced back. -/
def traces (book : Playbook) (world : World) : Statement → Bool
  | .text line =>
    match book.substitute world line with
    | .error _ => true
    | .ok text =>
      match Kind.ofText text with
      | .particles name => name.isSome
      | .jump target => !Text.occurs Template.openMark target.toList
      | _ => true
  | .record _ => true
  | .callback _ => false

/-- **A story can be traced back if each of its statements can.** -/
theorem traceable_of_traces {book : Playbook} {world : World}
    (h : book.statements.all (traces book world) = true) : Traceable book world := by
  have htraces : ∀ cursor statement, book.statement? cursor = some statement →
      traces book world statement = true := fun cursor statement hs =>
    List.all_eq_true.1 h statement (Playbook.mem_statements hs)
  refine ⟨fun cursor run hs => ?_, fun cursor line text name hs filled kind => ?_,
    fun cursor line text target hs filled kind => ?_⟩
  · cases htraces cursor _ hs
  · simpa only [traces, filled, kind] using htraces cursor _ hs
  · simpa only [traces, filled, kind, Bool.not_eq_true'] using htraces cursor _ hs

/-- **One statement passed**, from before it is run to before the next one is, and whether it was a
jump. -/
inductive Link (presets : Fields Json) (book : Playbook) : World → Bool → World → Prop
  | next {world : World} {line text : String} (here : book.current? world = some (.text line))
      (filled : book.substitute world line = .ok text) (kind : Kind.ofText text = .next) :
      Link presets book world false (world.moveTo (world.cursor.atStep (world.cursor.step + 1)))
  | particles {world : World} {line text name : String} {effects : List Effect}
      (here : book.current? world = some (.text line))
      (filled : book.substitute world line = .ok text)
      (kind : Kind.ofText text = .particles (some name))
      (defined : Fields.has presets name = true) :
      Link presets book world false
        (((Particles.started (Text.trim text) world).emit effects).moveTo
          (world.cursor.atStep (world.cursor.step + 1)))
  | jump {world : World} {line text target : String} {effects : List Effect}
      (here : book.current? world = some (.text line))
      (filled : book.substitute world line = .ok text) (kind : Kind.ofText text = .jump target)
      (unbraced : Text.occurs Template.openMark target.toList = false) :
      Link presets book world true ((Jump.entered target world).emit effects)

/-- **Statements passed**, how many there are, and whether a jump is among them. -/
inductive Passage (presets : Fields Json) (book : Playbook) : World → Nat → Bool → World → Prop
  | rest (world : World) : Passage presets book world 0 false world
  | link {world next last : World} {count : Nat} {jumped more : Bool}
      (first : Link presets book world jumped next)
      (rest : Passage presets book next count more last) :
      Passage presets book world (count + 1) (jumped || more) last

section Passages

variable {characters : Table Character} {presets : Fields Json} {book : Playbook}
  {world after : World}

theorem Particles.effect?_of_named {text name : String}
    (kind : Kind.ofText text = .particles (some name)) (defined : Fields.has presets name = true) :
    (Particles.effect? presets (Text.trim text)).isSome = true := by
  obtain ⟨rest, hwords, hhead⟩ := Kind.words_of_particles kind
  obtain ⟨config, hconfig⟩ := Option.isSome_iff_exists.1 defined
  have hsecond : (Text.words (Text.trim text))[1]? = some name := by
    rw [Text.words_trim, hwords, List.getElem?_cons_succ, ← List.head?_eq_getElem?, hhead]
  rw [Particles.effect?, hsecond]
  simp [hconfig]

/-- **What a statement that does not wait keeps**: the storage, the flags and the prompt, and the
sheet, which a jump leaves. -/
structure Carried (presets : Fields Json) (jumped : Bool) (world after : World) : Prop where
  /-- The storage is the same. -/
  storage : after.storage = world.storage
  /-- The flags are as open. -/
  gates : after.globals.gatesOpen = world.globals.gatesOpen
  /-- The page is left by a jump. -/
  sheet : after.sheet = Sheet.leftIf jumped world.sheet
  /-- The prompt is the same. -/
  prompt : after.prompt = world.prompt
  /-- The world is as tidy. -/
  tidy : Tidy presets world → Tidy presets after

theorem Link.carried {jumped : Bool} (h : Link presets book world jumped after) :
    Carried presets jumped world after := by
  cases h with
  | next here filled kind => exact ⟨rfl, rfl, rfl, rfl, fun h => h.of_eq rfl rfl⟩
  | particles here filled kind defined =>
    exact ⟨rfl, rfl, by simp [sheet_started], by simp, fun h =>
      (h.start (Particles.effect?_of_named kind defined)).of_eq rfl rfl⟩
  | jump here filled kind unbraced =>
    exact ⟨rfl, rfl, by simp [sheet_entered], by simp, fun h => (h.entered _).of_eq rfl rfl⟩

theorem Passage.carried {count : Nat} {jumped : Bool}
    (h : Passage presets book world count jumped after) :
    Carried presets jumped world after := by
  induction h with
  | rest world => exact ⟨rfl, rfl, rfl, rfl, id⟩
  | link first rest ih =>
    have hfirst := first.carried
    refine ⟨ih.storage.trans hfirst.storage, ih.gates.trans hfirst.gates, ?_,
      ih.prompt.trans hfirst.prompt, fun h => ih.tidy (hfirst.tidy h)⟩
    rw [ih.sheet, hfirst.sheet, Sheet.leftIf_leftIf]

/-! ## Jumps on the way -/

/-- How many jumps were made and not undone. -/
def World.jumps (world : World) : Nat := (world.history.entries Jump.stack).length

theorem jumps_eq (world : World) : world.jumps = (world.place.entries Jump.stack).length := by
  have hne : Jump.stack ≠ Page.stack := by decide
  simp only [World.place, Function.update_of_ne hne, World.jumps]

theorem jumps_of_place {other : World} (h : other.place = world.place) :
    other.jumps = world.jumps := by
  rw [jumps_eq, h, jumps_eq]

theorem jumps_entered (target : String) (world : World) :
    (Jump.entered target world).jumps = world.jumps + 1 := by
  have hne : Jump.stack ≠ Jump.labelStack := by decide
  simp [jumps_eq, place_entered, hne]

/-- Only jumps are counted. -/
theorem Link.jumps (h : Link presets book world jumped after) :
    after.jumps = world.jumps + jumped.toNat := by
  cases h with
  | next here filled kind => rfl
  | particles here filled kind defined =>
    have hne : Jump.stack ≠ Particles.stack := by decide
    simp [jumps_eq, place_started, hne]
  | jump here filled kind unbraced => exact jumps_entered _ _

theorem Passage.jumps {count : Nat} (h : Passage presets book world count jumped after) :
    world.jumps + jumped.toNat ≤ after.jumps := by
  induction h with
  | rest world => exact Nat.le_refl _
  | @link world next last count jumped more first rest ih =>
    have hfirst := first.jumps
    calc world.jumps + (jumped || more).toNat
        ≤ world.jumps + jumped.toNat + more.toNat := by cases jumped <;> cases more <;> simp
      _ ≤ last.jumps := hfirst ▸ ih

/-- **A passage that begins with a jump** has jumped. -/
theorem Passage.jumped_of_kindAt? {count : Nat} {target : String} {start last : World}
    (passage : Passage presets book start count jumped last)
    {stop : Stop} (hat : StopAt characters book last stop)
    (hjump : kindAt? book start start.cursor = some (.jump target)) : jumped = true := by
  cases passage with
  | rest =>
    obtain ⟨first, hline⟩ := hat.kind_eq hjump
    cases hline
  | link first rest =>
    cases first with
    | next here filled kind =>
      rw [kindAt?_eq here filled, kind] at hjump
      cases hjump
    | particles here filled kind defined =>
      rw [kindAt?_eq here filled, kind] at hjump
      cases hjump
    | jump here filled kind unbraced => rfl

/-! ## Chains -/

/-- A statement that is there is before the end of its label. -/
theorem Playbook.step_lt {σ : Type} {book : Playbook σ} {cursor : Cursor}
    {statement : Statement σ} (h : book.statement? cursor = some statement) :
    cursor.step < book.labelLength cursor.label := by
  obtain ⟨statements, hlabel, hstep⟩ := Option.bind_eq_some_iff.1 h
  have hlength : book.labelLength cursor.label = statements.length := by
    rw [Playbook.labelLength, Playbook.label?, hlabel]
    rfl
  rw [hlength]
  exact (List.getElem?_eq_some_iff.1 hstep).1

/-- Going on from a statement that is there comes to the next one. -/
theorem moved_of_stepForward {mid moved : World} {statement next : Statement}
    (here : book.current? world = some statement)
    (h : Run.stepForward book mid = .ok next moved) (hcursor : mid.cursor = world.cursor) :
    moved = mid.moveTo (world.cursor.atStep (world.cursor.step + 1))
      ∧ book.current? moved = some next := by
  have hforward : Run.stepForward book mid
      = Run.current book (mid.moveTo (world.cursor.atStep (world.cursor.step + 1))) := by
    rw [Run.stepForward, hcursor, if_pos (Playbook.step_lt here)]
  rw [hforward] at h
  obtain ⟨rfl, hnext⟩ := Steps.current_found h
  exact ⟨rfl, hnext⟩

/-- A chain that succeeds has run its first statement. -/
theorem perform_of_chain {registry : Registry} {allowed : Nat} {statement : Statement}
    {advance : Bool} (h : Run.chain book registry allowed statement advance world = .ok () after) :
    ∃ left flow mid, allowed = left + 1
      ∧ Run.perform book registry statement advance world = .ok flow mid
      ∧ (flow = .wait → after = mid)
      ∧ (flow = .advance → advance = true → ∃ next moved, Run.stepForward book mid = .ok next moved
        ∧ Run.chain book registry left next true moved = .ok () after)
      ∧ (flow = .enter → ∃ next, book.current? mid = some next
        ∧ Run.chain book registry left next true mid = .ok () after) := by
  cases allowed with
  | zero => cases h
  | succ left =>
    rw [Run.chain] at h
    obtain ⟨flow, mid, hperform, h⟩ := Result.bind_eq_ok.1 h
    refine ⟨left, flow, mid, rfl, hperform, ?_, ?_, ?_⟩
    · rintro rfl
      exact (EStateM.Result.ok.inj h).2.symm
    · rintro rfl rfl
      exact Result.bind_eq_ok.1 h
    · rintro rfl
      obtain ⟨next, moved, hcurrent, hrest⟩ := Result.bind_eq_ok.1 h
      obtain ⟨rfl, hnext⟩ := Steps.current_found hcurrent
      exact ⟨next, hnext, hrest⟩

/-- **A statement that is run in place** ends with what it did, unless it entered a label. -/
theorem performed_in_place {registry : Registry} {statement : Statement}
    (hrun : Run.run book registry statement false world = .ok () after) :
    ∃ flow mid, Run.perform book registry statement false world = .ok flow mid
      ∧ (flow ≠ .enter → after = mid) := by
  unfold Run.run at hrun
  cases hchain : book.settings.maxChain with
  | zero =>
    rw [hchain] at hrun
    cases hrun
  | succ left =>
    rw [hchain, Run.chain] at hrun
    obtain ⟨flow, mid, hperform, hrest⟩ := Result.bind_eq_ok.1 hrun
    refine ⟨flow, mid, hperform, fun hflow => ?_⟩
    cases flow with
    | wait => exact (EStateM.Result.ok.inj hrest).2.symm
    | advance => exact (EStateM.Result.ok.inj hrest).2.symm
    | enter => exact absurd rfl hflow

/-- A statement that was run was invoked. -/
theorem stages_of_perform {registry : Registry} {statement : Statement} {advance : Bool}
    {flow : Flow} (hno : ∀ run, statement ≠ .callback run)
    (h : Run.perform book registry statement advance world = .ok flow after) :
    ∃ invocation, registry.invoke book world statement = .ok invocation
      ∧ Run.stages invocation advance world = .ok flow after := by
  rw [perform_eq hno] at h
  cases hinvoke : registry.invoke book world statement with
  | error fault =>
    rw [hinvoke] at h
    cases h
  | ok invocation =>
    rw [hinvoke] at h
    exact ⟨invocation, rfl, h⟩

/-- **A jump that was run** has entered its label, which is there. -/
theorem entered_of_stages {i : Instruction} {advance : Bool} {flow : Flow}
    (h : Run.stages (Jump.invocation book i) advance world = .ok flow after) :
    flow = .enter ∧ book.hasLabel ((i.word? 1).getD "") = true
      ∧ after = (Jump.entered ((i.word? 1).getD "") world).emit [.clearText] := by
  by_cases hlabel : book.hasLabel ((i.word? 1).getD "") = true
  · simp only [Run.stages, Jump.invocation, Jump.willApply, bind, EStateM.bind, hlabel,
      if_true] at h
    obtain ⟨rfl, rfl⟩ := EStateM.Result.ok.inj h
    exact ⟨rfl, hlabel, rfl⟩
  · simp only [Run.stages, Jump.invocation, Jump.willApply, bind, EStateM.bind, hlabel] at h
    cases h

/-- **Running a particle statement** starts its preset, if it is there. -/
theorem stages_particles {statement : Statement} {text : String} {name : Option String}
    {config : Json} (kind : Kind.ofText text = .particles name)
    (hconfig : Fields.get? presets (name.getD "") = some config) (origin : World) (advance : Bool)
    (world : World) :
    Run.stages (Particles.invocation presets origin (.ofText statement text)) advance world
      = .ok .advance ((Particles.started (Text.trim text) world).emit
          [.particles (name.getD "") config]) := by
  have hdefined : Fields.has presets (name.getD "") = true :=
    Option.isSome_iff_exists.2 ⟨config, hconfig⟩
  simp only [Run.stages, Particles.invocation, word?_of_particles kind, Particles.willApply,
    hdefined, if_true, Particles.apply, hconfig, bind, EStateM.bind]
  rfl

/-- **A particle statement that was run** has started its preset, which is there. -/
theorem started_of_stages {i : Instruction} {origin : World} {advance : Bool} {flow : Flow}
    (h : Run.stages (Particles.invocation presets origin i) advance world = .ok flow after) :
    flow = .advance ∧ Fields.has presets ((i.word? 1).getD "") = true
      ∧ ∃ effects, after = (Particles.started (Text.trim i.text) world).emit effects := by
  cases hconfig : Fields.get? presets ((i.word? 1).getD "") with
  | none =>
    simp only [Run.stages, Particles.invocation, Particles.willApply, bind, EStateM.bind,
      Fields.has, hconfig] at h
    cases h
  | some config =>
    have hdefined : Fields.has presets ((i.word? 1).getD "") = true :=
      Option.isSome_iff_exists.2 ⟨config, hconfig⟩
    simp only [Run.stages, Particles.invocation, Particles.willApply, Particles.apply, bind,
      EStateM.bind, hdefined, if_true, hconfig] at h
    obtain ⟨rfl, rfl⟩ := EStateM.Result.ok.inj h
    exact ⟨rfl, hdefined, _, rfl⟩

theorem Traceable.of_storage (h : Traceable book world)
    (hstorage : after.storage = world.storage) : Traceable book after where
  callbackless := h.callbackless
  named cursor line text name := by
    rw [substitute_congr hstorage]
    exact h.named cursor line text name
  unbraced cursor line text target := by
    rw [substitute_congr hstorage]
    exact h.unbraced cursor line text target

/-- **What running one statement does**: it waits at a stop, or it is a link to what is run next. -/
inductive Performed (characters : Table Character) (presets : Fields Json) (book : Playbook)
    (world after : World) : Flow → Prop
  | wait {stop : Stop} (here : StopAt characters book world stop)
      (landed : Landed presets book.settings.typeAnimation true stop world after) :
      Performed characters presets book world after .wait
  | advance (cursor : after.cursor = world.cursor)
      (link : Link presets book world false
        (after.moveTo (world.cursor.atStep (world.cursor.step + 1)))) :
      Performed characters presets book world after .advance
  | enter (link : Link presets book world true after) :
      Performed characters presets book world after .enter

theorem performed_of_perform (hbook : Traceable book world) {statement : Statement}
    (here : book.current? world = some statement) {flow : Flow}
    (h : Run.perform book (builtinRegistry characters presets) statement true world
      = .ok flow after) : Performed characters presets book world after flow := by
  obtain ⟨invocation, hinvoke, hstages⟩ := stages_of_perform
    (fun run hrun => hbook.callbackless _ run (hrun ▸ here)) h
  have hstop : ∀ stop, invocation = Stop.invocation stop → StopAt characters book world stop →
      Performed characters presets book world after flow := by
    rintro stop rfl hat
    obtain ⟨rested, hrest, hlanded⟩ := hat.stages presets true world
    rw [hrest] at hstages
    obtain ⟨rfl, rfl⟩ := EStateM.Result.ok.inj hstages
    exact .wait hat hlanded
  cases reads_of_invoke hinvoke with
  | line filled kind said => exact hstop (.line _) rfl (.line here filled kind said)
  | menu field read => exact hstop (.menu _) rfl (.menu here field read)
  | next filled kind =>
    obtain ⟨rfl, rfl⟩ := EStateM.Result.ok.inj hstages
    exact .advance rfl (.next here filled kind)
  | @particles line text name filled kind =>
    obtain ⟨rfl, hdefined, effects, rfl⟩ := started_of_stages hstages
    obtain ⟨preset, rfl⟩ := Option.isSome_iff_exists.1
      (hbook.named _ line text name here filled kind)
    rw [word?_of_particles kind] at hdefined
    exact .advance rfl (.particles here filled kind hdefined)
  | @jump line text target filled kind =>
    obtain ⟨rfl, -, rfl⟩ := entered_of_stages hstages
    rw [word?_of_jump kind]
    exact .enter (.jump here filled kind (hbook.unbraced _ line text target here filled kind))

/-- **A way to a stop**: a passage to where it is, and what is left once it is shown. -/
structure Way (characters : Table Character) (presets : Fields Json) (book : Playbook)
    (start : World) (count : Nat) (jumped : Bool) (last : World) (stop : Stop) (after : World) :
    Prop where
  /-- The statements passed. -/
  passage : Passage presets book start count jumped last
  /-- The stop. -/
  here : StopAt characters book last stop
  /-- The world that is at rest on it. -/
  landed : Landed presets book.settings.typeAnimation true stop last after

/-- A way from the other end of a link, with the link. -/
theorem Link.way {mid last : World} {stop : Stop} {jumped more : Bool} {count : Nat}
    (first : Link presets book world jumped mid)
    (way : Way characters presets book mid count more last stop after) :
    Way characters presets book world (count + 1) (jumped || more) last stop after :=
  ⟨.link first way.passage, way.here, way.landed⟩

namespace Way

variable {last : World} {stop : Stop} {jumped : Bool} {count : Nat}

/-- A way changes no world data. -/
theorem storage (h : Way characters presets book world count jumped last stop after) :
    after.storage = world.storage :=
  (congrArg Place.storage h.landed.place).trans h.passage.carried.storage

/-- **The sheet at the end of a way.** -/
theorem sheet (h : Way characters presets book world count jumped last stop after) :
    after.sheet = stop.shown true (Sheet.leftIf jumped world.sheet) := by
  rw [h.landed.sheet, h.passage.carried.sheet]

/-- Without animation no line is being typed at the end, if none was at the start. -/
theorem typed (h : Way characters presets book world count jumped last stop after)
    (hquiet : book.settings.typeAnimation = false) (htyped : world.prompt.finishedTyping = true) :
    after.prompt.finishedTyping = true :=
  h.landed.typed hquiet ((congrArg Prompt.finishedTyping h.passage.carried.prompt).trans htyped)

end Way

/-- **A chain that succeeds is a way to a stop**, and it could run more statements than it passed.
The induction is on what the chain may still run. -/
theorem way_of_chain (hbook : Traceable book world) {allowed : Nat} {statement : Statement}
    (here : book.current? world = some statement)
    (h : Run.chain book (builtinRegistry characters presets) allowed statement true world
      = .ok () after) :
    ∃ count jumped last stop, count < allowed
      ∧ Way characters presets book world count jumped last stop after := by
  induction allowed generalizing world statement with
  | zero => cases h
  | succ allowed ih =>
    obtain ⟨left, flow, mid, hleft, hperform, hwait, hadvance, henter⟩ := perform_of_chain h
    obtain rfl : allowed = left := Nat.succ.inj hleft
    -- The rest of the chain goes on from a link.
    have hlink : ∀ jumped next moved, Link presets book world jumped moved →
        book.current? moved = some next →
        Run.chain book (builtinRegistry characters presets) allowed next true moved
            = .ok () after →
        ∃ count jumped last stop, count < allowed + 1
          ∧ Way characters presets book world count jumped last stop after := by
      intro jumped next moved first hnext hrest
      obtain ⟨count, more, last, stop, hcount, way⟩ :=
        ih (hbook.of_storage first.carried.storage) hnext hrest
      exact ⟨count + 1, jumped || more, last, stop, Nat.succ_lt_succ hcount, first.way way⟩
    cases performed_of_perform hbook here hperform with
    | @wait stop hat hlanded =>
      exact ⟨0, false, world, stop, Nat.succ_pos _, .rest world, hat, hwait rfl ▸ hlanded⟩
    | advance cursor link =>
      obtain ⟨next, moved, hstep, hrest⟩ := hadvance rfl rfl
      obtain ⟨rfl, hnext⟩ := moved_of_stepForward here hstep cursor
      exact hlink false next _ link hnext hrest
    | enter link =>
      obtain ⟨next, hnext, hrest⟩ := henter rfl
      exact hlink true next _ link hnext hrest

end Passages

end Narrative
