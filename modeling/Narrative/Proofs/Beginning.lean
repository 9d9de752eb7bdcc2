import Narrative.Proofs.Refusal

/-!
# Proofs/Beginning — going back from the first stop

Before the first stop of a label there may be statements that do not wait: `next` and particle
systems (`leading?`).  Going back from that stop, with no jump to undo, undoes them all
(`retreat_leading`), finds nothing else, and runs the first statement of the label again where it
is.  If that is `next`, the game goes on from there and does again what was undone
(`progress_leading`); if it is a particle system, the game stays at it.
-/

namespace Narrative

/-! ## Leading statements -/

/-- The text at a position, if there is one that can be filled in. -/
def textAt? (book : Playbook) (world : World) (cursor : Cursor) : Option String :=
  ((book.statement? cursor).bind Statement.asText?).bind fun line =>
    (book.substitute world line).toOption

/-- **What the first statements of a label put on the stack of particles**, newest first, if each of
them is `next` or starts a particle system that is defined. -/
def leading? (presets : Fields Json) (book : Playbook) (world : World) (label : String) :
    Nat → Option (List String)
  | 0 => some []
  | step + 1 => do
    let before ← leading? presets book world label step
    let text ← textAt? book world ⟨label, step⟩
    match Kind.ofText text with
    | .next => some before
    | .particles (some name) =>
      if Fields.has presets name then some (Text.trim text :: before) else none
    | _ => none

/-- A place with other entries on the stack of particles. -/
def Place.withParticles (place : Place) (entries : List Json) : Place :=
  { place with entries := Function.update place.entries Particles.stack entries }

/-- The chain from the statement at the cursor. -/
def Run.onward (book : Playbook) (registry : Registry) (allowed : Nat) : Play Unit := do
  Run.chain book registry allowed (← Run.current book) true

section Leading

variable {characters : Table Character} {presets : Fields Json} {book : Playbook}
  {origin world : World} {label : String}

theorem textAt?_eq_some {cursor : Cursor} {text : String}
    (h : textAt? book world cursor = some text) :
    ∃ line, book.statement? cursor = some (.text line) ∧ book.substitute world line = .ok text := by
  obtain ⟨line, hline, htext⟩ := Option.bind_eq_some_iff.1 h
  obtain ⟨statement, hstatement, hasText⟩ := Option.bind_eq_some_iff.1 hline
  refine ⟨line, ?_, ?_⟩
  · cases statement with
    | text written => exact (Option.some.inj hasText : written = line) ▸ hstatement
    | record fields => cases hasText
    | callback run => cases hasText
  · cases hfilled : book.substitute world line with
    | ok found =>
      rw [hfilled] at htext
      exact congrArg Except.ok (Option.some.inj htext)
    | error fault =>
      rw [hfilled] at htext
      cases htext

/-- **One more leading statement** is `next`, or puts one more entry on the stack. -/
theorem leading?_succ {step : Nat} {lead : List String}
    (h : leading? presets book world label (step + 1) = some lead) :
    ∃ before line text, leading? presets book world label step = some before
      ∧ book.statement? ⟨label, step⟩ = some (.text line)
      ∧ book.substitute world line = .ok text
      ∧ (Kind.ofText text = .next ∧ lead = before
        ∨ ∃ name, Kind.ofText text = .particles (some name) ∧ Fields.has presets name = true
          ∧ lead = Text.trim text :: before) := by
  obtain ⟨before, hbefore, h⟩ := Option.bind_eq_some_iff.1 h
  obtain ⟨text, htext, h⟩ := Option.bind_eq_some_iff.1 h
  obtain ⟨line, hline, filled⟩ := textAt?_eq_some htext
  refine ⟨before, line, text, hbefore, hline, filled, ?_⟩
  cases kind : Kind.ofText text with
  | next =>
    simp only [kind, Option.some.injEq] at h
    exact Or.inl ⟨rfl, h.symm⟩
  | particles name =>
    cases name with
    | none => simp [kind] at h
    | some name =>
      simp only [kind] at h
      split at h
      · next hdefined => exact Or.inr ⟨name, rfl, hdefined, (Option.some.inj h).symm⟩
      · cases h
  | _ => simp [kind] at h

theorem leading?_congr {other : World} (hstorage : other.storage = world.storage) (step : Nat) :
    leading? presets book other label step = leading? presets book world label step := by
  induction step with
  | zero => rfl
  | succ step ih => simp only [leading?, ih, textAt?, substitute_congr hstorage]

@[simp] theorem Place.particles_withParticles (place : Place) (entries : List Json) :
    (place.withParticles entries).entries Particles.stack = entries := by
  simp [Place.withParticles]

theorem Place.withParticles_self (place : Place) :
    place.withParticles (place.entries Particles.stack) = place := by
  rw [Place.withParticles, Function.update_eq_self]

variable (characters) in
/-- **Going back over the leading statements** takes as many entries off the stack of particles as
they put there.  The induction is on the step, the last statement first. -/
theorem retreat_leading {step : Nat} {lead : List String}
    (hlead : leading? presets book origin label step = some lead)
    (hcursor : world.cursor = ⟨label, step⟩) (hstorage : world.storage = origin.storage)
    (htidy : Tidy presets world) :
    ∃ before, before.place
        = { world.place.withParticles
              ((world.place.entries Particles.stack).drop lead.length) with
            cursor := ⟨label, 0⟩ }
      ∧ Retreat characters presets book world step before := by
  induction step generalizing world lead with
  | zero =>
    obtain rfl : [] = lead := Option.some.inj hlead
    refine ⟨world, ?_, rfl, rfl, htidy, fun allowed => by rw [Nat.zero_add]⟩
    rw [List.length_nil, List.drop_zero, Place.withParticles_self, ← hcursor, ← place_cursor]
  | succ step ih =>
    obtain ⟨earlier, line, text, hearlier, hstatement, filled, hcase⟩ := leading?_succ hlead
    -- The world as it was at the statement that is undone.
    have here : book.current? (origin.moveTo ⟨label, step⟩) = some (.text line) := hstatement
    have hmoved : world.cursor = (origin.moveTo ⟨label, step⟩).cursor.atStep
        ((origin.moveTo ⟨label, step⟩).cursor.step + 1) := hcursor
    obtain ⟨kind, rfl⟩ | ⟨name, kind, -, rfl⟩ := hcase
    · have hfirst : Retreat characters presets book world 1 (world.moveTo ⟨label, step⟩) :=
        back_next here filled kind hmoved hstorage htidy
      have hstep : (world.moveTo ⟨label, step⟩).cursor = ⟨label, step⟩ := rfl
      obtain ⟨before, hbefore, hrest⟩ := ih hearlier hstep hstorage hfirst.tidy
      refine ⟨before, hbefore, ?_⟩
      rw [Nat.add_comm]
      exact hfirst.trans hrest
    · obtain ⟨mid, hmid, hfirst⟩ := back_particles here filled kind hmoved hstorage htidy
      obtain ⟨before, hbefore, hrest⟩ := ih hearlier (congrArg Place.cursor hmid)
        ((congrArg Place.storage hmid).trans hstorage) hfirst.tidy
      refine ⟨before, ?_, ?_⟩
      · rw [hbefore, hmid]
        simp [Place.withParticles]
      · rw [Nat.add_comm]
        exact hfirst.trans hrest

/-! ## Going on over them again -/

/-- **Progress**: going on over this many statements, with what shows left alone. -/
structure Progress (characters : Table Character) (presets : Fields Json) (book : Playbook)
    (world : World) (count : Nat) (last : World) : Prop where
  /-- The page is the same. -/
  sheet : last.sheet = world.sheet
  /-- The prompt is the same. -/
  prompt : last.prompt = world.prompt
  /-- The world is tidy. -/
  tidy : Tidy presets last
  /-- Going on from the world goes on from there. -/
  onward : ∀ allowed, Run.onward book (builtinRegistry characters presets) (count + allowed) world
    = Run.onward book (builtinRegistry characters presets) allowed last

/-- One progress after another. -/
theorem Progress.trans {mid last : World} {count more : Nat}
    (first : Progress characters presets book world count mid)
    (rest : Progress characters presets book mid more last) :
    Progress characters presets book world (count + more) last :=
  ⟨rest.sheet.trans first.sheet, rest.prompt.trans first.prompt, rest.tidy, fun allowed => by
    rw [Nat.add_assoc, first.onward, rest.onward]⟩

/-- **A statement that asks to go on** is followed by the statement after it. -/
theorem onward_of_perform {statement : Statement} {mid : World} {registry : Registry}
    (here : book.current? world = some statement)
    (hperform : Run.perform book registry statement true world = .ok .advance mid)
    (hsame : mid.cursor = world.cursor) (allowed : Nat) :
    Run.onward book registry (1 + allowed) world
      = Run.onward book registry allowed
          (mid.moveTo (world.cursor.atStep (world.cursor.step + 1))) := by
  have hlt : world.cursor.step < book.labelLength world.cursor.label := Playbook.step_lt here
  have hcurrent : Run.current book world = .ok statement world := by
    rw [Run.current, here]
  have hforward : Run.stepForward book mid
      = Run.current book (mid.moveTo (world.cursor.atStep (world.cursor.step + 1))) := by
    simp only [Run.stepForward, hsame, if_pos hlt]
  rw [Nat.add_comm]
  simp only [Run.onward, bind, EStateM.bind, hcurrent, Run.chain, hperform, if_true, hforward]

/-- **Going on over `next`** leads to the step after. -/
theorem onward_next {line text : String} (here : book.current? world = some (.text line))
    (filled : book.substitute world line = .ok text) (kind : Kind.ofText text = .next)
    (htidy : Tidy presets world) :
    Progress characters presets book world 1
      (world.moveTo (world.cursor.atStep (world.cursor.step + 1))) := by
  refine ⟨rfl, rfl, htidy.of_eq rfl rfl, fun allowed => onward_of_perform here ?_ rfl allowed⟩
  rw [perform_eq (fun run => by simp), invoke_text filled, kind]
  rfl

/-- **Going on over a particle statement** leads to the step after and starts the system. -/
theorem onward_particles {line text name : String} (here : book.current? world = some (.text line))
    (filled : book.substitute world line = .ok text)
    (kind : Kind.ofText text = .particles (some name)) (hdefined : Fields.has presets name = true)
    (htidy : Tidy presets world) :
    ∃ last, last.place
        = { world.place.withParticles
              (.str (Text.trim text) :: world.place.entries Particles.stack) with
            cursor := world.cursor.atStep (world.cursor.step + 1) }
      ∧ Progress characters presets book world 1 last := by
  obtain ⟨config, hconfig⟩ := Option.isSome_iff_exists.1 hdefined
  have hperform : Run.perform book (builtinRegistry characters presets) (.text line) true world
      = .ok .advance ((Particles.started (Text.trim text) world).emit
          [.particles name config]) := by
    rw [perform_eq (fun run => by simp), invoke_text filled, kind]
    exact stages_particles kind hconfig world true world
  refine ⟨((Particles.started (Text.trim text) world).emit [.particles name config]).moveTo
    (world.cursor.atStep (world.cursor.step + 1)), ?_, ?_, ?_,
    (htidy.start (Particles.effect?_of_named kind hdefined)).of_eq rfl rfl,
    fun allowed => onward_of_perform here hperform rfl allowed⟩
  · rw [place_moveTo, place_emit, place_started]
    rfl
  · rw [sheet_moveTo, sheet_emit, sheet_started]
  · simp

variable (characters) in
/-- **Going on over the leading statements** puts their entries on the stack of particles. -/
theorem progress_leading {step : Nat} {lead : List String}
    (hlead : leading? presets book origin label step = some lead)
    (hcursor : world.cursor = ⟨label, 0⟩) (hstorage : world.storage = origin.storage)
    (htidy : Tidy presets world) :
    ∃ last, last.place
        = { world.place.withParticles
              (lead.map Json.str ++ world.place.entries Particles.stack) with
            cursor := ⟨label, step⟩ }
      ∧ Progress characters presets book world step last := by
  induction step generalizing lead with
  | zero =>
    obtain rfl : [] = lead := Option.some.inj hlead
    refine ⟨world, ?_, rfl, rfl, htidy, fun allowed => by rw [Nat.zero_add]⟩
    rw [List.map_nil, List.nil_append, Place.withParticles_self, ← hcursor, ← place_cursor]
  | succ step ih =>
    obtain ⟨earlier, line, text, hearlier, hstatement, filled, hcase⟩ := leading?_succ hlead
    obtain ⟨mid, hmid, hfirst⟩ := ih hearlier
    have hmidCursor : mid.cursor = ⟨label, step⟩ := congrArg Place.cursor hmid
    have hmidStorage : mid.storage = origin.storage :=
      (congrArg Place.storage hmid).trans hstorage
    have here : book.current? mid = some (.text line) := by
      rw [Playbook.current?, hmidCursor, hstatement]
    rw [← substitute_congr hmidStorage] at filled
    obtain ⟨kind, rfl⟩ | ⟨name, kind, hdefined, rfl⟩ := hcase
    · refine ⟨_, ?_, hfirst.trans (onward_next here filled kind hfirst.tidy)⟩
      rw [place_moveTo, hmid, hmidCursor]
      rfl
    · obtain ⟨last, hlast, hrest⟩ := onward_particles here filled kind hdefined hfirst.tidy
      refine ⟨last, ?_, hfirst.trans hrest⟩
      rw [hlast, hmid, hmidCursor]
      simp [Place.withParticles, Cursor.atStep]

/-- **A stop ends the chain.** -/
theorem StopAt.onward {stop : Stop} (h : StopAt characters book world stop) (allowed : Nat) :
    ∃ after, Run.onward book (builtinRegistry characters presets) (allowed + 1) world
        = .ok () after
      ∧ Landed presets book.settings.typeAnimation true stop world after := by
  obtain ⟨statement, after, here, hperform, hlanded⟩ := h.perform presets true
  have hcurrent : Run.current book world = .ok statement world := by
    rw [Run.current, here]
  exact ⟨after, Result.bind_eq_ok.2 ⟨statement, world, hcurrent,
    Result.bind_eq_ok.2 ⟨.wait, after, hperform, rfl⟩⟩, hlanded⟩

end Leading

/-! ## At the beginning -/

section AtBeginning

variable {characters : Table Character} {presets : Fields Json} {book : Playbook}
  {origin world after : World} {label : String} {game left : Game} {stop : Stop}

/-- Some of the leading statements lead, too. -/
theorem leading?_of_le {first step : Nat} {lead : List String}
    (h : leading? presets book world label step = some lead) (hle : first ≤ step) :
    ∃ early, leading? presets book world label first = some early := by
  induction hle generalizing lead with
  | refl => exact ⟨lead, h⟩
  | step hle ih =>
    obtain ⟨before, line, text, hbefore, -⟩ := leading?_succ h
    exact ih hbefore

/-- **What is allowed to go back further** comes to the same end, if there is one. -/
theorem back_mono {registry : Registry} {allowed : Nat}
    (h : Rewind.back book registry allowed world = .ok () after) (extra : Nat) :
    Rewind.back book registry (allowed + extra) world = .ok () after := by
  induction allowed generalizing world with
  | zero => cases h
  | succ allowed ih =>
    rw [Nat.succ_add]
    simp only [Rewind.back] at h ⊢
    cases htarget : Rewind.target? book registry world with
    | none =>
      simp only [htarget] at h
      exact h
    | some statement =>
      simp only [htarget] at h
      cases hundo : Rewind.undo book registry statement world with
      | error fault undone =>
        simp only [hundo] at h
        cases h
      | ok flow undone =>
        simp only [hundo] at h ⊢
        cases flow with
        | wait => exact h
        | enter => exact h
        | advance => exact ih h

/-- **At the start of a label, with no jump to undo, there is nothing to undo.** -/
theorem target?_start (hstart : world.cursor.step = 0) (hjumps : world.jumps = 0) :
    Rewind.target? book (builtinRegistry characters presets) world = none := by
  have hempty : world.history.entries Jump.stack = [] := List.eq_nil_of_length_eq_zero hjumps
  rw [Rewind.target?, if_neg (by omega), origin?_builtin]
  simp only [Jump.revertOrigin, hstart, History.peek?, hempty]
  rfl

/-- **Running `next` in place** goes on from there. -/
theorem runInPlace_next {line text : String} (here : book.current? world = some (.text line))
    (filled : book.substitute world line = .ok text) (kind : Kind.ofText text = .next)
    {allowed : Nat} (hchain : book.settings.maxChain = 1 + allowed) :
    Run.runInPlace book (builtinRegistry characters presets) world
      = Run.onward book (builtinRegistry characters presets) (1 + allowed) world := by
  have hcurrent : Run.current book world = .ok (.text line) world := by
    rw [Run.current, here]
  have hperform : ∀ advance,
      Run.perform book (builtinRegistry characters presets) (.text line) advance world
        = .ok (if advance then .advance else .enter)
            (if advance then world else Next.step book world) := by
    intro advance
    rw [perform_eq (fun run => by simp), invoke_text filled, kind]
    rfl
  have hstep : Next.step book world
      = world.moveTo (world.cursor.atStep (world.cursor.step + 1)) := by
    rw [Next.step, if_pos (Playbook.step_lt here)]
  rw [onward_of_perform here (hperform true) rfl allowed]
  simp only [Run.runInPlace, bind, EStateM.bind, hcurrent, Run.run, hchain, Nat.add_comm 1 allowed,
    Run.chain, hperform false, hstep, Bool.false_eq_true, if_false, if_true, Run.onward]

/-- **Running a particle statement in place** stays there. -/
theorem cursor_of_runInPlace {line text : String} {name : Option String}
    (here : book.current? world = some (.text line))
    (filled : book.substitute world line = .ok text) (kind : Kind.ofText text = .particles name)
    (h : Run.runInPlace book (builtinRegistry characters presets) world = .ok () after) :
    after.cursor = world.cursor := by
  have hcurrent : Run.current book world = .ok (.text line) world := by
    rw [Run.current, here]
  obtain ⟨statement, start, hstart, hrun⟩ := Result.bind_eq_ok.1 h
  obtain ⟨rfl, rfl⟩ := EStateM.Result.ok.inj (hcurrent.symm.trans hstart)
  obtain ⟨flow, mid, hperform, hends⟩ := performed_in_place hrun
  obtain ⟨invocation, hinvoke, hstages⟩ := stages_of_perform (fun run => by simp) hperform
  rw [invoke_text filled, kind] at hinvoke
  obtain rfl := Except.ok.inj hinvoke
  obtain ⟨rfl, -, effects, rfl⟩ := started_of_stages hstages
  rw [hends (by simp)]
  rfl

/-- **Running the first statement of a label in place.**  If it is a particle statement of those
that lead to the stop, the game stays at it; otherwise it comes to the stop again. -/
theorem restart_leading {step : Nat} {lead : List String}
    (hlead : leading? presets book world label step = some lead)
    (hat : StopAt characters book (world.moveTo ⟨label, step⟩) stop)
    (hstart : world.cursor = ⟨label, 0⟩) (htidy : Tidy presets world)
    (hchain : step < book.settings.maxChain)
    (hrun : Run.runInPlace book (builtinRegistry characters presets) world = .ok () after) :
    (∃ name, kindAt? book world ⟨label, 0⟩ = some (.particles name))
        ∧ after.cursor = ⟨label, 0⟩ ∧ 0 < step
      ∨ (∀ name, kindAt? book world ⟨label, 0⟩ ≠ some (.particles name))
        ∧ ∃ advance last, last.place
            = { world.place.withParticles
                  (lead.map Json.str ++ world.place.entries Particles.stack) with
                cursor := ⟨label, step⟩ }
          ∧ last.sheet = world.sheet ∧ Tidy presets last
          ∧ Landed presets book.settings.typeAnimation advance stop last after := by
  obtain ⟨left, hleft⟩ := Nat.exists_eq_add_of_lt hchain
  cases step with
  | zero =>
    obtain rfl : [] = lead := Option.some.inj hlead
    have hhere : StopAt characters book world stop := hat.congr hstart rfl
    obtain ⟨shown, hshown, hlanded⟩ := hhere.runInPlace presets hchain
    obtain ⟨-, rfl⟩ := EStateM.Result.ok.inj (hshown.symm.trans hrun)
    refine Or.inr ⟨fun name hkind => ?_, false, world, ?_, rfl, htidy, hlanded⟩
    · obtain ⟨first, hline⟩ := hhere.kind_eq (hstart ▸ hkind)
      cases hline
    · rw [List.map_nil, List.nil_append, Place.withParticles_self, ← hstart, ← place_cursor]
  | succ step =>
    obtain ⟨early, hearly⟩ := leading?_of_le hlead (Nat.succ_le_succ (Nat.zero_le step))
    obtain ⟨before, line, text, -, hstatement, filled, hcase⟩ := leading?_succ hearly
    have here : book.current? world = some (.text line) := by
      rw [Playbook.current?, hstart, hstatement]
    have hkind : kindAt? book world ⟨label, 0⟩ = some (Kind.ofText text) := by
      rw [← hstart]
      exact kindAt?_eq here filled
    obtain ⟨kind, -⟩ | ⟨name, kind, -, -⟩ := hcase
    · obtain ⟨last, hlast, progress⟩ := progress_leading characters hlead hstart rfl htidy
      have hsame : last.cursor = ⟨label, step + 1⟩ := congrArg Place.cursor hlast
      have hstorage : last.storage = world.storage := congrArg Place.storage hlast
      obtain ⟨shown, hshown, hlanded⟩ := (hat.congr hsame hstorage).onward left
      have hmax : book.settings.maxChain = 1 + (step + left + 1) := by omega
      have hallowed : 1 + (step + left + 1) = step + 1 + (left + 1) := by omega
      rw [runInPlace_next here filled kind hmax, hallowed, progress.onward, hshown] at hrun
      obtain ⟨-, rfl⟩ := EStateM.Result.ok.inj hrun
      refine Or.inr ⟨fun name hparticles => ?_, true, last, hlast, progress.sheet, progress.tidy,
        hlanded⟩
      rw [hkind, kind] at hparticles
      cases hparticles
    · exact Or.inl ⟨⟨some name, by rw [hkind, kind]⟩,
        (cursor_of_runInPlace here filled kind hrun).trans hstart, Nat.succ_pos step⟩

/-- **Going back from the first stop of a label**, with no jump to undo, undoes the leading
statements and runs the first one in place. -/
theorem revert_leading {lead : List String} (htidy : Tidy presets world) (hjumps : world.jumps = 0)
    (hlead : leading? presets book world world.cursor.label world.cursor.step = some lead)
    (hrevert : Rewind.revert book (builtinRegistry characters presets) world = .ok () after) :
    ∃ before, before.place
        = { world.place.withParticles
              ((world.place.entries Particles.stack).drop lead.length) with
            cursor := world.cursor.atStep 0 }
      ∧ before.sheet = world.sheet ∧ Tidy presets before
      ∧ world.cursor.step < book.settings.maxChain
      ∧ Run.runInPlace book (builtinRegistry characters presets) before = .ok () after := by
  obtain ⟨before, hbefore, retreat⟩ := retreat_leading characters hlead rfl rfl htidy
  have hbeforeJumps : before.jumps = 0 := by
    have hne : Jump.stack ≠ Particles.stack := by decide
    rw [jumps_eq, hbefore, ← hjumps, jumps_eq]
    simp [Place.withParticles, hne]
  have hlt : world.cursor.step < book.settings.maxChain := by
    refine Nat.lt_of_not_le fun hle => ?_
    obtain ⟨extra, hextra⟩ := Nat.exists_eq_add_of_le hle
    have hback := back_mono hrevert extra
    rw [← hextra, ← Nat.add_zero world.cursor.step, retreat.back] at hback
    cases hback
  obtain ⟨left, hleft⟩ := Nat.exists_eq_add_of_lt hlt
  refine ⟨before, hbefore, retreat.sheet, retreat.tidy, hlt, ?_⟩
  rw [Rewind.revert, hleft, Nat.add_assoc, retreat.back] at hrevert
  have hnone : Rewind.target? book (builtinRegistry characters presets) before = none :=
    target?_start (congrArg (fun place => place.cursor.step) hbefore) hbeforeJumps
  simpa only [Rewind.back, hnone] using hrevert

/-- The stack of particles is part of the place. -/
theorem particles_place (world : World) :
    world.place.entries Particles.stack = world.history.entries Particles.stack := by
  have hne : Particles.stack ≠ Page.stack := by decide
  simp [World.place, hne]

/-- **Two snapshots that differ in the stack of particles at most** differ exactly if it does. -/
theorem snapshot_withParticles_iff {entries : List Json}
    (hplace : after.place = world.place.withParticles entries)
    (hclosed : after.sheet.closed = world.sheet.closed) (hafter : Tidy presets after)
    (htidy : Tidy presets world) :
    after.snapshot = world.snapshot ↔ entries = world.history.entries Particles.stack := by
  constructor
  · intro hsnapshot
    have hhistory : after.history = world.history := congrArg Snapshot.history hsnapshot
    have hentries := congrArg (fun place => place.entries Particles.stack) hplace
    simp only [Place.particles_withParticles, particles_place, hhistory] at hentries
    exact hentries.symm
  · rintro rfl
    rw [← particles_place, Place.withParticles_self] at hplace
    exact hafter.snapshot_eq htidy hplace hclosed

/-- **Going back, when the answer is yes, has gone one step back** from where the game is
readied. -/
theorem revert_of_rollback (hregistry : game.registry = builtinRegistry characters presets)
    (hrollback : Game.rollback game = .ok true left) :
    ∃ world, Rewind.revert game.book (builtinRegistry characters presets) game.world.readied
        = .ok () world
      ∧ left = { game with world := world } := by
  by_cases hopen : game.world.globals.gatesOpen = true
  · rw [rollback_eq hregistry hopen] at hrollback
    obtain ⟨world, hrevert, hleft⟩ := ofPlay_eq_ok.1 (granted_eq_ok_true.1 hrollback)
    rw [← hregistry]
    exact ⟨world, hrevert, hleft⟩
  · rw [(moves_closed hopen).2] at hrollback
    cases hrollback

/-- **Going back one step from the first stop of a label**, with no jump to undo, ends at the
particle statement that the label begins with, if there is one; otherwise at the stop, with the
entries of the leading statements in the place of as many. -/
theorem revert_at_beginning {lead : List String} (hat : StopAt characters book world stop)
    (htidy : Tidy presets world) (hjumps : world.jumps = 0)
    (hlead : leading? presets book world world.cursor.label world.cursor.step = some lead)
    (hpage : ∀ say, stop = .line say → say.nvl = false → say.voice ≠ .centered →
      world.sheet.showing = false)
    (hrevert : Rewind.revert book (builtinRegistry characters presets) world.readied
      = .ok () after) :
    (∃ name, kindAt? book world (world.cursor.atStep 0) = some (.particles name))
        ∧ after.cursor ≠ world.cursor
      ∨ (∀ name, kindAt? book world (world.cursor.atStep 0) ≠ some (.particles name))
        ∧ after.place = world.place.withParticles
            (lead.map Json.str ++ (world.history.entries Particles.stack).drop lead.length)
        ∧ after.sheet.closed = world.sheet.closed ∧ Tidy presets after := by
  obtain ⟨hready, hreadySheet, -, hreadyTidy⟩ := readied_parts presets world
  have hreadyCursor : world.readied.cursor = world.cursor := congrArg Place.cursor hready
  have hreadyStorage : world.readied.storage = world.storage := congrArg Place.storage hready
  rw [← leading?_congr hreadyStorage, ← hreadyCursor] at hlead
  obtain ⟨before, hbefore, hsheet, hbeforeTidy, hchain, hrun⟩ := revert_leading (hreadyTidy htidy)
    ((jumps_of_place hready).trans hjumps) hlead hrevert
  rw [hready, hreadyCursor] at hbefore
  rw [hreadyCursor] at hlead hchain
  have hstorage : before.storage = world.storage := congrArg Place.storage hbefore
  rw [leading?_congr hreadyStorage, ← leading?_congr hstorage] at hlead
  have hat' : StopAt characters book (before.moveTo ⟨world.cursor.label, world.cursor.step⟩) stop :=
    hat.congr rfl hstorage
  have hkinds : kindAt? book before ⟨world.cursor.label, 0⟩
      = kindAt? book world (world.cursor.atStep 0) := kindAt?_congr hstorage _
  rw [← hkinds]
  obtain ⟨hparticles, hstuck, hstep⟩ | ⟨hnone, advance, last, hlast, hlastSheet, hlastTidy,
    landed⟩ := restart_leading hlead hat' (congrArg Place.cursor hbefore) hbeforeTidy hchain hrun
  · exact Or.inl ⟨hparticles, fun hsame =>
      absurd (congrArg Cursor.step (hstuck.symm.trans hsame)) (Nat.ne_of_lt hstep)⟩
  · have hplace : after.place = world.place.withParticles
        (lead.map Json.str ++ (world.history.entries Particles.stack).drop lead.length) := by
      rw [landed.place, hlast, hbefore, ← particles_place]
      simp [Place.withParticles]
      rfl
    have hclosed : after.sheet.closed = world.sheet.closed := by
      rw [landed.sheet, hlastSheet, hsheet, hreadySheet]
      exact stop.closed_shown advance hpage
    exact Or.inr ⟨hnone, hplace, hclosed, landed.tidy hlastTidy⟩

/-- **Going back from the first stop of a label, with no jump to undo**, leads back to the stop
exactly if the label does not begin with a particle statement.  It is a way back to where the game
was exactly if, beside that, the entries of the leading statements are the newest ones on the stack
of particles. -/
theorem rollback_at_beginning {lead : List String}
    (hregistry : game.registry = builtinRegistry characters presets)
    (hat : StopAt characters game.book game.world stop) (htidy : Tidy presets game.world)
    (hjumps : game.world.jumps = 0)
    (hlead : leading? presets game.book game.world game.cursor.label game.cursor.step = some lead)
    (hpage : ∀ say, lineAt? characters game.book game.world = some say → say.nvl = false →
      say.voice ≠ .centered → Page.isShowing game.world = false)
    (hrollback : Game.rollback game = .ok true left) :
    (left.cursor = game.cursor
        ↔ ∀ name, kindAt? game.book game.world (game.cursor.atStep 0) ≠ some (.particles name))
      ∧ (left.snapshot = game.snapshot
        ↔ left.cursor = game.cursor
          ∧ lead.map Json.str <+: game.world.history.entries Particles.stack) := by
  obtain ⟨world, hrevert, rfl⟩ := revert_of_rollback hregistry hrollback
  have hpage' : ∀ say, stop = .line say → say.nvl = false → say.voice ≠ .centered →
      game.world.sheet.showing = false := by
    rintro say rfl hnvl hvoice
    exact hpage say hat.lineAt?_eq hnvl hvoice
  obtain ⟨⟨name, hname⟩, hmoved⟩ | ⟨hnone, hplace, hclosed, hafter⟩ :=
    revert_at_beginning hat htidy hjumps hlead hpage' hrevert
  · have hmoved' : ({ game with world := world } : Game).cursor ≠ game.cursor := hmoved
    exact ⟨⟨fun hsame => absurd hsame hmoved', fun hnone => absurd hname (hnone name)⟩,
      ⟨fun hsame => absurd (congrArg (fun saved => saved.state.cursor) hsame) hmoved,
        fun hsame => absurd hsame.1 hmoved'⟩⟩
  · have hsame : ({ game with world := world } : Game).cursor = game.cursor :=
      congrArg Place.cursor hplace
    refine ⟨⟨fun _ => hnone, fun _ => hsame⟩,
      (snapshot_withParticles_iff hplace hclosed hafter htidy).trans ?_⟩
    rw [List.prefix_iff_eq_append, List.length_map]
    exact ⟨fun hentries => ⟨hsame, hentries⟩, fun hentries => hentries.2⟩

end AtBeginning

/-! A story that begins with a particle statement. -/

/-- A story that begins in the snow. -/
def dawnStory : Story :=
  { script := .obj [("Start", .arr [.str "particles snow", .str "It snows."])]
    characters := Table.empty
    particles := [("snow", .obj [])]
    storage := []
    settings := { typeAnimation := false } }

/-- The game of the story. -/
def dawnMade : Game := (dawnStory.gameWith? dawnStory.registry).get (by decide +kernel)

/-- The game, set up. -/
def dawnReady : Game := Result.left (Game.setup (dawnMade.withPreferences {}))

/-- At the first line. -/
def dawnBegun : Game := Result.left (Game.start dawnReady)

/-- Going back from the first line of this story leads to the particle statement before it. -/
theorem rollback_at_beginning_dawn :
    Game.rollback dawnBegun = .ok true (Result.left (Game.rollback dawnBegun))
      ∧ (Result.left (Game.rollback dawnBegun)).cursor ≠ dawnBegun.cursor
      ∧ (Result.left (Game.rollback dawnBegun)).snapshot ≠ dawnBegun.snapshot := by
  have hmade : dawnStory.gameWith? dawnStory.registry = some dawnMade := (Option.some_get _).symm
  have hready : Game.setup (dawnMade.withPreferences {}) = .ok () dawnReady := setup_ok_left rfl
  have hbook : Traceable dawnReady.book dawnReady.world := traceable_of_traces (by decide +kernel)
  have hbegun : Game.start dawnReady = .ok () dawnBegun := Result.eq_ok (by decide +kernel)
  obtain ⟨hregistry, -, stop, hrested⟩ := begun_parts hmade hready hbook hbegun
  have hrollback : Game.rollback dawnBegun = .ok true (Result.left (Game.rollback dawnBegun)) :=
    Result.eq_ok (by decide +kernel)
  have hlead : leading? dawnStory.particles dawnBegun.book dawnBegun.world dawnBegun.cursor.label
      dawnBegun.cursor.step = some ["particles snow"] := by decide +kernel
  obtain ⟨hcursor, hsnapshot⟩ := rollback_at_beginning hregistry hrested.here hrested.tidy
    (by decide +kernel) hlead (fun _ _ _ _ => by decide +kernel) hrollback
  have hstuck : (Result.left (Game.rollback dawnBegun)).cursor ≠ dawnBegun.cursor := fun hsame =>
    hcursor.1 hsame (some "snow") (by decide +kernel)
  exact ⟨hrollback, hstuck, fun hsame => hstuck (hsnapshot.1 hsame).1⟩

end Narrative
