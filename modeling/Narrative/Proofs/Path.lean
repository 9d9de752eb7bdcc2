import Narrative.Proofs.Keeping
import Narrative.Proofs.Slots

/-!
# Proofs/Path — the stack of jumps is the path to the current label

Every jump leaves an entry on one stack and its label on another.  Read from the oldest to the
newest, the entries are a **path**: the first jump was made from the start label, each one from the
label that the one before it entered, and the newest entered the label the game is in (`Path`).

Nothing that a host may call breaks the path, whatever it returns (`jumps_path`).  Going back takes
an entry off and then reads the statement the jump was made from; that statement was filled in when
the jump was made, so it is again, and the entry is never taken off in vain.  A slot that was saved
in another language is the exception: there the statement may be one that cannot be filled in
(`jumps_path_lost`).
-/

namespace Narrative

/-! ## Paths -/

/-- **The entries of the jumps that led from a label to another**, newest first. -/
def Path (start : String) : List JumpEntry → String → Prop
  | [], label => label = start
  | entry :: older, label => entry.target = label ∧ Path start older entry.source

/-- The text at a position, if there is one, can be filled in. -/
def Readable (book : Playbook) (storage : Storage) (cursor : Cursor) : Prop :=
  ∀ line, book.statement? cursor = some (.text line) →
    ∃ text, Template.fill storage book.settings.unresolved line = .ok text

/-- **A world on the path of its jumps**, with the data of its story and variables that a slot can
hold.  A menu waits only over a record. -/
structure OnPath (start : String) (storage : Storage) (book : Playbook) (world : World) : Prop where
  /-- The world data is that of the story. -/
  data : world.storage = storage
  /-- A slot can hold the variables. -/
  storable : world.state.Storable
  /-- The two stacks are those of a path to the label, and where its jumps were made from there are
  no texts that cannot be filled in. -/
  path : ∃ entries : List JumpEntry,
    world.history.entries Jump.stack = entries.map JumpEntry.toJson
      ∧ world.history.entries Jump.labelStack = entries.map (.str ·.target)
      ∧ Path start entries world.cursor.label
      ∧ ∀ entry ∈ entries, Readable book storage ⟨entry.source, entry.step⟩
  /-- A menu waits over a record. -/
  prompted : ∀ menu, world.prompt.pending = some menu →
    ∃ fields, book.current? world = some (.record fields)

section OnPath

variable {start : String} {storage : Storage} {characters : Table Character} {presets : Fields Json}
  {book : Playbook} {world other : World}

theorem readable_of_substitute {cursor : Cursor} {line text : String}
    (hstorage : world.storage = storage) (here : book.statement? cursor = some (.text line))
    (filled : book.substitute world line = .ok text) : Readable book storage cursor := by
  intro written hwritten
  obtain rfl : line = written := Statement.text.inj (Option.some.inj (here.symm.trans hwritten))
  rw [Playbook.substitute, hstorage] at filled
  cases hfill : Template.fill storage book.settings.unresolved line with
  | ok found => exact ⟨found, rfl⟩
  | error path =>
    rw [hfill] at filled
    cases filled

/-- Variables that a slot can hold, with the running particle system replaced. -/
theorem State.Storable.set {state : State} (h : state.Storable) (value : Json) :
    (state.set Particles.runningVar value).Storable := by
  have hkeys : ∀ {name : String}, name ≠ Particles.runningVar → name ∉ Fields.keys state.vars →
      name ∉ Fields.keys (state.set Particles.runningVar value).vars := by
    intro name hne hfresh
    rw [← Fields.get?_eq_none_iff] at hfresh ⊢
    rw [State.set, Fields.get?_insert, if_neg hne, hfresh]
  exact ⟨h.distinct.insert _ _, hkeys (by decide) h.label, hkeys (by decide) h.step⟩

/-- A world that differs in none of the parts of the path, and has no other menu, is on it, too. -/
theorem OnPath.congr (h : OnPath start storage book world)
    (hstorage : other.storage = world.storage) (hstorable : other.state.Storable)
    (hentries : other.history.entries Jump.stack = world.history.entries Jump.stack)
    (hlabels : other.history.entries Jump.labelStack = world.history.entries Jump.labelStack)
    (hlabel : other.cursor.label = world.cursor.label)
    (hpending : other.prompt.pending = none
      ∨ other.prompt.pending = world.prompt.pending ∧ other.cursor = world.cursor) :
    OnPath start storage book other where
  data := hstorage.trans h.data
  storable := hstorable
  path := by
    rw [hentries, hlabels, hlabel]
    exact h.path
  prompted menu hmenu := by
    obtain hnone | ⟨hsame, hcursor⟩ := hpending
    · rw [hnone] at hmenu
      cases hmenu
    · rw [Playbook.current?, hcursor]
      exact h.prompted menu (hsame ▸ hmenu)

/-- A stack other than that of the closed pages is part of the place. -/
theorem entries_of_place {name : String} (hne : name ≠ Page.stack)
    (hplace : other.place = world.place) :
    other.history.entries name = world.history.entries name := by
  have h := congrFun (congrArg Place.entries hplace) name
  simpa [World.place, hne] using h

/-- **Another sheet under the same menu** leaves a world on its path. -/
theorem OnPath.redrawn (h : OnPath start storage book world) (hplace : other.place = world.place)
    (hstate : other.state = world.state) (hpending : other.prompt.pending = world.prompt.pending) :
    OnPath start storage book other :=
  h.congr (congrArg Place.storage hplace) (hstate ▸ h.storable)
    (entries_of_place (by decide) hplace) (entries_of_place (by decide) hplace)
    (congrArg (fun state : State => state.cursor.label) hstate)
    (Or.inr ⟨hpending, congrArg State.cursor hstate⟩)

/-- The menu is closed. -/
theorem OnPath.close (h : OnPath start storage book world) :
    OnPath start storage book (Choice.close world) :=
  h.congr rfl h.storable rfl rfl rfl (Or.inl (pending_close world))

/-- Effects wait for the host. -/
theorem OnPath.emit (h : OnPath start storage book world) (effects : List Effect) :
    OnPath start storage book (world.emit effects) :=
  h.congr rfl h.storable rfl rfl rfl (Or.inr ⟨rfl, rfl⟩)

/-- The menu is closed, if one is open. -/
theorem OnPath.hide (h : OnPath start storage book world) :
    OnPath start storage book (Choice.hide world) := by
  unfold Choice.hide
  split
  · exact h.close.emit _
  · exact h

/-- While no menu waits, the cursor may move within its label. -/
theorem OnPath.moveTo (h : OnPath start storage book world) (hpending : world.prompt.pending = none)
    {cursor : Cursor} (hlabel : cursor.label = world.cursor.label) :
    OnPath start storage book (world.moveTo cursor) :=
  h.congr rfl ⟨h.storable.distinct, h.storable.label, h.storable.step⟩ rfl rfl hlabel
    (Or.inl hpending)

/-- **A jump makes the path longer.** -/
theorem OnPath.entered (h : OnPath start storage book world)
    (hpending : world.prompt.pending = none)
    (hreadable : Readable book storage world.cursor) (target : String) :
    OnPath start storage book (Jump.entered target world) := by
  obtain ⟨entries, hentries, hlabels, hpath, hall⟩ := h.path
  refine ⟨h.data, ⟨h.storable.distinct, h.storable.label, h.storable.step⟩,
    ⟨⟨world.cursor.label, target, world.cursor.step⟩ :: entries, ?_, ?_, ⟨rfl, hpath⟩,
      fun entry hentry => ?_⟩, fun menu hmenu => ?_⟩
  · show ((world.history.push Jump.stack _).push Jump.labelStack _).entries Jump.stack = _
    have hne : Jump.stack ≠ Jump.labelStack := by decide
    simp [hne, hentries]
  · show ((world.history.push Jump.stack _).push Jump.labelStack _).entries Jump.labelStack = _
    have hne : Jump.labelStack ≠ Jump.stack := by decide
    simp [hne, hlabels]
  · rcases List.mem_cons.1 hentry with rfl | hentry
    · exact hreadable
    · exact hall entry hentry
  · rw [prompt_entered, hpending] at hmenu
    cases hmenu

/-- **Undoing a jump makes the path shorter**, and where the jump was made from there is no text
that cannot be filled in. -/
theorem OnPath.returned (h : OnPath start storage book world)
    (hpending : world.prompt.pending = none) {value : Json}
    (hnewest : world.history.peek? Jump.stack = some value) :
    ∃ entry, JumpEntry.ofJson? value = some entry
      ∧ OnPath start storage book (Jump.returned ⟨entry.source, entry.step⟩ world)
      ∧ Readable book storage ⟨entry.source, entry.step⟩ := by
  obtain ⟨entries, hentries, hlabels, hpath, hall⟩ := h.path
  cases entries with
  | nil =>
    rw [History.peek?, hentries] at hnewest
    cases hnewest
  | cons entry older =>
    rw [History.peek?, hentries] at hnewest
    obtain rfl := Option.some.inj hnewest
    refine ⟨entry, JumpEntry.ofJson?_toJson entry, ⟨h.data,
      ⟨h.storable.distinct, h.storable.label, h.storable.step⟩,
      ⟨older, ?_, ?_, hpath.2, fun other hother => hall other (List.mem_cons_of_mem _ hother)⟩,
      fun menu hmenu => ?_⟩, hall entry List.mem_cons_self⟩
    · show ((world.history.pop Jump.stack).pop Jump.labelStack).entries Jump.stack = _
      have hne : Jump.stack ≠ Jump.labelStack := by decide
      simp [hne, hentries]
    · show ((world.history.pop Jump.stack).pop Jump.labelStack).entries Jump.labelStack = _
      have hne : Jump.labelStack ≠ Jump.stack := by decide
      simp [hne, hlabels]
    · rw [prompt_returned, hpending] at hmenu
      cases hmenu

/-- Where there is no text that cannot be filled in, undoing the jump goes on or ends. -/
theorem OnPath.didRevert (h : OnPath start storage book world)
    (hreadable : Readable book storage world.cursor) :
    ∃ flow, Jump.didRevert book world = .ok flow world := by
  unfold Jump.didRevert
  cases hline : (book.current? world).bind Statement.asText? with
  | none => exact ⟨.enter, rfl⟩
  | some line =>
    obtain ⟨statement, here, htext⟩ := Option.bind_eq_some_iff.1 hline
    cases statement with
    | text written =>
      obtain rfl := Option.some.inj htext
      obtain ⟨text, hfill⟩ := hreadable written here
      have filled : book.substitute world written = .ok text := by
        rw [Playbook.substitute, h.data, hfill]
      simp only [filled]
      exact ⟨_, rfl⟩
    | _ => cases htext

/-! ## What keeps to the path -/

/-- While no menu waits, the cursor may move back. -/
theorem OnPath.settled (h : OnPath start storage book world)
    (hpending : world.prompt.pending = none) (origin : Cursor) :
    OnPath start storage book (Rewind.settle origin world) := by
  unfold Rewind.settle
  split
  · next hmoved => exact h.moveTo hpending (congrArg Cursor.label hmoved.1).symm
  · exact h

/-- While a text is at the cursor no menu waits. -/
theorem OnPath.pending_of_text (h : OnPath start storage book world) {line : String}
    (here : book.current? world = some (.text line)) : world.prompt.pending = none := by
  rw [Option.eq_none_iff_forall_ne_some]
  intro menu hmenu
  obtain ⟨fields, hfields⟩ := h.prompted menu hmenu
  rw [here] at hfields
  cases hfields

/-- **Running a statement keeps to the path**: a text while no menu waits and where the world is,
and a record over a record. -/
theorem OnPath.ran (h : OnPath start storage book world) {statement : Statement} {advance : Bool}
    {result : EStateM.Result Fault World Flow}
    (hran : Ran characters presets book world advance statement result)
    (htext : ∀ line, statement = .text line → world.prompt.pending = none
      ∧ ∀ text, book.substitute world line = .ok text → Readable book storage world.cursor)
    (hrecord : ∀ fields, statement = .record fields →
      ∃ fields, book.current? world = some (.record fields)) :
    Kept (OnPath start storage book) result := by
  refine hran.kept (fun line hline => (htext line hline).1) ?_
  cases hran with
  | unread fault => exact h
  | refused fault report => exact h.congr rfl h.storable rfl rfl rfl (Or.inr ⟨rfl, rfl⟩)
  | @jumped line text target filled kind label =>
    obtain ⟨hpending, hreadable⟩ := htext line rfl
    exact (h.entered hpending (hreadable text filled) target).emit [.clearText]
  | passed onward => exact h
  | stepped inPlace =>
    show OnPath start storage book (Next.step book world)
    unfold Next.step
    split
    · exact h.moveTo (htext _ rfl).1 rfl
    · exact h
  | @started line text name effects filled kind defined =>
    have hstarted : OnPath start storage book (Particles.started (Text.trim text) world) :=
      h.congr rfl (h.storable.set _) (History.entries_push ..) (History.entries_push ..) rfl
        (Or.inr ⟨rfl, rfl⟩)
    exact hstarted.emit effects
  | shown filled kind said shows =>
    obtain ⟨hstate, hplace, hpending⟩ := kept_of_display shows
    exact (h.redrawn hplace hstate hpending).emit _
  | offered effects field read =>
    exact ⟨h.data, h.storable, h.path, fun _ _ => hrecord _ rfl⟩

/-- **Undoing a statement keeps to the path**, while no menu waits. -/
theorem OnPath.undone (h : OnPath start storage book world) (hpending : world.prompt.pending = none)
    {statement : Statement} {result : EStateM.Result Fault World Flow}
    (hundone : Undone characters presets book world statement result) :
    KeptBack (OnPath start storage book) world.cursor result := by
  cases hundone with
  | unread fault => exact h.moveTo hpending rfl
  | lost newest unread =>
    obtain ⟨entry, hentry, -⟩ := h.returned hpending newest
    rw [hentry] at unread
    cases unread
  | returned effects newest read =>
    obtain ⟨entry, hentry, hback, hreadable⟩ := h.returned hpending newest
    obtain rfl := Option.some.inj (hentry.symm.trans read)
    have hnone : (Jump.returned ⟨entry.source, entry.step⟩ world).prompt.pending = none := by
      rw [prompt_returned, hpending]
    obtain ⟨flow, hflow⟩ := (hback.emit effects).didRevert hreadable
    rw [hflow]
    exact ⟨(hback.emit effects).settled hnone _, hnone⟩
  | passed => exact ⟨h.settled hpending _, hpending⟩
  | stopped previous effects filled kind before =>
    have hstopped : OnPath start storage book
        ((world.pop Particles.stack).setVar Particles.runningVar (.str previous)) :=
      h.congr rfl (h.storable.set _) (History.entries_pop ..) (History.entries_pop ..) rfl
        (Or.inr ⟨rfl, rfl⟩)
    exact ⟨(hstopped.emit effects).settled hpending _, hpending⟩
  | shown filled kind said undoes =>
    obtain ⟨hstate, hplace, hsame⟩ := kept_of_undone undoes
    have hleft := h.redrawn hplace hstate hsame
    cases result with
    | ok flow after => exact ⟨hleft.settled (hsame.trans hpending) _, hsame.trans hpending⟩
    | error fault after =>
      exact hleft.moveTo (hsame.trans hpending) (congrArg (·.cursor.label) hstate).symm
  | closed =>
    have hnone := pending_hide world
    exact ⟨h.hide.settled hnone _, hnone⟩

/-- **Every call keeps to the path.** -/
theorem keeps_onPath (hbook : book.Callbackless) :
    Keeps (OnPath start storage book) characters presets book where
  perform world statement hworld here advance := by
    have hno : ∀ run, statement ≠ .callback run := fun run hrun => hbook _ run (hrun ▸ here)
    refine hworld.ran (Narrative.ran hno advance world) (fun line hline => ?_)
      fun fields hfields => ⟨fields, hfields ▸ here⟩
    subst hline
    exact ⟨hworld.pending_of_text here,
      fun text filled => readable_of_substitute hworld.data here filled⟩
  ahead world hworld hpending _ := hworld.moveTo hpending rfl
  undo world statement hworld hpending htarget :=
    hworld.undone hpending (Narrative.undone (target?_ne_callback hbook htarget) world)
  picked world hworld item hitem statement hread := by
    have hclosed := hworld.close.emit [.hideChoices]
    -- The menu that the option is of waits over a record.
    obtain ⟨menu, hmenu⟩ := pending_of_offered world hitem
    obtain ⟨fields, here⟩ := hworld.prompted menu hmenu
    refine hclosed.ran (Narrative.ran (Statement.ne_callback_of_ofJson? hread) false _)
      (fun line hline => ⟨pending_close world, fun text filled => ?_⟩)
      fun _ _ => ⟨fields, here⟩
    intro written hwritten
    have hcross : some (Statement.record fields) = some (.text written) := here.symm.trans hwritten
    cases hcross
  emit world hworld effects := hworld.emit effects
  close world hworld := hworld.close
  playing world hworld := hworld.congr rfl hworld.storable rfl rfl rfl (Or.inr ⟨rfl, rfl⟩)
  finished world hworld := hworld.congr rfl hworld.storable rfl rfl rfl (Or.inr ⟨rfl, rfl⟩)

end OnPath

end Narrative
