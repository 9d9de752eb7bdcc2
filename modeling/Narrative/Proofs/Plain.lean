import Narrative.Proofs.Calls

/-!
# Proofs/Plain — stories in which every move can be undone

A story is **plain** when each of its statements is: lines, `next`, particle systems that are
defined, jumps to labels that exist, and menus that lead on (`plain`).  It is a story with pages or
one without.  With pages it has no centered lines, no menus and no jumps, which would not leave the
page as going back expects it; without, it has no lines for the page.

A `particles` without a name is not plain, even where the preset of the empty name is defined and
so the statement starts it: when the system after it is undone, that one is not started again.

Under a stop of a plain story the page is a matter of the stop (`Fits`), and undoing a stop undoes
what the next one did to the page (`Fits.unshown?`).
-/

namespace Narrative

/-! ## Plain stories -/

/-- **Whether a text is plain**: a line, `next`, a particle system that is named and defined, or, in
a story without pages, a jump to a label that exists and has no braces of a placeholder.  In a story
with pages no line is centered; in one without, none is for the page. -/
def plainText (paged : Bool) (characters : Table Character) (presets : Fields Json)
    (book : Playbook) (world : World) (line : String) : Bool :=
  match book.substitute world line with
  | .error _ => false
  | .ok text =>
    match Kind.ofText text with
    | .blank => false
    | .next => true
    | .jump target =>
      !paged && book.hasLabel target && !Text.occurs Template.openMark target.toList
    | .particles name => name.any (Fields.has presets)
    | .line _ =>
      match Dialog.say characters book world (.ofText (.text line) text) with
      | .error _ => false
      | .ok say => if paged then say.voice ≠ .centered else !say.nvl

/-- **Whether a statement is plain**: a plain text, or, in a story without pages, a menu each of
whose options leads on. -/
def plain (paged : Bool) (characters : Table Character) (presets : Fields Json) (book : Playbook)
    (world : World) : Statement → Bool
  | .text line => plainText paged characters presets book world line
  | .record fields =>
    match (Fields.get? fields Choice.fieldName).bind Json.asFields? with
    | none => false
    | some options => !paged && (Fields.values options).all fun option =>
        ((option.field? "Do").bind Json.asText?).any (leadsOn book world)
  | .callback _ => false

/-! ## What plain statements are -/

section Plain

variable {paged : Bool} {characters : Table Character} {presets : Fields Json} {book : Playbook}
  {world : World}

/-- **A plain story can be traced back.** -/
theorem traceable_of_plain
    (h : book.statements.all (plain paged characters presets book world) = true) :
    Traceable book world := by
  refine traceable_of_traces (List.all_eq_true.2 fun statement hmem => ?_)
  have hplain := List.all_eq_true.1 h statement hmem
  cases statement with
  | callback run => cases hplain
  | record fields => rfl
  | text line =>
    simp only [plain, plainText] at hplain
    simp only [traces]
    cases filled : book.substitute world line with
    | error fault => rfl
    | ok text =>
      simp only [filled] at hplain
      cases kind : Kind.ofText text with
      | particles name =>
        simp only [kind] at hplain ⊢
        cases name with
        | none => cases hplain
        | some name => rfl
      | jump target =>
        simp only [kind, Bool.and_eq_true] at hplain ⊢
        exact hplain.2
      | _ => simp only [kind]

/-- The stops of a story: with pages, lines that are not centered; without, menus and lines that are
not for the page. -/
def Stop.Suits (paged : Bool) : Stop → Prop
  | line say => if paged then say.voice ≠ .centered else say.nvl = false
  | menu _ => paged = false

/-- **The stops of a plain story.** -/
theorem StopAt.suits (h : book.statements.all (plain paged characters presets book world) = true)
    {stop : Stop} {other : World} (hat : StopAt characters book other stop)
    (hstorage : other.storage = world.storage) : stop.Suits paged := by
  have hplain : ∀ cursor statement, book.statement? cursor = some statement →
      plain paged characters presets book world statement = true := fun cursor statement hs =>
    List.all_eq_true.1 h statement (Playbook.mem_statements hs)
  cases hat with
  | line here filled kind said =>
    have htext := hplain _ _ here
    rw [substitute_congr hstorage] at filled
    rw [say_congr hstorage] at said
    simp only [plain, plainText, filled, kind, said] at htext
    unfold Stop.Suits
    cases paged with
    | true => simpa using htext
    | false => simpa using htext
  | menu here field read =>
    have hmenu := hplain _ _ here
    simp only [plain, field, Bool.and_eq_true, Bool.not_eq_true'] at hmenu
    exact hmenu.1

/-- **A plain story with pages has no jumps.** -/
theorem Passage.straight (h : book.statements.all (plain true characters presets book world) = true)
    {start last : World} {count : Nat} {jumped : Bool}
    (passage : Passage presets book start count jumped last)
    (hstorage : start.storage = world.storage) : jumped = false := by
  induction passage with
  | rest start => rfl
  | link first rest ih =>
    rw [ih (first.carried.storage.trans hstorage), Bool.or_false]
    cases first with
    | next here filled kind => rfl
    | particles here filled kind defined => rfl
    | jump here filled kind unbraced =>
      have htext := List.all_eq_true.1 h _ (Playbook.mem_statements here)
      rw [substitute_congr hstorage] at filled
      simp only [plain, plainText, filled, kind] at htext
      cases htext

theorem Moved.straight (h : book.statements.all (plain true characters presets book world) = true)
    {stop landing : Stop} {start after : World} {jumped : Bool}
    (moved : Moved characters presets book stop start jumped landing after)
    (hsuits : stop.Suits true) (hstorage : start.storage = world.storage) : jumped = false := by
  obtain ⟨departed, -, way⟩ := moved
  have hstart := departed.storage.trans hstorage
  cases departed.leaves with
  | step place => exact way.passage.straight h hstart
  | jump menu unbraced place =>
    subst menu
    cases hsuits

end Plain

/-! ## What an option runs -/

section Menus

variable {paged : Bool} {characters : Table Character} {presets : Fields Json}

/-- **The options that a plain menu offers lead on.** -/
theorem leadsOn_of_plain {book : Playbook} {world origin : World} {stop : Stop}
    (hplain : book.statements.all (plain paged characters presets book origin) = true)
    (hrested : Rested characters presets book stop world)
    (hstorage : world.storage = origin.storage) :
    (Choice.offered world).all (fun item => item.action.asText?.any (leadsOn book world))
      = true := by
  rw [offered_of_rested hrested, List.all_eq_true]
  intro item hitem
  cases hrested.here with
  | line here filled kind said => cases hitem
  | @menu fields options items here field read =>
    obtain ⟨option, hoption, rfl⟩ := List.mem_map.1 hitem
    obtain ⟨value, hvalue, hdo⟩ := mem_readOptions read (List.mem_filter.1 hoption).1
    have hmenu := List.all_eq_true.1 hplain _ (Playbook.mem_statements here)
    simp only [plain, field, Bool.and_eq_true] at hmenu
    have hleads := List.all_eq_true.1 hmenu.2 value hvalue
    have hsame : leadsOn book world = leadsOn book origin := by
      funext line
      rw [leadsOn, leadsOn, substitute_congr hstorage]
    rw [hsame]
    rw [hdo] at hleads
    exact hleads

end Menus

/-! ## Pages that fit -/

/-- Whether a stop is a line for the page. -/
def Stop.onPage : Stop → Bool
  | line say => say.nvl
  | menu _ => false

/-- **A sheet that fits its stop**: the page shows exactly if the stop is a line for it, and has
lines only if it shows. -/
structure Fits (paged : Bool) (stop : Stop) (sheet : Sheet) : Prop where
  /-- The stop is one of the story. -/
  suits : stop.Suits paged
  /-- The page shows under a line for it. -/
  showing : sheet.showing = stop.onPage
  /-- A page that does not show has no lines. -/
  lines : sheet.showing = false → sheet.lines = []

section Fits

variable {paged jumped : Bool} {stop landing : Stop} {sheet : Sheet} {say : Say}

theorem Stop.onPage_of_suits (h : stop.Suits false) : stop.onPage = false := by
  cases stop with
  | line say => exact h
  | menu options => rfl

/-- **The sheet fits the stop that is shown on it.** -/
theorem Fits.shown (hsuits : landing.Suits paged)
    (hhidden : paged = false → sheet.showing = false)
    (hlines : sheet.showing = false → sheet.lines = []) :
    Fits paged landing (landing.shown true sheet) := by
  cases paged with
  | false =>
    have hsame : landing.shown true sheet = sheet := by
      cases landing with
      | line say => exact Say.shown_of_hidden hsuits (hhidden rfl) true true
      | menu options => rfl
    rw [hsame]
    exact ⟨hsuits, (hhidden rfl).trans (Stop.onPage_of_suits hsuits).symm, hlines⟩
  | true =>
    cases landing with
    | menu options => cases hsuits
    | line say =>
      have hvoice : say.voice ≠ .centered := hsuits
      cases hnvl : say.nvl with
      | true =>
        have hshown := Say.shown_onPage hvoice hnvl true sheet
        refine ⟨hsuits, ?_, ?_⟩ <;> simp [Stop.shown, hshown, Stop.onPage, hnvl]
      | false =>
        have hshown := Say.shown_alone hvoice hnvl true sheet
        cases hshowing : sheet.showing with
        | true =>
          refine ⟨hsuits, ?_, ?_⟩ <;>
            simp [Stop.shown, hshown, Stop.onPage, hnvl, hshowing, Sheet.left]
        | false =>
          refine ⟨hsuits, ?_, ?_⟩ <;>
            simp [Stop.shown, hshown, Stop.onPage, hnvl, hshowing, hlines]

/-- **The sheet fits the stop at the end of a move.** -/
theorem Fits.next (h : Fits paged stop sheet) (hsuits : landing.Suits paged) :
    Fits paged landing (landing.shown true (Sheet.leftIf jumped sheet)) := by
  refine .shown hsuits ?_ ?_
  · rintro rfl
    cases jumped with
    | true => rfl
    | false => exact h.showing.trans (Stop.onPage_of_suits h.suits)
  · cases jumped with
    | true => exact fun _ => rfl
    | false => exact h.lines

/-- Without pages nothing shows anywhere, so there is nothing to undo. -/
theorem Fits.unshown?_without (h : Fits false stop sheet) (hsuits : landing.Suits false) :
    stop.unshown? (Sheet.leftIf jumped (landing.shown true (Sheet.leftIf jumped sheet)))
      = some sheet := by
  obtain ⟨showing, lines, closed⟩ := sheet
  obtain rfl : showing = false := h.showing.trans (Stop.onPage_of_suits h.suits)
  obtain rfl : lines = [] := h.lines rfl
  have hleft : ∀ leave, Sheet.leftIf leave ⟨false, [], closed⟩ = ⟨false, [], closed⟩ := by
    intro leave
    cases leave <;> rfl
  have hsame : landing.shown true ⟨false, [], closed⟩ = ⟨false, [], closed⟩ := by
    cases landing with
    | line say => exact Say.shown_of_hidden hsuits rfl true true
    | menu options => rfl
  rw [hleft, hsame, hleft]
  cases stop with
  | menu options => rfl
  | line say =>
    have hnvl : say.nvl = false := h.suits
    simp [Stop.unshown?, Say.unshown?, hnvl, Say.shown_of_hidden]

/-- With pages a line more on the page is dropped, a page that was closed is shown again, and a page
that opened is left. -/
theorem Fits.unshown?_with {other : Say} (h : Fits true (.line say) sheet)
    (hsuits : Stop.Suits true (.line other)) :
    say.unshown? (other.shown true true sheet) = some sheet := by
  obtain ⟨showing, lines, closed⟩ := sheet
  have hvoice : say.voice ≠ .centered := h.suits
  have hvoice' : other.voice ≠ .centered := hsuits
  have hshowing : showing = say.nvl := h.showing
  cases hnvl : say.nvl with
  | true =>
    obtain rfl : showing = true := hshowing.trans hnvl
    cases hnvl' : other.nvl with
    | true => simp [Say.unshown?, hnvl, Say.shown_onPage hvoice' hnvl']
    | false => simp [Say.unshown?, hnvl, Say.shown_alone hvoice' hnvl', Sheet.left]
  | false =>
    obtain rfl : showing = false := hshowing.trans hnvl
    obtain rfl : lines = [] := h.lines rfl
    cases hnvl' : other.nvl with
    | true =>
      simp [Say.unshown?, hnvl, Say.shown_onPage hvoice' hnvl', Say.shown_alone hvoice hnvl,
        Sheet.left]
    | false =>
      simp [Say.unshown?, hnvl, Say.shown_alone hvoice' hnvl', Say.shown_alone hvoice hnvl]

/-- **Undoing a stop undoes what the next one did to the sheet.** -/
theorem Fits.unshown? (h : Fits paged stop sheet) (hsuits : landing.Suits paged)
    (hstraight : paged = true → jumped = false) :
    stop.unshown? (Sheet.leftIf jumped (landing.shown true (Sheet.leftIf jumped sheet)))
      = some sheet := by
  cases paged with
  | false => exact h.unshown?_without hsuits
  | true =>
    obtain rfl := hstraight rfl
    cases stop with
    | menu options => cases h.suits
    | line say =>
      cases landing with
      | menu options => cases hsuits
      | line other => exact h.unshown?_with hsuits

end Fits

end Narrative
