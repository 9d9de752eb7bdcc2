import Narrative.Proofs.Defects

/-!
# Proofs/Options — which options a menu offers

An option is **offered** when it has a statement and its condition holds, and **hidden** when it has
a statement and its condition does not (`Choice.isOffered`, `Choice.isHidden`).  A menu that can be
read offers just its offered options, in order, each with its own text and statement (`keys_offer`,
`mem_offer`).

A hidden option leaves no trace, but for one thing: the placeholders of its text are filled in
before its condition is looked at.  Where a placeholder that leads nowhere is refused, the text of a
hidden option may make the whole menu fail (`hidden_options`).
-/

namespace Narrative

namespace Choice

/-! ## The parts of an option -/

/-- **An option is offered**: it has a statement, and its condition holds. -/
def isOffered (storage : Storage) (value : Json) : Bool :=
  (value.field? "Do").isSome && (condition? value).any (·.evaluate storage)

/-- **An option is hidden**: it has a statement and a condition, which does not hold. -/
def isHidden (storage : Storage) (value : Json) : Bool :=
  (value.field? "Do").isSome && (condition? value).any (!·.evaluate storage)

/-- The options of a menu without those that are hidden. -/
def unhidden (storage : Storage) (options : Fields Json) : Fields Json :=
  options.filter (!isHidden storage ·.2)

/-- **The items that a menu offers**, once all of its options are read. -/
def offer (book : Playbook) (world : World) (options : Fields Json) :
    Except Fault (List MenuItem) :=
  (readOptions book world options).map (visible world.storage)

end Choice

open Choice (isOffered isHidden unhidden offer caption condition?)

section Options

variable {characters : Table Character} {presets : Fields Json} {book : Playbook} {world : World}

/-- A text fails to be filled in for a path. -/
theorem unresolvedPath_of_substitute {line : String} {fault : Fault}
    (h : book.substitute world line = .error fault) : ∃ path, fault = .unresolvedPath path := by
  unfold Playbook.substitute at h
  split at h
  · cases h
  · exact ⟨_, (Except.error.inj h).symm⟩

/-- The items of the first option, and those of the others. -/
theorem offer_cons (key : String) (value : Json) (rest : Fields Json) :
    offer book world ((key, value) :: rest)
      = (Choice.readOption book world key value).bind fun option =>
          (offer book world rest).map (Choice.visible world.storage option.toList ++ ·) := by
  rw [offer, readOptions_cons, offer]
  cases Choice.readOption book world key value with
  | error fault => rfl
  | ok option =>
    cases Choice.readOptions book world rest with
    | error fault => rfl
    | ok options => simp [Except.bind, Except.map, Choice.visible]

/-- **Executing a menu** comes down to the items it offers: it waits with them, or fails and changes
nothing. -/
theorem perform_menu {fields options : Fields Json}
    (hfield : (Fields.get? fields Choice.fieldName).bind Json.asFields? = some options)
    (advance : Bool) :
    Run.perform book (builtinRegistry characters presets) (.record fields) advance world
      = match offer book world options with
        | .error fault => .error fault world
        | .ok items =>
          .ok .wait ((world.withGlobals (·.set Choice.pendingKey
            (.arr (items.map MenuItem.toJson)))).emit [.showChoices (items.map MenuItem.entry)]) := by
  have hmenu : Fields.has fields Choice.fieldName = true := by
    obtain ⟨value, hvalue, -⟩ := Option.bind_eq_some_iff.1 hfield
    exact Option.isSome_iff_exists.2 ⟨value, hvalue⟩
  rw [perform_eq (by simp), invoke_record, if_pos hmenu, offer]
  simp only [Choice.invoke, Instruction.fields?, Instruction.ofRecord, Statement.asRecord?,
    Option.bind_some, hfield]
  cases Choice.readOptions book world options <;> rfl

/-! ## What is offered -/

variable (book world) in
/-- **An item is that of an option**: it has its key, its statement, and its text with the
placeholders filled in. -/
structure MenuItem.IsOf (item : MenuItem) (option : String × Json) : Prop where
  /-- The keys are the same. -/
  key : item.key = option.1
  /-- The option is offered. -/
  offered : isOffered world.storage option.2 = true
  /-- The item runs what stands under `Do`. -/
  action : option.2.field? "Do" = some item.action
  /-- The text is filled in. -/
  text : book.substitute world (caption option.1 option.2) = .ok item.text

/-- An option that can be read gives its item if it is offered, and none otherwise. -/
theorem visible_option {key : String} {value : Json} {option : Option (MenuItem × Condition)}
    (h : Choice.readOption book world key value = .ok option) :
    (isOffered world.storage value = false ∧ Choice.visible world.storage option.toList = [])
      ∨ ∃ item, item.IsOf book world (key, value)
        ∧ Choice.visible world.storage option.toList = [item] := by
  rw [readOption_eq] at h
  cases hdo : value.field? "Do" with
  | none =>
    rw [hdo] at h
    obtain rfl := Except.ok.inj h
    exact Or.inl ⟨by simp [isOffered, hdo], rfl⟩
  | some action =>
    rw [hdo] at h
    cases hcondition : condition? value with
    | none =>
      rw [hcondition] at h
      cases h
    | some condition =>
      rw [hcondition] at h
      cases hfilled : book.substitute world (caption key value) with
      | error fault =>
        rw [hfilled] at h
        cases h
      | ok text =>
        rw [hfilled] at h
        obtain rfl := Except.ok.inj h
        have hoffered : isOffered world.storage value = condition.evaluate world.storage := by
          simp [isOffered, hdo, hcondition]
        cases hholds : condition.evaluate world.storage with
        | false => exact Or.inl ⟨hoffered.trans hholds, by simp [Choice.visible, hholds]⟩
        | true =>
          exact Or.inr ⟨⟨key, text, action⟩, ⟨rfl, hoffered.trans hholds, hdo, hfilled⟩,
            by simp [Choice.visible, hholds]⟩

/-- **A menu that can be read** gives the items of its first option, then those of the others. -/
theorem offer_cons_eq_ok {key : String} {value : Json} {rest : Fields Json} {items : List MenuItem}
    (h : offer book world ((key, value) :: rest) = .ok items) :
    ∃ more, offer book world rest = .ok more
      ∧ ((isOffered world.storage value = false ∧ items = more)
        ∨ ∃ item, item.IsOf book world (key, value) ∧ items = item :: more) := by
  rw [offer_cons] at h
  cases hoption : Choice.readOption book world key value with
  | error fault =>
    rw [hoption] at h
    cases h
  | ok option =>
    cases hrest : offer book world rest with
    | error fault =>
      rw [hoption, hrest] at h
      cases h
    | ok more =>
      rw [hoption, hrest] at h
      obtain rfl := Except.ok.inj h
      obtain ⟨hoffered, hvisible⟩ | ⟨item, hitem, hvisible⟩ := visible_option hoption
      · exact ⟨more, rfl, Or.inl ⟨hoffered, by simp only [hvisible, List.nil_append]⟩⟩
      · exact ⟨more, rfl, Or.inr ⟨item, hitem, by simp only [hvisible, List.singleton_append]⟩⟩

/-- **A menu offers just its offered options**, in order. -/
theorem keys_offer {options : Fields Json} {items : List MenuItem}
    (h : offer book world options = .ok items) :
    items.map (·.key) = Fields.keys (options.filter (isOffered world.storage ·.2)) := by
  induction options generalizing items with
  | nil =>
    obtain rfl : [] = items := Except.ok.inj h
    rfl
  | cons field rest ih =>
    obtain ⟨key, value⟩ := field
    obtain ⟨more, hmore, ⟨hoffered, rfl⟩ | ⟨item, hitem, rfl⟩⟩ := offer_cons_eq_ok h
    · rw [ih hmore, List.filter_cons_of_neg (by simp [hoffered])]
    · have hoffered : isOffered world.storage value = true := hitem.offered
      rw [List.map_cons, ih hmore, List.filter_cons_of_pos (by simpa using hoffered), hitem.key]
      rfl

/-- **Every item is that of an option.** -/
theorem mem_offer {options : Fields Json} {items : List MenuItem}
    (h : offer book world options = .ok items) {item : MenuItem} (hmem : item ∈ items) :
    ∃ option ∈ options, item.IsOf book world option := by
  induction options generalizing items with
  | nil =>
    obtain rfl : [] = items := Except.ok.inj h
    cases hmem
  | cons field rest ih =>
    obtain ⟨key, value⟩ := field
    obtain ⟨more, hmore, ⟨-, rfl⟩ | ⟨first, hfirst, rfl⟩⟩ := offer_cons_eq_ok h
    · obtain ⟨option, hoption, hitem⟩ := ih hmore hmem
      exact ⟨option, List.mem_cons_of_mem _ hoption, hitem⟩
    · rcases List.mem_cons.1 hmem with rfl | hmem
      · exact ⟨_, List.mem_cons_self, hfirst⟩
      · obtain ⟨option, hoption, hitem⟩ := ih hmore hmem
        exact ⟨option, List.mem_cons_of_mem _ hoption, hitem⟩

/-! ## What is hidden -/

/-- A hidden option is read for the placeholders of its text only, and is not among the items. -/
theorem offer_cons_of_isHidden {key : String} {value : Json} (h : isHidden world.storage value = true)
    (rest : Fields Json) :
    offer book world ((key, value) :: rest)
      = (book.substitute world (caption key value)).bind fun _ => offer book world rest := by
  obtain ⟨hdo, hcondition⟩ := Bool.and_eq_true_iff.1 h
  obtain ⟨action, hdo⟩ := Option.isSome_iff_exists.1 hdo
  obtain ⟨condition, hcondition, hfails⟩ := (Option.any_eq_true ..).1 hcondition
  rw [offer_cons, readOption_eq, hdo, hcondition]
  cases book.substitute world (caption key value) with
  | error fault => rfl
  | ok text =>
    have hnone : Choice.visible world.storage [(⟨key, text, action⟩, condition)] = [] := by
      simpa [Choice.visible] using hfails
    simp only [Except.map, Except.bind, Option.toList_some, hnone, List.nil_append]
    cases offer book world rest <;> rfl

variable (book world) in
/-- **Hidden options are not among the items**: the others alone give the same, unless a placeholder
of a hidden option leads nowhere.  The induction is on the options: the first fault ends the
reading, whichever option it is of. -/
theorem offer_unhidden (options : Fields Json) :
    offer book world options = offer book world (unhidden world.storage options)
      ∨ ∃ option ∈ options, isHidden world.storage option.2 = true
          ∧ ∃ fault, book.substitute world (caption option.1 option.2) = .error fault
            ∧ offer book world options = .error fault := by
  induction options with
  | nil => exact Or.inl rfl
  | cons field rest ih =>
    obtain ⟨key, value⟩ := field
    cases hhidden : isHidden world.storage value with
    | true =>
      have hsame : unhidden world.storage ((key, value) :: rest) = unhidden world.storage rest :=
        List.filter_cons_of_neg (by simp [hhidden])
      rw [hsame, offer_cons_of_isHidden hhidden]
      cases hfilled : book.substitute world (caption key value) with
      | error fault =>
        exact Or.inr ⟨(key, value), List.mem_cons_self, hhidden, fault, hfilled, rfl⟩
      | ok text =>
        obtain heq | ⟨option, hmem, hoption⟩ := ih
        · exact Or.inl heq
        · exact Or.inr ⟨option, List.mem_cons_of_mem _ hmem, hoption⟩
    | false =>
      have hkept : unhidden world.storage ((key, value) :: rest)
          = (key, value) :: unhidden world.storage rest :=
        List.filter_cons_of_pos (by simp [hhidden])
      rw [hkept, offer_cons, offer_cons]
      cases hoption : Choice.readOption book world key value with
      | error fault => exact Or.inl rfl
      | ok first =>
        obtain heq | ⟨option, hmem, hisHidden, fault, hfilled, herror⟩ := ih
        · exact Or.inl (by rw [heq])
        · refine Or.inr ⟨option, List.mem_cons_of_mem _ hmem, hisHidden, fault, hfilled, ?_⟩
          simp only [Except.bind, herror, Except.map]

/-- A placeholder of a hidden option that leads nowhere makes the menu fail. -/
theorem offer_of_unfilled {options : Fields Json} {option : String × Json} (hmem : option ∈ options)
    (hhidden : isHidden world.storage option.2 = true) {unfilled : Fault}
    (hfill : book.substitute world (caption option.1 option.2) = .error unfilled) :
    ∃ fault, offer book world options = .error fault := by
  induction options with
  | nil => cases hmem
  | cons field rest ih =>
    obtain ⟨key, value⟩ := field
    rcases List.mem_cons.1 hmem with rfl | hmem
    · exact ⟨unfilled, by rw [offer_cons_of_isHidden hhidden, hfill]; rfl⟩
    · obtain ⟨fault, herror⟩ := ih hmem
      rw [offer_cons]
      cases Choice.readOption book world key value with
      | error first => exact ⟨first, rfl⟩
      | ok first => exact ⟨fault, by simp only [Except.bind, herror, Except.map]⟩

end Options

namespace Choice

/-- The options of a record; none, if it is no menu. -/
def options (fields : Fields Json) : Fields Json :=
  ((Fields.get? fields fieldName).bind Json.asFields?).getD []

/-- **A record without its hidden options.** -/
def pruned (storage : Storage) (fields : Fields Json) : Fields Json :=
  match (Fields.get? fields fieldName).bind Json.asFields? with
  | some options => Fields.insert fields fieldName (.obj (unhidden storage options))
  | none => fields

end Choice

/-- **Hidden options leave no trace, but for a placeholder that is refused.**  Executing a record
and executing it without its hidden options come to the same result, effects and offered options, or
else the text of a hidden option has a placeholder that leads nowhere, and for it the record fails
and changes nothing.  Whenever there is such a placeholder, the record fails.  There is none unless
the settings refuse them. -/
theorem hidden_options (characters : Table Character) (presets : Fields Json) (book : Playbook)
    (world : World) (fields : Fields Json) (advance : Bool) :
    (Run.perform book (builtinRegistry characters presets) (.record fields) advance world
          = Run.perform book (builtinRegistry characters presets)
              (.record (Choice.pruned world.storage fields)) advance world
        ∨ ∃ option ∈ Choice.options fields, isHidden world.storage option.2 = true
          ∧ ∃ path, book.substitute world (caption option.1 option.2)
              = .error (.unresolvedPath path)
            ∧ Run.perform book (builtinRegistry characters presets) (.record fields) advance world
              = .error (.unresolvedPath path) world)
      ∧ (∀ option ∈ Choice.options fields, isHidden world.storage option.2 = true →
          ∀ unfilled, book.substitute world (caption option.1 option.2) = .error unfilled →
            ∃ fault, Run.perform book (builtinRegistry characters presets) (.record fields) advance
              world = .error fault world)
      ∧ (book.settings.unresolved ≠ .fail →
          Run.perform book (builtinRegistry characters presets) (.record fields) advance world
            = Run.perform book (builtinRegistry characters presets)
                (.record (Choice.pruned world.storage fields)) advance world) := by
  cases hfield : (Fields.get? fields Choice.fieldName).bind Json.asFields? with
  | none => simp [Choice.pruned, Choice.options, hfield]
  | some options =>
    have hpruned : (Fields.get? (Choice.pruned world.storage fields) Choice.fieldName).bind
        Json.asFields? = some (unhidden world.storage options) := by
      simp [Choice.pruned, hfield, Json.asFields?]
    have hoptions : Choice.options fields = options := by rw [Choice.options, hfield]; rfl
    rw [perform_menu hfield, perform_menu hpruned, hoptions]
    have hsame := offer_unhidden book world options
    refine ⟨?_, fun option hmem hhidden unfilled hfill => ?_, fun hpolicy => ?_⟩
    · obtain heq | ⟨option, hmem, hhidden, fault, hfill, herror⟩ := hsame
      · exact Or.inl (by rw [heq])
      · obtain ⟨path, rfl⟩ := unresolvedPath_of_substitute hfill
        exact Or.inr ⟨option, hmem, hhidden, path, hfill, by rw [herror]⟩
    · obtain ⟨fault, herror⟩ := offer_of_unfilled hmem hhidden hfill
      exact ⟨fault, by rw [herror]⟩
    · obtain heq | ⟨option, -, -, fault, hfill, -⟩ := hsame
      · rw [heq]
      · obtain ⟨filled, hfilled⟩ :=
          Template.fill_of_ne_fail hpolicy world.storage (caption option.1 option.2)
        rw [Playbook.substitute, hfilled] at hfill
        cases hfill

/-! ## A hidden option whose text is read -/

/-- A menu with an option for those only who have a friend, whose name is in its text. -/
def doorway : Fields Json :=
  [("Choice", .obj
    [("ask", .obj [("Text", .str "Ask \x7b\x7bfriend.name\x7d\x7d"), ("Do", .str "next"),
      ("Condition", .str "friend")]),
     ("leave", .obj [("Text", .str "Leave"), ("Do", .str "next")])])]

/-- A playbook under which a placeholder that leads nowhere is refused. -/
def strictBook : Playbook := { settings := { unresolved := .fail } }

/-- **The theorem about the menu at the door**, where there is no friend: it fails for the text of
the option that is hidden, and where such placeholders are not refused, that option leaves no
trace. -/
theorem hidden_options_doorway :
    (∃ fault, Run.perform strictBook (builtinRegistry Table.empty []) (.record doorway) true default
        = .error fault default)
      ∧ Run.perform default (builtinRegistry Table.empty []) (.record doorway) true default
        = Run.perform default (builtinRegistry Table.empty [])
            (.record (Choice.pruned Storage.empty doorway)) true default := by
  obtain ⟨-, hfails, -⟩ := hidden_options Table.empty [] strictBook default doorway true
  obtain ⟨-, -, hsame⟩ := hidden_options Table.empty [] default default doorway true
  have hmem : ∃ option ∈ Choice.options doorway, isHidden Storage.empty option.2 = true
      ∧ strictBook.substitute default (caption option.1 option.2)
        = .error (.unresolvedPath "friend.name") :=
    ⟨_, List.mem_cons_self, by decide +kernel, by rfl⟩
  obtain ⟨option, hmem, hhidden, hfill⟩ := hmem
  exact ⟨hfails option hmem hhidden _ hfill, hsame (by decide)⟩

/-- **The menu at the door is not offered for want of a name**, although without the option that
wants it, the other one is. -/
theorem hidden_option_refused :
    (Choice.options doorway).map (fun option => (option.1, isHidden Storage.empty option.2))
        = [("ask", true), ("leave", false)]
      ∧ Result.fault? (Run.perform strictBook (builtinRegistry Table.empty []) (.record doorway)
          true default) = some (.unresolvedPath "friend.name")
      ∧ (Choice.offered (Result.left (Run.perform strictBook (builtinRegistry Table.empty [])
          (.record (Choice.pruned Storage.empty doorway)) true default))).map MenuItem.entry
        = [⟨"leave", "Leave"⟩] := by
  decide +kernel

end Narrative
