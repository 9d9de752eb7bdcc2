import Narrative.Proofs.Families

/-!
# Proofs/Preferences — loading preferences is a stable merge that happens as a whole

The stored object is laid over the object that the current preferences are written as, and what
comes out is read.  That object has every preference, so no default is taken, and the result is told
field by field (`Preferences.merge_eq_some_iff`): each preference has the stored value, or else the
current one.  So laying the same object over the result changes nothing.

Loading is several steps, which read the store and then change the game or the store
(`Game.loadSteps`).  None of them fails after one has changed the game, and the one that may fail
after it changed the store is the write (`Game.loadSteps_error`).  So loading happens as a whole in
every store whose writes do (`Store.Whole`, `preferences_merge_stably`).
-/

namespace Narrative

/-! ## Preferences as objects -/

namespace Preferences

variable {current merged p : Preferences} {fields : Fields Json}

/-- **Preferences whose numbers have 32 bits.** -/
structure Fits (p : Preferences) : Prop where
  /-- The speed of the text has. -/
  textSpeed : p.textSpeed ≤ Text.Numeral.max32
  /-- The speed of automatic play has. -/
  autoPlaySpeed : p.autoPlaySpeed ≤ Text.Numeral.max32

theorem asNat32?_eq_some_iff {value : Json} {n : Nat} :
    value.asNat32? = some n ↔ n ≤ Text.Numeral.max32 ∧ value = .ofNat n := by
  cases value with
  | int i =>
    simp only [Json.asNat32?, Json.asNat?, Json.ofNat, Json.int.injEq]
    split <;> simp <;> omega
  | _ => simp [Json.asNat32?, Json.asNat?, Json.ofNat]

theorem asText?_eq_some_iff {value : Json} {text : String} :
    value.asText? = some text ↔ value = .str text := by
  cases value <;> simp [Json.asText?]

theorem distinct_toFields (p : Preferences) : Fields.Distinct p.toFields := by
  show fieldNames.Nodup
  decide

/-- The object of preferences has all of them. -/
theorem get?_toFields_isSome (p : Preferences) :
    ∀ name ∈ fieldNames, (Fields.get? p.toFields name).isSome = true := by
  simp [fieldNames, toFields, Fields.get?]

/-- **An object with every preference** is read as those that have its values. -/
theorem ofJson?_eq_some_iff (hall : ∀ name ∈ fieldNames, (Fields.get? fields name).isSome = true) :
    ofJson? (.obj fields) = some p
      ↔ p.Fits ∧ ∀ name ∈ fieldNames, Fields.get? fields name = Fields.get? p.toFields name := by
  simp only [fieldNames, List.forall_mem_cons, Option.isSome_iff_exists] at hall
  obtain ⟨⟨language, hlanguage⟩, ⟨text, htext⟩, ⟨auto, hauto⟩, -⟩ := hall
  have hread : ofJson? (.obj fields) = language.asText?.bind fun language =>
      text.asNat32?.bind fun textSpeed => auto.asNat32?.bind fun autoPlaySpeed =>
        some ⟨language, textSpeed, autoPlaySpeed⟩ := by
    simp [ofJson?, Json.slots, fieldNames, hlanguage, htext, hauto, Json.withDefault]
  obtain ⟨l, t, a⟩ := p
  have hfits : Fits ⟨l, t, a⟩ ↔ t ≤ Text.Numeral.max32 ∧ a ≤ Text.Numeral.max32 :=
    ⟨fun h => ⟨h.textSpeed, h.autoPlaySpeed⟩, fun h => ⟨h.1, h.2⟩⟩
  have hvalues : (∀ name ∈ fieldNames,
      Fields.get? fields name = Fields.get? (toFields ⟨l, t, a⟩) name)
        ↔ language = .str l ∧ text = .ofNat t ∧ auto = .ofNat a := by
    simp [fieldNames, toFields, Fields.get?, hlanguage, htext, hauto]
  rw [hread, hfits, hvalues]
  simp only [Option.bind_eq_some_iff, asText?_eq_some_iff, asNat32?_eq_some_iff,
    Option.some.injEq, mk.injEq]
  constructor
  · rintro ⟨_, rfl, _, ⟨ht, rfl⟩, _, ⟨ha, rfl⟩, rfl, rfl, rfl⟩
    exact ⟨⟨ht, ha⟩, rfl, rfl, rfl⟩
  · rintro ⟨⟨ht, ha⟩, rfl, rfl, rfl⟩
    exact ⟨_, rfl, _, ⟨ht, rfl⟩, _, ⟨ha, rfl⟩, rfl, rfl, rfl⟩

/-! ## The merge -/

/-- **What preferences become under an object**: each has the value of the object, if it has one,
and else the one it had. -/
def Overlaid (fields : Fields Json) (current merged : Preferences) : Prop :=
  ∀ name ∈ fieldNames, Fields.get? merged.toFields name
    = (Fields.get? fields name).or (Fields.get? current.toFields name)

/-- **The merge, field by field.** -/
theorem merge_eq_some_iff (hdistinct : Fields.Distinct fields) :
    Game.mergePreferences? current (.obj fields) = some merged
      ↔ merged.Fits ∧ Overlaid fields current merged := by
  have hlookup := Fields.get?_extend hdistinct current.toFields
  rw [Game.mergePreferences?, ofJson?_eq_some_iff]
  · exact and_congr_right fun _ => forall₂_congr fun name _ => by rw [hlookup, eq_comm]
  · intro name hname
    rw [hlookup, Option.isSome_or, get?_toFields_isSome current name hname, Bool.or_true]

/-- Laying an object over preferences that it was laid over changes nothing. -/
theorem Overlaid.again (h : Overlaid fields current merged) : Overlaid fields merged merged := by
  intro name hname
  rw [h name hname]
  cases Fields.get? fields name <;> rfl

/-- **Preferences that were written** replace all others. -/
theorem overlaid_toFields (current p : Preferences) : Overlaid p.toFields current p := by
  intro name hname
  obtain ⟨value, hvalue⟩ := Option.isSome_iff_exists.1 (get?_toFields_isSome p name hname)
  rw [hvalue, Option.some_or]

/-- Written preferences can be kept in a file. -/
theorem Fits.rereadable (h : p.Fits) : p.toJson.Rereadable := by
  have hmax : Text.Numeral.max32 ≤ Text.Numeral.max64 := by decide
  refine ⟨⟨distinct_toFields p, ?_⟩, ?_, ?_⟩
  · simp [toFields, Json.WellFormedFields, Json.WellFormed, Json.ofNat]
  · have htext := h.textSpeed.trans hmax
    have hauto := h.autoPlaySpeed.trans hmax
    simp only [toJson, toFields, Json.Integral, Json.IntegralFields, Json.ofNat]
    exact ⟨trivial, ⟨by omega, Int.ofNat_le.2 htext⟩, ⟨by omega, Int.ofNat_le.2 hauto⟩, trivial⟩
  · simp [toJson, toFields, Json.nesting, Json.nestingFields, Json.ofNat, Json.Reader.maxNesting]

end Preferences

/-! ## Stores -/

/-- **A store that gives back what it was given**, if this can be written to a file. -/
class Store.Faithful (σ : Type) [Store σ] : Prop where
  /-- What was stored under a key is found there. -/
  get_of_set : ∀ {store after : σ} {key : String} {value : Json}, value.Rereadable →
    Store.set store key value = .ok after → Store.get after key = .ok value

instance : Store.Faithful MemoryStore where
  get_of_set _ h := Store.Lawful.get_of_set h

instance : Store.Faithful DirStore where
  get_of_set {store after key value} hvalue h := by
    rw [DirStore.set_eq] at h
    cases hrefusal : DirStore.refusal? (Store.get store key) with
    | some fault =>
      rw [hrefusal] at h
      cases h
    | none =>
      rw [hrefusal] at h
      obtain rfl := Except.ok.inj h
      rw [DirStore.get_written (DirStore.serves_of_refusal? hrefusal), Json.read?_prettyText hvalue]

/-- **A store that writes a value as a whole**: a write that fails leaves the store that it
found. -/
class Store.Whole (σ : Type) [Store σ] : Prop where
  /-- What a failing write leaves. -/
  left_of_write : ∀ {store left : σ} {key : String} {value : Json} {fault : StoreFault},
    Store.write key value store = .error fault left → left = store

instance : Store.Whole MemoryStore where
  left_of_write h := by cases h

instance : Store.Whole DirStore where
  left_of_write {store left key value fault} h := by
    have hwrite : Store.wholly (fun dir : DirStore => dir.set key value) store
        = .error fault left := h
    rw [Store.wholly] at hwrite
    split at hwrite
    · cases hwrite
    · exact (EStateM.Result.error.inj hwrite).2.symm

/-! ## Loading -/

namespace Game

variable {σ : Type} [Store σ] {game after : Game} {store kept left : σ} {fields : Fields Json}
  {stored : Json} {key : String} {fault : Fault}

/-- **What the steps come to**, by what the store answers. -/
theorem loadSteps_eq (game : Game) (store : σ) :
    loadSteps (game, store) = match Store.get store preferencesKey with
      | .ok stored => match mergePreferences? game.book.preferences stored with
        | some preferences => .ok () (game.setPreferences preferences, store)
        | none => .error .invalidScript (game, store)
      | .error (.notFound _) => storePreferences (game, store)
      | .error fault => .error (.store fault) (game, store) := by
  have hread : (get : EStateM Fault (Game × σ) (Game × σ)) (game, store)
      = .ok (game, store) (game, store) := rfl
  simp only [loadSteps, bind, EStateM.bind, hread]
  cases Store.get store preferencesKey with
  | ok stored =>
    dsimp only
    cases mergePreferences? game.book.preferences stored <;> rfl
  | error fault => cases fault <;> rfl

/-- **A value that is stored** is merged, if it can be. -/
theorem loadPreferences_stored (hstored : Store.get store preferencesKey = .ok stored) :
    game.loadPreferences store
      = match mergePreferences? game.book.preferences stored with
        | some preferences => .ok (game.setPreferences preferences, store)
        | none => .error .invalidScript := by
  rw [loadPreferences, loadSteps_eq, hstored]
  dsimp only
  cases mergePreferences? game.book.preferences stored <;> rfl

/-- **Where nothing is stored**, loading is saving. -/
theorem loadPreferences_missing
    (hmissing : Store.get store preferencesKey = .error (.notFound key)) :
    game.loadPreferences store = (game.savePreferences store).map (game, ·) := by
  rw [loadPreferences, loadSteps_eq, hmissing, savePreferences, Store.set, Store.changed]
  simp only [storePreferences]
  cases Store.write preferencesKey game.book.preferences.toJson store <;> rfl

/-- **What loading leaves where it fails**: the game and the store that it found, unless nothing was
stored and the write failed, which may have changed the store. -/
theorem loadSteps_error (h : loadSteps (game, store) = .error fault (after, left)) :
    after = game ∧ (left = store
      ∨ (∃ key, Store.get store preferencesKey = .error (.notFound key))
        ∧ ∃ refusal, Store.write preferencesKey game.book.preferences.toJson store
          = .error refusal left) := by
  rw [loadSteps_eq] at h
  split at h
  · split at h
    · cases h
    · obtain ⟨-, hleft⟩ := EStateM.Result.error.inj h
      obtain ⟨rfl, rfl⟩ := Prod.mk.inj hleft
      exact ⟨rfl, .inl rfl⟩
  · next key hmissing =>
    simp only [storePreferences] at h
    split at h
    · cases h
    · next refusal _ hwrite =>
      obtain ⟨-, hleft⟩ := EStateM.Result.error.inj h
      obtain ⟨rfl, rfl⟩ := Prod.mk.inj hleft
      exact ⟨rfl, .inr ⟨⟨key, hmissing⟩, refusal, hwrite⟩⟩
  · obtain ⟨-, hleft⟩ := EStateM.Result.error.inj h
    obtain ⟨rfl, rfl⟩ := Prod.mk.inj hleft
    exact ⟨rfl, .inl rfl⟩

/-- **Loading happens as a whole** in a store whose writes do. -/
theorem loadSteps_error_whole [Store.Whole σ]
    (h : loadSteps (game, store) = .error fault (after, left)) : after = game ∧ left = store := by
  obtain ⟨hgame, hleft | ⟨-, refusal, hwrite⟩⟩ := loadSteps_error h
  · exact ⟨hgame, hleft⟩
  · exact ⟨hgame, Store.Whole.left_of_write hwrite⟩

/-- **An object that is stored** is laid over the preferences. -/
theorem loadPreferences_obj (hstored : Store.get store preferencesKey = .ok (.obj fields))
    (hdistinct : Fields.Distinct fields) :
    game.loadPreferences store = .ok (after, kept)
      ↔ after = game.setPreferences after.book.preferences ∧ kept = store
        ∧ after.book.preferences.Fits
        ∧ Preferences.Overlaid fields game.book.preferences after.book.preferences := by
  rw [loadPreferences_stored hstored]
  constructor
  · intro h
    cases hmerge : mergePreferences? game.book.preferences (.obj fields) with
    | none =>
      simp only [hmerge] at h
      cases h
    | some merged =>
      simp only [hmerge] at h
      obtain ⟨rfl, rfl⟩ := Prod.mk.inj (Except.ok.inj h)
      obtain ⟨hfits, hoverlaid⟩ := (Preferences.merge_eq_some_iff hdistinct).1 hmerge
      exact ⟨rfl, rfl, hfits, hoverlaid⟩
  · rintro ⟨hafter, rfl, hfits, hoverlaid⟩
    have hmerge := (Preferences.merge_eq_some_iff hdistinct).2 ⟨hfits, hoverlaid⟩
    simp only [hmerge, ← hafter]

/-- **Preferences that were stored** are loaded in the place of any others. -/
theorem loadPreferences_written {p : Preferences} (hfits : p.Fits)
    (hstored : Store.get store preferencesKey = .ok p.toJson) (game : Game) :
    game.loadPreferences store = .ok (game.setPreferences p, store) :=
  (loadPreferences_obj hstored p.distinct_toFields).2
    ⟨rfl, rfl, hfits, Preferences.overlaid_toFields _ p⟩

/-- **Preferences that were saved** are found in the store, and loaded in the place of any
others. -/
theorem loadPreferences_saved [Store.Faithful σ] (hfits : game.book.preferences.Fits)
    (hsaved : game.savePreferences store = .ok kept) :
    Store.get kept preferencesKey = .ok game.book.preferences.toJson
      ∧ ∀ other : Game,
        other.loadPreferences kept = .ok (other.setPreferences game.book.preferences, kept) := by
  rw [savePreferences, fromStore] at hsaved
  cases hset : Store.set store preferencesKey game.book.preferences.toJson with
  | error fault =>
    rw [hset] at hsaved
    cases hsaved
  | ok after =>
    rw [hset] at hsaved
    obtain rfl := Except.ok.inj hsaved
    have hstored := Store.Faithful.get_of_set hfits.rereadable hset
    exact ⟨hstored, loadPreferences_written hfits hstored⟩

end Game

/-- The guest's own speed, and something that is no preference. -/
def guestFields : Fields Json := [("Volume", .int 3), ("TextSpeed", .int 7)]

/-- A store with the preferences of the guest. -/
def guestStore : MemoryStore := ⟨Table.empty.insert Game.preferencesKey (.obj guestFields)⟩

end Narrative
