import Narrative.Action.Choice
import Narrative.Action.Jump

/-!
# Proofs/ReadBack — what is written is what is read back

Pages, menus and jump entries are kept in written form, in the globals or on a stack, and effects
are handed over in written form.  Each of them reads back as it was, whatever its texts are, and
whatever values it carries along.
-/

namespace Narrative

namespace Json

/-- A list reads back when its items do. -/
theorem listOf_map {α : Type} {decode : Json → Option α} {encode : α → Json}
    (h : ∀ item, decode (encode item) = some item) (items : List α) :
    listOf decode (.arr (items.map encode)) = some items := by
  have hmap : (items.map encode).mapM decode = some items := by
    induction items with
    | nil => rfl
    | cons item items ih => simp [List.mapM_cons, h, ih]
  exact hmap

/-- A field that is null when there is no value reads back when the value does, and is not null
itself. -/
theorem optional_ofOption {α : Type} {decode : Json → Option α} {encode : α → Json}
    (h : ∀ item, decode (encode item) = some item) (hnull : ∀ item, encode item ≠ .null)
    (value : Option α) : optional decode (some (.ofOption (value.map encode))) = some value := by
  cases value with
  | none => rfl
  | some item =>
    show optional decode (some (encode item)) = _
    have hpresent : optional decode (some (encode item)) = (decode (encode item)).map some := by
      cases hitem : encode item with
      | null => exact absurd hitem (hnull item)
      | _ => rfl
    rw [hpresent, h]
    rfl

@[simp] theorem asNat64?_ofNat (n : Nat) : (ofNat n).asNat64? = some n := by
  simp [ofNat, asNat64?]

end Json

/-! ## Pages -/

theorem Line.ofJson?_toJson (line : Line) : Line.ofJson? line.toJson = some line := by
  obtain ⟨_ | speaker, text⟩ := line <;> rfl

/-- **A page reads back**, line by line. -/
@[simp] theorem Line.pageOfJson?_pageToJson (lines : List Line) :
    Line.pageOfJson? (Line.pageToJson lines) = some lines :=
  Json.listOf_map Line.ofJson?_toJson lines

/-! ## Menus -/

theorem MenuItem.ofJson?_toJson (item : MenuItem) : MenuItem.ofJson? item.toJson = some item := rfl

/-- **A menu reads back**: keys, texts and statements, in order. -/
@[simp] theorem MenuItem.listOf_map_toJson (items : List MenuItem) :
    Json.listOf MenuItem.ofJson? (.arr (items.map MenuItem.toJson)) = some items :=
  Json.listOf_map MenuItem.ofJson?_toJson items

/-! ## Effects

The object of an effect holds its name beside its parts.  No part is called `effect`, so each is
found under its own name. -/

theorem Speaker.ofJson?_toJson (speaker : Speaker) :
    Speaker.ofJson? speaker.toJson = some speaker := by
  obtain ⟨id, name, _ | color, _ | image⟩ := speaker <;> rfl

theorem MenuEntry.ofJson?_toJson (entry : MenuEntry) :
    MenuEntry.ofJson? entry.toJson = some entry := rfl

/-- **An effect reads back**, whatever values it carries. -/
theorem Effect.ofJson?_toJson (effect : Effect) : Effect.ofJson? effect.toJson = some effect := by
  cases effect with
  | say speaker text nvl animate =>
    show (Json.optional Speaker.ofJson? (some (.ofOption (speaker.map Speaker.toJson)))).bind _ = _
    rw [Json.optional_ofOption Speaker.ofJson?_toJson fun _ => Json.noConfusion]
    rfl
  | restorePage lines =>
    show (Line.pageOfJson? (Line.pageToJson lines)).bind _ = _
    rw [Line.pageOfJson?_pageToJson]
    rfl
  | showChoices choices =>
    show (Json.listOf MenuEntry.ofJson? (.arr (choices.map MenuEntry.toJson))).bind _ = _
    rw [Json.listOf_map MenuEntry.ofJson?_toJson]
    rfl
  | _ => rfl

/-! ## Jump entries -/

/-- **A jump entry reads back.** -/
@[simp] theorem JumpEntry.ofJson?_toJson (entry : JumpEntry) :
    JumpEntry.ofJson? entry.toJson = some entry := by
  obtain ⟨source, target, step⟩ := entry
  have hslots : (JumpEntry.toJson ⟨source, target, step⟩).slots ["from", "to", "step"]
      = some [some (.str source), some (.str target), some (.ofNat step)] := rfl
  simp [JumpEntry.ofJson?, hslots, Json.required, Json.asText?]

end Narrative
