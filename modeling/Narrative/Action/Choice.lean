import Narrative.Action
import Narrative.Condition

/-!
# Action/Choice — menus

A menu is a record whose field `Choice` holds the options by key, in the order in which they are
offered.  An option has a statement to run (`Do`), may have a text, and may have a condition; an
option without a statement is skipped.  The options offered are kept in a global until one is
picked, and while they are, the player cannot continue.  Going back closes the menu.
-/

namespace Narrative

/-- **An option of a menu.** -/
structure MenuItem where
  /-- The key by which it is picked. -/
  key : String
  /-- What is shown. -/
  text : String
  /-- The statement to run, as written. -/
  action : Json
  deriving Inhabited

namespace MenuItem

/-- What the host shows of an option. -/
def entry (item : MenuItem) : MenuEntry := ⟨item.key, item.text⟩

/-- Write an option. -/
def toJson (item : MenuItem) : Json :=
  .obj [("key", .str item.key), ("text", .str item.text), ("action", item.action)]

/-- Read an option; a null statement is present all the same. -/
def ofJson? (value : Json) : Option MenuItem := do
  match ← value.slots ["key", "text", "action"] with
  | [key, text, action] =>
    return {
      key := ← Json.required Json.asText? key
      text := ← Json.required Json.asText? text
      action := ← action }
  | _ => none

end MenuItem

namespace Choice

/-- The field that makes a record a menu. -/
def fieldName : String := "Choice"

/-- The global that holds the options offered. -/
def pendingKey : String := "choice.pending"

/-- **The options offered**, in order. -/
def offered (world : World) : List MenuItem :=
  ((world.globals.get? pendingKey).bind (Json.listOf MenuItem.ofJson?)).getD []

/-- Whether a menu waits for the player. -/
def isPending (world : World) : Bool := (world.globals.get? pendingKey).isSome

/-- Close the menu. -/
def close (world : World) : World := world.withGlobals (·.remove pendingKey)

/-- Close the menu and say so, if one is open. -/
def hide (world : World) : World :=
  if isPending world then (close world).emit [.hideChoices] else world

/-! ## Reading a menu -/

/-- The option under a key: its item and its condition, or none when it is to be skipped. -/
def readOption (book : Playbook) (world : World) (key : String) (value : Json) :
    Except Fault (Option (MenuItem × Condition)) :=
  match value with
  | .obj fields =>
    match Fields.get? fields "Do" with
    | none => .ok none
    | some action => do
      let condition ← match Fields.get? fields "Condition" with
        | none => .ok Condition.always
        | some written =>
          match Condition.ofJson? written with
          | some condition => .ok condition
          | none => .error (.rejected ("invalid condition on option \"" ++ key ++ "\""))
      let text ← book.substitute world (((Fields.get? fields "Text").bind Json.asText?).getD key)
      return some (⟨key, text, action⟩, condition)
  | _ => .ok none

/-- Every option that is not skipped, in order; the first fault ends the reading. -/
def readOptions (book : Playbook) (world : World) :
    Fields Json → Except Fault (List (MenuItem × Condition))
  | [] => .ok []
  | (key, value) :: rest => do
    let option ← readOption book world key value
    let options ← readOptions book world rest
    return match option with
      | some option => option :: options
      | none => options

/-- The items whose condition holds. -/
def visible (storage : Storage) (options : List (MenuItem × Condition)) : List MenuItem :=
  (options.filter fun option => option.2.evaluate storage).map (·.1)

/-- Offer items: keep them, and have them shown. -/
def apply (options : List (MenuItem × Condition)) : Play (List Effect) := fun world =>
  let items := visible world.storage options
  .ok [.showChoices (items.map MenuItem.entry)]
    (world.withGlobals (·.set pendingKey (.arr (items.map MenuItem.toJson))))

/-- Close the menu. -/
def revert : Play (List Effect) := fun world =>
  if isPending world then .ok [.hideChoices] (close world) else .ok [] world

/-- The invocation of a menu.  Undone, the statement at the cursor is run again. -/
def invocation (options : List (MenuItem × Condition)) : Invocation :=
  { apply := fun _ => apply options
    didApply := fun _ => pure .wait
    revert := revert
    didRevert := pure .enter }

/-- Read the menu of a record. -/
def invoke (book : Playbook) (world : World) (i : Instruction) : Except Fault Invocation :=
  match (i.fields?.bind (Fields.get? · fieldName)).bind Json.asFields? with
  | none => .error (.rejected "a choice needs an object of options")
  | some options => (readOptions book world options).map invocation

/-- **The action of menus.** -/
def action : Action :=
  { id := "choice"
    handlesRecord := fun fields => Fields.has fields fieldName
    invoke := invoke
    reset := fun _ => Play.update close
    canProceed := fun _ world => (!isPending world, world)
    canRevert := fun _ world => (true, hide world) }

end Choice

end Narrative
