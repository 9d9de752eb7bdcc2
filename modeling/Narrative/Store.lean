import Narrative.Fault
import Narrative.Json.Decode

/-!
# Store — where saves and preferences are kept

A store keeps values under keys.  It lists its keys in order, and says why it cannot do something.
Storing and removing change a store in place, also where they fail half-way; `Store.set` and
`Store.remove` answer with the store that they leave where they succeed.  The simplest store is a
table in memory.
-/

namespace Narrative

/-- **A store of values under keys.** -/
class Store (σ : Type) where
  /-- The value under a key. -/
  get : σ → String → Except StoreFault Json
  /-- Store a value under a key. A failure keeps what was done before it. -/
  write : String → Json → EStateM StoreFault σ Unit
  /-- The keys, in order. -/
  keys : σ → List String
  /-- Remove a key; a missing one is a fault. -/
  erase : String → EStateM StoreFault σ Unit
  /-- Whether a key is listed. -/
  contains : σ → String → Bool

namespace Store

variable {σ : Type}

/-- The store that a change leaves, if it succeeds. -/
def changed (change : EStateM StoreFault σ Unit) (store : σ) : Except StoreFault σ :=
  match change store with
  | .ok _ after => .ok after
  | .error fault _ => .error fault

/-- **A change as a whole**: where it fails, it leaves the store that it found. -/
def wholly (change : σ → Except StoreFault σ) : EStateM StoreFault σ Unit := fun store =>
  match change store with
  | .ok after => .ok () after
  | .error fault => .error fault store

@[simp] theorem changed_wholly (change : σ → Except StoreFault σ) (store : σ) :
    changed (wholly change) store = change store := by
  rw [changed, wholly]
  cases change store <;> rfl

variable [Store σ]

/-- **Store a value under a key.** -/
def set (store : σ) (key : String) (value : Json) : Except StoreFault σ :=
  changed (write key value) store

/-- **Remove a key.** -/
def remove (store : σ) (key : String) : Except StoreFault σ := changed (erase key) store

end Store

/-- **A store in memory.** -/
structure MemoryStore where
  /-- The values. -/
  values : Table Json
  deriving Inhabited

namespace MemoryStore

/-- Nothing stored. -/
def empty : MemoryStore := ⟨Table.empty⟩

instance : Store MemoryStore where
  get store key :=
    match store.values.get? key with
    | some value => .ok value
    | none => .error (.notFound key)
  write key value := fun store => .ok () ⟨store.values.insert key value⟩
  keys store := store.values.keys
  erase key := fun store =>
    if store.values.has key then .ok () ⟨store.values.erase key⟩
    else .error (.notFound key) store
  contains store key := store.values.has key

end MemoryStore

end Narrative
