import Rolebook.Role

/-!
The role cache. Each cached role has a published slot with a snapshot, which readers see without
waiting, and a write gate, at which tasks queue in order of arrival. Slots are never reused: a slot that
was withdrawn is not published again, and the next task makes a fresh one.
-/

namespace Rolebook

/-- The place of a task among those at work. -/
abbrev TaskId := Nat

/-- The number of a slot, counted from zero over the life of the cache. -/
abbrev SlotId := Nat

/-- A slot: what readers see, and the tasks at the write gate, of which the first holds it. -/
structure Slot where
  snapshot : Option Role
  queue : List TaskId

structure Cache where
  /-- The slot published under a role. -/
  published : RoleId → Option SlotId
  slot : SlotId → Slot
  made : Nat

namespace Cache

def empty : Cache :=
  ⟨fun _ => none, fun _ => ⟨none, []⟩, 0⟩

def get (cache : Cache) (role : RoleId) : Option Role :=
  (cache.published role).bind fun slot => (cache.slot slot).snapshot

def modify (cache : Cache) (slot : SlotId) (change : Slot → Slot) : Cache :=
  { cache with
    slot := fun other => if other = slot then change (cache.slot other) else cache.slot other }

/-- The published slot of a role, which is made if there is none. -/
def openSlot (cache : Cache) (role : RoleId) : SlotId × Cache :=
  match cache.published role with
  | some slot => (slot, cache)
  | none =>
      (cache.made,
        { cache.modify cache.made fun _ => ⟨none, []⟩ with
          published := fun other => if other = role then some cache.made else cache.published other
          made := cache.made + 1 })

def setSnapshot (cache : Cache) (slot : SlotId) (snapshot : Option Role) : Cache :=
  cache.modify slot fun current => { current with snapshot }

/-- Takes the slot out of the map, unless another is published under the role. -/
def withdraw (cache : Cache) (role : RoleId) (slot : SlotId) : Cache :=
  if cache.published role = some slot then
    { cache with published := fun other => if other = role then none else cache.published other }
  else cache

def join (cache : Cache) (slot : SlotId) (task : TaskId) : Cache :=
  cache.modify slot fun current => { current with queue := current.queue ++ [task] }

/-- Takes a task out of the queue, so that the next one holds the gate if it held it. -/
def leave (cache : Cache) (slot : SlotId) (task : TaskId) : Cache :=
  cache.modify slot fun current => { current with queue := current.queue.erase task }

def leaveAll (cache : Cache) (task : TaskId) : Cache :=
  { cache with
    slot := fun other =>
      { cache.slot other with queue := (cache.slot other).queue.erase task } }

/-- Whether a task holds the gate of a slot. -/
def holds (cache : Cache) (slot : SlotId) (task : TaskId) : Bool :=
  (cache.slot slot).queue.head? == some task

end Cache

end Rolebook
