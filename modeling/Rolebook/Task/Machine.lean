import Rolebook.Task.Program

/-!
Several tasks over one world. A task that wants a gate first takes hold of the role's slot, then joins
the queue of its gate, and once it is first there looks whether the slot is still the published one; if
not, it starts over. A step of the machine is one such move of one task, or one action, and any task
that can move may be next. A task may be dropped at any time, which lets go of its gates.
-/

namespace Rolebook

inductive Task (Answer : Type) where
  | running (program : Program Answer)
  /-- Has the slot in hand and has not joined its queue. The first program starts over. -/
  | arriving (role : RoleId) (slot : SlotId) (again : Program Answer) (next : SlotId → Program Answer)
  | queued (role : RoleId) (slot : SlotId) (again : Program Answer) (next : SlotId → Program Answer)
  | finished (answer : Answer)
  | dropped

namespace Task

variable {Store Answer : Type} [Repository Store]

def answer? : Task Answer → Option Answer
  | finished answer => some answer
  | _ => none

def isFinished (task : Task Answer) : Bool :=
  task.answer?.isSome

/-- The next move of a task; none if it waits for a gate or is over. -/
def step (me : TaskId) (world : World Store) : Task Answer → Option (Task Answer × World Store)
  | running (.done answer) => some (finished answer, world)
  | running (.act action next) =>
      let (reply, after) := world.perform me action
      some (running (next reply), after)
  | running (.lock role next) =>
      let (slot, cache) := world.cache.openSlot role
      some (arriving role slot (.lock role next) next, { world with cache })
  | running (.lockPublished role absent next) =>
      match world.cache.published role with
      | none => some (running absent, world)
      | some slot => some (arriving role slot (.lockPublished role absent next) next, world)
  | arriving role slot again next =>
      some (queued role slot again next, { world with cache := world.cache.join slot me })
  | queued role slot again next =>
      if world.cache.holds slot me then
        if world.cache.published role = some slot then some (running (next slot), world)
        else some (running again, { world with cache := world.cache.leave slot me })
      else none
  | finished _ | dropped => none

end Task

/-- Tasks at work over one world; a task's place in the list is its identity. -/
structure Machine (Store Answer : Type) where
  world : World Store
  tasks : List (Task Answer)

namespace Machine

variable {Store Answer : Type} [Repository Store]

def step? (machine : Machine Store Answer) (task : TaskId) : Option (Machine Store Answer) := do
  let current ← machine.tasks[task]?
  let (moved, world) ← current.step task machine.world
  return ⟨world, machine.tasks.set task moved⟩

def drop (machine : Machine Store Answer) (task : TaskId) : Machine Store Answer :=
  { world := { machine.world with cache := machine.world.cache.leaveAll task }
    tasks := machine.tasks.set task .dropped }

end Machine

end Rolebook
