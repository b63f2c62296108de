import Rolebook.World

/-!
Programs of tasks: finite trees of actions, each followed by what to do with its reply, and of locks,
each of which waits for the write gate of a role's slot. A program can be run alone, with every gate
free; how programs of several tasks take turns is the matter of the machine.
-/

namespace Rolebook

inductive Program (Answer : Type) where
  | done (answer : Answer)
  | act (action : Action) (next : action.Reply → Program Answer)
  /-- Waits for the gate of the role's slot, which is made if there is none. -/
  | lock (role : RoleId) (next : SlotId → Program Answer)
  /-- Waits for the gate of the role's slot, or goes on at once if there is none. -/
  | lockPublished (role : RoleId) (absent : Program Answer) (next : SlotId → Program Answer)

namespace Program

variable {Answer Result : Type}

def bind : Program Answer → (Answer → Program Result) → Program Result
  | done answer, rest => rest answer
  | act action next, rest => .act action fun reply => (next reply).bind rest
  | lock role next, rest => .lock role fun slot => (next slot).bind rest
  | lockPublished role absent next, rest =>
      .lockPublished role (absent.bind rest) fun slot => (next slot).bind rest

instance : Monad Program where
  pure := done
  bind := bind

def take (action : Action) : Program action.Reply :=
  .act action done

def enter (role : RoleId) : Program SlotId :=
  .lock role done

def enterPublished (role : RoleId) : Program (Option SlotId) :=
  .lockPublished role (done none) fun slot => done (some slot)

/-- Removes the entry of a role whose gate is held, and lets go of the gate. -/
def evict (role : RoleId) (slot : SlotId) : Program Unit := do
  take (.clear slot)
  take (.withdraw role slot)
  take (.release slot)

/-- Runs a program with no other task at work, so that every gate is free. -/
def run {Store : Type} [Repository Store] (task : TaskId) :
    Program Answer → World Store → Answer × World Store
  | done answer, world => (answer, world)
  | act action next, world =>
      let (reply, after) := world.perform task action
      (next reply).run task after
  | lock role next, world =>
      let (slot, cache) := world.cache.openSlot role
      (next slot).run task { world with cache := cache.join slot task }
  | lockPublished role absent next, world =>
      match world.cache.published role with
      | none => absent.run task world
      | some slot => (next slot).run task { world with cache := world.cache.join slot task }

@[simp]
theorem pure_eq (answer : Answer) : (pure answer : Program Answer) = done answer :=
  rfl

@[simp]
theorem bind_eq (program : Program Answer) (rest : Answer → Program Result) :
    program >>= rest = program.bind rest :=
  rfl

theorem run_bind {Store : Type} [Repository Store] (task : TaskId) (program : Program Answer)
    (rest : Answer → Program Result) (world : World Store) :
    (program.bind rest).run task world =
      (rest (program.run task world).1).run task (program.run task world).2 := by
  induction program generalizing world with
  | done answer => rfl
  | act action next inductionHypothesis => simp [bind, run, inductionHypothesis]
  | lock role next inductionHypothesis => simp [bind, run, inductionHypothesis]
  | lockPublished role absent next absentHypothesis nextHypothesis =>
      simp only [bind, run]
      split <;> simp [absentHypothesis, nextHypothesis]

end Program

end Rolebook
