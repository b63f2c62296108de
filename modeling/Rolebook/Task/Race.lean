import Rolebook.Task.Machine

/-!
Races. One task is stopped where its repository call is under way; others are then started one after
the other, each going as far as it can; then the first is let go, and all go on until they are over. A
turn of a task is a run of consecutive moves of the machine, up to where it waits for a gate or for time
to pass. Tasks take turns in the order in which they were called, and time passes only when nobody is
called.
-/

namespace Rolebook

/-- Where the first task of a race is stopped: after a role was read, before rules are written, or after
they were written. -/
inductive Hold where
  | find
  | save
  | ack
  deriving DecidableEq

/-- Where a task breaks off its turn of its own accord. -/
structure Pause where
  isBefore : Action → Bool
  isAfter : (action : Action) → action.Reply → Bool

def Pause.forTime : Pause where
  isBefore _ := false
  isAfter action _ := action.duration ≠ 0

namespace Hold

def stopsBefore : Hold → Action → Bool
  | save, .write _ _ => true
  | _, _ => false

/-- Whether a task stops once the action is answered. A look-up or a write that failed does not stop it. -/
def stopsAfter : Hold → (action : Action) → action.Reply → Bool
  | find, .find _, .ok _ => true
  | ack, .write _ _, .ok _ => true
  | _, _, _ => false

/-- The first task of a race has nobody to let by before it is stopped, so it goes on while time passes. -/
def pause (hold : Hold) : Pause :=
  ⟨hold.stopsBefore, hold.stopsAfter⟩

end Hold

variable {Store Answer : Type} [Repository Store]

/-- Where a turn ends: with the task, for how long it waits for time to pass, and with the world. -/
structure Halt (Store Answer : Type) where
  task : Task Answer
  wait : Nat
  world : World Store

/-- A task with a slot in hand joins the queue of its gate, and goes on at once if it is first there. -/
def Halt.ofJoin (me : TaskId) (slot : SlotId) (waiting : Task Answer)
    (goOn : World Store → Halt Store Answer) (world : World Store) : Halt Store Answer :=
  let joined := { world with cache := world.cache.join slot me }
  if joined.cache.holds slot me then goOn joined else ⟨waiting, 0, joined⟩

/-- A turn of a task that runs a program: it moves until it is over, waits for a gate or breaks off. -/
def Program.turn (pause : Pause) (me : TaskId) : Program Answer → World Store → Halt Store Answer
  | .done answer, world => ⟨.finished answer, 0, world⟩
  | .act action next, world =>
      if pause.isBefore action then ⟨.running (.act action next), 0, world⟩
      else
        let (reply, after) := world.perform me action
        if pause.isAfter action reply then ⟨.running (next reply), action.duration, after⟩
        else (next reply).turn pause me after
  | .lock role next, world =>
      let (slot, cache) := world.cache.openSlot role
      .ofJoin me slot (.queued role slot (.lock role next) next) ((next slot).turn pause me)
        { world with cache }
  | .lockPublished role absent next, world =>
      match world.cache.published role with
      | none => absent.turn pause me world
      | some slot =>
          .ofJoin me slot (.queued role slot (.lockPublished role absent next) next)
            ((next slot).turn pause me) world

namespace Task

/-- A turn of a task. One that reaches the head of the queue of a withdrawn slot starts over. -/
def turn (me : TaskId) (world : World Store) : Task Answer → Halt Store Answer
  | running program => program.turn .forTime me world
  | arriving role slot again next =>
      ⟨queued role slot again next, 0, { world with cache := world.cache.join slot me }⟩
  | queued role slot again next =>
      if world.cache.holds slot me then
        if world.cache.published role = some slot then (next slot).turn .forTime me world
        else again.turn .forTime me { world with cache := world.cache.leave slot me }
      else ⟨queued role slot again next, 0, world⟩
  | finished answer => ⟨finished answer, 0, world⟩
  | dropped => ⟨dropped, 0, world⟩

def isCalled (me : TaskId) (world : World Store) : Task Answer → Bool
  | queued _ slot _ _ => world.cache.holds slot me
  | _ => false

end Task

/-- Something to start in a race: a program, or a change of the world that no task waits for. -/
inductive Job (Store Answer : Type) where
  | now (effect : World Store → Answer × World Store)
  | task (program : Program Answer)

structure Course (Store Answer : Type) extends Machine Store Answer where
  /-- Who takes the next turns, in order. -/
  ready : List TaskId
  /-- Who waits for time to pass, in the order in which they began, and how long each still waits. -/
  asleep : List (TaskId × Nat)

namespace Course

def ofFirst (hold : Hold) (world : World Store) : Job Store Answer → Course Store Answer
  | .now effect =>
      let (answer, after) := effect world
      { world := after, tasks := [.finished answer], ready := [], asleep := [] }
  | .task program =>
      let taken := program.turn hold.pause 0 world
      { world := taken.world
        tasks := [taken.task]
        ready := if taken.task.isFinished then [] else [0]
        asleep := [] }

/-- Gives a task a turn. Whoever is at the head of a queue after it is called. -/
def turn (course : Course Store Answer) (me : TaskId) : Course Store Answer :=
  match course.tasks[me]? with
  | none => course
  | some task =>
      let taken := task.turn me course.world
      let tasks := course.tasks.set me taken.task
      let called := tasks.zipIdx.filterMap fun (other, id) =>
        if other.isCalled id taken.world && !course.ready.contains id then some id else none
      { world := taken.world
        tasks
        ready := course.ready ++ called
        asleep := if taken.wait = 0 then course.asleep else course.asleep ++ [(me, taken.wait)] }

def start (course : Course Store Answer) : Job Store Answer → Course Store Answer
  | .now effect =>
      let (answer, world) := effect course.world
      { course with world, tasks := course.tasks ++ [.finished answer] }
  | .task program =>
      turn { course with tasks := course.tasks ++ [Task.running program] } course.tasks.length

def pass (course : Course Store Answer) : Course Store Answer :=
  match (course.asleep.map Prod.snd).min? with
  | none => course
  | some shortest =>
      { course with
        ready := course.ready ++ (course.asleep.filter fun entry => entry.2 = shortest).map Prod.fst
        asleep := (course.asleep.filter fun entry => entry.2 ≠ shortest).map fun entry =>
          (entry.1, entry.2 - shortest) }

/-- Gives turns until every task is over, at most the given number, in which the passing of time counts
as one. -/
def settle : Nat → Course Store Answer → Course Store Answer
  | 0, course => course
  | turns + 1, course =>
      match course.ready with
      | me :: rest => settle turns (turn { course with ready := rest } me)
      | [] => if course.asleep.isEmpty then course else settle turns course.pass

/-- Turns enough for the given number of tasks. A task goes through three gates at most, waits for time
twice at most and withdraws three slots at most, and a withdrawn slot sends each other task back once. -/
def turnsFor (tasks : Nat) : Nat :=
  4 * (tasks + 2) * (tasks + 2)

end Course

/-- What became of a race. Each later task is reported with whether it had to wait when it was started. -/
structure Race (Answer : Type) where
  held : Bool
  first : Option Answer
  during : List (Bool × Option Answer)

/-- Runs a race: the first job, held where it first reaches the point, and the jobs started meanwhile. -/
def Race.run (hold : Hold) (first : Job Store Answer) (during : List (Job Store Answer))
    (world : World Store) : Race Answer × World Store :=
  let stopped := Course.ofFirst hold world first
  let started := during.foldl Course.start stopped
  let ended := started.settle (Course.turnsFor started.tasks.length)
  ({ held := !stopped.ready.isEmpty
     first := ended.tasks.head?.bind Task.answer?
     during := (started.tasks.zip ended.tasks).tail.map fun (before, after) =>
       (!before.isFinished, after.answer?) }, ended.world)

end Rolebook
