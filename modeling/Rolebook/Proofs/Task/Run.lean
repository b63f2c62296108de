import Rolebook.Task.Machine

/-!
Runs of the machine. In a run any task that can move may be next, and between moves the repository may
begin or cease to fail and may become slower or faster. A task that has not moved yet has not begun, so
the tasks of a run may begin at any time. The log of a run tells what the tasks did, in order.
-/

namespace Rolebook

/-- An action that a task took, with the reply. -/
structure Deed where
  task : TaskId
  action : Action
  reply : action.Reply

def World.disturb {Store : Type} (world : World Store) (fault : Operation → Option ServiceError)
    (saveDelay ackDelay : Nat) : World Store :=
  { world with conditions := { world.conditions with fault, saveDelay, ackDelay } }

def World.setCache {Store : Type} (world : World Store) (cache : Cache) : World Store :=
  { world with cache }

namespace Machine

variable {Store Answer : Type} [Repository Store]

def load (world : World Store) (programs : List (Program Answer)) : Machine Store Answer :=
  ⟨world, programs.map .running⟩

def isFinished (machine : Machine Store Answer) : Bool :=
  machine.tasks.all Task.isFinished

omit [Repository Store] in
theorem answered {machine : Machine Store Answer} (isFinished : machine.isFinished = true) {task : TaskId}
    {current : Task Answer} (present : machine.tasks[task]? = some current) :
    ∃ answer, current = .finished answer := by
  have isAnswered := List.all_eq_true.mp isFinished current (List.mem_of_getElem? present)
  cases current <;> simp_all [Task.isFinished, Task.answer?]

def spawnAll (machine : Machine Store Answer) (programs : List (Program Answer)) :
    Machine Store Answer :=
  { machine with tasks := machine.tasks ++ programs.map .running }

/-- What a task does in its next move, if that is an action. -/
def deed? (machine : Machine Store Answer) (task : TaskId) : Option Deed :=
  match machine.tasks[task]? with
  | some (.running (.act action _)) => some ⟨task, action, (machine.world.perform task action).1⟩
  | _ => none

def disturb (machine : Machine Store Answer) (fault : Operation → Option ServiceError)
    (saveDelay ackDelay : Nat) : Machine Store Answer :=
  { machine with world := machine.world.disturb fault saveDelay ackDelay }

inductive Run (start : Machine Store Answer) : List Deed → Machine Store Answer → Prop where
  | start : Run start [] start
  | move {log : List Deed} {before after : Machine Store Answer} {task : TaskId} :
      Run start log before → before.step? task = some after →
      Run start (log ++ (before.deed? task).toList) after
  | disturb {log : List Deed} {before : Machine Store Answer}
      (fault : Operation → Option ServiceError) (saveDelay ackDelay : Nat) :
      Run start log before → Run start log (before.disturb fault saveDelay ackDelay)

theorem Run.append {first second third : Machine Store Answer} {earlier later : List Deed}
    (before : Run first earlier second) (after : Run second later third) :
    Run first (earlier ++ later) third := by
  induction after with
  | start => simpa using before
  | move _ moved inductionHypothesis =>
      rw [← List.append_assoc]
      exact .move inductionHypothesis moved
  | disturb fault saveDelay ackDelay _ inductionHypothesis =>
      exact .disturb fault saveDelay ackDelay inductionHypothesis

theorem present_of_deed? {machine : Machine Store Answer} {task : TaskId} {deed : Deed}
    (isDeed : machine.deed? task = some deed) :
    deed = ⟨task, deed.action, (machine.world.perform task deed.action).1⟩ ∧
      ∃ next, machine.tasks[task]? = some (.running (.act deed.action next)) := by
  unfold deed? at isDeed
  split at isDeed
  · rename_i action next present
    obtain rfl := Option.some.inj isDeed
    exact ⟨rfl, next, present⟩
  · cases isDeed

theorem deed?_task {machine : Machine Store Answer} {task : TaskId} {deed : Deed}
    (isDeed : machine.deed? task = some deed) : deed.task = task :=
  congrArg Deed.task (present_of_deed? isDeed).1

/-- Tasks that begin later may as well have been there from the beginning. -/
theorem Run.spawnAll {start machine : Machine Store Answer} {log : List Deed}
    (run : start.Run log machine) (programs : List (Program Answer)) :
    (start.spawnAll programs).Run log (machine.spawnAll programs) := by
  induction run with
  | start => exact .start
  | @move log before after task _ moved inductionHypothesis =>
      obtain ⟨current, present, rest⟩ := Option.bind_eq_some_iff.mp moved
      obtain ⟨⟨next, world⟩, step, isAfter⟩ := Option.bind_eq_some_iff.mp rest
      obtain rfl := Option.some.inj isAfter
      obtain ⟨isBelow, _⟩ := List.getElem?_eq_some_iff.mp present
      have stillPresent : (before.spawnAll programs).tasks[task]? = some current := by
        rw [Machine.spawnAll, List.getElem?_append_left isBelow, present]
      have stillMoved : (before.spawnAll programs).step? task =
          some (Machine.spawnAll ⟨world, before.tasks.set task next⟩ programs) := by
        unfold step?
        rw [stillPresent]
        simp [Machine.spawnAll, step, List.set_append_left _ _ isBelow]
      have sameDeed : (before.spawnAll programs).deed? task = before.deed? task := by
        rw [deed?, stillPresent, deed?, present]
        rfl
      rw [← sameDeed]
      exact .move inductionHypothesis stillMoved
  | disturb fault saveDelay ackDelay _ inductionHypothesis =>
      exact .disturb fault saveDelay ackDelay inductionHypothesis

/-- Wherever the log of a run is split at a deed, the run is split at the move in which the deed was done. -/
theorem Run.splitAt {start machine : Machine Store Answer} {log earlier later : List Deed} {deed : Deed}
    (run : start.Run log machine) (isSplit : log = earlier ++ deed :: later) :
    ∃ before after, start.Run earlier before ∧ before.deed? deed.task = some deed ∧
      before.step? deed.task = some after ∧ after.Run later machine := by
  induction run generalizing earlier later with
  | start => simp at isSplit
  | @move log before after task run moved inductionHypothesis =>
      cases isDeed : before.deed? task with
      | none =>
          obtain ⟨first, second, toFirst, isFirst, step, continued⟩ :=
            inductionHypothesis (by simpa [isDeed] using isSplit)
          exact ⟨first, second, toFirst, isFirst, step, by simpa [isDeed] using continued.move moved⟩
      | some last =>
          rw [isDeed, Option.toList_some] at isSplit
          rcases List.eq_nil_or_concat later with rfl | ⟨others, final, rfl⟩
          · obtain ⟨rfl, isLast⟩ := List.append_inj' isSplit rfl
            obtain rfl : last = deed := by simpa using isLast
            obtain rfl := deed?_task isDeed
            exact ⟨before, after, run, isDeed, moved, .start⟩
          · rw [List.concat_eq_append, ← List.cons_append, ← List.append_assoc] at isSplit
            obtain ⟨isEarlier, isLast⟩ := List.append_inj' isSplit rfl
            obtain rfl : last = final := by simpa using isLast
            obtain ⟨first, second, toFirst, isFirst, step, continued⟩ := inductionHypothesis isEarlier
            refine ⟨first, second, toFirst, isFirst, step, ?_⟩
            simpa [isDeed] using continued.move moved
  | disturb fault saveDelay ackDelay _ inductionHypothesis =>
      obtain ⟨first, second, toFirst, isFirst, step, continued⟩ := inductionHypothesis isSplit
      exact ⟨first, second, toFirst, isFirst, step, continued.disturb fault saveDelay ackDelay⟩

/-- What the log of a run tells was done in one of its moves. -/
theorem Run.split {start machine : Machine Store Answer} {log : List Deed} {deed : Deed}
    (run : start.Run log machine) (isDone : deed ∈ log) :
    ∃ earlier later before after, log = earlier ++ deed :: later ∧ start.Run earlier before ∧
      before.deed? deed.task = some deed ∧ before.step? deed.task = some after ∧
      after.Run later machine := by
  obtain ⟨earlier, later, isSplit⟩ := List.append_of_mem isDone
  obtain ⟨before, after, halves⟩ := run.splitAt isSplit
  exact ⟨earlier, later, before, after, isSplit, halves⟩

def follow? (machine : Machine Store Answer) : List TaskId → Option (List Deed × Machine Store Answer)
  | [] => some ([], machine)
  | task :: rest => do
      let after ← machine.step? task
      let (log, last) ← after.follow? rest
      return ((machine.deed? task).toList ++ log, last)

theorem Run.follow {machine last : Machine Store Answer} {log : List Deed} {schedule : List TaskId}
    (followed : machine.follow? schedule = some (log, last)) : machine.Run log last := by
  induction schedule generalizing machine log with
  | nil =>
      obtain ⟨rfl, rfl⟩ := Prod.mk.inj (Option.some.inj followed)
      exact .start
  | cons task rest inductionHypothesis =>
      obtain ⟨after, moved, others⟩ := Option.bind_eq_some_iff.mp followed
      obtain ⟨⟨later, reached⟩, continued, isLast⟩ := Option.bind_eq_some_iff.mp others
      obtain ⟨rfl, rfl⟩ := Prod.mk.inj (Option.some.inj isLast)
      have first : machine.Run (machine.deed? task).toList after := by
        simpa using Run.start.move moved
      exact first.append (inductionHypothesis continued)

theorem Run.get {machine : Machine Store Answer} {schedule : List TaskId}
    (isPossible : (machine.follow? schedule).isSome = true) :
    machine.Run ((machine.follow? schedule).get isPossible).1
      ((machine.follow? schedule).get isPossible).2 :=
  .follow (Option.some_get isPossible).symm

end Machine

end Rolebook
