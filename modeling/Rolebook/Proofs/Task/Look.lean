import Rolebook.Proofs.Task.Run

/-!
Looking at sessions. A task may begin by looking at who is asking. That leaves the world as it is, and what
the task sees does not depend on how the repository behaves meanwhile; so a run of one task alone is,
but for its beginning, a run of what the task goes on with.
-/

namespace Rolebook

def Action.isLook : Action → Bool
  | .recognize _ | .loadSession _ => true
  | _ => false

variable {Store Answer Result : Type} [Repository Store] {world : World Store}

theorem World.perform_look (world : World Store) {action : Action} (isLook : action.isLook = true)
    (task other : TaskId) (fault : Operation → Option ServiceError) (saveDelay ackDelay : Nat) :
    (world.disturb fault saveDelay ackDelay).perform task action =
      ((world.perform other action).1, world.disturb fault saveDelay ackDelay) := by
  cases action with
  | recognize cookie => rfl
  | loadSession session =>
      cases fails : world.conditions.sessionLoadFails <;> simp [perform, disturb, fails]
  | _ => simp [Action.isLook] at isLook

inductive Program.Leads (world : World Store) : Program Answer → Program Answer → Prop where
  | here {program : Program Answer} : Leads world program program
  | look {action : Action} {next : action.Reply → Program Answer} {last : Program Answer}
      (isLook : action.isLook = true) :
      Leads world (next (world.perform 0 action).1) last → Leads world (.act action next) last

namespace Program.Leads

theorem trans {first second third : Program Answer} (before : first.Leads world second)
    (after : second.Leads world third) : first.Leads world third := by
  induction before with
  | here => exact after
  | look isLook _ inductionHypothesis => exact .look isLook (inductionHypothesis after)

theorem bind {first last : Program Answer} (leads : first.Leads world last)
    (rest : Answer → Program Result) : (first.bind rest).Leads world (last.bind rest) := by
  induction leads with
  | here => exact .here
  | look isLook _ inductionHypothesis => exact .look isLook inductionHypothesis

end Program.Leads

namespace Machine

variable {log : List Deed} {machine : Machine Store Answer}

/-- Alone at work, a task that looks next has not looked yet, or goes on with what it saw. -/
theorem Run.look {action : Action} {next : action.Reply → Program Answer}
    (isLook : action.isLook = true) {fault : Operation → Option ServiceError} {saveDelay ackDelay : Nat}
    (run : (load (world.disturb fault saveDelay ackDelay) [.act action next]).Run log machine) :
    ∃ fault saveDelay ackDelay,
      (log = [] ∧ machine = load (world.disturb fault saveDelay ackDelay) [.act action next]) ∨
        ∃ later, log = ⟨0, action, (world.perform 0 action).1⟩ :: later ∧
          (load (world.disturb fault saveDelay ackDelay)
            [next (world.perform 0 action).1]).Run later machine := by
  induction run with
  | start => exact ⟨_, _, _, .inl ⟨rfl, rfl⟩⟩
  | @move log before after task _ moved inductionHypothesis =>
      obtain ⟨fault, saveDelay, ackDelay, ⟨rfl, rfl⟩ | ⟨later, rfl, continued⟩⟩ := inductionHypothesis
      · cases task with
        | zero =>
            have looked := world.perform_look isLook 0 0 fault saveDelay ackDelay
            simp only [step?, load, Task.step, looked, List.map_cons, List.map_nil,
              List.getElem?_cons_zero, Option.pure_def, Option.bind_eq_bind, Option.bind_some,
              List.set_cons_zero, Option.some.injEq] at moved
            refine ⟨fault, saveDelay, ackDelay, .inr ⟨[], ?_, by rw [← moved]; exact .start⟩⟩
            simp [deed?, load, looked]
        | succ task => simp [step?, load] at moved
      · exact ⟨fault, saveDelay, ackDelay, .inr ⟨_, rfl, continued.move moved⟩⟩
  | disturb fault saveDelay ackDelay _ inductionHypothesis =>
      obtain ⟨_, _, _, ⟨rfl, rfl⟩ | ⟨later, rfl, continued⟩⟩ := inductionHypothesis
      · exact ⟨fault, saveDelay, ackDelay, .inl ⟨rfl, rfl⟩⟩
      · exact ⟨_, _, _, .inr ⟨later, rfl, continued.disturb fault saveDelay ackDelay⟩⟩

inductive Looked (world : World Store) (last : Program Answer) (log : List Deed)
    (machine : Machine Store Answer) : Prop where
  | still {program : Program Answer} (fault : Operation → Option ServiceError) (saveDelay ackDelay : Nat)
      (looks : ∀ deed ∈ log, deed.action.isLook = true)
      (isHere : machine = load (world.disturb fault saveDelay ackDelay) [program]) :
      Looked world last log machine
  | on {later : List Deed} (fault : Operation → Option ServiceError) (saveDelay ackDelay : Nat)
      (looks : ∀ deed ∈ log, deed.action.isLook = true ∨ deed ∈ later)
      (run : (load (world.disturb fault saveDelay ackDelay) [last]).Run later machine) :
      Looked world last log machine

theorem Run.looked_of_disturb {first last : Program Answer} (leads : first.Leads world last)
    {fault : Operation → Option ServiceError} {saveDelay ackDelay : Nat}
    (run : (load (world.disturb fault saveDelay ackDelay) [first]).Run log machine) :
    Looked world last log machine := by
  induction leads generalizing log fault saveDelay ackDelay with
  | here => exact .on fault saveDelay ackDelay (fun deed isDone => .inr isDone) run
  | look isLook _ inductionHypothesis =>
      obtain ⟨fault, saveDelay, ackDelay, ⟨rfl, isHere⟩ | ⟨later, rfl, continued⟩⟩ := run.look isLook
      · exact .still fault saveDelay ackDelay (by simp) isHere
      · cases inductionHypothesis continued with
        | still fault saveDelay ackDelay looks isHere =>
            exact .still fault saveDelay ackDelay (by simpa [isLook] using looks) isHere
        | on fault saveDelay ackDelay looks run =>
            exact .on fault saveDelay ackDelay (by simpa [isLook] using looks) run

theorem Run.looked {first last : Program Answer} (leads : first.Leads world last)
    (run : (load world [first]).Run log machine) : Looked world last log machine :=
  Run.looked_of_disturb leads (show (load (world.disturb world.conditions.fault
    world.conditions.saveDelay world.conditions.ackDelay) [first]).Run log machine from run)

theorem Run.ended {answer : Answer} (run : (load world [.done answer]).Run log machine) :
    ∃ fault saveDelay ackDelay, machine.world = world.disturb fault saveDelay ackDelay ∧
      (machine.tasks = [.running (.done answer)] ∨ machine.tasks = [.finished answer]) := by
  induction run with
  | start => exact ⟨_, _, _, rfl, .inl rfl⟩
  | @move log before after task _ moved inductionHypothesis =>
      obtain ⟨fault, saveDelay, ackDelay, isWorld, isLast | isOver⟩ := inductionHypothesis
      · cases task with
        | zero =>
            simp only [step?, isLast, List.getElem?_cons_zero, Option.pure_def, Option.bind_eq_bind,
              Option.bind_some, Task.step, List.set_cons_zero, Option.some.injEq] at moved
            exact ⟨fault, saveDelay, ackDelay, by rw [← moved]; exact isWorld, .inr (by rw [← moved])⟩
        | succ task => simp [step?, isLast] at moved
      · cases task <;> simp [step?, isOver, Task.step] at moved
  | disturb fault saveDelay ackDelay _ inductionHypothesis =>
      obtain ⟨_, _, _, isWorld, tasks⟩ := inductionHypothesis
      exact ⟨fault, saveDelay, ackDelay, by rw [Machine.disturb, isWorld]; rfl, tasks⟩

end Machine

end Rolebook
