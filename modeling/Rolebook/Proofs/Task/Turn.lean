import Rolebook.Proofs.Cache.Interruption

/-!
Turns. All that can happen to a machine, a case for each thing that a task may do next, and for what happens
to tasks from outside. What lasts through every turn lasts through a run, however tasks are interrupted.
-/

namespace Rolebook

variable {Store Answer : Type} [Repository Store]

/-- What a task does next: the actions taken, what is left of the task, and the world afterwards. -/
inductive Task.Moves (me : TaskId) (world : World Store) :
    Task Answer → List Deed → Task Answer → World Store → Prop where
  | answer {answer : Answer} : Moves me world (.running (.done answer)) [] (.finished answer) world
  | act {action : Action} {next : action.Reply → Program Answer} :
      Moves me world (.running (.act action next)) [⟨me, action, (world.perform me action).1⟩]
        (.running (next (world.perform me action).1)) (world.perform me action).2
  | reach {role : RoleId} {slot : SlotId} {cache : Cache} {next : SlotId → Program Answer}
      (opened : world.cache.openSlot role = (slot, cache)) :
      Moves me world (.running (.lock role next)) [] (.arriving role slot (.lock role next) next)
        (world.setCache cache)
  | aim {role : RoleId} {slot : SlotId} {absent : Program Answer} {next : SlotId → Program Answer}
      (isPublished : world.cache.published role = some slot) :
      Moves me world (.running (.lockPublished role absent next)) []
        (.arriving role slot (.lockPublished role absent next) next) world
  | miss {role : RoleId} {absent : Program Answer} {next : SlotId → Program Answer}
      (isAbsent : world.cache.published role = none) :
      Moves me world (.running (.lockPublished role absent next)) [] (.running absent) world
  | join {role : RoleId} {slot : SlotId} {again : Program Answer} {next : SlotId → Program Answer} :
      Moves me world (.arriving role slot again next) [] (.queued role slot again next)
        (world.setCache (world.cache.join slot me))
  | enter {role : RoleId} {slot : SlotId} {again : Program Answer} {next : SlotId → Program Answer}
      (isFirst : world.cache.holds slot me = true)
      (isPublished : world.cache.published role = some slot) :
      Moves me world (.queued role slot again next) [] (.running (next slot)) world
  | retry {role : RoleId} {slot : SlotId} {again : Program Answer} {next : SlotId → Program Answer}
      (isFirst : world.cache.holds slot me = true)
      (isWithdrawn : world.cache.published role ≠ some slot) :
      Moves me world (.queued role slot again next) [] (.running again)
        (world.setCache (world.cache.leave slot me))

namespace Machine

/-- One thing that happens to a machine, with the actions that are taken. -/
inductive Turn (before : Machine Store Answer) : List Deed → Machine Store Answer → Prop where
  | move {me : TaskId} {current moved : Task Answer} {deeds : List Deed} {world : World Store}
      (present : before.tasks[me]? = some current)
      (moves : current.Moves me before.world deeds moved world) :
      Turn before deeds ⟨world, before.tasks.set me moved⟩
  | drop (task : TaskId) : Turn before [] (before.drop task)
  | disturb (fault : Operation → Option ServiceError) (saveDelay ackDelay : Nat) :
      Turn before [] (before.disturb fault saveDelay ackDelay)
  | land (store : Store) : Turn before [] { before with world := before.world.setStore store }

theorem moves_of_step {before after : Machine Store Answer} {me : TaskId}
    (stepped : before.step? me = some after) :
    ∃ current moved world, before.tasks[me]? = some current ∧
      current.Moves me before.world (before.deed? me).toList moved world ∧
        after = ⟨world, before.tasks.set me moved⟩ := by
  unfold step? at stepped
  obtain ⟨current, present, rest⟩ := Option.bind_eq_some_iff.mp stepped
  obtain ⟨⟨next, world⟩, step, isAfter⟩ := Option.bind_eq_some_iff.mp rest
  obtain rfl := Option.some.inj isAfter
  refine ⟨current, next, world, present, ?_, rfl⟩
  unfold deed?
  rw [present]
  cases current with
  | running program =>
      cases program with
      | done answer =>
          obtain ⟨rfl, rfl⟩ := Prod.mk.inj (Option.some.inj step)
          exact .answer
      | act action next =>
          obtain ⟨rfl, rfl⟩ := Prod.mk.inj (Option.some.inj step)
          exact .act
      | lock role next =>
          cases opened : before.world.cache.openSlot role with
          | mk slot cache =>
              simp only [Task.step, opened] at step
              obtain ⟨rfl, rfl⟩ := Prod.mk.inj (Option.some.inj step)
              exact .reach opened
      | lockPublished role absent next =>
          simp only [Task.step] at step
          split at step
          · obtain ⟨rfl, rfl⟩ := Prod.mk.inj (Option.some.inj step)
            exact .miss (by assumption)
          · obtain ⟨rfl, rfl⟩ := Prod.mk.inj (Option.some.inj step)
            exact .aim (by assumption)
  | arriving role slot again next =>
      obtain ⟨rfl, rfl⟩ := Prod.mk.inj (Option.some.inj step)
      exact .join
  | queued role slot again next =>
      simp only [Task.step] at step
      split at step
      · split at step
        · obtain ⟨rfl, rfl⟩ := Prod.mk.inj (Option.some.inj step)
          exact .enter (by assumption) (by assumption)
        · obtain ⟨rfl, rfl⟩ := Prod.mk.inj (Option.some.inj step)
          exact .retry (by assumption) (by assumption)
      · simp at step
  | finished answer => simp [Task.step] at step
  | dropped => simp [Task.step] at step

theorem turn_of_step {before after : Machine Store Answer} {me : TaskId}
    (stepped : before.step? me = some after) : before.Turn (before.deed? me).toList after := by
  obtain ⟨current, moved, world, present, moves, rfl⟩ := moves_of_step stepped
  exact .move present moves

/-- A task that is about to take an action is about to take it until it does. -/
theorem Run.awaits {start machine : Machine Store Answer} {log : List Deed} (run : start.Run log machine)
    {task : TaskId} {action : Action} {next : action.Reply → Program Answer}
    (present : start.tasks[task]? = some (.running (.act action next))) :
    machine.tasks[task]? = some (.running (.act action next)) ∨
      ∃ done rest before after, log = done ++ ⟨task, action, (before.world.perform task action).1⟩ :: rest ∧
        start.Run done before ∧ before.tasks[task]? = some (.running (.act action next)) ∧
          before.step? task = some after ∧ after.Run rest machine := by
  induction run with
  | start => exact .inl present
  | @move log before after me toBefore stepped inductionHypothesis =>
      rcases inductionHypothesis with
        isStill | ⟨done, rest, first, second, rfl, toFirst, wasThere, step, continued⟩
      · obtain ⟨current, moved, world, isCurrent, moves, rfl⟩ := moves_of_step stepped
        by_cases isMine : me = task
        · subst isMine
          refine .inr ⟨log, [], before, _, ?_, toBefore, isStill, stepped, .start⟩
          simp [deed?, isStill]
        · exact .inl ((List.getElem?_set_ne isMine).trans isStill)
      · exact .inr ⟨done, rest ++ (before.deed? me).toList, first, second, by simp, toFirst, wasThere, step,
          continued.move stepped⟩
  | disturb fault saveDelay ackDelay _ inductionHypothesis =>
      rcases inductionHypothesis with
        isStill | ⟨done, rest, first, second, rfl, toFirst, wasThere, step, continued⟩
      · exact .inl isStill
      · exact .inr ⟨done, rest, first, second, rfl, toFirst, wasThere, step,
          continued.disturb fault saveDelay ackDelay⟩

theorem Run.length_tasks {start machine : Machine Store Answer} {log : List Deed}
    (run : start.Run log machine) : machine.tasks.length = start.tasks.length := by
  induction run with
  | start => rfl
  | move _ stepped inductionHypothesis =>
      obtain ⟨_, _, _, _, _, rfl⟩ := moves_of_step stepped
      simpa using inductionHypothesis
  | disturb _ _ _ _ inductionHypothesis => exact inductionHypothesis

theorem step?_of_moves {before : Machine Store Answer} {me : TaskId} {current moved : Task Answer}
    {deeds : List Deed} {world : World Store} (present : before.tasks[me]? = some current)
    (moves : current.Moves me before.world deeds moved world) :
    before.step? me = some ⟨world, before.tasks.set me moved⟩ ∧ (before.deed? me).toList = deeds := by
  unfold step? deed?
  rw [present]
  cases moves with
  | answer | act | join => exact ⟨rfl, rfl⟩
  | reach opened => simp [Task.step, opened, World.setCache]
  | aim isPublished => simp [Task.step, isPublished]
  | miss isAbsent => simp [Task.step, isAbsent]
  | enter isFirst isPublished => simp [Task.step, isFirst, isPublished]
  | retry isFirst isWithdrawn => simp [Task.step, isFirst, isWithdrawn, World.setCache]

variable {mayLand : Machine Store Answer → RoleId → Prop} {start before after : Machine Store Answer}
  {log deeds : List Deed}

/-- Every run that leads to the one machine leads on to the other. -/
def Continues (mayLand : Machine Store Answer → RoleId → Prop) (before : Machine Store Answer)
    (deeds : List Deed) (after : Machine Store Answer) : Prop :=
  ∀ first log, RoughRun mayLand first log before → RoughRun mayLand first (log ++ deeds) after

theorem RoughRun.continues (run : RoughRun mayLand before deeds after) :
    Continues mayLand before deeds after := by
  intro first log reached
  induction run with
  | start => simpa using reached
  | move _ moved inductionHypothesis =>
      rw [← List.append_assoc]
      exact .move inductionHypothesis moved
  | disturb fault saveDelay ackDelay _ inductionHypothesis =>
      exact .disturb fault saveDelay ackDelay inductionHypothesis
  | drop present _ inductionHypothesis => exact .drop present inductionHypothesis
  | land isAllowed lands _ inductionHypothesis => exact .land isAllowed lands inductionHypothesis

/-- What holds at the start of a run and lasts through each turn holds at its end. -/
theorem RoughRun.lasts {motive : List Deed → Machine Store Answer → Prop}
    (run : RoughRun mayLand start log after) (holds : motive [] start)
    (turns : ∀ log before deeds after, motive log before → before.Turn deeds after →
      Continues mayLand before deeds after → motive (log ++ deeds) after) : motive log after := by
  induction run with
  | start => exact holds
  | move _ moved inductionHypothesis =>
      refine turns _ _ _ _ inductionHypothesis (turn_of_step moved) ?_
      exact fun _ _ reached => .move reached moved
  | @disturb log before fault saveDelay ackDelay _ inductionHypothesis =>
      have continued := turns _ _ _ _ inductionHypothesis (.disturb fault saveDelay ackDelay)
        fun _ _ reached => by simpa using .disturb fault saveDelay ackDelay reached
      simpa using continued
  | @drop log before task current present _ inductionHypothesis =>
      have continued := turns _ _ _ _ inductionHypothesis (.drop task)
        fun _ _ reached => by simpa using .drop present reached
      simpa using continued
  | @land log before role store isAllowed lands _ inductionHypothesis =>
      have continued := turns _ _ _ _ inductionHypothesis (.land store)
        fun _ _ reached => by simpa using .land isAllowed lands reached
      simpa using continued

end Machine

end Rolebook
