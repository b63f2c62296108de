import Rolebook.Proofs.Cache.Slots
import Rolebook.Proofs.Task.Turn
import Rolebook.Task.Race

/-!
Races are runs. A turn of a task is a stretch of its own moves on the machine, the passing of time leaves the
machine as it is, and so a race of programs comes about in a run of a machine on which all of them are loaded.
-/

namespace Rolebook

variable {Store Answer : Type} [Repository Store]

omit [Repository Store] in
theorem Halt.ofJoin_eq_ite (me : TaskId) (slot : SlotId) (waiting : Task Answer)
    (goOn : World Store → Halt Store Answer) (world : World Store) :
    Halt.ofJoin me slot waiting goOn world =
      if (world.setCache (world.cache.join slot me)).cache.holds slot me
        then goOn (world.setCache (world.cache.join slot me))
        else ⟨waiting, 0, world.setCache (world.cache.join slot me)⟩ :=
  rfl

namespace Machine

variable {machine next last : Machine Store Answer} {me : TaskId} {task : Task Answer}

/-- Moves of one task, and of no other, lead from the one machine to the other. -/
def Reaches (me : TaskId) (machine last : Machine Store Answer) : Prop :=
  ∃ moves log, machine.follow? (List.replicate moves me) = some (log, last)

theorem Reaches.refl (machine : Machine Store Answer) : machine.Reaches me machine :=
  ⟨0, [], rfl⟩

theorem Reaches.head (moved : machine.step? me = some next) (rest : next.Reaches me last) :
    machine.Reaches me last := by
  obtain ⟨moves, log, followed⟩ := rest
  refine ⟨moves + 1, (machine.deed? me).toList ++ log, ?_⟩
  simp [List.replicate_succ, follow?, moved, followed]

theorem Reaches.run (reaches : machine.Reaches me last) : ∃ log, machine.Run log last := by
  obtain ⟨_, log, followed⟩ := reaches
  exact ⟨log, .follow followed⟩

omit [Repository Store] in
def took (machine : Machine Store Answer) (me : TaskId) (halt : Halt Store Answer) :
    Machine Store Answer :=
  ⟨halt.world, machine.tasks.set me halt.task⟩

omit [Repository Store] in
theorem took_eq_self (present : machine.tasks[me]? = some task) (wait : Nat) :
    machine.took me ⟨task, wait, machine.world⟩ = machine := by
  obtain ⟨isThere, rfl⟩ := List.getElem?_eq_some_iff.mp present
  simp [took]

theorem reaches_of_moves {moved : Task Answer} {deeds : List Deed} {world : World Store}
    {halt : Halt Store Answer} (present : machine.tasks[me]? = some task)
    (moves : task.Moves me machine.world deeds moved world)
    (goesOn : ∀ after : Machine Store Answer, after.world = world → after.tasks[me]? = some moved →
      after.Reaches me (after.took me halt)) :
    machine.Reaches me (machine.took me halt) := by
  obtain ⟨isBelow, _⟩ := List.getElem?_eq_some_iff.mp present
  have reached := goesOn ⟨world, machine.tasks.set me moved⟩ rfl (List.getElem?_set_self isBelow)
  rw [took, List.set_set] at reached
  exact reached.head (step?_of_moves present moves).1

theorem reaches_self {wait : Nat} {world : World Store} (isWorld : machine.world = world)
    (present : machine.tasks[me]? = some task) :
    machine.Reaches me (machine.took me ⟨task, wait, world⟩) := by
  subst isWorld
  rw [took_eq_self present]
  exact .refl machine

theorem reaches_ofJoin {role : RoleId} {slot : SlotId} {again : Program Answer}
    {next : SlotId → Program Answer} {goOn : World Store → Halt Store Answer} {world : World Store}
    (isWorld : machine.world = world) (present : machine.tasks[me]? = some (.arriving role slot again next))
    (isPublished : world.cache.published role = some slot)
    (goesOn : ∀ after : Machine Store Answer, after.tasks[me]? = some (.running (next slot)) →
      after.Reaches me (after.took me (goOn after.world))) :
    machine.Reaches me (machine.took me (.ofJoin me slot (.queued role slot again next) goOn world)) := by
  subst isWorld
  refine reaches_of_moves present .join fun joined isWorld isQueued => ?_
  rw [Halt.ofJoin_eq_ite, ← isWorld]
  split
  · have stillPublished : joined.world.cache.published role = some slot := by rwa [isWorld]
    refine reaches_of_moves isQueued (.enter (by assumption) stillPublished) fun entered sameWorld isIn => ?_
    rw [← sameWorld]
    exact goesOn entered isIn
  · exact reaches_self rfl isQueued

/-- A turn of a task that runs a program is made up of moves of the task. -/
theorem reaches_turn_of_program (pause : Pause) (program : Program Answer)
    (present : machine.tasks[me]? = some (.running program)) :
    machine.Reaches me (machine.took me (program.turn pause me machine.world)) := by
  induction program generalizing machine with
  | done answer => exact reaches_of_moves present .answer fun _ isWorld isOver => reaches_self isWorld isOver
  | act action next inductionHypothesis =>
      simp only [Program.turn]
      split
      · exact reaches_self rfl present
      · refine reaches_of_moves present .act fun after isWorld isNext => ?_
        split
        · exact reaches_self isWorld isNext
        · rw [← isWorld]
          exact inductionHypothesis _ isNext
  | lock role next inductionHypothesis =>
      cases opened : machine.world.cache.openSlot role with
      | mk slot cache =>
          simp only [Program.turn, opened]
          refine reaches_of_moves present (.reach opened) fun after isWorld isAiming => ?_
          exact reaches_ofJoin isWorld isAiming (Cache.published_of_openSlot opened)
            fun _ isIn => inductionHypothesis slot isIn
  | lockPublished role absent next absentHypothesis nextHypothesis =>
      simp only [Program.turn]
      split
      · rename_i isAbsent
        refine reaches_of_moves present (.miss isAbsent) fun after isWorld isNext => ?_
        rw [← isWorld]
        exact absentHypothesis isNext
      · rename_i slot isPublished
        refine reaches_of_moves present (.aim isPublished) fun after isWorld isAiming => ?_
        exact reaches_ofJoin isWorld isAiming isPublished fun _ isIn => nextHypothesis slot isIn

/-- A turn of a task is made up of moves of the task. -/
theorem reaches_turn (present : machine.tasks[me]? = some task) :
    machine.Reaches me (machine.took me (task.turn me machine.world)) := by
  cases task with
  | running program => exact reaches_turn_of_program .forTime program present
  | arriving role slot again next =>
      exact reaches_of_moves present .join fun _ isWorld isQueued => reaches_self isWorld isQueued
  | queued role slot again next =>
      simp only [Task.turn]
      split
      · rename_i isFirst
        split
        · rename_i isPublished
          refine reaches_of_moves present (.enter isFirst isPublished) fun after isWorld isIn => ?_
          rw [← isWorld]
          exact reaches_turn_of_program .forTime (next slot) isIn
        · rename_i isWithdrawn
          refine reaches_of_moves present (.retry isFirst isWithdrawn) fun after isWorld isBack => ?_
          change after.Reaches me (after.took me (again.turn .forTime me (machine.world.setCache _)))
          rw [← isWorld]
          exact reaches_turn_of_program .forTime again isBack
      · exact reaches_self rfl present
  | finished answer | dropped => exact reaches_self rfl present

end Machine

namespace Course

variable {course : Course Store Answer}

theorem reaches_turn (course : Course Store Answer) (me : TaskId) :
    course.toMachine.Reaches me (course.turn me).toMachine := by
  unfold turn
  split
  · exact .refl _
  · rename_i task present
    exact Machine.reaches_turn present

omit [Repository Store] in
@[simp]
theorem toMachine_pass (course : Course Store Answer) : course.pass.toMachine = course.toMachine := by
  unfold pass
  split <;> rfl

/-- Whoever takes turns, and however often time passes, the machine runs. -/
theorem runs_settle (turns : Nat) (course : Course Store Answer) :
    ∃ log, course.toMachine.Run log (course.settle turns).toMachine := by
  induction turns generalizing course with
  | zero => exact ⟨[], .start⟩
  | succ turns inductionHypothesis =>
      unfold settle
      split
      · rename_i me rest _
        obtain ⟨log, first⟩ := (reaches_turn { course with ready := rest } me).run
        obtain ⟨later, others⟩ := inductionHypothesis (turn { course with ready := rest } me)
        exact ⟨log ++ later, first.append others⟩
      · split
        · exact ⟨[], .start⟩
        · simpa using inductionHypothesis course.pass

theorem runs_ofFirst (hold : Hold) (world : World Store) (program : Program Answer) :
    ∃ log, (Machine.load world [program]).Run log (ofFirst hold world (.task program)).toMachine :=
  (Machine.reaches_turn_of_program hold.pause program rfl).run

theorem runs_start (course : Course Store Answer) (program : Program Answer) :
    ∃ log, (course.toMachine.spawnAll [program]).Run log (course.start (.task program)).toMachine :=
  (reaches_turn { course with tasks := course.tasks ++ [.running program] } course.tasks.length).run

theorem runs_startAll (course : Course Store Answer) (programs : List (Program Answer)) :
    ∃ log, (course.toMachine.spawnAll programs).Run log
      ((programs.map Job.task).foldl start course).toMachine := by
  induction programs generalizing course with
  | nil => exact ⟨[], by simpa [Machine.spawnAll] using .start⟩
  | cons program rest inductionHypothesis =>
      obtain ⟨log, first⟩ := course.runs_start program
      obtain ⟨later, others⟩ := inductionHypothesis (course.start (.task program))
      refine ⟨log ++ later, ?_⟩
      have together : course.toMachine.spawnAll (program :: rest) =
          (course.toMachine.spawnAll [program]).spawnAll rest := by
        simp [Machine.spawnAll]
      rw [together]
      exact (first.spawnAll rest).append others

end Course

/-- What a race of programs tells of them is what a run tells on a machine with the programs loaded. -/
theorem Race.runs (hold : Hold) (first : Program Answer) (during : List (Program Answer))
    (world : World Store) :
    ∃ log machine, (Machine.load world (first :: during)).Run log machine ∧
      (Race.run hold (.task first) (during.map .task) world).2 = machine.world ∧
      (Race.run hold (.task first) (during.map .task) world).1.first = machine.tasks.head?.bind Task.answer? ∧
      (Race.run hold (.task first) (during.map .task) world).1.during.map Prod.snd =
        machine.tasks.tail.map Task.answer? := by
  let started := (during.map Job.task).foldl Course.start (.ofFirst hold world (.task first))
  let ended := started.settle (Course.turnsFor started.tasks.length)
  obtain ⟨_, toStopped⟩ := Course.runs_ofFirst hold world first
  obtain ⟨_, toStarted⟩ := (Course.ofFirst hold world (.task first)).runs_startAll during
  obtain ⟨_, toEnded⟩ := Course.runs_settle (Course.turnsFor started.tasks.length) started
  have sameTasks : ended.tasks.length = started.tasks.length := toEnded.length_tasks
  have answers : ((started.tasks.zip ended.tasks).tail.map fun tasks => tasks.2.answer?) =
      ended.tasks.tail.map Task.answer? := by
    have sameTail : (started.tasks.zip ended.tasks).tail.map Prod.snd = ended.tasks.tail := by
      rw [List.map_tail, List.map_snd_zip (Nat.le_of_eq sameTasks)]
    rw [← sameTail, List.map_map]
    rfl
  refine ⟨_, ended.toMachine, ((toStopped.spawnAll during).append toStarted).append toEnded, rfl, rfl, ?_⟩
  rw [← answers]
  exact List.map_map

end Rolebook
