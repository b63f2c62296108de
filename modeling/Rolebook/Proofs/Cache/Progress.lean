import Rolebook.Proofs.Cache.Gate
import Rolebook.Proofs.Task.Descent
import Rolebook.Proofs.Task.Play

/-!
Progress. As long as some task has not given its answer, some task can move: a gate has a holder as long
as somebody waits for it, and whoever holds a gate runs its program. No schedule goes on for ever, so in
whatever order the tasks move, all have answered in the end.
-/

namespace Rolebook

variable {Store Answer : Type} [Repository Store]

/-- Whatever the order of moves, and however the repository behaves meanwhile, the moves come to an end,
and by then every task has given its answer. -/
inductive Machine.Ends : Machine Store Answer → Prop where
  | intro {machine : Machine Store Answer}
      (isOver : (∀ task, machine.step? task = none) → machine.isFinished = true)
      (goesOn : ∀ fault saveDelay ackDelay task after,
        (machine.disturb fault saveDelay ackDelay).step? task = some after → after.Ends) : machine.Ends

namespace Scene

variable {scene next : Scene Store} {me : TaskId}

def Joined (scene : Scene Store) : Prop :=
  ∀ task role slot, scene.place task = .queued role slot →
    task ∈ (scene.world.cache.slot slot).queue

omit [Repository Store] in
/-- The queues last, but for a task that is not in any queue after the move. -/
theorem Joined.kept (joined : scene.Joined) {next : Scene Store}
    (queues : ∀ task role slot, next.place task = .queued role slot →
      task ∈ (scene.world.cache.slot slot).queue → task ∈ (next.world.cache.slot slot).queue)
    (places : ∀ task role slot, next.place task = .queued role slot →
      scene.place task = .queued role slot) : next.Joined := by
  intro task role slot isQueued
  exact queues task role slot isQueued (joined task role slot (places task role slot isQueued))

variable [LawfulRepository Store]

theorem Joined.act (joined : scene.Joined) {action : Action} {reply : action.Reply}
    {world : World Store} {stance : Stance} {written : List Write} (isInside : scene.place me = .inside)
    (performed : scene.world.perform me action = (reply, world)) :
    (scene.acted me world stance written).Joined := by
  refine joined.kept ?_ fun _ _ _ => id
  intro task role slot isQueued isMember
  change task ∈ (world.cache.slot slot).queue
  by_cases isQuiet : action.isQuiet = true
  · have cache := (scene.world.perform_quiet me isQuiet).2.1
    rw [performed] at cache
    rwa [cache]
  · cases action with
    | publish _ _ | clear _ =>
        obtain ⟨_, rfl⟩ := Prod.mk.inj performed
        simpa using isMember
    | withdraw role found =>
        obtain ⟨_, rfl⟩ := Prod.mk.inj performed
        simpa using isMember
    | release found =>
        obtain ⟨_, rfl⟩ := Prod.mk.inj performed
        have different : task ≠ me := by
          rintro rfl
          change scene.place task = _ at isQueued
          simp [isInside] at isQueued
        simp only [Cache.queue_leave]
        split
        · exact (List.mem_erase_of_ne different).mpr isMember
        · exact isMember
    | create _ | write _ _ | delete _ => rwa [World.perform_write_cache rfl performed]
    | _ => simp [Action.isQuiet] at isQuiet

theorem Joined.move (joined : scene.Joined) (gated : scene.Gated) {deed : Option Deed}
    (moved : scene.Move me deed next) : next.Joined := by
  cases moved with
  | rest => exact joined
  | disturb | miss => exact joined
  | act isInside performed step => exact joined.act isInside performed
  | @aim _ role slot cache isInside isFree opened =>
      have others : ∀ task other found,
          ((scene.setCache cache).setPlace me (.aiming role slot)).place task = .queued other found →
            scene.place task = .queued other found := by
        intro task other found isQueued
        by_cases same : task = me
        · subst same
          simp [setPlace] at isQueued
        · simpa [setPlace, setCache, Function.update_of_ne same] using isQueued
      refine joined.kept ?_ others
      intro task other found isQueued isMember
      change task ∈ (cache.slot found).queue
      rcases Cache.openSlot_cases opened with ⟨_, rfl⟩ | ⟨_, rfl, _, _, slots⟩
      · exact isMember
      · have isMade := (gated.waiting task other found (.inr (others task other found isQueued))).1
        rw [slots, if_neg (Nat.ne_of_lt isMade)]
        exact isMember
  | @join _ role slot isAiming =>
      intro task other found isQueued
      change task ∈ ((scene.world.cache.join slot me).slot found).queue
      rw [Cache.queue_join]
      by_cases same : task = me
      · subst same
        simp only [setPlace, Function.update_self, Place.queued.injEq] at isQueued
        simp [isQueued.2]
      · simp only [setPlace, setCache, Function.update_of_ne same] at isQueued
        have isMember := joined task other found isQueued
        split
        · exact List.mem_append_left _ isMember
        · exact isMember
  | @enter _ role slot isQueued isFirst isPublished =>
      refine joined.kept (fun _ _ _ _ => id) ?_
      intro task other found isThere
      by_cases same : task = me
      · subst same
        simp [setPlace] at isThere
      · simpa [setPlace, setStance, Function.update_of_ne same] using isThere
  | @retry _ role slot isQueued isFirst isWithdrawn =>
      have others : ∀ task other found,
          ((scene.setCache (scene.world.cache.leave slot me)).setPlace me .inside).place task =
            .queued other found → task ≠ me ∧ scene.place task = .queued other found := by
        intro task other found isThere
        by_cases same : task = me
        · subst same
          simp [setPlace] at isThere
        · exact ⟨same, by simpa [setPlace, setCache, Function.update_of_ne same] using isThere⟩
      refine joined.kept ?_ fun task other found isThere => (others task other found isThere).2
      intro task other found isThere isMember
      change task ∈ ((scene.world.cache.leave slot me).slot found).queue
      rw [Cache.queue_leave]
      split
      · exact (List.mem_erase_of_ne (others task other found isThere).1).mpr isMember
      · exact isMember

end Scene

namespace Task

variable {me : TaskId} {world : World Store}

theorem step_running (program : Program Answer) : ((running program).step me world).isSome = true := by
  cases program with
  | lockPublished role absent next =>
      simp only [step]
      split <;> rfl
  | done _ | act _ _ | lock _ _ => rfl

theorem step_queued {role : RoleId} {slot : SlotId} {again : Program Answer}
    {next : SlotId → Program Answer} (isFirst : world.cache.holds slot me = true) :
    ((queued role slot again next).step me world).isSome = true := by
  simp only [step, isFirst, if_true]
  split <;> rfl

end Task

theorem Machine.step_isSome {machine : Machine Store Answer} {task : TaskId} {current : Task Answer}
    (present : machine.tasks[task]? = some current)
    (canMove : (current.step task machine.world).isSome = true) :
    (machine.step? task).isSome = true := by
  obtain ⟨moved, step⟩ := Option.isSome_iff_exists.mp canMove
  simp [step?, present, step]

namespace Machine.Plays

variable {machine : Machine Store Answer} {terms : TaskId → Terms}
  {posts : TaskId → Answer → List Write → Prop} {scene : Scene Store}

omit [Repository Store] in
theorem running_of_grip (plays : machine.Plays terms posts scene) (gated : scene.Gated) {task : TaskId}
    {grip : Grip} (isHolder : (scene.stance task).grip? = some grip) :
    ∃ program, machine.tasks[task]? = some (.running program) := by
  have isBusy : scene.stance task ≠ .idle := by
    intro isIdle
    simp [isIdle, Stance.grip?] at isHolder
  have isInside := (gated.holder task grip isHolder).1
  rw [plays.place, Machine.place] at isInside
  cases located : machine.tasks[task]? with
  | none => exact absurd (plays.others task located).1 isBusy
  | some current =>
      cases current with
      | running program => exact ⟨program, rfl⟩
      | arriving _ _ _ _ | queued _ _ _ _ =>
          rw [located] at isInside
          simp [Task.place] at isInside
      | finished _ | dropped => exact absurd (plays.idle_of_isOver located rfl) isBusy

/-- The first in the queue of a gate can move, whether it holds the gate already or is to take it. -/
theorem first_moves (plays : machine.Plays terms posts scene) (gated : scene.Gated) {task : TaskId}
    {slot : SlotId} (isFirst : (scene.world.cache.slot slot).queue.head? = some task) :
    (machine.step? task).isSome = true := by
  rcases gated.queued slot task (List.mem_of_head? isFirst) with ⟨role, isQueued⟩ | ⟨grip, isGrip, _⟩
  · rw [plays.place, Machine.place] at isQueued
    split at isQueued
    · rename_i current present
      cases current with
      | queued aimed found again next =>
          obtain ⟨rfl, rfl⟩ := Place.queued.inj isQueued
          refine step_isSome present (Task.step_queued ?_)
          rw [← plays.world]
          exact (Cache.holds_iff _).mpr isFirst
      | _ => simp [Task.place] at isQueued
    · simp at isQueued
  · obtain ⟨program, present⟩ := plays.running_of_grip gated isGrip
    exact step_isSome present (Task.step_running program)

/-- As long as some task has not given its answer, some task can move. -/
theorem progress (plays : machine.Plays terms posts scene) (gated : scene.Gated) (joined : scene.Joined)
    (isWhole : machine.IsWhole) (isStuck : ∀ task, machine.step? task = none) :
    machine.isFinished = true := by
  have stuck : ∀ task, (machine.step? task).isSome ≠ true := by simp [isStuck]
  apply List.all_eq_true.mpr
  intro current isMember
  obtain ⟨task, present⟩ := List.mem_iff_getElem?.mp isMember
  cases current with
  | finished answer => rfl
  | dropped => exact (isWhole task _ present).elim
  | running program => exact absurd (step_isSome present (Task.step_running program)) (stuck task)
  | arriving role slot again next => exact absurd (step_isSome present rfl) (stuck task)
  | queued role slot again next =>
      have isQueued : scene.place task = .queued role slot := by
        rw [plays.place, Machine.place, present]
        rfl
      have isMember := joined task role slot isQueued
      cases isFirst : (scene.world.cache.slot slot).queue.head? with
      | none => simp [List.head?_eq_none_iff.mp isFirst] at isMember
      | some first => exact absurd (plays.first_moves gated isFirst) (stuck first)

variable [LawfulRepository Store]

/-- In whatever order the tasks move, all have answered in the end. -/
theorem ends (plays : machine.Plays terms posts scene) (gated : scene.Gated) (joined : scene.Joined)
    (isWhole : machine.IsWhole)
    (expects : ∀ task stance writes action reply, (terms task).expects stance writes action reply) :
    machine.Ends := by
  -- Each move takes the machine further down, and the scene that it plays keeps the gates in order.
  induction machine using wellFounded_below.induction generalizing scene with
  | _ machine inductionHypothesis =>
      apply Machine.Ends.intro (plays.progress gated joined isWhole)
      intro fault saveDelay ackDelay task after moved
      have disturbed : scene.Move task none (scene.disturb fault saveDelay ackDelay) :=
        .disturb fault saveDelay ackDelay
      have stillGated := gated.move disturbed
      have stillJoined := joined.move gated disturbed
      obtain ⟨next, stillPlays, sceneMoved⟩ :=
        (plays.disturb fault saveDelay ackDelay).move (fun _ _ => expects _ _ _ _ _) moved
      have wholeDisturbed : (machine.disturb fault saveDelay ackDelay).IsWhole := isWhole
      obtain ⟨stillWhole, isBelow⟩ := step_below wholeDisturbed moved
      exact inductionHypothesis after isBelow stillPlays (stillGated.move sceneMoved)
        (stillJoined.move stillGated sceneMoved) stillWhole

end Machine.Plays

namespace Machine

omit [Repository Store] in
theorem isWhole_load {world : World Store} {programs : List (Program Answer)} :
    (load world programs).IsWhole := by
  intro task current located
  rw [load, List.getElem?_map, Option.map_eq_some_iff] at located
  obtain ⟨program, _, rfl⟩ := located
  trivial

theorem Run.isWhole {start machine : Machine Store Answer} {log : List Deed}
    (run : start.Run log machine) (isWhole : start.IsWhole) : machine.IsWhole := by
  induction run with
  | start => exact isWhole
  | move _ moved inductionHypothesis => exact (step_below inductionHypothesis moved).1
  | disturb _ _ _ _ inductionHypothesis => exact inductionHypothesis

/-- Tasks that begin while every gate is free all answer in the end. -/
theorem Run.ends [LawfulRepository Store] {world : World Store} {programs : List (Program Answer)}
    (atRest : world.cache.AtRest)
    (ensured : ∀ (task : TaskId) (program : Program Answer), programs[task]? = some program →
      program.Ensures .free (fun _ stance _ => stance = .idle) .idle [])
    {log : List Deed} {machine : Machine Store Answer} (run : (load world programs).Run log machine) :
    machine.Ends := by
  have begins : (load world programs).Plays (fun _ => .free) (fun _ _ _ => True) (Scene.start world) :=
    .load fun task program located =>
      (ensured task program located).mono fun _ _ _ isIdle => ⟨isIdle, trivial⟩
  have isHeld : (Scene.start world).Gated ∧ (Scene.start world).Joined :=
    ⟨.start atRest, by simp [Scene.Joined, Scene.start]⟩
  obtain ⟨last, plays, gated, joined⟩ := run.plays (List.Subset.refl _) (Nat.le_refl _)
    (fun _ scene => scene.Gated ∧ scene.Joined) begins isHeld (fun _ _ _ _ _ _ => trivial)
    fun _ _ _ _ _ held moved _ _ => ⟨held.1.move moved, held.2.move held.1 moved⟩
  exact plays.ends gated joined (run.isWhole isWhole_load) fun _ _ _ _ _ => trivial

end Machine

end Rolebook
