import Rolebook.Proofs.Task.Perform

/-!
Runs on record. A program that is run alone takes its actions one after the other, and the record of a run
lists them. What a program never does, whatever it is told, is on no record of it.
-/

namespace Rolebook

def Action.sparesSessions : Action → Bool
  | .recognize _ | .loadSession _ | .removeSession _ | .emptySession _ => false
  | _ => true

def Action.isHarmless (action : Action) : Bool :=
  !action.isWrite && action.sparesSessions

theorem Action.isHarmless_iff {action : Action} :
    action.isHarmless = true ↔ action.isWrite = false ∧ action.sparesSessions = true := by
  simp [isHarmless]

namespace Program

variable {Store Answer Result : Type} [Repository Store]

/-- Runs a program with no other task at work, and lists the actions that it takes. -/
def record (task : TaskId) : Program Answer → World Store → List Action × Answer × World Store
  | .done answer, world => ([], answer, world)
  | .act action next, world =>
      let (reply, after) := world.perform task action
      let (later, outcome) := (next reply).record task after
      (action :: later, outcome)
  | .lock role next, world =>
      let (slot, cache) := world.cache.openSlot role
      (next slot).record task { world with cache := cache.join slot task }
  | .lockPublished role absent next, world =>
      match world.cache.published role with
      | none => absent.record task world
      | some slot => (next slot).record task { world with cache := world.cache.join slot task }

@[simp]
theorem record_snd (task : TaskId) (program : Program Answer) (world : World Store) :
    (program.record task world).2 = program.run task world := by
  induction program generalizing world with
  | done answer => rfl
  | act action next inductionHypothesis => simp [record, run, inductionHypothesis]
  | lock role next inductionHypothesis => simp [record, run, inductionHypothesis]
  | lockPublished role absent next absentHypothesis nextHypothesis =>
      cases isPublished : world.cache.published role <;>
        simp [record, run, isPublished, absentHypothesis, nextHypothesis]

def actions (task : TaskId) (program : Program Answer) (world : World Store) : List Action :=
  (program.record task world).1

theorem record_eq (task : TaskId) (program : Program Answer) (world : World Store) :
    program.record task world = (program.actions task world, program.run task world) :=
  Prod.ext rfl (record_snd task program world)

theorem record_bind (task : TaskId) (program : Program Answer) (rest : Answer → Program Result)
    (world : World Store) :
    (program.bind rest).record task world =
      let (earlier, answer, reached) := program.record task world
      let (later, outcome) := (rest answer).record task reached
      (earlier ++ later, outcome) := by
  induction program generalizing world with
  | done answer => rfl
  | act action next inductionHypothesis => simp [bind, record, inductionHypothesis]
  | lock role next inductionHypothesis => simp [bind, record, inductionHypothesis]
  | lockPublished role absent next absentHypothesis nextHypothesis =>
      cases isPublished : world.cache.published role <;>
        simp [bind, record, isPublished, absentHypothesis, nextHypothesis]

/-- Whatever it is told, a program only takes actions of a kind. -/
def Takes (kind : Action → Bool) : Program Answer → Prop
  | .done _ => True
  | .act action next => kind action = true ∧ ∀ reply, (next reply).Takes kind
  | .lock _ next => ∀ slot, (next slot).Takes kind
  | .lockPublished _ absent next => absent.Takes kind ∧ ∀ slot, (next slot).Takes kind

namespace Takes

variable {kind other : Action → Bool} {program : Program Answer}

omit [Repository Store] in
theorem bind {rest : Answer → Program Result} (first : program.Takes kind)
    (continued : ∀ answer, (rest answer).Takes kind) : (program.bind rest).Takes kind := by
  induction program with
  | done answer => exact continued answer
  | act action next inductionHypothesis =>
      exact ⟨first.1, fun reply => inductionHypothesis reply (first.2 reply)⟩
  | lock role next inductionHypothesis => exact fun slot => inductionHypothesis slot (first slot)
  | lockPublished role absent next absentHypothesis nextHypothesis =>
      exact ⟨absentHypothesis first.1, fun slot => nextHypothesis slot (first.2 slot)⟩

omit [Repository Store] in
theorem mono (takes : program.Takes kind)
    (implied : ∀ action, kind action = true → other action = true) : program.Takes other := by
  induction program with
  | done answer => trivial
  | act action next inductionHypothesis =>
      exact ⟨implied action takes.1, fun reply => inductionHypothesis reply (takes.2 reply)⟩
  | lock role next inductionHypothesis => exact fun slot => inductionHypothesis slot (takes slot)
  | lockPublished role absent next absentHypothesis nextHypothesis =>
      exact ⟨absentHypothesis takes.1, fun slot => nextHypothesis slot (takes.2 slot)⟩

theorem of_mem_actions {task : TaskId} {world : World Store} (takes : program.Takes kind) {action : Action}
    (isTaken : action ∈ program.actions task world) : kind action = true := by
  unfold actions at isTaken
  induction program generalizing world with
  | done answer => cases isTaken
  | act first next inductionHypothesis =>
      simp only [record, List.mem_cons] at isTaken
      rcases isTaken with rfl | isLater
      · exact takes.1
      · exact inductionHypothesis _ (takes.2 _) isLater
  | lock role next inductionHypothesis => exact inductionHypothesis _ (takes _) isTaken
  | lockPublished role absent next absentHypothesis nextHypothesis =>
      simp only [record] at isTaken
      split at isTaken
      · exact absentHypothesis takes.1 isTaken
      · exact nextHypothesis _ (takes.2 _) isTaken

/-- What no action of a kind changes, and no gate, a program leaves alone that only takes such actions. -/
theorem run_keeps {Value : Type} {view : World Store → Value} {task : TaskId} (takes : program.Takes kind)
    (apartFromCache : ∀ world cache, view { world with cache } = view world)
    (kept : ∀ world action, kind action = true → view (world.perform task action).2 = view world)
    (world : World Store) : view (program.run task world).2 = view world := by
  induction program generalizing world with
  | done answer => rfl
  | act action next inductionHypothesis =>
      exact (inductionHypothesis _ (takes.2 _) _).trans (kept world action takes.1)
  | lock role next inductionHypothesis =>
      exact (inductionHypothesis _ (takes _) _).trans (apartFromCache world _)
  | lockPublished role absent next absentHypothesis nextHypothesis =>
      simp only [run]
      split
      · exact absentHypothesis takes.1 world
      · exact (nextHypothesis _ (takes.2 _) _).trans (apartFromCache world _)

end Takes

end Program

namespace World

variable {Store : Type} [Repository Store]

omit [Repository Store] in
theorem sessions_change {Answer : Type} (world : World Store) (operation : Operation)
    (effect : Store → Except ServiceError Answer × Store) :
    (world.change operation effect).2.sessions = world.sessions := by
  unfold change
  split <;> rfl

theorem perform_sessions (world : World Store) (me : TaskId) {action : Action}
    (spares : action.sparesSessions = true) :
    (world.perform me action).2.sessions = world.sessions := by
  cases action with
  | create role =>
      have kept := world.sessions_change .create fun store =>
        Repository.create store (world.identify (world.created + 1)) role
      simp only [perform, createRole]
      split <;> rename_i isOutcome <;> rw [isOutcome] at kept <;> exact kept
  | write role rules => exact sessions_change world .save _
  | delete role => exact sessions_change world .delete _
  | recognize _ | loadSession _ | removeSession _ | emptySession _ => cases spares
  | _ => rfl

end World

namespace Program.Takes

variable {Store Answer : Type} [Repository Store] {program : Program Answer} {task : TaskId}

theorem sessions_run (takes : program.Takes Action.sparesSessions) (world : World Store) :
    (program.run task world).2.sessions = world.sessions :=
  takes.run_keeps (fun _ _ => rfl) (fun world _ spares => world.perform_sessions task spares) world

theorem store_run (takes : program.Takes Action.isHarmless) (world : World Store) :
    (program.run task world).2.store = world.store :=
  takes.run_keeps (fun _ _ => rfl)
    (fun world _ isHarmless => world.perform_store task (Action.isHarmless_iff.mp isHarmless).1) world

end Program.Takes

end Rolebook
