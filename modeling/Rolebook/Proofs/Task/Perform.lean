import Rolebook.Proofs.Store.Laws
import Rolebook.Proofs.Task.Stance

/-!
What the actions of a task do to the world. A quiet action leaves the cache and the stored roles alone,
a write leaves the cache alone, and a write that is answered by an error has not written.
-/

namespace Rolebook.World

variable {Store : Type} [Repository Store]

theorem perform_quiet (world : World Store) (me : TaskId) {action : Action}
    (isQuiet : action.isQuiet = true) :
    (world.perform me action).2.store = world.store ∧
      (world.perform me action).2.cache = world.cache ∧
      (world.perform me action).2.identify = world.identify ∧
      (world.perform me action).2.created = world.created := by
  cases action with
  | loadSession session =>
      simp only [perform]
      split <;> exact ⟨rfl, rfl, rfl, rfl⟩
  | removeSession session =>
      simp only [perform]
      split <;> exact ⟨rfl, rfl, rfl, rfl⟩
  | publish _ _ | clear _ | withdraw _ _ | release _ | create _ | write _ _ | delete _ =>
      simp [Action.isQuiet] at isQuiet
  | _ => exact ⟨rfl, rfl, rfl, rfl⟩

theorem perform_store (world : World Store) (me : TaskId) {action : Action}
    (isRead : action.isWrite = false) : (world.perform me action).2.store = world.store := by
  by_cases isQuiet : action.isQuiet = true
  · exact (world.perform_quiet me isQuiet).1
  · cases action with
    | publish _ _ | clear _ | withdraw _ _ | release _ => rfl
    | create _ | write _ _ | delete _ => simp [Action.isWrite] at isRead
    | _ => simp [Action.isQuiet] at isQuiet

omit [Repository Store] in
theorem change_frame {Answer : Type} {world after : World Store} {operation : Operation}
    {effect : Store → Except ServiceError Answer × Store} {outcome : Except ServiceError Answer}
    (changed : world.change operation effect = (outcome, after)) :
    after.cache = world.cache ∧ after.identify = world.identify ∧ after.created = world.created := by
  unfold change at changed
  split at changed
  · obtain ⟨_, rfl⟩ := Prod.mk.inj changed
    exact ⟨rfl, rfl, rfl⟩
  · obtain ⟨_, rfl⟩ := Prod.mk.inj changed
    exact ⟨rfl, rfl, rfl⟩

omit [Repository Store] in
theorem change_ok {Answer : Type} {world after : World Store} {operation : Operation}
    {effect : Store → Except ServiceError Answer × Store} {answer : Answer}
    (changed : world.change operation effect = (.ok answer, after)) :
    effect world.store = (.ok answer, after.store) := by
  unfold change at changed
  split at changed
  · simp at changed
  · obtain ⟨isAnswer, isAfter⟩ := Prod.mk.inj changed
    rw [← isAfter, ← isAnswer]

omit [Repository Store] in
/-- A write that is answered by an error was kept from the repository or refused by it. -/
theorem change_error {Answer : Type} {world after : World Store} {operation : Operation}
    {effect : Store → Except ServiceError Answer × Store} {error : ServiceError}
    (changed : world.change operation effect = (.error error, after)) :
    after.store = world.store ∨ effect world.store = (.error error, after.store) := by
  unfold change at changed
  split at changed
  · exact .inl (by rw [← (Prod.mk.inj changed).2])
  · obtain ⟨isAnswer, isAfter⟩ := Prod.mk.inj changed
    rw [← isAfter, ← isAnswer]
    exact .inr rfl

theorem perform_write (world : World Store) (me : TaskId) (role : RoleId) (rules : RuleSet) :
    world.perform me (.write role rules) =
      world.change .save fun store => Repository.save store role rules :=
  rfl

theorem perform_delete (world : World Store) (me : TaskId) (role : RoleId) :
    world.perform me (.delete role) =
      world.change .delete fun store => Repository.delete store role :=
  rfl

theorem perform_create_ok {world after : World Store} {me : TaskId} {role : NewRole} {created : Role}
    (performed : world.perform me (.create role) = (.ok created, after)) :
    Repository.create world.store (world.identify (world.created + 1)) role =
        (.ok created, after.store) ∧
      after.cache = world.cache ∧ after.identify = world.identify ∧
      after.created = world.created + 1 := by
  simp only [perform, createRole] at performed
  split at performed
  · rename_i found changed outcome
    obtain ⟨isRole, rfl⟩ := Prod.mk.inj performed
    obtain rfl := Except.ok.inj isRole
    obtain ⟨cache, identify, count⟩ := change_frame outcome
    exact ⟨change_ok outcome, cache, identify, congrArg (· + 1) count⟩
  · simp at performed

section Lawful

variable [LawfulRepository Store]

theorem perform_create_error {world after : World Store} {me : TaskId} {role : NewRole}
    {error : ServiceError} (performed : world.perform me (.create role) = (.error error, after)) :
    after.store = world.store ∧ after.cache = world.cache ∧ after.identify = world.identify ∧
      after.created = world.created := by
  simp only [perform, createRole] at performed
  split at performed
  · simp at performed
  · rename_i cause changed outcome
    obtain ⟨_, rfl⟩ := Prod.mk.inj performed
    refine ⟨?_, change_frame outcome⟩
    rcases change_error outcome with kept | refused
    · exact kept
    · exact LawfulRepository.create_error refused

theorem perform_write_error {world after : World Store} {me : TaskId} {role : RoleId} {rules : RuleSet}
    {error : ServiceError} (performed : world.perform me (.write role rules) = (.error error, after)) :
    after.store = world.store := by
  rw [perform_write] at performed
  rcases change_error performed with kept | refused
  · exact kept
  · exact LawfulRepository.save_error refused

theorem perform_delete_error {world after : World Store} {me : TaskId} {role : RoleId}
    {error : ServiceError} (performed : world.perform me (.delete role) = (.error error, after)) :
    after.store = world.store := by
  rw [perform_delete] at performed
  rcases change_error performed with kept | refused
  · exact kept
  · exact LawfulRepository.delete_error refused

theorem store_of_step {world after : World Store} {me : TaskId} {before stance : Stance}
    {action : Action} {reply : action.Reply} (performed : world.perform me action = (reply, after))
    (step : before.Step action reply stance []) : after.store = world.store := by
  by_cases isRead : action.isWrite = false
  · have store := world.perform_store me isRead
    rwa [performed] at store
  · generalize isUnwritten : ([] : List Write) = written at step
    cases step with
    | createFailed => exact (perform_create_error performed).1
    | saveFailed => exact perform_write_error performed
    | deleteFailed => exact perform_delete_error performed
    | create | save | delete => cases isUnwritten
    | quiet isQuiet => cases action <;> simp [Action.isQuiet, Action.isWrite] at isQuiet isRead
    | _ => simp [Action.isWrite] at isRead

end Lawful

theorem perform_write_cache [LawfulRepository Store] {world after : World Store} {me : TaskId}
    {action : Action} {reply : action.Reply} (isWrite : action.isWrite = true)
    (performed : world.perform me action = (reply, after)) : after.cache = world.cache := by
  cases action with
  | create role =>
      cases reply with
      | ok created => exact (perform_create_ok performed).2.1
      | error error => exact (perform_create_error performed).2.1
  | write role rules =>
      rw [perform_write] at performed
      exact (change_frame performed).1
  | delete role =>
      rw [perform_delete] at performed
      exact (change_frame performed).1
  | _ => simp [Action.isWrite] at isWrite

theorem perform_find_ok {world after : World Store} {me : TaskId} {role : RoleId} {found : Option Role}
    (performed : world.perform me (.find role) = (.ok found, after)) :
    Repository.find world.store role = .ok found := by
  have asked : world.ask .find (Repository.find world.store role) = .ok found :=
    (Prod.mk.inj performed).1
  unfold ask at asked
  split at asked
  · simp at asked
  · exact asked

theorem created_le_perform (world : World Store) (me : TaskId) (action : Action) :
    world.created ≤ (world.perform me action).2.created := by
  by_cases isQuiet : action.isQuiet = true
  · exact Nat.le_of_eq (world.perform_quiet me isQuiet).2.2.2.symm
  · cases action with
    | create role =>
        simp only [perform, createRole]
        split
        · rename_i outcome
          exact Nat.le_succ_of_le (Nat.le_of_eq (change_frame outcome).2.2.symm)
        · rename_i outcome
          exact Nat.le_of_eq (change_frame outcome).2.2.symm
    | write role rules =>
        cases performed : world.perform me (.write role rules) with
        | mk outcome after =>
            rw [perform_write] at performed
            exact Nat.le_of_eq (change_frame performed).2.2.symm
    | delete role =>
        cases performed : world.perform me (.delete role) with
        | mk outcome after =>
            rw [perform_delete] at performed
            exact Nat.le_of_eq (change_frame performed).2.2.symm
    | publish _ _ | clear _ | withdraw _ _ | release _ => exact Nat.le_refl _
    | _ => simp [Action.isQuiet] at isQuiet

end Rolebook.World
