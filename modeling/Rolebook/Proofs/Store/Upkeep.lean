import Rolebook.Proofs.Store.Agreement

/-!
A store in memory through a run of calls. Whatever an empty store is told, and however it answers, it
stays in order: its roles are filed and named as they should be, and nobody has a role that is not stored.
What is refused is told from what is stored, and a refusal changes nothing.
-/

namespace Rolebook

theorem eq_error_of_map {Value Result : Type} {outcome : Except ServiceError Value}
    {answer : Value → Result} {error : ServiceError} (failed : outcome.map answer = .error error) :
    outcome = .error error := by
  cases outcome with
  | error other => exact congrArg _ (Except.error.inj failed)
  | ok value => cases failed

def FailsAs {Value : Type} (outcome : Except ServiceError Value) (kind : ErrorKind) : Prop :=
  ∃ error, outcome = .error error ∧ error.kind = kind

@[simp]
theorem failsAs_error {Value : Type} {error : ServiceError} {kind : ErrorKind} :
    FailsAs (.error error : Except ServiceError Value) kind ↔ error.kind = kind := by
  simp [FailsAs]

@[simp]
theorem not_failsAs_ok {Value : Type} {value : Value} {kind : ErrorKind} :
    ¬ FailsAs (.ok value : Except ServiceError Value) kind := by
  simp [FailsAs]

theorem Role.make_of_blank {name : String} (isBlank : Text.blank name = true) (id : RoleId)
    (description : Option String) (isSuper : Bool) (rules : RuleSet) :
    make id name description isSuper rules = .error .blankText :=
  dif_pos (Text.blank_iff.mp isBlank)

theorem Role.exists_make {name : String} (isNamed : ¬ Text.blank name = true) (id : RoleId)
    (description : Option String) (isSuper : Bool) (rules : RuleSet) :
    ∃ role, make id name description isSuper rules = .ok role :=
  ⟨_, dif_neg (isNamed ∘ Text.blank_iff.mpr)⟩

namespace MemoryStore

variable {store : MemoryStore}

/-- A sound store whose names are trimmed and not empty, and in which no actor has two roles. -/
structure Orderly (store : MemoryStore) : Prop extends store.Sound where
  named : ∀ entry ∈ store.roles, entry.2.name ≠ "" ∧ Text.trim entry.2.name = entry.2.name
  oneRoleEach : (store.assignments.map Prod.fst).Nodup

theorem orderly_empty : empty.Orderly where
  toSound := sound_empty
  named := by simp [empty]
  oneRoleEach := by simp [empty]

theorem assignments_create_snd (store : MemoryStore) (id : RoleId) (role : NewRole) :
    (store.create id role).2.assignments = store.assignments := by
  unfold create
  split
  · rfl
  · split <;> rfl

theorem assignments_save_snd (store : MemoryStore) (id : RoleId) (rules : RuleSet) :
    (store.save id rules).2.assignments = store.assignments := by
  unfold save
  split <;> rfl

theorem assignments_delete_snd (store : MemoryStore) (id : RoleId) :
    (store.delete id).2.assignments = store.assignments := by
  unfold delete
  split
  · rfl
  · split <;> rfl

theorem assign_eq_error {actor : ActorId} {id : RoleId} {error : ServiceError}
    (failed : (store.assign actor id).1 = .error error) : (store.assign actor id).2 = store := by
  cases located : store.role? id with
  | none => rw [assign_of_missing located]
  | some role =>
      rw [assign_of_stored located] at failed
      cases failed

theorem oneRoleEach_assign (oneRoleEach : (store.assignments.map Prod.fst).Nodup) (actor : ActorId)
    (id : RoleId) : ((store.assign actor id).2.assignments.map Prod.fst).Nodup := by
  cases located : store.role? id with
  | none => rwa [assign_of_missing located]
  | some role =>
      rw [assign_of_stored located, List.map_append, List.nodup_append]
      refine ⟨oneRoleEach.sublist (List.filter_sublist.map _), by simp, ?_⟩
      simp

/-- One call leaves a store in order. -/
theorem Orderly.carryOut (orderly : store.Orderly) (call : StoreCall) :
    (call.carryOut store).2.Orderly where
  toSound := orderly.toSound.carryOut call
  named entry _ := ⟨entry.2.named, entry.2.trimmed⟩
  oneRoleEach := by
    cases call with
    | find id => exact orderly.oneRoleEach
    | list => exact orderly.oneRoleEach
    | create id role => exact (assignments_create_snd store id role).symm ▸ orderly.oneRoleEach
    | save id rules => exact (assignments_save_snd store id rules).symm ▸ orderly.oneRoleEach
    | delete id => exact (assignments_delete_snd store id).symm ▸ orderly.oneRoleEach
    | assign actor id => exact oneRoleEach_assign orderly.oneRoleEach actor id

theorem Orderly.runAll (orderly : store.Orderly) (calls : List StoreCall) :
    (StoreCall.runAll store calls).2.Orderly := by
  induction calls generalizing store with
  | nil => exact orderly
  | cons call rest inductionHypothesis => exact inductionHypothesis (orderly.carryOut call)

theorem create_failsAs_conflict_iff {id : RoleId} {role : NewRole} :
    FailsAs (store.create id role).1 .conflict ↔ store.Taken role.name := by
  by_cases isTaken : store.Taken role.name
  · simp [create_of_taken isTaken, isTaken, ServiceError.kind]
  · cases made : role.withId id with
    | error error =>
        obtain ⟨_, rfl⟩ := Role.make_eq_error made
        simp [create_of_error isTaken made, isTaken, ServiceError.kind]
    | ok created => simp [create_of_ok isTaken made, isTaken]

theorem create_failsAs_validation_iff {id : RoleId} {role : NewRole} (isFree : ¬ store.Taken role.name) :
    FailsAs (store.create id role).1 .validation ↔ Text.blank role.name = true := by
  by_cases isBlank : Text.blank role.name = true
  · have isNotMade := Role.make_of_blank isBlank id role.description role.isSuper role.rules
    simp [create_of_error isFree isNotMade, isBlank, ServiceError.kind]
  · obtain ⟨created, isMade⟩ := Role.exists_make isBlank id role.description role.isSuper role.rules
    simp [create_of_ok isFree isMade, isBlank]

theorem exists_create {role : NewRole} (isFree : ¬ store.Taken role.name)
    (isNamed : ¬ Text.blank role.name = true) (id : RoleId) :
    ∃ created, (store.create id role).1 = .ok created ∧ created.name = Text.trim role.name ∧
      (store.create id role).2.role? id = some created := by
  obtain ⟨created, isMade⟩ := Role.exists_make isNamed id role.description role.isSuper role.rules
  refine ⟨created, ?_, (Role.make_eq_ok isMade).2, ?_⟩
  · rw [create_of_ok isFree isMade]
  · rw [create_of_ok isFree isMade, role?_put, if_pos rfl]

theorem delete_eq_ok_iff {id : RoleId} :
    (store.delete id).1 = .ok () ↔ (store.role? id).isSome ∧ ¬ store.Held id := by
  by_cases isHeld : store.Held id
  · simp [delete_of_held isHeld, isHeld]
  · cases located : store.role? id with
    | none => simp [delete_of_missing isHeld located]
    | some role => simp [delete_of_stored isHeld located, isHeld]

namespace Sound

variable (sound : store.Sound)

include sound

theorem mem_listing_iff {role : Role} :
    role ∈ store.listing ↔ ∃ id, store.role? id = some role := by
  simp only [listing, Role.inListingOrder, List.mem_mergeSort, List.mem_map, sound.role?_eq_some_iff]
  constructor
  · rintro ⟨entry, isStored, rfl⟩
    exact ⟨entry.1, isStored⟩
  · rintro ⟨id, isStored⟩
    exact ⟨(id, role), isStored, rfl⟩

theorem nodup_listing : (store.listing.map Role.id).Nodup := by
  have sameIds : (store.roles.map Prod.snd).map Role.id = store.roles.map Prod.fst := by
    rw [List.map_map]
    exact List.map_congr_left sound.filed
  have isPermuted : store.listing.Perm (store.roles.map Prod.snd) := List.mergeSort_perm ..
  rw [(isPermuted.map Role.id).nodup_iff, sameIds]
  exact sound.distinctIds

end Sound

end MemoryStore

namespace StoreCall

/-- A call that is answered with an error leaves the store as it was. -/
theorem carryOut_of_error {store : MemoryStore} {call : StoreCall} {error : ServiceError}
    (failed : (call.carryOut store).1 = .error error) : (call.carryOut store).2 = store := by
  cases call with
  | find id => rfl
  | list => rfl
  | create id role =>
      exact MemoryStore.create_eq_error (Prod.ext (eq_error_of_map failed) rfl)
  | save id rules =>
      exact MemoryStore.save_eq_error (Prod.ext (eq_error_of_map failed) rfl)
  | delete id =>
      exact MemoryStore.delete_eq_error (Prod.ext (eq_error_of_map failed) rfl)
  | assign actor id => exact MemoryStore.assign_eq_error (eq_error_of_map failed)

end StoreCall

namespace MemoryStore

/-- How a store answers what it may refuse, and what it lists. -/
structure AnswersInOrder (store : MemoryStore) : Prop where
  conflict : ∀ id role, FailsAs (store.create id role).1 .conflict ↔ store.Taken role.name
  validation : ∀ id role, ¬ store.Taken role.name →
    (FailsAs (store.create id role).1 .validation ↔ Text.blank role.name = true)
  created : ∀ id role, ¬ store.Taken role.name → ¬ Text.blank role.name = true →
    ∃ created, (store.create id role).1 = .ok created ∧ created.name = Text.trim role.name ∧
      (store.create id role).2.role? id = some created
  deleted : ∀ id, (store.delete id).1 = .ok () ↔ (store.role? id).isSome ∧ ¬ store.Held id
  listed : (StoreCall.list.carryOut store).1 = .ok (.listed store.listing)
  listsAll : ∀ role, role ∈ store.listing ↔ ∃ id, store.role? id = some role
  listsOnce : (store.listing.map Role.id).Nodup
  refused : ∀ (call : StoreCall) error, (call.carryOut store).1 = .error error →
    (call.carryOut store).2 = store

theorem Sound.answersInOrder {store : MemoryStore} (sound : store.Sound) : store.AnswersInOrder where
  conflict _ _ := create_failsAs_conflict_iff
  validation _ _ isFree := create_failsAs_validation_iff isFree
  created id _ isFree isNamed := exists_create isFree isNamed id
  deleted _ := delete_eq_ok_iff
  listed := rfl
  listsAll _ := sound.mem_listing_iff
  listsOnce := sound.nodup_listing
  refused _ _ failed := StoreCall.carryOut_of_error failed

/-- A store that starts out empty is in order after any calls, and answers the next one accordingly. -/
theorem orderly_after (calls : List StoreCall) :
    (StoreCall.runAll empty calls).2.Orderly ∧ (StoreCall.runAll empty calls).2.AnswersInOrder := by
  have orderly := orderly_empty.runAll calls
  exact ⟨orderly, orderly.toSound.answersInOrder⟩

end MemoryStore

end Rolebook
