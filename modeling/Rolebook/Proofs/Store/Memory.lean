import Mathlib.Data.List.Nodup
import Rolebook.Proofs.Store.Laws

/-!
What a store in memory keeps up. Each role is filed under its own identifier, no two roles have one name
up to the case of letters, and whoever has a role has a stored one. Every operation keeps this, whatever
it answers.
-/

namespace Rolebook

theorem find?_key_eq_some_iff {Entry Key : Type} [DecidableEq Key] {key : Entry → Key}
    {entries : List Entry} (distinct : (entries.map key).Nodup) {sought : Key} {entry : Entry} :
    (entries.find? fun other => key other == sought) = some entry ↔
      entry ∈ entries ∧ key entry = sought := by
  constructor
  · intro located
    exact ⟨List.mem_of_find?_eq_some located, by simpa using List.find?_some located⟩
  · rintro ⟨isListed, rfl⟩
    cases located : entries.find? fun other => key other == key entry with
    | none => exact absurd (List.find?_eq_none.mp located entry isListed) (by simp)
    | some other =>
        have sameKey : key other = key entry := by simpa using List.find?_some located
        exact congrArg some
          (List.inj_on_of_nodup_map distinct (List.mem_of_find?_eq_some located) isListed sameKey)

namespace MemoryStore

variable {store : MemoryStore}

/-- A stored role answers to the name. -/
def Taken (store : MemoryStore) (name : String) : Prop :=
  ∃ entry ∈ store.roles, Text.lowerAscii entry.2.name = Text.lowerAscii (Text.trim name)

theorem any_answersTo {name : String} :
    (store.roles.any fun entry => entry.2.answersTo name) = true ↔ store.Taken name := by
  simp only [List.any_eq_true, Role.answersTo, Text.sameLetters_iff, Taken]

theorem create_of_taken {role : NewRole} (isTaken : store.Taken role.name) (id : RoleId) :
    store.create id role = (.error (.nameTaken (Text.trim role.name)), store) :=
  if_pos (any_answersTo.mpr isTaken)

theorem create_of_error {id : RoleId} {role : NewRole} {error : ServiceError}
    (isFree : ¬ store.Taken role.name) (isNotMade : role.withId id = .error error) :
    store.create id role = (.error error, store) := by
  rw [create, if_neg (isFree ∘ any_answersTo.mp), isNotMade]

theorem create_of_ok {id : RoleId} {role : NewRole} {created : Role}
    (isFree : ¬ store.Taken role.name) (isMade : role.withId id = .ok created) :
    store.create id role = (.ok created, store.put id created) := by
  rw [create, if_neg (isFree ∘ any_answersTo.mp), isMade]

def resaved (id : RoleId) (rules : RuleSet) (entry : RoleId × Role) : RoleId × Role :=
  if entry.1 = id then (id, entry.2.withRules rules) else entry

@[simp]
theorem resaved_fst (id : RoleId) (rules : RuleSet) (entry : RoleId × Role) :
    (resaved id rules entry).1 = entry.1 := by
  unfold resaved
  split <;> simp [*]

theorem resaved_snd (id : RoleId) (rules : RuleSet) (entry : RoleId × Role) :
    (resaved id rules entry).2 = if entry.1 = id then entry.2.withRules rules else entry.2 := by
  unfold resaved
  split <;> rfl

theorem save_of_missing {id : RoleId} (isMissing : store.role? id = none) (rules : RuleSet) :
    store.save id rules = (.error (.roleMissing id), store) := by
  simp only [save, isMissing]

theorem save_of_stored {id : RoleId} {role : Role} (isStored : store.role? id = some role)
    (rules : RuleSet) :
    store.save id rules = (.ok (), { store with roles := store.roles.map (resaved id rules) }) := by
  simp only [save, isStored]
  rfl

/-- Some actor has the role. -/
def Held (store : MemoryStore) (id : RoleId) : Prop :=
  ∃ entry ∈ store.assignments, entry.2 = id

theorem any_assigned {id : RoleId} :
    (store.assignments.any fun entry => entry.2 == id) = true ↔ store.Held id := by
  simp [Held]

theorem delete_of_held {id : RoleId} (isHeld : store.Held id) :
    store.delete id = (.error (.roleAssigned id), store) :=
  if_pos (any_assigned.mpr isHeld)

theorem delete_of_missing {id : RoleId} (isNotHeld : ¬ store.Held id)
    (isMissing : store.role? id = none) : store.delete id = (.error (.roleMissing id), store) := by
  rw [delete, if_neg (isNotHeld ∘ any_assigned.mp), isMissing]

theorem delete_of_stored {id : RoleId} {role : Role} (isNotHeld : ¬ store.Held id)
    (isStored : store.role? id = some role) :
    store.delete id =
      (.ok (), { store with roles := store.roles.filter fun entry => entry.1 ≠ id }) := by
  rw [delete, if_neg (isNotHeld ∘ any_assigned.mp), isStored]

theorem assign_of_missing {id : RoleId} (isMissing : store.role? id = none) (actor : ActorId) :
    store.assign actor id = (.error (.roleMissing id), store) := by
  simp only [assign, isMissing]

theorem assign_of_stored {id : RoleId} {role : Role} (isStored : store.role? id = some role)
    (actor : ActorId) :
    store.assign actor id = (.ok (), { store with
      assignments := store.assignments.filter (fun entry => entry.1 ≠ actor) ++ [(actor, id)] }) := by
  simp only [assign, isStored]

/-- What every operation keeps up. -/
structure Sound (store : MemoryStore) : Prop where
  filed : ∀ entry ∈ store.roles, entry.2.id = entry.1
  distinctIds : (store.roles.map Prod.fst).Nodup
  distinctNames : (store.roles.map fun entry => Text.lowerAscii entry.2.name).Nodup
  assigned : ∀ entry ∈ store.assignments, (store.role? entry.2).isSome

theorem sound_empty : empty.Sound where
  filed := by simp [empty]
  distinctIds := by simp [empty]
  distinctNames := by simp [empty]
  assigned := by simp [empty]

theorem role?_eq_none_iff {id : RoleId} :
    store.role? id = none ↔ ∀ entry ∈ store.roles, entry.1 ≠ id := by
  simp [role?]

namespace Sound

variable (sound : store.Sound)

include sound

theorem role?_eq_some_iff {id : RoleId} {role : Role} :
    store.role? id = some role ↔ (id, role) ∈ store.roles := by
  unfold role?
  rw [Option.map_eq_some_iff]
  simp only [find?_key_eq_some_iff sound.distinctIds]
  constructor
  · rintro ⟨entry, ⟨isListed, rfl⟩, rfl⟩
    exact isListed
  · intro isListed
    exact ⟨(id, role), ⟨isListed, rfl⟩, rfl⟩

theorem eq_of_sameName {left right : RoleId × Role} (isLeft : left ∈ store.roles)
    (isRight : right ∈ store.roles)
    (sameName : Text.lowerAscii left.2.name = Text.lowerAscii right.2.name) : left = right :=
  List.inj_on_of_nodup_map sound.distinctNames isLeft isRight sameName

theorem put {id : RoleId} {role : Role} (isFiled : role.id = id)
    (isNew : ∀ entry ∈ store.roles, Text.lowerAscii entry.2.name ≠ Text.lowerAscii role.name) :
    (store.put id role).Sound where
  filed := by
    intro entry isListed
    rcases List.mem_append.mp isListed with isOld | isAdded
    · exact sound.filed entry (List.mem_of_mem_filter isOld)
    · rw [List.mem_singleton.mp isAdded, isFiled]
  distinctIds := by
    rw [MemoryStore.put, List.map_append, List.nodup_append]
    refine ⟨sound.distinctIds.sublist (List.filter_sublist.map _), by simp, ?_⟩
    simp
  distinctNames := by
    rw [MemoryStore.put, List.map_append, List.nodup_append]
    refine ⟨sound.distinctNames.sublist (List.filter_sublist.map _), by simp, ?_⟩
    intro name isOld other isAdded
    obtain ⟨entry, isListed, rfl⟩ := List.mem_map.mp isOld
    rw [show other = Text.lowerAscii role.name by simpa using isAdded]
    exact isNew entry (List.mem_of_mem_filter isListed)
  assigned := by
    intro entry isListed
    rw [role?_put]
    split
    · rfl
    · exact sound.assigned entry isListed

theorem create (id : RoleId) (role : NewRole) : (store.create id role).2.Sound := by
  by_cases isTaken : store.Taken role.name
  · rwa [create_of_taken isTaken]
  · cases made : role.withId id with
    | error error => rwa [create_of_error isTaken made]
    | ok created =>
        obtain ⟨isFiled, isName⟩ := Role.make_eq_ok made
        rw [create_of_ok isTaken made]
        refine sound.put isFiled fun entry isListed sameName => isTaken ⟨entry, isListed, ?_⟩
        rw [sameName, isName]

theorem save (id : RoleId) (rules : RuleSet) : (store.save id rules).2.Sound := by
  cases located : store.role? id with
  | none => rwa [save_of_missing located]
  | some role =>
      have saved := save_of_stored located rules
      refine ⟨?_, ?_, ?_, ?_⟩
      · rw [saved]
        intro entry isListed
        obtain ⟨old, isOld, rfl⟩ := List.mem_map.mp isListed
        rw [resaved_fst, resaved_snd, ← sound.filed old isOld]
        split <;> rfl
      · rw [saved]
        simpa [Function.comp_def] using sound.distinctIds
      · have sameNames : ∀ entry ∈ store.roles,
            Text.lowerAscii (resaved id rules entry).2.name = Text.lowerAscii entry.2.name := by
          intro entry _
          rw [resaved_snd]
          split <;> rfl
        rw [saved, List.map_map]
        exact List.map_congr_left sameNames ▸ sound.distinctNames
      · rw [saved]
        intro entry isListed
        have isStored := sound.assigned entry isListed
        have kept := role?_save saved entry.2
        rw [kept]
        split
        · simp [located]
        · exact isStored

theorem delete (id : RoleId) : (store.delete id).2.Sound := by
  by_cases isHeld : store.Held id
  · rwa [delete_of_held isHeld]
  · cases located : store.role? id with
    | none => rwa [delete_of_missing isHeld located]
    | some role =>
        have deleted := delete_of_stored isHeld located
        rw [deleted]
        refine ⟨?_, ?_, ?_, ?_⟩
        · exact fun entry isListed => sound.filed entry (List.mem_of_mem_filter isListed)
        · exact sound.distinctIds.sublist (List.filter_sublist.map _)
        · exact sound.distinctNames.sublist (List.filter_sublist.map _)
        · intro entry isListed
          have isOther : entry.2 ≠ id := fun same => isHeld ⟨entry, isListed, same⟩
          rw [role?_delete deleted, if_neg isOther]
          exact sound.assigned entry isListed

theorem assign (actor : ActorId) (id : RoleId) : (store.assign actor id).2.Sound := by
  cases located : store.role? id with
  | none => rwa [assign_of_missing located]
  | some role =>
      rw [assign_of_stored located]
      refine ⟨sound.filed, sound.distinctIds, sound.distinctNames, fun entry isListed => ?_⟩
      rcases List.mem_append.mp isListed with isOld | isNew
      · exact sound.assigned entry (List.mem_of_mem_filter isOld)
      · rw [List.mem_singleton.mp isNew]
        exact Option.isSome_of_mem located

end Sound

end MemoryStore

end Rolebook
