import Rolebook.Store.Memory

/-!
What every repository owes to those who use it. An operation that fails changes nothing, one that
succeeds changes at most the role that it names, a save changes nothing but the rules, and a deleted
role is gone.
-/

namespace Rolebook

/-- A repository that keeps what it was told. Whether a role is stored is another question than whether
it can be read. -/
class LawfulRepository (Store : Type) [Repository Store] where
  stores : Store → RoleId → Prop
  stores_of_find {store : Store} {id : RoleId} {role : Role} :
    Repository.find store id = .ok (some role) → stores store id
  create_error {store after : Store} {id : RoleId} {role : NewRole} {error : ServiceError} :
    Repository.create store id role = (.error error, after) → after = store
  find_create {store : Store} {id other : RoleId} (role : NewRole) : other ≠ id →
    Repository.find (Repository.create store id role).2 other = Repository.find store other
  stores_create {store : Store} {id other : RoleId} (role : NewRole) : other ≠ id →
    (stores (Repository.create store id role).2 other ↔ stores store other)
  save_error {store after : Store} {id : RoleId} {rules : RuleSet} {error : ServiceError} :
    Repository.save store id rules = (.error error, after) → after = store
  find_save {store after : Store} {id : RoleId} {rules : RuleSet} {role : Role} :
    Repository.save store id rules = (.ok (), after) → Repository.find store id = .ok (some role) →
      Repository.find after id = .ok (some (role.withRules rules))
  find_save_of_ne {store : Store} {id other : RoleId} (rules : RuleSet) : other ≠ id →
    Repository.find (Repository.save store id rules).2 other = Repository.find store other
  stores_save {store : Store} {id other : RoleId} (rules : RuleSet) :
    stores (Repository.save store id rules).2 other ↔ stores store other
  delete_error {store after : Store} {id : RoleId} {error : ServiceError} :
    Repository.delete store id = (.error error, after) → after = store
  stores_of_delete {store after : Store} {id : RoleId} :
    Repository.delete store id = (.ok (), after) → stores store id
  not_stores_of_delete {store after : Store} {id : RoleId} :
    Repository.delete store id = (.ok (), after) → ¬ stores after id
  find_delete_of_ne {store : Store} {id other : RoleId} : other ≠ id →
    Repository.find (Repository.delete store id).2 other = Repository.find store other
  stores_delete_of_ne {store : Store} {id other : RoleId} : other ≠ id →
    (stores (Repository.delete store id).2 other ↔ stores store other)

theorem LawfulRepository.find_of_save {Store : Type} [Repository Store] [LawfulRepository Store]
    {store after : Store} {id : RoleId} {rules : RuleSet} {role : Role}
    (saved : Repository.save store id rules = (.ok (), after))
    (isStored : Repository.find store id = .ok (some role)) (other : RoleId) :
    Repository.find after other =
      if other = id then .ok (some (role.withRules rules)) else Repository.find store other := by
  split
  · rename_i isRole
    rw [isRole, find_save saved isStored]
  · rename_i isOther
    have isAfter : (Repository.save store id rules).2 = after := congrArg Prod.snd saved
    rw [← isAfter, find_save_of_ne rules isOther]

theorem find?_filter_key_ne {Item : Type} (key : Item → RoleId) (items : List Item) (id other : RoleId) :
    ((items.filter fun item => key item ≠ id).find? fun item => key item == other) =
      if other = id then none else items.find? fun item => key item == other := by
  rw [List.find?_filter]
  by_cases same : other = id
  · subst same
    simp
  · rw [if_neg same]
    congr 1
    funext item
    by_cases here : key item = other
    · simp [here, same]
    · simp [here]

namespace MemoryStore

theorem role?_put (store : MemoryStore) (id other : RoleId) (role : Role) :
    (store.put id role).role? other = if other = id then some role else store.role? other := by
  unfold role? put
  rw [List.find?_append, find?_filter_key_ne Prod.fst]
  by_cases same : other = id
  · simp [same]
  · have different : id ≠ other := fun equal => same equal.symm
    simp [same, different]

theorem role?_save {store after : MemoryStore} {id : RoleId} {rules : RuleSet}
    (saved : store.save id rules = (.ok (), after)) (other : RoleId) :
    after.role? other =
      if other = id then (store.role? id).map fun role => role.withRules rules
      else store.role? other := by
  unfold save at saved
  split at saved
  · simp at saved
  · simp only [Prod.mk.injEq, true_and] at saved
    subst saved
    unfold role?
    simp only [List.find?_map, Option.map_map]
    have sameTest : ((fun entry : RoleId × Role => entry.1 == other) ∘ fun entry =>
        if entry.1 = id then (id, entry.2.withRules rules) else entry) =
        fun entry => entry.1 == other := by
      funext entry
      by_cases here : entry.1 = id <;> simp [here]
    rw [sameTest]
    cases located : store.roles.find? (fun entry => entry.1 == other) with
    | none =>
        by_cases same : other = id
        · subst same
          simp [located]
        · simp [same]
    | some entry =>
        have named : entry.1 = other := by simpa using List.find?_some located
        by_cases same : other = id
        · subst same
          simp [located, named]
        · simp [same, named]

theorem role?_delete {store after : MemoryStore} {id : RoleId}
    (deleted : store.delete id = (.ok (), after)) (other : RoleId) :
    after.role? other = if other = id then none else store.role? other := by
  unfold delete at deleted
  split at deleted
  · simp at deleted
  · split at deleted
    · simp at deleted
    · simp only [Prod.mk.injEq, true_and] at deleted
      subst deleted
      unfold role?
      rw [find?_filter_key_ne Prod.fst]
      split <;> rfl

theorem create_eq_error {store after : MemoryStore} {id : RoleId} {role : NewRole}
    {error : ServiceError} (failed : store.create id role = (.error error, after)) :
    after = store := by
  unfold create at failed
  split at failed
  · exact ((Prod.mk.inj failed).2).symm
  · split at failed
    · exact ((Prod.mk.inj failed).2).symm
    · simp at failed

theorem role?_create {store : MemoryStore} {id other : RoleId} (role : NewRole)
    (different : other ≠ id) : (store.create id role).2.role? other = store.role? other := by
  unfold create
  split
  · rfl
  · split
    · rfl
    · rw [role?_put, if_neg different]

theorem save_eq_error {store after : MemoryStore} {id : RoleId} {rules : RuleSet}
    {error : ServiceError} (failed : store.save id rules = (.error error, after)) :
    after = store := by
  unfold save at failed
  split at failed
  · exact ((Prod.mk.inj failed).2).symm
  · simp at failed

theorem delete_eq_error {store after : MemoryStore} {id : RoleId} {error : ServiceError}
    (failed : store.delete id = (.error error, after)) : after = store := by
  unfold delete at failed
  split at failed
  · exact ((Prod.mk.inj failed).2).symm
  · split at failed
    · exact ((Prod.mk.inj failed).2).symm
    · simp at failed

theorem role?_save_snd (store : MemoryStore) (id other : RoleId) (rules : RuleSet) :
    (store.save id rules).2.role? other =
      if other = id then (store.role? id).map fun role => role.withRules rules
      else store.role? other := by
  cases outcome : store.save id rules with
  | mk answer after =>
      cases answer with
      | ok => exact role?_save outcome other
      | error error =>
          have same := save_eq_error outcome
          have absent : store.role? id = none := by
            unfold save at outcome
            split at outcome
            · assumption
            · simp at outcome
          subst same
          by_cases here : other = id
          · simp [here, absent]
          · simp [here]

theorem role?_delete_of_ne {store : MemoryStore} {id other : RoleId} (different : other ≠ id) :
    (store.delete id).2.role? other = store.role? other := by
  cases outcome : store.delete id with
  | mk answer after =>
      cases answer with
      | ok => simp [role?_delete outcome, different]
      | error error => rw [delete_eq_error outcome]

instance : LawfulRepository MemoryStore where
  stores store id := (store.role? id).isSome = true
  stores_of_find found := by
    have located := Except.ok.inj found
    simp [located]
  create_error := create_eq_error
  find_create role different := congrArg Except.ok (role?_create role different)
  stores_create role different := by
    change ((MemoryStore.create _ _ role).2.role? _).isSome = true ↔ _
    rw [role?_create role different]
  save_error := save_eq_error
  find_save {store after id rules role} saved found := by
    have located : store.role? id = some role := Except.ok.inj found
    change Except.ok (after.role? id) = _
    rw [role?_save saved, if_pos rfl, located]
    rfl
  find_save_of_ne {store id other} rules different := by
    change Except.ok ((store.save id rules).2.role? other) = Except.ok (store.role? other)
    rw [role?_save_snd, if_neg different]
  stores_save {store id other} rules := by
    change ((store.save id rules).2.role? other).isSome = true ↔ _
    rw [role?_save_snd]
    by_cases same : other = id
    · simp [same]
    · simp [same]
  delete_error := delete_eq_error
  stores_of_delete {store _ id} deleted := by
    change store.delete id = _ at deleted
    unfold delete at deleted
    split at deleted
    · simp at deleted
    · split at deleted
      · simp at deleted
      · simp [*]
  not_stores_of_delete {_ after id} deleted := by
    simp [role?_delete deleted]
  find_delete_of_ne different := congrArg Except.ok (role?_delete_of_ne different)
  stores_delete_of_ne {store id other} different := by
    change ((store.delete id).2.role? other).isSome = true ↔ _
    rw [role?_delete_of_ne different]

end MemoryStore

end Rolebook
