import Rolebook.Proofs.Store.Laws
import Rolebook.Proofs.Store.Reads
import Rolebook.Proofs.Store.Writes

/-!
Tables keep the laws of repositories, whatever rows they hold and whatever statements the server refuses. To
find a role is to look at its own rows only, and a write leaves the rows of every other role.
-/

namespace Rolebook

theorem RoleRow.toRole_withRules {row : RoleRow} {rules : RuleSet} {role : Role}
    (isMade : row.toRole rules = .ok role) (others : RuleSet) :
    row.toRole others = .ok (role.withRules others) := by
  unfold toRole Role.make at isMade ⊢
  split at isMade
  · cases isMade
  · cases isMade
    rw [dif_neg ‹_›]
    rfl

namespace Tables

structure SameRows (before after : Tables) (id : RoleId) : Prop where
  role : after.role? id = before.role? id
  scopes : after.scopesOf id = before.scopesOf id
  fields : after.fieldsOf id = before.fieldsOf id

variable {before after : Tables} {id other : RoleId}

theorem SameRows.refl (tables : Tables) (id : RoleId) : tables.SameRows tables id :=
  ⟨rfl, rfl, rfl⟩

theorem Replaced.sameRows {rules : RuleSet} (replaced : before.Replaced id rules after)
    (different : other ≠ id) : before.SameRows after other where
  role := by rw [role?, replaced.roles, role?]
  scopes := replaced.otherScopes other different
  fields := replaced.otherFields other different

theorem Added.sameRows {role : Role} (added : before.Added role after) (different : other ≠ role.id) :
    before.SameRows after other where
  role := by
    have isOther : role.row.id ≠ other := fun same => different same.symm
    simp [role?, added.roles, isOther]
  scopes := by
    rw [scopesOf, added.scopes, List.filter_append, filter_of_owned RuleSet.role_of_mem_scopeRows,
      if_neg different, List.append_nil, scopesOf]
  fields := by
    rw [fieldsOf, added.fields, List.filter_append, filter_of_owned RuleSet.role_of_mem_fieldRows,
      if_neg different, List.append_nil, fieldsOf]

theorem role?_deleteRole (tables : Tables) (id other : RoleId) :
    (Statement.effect tables (.deleteRole id)).role? other =
      if other = id then none else tables.role? other :=
  find?_filter_key_ne RoleRow.id tables.roles id other

theorem sameRows_deleteRole (tables : Tables) (different : other ≠ id) :
    tables.SameRows (Statement.effect tables (.deleteRole id)) other where
  role := by rw [role?_deleteRole, if_neg different]
  scopes := (filter_owner_filter_ne _ id other).trans (if_neg different)
  fields := (filter_owner_filter_ne _ id other).trans (if_neg different)

end Tables

namespace Database

theorem transact_eq_error {database after : Database} {statements : List Statement} {error : ServiceError}
    (atomic : Statement.Atomic statements)
    (failed : database.transact statements = (.error error, after)) : after = database := by
  rcases transact_cases atomic with ⟨_, _, isOutcome⟩ | ⟨_, _, _, isOutcome⟩ <;>
    rw [isOutcome] at failed <;> cases failed
  rfl

/-- A role has the rows that it had, and the server refuses what it refused before. -/
structure Keeps (before after : Database) (id : RoleId) : Prop where
  rows : before.tables.SameRows after.tables id
  refusals : after.refusals = before.refusals

section Keeping

variable {before after : Database} {id : RoleId} (keeps : before.Keeps after id)

include keeps

theorem Keeps.find_eq : after.find id = before.find id := by
  simp only [find_eq_hear, keeps.refusals, keeps.rows.role, keeps.rows.scopes, keeps.rows.fields]

theorem Keeps.stored_iff :
    (after.tables.role? id).isSome = true ↔ (before.tables.role? id).isSome = true := by
  rw [keeps.rows.role]

end Keeping

theorem find_eq_some_iff {database : Database} {id : RoleId} {role : Role} :
    database.find id = .ok (some role) ↔ database.refusals.Pass 0 (finding id) ∧
      ∃ row, database.tables.role? id = some row ∧
        row.read (database.tables.scopesOf id) (database.tables.fieldsOf id) = .ok role := by
  rw [find_eq_hear, pass_finding_iff]
  cases database.refusals.hear 0 [.begin, .isolate, .loadRole id] with
  | error error => simp [bind, Except.bind]
  | ok =>
      cases database.tables.role? id with
      | none => simp [bind, Except.bind, pure, Except.pure]
      | some row =>
          cases database.refusals.hear 3 [.loadScopes id, .loadFields id, .finish] with
          | error error => simp [bind, Except.bind]
          | ok =>
              cases isRead : row.read (database.tables.scopesOf id) (database.tables.fieldsOf id) <;>
                simp [bind, Except.bind, pure, Except.pure, isRead]

theorem save_cases (database : Database) (id : RoleId) (rules : RuleSet) :
    (∃ error, database.save id rules = (.error error, database)) ∨
      ∃ after, database.tables.Replaced id rules after ∧
        database.save id rules = (.ok (), { database with tables := after }) := by
  rw [save_eq]
  rcases transact_cases (rules.atomic_saving id) with
    ⟨error, _, isOutcome⟩ | ⟨after, _, isApplied, isOutcome⟩
  · exact .inl ⟨error, isOutcome⟩
  · refine .inr ⟨after, ?_, isOutcome⟩
    rw [Statement.eq_foldl_effect_of_applyAll isApplied, RuleSet.foldl_effect_saving]
    exact database.tables.replaced_withRules id rules

theorem create_cases (database : Database) (id : RoleId) (role : NewRole) :
    (∃ error, database.create id role = (.error error, database)) ∨
      ∃ created after, created.id = id ∧ database.tables.Added created after ∧
        database.create id role = (.ok created, { database with tables := after }) := by
  cases made : role.withId id with
  | error error => exact .inl ⟨error, (database.create_whole id role).blank error made⟩
  | ok created =>
      rw [create_of_withId made]
      rcases transact_cases created.atomic_creating with
        ⟨error, _, isOutcome⟩ | ⟨after, _, isApplied, isOutcome⟩
      · exact .inl ⟨error, by rw [isOutcome]; rfl⟩
      · refine .inr ⟨created, after, (Role.make_eq_ok made).1, ?_, by rw [isOutcome]; rfl⟩
        rw [Statement.eq_foldl_effect_of_applyAll isApplied, Role.foldl_effect_creating]
        exact Role.added_withRole database.tables created

theorem delete_cases (database : Database) (id : RoleId) :
    (∃ error, database.delete id = (.error error, database)) ∨
      (database.tables.role? id).isSome ∧ database.delete id =
        (.ok (), { database with tables := Statement.effect database.tables (.deleteRole id) }) := by
  unfold delete
  rcases transact_cases (Statement.atomic_delete id) with
    ⟨error, _, isOutcome⟩ | ⟨after, _, isApplied, isOutcome⟩
  · exact .inl ⟨error, isOutcome⟩
  · have isEffect := Statement.eq_foldl_effect_of_applyAll isApplied
    refine .inr ⟨?_, by rw [isOutcome, isEffect]; rfl⟩
    rw [Statement.applyAll_cons, Statement.apply] at isApplied
    split at isApplied
    · cases isApplied
    · split at isApplied
      · cases isApplied
      · simpa [Option.isSome_iff_ne_none] using ‹¬ (database.tables.role? id).isNone = true›

theorem save_keeps {database : Database} {id other : RoleId} (rules : RuleSet) (different : other ≠ id) :
    database.Keeps (database.save id rules).2 other := by
  rcases database.save_cases id rules with ⟨error, isOutcome⟩ | ⟨after, replaced, isOutcome⟩
  · rw [isOutcome]
    exact ⟨.refl _ other, rfl⟩
  · rw [isOutcome]
    exact ⟨replaced.sameRows different, rfl⟩

theorem create_keeps {database : Database} {id other : RoleId} (role : NewRole) (different : other ≠ id) :
    database.Keeps (database.create id role).2 other := by
  rcases database.create_cases id role with ⟨error, isOutcome⟩ | ⟨created, after, rfl, added, isOutcome⟩
  · rw [isOutcome]
    exact ⟨.refl _ other, rfl⟩
  · rw [isOutcome]
    exact ⟨added.sameRows different, rfl⟩

theorem delete_keeps {database : Database} {id other : RoleId} (different : other ≠ id) :
    database.Keeps (database.delete id).2 other := by
  rcases database.delete_cases id with ⟨error, isOutcome⟩ | ⟨_, isOutcome⟩
  · rw [isOutcome]
    exact ⟨.refl _ other, rfl⟩
  · rw [isOutcome]
    exact ⟨database.tables.sameRows_deleteRole different, rfl⟩

theorem stored_save_iff {database : Database} {id other : RoleId} (rules : RuleSet) :
    ((database.save id rules).2.tables.role? other).isSome = true ↔
      (database.tables.role? other).isSome = true := by
  rcases database.save_cases id rules with ⟨error, isOutcome⟩ | ⟨after, replaced, isOutcome⟩
  · rw [isOutcome]
  · rw [isOutcome, Tables.role?, replaced.roles, Tables.role?]

theorem find_save {database after : Database} {id : RoleId} {role : Role} {rules : RuleSet}
    (saved : database.save id rules = (.ok (), after)) (isFound : database.find id = .ok (some role)) :
    after.find id = .ok (some (role.withRules rules)) := by
  rcases database.save_cases id rules with ⟨_, isOutcome⟩ | ⟨tables, replaced, isOutcome⟩ <;>
    rw [isOutcome] at saved <;> cases saved
  obtain ⟨passed, row, isRow, described⟩ := find_eq_some_iff.mp isFound
  have stillRow : tables.role? id = some row := by rw [← isRow, Tables.role?, replaced.roles, Tables.role?]
  refine find_eq_some_iff.mpr ⟨passed, row, stillRow, ?_⟩
  -- The rule rows are those of the new rules, and the row itself makes up a role with these too.
  rw [replaced.scopes, replaced.fields]
  unfold RoleRow.read at described ⊢
  cases old : RuleSet.ofRows row.id (database.tables.scopesOf id) (database.tables.fieldsOf id) with
  | error error => simp [old, bind, Except.bind] at described
  | ok oldRules =>
      have isMade : row.toRole oldRules = .ok role := by simpa [old, bind, Except.bind] using described
      have areRules : RuleSet.ofRows row.id (rules.scopeRows id) (rules.fieldRows id) = .ok rules := by
        rw [RuleSet.ofRows, RuleSet.ofRows?_of_perm (.refl _) (.refl _)]
        rfl
      simpa only [areRules, bind, Except.bind] using RoleRow.toRole_withRules isMade rules

theorem create_eq_error {database after : Database} {id : RoleId} {role : NewRole} {error : ServiceError}
    (failed : database.create id role = (.error error, after)) : after = database := by
  rcases database.create_cases id role with ⟨_, isOutcome⟩ | ⟨_, _, _, _, isOutcome⟩ <;>
    rw [isOutcome] at failed <;> cases failed
  rfl

theorem stored_of_delete {database after : Database} {id : RoleId}
    (deleted : database.delete id = (.ok (), after)) :
    (database.tables.role? id).isSome = true ∧ after.tables.role? id = none := by
  rcases database.delete_cases id with ⟨_, isOutcome⟩ | ⟨isStored, isOutcome⟩ <;>
    rw [isOutcome] at deleted <;> cases deleted
  exact ⟨isStored, (database.tables.role?_deleteRole id id).trans (if_pos rfl)⟩

instance : LawfulRepository Database where
  stores database id := (database.tables.role? id).isSome = true
  stores_of_find isFound := by
    obtain ⟨_, row, isRow, _⟩ := find_eq_some_iff.mp isFound
    simp [isRow]
  create_error := create_eq_error
  find_create role different := (create_keeps role different).find_eq
  stores_create role different := (create_keeps role different).stored_iff
  save_error {_ _ id rules _} := transact_eq_error (rules.atomic_saving id)
  find_save := find_save
  find_save_of_ne rules different := (save_keeps rules different).find_eq
  stores_save rules := stored_save_iff rules
  delete_error {_ _ id _} := transact_eq_error (Statement.atomic_delete id)
  stores_of_delete deleted := (stored_of_delete deleted).1
  not_stores_of_delete deleted := by simp [(stored_of_delete deleted).2]
  find_delete_of_ne different := (delete_keeps different).find_eq
  stores_delete_of_ne different := (delete_keeps different).stored_iff

theorem save_of_reliable {database : Database} (reliable : database.refusals = Refusals.none) {id : RoleId}
    {role : Role} (isFound : database.find id = .ok (some role)) (rules : RuleSet) :
    (database.save id rules).1 = .ok () := by
  have isStored : LawfulRepository.stores database id := LawfulRepository.stores_of_find isFound
  have passed : database.refusals.Pass 0 (rules.saving id) := fun _ _ _ => by rw [reliable]; rfl
  obtain ⟨after, isSaved⟩ := (database.save_whole id rules).carriedOut isStored passed
  rw [isSaved]

end Database

end Rolebook
