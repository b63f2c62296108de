import Rolebook.Proofs.Store.Rows
import Rolebook.Proofs.Store.Transaction
import Rolebook.Store.Relational

/-!
What writes to the tables come to. A save or a creation is one transaction of as many statements as the
rule set has rules and field levels: it is carried out as a whole, or it leaves the tables as they were.
-/

namespace Rolebook

section Owners

variable {Row : Type} {owner : Row → RoleId} {rows : List Row} {id : RoleId}

theorem filter_of_owned (owned : ∀ row ∈ rows, owner row = id) (other : RoleId) :
    (rows.filter fun row => owner row = other) = if other = id then rows else [] := by
  by_cases same : other = id
  · rw [if_pos same, List.filter_eq_self]
    intro row isListed
    simpa [same] using owned row isListed
  · rw [if_neg same, List.filter_eq_nil_iff]
    intro row isListed
    simpa [owned row isListed] using fun equal : id = other => same equal.symm

theorem filter_owner_filter_ne (rows : List Row) (id other : RoleId) :
    ((rows.filter fun row => owner row ≠ id).filter fun row => owner row = other) =
      if other = id then [] else rows.filter fun row => owner row = other := by
  rw [List.filter_filter]
  by_cases same : other = id
  · simp [same]
  · rw [if_neg same]
    apply List.filter_congr
    intro row _
    by_cases isOther : owner row = other <;> simp [isOther, same]

theorem filter_owner_replaced {others : List Row} (owned : ∀ row ∈ rows, owner row = id)
    (other : RoleId) :
    ((others.filter fun row => owner row ≠ id) ++ rows).filter (fun row => owner row = other) =
      if other = id then rows else others.filter fun row => owner row = other := by
  rw [List.filter_append, filter_owner_filter_ne, filter_of_owned owned]
  split <;> simp

end Owners

namespace RuleSet

theorem role_of_mem_scopeRows {set : RuleSet} {id : RoleId} :
    ∀ row ∈ set.scopeRows id, row.role = id := by
  intro row isListed
  obtain ⟨rule, _, rfl⟩ := List.mem_map.mp isListed
  rfl

theorem role_of_mem_fieldRows {set : RuleSet} {id : RoleId} :
    ∀ row ∈ set.fieldRows id, row.role = id := by
  intro row isListed
  obtain ⟨rule, _, isField⟩ := List.mem_flatMap.mp isListed
  obtain ⟨entry, _, rfl⟩ := List.mem_map.mp isField
  rfl

end RuleSet

namespace Tables

theorem role?_isSome_iff {tables : Tables} {id : RoleId} :
    (tables.role? id).isSome ↔ ∃ row ∈ tables.roles, row.id = id := by
  simp [role?]

def withRole (tables : Tables) (row : RoleRow) : Tables :=
  { tables with roles := tables.roles ++ [row] }

theorem role?_withRole (tables : Tables) (row : RoleRow) : ((tables.withRole row).role? row.id).isSome :=
  role?_isSome_iff.mpr ⟨row, by simp [withRole], rfl⟩

def withRules (tables : Tables) (scopes : List ScopeRow) (fields : List FieldRow) : Tables :=
  { tables with scopes := tables.scopes ++ scopes, fields := tables.fields ++ fields }

@[simp]
theorem withRules_nil (tables : Tables) : tables.withRules [] [] = tables := by
  simp [withRules]

@[simp]
theorem withRules_withRules (tables : Tables) (scopes others : List ScopeRow)
    (fields further : List FieldRow) : (tables.withRules scopes fields).withRules others further =
      tables.withRules (scopes ++ others) (fields ++ further) := by
  simp [withRules]

/-- The tables after the rules of a role were replaced: its rows are the encoding of the new ones, and
the rows of every other role are the same. -/
structure Replaced (before : Tables) (id : RoleId) (rules : RuleSet) (after : Tables) : Prop where
  scopes : after.scopesOf id = rules.scopeRows id
  fields : after.fieldsOf id = rules.fieldRows id
  otherScopes : ∀ other, other ≠ id → after.scopesOf other = before.scopesOf other
  otherFields : ∀ other, other ≠ id → after.fieldsOf other = before.fieldsOf other
  roles : after.roles = before.roles
  actors : after.actors = before.actors

theorem replaced_withRules (tables : Tables) (id : RoleId) (rules : RuleSet) :
    tables.Replaced id rules
      ((tables.clearRules id).withRules (rules.scopeRows id) (rules.fieldRows id)) where
  scopes := (filter_owner_replaced RuleSet.role_of_mem_scopeRows id).trans (if_pos rfl)
  fields := (filter_owner_replaced RuleSet.role_of_mem_fieldRows id).trans (if_pos rfl)
  otherScopes other different :=
    (filter_owner_replaced RuleSet.role_of_mem_scopeRows other).trans (if_neg different)
  otherFields other different :=
    (filter_owner_replaced RuleSet.role_of_mem_fieldRows other).trans (if_neg different)
  roles := rfl
  actors := rfl

/-- The tables after a role was added: its row and those of its rules come after the rows that there
were. -/
structure Added (before : Tables) (role : Role) (after : Tables) : Prop where
  roles : after.roles = before.roles ++ [role.row]
  scopes : after.scopes = before.scopes ++ role.rules.scopeRows role.id
  fields : after.fields = before.fields ++ role.rules.fieldRows role.id
  actors : after.actors = before.actors

structure Vacant (tables : Tables) (id : RoleId) (scope : Scope) : Prop where
  scopes : ∀ row ∈ tables.scopes, row.role = id → row.scope ≠ scope.name
  fields : ∀ row ∈ tables.fields, row.role = id → row.scope ≠ scope.name

theorem vacant_clearRules (tables : Tables) (id : RoleId) (scope : Scope) :
    (tables.clearRules id).Vacant id scope where
  scopes := by
    intro row isListed isRole
    simp [clearRules, isRole] at isListed
  fields := by
    intro row isListed isRole
    simp [clearRules, isRole] at isListed

end Tables

namespace Statement

section Admission

variable {locale : Locale} {tables : Tables}

theorem apply_lockRole {id : RoleId} (isStored : (tables.role? id).isSome) :
    apply locale tables (lockRole id) = .ok tables := by
  simp [apply, Option.isSome_iff_ne_none.mp isStored]

theorem apply_insertRole {row : RoleRow}
    (isNew : ∀ other ∈ tables.roles,
      other.id ≠ row.id ∧ locale.lower other.name ≠ locale.lower row.name) :
    apply locale tables (insertRole row) = .ok (tables.withRole row) :=
  if_neg (by simpa using isNew)

theorem apply_insertScope {row : ScopeRow} (isStored : (tables.role? row.role).isSome)
    (isNew : ∀ other ∈ tables.scopes, other.role = row.role → other.scope ≠ row.scope) :
    apply locale tables (insertScope row) = .ok (tables.withRules [row] []) := by
  simp only [apply]
  rw [if_neg (by simpa using Option.isSome_iff_ne_none.mp isStored), if_neg (by simpa using isNew)]
  simp [Tables.withRules]

theorem apply_insertField {row : FieldRow}
    (isOwned : ∃ other ∈ tables.scopes, other.role = row.role ∧ other.scope = row.scope)
    (isNew : ∀ other ∈ tables.fields, other.role = row.role → other.scope = row.scope →
      other.field ≠ row.field) :
    apply locale tables (insertField row) = .ok (tables.withRules [] [row]) := by
  simp only [apply]
  rw [if_neg (by simpa using isOwned), if_neg (by simpa using isNew)]
  simp [Tables.withRules]

theorem applyAll_cons_of_ok {next : Tables} {statement : Statement} {rest : List Statement}
    (isApplied : statement.apply locale tables = .ok next) :
    applyAll locale tables (statement :: rest) = applyAll locale next rest := by
  rw [applyAll_cons, isApplied]
  rfl

end Admission

theorem inner_deleteRole (id : RoleId) : (deleteRole id).Inner :=
  trivial

/-- A role is deleted without a transaction around it. -/
theorem atomic_delete (id : RoleId) : Atomic [deleteRole id] :=
  .single (inner_deleteRole id)

end Statement

namespace RuleSet

open Statement

variable {locale : Locale}

theorem foldl_effect_insertField (tables : Tables) (rows : List FieldRow) :
    (rows.map insertField).foldl effect tables = tables.withRules [] rows := by
  induction rows generalizing tables with
  | nil => simp
  | cons row rest inductionHypothesis =>
      rw [List.map_cons, List.foldl_cons, inductionHypothesis]
      simp [effect, Tables.withRules]

theorem foldl_effect_inserts (tables : Tables) (set : RuleSet) (id : RoleId) :
    (set.inserts id).foldl effect tables = tables.withRules (set.scopeRows id) (set.fieldRows id) := by
  unfold inserts scopeRows fieldRows
  induction set.toList generalizing tables with
  | nil => simp
  | cons rule rest inductionHypothesis =>
      rw [List.flatMap_cons, List.foldl_append, inductionHypothesis, insertRule, List.foldl_cons,
        foldl_effect_insertField]
      simp [effect, Tables.withRules]

theorem applyAll_insertField {tables : Tables} {id : RoleId} {scope : Scope} {entries : List FieldRule}
    (isStored : ∃ row ∈ tables.scopes, row.role = id ∧ row.scope = scope.name)
    (areNew : ∀ row ∈ tables.fields, row.role = id → row.scope = scope.name →
      ∀ entry ∈ entries, row.field ≠ entry.field)
    (distinct : (entries.map FieldRule.field).Nodup) :
    ∃ after, applyAll locale tables (entries.map fun entry =>
      insertField ⟨id, scope.name, entry.field, entry.level.name⟩) = .ok after := by
  induction entries generalizing tables with
  | nil => exact ⟨tables, rfl⟩
  | cons entry rest inductionHypothesis =>
      rw [List.map_cons, List.nodup_cons] at distinct
      have isApplied : apply locale tables (insertField ⟨id, scope.name, entry.field, entry.level.name⟩) =
          .ok (tables.withRules [] [⟨id, scope.name, entry.field, entry.level.name⟩]) :=
        apply_insertField isStored fun row isListed isRole isScope =>
          areNew row isListed isRole isScope entry (by simp)
      rw [List.map_cons, applyAll_cons_of_ok isApplied]
      apply inductionHypothesis _ _ distinct.2
      · simpa [Tables.withRules] using isStored
      · intro row isListed isRole isScope other isOther
        rcases List.mem_append.mp isListed with isOld | isNew
        · exact areNew row isOld isRole isScope other (by simp [isOther])
        · rw [List.mem_singleton.mp isNew]
          exact fun sameField => distinct.1 (List.mem_map.mpr ⟨other, isOther, sameField.symm⟩)

theorem applyAll_insertRule {tables : Tables} {id : RoleId} {rule : Rule}
    (isStored : (tables.role? id).isSome) (isVacant : tables.Vacant id rule.scope) :
    applyAll locale tables (insertRule id rule) =
      .ok (tables.withRules [rule.scopeRow id] (rule.fieldRows id)) := by
  have isApplied : apply locale tables (insertScope (rule.scopeRow id)) =
      .ok (tables.withRules [rule.scopeRow id] []) :=
    apply_insertScope isStored isVacant.scopes
  obtain ⟨after, areApplied⟩ : ∃ after, applyAll locale (tables.withRules [rule.scopeRow id] [])
      ((rule.fieldRows id).map insertField) = .ok after := by
    rw [Rule.fieldRows, List.map_map]
    refine applyAll_insertField ?_ ?_ rule.distinct_fieldRules
    · exact ⟨rule.scopeRow id, by simp [Tables.withRules], rfl, rfl⟩
    · intro row isListed isRole isScope
      exact absurd isScope (isVacant.fields row (by simpa [Tables.withRules] using isListed) isRole)
  rw [insertRule, applyAll_cons_of_ok isApplied, areApplied,
    eq_foldl_effect_of_applyAll areApplied, foldl_effect_insertField, Tables.withRules_withRules]
  simp

theorem applyAll_insertRules {tables : Tables} {id : RoleId} {rules : List Rule}
    (isStored : (tables.role? id).isSome) (areVacant : ∀ rule ∈ rules, tables.Vacant id rule.scope)
    (distinct : (rules.map Rule.scope).Nodup) :
    ∃ after, applyAll locale tables (rules.flatMap (insertRule id)) = .ok after := by
  induction rules generalizing tables with
  | nil => exact ⟨tables, rfl⟩
  | cons rule rest inductionHypothesis =>
      rw [List.map_cons, List.nodup_cons] at distinct
      rw [List.forall_mem_cons] at areVacant
      rw [List.flatMap_cons, applyAll_append, applyAll_insertRule isStored areVacant.1, Except.bind]
      refine inductionHypothesis isStored (fun other isListed => ?_) distinct.2
      have isOther : rule.scope.name ≠ other.scope.name := fun sameName =>
        distinct.1 (List.mem_map.mpr ⟨other, isListed, (Scope.name_injective sameName).symm⟩)
      constructor
      · intro row isRow
        rcases List.mem_append.mp isRow with isOld | isNew
        · exact (areVacant.2 other isListed).scopes row isOld
        · rw [List.mem_singleton.mp isNew]
          exact fun _ => isOther
      · intro row isRow
        rcases List.mem_append.mp isRow with isOld | isNew
        · exact (areVacant.2 other isListed).fields row isOld
        · obtain ⟨entry, _, rfl⟩ := List.mem_map.mp isNew
          exact fun _ => isOther

/-- The tables admit the rows of a rule set for a stored role that has no rules for these scopes. -/
theorem applyAll_inserts {tables : Tables} {id : RoleId} {set : RuleSet}
    (isStored : (tables.role? id).isSome) (areVacant : ∀ scope, tables.Vacant id scope) :
    applyAll locale tables (set.inserts id) =
      .ok (tables.withRules (set.scopeRows id) (set.fieldRows id)) := by
  obtain ⟨after, areApplied⟩ :=
    applyAll_insertRules isStored (fun rule _ => areVacant rule.scope) set.distinct_toList
  rw [← foldl_effect_inserts, inserts, ← eq_foldl_effect_of_applyAll areApplied]
  exact areApplied

theorem inner_of_mem_inserts {set : RuleSet} {id : RoleId} :
    ∀ statement ∈ set.inserts id, statement.Inner := by
  intro statement isListed
  obtain ⟨rule, _, isInsert⟩ := List.mem_flatMap.mp isListed
  rcases List.mem_cons.mp isInsert with rfl | isField
  · trivial
  · obtain ⟨row, _, rfl⟩ := List.mem_map.mp isField
    trivial

def saving (set : RuleSet) (id : RoleId) : List Statement :=
  [begin, lockRole id, clearRules id] ++ set.inserts id ++ [touchRole id, commit]

theorem atomic_saving (set : RuleSet) (id : RoleId) : Atomic (set.saving id) := by
  have isTransaction : set.saving id =
      begin :: ((lockRole id :: clearRules id :: set.inserts id) ++ [touchRole id] ++ [commit]) := by
    simp [saving]
  rw [isTransaction]
  refine .transaction fun statement isListed => ?_
  simp only [List.mem_append, List.mem_cons, List.not_mem_nil, or_false] at isListed
  rcases isListed with (rfl | rfl | isInsert) | rfl
  · trivial
  · trivial
  · exact inner_of_mem_inserts statement isInsert
  · trivial

theorem foldl_effect_saving (tables : Tables) (set : RuleSet) (id : RoleId) :
    (set.saving id).foldl effect tables =
      (tables.clearRules id).withRules (set.scopeRows id) (set.fieldRows id) := by
  simp [saving, effect, foldl_effect_inserts]

theorem applyAll_saving {tables : Tables} {set : RuleSet} {id : RoleId}
    (isStored : (tables.role? id).isSome) :
    applyAll locale tables (set.saving id) =
      .ok ((tables.clearRules id).withRules (set.scopeRows id) (set.fieldRows id)) := by
  have opened : applyAll locale tables [begin, lockRole id, clearRules id] = .ok (tables.clearRules id) := by
    have isBegun : apply locale tables begin = .ok tables := rfl
    rw [applyAll_cons_of_ok isBegun, applyAll_cons_of_ok (apply_lockRole isStored)]
    rfl
  have inserted : applyAll locale (tables.clearRules id) (set.inserts id) =
      .ok ((tables.clearRules id).withRules (set.scopeRows id) (set.fieldRows id)) :=
    applyAll_inserts isStored (tables.vacant_clearRules id)
  have closed (reached : Tables) : applyAll locale reached [touchRole id, commit] = .ok reached := rfl
  simp only [saving, applyAll_append, opened, inserted, closed, Except.bind]

end RuleSet

namespace Role

open Statement

variable {locale : Locale}

def creating (role : Role) : List Statement :=
  [begin, insertRole role.row] ++ role.rules.inserts role.id ++ [commit]

theorem atomic_creating (role : Role) : Atomic role.creating := by
  have isTransaction : role.creating =
      begin :: ((insertRole role.row :: role.rules.inserts role.id) ++ [commit]) := by
    simp [creating]
  rw [isTransaction]
  refine .transaction fun statement isListed => ?_
  rcases List.mem_cons.mp isListed with rfl | isInsert
  · trivial
  · exact RuleSet.inner_of_mem_inserts statement isInsert

theorem foldl_effect_creating (tables : Tables) (role : Role) :
    role.creating.foldl effect tables = (tables.withRole role.row).withRules
      (role.rules.scopeRows role.id) (role.rules.fieldRows role.id) := by
  simp [creating, effect, Tables.withRole, RuleSet.foldl_effect_inserts]

theorem added_withRole (tables : Tables) (role : Role) :
    tables.Added role ((tables.withRole role.row).withRules
      (role.rules.scopeRows role.id) (role.rules.fieldRows role.id)) :=
  ⟨rfl, rfl, rfl, rfl⟩

theorem applyAll_creating {tables : Tables} {role : Role}
    (isNew : ∀ row ∈ tables.roles,
      row.id ≠ role.id ∧ locale.lower row.name ≠ locale.lower role.name)
    (areVacant : ∀ scope, tables.Vacant role.id scope) :
    applyAll locale tables role.creating = .ok ((tables.withRole role.row).withRules
      (role.rules.scopeRows role.id) (role.rules.fieldRows role.id)) := by
  have opened : applyAll locale tables [begin, insertRole role.row] = .ok (tables.withRole role.row) := by
    have isBegun : apply locale tables begin = .ok tables := rfl
    rw [applyAll_cons_of_ok isBegun, applyAll_cons_of_ok (apply_insertRole isNew)]
    rfl
  have inserted : applyAll locale (tables.withRole role.row) (role.rules.inserts role.id) =
      .ok ((tables.withRole role.row).withRules (role.rules.scopeRows role.id)
        (role.rules.fieldRows role.id)) :=
    RuleSet.applyAll_inserts (tables.role?_withRole role.row)
      fun scope => ⟨(areVacant scope).scopes, (areVacant scope).fields⟩
  have closed (reached : Tables) : applyAll locale reached [commit] = .ok reached := rfl
  simp only [creating, applyAll_append, opened, inserted, closed, Except.bind]

end Role

namespace Database

open Statement

theorem save_eq (database : Database) (id : RoleId) (rules : RuleSet) :
    database.save id rules = database.transact (rules.saving id) :=
  rfl

theorem create_of_withId {database : Database} {id : RoleId} {role : NewRole} {created : Role}
    (isMade : role.withId id = .ok created) :
    database.create id role = ((database.transact created.creating).1.map fun _ => created,
      (database.transact created.creating).2) := by
  have isNamed : created.id = id := (Role.make_eq_ok isMade).1
  simp only [create, isMade, Role.creating, isNamed]

/-- A role is not added if its identifier or its name is in use; the name is blamed for either. -/
theorem create_of_taken {database : Database} {id : RoleId} {role : NewRole} {created : Role}
    (isMade : role.withId id = .ok created)
    (isTaken : ∃ row ∈ database.tables.roles,
      row.id = created.id ∨ database.locale.lower row.name = database.locale.lower created.name)
    (passed : database.refusals.Pass 0 [begin, insertRole created.row]) :
    database.create id role = (.error (.nameTaken created.name), database) := by
  simp only [Refusals.pass_cons] at passed
  have isRejected : apply database.locale database.tables (insertRole created.row) =
      .error .uniqueness :=
    if_pos (by simpa [Role.row] using isTaken)
  have begun : database.answer 0 database.connect begin =
      .ok ⟨database.tables, some database.tables⟩ := answer_eq_ok_iff.mpr ⟨passed.1, rfl⟩
  have refused : database.answer 1 ⟨database.tables, some database.tables⟩ (insertRole created.row) =
      .error .uniqueness := by
    rw [answer, passed.2.1]
    change (apply database.locale database.tables (insertRole created.row)).map _ = _
    rw [isRejected]
    rfl
  have executed : (database.execute 0 database.connect created.creating).1 =
      .error (.nameTaken created.name) := by
    simp only [Role.creating, List.cons_append, execute_cons, begun, refused]
    rfl
  rw [create_of_withId isMade, transact_of_execute_error created.atomic_creating executed]
  rfl

/-- What it comes to that a role's rules are saved. -/
structure SavesWhole (database : Database) (id : RoleId) (rules : RuleSet) : Prop where
  whole : database.AllOrNothing (rules.saving id)
    (fun _ after => database.tables.Replaced id rules after) (database.save id rules)
  missing : database.tables.role? id = none →
    ∃ error, database.save id rules = (.error error, database) ∧
      (database.refusals 0 .begin = none → database.refusals 1 .lockRole = none →
        error = .roleMissing id)
  carriedOut : (database.tables.role? id).isSome → database.refusals.Pass 0 (rules.saving id) →
    ∃ after, database.save id rules = (.ok (), after)

/-- What it comes to that a role is created. The last case is that of new rows only. -/
structure CreatesWhole (database : Database) (id : RoleId) (role : NewRole) : Prop where
  blank : ∀ error, role.withId id = .error error → database.create id role = (.error error, database)
  whole : ∀ created, role.withId id = .ok created →
    database.AllOrNothing created.creating
      (fun value after => value = created ∧ database.tables.Added created after)
      (database.create id role)
  carriedOut : ∀ created, role.withId id = .ok created →
    (∀ row ∈ database.tables.roles,
      row.id ≠ id ∧ database.locale.lower row.name ≠ database.locale.lower created.name) →
    (∀ scope, database.tables.Vacant id scope) →
    database.refusals.Pass 0 created.creating →
    ∃ after, database.create id role = (.ok created, after)

theorem save_of_missing {database : Database} {id : RoleId} (isMissing : database.tables.role? id = none)
    (rules : RuleSet) : ∃ error, database.save id rules = (.error error, database) ∧
      (database.refusals 0 .begin = none → database.refusals 1 .lockRole = none →
        error = .roleMissing id) := by
  suffices isRejected : ∃ error,
      (database.execute 0 database.connect (rules.saving id)).1 = .error error ∧
        (database.refusals 0 .begin = none → database.refusals 1 .lockRole = none →
          error = .roleMissing id) by
    obtain ⟨error, executed, isCause⟩ := isRejected
    exact ⟨error, transact_of_execute_error (rules.atomic_saving id) executed, isCause⟩
  have noRow : apply database.locale database.tables (lockRole id) = .error .noRow := by
    simp [apply, isMissing]
  simp only [RuleSet.saving, List.cons_append, execute_cons, answer, kind]
  cases begun : database.refusals 0 .begin with
  | some code => simp
  | none =>
      cases locked : database.refusals 1 .lockRole with
      | some code => simp [connect, Connection.take]
      | none => simp [connect, Connection.take, Connection.tables, noRow, Except.map, Statement.failure]

theorem save_whole (database : Database) (id : RoleId) (rules : RuleSet) :
    database.SavesWhole id rules where
  whole := by
    rw [save_eq]
    refine (transact_allOrNothing (rules.atomic_saving id)).mono ?_
    rintro _ _ rfl
    rw [RuleSet.foldl_effect_saving]
    exact database.tables.replaced_withRules id rules
  missing := fun isMissing => save_of_missing isMissing rules
  carriedOut := by
    intro isStored passed
    exact ⟨_, transact_of_pass (rules.atomic_saving id) passed (RuleSet.applyAll_saving isStored)⟩

theorem create_whole (database : Database) (id : RoleId) (role : NewRole) :
    database.CreatesWhole id role where
  blank := by
    intro error isBlank
    simp [create, isBlank]
  whole := by
    intro created isMade
    rw [create_of_withId isMade]
    refine ((transact_allOrNothing created.atomic_creating).map fun _ => created).mono ?_
    rintro _ _ ⟨_, rfl, rfl⟩
    rw [Role.foldl_effect_creating]
    exact ⟨rfl, Role.added_withRole database.tables created⟩
  carriedOut := by
    intro created isMade isNew areVacant passed
    obtain ⟨rfl, _⟩ := Role.make_eq_ok isMade
    rw [create_of_withId isMade,
      transact_of_pass created.atomic_creating passed (Role.applyAll_creating isNew areVacant)]
    exact ⟨_, rfl⟩

/-- Saving and creating write whole or not at all, at whatever statement the server rejects them, for
tables of any content and refusals of any pattern. -/
theorem writes_whole (database : Database) (id : RoleId) :
    (∀ rules, database.SavesWhole id rules) ∧ ∀ role, database.CreatesWhole id role :=
  ⟨database.save_whole id, database.create_whole id⟩

end Database

end Rolebook
