import Rolebook.Proofs.Store.Decoding
import Rolebook.Proofs.Store.Memory
import Rolebook.Proofs.Store.Reads
import Rolebook.Proofs.Store.TableLaws

/-!
The list of all roles and the roles that are found one by one. To list the roles is to read each role row
with the rule rows of that role, which is what finding the role does as well. So the list has the roles that
are found, in the order in which the server lists their rows, whatever that is, and if one of them is not
found, the list fails as that one does.
-/

namespace Rolebook

namespace RoleRow

variable {row : RoleRow} {scopeRows : List ScopeRow} {fieldRows : List FieldRow} {role : Role}

theorem read_eq_ok_iff : row.read scopeRows fieldRows = .ok role ↔
    ∃ rules, RuleSet.ofRows row.id scopeRows fieldRows = .ok rules ∧ row.toRole rules = .ok role := by
  unfold read
  cases decoded : RuleSet.ofRows row.id scopeRows fieldRows <;> simp [bind, Except.bind]

theorem id_of_read (isRead : row.read scopeRows fieldRows = .ok role) : role.id = row.id := by
  obtain ⟨rules, -, isMade⟩ := read_eq_ok_iff.mp isRead
  unfold toRole at isMade
  exact (Role.make_eq_ok isMade).1

end RoleRow

namespace Tables

/-- The same rows, with those of the rules in any order. -/
structure Reordered (before after : Tables) : Prop where
  roles : after.roles = before.roles
  scopes : before.scopes.Perm after.scopes
  fields : before.fields.Perm after.fields

variable {before after : Tables}

/-- The order in which rule rows come does not matter to a role that they make up. -/
theorem Reordered.read_eq_ok (reordered : before.Reordered after) {row : RoleRow} {role : Role}
    (isRead : before.read row = .ok role) : after.read row = .ok role := by
  obtain ⟨rules, decoded, isMade⟩ := RoleRow.read_eq_ok_iff.mp isRead
  refine RoleRow.read_eq_ok_iff.mpr ⟨rules, RuleSet.ofRows_eq_ok_iff.mpr ?_, isMade⟩
  exact RuleSet.ofRows?_reorder (reordered.scopes.filter _) (reordered.fields.filter _)
    (RuleSet.ofRows_eq_ok_iff.mp decoded)

theorem Reordered.symm (reordered : before.Reordered after) : after.Reordered before :=
  ⟨reordered.roles.symm, reordered.scopes.symm, reordered.fields.symm⟩

theorem Reordered.read_eq_ok_iff (reordered : before.Reordered after) {row : RoleRow} {role : Role} :
    after.read row = .ok role ↔ before.read row = .ok role :=
  ⟨reordered.symm.read_eq_ok, reordered.read_eq_ok⟩

theorem Reordered.mapM_read_eq_ok_iff (reordered : before.Reordered after) {rows : List RoleRow}
    {roles : List Role} : rows.mapM after.read = .ok roles ↔ rows.mapM before.read = .ok roles := by
  simp only [mapM_eq_ok_iff]
  induction rows generalizing roles with
  | nil => simp
  | cons row rest ih =>
      cases roles with
      | nil => simp
      | cons role others => simp only [List.map_cons, List.cons.injEq, reordered.read_eq_ok_iff, ih]

theorem SameRows.read_eq {row : RoleRow} (same : before.SameRows after row.id) :
    after.read row = before.read row := by
  rw [read, same.scopes, same.fields, read]

end Tables

namespace Database

theorem mem_rolesByName {database : Database} {row : RoleRow} :
    row ∈ database.rolesByName ↔ row ∈ database.tables.roles :=
  database.rolesByName_perm.mem_iff

/-- The server carries out every statement that reads roles. -/
structure Answers (database : Database) : Prop where
  listing : database.refusals.Pass 0 listing
  finding : ∀ id, database.refusals.Pass 0 (finding id)

/-- What the list of all roles owes to the roles that are found one by one. -/
structure ListsAsFound (database : Database) : Prop where
  succeeds : (∃ roles, database.list = .ok roles) ↔
    ∀ row ∈ database.tables.roles, ∃ role, database.find row.id = .ok (some role)
  roles : ∀ roles, database.list = .ok roles →
    (database.rolesByName.map fun row => database.find row.id) =
      roles.map fun role => .ok (some role)
  fails : ∀ error, database.list = .error error ↔
    FaultIn database.rolesByName fun earlier row =>
      (∀ other ∈ earlier, ∃ role, database.find other.id = .ok (some role)) ∧
        database.find row.id = .error error
  /-- Only the rows of a role have a say in what becomes of it. -/
  apart : ∀ other : Database, other.Answers → (other.tables.roles.map RoleRow.id).Nodup →
    ∀ id, database.tables.SameRows other.tables id → other.find id = database.find id ∧
      ∀ roles others, database.list = .ok roles → other.list = .ok others →
        ∀ role, role.id = id → (role ∈ others ↔ role ∈ roles)
  /-- The order in which the rule rows come has none. -/
  reordered : ∀ other : Database, other.Answers → database.tables.Reordered other.tables →
    (other.locale = database.locale →
      ∀ roles, other.list = .ok roles ↔ database.list = .ok roles) ∧
      ∀ id role, other.find id = .ok (some role) ↔ database.find id = .ok (some role)

variable {database other : Database}

theorem Answers.find_eq_some_iff (answers : database.Answers) {id : RoleId} {role : Role} :
    database.find id = .ok (some role) ↔
      ∃ row, database.tables.role? id = some row ∧ database.tables.read row = .ok role := by
  rw [find_of_pass (answers.finding id)]
  cases database.tables.role? id with
  | none => simp
  | some row => cases isRead : database.tables.read row <;> simp [Except.map, isRead]

section Distinct

variable (answers : database.Answers) (distinct : (database.tables.roles.map RoleRow.id).Nodup)

include answers distinct

theorem Answers.find_row {row : RoleRow} (isStored : row ∈ database.tables.roles) :
    database.find row.id = (database.tables.read row).map some := by
  have located : database.tables.role? row.id = some row :=
    (find?_key_eq_some_iff distinct).mpr ⟨isStored, rfl⟩
  rw [find_of_pass (answers.finding row.id), located]

theorem Answers.find_row_eq_ok_iff {row : RoleRow} (isStored : row ∈ database.tables.roles) {role : Role} :
    database.find row.id = .ok (some role) ↔ database.tables.read row = .ok role := by
  rw [answers.find_row distinct isStored]
  cases database.tables.read row <;> simp [Except.map]

theorem Answers.find_row_eq_error_iff {row : RoleRow} (isStored : row ∈ database.tables.roles)
    {error : ServiceError} :
    database.find row.id = .error error ↔ database.tables.read row = .error error := by
  rw [answers.find_row distinct isStored]
  cases database.tables.read row <;> simp [Except.map]

theorem Answers.list_eq_ok_iff {roles : List Role} :
    database.list = .ok roles ↔ database.rolesByName.mapM database.tables.read = .ok roles := by
  rw [list_of_pass answers.listing distinct]

theorem Answers.mem_list_iff {roles : List Role} (isList : database.list = .ok roles) {role : Role} :
    role ∈ roles ↔ database.find role.id = .ok (some role) := by
  rw [mem_of_mapM ((answers.list_eq_ok_iff distinct).mp isList), answers.find_eq_some_iff]
  constructor
  · rintro ⟨row, isListed, isRead⟩
    have isStored := mem_rolesByName.mp isListed
    exact ⟨row, (find?_key_eq_some_iff distinct).mpr ⟨isStored, (RoleRow.id_of_read isRead).symm⟩, isRead⟩
  · rintro ⟨row, located, isRead⟩
    exact ⟨row, mem_rolesByName.mpr (List.mem_of_find?_eq_some located), isRead⟩

end Distinct

/-- The role that is found is made up of its own rows and of no others. -/
theorem Answers.find_eq (answers : database.Answers) (othersAnswer : other.Answers) {id : RoleId}
    (same : database.tables.SameRows other.tables id) : other.find id = database.find id := by
  rw [find_of_pass (answers.finding id), find_of_pass (othersAnswer.finding id), same.role]
  cases located : database.tables.role? id with
  | none => rfl
  | some row =>
      obtain rfl : row.id = id := by simpa using List.find?_some located
      simp only [same.read_eq]

/-- Whatever the tables hold, as long as no two role rows have one identifier: the list of all roles agrees
with the roles that are found one by one. -/
theorem lists_as_found (answers : database.Answers)
    (distinct : (database.tables.roles.map RoleRow.id).Nodup) : database.ListsAsFound where
  succeeds := by
    simp only [answers.list_eq_ok_iff distinct]
    constructor
    · rintro ⟨roles, areRead⟩ row isStored
      obtain ⟨role, isRead⟩ := exists_of_mapM areRead (mem_rolesByName.mpr isStored)
      exact ⟨role, (answers.find_row_eq_ok_iff distinct isStored).mpr isRead⟩
    · intro areFound
      apply exists_mapM_of_forall
      intro row isListed
      have isStored := mem_rolesByName.mp isListed
      obtain ⟨role, isFound⟩ := areFound row isStored
      exact ⟨role, (answers.find_row_eq_ok_iff distinct isStored).mp isFound⟩
  roles roles isList := by
    have areRead := mapM_eq_ok_iff.mp ((answers.list_eq_ok_iff distinct).mp isList)
    calc database.rolesByName.map (fun row => database.find row.id)
      _ = database.rolesByName.map (fun row => (database.tables.read row).map some) :=
          List.map_congr_left fun _ isListed =>
            answers.find_row distinct (mem_rolesByName.mp isListed)
      _ = (database.rolesByName.map database.tables.read).map (Except.map some) := by simp
      _ = roles.map fun role => .ok (some role) := by simp [areRead, Except.map]
  fails error := by
    rw [list_of_pass answers.listing distinct, mapM_eq_error_iff]
    apply faultIn_congr
    intro earlier row later isSplit
    have isStored : ∀ other ∈ earlier ++ row :: later, other ∈ database.tables.roles := fun other isListed =>
      mem_rolesByName.mp (isSplit ▸ isListed)
    have areStored : ∀ other ∈ earlier, other ∈ database.tables.roles := fun other isEarlier =>
      isStored other (List.mem_append_left _ isEarlier)
    rw [answers.find_row_eq_error_iff distinct (isStored row (by simp))]
    refine and_congr_left fun _ => forall₂_congr fun other isEarlier => ?_
    simp only [answers.find_row_eq_ok_iff distinct (areStored other isEarlier)]
  apart other othersAnswer distinctToo id same := by
    have sameFound := answers.find_eq othersAnswer same
    refine ⟨sameFound, ?_⟩
    rintro roles others isList areOthers role rfl
    rw [answers.mem_list_iff distinct isList, othersAnswer.mem_list_iff distinctToo areOthers, sameFound]
  reordered other othersAnswer reordered := by
    have distinctToo : (other.tables.roles.map RoleRow.id).Nodup := by rwa [reordered.roles]
    constructor
    · intro sameLocale roles
      have sameOrder : other.rolesByName = database.rolesByName := by
        rw [rolesByName, sameLocale, reordered.roles, rolesByName]
      rw [answers.list_eq_ok_iff distinct, othersAnswer.list_eq_ok_iff distinctToo, sameOrder,
        reordered.mapM_read_eq_ok_iff]
    · intro id role
      rw [answers.find_eq_some_iff, othersAnswer.find_eq_some_iff, Tables.role?, reordered.roles]
      simp only [reordered.read_eq_ok_iff]
      rfl

end Database

section Ledger

/-- Three roles in no order, and rule rows that are mixed up. -/
def Tables.ledger : Tables where
  roles := [⟨⟨⟨3⟩⟩, "warden", none, false⟩, ⟨⟨⟨1⟩⟩, "Clerk", none, false⟩, ⟨⟨⟨2⟩⟩, "auditor", none, true⟩]
  scopes := [⟨⟨⟨1⟩⟩, "EMPLOYEE_RECORDS", "VIEW"⟩, ⟨⟨⟨3⟩⟩, "RBAC_ADMIN", "edit"⟩,
    ⟨⟨⟨1⟩⟩, "RBAC_ADMIN", "NONE"⟩]
  fields := [⟨⟨⟨1⟩⟩, "EMPLOYEE_RECORDS", "dob", "NONE"⟩]
  actors := []

def Database.ledger : Database :=
  ⟨.ledger, .none, .plain⟩

/-- The same with a repeated rule of the warden and an unknown level of the auditor. -/
def Database.tornLedger : Database :=
  ⟨{ Tables.ledger with scopes :=
    ⟨⟨⟨3⟩⟩, "RBAC_ADMIN", "VIEW"⟩ :: Tables.ledger.scopes ++ [⟨⟨⟨2⟩⟩, "RBAC_ADMIN", "READ"⟩] }, .none, .plain⟩

theorem Database.rolesByName_ledger : Database.ledger.rolesByName =
    [⟨⟨⟨2⟩⟩, "auditor", none, true⟩, ⟨⟨⟨1⟩⟩, "Clerk", none, false⟩, ⟨⟨⟨3⟩⟩, "warden", none, false⟩] :=
  (sorted_of_perm (by decide) (by decide)).trans (List.mergeSort_of_pairwise (by decide))

/-- The torn list fails as the auditor does, whose name comes first. The clerk is what it was. -/
theorem Database.lists_as_found_ledger :
    (∃ roles, Database.ledger.list = .ok roles ∧
      [⟨⟨2⟩⟩, ⟨⟨1⟩⟩, ⟨⟨3⟩⟩].map Database.ledger.find = roles.map fun role => .ok (some role)) ∧
    (∃ error, Database.tornLedger.find ⟨⟨2⟩⟩ = .error error ∧ Database.tornLedger.list = .error error) ∧
    Database.tornLedger.find ⟨⟨1⟩⟩ = Database.ledger.find ⟨⟨1⟩⟩ := by
  have answers : Database.ledger.Answers := ⟨fun _ _ _ => rfl, fun _ _ _ _ => rfl⟩
  have tornAnswers : Database.tornLedger.Answers := ⟨fun _ _ _ => rfl, fun _ _ _ _ => rfl⟩
  have whole := lists_as_found answers (by decide)
  have torn := lists_as_found tornAnswers (by decide)
  have areFound : ∀ row ∈ Tables.ledger.roles, ∃ role, Database.ledger.find row.id = .ok (some role) := by
    intro row isStored
    simp only [Tables.ledger, List.mem_cons, List.not_mem_nil, or_false] at isStored
    rcases isStored with rfl | rfl | rfl <;> exact ⟨_, rfl⟩
  refine ⟨?_, ?_, ?_⟩
  · obtain ⟨roles, isList⟩ := whole.succeeds.mpr areFound
    refine ⟨roles, isList, ?_⟩
    rw [← whole.roles roles isList]
    rw [rolesByName_ledger]
    rfl
  · refine ⟨_, rfl, (torn.fails _).mpr ?_⟩
    change FaultIn Database.ledger.rolesByName _
    rw [rolesByName_ledger]
    exact ⟨[], _, _, rfl, by simp, rfl⟩
  · exact (whole.apart _ tornAnswers (by decide) ⟨⟨1⟩⟩ ⟨rfl, rfl, rfl⟩).1

end Ledger

end Rolebook
