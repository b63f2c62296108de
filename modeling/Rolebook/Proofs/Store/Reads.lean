import Rolebook.Proofs.Store.Transaction
import Rolebook.Store.Relational

/-!
What reads from the tables come to. Rows are dealt out to their roles in their order, and as no role
occurs twice, none misses the rows that another one took. So each listed role is read of the rows that it
would be read of alone.
-/

namespace Rolebook

def dealtTo {Row : Type} (dealt : OrderedMap RoleId (List Row)) (id : RoleId) : List Row :=
  (dealt.get? id).getD []

theorem dealtTo_erase {Row : Type} (dealt : OrderedMap RoleId (List Row)) {id other : RoleId}
    (different : other ≠ id) : dealtTo (dealt.erase id) other = dealtTo dealt other := by
  simp [dealtTo, different]

theorem dealtTo_dealOut {Row : Type} (owner : Row → RoleId) (rows : List Row) (id : RoleId) :
    dealtTo (dealOut owner rows) id = rows.filter fun row => owner row = id := by
  suffices isDealt : ∀ start : OrderedMap RoleId (List Row),
      dealtTo (rows.foldl (fun dealt row => dealt.insert (owner row) (dealtTo dealt (owner row) ++ [row]))
        start) id = dealtTo start id ++ rows.filter fun row => owner row = id by
    simpa [dealOut, dealtTo] using isDealt .empty
  induction rows with
  | nil => simp
  | cons row rest inductionHypothesis =>
      intro start
      rw [List.foldl_cons, inductionHypothesis]
      by_cases isOwner : owner row = id
      · simp [dealtTo, isOwner]
      · have different : id ≠ owner row := fun same => isOwner same.symm
        simp [dealtTo, isOwner, different]

section Order

variable {Item : Type} {name : Item → String}

/-- The order of items that no name is shared by does not depend on the order that they had before. -/
theorem sorted_of_perm {items others : List Item} (reordered : items.Perm others)
    (toldApart : ∀ left ∈ items, ∀ right ∈ items,
      Text.lowercase (name left) = Text.lowercase (name right) → left = right) :
    items.mergeSort (notBehind name) = others.mergeSort (notBehind name) := by
  have sameItems := (List.mergeSort_perm items (notBehind name)).trans
    (reordered.trans (List.mergeSort_perm others (notBehind name)).symm)
  refine List.Perm.eq_of_pairwise ?_ (pairwise_sorted items) (pairwise_sorted others) sameItems
  intro left right isLeft isRight isBefore isAfter
  have isLeftItem : left ∈ items := List.mem_mergeSort.mp isLeft
  have isRightItem : right ∈ items := reordered.mem_iff.mpr (List.mem_mergeSort.mp isRight)
  apply toldApart left isLeftItem right isRightItem
  exact Std.LawfulEqCmp.compare_eq_iff_eq.mp (Std.OrientedCmp.isLE_antisymm isBefore isAfter)

end Order

namespace Tables

def read (tables : Tables) (row : RoleRow) : Except ServiceError Role :=
  row.read (tables.scopesOf row.id) (tables.fieldsOf row.id)

end Tables

namespace Refusals

/-- What becomes of statements that the tables admit: the first of them that is refused fails. -/
def hear (refusals : Refusals) (place : Nat) : List Statement → Except ServiceError Unit
  | [] => .ok ()
  | statement :: rest =>
      match refusals place statement.kind with
      | some code => .error (statement.failure (.code code))
      | .none => refusals.hear (place + 1) rest

theorem hear_eq_ok_iff {refusals : Refusals} {place : Nat} {statements : List Statement} :
    refusals.hear place statements = .ok () ↔ refusals.Pass place statements := by
  induction statements generalizing place with
  | nil => simp [hear]
  | cons statement rest inductionHypothesis =>
      rw [hear, pass_cons]
      cases refusals place statement.kind with
      | some code => simp
      | none => simp [inductionHypothesis]

end Refusals

namespace Database

theorem rolesByName_perm (database : Database) : database.rolesByName.Perm database.tables.roles :=
  database.locale.order_perm _

theorem readRoles_eq_mapM {scopes : OrderedMap RoleId (List ScopeRow)}
    {fields : OrderedMap RoleId (List FieldRow)} {rows : List RoleRow}
    (distinct : (rows.map RoleRow.id).Nodup) :
    readRoles scopes fields rows =
      rows.mapM fun row => row.read (dealtTo scopes row.id) (dealtTo fields row.id) := by
  induction rows generalizing scopes fields with
  | nil => rfl
  | cons row rest inductionHypothesis =>
      rw [List.map_cons, List.nodup_cons] at distinct
      have kept : rest.mapM (fun other =>
          other.read (dealtTo (scopes.erase row.id) other.id) (dealtTo (fields.erase row.id) other.id)) =
          rest.mapM fun other => other.read (dealtTo scopes other.id) (dealtTo fields other.id) := by
        apply mapM_congr
        intro other isListed
        have different : other.id ≠ row.id := fun same =>
          distinct.1 (List.mem_map.mpr ⟨other, isListed, same⟩)
        rw [dealtTo_erase scopes different, dealtTo_erase fields different]
      rw [readRoles, List.mapM_cons, inductionHypothesis distinct.2, kept]
      simp only [dealtTo]

theorem execute_of_takeAll {database : Database} (place : Nat) {connection next : Connection}
    {statements : List Statement}
    (taken : connection.takeAll database.locale statements = .ok next) :
    (database.execute place connection statements).1 = database.refusals.hear place statements := by
  induction statements generalizing place connection with
  | nil => rfl
  | cons statement rest inductionHypothesis =>
      rw [Connection.takeAll_cons] at taken
      cases head : connection.take database.locale statement with
      | error rejection => rw [head] at taken; cases taken
      | ok reached =>
          rw [head] at taken
          rw [execute, Refusals.hear, head]
          cases database.refusals place statement.kind with
          | some code => rfl
          | none => exact inductionHypothesis _ taken

/-- Whether statements that the tables admit are carried out depends on the refusals alone. -/
theorem read_of_takeAll {database : Database} {place : Nat} {connection next : Connection}
    {statements : List Statement}
    (taken : connection.takeAll database.locale statements = .ok next) :
    database.read place connection statements =
      (database.refusals.hear place statements).map fun _ => next := by
  have heard := execute_of_takeAll place taken
  cases outcome : database.refusals.hear place statements with
  | error error =>
      have executed : database.execute place connection statements =
          (.error error, (database.execute place connection statements).2) :=
        Prod.ext (heard.trans outcome) rfl
      rw [read, executed]
      rfl
  | ok =>
      rw [read, execute_eq_ok_iff.mpr ⟨Refusals.hear_eq_ok_iff.mp outcome, taken⟩]
      rfl

def finding (id : RoleId) : List Statement :=
  [.begin, .isolate, .loadRole id, .loadScopes id, .loadFields id, .finish]

def listing : List Statement :=
  [.begin, .isolate, .listRoles, .listScopes, .listFields, .finish]

/-- What is found depends on the refusals and on the rows of the role. -/
theorem find_eq_hear (database : Database) (id : RoleId) :
    database.find id = (do
      database.refusals.hear 0 [.begin, .isolate, .loadRole id]
      match database.tables.role? id with
      | none => return none
      | some row =>
          database.refusals.hear 3 [.loadScopes id, .loadFields id, .finish]
          let role ← row.read (database.tables.scopesOf id) (database.tables.fieldsOf id)
          return some role) := by
  have opened : database.read 0 database.connect [.begin, .isolate, .loadRole id] =
      (database.refusals.hear 0 [.begin, .isolate, .loadRole id]).map fun _ =>
        ⟨database.tables, some database.tables⟩ := read_of_takeAll rfl
  have closed : database.read 3 ⟨database.tables, some database.tables⟩
      [.loadScopes id, .loadFields id, .finish] =
      (database.refusals.hear 3 [.loadScopes id, .loadFields id, .finish]).map fun _ =>
        ⟨database.tables, none⟩ := read_of_takeAll rfl
  rw [find, opened]
  cases database.refusals.hear 0 [.begin, .isolate, .loadRole id] with
  | error error => rfl
  | ok =>
      simp only [Except.map, bind, Except.bind, Connection.tables, Option.getD_some]
      cases database.tables.role? id with
      | none => rfl
      | some row =>
          simp only [closed]
          cases database.refusals.hear 3 [.loadScopes id, .loadFields id, .finish] <;> rfl

theorem pass_finding_iff {refusals : Refusals} {id : RoleId} :
    refusals.Pass 0 (finding id) ↔ refusals.hear 0 [.begin, .isolate, .loadRole id] = .ok () ∧
      refusals.hear 3 [.loadScopes id, .loadFields id, .finish] = .ok () := by
  simp [finding, Refusals.hear_eq_ok_iff, and_assoc]

theorem find_of_pass {database : Database} {id : RoleId}
    (passed : database.refusals.Pass 0 (finding id)) :
    database.find id =
      match database.tables.role? id with
      | none => .ok none
      | some row => (database.tables.read row).map some := by
  obtain ⟨isRead, areRead⟩ := pass_finding_iff.mp passed
  rw [find_eq_hear, isRead, areRead]
  cases located : database.tables.role? id with
  | none => rfl
  | some row =>
      obtain rfl : row.id = id := by simpa using List.find?_some located
      change (row.read _ _).bind _ = (row.read _ _).map some
      cases row.read _ _ <;> rfl

theorem list_of_pass {database : Database} (passed : database.refusals.Pass 0 listing)
    (distinct : (database.tables.roles.map RoleRow.id).Nodup) :
    database.list = database.rolesByName.mapM database.tables.read := by
  simp only [listing, Refusals.pass_cons] at passed
  have opened : database.read 0 database.connect
      [.begin, .isolate, .listRoles, .listScopes, .listFields] =
      .ok ⟨database.tables, some database.tables⟩ := by
    rw [read_of_takeAll rfl, Refusals.hear_eq_ok_iff.mpr (by simp [passed])]
    rfl
  have closed : database.read 5 ⟨database.tables, some database.tables⟩ [.finish] =
      .ok ⟨database.tables, none⟩ := by
    rw [read_of_takeAll rfl, Refusals.hear_eq_ok_iff.mpr (by simp [passed])]
    rfl
  have areDistinct : (database.rolesByName.map RoleRow.id).Nodup :=
    (database.rolesByName_perm.map _).nodup_iff.mpr distinct
  have isList : database.list = readRoles (dealOut ScopeRow.role database.tables.scopes)
      (dealOut FieldRow.role database.tables.fields) database.rolesByName := by
    simp only [list, opened, closed, bind, Except.bind]
    rfl
  rw [isList, readRoles_eq_mapM areDistinct]
  simp only [dealtTo_dealOut]
  rfl

end Database

end Rolebook
