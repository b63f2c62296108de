import Rolebook.Store.Repository
import Rolebook.Store.Statement

/-!
Roles kept in database tables. One role is read by selecting its rows; all roles are read by selecting
every row and dealing the rule rows out to their roles. Writes are single transactions.
-/

namespace Rolebook

namespace RuleSet

def insertRule (role : RoleId) (rule : Rule) : List Statement :=
  .insertScope (rule.scopeRow role) :: (rule.fieldRows role).map .insertField

def inserts (set : RuleSet) (role : RoleId) : List Statement :=
  set.toList.flatMap (insertRule role)

end RuleSet

/-- Rows dealt out by role, in their order. -/
def dealOut {Row : Type} (owner : Row → RoleId) (rows : List Row) : OrderedMap RoleId (List Row) :=
  rows.foldl (fun dealt row => dealt.insert (owner row) ((dealt.get? (owner row)).getD [] ++ [row]))
    .empty

namespace Database

def find (database : Database) (id : RoleId) : Except ServiceError (Option Role) := do
  let opened ← database.read 0 database.connect [.begin, .isolate, .loadRole id]
  let snapshot := opened.tables
  match snapshot.role? id with
  | none => return none
  | some row =>
      let _ ← database.read 3 opened [.loadScopes id, .loadFields id, .finish]
      let role ← row.read (snapshot.scopesOf id) (snapshot.fieldsOf id)
      return some role

/-- The roles of the rows, each of which takes its rule rows out of what was dealt. -/
def readRoles (scopes : OrderedMap RoleId (List ScopeRow)) (fields : OrderedMap RoleId (List FieldRow)) :
    List RoleRow → Except ServiceError (List Role)
  | [] => .ok []
  | row :: rest => do
      let role ← row.read ((scopes.get? row.id).getD []) ((fields.get? row.id).getD [])
      let others ← readRoles (scopes.erase row.id) (fields.erase row.id) rest
      return role :: others

def list (database : Database) : Except ServiceError (List Role) := do
  let opened ← database.read 0 database.connect [.begin, .isolate, .listRoles, .listScopes, .listFields]
  let snapshot := opened.tables
  let _ ← database.read 5 opened [.finish]
  readRoles (dealOut ScopeRow.role snapshot.scopes) (dealOut FieldRow.role snapshot.fields)
    (database.locale.order snapshot.roles)

/-- The name is looked at before any statement is sent. -/
def create (database : Database) (id : RoleId) (role : NewRole) :
    Except ServiceError Role × Database :=
  match role.withId id with
  | .error error => (.error error, database)
  | .ok created =>
      let (outcome, after) := database.transact
        ([.begin, .insertRole created.row] ++ created.rules.inserts id ++ [.commit])
      (outcome.map fun _ => created, after)

def save (database : Database) (id : RoleId) (rules : RuleSet) :
    Except ServiceError Unit × Database :=
  database.transact
    ([.begin, .lockRole id, .clearRules id] ++ rules.inserts id ++ [.touchRole id, .commit])

def delete (database : Database) (id : RoleId) : Except ServiceError Unit × Database :=
  database.transact [.deleteRole id]

instance : Repository Database where
  find := find
  list := list
  create := create
  save := save
  delete := delete

def setActor (database : Database) (actor : ActorId) (id : RoleId) : Database :=
  { database with
    tables.actors := database.tables.actors.filter (fun entry => entry.1 ≠ actor) ++ [(actor, id)] }

/-- Replaces the stored rules of a role, and its stored name if one is given, without a check. A role
that is not stored stays so. -/
def setRows (database : Database) (id : RoleId) (name : Option String) (scopes : List ScopeRow)
    (fields : List FieldRow) : Database :=
  if (database.tables.role? id).isNone then database
  else
    let cleared := database.tables.clearRules id
    { database with
      tables := { cleared with
        roles := cleared.roles.map fun row =>
          if row.id = id then { row with name := name.getD row.name } else row
        scopes := cleared.scopes ++ scopes
        fields := cleared.fields ++ fields } }

def setRefusal (database : Database) (kind : StatementKind) (code : Option String) : Database :=
  { database with refusals := database.refusals.set kind code }

end Database

end Rolebook
