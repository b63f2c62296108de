import Rolebook.Store.Locale

/-!
Database statements over the tables of roles, and transactions made of them. The server keeps keys and
references: names of roles are unique in small letters, rules belong to stored roles, and a role that an
actor has, stored or not, is not deleted. A transaction works on a copy of the tables, which takes their
place when it is committed. If the connection is given up before that, the copy is lost.
-/

namespace Rolebook

structure Tables where
  roles : List RoleRow
  scopes : List ScopeRow
  fields : List FieldRow
  actors : List (ActorId × RoleId)

namespace Tables

def empty : Tables :=
  ⟨[], [], [], []⟩

def role? (tables : Tables) (id : RoleId) : Option RoleRow :=
  tables.roles.find? fun row => row.id == id

def scopesOf (tables : Tables) (id : RoleId) : List ScopeRow :=
  tables.scopes.filter fun row => row.role = id

def fieldsOf (tables : Tables) (id : RoleId) : List FieldRow :=
  tables.fields.filter fun row => row.role = id

def clearRules (tables : Tables) (id : RoleId) : Tables :=
  { tables with
    scopes := tables.scopes.filter fun row => row.role ≠ id
    fields := tables.fields.filter fun row => row.role ≠ id }

end Tables

/-- What a server is asked to do. The last statement of a transaction is `commit` after writes and
`finish` after reads. -/
inductive Statement where
  | begin
  | isolate
  | commit
  | finish
  | loadRole (id : RoleId)
  | loadScopes (id : RoleId)
  | loadFields (id : RoleId)
  | listRoles
  | listScopes
  | listFields
  | insertRole (row : RoleRow)
  | insertScope (row : ScopeRow)
  | insertField (row : FieldRow)
  | lockRole (id : RoleId)
  | clearRules (id : RoleId)
  | touchRole (id : RoleId)
  | deleteRole (id : RoleId)
  deriving DecidableEq

inductive StatementKind where
  | begin
  | snapshot
  | commit
  | loadRole
  | loadScopes
  | loadFields
  | listRoles
  | insertRole
  | insertScope
  | insertField
  | lockRole
  | clearRules
  | touchRole
  | deleteRole
  deriving DecidableEq

/-- Why a server did not carry out a statement: it answered with a code, or no row was met. -/
inductive Rejection where
  | code (code : String)
  | noRow
  deriving DecidableEq

namespace Rejection

/-- The code of a repeated key. -/
def uniqueness : Rejection :=
  code "23505"

/-- The code of a broken reference. -/
def reference : Rejection :=
  code "23503"

end Rejection

namespace Statement

def kind : Statement → StatementKind
  | begin => .begin
  | isolate => .snapshot
  | commit | finish => .commit
  | loadRole _ => .loadRole
  | loadScopes _ | listScopes => .loadScopes
  | loadFields _ | listFields => .loadFields
  | listRoles => .listRoles
  | insertRole _ => .insertRole
  | insertScope _ => .insertScope
  | insertField _ => .insertField
  | lockRole _ => .lockRole
  | clearRules _ => .clearRules
  | touchRole _ => .touchRole
  | deleteRole _ => .deleteRole

def apply (locale : Locale) (tables : Tables) : Statement → Except Rejection Tables
  | insertRole row =>
      if tables.roles.any fun other =>
          other.id == row.id || locale.lower other.name == locale.lower row.name then
        .error .uniqueness
      else
        .ok { tables with roles := tables.roles ++ [row] }
  | insertScope row =>
      if (tables.role? row.role).isNone then .error .reference
      else if tables.scopes.any fun other => other.role == row.role && other.scope == row.scope then
        .error .uniqueness
      else
        .ok { tables with scopes := tables.scopes ++ [row] }
  | insertField row =>
      if tables.scopes.all fun other => !(other.role == row.role && other.scope == row.scope) then
        .error .reference
      else if tables.fields.any fun other =>
          other.role == row.role && other.scope == row.scope && other.field == row.field then
        .error .uniqueness
      else
        .ok { tables with fields := tables.fields ++ [row] }
  | lockRole id => if (tables.role? id).isNone then .error .noRow else .ok tables
  | clearRules id => .ok (tables.clearRules id)
  | deleteRole id =>
      if tables.actors.any fun entry => entry.2 == id then .error .reference
      else if (tables.role? id).isNone then .error .noRow
      else
        .ok { tables.clearRules id with roles := tables.roles.filter fun row => row.id ≠ id }
  | begin | isolate | commit | finish | loadRole _ | loadScopes _ | loadFields _ | listRoles
  | listScopes | listFields | touchRole _ => .ok tables

def failure (rejection : Rejection) : Statement → ServiceError
  | begin => .failedTo "begin transaction"
  | isolate => .failedTo "set snapshot isolation"
  | commit => .failedTo "commit transaction"
  | finish => .failedTo "finish read snapshot"
  | loadRole _ => .failedTo "load role"
  | loadScopes _ => .failedTo "load scope rules"
  | loadFields _ => .failedTo "load field rules"
  | listRoles => .failedTo "list roles"
  | listScopes => .failedTo "list scope rules"
  | listFields => .failedTo "list field rules"
  | insertRole row => if rejection = .uniqueness then .nameTaken row.name else .failedTo "create role"
  | insertScope _ => .failedTo "persist scope rule"
  | insertField _ => .failedTo "persist field rule"
  | lockRole id => if rejection = .noRow then .roleMissing id else .failedTo "lock role"
  | clearRules _ => .failedTo "clear scope rules"
  | touchRole _ => .failedTo "touch role"
  | deleteRole id =>
      if rejection = .reference then .roleAssigned id
      else if rejection = .noRow then .roleMissing id
      else .failedTo "delete role"

end Statement

/-- When the server rejects a statement of its own accord: the code by the statement's place in its
transaction and by its kind. -/
abbrev Refusals := Nat → StatementKind → Option String

namespace Refusals

def none : Refusals :=
  fun _ _ => .none

def set (refusals : Refusals) (kind : StatementKind) (code : Option String) : Refusals :=
  fun place asked => if asked = kind then code else refusals place asked

end Refusals

/-- The stored tables, and the copy that a transaction works on while it is open. -/
structure Connection where
  stored : Tables
  copy : Option Tables

namespace Connection

def tables (connection : Connection) : Tables :=
  connection.copy.getD connection.stored

/-- Outside a transaction, what a statement comes to is stored at once. -/
def write (connection : Connection) (tables : Tables) : Connection :=
  match connection.copy with
  | some _ => { connection with copy := some tables }
  | none => { connection with stored := tables }

/-- What the server makes of a statement. Only the end of a transaction stores its copy. -/
def take (locale : Locale) (connection : Connection) : Statement → Except Rejection Connection
  | .begin => .ok { connection with copy := some connection.tables }
  | .commit | .finish => .ok { stored := connection.tables, copy := none }
  | statement => (statement.apply locale connection.tables).map connection.write

end Connection

/-- A server: the tables that it holds, the statements it rejects, and how it compares names. -/
structure Database where
  tables : Tables
  refusals : Refusals
  locale : Locale

namespace Database

def empty : Database :=
  ⟨.empty, .none, .plain⟩

def rolesByName (database : Database) : List RoleRow :=
  database.locale.order database.tables.roles

def connect (database : Database) : Connection :=
  ⟨database.tables, none⟩

/-- Sends statements one after the other, the first of them at a place of the transaction, up to the first
that is rejected. -/
def execute (database : Database) (place : Nat) (connection : Connection) :
    List Statement → Except ServiceError Unit × Connection
  | [] => (.ok (), connection)
  | statement :: rest =>
      match database.refusals place statement.kind with
      | some code => (.error (statement.failure (.code code)), connection)
      | none =>
          match connection.take database.locale statement with
          | .error rejection => (.error (statement.failure rejection), connection)
          | .ok next => database.execute (place + 1) next rest

/-- Statements that write, on a connection of their own. A copy that is not committed is lost with it. -/
def transact (database : Database) (statements : List Statement) :
    Except ServiceError Unit × Database :=
  let (outcome, connection) := database.execute 0 database.connect statements
  (outcome, { database with tables := connection.stored })

def read (database : Database) (place : Nat) (connection : Connection) (statements : List Statement) :
    Except ServiceError Connection :=
  match database.execute place connection statements with
  | (.ok (), next) => .ok next
  | (.error error, _) => .error error

end Database

end Rolebook
