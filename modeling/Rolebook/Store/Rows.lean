import Rolebook.Role

/-!
Stored rows and what they say. A rule set is written as one row for each rule and one for each field
level. Reading takes rows in any order: every field row is read first, then each scope row builds its
rule with the field rows of its scope, which it uses up.
-/

namespace Rolebook

structure RoleRow where
  id : RoleId
  name : String
  description : Option String
  isSuper : Bool
  deriving DecidableEq

structure ScopeRow where
  role : RoleId
  scope : String
  level : String
  deriving DecidableEq

structure FieldRow where
  role : RoleId
  scope : String
  field : String
  level : String
  deriving DecidableEq

namespace Rule

def scopeRow (rule : Rule) (role : RoleId) : ScopeRow :=
  ⟨role, rule.scope.name, rule.level.name⟩

def fieldRows (rule : Rule) (role : RoleId) : List FieldRow :=
  rule.fieldRules.map fun entry => ⟨role, rule.scope.name, entry.field, entry.level.name⟩

end Rule

namespace RuleSet

def scopeRows (set : RuleSet) (role : RoleId) : List ScopeRow :=
  set.toList.map fun rule => rule.scopeRow role

def fieldRows (set : RuleSet) (role : RoleId) : List FieldRow :=
  set.toList.flatMap fun rule => rule.fieldRows role

end RuleSet

abbrev FieldGroups := OrderedMap Scope (List FieldRule)

namespace FieldGroups

def ofScope (groups : FieldGroups) (scope : Scope) : List FieldRule :=
  (groups.get? scope).getD []

/-- One more row: its scope is read first, then its level. -/
def add (groups : FieldGroups) (row : FieldRow) : Except AccessError FieldGroups := do
  let scope ← Scope.read row.scope
  let level ← Level.read row.level
  return groups.insert scope (groups.ofScope scope ++ [⟨row.field, level⟩])

end FieldGroups

/-- The rules of the scope rows. A scope that occurs again finds its group of fields gone. -/
def ScopeRow.rules (groups : FieldGroups) : List ScopeRow → Except AccessError (List Rule)
  | [] => .ok []
  | row :: rest => do
      let scope ← Scope.read row.scope
      let level ← Level.read row.level
      let rule ← Rule.build scope level (groups.ofScope scope)
      let others ← rules (groups.erase scope) rest
      return rule :: others

def RuleSet.ofRows? (scopeRows : List ScopeRow) (fieldRows : List FieldRow) :
    Except AccessError RuleSet := do
  let groups ← fieldRows.foldlM FieldGroups.add (.empty : FieldGroups)
  let rules ← ScopeRow.rules groups scopeRows
  RuleSet.ofRules rules

/-- The rule set of a stored role; rows that describe none are corrupt. -/
def RuleSet.ofRows (role : RoleId) (scopeRows : List ScopeRow) (fieldRows : List FieldRow) :
    Except ServiceError RuleSet :=
  (RuleSet.ofRows? scopeRows fieldRows).mapError (.corruptRule role)

def RoleRow.toRole (row : RoleRow) (rules : RuleSet) : Except ServiceError Role :=
  Role.make row.id row.name row.description row.isSuper rules

def RoleRow.read (row : RoleRow) (scopeRows : List ScopeRow) (fieldRows : List FieldRow) :
    Except ServiceError Role := do
  let rules ← RuleSet.ofRows row.id scopeRows fieldRows
  row.toRole rules

def Role.row (role : Role) : RoleRow :=
  ⟨role.id, role.name, role.description, role.isSuper⟩

end Rolebook
