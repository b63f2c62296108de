import Rolebook.Draft
import Rolebook.Json
import Rolebook.Service.Reconciliation
import Rolebook.Session

/-!
The JSON forms in which roles, rules, decisions, sessions and updates are sent and stored. Fields of a
rule come in the order of their names, rules in the order of their scopes.
-/

namespace Rolebook

def FieldRule.json (entry : FieldRule) : Json :=
  .object [("field_name", .text entry.field), ("access_level", .text entry.level.name)]

namespace Rule

def json (rule : Rule) : Json :=
  .object [("scope", .text rule.scope.name), ("access_level", .text rule.level.name),
    ("fields", .array (rule.fieldRules.map FieldRule.json))]

def plainJson (rule : Rule) : Json :=
  .object [("scope", .text rule.scope.name), ("access_level", .text rule.level.name),
    ("field_rules", .object (rule.fieldRules.map fun entry => (entry.field, .text entry.level.name)))]

end Rule

namespace RuleSet

def json (set : RuleSet) : Json :=
  .array (set.toList.map Rule.json)

def plainJson (set : RuleSet) : Json :=
  .object [("rules", .object (set.toList.map fun rule => (rule.scope.name, rule.plainJson)))]

end RuleSet

def Scope.listJson (scopes : List Scope) : Json :=
  .texts (scopes.map Scope.name)

def Role.json (role : Role) : Json :=
  .object [("role_id", .text role.id.text), ("name", .text role.name),
    ("description", .ofText? role.description), ("is_super", .bool role.isSuper),
    ("rules", role.rules.json)]

def NewRole.json (role : NewRole) : Json :=
  .object [("name", .text role.name), ("description", .ofText? role.description),
    ("is_super", .bool role.isSuper), ("rules", role.rules.json)]

def Update.json (update : Update) : Json :=
  .object [("role", update.role.json), ("changed_scopes", Scope.listJson update.changed)]

namespace Decision

def json (decision : Decision) : Json :=
  .object [("allowed", .bool decision.allowed), ("effective_level", .text decision.level.name),
    ("field_restrictions",
      match decision.restricted with
      | some fields => .texts fields
      | none => .null)]

/-- A decision as the answer to a check: what was asked is repeated, and no restriction is an empty list. -/
def answerJson (decision : Decision) (scope : Scope) (required : Level) : Json :=
  .object [("scope", .text scope.name), ("required_level", .text required.name),
    ("allowed", .bool decision.allowed), ("effective_level", .text decision.level.name),
    ("restricted_fields", .texts (decision.restricted.getD []))]

end Decision

namespace Session

def storedJson (session : Session) : Json :=
  .object [("actor_id", .text session.actor.text), ("username", .text session.username),
    ("role_id", .text session.role.text)]

def json (session : Session) : Json :=
  .object [("actor_id", .text session.actor.text), ("username", .text session.username),
    ("role_id", .text session.role.text), ("is_empty", .bool session.isEmpty)]

end Session

def ServiceError.json (error : ServiceError) : Json :=
  .object [("message", .text error.message)]

end Rolebook
